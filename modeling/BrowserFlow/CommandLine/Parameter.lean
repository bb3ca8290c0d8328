import BrowserFlow.Terminal

/-!
# Parameters

What a command takes from the command line: named options with a value or without one, and a
value that is known by its place. Arguments are read from left to right. A value is looked at when
the next argument that is not a value comes, so that an unknown argument right after it is
reported first.
-/

namespace BrowserFlow.CommandLine

/-- Why a text is no value of a parameter. -/
inductive ValueFault
  /-- The text is empty, and that means nothing. -/
  | missing
  /-- The text means nothing, for some reason. -/
  | invalid (reason : String)
  deriving DecidableEq, Repr

/-- What an option does to the options that have been read, of type `α`. -/
inductive Effect (α : Type)
  /-- It asks for help. -/
  | help
  /-- It asks for the program's version. -/
  | version
  /-- It is a switch. -/
  | switch (set : α → α)
  /-- It takes a value, which messages call by a name. -/
  | value (name : String) (set : String → α → Except ValueFault α)

/-- An option. -/
structure Parameter (α : Type) where
  /-- Its name, which stands after two hyphens. -/
  name : String
  /-- Its letter, which stands after one hyphen. -/
  letter : Option Char
  /-- What it does. -/
  effect : Effect α
  /-- What it is for. -/
  help : String

/-- A value that is known by its place. -/
structure Positional (α : Type) where
  /-- What messages call it. -/
  name : String
  /-- What it does. -/
  set : String → α → Except ValueFault α
  /-- What it is for. -/
  help : String

/-- What messages call an option. -/
def Parameter.display {α : Type} (parameter : Parameter α) : String :=
  match parameter.effect with
  | .value name _ => "--" ++ parameter.name ++ " <" ++ name ++ ">"
  | _ => "--" ++ parameter.name

/-- What messages call a value that is known by its place. -/
def Positional.display {α : Type} (positional : Positional α) : String :=
  "<" ++ positional.name ++ ">"

/-- What a command takes. -/
structure Form (α : Type) where
  /-- The options. -/
  parameters : List (Parameter α)
  /-- The value without a name, if there is one. It must be given. -/
  positional : Option (Positional α)

/-! ## Errors -/

/-- Why a command line is refused. -/
inductive UsageError
  /-- There is no such command. -/
  | unknownCommand (name : String)
  /-- There is no place for an argument. -/
  | unexpected (argument : String)
  /-- An option or a place needs a value. -/
  | valueMissing (parameter : String)
  /-- A value means nothing. -/
  | valueInvalid (parameter value reason : String)
  /-- A switch has been given a value. -/
  | valueSurplus (parameter value : String)
  /-- An option has been given twice. -/
  | repeated (parameter : String)
  /-- A value that must be given is not there. -/
  | notProvided (parameter : String)
  deriving DecidableEq, Repr

/-- The error in words. -/
def UsageError.message : UsageError → StyledText
  | .unknownCommand name =>
    [(.plain, "unrecognized subcommand '"), (.yellow, name), (.plain, "'")]
  | .unexpected argument =>
    [(.plain, "unexpected argument '"), (.yellow, argument), (.plain, "' found")]
  | .valueMissing parameter =>
    [(.plain, "a value is required for '"), (.yellow, parameter),
      (.plain, "' but none was supplied")]
  | .valueInvalid parameter value reason =>
    [(.plain, "invalid value '"), (.yellow, value), (.plain, "' for '"), (.bold, parameter),
      (.plain, "': " ++ reason)]
  | .valueSurplus parameter value =>
    [(.plain, "unexpected value '"), (.yellow, value), (.plain, "' for '"), (.bold, parameter),
      (.plain, "' found; no more were expected")]
  | .repeated parameter =>
    [(.plain, "the argument '"), (.yellow, parameter),
      (.plain, "' cannot be used multiple times")]
  | .notProvided parameter =>
    [(.plain, "the following required arguments were not provided:\n  "), (.green, parameter)]

/-- Why the reading of arguments ends before the end. -/
inductive Interrupt
  /-- The arguments are refused. -/
  | refused (error : UsageError)
  /-- Help is wanted. -/
  | help
  /-- The program's version is wanted. -/
  | version
  deriving DecidableEq, Repr

/-! ## Arguments -/

/-- What an argument looks like. -/
inductive Argument
  /-- Two hyphens: only values follow. -/
  | escape
  /-- A name after two hyphens, perhaps with a value after an equals sign. -/
  | name (name : String) (value : Option String)
  /-- Letters after one hyphen; a letter that takes a value takes the rest for it. -/
  | letters (letters : List Char)
  /-- Anything else. -/
  | word
  deriving DecidableEq, Repr

/-- What an argument looks like. -/
def Argument.ofText (text : String) : Argument :=
  match text.toList with
  | ['-', '-'] => .escape
  | '-' :: '-' :: rest =>
    let value := match rest.dropWhile (· != '=') with
      | _ :: value => some (String.ofList value)
      | [] => none
    .name (String.ofList (rest.takeWhile (· != '='))) value
  | '-' :: c :: rest => .letters (c :: rest)
  | _ => .word

/-! ## Reading -/

/-- A value on its way to a parameter. -/
structure Pending (α : Type) where
  /-- What messages call the parameter. -/
  display : String
  /-- What the value does. -/
  set : String → α → Except ValueFault α
  /-- The value, once it has come. -/
  value : Option String

/-- How far the reading of arguments has come. -/
structure Reading (α : Type) where
  /-- The options so far. -/
  options : α
  /-- What has been given so far. -/
  given : List String := []
  /-- A value that has not been looked at. -/
  pending : Option (Pending α) := none
  /-- Whether the value without a name has come. -/
  placed : Bool := false

namespace Reading

variable {α : Type}

/-- Notes that a parameter is given, which may happen only once. -/
def give (reading : Reading α) (display : String) : Except Interrupt (Reading α) :=
  if reading.given.contains display then .error (.refused (.repeated display))
  else .ok { reading with given := display :: reading.given }

/-- Looks at a value. -/
def accept (reading : Reading α) (pending : Pending α) : Except Interrupt (Reading α) :=
  match pending.value with
  | none => .error (.refused (.valueMissing pending.display))
  | some value => do
    let reading ← reading.give pending.display
    match pending.set value reading.options with
    | .ok options => return { reading with options }
    | .error .missing => throw (.refused (.valueMissing pending.display))
    | .error (.invalid reason) =>
      throw (.refused (.valueInvalid pending.display value reason))

/-- Looks at the value that has not been looked at. -/
def settle (reading : Reading α) : Except Interrupt (Reading α) :=
  match reading.pending with
  | none => .ok reading
  | some pending => { reading with pending := none }.accept pending

/-- Takes an option, perhaps with its value. -/
def take (reading : Reading α) (parameter : Parameter α) (value : Option String) :
    Except Interrupt (Reading α) := do
  let reading ← reading.settle
  match parameter.effect with
  | .help => throw .help
  | .version => throw .version
  | .switch set =>
    let reading ← reading.give parameter.display
    return { reading with options := set reading.options }
  | .value _ set =>
    match value with
    | some _ => reading.accept ⟨parameter.display, set, value⟩
    | none => return { reading with pending := some ⟨parameter.display, set, none⟩ }

/-- Takes an option that is given by its name. Only an option that takes a value may have one. -/
def takeName (reading : Reading α) (form : Form α) (name : String) (value : Option String) :
    Except Interrupt (Reading α) :=
  match form.parameters.find? (·.name == name) with
  | none => .error (.refused (.unexpected ("--" ++ name)))
  | some parameter =>
    match parameter.effect, value with
    | .value _ _, _ | _, none => reading.take parameter value
    | _, some surplus => .error (.refused (.valueSurplus parameter.display surplus))

/-- Takes options that are given by their letters. -/
def takeLetters (reading : Reading α) (form : Form α) :
    List Char → Except Interrupt (Reading α)
  | [] => .ok reading
  | letter :: rest =>
    match form.parameters.find? (·.letter == some letter) with
    | none => .error (.refused (.unexpected ("-" ++ String.singleton letter)))
    | some parameter =>
      match parameter.effect, rest with
      | .value _ _, [] => reading.take parameter none
      | .value _ _, '=' :: value => reading.take parameter (some (String.ofList value))
      | .value _ _, value => reading.take parameter (some (String.ofList value))
      | _, rest => do takeLetters (← reading.take parameter none) form rest

/-- Takes an argument that is no option and no option's value. -/
def takeWord (reading : Reading α) (form : Form α) (word : String) :
    Except Interrupt (Reading α) :=
  match form.positional with
  | none => .error (.refused (.unexpected word))
  | some positional =>
    if reading.placed then .error (.refused (.unexpected word))
    else do
      let reading ← reading.settle
      let pending := ⟨positional.display, positional.set, some word⟩
      return { reading with placed := true, pending := some pending }

/-- Takes an argument that may be the value an option waits for. -/
def takeValueOrWord (reading : Reading α) (form : Form α) (word : String) :
    Except Interrupt (Reading α) :=
  match reading.pending with
  | some ⟨display, set, none⟩ =>
    .ok { reading with pending := some ⟨display, set, some word⟩ }
  | _ => reading.takeWord form word

/-- Ends the reading: every value is looked at, and what must be given has to be there. -/
def close (reading : Reading α) (form : Form α) : Except Interrupt α := do
  let reading ← reading.settle
  match form.positional with
  | some positional =>
    if reading.placed then return reading.options
    else throw (.refused (.notProvided positional.display))
  | none => return reading.options

/-- Reads the arguments. After two hyphens there are no options any more. -/
def takeAll (reading : Reading α) (form : Form α) (escaped : Bool) :
    List String → Except Interrupt α
  | [] => reading.close form
  | argument :: rest =>
    if escaped then do takeAll (← reading.takeWord form argument) form true rest
    else
      match Argument.ofText argument with
      | .escape => takeAll reading form true rest
      | .name name value => do takeAll (← reading.takeName form name value) form false rest
      | .letters letters => do takeAll (← reading.takeLetters form letters) form false rest
      | .word => do takeAll (← reading.takeValueOrWord form argument) form false rest

end Reading

/-- The options that some arguments give. -/
def Form.read {α : Type} (form : Form α) (standard : α) (arguments : List String) :
    Except Interrupt α :=
  Reading.takeAll { options := standard } form false arguments

end BrowserFlow.CommandLine
