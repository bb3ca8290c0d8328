import BrowserFlow.Action
import BrowserFlow.Sentence.Form
import BrowserFlow.Text.Digit

/-!
# Reading sentences

A step is a Portuguese sentence, and its opening words decide the verb. `Action.ofSentence?` finds
the verb and then reads the rest of the sentence as that verb demands. Opening words are compared
exactly, with case and accents. A sentence fails in one of two ways: no verb opens it, or its
arguments cannot be read; both failures carry the trimmed sentence.
-/

namespace BrowserFlow

open Text Sentence

/-- Why a sentence is no action. -/
inductive SentenceError
  /-- No verb opens the sentence. -/
  | unrecognized (sentence : String)
  /-- The verb's arguments cannot be read. -/
  | malformed (sentence : String)
  deriving DecidableEq, Repr

/-- The failure as messages show it. -/
def SentenceError.message : SentenceError → String
  | .unrecognized sentence => "Unrecognized command: " ++ sentence
  | .malformed sentence => "Could not extract arguments from command: " ++ sentence

namespace Verb

/-- The verbs in the order in which they are looked for. -/
def all : List Verb := [
  .navigate, .goBack, .reload, .wait, .click, .fill, .select, .check, .uncheck, .keyPress,
  .scroll, .verify, .screenshot, .captureLogs, .extract]

/-- The words that open a sentence with the verb. -/
def opening : Verb → String
  | .navigate => "Vá para"
  | .goBack => "Volte"
  | .reload => "Atualize"
  | .wait => "Aguarde"
  | .click => "Clique"
  | .fill => "Digite"
  | .select => "Selecione"
  | .check => "Marque"
  | .uncheck => "Desmarque"
  | .keyPress => "Pressione"
  | .scroll => "Role"
  | .verify => "Verifique"
  | .screenshot => "Capture screenshot"
  | .captureLogs => "Capture os logs"
  | .extract => "Extraia"

/-- The verb that opens a sentence. -/
def ofSentence? (s : List Char) : Option Verb :=
  all.find? fun verb => (after? verb.opening.toList s).isSome

end Verb

namespace Sentence

/-- What a sentence says after its opening words, without surrounding blanks and quotes. -/
def argument (verb : Verb) (s : List Char) : List Char :=
  trim (trimChar '"' (trim (s.drop verb.opening.toList.length)))

/-- Opening an address: the argument, which must not be empty. -/
def navigate? (s : List Char) : Option Action :=
  let url := argument .navigate s
  if url.isEmpty then none else some (.navigate (String.ofList url))

/-- A number of seconds in milliseconds, at most what 64 bits hold. -/
def milliseconds (seconds : Nat) : UInt64 :=
  UInt64.ofNat (min (seconds * 1000) (UInt64.size - 1))

/-- Waiting: the first run of decimal digits counts seconds, and without one it is one second. The
run must consist of ASCII digits and fit in 64 bits. -/
def wait? (s : List Char) : Option Action :=
  let run := (s.dropWhile (!isDecimalDigit ·)).takeWhile isDecimalDigit
  if run.isEmpty then some (.wait (milliseconds 1))
  else
    match natural? run with
    | some seconds => if seconds < UInt64.size then some (.wait (milliseconds seconds)) else none
    | none => none

/-- How a click names its element. -/
def clickForm : Form := [
  .exactly "Clique ", .anyOf ["no ", "na ", "em "],
  .anyOf ["botão ", "link ", "aba ", "elemento ", "checkbox "], .quotation]

/-- How a field is filled in. -/
def fillForm : Form := [
  .exactly "Digite ", .quotation, .anyOf [" no ", " na ", " em "],
  .anyOf ["campo ", "input ", "textarea ", "caixa "], .quotation]

/-- How an option is chosen. -/
def selectForm : Form := [
  .exactly "Selecione ", .quotation, .anyOf [" no ", " na ", " em ", " do "],
  .anyOf ["dropdown ", "select ", "campo ", "seletor "], .quotation]

/-- How a box is named, for ticking and for unticking. -/
def checkboxForm : Form := [
  .anyOf ["Marque ", "Desmarque "], .anyOf ["a ", "o "], .anyOf ["checkbox ", "caixa "],
  .quotation]

/-- How an element to scroll to is named. -/
def scrollForm : Form := [
  .exactly "Role até ", .anyOf ["o ", "a "],
  .anyOf ["elemento ", "seção ", "secção ", "div ", "tabela "], .quotation]

/-- How an element to read is named. -/
def extractForm : Form := [
  .exactly "Extraia o texto ", .anyOf ["do ", "da "], .exactly "elemento ", .quotation]

/-- The single quoted text of a form. -/
def one? (form : Form) (s : List Char) : Option String :=
  match form.read? s with
  | some [text] => some text
  | _ => none

/-- The two quoted texts of a form. -/
def two? (form : Form) (s : List Char) : Option (String × String) :=
  match form.read? s with
  | some [first, second] => some (first, second)
  | _ => none

/-- Whether a text ends here, but for one double quote and blanks. -/
def endsQuoted (s : List Char) : Bool :=
  match s with
  | '"' :: rest => rest.all isBlank
  | _ => s.all isBlank

/-- The shortest run of characters other than double quotes, in addition to `taken`, after which
the text ends, but for one double quote and blanks. -/
def keyBody? : (taken s : List Char) → Option (List Char)
  | _, [] => none
  | taken, c :: s =>
    if c == '"' then none
    else if endsQuoted s then some (taken ++ [c])
    else keyBody? (taken ++ [c]) s

/-- A key with or without a double quote in front; the quote is left out if it can be. -/
def key? (s : List Char) : Option (List Char) :=
  match s with
  | '"' :: rest => keyBody? [] rest <|> keyBody? [] s
  | _ => keyBody? [] s

/-- What `read` finds after a run of one or more blanks, the longest run being tried first. -/
def afterBlanks? {α : Type} (read : List Char → Option α) : List Char → Option α
  | [] => none
  | c :: s => if isBlank c then afterBlanks? read s <|> read s else none

/-- A key after the words "a tecla", or without them if that does not work. -/
def keyPhrase? (s : List Char) : Option (List Char) :=
  (after? "a tecla".toList s).bind (afterBlanks? key?) <|> key? s

/-- Pressing a key. -/
def keyPress? (s : List Char) : Option Action :=
  (after? Verb.keyPress.opening.toList s).bind (afterBlanks? keyPhrase?)
    |>.map fun key => .keyPress (String.ofList key)

/-- Scrolling: to an element if the sentence says "até" anywhere, else to the bottom. -/
def scroll? (s : List Char) : Option Action :=
  if occursIn "até".toList s then
    (one? scrollForm s).map fun label => .scroll (some (Target.ofLabel label))
  else some (.scroll none)

/-- How a title is asserted. -/
def titleForm (verb : String) : Form := [
  .exactly "Verifique se o ", .anyOf ["título ", "title "], .exactly verb, .exactly " ",
  .quotation]

/-- How an address is asserted. -/
def urlForm (verb : String) : Form := [
  .exactly "Verifique se a URL ", .exactly verb, .exactly " ", .quotation]

/-- How an element of an assertion is named, before what is asserted of it. -/
def elementForm (rest : Form) : Form := [
  .exactly "Verifique se ", .anyOf ["o ", "a "], .anyOf ["elemento ", "element "], .quotation,
  .exactly " "] ++ rest

/-- How a console message is asserted. -/
def logForm : Form := [
  .exactly "Verifique se existe ", .anyOf ["o ", "um "], .exactly "log ", .quotation]

/-- An assertion about the title. -/
def title? (s : List Char) : Option Assertion :=
  ((one? (titleForm "é") s).map (.title .equals)) <|>
    (one? (titleForm "contém") s).map (.title .contains)

/-- An assertion about the address. -/
def url? (s : List Char) : Option Assertion :=
  ((one? (urlForm "é") s).map (.url .equals)) <|>
    (one? (urlForm "contém") s).map (.url .contains)

/-- An assertion about an element. -/
def element? (s : List Char) : Option Assertion :=
  ((one? (elementForm [.exactly "está visível"]) s).map fun label =>
      .element (Target.ofLabel label) .visible) <|>
    ((one? (elementForm [.exactly "existe"]) s).map fun label =>
      .element (Target.ofLabel label) .present) <|>
    (two? (elementForm [.exactly "contém ", .quotation]) s).map fun (label, text) =>
      .element (Target.ofLabel label) (.containsText text)

/-- An assertion about the console. -/
def log? (s : List Char) : Option Assertion :=
  (one? logForm s).map .log

/-- The families of assertions: the words that announce one, and how it is read. A sentence
belongs to the first family one of whose words it contains. -/
def families : List (List String × (List Char → Option Assertion)) := [
  (["título", "title"], title?), (["elemento", "element"], element?), (["URL"], url?),
  (["log"], log?)]

/-- An assertion of the family that the sentence belongs to. -/
def assertion? (s : List Char) : Option Assertion :=
  (families.find? fun family => family.1.any fun word => occursIn word.toList s).bind
    fun family => family.2 s

/-- Reading the text of an element, or announcing that something is to be read. -/
def extract (s : List Char) : Action :=
  .extract (String.ofList (argument .extract s)) ((one? extractForm s).map Target.ofLabel)

/-- The action of a sentence that opens with the verb, if its arguments can be read. -/
def action? (verb : Verb) (s : List Char) : Option Action :=
  match verb with
  | .navigate => navigate? s
  | .goBack => some .goBack
  | .reload => some .reload
  | .wait => wait? s
  | .click => (one? clickForm s).map fun label => .click (Target.ofLabel label)
  | .fill => (two? fillForm s).map fun (value, label) => .fill (Target.ofFieldLabel label) value
  | .select =>
    (two? selectForm s).map fun (value, label) => .select (Target.ofFieldLabel label) value
  | .check => (one? checkboxForm s).map fun label => .check (Target.ofLabel label)
  | .uncheck => (one? checkboxForm s).map fun label => .uncheck (Target.ofLabel label)
  | .keyPress => keyPress? s
  | .scroll => scroll? s
  | .verify => (assertion? s).map .verify
  | .screenshot => some .screenshot
  | .captureLogs => some .captureLogs
  | .extract => some (extract s)

end Sentence

/-- The action that a sentence asks for. -/
def Action.ofSentence (sentence : String) : Except SentenceError Action :=
  let s := trim sentence.toList
  match Verb.ofSentence? s with
  | none => .error (.unrecognized (String.ofList s))
  | some verb =>
    match action? verb s with
    | none => .error (.malformed (String.ofList s))
    | some action => .ok action

end BrowserFlow
