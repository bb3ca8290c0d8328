import BrowserFlow.DecodeError
import BrowserFlow.Json.Text

/-!
# Decoding JSON

A record is decoded from an object by the names of its fields, or from a list by their order. A
decoder takes the members as they come: each is looked at once, and the first that is wrong
decides the error. Unknown members are passed over. Two details depend on whether the value is
still a text that is read from left to right, or already a tree: how a surplus item of a list is
reported, and what else than a name may stand for a named constant.
-/

namespace BrowserFlow.Decode

open Text JsonText

/-- How the value reaches the decoder. -/
inductive Origin
  /-- As a text, read from left to right. -/
  | text
  /-- As a tree. -/
  | tree
  deriving DecidableEq, Repr

/-- A decoder of values. -/
abbrev Decoder (α : Type) := JsonText → Except DecodeError α

/-- The characters of a string. -/
def spelled : Spelling → Except DecodeError String
  | .ok s => .ok s
  | .error fault => .error (.unreadable fault.message)

/-- What a value is, to say that it was not expected. -/
def found : Decoder Found
  | .null => .ok .null
  | .bool b => .ok (.bool b)
  | .number x =>
    match x.value? with
    | some (.natural n) => .ok (.integer n)
    | some (.negative n) => .ok (.integer (-n))
    | some (.binary negative size) => .ok (.float (binaryText negative size))
    | none => .error (.unreadable "number out of range")
  | .string s => (spelled s).map .string
  | .array _ => .ok .sequence
  | .object _ => .ok .mapping

/-- The error for a value that is not `expected`. -/
def unexpected {α : Type} (value : JsonText) (expected : String) : Except DecodeError α := do
  throw (.wrongType (← found value) expected)

/-- A string. -/
def string : Decoder String
  | .string s => spelled s
  | value => unexpected value "a string"

/-- A whole number below `bound`, the bound of the type that `name` names. -/
def naturalBelow (bound : Nat) (name : String) : Decoder Nat
  | .number x =>
    match x.value? with
    | some (.natural n) =>
      if n < bound then .ok n else .error (.wrongValue (.integer n) name)
    | some (.negative n) => .error (.wrongValue (.integer (-n)) name)
    | some (.binary negative size) =>
      .error (.wrongType (.float (binaryText negative size)) name)
    | none => .error (.unreadable "number out of range")
  | value => unexpected value name

/-- A number of 32 bits. -/
def uint32 : Decoder UInt32 := fun value =>
  (naturalBelow UInt32.size "u32" value).map UInt32.ofNat

/-- A number of 64 bits. -/
def uint64 : Decoder UInt64 := fun value =>
  (naturalBelow UInt64.size "u64" value).map UInt64.ofNat

/-- A value that may be null. -/
def nullable {α : Type} (decode : Decoder α) : Decoder (Option α)
  | .null => .ok none
  | value => (decode value).map some

/-- Every item of a list. -/
def each {α : Type} (decode : Decoder α) : List JsonText → Except DecodeError (List α)
  | [] => .ok []
  | item :: items => do
    let a ← decode item
    let rest ← each decode items
    return a :: rest

/-- A list. -/
def list {α : Type} (decode : Decoder α) : Decoder (List α)
  | .array items => each decode items
  | value => unexpected value "a sequence"

/-! ## Named constants -/

/-- The constant of a name. -/
def constantOf {α : Type} (constants : List (String × α)) (name : String) :
    Except DecodeError α :=
  match constants.find? (·.1 == name) with
  | some (_, value) => .ok value
  | none => .error (.unknownVariant name (constants.map (·.1)))

/-- The empty content of a constant that is written as an object. -/
def noContent : Decoder Unit
  | .null => .ok ()
  | value => unexpected value "unit"

/-- A constant, written as its name or as an object whose one member has that name. -/
def constant {α : Type} (origin : Origin) (constants : List (String × α)) : Decoder α
  | .string s => do constantOf constants (← spelled s)
  | .object [] =>
    match origin with
    | .text => .error (.unreadable "expected value")
    | .tree => .error (.wrongValue .mapping "map with a single key")
  | .object ((key, content) :: others) => do
    if origin = .tree && !others.isEmpty then
      throw (.wrongValue .mapping "map with a single key")
    let value ← constantOf constants (← spelled key)
    noContent content
    if !others.isEmpty then throw (.unreadable "expected value")
    return value
  | value =>
    match origin with
    | .text => .error (.unreadable "expected value")
    | .tree => unexpected value "string or map"

/-! ## Records -/

/-- A field of a record. -/
structure Field where
  /-- Its name. -/
  name : String
  /-- Whether a value can be decoded, and if not, why. -/
  check : JsonText → Except DecodeError Unit
  /-- Whether a list may end before it. -/
  mayBeLeftOut : Bool

/-- A field that is decoded by `decode`. -/
def Field.of {α : Type} (name : String) (decode : Decoder α) : Field :=
  ⟨name, fun value => do let _ ← decode value, false⟩

/-- The form of a record. -/
structure Shape where
  /-- The record's type, as messages show it. -/
  type : String
  /-- Its fields, in order. -/
  fields : List Field

/-- The values of a record's fields. -/
abbrev Members := List (String × JsonText)

/-- The members of an object that are fields; every one is checked as it comes. -/
def fieldsOf (fields : List Field) (seen : Members) :
    List (Spelling × JsonText) → Except DecodeError Members
  | [] => .ok seen
  | (key, value) :: rest => do
    let key ← spelled key
    match fields.find? (·.name == key) with
    | none => fieldsOf fields seen rest
    | some field =>
      if seen.any (·.1 == key) then throw (.duplicateField key)
      field.check value
      fieldsOf fields (seen ++ [(key, value)]) rest

/-- The items of a list taken for the fields in order, the first at `position`. -/
def itemsOf (origin : Origin) (shape : Shape) (total : Nat) :
    (position : Nat) → List Field → List JsonText → Except DecodeError Members
  | _, [], [] => .ok []
  | _, [], _ :: _ =>
    match origin with
    | .text => .error (.unreadable "trailing characters")
    | .tree => .error (.wrongLength total "fewer elements in array")
  | position, field :: fields, [] =>
    if field.mayBeLeftOut then itemsOf origin shape total (position + 1) fields []
    else
      .error (.wrongLength position
        (shape.type ++ " with " ++ toString shape.fields.length ++ " elements"))
  | position, field :: fields, item :: items => do
    field.check item
    let rest ← itemsOf origin shape total (position + 1) fields items
    return (field.name, item) :: rest

/-- The values of a record's fields, from an object or a list. -/
def Shape.members (shape : Shape) (origin : Origin) : Decoder Members
  | .object members => fieldsOf shape.fields [] members
  | .array items => itemsOf origin shape items.length 0 shape.fields items
  | value => unexpected value shape.type

/-- The value of a field, if it was given. -/
def Members.find (members : Members) (name : String) : Option JsonText :=
  (members.find? (·.1 == name)).map (·.2)

/-- A field that must be given. -/
def Members.required {α : Type} (members : Members) (name : String) (decode : Decoder α) :
    Except DecodeError α :=
  match members.find name with
  | some value => decode value
  | none => .error (.missingField name)

/-- A field that may be left out. -/
def Members.optional {α : Type} (members : Members) (name : String) (decode : Decoder α)
    (other : α) : Except DecodeError α :=
  match members.find name with
  | some value => decode value
  | none => .ok other

end BrowserFlow.Decode
