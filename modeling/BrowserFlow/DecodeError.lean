import BrowserFlow.Text.Quoted

/-!
# Errors of decoding

What can be wrong with a well-formed text that does not have the shape asked for. Each cause is a
constructor, and `DecodeError.message` is the one place where it is put into words.
-/

namespace BrowserFlow

open Text

/-- What was found where something else was expected. -/
inductive Found
  /-- The null value of JSON. -/
  | null
  /-- The null value of YAML. -/
  | unit
  /-- A truth value. -/
  | bool (value : Bool)
  /-- A whole number that fits in 64 bits. -/
  | integer (value : Int)
  /-- A whole number that needs up to 128 bits; `type` names the type that holds it. -/
  | wideInteger (value : Int) (type : String)
  /-- Another number, by its text. -/
  | float (text : String)
  /-- A text. -/
  | string (value : String)
  /-- A list. -/
  | sequence
  /-- A mapping. -/
  | mapping
  deriving DecidableEq, Repr

/-- What was found, in words. -/
def Found.describe : Found → String
  | .null => "null"
  | .unit => "unit value"
  | .bool b => "boolean `" ++ (if b then "true" else "false") ++ "`"
  | .integer n => "integer `" ++ toString n ++ "`"
  | .wideInteger n type => "integer `" ++ toString n ++ "` as " ++ type
  | .float text => "floating point `" ++ text ++ "`"
  | .string s => "string " ++ quoted s
  | .sequence => "sequence"
  | .mapping => "map"

/-- Why a value does not have the shape asked for. -/
inductive DecodeError
  /-- A value of another type. -/
  | wrongType (found : Found) (expected : String)
  /-- A value of the right type that is not allowed. -/
  | wrongValue (found : Found) (expected : String)
  /-- A name that is none of those allowed. -/
  | unknownVariant (name : String) (allowed : List String)
  /-- A field given twice. -/
  | duplicateField (name : String)
  /-- A field not given. -/
  | missingField (name : String)
  /-- A list of another length. -/
  | wrongLength (length : Nat) (expected : String)
  /-- A value that cannot be read at all. -/
  | unreadable (reason : String)
  deriving DecidableEq, Repr

namespace DecodeError

/-- A name between backquotes. -/
def backquoted (name : String) : String :=
  "`" ++ name ++ "`"

/-- The names allowed, in words. -/
def oneOf : List String → String
  | [] => "there are no variants"
  | [a] => "expected " ++ backquoted a
  | [a, b] => "expected " ++ backquoted a ++ " or " ++ backquoted b
  | names => "expected one of " ++ ", ".intercalate (names.map backquoted)

/-- The error in words. -/
def message : DecodeError → String
  | wrongType found expected => "invalid type: " ++ found.describe ++ ", expected " ++ expected
  | wrongValue found expected => "invalid value: " ++ found.describe ++ ", expected " ++ expected
  | unknownVariant name allowed => "unknown variant " ++ backquoted name ++ ", " ++ oneOf allowed
  | duplicateField name => "duplicate field " ++ backquoted name
  | missingField name => "missing field " ++ backquoted name
  | wrongLength length expected =>
    "invalid length " ++ toString length ++ ", expected " ++ expected
  | unreadable reason => reason

end DecodeError

end BrowserFlow
