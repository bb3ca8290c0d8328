import BrowserFlow.DecodeError
import BrowserFlow.Number.Decimal
import BrowserFlow.Yaml.Node

/-!
# Values of scalars

What a scalar stands for. Without a tag, a plain scalar may be null, a truth value or a number,
and every other scalar is a text. Whole numbers may be hexadecimal, octal or binary; a number that
begins with a superfluous zero is a text. The tags of the core schema demand their type.
-/

namespace BrowserFlow.Yaml

open Text Number

/-- Whether a text is null. -/
def isNull (s : String) : Bool :=
  ["null", "Null", "NULL", "~"].contains s

/-- The truth value that a text stands for. -/
def bool? (s : String) : Option Bool :=
  if ["true", "True", "TRUE"].contains s then some true
  else if ["false", "False", "FALSE"].contains s then some false
  else none

/-! ## Whole numbers -/

/-- The number that digits denote in a base. -/
def digits? (base : Nat) (s : List Char) : Option Nat :=
  let values := s.filterMap fun c => (hexValue? c).filter (· < base)
  if s.isEmpty || values.length != s.length then none
  else some (values.foldl (fun n d => base * n + d) 0)

/-- The beginnings of numbers in other bases. -/
def bases : List (String × Nat) := [("0x", 16), ("0o", 8), ("0b", 2)]

/-- The base that the beginning of a number names, and the digits after it. -/
def base? (s : List Char) : Option (Nat × List Char) :=
  bases.findSome? fun (beginning, base) => (after? beginning.toList s).map (base, ·)

/-- Whether digits begin with a superfluous zero. -/
def isPadded (s : List Char) : Bool :=
  let s := if s.head? == some '-' || s.head? == some '+' then s.drop 1 else s
  1 < s.length && s.head? == some '0' && s.all isAsciiDigit

/-- A number without a minus sign. -/
def unsigned? (s : List Char) : Option Nat :=
  let t := if s.head? == some '+' then s.drop 1 else s
  match base? t with
  | some (base, digits) => digits? base digits
  | none => if isPadded s then none else digits? 10 t

/-- The size of a number with a minus sign. -/
def negative? (s : List Char) : Option Nat :=
  match s with
  | '-' :: t =>
    match base? t with
    | some (base, digits) => digits? base digits
    | none => if isPadded s then none else digits? 10 t
  | _ => none

/-- The whole number that a text stands for, if it fits in 128 bits. -/
def integer? (s : List Char) : Option Found :=
  match unsigned? s with
  | some n =>
    if n < UInt64.size then some (.integer n)
    else if n < Nat.pow 2 128 then some (.wideInteger n "u128")
    else none
  | none =>
    match negative? s with
    | some n =>
      if n ≤ Nat.pow 2 63 then some (.integer (-n))
      else if n ≤ Nat.pow 2 127 then some (.wideInteger (-n) "i128")
      else none
    | none => none

/-! ## Other numbers -/

/-- A decimal with any number of places: its digits and the power of ten of the last. -/
def decimal? (s : List Char) : Option (List Char × Int) :=
  let whole := s.takeWhile isAsciiDigit
  let s := s.dropWhile isAsciiDigit
  let (fraction, s) := match s with
    | '.' :: s => (s.takeWhile isAsciiDigit, s.dropWhile isAsciiDigit)
    | _ => ([], s)
  if whole.isEmpty && fraction.isEmpty then none
  else
    match s with
    | [] => some (whole ++ fraction, -fraction.length)
    | c :: s =>
      if c != 'e' && c != 'E' then none
      else
        let (below, digits) := match s with
          | '-' :: s => (true, s)
          | '+' :: s => (false, s)
          | _ => (false, s)
        match natural? digits with
        | none => none
        | some n =>
          some (whole ++ fraction, (if below then -(n : Int) else n) - fraction.length)

/-- The size of a decimal in the binary format, if the format can hold it. A power of ten far
beyond its reach is not computed. -/
def size? (digits : List Char) (places : Int) : Option Binary64 :=
  let n := numberOf digits
  if n == 0 then some .zero
  else
    let lead := places + Decimal.width n
    if 400 < lead then none
    else if lead < -400 then some .zero
    else
      let x := Binary64.ofRatio (n * Nat.pow 10 places.toNat) (Nat.pow 10 (-places).toNat)
      if x.isFinite then some x else none

/-- The text of the number that a text stands for, with at least one place. -/
def float? (s : List Char) : Option String :=
  let signed := s.head? == some '-' || s.head? == some '+'
  let negative := s.head? == some '-'
  let t := if signed then s.drop 1 else s
  let sign := if negative then "-" else ""
  if [".inf", ".Inf", ".INF"].contains (String.ofList t) then some (sign ++ "inf")
  else if !signed && [".nan", ".NaN", ".NAN"].contains (String.ofList t) then some "NaN"
  else
    match decimal? t with
    | none => none
    | some (digits, places) =>
      (size? digits places).map fun x => sign ++ (Decimal.shortest x).withPoint

/-! ## Scalars -/

/-- What a plain scalar without a tag stands for. -/
def plainValue (text : String) : Found :=
  let s := text.toList
  if s.isEmpty || isNull text then .unit
  else
    match bool? text, integer? s with
    | some b, _ => .bool b
    | none, some n => n
    | none, none =>
      if isPadded s then .string text
      else
        match float? s with
        | some x => .float x
        | none => .string text

/-- A tag of the core schema. -/
def coreTag (name : String) : Address :=
  Address.ofText ("tag:yaml.org,2002:" ++ name)

/-- A value that a tag of the core schema demands. -/
def demanded (text expected : String) : Option Found → Except DecodeError Found
  | some found => .ok found
  | none => .error (.wrongValue (.string text) expected)

/-- What a scalar stands for. -/
def Scalar.value (scalar : Scalar) : Except DecodeError Found :=
  let text := scalar.text
  let isPlain := scalar.style == .plain
  match scalar.tag with
  | none => .ok (if isPlain then plainValue text else .string text)
  | some tag =>
    if tag == coreTag "bool" then demanded text "a boolean" ((bool? text).map .bool)
    else if tag == coreTag "int" then demanded text "an integer" (integer? text.toList)
    else if tag == coreTag "float" then
      demanded text "a float" ((float? text.toList).map .float)
    else if tag == coreTag "null" then
      demanded text "null" (if isNull text then some .unit else none)
    else if isPlain && tag.isOwn then .ok (plainValue text)
    else .ok (.string text)

end BrowserFlow.Yaml
