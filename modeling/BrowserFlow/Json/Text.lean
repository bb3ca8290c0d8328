import BrowserFlow.Number.Decimal
import BrowserFlow.Text.Digit
import BrowserFlow.Text.Search

/-!
# JSON texts

A JSON text as it is written: numbers keep their spelling, and a string may have an escape that
names no character, which is a fault only for those who ask for the string. `JsonText.read?` accepts
exactly the JSON texts, of any depth, and `Numeral.value?` says which number a spelling stands for.
A number that is not whole, or does not fit in 64 bits, becomes a binary fraction: its leading
digits, as many as fit in 64 bits, are rounded first and then scaled by a power of ten.
-/

namespace BrowserFlow

open Text Number

/-- A number as it is spelled. -/
structure Numeral where
  /-- Whether a minus sign stands in front. -/
  negative : Bool
  /-- The digits before the point. -/
  whole : List Char
  /-- The digits after the point; none if there is no point. -/
  fraction : List Char
  /-- The power of ten, if there is one: whether it is negative, and its digits. -/
  exponent : Option (Bool × List Char)
  deriving DecidableEq, Repr

/-- Why the escapes of a string name no character. -/
inductive EscapeFault
  /-- The first half of a surrogate pair is not followed by an escape. -/
  | unfinishedPair
  /-- One half of a surrogate pair stands without the other. -/
  | loneSurrogate
  deriving DecidableEq, Repr

/-- The fault in words. -/
def EscapeFault.message : EscapeFault → String
  | .unfinishedPair => "unexpected end of hex escape"
  | .loneSurrogate => "lone leading surrogate in hex escape"

/-- A string as it is spelled: its characters, or why there are none. -/
abbrev Spelling := Except EscapeFault String

/-- A JSON text. -/
inductive JsonText
  /-- The null value. -/
  | null
  /-- A truth value. -/
  | bool (value : Bool)
  /-- A number. -/
  | number (value : Numeral)
  /-- A string. -/
  | string (value : Spelling)
  /-- A list. -/
  | array (items : List JsonText)
  /-- An object: its members, in order. -/
  | object (members : List (Spelling × JsonText))
  deriving Inhabited

/-! ## Numbers -/

/-- The number that a numeral stands for. -/
inductive Numeral.Value
  /-- A whole number below `2 ^ 64`. -/
  | natural (n : Nat)
  /-- The opposite of a number from 1 to `Nat.pow 2 63`. -/
  | negative (n : Nat)
  /-- Any other number: whether it is negative, and its size. -/
  | binary (negative : Bool) (size : Binary64)
  deriving DecidableEq, Repr

namespace Numeral

/-- The greatest number of 64 bits. -/
def max64 : Nat := UInt64.size - 1

/-- Digits read one by one after `n` as long as the number stays within 64 bits, with the digits
that remain. -/
def digitsWithin (n : Nat) : List Char → Nat × List Char
  | [] => (n, [])
  | c :: cs =>
    let m := 10 * n + digitValue c
    if m ≤ max64 then digitsWithin m cs else (n, c :: cs)

/-- `x` divided by `Nat.pow 10 308` until `places` is at least -308, and then by the rest. -/
def scaleDown : (fuel : Nat) → Binary64 → (places : Nat) → Binary64
  | 0, x, _ => x
  | fuel + 1, x, places =>
    if places ≤ 308 then x.div (.ofNat (Nat.pow 10 places))
    else if x.mantissa == 0 then x
    else scaleDown fuel (x.div (.ofNat (Nat.pow 10 308))) (places - 308)

/-- `n * 10 ^ places` in binary, unless it is too great. -/
def scale? (n : Nat) (places : Int) : Option Binary64 :=
  let x := Binary64.ofNat n
  if places < 0 then some (scaleDown 8 x places.natAbs)
  else if n == 0 then some .zero
  else if 308 < places then none
  else
    let y := x.mul (.ofNat (Nat.pow 10 places.toNat))
    if y.isFinite then some y else none

/-- The size of a numeral with a point, a power of ten or too many digits. -/
def size? (x : Numeral) : Option Binary64 :=
  let (n, dropped) := digitsWithin 0 x.whole
  let (n, ignored) := digitsWithin n x.fraction
  let places : Int := dropped.length - (x.fraction.length - ignored.length)
  match x.exponent with
  | none => scale? n places
  | some (below, digits) =>
    let power := numberOf digits
    if Nat.pow 2 31 ≤ power then
      if n == 0 || below then some .zero else none
    else scale? n (if below then places - power else places + power)

/-- The number that a numeral stands for, unless it is too great. -/
def value? (x : Numeral) : Option Value :=
  let (n, dropped) := digitsWithin 0 x.whole
  if dropped.isEmpty && x.fraction.isEmpty && x.exponent.isNone then
    if !x.negative then some (.natural n)
    else if 1 ≤ n && n ≤ Nat.pow 2 63 then some (.negative n)
    else some (.binary true (.ofNat n))
  else x.size?.map (.binary x.negative)

end Numeral

namespace JsonText

/-- The text of a number that is not whole: written out when its first digit stands between the
fifth place after the point and the sixteenth before it, and else with a power of ten. -/
def binaryText (negative : Bool) (size : Binary64) : String :=
  let d := Decimal.shortest size
  let lead := d.places + Decimal.width d.digits - 1
  (if negative then "-" else "") ++
    if -5 ≤ lead && lead ≤ 15 then d.withPoint else d.scientific

/-! ## Strings -/

/-- One element of a string literal: a character, or the code of an escape. -/
inductive StringPart
  /-- A character. -/
  | char (c : Char)
  /-- A code of 16 bits. -/
  | code (n : Nat)
  deriving DecidableEq, Repr

/-- The code of four hexadecimal digits, and what follows them. -/
def hexCode? : List Char → Option (Nat × List Char)
  | a :: b :: c :: d :: s => do
    let a ← hexValue? a
    let b ← hexValue? b
    let c ← hexValue? c
    let d ← hexValue? d
    return (((a * 16 + b) * 16 + c) * 16 + d, s)
  | _ => none

/-- What the letter after a backslash stands for. -/
def escapeChar? (c : Char) : Option Char :=
  if c == '"' || c == '\\' || c == '/' then some c
  else if c == 'b' then some (Char.ofNat 8)
  else if c == 'f' then some (Char.ofNat 12)
  else if c == 'n' then some '\n'
  else if c == 'r' then some '\r'
  else if c == 't' then some '\t'
  else none

/-- The parts of a string literal after its opening quote, and what follows its closing quote. -/
def stringParts? : (fuel : Nat) → List Char → Option (List StringPart × List Char)
  | 0, _ => none
  | _ + 1, [] => none
  | fuel + 1, c :: s =>
    if c == '"' then some ([], s)
    else if c == '\\' then
      match s with
      | [] => none
      | e :: s =>
        if e == 'u' then do
          let (n, s) ← hexCode? s
          let (parts, s) ← stringParts? fuel s
          return (.code n :: parts, s)
        else do
          let e ← escapeChar? e
          let (parts, s) ← stringParts? fuel s
          return (.char e :: parts, s)
    else if c.toNat < 32 then none
    else do
      let (parts, s) ← stringParts? fuel s
      return (.char c :: parts, s)

/-- Whether a code is the first half of a surrogate pair. -/
def isLeading (n : Nat) : Bool := 0xD800 ≤ n && n ≤ 0xDBFF

/-- Whether a code is the second half of a surrogate pair. -/
def isTrailing (n : Nat) : Bool := 0xDC00 ≤ n && n ≤ 0xDFFF

/-- The characters of a string literal, surrogate pairs joined. -/
def joinParts : List StringPart → Except EscapeFault (List Char)
  | [] => .ok []
  | .char c :: parts => (joinParts parts).map (c :: ·)
  | .code n :: .code m :: parts =>
    if isTrailing n then .error .loneSurrogate
    else if isLeading n then
      if isTrailing m then
        (joinParts parts).map
          (Char.ofNat (0x10000 + (n - 0xD800) * 0x400 + (m - 0xDC00)) :: ·)
      else .error .loneSurrogate
    else (joinParts (.code m :: parts)).map (Char.ofNat n :: ·)
  | .code n :: parts =>
    if isTrailing n then .error .loneSurrogate
    else if isLeading n then .error .unfinishedPair
    else (joinParts parts).map (Char.ofNat n :: ·)

/-- The string whose literal begins after an opening quote, and what follows it. -/
def string? (s : List Char) : Option (Spelling × List Char) :=
  (stringParts? (s.length + 1) s).map fun (parts, rest) =>
    ((joinParts parts).map String.ofList, rest)

/-! ## Texts -/

/-- Whether a character may stand between the tokens of a JSON text. -/
def isSpace (c : Char) : Bool :=
  c == ' ' || c == '\n' || c == '\t' || c == '\r'

/-- A text without the spaces at its start. -/
def skipSpace (s : List Char) : List Char :=
  s.dropWhile isSpace

/-- The digits after a point, if there is one, and what follows them. -/
def fraction? (s : List Char) : Option (List Char × List Char) :=
  match s with
  | '.' :: s =>
    let digits := s.takeWhile isAsciiDigit
    if digits.isEmpty then none else some (digits, s.dropWhile isAsciiDigit)
  | _ => some ([], s)

/-- The power of ten after an `e`, if there is one, and what follows it. -/
def exponent? (s : List Char) : Option (Option (Bool × List Char) × List Char) :=
  match s with
  | c :: rest =>
    if c == 'e' || c == 'E' then
      let (below, digits) := match rest with
        | '-' :: rest => (true, rest)
        | '+' :: rest => (false, rest)
        | _ => (false, rest)
      if (digits.takeWhile isAsciiDigit).isEmpty then none
      else some (some (below, digits.takeWhile isAsciiDigit), digits.dropWhile isAsciiDigit)
    else some (none, s)
  | [] => some (none, s)

/-- The number at the start of a text, and what follows it. -/
def numeral? (s : List Char) : Option (Numeral × List Char) :=
  let (negative, s) := match s with
    | '-' :: rest => (true, rest)
    | _ => (false, s)
  let whole := s.takeWhile isAsciiDigit
  if whole.isEmpty || (whole.length != 1 && whole.head? == some '0') then none
  else do
    let (fraction, s) ← fraction? (s.dropWhile isAsciiDigit)
    let (exponent, s) ← exponent? s
    return (⟨negative, whole, fraction, exponent⟩, s)

mutual

/-- The value at the start of a text, and what follows it. -/
def value? : (fuel : Nat) → List Char → Option (JsonText × List Char)
  | 0, _ => none
  | fuel + 1, s =>
    match skipSpace s with
    | [] => none
    | c :: s =>
      if c == '"' then (string? s).map fun (spelling, rest) => (.string spelling, rest)
      else if c == '[' then
        match skipSpace s with
        | ']' :: rest => some (.array [], rest)
        | s => (items? fuel s).map fun (items, rest) => (.array items, rest)
      else if c == '\x7b' then
        match skipSpace s with
        | '\x7d' :: rest => some (.object [], rest)
        | s => (members? fuel s).map fun (members, rest) => (.object members, rest)
      else if c == 'n' then (after? "ull".toList s).map (.null, ·)
      else if c == 't' then (after? "rue".toList s).map (.bool true, ·)
      else if c == 'f' then (after? "alse".toList s).map (.bool false, ·)
      else (numeral? (c :: s)).map fun (x, rest) => (.number x, rest)

/-- The items of a list up to its end, and what follows it. -/
def items? : (fuel : Nat) → List Char → Option (List JsonText × List Char)
  | 0, _ => none
  | fuel + 1, s => do
    let (item, s) ← value? fuel s
    match skipSpace s with
    | ']' :: rest => return ([item], rest)
    | ',' :: rest =>
      let (items, rest) ← items? fuel rest
      return (item :: items, rest)
    | _ => none

/-- The members of an object up to its end, and what follows it. -/
def members? : (fuel : Nat) → List Char → Option (List (Spelling × JsonText) × List Char)
  | 0, _ => none
  | fuel + 1, s =>
    match skipSpace s with
    | '"' :: s => do
      let (key, s) ← string? s
      match skipSpace s with
      | ':' :: s =>
        let (item, s) ← value? fuel s
        match skipSpace s with
        | '\x7d' :: rest => return ([(key, item)], rest)
        | ',' :: rest =>
          let (members, rest) ← members? fuel rest
          return ((key, item) :: members, rest)
        | _ => none
      | _ => none
    | _ => none

end

/-- The value of a JSON text. -/
def read? (text : String) : Option JsonText :=
  let s := text.toList
  match value? (s.length + 1) s with
  | some (value, rest) => if (skipSpace rest).isEmpty then some value else none
  | none => none

end JsonText

end BrowserFlow
