import BrowserFlow.Yaml.Cursor

/-!
# Tags, names and directives

The tokens that begin with an exclamation mark, an asterisk, an ampersand or a percent sign. In
the address of a tag, bytes may be written as percent escapes. They must have the outward form of
UTF-8: a leading byte and as many trailing ones as it asks for; a null byte ends the address.
-/

namespace BrowserFlow.Yaml

open Text

/-! ## Anchors and aliases -/

/-- Whether the name of an anchor may end here. -/
def Cursor.endsName (cursor : Cursor) : Bool :=
  cursor.isVoidAt 0 || cursor.satisfies 0 ("?:,]\x7d%@`".toList.contains ·)

/-- Reads the name of an anchor or an alias. -/
def readName (activity : String) : Scan String := do
  Scan.skip 1
  let name ← Scan.takeRun isNameChar
  if name.isEmpty || !(← get).endsName then
    Scan.fail (.missing "expected alphabetic or numeric character") activity
  return String.ofList name

/-! ## Tags -/

/-- Where a tag is read, with the words for what errors are found in the course of. -/
structure TagPlace where
  /-- Whether it is a directive. -/
  isDirective : Bool
  /-- The activity while the handle is read. -/
  scanning : String
  /-- The activity while the handle is completed. -/
  completing : String
  /-- The activity while the address is read. -/
  parsing : String

/-- A tag in front of a node. -/
def TagPlace.node : TagPlace where
  isDirective := false
  scanning := "scanning a tag"
  completing := "parsing a tag"
  parsing := "parsing a tag"

/-- A tag directive. -/
def TagPlace.directive : TagPlace where
  isDirective := true
  scanning := "scanning a tag directive"
  completing := "parsing a tag directive"
  parsing := "parsing a %TAG directive"

/-- Reads a tag handle: a name between exclamation marks, the second of which may be missing in
front of a node. -/
def readHandle (place : TagPlace) : Scan String := do
  if !(← get).isAt '!' then Scan.fail (.missing "expected '!'") place.scanning
  Scan.skip 1
  let name ← Scan.takeRun isNameChar
  if (← get).isAt '!' then
    Scan.skip 1
    return String.ofList ('!' :: name ++ ['!'])
  else if place.isDirective && !name.isEmpty then
    Scan.fail (.missing "expected '!'") place.completing
  else return String.ofList ('!' :: name)

/-- How many bytes a character has whose first byte this is. -/
def byteCount? (byte : Nat) : Option Nat :=
  if byte < 0x80 then some 1
  else if byte / 0x20 == 0x6 then some 2
  else if byte / 0x10 == 0xE then some 3
  else if byte / 0x8 == 0x1E then some 4
  else none

/-- Reads one escaped byte. -/
def readByte (place : TagPlace) : Scan Nat := do
  let cursor ← get
  match cursor.peek 0, (cursor.peek 1).bind hexValue?, (cursor.peek 2).bind hexValue? with
  | some '%', some a, some b =>
    Scan.skip 3
    return 16 * a + b
  | _, _, _ => Scan.fail (.missing "URI escaped octet") place.parsing

/-- Reads the escaped bytes of a character after its first one. -/
def readTrailing (place : TagPlace) : (count : Nat) → Scan (List UInt8)
  | 0 => return []
  | count + 1 => do
    let byte ← readByte place
    if byte / 0x40 != 0x2 then
      Scan.fail (.found "an incorrect trailing UTF-8 octet") place.parsing
    return UInt8.ofNat byte :: (← readTrailing place count)

/-- Reads the escaped bytes of a character, which need not be one after all. -/
def readEscapedBytes (place : TagPlace) : Scan Address := do
  let first ← readByte place
  match byteCount? first with
  | none => Scan.fail (.found "an incorrect leading UTF-8 octet") place.parsing
  | some count =>
    return UInt8.ofNat first :: (← readTrailing place (count - 1))

/-- Whether a character may occur in the address of a tag; some may only where the address is
fenced off. -/
def isAddressChar (isFenced : Bool) (c : Char) : Bool :=
  isNameChar c || ";/?:@&=+$.%!~*'()".toList.contains c ||
    (isFenced && ",[]".toList.contains c)

/-- Reads the bytes of an address. -/
def readAddressBytes (place : TagPlace) (isFenced : Bool) : (fuel : Nat) → Scan Address
  | 0 => return []
  | fuel + 1 => do
    let cursor ← get
    match cursor.rest with
    | [] => return []
    | c :: _ =>
      if !isAddressChar isFenced c then return []
      if c == '%' then
        let bytes ← readEscapedBytes place
        return bytes ++ (← readAddressBytes place isFenced fuel)
      else
        Scan.skip 1
        return UInt8.ofNat c.toNat :: (← readAddressBytes place isFenced fuel)

/-- Reads the address of a tag that goes on after `start`, which has been read as a handle. -/
def readAddress (place : TagPlace) (isFenced : Bool) (start : String) : Scan Address := do
  let bytes ← readAddressBytes place isFenced ((← get).rest.length + 1)
  if start.isEmpty && bytes.isEmpty then
    Scan.fail (.missing "expected tag URI") place.parsing
  return ((Address.ofText start).drop 1 ++ bytes).takeWhile (· != 0)

/-- Reads a tag: its handle and the rest. A tag with its whole address, and the tag that is only
an exclamation mark, have an empty handle. -/
def readTagParts : Scan (String × Address) := do
  if (← get).peek 1 == some '<' then
    Scan.skip 2
    let address ← readAddress .node true ""
    if !(← get).isAt '>' then Scan.fail (.missing "the expected '>'") "scanning a tag"
    Scan.skip 1
    return ("", address)
  else
    let handle ← readHandle .node
    if 2 ≤ handle.length && handle.toList.getLast? == some '!' then
      return (handle, ← readAddress .node false "")
    else
      let address ← readAddress .node false handle
      if address.isEmpty then return ("", Address.ofText "!")
      return ("!", address)

/-- Reads a tag. -/
def readTag (inFlow : Bool) : Scan Token := do
  let (handle, ending) ← readTagParts
  let cursor ← get
  if !(inFlow && cursor.isAt ',') && !cursor.isVoidAt 0 then
    Scan.fail (.missing "expected whitespace or line break") "scanning a tag"
  return .tag handle ending

/-! ## Directives -/

/-- What the errors of version directives are found in the course of. -/
def scanningVersion : String := "scanning a %YAML directive"

/-- The most digits that a version number may have. -/
def maxVersionDigits : Nat := 9

/-- Reads a number of a version. -/
def readVersionNumber : Scan Nat := do
  let digits ← Scan.takeRun isAsciiDigit
  if maxVersionDigits < digits.length then
    Scan.fail (.found "extremely long version number") scanningVersion
  if digits.isEmpty then Scan.fail (.missing "expected version number") scanningVersion
  return numberOf digits

/-- Reads the version of a version directive. -/
def readVersion : Scan Token := do
  Scan.skipSpacing
  let major ← readVersionNumber
  if !(← get).isAt '.' then
    Scan.fail (.missing "expected digit or '.' character") scanningVersion
  Scan.skip 1
  return .versionDirective major (← readVersionNumber)

/-- Reads the handle of a tag directive, and what it stands for. -/
def readTagDirective : Scan Token := do
  Scan.skipSpacing
  let handle ← readHandle .directive
  if !(← get).satisfies 0 isSpacing then
    Scan.fail (.missing "expected whitespace") "scanning a %TAG directive"
  Scan.skipSpacing
  let address ← readAddress .directive true ""
  if !(← get).isVoidAt 0 then
    Scan.fail (.missing "expected whitespace or line break") "scanning a %TAG directive"
  return .tagDirective handle address

/-- What the errors of directives are found in the course of. -/
def scanningDirective : String := "scanning a directive"

/-- Reads a directive with the rest of its line. -/
def readDirective : Scan Token := do
  Scan.skip 1
  let name ← Scan.takeRun isNameChar
  if name.isEmpty then Scan.fail (.notFound "expected directive name") scanningDirective
  if !(← get).isVoidAt 0 then
    Scan.fail (.found "unexpected non-alphabetical character") scanningDirective
  let token ←
    if name == "YAML".toList then readVersion
    else if name == "TAG".toList then readTagDirective
    else Scan.fail (.found "unknown directive name") scanningDirective
  Scan.skipSpacing
  Scan.skipComment
  if !(← get).atLineEnd then
    Scan.fail (.missing "expected comment or line break") scanningDirective
  let _ ← Scan.takeBreak
  return token

end BrowserFlow.Yaml
