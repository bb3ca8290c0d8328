import BrowserFlow.Yaml.Cursor

/-!
# Scalars

The five ways to write a scalar. In plain and quoted scalars a line break is folded: a single one
becomes a space, and of several the first is left out. Block scalars take their text line by line,
below an indentation that is given or found out. All readers are bounded by the length of the text
that is left, since every round of a loop reads something.
-/

namespace BrowserFlow.Yaml

open Text

/-- The spaces and line breaks between two parts of a scalar. -/
structure Gap where
  /-- Whether there is a line break. -/
  isBroken : Bool := false
  /-- The spaces, if there is no line break. -/
  spaces : List Char := []
  /-- The first line break. -/
  first : List Char := []
  /-- The other line breaks. -/
  others : List Char := []

/-- What a gap contributes to the text. -/
def Gap.folded (gap : Gap) : List Char :=
  if !gap.isBroken then gap.spaces
  else if gap.first == ['\n'] then (if gap.others.isEmpty then [' '] else gap.others)
  else gap.first ++ gap.others

/-- Reads the spaces and line breaks up to the next part. On a line that continues a plain scalar,
a tab must not stand left of `margin`. -/
def readGap (margin : Int) : (fuel : Nat) → Gap → Scan Gap
  | 0, gap => return gap
  | fuel + 1, gap => do
    let cursor ← get
    if cursor.satisfies 0 isSpacing then
      if gap.isBroken && (cursor.column : Int) < margin && cursor.isAt '\t' then
        Scan.fail (.found "a tab character that violates indentation") "scanning a plain scalar"
      let c := cursor.rest.take 1
      Scan.skip 1
      readGap margin fuel (if gap.isBroken then gap else { gap with spaces := gap.spaces ++ c })
    else if cursor.satisfies 0 isBreak then
      let text ← Scan.takeBreak
      readGap margin fuel <|
        if gap.isBroken then { gap with others := gap.others ++ text }
        else { isBroken := true, first := text }
    else return gap

/-! ## Plain scalars -/

/-- Whether a character ends a plain scalar inside brackets. -/
def isFlowMark (c : Char) : Bool :=
  c == ',' || c == '[' || c == ']' || c == '\x7b' || c == '\x7d'

/-- Reads a part of a plain scalar, without spaces. -/
def readPlainPart (inFlow : Bool) : (fuel : Nat) → Scan (List Char)
  | 0 => return []
  | fuel + 1 => do
    let cursor ← get
    match cursor.rest with
    | [] => return []
    | c :: _ =>
      if cursor.isVoidAt 0 then return []
      if inFlow && c == ':' && cursor.satisfies 1 (fun d => d == '?' || isFlowMark d) then
        Scan.fail (.found "unexpected ':'") "scanning a plain scalar"
      if (c == ':' && cursor.isVoidAt 1) || (inFlow && isFlowMark c) then return []
      Scan.skip 1
      return c :: (← readPlainPart inFlow fuel)

/-- Reads the parts of a plain scalar after some text and a gap, and whether a line break follows
the last one. -/
def readPlainParts (inFlow : Bool) (margin : Int) :
    (fuel : Nat) → (text : List Char) → Gap → Scan (List Char × Bool)
  | 0, text, gap => return (text, gap.isBroken)
  | fuel + 1, text, gap => do
    let cursor ← get
    if cursor.atDocumentMark || cursor.isAt '#' then return (text, gap.isBroken)
    let part ← readPlainPart inFlow (cursor.rest.length + 1)
    let (text, gap) := if part.isEmpty then (text, gap) else (text ++ gap.folded ++ part, {})
    let cursor ← get
    if cursor.atEnd || !cursor.isVoidAt 0 then return (text, gap.isBroken)
    let gap ← readGap margin (cursor.rest.length + 1) gap
    if !inFlow && ((← get).column : Int) < margin then return (text, gap.isBroken)
    readPlainParts inFlow margin fuel text gap

/-- Reads a plain scalar, and whether it ends at the end of a line. `indent` is the column of the
collection around it. -/
def readPlain (inFlow : Bool) (indent : Int) : Scan (List Char × Bool) := do
  readPlainParts inFlow (indent + 1) ((← get).rest.length + 1) [] {}

/-! ## Quoted scalars -/

/-- What an escape of one character stands for. -/
def escapeCode? (c : Char) : Option Nat :=
  if c == '0' then some 0
  else if c == 'a' then some 7
  else if c == 'b' then some 8
  else if c == 't' || c == '\t' then some 9
  else if c == 'n' then some 10
  else if c == 'v' then some 11
  else if c == 'f' then some 12
  else if c == 'r' then some 13
  else if c == 'e' then some 27
  else if c == ' ' || c == '"' || c == '/' || c == '\\' then some c.toNat
  else if c == 'N' then some 0x85
  else if c == '_' then some 0xA0
  else if c == 'L' then some 0x2028
  else if c == 'P' then some 0x2029
  else none

/-- How many hexadecimal digits follow an escape by a code. -/
def escapeDigits? (c : Char) : Option Nat :=
  if c == 'x' then some 2 else if c == 'u' then some 4 else if c == 'U' then some 8 else none

/-- What the errors of quoted scalars are found in the course of. -/
def parsingQuoted : String := "parsing a quoted scalar"

/-- Reads an escape. -/
def readEscape : Scan Char := do
  let cursor ← get
  match cursor.peek 1 with
  | none => Scan.fail (.found "unknown escape character") parsingQuoted
  | some c =>
    match escapeCode? c, escapeDigits? c with
    | some code, _ =>
      Scan.skip 2
      return Char.ofNat code
    | none, some count =>
      let digits := (cursor.rest.drop 2).take count
      let values := digits.filterMap hexValue?
      if values.length != count then
        Scan.fail (.missing "expected hexadecimal number") parsingQuoted
      let code := values.foldl (fun n d => 16 * n + d) 0
      if (0xD800 ≤ code && code ≤ 0xDFFF) || 0x10FFFF < code then
        Scan.fail (.found "invalid Unicode character escape code") parsingQuoted
      Scan.skip (2 + count)
      return Char.ofNat code
    | none, none => Scan.fail (.found "unknown escape character") parsingQuoted

/-- Reads a part of a quoted scalar up to a space, the end of the line or the closing quote, and
whether an escaped line break ends it. -/
def readQuotedPart (single : Bool) : (fuel : Nat) → Scan (List Char × Bool)
  | 0 => return ([], false)
  | fuel + 1 => do
    let cursor ← get
    match cursor.rest with
    | [] => return ([], false)
    | c :: _ =>
      if cursor.isVoidAt 0 then return ([], false)
      if single && c == '\'' && cursor.peek 1 == some '\'' then
        Scan.skip 2
        let (part, broken) ← readQuotedPart single fuel
        return ('\'' :: part, broken)
      if c == (if single then '\'' else '"') then return ([], false)
      if !single && c == '\\' then
        if cursor.satisfies 1 isBreak then
          Scan.skip 1
          let _ ← Scan.takeBreak
          return ([], true)
        let e ← readEscape
        let (part, broken) ← readQuotedPart single fuel
        return (e :: part, broken)
      Scan.skip 1
      let (part, broken) ← readQuotedPart single fuel
      return (c :: part, broken)

/-- Reads the parts of a quoted scalar and the closing quote, after some text. -/
def readQuotedParts (single : Bool) : (fuel : Nat) → (text : List Char) → Scan (List Char)
  | 0, text => return text
  | fuel + 1, text => do
    let cursor ← get
    if cursor.atDocumentMark then
      Scan.fail (.found "unexpected document indicator") "scanning a quoted scalar"
    if cursor.atEnd then
      Scan.fail (.found "unexpected end of stream") "scanning a quoted scalar"
    let (part, broken) ← readQuotedPart single (cursor.rest.length + 1)
    if (← get).isAt (if single then '\'' else '"') then
      Scan.skip 1
      return text ++ part
    let gap ← readGap (-1) (cursor.rest.length + 1) { isBroken := broken }
    readQuotedParts single fuel (text ++ part ++ gap.folded)

/-- Reads a quoted scalar. -/
def readQuoted (single : Bool) : Scan (List Char) := do
  Scan.skip 1
  readQuotedParts single ((← get).rest.length + 1) []

/-! ## Block scalars -/

/-- Which line breaks at the end of a block scalar are kept. -/
inductive Chomping
  /-- None. -/
  | strip
  /-- The first. -/
  | clip
  /-- All of them. -/
  | keep
  deriving DecidableEq, Repr

/-- What the errors of block scalars are found in the course of. -/
def scanningBlock : String := "scanning a block scalar"

/-- Reads a chomping indicator, if there is one. -/
def readChomping : Scan (Option Chomping) := do
  let cursor ← get
  if cursor.isAt '+' then
    Scan.skip 1
    return some .keep
  else if cursor.isAt '-' then
    Scan.skip 1
    return some .strip
  else return none

/-- Reads an indentation indicator, if there is one, and else gives zero. -/
def readIndentation : Scan Nat := do
  let cursor ← get
  match cursor.peek 0 with
  | some c =>
    if isAsciiDigit c then
      if c == '0' then Scan.fail (.found "an indentation indicator equal to 0") scanningBlock
      Scan.skip 1
      return digitValue c
    else return 0
  | none => return 0

/-- Reads the indicators of a block scalar, in either order. -/
def readBlockHeader : Scan (Chomping × Nat) := do
  match ← readChomping with
  | some chomping =>
    let indentation ← readIndentation
    return (chomping, indentation)
  | none =>
    let indentation ← readIndentation
    if indentation == 0 then return (.clip, 0)
    return ((← readChomping).getD .clip, indentation)

/-- Reads indentation and empty lines; the indentation is at most `indent`, or whatever there is
if `indent` is zero. Gives the line breaks and the greatest column that was reached. -/
def readEmptyLines (indent : Nat) :
    (fuel : Nat) → (breaks : List Char) → (reach : Nat) → Scan (List Char × Nat)
  | 0, breaks, reach => return (breaks, reach)
  | fuel + 1, breaks, reach => do
    let cursor ← get
    let run := cursor.rest.takeWhile (· == ' ')
    let count := if indent == 0 then run.length else min run.length (indent - cursor.column)
    Scan.skip count
    let cursor ← get
    let reach := max reach cursor.column
    if (indent == 0 || cursor.column < indent) && cursor.isAt '\t' then
      Scan.fail (.found "a tab character where an indentation space is expected") scanningBlock
    if !cursor.satisfies 0 isBreak then return (breaks, reach)
    let text ← Scan.takeBreak
    readEmptyLines indent fuel (breaks ++ text) reach

/-- Reads the lines of a block scalar: `text` so far, the break after it and the empty lines after
that, and whether its last line starts with a space. -/
def readBlockLines (isLiteral : Bool) (indent : Nat) :
    (fuel : Nat) → (text first others : List Char) → (spaced : Bool) →
      Scan (List Char × List Char × List Char)
  | 0, text, first, others, _ => return (text, first, others)
  | fuel + 1, text, first, others, spaced => do
    let cursor ← get
    if cursor.column != indent || cursor.atEnd then return (text, first, others)
    let startsSpaced := cursor.satisfies 0 isSpacing
    let glue :=
      if !isLiteral && first == ['\n'] && !spaced && !startsSpaced then
        if others.isEmpty then [' '] else []
      else first
    let line ← Scan.takeRun (!isBreak ·)
    let next ← Scan.takeBreak
    let (breaks, _) ← readEmptyLines indent (cursor.rest.length + 1) [] 0
    readBlockLines isLiteral indent fuel (text ++ glue ++ others ++ line) next breaks startsSpaced

/-- Reads a block scalar; `outer` is the column of the collection around it. -/
def readBlock (isLiteral : Bool) (outer : Int) : Scan (List Char) := do
  Scan.skip 1
  let (chomping, indentation) ← readBlockHeader
  Scan.skipSpacing
  Scan.skipComment
  let cursor ← get
  if !cursor.atLineEnd then
    Scan.fail (.missing "expected comment or line break") scanningBlock
  let _ ← Scan.takeBreak
  let fuel := cursor.rest.length + 1
  let given := if indentation == 0 then 0 else (max outer 0).toNat + indentation
  let (breaks, reach) ← readEmptyLines given fuel [] 0
  let indent := if given != 0 then given else max reach (max (outer + 1) 1).toNat
  let (text, first, others) ← readBlockLines isLiteral indent fuel [] [] breaks false
  match chomping with
  | .strip => return text
  | .clip => return text ++ first
  | .keep => return text ++ first ++ others

end BrowserFlow.Yaml
