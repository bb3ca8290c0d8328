import BrowserFlow.Yaml.Scalar
import BrowserFlow.Yaml.Tag

/-!
# The layout of a YAML text

How a text becomes tokens. Outside brackets the collections are given by indentation: a column
that is greater than the one in force begins a collection, and a smaller one ends those that stand
further right. That something is a key shows only at the colon after it, so that a place where a
key could begin is remembered until the colon comes or can no longer come: a key takes one line
and at most 1024 bytes. Tokens are read on demand: no further than to what settles whether the first
token that waits is a key, because what the tokens in front of an error say comes before it.
-/

namespace BrowserFlow.Yaml

open Text

/-- A place where a key may have begun. -/
structure KeyStart where
  /-- Whether something must follow that makes it a key. -/
  isRequired : Bool
  /-- How many tokens of the text are in front of it. -/
  position : Nat
  /-- Where it is in the text. -/
  index : Nat
  /-- On which line. -/
  line : Nat
  /-- At which column. -/
  column : Nat

/-- What is known between two tokens. -/
structure Layout where
  /-- The place in the text. -/
  cursor : Cursor
  /-- The tokens that have been read but not taken. -/
  waiting : List Token := []
  /-- How many tokens have been taken. -/
  taken : Nat := 0
  /-- Whether the text has been read to its end. -/
  isEnded : Bool := false
  /-- Where a key may have begun, for every bracket that is open, the innermost first, and last
  for the text outside brackets. -/
  starts : List (Option KeyStart) := [none]
  /-- The column of the innermost collection that is given by indentation. -/
  indent : Int := -1
  /-- The columns of the collections around it. -/
  outer : List Int := []
  /-- Whether a key may begin here. -/
  mayStart : Bool := true

namespace Layout

/-- Whether a bracket is open. -/
def inFlow (layout : Layout) : Bool :=
  1 < layout.starts.length

/-- The layout with a token added. -/
def add (layout : Layout) (token : Token) : Layout :=
  { layout with waiting := layout.waiting ++ [token] }

/-- How many tokens of the text there are so far. -/
def count (layout : Layout) : Nat :=
  layout.taken + layout.waiting.length

/-- The layout with a token put after the first `position` tokens of the text. -/
def insert (layout : Layout) (position : Nat) (token : Token) : Layout :=
  let (before, after) := layout.waiting.splitAt (position - layout.taken)
  { layout with waiting := before ++ token :: after }

/-- The layout with a token added, which is `n` characters long. -/
def addMark (layout : Layout) (n : Nat) (token : Token) : Layout :=
  { layout.add token with cursor := layout.cursor.skip n }

/-- The most bytes that a key may have. -/
def maxKey : Nat := 1024

/-- The error that something is not followed by the colon that it needs. -/
def noColon : SyntaxError :=
  ⟨.notFound "expected ':'", some "scanning a simple key"⟩

/-- The starts of keys, without those that have become impossible. -/
def freshStarts (cursor : Cursor) :
    List (Option KeyStart) → Except SyntaxError (List (Option KeyStart))
  | [] => .ok []
  | none :: rest => (freshStarts cursor rest).map (none :: ·)
  | some start :: rest => do
    let rest ← freshStarts cursor rest
    if start.line < cursor.line || start.index + maxKey < cursor.index then
      if start.isRequired then throw noColon
      return none :: rest
    return some start :: rest

/-- Gives up the start of a key at the present level. -/
def dropStart (layout : Layout) : Except SyntaxError Layout :=
  match layout.starts with
  | some start :: rest =>
    if start.isRequired then .error noColon else .ok { layout with starts := none :: rest }
  | _ => .ok layout

/-- Remembers that a key may begin here, if it may. -/
def saveStart (layout : Layout) : Except SyntaxError Layout :=
  if layout.mayStart then do
    let layout ← layout.dropStart
    let start : KeyStart := {
      isRequired := !layout.inFlow && layout.indent == layout.cursor.column
      position := layout.count
      index := layout.cursor.index
      line := layout.cursor.line
      column := layout.cursor.column }
    return { layout with starts := some start :: layout.starts.drop 1 }
  else .ok layout

/-- Begins a collection at a column, unless it has begun. Its token is put after the first
`position` tokens of the text. -/
def openBlock (layout : Layout) (column position : Nat) (token : Token) : Layout :=
  if layout.inFlow || (column : Int) ≤ layout.indent then layout
  else
    { layout.insert position token with
      outer := layout.indent :: layout.outer
      indent := column }

/-- Ends the collections to the right of `column`, the innermost being at `indent`; gives the
tokens for that, and the columns of those that go on. -/
def closing (column : Int) : (indent : Int) → (outer : List Int) → List Token × Int × List Int
  | indent, [] => ([], indent, [])
  | indent, next :: outer =>
    if column < indent then
      let (tokens, indent, outer) := closing column next outer
      (.blockEnd :: tokens, indent, outer)
    else ([], indent, next :: outer)

/-- Ends the collections to the right of `column`. -/
def closeBlocks (layout : Layout) (column : Int) : Layout :=
  if layout.inFlow then layout
  else
    let (tokens, indent, outer) := closing column layout.indent layout.outer
    { layout with waiting := layout.waiting ++ tokens, indent := indent, outer := outer }

/-- Skips spaces, comments and line breaks. Outside brackets, tabs do not count as spaces where a
key may begin. -/
def skipToToken (layout : Layout) : (fuel : Nat) → Layout
  | 0 => layout
  | fuel + 1 =>
    let cursor := layout.cursor
    let cursor := if cursor.index == 0 && cursor.isAt '\uFEFF' then cursor.skip 1 else cursor
    let isSpace (c : Char) := c == ' ' || (c == '\t' && (layout.inFlow || !layout.mayStart))
    let cursor := (cursor.takeRun isSpace).2.skipComment
    if cursor.satisfies 0 isBreak then
      skipToToken
        { layout with
          cursor := cursor.skipBreak.2, mayStart := layout.mayStart || !layout.inFlow } fuel
    else { layout with cursor := cursor }

/-- Reads a token with the given reader. -/
def scan {α : Type} (layout : Layout) (read : Scan α) : Except SyntaxError (α × Layout) := do
  let (a, cursor) ← read.run layout.cursor
  return (a, { layout with cursor := cursor })

/-! ## The kinds of tokens -/

/-- Leaves every collection, and gives up the start of a key, before a directive, a mark between
documents or the end. -/
def leaveAll (layout : Layout) : Except SyntaxError Layout := do
  return { ← (layout.closeBlocks (-1)).dropStart with mayStart := false }

/-- The end of the text, which counts as the beginning of a line. -/
def endText (layout : Layout) : Except SyntaxError Layout := do
  let cursor := layout.cursor
  let cursor :=
    if cursor.column == 0 then cursor else { cursor with line := cursor.line + 1, column := 0 }
  let layout ← { layout with cursor }.leaveAll
  return { layout.add .streamEnd with isEnded := true }

/-- A directive. -/
def directive (layout : Layout) : Except SyntaxError Layout := do
  let (token, layout) ← (← layout.leaveAll).scan readDirective
  return layout.add token

/-- A mark between documents. -/
def documentMark (layout : Layout) (token : Token) : Except SyntaxError Layout := do
  return (← layout.leaveAll).addMark 3 token

/-- An opening bracket. -/
def openFlow (layout : Layout) (token : Token) : Except SyntaxError Layout := do
  let layout ← layout.saveStart
  return { layout.addMark 1 token with starts := none :: layout.starts, mayStart := true }

/-- A closing bracket, which may have no partner. -/
def closeFlow (layout : Layout) (token : Token) : Except SyntaxError Layout := do
  let layout ← layout.dropStart
  let starts := if layout.inFlow then layout.starts.drop 1 else layout.starts
  return { layout.addMark 1 token with starts := starts, mayStart := false }

/-- A comma. -/
def flowEntry (layout : Layout) : Except SyntaxError Layout := do
  return { (← layout.dropStart).addMark 1 .flowEntry with mayStart := true }

/-- A dash before an item. -/
def blockEntry (layout : Layout) : Except SyntaxError Layout := do
  if !layout.inFlow && !layout.mayStart then
    throw ⟨.misplaced "block sequence entries", none⟩
  let layout := layout.openBlock layout.cursor.column layout.count .blockSequenceStart
  return { (← layout.dropStart).addMark 1 .blockEntry with mayStart := true }

/-- A question mark before a key. -/
def key (layout : Layout) : Except SyntaxError Layout := do
  if !layout.inFlow && !layout.mayStart then throw ⟨.misplaced "mapping keys", none⟩
  let layout := layout.openBlock layout.cursor.column layout.count .blockMappingStart
  return { (← layout.dropStart).addMark 1 .key with mayStart := !layout.inFlow }

/-- A colon before a value. If a key may have begun before, it has begun there. -/
def value (layout : Layout) : Except SyntaxError Layout := do
  match layout.starts with
  | some start :: rest =>
    let layout := { layout.insert start.position .key with
      starts := none :: rest
      mayStart := false }
    return (layout.openBlock start.column start.position .blockMappingStart).addMark 1 .value
  | _ =>
    if !layout.inFlow && !layout.mayStart then throw ⟨.misplaced "mapping values", none⟩
    let layout := layout.openBlock layout.cursor.column layout.count .blockMappingStart
    return { layout.addMark 1 .value with mayStart := !layout.inFlow }

/-- An anchor, an alias or a tag: something that a key may begin with. -/
def property (layout : Layout) (read : Scan Token) : Except SyntaxError Layout := do
  let (token, layout) ← { ← layout.saveStart with mayStart := false }.scan read
  return layout.add token

/-- A block scalar. -/
def blockScalar (layout : Layout) (isLiteral : Bool) : Except SyntaxError Layout := do
  let layout := { ← layout.dropStart with mayStart := true }
  let (text, layout) ← layout.scan (readBlock isLiteral layout.indent)
  return layout.add (.scalar (String.ofList text) (if isLiteral then .literal else .folded))

/-- A quoted scalar. -/
def quotedScalar (layout : Layout) (single : Bool) : Except SyntaxError Layout := do
  let (text, layout) ← { ← layout.saveStart with mayStart := false }.scan (readQuoted single)
  return layout.add
    (.scalar (String.ofList text) (if single then .singleQuoted else .doubleQuoted))

/-- A plain scalar. After one that ends at the end of a line, a key may begin. -/
def plainScalar (layout : Layout) : Except SyntaxError Layout := do
  let layout := { ← layout.saveStart with mayStart := false }
  let ((text, broken), layout) ← layout.scan (readPlain layout.inFlow layout.indent)
  return { layout.add (.scalar (String.ofList text) .plain) with mayStart := broken }

/-- Whether a plain scalar may begin with `c` at a cursor. -/
def startsPlain (layout : Layout) (c : Char) : Bool :=
  !("-?:,[]\x7b\x7d#&*!|>'\"%@`".toList.contains c || layout.cursor.isVoidAt 0) ||
    (c == '-' && !layout.cursor.satisfies 1 isSpacing) ||
    (!layout.inFlow && (c == '?' || c == ':') && !layout.cursor.isVoidAt 1)

/-- The token that begins with `c` at the cursor. -/
def token (layout : Layout) (c : Char) : Except SyntaxError Layout :=
  let cursor := layout.cursor
  let inFlow := layout.inFlow
  if cursor.column == 0 && c == '%' then layout.directive
  else if cursor.atDocumentMark then
    layout.documentMark (if c == '-' then .documentStart else .documentEnd)
  else if c == '[' then layout.openFlow .flowSequenceStart
  else if c == '\x7b' then layout.openFlow .flowMappingStart
  else if c == ']' then layout.closeFlow .flowSequenceEnd
  else if c == '\x7d' then layout.closeFlow .flowMappingEnd
  else if c == ',' then layout.flowEntry
  else if c == '-' && cursor.isVoidAt 1 then layout.blockEntry
  else if c == '?' && (inFlow || cursor.isVoidAt 1) then layout.key
  else if c == ':' && (inFlow || cursor.isVoidAt 1) then layout.value
  else if c == '*' then layout.property (Token.alias <$> readName "scanning an alias")
  else if c == '&' then layout.property (Token.anchor <$> readName "scanning an anchor")
  else if c == '!' then layout.property (readTag inFlow)
  else if c == '|' && !inFlow then layout.blockScalar true
  else if c == '>' && !inFlow then layout.blockScalar false
  else if c == '\'' then layout.quotedScalar true
  else if c == '"' then layout.quotedScalar false
  else if layout.startsPlain c then layout.plainScalar
  else .error ⟨.found "character that cannot start any token", some "scanning for the next token"⟩

/-- Reads the next token, and those that end or begin collections in front of it. -/
def next (layout : Layout) : Except SyntaxError Layout := do
  let layout := layout.skipToToken (layout.cursor.rest.length + 1)
  let layout := { layout with starts := ← freshStarts layout.cursor layout.starts }
  let layout := layout.closeBlocks layout.cursor.column
  match layout.cursor.rest with
  | [] => layout.endText
  | c :: _ => layout.token c

/-- Whether it is not settled if the first token that waits is a key. -/
def isUnsettled (layout : Layout) : Bool :=
  layout.starts.any fun start => start.any (·.position == layout.taken)

/-- Reads on until a token waits that can be taken. Every round but the last reads something, so
that the length of the text bounds their number. -/
def supply : (fuel : Nat) → Layout → Except SyntaxError Layout
  | 0, layout => .ok layout
  | fuel + 1, layout => do
    if layout.waiting.isEmpty then
      if layout.isEnded then return layout
      supply fuel (← layout.next)
    else
      let layout := { layout with starts := ← freshStarts layout.cursor layout.starts }
      if layout.isUnsettled then supply fuel (← layout.next) else return layout

/-- Takes the first token that waits. -/
def take (layout : Layout) : Layout :=
  { layout with waiting := layout.waiting.drop 1, taken := layout.taken + 1 }

end Layout

/-- Whether a YAML text may hold a character. -/
def isAllowed (c : Char) : Bool :=
  let n := c.toNat
  n == 0x9 || n == 0xA || n == 0xD || (0x20 ≤ n && n ≤ 0x7E) || n == 0x85 ||
    (0xA0 ≤ n && n ≤ 0xFFFD) || 0x10000 ≤ n

/-- The position in bytes of the first character that a YAML text may not hold, counted from
`position`. -/
def forbidden? (position : Nat) : List Char → Option Nat
  | [] => none
  | c :: s => if isAllowed c then forbidden? (position + c.utf8Size) s else some position

/-- The layout of a text before anything has been read. -/
def Layout.ofText (text : String) : Except SyntaxError Layout :=
  match forbidden? 0 text.toList with
  | some position => .error ⟨.forbidden position, none⟩
  | none => .ok { cursor := { rest := text.toList } }

end BrowserFlow.Yaml
