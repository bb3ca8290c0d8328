import BrowserFlow.Yaml.Layout

/-!
# Nodes

How the tokens of the first document become a tree of nodes. Where the text is not well-formed the
tree is cut off: collections keep the items in front of the error, a key that has no value yet gets
the cut for one, and the error stands beside the tree. Anchors are numbered by how many names there
are, and an alias leads to the last node that got the number; what is known of that node is its
own, not its content.
-/

namespace BrowserFlow.Yaml

/-- A scalar. -/
structure Scalar where
  /-- Its text. -/
  text : String
  /-- How it is written. -/
  style : Style
  /-- Its tag. -/
  tag : Option Address
  deriving DecidableEq, Repr

/-- A node. -/
inductive Node
  /-- A scalar. -/
  | scalar (scalar : Scalar)
  /-- A list. -/
  | sequence (tag : Option Address) (items : List Node)
  /-- A mapping: its keys and values, in order. -/
  | mapping (tag : Option Address) (members : List (Node × Node))
  /-- An alias of the anchor with a number. -/
  | alias (number : Nat)
  /-- The place of a node in front of which the text stops being well-formed. -/
  | cut
  deriving Inhabited

/-- What is known while tokens are read. -/
structure Progress where
  /-- Where the tokens come from. -/
  layout : Layout
  /-- How many times the layout may read on for one token. -/
  limit : Nat
  /-- The error that has been met. -/
  fault : Option SyntaxError := none
  /-- What tag handles stand for. -/
  handles : List (String × Address) := []
  /-- The numbers of the anchors. -/
  anchors : List (String × Nat) := []
  /-- The nodes that have a number, the last one first. -/
  targets : List (Nat × Node) := []

/-- Reading tokens. -/
abbrev Read (α : Type) := StateM Progress α

namespace Read

/-- Notes an error, after which nothing more is read. -/
def fail {α : Type} (e : SyntaxError) : Read (Option α) := do
  modify fun progress => { progress with fault := progress.fault.or (some e) }
  return none

/-- The next token; there is none after an error. -/
def peek : Read (Option Token) := do
  let progress ← get
  if progress.fault.isSome then return none
  match progress.layout.supply progress.limit with
  | .error e => fail e
  | .ok layout =>
    set { progress with layout }
    return layout.waiting.head?

/-- Skips a token. -/
def skip : Read Unit :=
  modify fun progress => { progress with layout := progress.layout.take }

/-- Whether an error has been met. -/
def isBroken : Read Bool :=
  return (← get).fault.isSome

/-- Whether the next token is one of some tokens. -/
def isAt (tokens : List Token) : Read Bool := do
  match ← peek with
  | some token => return tokens.contains token
  | none => return false

/-- Gives a number to an anchor, and a node to that number. -/
def register (anchor : Option String) (node : Node) : Read Unit :=
  match anchor with
  | none => return
  | some name =>
    modify fun progress =>
      let number := progress.anchors.length
      { progress with
        anchors := (name, number) :: progress.anchors.filter (·.1 != name)
        targets := (number, node) :: progress.targets }

end Read

/-- A scalar that is not written. -/
def emptyNode : Node :=
  .scalar ⟨"", .plain, none⟩

/-- Reads the anchor and the tag of a node, in either order. -/
def readProperties : Read (Option String × Option (String × Address)) := do
  let anchor? : Read (Option String) := do
    match ← Read.peek with
    | some (.anchor name) =>
      Read.skip
      return some name
    | _ => return none
  let tag? : Read (Option (String × Address)) := do
    match ← Read.peek with
    | some (.tag handle ending) =>
      Read.skip
      return some (handle, ending)
    | _ => return none
  match ← anchor? with
  | some name => return (some name, ← tag?)
  | none =>
    match ← tag? with
    | some tag => return (← anchor?, some tag)
    | none => return (none, none)

/-- The handles that need no directive. -/
def standardHandles : List (String × Address) :=
  [("!", Address.ofText "!"), ("!!", Address.ofText "tag:yaml.org,2002:")]

/-- The tag that a handle and the rest stand for, or none if the handle is not known. -/
def resolveTag (handles : List (String × Address)) (handle : String) (ending : Address) :
    Option Address :=
  if handle.isEmpty then some ending
  else
    ((handles ++ standardHandles).find? (·.1 == handle)).map fun (_, beginning) =>
      beginning ++ ending

/-- What the errors of nodes are found in the course of. -/
def parsingNode (isBlock : Bool) : String :=
  if isBlock then "parsing a block node" else "parsing a flow node"

/-- What the errors of mappings given by indentation are found in the course of. -/
def parsingBlockMapping : String := "parsing a block mapping"

mutual

/-- Reads a node. `isBlock` says whether it may be given by indentation, and `mayHang` whether it
may be a list whose dashes stand below the key. -/
def readNode (isBlock mayHang : Bool) : (fuel : Nat) → Read (Option Node)
  | 0 => return none
  | fuel + 1 => do
    match ← Read.peek with
    | some (.alias name) =>
      match (← get).anchors.find? (·.1 == name) with
      | some (_, number) =>
        Read.skip
        return some (.alias number)
      | none => Read.fail ⟨.unknownAnchor, none⟩
    | _ =>
      let (anchor, written) ← readProperties
      let _ ← Read.peek
      let progress ← get
      match written.map fun (handle, ending) => resolveTag progress.handles handle ending with
      | some none =>
        Read.fail ⟨.found "undefined tag handle", some "parsing a node"⟩
      | resolved =>
        readContent isBlock mayHang anchor resolved.join fuel

/-- Reads what follows the properties of a node. -/
def readContent (isBlock mayHang : Bool) (anchor : Option String) (tag : Option Address) :
    (fuel : Nat) → Read (Option Node)
  | 0 => return none
  | fuel + 1 => do
    match ← Read.peek with
    | some (.scalar text style) =>
      Read.skip
      let node := Node.scalar ⟨text, style, tag⟩
      Read.register anchor node
      return some node
    | some .flowSequenceStart =>
      Read.skip
      Read.register anchor (.sequence tag [])
      return some (.sequence tag (← readFlowItems true fuel))
    | some .flowMappingStart =>
      Read.skip
      Read.register anchor (.mapping tag [])
      return some (.mapping tag (← readFlowMembers true fuel))
    | next =>
      if mayHang && next == some .blockEntry then
        Read.register anchor (.sequence tag [])
        return some (.sequence tag (← readHangingItems fuel))
      else if isBlock && next == some .blockSequenceStart then
        Read.skip
        Read.register anchor (.sequence tag [])
        return some (.sequence tag (← readBlockItems fuel))
      else if isBlock && next == some .blockMappingStart then
        Read.skip
        Read.register anchor (.mapping tag [])
        return some (.mapping tag (← readBlockMembers fuel))
      else if ← Read.isBroken then return none
      else if anchor.isSome || tag.isSome then
        let node := Node.scalar ⟨"", .plain, tag⟩
        Read.register anchor node
        return some node
      else Read.fail ⟨.missing "expected node content", some (parsingNode isBlock)⟩

/-- Reads a node, or takes one that is not written if one of the tokens `absent` comes next. -/
def readNodeUnless (absent : List Token) (isBlock mayHang : Bool) :
    (fuel : Nat) → Read (Option Node)
  | 0 => return none
  | fuel + 1 => do
    match ← Read.peek with
    | none => return none
    | some token =>
      if absent.contains token then return some emptyNode else readNode isBlock mayHang fuel

/-- Reads the items of a list that is given by indentation. -/
def readBlockItems : (fuel : Nat) → Read (List Node)
  | 0 => return []
  | fuel + 1 => do
    match ← Read.peek with
    | some .blockEntry =>
      Read.skip
      match ← readNodeUnless [.blockEntry, .blockEnd] true false fuel with
      | none => return []
      | some item => return item :: (← readBlockItems fuel)
    | some .blockEnd =>
      Read.skip
      return []
    | some _ =>
      let _ ← Read.fail (α := Unit)
        ⟨.missing "expected '-' indicator", some "parsing a block collection"⟩
      return []
    | none => return []

/-- Reads the items of a list whose dashes stand below the key. -/
def readHangingItems : (fuel : Nat) → Read (List Node)
  | 0 => return []
  | fuel + 1 => do
    match ← Read.peek with
    | some .blockEntry =>
      Read.skip
      match ← readNodeUnless [.blockEntry, .key, .value, .blockEnd] true false fuel with
      | none => return []
      | some item => return item :: (← readHangingItems fuel)
    | _ => return []

/-- Reads the members of a mapping that is given by indentation. -/
def readBlockMembers : (fuel : Nat) → Read (List (Node × Node))
  | 0 => return []
  | fuel + 1 => do
    match ← Read.peek with
    | some .key =>
      Read.skip
      match ← readNodeUnless [.key, .value, .blockEnd] true true fuel with
      | none => return []
      | some key => readBlockValue key fuel
    | some .blockEnd =>
      Read.skip
      return []
    | some _ =>
      let _ ← Read.fail (α := Unit) ⟨.missing "expected key", some parsingBlockMapping⟩
      return []
    | none => return []

/-- Reads the value of a key, and the members after it. The key counts even if its value cannot be
read. -/
def readBlockValue (key : Node) : (fuel : Nat) → Read (List (Node × Node))
  | 0 => return []
  | fuel + 1 => do
    match ← Read.peek with
    | some .value =>
      Read.skip
      match ← readNodeUnless [.key, .value, .blockEnd] true true fuel with
      | none => return [(key, .cut)]
      | some value => return (key, value) :: (← readBlockMembers fuel)
    | some _ => return (key, emptyNode) :: (← readBlockMembers fuel)
    | none => return [(key, .cut)]

/-- Reads the items of a list between brackets; `isFirst` says that none has been read. -/
def readFlowItems (isFirst : Bool) : (fuel : Nat) → Read (List Node)
  | 0 => return []
  | fuel + 1 => do
    if ← Read.isAt [.flowSequenceEnd] then
      Read.skip
      return []
    if !isFirst then
      if ← Read.isAt [.flowEntry] then Read.skip
      else
        let _ ← Read.fail (α := Unit)
          ⟨.missing "expected ',' or ']'", some "parsing a flow sequence"⟩
        return []
    match ← Read.peek with
    | some .key =>
      Read.skip
      match ← readPair fuel with
      | none => return []
      | some pair => return pair :: (← readFlowItems false fuel)
    | some .flowSequenceEnd =>
      Read.skip
      return []
    | some _ =>
      match ← readNode false false fuel with
      | none => return []
      | some item => return item :: (← readFlowItems false fuel)
    | none => return []

/-- Reads a mapping of one member that stands in a list without braces. Where its key is missing,
the token in its place is passed over. -/
def readPair : (fuel : Nat) → Read (Option Node)
  | 0 => return none
  | fuel + 1 => do
    let key ←
      if ← Read.isAt [.value, .flowEntry, .flowSequenceEnd] then do
        Read.skip
        pure (some emptyNode)
      else readNode false false fuel
    match key with
    | none => return none
    | some key =>
      if ← Read.isAt [.value] then
        Read.skip
        match ← readNodeUnless [.flowEntry, .flowSequenceEnd] false false fuel with
        | none => return some (.mapping none [])
        | some value => return some (.mapping none [(key, value)])
      else return some (.mapping none [(key, emptyNode)])

/-- Reads the members of a mapping between braces; `isFirst` says that none has been read. -/
def readFlowMembers (isFirst : Bool) : (fuel : Nat) → Read (List (Node × Node))
  | 0 => return []
  | fuel + 1 => do
    if ← Read.isAt [.flowMappingEnd] then
      Read.skip
      return []
    if !isFirst then
      if ← Read.isAt [.flowEntry] then Read.skip
      else
        let _ ← Read.fail (α := Unit)
          ⟨.missing "expected ',' or '\x7d'", some "parsing a flow mapping"⟩
        return []
    match ← Read.peek with
    | some .key =>
      Read.skip
      match ← readNodeUnless [.value, .flowEntry, .flowMappingEnd] false false fuel with
      | none => return []
      | some key => readFlowValue key fuel
    | some .flowMappingEnd =>
      Read.skip
      return []
    | some _ =>
      match ← readNode false false fuel with
      | none => return []
      | some key =>
        let _ ← Read.peek
        if ← Read.isBroken then return [(key, .cut)]
        return (key, emptyNode) :: (← readFlowMembers false fuel)
    | none => return []

/-- Reads the value of a key between braces, and the members after it. The key counts even if its
value cannot be read. -/
def readFlowValue (key : Node) : (fuel : Nat) → Read (List (Node × Node))
  | 0 => return []
  | fuel + 1 => do
    if ← Read.isAt [.value] then
      Read.skip
      match ← readNodeUnless [.flowEntry, .flowMappingEnd] false false fuel with
      | none => return [(key, .cut)]
      | some value => return (key, value) :: (← readFlowMembers false fuel)
    else if ← Read.isBroken then return [(key, .cut)]
    else return (key, emptyNode) :: (← readFlowMembers false fuel)

end

end BrowserFlow.Yaml
