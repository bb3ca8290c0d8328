import BrowserFlow.Yaml.Node

/-!
# Documents

A text holds one document, which may be announced by directives and a line of dashes. A text
without any node holds none. `Document.read` also reads texts that are not well-formed, as far as
that goes: the fault is part of what it gives.
-/

namespace BrowserFlow.Yaml

/-- What a text holds. -/
structure Document where
  /-- The node, as far as it could be read. -/
  root : Option Node
  /-- The nodes that aliases lead to. -/
  targets : List (Nat × Node)
  /-- Why the text is not one well-formed document. -/
  fault : Option SyntaxError

/-- The node that an alias leads to; what is inside a collection is left out. -/
def Document.target? (document : Document) (number : Nat) : Option Node :=
  (document.targets.find? (·.1 == number)).map (·.2)

/-- Whether a version of YAML can be read. -/
def isReadable (major minor : Nat) : Bool :=
  major == 1 && (minor == 1 || minor == 2)

/-- Reads the directives in front of a document; `hasVersion` says that one has been a version.
Gives nothing if one of them is wrong. -/
def readDirectives (hasVersion : Bool) : (fuel : Nat) → Read (Option Unit)
  | 0 => return none
  | fuel + 1 => do
    match ← Read.peek with
    | some (.versionDirective major minor) =>
      if hasVersion then Read.fail ⟨.found "duplicate %YAML directive", none⟩
      else if !isReadable major minor then
        Read.fail ⟨.found "incompatible YAML document", none⟩
      else
        Read.skip
        readDirectives true fuel
    | some (.tagDirective handle beginning) =>
      if (← get).handles.any (·.1 == handle) then
        Read.fail ⟨.found "duplicate %TAG directive", none⟩
      else
        Read.skip
        modify fun progress =>
          { progress with handles := progress.handles ++ [(handle, beginning)] }
        readDirectives hasVersion fuel
    | some _ => return some ()
    | none => return none

/-- Reads the node after a line of dashes. -/
def readAnnounced (fuel : Nat) : Read (Option Node) := do
  match ← readDirectives false fuel with
  | none => return none
  | some _ =>
    if ← Read.isAt [.documentStart] then
      Read.skip
      match ← Read.peek with
      | some (.versionDirective _ _) | some (.tagDirective _ _) => return some emptyNode
      | _ =>
        readNodeUnless [.documentStart, .documentEnd, .streamEnd] true false fuel
    else Read.fail ⟨.missing "expected <document start>", none⟩

/-- Reads the node of the first document, if there is one. -/
def readFirst (fuel : Nat) : Read (Option Node) := do
  match ← Read.peek with
  | none | some .streamEnd => return none
  | some (.versionDirective _ _) | some (.tagDirective _ _) | some .documentStart =>
    readAnnounced fuel
  | some _ => readNode true false fuel

/-- Whether the text ends after the marks that come next, which end documents. -/
def endsAfterMarks : (fuel : Nat) → Read Bool
  | 0 => return false
  | fuel + 1 => do
    match ← Read.peek with
    | some .documentEnd =>
      Read.skip
      endsAfterMarks fuel
    | some .streamEnd => return true
    | _ => return false

/-- Reads on after the first document. What comes after its end is a second document, even if it
cannot be read. -/
def readEnding (fuel : Nat) : Read Unit := do
  if (← Read.peek).isSome then
    if !(← endsAfterMarks fuel) then
      modify fun progress => { progress with fault := some ⟨.secondDocument, none⟩ }

/-- How many steps the reading of a text can take at most: none of its characters makes more than
four tokens, and none of these takes more than four steps. -/
def stepLimit (text : String) : Nat :=
  16 * (text.length + 2)

/-- What a text holds. -/
def Document.read (text : String) : Document :=
  match Layout.ofText text with
  | .error e => { root := none, targets := [], fault := some e }
  | .ok layout =>
    let reading : Read (Option Node) := do
      let root ← readFirst (stepLimit text)
      readEnding (stepLimit text)
      return root
    let (root, progress) := reading.run { layout, limit := text.length + 2 }
    { root, targets := progress.targets, fault := progress.fault }

end BrowserFlow.Yaml
