import BrowserFlow.ErrorChain
import BrowserFlow.Files
import BrowserFlow.Json.Value
import BrowserFlow.Report.Format
import BrowserFlow.Text.Blank
import BrowserFlow.Yaml.Document
import BrowserFlow.Yaml.Value

/-!
# Configuration of a run

The options of a run and how they are read from YAML, of which JSON is a part. Every option may be
left out and then has its standard value; some options have a second name. Options are read in the
order of the text, the first fault decides, and names that mean nothing are passed over.
-/

namespace BrowserFlow

open Yaml

/-- The options of a run. -/
structure RunConfig where
  /-- Whether screenshots are taken when a step asks for one. -/
  captureScreenshots : Bool := true
  /-- Whether the report shows the console messages. -/
  captureLogs : Bool := true
  /-- The format of the report. -/
  reportFormat : ReportFormat := .json
  /-- The directory that reports are written into. -/
  reportDir : Path := "relatorios"
  /-- How many milliseconds to pause after every step that passes. -/
  stepDelayMs : Option UInt64 := none
  /-- Whether the rest of a group is left out after a step that fails. -/
  stopOnFailure : Bool := false
  /-- Whether the browser stays open after the run. -/
  keepOpen : Bool := false
  deriving DecidableEq, Repr, Inhabited

/-- The options by name. -/
inductive Setting
  | captureScreenshots | captureLogs | reportFormat | reportDir | stepDelayMs | stopOnFailure
  | keepOpen
  deriving DecidableEq, Repr

namespace Setting

/-- All options. -/
def all : List Setting := [
  .captureScreenshots, .captureLogs, .reportFormat, .reportDir, .stepDelayMs, .stopOnFailure,
  .keepOpen]

/-- The name of an option. -/
def name : Setting → String
  | .captureScreenshots => "captureScreenshots"
  | .captureLogs => "captureLogs"
  | .reportFormat => "reportFormat"
  | .reportDir => "reportDir"
  | .stepDelayMs => "tempoEspera"
  | .stopOnFailure => "pararNaFalha"
  | .keepOpen => "manterAberto"

/-- The second name of an option. -/
def otherName? : Setting → Option String
  | .stepDelayMs => some "stepDelayMs"
  | .stopOnFailure => some "stopOnFailure"
  | .keepOpen => some "keepOpen"
  | _ => none

/-- The option of a name. -/
def ofName? (name : String) : Option Setting :=
  all.find? fun setting => setting.name == name || setting.otherName? == some name

end Setting

/-- Why a text is no configuration. -/
inductive ConfigError
  /-- The text is not one well-formed document. -/
  | malformed (error : SyntaxError)
  /-- The document is no configuration; `place` says which option has the wrong value. -/
  | invalid (place : Option String) (error : DecodeError)
  deriving DecidableEq, Repr

/-- The error in words. -/
def ConfigError.message : ConfigError → String
  | .malformed e => e.message
  | .invalid none e => e.message
  | .invalid (some place) e => place ++ ": " ++ e.message

namespace RunConfig

/-! ## Values -/

/-- The error for a node that is not `expected`. -/
def unexpected {α : Type} (node : Node) (expected : String) : Except DecodeError α :=
  match node with
  | .scalar scalar => do throw (.wrongType (← scalar.value) expected)
  | .sequence _ _ => .error (.wrongType .sequence expected)
  | .mapping _ _ => .error (.wrongType .mapping expected)
  | .alias _ => .error (.unreadable "unknown anchor")
  | .cut => .error (.unreadable "unexpected end")

/-- The text of a scalar that may hold a value of the type that `tag` names: any plain one, and a
literal one with that tag. -/
def bareText? (tag : String) : Node → Option String
  | .scalar scalar =>
    if scalar.style == .plain || (scalar.style == .literal && scalar.tag == some (coreTag tag))
    then some scalar.text else none
  | _ => none

/-- A truth value. -/
def truth (node : Node) : Except DecodeError Bool :=
  match (bareText? "bool" node).bind bool? with
  | some b => .ok b
  | none => unexpected node "a boolean"

/-- A number of 64 bits. -/
def number (node : Node) : Except DecodeError UInt64 :=
  match (bareText? "int" node).bind fun text => unsigned? text.toList with
  | some n => if n < UInt64.size then .ok (UInt64.ofNat n) else unexpected node "u64"
  | none => unexpected node "u64"

/-- Whether a node stands for the absence of a value. The tag for that allows nothing else. -/
def isAbsent : Node → Except DecodeError Bool
  | .scalar scalar =>
    if scalar.style != .plain then .ok false
    else
      match scalar.tag with
      | none => .ok (scalar.text.isEmpty || isNull scalar.text)
      | some tag =>
        if tag != coreTag "null" then .ok false
        else if isNull scalar.text then .ok true
        else .error (.wrongValue (.string scalar.text) "null")
  | _ => .ok false

/-- A path. -/
def path (node : Node) : Except DecodeError Path :=
  match node with
  | .scalar scalar => .ok scalar.text
  | _ => unexpected node "path string"

/-- The format of a name. -/
def formatOf (name : String) : Except DecodeError ReportFormat :=
  match [ReportFormat.json, .html].find? (·.extension == name) with
  | some format => .ok format
  | none => .error (.unknownVariant name [ReportFormat.json.extension, ReportFormat.html.extension])

/-- The name that a tag of the document's own names. -/
def ownTag? (tag : Option Address) : Option String :=
  tag.bind fun tag =>
    if tag.isOwn then Address.text? (if tag.length == 1 then tag else tag.drop 1) else none

/-- What a tag that names a format may stand in front of: nothing. -/
def noContent (node : Node) : Except DecodeError Unit :=
  match node with
  | .scalar scalar =>
    if scalar.style == .plain && (scalar.text.isEmpty || isNull scalar.text) then .ok ()
    else .error (.wrongValue (.string scalar.text) "null")
  | _ => unexpected node "unit"

/-- The tag of a node. -/
def tagOf : Node → Option Address
  | .scalar scalar => scalar.tag
  | .sequence tag _ => tag
  | .mapping tag _ => tag
  | .alias _ | .cut => none

/-- A format, given by its name or by a tag. `place` is where the value stands; a tag that names
no format is reported without it. -/
def format (place : String) (node : Node) : Except ConfigError ReportFormat :=
  let placed {α : Type} (result : Except DecodeError α) : Except ConfigError α :=
    result.mapError (.invalid (some place))
  match ownTag? (tagOf node), node with
  | some name, _ => do
    let format ← (formatOf name).mapError (.invalid none)
    placed (noContent node)
    return format
  | none, .scalar scalar => placed (formatOf scalar.text)
  | none, _ => placed (unexpected node "a YAML tag starting with '!'")

/-! ## The document -/

/-- The node that a node stands for. -/
def resolve (document : Document) (node : Node) : Node :=
  match node with
  | .alias number => (document.target? number).getD node
  | _ => node

/-- The configuration with an option set to what a node stands for. -/
def set (config : RunConfig) (setting : Setting) (place : String) (node : Node) :
    Except ConfigError RunConfig := do
  let placed {α : Type} (result : Except DecodeError α) : Except ConfigError α :=
    result.mapError (.invalid (some place))
  match setting with
  | .captureScreenshots => return { config with captureScreenshots := ← placed (truth node) }
  | .captureLogs => return { config with captureLogs := ← placed (truth node) }
  | .reportFormat => return { config with reportFormat := ← format place node }
  | .reportDir => return { config with reportDir := ← placed (path node) }
  | .stepDelayMs =>
    if ← (isAbsent node).mapError (.invalid none) then return { config with stepDelayMs := none }
    else return { config with stepDelayMs := some (← placed (number node)) }
  | .stopOnFailure => return { config with stopOnFailure := ← placed (truth node) }
  | .keepOpen => return { config with keepOpen := ← placed (truth node) }

/-- The name that a key is, and how messages show it; aliases are not shown. -/
def keyOf (document : Document) (key : Node) : Except ConfigError (String × String) :=
  match key, resolve document key with
  | .scalar scalar, _ => .ok (scalar.text, scalar.text)
  | _, .scalar scalar => .ok (scalar.text, "?")
  | _, node => (unexpected node "field identifier").mapError (.invalid none)

/-- The configuration with the options of some members set; `seen` have been set before. At a value
that is cut off nothing remains to be set. -/
def setAll (document : Document) (config : RunConfig) (seen : List Setting) :
    List (Node × Node) → Except ConfigError RunConfig
  | [] => .ok config
  | (key, value) :: rest => do
    let (name, place) ← keyOf document key
    match Setting.ofName? name with
    | none => setAll document config seen rest
    | some setting =>
      if seen.contains setting then throw (.invalid none (.duplicateField setting.name))
      match value with
      | .cut => return config
      | value =>
        let config ← config.set setting place (resolve document value)
        setAll document config (setting :: seen) rest

/-- The configuration of a node. -/
def ofNode (document : Document) (node : Node) : Except ConfigError RunConfig :=
  match node with
  | .mapping _ members => setAll document {} [] members
  | .scalar ⟨"", .plain, _⟩ => .ok {}
  | node => (unexpected node "struct RunConfig").mapError (.invalid none)

/-- The configuration of a document. What is wrong with its content comes before what is wrong
with its form, since it stands in front of it. -/
def ofDocument (document : Document) : Except ConfigError RunConfig := do
  let config ←
    match document.root with
    | some node => ofNode document node
    | none => pure {}
  match document.fault with
  | some fault => throw (.malformed fault)
  | none => return config

/-- Whether a text is empty but for blanks; such a text is the standard configuration. -/
def isBlankText (text : String) : Bool :=
  text.toList.all Text.isBlank

/-- The configuration that a text holds. -/
def read (text : String) : Except ConfigError RunConfig :=
  if isBlankText text then .ok {} else ofDocument (Document.read text)

/-- The configuration in a file. -/
def load (files : Files) (path : Path) : Except ErrorChain RunConfig := do
  let text ← (files.readText path).mapError fun e =>
    (ErrorChain.ofText e.message).context ("Failed to read config: " ++ path)
  (read text).mapError fun e =>
    (ErrorChain.ofText e.message).context ("Invalid config: " ++ path)

/-- A configuration as a JSON object. -/
def toJson (config : RunConfig) : Json :=
  let delay := match config.stepDelayMs with
    | some ms => Json.natural ms.toNat
    | none => .null
  .object [
    (Setting.captureScreenshots.name, .bool config.captureScreenshots),
    (Setting.captureLogs.name, .bool config.captureLogs),
    (Setting.reportFormat.name, .string config.reportFormat.extension),
    (Setting.reportDir.name, .string config.reportDir),
    (Setting.stepDelayMs.name, delay),
    (Setting.stopOnFailure.name, .bool config.stopOnFailure),
    (Setting.keepOpen.name, .bool config.keepOpen)]

end RunConfig

end BrowserFlow
