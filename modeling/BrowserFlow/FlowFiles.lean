import BrowserFlow.ErrorChain
import BrowserFlow.Files

/-!
# Flow files

Which files a path on the command line stands for: the file itself, or every flow file below the
directory. A flow file is known by its extension; a file that is named directly may have any. What
is in a directory comes in whatever order the file system has it, so that the paths are sorted.
-/

namespace BrowserFlow.FlowFiles

/-- The extensions of flow files. -/
def extensions : List String := ["flow", "txt", "md"]

/-- Whether a path has the extension of a flow file. -/
def isFlowFile (path : Path) : Bool :=
  match Path.extension? path with
  | some extension => extensions.contains extension
  | none => false

/-- What is taken from the contents of a directory: the paths of flow files. -/
def flowFile? (found : Path × Entry) : Option Path :=
  match found.2 with
  | .file _ => if isFlowFile found.1 then some found.1 else none
  | .directory _ => none

/-- The flow files that a path stands for. -/
def find (files : Files) (path : Path) : Except ErrorChain (List Path) :=
  if files.isFile path then .ok [path]
  else if files.isDirectory path then
    .ok (((files.contents path).filterMap flowFile?).mergeSort Path.le)
  else .error (.ofText ("Path not found: " ++ path))

/-- The text of a flow file. -/
def read (files : Files) (path : Path) : Except ErrorChain String :=
  (files.readText path).mapError fun e =>
    (ErrorChain.ofText e.message).context ("Failed to read file: " ++ path)

end BrowserFlow.FlowFiles
