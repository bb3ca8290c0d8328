import BrowserFlow.CommandLine.Program
import BrowserFlow.Session.Id
import Std.Time.DateTime.Timestamp

/-!
# The command line

The program with the real arguments, environment, clock and files. The files that the arguments
name are brought into memory before the program runs, and events are printed as soon as they are
sent. No library that drives pages belongs to this
program, so that flows can be shown and checked for errors, but no browser can be started.
-/

namespace BrowserFlow.CommandLine

/-- The paths of the files that the arguments name. -/
def namedPaths (arguments : List String) : List Path :=
  match Request.read arguments with
  | .ok (.run options) => options.path :: options.config.toList
  | .ok (.parse path) => [path]
  | _ => []

/-- A library that can do nothing. -/
def noLibrary : Page Unit where
  call _ state := (⟨.error "no library that drives pages is available", [], 0⟩, state)
  idle _ state := ([], state)

/-- Brings the file at a path into memory, if there is one. -/
def bring (files : Files) (path : Path) : IO Files := do
  try
    let bytes ← IO.FS.readBinFile path
    return files.plantAt path (.file (Content.ofBytes bytes.toList))
  catch e =>
    match e with
    | .inappropriateType _ _ _ => return files.plantAt path (.directory false)
    | _ => return files

/-- The number that eight bytes form. -/
def wordOf (bytes : List UInt8) : UInt64 :=
  bytes.foldl (fun word byte => word * 256 + byte.toUInt64) 0

end BrowserFlow.CommandLine

open BrowserFlow BrowserFlow.CommandLine

/-- Runs the program. -/
def main (arguments : List String) : IO UInt32 := do
  let environment : Environment :=
    { browser :=
        { headless := ← IO.getEnv "FLUXO_HEADLESS"
          executable := ← IO.getEnv "PLAYWRIGHT_CHROMIUM_EXECUTABLE_PATH" }
      forceColour := ← IO.getEnv "CLICOLOR_FORCE"
      noColour := ← IO.getEnv "NO_COLOR" }
  let random := (← IO.getRandomBytes 16).toList
  let started := (← Std.Time.Timestamp.now).toMillisecondsSinceUnixEpoch.toInt.toNat
  let surroundings : Surroundings Unit :=
    { environment, page := noLibrary
      clock := fun ms => ⟨started + ms⟩
      names := fun n =>
        SessionId.ofBits (wordOf (random.take 8)) (wordOf (random.drop 8) + n.toUInt64)
      pace := fun _ => Listener.stepsPerEvent }
  let here : Location := ["here"]
  let files ← (namedPaths arguments).foldlM bring ⟨[(here, .directory false)], here⟩
  let (output, _) := Program.run surroundings arguments { page := (), files }
  IO.print output.stdout
  IO.eprint output.stderr
  return output.code
