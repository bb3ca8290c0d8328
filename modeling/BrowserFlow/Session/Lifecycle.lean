import BrowserFlow.Flow
import BrowserFlow.Session.Stage

/-!
# From the first page to the end of a session

What can be done with a session as a whole: its first page is opened, it is claimed for a run, it
is closed. A closed session refuses what needs its browser, and closing it once more does nothing.
-/

namespace BrowserFlow.SessionOp

variable {W : Type}

/-- Fails if the session has been closed. -/
def ensureOpen : SessionOp W RunError Unit := do
  if (← get).session.closed then throw .closed

/-- Opens the first page, and records that as a step of the group for steps above every heading.
A failure is a record as well, unless the browser is gone. -/
def start (rig : Rig W) (url : String) : SessionOp W RunError Unit := do
  ensureOpen
  let description := "Navegou para " ++ url
  let begun ← elapsed
  match ← attempt rig (.navigate url) with
  | .ok _ => record (.success Flow.untitled description (← since begun) (← now rig))
  | .error e =>
    if e.isFatal then throw (.sessionLost e.message)
    record (.failure Flow.untitled description (← since begun) e.message (← now rig))

/-- Claims the session for a run. -/
def claim : SessionOp W RunError Unit := do
  ensureOpen
  if (← get).session.used then throw .alreadyUsed
  update fun session => { session with used := true }

/-- Forgets what was gathered so far. -/
def reset : SessionOp W RunError Unit :=
  update Session.reset

/-- Tells the browser to go away, unless that has been done. Whatever it answers, the session is
closed. -/
def close (rig : Rig W) : SessionOp W RunError Unit := do
  if (← get).session.closed then return
  update fun session => { session with closed := true }
  match ← attempt rig .close with
  | .ok _ => return
  | .error e => throw (.sessionLost e.message)

end BrowserFlow.SessionOp
