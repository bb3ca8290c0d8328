/-!
# Errors with causes

A failure outside the browser is told as a chain of texts: what could not be done, then why. The
chain is shown in one line inside a message, or in full, as a report on the terminal.
-/

namespace BrowserFlow

/-- A failure and its causes, the outermost first. -/
structure ErrorChain where
  /-- What could not be done. -/
  summary : String
  /-- Why, each text being the cause of the one before it. -/
  causes : List String
  deriving DecidableEq, Repr

namespace ErrorChain

/-- A failure without a further cause. -/
def ofText (summary : String) : ErrorChain :=
  ⟨summary, []⟩

/-- The failure seen as the cause of a wider one. -/
def context (chain : ErrorChain) (summary : String) : ErrorChain :=
  ⟨summary, chain.summary :: chain.causes⟩

/-- The whole chain in one line, joined by colons. -/
def line (chain : ErrorChain) : String :=
  chain.causes.foldl (fun text cause => text ++ ": " ++ cause) chain.summary

/-- A text whose lines after the first are indented by `margin`. -/
def indented (margin text : String) : String :=
  ("\n" ++ margin).intercalate (text.splitOn "\n")

/-- The causes of a report, numbered from `n`. -/
def numbered (n : Nat) : List String → String
  | [] => ""
  | cause :: rest =>
    let label := toString n
    let margin := "".pushn ' ' (5 - label.length)
    "\n" ++ margin ++ label ++ ": " ++ indented "       " cause ++ numbered (n + 1) rest

/-- The report of a failure: its summary, and its causes below it, numbered if there are several. -/
def report (chain : ErrorChain) : String :=
  match chain.causes with
  | [] => chain.summary
  | [cause] => chain.summary ++ "\n\nCaused by:\n    " ++ indented "    " cause
  | causes => chain.summary ++ "\n\nCaused by:" ++ numbered 0 causes

end ErrorChain

end BrowserFlow
