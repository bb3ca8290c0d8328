/-!
# Scripted failures

Rules by which a call is made to fail: by its name, perhaps by its first argument, and perhaps
only so many times.
-/

namespace BrowserFlow

/-- A rule by which calls fail with an error of type `ε`. -/
structure FailureRule (ε : Type) where
  /-- The name of the calls. -/
  call : String
  /-- Their first argument, if it matters. -/
  argument : Option String
  /-- The error. -/
  error : ε
  /-- How many more times the rule applies, if there is a limit. -/
  remaining : Option Nat

/-- Whether a rule applies to a call. -/
def FailureRule.applies {ε : Type} (rule : FailureRule ε) (call : String)
    (argument : Option String) : Bool :=
  rule.call == call && (rule.argument.isNone || rule.argument == argument) &&
    rule.remaining != some 0

/-- The rule after it has been applied once. -/
def FailureRule.used {ε : Type} (rule : FailureRule ε) : FailureRule ε :=
  { rule with remaining := rule.remaining.map (· - 1) }

/-- The error that the first applicable rule gives, and the rules after that. -/
def applyRules {ε : Type} (call : String) (argument : Option String) :
    List (FailureRule ε) → Option ε × List (FailureRule ε)
  | [] => (none, [])
  | rule :: rules =>
    if rule.applies call argument then (some rule.error, rule.used :: rules)
    else
      let (error, rules) := applyRules call argument rules
      (error, rule :: rules)

end BrowserFlow
