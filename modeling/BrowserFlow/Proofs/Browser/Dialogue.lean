import BrowserFlow.Browser.Web

/-!
# What a browser says to its page

A browser on a page does not tell what it asked the page. `Page.noting` is a page that notes every
call with its outcome, and otherwise answers as the page it is made from. The dialogue of a call to
the browser is what such a page has noted at the end of it.

`Talks` relates an operation on a page to the same operation on the page that notes, and says of
every dialogue and the result that it leads to that they are related in some way. It has a rule for
each way in which operations are built.
-/

namespace BrowserFlow

variable {P α β : Type}

/-- A call to a page, and how it ended. -/
structure Exchange where
  /-- The call. -/
  call : PageCall
  /-- The answer, or the words of the failure. -/
  outcome : Except String call.Answer

/-- The page that notes every call and its outcome. -/
def Page.noting (page : Page P) : Page (P × List Exchange) where
  call c state :=
    let (reply, p) := page.call c state.1
    (reply, (p, state.2 ++ [⟨c, reply.outcome⟩]))
  idle ms state :=
    let (events, p) := page.idle ms state.1
    (events, (p, state.2))

namespace WebState

/-- The state on the page that notes, where these calls have been noted. -/
def noted (state : WebState P) (log : List Exchange) : WebState (P × List Exchange) where
  page := (state.page, log)
  files := state.files
  shots := state.shots
  listening := state.listening
  news := state.news
  elapsed := state.elapsed

/-- What happens on the page has nothing to do with what has been noted. -/
theorem noted_observe (state : WebState P) (events : List PageEvent) (log : List Exchange) :
    (state.noted log).observe events = (state.observe events).noted log := by
  unfold observe
  cases h : state.listening <;> simp [noted, h]

end WebState

namespace Web

/-- The calls to its page that a browser makes when it is asked something in a state. -/
def dialogue (page : Page P) (config : WebConfig) (c : Call) (state : WebState P) :
    List Exchange :=
  ((browser page.noting config).call c (state.noted [])).2.page.2

/-- How a browser answers when it is asked something in a state. -/
def outcome (page : Page P) (config : WebConfig) (c : Call) (state : WebState P) :
    Except BrowserError c.Answer :=
  ((browser page config).call c state).1.outcome

/-- What becomes of the answer of a page. -/
def answered : Except String α → Except BrowserError α
  | .ok a => .ok a
  | .error message => .error (.ofPage message)

/-- The end of an operation with a result and in a state. -/
def ended (r : Except BrowserError α) (state : WebState P) :
    EStateM.Result BrowserError (WebState P) α :=
  match r with
  | .ok a => .ok a state
  | .error e => .error e state

/-- A sequence goes on where its first part ends, unless that fails. -/
theorem bind_apply {op : PageOp P α} {next : α → PageOp P β} {state after : WebState P}
    {r : Except BrowserError α} : op state = ended r after →
    (op >>= next) state = match r with
      | .ok a => next a after
      | .error e => ended (.error e) after := by
  intro h
  change EStateM.bind op next state = _
  rw [EStateM.bind, h]
  cases r <;> rfl

/-- Another way begins where the first one ends, if that fails. -/
theorem tryCatch_apply {op : PageOp P α} {other : BrowserError → PageOp P α}
    {state after : WebState P} {r : Except BrowserError α} : op state = ended r after →
    tryCatch op other state = match r with
      | .ok a => ended (.ok a) after
      | .error e => other e after := by
  intro h
  change EStateM.tryCatch op other state = _
  delta EStateM.tryCatch
  dsimp only
  rw [h]
  cases r <;> rfl

/-- The reply to a call tells how the operation ended, and hands over what has been collected. -/
theorem reply_apply {op : PageOp P α} {state after : WebState P} {r : Except BrowserError α}
    (h : op state = ended r after) :
    reply op state = (⟨r, after.news, after.elapsed⟩, after.replied) := by
  rw [reply, h]
  cases r <;> rfl

/-- What is asked of the library ends with its answer. -/
theorem ask_apply (page : Page P) (c : PageCall) (state : WebState P) :
    ask page c state = ended (answered (page.call c state.page).1.outcome)
      (state.after c (page.call c state.page).1 (page.call c state.page).2) := by
  unfold ask
  rcases page.call c state.page with ⟨⟨_ | _, events, elapsed⟩, p⟩ <;> rfl

/-- Letting time pass ends well. -/
theorem linger_apply (page : Page P) (ms : Nat) (state : WebState P) :
    linger page ms state = ended (.ok ())
      (state.later ms (page.idle ms state.page).1 (page.idle ms state.page).2) := rfl

/-- An operation and its like on the page that notes say the same in a state, and come to the same
end, except that one of them has noted it. -/
structure Talk (op : PageOp P α) (like : PageOp (P × List Exchange) α) (state : WebState P)
    (told : List Exchange) (r : Except BrowserError α) (after : WebState P) : Prop where
  /-- The end of the operation. -/
  plain : op state = ended r after
  /-- The end of its like, whatever has been noted before. -/
  noted : ∀ log, like (state.noted log) = ended r (after.noted (log ++ told))

/-- In every state an operation and its like say the same and come to the same end, and what is
said is related to the result. -/
def Talks (op : PageOp P α) (like : PageOp (P × List Exchange) α)
    (Q : List Exchange → Except BrowserError α → Prop) : Prop :=
  ∀ state, ∃ told r after, Talk op like state told r after ∧ Q told r

namespace Talk

variable {op : PageOp P α} {like : PageOp (P × List Exchange) α} {state after last : WebState P}
  {told more : List Exchange}

/-- A sequence goes on after a part that succeeds. -/
theorem bind_ok {next : α → PageOp P β} {likeNext : α → PageOp (P × List Exchange) β} {a : α}
    {r : Except BrowserError β} (h : Talk op like state told (.ok a) after)
    (hnext : Talk (next a) (likeNext a) after more r last) :
    Talk (op >>= next) (like >>= likeNext) state (told ++ more) r last where
  plain := (bind_apply h.plain).trans hnext.plain
  noted log := by
    rw [bind_apply (h.noted log), ← List.append_assoc]
    exact hnext.noted _

/-- A sequence ends with a part that fails. -/
theorem bind_error {next : α → PageOp P β} {likeNext : α → PageOp (P × List Exchange) β}
    {e : BrowserError} (h : Talk op like state told (.error e) after) :
    Talk (op >>= next) (like >>= likeNext) state told (.error e) after where
  plain := bind_apply h.plain
  noted log := bind_apply (h.noted log)

/-- An operation that succeeds needs no other way. -/
theorem tryCatch_ok {other : BrowserError → PageOp P α}
    {likeOther : BrowserError → PageOp (P × List Exchange) α} {a : α}
    (h : Talk op like state told (.ok a) after) :
    Talk (tryCatch op other) (tryCatch like likeOther) state told (.ok a) after where
  plain := tryCatch_apply h.plain
  noted log := tryCatch_apply (h.noted log)

/-- When an operation fails the other way is tried from where it failed. -/
theorem tryCatch_error {other : BrowserError → PageOp P α}
    {likeOther : BrowserError → PageOp (P × List Exchange) α} {e : BrowserError}
    {r : Except BrowserError α} (h : Talk op like state told (.error e) after)
    (hother : Talk (other e) (likeOther e) after more r last) :
    Talk (tryCatch op other) (tryCatch like likeOther) state (told ++ more) r last where
  plain := (tryCatch_apply h.plain).trans hother.plain
  noted log := by
    rw [tryCatch_apply (h.noted log), ← List.append_assoc]
    exact hother.noted _

end Talk

namespace Talks

variable {op : PageOp P α} {like : PageOp (P × List Exchange) α}
  {Q R : List Exchange → Except BrowserError α → Prop}

/-- Less may be said of what is said. -/
theorem mono (h : Talks op like Q) (hQ : ∀ told r, Q told r → R told r) : Talks op like R := by
  intro state
  obtain ⟨told, r, after, talk, hq⟩ := h state
  exact ⟨told, r, after, talk, hQ told r hq⟩

/-- Nothing is said where nothing is done. -/
theorem pure {a : α} (h : Q [] (.ok a)) : Talks (P := P) (pure a) (pure a) Q := by
  intro state
  exact ⟨[], .ok a, state, ⟨rfl, fun log => by rw [List.append_nil]; rfl⟩, h⟩

/-- Nothing is said where an operation fails at once. -/
theorem throw {e : BrowserError} (h : Q [] (.error e)) :
    Talks (P := P) (throw e) (throw e) Q := by
  intro state
  exact ⟨[], .error e, state, ⟨rfl, fun log => by rw [List.append_nil]; rfl⟩, h⟩

/-- What is asked is said, with the answer. -/
theorem ask (page : Page P) (c : PageCall)
    {Q : List Exchange → Except BrowserError c.Answer → Prop}
    (h : ∀ r, Q [⟨c, r⟩] (answered r)) : Talks (ask page c) (ask page.noting c) Q := by
  intro state
  refine ⟨[⟨c, (page.call c state.page).1.outcome⟩], _, _,
    ⟨ask_apply page c state, fun log => ?_⟩, h _⟩
  rw [WebState.after, ← WebState.noted_observe]
  exact ask_apply page.noting c (state.noted log)

/-- Nothing is said while time passes. -/
theorem linger (page : Page P) (ms : Nat) {Q : List Exchange → Except BrowserError Unit → Prop}
    (h : Q [] (.ok ())) : Talks (Web.linger page ms) (Web.linger page.noting ms) Q := by
  intro state
  refine ⟨[], .ok (), _, ⟨linger_apply page ms state, fun log => ?_⟩, h⟩
  rw [List.append_nil, WebState.later, ← WebState.noted_observe]
  rfl

/-- What a sequence says is what its parts say, up to the first that fails. -/
theorem bind {next : α → PageOp P β} {likeNext : α → PageOp (P × List Exchange) β}
    {R : List Exchange → Except BrowserError β → Prop} (h : Talks op like Q)
    (hok : ∀ told a, Q told (.ok a) →
      Talks (next a) (likeNext a) fun more r => R (told ++ more) r)
    (herror : ∀ told e, Q told (.error e) → R told (.error e)) :
    Talks (op >>= next) (like >>= likeNext) R := by
  intro state
  obtain ⟨told, r, after, talk, hq⟩ := h state
  cases r with
  | ok a =>
    obtain ⟨more, r, last, talk', hr⟩ := hok told a hq after
    exact ⟨told ++ more, r, last, talk.bind_ok talk', hr⟩
  | error e => exact ⟨told, .error e, after, talk.bind_error, herror told e hq⟩

/-- What is said on two ways is what is said on the first, and on the second if the first
fails. -/
theorem catching {other : BrowserError → PageOp P α}
    {likeOther : BrowserError → PageOp (P × List Exchange) α} (h : Talks op like Q)
    (hok : ∀ told a, Q told (.ok a) → R told (.ok a))
    (herror : ∀ told e, Q told (.error e) →
      Talks (other e) (likeOther e) fun more r => R (told ++ more) r) :
    Talks (tryCatch op other) (tryCatch like likeOther) R := by
  intro state
  obtain ⟨told, r, after, talk, hq⟩ := h state
  cases r with
  | ok a => exact ⟨told, .ok a, after, talk.tryCatch_ok, hok told a hq⟩
  | error e =>
    obtain ⟨more, r, last, talk', hr⟩ := herror told e hq after
    exact ⟨told ++ more, r, last, talk.tryCatch_error talk', hr⟩

/-- What is said when something is asked is the question, and its answer is the result. -/
theorem ask_exactly (page : Page P) (c : PageCall) :
    Talks (Web.ask page c) (Web.ask page.noting c) fun told r =>
      ∃ answer, told = [⟨c, answer⟩] ∧ r = answered answer :=
  Talks.ask page c fun answer => ⟨answer, rfl, rfl⟩

/-- A sequence that begins with a question goes on with the answer. -/
theorem ask_bind (page : Page P) (c : PageCall) {next : c.Answer → PageOp P β}
    {likeNext : c.Answer → PageOp (P × List Exchange) β}
    {R : List Exchange → Except BrowserError β → Prop}
    (hok : ∀ a, Talks (next a) (likeNext a) fun more r => R (⟨c, .ok a⟩ :: more) r)
    (herror : ∀ message, R [⟨c, .error message⟩] (.error (.ofPage message))) :
    Talks (Web.ask page c >>= next) (Web.ask page.noting c >>= likeNext) R := by
  refine (ask_exactly page c).bind ?_ ?_
  · rintro _ a ⟨_ | _, rfl, h⟩
    · cases h
    · cases h
      exact hok a
  · rintro _ _ ⟨message | _, rfl, h⟩
    · cases h
      exact herror message
    · cases h

/-- A question that is not answered leads to the other way. -/
theorem ask_catching (page : Page P) (c : PageCall) {other : BrowserError → PageOp P c.Answer}
    {likeOther : BrowserError → PageOp (P × List Exchange) c.Answer}
    {R : List Exchange → Except BrowserError c.Answer → Prop}
    (hok : ∀ a, R [⟨c, .ok a⟩] (.ok a))
    (herror : ∀ message, Talks (other (.ofPage message)) (likeOther (.ofPage message))
      fun more r => R (⟨c, .error message⟩ :: more) r) :
    Talks (tryCatch (Web.ask page c) other) (tryCatch (Web.ask page.noting c) likeOther) R := by
  refine (ask_exactly page c).catching ?_ ?_
  · rintro _ a ⟨_ | _, rfl, h⟩
    · cases h
    · cases h
      exact hok a
  · rintro _ _ ⟨message | _, rfl, h⟩
    · cases h
      exact herror message
    · cases h

end Talks

/-- What a browser is asked is done with its page. -/
theorem browser_call (page : Page P) (config : WebConfig) (c : Call) (state : WebState P) :
    (browser page config).call c state = reply (perform page config c) state := rfl

/-- What is related to the results of all that may be said is related to the answer by what the
browser says. -/
theorem Talks.dialogue {page : Page P} {config : WebConfig} {c : Call}
    {Q : List Exchange → Except BrowserError c.Answer → Prop}
    (h : Talks (perform page config c) (perform page.noting config c) Q) (state : WebState P) :
    Q (dialogue page config c state) (outcome page config c state) := by
  obtain ⟨told, r, after, talk, hq⟩ := h state
  unfold Web.dialogue outcome
  rw [browser_call, browser_call, reply_apply talk.plain, reply_apply (talk.noted [])]
  exact hq

end Web

end BrowserFlow
