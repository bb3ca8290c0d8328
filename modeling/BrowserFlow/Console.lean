import BrowserFlow.Text.Search
import BrowserFlow.Timestamp

/-!
# Console messages

A page writes messages to its console, and a session keeps the transcript. A transcript may be
held by several owners at once: `Consoles` is a store of transcripts with handles to them, where a
cloned handle leads to the same transcript, and what is pushed through one is seen through the
other. The `Console` of a session is such a store with the session's own handle and the one that the
browser pushes through; that the two lead to one transcript is part of what a console is.
-/

namespace BrowserFlow

/-- A message as a page writes it. -/
structure Message where
  /-- The kind of the message. -/
  kind : String
  /-- Its text. -/
  text : String
  deriving DecidableEq, Repr

/-- A message with the time of its arrival. -/
structure LogEntry where
  /-- The kind of the message. -/
  kind : String
  /-- Its text. -/
  text : String
  /-- When it arrived. -/
  time : String
  deriving DecidableEq, Repr

/-- The messages that have arrived, in order. -/
abbrev Transcript := List LogEntry

/-- The entry of a message that arrives at some time. -/
def Message.entry (message : Message) (at_ : Timestamp) : LogEntry :=
  ⟨message.kind, message.text, at_.iso⟩

/-- Whether some message contains a text. -/
def Transcript.mentions (transcript : Transcript) (needle : String) : Bool :=
  transcript.any fun entry => Text.contains entry.text needle

/-- Transcripts and the handles to them. -/
structure Consoles where
  /-- The transcripts. -/
  transcripts : List Transcript := [[]]
  /-- For every handle, which transcript it leads to. -/
  handles : List Nat := [0]
  deriving DecidableEq, Repr

namespace Consoles

/-- The transcript that a handle leads to; a handle that does not exist leads to none. -/
def read (consoles : Consoles) (handle : Nat) : Transcript :=
  match consoles.handles[handle]? with
  | some i => consoles.transcripts[i]?.getD []
  | none => []

/-- The store with the transcript of a handle changed. -/
def update (consoles : Consoles) (handle : Nat) (change : Transcript → Transcript) : Consoles :=
  match consoles.handles[handle]? with
  | some i => { consoles with transcripts := consoles.transcripts.modify i change }
  | none => consoles

/-- The store after a message has been pushed through a handle. -/
def push (consoles : Consoles) (handle : Nat) (entry : LogEntry) : Consoles :=
  consoles.update handle (· ++ [entry])

/-- The store after the transcript of a handle has been emptied. -/
def clear (consoles : Consoles) (handle : Nat) : Consoles :=
  consoles.update handle fun _ => []

/-- The store with one more handle, to the transcript that `handle` leads to. -/
def clone (consoles : Consoles) (handle : Nat) : Consoles :=
  { consoles with handles := consoles.handles ++ [consoles.handles[handle]?.getD 0] }

/-- The store with one more handle, to a new transcript. -/
def add (consoles : Consoles) : Consoles :=
  { transcripts := consoles.transcripts ++ [[]]
    handles := consoles.handles ++ [consoles.transcripts.length] }

/-- Two handles lead to one transcript. -/
def Shares (consoles : Consoles) (a b : Nat) : Prop :=
  ∃ i, i < consoles.transcripts.length ∧ consoles.handles[a]? = some i ∧
    consoles.handles[b]? = some i

variable {consoles : Consoles} {a b : Nat}

/-- A change of a transcript leaves the handles alone. -/
@[simp]
theorem update_handles (consoles : Consoles) (handle : Nat) (change : Transcript → Transcript) :
    (consoles.update handle change).handles = consoles.handles := by
  unfold update
  split <;> rfl

/-- A change of a transcript leaves the number of transcripts as it is. -/
@[simp]
theorem update_length (consoles : Consoles) (handle : Nat) (change : Transcript → Transcript) :
    (consoles.update handle change).transcripts.length = consoles.transcripts.length := by
  unfold update
  split
  · exact List.length_modify ..
  · rfl

/-- Handles to one transcript stay so when it is changed. -/
theorem Shares.update (h : consoles.Shares a b) (handle : Nat) (change : Transcript → Transcript) :
    (consoles.update handle change).Shares a b := by
  obtain ⟨i, hi, ha, hb⟩ := h
  exact ⟨i, by simpa using hi, by simpa using ha, by simpa using hb⟩

/-- It does not matter which of two handles comes first. -/
theorem Shares.symm (h : consoles.Shares a b) : consoles.Shares b a := by
  obtain ⟨i, hi, ha, hb⟩ := h
  exact ⟨i, hi, hb, ha⟩

/-- Through handles to one transcript the same is read. -/
theorem Shares.read_eq (h : consoles.Shares a b) : consoles.read a = consoles.read b := by
  obtain ⟨i, -, ha, hb⟩ := h
  rw [Consoles.read, Consoles.read, ha, hb]

/-- What is changed through one of two handles to one transcript is read through the other. -/
theorem Shares.read_update (h : consoles.Shares a b) (change : Transcript → Transcript) :
    (consoles.update a change).read b = change (consoles.read b) := by
  obtain ⟨i, hi, ha, hb⟩ := h
  have hupdate : consoles.update a change =
      { consoles with transcripts := consoles.transcripts.modify i change } := by
    rw [Consoles.update, ha]
  rw [read, read, hupdate]
  simp [hb, hi]

end Consoles

/-- The console of a session. -/
structure Console where
  /-- The transcripts and the handles to them. -/
  consoles : Consoles
  /-- The session's own handle. -/
  own : Nat
  /-- The handle that the browser pushes through. -/
  sink : Nat
  /-- Both lead to one transcript. -/
  shared : consoles.Shares own sink
  deriving DecidableEq

namespace Console

/-- The console of a new session: a new handle, of which the browser gets a clone. -/
def opened : Console where
  consoles := ({} : Consoles).clone 0
  own := 0
  sink := 1
  shared := ⟨0, Nat.zero_lt_one, rfl, rfl⟩

/-- What the session reads through its handle. -/
def transcript (console : Console) : Transcript :=
  console.consoles.read console.own

/-- The console after the browser has pushed a message. -/
def push (console : Console) (entry : LogEntry) : Console :=
  { console with
    consoles := console.consoles.push console.sink entry
    shared := console.shared.update _ _ }

/-- The console after the session has emptied it. -/
def clear (console : Console) : Console :=
  { console with
    consoles := console.consoles.clear console.own
    shared := console.shared.update _ _ }

@[simp]
theorem opened_transcript : opened.transcript = [] := rfl

/-- What the browser pushes is what the session reads last. -/
@[simp]
theorem push_transcript (console : Console) (entry : LogEntry) :
    (console.push entry).transcript = console.transcript ++ [entry] :=
  console.shared.symm.read_update _

/-- After some messages these are what the session reads last. -/
@[simp]
theorem foldl_push_transcript (console : Console) (entries : Transcript) :
    (entries.foldl push console).transcript = console.transcript ++ entries := by
  induction entries generalizing console with
  | nil => exact (List.append_nil _).symm
  | cons entry entries ih =>
    rw [List.foldl_cons, ih, push_transcript, List.append_assoc, List.singleton_append]

/-- Nothing is read of a console that has been emptied. -/
@[simp]
theorem clear_transcript (console : Console) : console.clear.transcript = [] := by
  obtain ⟨i, hi, hown, -⟩ := console.shared
  exact Consoles.Shares.read_update ⟨i, hi, hown, hown⟩ _

/-- The browser's handle shows what the session reads. -/
theorem read_sink (console : Console) :
    console.consoles.read console.sink = console.transcript :=
  console.shared.read_eq.symm

end Console

end BrowserFlow
