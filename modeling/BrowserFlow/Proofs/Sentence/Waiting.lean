import BrowserFlow.Proofs.Sentence.Verb
import BrowserFlow.Proofs.Text.Part

/-!
# How long a sentence asks to wait

Three notions of a number meet in a sentence that asks to wait. The run of digits that is taken for
the number may be of any script; the number is read from ASCII digits only, and must fit in 64 bits;
the time in milliseconds is cut to what 64 bits hold. `Action.ofSentence_timed` says which of them
decides: the first two refuse the sentence, and the last one never does.
-/

namespace BrowserFlow

open Text Sentence

/-- What becomes of a sentence that asks to wait. -/
structure Sentence.Timed (sentence : String) : Prop where
  /-- Without a digit of any script it is one second. -/
  without_digit : (∀ c ∈ (trimmed sentence).toList, isDecimalDigit c = false) →
    Action.ofSentence sentence = .ok (.wait 1000)
  /-- With a digit there is a first run of digits. -/
  exists_run : (∃ c ∈ (trimmed sentence).toList, isDecimalDigit c = true) →
    ∃ run, IsFirstRun isDecimalDigit run (trimmed sentence).toList
  /-- If the run consists of ASCII digits and denotes a number that 64 bits hold, it is that number
  of seconds, or as many milliseconds as 64 bits hold. -/
  counted : ∀ run, IsFirstRun isDecimalDigit run (trimmed sentence).toList →
    (∀ c ∈ run, isAsciiDigit c = true) →
    Nat.ofDigits 10 (run.reverse.map digitValue) ≤ 2 ^ 64 - 1 →
    ∃ ms, Action.ofSentence sentence = .ok (.wait ms) ∧
      ms.toNat = min (1000 * Nat.ofDigits 10 (run.reverse.map digitValue)) (2 ^ 64 - 1)
  /-- If a digit of the run is none of the ASCII digits, or the run denotes a greater number, the
  sentence is refused. -/
  refused : ∀ run, IsFirstRun isDecimalDigit run (trimmed sentence).toList →
    (∃ c ∈ run, isAsciiDigit c = false) ∨
      2 ^ 64 - 1 < Nat.ofDigits 10 (run.reverse.map digitValue) →
    Action.ofSentence sentence = .error (.malformed (trimmed sentence))

namespace Sentence

variable {run s : List Char}

/-- The milliseconds of some seconds are cut to 64 bits, and do not wrap around. -/
theorem toNat_milliseconds (seconds : Nat) :
    (milliseconds seconds).toNat = min (1000 * seconds) (2 ^ 64 - 1) := by
  have hfits : min (seconds * 1000) (UInt64.size - 1) < UInt64.size := by
    simp only [UInt64.size]
    omega
  rw [milliseconds, UInt64.toNat_ofNat_of_lt' hfits, Nat.mul_comm]
  rfl

/-- A run of ASCII digits is a number. -/
theorem natural?_of_forall (hne : run ≠ []) (hall : ∀ c ∈ run, isAsciiDigit c = true) :
    natural? run = some (numberOf run) := by
  have hdigits : run.all isAsciiDigit = true := List.all_eq_true.mpr hall
  simp [natural?, hne, hdigits]

/-- A run with another character is no number. -/
theorem natural?_of_exists (h : ∃ c ∈ run, isAsciiDigit c = false) : natural? run = none := by
  have hdigits : run.all isAsciiDigit = false := List.all_eq_false.mpr (by simpa using h)
  simp [natural?, hdigits]

/-- Without a digit it is one second. -/
theorem wait?_of_forall (h : ∀ c ∈ s, isDecimalDigit c = false) : wait? s = some (.wait 1000) := by
  have hnone : s.dropWhile (!isDecimalDigit ·) = [] :=
    List.dropWhile_eq_nil_iff.mpr fun c hc => by simp [h c hc]
  simp only [wait?, hnone]
  rfl

/-- With a digit the first run of digits is read. -/
theorem wait?_of_isFirstRun (h : IsFirstRun isDecimalDigit run s) :
    wait? s = (natural? run).bind fun seconds =>
      if seconds < UInt64.size then some (.wait (milliseconds seconds)) else none := by
  obtain ⟨hne, hscan⟩ := isFirstRun_iff.mp h
  have hrun : run.isEmpty = false := by simpa using hne
  simp only [wait?, hscan, hrun]
  cases natural? run <;> rfl

end Sentence

/-- A sentence that asks to wait says for how long, or is refused. -/
theorem Action.ofSentence_timed {sentence : String} (h : Verb.wait.Opens (trimmed sentence)) :
    Timed sentence := by
  have hread {action : Action} (hwait : wait? (trimmed sentence).toList = some action) :
      ofSentence sentence = .ok action := by
    rw [ofSentence_of_opens h, show action? .wait _ = wait? _ from rfl, hwait]
  have hrefuse (hwait : wait? (trimmed sentence).toList = none) :
      ofSentence sentence = .error (.malformed (trimmed sentence)) := by
    rw [ofSentence_of_opens h, show action? .wait _ = wait? _ from rfl, hwait]
  refine ⟨fun hnone => hread (wait?_of_forall hnone), exists_isFirstRun, ?_, ?_⟩
  · intro run hrun hall hfits
    rw [← numberOf_eq_ofDigits] at hfits ⊢
    refine ⟨milliseconds (numberOf run), hread ?_, toNat_milliseconds _⟩
    rw [wait?_of_isFirstRun hrun, natural?_of_forall hrun.ne_nil hall, Option.bind_some,
      if_pos (by simp only [UInt64.size]; omega)]
  · -- Either the run is no number, or it is one that is too great.
    intro run hrun hbad
    refine hrefuse ?_
    rw [wait?_of_isFirstRun hrun]
    by_cases hall : ∀ c ∈ run, isAsciiDigit c = true
    · have hgreat : 2 ^ 64 - 1 < numberOf run := by
        rw [numberOf_eq_ofDigits]
        exact hbad.resolve_left fun ⟨c, hc, hnot⟩ => by simp [hall c hc] at hnot
      rw [natural?_of_forall hrun.ne_nil hall, Option.bind_some,
        if_neg (by simp only [UInt64.size]; omega)]
    · rw [natural?_of_exists (by simpa using hall), Option.bind_none]

/-- A wait of many seconds, with zeros in front, and a digit of another script behind the run. -/
theorem Action.ofSentence_timed_long :
    Verb.wait.Opens (trimmed " Aguarde 0018446744073709551615 s ou ٣ ") ∧
      ofSentence " Aguarde 0018446744073709551615 s ou ٣ " = .ok (.wait 18446744073709551615) := by
  have hopens : Verb.wait.Opens (trimmed " Aguarde 0018446744073709551615 s ou ٣ ") := by
    unfold Verb.Opens
    decide
  have hrun : IsFirstRun isDecimalDigit "0018446744073709551615".toList
      (trimmed " Aguarde 0018446744073709551615 s ou ٣ ").toList := by
    rw [isFirstRun_iff]
    decide +kernel
  obtain ⟨ms, hread, hms⟩ := (ofSentence_timed hopens).counted _ hrun
    (List.all_eq_true.mp (by decide)) (by decide +kernel)
  refine ⟨hopens, ?_⟩
  rw [hread]
  obtain rfl : ms = 18446744073709551615 := UInt64.toNat_inj.mp (by rw [hms]; decide +kernel)
  rfl

-- A digit of another script belongs to the run, but cannot be read.
example : Action.ofSentence "Aguarde 5٣ s" = .error (.malformed "Aguarde 5٣ s") := by
  decide +kernel

end BrowserFlow
