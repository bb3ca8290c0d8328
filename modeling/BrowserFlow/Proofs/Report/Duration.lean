import BrowserFlow.Proofs.Json.Scalar
import BrowserFlow.Proofs.Number.Rounding
import BrowserFlow.Report.Html

/-!
# Durations as readers see them

A report shows a duration as milliseconds, as seconds with one decimal, or as minutes and seconds. A
`Clock` is what a reader takes from such a text, which is one time only (`Clock.text_injective`).
`duration_told` says how that time is related to the duration: it is as near as its last place
allows, and a longer duration is never shown as a shorter time. Seconds are rounded by themselves,
though, after the form of the text has been decided: right below a full minute they are shown as
sixty, and nothing is carried over. `Carries` lists these durations, and there are no others whose
text is out of range.
-/

namespace BrowserFlow.Report

open Number Text JsonText

/-- A time as a report shows it. -/
inductive Clock
  /-- Milliseconds. -/
  | milliseconds (n : ℕ)
  /-- Tenths of a second. -/
  | seconds (tenths : ℕ)
  /-- Minutes and seconds. -/
  | minutes (minutes seconds : ℕ)

namespace Clock

/-- The text of a time. -/
def text : Clock → String
  | milliseconds n => decimal n ++ "ms"
  | seconds tenths => decimal (tenths / 10) ++ "." ++ decimal (tenths % 10) ++ "s"
  | minutes m s => decimal m ++ "m " ++ decimal s ++ "s"

/-- The time in milliseconds. -/
def ms : Clock → ℕ
  | milliseconds n => n
  | seconds tenths => 100 * tenths
  | minutes m s => 60000 * m + 1000 * s

/-- Half a unit of the last place, in milliseconds. -/
def slack : Clock → ℤ
  | milliseconds _ => 0
  | seconds _ => 50
  | minutes _ _ => 500

/-- No place of the time is as great as one of the next. -/
def InRange : Clock → Prop
  | milliseconds n => n < 1000
  | seconds tenths => tenths < 600
  | minutes _ s => s < 60

/-- The time is in the form for a duration, and its minutes are those of the duration. -/
def Suits (duration : ℕ) : Clock → Prop
  | milliseconds _ => duration < 1000
  | seconds _ => 1000 ≤ duration ∧ duration < 60000
  | minutes m _ => 60000 ≤ duration ∧ m = duration / 60000

/-- The time that is shown for a duration. -/
def ofDuration (ms : ℕ) : Clock :=
  if ms < 1000 then milliseconds ms
  else if ms < 60000 then seconds ((Binary64.ofRatio ms 1000).scaled 1)
  else minutes (ms / 60000) ((Binary64.ofRatio (ms % 60000) 1000).scaled 0)

end Clock

/-! ## One text, one time -/

/-- A number and what follows it are told apart by the first character that is no digit. -/
theorem toDigits_append_inj {m n : ℕ} {c d : Char} {s t : List Char}
    (hc : isAsciiDigit c = false) (hd : isAsciiDigit d = false)
    (h : Nat.toDigits 10 m ++ c :: s = Nat.toDigits 10 n ++ d :: t) :
    m = n ∧ c :: s = d :: t := by
  have hdigits (k : ℕ) : ∀ e ∈ Nat.toDigits 10 k, isAsciiDigit e = true :=
    fun e he => isAsciiDigit_of_mem_toDigits he
  have hnumber : Nat.toDigits 10 m = Nat.toDigits 10 n := by
    have htake := congrArg (List.takeWhile isAsciiDigit) h
    rwa [List.takeWhile_append_of_pos (hdigits m), List.takeWhile_append_of_pos (hdigits n),
      List.takeWhile_cons_of_neg (by simp [hc]), List.takeWhile_cons_of_neg (by simp [hd]),
      List.append_nil, List.append_nil] at htake
  refine ⟨?_, ?_⟩
  · rw [← Nat.ofDigitChars_ten_toDigits (n := m), hnumber, Nat.ofDigitChars_ten_toDigits]
  · rw [hnumber] at h
    exact List.append_cancel_left h

namespace Clock

/-- The number with which a time starts. -/
def first : Clock → ℕ
  | milliseconds n => n
  | seconds tenths => tenths / 10
  | minutes m _ => m

/-- What is written behind the first number. -/
def rest : Clock → Char × List Char
  | milliseconds _ => ('m', ['s'])
  | seconds tenths => ('.', Nat.toDigits 10 (tenths % 10) ++ ['s'])
  | minutes _ s => ('m', ' ' :: (Nat.toDigits 10 s ++ ['s']))

theorem toList_text (time : Clock) :
    time.text.toList = Nat.toDigits 10 time.first ++ time.rest.1 :: time.rest.2 := by
  cases time <;> simp [text, first, rest, decimal]

theorem isAsciiDigit_rest (time : Clock) : isAsciiDigit time.rest.1 = false := by
  cases time <;> rfl

/-- Times are told apart by their texts. -/
theorem text_injective : Function.Injective text := by
  intro time time' h
  have h := congrArg String.toList h
  rw [toList_text, toList_text] at h
  -- The first number ends where the digits end. What follows it tells the units apart.
  obtain ⟨hfirst, hrest⟩ := toDigits_append_inj time.isAsciiDigit_rest time'.isAsciiDigit_rest h
  have hnumber {m n : ℕ} (h : Nat.toDigits 10 m ++ ['s'] = Nat.toDigits 10 n ++ ['s']) : m = n :=
    (toDigits_append_inj (by decide) (by decide) h).1
  cases time with
  | milliseconds n =>
    cases time' with
    | milliseconds n' => exact congrArg milliseconds hfirst
    | _ => simp [rest] at hrest
  | seconds t =>
    cases time' with
    | seconds t' =>
      have hfirst : t / 10 = t' / 10 := hfirst
      have hlast : t % 10 = t' % 10 := hnumber (List.cons.inj hrest).2
      exact congrArg seconds (by omega)
    | _ => simp [rest] at hrest
  | minutes m s =>
    cases time' with
    | minutes m' s' =>
      have hlast : s = s' := hnumber (List.cons.inj (List.cons.inj hrest).2).2
      exact congrArg₂ minutes hfirst hlast
    | _ => simp [rest] at hrest

end Clock

/-- The text of a duration is that of a time. -/
theorem duration_eq (ms : ℕ) : duration ms = (Clock.ofDuration ms).text := by
  unfold duration Clock.ofDuration
  split_ifs <;> rfl

/-- The time that a duration is read as. -/
theorem duration_eq_text_iff {ms : ℕ} {time : Clock} :
    duration ms = time.text ↔ Clock.ofDuration ms = time := by
  rw [duration_eq, Clock.text_injective.eq_iff]

/-- A duration is written with digits, the two units, a point and a blank. -/
theorem not_mem_duration {c : Char} (hdigit : isAsciiDigit c = false) (hc : c ∉ "ms. ".toList)
    (ms : ℕ) : c ∉ (duration ms).toList := by
  have hnumber (n : ℕ) : c ∉ Nat.toDigits 10 n := fun h => by
    simp [isAsciiDigit_of_mem_toDigits h] at hdigit
  have hletters : c ≠ 'm' ∧ c ≠ 's' ∧ c ≠ '.' ∧ c ≠ ' ' := by simpa using hc
  rw [duration_eq]
  cases Clock.ofDuration ms <;> simp [Clock.text, decimal, hnumber, hletters]

/-! ## How near it is -/

/-- The seconds of a duration are rounded up to a minute. -/
def Carries (ms : ℕ) : Prop :=
  59950 ≤ ms ∧ ms < 60000 ∨ 60000 ≤ ms ∧ 59500 ≤ ms % 60000

namespace Clock

variable {ms ms' : ℕ}

/-- Seconds with one decimal are off by half a tenth at most. -/
theorem seconds_close (h : ms < 60000) :
    |(100 * (Binary64.ofRatio ms 1000).scaled 1 : ℤ) - ms| ≤ 50 := by
  have hclose := Binary64.scaled_ofRatio_close (a := ms) (b := 1000) (by decide) (by decide) 1
    (by omega)
  rw [abs_le]
  rw [← abs_two, ← abs_mul, abs_le] at hclose
  omega

/-- Whole seconds are off by half a second at most. -/
theorem minutes_close (h : ms < 60000) :
    |(1000 * (Binary64.ofRatio ms 1000).scaled 0 : ℤ) - ms| ≤ 500 := by
  have hclose := Binary64.scaled_ofRatio_close (a := ms) (b := 1000) (by decide) (by decide) 0
    (by omega)
  rw [abs_le]
  rw [← abs_two, ← abs_mul, abs_le] at hclose
  omega

/-- A duration is shown in the form for it. -/
theorem suits_ofDuration (ms : ℕ) : (ofDuration ms).Suits ms := by
  unfold ofDuration
  split_ifs with hms hs
  · exact hms
  · exact ⟨by omega, hs⟩
  · exact ⟨by omega, rfl⟩

/-- The time that is shown is as near to the duration as its last place allows. -/
theorem ofDuration_close (ms : ℕ) :
    |((ofDuration ms).ms : ℤ) - ms| ≤ (ofDuration ms).slack := by
  unfold ofDuration
  split_ifs with hms hs
  · simp [Clock.ms, slack]
  · simpa [Clock.ms, slack] using seconds_close hs
  · have hclose := minutes_close (Nat.mod_lt ms (show 0 < 60000 by decide))
    simp only [Clock.ms, slack]
    rw [abs_le] at hclose ⊢
    omega

/-- A longer duration is not shown as a shorter time. -/
theorem ofDuration_mono (h : ms ≤ ms') : (ofDuration ms).ms ≤ (ofDuration ms').ms := by
  rcases Nat.eq_or_lt_of_le h with rfl | h
  · exact le_rfl
  -- One unit of a last place is more than the two errors together leave for a step back.
  have hsuits := suits_ofDuration ms
  have hsuits' := suits_ofDuration ms'
  have hclose := abs_le.mp (ofDuration_close ms)
  have hclose' := abs_le.mp (ofDuration_close ms')
  generalize ofDuration ms = time at *
  generalize ofDuration ms' = time' at *
  cases time <;> cases time' <;> simp only [Suits, Clock.ms, slack] at * <;> omega

/-- The time that is shown is out of range only where the seconds are rounded up to a minute. -/
theorem inRange_ofDuration_iff (ms : ℕ) : (ofDuration ms).InRange ↔ ¬ Carries ms := by
  -- At the two ties the quotient is computed; a tie may be rounded to either side, so closeness
  -- does not decide it.
  have htenths : (Binary64.ofRatio 59950 1000).scaled 1 = 600 := by decide +kernel
  have hseconds : (Binary64.ofRatio 59500 1000).scaled 0 = 60 := by decide +kernel
  unfold ofDuration
  split_ifs with hms hs
  · exact iff_of_true hms (by simp only [Carries]; omega)
  · have hclose := abs_le.mp (seconds_close hs)
    simp only [InRange, Carries]
    by_cases htie : ms = 59950
    · rw [htie, htenths]
      decide
    · omega
  · have hclose := abs_le.mp (minutes_close (Nat.mod_lt ms (show 0 < 60000 by decide)))
    simp only [InRange, Carries]
    by_cases htie : ms % 60000 = 59500
    · rw [htie, hseconds]
      omega
    · omega

end Clock

/-! ## What a reader is told -/

/-- What the text of a duration tells. -/
structure Told (ms : ℕ) : Prop where
  /-- It tells a time. -/
  time : ∃ time : Clock, duration ms = time.text
  /-- The time is in the form for the duration. -/
  suits : ∀ time : Clock, duration ms = time.text → time.Suits ms
  /-- It is as near to the duration as its last place allows. -/
  close : ∀ time : Clock, duration ms = time.text → |(time.ms : ℤ) - ms| ≤ time.slack
  /-- The time of a longer duration is not shorter. -/
  mono : ∀ (time : Clock) (ms' : ℕ) (time' : Clock), duration ms = time.text →
    duration ms' = time'.text → ms ≤ ms' → time.ms ≤ time'.ms
  /-- It is in range, unless the seconds are rounded up to a minute. -/
  inRange_iff : ∀ time : Clock, duration ms = time.text → (time.InRange ↔ ¬ Carries ms)

/-- A reader is told every duration to the last place shown, if not always in range. -/
theorem duration_told (ms : ℕ) : Told ms where
  time := ⟨_, duration_eq ms⟩
  suits time h := duration_eq_text_iff.mp h ▸ Clock.suits_ofDuration ms
  close time h := duration_eq_text_iff.mp h ▸ Clock.ofDuration_close ms
  mono time ms' time' h h' hle := by
    rw [← duration_eq_text_iff.mp h, ← duration_eq_text_iff.mp h']
    exact Clock.ofDuration_mono hle
  inRange_iff time h := duration_eq_text_iff.mp h ▸ Clock.inRange_ofDuration_iff ms

/-- Right below a full minute, sixty seconds are shown. -/
theorem duration_sixty_seconds : duration 119999 = "1m 60s" ∧ duration 59999 = "60.0s" := by
  decide +kernel

end BrowserFlow.Report
