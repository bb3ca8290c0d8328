import Mathlib.Data.List.Forall2
import BrowserFlow.Json.Text
import BrowserFlow.Json.Value

/-!
# Numbers and strings in JSON texts

A number and a string are read back from what is written for them. A number ends where something
stands that cannot belong to it (`JsonText.Ends`); a string ends at its own closing quote, because
every other quote in it is escaped. Each character of a string is read back from what is written
for it, as itself or as the code of an escape (`StringPart.Spells`).
-/

namespace BrowserFlow

open Text Json

/-! ## Numbers -/

namespace Numeral

/-- Digits that denote a number of 64 bits are all read. -/
theorem digitsWithin_eq {digits : List Char} {n : Nat}
    (h : digits.foldl (fun n c => 10 * n + digitValue c) n ≤ max64) :
    digitsWithin n digits = (digits.foldl (fun n c => 10 * n + digitValue c) n, []) := by
  -- A number read on the way is no greater than the one at the end.
  have hle : ∀ (digits : List Char) (n : Nat),
      n ≤ digits.foldl (fun n c => 10 * n + digitValue c) n := by
    intro digits
    induction digits with
    | nil => exact fun n => Nat.le_refl n
    | cons c digits ih => exact fun n => Nat.le_trans (by omega) (ih (10 * n + digitValue c))
  induction digits generalizing n with
  | nil => rfl
  | cons c digits ih =>
    have hfits : 10 * n + digitValue c ≤ max64 := Nat.le_trans (hle digits _) h
    rw [digitsWithin, if_pos hfits, ih h, List.foldl_cons]

/-- A number of 64 bits is the value of its digits. -/
theorem value?_toDigits {n : Nat} (h : n < UInt64.size) :
    Numeral.value? ⟨false, Nat.toDigits 10 n, [], none⟩ = some (.natural n) := by
  have hfold : (Nat.toDigits 10 n).foldl (fun n c => 10 * n + digitValue c) 0 = n :=
    Nat.ofDigitChars_ten_toDigits
  have hread : digitsWithin 0 (Nat.toDigits 10 n) = (n, []) := by
    rw [digitsWithin_eq (by rw [hfold, max64]; omega), hfold]
  simp [value?, hread]

end Numeral

namespace JsonText

/-- What follows a number: nothing that could belong to it. -/
def Ends (rest : List Char) : Prop :=
  ∀ c ∈ rest.head?, isAsciiDigit c = false ∧ c ≠ '.' ∧ c ≠ 'e' ∧ c ≠ 'E'

theorem ends_nil : Ends [] := by
  simp [Ends]

theorem ends_cons {c : Char} (h : isAsciiDigit c = false ∧ c ≠ '.' ∧ c ≠ 'e' ∧ c ≠ 'E')
    (s : List Char) : Ends (c :: s) := by
  rintro _ ⟨⟩
  exact h

theorem isAsciiDigit_of_mem_toDigits {n : Nat} {c : Char} (h : c ∈ Nat.toDigits 10 n) :
    isAsciiDigit c = true := by
  have hdigit : c.isDigit = true := Nat.isDigit_of_mem_toDigits (by decide) (by decide) h
  simpa [Char.isDigit, isAsciiDigit, UInt32.le_iff_toNat_le] using hdigit

/-- Only zero is written with a zero in front. -/
theorem toDigits_eq_cons {n : Nat} (hn : n ≠ 0) :
    ∃ d ds, Nat.toDigits 10 n = d :: ds ∧ d ≠ '0' := by
  induction n using Nat.strongRecOn with
  | ind n ih =>
    rw [Nat.toDigits_eq_if (by decide)]
    split
    case isTrue hlt =>
      have hdigits : ∀ d < 10, d ≠ 0 → d.digitChar ≠ '0' := by decide
      exact ⟨_, [], rfl, hdigits n hlt hn⟩
    case isFalse hge =>
      obtain ⟨d, ds, hds, hd⟩ := ih (n / 10) (by omega) (by omega)
      exact ⟨d, ds ++ [(n % 10).digitChar], by rw [hds, List.cons_append], hd⟩

/-- Of digits and what ends a number, the digits are taken. -/
theorem takeWhile_append_of_ends {digits rest : List Char}
    (hdigits : ∀ c ∈ digits, isAsciiDigit c = true) (h : Ends rest) :
    (digits ++ rest).takeWhile isAsciiDigit = digits := by
  rw [List.takeWhile_append_of_pos hdigits]
  cases rest with
  | nil => simp
  | cons c s => simp [(h c rfl).1]

/-- Of digits and what ends a number, what ends it is left. -/
theorem dropWhile_append_of_ends {digits rest : List Char}
    (hdigits : ∀ c ∈ digits, isAsciiDigit c = true) (h : Ends rest) :
    (digits ++ rest).dropWhile isAsciiDigit = rest := by
  rw [List.dropWhile_append_of_pos hdigits]
  cases rest with
  | nil => simp
  | cons c s => simp [(h c rfl).1]

/-- Where a number ends, there are no digits behind a point. -/
theorem fraction?_of_ends {rest : List Char} (h : Ends rest) :
    fraction? rest = some ([], rest) := by
  cases rest with
  | nil => rfl
  | cons c s =>
    rw [fraction?]
    rintro s ⟨⟩
    exact (h '.' rfl).2.1 rfl

/-- Where a number ends, there is no power of ten. -/
theorem exponent?_of_ends {rest : List Char} (h : Ends rest) :
    exponent? rest = some (none, rest) := by
  cases rest with
  | nil => rfl
  | cons c s => simp [exponent?, (h c rfl).2.2]

/-- A number is read up to where it ends. -/
theorem numeral?_toDigits (n : Nat) {rest : List Char} (h : Ends rest) :
    numeral? (Nat.toDigits 10 n ++ rest) = some (⟨false, Nat.toDigits 10 n, [], none⟩, rest) := by
  have hdigits : ∀ c ∈ Nat.toDigits 10 n, isAsciiDigit c = true :=
    fun c hc => isAsciiDigit_of_mem_toDigits hc
  have htake := takeWhile_append_of_ends hdigits h
  have hdrop := dropWhile_append_of_ends hdigits h
  obtain ⟨d, ds, hds⟩ := List.exists_cons_of_ne_nil (Nat.toDigits_ne_nil : Nat.toDigits 10 n ≠ [])
  -- A zero in front would be refused, unless it is the only digit.
  have hzero : ds ≠ [] → d ≠ '0' := by
    intro hne
    have hn : n ≠ 0 := by
      rintro rfl
      exact hne (List.cons.inj hds).2.symm
    obtain ⟨d', ds', hds', hd'⟩ := toDigits_eq_cons hn
    rw [hds] at hds'
    exact (List.cons.inj hds').1 ▸ hd'
  have hsign : d ≠ '-' := by
    rintro rfl
    exact absurd (hdigits '-' (by simp [hds])) (by decide)
  rw [hds, List.cons_append] at htake hdrop
  rw [hds, List.cons_append, numeral?]
  · simpa [htake, hdrop, fraction?_of_ends h, exponent?_of_ends h] using hzero
  · rintro s ⟨⟩
    exact hsign rfl

/-! ## Strings -/

/-- An element of a literal stands for a character. -/
inductive StringPart.Spells : StringPart → Char → Prop
  /-- A character stands for itself. -/
  | char (c : Char) : Spells (.char c) c
  /-- A code below 32 stands for a control character. -/
  | code {c : Char} : c.toNat < 32 → Spells (.code c.toNat) c

theorem joinParts_code {n : Nat} (h : n < 0xD800) (parts : List StringPart) :
    joinParts (.code n :: parts) = (joinParts parts).map (Char.ofNat n :: ·) := by
  have htrailing : isTrailing n = false := by simp [isTrailing]; omega
  have hleading : isLeading n = false := by simp [isLeading]; omega
  rcases parts with _ | ⟨_ | _, _⟩ <;> simp [joinParts, htrailing, hleading]

/-- The elements of a literal are joined to the characters that they stand for. -/
theorem joinParts_eq_ok {parts : List StringPart} {cs : List Char}
    (h : List.Forall₂ StringPart.Spells parts cs) : joinParts parts = .ok cs := by
  induction h with
  | nil => rfl
  | cons hpart _ ih =>
    cases hpart with
    | char c => rw [joinParts, ih]; rfl
    | @code c hc => rw [joinParts_code (by omega), ih, Char.ofNat_toNat]; rfl

theorem hexValue?_hexDigit {n : Nat} (h : n < 16) : hexValue? (hexDigit n) = some n := by
  revert n
  decide

/-- The four digits that are written for a code below 256 are read as that code. -/
theorem hexCode?_hexDigit {n : Nat} (h : n < 256) (s : List Char) :
    hexCode? ('0' :: '0' :: hexDigit (n / 16) :: hexDigit (n % 16) :: s) = some (n, s) := by
  rw [hexCode?, hexValue?_hexDigit (by omega), hexValue?_hexDigit (by omega)]
  simp [hexValue?]
  omega

/-- A character is written after a backslash, or by its code, or else as itself. -/
theorem stringChar_cases (c : Char) :
    (∃ e, e ≠ 'u' ∧ escapeChar? e = some c ∧ stringChar c = ['\\', e]) ∨
      (c.toNat < 32 ∧ stringChar c =
        ['\\', 'u', '0', '0', hexDigit (c.toNat / 16), hexDigit (c.toNat % 16)]) ∨
      (c ≠ '"' ∧ c ≠ '\\' ∧ 32 ≤ c.toNat ∧ stringChar c = [c]) := by
  by_cases hc : c ∈ ['"', '\\', '\n', '\r', '\t', Char.ofNat 8, Char.ofNat 12]
  · have hnamed : ∀ c ∈ ['"', '\\', '\n', '\r', '\t', Char.ofNat 8, Char.ofNat 12],
        ∃ e ∈ ['"', '\\', 'n', 'r', 't', 'b', 'f'], e ≠ 'u' ∧ escapeChar? e = some c ∧
          stringChar c = ['\\', e] := by simp [escapeChar?, stringChar]
    obtain ⟨e, -, h⟩ := hnamed c hc
    exact .inl ⟨e, h⟩
  · -- Two of the characters are told by their codes.
    have hcode : ∀ n, c ≠ Char.ofNat n → c.toNat ≠ n := by
      rintro n hne rfl
      exact hne c.ofNat_toNat.symm
    simp only [List.mem_cons, List.not_mem_nil, or_false, not_or] at hc
    obtain ⟨hquote, hbackslash, hn, hr, ht, hb, hf⟩ := hc
    by_cases hlt : c.toNat < 32
    · exact .inr (.inl ⟨hlt, by simp [stringChar, hcode 8 hb, hcode 12 hf, *]⟩)
    · exact .inr (.inr ⟨hquote, hbackslash, by omega,
        by simp [stringChar, hcode 8 hb, hcode 12 hf, *]⟩)

/-- A character is read back from what is written for it. -/
theorem stringParts?_stringChar (c : Char) :
    ∃ part, StringPart.Spells part c ∧ ∀ fuel s, stringParts? (fuel + 1) (stringChar c ++ s) =
      (stringParts? fuel s).map fun (parts, s) => (part :: parts, s) := by
  rcases stringChar_cases c with ⟨e, hu, he, hc⟩ | ⟨hlt, hc⟩ | ⟨hquote, hbackslash, hge, hc⟩
  · refine ⟨.char c, .char c, fun fuel s => ?_⟩
    cases hrest : stringParts? fuel s <;> simp [hc, stringParts?, hu, he, hrest]
  · refine ⟨.code c.toNat, .code hlt, fun fuel s => ?_⟩
    have hcode := hexCode?_hexDigit (show c.toNat < 256 by omega) s
    cases hrest : stringParts? fuel s <;> simp [hc, stringParts?, hcode, hrest]
  · refine ⟨.char c, .char c, fun fuel s => ?_⟩
    cases hrest : stringParts? fuel s <;>
      simp [hc, stringParts?, hquote, hbackslash, Nat.not_lt.mpr hge, hrest]

/-- The characters of a literal are read up to its closing quote. -/
theorem stringParts?_flatMap (cs : List Char) :
    ∃ parts, List.Forall₂ StringPart.Spells parts cs ∧ ∀ fuel rest, cs.length < fuel →
      stringParts? fuel (cs.flatMap stringChar ++ '"' :: rest) = some (parts, rest) := by
  -- The induction is on the characters; what is written for each is read in one round.
  induction cs with
  | nil =>
    refine ⟨[], .nil, fun fuel rest hfuel => ?_⟩
    obtain ⟨fuel, rfl⟩ := Nat.exists_eq_add_of_lt hfuel
    simp [stringParts?]
  | cons c cs ih =>
    obtain ⟨part, hpart, hread⟩ := stringParts?_stringChar c
    obtain ⟨parts, hparts, hrest⟩ := ih
    refine ⟨part :: parts, .cons hpart hparts, fun fuel rest hfuel => ?_⟩
    cases fuel with
    | zero => exact absurd hfuel (by simp)
    | succ fuel =>
      rw [List.flatMap_cons, List.append_assoc, hread,
        hrest fuel rest (by simpa using hfuel), Option.map_some]

theorem length_le_length_flatMap (cs : List Char) :
    cs.length ≤ (cs.flatMap stringChar).length := by
  have hpos : ∀ c, 1 ≤ (stringChar c).length := fun c => by
    rcases stringChar_cases c with ⟨e, -, -, hc⟩ | ⟨-, hc⟩ | ⟨-, -, -, hc⟩ <;> simp [hc]
  induction cs with
  | nil => exact Nat.le_refl 0
  | cons c cs ih =>
    rw [List.flatMap_cons, List.length_append, List.length_cons]
    have := hpos c
    omega

/-- A string is read back from its literal. -/
theorem string?_flatMap (s : String) (rest : List Char) :
    string? (s.toList.flatMap stringChar ++ '"' :: rest) = some (.ok s, rest) := by
  obtain ⟨parts, hparts, hread⟩ := stringParts?_flatMap s.toList
  have hlength := length_le_length_flatMap s.toList
  rw [string?, hread _ rest (by rw [List.length_append]; omega)]
  simp [joinParts_eq_ok hparts, Except.map]

end JsonText

end BrowserFlow
