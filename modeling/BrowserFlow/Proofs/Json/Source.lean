import BrowserFlow.Json.Text
import BrowserFlow.Proofs.Sentence.Form
import Mathlib.Data.List.TakeWhile
import Mathlib.Tactic.SplitIfs

/-!
# How JSON texts are spelled

A JSON text with everything that its value does not show: the blanks between the tokens, the way in
which each character of a string is written, the digits of numbers. `JsonSource.chars` is the text
and `JsonSource.value` what is read from it, so that something can be said about the texts of a
value by recursion on how they are spelled.

Every JSON text has a source (`JsonText.exists_document`). That follows the reader from the leaves
up: what it takes for a string or a number is spelled as one, and with that, by induction on the
fuel, what it takes for a value, for the items of a list and for the members of an object.
-/

namespace BrowserFlow

open Text JsonText

/-! ## Strings -/

namespace JsonSource

/-- An element of a string as it is spelled. -/
inductive Piece
  /-- A character that stands for itself. -/
  | raw (c : Char) (plain : c ≠ '"' ∧ c ≠ '\\' ∧ 32 ≤ c.toNat)
  /-- A backslash and a letter that stands for a character. -/
  | letter (e c : Char) (escape : escapeChar? e = some c)
  /-- The four hexadecimal digits of a code. -/
  | code (a b c d : Char) (n : Nat) (digits : ∀ s, hexCode? (a :: b :: c :: d :: s) = some (n, s))

namespace Piece

/-- How the element is written. -/
def chars : Piece → List Char
  | raw c _ => [c]
  | letter e _ _ => ['\\', e]
  | code a b c d _ _ => ['\\', 'u', a, b, c, d]

/-- What is read. -/
def part : Piece → StringPart
  | raw c _ => .char c
  | letter _ c _ => .char c
  | code _ _ _ _ n _ => .code n

end Piece

/-- A string between its quotes. -/
def literal (pieces : List Piece) : List Char :=
  '"' :: (pieces.flatMap Piece.chars ++ ['"'])

/-- What is read from a string. -/
def spelling (pieces : List Piece) : Spelling :=
  (joinParts (pieces.map Piece.part)).map String.ofList

end JsonSource

open JsonSource

namespace JsonText

variable {fuel : Nat} {s rest : List Char}

/-- Four hexadecimal digits and their code. -/
theorem exists_of_hexCode? {n : Nat} (h : hexCode? s = some (n, rest)) :
    ∃ a b c d, s = a :: b :: c :: d :: rest ∧
      ∀ t, hexCode? (a :: b :: c :: d :: t) = some (n, t) := by
  unfold hexCode? at h
  split at h
  · rename_i a b c d t
    simp only [Option.bind_eq_bind, Option.bind_eq_some_iff, Option.pure_def, Option.some.injEq,
      Prod.mk.injEq] at h
    obtain ⟨va, ha, vb, hb, vc, hc, vd, hd, hn, rfl⟩ := h
    exact ⟨a, b, c, d, rfl, fun t => by simp [hexCode?, ha, hb, hc, hd, hn]⟩
  · cases h

/-- What is read up to the closing quote is spelled by pieces. -/
theorem exists_pieces {parts : List StringPart} (h : stringParts? fuel s = some (parts, rest)) :
    ∃ pieces : List Piece, s = pieces.flatMap Piece.chars ++ '"' :: rest ∧
      pieces.map Piece.part = parts := by
  induction fuel generalizing s parts with
  | zero => cases h
  | succ fuel ih =>
    cases s with
    | nil => cases h
    | cons c s =>
      unfold stringParts? at h
      dsimp only at h
      split_ifs at h with hquote hbackslash hcontrol
      · -- The string ends.
        simp only [beq_iff_eq] at hquote
        cases h
        exact ⟨[], by simp [hquote], rfl⟩
      · simp only [beq_iff_eq] at hbackslash
        subst hbackslash
        cases s with
        | nil => cases h
        | cons e s =>
          dsimp only at h
          split_ifs at h with hu
          · -- An escape by a code, else one by a letter.
            simp only [beq_iff_eq] at hu
            simp only [Option.bind_eq_bind, Option.bind_eq_some_iff, Option.pure_def,
              Option.some.injEq, Prod.mk.injEq, Prod.exists] at h
            obtain ⟨n, t, hcode, later, _, hparts, rfl, rfl⟩ := h
            obtain ⟨a, b, c, d, rfl, hdigits⟩ := exists_of_hexCode? hcode
            obtain ⟨pieces, rfl, rfl⟩ := ih hparts
            exact ⟨.code a b c d n hdigits :: pieces, by simp [Piece.chars, hu], rfl⟩
          · simp only [Option.bind_eq_bind, Option.bind_eq_some_iff, Option.pure_def,
              Option.some.injEq, Prod.mk.injEq, Prod.exists] at h
            obtain ⟨c, hescape, later, _, hparts, rfl, rfl⟩ := h
            obtain ⟨pieces, rfl, rfl⟩ := ih hparts
            exact ⟨.letter e c hescape :: pieces, by simp [Piece.chars], rfl⟩
      · -- A character that stands for itself.
        simp only [Option.bind_eq_bind, Option.bind_eq_some_iff, Option.pure_def,
          Option.some.injEq, Prod.mk.injEq, Prod.exists] at h
        obtain ⟨later, _, hparts, rfl, rfl⟩ := h
        obtain ⟨pieces, rfl, rfl⟩ := ih hparts
        simp only [beq_iff_eq] at hquote hbackslash
        exact ⟨.raw c ⟨hquote, hbackslash, by omega⟩ :: pieces, by simp [Piece.chars], rfl⟩

/-- What is read as a string is spelled by pieces. -/
theorem exists_literal {value : Spelling} (h : string? s = some (value, rest)) :
    ∃ pieces, '"' :: s = literal pieces ++ rest ∧ spelling pieces = value := by
  unfold string? at h
  simp only [Option.map_eq_some_iff, Prod.mk.injEq, Prod.exists] at h
  obtain ⟨parts, _, hparts, rfl, rfl⟩ := h
  obtain ⟨pieces, rfl, rfl⟩ := exists_pieces hparts
  exact ⟨pieces, by simp [literal], rfl⟩

end JsonText

/-! ## Numbers -/

/-- Whether a character may occur in a number. -/
def isNumberChar (c : Char) : Bool :=
  isAsciiDigit c || c == '.' || c == '-' || c == '+' || c == 'e' || c == 'E'

/-- Characters spell a number: the sign, the digits before the point, and whatever comes then. -/
structure Numeral.Spelled (x : Numeral) (chars : List Char) : Prop where
  /-- There are digits before the point. -/
  whole_ne_nil : x.whole ≠ []
  /-- They are digits. -/
  digits : ∀ c ∈ x.whole, isAsciiDigit c = true
  /-- A zero in front is the only one. -/
  unpadded : x.whole.length = 1 ∨ x.whole.head? ≠ some '0'
  /-- Behind them there is nothing unless there is a point or a power of ten. -/
  exists_tail : ∃ tail, chars = (if x.negative then ['-'] else []) ++ x.whole ++ tail ∧
    (∀ c ∈ tail, isNumberChar c = true) ∧ (x.fraction = [] → x.exponent = none → tail = [])

namespace JsonText

variable {s rest : List Char}

/-- Digits are characters of numbers. -/
theorem isNumberChar_of_mem_takeWhile {c : Char} (h : c ∈ s.takeWhile isAsciiDigit) :
    isNumberChar c = true := by
  simp [isNumberChar, List.mem_takeWhile_imp h]

/-- What is read of a point and the digits behind it. -/
theorem exists_of_fraction? {fraction : List Char} (h : fraction? s = some (fraction, rest)) :
    ∃ chars, s = chars ++ rest ∧ (∀ c ∈ chars, isNumberChar c = true) ∧
      (fraction = [] → chars = []) := by
  unfold fraction? at h
  split at h
  · rename_i t
    dsimp only at h
    split at h
    · cases h
    · rename_i hdigits
      cases h
      refine ⟨'.' :: t.takeWhile isAsciiDigit, by simp, ?_, fun hnil => by simp [hnil] at hdigits⟩
      exact List.forall_mem_cons.mpr ⟨rfl, fun c hc => isNumberChar_of_mem_takeWhile hc⟩
  · cases h
    exact ⟨[], rfl, by simp, fun _ => rfl⟩

/-- What is read of a power of ten. -/
theorem exists_of_exponent? {exponent : Option (Bool × List Char)}
    (h : exponent? s = some (exponent, rest)) :
    ∃ chars, s = chars ++ rest ∧ (∀ c ∈ chars, isNumberChar c = true) ∧
      (exponent = none → chars = []) := by
  cases s with
  | nil =>
    cases h
    exact ⟨[], rfl, by simp, fun _ => rfl⟩
  | cons c t =>
    by_cases he : (c == 'e' || c == 'E') = true
    · have hmark : isNumberChar c = true := by
        simp only [Bool.or_eq_true, beq_iff_eq] at he
        rcases he with rfl | rfl <;> rfl
      -- Between the mark and the digits there may be a sign.
      have hsign : ∃ sign digits below, t = sign ++ digits ∧
          (∀ c ∈ sign, isNumberChar c = true) ∧ exponent? (c :: t) =
            if (digits.takeWhile isAsciiDigit).isEmpty then none
            else some (some (below, digits.takeWhile isAsciiDigit),
              digits.dropWhile isAsciiDigit) := by
        simp only [exponent?, he, if_true]
        split
        · exact ⟨['-'], _, true, rfl, by simp [isNumberChar], rfl⟩
        · exact ⟨['+'], _, false, rfl, by simp [isNumberChar], rfl⟩
        · exact ⟨[], _, false, rfl, by simp, rfl⟩
      obtain ⟨sign, digits, below, rfl, hsign, hread⟩ := hsign
      rw [hread] at h
      split_ifs at h
      cases h
      refine ⟨c :: sign ++ digits.takeWhile isAsciiDigit, by simp, fun d hd => ?_, nofun⟩
      simp only [List.cons_append, List.mem_cons, List.mem_append] at hd
      obtain rfl | hd | hd := hd
      · exact hmark
      · exact hsign d hd
      · exact isNumberChar_of_mem_takeWhile hd
    · simp only [exponent?, he] at h
      cases h
      exact ⟨[], rfl, by simp, fun _ => rfl⟩

/-- What is read as a number is spelled as one. -/
theorem exists_spelled {x : Numeral} (h : numeral? s = some (x, rest)) :
    ∃ chars, s = chars ++ rest ∧ x.Spelled chars := by
  unfold numeral? at h
  split at h
  rename_i negative t hmatch
  -- A number is a sign, digits, a point with more digits, and a power of ten, one behind the other.
  have hsign : s = (if negative then ['-'] else []) ++ t := by
    split at hmatch <;> cases hmatch <;> rfl
  dsimp only at h
  split_ifs at h with hwhole
  simp only [Option.bind_eq_bind, Option.bind_eq_some_iff, Option.pure_def, Option.some.injEq,
    Prod.mk.injEq, Prod.exists] at h
  obtain ⟨fraction, u, hfraction, exponent, _, hexponent, rfl, rfl⟩ := h
  obtain ⟨point, htail, hpoint, hnone⟩ := exists_of_fraction? hfraction
  obtain ⟨power, rfl, hpower, hnone'⟩ := exists_of_exponent? hexponent
  refine ⟨(if negative then ['-'] else []) ++ t.takeWhile isAsciiDigit ++ (point ++ power), ?_,
    ?_, fun c hc => List.mem_takeWhile_imp hc, ?_, point ++ power, rfl, ?_, ?_⟩
  · rw [hsign, List.append_assoc, List.append_assoc, List.append_assoc point, ← htail,
      List.takeWhile_append_dropWhile]
  · intro (hnil : t.takeWhile isAsciiDigit = [])
    rw [hnil] at hwhole
    exact hwhole rfl
  · simp only [Bool.or_eq_true, Bool.and_eq_true, bne_iff_ne, ne_eq, beq_iff_eq, not_or, not_and]
      at hwhole
    exact Classical.or_iff_not_imp_left.mpr hwhole.2
  · exact List.forall_mem_append.mpr ⟨hpoint, hpower⟩
  · intro hf he
    rw [hnone hf, hnone' he, List.append_nil]

end JsonText

/-! ## Values -/

/-- Blanks, as they may stand between the tokens of a JSON text. -/
structure Blanks where
  /-- The blanks. -/
  chars : List Char
  /-- They are such. -/
  all : ∀ c ∈ chars, isSpace c = true

/-- Blanks and more blanks. -/
def Blanks.append (gap gap' : Blanks) : Blanks :=
  ⟨gap.chars ++ gap'.chars, List.forall_mem_append.mpr ⟨gap.all, gap'.all⟩⟩

mutual

/-- A value as it is spelled. -/
inductive JsonSource
  /-- The null value. -/
  | null
  /-- A truth value. -/
  | bool (b : Bool)
  /-- A number. -/
  | number (x : Numeral) (digits : List Char) (spelled : x.Spelled digits)
  /-- A string. -/
  | string (pieces : List JsonSource.Piece)
  /-- A list without items. -/
  | emptyArray (gap : Blanks)
  /-- A list with items. -/
  | array (items : ItemsSource)
  /-- An object without members. -/
  | emptyObject (gap : Blanks)
  /-- An object with members. -/
  | object (members : MembersSource)

/-- The items of a list as they are spelled, up to the end of the list. -/
inductive ItemsSource
  /-- The last item. -/
  | last (before : Blanks) (item : JsonSource) (after : Blanks)
  /-- An item and those behind it. -/
  | cons (before : Blanks) (item : JsonSource) (after : Blanks) (rest : ItemsSource)

/-- The members of an object as they are spelled, up to the end of the object. -/
inductive MembersSource
  /-- The last member. -/
  | last (before : Blanks) (key : List JsonSource.Piece) (between : Blanks) (ahead : Blanks)
    (value : JsonSource) (after : Blanks)
  /-- A member and those behind it. -/
  | cons (before : Blanks) (key : List JsonSource.Piece) (between : Blanks) (ahead : Blanks)
    (value : JsonSource) (after : Blanks) (rest : MembersSource)

end

mutual

/-- The text of a value. -/
def JsonSource.chars : JsonSource → List Char
  | .null => "null".toList
  | .bool b => (if b then "true" else "false").toList
  | .number _ digits _ => digits
  | .string pieces => literal pieces
  | .emptyArray gap => '[' :: (gap.chars ++ [']'])
  | .array items => '[' :: items.chars
  | .emptyObject gap => '\x7b' :: (gap.chars ++ ['\x7d'])
  | .object members => '\x7b' :: members.chars

/-- The text of some items and of the bracket behind them. -/
def ItemsSource.chars : ItemsSource → List Char
  | .last before item after => before.chars ++ (item.chars ++ (after.chars ++ [']']))
  | .cons before item after rest =>
    before.chars ++ (item.chars ++ (after.chars ++ ',' :: rest.chars))

/-- The text of some members and of the brace behind them. -/
def MembersSource.chars : MembersSource → List Char
  | .last before key between ahead value after =>
    before.chars ++ (literal key ++ (between.chars ++
      ':' :: (ahead.chars ++ (value.chars ++ (after.chars ++ ['\x7d'])))))
  | .cons before key between ahead value after rest =>
    before.chars ++ (literal key ++ (between.chars ++
      ':' :: (ahead.chars ++ (value.chars ++ (after.chars ++ ',' :: rest.chars)))))

end

mutual

/-- What is read from a value. -/
def JsonSource.value : JsonSource → JsonText
  | .null => .null
  | .bool b => .bool b
  | .number x _ _ => .number x
  | .string pieces => .string (spelling pieces)
  | .emptyArray _ => .array []
  | .array items => .array items.values
  | .emptyObject _ => .object []
  | .object members => .object members.values

/-- What is read from some items. -/
def ItemsSource.values : ItemsSource → List JsonText
  | .last _ item _ => [item.value]
  | .cons _ item _ rest => item.value :: rest.values

/-- What is read from some members. -/
def MembersSource.values : MembersSource → List (Spelling × JsonText)
  | .last _ key _ _ value _ => [(spelling key, value.value)]
  | .cons _ key _ _ value _ rest => (spelling key, value.value) :: rest.values

end

/-- The members of an object, with their keys as they are spelled. -/
def MembersSource.list : MembersSource → List (List Piece × JsonSource)
  | .last _ key _ _ value _ => [(key, value)]
  | .cons _ key _ _ value _ rest => (key, value) :: rest.list

/-- The members of a value; there are none if it is no object. -/
def JsonSource.members : JsonSource → List (List Piece × JsonSource)
  | .object members => members.list
  | _ => []

theorem MembersSource.values_eq_map (source : MembersSource) :
    source.values = source.list.map fun m => (spelling m.1, m.2.value) := by
  match source with
  | .last _ _ _ _ _ _ => rfl
  | .cons _ _ _ _ _ _ rest => rw [values, list, List.map_cons, rest.values_eq_map]

/-- Blanks may be put in front of items. -/
theorem ItemsSource.exists_chars_append (gap : Blanks) (source : ItemsSource) :
    ∃ source' : ItemsSource, source'.chars = gap.chars ++ source.chars ∧
      source'.values = source.values := by
  cases source with
  | last before item after =>
    exact ⟨.last (gap.append before) item after, by simp [chars, Blanks.append], rfl⟩
  | cons before item after rest =>
    exact ⟨.cons (gap.append before) item after rest, by simp [chars, Blanks.append], rfl⟩

/-- Blanks may be put in front of members. -/
theorem MembersSource.exists_chars_append (gap : Blanks) (source : MembersSource) :
    ∃ source' : MembersSource, source'.chars = gap.chars ++ source.chars ∧
      source'.values = source.values := by
  cases source with
  | last before key between ahead value after =>
    exact ⟨.last (gap.append before) key between ahead value after,
      by simp [chars, Blanks.append], rfl⟩
  | cons before key between ahead value after rest =>
    exact ⟨.cons (gap.append before) key between ahead value after rest,
      by simp [chars, Blanks.append], rfl⟩

namespace JsonText

variable {fuel : Nat} {s rest : List Char}

/-- There are blanks in front of where the reading goes on. -/
theorem exists_blanks (s : List Char) : ∃ gap : Blanks, s = gap.chars ++ skipSpace s :=
  ⟨⟨s.takeWhile isSpace, fun _ hc => List.mem_takeWhile_imp hc⟩,
    List.takeWhile_append_dropWhile.symm⟩

/-- Where a character comes next, there are blanks in front of it. -/
theorem exists_blanks_cons {c : Char} (h : skipSpace s = c :: rest) :
    ∃ gap : Blanks, s = gap.chars ++ c :: rest :=
  h ▸ exists_blanks s

/-- What is read by a certain amount of fuel is spelled as such. -/
structure Sourced (fuel : Nat) : Prop where
  /-- A value, behind some blanks. -/
  value : ∀ {s rest : List Char} {v : JsonText}, value? fuel s = some (v, rest) →
    ∃ (gap : Blanks) (source : JsonSource), s = gap.chars ++ (source.chars ++ rest) ∧
      source.value = v
  /-- The items of a list. -/
  items : ∀ {s rest : List Char} {vs : List JsonText}, items? fuel s = some (vs, rest) →
    ∃ source : ItemsSource, s = source.chars ++ rest ∧ source.values = vs
  /-- The members of an object. -/
  members : ∀ {s rest : List Char} {vs : List (Spelling × JsonText)},
    members? fuel s = some (vs, rest) →
    ∃ source : MembersSource, s = source.chars ++ rest ∧ source.values = vs

namespace Sourced

variable (ih : Sourced fuel)

include ih

/-- What is read behind an opening bracket is spelled as the rest of a list. -/
theorem array {v : JsonText}
    (h : (match skipSpace s with
      | ']' :: rest => some (.array [], rest)
      | t => (items? fuel t).map fun (items, rest) => (.array items, rest)) = some (v, rest)) :
    ∃ source : JsonSource, '[' :: s = source.chars ++ rest ∧ source.value = v := by
  split at h
  · rename_i t ht
    obtain ⟨gap, rfl⟩ := exists_blanks_cons ht
    cases h
    exact ⟨.emptyArray gap, by simp [JsonSource.chars], rfl⟩
  · simp only [Option.map_eq_some_iff, Prod.mk.injEq, Prod.exists] at h
    obtain ⟨vs, _, hitems, rfl, rfl⟩ := h
    obtain ⟨gap, hgap⟩ := exists_blanks s
    obtain ⟨source, hsource, rfl⟩ := ih.items hitems
    -- The blanks behind the bracket belong to the first item.
    obtain ⟨source', hchars, hvalues⟩ := source.exists_chars_append gap
    refine ⟨.array source', ?_, by rw [JsonSource.value, hvalues]⟩
    rw [JsonSource.chars, hchars, List.cons_append, List.append_assoc, ← hsource, ← hgap]

/-- What is read behind an opening brace is spelled as the rest of an object. -/
theorem object {v : JsonText}
    (h : (match skipSpace s with
      | '\x7d' :: rest => some (.object [], rest)
      | t => (members? fuel t).map fun (members, rest) => (.object members, rest)) =
        some (v, rest)) :
    ∃ source : JsonSource, '\x7b' :: s = source.chars ++ rest ∧ source.value = v := by
  split at h
  · rename_i t ht
    obtain ⟨gap, rfl⟩ := exists_blanks_cons ht
    cases h
    exact ⟨.emptyObject gap, by simp [JsonSource.chars], rfl⟩
  · simp only [Option.map_eq_some_iff, Prod.mk.injEq, Prod.exists] at h
    obtain ⟨vs, _, hmembers, rfl, rfl⟩ := h
    obtain ⟨gap, hgap⟩ := exists_blanks s
    obtain ⟨source, hsource, rfl⟩ := ih.members hmembers
    -- The blanks behind the brace belong to the first member.
    obtain ⟨source', hchars, hvalues⟩ := source.exists_chars_append gap
    refine ⟨.object source', ?_, by rw [JsonSource.value, hvalues]⟩
    rw [JsonSource.chars, hchars, List.cons_append, List.append_assoc, ← hsource, ← hgap]

/-- What is read as a value is spelled as one, if that holds with less fuel. -/
theorem value_succ {v : JsonText} (h : value? (fuel + 1) s = some (v, rest)) :
    ∃ (gap : Blanks) (source : JsonSource), s = gap.chars ++ (source.chars ++ rest) ∧
      source.value = v := by
  unfold value? at h
  cases hs : skipSpace s with
  | nil =>
    rw [hs] at h
    cases h
  | cons c t =>
    obtain ⟨gap, rfl⟩ := exists_blanks_cons hs
    rw [hs] at h
    simp only [beq_iff_eq] at h
    refine ⟨gap, ?_⟩
    simp only [List.append_cancel_left_eq]
    split_ifs at h with hquote hbracket hbrace hn ht hf
    · simp only [Option.map_eq_some_iff, Prod.mk.injEq, Prod.exists] at h
      obtain ⟨spelling, _, hstring, rfl, rfl⟩ := h
      obtain ⟨pieces, hpieces, rfl⟩ := exists_literal hstring
      exact ⟨.string pieces, by rw [hquote, hpieces, JsonSource.chars], rfl⟩
    · exact hbracket ▸ ih.array h
    · exact hbrace ▸ ih.object h
    -- The three words.
    · simp only [Option.map_eq_some_iff, Prod.mk.injEq] at h
      obtain ⟨_, hword, rfl, rfl⟩ := h
      exact ⟨.null, by rw [hn, after?_eq_some_iff.mp hword]; rfl, rfl⟩
    · simp only [Option.map_eq_some_iff, Prod.mk.injEq] at h
      obtain ⟨_, hword, rfl, rfl⟩ := h
      exact ⟨.bool true, by rw [ht, after?_eq_some_iff.mp hword]; rfl, rfl⟩
    · simp only [Option.map_eq_some_iff, Prod.mk.injEq] at h
      obtain ⟨_, hword, rfl, rfl⟩ := h
      exact ⟨.bool false, by rw [hf, after?_eq_some_iff.mp hword]; rfl, rfl⟩
    · simp only [Option.map_eq_some_iff, Prod.mk.injEq, Prod.exists] at h
      obtain ⟨x, _, hnumber, rfl, rfl⟩ := h
      obtain ⟨digits, hdigits, spelled⟩ := exists_spelled hnumber
      exact ⟨.number x digits spelled, hdigits, rfl⟩

/-- What is read as items is spelled as such, if that holds with less fuel. -/
theorem items_succ {vs : List JsonText} (h : items? (fuel + 1) s = some (vs, rest)) :
    ∃ source : ItemsSource, s = source.chars ++ rest ∧ source.values = vs := by
  unfold items? at h
  simp only [Option.bind_eq_bind, Option.bind_eq_some_iff, Prod.exists] at h
  obtain ⟨v, t, hvalue, h⟩ := h
  obtain ⟨before, item, rfl, rfl⟩ := ih.value hvalue
  split at h
  · rename_i t' ht
    obtain ⟨after, rfl⟩ := exists_blanks_cons ht
    cases h
    exact ⟨.last before item after, by simp [ItemsSource.chars], rfl⟩
  · rename_i t' ht
    obtain ⟨after, rfl⟩ := exists_blanks_cons ht
    simp only [Option.bind_eq_some_iff, Prod.exists, Option.pure_def, Option.some.injEq,
      Prod.mk.injEq] at h
    obtain ⟨vs, _, hitems, rfl, rfl⟩ := h
    obtain ⟨source, rfl, rfl⟩ := ih.items hitems
    exact ⟨.cons before item after source, by simp [ItemsSource.chars], rfl⟩
  · cases h

/-- What is read as members is spelled as such, if that holds with less fuel. -/
theorem members_succ {vs : List (Spelling × JsonText)}
    (h : members? (fuel + 1) s = some (vs, rest)) :
    ∃ source : MembersSource, s = source.chars ++ rest ∧ source.values = vs := by
  unfold members? at h
  split at h
  case h_2 => cases h
  case h_1 t ht =>
    obtain ⟨before, rfl⟩ := exists_blanks_cons ht
    simp only [Option.bind_eq_bind, Option.bind_eq_some_iff, Prod.exists] at h
    obtain ⟨spelling, u, hkey, h⟩ := h
    obtain ⟨key, hliteral, rfl⟩ := exists_literal hkey
    rw [hliteral]
    split at h
    case h_2 => cases h
    case h_1 u' hu =>
      obtain ⟨between, rfl⟩ := exists_blanks_cons hu
      simp only [Option.bind_eq_some_iff, Prod.exists] at h
      obtain ⟨v, w, hvalue, h⟩ := h
      obtain ⟨ahead, value, rfl, rfl⟩ := ih.value hvalue
      split at h
      · rename_i w' hw
        obtain ⟨after, rfl⟩ := exists_blanks_cons hw
        cases h
        exact ⟨.last before key between ahead value after, by simp [MembersSource.chars], rfl⟩
      · rename_i w' hw
        obtain ⟨after, rfl⟩ := exists_blanks_cons hw
        simp only [Option.bind_eq_some_iff, Prod.exists, Option.pure_def, Option.some.injEq,
          Prod.mk.injEq] at h
        obtain ⟨vs, _, hmembers, rfl, rfl⟩ := h
        obtain ⟨source, rfl, rfl⟩ := ih.members hmembers
        exact ⟨.cons before key between ahead value after source, by simp [MembersSource.chars],
          rfl⟩
      · cases h

end Sourced

/-- Whatever is read is spelled as such, with any fuel. -/
theorem sourced (fuel : Nat) : Sourced fuel := by
  induction fuel with
  | zero => exact ⟨nofun, nofun, nofun⟩
  | succ fuel ih => exact ⟨ih.value_succ, ih.items_succ, ih.members_succ⟩

end JsonText

/-- A JSON text as it is spelled: a value between blanks. -/
structure JsonDocument where
  /-- The blanks in front of the value. -/
  before : Blanks
  /-- The value. -/
  source : JsonSource
  /-- The blanks behind it. -/
  after : Blanks

/-- The text. -/
def JsonDocument.text (document : JsonDocument) : String :=
  String.ofList (document.before.chars ++ (document.source.chars ++ document.after.chars))

/-- Every JSON text has a source, with the value that is read from the text. -/
theorem JsonText.exists_document {text : String} {value : JsonText}
    (h : JsonText.read? text = some value) :
    ∃ document : JsonDocument, document.text = text ∧ document.source.value = value := by
  unfold JsonText.read? at h
  dsimp only at h
  split at h
  · rename_i v rest hvalue
    split_ifs at h with hend
    cases h
    obtain ⟨before, source, hsource, rfl⟩ := (sourced _).value hvalue
    obtain ⟨after, hafter⟩ := exists_blanks rest
    rw [List.isEmpty_iff.mp hend, List.append_nil] at hafter
    refine ⟨⟨before, source, after⟩, ?_, rfl⟩
    rw [JsonDocument.text, ← hafter, ← hsource, String.ofList_toList]
  · cases h

end BrowserFlow
