import BrowserFlow.Proofs.Json.Reading
import BrowserFlow.Proofs.Yaml.JsonTokens
import BrowserFlow.Proofs.Yaml.Written

/-!
# Objects as JSON writes them

An object whose values have no parts is written without blanks, one member after the other. That text
has a source (`JsonDocument.compact`), so that what holds of sources applies to it, and JSON reads it
back (`read?_compact`).
-/

namespace BrowserFlow

open Text JsonText JsonSource

/-- Nothing between two tokens. -/
def Blanks.none : Blanks := ⟨[], nofun⟩

/-- The digits of a number spell it. -/
theorem Numeral.spelled_toDigits (n : Nat) :
    Numeral.Spelled ⟨false, Nat.toDigits 10 n, [], .none⟩ (Nat.toDigits 10 n) where
  whole_ne_nil := Nat.toDigits_ne_nil
  digits _ hc := isAsciiDigit_of_mem_toDigits hc
  unpadded := by
    by_cases hn : n = 0
    · subst hn
      exact .inl rfl
    · obtain ⟨d, ds, hds, hd⟩ := toDigits_eq_cons hn
      exact .inr (by simpa [hds] using hd)
  exists_tail := ⟨[], by simp, by simp, fun _ _ => rfl⟩

/-- A source is what is written for a value that has no parts. -/
inductive JsonSource.Writes : JsonSource → Json → Prop
  /-- The null value. -/
  | null : Writes .null .null
  /-- A truth value. -/
  | bool (b : Bool) : Writes (.bool b) (.bool b)
  /-- A number. -/
  | natural (n : Nat) : Writes (.number _ _ (Numeral.spelled_toDigits n)) (.natural n)
  /-- A string. -/
  | string {pieces : List Piece} {s : String} (h : Written pieces s.toList) :
    Writes (.string pieces) (.string s)

namespace JsonSource

variable {source : JsonSource} {value : Json} {pieces : List Piece} {s : String}

theorem Written.literal_eq (h : Written pieces s.toList) : literal pieces = Json.stringText s := by
  rw [literal, h.chars_eq]
  rfl

theorem Written.spelling_eq (h : Written pieces s.toList) : spelling pieces = .ok s := by
  rw [JsonSource.spelling_eq h.whole, h.map_char, String.ofList_toList]

namespace Writes

theorem chars_eq (h : source.Writes value) : source.chars = value.compactChars := by
  cases h with
  | string h => exact h.literal_eq
  | _ => rfl

theorem value_eq (h : source.Writes value) : source.value = value.asText := by
  cases h with
  | string h => exact congrArg JsonText.string h.spelling_eq
  | _ => rfl

end Writes

/-- A member as it is spelled is what is written for a member of an object. -/
structure WritesMember (m : List Piece × JsonSource) (member : String × Json) : Prop where
  /-- The key is written so. -/
  key : Written m.1 member.1.toList
  /-- The value is written so. -/
  value : m.2.Writes member.2

end JsonSource

/-! ## Objects -/

/-- Members without blanks between the tokens. -/
def MembersSource.compact : List Piece × JsonSource → List (List Piece × JsonSource) → MembersSource
  | m, [] => .last .none m.1 .none .none m.2 .none
  | m, m' :: rest => .cons .none m.1 .none .none m.2 .none (compact m' rest)

/-- The document that is an object without blanks between the tokens. -/
def JsonDocument.compact (m : List Piece × JsonSource) (rest : List (List Piece × JsonSource)) :
    JsonDocument :=
  ⟨.none, .object (.compact m rest), .none⟩

variable {m : List Piece × JsonSource} {member : String × Json}
  {rest : List (List Piece × JsonSource)} {members : List (String × Json)}

@[simp]
theorem MembersSource.list_compact : (compact m rest).list = m :: rest := by
  induction rest generalizing m with
  | nil => rfl
  | cons m' rest ih => rw [compact, list, ih]

/-- A member is written as its key, a colon and its value. -/
theorem JsonSource.WritesMember.chars_eq (h : WritesMember m member) (s : List Char) :
    literal m.1 ++ ':' :: (m.2.chars ++ s) = Json.compactMember member ++ s := by
  obtain ⟨key, value⟩ := member
  rw [h.key.literal_eq, h.value.chars_eq, Json.compactMember]
  simp

theorem MembersSource.chars_compact (hm : WritesMember m member)
    (hrest : List.Forall₂ WritesMember rest members) : (compact m rest).chars =
      Json.compactMember member ++ (Json.compactMembers members ++ ['\x7d']) := by
  induction hrest generalizing m member with
  | nil =>
    rw [compact, chars, ← hm.chars_eq]
    rfl
  | cons hm' _ ih =>
    rw [compact, chars, ih hm', ← hm.chars_eq, Json.compactMembers]
    simp [Blanks.none]

/-- The document has the text that is written for the object. -/
theorem JsonDocument.text_compact (h : List.Forall₂ WritesMember (m :: rest) (member :: members)) :
    (compact m rest).text = (Json.object (member :: members)).compact := by
  obtain ⟨hm, hrest⟩ := List.forall₂_cons.mp h
  simp [text, compact, Json.compact, Json.compactChars, JsonSource.chars,
    MembersSource.chars_compact hm hrest, Blanks.none]

/-- The document has the members of the object. -/
theorem JsonDocument.value_compact (h : List.Forall₂ WritesMember (m :: rest) (member :: members)) :
    (compact m rest).source.value = (Json.object (member :: members)).asText := by
  have hvalues {list : List (List Piece × JsonSource)} {members : List (String × Json)}
      (h : List.Forall₂ WritesMember list members) :
      list.map (fun m => (spelling m.1, m.2.value)) =
        members.map fun m => (.ok m.1, m.2.asText) := by
    induction h with
    | nil => rfl
    | cons hm _ ih => rw [List.map_cons, List.map_cons, ih, hm.key.spelling_eq, hm.value.value_eq]
  rw [compact, JsonSource.value, MembersSource.values_eq_map, MembersSource.list_compact, hvalues h,
    Json.asText, Json.membersAsText_eq_map]

/-- The document can be read if its members can. -/
theorem MembersSource.isReadable_compact
    (h : ∀ m' ∈ m :: rest, IsKey m'.1 .none ∧ m'.2.IsReadable) : (compact m rest).IsReadable := by
  induction rest generalizing m with
  | nil => exact h m List.mem_cons_self
  | cons m' rest ih =>
    rw [List.forall_mem_cons] at h
    exact ⟨h.1.1, h.1.2, ih h.2⟩

/-- The characters of the members are those of their keys and values and the marks between them. -/
theorem MembersSource.forall_mem_chars_compact {P : Char → Prop}
    (hmarks : P ':' ∧ P ',' ∧ P '\x7d') :
    (∀ x ∈ (compact m rest).chars, P x) ↔
      ∀ m' ∈ m :: rest, (∀ x ∈ literal m'.1, P x) ∧ ∀ x ∈ m'.2.chars, P x := by
  induction rest generalizing m with
  | nil => simp [compact, chars, Blanks.none, or_imp, forall_and, hmarks]
  | cons m' rest ih =>
    rw [List.forall_mem_cons, ← ih]
    simp [compact, chars, Blanks.none, or_imp, forall_and, hmarks, and_assoc]

/-! ## Reading back -/

namespace JsonText

open Json

/-- What is written for a value that has no parts is read as the value. -/
theorem reads_of_writes {source : JsonSource} {value : Json} (h : source.Writes value) :
    Reads value.compactChars value.asText := by
  cases h with
  | null => exact reads_null
  | bool b => exact reads_bool b
  | natural n => exact reads_natural n
  | string _ => exact reads_string _

/-- After a member, an object ends or goes on with the next member. -/
theorem members?_compactMember (h : Reads member.2.compactChars member.2.asText) {fuel : Nat}
    {rest : List Char} (hfuel : (compactMember member).length ≤ fuel) (hrest : Ends rest) :
    members? (fuel + 1) (compactMember member ++ rest) =
      match skipSpace rest with
      | '\x7d' :: rest => some ([(.ok member.1, member.2.asText)], rest)
      | ',' :: rest => do
        let (members, rest) ← members? fuel rest
        return ((.ok member.1, member.2.asText) :: members, rest)
      | _ => none := by
  obtain ⟨key, value⟩ := member
  simp only [compactMember, List.length_append, List.length_cons] at hfuel
  have hread := h.read fuel rest (show value.compactChars.length ≤ fuel by omega) hrest
  have hkey := string?_flatMap key (':' :: (value.compactChars ++ rest))
  simp only [members?, compactMember, stringText, List.cons_append, List.nil_append,
    List.append_assoc, skipSpace_cons (c := '"') rfl, hkey, skipSpace_cons (c := ':') rfl, hread,
    Option.bind_eq_bind, Option.bind_some]
  rfl

/-- The members of an object are read one after the other, up to the end of the object. -/
theorem members?_compactMembers
    (hmembers : ∀ m ∈ member :: members, Reads m.2.compactChars m.2.asText) (rest : List Char)
    {fuel : Nat} (hfuel : (compactMember member).length + (compactMembers members).length < fuel) :
    members? fuel (compactMember member ++ (compactMembers members ++ '\x7d' :: rest)) =
      some (membersAsText (member :: members), rest) := by
  -- The induction is on the members behind the first one; the comma or the brace ends its value.
  induction members generalizing member fuel with
  | nil =>
    obtain ⟨fuel, rfl⟩ := Nat.exists_eq_add_of_lt hfuel
    rw [List.forall_mem_singleton] at hmembers
    rw [compactMembers, List.nil_append, members?_compactMember hmembers (by omega)
      (ends_cons (by decide) rest), skipSpace_cons rfl]
    rfl
  | cons member' members ih =>
    rw [List.forall_mem_cons] at hmembers
    cases fuel with
    | zero => exact absurd hfuel (by simp)
    | succ fuel =>
      simp only [compactMembers, List.length_append, List.length_cons] at hfuel
      have hnext := ih hmembers.2 (show (compactMember member').length +
        (compactMembers members).length < fuel by omega)
      simp only [compactMembers, List.append_assoc, List.cons_append]
      rw [members?_compactMember hmembers.1 (by omega) (ends_comma _), skipSpace_cons rfl]
      simp [hnext, membersAsText]

/-- An object is read back from its text if its values are. -/
theorem read?_compact (hmembers : ∀ m ∈ member :: members, Reads m.2.compactChars m.2.asText) :
    read? (Json.object (member :: members)).compact =
      some (Json.object (member :: members)).asText := by
  -- The first character of a member is a quote, so that the object is not taken for an empty one.
  obtain ⟨s, hs⟩ : ∃ s, compactMember member = '"' :: s := by
    obtain ⟨key, value⟩ := member
    exact ⟨_, rfl⟩
  have hlength : (compactMember member).length + (compactMembers members).length <
      (compactMember member ++ (compactMembers members ++ ['\x7d'])).length + 1 := by
    simp only [List.length_append]
    omega
  have hread := members?_compactMembers hmembers [] hlength
  rw [hs, List.cons_append] at hread
  simp only [read?, Json.compact, compactChars, String.toList_ofList, List.append_assoc,
    List.cons_append, List.length_cons, hs]
  rw [List.length_cons] at hread
  rw [value?_brace (skipSpace_cons (c := '"') rfl _) (by decide), hread]
  rfl

end JsonText

end BrowserFlow
