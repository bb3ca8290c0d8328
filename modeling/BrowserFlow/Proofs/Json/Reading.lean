import BrowserFlow.Proofs.Json.Scalar

/-!
# Reading back a JSON value

The text of a value is a JSON text, and what is read from it is the value (`Json.read?_pretty`).
A part of the text is read wherever it stands, if there is fuel for its characters and nothing
behind it that could belong to a number (`JsonText.Reads`). That is shown for the parts of a value
before the value: what is read of a list or an object is what is read of its items, one after the
other up to the closing bracket.
-/

namespace BrowserFlow

open Text

namespace Json

mutual

/-- What is read from the text of a value. -/
def asText : Json → JsonText
  | .null => .null
  | .bool b => .bool b
  | .natural n => .number ⟨false, Nat.toDigits 10 n, [], none⟩
  | .string s => .string (.ok s)
  | .array items => .array (itemsAsText items)
  | .object members => .object (membersAsText members)

/-- What is read from the texts of some items. -/
def itemsAsText : List Json → List JsonText
  | [] => []
  | item :: items => asText item :: itemsAsText items

/-- What is read from the texts of some members. -/
def membersAsText : List (String × Json) → List (Spelling × JsonText)
  | [] => []
  | (key, value) :: members => (.ok key, asText value) :: membersAsText members

end

theorem itemsAsText_eq_map (items : List Json) : itemsAsText items = items.map asText := by
  induction items with
  | nil => rfl
  | cons item items ih => rw [itemsAsText, ih, List.map_cons]

theorem membersAsText_eq_map (members : List (String × Json)) :
    membersAsText members = members.map fun m => (.ok m.1, asText m.2) := by
  induction members with
  | nil => rfl
  | cons member members ih => rw [membersAsText, ih, List.map_cons]

end Json

namespace JsonText

open Json

/-! ## Spaces -/

theorem skipSpace_append {spaces : List Char} (h : ∀ c ∈ spaces, isSpace c = true)
    (s : List Char) : skipSpace (spaces ++ s) = skipSpace s :=
  List.dropWhile_append_of_pos h

theorem skipSpace_newline (depth : Nat) (s : List Char) :
    skipSpace (newline depth ++ s) = skipSpace s := by
  refine skipSpace_append (fun c hc => ?_) s
  rcases List.mem_cons.mp hc with rfl | hc
  · rfl
  · rw [List.eq_of_mem_replicate hc]
    rfl

theorem skipSpace_cons {c : Char} (h : isSpace c = false) (s : List Char) :
    skipSpace (c :: s) = c :: s :=
  List.dropWhile_cons_of_neg (by simp [h])

theorem value?_eq_of_skipSpace_eq {s t : List Char} (h : skipSpace s = skipSpace t) (fuel : Nat) :
    value? fuel s = value? fuel t := by
  cases fuel with
  | zero => rfl
  | succ fuel => simp only [value?, h]

theorem items?_eq_of_skipSpace_eq {s t : List Char} (h : skipSpace s = skipSpace t) (fuel : Nat) :
    items? fuel s = items? fuel t := by
  cases fuel with
  | zero => rfl
  | succ fuel => simp only [items?, value?_eq_of_skipSpace_eq h]

theorem members?_eq_of_skipSpace_eq {s t : List Char} (h : skipSpace s = skipSpace t)
    (fuel : Nat) : members? fuel s = members? fuel t := by
  cases fuel with
  | zero => rfl
  | succ fuel => simp only [members?, h]

theorem ends_newline (depth : Nat) (s : List Char) : Ends (newline depth ++ s) :=
  ends_cons (by decide) _

theorem ends_comma (s : List Char) : Ends (',' :: s) :=
  ends_cons (by decide) s

/-! ## Parts of a value -/

/-- A text is read as a value wherever it stands. -/
structure Reads (text : List Char) (value : JsonText) : Prop where
  /-- It starts with neither a space nor the end of a list. -/
  starts : ∃ c s, text = c :: s ∧ isSpace c = false ∧ c ≠ ']'
  /-- Fuel for its characters is enough, if what follows cannot belong to it. -/
  read : ∀ fuel rest, text.length ≤ fuel → Ends rest →
    value? fuel (text ++ rest) = some (value, rest)

/-- What is read of a text is decided by its first character. -/
theorem Reads.of_cons {c : Char} {s : List Char} {value : JsonText} (hspace : isSpace c = false)
    (hend : c ≠ ']') (h : ∀ fuel rest, s.length ≤ fuel → Ends rest →
      value? (fuel + 1) (c :: (s ++ rest)) = some (value, rest)) : Reads (c :: s) value where
  starts := ⟨c, s, rfl, hspace, hend⟩
  read fuel rest hfuel hrest := by
    cases fuel with
    | zero => exact absurd hfuel (by simp)
    | succ fuel => exact h fuel rest (by simpa using hfuel) hrest

theorem reads_null : Reads "null".toList .null :=
  .of_cons (c := 'n') (s := "ull".toList) rfl (by decide) fun fuel rest _ _ => by
    simp [value?, skipSpace_cons (c := 'n') rfl, after?]

theorem reads_bool (b : Bool) : Reads (if b then "true" else "false").toList (.bool b) := by
  cases b with
  | true =>
    exact .of_cons (c := 't') (s := "rue".toList) rfl (by decide) fun fuel rest _ _ => by
      simp [value?, skipSpace_cons (c := 't') rfl, after?]
  | false =>
    exact .of_cons (c := 'f') (s := "alse".toList) rfl (by decide) fun fuel rest _ _ => by
      simp [value?, skipSpace_cons (c := 'f') rfl, after?]

theorem reads_natural (n : Nat) :
    Reads (Nat.toDigits 10 n) (.number ⟨false, Nat.toDigits 10 n, [], none⟩) := by
  obtain ⟨d, ds, hds⟩ := List.exists_cons_of_ne_nil (Nat.toDigits_ne_nil : Nat.toDigits 10 n ≠ [])
  have hdigit : isAsciiDigit d = true := isAsciiDigit_of_mem_toDigits (n := n) (by simp [hds])
  -- A digit is none of the characters by which the other values are recognized.
  have hother : ∀ c, isAsciiDigit c = false → d ≠ c := by
    rintro c hc rfl
    rw [hc] at hdigit
    exact Bool.false_ne_true hdigit
  have hspace : isSpace d = false := by
    simp [isSpace, hother ' ' rfl, hother '\n' rfl, hother '\t' rfl, hother '\r' rfl]
  rw [hds]
  refine .of_cons hspace (hother ']' rfl) fun fuel rest _ hrest => ?_
  have hread := numeral?_toDigits n hrest
  rw [hds, List.cons_append] at hread
  simp [value?, skipSpace_cons hspace, hread, hother '"' rfl, hother '[' rfl, hother '\x7b' rfl,
    hother 'n' rfl, hother 't' rfl, hother 'f' rfl]

theorem reads_string (s : String) : Reads (stringText s) (.string (.ok s)) :=
  .of_cons rfl (by decide) fun fuel rest _ _ => by
    simp [value?, skipSpace_cons (c := '"') rfl, string?_flatMap]

/-! ## Lists and objects -/

/-- The items of a list are read one after the other, up to the end of the list. -/
theorem items?_prettyItems {depth : Nat} {items : List Json}
    (hitems : ∀ item ∈ items, Reads (prettyAt depth item) item.asText) :
    ∀ {text : List Char} {value : JsonText}, Reads text value → ∀ fuel closing rest,
      text.length + (prettyItems depth items).length < fuel →
      items? fuel (text ++ (prettyItems depth items ++ (newline closing ++ ']' :: rest))) =
        some (value :: itemsAsText items, rest) := by
  -- The first item is arbitrary, so that each of the others can take its place in turn.
  induction items with
  | nil =>
    intro text value h fuel closing rest hfuel
    cases fuel with
    | zero => exact absurd hfuel (by simp)
    | succ fuel =>
      have hread := h.read fuel _ (by omega) (ends_newline closing (']' :: rest))
      simp [prettyItems, items?, hread, skipSpace_newline, skipSpace_cons (c := ']') rfl,
        itemsAsText]
  | cons item items ih =>
    intro text value h fuel closing rest hfuel
    rw [List.forall_mem_cons] at hitems
    cases fuel with
    | zero => exact absurd hfuel (by simp)
    | succ fuel =>
      simp only [prettyItems, List.length_append, List.length_cons] at hfuel
      have hitem := ih hitems.2 hitems.1 fuel closing rest (by omega)
      rw [← items?_eq_of_skipSpace_eq (skipSpace_newline depth _)] at hitem
      have hread := h.read fuel _ (by omega) (ends_comma (newline depth ++ (prettyAt depth item ++
        (prettyItems depth items ++ (newline closing ++ ']' :: rest)))))
      simp [prettyItems, items?, hread, hitem, skipSpace_cons (c := ',') rfl, itemsAsText]

/-- What follows an opening bracket is a list of items unless the list ends there. -/
theorem value?_bracket {s t : List Char} {c : Char} (h : skipSpace s = c :: t) (hend : c ≠ ']')
    (fuel : Nat) : value? (fuel + 1) ('[' :: s) =
      (items? fuel (c :: t)).map fun (items, rest) => (.array items, rest) := by
  simp only [value?, skipSpace_cons (c := '[') rfl, h, Char.reduceBEq, ↓reduceIte,
    Bool.false_eq_true]
  split
  case h_1 heq => exact absurd (List.cons.inj heq).1 hend
  case h_2 => rfl

theorem reads_array {depth : Nat} {items : List Json}
    (hitems : ∀ item ∈ items, Reads (prettyAt (depth + 1) item) item.asText) :
    Reads (prettyAt depth (.array items)) (asText (.array items)) := by
  cases items with
  | nil =>
    exact .of_cons (c := '[') (s := [']']) rfl (by decide) fun fuel rest _ _ => by
      simp [value?, skipSpace_cons (c := '[') rfl, skipSpace_cons (c := ']') rfl, asText,
        itemsAsText]
  | cons item items =>
    rw [List.forall_mem_cons] at hitems
    simp only [prettyAt, List.append_assoc, List.cons_append, asText, itemsAsText]
    refine .of_cons rfl (by decide) fun fuel rest hfuel _ => ?_
    simp only [List.length_append, List.length_cons] at hfuel
    have hread := items?_prettyItems hitems.2 hitems.1 fuel depth rest (by omega)
    -- The list does not end at once, because no item starts with its end.
    obtain ⟨c, s, hitem, hspace, hend⟩ := hitems.1.starts
    rw [hitem, List.cons_append] at hread
    simp only [List.append_assoc, List.cons_append, List.nil_append, hitem]
    rw [value?_bracket (by rw [skipSpace_newline, skipSpace_cons hspace]) hend, hread]
    rfl

/-- After a member, an object ends or goes on with the next member. -/
theorem members?_prettyMember {depth : Nat} {value : Json}
    (h : Reads (prettyAt depth value) value.asText) (key : String) {fuel : Nat} {rest : List Char}
    (hfuel : (prettyMember depth (key, value)).length ≤ fuel) (hrest : Ends rest) :
    members? (fuel + 1) (prettyMember depth (key, value) ++ rest) =
      match skipSpace rest with
      | '\x7d' :: rest => some ([(.ok key, value.asText)], rest)
      | ',' :: rest => do
        let (members, rest) ← members? fuel rest
        return ((.ok key, value.asText) :: members, rest)
      | _ => none := by
  simp only [prettyMember, List.length_append] at hfuel
  -- A blank stands between the colon and the value.
  have hblank : ∀ c ∈ [' '], isSpace c = true := by simp [isSpace]
  have hread := h.read fuel rest (by omega) hrest
  rw [← value?_eq_of_skipSpace_eq (skipSpace_append hblank _), List.singleton_append] at hread
  have hkey := string?_flatMap key (':' :: ' ' :: (prettyAt depth value ++ rest))
  simp only [members?, prettyMember, stringText, String.reduceToList, List.cons_append,
    List.nil_append, List.append_assoc, skipSpace_cons (c := '"') rfl, hkey,
    skipSpace_cons (c := ':') rfl, hread, Option.bind_eq_bind, Option.bind_some]
  rfl

/-- The members of an object are read one after the other, up to the end of the object. -/
theorem members?_prettyMembers {depth : Nat} {members : List (String × Json)}
    (hmembers : ∀ m ∈ members, Reads (prettyAt depth m.2) m.2.asText) :
    ∀ (key : String) {value : Json}, Reads (prettyAt depth value) value.asText →
      ∀ fuel closing rest,
      (prettyMember depth (key, value)).length + (prettyMembers depth members).length < fuel →
      members? fuel (prettyMember depth (key, value) ++
        (prettyMembers depth members ++ (newline closing ++ '\x7d' :: rest))) =
        some ((.ok key, value.asText) :: membersAsText members, rest) := by
  -- The induction is on the members behind the first one; blanks in front of them are skipped.
  induction members with
  | nil =>
    intro key value h fuel closing rest hfuel
    cases fuel with
    | zero => exact absurd hfuel (by simp)
    | succ fuel =>
      rw [prettyMembers, List.nil_append, members?_prettyMember h key (by omega)
        (ends_newline closing _), skipSpace_newline, skipSpace_cons rfl]
      rfl
  | cons member members ih =>
    intro key value h fuel closing rest hfuel
    obtain ⟨key', value'⟩ := member
    rw [List.forall_mem_cons] at hmembers
    cases fuel with
    | zero => exact absurd hfuel (by simp)
    | succ fuel =>
      simp only [prettyMembers, List.length_append, List.length_cons] at hfuel
      have hvalue : Reads (prettyAt depth value') value'.asText := hmembers.1
      have hnext := ih hmembers.2 key' hvalue fuel closing rest (by omega)
      rw [← members?_eq_of_skipSpace_eq (skipSpace_newline depth _)] at hnext
      simp only [prettyMembers, List.append_assoc, List.cons_append]
      rw [members?_prettyMember h key (by omega) (ends_comma _), skipSpace_cons rfl]
      simp [hnext, membersAsText]

/-- What follows an opening brace is a list of members unless the object ends there. -/
theorem value?_brace {s t : List Char} {c : Char} (h : skipSpace s = c :: t) (hend : c ≠ '\x7d')
    (fuel : Nat) : value? (fuel + 1) ('\x7b' :: s) =
      (members? fuel (c :: t)).map fun (members, rest) => (.object members, rest) := by
  simp only [value?, skipSpace_cons (c := '\x7b') rfl, h, Char.reduceBEq, ↓reduceIte,
    Bool.false_eq_true]
  split
  case h_1 heq => exact absurd (List.cons.inj heq).1 hend
  case h_2 => rfl

theorem reads_object {depth : Nat} {members : List (String × Json)}
    (hmembers : ∀ m ∈ members, Reads (prettyAt (depth + 1) m.2) m.2.asText) :
    Reads (prettyAt depth (.object members)) (asText (.object members)) := by
  cases members with
  | nil =>
    exact .of_cons (c := '\x7b') (s := ['\x7d']) rfl (by decide) fun fuel rest _ _ => by
      simp [value?, skipSpace_cons (c := '\x7b') rfl, skipSpace_cons (c := '\x7d') rfl, asText,
        membersAsText]
  | cons member members =>
    obtain ⟨key, value⟩ := member
    rw [List.forall_mem_cons] at hmembers
    have hvalue : Reads (prettyAt (depth + 1) value) value.asText := hmembers.1
    simp only [prettyAt, List.append_assoc, List.cons_append, asText, membersAsText]
    refine .of_cons rfl (by decide) fun fuel rest hfuel _ => ?_
    simp only [List.length_append, List.length_cons] at hfuel
    have hread := members?_prettyMembers hmembers.2 key hvalue fuel depth rest (by omega)
    -- The first character of a member is a quote, so that the object is not taken for an empty one.
    obtain ⟨s, hs⟩ : ∃ s, prettyMember (depth + 1) (key, value) = '"' :: s := ⟨_, rfl⟩
    rw [hs, List.cons_append] at hread
    simp only [List.append_assoc, List.cons_append, List.nil_append, hs]
    rw [value?_brace (by rw [skipSpace_newline, skipSpace_cons rfl]) (by decide), hread]
    rfl

/-! ## Values -/

/-- The text of a value is read as the value, at any depth and wherever it stands. -/
theorem reads_prettyAt : ∀ (value : Json) (depth : Nat), Reads (prettyAt depth value) value.asText
  | .null, _ => reads_null
  | .bool b, _ => reads_bool b
  | .natural n, _ => reads_natural n
  | .string s, _ => reads_string s
  | .array items, depth => reads_array fun item hitem => reads_prettyAt item (depth + 1)
  | .object members, depth => reads_object fun m hm =>
    have hvalue : sizeOf m.2 < sizeOf m := by
      cases m
      simp only [Prod.mk.sizeOf_spec]
      omega
    have : sizeOf m.2 < sizeOf members := Nat.lt_trans hvalue (List.sizeOf_lt_of_mem hm)
    reads_prettyAt m.2 (depth + 1)

end JsonText

/-- The text of a value is a JSON text, and what is read from it is the value. -/
theorem Json.read?_pretty (value : Json) : JsonText.read? value.pretty = some value.asText := by
  have hread := (JsonText.reads_prettyAt value 0).read _ [] (Nat.le_succ _) JsonText.ends_nil
  rw [List.append_nil] at hread
  simp [JsonText.read?, pretty, hread, JsonText.skipSpace]

end BrowserFlow
