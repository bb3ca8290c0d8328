import BrowserFlow.Proofs.Yaml.Scanning

/-!
# JSON texts as tokens

A JSON text is scanned as the tokens of its value, in their order (`JsonSource.tokens`,
`JsonSource.scans`); the object of a document as these and the end of the text
(`JsonDocument.runs`). The induction is on the source, together for values, items and members.

Values and what stands behind them do not fit exactly: behind a plain scalar the blanks belong to it,
behind any other value they belong to the next token. `ScansValue` says that a value is read with some
of the blanks behind it, and `ScansValue.bind` goes on with those that are left.
-/

namespace BrowserFlow

open Text JsonText JsonSource

mutual

/-- YAML can read the strings and keys of a value. -/
def JsonSource.IsReadable : JsonSource → Prop
  | .string pieces => IsScalar pieces
  | .array items => items.IsReadable
  | .object members => members.IsReadable
  | _ => True

/-- YAML can read the strings and keys of some items. -/
def ItemsSource.IsReadable : ItemsSource → Prop
  | .last _ item _ => item.IsReadable
  | .cons _ item _ rest => item.IsReadable ∧ rest.IsReadable

/-- YAML can read the strings and keys of some members. -/
def MembersSource.IsReadable : MembersSource → Prop
  | .last _ key between _ value _ => IsKey key between ∧ value.IsReadable
  | .cons _ key between _ value _ rest =>
    IsKey key between ∧ value.IsReadable ∧ rest.IsReadable

end

mutual

/-- The tokens of a value. -/
def JsonSource.tokens : JsonSource → List Yaml.Token
  | .null => [plainToken "null".toList]
  | .bool b => [plainToken (if b then "true" else "false").toList]
  | .number _ digits _ => [plainToken digits]
  | .string pieces => [stringToken pieces]
  | .emptyArray _ => [.flowSequenceStart, .flowSequenceEnd]
  | .array items => .flowSequenceStart :: items.tokens
  | .emptyObject _ => [.flowMappingStart, .flowMappingEnd]
  | .object members => .flowMappingStart :: members.tokens

/-- The tokens of some items and of the bracket behind them. -/
def ItemsSource.tokens : ItemsSource → List Yaml.Token
  | .last _ item _ => item.tokens ++ [.flowSequenceEnd]
  | .cons _ item _ rest => item.tokens ++ .flowEntry :: rest.tokens

/-- The tokens of some members and of the brace behind them. -/
def MembersSource.tokens : MembersSource → List Yaml.Token
  | .last _ key _ _ value _ =>
    .key :: stringToken key :: .value :: (value.tokens ++ [.flowMappingEnd])
  | .cons _ key _ _ value _ rest =>
    .key :: stringToken key :: .value :: (value.tokens ++ .flowEntry :: rest.tokens)

end

namespace Yaml.Layout

variable {layout layout' layout'' : Layout} {depth : Nat} {s s' t gap : List Char}
  {tokens tokens' : List Token}

/-! ## Steps -/

/-- No start is forgotten on the way to a token and over it. -/
theorem Arrives.keeps (h : Arrives gap layout layout')
    (hreaches : Reaches layout'.cursor layout''.cursor)
    (hlast : layout''.starts.getLast? = layout'.starts.getLast?)
    (htaken : layout''.taken = layout'.taken) : layout.Keeps layout'' where
  reaches := (reaches_of_passes h.passes).trans hreaches
  last start hstart hstale := by
    have hfresh := isStale_eq_false hreaches hstale
    rw [hlast, h.starts, List.getLast?_map, hstart]
    simp [fresh, hfresh]
  taken := htaken.trans h.taken

/-- A token is read behind blanks. -/
theorem Arrives.scans {token : Token} (h : Arrives gap layout layout')
    (hended : layout.isEnded = false) (hreads : Reads s token layout' layout'')
    (hlast : layout''.starts.getLast? = layout'.starts.getLast?) :
    Scans (gap ++ s) [token] layout layout'' where
  passes := h.passes.trans hreads.passes
  waiting := by rw [hreads.waiting, h.waiting]
  taken := hreads.taken.trans h.taken
  chain := ⟨1, Nat.le_refl 1, .step hended (h.next.trans hreads.read)
    (h.keeps (reaches_of_passes hreads.passes) hlast hreads.taken) (.refl _)⟩

/-- A bracket that is opened, and its token. -/
inductive Opens : Char → Token → Prop
  | sequence : Opens '[' .flowSequenceStart
  | mapping : Opens '\x7b' .flowMappingStart

/-- A bracket that is closed, and its token. -/
inductive Closes : Char → Token → Prop
  | sequence : Closes ']' .flowSequenceEnd
  | mapping : Closes '\x7d' .flowMappingEnd

section Marks

variable {x : Char} {token : Token} (hgap : ∀ y ∈ gap, isSpace y = true)

include hgap

/-- A bracket is opened inside another one. -/
theorem Inside.scans_open (h : Inside (depth + 1) layout) (hx : Opens x token)
    (hrest : layout.cursor.rest = gap ++ x :: t) :
    ∃ layout', Scans (gap ++ [x]) [token] layout layout' ∧ Inside (depth + 2) layout' ∧
      layout'.mayStart = true := by
  obtain ⟨layout₁, harrives, h₁⟩ := h.exists_arrives hrest hgap
    (by rintro _ ⟨⟩; cases hx <;> rfl) (.inl (Nat.succ_pos _))
  have hrest₁ := List.append_cancel_left (harrives.passes.rest.symm.trans hrest)
  have hmark := Cursor.atDocumentMark_eq_false hrest₁ (by cases hx <;> simp)
    (by cases hx <;> decide)
  -- Both brackets are read in the same way.
  have htoken : layout₁.token x = layout₁.openFlow token := by
    cases hx
    · exact (token_eq hmark).1
    · exact (token_eq hmark).2.1
  obtain ⟨layout₂, hreads, h₂, hmay, hstarts⟩ :=
    h₁.openFlow token hrest₁ (by cases hx <;> rfl) htoken
  refine ⟨layout₂, harrives.scans h.isEnded hreads ?_, h₂, hmay⟩
  have hsaved : layout₁.saved ≠ [] := List.ne_nil_of_length_eq_add_one h₁.save.length
  rw [hstarts, List.getLast?_cons_of_ne_nil hsaved, h₁.getLast?_saved]

/-- A bracket is closed. -/
theorem Inside.scans_close (h : Inside (depth + 1) layout) (hx : Closes x token)
    (hrest : layout.cursor.rest = gap ++ x :: t) :
    ∃ layout', Scans (gap ++ [x]) [token] layout layout' ∧ Inside depth layout' ∧
      layout'.mayStart = false := by
  obtain ⟨layout₁, harrives, h₁⟩ := h.exists_arrives hrest hgap
    (by rintro _ ⟨⟩; cases hx <;> rfl) (.inl (Nat.succ_pos _))
  have hrest₁ := List.append_cancel_left (harrives.passes.rest.symm.trans hrest)
  have hmark := Cursor.atDocumentMark_eq_false hrest₁ (by cases hx <;> simp)
    (by cases hx <;> decide)
  -- Both brackets are read in the same way.
  have htoken : layout₁.token x = layout₁.closeFlow token := by
    cases hx
    · exact (token_eq hmark).2.2.1
    · exact (token_eq hmark).2.2.2.1
  obtain ⟨layout₂, hreads, h₂, hmay, hstarts⟩ :=
    h₁.closeFlow token hrest₁ (by cases hx <;> rfl) htoken
  refine ⟨layout₂, harrives.scans h.isEnded hreads ?_, h₂, hmay⟩
  -- The last start is the one outside all brackets, and it stays.
  have htail : layout₁.starts.tail ≠ [] := List.ne_nil_of_length_eq_add_one (hstarts ▸ h₂.length)
  rw [hstarts, ← h₁.getLast?_cons none, List.getLast?_cons_of_ne_nil htail]

/-- A comma. -/
theorem Inside.scans_comma (h : Inside (depth + 1) layout)
    (hrest : layout.cursor.rest = gap ++ ',' :: t) :
    ∃ layout', Scans (gap ++ [',']) [.flowEntry] layout layout' ∧ Inside (depth + 1) layout' ∧
      layout'.mayStart = true := by
  obtain ⟨layout₁, harrives, h₁⟩ := h.exists_arrives hrest hgap
    (by rintro _ ⟨⟩; rfl) (.inl (Nat.succ_pos _))
  have hrest₁ := List.append_cancel_left (harrives.passes.rest.symm.trans hrest)
  obtain ⟨layout₂, hreads, h₂, hmay, hstarts⟩ := h₁.flowEntry hrest₁
  exact ⟨layout₂, harrives.scans h.isEnded hreads (by rw [hstarts, h₁.getLast?_cons]), h₂, hmay⟩

end Marks

/-! ## Scalars -/

/-- A digit does not end a word, and can only begin something plain. -/
theorem isWordChar_of_isAsciiDigit {x : Char} (h : isAsciiDigit x = true) :
    isWordChar x = true ∧ isBare x = true := by
  have hdigits : ∀ n < 0x3A, 0x30 ≤ n →
      isWordChar (Char.ofNat n) = true ∧ isBare (Char.ofNat n) = true := by decide
  simp only [isAsciiDigit, Bool.and_eq_true, decide_eq_true_eq] at h
  have hx := hdigits x.toNat (by omega) h.1
  rwa [Char.ofNat_toNat] at hx

/-- The characters of numbers do not end a word. -/
theorem isWordChar_of_isNumberChar {x : Char} (h : isNumberChar x = true) :
    isWordChar x = true := by
  simp only [isNumberChar, Bool.or_eq_true, beq_iff_eq] at h
  obtain ((((h | rfl) | rfl) | rfl) | rfl) | rfl := h
  · exact (isWordChar_of_isAsciiDigit h).1
  all_goals rfl

/-- The spelling of a number is a word. -/
theorem isWord_of_spelled {x : Numeral} {digits : List Char} (h : x.Spelled digits) :
    IsWord digits := by
  obtain ⟨tail, hdigits, htail, -⟩ := h.exists_tail
  obtain ⟨first, whole, hwhole⟩ := List.exists_cons_of_ne_nil h.whole_ne_nil
  have hfirst := isWordChar_of_isAsciiDigit (h.digits first (by rw [hwhole]; exact .head _))
  -- A sign is the only thing that may stand in front of the digits.
  refine ⟨?_, if x.negative then ['-'] else [], first, whole ++ tail, ?_, ?_, hfirst.2⟩
  · rw [hdigits]
    intro y hy
    simp only [List.mem_append] at hy
    obtain (hy | hy) | hy := hy
    · cases hneg : x.negative <;> simp [hneg] at hy
      rw [hy]
      rfl
    · exact (isWordChar_of_isAsciiDigit (h.digits y hy)).1
    · exact isWordChar_of_isNumberChar (htail y hy)
  · rw [hdigits, hwhole, List.append_assoc, List.cons_append]
  · cases x.negative
    · exact .inl rfl
    · exact .inr rfl

theorem isWord_null : IsWord "null".toList :=
  ⟨List.all_eq_true.mp rfl, [], 'n', "ull".toList, rfl, .inl rfl, rfl⟩

theorem isWord_bool (b : Bool) : IsWord (if b then "true" else "false").toList := by
  cases b
  · exact ⟨List.all_eq_true.mp rfl, [], 'f', "alse".toList, rfl, .inl rfl, rfl⟩
  · exact ⟨List.all_eq_true.mp rfl, [], 't', "rue".toList, rfl, .inl rfl, rfl⟩

/-- A word begins a token. -/
theorem isTokenStart_of_isWord {word : List Char} (h : IsWord word) :
    ∀ x ∈ (word ++ t).head?, isTokenStart x = true := by
  obtain ⟨dash, x, word', rfl, hdash, hx⟩ := h.begins
  obtain rfl | rfl := hdash
  · rintro _ ⟨⟩
    rw [isBare, Bool.and_eq_true] at hx
    have hne := hx.1
    simp at hne
    simp [isTokenStart, hne, hx.2]
  · rintro _ ⟨⟩
    rfl

/-- From a layout inside a bracket a value is read, perhaps with some of the blanks behind it. -/
def ScansValue (depth : Nat) (gap chars after : List Char) (tokens : List Token) (layout : Layout) :
    Prop :=
  ∃ layout' read left, read ++ left = chars ++ after ∧ (∀ y ∈ left, isSpace y = true) ∧
    Scans (gap ++ read) tokens layout layout' ∧ Inside (depth + 1) layout'

/-- Behind a value the reading goes on with the blanks that are left. -/
theorem ScansValue.bind {chars after marks : List Char} {P : Layout → Prop}
    (h : ScansValue depth gap chars after tokens layout)
    (hrest : layout.cursor.rest = gap ++ (chars ++ (after ++ t)))
    (hnext : ∀ layout₁ left, Inside (depth + 1) layout₁ → (∀ y ∈ left, isSpace y = true) →
      layout₁.cursor.rest = left ++ t →
        ∃ layout₂, Scans (left ++ marks) tokens' layout₁ layout₂ ∧ P layout₂) :
    ∃ layout₂, Scans (gap ++ (chars ++ (after ++ marks))) (tokens ++ tokens') layout layout₂ ∧
      P layout₂ := by
  obtain ⟨layout₁, read, left, hread, hleft, hscans, h₁⟩ := h
  have hrest₁ : layout₁.cursor.rest = left ++ t := hscans.rest (by
    rw [hrest, ← List.append_assoc chars, ← hread, List.append_assoc, List.append_assoc])
  obtain ⟨layout₂, hscans₂, h₂⟩ := hnext layout₁ left h₁ hleft hrest₁
  refine ⟨layout₂, ?_, h₂⟩
  have hall := hscans.trans hscans₂
  rwa [List.append_assoc gap, ← List.append_assoc read, hread, List.append_assoc] at hall

section Scalars

variable (h : Inside (depth + 1) layout) (hgap : ∀ y ∈ gap, isSpace y = true) {after : List Char}
  (hafter : ∀ y ∈ after, isSpace y = true)

include h hgap hafter

theorem scansValue_word {word : List Char} (hword : IsWord word) {x : Char}
    (hx : isFlowMark x = true) (hrest : layout.cursor.rest = gap ++ (word ++ (after ++ x :: t))) :
    ScansValue depth gap word after [plainToken word] layout := by
  obtain ⟨layout₁, harrives, h₁⟩ := h.exists_arrives hrest hgap (isTokenStart_of_isWord hword)
    (.inl (Nat.succ_pos _))
  have hrest₁ := List.append_cancel_left (harrives.passes.rest.symm.trans hrest)
  obtain ⟨layout₂, hreads, h₂, hstarts⟩ := h₁.plainScalar hword hafter hx hrest₁
  exact ⟨layout₂, word ++ after, [], by simp, by simp,
    harrives.scans h.isEnded hreads (by rw [hstarts, h₁.getLast?_saved]), h₂⟩

theorem scansValue_string {pieces : List Piece} (hpieces : IsScalar pieces)
    (hrest : layout.cursor.rest = gap ++ (literal pieces ++ (after ++ t))) :
    ScansValue depth gap (literal pieces) after [stringToken pieces] layout := by
  obtain ⟨layout₁, harrives, h₁⟩ := h.exists_arrives hrest hgap (by rintro _ ⟨⟩; rfl)
    (.inl (Nat.succ_pos _))
  have hrest₁ := List.append_cancel_left (harrives.passes.rest.symm.trans hrest)
  obtain ⟨layout₂, hreads, h₂, -, hstarts⟩ := h₁.quotedScalar hpieces hrest₁
  exact ⟨layout₂, literal pieces, after, rfl, hafter,
    harrives.scans h.isEnded hreads (by rw [hstarts, h₁.getLast?_saved]), h₂⟩

end Scalars

/-! ## Keys -/

/-- In a string without ends of lines there is no mark. -/
theorem marked_eq_false {pieces : List Piece} (h : ∀ p ∈ pieces, p.isBreak = false) :
    marked false pieces = false := by
  induction pieces with
  | nil => rfl
  | cons piece pieces ih =>
    rw [List.forall_mem_cons] at h
    rw [marked, h.1, Bool.false_and, Bool.false_or, ih h.2]

/-- A string that can be read as a key can be read. -/
theorem isScalar_of_isKey {pieces : List Piece} {between : Blanks} (h : IsKey pieces between) :
    IsScalar pieces := by
  refine ⟨h.whole, marked_eq_false fun p hp => ?_⟩
  cases p with
  | raw x plain =>
    refine h.isBreak x (List.mem_append_left _ (List.mem_cons_of_mem _ (List.mem_append_left _ ?_)))
    exact List.mem_flatMap.mpr ⟨_, hp, List.mem_singleton_self x⟩
  | letter => rfl
  | code => rfl

/-- Behind a few characters of a line a key may still have begun in front of them. -/
theorem isStale_startHere {s : List Char} {c : Cursor} (hpasses : Cursor.Passes s layout.cursor c)
    (hbreak : ∀ x ∈ s, isBreak x = false) (hsize : byteSize s ≤ maxKey) :
    isStale c layout.startHere = false := by
  have hline : c.line = layout.startHere.line := hpasses.line hbreak
  have hindex : c.index = layout.startHere.index + byteSize s := hpasses.index
  rw [Bool.eq_false_iff]
  intro hstale
  simp only [isStale, Bool.or_eq_true, decide_eq_true_eq] at hstale
  omega

/-- A key is read with the colon behind it. -/
theorem Inside.scans_key (h : Inside (depth + 1) layout) (hmay : layout.mayStart = true)
    {key : List Piece} {between : Blanks} (hkey : IsKey key between)
    (hgap : ∀ y ∈ gap, isSpace y = true)
    (hrest : layout.cursor.rest = gap ++ (literal key ++ (between.chars ++ ':' :: t))) :
    ∃ layout', Scans (gap ++ (literal key ++ (between.chars ++ [':'])))
      [.key, stringToken key, .value] layout layout' ∧ Inside (depth + 1) layout' := by
  -- The key begins here.
  obtain ⟨layout₁, harrives, h₁⟩ := h.exists_arrives hrest hgap (by rintro _ ⟨⟩; rfl)
    (.inl (Nat.succ_pos _))
  have hrest₁ := List.append_cancel_left (harrives.passes.rest.symm.trans hrest)
  have hmay₁ := (harrives.mayStart (.inr hmay)).trans hmay
  obtain ⟨layout₂, hreads, h₂, -, hstarts₂⟩ := h₁.quotedScalar (isScalar_of_isKey hkey) hrest₁
  have hrest₂ := List.append_cancel_left (hreads.passes.rest.symm.trans hrest₁)
  obtain ⟨layout₃, harrives', h₃⟩ := h₂.exists_arrives hrest₂ between.all (by rintro _ ⟨⟩; rfl)
    (.inl (Nat.succ_pos _))
  have hrest₃ := List.append_cancel_left (harrives'.passes.rest.symm.trans hrest₂)
  -- Where the colon comes, it may still have begun there.
  have hfresh : isStale layout₃.cursor layout₁.startHere = false :=
    isStale_startHere (hreads.passes.trans harrives'.passes) hkey.isBreak hkey.size
  have hstart : layout₃.starts.head? = some (some layout₁.startHere) := by
    rw [harrives'.starts, hstarts₂, saved, if_pos hmay₁]
    simp [fresh, hfresh]
  have hwaiting₃ : layout₃.waiting = layout.waiting ++ [stringToken key] := by
    rw [harrives'.waiting, hreads.waiting, harrives.waiting]
  have hposition : layout₁.startHere.position = layout₃.taken + layout.waiting.length := by
    rw [harrives'.taken, hreads.taken]
    simp [startHere, count, harrives.waiting]
  have hflow₃ : layout₃.inFlow = true := by
    rw [h₃.inFlow]
    exact decide_eq_true (Nat.succ_pos _)
  obtain ⟨layout₄, hread, hpasses₄, hwaiting, htaken, h₄, -, hstarts₄⟩ :=
    h₃.value hflow₃ hstart hwaiting₃ hposition hrest₃
  refine ⟨layout₄, ⟨?_, ?_, ?_, ?_⟩, h₄⟩
  · simpa using ((harrives.passes.trans hreads.passes).trans harrives'.passes).trans hpasses₄
  · rw [hwaiting]
    simp
  · rw [htaken, harrives'.taken, hreads.taken, harrives.taken]
  -- Two tokens are read: the string, and the colon, which puts the key in front of it.
  · refine ⟨2, by simp, .step h.isEnded (harrives.next.trans hreads.read) (harrives.keeps
      (reaches_of_passes hreads.passes) (by rw [hstarts₂, h₁.getLast?_saved]) hreads.taken)
      (.step h₂.isEnded (harrives'.next.trans hread) (harrives'.keeps (reaches_of_passes hpasses₄)
        (by rw [hstarts₄, h₃.getLast?_cons]) htaken) (.refl _))⟩

/-- A member is read with its key, its value and the mark behind it. -/
theorem Inside.scans_member (h : Inside (depth + 1) layout) (hmay : layout.mayStart = true)
    {key : List Piece} {between : Blanks} (hkey : IsKey key between)
    (hgap : ∀ y ∈ gap, isSpace y = true) {ahead chars after : List Char} (marks : List Char)
    {P : Layout → Prop}
    (hrest : layout.cursor.rest = gap ++ (literal key ++ (between.chars ++
      ':' :: (ahead ++ (chars ++ (after ++ (marks ++ t)))))))
    (hvalue : ∀ layout₁, Inside (depth + 1) layout₁ →
      layout₁.cursor.rest = ahead ++ (chars ++ (after ++ (marks ++ t))) →
        ScansValue depth ahead chars after tokens layout₁)
    (hnext : ∀ layout₁ left, Inside (depth + 1) layout₁ → (∀ y ∈ left, isSpace y = true) →
      layout₁.cursor.rest = left ++ (marks ++ t) →
        ∃ layout₂, Scans (left ++ marks) tokens' layout₁ layout₂ ∧ P layout₂) :
    ∃ layout₂, Scans (gap ++ (literal key ++ (between.chars ++
        ':' :: (ahead ++ (chars ++ (after ++ marks))))))
      (.key :: stringToken key :: .value :: (tokens ++ tokens')) layout layout₂ ∧ P layout₂ := by
  obtain ⟨layout₁, hscans, h₁⟩ := h.scans_key hmay hkey hgap hrest
  have hrest₁ := hscans.rest (by simpa using hrest)
  obtain ⟨layout₂, hscans₂, h₂⟩ := (hvalue layout₁ h₁ hrest₁).bind hrest₁ hnext
  exact ⟨layout₂, by simpa using hscans.trans hscans₂, h₂⟩

end Yaml.Layout

/-! ## Values -/

open Yaml.Layout

mutual

/-- A value is read as its tokens. -/
theorem JsonSource.scans {depth : Nat} {layout : Yaml.Layout} {gap after t : List Char} {x : Char}
    (source : JsonSource) (hsource : source.IsReadable) (h : Inside (depth + 1) layout)
    (hgap : ∀ y ∈ gap, isSpace y = true) (hafter : ∀ y ∈ after, isSpace y = true)
    (hx : Yaml.isFlowMark x = true)
    (hrest : layout.cursor.rest = gap ++ (source.chars ++ (after ++ x :: t))) :
    ScansValue depth gap source.chars after source.tokens layout := by
  match source with
  | .null => exact scansValue_word h hgap hafter isWord_null hx hrest
  | .bool b => exact scansValue_word h hgap hafter (isWord_bool b) hx hrest
  | .number _ _ spelled => exact scansValue_word h hgap hafter (isWord_of_spelled spelled) hx hrest
  | .string pieces => exact scansValue_string h hgap hafter hsource hrest
  | .emptyArray between =>
    obtain ⟨layout₁, hopen, h₁, -⟩ := h.scans_open hgap .sequence hrest
    have hrest₁ := hopen.rest (by simpa [JsonSource.chars] using hrest)
    obtain ⟨layout₂, hclose, h₂, -⟩ := h₁.scans_close between.all .sequence hrest₁
    exact ⟨layout₂, _, after, rfl, hafter,
      by simpa [JsonSource.chars, JsonSource.tokens] using hopen.trans hclose, h₂⟩
  | .array items =>
    obtain ⟨layout₁, hopen, h₁, -⟩ := h.scans_open hgap .sequence hrest
    have hrest₁ := hopen.rest (by simpa [JsonSource.chars] using hrest)
    obtain ⟨layout₂, hitems, h₂⟩ := items.scans hsource h₁ hrest₁
    exact ⟨layout₂, _, after, rfl, hafter,
      by simpa [JsonSource.chars, JsonSource.tokens] using hopen.trans hitems, h₂⟩
  | .emptyObject between =>
    obtain ⟨layout₁, hopen, h₁, -⟩ := h.scans_open hgap .mapping hrest
    have hrest₁ := hopen.rest (by simpa [JsonSource.chars] using hrest)
    obtain ⟨layout₂, hclose, h₂, -⟩ := h₁.scans_close between.all .mapping hrest₁
    exact ⟨layout₂, _, after, rfl, hafter,
      by simpa [JsonSource.chars, JsonSource.tokens] using hopen.trans hclose, h₂⟩
  | .object members =>
    obtain ⟨layout₁, hopen, h₁, hmay⟩ := h.scans_open hgap .mapping hrest
    have hrest₁ := hopen.rest (by simpa [JsonSource.chars] using hrest)
    obtain ⟨layout₂, hmembers, h₂, -⟩ := members.scans hsource h₁ hmay hrest₁
    exact ⟨layout₂, _, after, rfl, hafter,
      by simpa [JsonSource.chars, JsonSource.tokens] using hopen.trans hmembers, h₂⟩

/-- Items are read as their tokens. -/
theorem ItemsSource.scans {depth : Nat} {layout : Yaml.Layout} {t : List Char} (items : ItemsSource)
    (hitems : items.IsReadable) (h : Inside (depth + 1) layout)
    (hrest : layout.cursor.rest = items.chars ++ t) :
    ∃ layout', Scans items.chars items.tokens layout layout' ∧ Inside depth layout' := by
  match items with
  | .last before item after =>
    have hrest' : layout.cursor.rest =
        before.chars ++ (item.chars ++ (after.chars ++ ']' :: t)) := by
      simpa [ItemsSource.chars] using hrest
    -- With the last item the bracket is closed.
    refine (item.scans hitems h before.all after.all rfl hrest').bind hrest' ?_
    intro layout₁ left h₁ hleft hrest₁
    obtain ⟨layout₂, hclose, h₂, -⟩ := h₁.scans_close hleft .sequence hrest₁
    exact ⟨layout₂, hclose, h₂⟩
  | .cons before item after rest =>
    have hrest' : layout.cursor.rest =
        before.chars ++ (item.chars ++ (after.chars ++ ',' :: (rest.chars ++ t))) := by
      simpa [ItemsSource.chars] using hrest
    refine (item.scans hitems.1 h before.all after.all rfl hrest').bind hrest' ?_
    intro layout₁ left h₁ hleft hrest₁
    obtain ⟨layout₂, hcomma, h₂, -⟩ := h₁.scans_comma hleft hrest₁
    obtain ⟨layout₃, hlater, h₃⟩ := rest.scans hitems.2 h₂ (hcomma.rest (by simpa using hrest₁))
    exact ⟨layout₃, by simpa using hcomma.trans hlater, h₃⟩

/-- Members are read as their tokens. -/
theorem MembersSource.scans {depth : Nat} {layout : Yaml.Layout} {t : List Char}
    (members : MembersSource) (hmembers : members.IsReadable) (h : Inside (depth + 1) layout)
    (hmay : layout.mayStart = true) (hrest : layout.cursor.rest = members.chars ++ t) :
    ∃ layout', Scans members.chars members.tokens layout layout' ∧ Inside depth layout' ∧
      layout'.mayStart = false := by
  match members with
  | .last before key between ahead item after =>
    -- With the last member the bracket is closed.
    obtain ⟨layout₁, hmember, h₁⟩ := h.scans_member hmay hmembers.1 before.all ['\x7d'] (t := t)
      (P := fun layout₁ => Inside depth layout₁ ∧ layout₁.mayStart = false)
      (by simpa [MembersSource.chars] using hrest)
      (fun layout₁ h₁ hrest₁ => item.scans hmembers.2 h₁ ahead.all after.all rfl hrest₁)
      (fun layout₁ left h₁ hleft hrest₁ => h₁.scans_close hleft .mapping hrest₁)
    exact ⟨layout₁, hmember, h₁⟩
  | .cons before key between ahead item after rest =>
    obtain ⟨layout₁, hmember, h₁, hmay₁⟩ := h.scans_member hmay hmembers.1 before.all [',']
      (t := rest.chars ++ t)
      (P := fun layout₁ => Inside (depth + 1) layout₁ ∧ layout₁.mayStart = true)
      (by simpa [MembersSource.chars] using hrest)
      (fun layout₁ h₁ hrest₁ => item.scans hmembers.2.1 h₁ ahead.all after.all rfl hrest₁)
      (fun layout₁ left h₁ hleft hrest₁ => h₁.scans_comma hleft hrest₁)
    obtain ⟨layout₂, hlater, h₂⟩ := rest.scans hmembers.2.2 h₁ hmay₁
      (hmember.rest (by simpa [MembersSource.chars] using hrest))
    refine ⟨layout₂, ?_, h₂⟩
    simpa [MembersSource.chars, MembersSource.tokens] using hmember.trans hlater

end

/-! ## Documents -/

namespace Yaml.Layout

variable {layout layout' : Layout} {t gap : List Char} {tokens : List Token}

/-- The steps that are left are added up. -/
theorem Chain.runs {n m : Nat} (h : Chain n layout layout') (h' : Runs m layout' tokens) :
    Runs (n + m) layout tokens := by
  induction h with
  | refl => rwa [Nat.zero_add]
  | step isEnded next _ _ ih =>
    rw [Nat.add_right_comm]
    exact .step isEnded next (ih h')

/-- The end of the text is a token of its own. -/
theorem Inside.endText (h : Inside 0 layout) : ∃ layout', layout.endText = .ok layout' ∧
    layout'.isEnded = true ∧ layout'.starts = [none] ∧
      layout'.waiting = layout.waiting ++ [.streamEnd] := by
  have htail : layout.starts.tail = [] := by
    rw [← List.length_eq_zero_iff, List.length_tail, h.length]
  unfold Layout.endText leaveAll
  dsimp only
  generalize (if layout.cursor.column == 0 then layout.cursor else _) = cursor
  have h' : Inside 0 { layout with cursor } := ⟨h.length, h.free, h.indent, h.outer, h.isEnded⟩
  rw [closeBlocks_eq_self h'.indent h'.outer, h'.dropStart_eq]
  exact ⟨_, rfl, rfl, by simp [add, htail], rfl⟩

/-- Outside brackets, behind the last blanks, the text ends. -/
theorem Inside.runs_end (h : Inside 0 layout) (hgap : ∀ y ∈ gap, isSpace y = true)
    (htab : isTabless layout.mayStart gap = true) (hrest : layout.cursor.rest = gap) :
    Runs 1 layout (layout.waiting ++ [.streamEnd]) := by
  have hrest' : layout.cursor.rest = gap ++ [] := by rw [hrest, List.append_nil]
  obtain ⟨layout₁, harrives, h₁⟩ := h.exists_arrives hrest' hgap (by simp) (.inr htab)
  have hrest₁ := List.append_cancel_left (harrives.passes.rest.symm.trans hrest')
  obtain ⟨layout₂, hend, hended, hstarts, hwaiting⟩ := h₁.endText
  have hread : layout₁.readHere = .ok layout₂ := by rw [readHere, hrest₁, hend]
  have hruns : Runs 0 layout₂ layout₂.waiting := .ended hended (by simp [hstarts])
  rw [hwaiting, harrives.waiting] at hruns
  exact .step h.isEnded (harrives.next.trans hread) hruns

end Yaml.Layout

/-- YAML can read a document that is an object. -/
structure JsonDocument.IsReadable (document : JsonDocument) : Prop where
  /-- Its strings and keys. -/
  source : document.source.IsReadable
  /-- There is no tab in front of the object. -/
  before : isTabless true document.before.chars = true
  /-- There is none at the beginning of a line behind it. -/
  after : isTabless false document.after.chars = true

mutual

/-- A value has no more tokens than characters. -/
theorem JsonSource.length_tokens_le (source : JsonSource) :
    source.tokens.length ≤ source.chars.length := by
  match source with
  | .null => decide
  | .bool b => cases b <;> decide
  | .number x digits spelled =>
    obtain ⟨tail, hdigits, -⟩ := spelled.exists_tail
    have := List.length_pos_of_ne_nil spelled.whole_ne_nil
    simp only [JsonSource.tokens, JsonSource.chars, hdigits, List.length_append,
      List.length_singleton]
    omega
  | .string pieces => simp [JsonSource.tokens, JsonSource.chars, literal]
  | .emptyArray gap => simp [JsonSource.tokens, JsonSource.chars]
  | .array items =>
    have := items.length_tokens_le
    simpa [JsonSource.tokens, JsonSource.chars] using this
  | .emptyObject gap => simp [JsonSource.tokens, JsonSource.chars]
  | .object members =>
    have := members.length_tokens_le
    simpa [JsonSource.tokens, JsonSource.chars] using this

/-- Items have no more tokens than characters. -/
theorem ItemsSource.length_tokens_le (items : ItemsSource) :
    items.tokens.length ≤ items.chars.length := by
  match items with
  | .last _ item _ =>
    have := item.length_tokens_le
    simp only [ItemsSource.tokens, ItemsSource.chars, List.length_append, List.length_singleton]
    omega
  | .cons _ item _ rest =>
    have := item.length_tokens_le
    have := rest.length_tokens_le
    simp only [ItemsSource.tokens, ItemsSource.chars, List.length_append, List.length_cons]
    omega

/-- Members have no more tokens than characters. -/
theorem MembersSource.length_tokens_le (members : MembersSource) :
    members.tokens.length ≤ members.chars.length := by
  match members with
  | .last _ key _ _ item _ =>
    have := item.length_tokens_le
    simp only [MembersSource.tokens, MembersSource.chars, literal, List.length_append,
      List.length_cons, List.length_nil]
    omega
  | .cons _ key _ _ item _ rest =>
    have := item.length_tokens_le
    have := rest.length_tokens_le
    simp only [MembersSource.tokens, MembersSource.chars, literal, List.length_append,
      List.length_cons, List.length_nil]
    omega

end

/-- Behind an opening brace the rest of an object is read as its tokens. -/
theorem JsonSource.scans_body {layout : Yaml.Layout} {t : List Char} {source : JsonSource}
    {members : List (Spelling × JsonText)} (hobject : source.value = .object members)
    (hsource : source.IsReadable) (h : Inside 1 layout) (hmay : layout.mayStart = true)
    (hrest : '\x7b' :: layout.cursor.rest = source.chars ++ t) :
    ∃ chars tokens layout', source.chars = '\x7b' :: chars ∧
      source.tokens = .flowMappingStart :: tokens ∧ Scans chars tokens layout layout' ∧
      Inside 0 layout' ∧ layout'.mayStart = false := by
  cases source with
  | emptyObject gap =>
    obtain ⟨layout', hclose, h'⟩ := h.scans_close (x := '\x7d') (t := t) gap.all .mapping
      (by simpa [JsonSource.chars] using hrest)
    exact ⟨_, _, layout', rfl, rfl, hclose, h'⟩
  | object members =>
    obtain ⟨layout', hmembers, h'⟩ := members.scans (t := t) hsource h hmay
      (by simpa [JsonSource.chars] using hrest)
    exact ⟨_, _, layout', rfl, rfl, hmembers, h'⟩
  | _ => cases hobject

/-- An object begins with a brace. -/
theorem JsonSource.exists_chars_eq_cons {source : JsonSource}
    {members : List (Spelling × JsonText)} (h : source.value = .object members) :
    ∃ chars, source.chars = '\x7b' :: chars := by
  cases source with
  | emptyObject => exact ⟨_, rfl⟩
  | object => exact ⟨_, rfl⟩
  | _ => cases h

/-- Outside brackets a brace is opened, and a key may begin with it. -/
theorem Yaml.Layout.Inside.exists_opened {layout : Yaml.Layout} {gap t : List Char}
    (h : Inside 0 layout) (hgap : ∀ y ∈ gap, isSpace y = true) (hmay : layout.mayStart = true)
    (htab : isTabless layout.mayStart gap = true)
    (hrest : layout.cursor.rest = gap ++ '\x7b' :: t) :
    ∃ layout', layout.next = .ok layout' ∧ Inside 1 layout' ∧ layout'.mayStart = true ∧
      layout'.waiting = layout.waiting ++ [.flowMappingStart] ∧ layout'.taken = layout.taken ∧
      layout'.cursor.rest = t ∧ ∃ start, layout'.starts.getLast? = some (some start) ∧
        start.position = layout.count ∧ layout'.cursor.line = start.line ∧
        layout'.cursor.index = start.index + 1 := by
  obtain ⟨layout₁, harrives, h₁⟩ := h.exists_arrives hrest hgap (by rintro _ ⟨⟩; rfl) (.inr htab)
  have hrest₁ := List.append_cancel_left (harrives.passes.rest.symm.trans hrest)
  have hmark := Yaml.Cursor.atDocumentMark_eq_false hrest₁ (by simp) (by decide)
  obtain ⟨layout₂, hreads, h₂, hmay₂, hstarts⟩ :=
    h₁.openFlow .flowMappingStart hrest₁ rfl (token_eq hmark).2.1
  have hmay₁ := (harrives.mayStart (.inr hmay)).trans hmay
  refine ⟨layout₂, harrives.next.trans hreads.read, h₂, hmay₂,
    by rw [hreads.waiting, harrives.waiting], hreads.taken.trans harrives.taken, ?_,
    layout₁.startHere, ?_, ?_, ?_, ?_⟩
  · exact (List.cons.inj (hreads.passes.rest.symm.trans hrest₁)).2
  · -- Outside all brackets there is only the one start.
    have htail : layout₁.starts.tail = [] := by
      rw [← List.length_eq_zero_iff, List.length_tail, h₁.length]
    rw [hstarts, saved, if_pos hmay₁, htail]
    rfl
  · simp [startHere, count, harrives.waiting, harrives.taken]
  · exact hreads.passes.line (List.forall_mem_singleton.mpr rfl)
  · exact hreads.passes.index

/-- The tokens of an object are read up to the end of the text. -/
theorem JsonDocument.runs {document : JsonDocument} {members : List (Spelling × JsonText)}
    (h : document.IsReadable) (hobject : document.source.value = .object members) :
    ∃ n ≤ document.source.tokens.length + 1,
      Runs n { cursor := { rest := document.text.toList } }
        (document.source.tokens ++ [.streamEnd]) := by
  obtain ⟨before, source, after⟩ := document
  have h₀ : Inside 0 { cursor := { rest := (JsonDocument.text ⟨before, source, after⟩).toList } } :=
    ⟨rfl, by simp, rfl, rfl, rfl⟩
  obtain ⟨chars, hchars⟩ := JsonSource.exists_chars_eq_cons hobject
  -- The brace is opened, the rest of the object follows, and then the text ends.
  obtain ⟨layout₂, hnext, h₂, hmay₂, hwaiting, -, hrest, -⟩ := h₀.exists_opened
    (t := chars ++ after.chars) before.all rfl h.before
    (by simp [JsonDocument.text, hchars])
  have hrest₂ : '\x7b' :: layout₂.cursor.rest = source.chars ++ after.chars := by
    rw [hchars, List.cons_append, hrest]
  obtain ⟨body, tokens, layout₃, hbody, htokens, hscans, h₃, hmay₃⟩ :=
    source.scans_body hobject h.source h₂ hmay₂ hrest₂
  have hrest₃ : layout₃.cursor.rest = after.chars := hscans.rest (by
    rw [hbody] at hrest₂
    exact (List.cons.inj hrest₂).2)
  have hend := h₃.runs_end after.all (by rw [hmay₃]; exact h.after) hrest₃
  obtain ⟨n, hn, hchain⟩ := hscans.chain
  have hruns := Runs.step h₀.isEnded hnext (hchain.runs hend)
  rw [hscans.waiting, hwaiting] at hruns
  refine ⟨n + 1 + 1, ?_, by simpa [htokens] using hruns⟩
  rw [htokens, List.length_cons]
  omega

end BrowserFlow
