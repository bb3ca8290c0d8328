import BrowserFlow.Proofs.Json.Compact
import BrowserFlow.Proofs.Yaml.JsonNodes

/-!
# Strings that stop the reading

A string with a mark in it cannot be scanned. If it stands near the beginning of an object, the text
is no document at all (`exists_read_eq`): a key may still begin with the brace, so that no token can
be taken before the string is reached (`Holds`), and when the first token is demanded the reading
fails (`Fails.supply`).
-/

namespace BrowserFlow

open Text JsonText JsonSource

namespace Yaml

variable {layout layout' layout'' : Layout} {n m : Nat} {start : KeyStart} {e : SyntaxError}

/-! ## Tokens that are held back -/

namespace Layout

/-- No token can be taken: none waits, or a key may still begin with the first one. -/
def Holds (layout : Layout) : Prop :=
  layout.waiting.isEmpty = true ∨ ∃ start, layout.starts.getLast? = some (some start) ∧
    start.position = layout.taken ∧ isStale layout.cursor start = false

/-- In so many steps the reading comes to an error, and no token can be taken before. -/
inductive Fails : Nat → Layout → Prop
  /-- The next step is the error. -/
  | here {layout : Layout} {e : SyntaxError} (isEnded : layout.isEnded = false)
    (holds : layout.Holds) (next : layout.next = .error e) : Fails 0 layout
  /-- One step is made, and then the others. -/
  | step {layout layout' : Layout} {n : Nat} (isEnded : layout.isEnded = false)
    (holds : layout.Holds) (next : layout.next = .ok layout') (rest : Fails n layout') :
    Fails (n + 1) layout

/-- While a key may begin with the first token, it is not settled what that is. -/
theorem Holds.isUnsettled (h : layout.Holds) (hwaiting : layout.waiting.isEmpty = false)
    {starts : List (Option KeyStart)}
    (hfresh : freshStarts layout.cursor layout.starts = .ok starts) :
    { layout with starts }.isUnsettled = true := by
  obtain hempty | ⟨start, hlast, hposition, hstale⟩ := h
  · exact absurd (hempty.symm.trans hwaiting) Bool.noConfusion
  · rw [freshStarts_eq] at hfresh
    split_ifs at hfresh
    cases hfresh
    have hmem : some start ∈ layout.starts.map (fresh layout.cursor) := by
      refine List.mem_map.mpr ⟨some start, List.mem_of_getLast? hlast, ?_⟩
      simp [fresh, hstale]
    exact List.any_eq_true.mpr ⟨_, hmem, by simp [hposition]⟩

/-- One more round of reading on demand is made while tokens are held back. -/
theorem Holds.supply (h : layout.Holds) (hended : layout.isEnded = false) (fuel : Nat) :
    (∃ e, layout.supply (fuel + 1) = .error e) ∨
      layout.supply (fuel + 1) = layout.next >>= Layout.supply fuel := by
  cases hwaiting : layout.waiting.isEmpty with
  -- Without a token that waits, the next one is read anyway.
  | true =>
    right
    rw [Layout.supply, hwaiting, if_pos rfl, hended]
    rfl
  | false =>
    cases hfresh : freshStarts layout.cursor layout.starts with
    | error e =>
      left
      simp only [Layout.supply, hwaiting, hfresh]
      exact ⟨e, rfl⟩
    | ok starts =>
      right
      rw [supply_waiting fuel hwaiting hfresh, h.isUnsettled hwaiting hfresh, if_pos rfl,
        next_freshened hfresh]

/-- What fails before a token can be taken fails when the first one is demanded. -/
theorem Fails.supply (h : Fails n layout) {fuel : Nat} (hfuel : n < fuel) :
    ∃ e, layout.supply fuel = .error e := by
  induction h generalizing fuel with
  | @here layout e hended hholds hnext =>
    obtain ⟨fuel, rfl⟩ := Nat.exists_eq_add_of_lt hfuel
    obtain herror | hsupply := hholds.supply hended (0 + fuel)
    · exact herror
    · exact ⟨e, by rw [hsupply, hnext]; rfl⟩
  | @step layout layout' n hended hholds hnext _ ih =>
    obtain ⟨fuel, rfl⟩ := Nat.exists_eq_add_of_lt hfuel
    obtain herror | hsupply := hholds.supply hended (n + 1 + fuel)
    · exact herror
    · obtain ⟨e, hlater⟩ := ih (show n < n + 1 + fuel by omega)
      exact ⟨e, by rw [hsupply, hnext]; exact hlater⟩

/-! ## The outermost start -/

/-- Steps lead on. -/
theorem Chain.reaches (h : Chain n layout layout') : Reaches layout.cursor layout'.cursor := by
  induction h with
  | refl => exact .refl _
  | step _ _ keeps _ ih => exact keeps.reaches.trans ih

/-- While the outermost start is possible, no token can be taken on the way. -/
theorem Chain.fails (h : Chain n layout layout') (hended : layout'.isEnded = false)
    (hlast : layout.starts.getLast? = some (some start)) (hposition : start.position = layout.taken)
    (hstale : isStale layout'.cursor start = false) (herror : layout'.next = .error e) :
    Fails n layout := by
  induction h with
  | refl => exact .here hended (.inr ⟨start, hlast, hposition, hstale⟩) herror
  | step isEnded next keeps rest ih =>
    have hlater := isStale_eq_false rest.reaches hstale
    have hhere := isStale_eq_false keeps.reaches hlater
    exact .step isEnded (.inr ⟨start, hlast, hposition, hhere⟩) next
      (ih hended (keeps.last start hlast hlater) (hposition.trans keeps.taken.symm) hstale herror)

/-! ## Members in front of a string -/

/-- A member as it is spelled, with the comma behind it. -/
def spelled (m : List Piece × JsonSource) : List Char :=
  literal m.1 ++ ':' :: (m.2.chars ++ [','])

theorem Scans.refl (layout : Layout) : Scans [] [] layout layout where
  passes := .refl _
  waiting := by simp
  taken := rfl
  chain := ⟨0, Nat.le_refl 0, .refl layout⟩

/-- Members are read one after the other. -/
theorem Inside.exists_scans_spelled {depth : Nat} {members : List (List Piece × JsonSource)}
    {t : List Char} (h : Inside (depth + 1) layout) (hmay : layout.mayStart = true)
    (hmembers : ∀ m ∈ members, IsKey m.1 .none ∧ m.2.IsReadable)
    (hrest : layout.cursor.rest = members.flatMap spelled ++ t) :
    ∃ layout' tokens, Scans (members.flatMap spelled) tokens layout layout' ∧
      Inside (depth + 1) layout' ∧ layout'.mayStart = true ∧
        tokens.length ≤ (members.flatMap spelled).length := by
  induction members generalizing layout with
  | nil => exact ⟨layout, [], .refl layout, h, hmay, Nat.le_refl _⟩
  | cons m members ih =>
    rw [List.forall_mem_cons] at hmembers
    rw [List.flatMap_cons, List.append_assoc] at hrest
    -- No blanks stand around the values, so that each ends where the comma comes.
    have hvalue (layout₁ : Layout) (h₁ : Inside (depth + 1) layout₁)
        (hrest₁ : layout₁.cursor.rest =
          [] ++ (m.2.chars ++ ([] ++ ([','] ++ (members.flatMap spelled ++ t))))) :
        ScansValue depth [] m.2.chars [] m.2.tokens layout₁ :=
      m.2.scans hmembers.1.2 h₁ (List.forall_mem_nil _) (List.forall_mem_nil _) rfl hrest₁
    obtain ⟨layout₁, hmember, h₁, hmay₁⟩ := h.scans_member hmay hmembers.1.1
      (List.forall_mem_nil _) [',']
      (P := fun layout₁ => Inside (depth + 1) layout₁ ∧ layout₁.mayStart = true)
      (by simpa [spelled, Blanks.none] using hrest) hvalue
      (fun layout₁ left h₁ hleft hrest₁ => h₁.scans_comma hleft hrest₁)
    have hmember' : Scans (spelled m)
        (.key :: stringToken m.1 :: .value :: (m.2.tokens ++ [.flowEntry])) layout layout₁ := by
      simpa [spelled, Blanks.none] using hmember
    obtain ⟨layout₂, tokens, hlater, h₂, hmay₂, hlength⟩ :=
      ih h₁ hmay₁ hmembers.2 (hmember'.rest hrest)
    refine ⟨layout₂, _, List.flatMap_cons ▸ hmember'.trans hlater, h₂, hmay₂, ?_⟩
    have := m.2.length_tokens_le
    simp only [List.flatMap_cons, List.length_append, List.length_cons, spelled, literal,
      List.length_nil]
    omega

/-- A string with a mark is an error. -/
theorem Inside.exists_next_error {depth : Nat} {pieces : List Piece} {t : List Char}
    (h : Inside (depth + 1) layout) (hwhole : ∀ p ∈ pieces, p.Whole)
    (hmarked : marked false pieces = true) (hrest : layout.cursor.rest = literal pieces ++ t) :
    ∃ e, layout.next = .error e := by
  obtain ⟨layout₁, harrives, h₁⟩ := h.exists_arrives
    (show layout.cursor.rest = [] ++ (literal pieces ++ t) from hrest) (List.forall_mem_nil _)
    (by rintro _ ⟨⟩; rfl) (.inl (Nat.succ_pos _))
  have hrest₁ : layout₁.cursor.rest = literal pieces ++ t := harrives.passes.rest.symm.trans hrest
  have hmark := Cursor.atDocumentMark_eq_false hrest₁ (by simp) (by decide)
  obtain ⟨e, hquoted⟩ := readQuoted_marked hwhole hrest₁ hmarked
  have hrun : (readQuoted false).run layout₁.cursor = .error e := hquoted
  refine ⟨e, ?_⟩
  rw [harrives.next, readHere_eq hrest₁, (token_eq hmark).2.2.2.2.2.1, Layout.quotedScalar,
    h₁.saveStart_eq]
  simp only [bind, Except.bind, Layout.scan, hrun]

/-- A text whose first token is an error is no document. -/
theorem Document.read_of_error {text : String} {layout : Layout} {e : SyntaxError}
    (hlayout : Layout.ofText text = .ok layout)
    (hsupply : layout.supply (text.length + 2) = .error e) :
    Document.read text = { root := none, targets := [], fault := some e } := by
  have hfirst (fuel : Nat) : readFirst fuel { layout, limit := text.length + 2 } =
      (none, { layout, limit := text.length + 2, fault := some e }) := by
    simp only [readFirst, Read.peek, Read.bind_apply, Read.get_apply, hsupply]
    rfl
  have hending (fuel : Nat) :
      readEnding fuel { layout, limit := text.length + 2, fault := some e } =
        ((), { layout, limit := text.length + 2, fault := some e }) := rfl
  simp only [Document.read, hlayout, StateT.run, Read.bind_apply, hfirst, hending, Read.pure_apply]

section Prefix

variable {members : List (List Piece × JsonSource)} {key pieces : List Piece} {t : List Char}
  (hmembers : ∀ m ∈ members, IsKey m.1 .none ∧ m.2.IsReadable) (hkey : IsKey key .none)
  (hwhole : ∀ p ∈ pieces, p.Whole) (hmarked : marked false pieces = true)
  (hbreak : ∀ x ∈ members.flatMap spelled ++ (literal key ++ [':']), isBreak x = false)
  (hsize : byteSize (members.flatMap spelled ++ (literal key ++ [':'])) < maxKey)

include hmembers hkey hwhole hmarked hbreak hsize

/-- The reading of an object fails at a string with a mark, if that is near enough to the
beginning. -/
theorem exists_fails : ∃ n, Fails n { cursor := { rest :=
    '\x7b' :: (members.flatMap spelled ++ (literal key ++ ':' :: (literal pieces ++ t))) } } ∧
      n ≤ (members.flatMap spelled).length + 4 := by
  have h₀ : Inside 0 { cursor := { rest :=
      '\x7b' :: (members.flatMap spelled ++ (literal key ++ ':' :: (literal pieces ++ t))) } } :=
    ⟨rfl, by simp, rfl, rfl, rfl⟩
  obtain ⟨layout₁, hnext, h₁, hmay₁, -, htaken, hrest₁, start, hlast, hposition, hline, hindex⟩ :=
    h₀.exists_opened (List.forall_mem_nil _) rfl rfl rfl
  obtain ⟨layout₂, tokens, hscans, h₂, hmay₂, hlength⟩ :=
    h₁.exists_scans_spelled hmay₁ hmembers hrest₁
  obtain ⟨layout₃, hscans', h₃⟩ := h₂.scans_key hmay₂ hkey (List.forall_mem_nil _)
    (t := literal pieces ++ t) (hscans.rest hrest₁)
  have hall := hscans.trans hscans'
  have hrest₃ : layout₃.cursor.rest = literal pieces ++ t := hall.rest (by
    rw [hrest₁]
    simp [Blanks.none])
  obtain ⟨e, herror⟩ := h₃.exists_next_error hwhole hmarked hrest₃
  have hpasses : Cursor.Passes (members.flatMap spelled ++ (literal key ++ [':'])) layout₁.cursor
      layout₃.cursor := by simpa [Blanks.none] using hall.passes
  -- A key may still begin with the brace, because no line has ended.
  have hstale : isStale layout₃.cursor start = false := by
    have hsame := hpasses.line hbreak
    have hfar := hpasses.index
    rw [Bool.eq_false_iff]
    simp only [isStale, Bool.or_eq_true, decide_eq_true_eq, ne_eq]
    omega
  obtain ⟨n, hn, hchain⟩ := hall.chain
  refine ⟨n + 1, .step rfl (.inl rfl) hnext (hchain.fails h₃.isEnded hlast ?_ hstale herror), ?_⟩
  · rw [hposition, htaken]
    rfl
  · rw [List.length_append, List.length_cons, List.length_cons, List.length_singleton] at hn
    omega

/-- The text of an object is no document if a string with a mark is near enough to the beginning. -/
theorem exists_read_eq {text : String} (htext : text.toList =
      '\x7b' :: (members.flatMap spelled ++ (literal key ++ ':' :: (literal pieces ++ t)))) :
    ∃ e, Document.read text = { root := none, targets := [], fault := some e } := by
  cases hlayout : Layout.ofText text with
  | error e => exact ⟨e, by simp only [Document.read, hlayout]⟩
  | ok layout =>
    obtain ⟨n, hfails, hn⟩ := exists_fails (t := t) hmembers hkey hwhole hmarked hbreak hsize
    -- A text with allowed characters is scanned from its first one on.
    have hstart : layout = { cursor := { rest := text.toList } } := by
      unfold Layout.ofText at hlayout
      split at hlayout
      · cases hlayout
      · exact (Except.ok.inj hlayout).symm
    rw [← htext, ← hstart] at hfails
    have hlength := congrArg List.length htext
    simp only [String.length_toList, List.length_cons, List.length_append, literal] at hlength
    obtain ⟨e, hsupply⟩ := hfails.supply (show n < text.length + 2 by omega)
    exact ⟨e, Document.read_of_error hlayout hsupply⟩

end Prefix

end Layout

end Yaml

end BrowserFlow
