import BrowserFlow.Yaml.Layout
import Mathlib.Data.List.Basic
import Mathlib.Tactic.SplitIfs

/-!
# Tokens on demand

Tokens are read when they are asked for, and taken while others are still to be read. That does not
show in them: the tokens that are taken are those of a text that is read to its end at once
(`Runs.supply`).

What a step does depends on the tokens that have been taken only in that they are counted, and that
a key is put where it may have begun, which is behind them (`Same`, `next_same`). On demand the
places where a key can no longer begin are given up earlier. Since what has become impossible stays
so, the next token is the same (`next_freshened`). `Follows` relates a layout from which tokens have
been taken to one from which none has; each step of the one is a step of the other, and by induction
on the steps that are left the token that is offered is the next one.
-/

namespace BrowserFlow.Yaml.Layout

variable {α : Type} {layout layout' : Layout} {pre : List Token}

/-- The layout with tokens in front of those that wait, as if none had been taken. -/
def untake (pre : List Token) (layout : Layout) : Layout :=
  { layout with waiting := pre ++ layout.waiting, taken := 0 }

/-- These tokens are those that have been taken, and no key may begin in front of one of them. -/
structure Taken (pre : List Token) (layout : Layout) : Prop where
  /-- There are as many. -/
  length : pre.length = layout.taken
  /-- Where a key may begin, no token has been taken. -/
  le : ∀ start, some start ∈ layout.starts → layout.taken ≤ start.position

/-- A step has the same result whether the tokens in front have been taken or not. -/
def Same (pre : List Token) (result result' : Except SyntaxError Layout) : Prop :=
  match result with
  | .error e => result' = .error e
  | .ok layout => result' = .ok (layout.untake pre) ∧ Taken pre layout

section Same

variable {result result' : Except SyntaxError Layout}
  {step step' : Layout → Except SyntaxError Layout}

/-- One step after another. -/
theorem Same.bind (h : Same pre result result')
    (hstep : ∀ layout, Taken pre layout → Same pre (step layout) (step' (layout.untake pre))) :
    Same pre (result >>= step) (result' >>= step') := by
  cases result with
  | error e => rw [show result' = _ from h]; rfl
  | ok layout => rw [h.1]; exact hstep layout h.2

/-- Reading from the text, and then a step. -/
theorem Same.scan (read : Scan α) {next next' : α × Layout → Except SyntaxError Layout}
    (h : Taken pre layout) (hnext : ∀ a layout, Taken pre layout →
      Same pre (next (a, layout)) (next' (a, layout.untake pre))) :
    Same pre (layout.scan read >>= next) ((layout.untake pre).scan read >>= next') := by
  unfold Layout.scan
  rw [show (layout.untake pre).cursor = layout.cursor from rfl]
  cases read.run layout.cursor with
  | error e => rfl
  | ok found => exact hnext found.1 { layout with cursor := found.2 } ⟨h.length, h.le⟩

/-- A step that depends on what is the same. -/
theorem Same.ite {b : Bool} {other other' : Except SyntaxError Layout}
    (h : Same pre result result') (h' : Same pre other other') :
    Same pre (if b then result else other) (if b then result' else other') := by
  cases b
  · exact h'
  · exact h

end Same

/-! ## The kinds of tokens -/

variable (h : Taken pre layout)

theorem untake_add (token : Token) :
    (layout.untake pre).add token = (layout.add token).untake pre := by
  simp [untake, add]

theorem untake_addMark (n : Nat) (token : Token) :
    (layout.untake pre).addMark n token = (layout.addMark n token).untake pre := by
  simp [untake, addMark, add]

include h

theorem dropStart_same : Same pre layout.dropStart (layout.untake pre).dropStart := by
  obtain ⟨cursor, waiting, taken, isEnded, starts, indent, outer, mayStart⟩ := layout
  rcases starts with _ | ⟨_ | start, rest⟩
  · exact ⟨rfl, h⟩
  · exact ⟨rfl, h⟩
  · simp only [dropStart, untake]
    cases start.isRequired
    · exact ⟨rfl, h.length, fun start' hmem =>
        h.le start' (List.mem_cons_of_mem _ (by simpa using hmem))⟩
    · rfl

theorem count_untake : (layout.untake pre).count = layout.count := by
  simp [count, untake, h.length]

theorem saveStart_same : Same pre layout.saveStart (layout.untake pre).saveStart := by
  unfold saveStart
  rw [show (layout.untake pre).mayStart = layout.mayStart from rfl]
  split_ifs
  · refine (dropStart_same h).bind fun layout h => ⟨?_, h.length, ?_⟩
    · simp only [count_untake h]
      rfl
    · intro start hmem
      rcases List.mem_cons.mp hmem with heq | hmem
      · cases heq
        exact Nat.le_add_right _ _
      · exact h.le start (List.mem_of_mem_drop hmem)
  · exact ⟨rfl, h⟩

theorem untake_insert {position : Nat} (hposition : layout.taken ≤ position) (token : Token) :
    (layout.untake pre).insert position token = (layout.insert position token).untake pre := by
  have htake : (pre ++ layout.waiting).take position =
      pre ++ layout.waiting.take (position - layout.taken) := by
    rw [List.take_append, h.length, List.take_of_length_le (by rw [h.length]; exact hposition)]
  have hdrop : (pre ++ layout.waiting).drop position =
      layout.waiting.drop (position - layout.taken) := by
    rw [List.drop_append, h.length, List.drop_eq_nil_of_le (by rw [h.length]; exact hposition),
      List.nil_append]
  simp [insert, untake, htake, hdrop]

theorem openBlock_same (column : Nat) {position : Nat} (hposition : layout.taken ≤ position)
    (token : Token) :
    Same pre (.ok (layout.openBlock column position token))
      (.ok ((layout.untake pre).openBlock column position token)) := by
  unfold openBlock
  rw [untake_insert h hposition]
  simp only [untake]
  show Same pre _
    (.ok (if (layout.inFlow || decide ((column : Int) ≤ layout.indent)) = true then _ else _))
  split_ifs
  · exact ⟨rfl, h⟩
  · exact ⟨rfl, h.length, h.le⟩

theorem closeBlocks_same (column : Int) :
    Same pre (.ok (layout.closeBlocks column)) (.ok ((layout.untake pre).closeBlocks column)) := by
  unfold closeBlocks
  rw [show (layout.untake pre).inFlow = layout.inFlow from rfl]
  split_ifs
  · exact ⟨rfl, h⟩
  · exact ⟨by simp [untake], h.length, h.le⟩

theorem leaveAll_same : Same pre layout.leaveAll (layout.untake pre).leaveAll := by
  obtain ⟨hclose, htaken⟩ := closeBlocks_same h (-1)
  unfold leaveAll
  rw [Except.ok.inj hclose]
  exact (dropStart_same htaken).bind fun layout h => ⟨rfl, h.length, h.le⟩

theorem endText_same : Same pre layout.endText (layout.untake pre).endText := by
  unfold endText
  dsimp only
  rw [show (layout.untake pre).cursor = layout.cursor from rfl]
  generalize (if layout.cursor.column == 0 then layout.cursor else _) = cursor
  have hcursor : Taken pre { layout with cursor } := ⟨h.length, h.le⟩
  refine (leaveAll_same hcursor).bind fun layout h => ?_
  simp only [untake_add]
  exact ⟨rfl, h.length, h.le⟩

theorem directive_same : Same pre layout.directive (layout.untake pre).directive :=
  (leaveAll_same h).bind fun _ h => .scan _ h fun token _ h =>
    ⟨congrArg _ (untake_add token), h.length, h.le⟩

theorem documentMark_same (token : Token) :
    Same pre (layout.documentMark token) ((layout.untake pre).documentMark token) :=
  (leaveAll_same h).bind fun _ h => ⟨congrArg _ (untake_addMark 3 token), h.length, h.le⟩

theorem openFlow_same (token : Token) :
    Same pre (layout.openFlow token) ((layout.untake pre).openFlow token) := by
  refine (saveStart_same h).bind fun layout h => ⟨?_, h.length, fun start hmem => ?_⟩
  · simp only [untake_addMark]
    rfl
  · exact h.le start (by simpa using hmem)

theorem closeFlow_same (token : Token) :
    Same pre (layout.closeFlow token) ((layout.untake pre).closeFlow token) := by
  refine (dropStart_same h).bind fun layout h => ⟨?_, h.length, fun start hmem => ?_⟩
  · simp only [untake_addMark]
    rfl
  · dsimp only at hmem
    split_ifs at hmem
    · exact h.le start (List.mem_of_mem_drop hmem)
    · exact h.le start hmem

theorem flowEntry_same : Same pre layout.flowEntry (layout.untake pre).flowEntry :=
  (dropStart_same h).bind fun layout h => by
    simp only [untake_addMark]
    exact ⟨rfl, h.length, h.le⟩

omit h in
theorem taken_le_count (layout : Layout) : layout.taken ≤ layout.count :=
  Nat.le_add_right _ _

theorem blockEntry_same : Same pre layout.blockEntry (layout.untake pre).blockEntry := by
  obtain ⟨hopen, htaken⟩ := openBlock_same h layout.cursor.column layout.taken_le_count
    .blockSequenceStart
  unfold blockEntry
  rw [count_untake h, show (layout.untake pre).cursor = layout.cursor from rfl, Except.ok.inj hopen,
    show (layout.untake pre).inFlow = layout.inFlow from rfl,
    show (layout.untake pre).mayStart = layout.mayStart from rfl]
  split_ifs
  · rfl
  · exact (dropStart_same htaken).bind fun layout h => by
      simp only [untake_addMark]
      exact ⟨rfl, h.length, h.le⟩

theorem key_same : Same pre layout.key (layout.untake pre).key := by
  obtain ⟨hopen, htaken⟩ := openBlock_same h layout.cursor.column layout.taken_le_count
    .blockMappingStart
  unfold key
  rw [count_untake h, show (layout.untake pre).cursor = layout.cursor from rfl, Except.ok.inj hopen,
    show (layout.untake pre).inFlow = layout.inFlow from rfl,
    show (layout.untake pre).mayStart = layout.mayStart from rfl]
  split_ifs
  · rfl
  · exact (dropStart_same htaken).bind fun layout h => by
      simp only [untake_addMark]
      exact ⟨rfl, h.length, h.le⟩

theorem value_same : Same pre layout.value (layout.untake pre).value := by
  unfold value
  rw [show (layout.untake pre).starts = layout.starts from rfl]
  split
  · -- A key is put in front of what it begins with.
    rename_i start rest hstarts
    have hle : layout.taken ≤ start.position := h.le start (by rw [hstarts]; exact .head _)
    have hinsert : Taken pre { layout.insert start.position .key with
        starts := none :: rest, mayStart := false } :=
      ⟨h.length, fun start' hmem => h.le start' (by
        rw [hstarts]
        exact List.mem_cons_of_mem _ (by simpa using hmem))⟩
    obtain ⟨hopen, htaken⟩ := openBlock_same hinsert start.column hle .blockMappingStart
    rw [untake_insert h hle]
    refine ⟨?_, htaken.length, htaken.le⟩
    rw [← untake_addMark, ← Except.ok.inj hopen]
    rfl
  · -- There is no key: the value stands alone.
    obtain ⟨hopen, htaken⟩ := openBlock_same h layout.cursor.column layout.taken_le_count
      .blockMappingStart
    rw [count_untake h, show (layout.untake pre).cursor = layout.cursor from rfl,
      Except.ok.inj hopen, show (layout.untake pre).inFlow = layout.inFlow from rfl,
      show (layout.untake pre).mayStart = layout.mayStart from rfl]
    split_ifs
    · rfl
    · simp only [untake_addMark]
      exact ⟨rfl, htaken.length, htaken.le⟩

theorem property_same (read : Scan Token) :
    Same pre (layout.property read) ((layout.untake pre).property read) :=
  (saveStart_same h).bind fun _ h => .scan read ⟨h.length, h.le⟩ fun token _ h =>
    ⟨congrArg _ (untake_add token), h.length, h.le⟩

theorem blockScalar_same (isLiteral : Bool) :
    Same pre (layout.blockScalar isLiteral) ((layout.untake pre).blockScalar isLiteral) :=
  (dropStart_same h).bind fun _ h => .scan _ ⟨h.length, h.le⟩ fun _ _ h =>
    ⟨congrArg _ (untake_add _), h.length, h.le⟩

theorem quotedScalar_same (single : Bool) :
    Same pre (layout.quotedScalar single) ((layout.untake pre).quotedScalar single) :=
  (saveStart_same h).bind fun _ h => .scan _ ⟨h.length, h.le⟩ fun _ _ h =>
    ⟨congrArg _ (untake_add _), h.length, h.le⟩

theorem plainScalar_same : Same pre layout.plainScalar (layout.untake pre).plainScalar :=
  (saveStart_same h).bind fun _ h => .scan _ ⟨h.length, h.le⟩ fun _ _ h => by
    simp only [untake_add]
    exact ⟨rfl, h.length, h.le⟩

theorem token_same (c : Char) : Same pre (layout.token c) ((layout.untake pre).token c) :=
  .ite (directive_same h) <| .ite (documentMark_same h _) <|
  .ite (openFlow_same h _) <| .ite (openFlow_same h _) <|
  .ite (closeFlow_same h _) <| .ite (closeFlow_same h _) <|
  .ite (flowEntry_same h) <| .ite (blockEntry_same h) <| .ite (key_same h) <| .ite (value_same h) <|
  .ite (property_same h _) <| .ite (property_same h _) <| .ite (property_same h _) <|
  .ite (blockScalar_same h _) <| .ite (blockScalar_same h _) <|
  .ite (quotedScalar_same h _) <| .ite (quotedScalar_same h _) <| .ite (plainScalar_same h) rfl

omit h

/-! ## The next token -/

/-- A place is behind another one, or the same. -/
structure Reaches (c c' : Cursor) : Prop where
  /-- No line has been left out. -/
  line : c.line ≤ c'.line
  /-- Nor has any byte. -/
  index : c.index ≤ c'.index

variable {c c' c'' : Cursor} {starts starts' : List (Option KeyStart)}

theorem Reaches.refl (c : Cursor) : Reaches c c :=
  ⟨Nat.le_refl _, Nat.le_refl _⟩

theorem Reaches.trans (h : Reaches c c') (h' : Reaches c' c'') : Reaches c c'' :=
  ⟨Nat.le_trans h.line h'.line, Nat.le_trans h.index h'.index⟩

theorem reaches_skip (c : Cursor) (n : Nat) : Reaches c (c.skip n) :=
  ⟨Nat.le_refl _, Nat.le_add_right _ _⟩

theorem reaches_skipComment (c : Cursor) : Reaches c c.skipComment := by
  unfold Cursor.skipComment
  split_ifs
  · exact reaches_skip c _
  · exact ⟨Nat.le_refl _, Nat.le_refl _⟩

theorem reaches_skipBreak (c : Cursor) : Reaches c c.skipBreak.2 := by
  unfold Cursor.skipBreak
  split
  · exact ⟨Nat.le_succ _, Nat.le_add_right _ _⟩
  · split
    · exact ⟨Nat.le_succ _, Nat.le_add_right _ _⟩
    · exact ⟨Nat.le_refl _, Nat.le_refl _⟩
  · exact ⟨Nat.le_refl _, Nat.le_refl _⟩

/-- Skipping to the next token depends on no tokens, and on the starts of keys only in so far as a
bracket may be open. -/
theorem exists_skipToToken (layout : Layout) (fuel : Nat) : ∃ cursor mayStart,
    Reaches layout.cursor cursor ∧ ∀ waiting taken starts, starts.length = layout.starts.length →
      skipToToken { layout with waiting, taken, starts } fuel =
        { layout with waiting, taken, starts, cursor, mayStart } := by
  -- The induction is on the fuel: a round takes the blanks of a line, and the next one begins in
  -- the line below.
  induction fuel generalizing layout with
  | zero => exact ⟨layout.cursor, layout.mayStart, .refl _, fun _ _ _ _ => rfl⟩
  | succ fuel ih =>
    let first := if layout.cursor.index == 0 && layout.cursor.isAt '\uFEFF'
      then layout.cursor.skip 1 else layout.cursor
    let isSpace (c : Char) := c == ' ' || (c == '\t' && (layout.inFlow || !layout.mayStart))
    let second := (first.takeRun isSpace).2.skipComment
    have hfirst : Reaches layout.cursor first := by
      show Reaches _ (if _ then _ else _)
      split_ifs
      · exact reaches_skip _ _
      · exact ⟨Nat.le_refl _, Nat.le_refl _⟩
    have hsecond : Reaches layout.cursor second :=
      (hfirst.trans (reaches_skip _ _)).trans (reaches_skipComment _)
    cases hbreak : second.satisfies 0 isBreak with
    | false =>
      refine ⟨second, layout.mayStart, hsecond, fun waiting taken starts hlength => ?_⟩
      simp only [skipToToken, inFlow, hlength]
      exact if_neg (ne_true_of_eq_false hbreak)
    | true =>
      obtain ⟨cursor, mayStart, hreaches, hskip⟩ := ih { layout with
        cursor := second.skipBreak.2, mayStart := layout.mayStart || !layout.inFlow }
      refine ⟨cursor, mayStart, (hsecond.trans (reaches_skipBreak _)).trans hreaches,
        fun waiting taken starts hlength => ?_⟩
      simp only [skipToToken, inFlow, hlength]
      exact (if_pos hbreak).trans (hskip waiting taken starts hlength)

/-- Whether no key can begin at a place any more. -/
def isStale (cursor : Cursor) (start : KeyStart) : Bool :=
  start.line < cursor.line || start.index + maxKey < cursor.index

/-- What is left of a place where a key may begin. -/
def fresh (cursor : Cursor) (start? : Option KeyStart) : Option KeyStart :=
  start?.filter (!isStale cursor ·)

/-- Whether a place cannot be given up, but has to be. -/
def isLost (cursor : Cursor) (start? : Option KeyStart) : Bool :=
  start?.any fun start => isStale cursor start && start.isRequired

theorem freshStarts_eq (cursor : Cursor) (starts : List (Option KeyStart)) :
    freshStarts cursor starts =
      if starts.any (isLost cursor) then .error noColon else .ok (starts.map (fresh cursor)) := by
  induction starts with
  | nil => rfl
  | cons first rest ih =>
    cases first with
    | none =>
      simp only [freshStarts, ih, List.any_cons, List.map_cons, isLost, Option.any_none,
        Bool.false_or]
      split_ifs <;> rfl
    | some start =>
      -- The later starts are looked at first, so that a failure among them comes before one here.
      have hstep : freshStarts cursor (some start :: rest) = freshStarts cursor rest >>= fun rest =>
          if isStale cursor start then
            if start.isRequired then .error noColon else .ok (none :: rest)
          else .ok (some start :: rest) := by
        simp only [freshStarts]
        rfl
      rw [hstep, ih]
      simp only [List.any_cons, List.map_cons, isLost, Option.any_some, fresh, Option.filter_some]
      cases rest.any (isLost cursor) <;> cases isStale cursor start <;>
        cases start.isRequired <;> rfl

/-- What has become impossible stays so. -/
theorem isStale_of_reaches (h : Reaches c c') {start : KeyStart} (hstale : isStale c start = true) :
    isStale c' start = true := by
  have := h.line
  have := h.index
  simp only [isStale, Bool.or_eq_true, decide_eq_true_eq] at hstale ⊢
  omega

/-- A start that is possible has been so before. -/
theorem isStale_eq_false (h : Reaches c c') {start : KeyStart} (hstale : isStale c' start = false) :
    isStale c start = false := by
  rw [Bool.eq_false_iff] at hstale ⊢
  exact fun h' => hstale (isStale_of_reaches h h')

/-- What is lost at a place is lost behind it. -/
theorem isLost_of_reaches (h : Reaches c c') {start? : Option KeyStart}
    (hlost : isLost c start? = true) : isLost c' start? = true := by
  cases start? with
  | none => cases hlost
  | some start =>
    rw [isLost, Option.any_some, Bool.and_eq_true] at hlost ⊢
    exact hlost.imp_left (isStale_of_reaches h)

/-- What has been given up is given up behind it too. -/
theorem fresh_fresh (h : Reaches c c') (start? : Option KeyStart) :
    fresh c' (fresh c start?) = fresh c' start? := by
  cases start? with
  | none => rfl
  | some start =>
    cases hstale : isStale c start with
    | false => simp only [fresh, Option.filter_some, hstale, Bool.not_false, if_true]
    | true => simp [fresh, Option.filter_some, hstale, isStale_of_reaches h hstale]

/-- Only what need not be kept is given up, so nothing lost is hidden by it. -/
theorem isLost_fresh {start? : Option KeyStart} (hlost : isLost c start? = false) :
    isLost c' (fresh c start?) = isLost c' start? := by
  cases start? with
  | none => rfl
  | some start =>
    rw [isLost, Option.any_some] at hlost
    cases hstale : isStale c start with
    | false => simp only [fresh, Option.filter_some, hstale, Bool.not_false, if_true]
    | true =>
      have hrequired : start.isRequired = false := by simpa [hstale] using hlost
      simp [isLost, fresh, Option.filter_some, hstale, hrequired]

/-- Giving up starts at one place and then behind it is giving them up behind it. -/
theorem freshStarts_bind (h : Reaches c c') (starts : List (Option KeyStart)) :
    (freshStarts c starts >>= freshStarts c') = freshStarts c' starts := by
  simp only [freshStarts_eq]
  cases hany : starts.any (isLost c) with
  | true =>
    -- What fails at the first place would fail at the second one too.
    obtain ⟨start?, hmem, hlost⟩ := List.any_eq_true.mp hany
    rw [if_pos (List.any_eq_true.mpr ⟨start?, hmem, isLost_of_reaches h hlost⟩)]
    rfl
  | false =>
    have hmap : (starts.map (fresh c)).any (isLost c') = starts.any (isLost c') := by
      rw [Bool.eq_iff_iff, List.any_map, List.any_eq_true, List.any_eq_true]
      refine exists_congr fun start? => and_congr_right fun hmem => ?_
      rw [Function.comp_apply,
        isLost_fresh (Bool.eq_false_iff.mpr (List.any_eq_false.mp hany start? hmem))]
    show freshStarts c' (starts.map (fresh c)) = _
    rw [freshStarts_eq, hmap, List.map_map,
      show fresh c' ∘ fresh c = fresh c' from funext (fresh_fresh h)]

theorem length_freshStarts (h : freshStarts c starts = .ok starts') :
    starts'.length = starts.length := by
  rw [freshStarts_eq] at h
  split_ifs at h
  cases h
  exact List.length_map _

/-- The starts that are left are among those that there were. -/
theorem mem_of_freshStarts (h : freshStarts c starts = .ok starts') {start : KeyStart}
    (hmem : some start ∈ starts') : some start ∈ starts := by
  rw [freshStarts_eq] at h
  split_ifs at h
  cases h
  obtain ⟨start?, hstart, hfresh⟩ := List.mem_map.mp hmem
  rw [fresh, Option.filter_eq_some_iff] at hfresh
  exact hfresh.1 ▸ hstart

/-- Reads the token at the cursor. -/
def readHere (layout : Layout) : Except SyntaxError Layout :=
  match layout.cursor.rest with
  | [] => layout.endText
  | c :: _ => layout.token c

theorem readHere_same (h : Taken pre layout) :
    Same pre layout.readHere (layout.untake pre).readHere := by
  unfold readHere
  rw [show (layout.untake pre).cursor = layout.cursor from rfl]
  cases layout.cursor.rest with
  | nil => exact endText_same h
  | cons c _ => exact token_same h c

/-- The next token is the same whether the tokens in front have been taken or not. -/
theorem next_same (h : Taken pre layout) : Same pre layout.next (layout.untake pre).next := by
  obtain ⟨cursor, mayStart, -, hskip⟩ := exists_skipToToken layout (layout.cursor.rest.length + 1)
  -- The blanks are skipped in the same way, whatever has been taken.
  have hlayout := hskip layout.waiting layout.taken layout.starts rfl
  have huntake : (layout.untake pre).skipToToken (layout.cursor.rest.length + 1) =
      { layout with cursor, mayStart }.untake pre :=
    hskip (pre ++ layout.waiting) 0 layout.starts rfl
  unfold next
  rw [show (layout.untake pre).cursor = layout.cursor from rfl, huntake,
    show layout.skipToToken (layout.cursor.rest.length + 1) = _ from hlayout]
  simp only [untake]
  cases hfresh : freshStarts cursor layout.starts with
  | error e => rfl
  | ok starts =>
    have htaken : Taken pre { layout with cursor, mayStart, starts } :=
      ⟨h.length, fun start hmem => h.le start (mem_of_freshStarts hfresh hmem)⟩
    obtain ⟨hclose, htaken'⟩ := closeBlocks_same htaken cursor.column
    have hsame := readHere_same htaken'
    rw [← Except.ok.inj hclose] at hsame
    exact hsame

/-- Starts that have become impossible may be given up before the next token is read. -/
theorem next_freshened (h : freshStarts layout.cursor layout.starts = .ok starts) :
    { layout with starts }.next = layout.next := by
  obtain ⟨cursor, mayStart, hreaches, hskip⟩ :=
    exists_skipToToken layout (layout.cursor.rest.length + 1)
  have hlayout := hskip layout.waiting layout.taken layout.starts rfl
  have hstarts := hskip layout.waiting layout.taken starts (length_freshStarts h)
  have hfresh : freshStarts cursor starts = freshStarts cursor layout.starts := by
    rw [← freshStarts_bind hreaches layout.starts, h]
    rfl
  unfold next
  rw [show layout.skipToToken (layout.cursor.rest.length + 1) = _ from hlayout, hstarts]
  simp only [hfresh]

/-! ## All tokens -/

/-- In so many steps a text is read to its end, if none of its tokens is taken meanwhile; these are
the tokens. -/
inductive Runs : Nat → Layout → List Token → Prop
  /-- The end has been reached, and no key may begin any more. -/
  | ended {layout : Layout} (isEnded : layout.isEnded = true)
    (starts : ∀ start? ∈ layout.starts, start? = none) : Runs 0 layout layout.waiting
  /-- One token is read, and then the others. -/
  | step {layout layout' : Layout} {n : Nat} {tokens : List Token}
    (isEnded : layout.isEnded = false) (next : layout.next = .ok layout')
    (rest : Runs n layout' tokens) : Runs (n + 1) layout tokens

/-- A layout from which tokens have been taken follows one from which none has been taken: it is at
the same place, but may have given up starts of keys that are impossible. -/
structure Follows (pre : List Token) (whole layout : Layout) : Prop where
  /-- These are the tokens that have been taken. -/
  taken : Taken pre layout
  /-- But for them and for the starts of keys the layouts are the same. -/
  whole_eq : { whole with starts := layout.starts } = layout.untake pre
  /-- Only starts that are impossible have been given up. -/
  fresh : layout.starts = whole.starts ∨
    freshStarts whole.cursor whole.starts = .ok layout.starts

namespace Follows

variable {whole whole' : Layout} {t : Token} {rest : List Token}

theorem isEnded (h : Follows pre whole layout) : layout.isEnded = whole.isEnded :=
  (congrArg Layout.isEnded h.whole_eq).symm

theorem cursor (h : Follows pre whole layout) : layout.cursor = whole.cursor :=
  (congrArg Layout.cursor h.whole_eq).symm

theorem waiting (h : Follows pre whole layout) : whole.waiting = pre ++ layout.waiting :=
  congrArg Layout.waiting h.whole_eq

/-- The next token is read in both. -/
theorem next (h : Follows pre whole layout) (hnext : whole.next = .ok whole') :
    ∃ layout', layout.next = .ok layout' ∧ Follows pre whole' layout' := by
  -- The starts that have been given up on one side would be given up on the other in this step.
  have hwhole : (layout.untake pre).next = .ok whole' := by
    rw [← hnext, ← h.whole_eq]
    obtain hstarts | hfresh := h.fresh
    · rw [hstarts]
    · exact next_freshened hfresh
  have hsame := next_same h.taken
  rw [hwhole] at hsame
  cases hlayout : layout.next with
  | error e => rw [hlayout] at hsame; cases hsame
  | ok layout' =>
    rw [hlayout] at hsame
    obtain ⟨heq, htaken⟩ := hsame
    cases heq
    exact ⟨layout', rfl, htaken, rfl, .inl rfl⟩

/-- Starts of keys that have become impossible may be given up. -/
theorem freshened (h : Follows pre whole layout)
    (hfresh : freshStarts layout.cursor layout.starts = .ok starts) :
    Follows pre whole { layout with starts } where
  taken := ⟨h.taken.length, fun start hmem => h.taken.le start (mem_of_freshStarts hfresh hmem)⟩
  whole_eq := congrArg (fun layout : Layout => { layout with starts }) h.whole_eq
  fresh := by
    rw [h.cursor] at hfresh
    obtain hstarts | hgone := h.fresh
    · exact .inr (hstarts ▸ hfresh)
    · have hbind := freshStarts_bind (.refl whole.cursor) whole.starts
      rw [hgone] at hbind
      exact .inr (hgone.trans (hbind.symm.trans hfresh))

/-- A token may be taken that is settled not to be a key. -/
theorem take (h : Follows pre whole layout) (hwaiting : layout.waiting = t :: rest)
    (hsettled : layout.isUnsettled = false) : Follows (pre ++ [t]) whole layout.take where
  taken := by
    refine ⟨by simp [Layout.take, h.taken.length], fun start hmem => ?_⟩
    have hle := h.taken.le start hmem
    have hne : start.position ≠ layout.taken := by
      intro heq
      have hany : layout.isUnsettled = true :=
        List.any_eq_true.mpr ⟨some start, hmem, by simp [heq]⟩
      rw [hsettled] at hany
      cases hany
    show layout.taken + 1 ≤ start.position
    omega
  whole_eq := by
    rw [show layout.take.starts = layout.starts from rfl, h.whole_eq]
    simp [untake, Layout.take, hwaiting]
  fresh := h.fresh

end Follows

variable {whole : Layout} {n : Nat} {tokens : List Token}

/-- The tokens that have been taken are the first ones. -/
theorem Runs.prefix (hruns : Runs n whole tokens) (h : Follows pre whole layout) :
    pre <+: tokens := by
  induction hruns generalizing layout with
  | ended _ _ => exact h.waiting ▸ List.prefix_append _ _
  | step _ hnext _ ih =>
    obtain ⟨layout', -, h'⟩ := h.next hnext
    exact ih h'

/-- Before a token is read, all starts that have to be given up can be. -/
theorem exists_freshStarts (h : layout.next = .ok layout') :
    ∃ starts, freshStarts layout.cursor layout.starts = .ok starts := by
  obtain ⟨cursor, mayStart, hreaches, hskip⟩ :=
    exists_skipToToken layout (layout.cursor.rest.length + 1)
  have hlayout := hskip layout.waiting layout.taken layout.starts rfl
  unfold Layout.next at h
  rw [show layout.skipToToken (layout.cursor.rest.length + 1) = _ from hlayout] at h
  cases hstarts : freshStarts layout.cursor layout.starts with
  | ok starts => exact ⟨starts, rfl⟩
  | error e =>
    have hbind := freshStarts_bind hreaches layout.starts
    rw [hstarts] at hbind
    dsimp only at h
    rw [← hbind] at h
    cases h

/-- At the end no key may begin. -/
theorem Follows.starts_eq_none (h : Follows pre whole layout)
    (hnone : ∀ start? ∈ whole.starts, start? = none) : ∀ start? ∈ layout.starts, start? = none := by
  rintro (_ | start) hmem
  · rfl
  · obtain hstarts | hfresh := h.fresh
    · exact hnone _ (hstarts ▸ hmem)
    · exact hnone _ (mem_of_freshStarts hfresh hmem)

/-- Where no key may begin, it is settled that no token is one. -/
theorem isUnsettled_eq_false (hnone : ∀ start? ∈ layout.starts, start? = none) :
    layout.isUnsettled = false := by
  rw [isUnsettled, List.any_eq_false]
  intro start? hmem
  simp [hnone start? hmem]

/-- Where no key may begin, no start has to be given up. -/
theorem freshStarts_of_none (hnone : ∀ start? ∈ starts, start? = none) :
    freshStarts c starts = .ok starts := by
  induction starts with
  | nil => rfl
  | cons start? starts ih =>
    rw [List.forall_mem_cons] at hnone
    rw [hnone.1, freshStarts, ih hnone.2]
    rfl

/-- A token waits and can be taken. -/
structure Offers (layout : Layout) (t : Token) : Prop where
  /-- It is the first one. -/
  head : layout.waiting.head? = some t
  /-- It is settled that it is no key. -/
  settled : layout.isUnsettled = false
  /-- No start of a key has become impossible. -/
  fresh : freshStarts layout.cursor layout.starts = .ok layout.starts

/-- Nothing more is read where a token can be taken. -/
theorem Offers.supply {t : Token} (h : layout.Offers t) (fuel : Nat) :
    layout.supply fuel = .ok layout := by
  cases fuel with
  | zero => rfl
  | succ fuel =>
    have hwaiting : layout.waiting.isEmpty = false := by
      have := h.head
      cases hw : layout.waiting with
      | nil => rw [hw] at this; cases this
      | cons => rfl
    simp only [Layout.supply, hwaiting, h.fresh]
    exact if_neg (ne_true_of_eq_false h.settled)

/-- Reading on demand, when no token waits. -/
theorem supply_empty (fuel : Nat) (hwaiting : layout.waiting.isEmpty = true)
    (hended : layout.isEnded = false) :
    layout.supply (fuel + 1) = layout.next >>= (supply fuel) := by
  rw [Layout.supply, hwaiting, if_pos rfl, hended]
  rfl

/-- Reading on demand, when tokens wait. -/
theorem supply_waiting (fuel : Nat) (hwaiting : layout.waiting.isEmpty = false)
    (hfresh : freshStarts layout.cursor layout.starts = .ok starts) :
    layout.supply (fuel + 1) =
      if { layout with starts }.isUnsettled then { layout with starts }.next >>= (supply fuel)
      else .ok { layout with starts } := by
  simp only [supply, hwaiting, hfresh]
  rfl

variable {t : Token} {later : List Token}

/-- A token that waits is the first one that has not been taken, if it is settled that it is no
key. -/
theorem Runs.offers (hruns : Runs n whole (pre ++ t :: later)) (h : Follows pre whole layout)
    (hwaiting : layout.waiting.isEmpty = false)
    (hfresh : freshStarts layout.cursor layout.starts = .ok starts)
    (hsettled : { layout with starts }.isUnsettled = false) : { layout with starts }.Offers t := by
  obtain ⟨t', rest, hcons⟩ := List.exists_cons_of_ne_nil (l := layout.waiting)
    (by rintro hnil; rw [hnil] at hwaiting; cases hwaiting)
  have hprefix := hruns.prefix ((h.freshened hfresh).take hcons hsettled)
  rw [List.prefix_append_right_inj, List.cons_prefix_cons] at hprefix
  have hidem := freshStarts_bind (.refl layout.cursor) layout.starts
  rw [hfresh] at hidem
  exact ⟨by rw [hcons, hprefix.1]; rfl, hsettled, hidem⟩

/-- On demand the first of the tokens is read that have not been taken. -/
theorem Runs.supply {fuel : Nat} (hruns : Runs n whole (pre ++ t :: later))
    (h : Follows pre whole layout) (hfuel : n < fuel) :
    ∃ n' whole' layout', layout.supply fuel = .ok layout' ∧ layout'.Offers t ∧ n' ≤ n ∧
      Runs n' whole' (pre ++ t :: later) ∧ Follows pre whole' layout' := by
  -- The run that is ahead of all takings goes a step on with each token that is read on demand.
  induction fuel generalizing n whole layout with
  | zero => exact absurd hfuel (Nat.not_lt_zero _)
  | succ fuel ih =>
    obtain ⟨tokens, htokens⟩ : ∃ tokens, pre ++ t :: later = tokens := ⟨_, rfl⟩
    have hruns' := hruns
    rw [htokens] at hruns'
    cases hruns' with
    | ended hended hnone =>
      have hnone' := h.starts_eq_none hnone
      have hwaiting : layout.waiting.isEmpty = false := by
        rw [h.waiting, List.append_cancel_left_eq] at htokens
        rw [← htokens]
        rfl
      have hoffers := hruns.offers h hwaiting (freshStarts_of_none hnone')
        (isUnsettled_eq_false hnone')
      exact ⟨0, whole, layout, hoffers.supply _, hoffers, Nat.le_refl 0, hruns, h⟩
    | @step _ whole' n _ hended hnext hrest =>
      rw [← htokens] at hrest
      cases hwaiting : layout.waiting.isEmpty with
      | true =>
        obtain ⟨layout', hlayout, h'⟩ := h.next hnext
        obtain ⟨n', whole'', layout'', hsupply, hoffers, hle, hruns'', h''⟩ :=
          ih hrest h' (by omega)
        refine ⟨n', whole'', layout'', ?_, hoffers, by omega, hruns'', h''⟩
        rw [supply_empty fuel hwaiting (h.isEnded.trans hended), hlayout]
        exact hsupply
      | false =>
        obtain ⟨_, hlayout, -⟩ := h.next hnext
        obtain ⟨starts, hfresh⟩ := exists_freshStarts hlayout
        have hfreshened := h.freshened hfresh
        rw [supply_waiting fuel hwaiting hfresh]
        cases hsettled : { layout with starts }.isUnsettled with
        | false =>
          exact ⟨n + 1, whole, _, rfl, hruns.offers h hwaiting hfresh hsettled, Nat.le_refl _,
            hruns, hfreshened⟩
        | true =>
          obtain ⟨layout', hlayout, h'⟩ := hfreshened.next hnext
          obtain ⟨n', whole'', layout'', hsupply, hoffers, hle, hruns'', h''⟩ :=
            ih hrest h' (by omega)
          refine ⟨n', whole'', layout'', ?_, hoffers, by omega, hruns'', h''⟩
          rw [if_pos rfl, hlayout]
          exact hsupply

end BrowserFlow.Yaml.Layout
