import BrowserFlow.Proofs.Yaml.Demand
import BrowserFlow.Proofs.Yaml.Plain
import BrowserFlow.Proofs.Yaml.Quoted

/-!
# Tokens inside brackets

Inside brackets the indentation does not matter, and what is known of a layout is little more than
how deep it is (`Layout.Inside`). The blanks in front of a token are skipped
(`Inside.exists_arrives`); then one step reads the token, with one lemma for each kind that occurs in
JSON: brackets, commas, strings, the colon behind a key, and words, which are plain scalars.

A key is found out to be one only at its colon, if that is on the same line and not too far away; its
token is then put where the key began. So a string is more when it is a key (`JsonSource.IsKey`) than
when it is a value (`JsonSource.IsScalar`).
-/

namespace BrowserFlow

open Text JsonText JsonSource

namespace JsonSource

/-! ## What YAML can read -/

/-- A string that YAML can read: no pair of surrogates is escaped, and none of its lines is a mark
between documents. -/
structure IsScalar (pieces : List Piece) : Prop where
  /-- The codes are those of characters. -/
  whole : ∀ p ∈ pieces, p.Whole
  /-- No line is a mark. -/
  marked : marked false pieces = false

/-- A string that YAML can read as a key, with what stands before the colon. -/
structure IsKey (pieces : List Piece) (between : Blanks) : Prop where
  /-- The codes are those of characters. -/
  whole : ∀ p ∈ pieces, p.Whole
  /-- There is no end of a line. -/
  isBreak : ∀ x ∈ literal pieces ++ between.chars, Yaml.isBreak x = false
  /-- There are not too many bytes. -/
  size : Yaml.byteSize (literal pieces ++ between.chars) ≤ Yaml.Layout.maxKey

end JsonSource

/-! ## Tokens -/

namespace JsonSource

/-- The token of a plain scalar. -/
def plainToken (chars : List Char) : Yaml.Token :=
  .scalar (String.ofList chars) .plain

/-- The token of a string. -/
def stringToken (pieces : List Piece) : Yaml.Token :=
  .scalar (String.ofList (folded pieces)) .doubleQuoted

end JsonSource

namespace Yaml

variable {layout layout' layout'' : Layout} {depth : Nat} {s s' t gap : List Char}
  {tokens tokens' : List Token}

/-! ## Steps -/

/-- The layout inside so many brackets, where no collection is given by indentation. -/
structure Layout.Inside (depth : Nat) (layout : Layout) : Prop where
  /-- There is a place for the start of a key at every level. -/
  length : layout.starts.length = depth + 1
  /-- Nothing must be a key. -/
  free : ∀ start, some start ∈ layout.starts → start.isRequired = false
  /-- No collection is given by indentation. -/
  indent : layout.indent = -1
  /-- Nor is any around it. -/
  outer : layout.outer = []
  /-- There is more to come. -/
  isEnded : layout.isEnded = false

/-- A layout goes on from another one, and the outermost start of a key is not forgotten. -/
structure Layout.Keeps (layout layout' : Layout) : Prop where
  /-- It is further on. -/
  reaches : Reaches layout.cursor layout'.cursor
  /-- The outermost start is the same, unless it has become impossible. -/
  last : ∀ start, layout.starts.getLast? = some (some start) →
    isStale layout'.cursor start = false → layout'.starts.getLast? = some (some start)
  /-- No token is taken. -/
  taken : layout'.taken = layout.taken

/-- So many steps are made one after the other. -/
inductive Layout.Chain : Nat → Layout → Layout → Prop
  /-- None is made. -/
  | refl (layout : Layout) : Chain 0 layout layout
  /-- One is made, and then the others. -/
  | step {layout layout' layout'' : Layout} {n : Nat} (isEnded : layout.isEnded = false)
    (next : layout.next = .ok layout') (keeps : layout.Keeps layout')
    (rest : Chain n layout' layout'') : Chain (n + 1) layout layout''

/-- From one layout to another one some characters are read as some tokens. -/
structure Layout.Scans (s : List Char) (tokens : List Token) (layout layout' : Layout) : Prop where
  /-- The characters are passed. -/
  passes : Cursor.Passes s layout.cursor layout'.cursor
  /-- The tokens are added. -/
  waiting : layout'.waiting = layout.waiting ++ tokens
  /-- None is taken. -/
  taken : layout'.taken = layout.taken
  /-- There are no more steps than tokens. -/
  chain : ∃ n ≤ tokens.length, Chain n layout layout'

namespace Layout

theorem Chain.trans {n m : Nat} (h : Chain n layout layout') (h' : Chain m layout' layout'') :
    Chain (n + m) layout layout'' := by
  induction h with
  | refl => rwa [Nat.zero_add]
  | step isEnded next keeps _ ih =>
    rw [Nat.add_right_comm]
    exact .step isEnded next keeps (ih h')

/-- What is read first and what is read next add up. -/
theorem Scans.trans (h : Scans s tokens layout layout') (h' : Scans s' tokens' layout' layout'') :
    Scans (s ++ s') (tokens ++ tokens') layout layout'' where
  passes := h.passes.trans h'.passes
  waiting := by rw [h'.waiting, h.waiting, List.append_assoc]
  taken := h'.taken.trans h.taken
  chain := by
    obtain ⟨n, hn, hchain⟩ := h.chain
    obtain ⟨m, hm, hchain'⟩ := h'.chain
    exact ⟨n + m, by rw [List.length_append]; omega, hchain.trans hchain'⟩

/-- Where the reading goes on. -/
theorem Scans.rest (h : Scans s tokens layout layout') (hrest : layout.cursor.rest = s ++ t) :
    layout'.cursor.rest = t :=
  List.append_cancel_left (h.passes.rest.symm.trans hrest)

/-! ## Blanks -/

/-- A token, or the end of the text, comes next. -/
def isTokenStart (x : Char) : Bool :=
  !isVoid x && x != '#' && x != '\uFEFF'

/-- Tabs are only where they count as spaces outside brackets: not in front of a key. -/
def isTabless (mayStart : Bool) : List Char → Bool
  | [] => true
  | x :: s => !(x == '\t' && mayStart) && isTabless (mayStart || isBreak x) s

theorem isTabless_append {mayStart : Bool} (h : isTabless mayStart (s ++ t) = true) :
    isTabless (mayStart || s.any isBreak) t = true := by
  induction s generalizing mayStart with
  | nil => rwa [List.any_nil, Bool.or_false]
  | cons x s ih =>
    rw [List.cons_append, isTabless, Bool.and_eq_true] at h
    rw [List.any_cons, ← Bool.or_assoc]
    exact ih h.2

/-- Whether a character counts as a space between tokens. -/
def isSkipped (layout : Layout) (x : Char) : Bool :=
  x == ' ' || (x == '\t' && (layout.inFlow || !layout.mayStart))

theorem isBreak_of_isSkipped {x : Char} (h : layout.isSkipped x = true) : isBreak x = false := by
  simp only [isSkipped, Bool.or_eq_true, Bool.and_eq_true, beq_iff_eq] at h
  obtain rfl | ⟨rfl, -⟩ := h <;> rfl

theorem isSkipped_of_isTokenStart {x : Char} (h : isTokenStart x = true) :
    layout.isSkipped x = false ∧ x ≠ '#' ∧ x ≠ '\uFEFF' := by
  simp only [isTokenStart, isVoid, isSpacing, Bool.and_eq_true, Bool.not_eq_true',
    Bool.or_eq_false_iff, beq_eq_false_iff_ne, bne_iff_ne] at h
  obtain ⟨⟨⟨⟨hspace, htab⟩, -⟩, hcomment⟩, hmark⟩ := h
  exact ⟨by simp [isSkipped, hspace, htab], hcomment, hmark⟩

/-- A blank that does not count as a space ends a line, if tabs are where they may be. -/
theorem isBreak_of_isSpace {x : Char} (h : isSpace x = true) (hskipped : layout.isSkipped x = false)
    (htab : layout.inFlow = true ∨ isTabless layout.mayStart (x :: s) = true) :
    x = '\n' ∨ x = '\r' := by
  simp only [isSpace, Bool.or_eq_true, beq_iff_eq] at h
  obtain ((rfl | rfl) | rfl) | rfl := h
  · simp [isSkipped] at hskipped
  · exact .inl rfl
  · obtain hflow | htab := htab
    · simp [isSkipped, hflow] at hskipped
    · rw [isTabless, Bool.and_eq_true] at htab
      have hno : layout.mayStart = false := by simpa using htab.1
      simp [isSkipped, hno] at hskipped
  · exact .inr rfl

/-- One round of skipping: the spaces, and the end of the line if it comes behind them. -/
theorem skipToToken_round (fuel : Nat) {run : List Char} (hrest : layout.cursor.rest = run ++ t)
    (hrun : ∀ x ∈ run, layout.isSkipped x = true)
    (ht : ∀ x ∈ t.head?, layout.isSkipped x = false ∧ x ≠ '#' ∧ x ≠ '\uFEFF') :
    layout.skipToToken (fuel + 1) =
      if t.head?.any isBreak then
        skipToToken { layout with
          cursor := (layout.cursor.skip run.length).skipBreak.2,
          mayStart := layout.mayStart || !layout.inFlow } fuel
      else { layout with cursor := layout.cursor.skip run.length } := by
  -- There is no byte order mark, and no comment behind the spaces.
  have hmark : layout.cursor.isAt '\uFEFF' = false := by
    cases run with
    | nil =>
      cases t with
      | nil => simp [Cursor.isAt, Cursor.peek, hrest]
      | cons x t => simp [Cursor.isAt, Cursor.peek, hrest, (ht x rfl).2.2]
    | cons x run =>
      have hx : x ≠ '\uFEFF' := by
        rintro rfl
        have := hrun _ List.mem_cons_self
        simp [isSkipped] at this
      simp [Cursor.isAt, Cursor.peek, hrest, hx]
  have htake : layout.cursor.takeRun layout.isSkipped = (run, layout.cursor.skip run.length) := by
    have hnil : t.takeWhile layout.isSkipped = [] := by
      cases t with
      | nil => rfl
      | cons x t => rw [List.takeWhile_cons_of_neg (by rw [(ht x rfl).1]; decide)]
    simp only [Cursor.takeRun, hrest, List.takeWhile_append_of_pos hrun, hnil, List.append_nil]
  have hskipped : (layout.cursor.skip run.length).rest = t := Cursor.skip_rest hrest
  have hcomment : (layout.cursor.skip run.length).skipComment = layout.cursor.skip run.length := by
    have hat : (layout.cursor.skip run.length).isAt '#' = false := by
      cases t with
      | nil => simp [Cursor.isAt, Cursor.peek, hskipped]
      | cons x t => simp [Cursor.isAt, Cursor.peek, hskipped, (ht x rfl).2.1]
    rw [Cursor.skipComment, hat]
    rfl
  have hround : (layout.cursor.takeRun layout.isSkipped).2.skipComment =
      layout.cursor.skip run.length := by rw [htake, hcomment]
  rw [← hskipped, ← Cursor.satisfies_zero, ← hround]
  simp only [skipToToken, hmark, Bool.and_false, Bool.false_eq_true, if_false]
  rfl

/-- The spaces in front of a token are skipped in one round. -/
theorem skipToToken_spaces (fuel : Nat) {run : List Char} (hrest : layout.cursor.rest = run ++ t)
    (hrun : ∀ x ∈ run, layout.isSkipped x = true) (ht : ∀ x ∈ t.head?, isTokenStart x = true) :
    layout.skipToToken (fuel + 1) = { layout with cursor := layout.cursor.skip run.length } := by
  have hnone : t.head?.any isBreak = false := by
    cases t with
    | nil => rfl
    | cons x t =>
      have hx := ht x rfl
      simp only [isTokenStart, isVoid, Bool.and_eq_true, Bool.not_eq_true',
        Bool.or_eq_false_iff] at hx
      exact hx.1.1.2
  rw [skipToToken_round fuel hrest hrun fun x hx => isSkipped_of_isTokenStart (ht x hx), hnone]
  rfl

/-- At the end of a line a round skips it with the spaces, and the next one begins in a new line,
where outside brackets a key may begin. -/
theorem exists_skipLine (fuel : Nat) {run later : List Char} {y : Char}
    (hrest : layout.cursor.rest = run ++ y :: (later ++ t))
    (hrun : ∀ x ∈ run, layout.isSkipped x = true) (hy : y = '\n' ∨ y = '\r')
    (ht : t.head? ≠ some '\n') :
    ∃ cursor ends left, later = ends ++ left ∧ (∀ x ∈ ends, isBreak x = true) ∧
      layout.skipToToken (fuel + 1) = skipToToken { layout with
        cursor, mayStart := layout.mayStart || !layout.inFlow } fuel ∧
      Cursor.Passes (run ++ y :: ends) layout.cursor cursor := by
  have hbreak : isBreak y = true := by obtain rfl | rfl := hy <;> rfl
  have hround := skipToToken_round fuel hrest hrun (by
    rintro x ⟨⟩
    obtain rfl | rfl := hy <;> simp [isSkipped])
  obtain ⟨ends, left, hlater, hends, hpass⟩ :=
    Cursor.exists_passes_skipBreak (Cursor.skip_rest hrest) hbreak ht
  refine ⟨_, ends, left, hlater, hends, hround.trans (if_pos hbreak), ?_⟩
  exact (Cursor.passes_skip hrest fun x hx => isBreak_of_isSkipped (hrun x hx)).trans hpass

/-- Blanks are skipped, whatever token comes behind them. -/
theorem exists_skipBlanks (layout : Layout) {fuel : Nat} (hrest : layout.cursor.rest = gap ++ t)
    (hgap : ∀ x ∈ gap, isSpace x = true) (ht : ∀ x ∈ t.head?, isTokenStart x = true)
    (htab : layout.inFlow = true ∨ isTabless layout.mayStart gap = true)
    (hfuel : gap.length < fuel) :
    ∃ cursor mayStart, layout.skipToToken fuel = { layout with cursor, mayStart } ∧
      Cursor.Passes gap layout.cursor cursor ∧
      (layout.inFlow = true ∨ layout.mayStart = true → mayStart = layout.mayStart) := by
  -- Each round of skipping takes the blanks up to the end of a line, or the last ones.
  induction fuel generalizing layout gap with
  | zero => exact absurd hfuel (Nat.not_lt_zero _)
  | succ fuel ih =>
    obtain ⟨run, later, rfl, hrun, hlater⟩ : ∃ run later, gap = run ++ later ∧
        (∀ x ∈ run, layout.isSkipped x = true) ∧
        ∀ y ∈ later.head?, layout.isSkipped y = false :=
      ⟨gap.takeWhile layout.isSkipped, gap.dropWhile layout.isSkipped,
        (List.takeWhile_append_dropWhile ..).symm, fun _ hx => List.mem_takeWhile_imp hx,
        fun y hy => by simpa [Option.mem_def.mp hy] using
          List.head?_dropWhile_not layout.isSkipped gap⟩
    rw [List.append_assoc] at hrest
    have hbreaks : ∀ x ∈ run, isBreak x = false := fun x hx => isBreak_of_isSkipped (hrun x hx)
    cases later with
    | nil =>
      refine ⟨_, layout.mayStart, skipToToken_spaces fuel hrest hrun ht, ?_, fun _ => rfl⟩
      simpa using Cursor.passes_skip hrest hbreaks
    | cons y later =>
      have hgap' : ∀ x ∈ later, isSpace x = true := fun x hx => hgap x (by simp [hx])
      have htab' : layout.inFlow = true ∨ isTabless layout.mayStart (y :: later) = true :=
        htab.imp_right fun h => by
          simpa [List.any_eq_false.mpr fun x hx => ne_true_of_eq_false (hbreaks x hx)] using
            isTabless_append h
      have hend := isBreak_of_isSpace (hgap y (by simp)) (hlater y rfl) htab'
      have hbreak : isBreak y = true := by obtain rfl | rfl := hend <;> rfl
      obtain ⟨cursor, ends, left, rfl, hends, hround, hpass⟩ := exists_skipLine fuel hrest hrun hend
        fun hhead => absurd (ht _ hhead) (by decide)
      have hleft : cursor.rest = left ++ t :=
        List.append_cancel_left (hpass.rest.symm.trans (by rw [hrest]; simp))
      obtain ⟨cursor', mayStart, hskip, hpass', hmay⟩ := ih { layout with
          cursor, mayStart := layout.mayStart || !layout.inFlow } hleft
        (fun x hx => hgap' x (List.mem_append_right _ hx))
        (by
          cases hflow : layout.inFlow with
          | true => exact .inl hflow
          | false =>
            -- Outside brackets a key may begin in the new line, so no tab is left.
            rw [hflow, isTabless, hbreak, Bool.or_true, Bool.and_eq_true] at htab'
            obtain h | h := htab'
            · exact absurd h Bool.false_ne_true
            · exact .inr (by simpa using isTabless_append h.2))
        (by simp at hfuel; omega)
      refine ⟨cursor', mayStart, hround.trans hskip, by simpa using hpass.trans hpass', fun h => ?_⟩
      have hsame : (layout.mayStart || !layout.inFlow) = layout.mayStart := by
        obtain h | h := h
        · rw [h, Bool.not_true, Bool.or_false]
        · rw [h, Bool.true_or]
      rw [← hsame]
      exact hmay (h.imp id fun h => by simp [h])

/-! ## Arriving at a token -/

/-- Characters that are passed lead on. -/
theorem reaches_of_passes {c c' : Cursor} (h : Cursor.Passes s c c') : Reaches c c' :=
  ⟨h.line_le, by rw [h.index]; exact Nat.le_add_right _ _⟩

/-- In front of a token there are only blanks, which have been skipped. -/
structure Arrives (gap : List Char) (layout layout' : Layout) : Prop where
  /-- The next token is the one here. -/
  next : layout.next = layout'.readHere
  /-- The blanks are passed. -/
  passes : Cursor.Passes gap layout.cursor layout'.cursor
  /-- Where no key can begin any more, this has been given up. -/
  starts : layout'.starts = layout.starts.map (fresh layout'.cursor)
  /-- No token has been read. -/
  waiting : layout'.waiting = layout.waiting
  /-- None has been taken. -/
  taken : layout'.taken = layout.taken
  /-- Inside brackets the blanks do not matter. -/
  mayStart : layout.inFlow = true ∨ layout.mayStart = true → layout'.mayStart = layout.mayStart

theorem Inside.inFlow (h : Inside depth layout) : layout.inFlow = decide (0 < depth) := by
  rw [Layout.inFlow, h.length]
  simp

/-- Where no collection is given by indentation, none is ended. -/
theorem closeBlocks_eq_self (hindent : layout.indent = -1) (houter : layout.outer = [])
    (column : Int) : layout.closeBlocks column = layout := by
  obtain ⟨cursor, waiting, taken, isEnded, starts, indent, outer, mayStart⟩ := layout
  cases hindent
  cases houter
  unfold closeBlocks
  split
  · rfl
  · simp [closing]

theorem next_eq (layout : Layout) : layout.next =
    (freshStarts (layout.skipToToken (layout.cursor.rest.length + 1)).cursor
      (layout.skipToToken (layout.cursor.rest.length + 1)).starts >>= fun starts =>
        readHere (closeBlocks { layout.skipToToken (layout.cursor.rest.length + 1) with starts }
          (layout.skipToToken (layout.cursor.rest.length + 1)).cursor.column)) := rfl

/-- Blanks lead to a token. -/
theorem Inside.exists_arrives (h : Inside depth layout) (hrest : layout.cursor.rest = gap ++ t)
    (hgap : ∀ x ∈ gap, isSpace x = true) (ht : ∀ x ∈ t.head?, isTokenStart x = true)
    (htab : 0 < depth ∨ isTabless layout.mayStart gap = true) :
    ∃ layout', Arrives gap layout layout' ∧ Inside depth layout' := by
  have hlength : gap.length < layout.cursor.rest.length + 1 := by
    rw [hrest, List.length_append]
    omega
  obtain ⟨cursor, mayStart, hskip, hpasses, hmay⟩ := layout.exists_skipBlanks hrest hgap ht
    (htab.imp_left fun hdepth => by rw [h.inFlow]; exact decide_eq_true hdepth) hlength
  -- No start of a key is required inside brackets, so that none is lost.
  have hlost : layout.starts.any (isLost cursor) = false := by
    rw [List.any_eq_false]
    rintro (_ | start) hmem
    · exact Bool.false_ne_true
    · simp [isLost, h.free start hmem]
  have hfresh : freshStarts cursor layout.starts = .ok (layout.starts.map (fresh cursor)) := by
    rw [freshStarts_eq, hlost]
    rfl
  have hinside : Inside depth
      { layout with cursor, mayStart, starts := layout.starts.map (fresh cursor) } := by
    refine ⟨by rw [List.length_map, h.length], fun start hmem => ?_, h.indent, h.outer, h.isEnded⟩
    exact h.free start (mem_of_freshStarts hfresh hmem)
  refine ⟨{ layout with cursor, mayStart, starts := layout.starts.map (fresh cursor) },
    ⟨?_, hpasses, rfl, rfl, rfl, hmay⟩, hinside⟩
  rw [next_eq, hskip]
  simp only [hfresh]
  exact congrArg readHere (closeBlocks_eq_self hinside.indent hinside.outer _)

/-! ## The kinds of tokens -/

/-- The start of a key here. -/
def startHere (layout : Layout) : KeyStart where
  isRequired := false
  position := layout.count
  index := layout.cursor.index
  line := layout.cursor.line
  column := layout.cursor.column

/-- The innermost start is given up. -/
theorem Inside.dropStart_eq (h : Inside depth layout) :
    layout.dropStart = .ok { layout with starts := none :: layout.starts.tail } := by
  obtain ⟨cursor, waiting, taken, isEnded, starts, indent, outer, mayStart⟩ := layout
  rcases starts with _ | ⟨_ | start, rest⟩
  · cases h.length
  · rfl
  · have hfree := h.free start (List.mem_cons_self ..)
    simp only [dropStart, hfree]
    rfl

/-- The starts where the start of a key here is remembered, if there may be one. -/
def saved (layout : Layout) : List (Option KeyStart) :=
  if layout.mayStart then some layout.startHere :: layout.starts.tail else layout.starts

/-- A start is remembered where a key may begin. -/
theorem Inside.saveStart_eq (h : Inside depth layout) :
    layout.saveStart = .ok { layout with starts := layout.saved } := by
  have hne : layout.indent ≠ layout.cursor.column := by rw [h.indent]; omega
  unfold saveStart saved
  split_ifs
  · rw [h.dropStart_eq]
    simp only [bind, Except.bind, beq_eq_false_iff_ne.mpr hne, Bool.and_false]
    rfl
  · rfl

/-- The layout with another innermost start. -/
theorem Inside.cons (h : Inside depth layout) (first : Option KeyStart)
    (hfirst : ∀ start, first = some start → start.isRequired = false) :
    Inside depth { layout with starts := first :: layout.starts.tail } := by
  refine ⟨?_, fun start hmem => ?_, h.indent, h.outer, h.isEnded⟩
  · have := h.length
    simp only [List.length_cons, List.length_tail]
    omega
  · rcases List.mem_cons.mp hmem with heq | hmem
    · exact hfirst start heq.symm
    · exact h.free start (List.mem_of_mem_tail hmem)

/-- The layout with a start remembered. -/
theorem Inside.save (h : Inside depth layout) :
    Inside depth { layout with starts := layout.saved } := by
  unfold saved
  split_ifs
  · exact h.cons _ fun start heq => by cases heq; rfl
  · exact h

/-- The innermost start is not the outermost one inside brackets. -/
theorem Inside.getLast?_cons (h : Inside (depth + 1) layout) (first : Option KeyStart) :
    (first :: layout.starts.tail).getLast? = layout.starts.getLast? := by
  obtain ⟨a, b, rest, hstarts⟩ : ∃ a b rest, layout.starts = a :: b :: rest := by
    have hlength := h.length
    generalize layout.starts = starts at hlength
    rcases starts with _ | ⟨a, _ | ⟨b, rest⟩⟩
    · simp at hlength
    · simp at hlength
    · exact ⟨a, b, rest, rfl⟩
  simp [hstarts]

theorem Inside.getLast?_saved (h : Inside (depth + 1) layout) :
    layout.saved.getLast? = layout.starts.getLast? := by
  unfold saved
  split_ifs
  · exact h.getLast?_cons _
  · rfl

/-- A token is read here. -/
structure Reads (s : List Char) (token : Token) (layout layout' : Layout) : Prop where
  /-- It is read. -/
  read : layout.readHere = .ok layout'
  /-- The characters are passed. -/
  passes : Cursor.Passes s layout.cursor layout'.cursor
  /-- The token is added. -/
  waiting : layout'.waiting = layout.waiting ++ [token]
  /-- None is taken. -/
  taken : layout'.taken = layout.taken

theorem readHere_eq {c : Char} (h : layout.cursor.rest = c :: t) :
    layout.readHere = layout.token c := by
  rw [readHere, h]

/-- The tokens of one character, and strings. -/
theorem token_eq (h : layout.cursor.atDocumentMark = false) :
    layout.token '[' = layout.openFlow .flowSequenceStart ∧
    layout.token '\x7b' = layout.openFlow .flowMappingStart ∧
    layout.token ']' = layout.closeFlow .flowSequenceEnd ∧
    layout.token '\x7d' = layout.closeFlow .flowMappingEnd ∧
    layout.token ',' = layout.flowEntry ∧
    layout.token '"' = layout.quotedScalar false ∧
    (layout.inFlow = true → layout.token ':' = layout.value) := by
  refine ⟨?_, ?_, ?_, ?_, ?_, ?_, fun hflow => ?_⟩
  all_goals unfold token; simp [*]

/-- A token of one character is read. -/
theorem reads_addMark {x : Char} {token : Token} (hrest : layout.cursor.rest = x :: t)
    (hx : isBreak x = false) {starts : List (Option KeyStart)} {mayStart : Bool}
    (hread : layout.token x = .ok { layout.addMark 1 token with starts, mayStart }) :
    Reads [x] token layout { layout.addMark 1 token with starts, mayStart } :=
  ⟨(readHere_eq hrest).trans hread,
    Cursor.passes_skip hrest (List.forall_mem_singleton.mpr hx), rfl, rfl⟩

/-- A bracket is opened. -/
theorem Inside.openFlow (h : Inside depth layout) (token : Token) {x : Char}
    (hrest : layout.cursor.rest = x :: t) (hx : isBreak x = false)
    (htoken : layout.token x = layout.openFlow token) :
    ∃ layout', Reads [x] token layout layout' ∧ Inside (depth + 1) layout' ∧
      layout'.mayStart = true ∧ layout'.starts = none :: layout.saved := by
  have hread := htoken
  rw [Layout.openFlow, h.saveStart_eq] at hread
  have hsave := h.save
  refine ⟨_, reads_addMark hrest hx hread, ⟨?_, ?_, h.indent, h.outer, h.isEnded⟩, rfl, rfl⟩
  · exact congrArg Nat.succ hsave.length
  · intro start hmem
    exact hsave.free start (by simpa using hmem)

/-- A bracket is closed. -/
theorem Inside.closeFlow (h : Inside (depth + 1) layout) (token : Token) {x : Char}
    (hrest : layout.cursor.rest = x :: t) (hx : isBreak x = false)
    (htoken : layout.token x = layout.closeFlow token) :
    ∃ layout', Reads [x] token layout layout' ∧ Inside depth layout' ∧
      layout'.mayStart = false ∧ layout'.starts = layout.starts.tail := by
  have hread := htoken
  -- While the bracket is open the scanner is inside brackets, whatever starts there are.
  have hflow : ({ layout with starts := none :: layout.starts.tail } : Layout).inFlow = true := by
    rw [(h.cons none nofun).inFlow]
    simp
  rw [Layout.closeFlow, h.dropStart_eq] at hread
  simp only [bind, Except.bind, hflow, if_true] at hread
  refine ⟨_, reads_addMark hrest hx hread, ⟨?_, ?_, h.indent, h.outer, h.isEnded⟩, rfl, rfl⟩
  · show layout.starts.tail.length = _
    rw [List.length_tail, h.length]
    rfl
  · exact fun start hmem => h.free start (List.mem_of_mem_tail hmem)

/-- A comma. -/
theorem Inside.flowEntry (h : Inside depth layout) (hrest : layout.cursor.rest = ',' :: t) :
    ∃ layout', Reads [','] .flowEntry layout layout' ∧ Inside depth layout' ∧
      layout'.mayStart = true ∧ layout'.starts = none :: layout.starts.tail := by
  have hmark := Cursor.atDocumentMark_eq_false hrest (by simp) (by decide)
  have hread := (token_eq hmark).2.2.2.2.1
  rw [Layout.flowEntry, h.dropStart_eq] at hread
  have hcons := h.cons none nofun
  exact ⟨_, reads_addMark hrest rfl hread,
    ⟨hcons.length, hcons.free, h.indent, h.outer, h.isEnded⟩, rfl, rfl⟩

/-- A string. -/
theorem Inside.quotedScalar (h : Inside depth layout) {pieces : List Piece}
    (hpieces : IsScalar pieces) (hrest : layout.cursor.rest = literal pieces ++ t) :
    ∃ layout', Reads (literal pieces) (stringToken pieces) layout layout' ∧ Inside depth layout' ∧
      layout'.mayStart = false ∧ layout'.starts = layout.saved := by
  have hmark := Cursor.atDocumentMark_eq_false hrest (by simp) (by decide)
  have hread := (token_eq hmark).2.2.2.2.2.1
  obtain ⟨cursor, hquoted, hpasses⟩ := readQuoted_apply hpieces.whole hrest hpieces.marked
  have hsave := h.save
  refine ⟨{ layout with
    cursor, starts := layout.saved, mayStart := false,
    waiting := layout.waiting ++ [stringToken pieces] },
    ⟨?_, hpasses, rfl, rfl⟩, ⟨hsave.length, hsave.free, h.indent, h.outer, h.isEnded⟩, rfl, rfl⟩
  -- A key may begin with the string, so its start is remembered first.
  have hrun : (readQuoted false).run layout.cursor = .ok (folded pieces, cursor) := hquoted
  rw [readHere_eq hrest, hread, Layout.quotedScalar, h.saveStart_eq]
  simp only [bind, Except.bind, Layout.scan, hrun]
  rfl

/-- A colon behind a key. -/
theorem Inside.value (h : Inside depth layout) (hflow : layout.inFlow = true) {start : KeyStart}
    (hstart : layout.starts.head? = some (some start)) {before after : List Token}
    (hwaiting : layout.waiting = before ++ after)
    (hposition : start.position = layout.taken + before.length)
    (hrest : layout.cursor.rest = ':' :: t) :
    ∃ layout', layout.readHere = .ok layout' ∧ Cursor.Passes [':'] layout.cursor layout'.cursor ∧
      layout'.waiting = before ++ .key :: after ++ [.value] ∧ layout'.taken = layout.taken ∧
      Inside depth layout' ∧ layout'.mayStart = false ∧
      layout'.starts = none :: layout.starts.tail := by
  have hmark := Cursor.atDocumentMark_eq_false hrest (by simp) (by decide)
  have hread := (token_eq hmark).2.2.2.2.2.2 hflow
  have hcons := h.cons none nofun
  obtain ⟨rest, hstarts⟩ := List.head?_eq_some_iff.mp hstart
  -- The token of the key is put where the start of the key has been remembered.
  have hinsert : layout.insert start.position .key =
      { layout with waiting := before ++ .key :: after } := by
    simp [insert, hposition, hwaiting]
  have hflow' : ({ layout with
      waiting := before ++ .key :: after, starts := none :: rest,
      mayStart := false } : Layout).inFlow = true := by
    rw [← hflow, Layout.inFlow, Layout.inFlow, hstarts]
    rfl
  refine ⟨{ layout with
    cursor := layout.cursor.skip 1, waiting := before ++ .key :: after ++ [.value],
    starts := none :: layout.starts.tail, mayStart := false }, ?_,
    Cursor.passes_skip (s := [':']) hrest (List.forall_mem_singleton.mpr rfl), rfl, rfl,
    ⟨hcons.length, hcons.free, h.indent, h.outer, h.isEnded⟩, rfl, rfl⟩
  rw [readHere_eq hrest, hread, Layout.value]
  simp only [hstarts, hinsert, openBlock, hflow', Bool.true_or, if_true]
  rfl

/-! ## Words -/

/-- Whether a character can only begin something plain, and no mark between documents. -/
def isBare (x : Char) : Bool :=
  !"\uFEFF.-?:,[]\x7b\x7d#&*!|>'\"%@`".toList.contains x && !isVoid x

/-- A word that can be read as a plain scalar between brackets. -/
structure IsWord (word : List Char) : Prop where
  /-- Nothing in it ends it. -/
  chars : ∀ x ∈ word, isWordChar x = true
  /-- It begins like nothing else, but for a dash. -/
  begins : ∃ dash x word', word = dash ++ x :: word' ∧ (dash = [] ∨ dash = ['-']) ∧ isBare x = true

/-- A word begins like no other token. -/
theorem IsWord.token_eq {word : List Char} (h : IsWord word)
    (hrest : layout.cursor.rest = word ++ t) (hmark : layout.cursor.atDocumentMark = false) :
    layout.readHere = layout.plainScalar := by
  obtain ⟨dash, x, word', rfl, hdash, hx⟩ := h.begins
  rw [isBare, Bool.and_eq_true] at hx
  obtain rfl | rfl := hdash
  · -- A word begins with its first character, or with a dash and one.
    have hvoid : layout.cursor.isVoidAt 0 = false := by
      rw [Cursor.isVoidAt_zero hrest]
      simpa using hx.2
    have hne := hx.1
    simp at hne
    rw [readHere_eq hrest]
    unfold token startsPlain
    simp [hne, hmark, hvoid]
  · have hvoid : layout.cursor.isVoidAt 1 = false := by
      rw [Cursor.isVoidAt_one hrest]
      simpa using hx.2
    have hspacing : layout.cursor.satisfies 1 isSpacing = false := by
      rw [Cursor.satisfies_one hrest]
      have hx' : isVoid x = false := by simpa using hx.2
      exact (Bool.or_eq_false_iff.mp hx').1
    rw [readHere_eq hrest]
    unfold token startsPlain
    simp [hmark, hvoid, hspacing]

theorem IsWord.atDocumentMark_eq_false {word : List Char} (h : IsWord word)
    (hrest : layout.cursor.rest = word ++ t) :
    layout.cursor.atDocumentMark = false ∧ layout.cursor.isAt '#' = false := by
  obtain ⟨dash, x, word', rfl, hdash, hx⟩ := h.begins
  rw [isBare, Bool.and_eq_true] at hx
  have hne := hx.1
  simp at hne
  obtain rfl | rfl := hdash
  · exact ⟨Cursor.atDocumentMark_eq_false hrest (by simp [hne]) (by simp [hne]),
      by simp [Cursor.isAt, Cursor.peek, hrest, hne]⟩
  · exact ⟨Cursor.atDocumentMark_eq_false hrest (by simp [hne]) (by simp),
      by simp [Cursor.isAt, Cursor.peek, hrest]⟩

/-- A word, with the blanks up to a mark. -/
theorem Inside.plainScalar (h : Inside (depth + 1) layout) {word : List Char} {x : Char}
    (hword : IsWord word) (hgap : ∀ y ∈ gap, isSpace y = true) (hx : isFlowMark x = true)
    (hrest : layout.cursor.rest = word ++ (gap ++ x :: t)) :
    ∃ layout', Reads (word ++ gap) (plainToken word) layout layout' ∧ Inside (depth + 1) layout' ∧
      layout'.starts = layout.saved := by
  obtain ⟨hmark, hcomment⟩ := hword.atDocumentMark_eq_false hrest
  have hne : word ≠ [] := by
    obtain ⟨dash, x, word', rfl, -⟩ := hword.begins
    simp
  have hvoid (y : Char) (hy : y ∈ gap) : isVoid y = true := by
    have := hgap y hy
    simp only [isSpace, Bool.or_eq_true, beq_iff_eq] at this
    obtain ((rfl | rfl) | rfl) | rfl := this <;> rfl
  obtain ⟨cursor, broken, hread, hpasses⟩ := readPlain_apply hword.chars hne hvoid hx hrest hmark
    hcomment
  have hsave := h.save
  -- With the start remembered the scanner is inside brackets as before.
  have hflow :
      ({ layout with starts := layout.saved, mayStart := false } : Layout).inFlow = true := by
    show decide (1 < layout.saved.length) = true
    rw [decide_eq_true_eq, hsave.length]
    omega
  have hrun : (readPlain ({ layout with starts := layout.saved, mayStart := false } : Layout).inFlow
      layout.indent).run layout.cursor = .ok ((word, broken), cursor) := by
    rw [hflow, h.indent]
    exact hread
  refine ⟨{ layout with
    cursor, starts := layout.saved, mayStart := broken,
    waiting := layout.waiting ++ [plainToken word] },
    ⟨?_, hpasses, rfl, rfl⟩, ⟨hsave.length, hsave.free, h.indent, h.outer, h.isEnded⟩, rfl⟩
  rw [hword.token_eq hrest hmark, Layout.plainScalar, h.saveStart_eq]
  simp only [bind, Except.bind, Layout.scan, hrun]
  rfl

end Layout

end Yaml

end BrowserFlow
