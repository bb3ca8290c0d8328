import BrowserFlow.Proofs.Flow.Ownership
import BrowserFlow.Proofs.Text.Part

/-!
# Writing flows

Groups can be written down as a flow: for each group a heading with its name, and below it its step
lines. The author is free to indent the lines, to end them in either way, and to put prose between
them; `Flow.Writes` says what he may write for some lines. Only groups of which each name and each
step fits into a line can be written down (`Flow.WellFormed`).

`Flow.read_written` says that reading undoes writing, in whatever way it was done, and that the
groups that can be read from some text are exactly the well-formed ones. That reading gives nothing
else follows from what each line owns (`Flow.Filed`); that it undoes writing is an induction over
the groups, whose invariant is that the groups written so far would be there if what has been
gathered were filed at once.
-/

namespace BrowserFlow

open Text

/-! ## What can be written -/

/-- A step can be written in a line. -/
structure Step.WellFormed (step : Step) : Prop where
  /-- There are no blanks around the line. -/
  trimmed : trim step.line.toList = step.line.toList
  /-- It is a single line. -/
  single : '\n' ∉ step.line.toList
  /-- It starts with the ordinal: ASCII digits, at least one, with a point right behind them. Digits
  that denote too great a number stand for the greatest ordinal. -/
  marked : ∃ digits rest, digits ≠ [] ∧ (∀ c ∈ digits, isAsciiDigit c = true) ∧
    step.line.toList = digits ++ '.' :: rest ∧
    step.ordinal.toNat = min (Nat.ofDigits 10 (digits.reverse.map digitValue)) (2 ^ 32 - 1)

/-- A group can be written down. -/
structure Group.WellFormed (group : Group) : Prop where
  /-- There are no blanks around the name. -/
  trimmed : trim group.name.toList = group.name.toList
  /-- The name is a single line. -/
  single : '\n' ∉ group.name.toList
  /-- There are steps. -/
  steps_ne_nil : group.steps ≠ []
  /-- Every step can be written. -/
  steps : ∀ step ∈ group.steps, step.WellFormed

/-- Groups can be written down together. -/
structure Flow.WellFormed (groups : List Group) : Prop where
  /-- No two groups have the same name. -/
  names_nodup : (groups.map (·.name)).Nodup
  /-- Every group can be written down. -/
  groups : ∀ group ∈ groups, group.WellFormed

/-! ## How it is written -/

/-- The lines of a group: its heading and its steps. -/
def Group.lines (group : Group) : List String :=
  ("# " ++ group.name) :: group.steps.map (·.line)

/-- The lines of some groups, one group below the other. -/
def Flow.outline (groups : List Group) : List String :=
  groups.flatMap Group.lines

namespace Flow

/-- A line that is neither a heading nor a step, blanks around it left out. -/
structure IsProse (line : String) : Prop where
  /-- It is a single line. -/
  single : '\n' ∉ line.toList
  /-- It is no heading. -/
  not_heading : ∀ title, trim line.toList ≠ '#' :: title
  /-- It is no step. -/
  not_step : ¬ Step.StartsLine (trim line.toList)

/-- What stands between a line and the rest of the text. -/
inductive EndsLine : (ending rest : String) → Prop
  /-- A line feed. -/
  | lineFeed (rest : String) : EndsLine "\n" rest
  /-- A carriage return and a line feed. -/
  | carriageReturn (rest : String) : EndsLine "\r\n" rest
  /-- Nothing, if there is no rest. -/
  | endOfText : EndsLine "" ""

/-- A text consists of some lines, which may be indented, and of prose before, between and behind
them. -/
inductive Writes : List String → String → Prop
  /-- No lines are left to be written. -/
  | nil : Writes [] ""
  /-- A line is written, behind any blanks. -/
  | line {lines : List String} {indentation line ending rest : String}
    (blank : ∀ c ∈ indentation.toList, isBlank c = true) (single : '\n' ∉ indentation.toList)
    (ends : EndsLine ending rest) (tail : Writes lines rest) :
    Writes (line :: lines) (indentation ++ line ++ ending ++ rest)
  /-- Prose is put in. -/
  | prose {lines : List String} {line ending rest : String} (prose : IsProse line)
    (ends : EndsLine ending rest) (tail : Writes lines rest) :
    Writes lines (line ++ ending ++ rest)

/-- A line that starts with neither the sign of headings nor a digit is prose. -/
theorem isProse_of_head {line : String} {c : Char} {rest : List Char} (single : '\n' ∉ line.toList)
    (hline : trim line.toList = c :: rest) (hsign : c ≠ '#') (hdigit : isAsciiDigit c = false) :
    IsProse line where
  single := single
  not_heading title heq := hsign (List.cons.inj (hline.symm.trans heq)).1
  not_step := by
    rintro ⟨digits, tail, hne, hdigits, heq⟩
    obtain ⟨d, digits, rfl⟩ := List.exists_cons_of_ne_nil hne
    obtain rfl : c = d := (List.cons.inj (hline.symm.trans heq)).1
    simp [hdigits c List.mem_cons_self] at hdigit

/-- All lines can be written. -/
theorem exists_writes (lines : List String) : ∃ text, Writes lines text := by
  induction lines with
  | nil => exact ⟨"", .nil⟩
  | cons line lines ih =>
    obtain ⟨rest, h⟩ := ih
    exact ⟨"" ++ line ++ "\n" ++ rest, .line (by simp) (by simp) (.lineFeed rest) h⟩

end Flow

/-! ## Reading gives what can be written -/

namespace Step

variable {line : List Char} {step : Step}

/-- A step that is read from a trimmed line can be written. -/
theorem wellFormed_of_ofLine? (h : ofLine? line = some step) (htrimmed : trim line = line)
    (hsingle : '\n' ∉ line) : step.WellFormed := by
  obtain ⟨digits, rest, hne, hdigits, rfl⟩ := (ofLine?_isSome_iff line).mp (by simp [h])
  rw [ofLine?, leadingOrdinal?_append rest hne hdigits, Option.map_some, Option.some.injEq] at h
  subst h
  refine ⟨by simpa using htrimmed, by simpa using hsingle, digits, rest, hne, hdigits, by simp, ?_⟩
  rw [← numberOf_eq_ofDigits, UInt32.toNat_ofNat_of_lt' (by simp [UInt32.size])]
  rfl

/-- A step that can be written is read from its line. -/
theorem WellFormed.ofLine?_eq (h : step.WellFormed) : ofLine? step.line.toList = some step := by
  obtain ⟨ordinal, line⟩ := step
  obtain ⟨-, -, digits, rest, hne, hdigits, hline, hordinal⟩ := h
  simp only at hline hordinal
  have hvalue : UInt32.ofNat (min (numberOf digits) (UInt32.size - 1)) = ordinal := by
    rw [numberOf_eq_ofDigits, show UInt32.size - 1 = 2 ^ 32 - 1 from rfl, ← hordinal,
      UInt32.ofNat_toNat]
  simp only [ofLine?, hline, leadingOrdinal?_append rest hne hdigits, Option.map_some, hvalue]
  rw [← hline, String.ofList_toList]

/-- The line of a step is no heading. -/
theorem WellFormed.not_heading (h : step.WellFormed) (title : List Char) :
    step.line.toList ≠ '#' :: title := by
  obtain ⟨digits, rest, hne, hdigits, hline, -⟩ := h.marked
  intro heq
  exact not_startsLine_heading title ⟨digits, rest, hne, hdigits, by rw [← heq, hline]⟩

end Step

namespace Flow

variable {groups : List Group} {text : String}

/-- There are no blanks around a trimmed line, and no line feed in it. -/
theorem of_mem_trimmedLines {line : List Char} (h : line ∈ trimmedLines text) :
    trim line = line ∧ '\n' ∉ line := by
  obtain ⟨whole, hwhole, rfl⟩ := List.mem_map.mp h
  exact ⟨strip_strip isBlank whole,
    fun hmem => lineFeed_not_mem_of_mem_lines hwhole (mem_of_mem_strip hmem)⟩

/-- The name of the heading that owns a line can be written in a line. -/
theorem Owns.of_trimmedLines {name : String} {i : Nat} (h : Owns (trimmedLines text) name i) :
    trim name.toList = name.toList ∧ '\n' ∉ name.toList := by
  cases h with
  | @heading j title _ at_ _ name_eq =>
    subst name_eq
    have hline := (of_mem_trimmedLines (List.mem_of_getElem? at_)).2
    rw [String.toList_ofList]
    exact ⟨strip_strip isBlank title,
      fun hmem => hline (List.mem_cons_of_mem _ (mem_of_mem_strip hmem))⟩
  | untitled _ name_eq =>
    subst name_eq
    decide

/-- Groups that hold the step lines of a text can be written down. -/
theorem Filed.wellFormed (h : Filed (trimmedLines text) groups) : WellFormed groups where
  names_nodup := h.names_nodup
  groups group hg := by
    -- The name comes from the heading that owns the steps, and each step from a line of its own.
    obtain ⟨i, -, howns⟩ := (h.stepsOf group hg).exists_isOwned (h.steps_ne_nil group hg)
    obtain ⟨htrimmed, hsingle⟩ := howns.of_trimmedLines
    refine ⟨htrimmed, hsingle, h.steps_ne_nil group hg, fun step hstep => ?_⟩
    obtain ⟨positions, -, -, hsteps, -⟩ := h.stepsOf group hg
    have hread : some step ∈ positions.map fun i => (trimmedLines text)[i]?.bind Step.ofLine? :=
      hsteps ▸ List.mem_map_of_mem hstep
    obtain ⟨j, -, hj⟩ := List.mem_map.mp hread
    obtain ⟨line, hline, hof⟩ := Option.bind_eq_some_iff.mp hj
    obtain ⟨htrimmed, hsingle⟩ := of_mem_trimmedLines (List.mem_of_getElem? hline)
    exact Step.wellFormed_of_ofLine? hof htrimmed hsingle

/-! ## Reading undoes writing -/

/-- An empty line changes nothing. -/
theorem Reading.foldl_trimmedLines_empty (reading : Reading) :
    (trimmedLines "").foldl Reading.readLine reading = reading := rfl

/-- A line is read before the rest of the text, whatever ends it. -/
theorem EndsLine.foldl_trimmedLines {line ending rest : String} (h : EndsLine ending rest)
    (hsingle : '\n' ∉ line.toList) (reading : Reading) :
    (trimmedLines (line ++ ending ++ rest)).foldl Reading.readLine reading =
      (trimmedLines rest).foldl Reading.readLine (reading.readLine (trim line.toList)) := by
  cases h with
  | lineFeed =>
    have htext : (line ++ "\n" ++ rest).toList = line.toList ++ '\n' :: rest.toList := by simp
    rw [trimmedLines, htext, lines_append_lineFeed hsingle]
    rfl
  | carriageReturn =>
    -- The carriage return is still part of the line, as a blank at its end.
    have htext : (line ++ "\r\n" ++ rest).toList =
        (line.toList ++ ['\r']) ++ '\n' :: rest.toList := by simp
    have htrim : trim (line.toList ++ ['\r']) = trim line.toList :=
      trim_append_right (List.forall_mem_singleton.mpr rfl)
    rw [trimmedLines, htext, lines_append_lineFeed (by simp [hsingle]), List.map_cons, htrim]
    rfl
  | endOfText =>
    rw [String.append_empty, String.append_empty, Reading.foldl_trimmedLines_empty, trimmedLines,
      lines_of_not_mem hsingle]
    rfl

/-- Reading a text that consists of lines is reading these lines. -/
theorem Writes.foldl_trimmedLines {lines : List String} (h : Writes lines text)
    (hsingle : ∀ line ∈ lines, '\n' ∉ line.toList) (reading : Reading) :
    (trimmedLines text).foldl Reading.readLine reading =
      (lines.map (trim ·.toList)).foldl Reading.readLine reading := by
  -- The induction is on how the text is put together; prose is skipped by the reading.
  induction h generalizing reading with
  | nil => exact reading.foldl_trimmedLines_empty
  | @line lines indentation line ending rest blank single ends tail ih =>
    rw [List.forall_mem_cons] at hsingle
    have htrim : trim (indentation ++ line).toList = trim line.toList := by
      rw [String.toList_append, trim_append_left blank]
    rw [ends.foldl_trimmedLines (by simp [single, hsingle.1]), htrim, ih hsingle.2]
    rfl
  | @prose lines line ending rest prose ends tail ih =>
    have hnone : Step.ofLine? (trim line.toList) = none := by
      rw [← Option.not_isSome_iff_eq_none, Step.ofLine?_isSome_iff]
      exact prose.not_step
    rw [ends.foldl_trimmedLines prose.single, Reading.readLine_of_none prose.not_heading hnone,
      ih hsingle]

/-- The lines of steps are gathered. -/
theorem Reading.foldl_steps {steps : List Step} (h : ∀ step ∈ steps, step.WellFormed)
    (reading : Reading) :
    ((steps.map (·.line)).map (trim ·.toList)).foldl Reading.readLine reading =
      { reading with buffer := reading.buffer ++ steps } := by
  induction steps generalizing reading with
  | nil => simp
  | cons step steps ih =>
    rw [List.forall_mem_cons] at h
    obtain ⟨hstep, hsteps⟩ := h
    rw [List.map_cons, List.map_cons, List.foldl_cons, hstep.trimmed,
      readLine_of_some hstep.not_heading hstep.ofLine?_eq, ih hsteps]
    simp

/-- The lines of a group with a new name add the group. -/
theorem Reading.foldl_lines {group : Group} (h : group.WellFormed) (reading : Reading)
    (hname : group.name ∉ reading.flush.groups.map (·.name)) :
    ((group.lines.map (trim ·.toList)).foldl Reading.readLine reading).flush.groups =
      reading.flush.groups ++ [group] := by
  have hsign : trim ['#'] = ['#'] := by decide
  have hblank : ∀ c ∈ [' '], isBlank c = true := List.forall_mem_singleton.mpr rfl
  -- If the name is empty, the blank in front of it is taken away with the end of the heading.
  obtain ⟨title, hheading, htitle⟩ :=
    exists_trim_append (by simp) hsign ([' '] ++ group.name.toList)
  have hname_eq : String.ofList (trim title) = group.name := by
    rw [htitle, trim_append_left hblank, h.trimmed, String.ofList_toList]
  have hread : reading.readLine (trim ("# " ++ group.name).toList) =
      { reading.flush with current := group.name } := by
    have htext : ("# " ++ group.name).toList = ['#'] ++ ([' '] ++ group.name.toList) := by simp
    rw [htext, hheading, List.singleton_append, readLine, hname_eq]
  have hbuffer : group.steps.isEmpty = false := by simpa using h.steps_ne_nil
  rw [Group.lines, List.map_cons, List.foldl_cons, hread, foldl_steps h.steps]
  simp only [flush_buffer, List.nil_append]
  rw [flush, hbuffer]
  exact addSteps_of_not_mem hname

/-- The lines of groups with new names add the groups. -/
theorem Reading.foldl_outline (h : ∀ group ∈ groups, group.WellFormed) (reading : Reading)
    (hnames : ((reading.flush.groups ++ groups).map (·.name)).Nodup) :
    (((outline groups).map (trim ·.toList)).foldl Reading.readLine reading).flush.groups =
      reading.flush.groups ++ groups := by
  -- Each name is new to the groups that would be there after filing, so no step goes to another one.
  induction groups generalizing reading with
  | nil => simp [outline]
  | cons group groups ih =>
    rw [List.forall_mem_cons] at h
    have hname : group.name ∉ reading.flush.groups.map (·.name) := by
      rw [List.map_append, List.map_cons, List.nodup_append] at hnames
      exact fun hmem => hnames.2.2 _ hmem _ List.mem_cons_self rfl
    have hread := foldl_lines h.1 reading hname
    rw [outline, List.flatMap_cons, List.map_append, List.foldl_append]
    rw [List.append_cons, ← hread] at hnames ⊢
    exact ih h.2 _ hnames

/-- The lines of groups that can be written down are single lines. -/
theorem WellFormed.single (h : WellFormed groups) :
    ∀ line ∈ outline groups, '\n' ∉ line.toList := by
  intro line hline
  obtain ⟨group, hg, hline⟩ := List.mem_flatMap.mp hline
  rcases List.mem_cons.mp hline with rfl | hline
  · simpa using (h.groups group hg).single
  · obtain ⟨step, hstep, rfl⟩ := List.mem_map.mp hline
    exact ((h.groups group hg).steps step hstep).single

/-- Reading gives back the groups that were written. -/
theorem WellFormed.read_eq (h : WellFormed groups) (hwrites : Writes (outline groups) text) :
    read text = groups := by
  have hread := Reading.foldl_outline h.groups {} h.names_nodup
  rw [read_eq_foldl, hwrites.foldl_trimmedLines h.single, hread]
  rfl

/-- The groups that are read from a text can be written down. -/
theorem wellFormed_read (text : String) : WellFormed (read text) := by
  rw [read_eq_foldl]
  exact (Reading.Holds.nil.foldl (trimmedLines text)).filed.wellFormed

/-- The groups that can be read are exactly those that can be written down, and reading gives them
back however they were written; this holds in particular of groups that have been read. -/
theorem read_written :
    (∀ groups, WellFormed groups ↔ ∃ text, read text = groups) ∧
      (∀ groups text, WellFormed groups → Writes (outline groups) text → read text = groups) ∧
      ∀ text again, Writes (outline (read text)) again → read again = read text := by
  refine ⟨fun groups => ⟨fun h => ?_, ?_⟩, fun groups text h hwrites => h.read_eq hwrites,
    fun text again hwrites => (wellFormed_read text).read_eq hwrites⟩
  · obtain ⟨text, hwrites⟩ := exists_writes (outline groups)
    exact ⟨text, h.read_eq hwrites⟩
  · rintro ⟨text, rfl⟩
    exact wellFormed_read text

/-- A group whose name is the sign of headings, written with prose and an indented step. -/
theorem read_written_heading_sign :
    WellFormed [⟨"#", [⟨7, "007. Volte"⟩]⟩] ∧
      Writes (outline [⟨"#", [⟨7, "007. Volte"⟩]⟩]) "# #\r\nnota\n\t007. Volte" ∧
      read "# #\r\nnota\n\t007. Volte" = [⟨"#", [⟨7, "007. Volte"⟩]⟩] := by
  have hstep : Step.ofLine? "007. Volte".toList = some ⟨7, "007. Volte"⟩ := by decide +kernel
  have hwell : WellFormed [⟨"#", [⟨7, "007. Volte"⟩]⟩] := by
    refine ⟨by decide, List.forall_mem_singleton.mpr ⟨by decide, by decide, by decide, ?_⟩⟩
    exact List.forall_mem_singleton.mpr
      (Step.wellFormed_of_ofLine? hstep (by decide +kernel) (by decide))
  have hprose : IsProse "nota" :=
    isProse_of_head (by decide) (show trim "nota".toList = 'n' :: "ota".toList by decide)
      (by decide) (by decide)
  have hwrites : Writes (outline [⟨"#", [⟨7, "007. Volte"⟩]⟩])
      ("" ++ "# #" ++ "\r\n" ++ ("nota" ++ "\n" ++ ("\t" ++ "007. Volte" ++ "" ++ ""))) :=
    .line (by simp) (by simp) (.carriageReturn _) (.prose hprose (.lineFeed _)
      (.line (List.forall_mem_singleton.mpr rfl) (by decide) .endOfText .nil))
  have htext : "" ++ "# #" ++ "\r\n" ++ ("nota" ++ "\n" ++ ("\t" ++ "007. Volte" ++ "" ++ "")) =
      "# #\r\nnota\n\t007. Volte" := by decide
  rw [htext] at hwrites
  exact ⟨hwell, hwrites, read_written.2.1 _ _ hwell hwrites⟩

end Flow

end BrowserFlow
