import BrowserFlow.Files
import Mathlib.Data.List.Basic

/-!
# What writing changes

Creating directories only adds to a file system, and writing a text changes what is at one location,
whose last name is the last name of the path. A path that leads somewhere goes on leading there as
long as directories stay directories, so that a text can be read back from the path to which it was
written (`readText_of_writeText`), and what can be read from a path with another last name is still
read from it (`readText_of_writeText_of_ne`).
-/

namespace BrowserFlow.Files

variable {files files' later : Files} {path : Path} {location at_ : Location}
  {names : List String} {name : String} {entry : Entry} {value : String}

/-! ## Entries -/

theorem entryAt_nil (files : Files) : files.entryAt [] = some (.directory false) := rfl

/-- Placing something changes what is there, and nothing else. -/
theorem entryAt_place (h : location ≠ []) (other : Location) :
    (files.place location entry).entryAt other =
      if other = location then some entry else files.entryAt other := by
  by_cases hother : other = location
  · -- What was there before is taken away first.
    subst hother
    have hnone : (files.entries.filter (·.1 != other)).find? (·.1 == other) = none := by
      rw [List.find?_eq_none]
      intro e he
      simpa using (List.mem_filter.mp he).2
    simp [entryAt, place, h, List.find?_append, hnone]
  · have hkept : (files.entries.filter (·.1 != location)).find? (·.1 == other) =
        files.entries.find? (·.1 == other) := by
      rw [List.find?_filter]
      congr 1
      funext e
      by_cases he : e.1 = other <;> simp [he, hother]
    simp [entryAt, place, hother, Ne.symm hother, List.find?_append, hkept]

/-- Later files in which every directory is one still, and every file is one still. -/
structure Stands (files later : Files) : Prop where
  /-- Paths begin where they did. -/
  working : later.working = files.working
  /-- Directories stay as they are. -/
  directory (location : Location) (isSealed : Bool) :
    files.entryAt location = some (.directory isSealed) →
      later.entryAt location = some (.directory isSealed)
  /-- Files stay files. -/
  file (location : Location) (content : Content) :
    files.entryAt location = some (.file content) →
      ∃ content', later.entryAt location = some (.file content')

/-- Later files in which everything is still there. -/
structure Grows (files later : Files) : Prop where
  /-- Paths begin where they did. -/
  working : later.working = files.working
  /-- What is there stays as it is. -/
  entry (location : Location) (entry : Entry) :
    files.entryAt location = some entry → later.entryAt location = some entry

theorem Grows.refl (files : Files) : files.Grows files := ⟨rfl, fun _ _ h => h⟩

theorem Grows.trans (h : files.Grows files') (h' : files'.Grows later) : files.Grows later :=
  ⟨h'.working.trans h.working, fun _ _ he => h'.entry _ _ (h.entry _ _ he)⟩

theorem Grows.stands (h : files.Grows later) : files.Stands later :=
  ⟨h.working, fun _ _ => h.entry _ _, fun _ content he => ⟨content, h.entry _ _ he⟩⟩

/-- Something is put where there was nothing. -/
theorem grows_place (h : files.entryAt location = none) :
    files.Grows (files.place location entry) := by
  refine ⟨rfl, fun other e he => ?_⟩
  have hne : other ≠ location := by rintro rfl; rw [h] at he; cases he
  have hloc : location ≠ [] := by rintro rfl; rw [entryAt_nil] at h; cases h
  rw [entryAt_place hloc, if_neg hne, he]

/-- A file is put where there is no directory. -/
theorem stands_place_file {content : Content}
    (h : ∀ isSealed, files.entryAt location ≠ some (.directory isSealed)) :
    files.Stands (files.place location (.file content)) := by
  have hloc : location ≠ [] := by rintro rfl; exact h _ (entryAt_nil files)
  refine ⟨rfl, fun other isSealed he => ?_, fun other content' he => ?_⟩
  · have hne : other ≠ location := by rintro rfl; exact h _ he
    rw [entryAt_place hloc, if_neg hne, he]
  · rw [entryAt_place hloc]
    split
    · exact ⟨content, rfl⟩
    · exact ⟨content', he⟩

/-! ## Walks -/

/-- A name that stands for something inside a directory. -/
structure IsProper (name : String) : Prop where
  /-- It does not mean "here". -/
  ne_here : name ≠ "."
  /-- It does not mean "above". -/
  ne_above : name ≠ ".."
  /-- It is short enough. -/
  short : name.utf8ByteSize ≤ maxName

/-- A chain of names leads from one location to another one. -/
inductive Leads (files : Files) : Location → List String → Location → Prop
  /-- Without a name, nothing has to be there. -/
  | stay (at_ : Location) : Leads files at_ [] at_
  /-- A name leads back to the directory. -/
  | here {at_ location : Location} {isSealed : Bool} {rest : List String}
      (directory : files.entryAt at_ = some (.directory isSealed))
      (leads : Leads files at_ rest location) : Leads files at_ ("." :: rest) location
  /-- A name leads out of the directory. -/
  | above {at_ location : Location} {isSealed : Bool} {rest : List String}
      (directory : files.entryAt at_ = some (.directory isSealed))
      (leads : Leads files at_.dropLast rest location) : Leads files at_ (".." :: rest) location
  /-- A name leads to something inside the directory. -/
  | inside {at_ location : Location} {isSealed : Bool} {name : String} {rest : List String}
      {entry : Entry} (directory : files.entryAt at_ = some (.directory isSealed))
      (proper : IsProper name) (there : files.entryAt (at_ ++ [name]) = some entry)
      (leads : Leads files (at_ ++ [name]) rest location) : Leads files at_ (name :: rest) location

/-- A walk ends where the names lead. -/
theorem walk_eq_ok_iff :
    files.walk at_ names = .ok location ↔ files.Leads at_ names location := by
  constructor
  · intro h
    -- The steps are told apart in the order in which walking looks for them.
    induction names generalizing at_ with
    | nil => cases h; exact .stay _
    | cons name rest ih =>
      unfold walk at h
      split at h
      · cases h
      · cases h
      next isSealed hdirectory =>
      split at h
      · next hhere => rw [beq_iff_eq] at hhere; subst hhere; exact .here hdirectory (ih h)
      next hhere =>
      split at h
      · next habove => rw [beq_iff_eq] at habove; subst habove; exact .above hdirectory (ih h)
      next habove =>
      split at h
      · cases h
      next hshort =>
      split at h
      · cases h
      next hthere =>
      obtain ⟨entry, hentry⟩ := Option.ne_none_iff_exists'.mp (by simpa using hthere)
      exact .inside hdirectory ⟨by simpa using hhere, by simpa using habove, by omega⟩ hentry (ih h)
  · intro h
    induction h with
    | stay => rfl
    | here hdirectory _ ih => simp [walk, hdirectory, ih]
    | above hdirectory _ ih => simp [walk, hdirectory, ih]
    | inside hdirectory hproper hthere _ ih =>
      simp [walk, hdirectory, hproper.ne_here, hproper.ne_above, Nat.not_lt.mpr hproper.short,
        hthere, ih]

/-- Names lead where they led. -/
theorem Stands.leads (h : files.Stands later) (hleads : files.Leads at_ names location) :
    later.Leads at_ names location := by
  induction hleads with
  | stay at_ => exact .stay at_
  | here hdirectory _ ih => exact .here (h.directory _ _ hdirectory) ih
  | above hdirectory _ ih => exact .above (h.directory _ _ hdirectory) ih
  | @inside _ _ _ _ _ entry hdirectory hproper hthere _ ih =>
    cases entry with
    | file content =>
      obtain ⟨content', hthere'⟩ := h.file _ _ hthere
      exact .inside (h.directory _ _ hdirectory) hproper hthere' ih
    | directory isSealed =>
      exact .inside (h.directory _ _ hdirectory) hproper (h.directory _ _ hthere) ih

/-- One more name leads inside. -/
theorem Leads.concat {isSealed : Bool} (h : files.Leads at_ names location)
    (hdirectory : files.entryAt location = some (.directory isSealed)) (hproper : IsProper name)
    (hthere : files.entryAt (location ++ [name]) = some entry) :
    files.Leads at_ (names ++ [name]) (location ++ [name]) := by
  induction h with
  | stay at_ => exact .inside hdirectory hproper hthere (.stay _)
  | here hdirectory' _ ih => exact .here hdirectory' (ih hdirectory hthere)
  | above hdirectory' _ ih => exact .above hdirectory' (ih hdirectory hthere)
  | inside hdirectory' hproper' hthere' _ ih =>
    exact .inside hdirectory' hproper' hthere' (ih hdirectory hthere)

/-- A proper name that leads somewhere is the last name there. -/
theorem Leads.getLast? (hhere : name ≠ ".") (habove : name ≠ "..")
    (h : files.Leads at_ (names ++ [name]) location) : location.getLast? = some name := by
  induction names generalizing at_ with
  | nil =>
    cases h with
    | here => exact absurd rfl hhere
    | above => exact absurd rfl habove
    | inside _ _ _ hrest => cases hrest; exact List.getLast?_concat
  | cons _ _ ih =>
    cases h with
    | here _ hrest => exact ih hrest
    | above _ hrest => exact ih hrest
    | inside _ _ _ hrest => exact ih hrest

/-! ## Reading -/

/-- A path can be given to the operating system, leads to a location, and does not ask for a
directory. -/
structure Finds (files : Files) (path : Path) (location : Location) : Prop where
  /-- It can be given to the operating system. -/
  check : checkPath path = .ok ()
  /-- It leads to the location. -/
  leads : files.Leads (files.start path) (Path.names path) location
  /-- It does not ask for a directory. -/
  noSlash : Path.endsWithSlash path = false

theorem Stands.finds (h : files.Stands later) (hfinds : files.Finds path location) :
    later.Finds path location := by
  have hstart : later.start path = files.start path := by rw [start, start, h.working]
  exact ⟨hfinds.check, hstart ▸ h.leads hfinds.leads, hfinds.noSlash⟩

/-- A text is read from the file to which the path leads. -/
theorem readText_eq_ok_iff : files.readText path = .ok value ↔
    ∃ location, files.Finds path location ∧
      files.entryAt location = some (.file (.text value)) := by
  unfold readText lookup
  constructor
  · intro h
    cases hcheck : checkPath path with
    | error e => simp [hcheck, bind, Except.bind] at h
    | ok =>
      cases hwalk : files.walk (files.start path) (Path.names path) with
      | error e => simp [hcheck, hwalk, bind, Except.bind] at h
      | ok location =>
        -- Of what can be at the place, only a file with a text is read.
        refine ⟨location, ⟨hcheck, walk_eq_ok_iff.mp hwalk, ?_⟩, ?_⟩ <;>
          rcases hentry : files.entryAt location with _ | (⟨_ | _⟩ | _) <;>
            cases hslash : Path.endsWithSlash path <;>
              simp_all [bind, Except.bind, pure, Except.pure, throw, throwThe, MonadExceptOf.throw]
  · rintro ⟨location, ⟨hcheck, hleads, hslash⟩, hentry⟩
    simp [hcheck, walk_eq_ok_iff.mpr hleads, hentry, hslash, bind, Except.bind, pure, Except.pure]

/-! ## What a new name needs -/

/-- A location can be filled: its directory is there, and the last name of the path is proper. -/
structure Vacates (files : Files) (path : Path) (location : Location) : Prop where
  /-- The path can be given to the operating system. -/
  check : checkPath path = .ok ()
  /-- The names of the path but the last one lead to a directory. -/
  fills : ∃ names name at_ isSealed, Path.names path = names ++ [name] ∧
    files.Leads (files.start path) names at_ ∧
    files.entryAt at_ = some (.directory isSealed) ∧ IsProper name ∧ location = at_ ++ [name]

namespace Vacates

variable (h : files.Vacates path location)

include h

/-- It is not the root. -/
theorem location_ne : location ≠ [] := by
  obtain ⟨_, _, at_, _, _, _, _, _, rfl⟩ := h.fills
  simp

/-- Its last name is the last name of the path. -/
theorem getLast? : location.getLast? = (Path.names path).getLast? := by
  obtain ⟨_, _, _, _, hnames, _, _, _, rfl⟩ := h.fills
  simp [hnames]

end Vacates

/-- Where something can be created, the location can be filled. -/
theorem vacates_of_vacancy {here : FileError} {isSealed : Bool}
    (h : files.vacancy path here = .ok (isSealed, location)) : files.Vacates path location := by
  unfold vacancy at h
  -- Each condition that is checked is one that a free place has.
  cases hcheck : checkPath path with
  | error e => simp [hcheck, bind, Except.bind] at h
  | ok =>
  cases hlast : (Path.names path).getLast? with
  | none => simp [hcheck, hlast, bind, Except.bind, throw, throwThe, MonadExceptOf.throw] at h
  | some name =>
  cases hwalk : files.walk (files.start path) (Path.names path).dropLast with
  | error e => simp [hcheck, hlast, hwalk, bind, Except.bind] at h
  | ok at_ =>
  rcases hentry : files.entryAt at_ with _ | (content | isSealed') <;>
    simp only [hcheck, hlast, hwalk, hentry, bind, Except.bind, pure, Except.pure, throw, throwThe,
      MonadExceptOf.throw, reduceCtorEq] at h
  split at h
  · cases h
  next hproper =>
  split at h
  · cases h
  next hshort =>
  simp only [Bool.or_eq_true, beq_iff_eq, not_or] at hproper
  obtain ⟨rfl, rfl⟩ := Prod.mk.inj (Except.ok.inj h)
  refine ⟨hcheck, (Path.names path).dropLast, name, at_, isSealed', ?_, walk_eq_ok_iff.mp hwalk,
    hentry, ⟨hproper.1, hproper.2, by omega⟩, rfl⟩
  exact (List.dropLast_append_getLast? name hlast).symm

/-- A text written to the location can be read from the path, unless it asks for a directory. -/
theorem Vacates.readText {files later : Files} (h : files.Vacates path location)
    (hstands : files.Stands later) (hslash : Path.endsWithSlash path = false)
    (hentry : later.entryAt location = some (.file (.text value))) :
    later.readText path = .ok value := by
  obtain ⟨hcheck, names, name, at_, isSealed, hnames, hleads, hdirectory, hproper, rfl⟩ := h
  have hstart : later.start path = files.start path := by rw [start, start, hstands.working]
  refine readText_eq_ok_iff.mpr ⟨_, ⟨hcheck, ?_, hslash⟩, hentry⟩
  rw [hstart, hnames]
  exact (hstands.leads hleads).concat (hstands.directory _ _ hdirectory) hproper hentry

/-! ## Operations -/

/-- Looking at the files, then going on. -/
theorem get_bind_apply {α : Type} (next : Files → FileOp α) (files : Files) :
    (get >>= next) files = next files files := rfl

theorem makeDirectory_apply (path : Path) (files : Files) :
    makeDirectory path files = match files.vacancy path .alreadyExists with
      | .error e => .error e files
      | .ok (isSealed, location) =>
        if (files.entryAt location).isSome then .error .alreadyExists files
        else if isSealed then .error .notFound files
        else .ok () (files.place location (.directory false)) := by
  unfold makeDirectory
  rw [get_bind_apply]
  cases files.vacancy path .alreadyExists with
  | error e => rfl
  | ok vacancy =>
    obtain ⟨isSealed, location⟩ := vacancy
    cases hsome : (files.entryAt location).isSome <;> cases isSealed <;> simp only [hsome] <;> rfl

theorem writeText_apply (path : Path) (value : String) (files : Files) :
    writeText path value files = match files.vacancy path .isDirectory with
      | .error e => .error e files
      | .ok (isSealed, location) =>
        match files.entryAt location with
        | some (.directory _) => .error .isDirectory files
        | some (.file _) =>
          if Path.endsWithSlash path then .error .notDirectory files
          else .ok () (files.place location (.file (.text value)))
        | none =>
          if Path.endsWithSlash path then .error .isDirectory files
          else if isSealed then .error .notFound files
          else .ok () (files.place location (.file (.text value))) := by
  unfold writeText
  rw [get_bind_apply]
  cases files.vacancy path .isDirectory with
  | error e => rfl
  | ok vacancy =>
    obtain ⟨isSealed, location⟩ := vacancy
    rcases hentry : files.entryAt location with _ | (content | isSealed') <;>
      cases Path.endsWithSlash path <;> cases isSealed <;> simp only [hentry] <;> rfl

/-- What an operation leaves behind, whether it fails or not. -/
def reached {α : Type} (op : FileOp α) (files : Files) : Files :=
  match op files with
  | .ok _ later => later
  | .error _ later => later

theorem reached_ok {α : Type} {op : FileOp α} {a : α} (h : op files = .ok a later) :
    reached op files = later := by
  rw [reached, h]

/-- An operation only adds to the files. -/
def Adds {α : Type} (op : FileOp α) : Prop := ∀ files : Files, files.Grows (reached op files)

namespace Adds

variable {α β : Type}

theorem pure (a : α) : Adds (Pure.pure a : FileOp α) := fun files => .refl files

theorem throw (e : FileError) : Adds (MonadExcept.throw e : FileOp α) := fun files => .refl files

/-- What depends on the files only adds to them if it does so in every case. -/
theorem get {next : Files → FileOp α} (h : ∀ files, Adds (next files)) :
    Adds (MonadState.get >>= next) :=
  fun files => h files files

theorem bind {op : FileOp α} {next : α → FileOp β} (h : Adds op) (h' : ∀ a, Adds (next a)) :
    Adds (op >>= next) := by
  intro files
  have hfirst := h files
  unfold reached at hfirst ⊢
  change files.Grows (match EStateM.bind op next files with | .ok _ t => t | .error _ t => t)
  unfold EStateM.bind
  cases hop : op files with
  | error e later => rwa [hop] at hfirst
  | ok a later =>
    rw [hop] at hfirst
    exact hfirst.trans (h' a later)

theorem catching {op : FileOp α} {other : FileError → FileOp α} (h : Adds op)
    (h' : ∀ e, Adds (other e)) : Adds (tryCatch op other) := by
  intro files
  have hfirst := h files
  unfold reached at hfirst ⊢
  change files.Grows (match EStateM.tryCatch op other files with | .ok _ t => t | .error _ t => t)
  delta EStateM.tryCatch
  cases hop : op files with
  | ok a later => simpa [hop] using hfirst
  | error e later =>
    rw [hop] at hfirst
    exact hfirst.trans (h' e later)

end Adds

/-- A directory is created where there was nothing. -/
theorem makeDirectory_adds (path : Path) : Adds (makeDirectory path) := by
  intro files
  unfold reached
  rw [makeDirectory_apply]
  cases files.vacancy path .alreadyExists with
  | error e => exact .refl files
  | ok vacancy =>
    obtain ⟨isSealed, location⟩ := vacancy
    cases hentry : files.entryAt location with
    | some entry => simp only [hentry, Option.isSome_some, if_true]; exact .refl files
    | none =>
      cases isSealed with
      | true => simp only [hentry]; exact .refl files
      | false => simp only [hentry]; exact grows_place hentry

/-- A directory that is missing is created. -/
theorem ensureDirectory_adds (path : Path) : Adds (ensureDirectory path) := by
  refine (makeDirectory_adds path).catching fun e => .get fun files => ?_
  split
  · exact .pure ()
  · exact .throw e

theorem makeAll_adds (paths : List Path) : Adds (makeAll paths) := by
  induction paths with
  | nil => exact .pure ()
  | cons path rest ih =>
    unfold makeAll
    split
    · exact .pure ()
    refine (makeDirectory_adds path).catching fun e => ?_
    split
    · exact ih.bind fun _ => ensureDirectory_adds path
    · refine .get fun files => ?_
      split
      · exact .pure ()
      · exact .throw e

/-- Directories are created where there was nothing. -/
theorem makeDirectories_adds (path : Path) : Adds (makeDirectories path) :=
  makeAll_adds _

/-- A text that is written is what is at the location of the path then; everything else stays. -/
theorem exists_place_of_writeText (h : writeText path value files = .ok () later) :
    ∃ location, files.Vacates path location ∧ Path.endsWithSlash path = false ∧
      files.Stands later ∧ later = files.place location (.file (.text value)) := by
  rw [writeText_apply] at h
  cases hvacancy : files.vacancy path .isDirectory with
  | error e => rw [hvacancy] at h; cases h
  | ok vacancy =>
    obtain ⟨isSealed, location⟩ := vacancy
    have hvacates := vacates_of_vacancy hvacancy
    -- A file is placed where there is none or another file, and nowhere else.
    have hplaced (hentry : ∀ isSealed, files.entryAt location ≠ some (.directory isSealed))
        (hslash : Path.endsWithSlash path = false)
        (h : EStateM.Result.ok () (files.place location (.file (.text value))) =
          (.ok () later : EStateM.Result FileError Files Unit)) :
        ∃ location, files.Vacates path location ∧ Path.endsWithSlash path = false ∧
          files.Stands later ∧ later = files.place location (.file (.text value)) := by
      obtain ⟨-, rfl⟩ := EStateM.Result.ok.inj h
      exact ⟨location, hvacates, hslash, stands_place_file hentry, rfl⟩
    rcases hentry : files.entryAt location with _ | (content | isSealed') <;>
      cases hslash : Path.endsWithSlash path <;>
        simp only [hvacancy, hentry, hslash, if_true, Bool.false_eq_true, if_false,
          reduceCtorEq] at h
    · split at h
      · cases h
      · exact hslash ▸ hplaced (by simp [hentry]) hslash h
    · exact hslash ▸ hplaced (by simp [hentry]) hslash h

/-! ## Texts -/

/-- A text can be read back from the path to which it was written. -/
theorem readText_of_writeText (h : writeText path value files = .ok () later) :
    later.readText path = .ok value := by
  obtain ⟨location, hvacates, hslash, hstands, rfl⟩ := exists_place_of_writeText h
  refine hvacates.readText hstands hslash ?_
  rw [entryAt_place hvacates.location_ne, if_pos rfl]

/-- Writing a text leaves alone what can be read from a path with another last name. -/
theorem readText_of_writeText_of_ne {other : Path} {text : String} (hhere : name ≠ ".")
    (habove : name ≠ "..") (hnames : Path.names other = names ++ [name])
    (hne : (Path.names path).getLast? ≠ some name) (h : writeText path value files = .ok () later)
    (hread : files.readText other = .ok text) : later.readText other = .ok text := by
  obtain ⟨location, hvacates, -, hstands, rfl⟩ := exists_place_of_writeText h
  obtain ⟨found, hfinds, hentry⟩ := readText_eq_ok_iff.mp hread
  refine readText_eq_ok_iff.mpr ⟨found, hstands.finds hfinds, ?_⟩
  have hfound : found.getLast? = some name := (hnames ▸ hfinds.leads).getLast? hhere habove
  have hother : found ≠ location := by
    rintro rfl
    exact hne (hvacates.getLast?.symm.trans hfound)
  rw [entryAt_place hvacates.location_ne, if_neg hother, hentry]

/-- What is added leaves alone what can be read. -/
theorem Grows.readText (h : files.Grows later) (hread : files.readText path = .ok value) :
    later.readText path = .ok value := by
  obtain ⟨location, hfinds, hentry⟩ := readText_eq_ok_iff.mp hread
  exact readText_eq_ok_iff.mpr ⟨location, h.stands.finds hfinds, h.entry _ _ hentry⟩

end BrowserFlow.Files

namespace BrowserFlow.Path

/-! ## Joined paths -/

/-- What follows a slash is one more name of a path. -/
theorem names_of_slash {path name : Path} (front : List Char)
    (hpath : path.toList = front ++ '/' :: name.toList) (hname : name ≠ "")
    (hslash : '/' ∉ name.toList) : names path = names (String.ofList front) ++ [name] := by
  have hempty : name.isEmpty = false := by simpa using hname
  simp [names, Text.partsAt, hpath, List.splitOn_append_cons_self, List.splitOn_eq_singleton hslash,
    hempty]

/-- A slash at the end of a path adds no name. -/
theorem names_append_slash (front : List Char) :
    names (String.ofList (front ++ ['/'])) = names (String.ofList front) := by
  simp [names, Text.partsAt, List.splitOn_append_cons_self]

/-- A name that is joined to a path is one more name, the last one. -/
theorem names_join (directory : Path) {name : Path} (hname : name ≠ "")
    (hslash : '/' ∉ name.toList) : names (join directory name) = names directory ++ [name] := by
  unfold join
  split
  · next h =>
    rcases Bool.or_eq_true _ _ ▸ h with hempty | hends
    · have hdirectory : directory = "" := by simpa using hempty
      have hempty : name.isEmpty = false := by simpa using hname
      simp [names, Text.partsAt, hdirectory, List.splitOn_eq_singleton hslash, hempty]
    · obtain ⟨front, hfront⟩ := List.getLast?_eq_some_iff.mp (by simpa [endsWithSlash] using hends)
      have hdirectory : directory = String.ofList (front ++ ['/']) := by
        rw [← hfront, String.ofList_toList]
      rw [names_of_slash front (by simp [hfront]) hname hslash, hdirectory, names_append_slash]
  · rw [names_of_slash directory.toList (by simp) hname hslash, String.ofList_toList]

end BrowserFlow.Path
