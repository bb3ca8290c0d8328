import BrowserFlow.Proofs.Files.Writing
import Mathlib.Data.List.Induction
import Mathlib.Data.List.Sort
import Mathlib.Data.Prod.Lex
import Mathlib.Data.String.Basic

/-!
# Directory trees

The entries of a file system make up a tree if no location has two of them and every one is inside a
directory, under a name that can be joined to a path (`IsTree`). The operations that create
directories and files keep it one (`IsTree.makeDirectory`, `IsTree.writeText`).

In a tree everything below a directory is at the end of a chain of names, and all that a chain leads
through are directories. The listing of a directory goes down these chains. By induction over the
levels that it enters, it finds what the chains lead to as far as they are no longer than that
(`IsTree.mem_below`), and nothing twice: no two paths have the same components
(`IsTree.below_distinct`). No chain is longer than there are entries, since the locations that it
leads through are all there and all different (`IsTree.length_le`); so nothing is too deep to be
found (`IsTree.mem_contents`).

In which order it is found depends on the entries. Paths are compared component by component, which
is a linear order of their keys (`Path.le_iff_keys`); below one directory it is the order of the
components as texts (`Path.lt_of_le_extend`).
-/

namespace BrowserFlow

/-- The parts between the places where a character stands do not hold it. -/
theorem Text.notMem_of_mem_splitOn {c : Char} {s part : List Char} (h : part ∈ s.splitOn c) :
    c ∉ part := by
  by_cases hc : c ∈ s
  · obtain ⟨before, after, rfl, hbefore⟩ := List.eq_append_cons_of_mem hc
    rw [List.splitOn_append_cons_self, List.splitOn_eq_singleton hbefore] at h
    rcases List.mem_cons.mp h with rfl | h
    · exact hbefore
    · exact notMem_of_mem_splitOn h
  · rw [List.splitOn_eq_singleton hc] at h
    exact List.mem_singleton.mp h ▸ hc
termination_by s.length

/-- A name that something in a directory can have. -/
structure IsName (name : String) : Prop where
  /-- It is not empty. -/
  ne_empty : name ≠ ""
  /-- It does not mean "here". -/
  ne_here : name ≠ "."
  /-- It does not mean "above". -/
  ne_above : name ≠ ".."
  /-- It is one name and not several. -/
  noSlash : '/' ∉ name.toList

instance (name : String) : Decidable (IsName name) :=
  decidable_of_iff (name ≠ "" ∧ name ≠ "." ∧ name ≠ ".." ∧ '/' ∉ name.toList)
    ⟨fun h => ⟨h.1, h.2.1, h.2.2.1, h.2.2.2⟩,
      fun h => ⟨h.ne_empty, h.ne_here, h.ne_above, h.noSlash⟩⟩

/-! ## Paths below a directory -/

namespace Path

variable {directory : Path} {name : String} {names : List String}

/-- The names of a path are names, but for those that mean "here" and "above". -/
theorem isName_of_mem_names {path : Path} (h : name ∈ Path.names path) (hhere : name ≠ ".")
    (habove : name ≠ "..") : IsName name := by
  obtain ⟨hmem, hempty⟩ := List.mem_filter.mp h
  obtain ⟨part, hpart, rfl⟩ := List.mem_map.mp hmem
  refine ⟨by simpa using hempty, hhere, habove, ?_⟩
  rw [String.toList_ofList]
  exact Text.notMem_of_mem_splitOn hpart

/-- The path of what a chain of names leads to from a directory. -/
def extend (directory : Path) (names : List String) : Path :=
  names.foldl join directory

/-- A path that is not empty goes on in the paths joined to it. -/
theorem exists_toList_join (h : directory ≠ "") (name : String) :
    ∃ c first rest, directory.toList = c :: first ∧ (join directory name).toList = c :: rest := by
  obtain ⟨c, first, hfirst⟩ := List.exists_cons_of_ne_nil
    (fun hnil => h (String.toList_eq_nil_iff.mp hnil))
  refine ⟨c, first, ?_⟩
  unfold join
  split <;> simp [hfirst]

theorem join_ne (h : directory ≠ "") (name : String) : join directory name ≠ "" := by
  obtain ⟨c, first, rest, -, hrest⟩ := exists_toList_join h name
  rintro heq
  simp [heq] at hrest

/-- What is inside a directory has the components of the directory and its name. -/
theorem components_join (h : directory ≠ "") (hname : IsName name) :
    components (join directory name) = components directory ++ [name] := by
  obtain ⟨c, first, rest, hfirst, hrest⟩ := exists_toList_join h name
  have habsolute : isAbsolute (join directory name) = isAbsolute directory := by
    simp [isAbsolute, hfirst, hrest]
  unfold components
  rw [habsolute, names_join directory hname.ne_empty hname.noSlash]
  cases names directory with
  | nil => simp [hname.ne_here]
  | cons first rest =>
    have hkept : (rest ++ [name]).filter (· != ".") = rest.filter (· != ".") ++ [name] := by
      simp [hname.ne_here]
    simp only [List.cons_append, hkept]
    split <;> rfl

/-- What a chain of names leads to has the components of the directory and these names. -/
theorem components_extend (h : directory ≠ "") (hnames : ∀ name ∈ names, IsName name) :
    components (extend directory names) = components directory ++ names := by
  induction names generalizing directory with
  | nil => simp [extend]
  | cons name names ih =>
    obtain ⟨hname, hnames⟩ := List.forall_mem_cons.mp hnames
    have hjoin := ih (join_ne h name) hnames
    rw [components_join h hname, List.append_assoc, List.singleton_append] at hjoin
    exact hjoin

/-! ## The order of paths -/

/-- What a component is compared by: its kind, and then its text. -/
def key (component : String) : ℕ ×ₗ String :=
  toLex (rank component, component)

theorem key_injective : Function.Injective key := fun _ _ h =>
  congrArg Prod.snd (toLex.injective h)

theorem componentLt_iff {a b : String} : componentLt a b = true ↔ key a < key b := by
  simp [componentLt, key, Prod.Lex.toLex_lt_toLex]

/-- Two lists of components are compared by their keys. -/
theorem lex_iff {parts others : List String} :
    List.lex parts others componentLt = true ↔ parts.map key < others.map key := by
  induction parts generalizing others with
  | nil => cases others <;> simp
  | cons a rest ih =>
    cases others with
    | nil => simp
    | cons b others =>
      simp only [List.cons_lex_cons, Bool.or_eq_true, Bool.and_eq_true, beq_iff_eq, List.map_cons,
        List.cons_lt_cons_iff, componentLt_iff, ih, key_injective.eq_iff]

theorem le_iff_keys {path other : Path} :
    le path other = true ↔ (parts path).map key ≤ (parts other).map key := by
  rw [le, Bool.not_eq_true', ← Bool.not_eq_true, lex_iff, not_lt]

theorem le_trans {first second third : Path} (h : le first second = true)
    (h' : le second third = true) : le first third = true := by
  rw [le_iff_keys] at *
  exact h.trans h'

theorem le_or_le (path other : Path) : (le path other || le other path) = true := by
  rw [Bool.or_eq_true, le_iff_keys, le_iff_keys]
  exact le_total _ _

/-- A name is compared with other names by its text. -/
theorem key_of_isName (h : IsName name) : key name = toLex (3, name) := by
  have hslash : name ≠ "/" := by
    rintro rfl
    exact h.noSlash (by decide)
  simp [key, rank, hslash, h.ne_here, h.ne_above]

/-- What is below a directory begins with the same parts. -/
theorem parts_extend (h : directory ≠ "") : ∃ shared : List String, ∀ names : List String,
    (∀ name ∈ names, IsName name) → parts (extend directory names) = shared ++ names := by
  refine ⟨parts directory, fun names hnames => ?_⟩
  have habsolute : isAbsolute (extend directory names) = isAbsolute directory := by
    clear hnames
    induction names generalizing directory with
    | nil => rfl
    | cons name names ih =>
      obtain ⟨c, first, rest, hfirst, hrest⟩ := exists_toList_join h name
      refine (ih (join_ne h name)).trans ?_
      simp [isAbsolute, hfirst, hrest]
  rw [parts, parts, habsolute, components_extend h hnames]
  split <;> simp

/-- Below a directory paths are compared by their components as texts. -/
theorem lt_of_le_extend {others : List String} (h : directory ≠ "")
    (hnames : ∀ name ∈ names, IsName name) (hothers : ∀ name ∈ others, IsName name)
    (hle : le (extend directory names) (extend directory others) = true)
    (hne : components (extend directory names) ≠ components (extend directory others)) :
    components (extend directory names) < components (extend directory others) := by
  rw [components_extend h hnames, components_extend h hothers] at *
  rcases lt_trichotomy names others with hlt | rfl | hlt
  · exact List.append_left_lt hlt
  · exact absurd rfl hne
  · -- In the other order the keys would be in the other order as well.
    obtain ⟨shared, hparts⟩ := parts_extend h
    have hkeys {names : List String} (hnames : ∀ name ∈ names, IsName name) :
        (parts (extend directory names)).map key =
          shared.map key ++ names.map fun name => toLex (3, name) := by
      rw [hparts names hnames, List.map_append]
      exact congrArg _ (List.map_congr_left fun name hname => key_of_isName (hnames name hname))
    rw [le_iff_keys, hkeys hnames, hkeys hothers, ← not_lt] at hle
    refine absurd (List.append_left_lt (List.map_lt (fun x y hxy => ?_) hlt)) hle
    exact Prod.Lex.toLex_lt_toLex.mpr (.inr ⟨rfl, hxy⟩)

end Path

namespace Files

variable {files files' later : Files} {path p : Path} {location parent : Location}
  {names : List String} {name : String} {entry : Entry} {fuel : ℕ}

/-- The entries make up a tree. -/
structure IsTree (files : Files) : Prop where
  /-- No two of them are at one location. -/
  distinct : (files.entries.map (·.1)).Nodup
  /-- Every one has a name inside a directory. -/
  inside : ∀ e ∈ files.entries, (∃ name ∈ e.1.getLast?, IsName name) ∧
    ∃ isSealed, files.entryAt e.1.dropLast = some (.directory isSealed)

instance (files : Files) : Decidable files.IsTree :=
  decidable_of_iff ((files.entries.map (·.1)).Nodup ∧
      ∀ e ∈ files.entries, (∃ name ∈ e.1.getLast?, IsName name) ∧
        (files.entryAt e.1.dropLast = some (.directory false) ∨
          files.entryAt e.1.dropLast = some (.directory true)))
    ⟨fun h => ⟨h.1, fun e he => ⟨(h.2 e he).1, by simpa using (h.2 e he).2⟩⟩,
      fun h => ⟨h.distinct, fun e he => ⟨(h.inside e he).1, by simpa using (h.inside e he).2⟩⟩⟩

/-! ## Locations -/

/-- A location is inside a directory if it is the location of the directory and one more name. -/
theorem child_eq_some_iff {place : Location} {child : String × Entry} :
    (if place.dropLast == location then place.getLast?.map (·, entry) else none) = some child ↔
      place = location ++ [child.1] ∧ child.2 = entry := by
  constructor
  · intro h
    split at h
    · next hdrop =>
      obtain ⟨name, hname, rfl⟩ := Option.map_eq_some_iff.mp h
      rw [← beq_iff_eq.mp hdrop]
      exact ⟨(List.dropLast_append_getLast? name hname).symm, rfl⟩
    · cases h
  · rintro ⟨rfl, rfl⟩
    simp

/-- What is inside a directory has an entry there. -/
theorem mem_children :
    (name, entry) ∈ files.children location ↔ (location ++ [name], entry) ∈ files.entries := by
  unfold children
  rw [List.mem_filterMap]
  constructor
  · rintro ⟨e, hmem, he⟩
    obtain ⟨hplace, rfl⟩ := child_eq_some_iff.mp he
    exact hplace ▸ hmem
  · intro hmem
    exact ⟨_, hmem, child_eq_some_iff.mpr ⟨rfl, rfl⟩⟩

/-- Where locations have no more than one entry, that is what is there. -/
theorem entryAt_eq_some_iff (hdistinct : (files.entries.map (·.1)).Nodup) (hne : location ≠ []) :
    files.entryAt location = some entry ↔ (location, entry) ∈ files.entries := by
  simp only [entryAt, List.isEmpty_iff, hne, if_false, Option.map_eq_some_iff]
  constructor
  · rintro ⟨e, he, rfl⟩
    have hlocation : e.1 = location := by simpa using List.find?_some he
    exact hlocation ▸ List.mem_of_find?_eq_some he
  · intro hmem
    obtain ⟨e, he⟩ : ∃ e, files.entries.find? (·.1 == location) = some e :=
      Option.isSome_iff_exists.mp (List.find?_isSome.mpr ⟨_, hmem, by simp⟩)
    have hlocation : e.1 = location := by simpa using List.find?_some he
    have heq : e = (location, entry) :=
      List.inj_on_of_nodup_map hdistinct (List.mem_of_find?_eq_some he) hmem hlocation
    exact ⟨e, he, by rw [heq]⟩

/-- What is at the locations does not depend on the order of the entries. -/
theorem entryAt_perm (hdistinct : (files.entries.map (·.1)).Nodup)
    (hperm : files'.entries.Perm files.entries) : files'.entryAt = files.entryAt := by
  have hdistinct' : (files'.entries.map (·.1)).Nodup := (hperm.map _).nodup_iff.mpr hdistinct
  funext location
  by_cases hne : location = []
  · rw [hne, entryAt_nil, entryAt_nil]
  · ext entry
    rw [entryAt_eq_some_iff hdistinct' hne, entryAt_eq_some_iff hdistinct hne, hperm.mem_iff]

/-- A walk depends on what is at the locations only. -/
theorem walk_congr (hentry : files'.entryAt = files.entryAt) (at_ : Location)
    (names : List String) : files'.walk at_ names = files.walk at_ names := by
  induction names generalizing at_ with
  | nil => rfl
  | cons name rest ih => simp only [walk, hentry, ih]

/-- What a path leads to does not depend on the order of the entries. -/
theorem lookup_perm (hdistinct : (files.entries.map (·.1)).Nodup)
    (hperm : files'.entries.Perm files.entries) (hworking : files'.working = files.working)
    (path : Path) : files'.lookup path = files.lookup path := by
  have hentry := entryAt_perm hdistinct hperm
  have hstart : files'.start path = files.start path := by rw [start, start, hworking]
  simp only [lookup, hentry, hstart, walk_congr hentry]

/-- A path that leads somewhere is not empty. -/
theorem ne_of_lookup {found : Location × Entry} (hlookup : files.lookup path = .ok found) :
    path ≠ "" := by
  rintro rfl
  cases hlookup

/-- Something inside a directory, and everything below it. -/
def subtree (files : Files) (fuel : ℕ) (location : Location) (path : Path)
    (child : String × Entry) : List (Path × Entry) :=
  (Path.join path child.1, child.2) ::
    match child.2 with
    | .directory _ => files.below fuel (location ++ [child.1]) (Path.join path child.1)
    | .file _ => []

theorem below_succ (files : Files) (fuel : ℕ) (location : Location) (path : Path) :
    files.below (fuel + 1) location path =
      (files.children location).flatMap (files.subtree fuel location path) := rfl

theorem mem_subtree {child : String × Entry} {found : Path × Entry} :
    found ∈ files.subtree fuel location path child ↔ found = (Path.join path child.1, child.2) ∨
      (∃ isSealed, child.2 = .directory isSealed) ∧
        found ∈ files.below fuel (location ++ [child.1]) (Path.join path child.1) := by
  obtain ⟨name, content | isSealed⟩ := child <;> simp [subtree]

namespace IsTree

variable (h : files.IsTree)

include h

/-- The entries are what is at the locations. -/
theorem mem_entries :
    (location, entry) ∈ files.entries ↔ location ≠ [] ∧ files.entryAt location = some entry := by
  constructor
  · intro hmem
    have hne : location ≠ [] := by
      rintro rfl
      obtain ⟨⟨name, hname, -⟩, -⟩ := h.inside _ hmem
      cases hname
    exact ⟨hne, (entryAt_eq_some_iff h.distinct hne).mpr hmem⟩
  · rintro ⟨hne, hentry⟩
    exact (entryAt_eq_some_iff h.distinct hne).mp hentry

/-- It is a tree in any order of the entries. -/
theorem perm (hperm : files'.entries.Perm files.entries) : files'.IsTree := by
  refine ⟨(hperm.map _).nodup_iff.mpr h.distinct, fun e he => ?_⟩
  rw [entryAt_perm h.distinct hperm]
  exact h.inside e (hperm.mem_iff.mp he)

/-- What is at the location of a directory and one more name has that name and is inside it. -/
theorem entryAt_concat (hentry : files.entryAt (parent ++ [name]) = some entry) :
    IsName name ∧ ∃ isSealed, files.entryAt parent = some (.directory isSealed) := by
  obtain ⟨⟨name', hname', hvalid⟩, hparent⟩ :=
    h.inside _ (h.mem_entries.mpr ⟨by simp, hentry⟩)
  simp only [List.getLast?_concat, Option.mem_some_iff, List.dropLast_concat] at hname' hparent
  exact ⟨hname' ▸ hvalid, hparent⟩

/-- A chain that leads to something starts at a directory, and its names are names. -/
theorem entryAt_append (hentry : files.entryAt (location ++ names) = some entry)
    (hne : names ≠ []) : (∀ name ∈ names, IsName name) ∧
      ∃ isSealed, files.entryAt location = some (.directory isSealed) := by
  -- From the end of the chain, where the entry is.
  induction names using List.reverseRec generalizing entry with
  | nil => exact absurd rfl hne
  | append_singleton names name ih =>
    rw [← List.append_assoc] at hentry
    obtain ⟨hname, isSealed, hparent⟩ := h.entryAt_concat hentry
    by_cases hnil : names = []
    · subst hnil
      exact ⟨by simpa using hname, isSealed, by simpa using hparent⟩
    · obtain ⟨hnames, hlocation⟩ := ih hparent hnil
      refine ⟨fun n hn => ?_, hlocation⟩
      rcases List.mem_append.mp hn with hn | hn
      · exact hnames n hn
      · exact List.mem_singleton.mp hn ▸ hname

/-- A location has no more names than there are entries: everything on the way to it is one. -/
theorem length_le (hentry : files.entryAt location = some entry) :
    location.length ≤ files.entries.length := by
  -- The directories on the way, with the entry itself, are as many entries as the place has names.
  let prefixes := (List.range location.length).map fun n => location.take (n + 1)
  have hnodup : prefixes.Nodup := by
    refine List.Nodup.map_on (fun m hm n hn heq => ?_) List.nodup_range
    have hlength := congrArg List.length heq
    rw [List.mem_range] at hm hn
    simp only [List.length_take] at hlength
    omega
  have hsubset : prefixes ⊆ files.entries.map (·.1) := by
    intro place hplace
    obtain ⟨n, hn, rfl⟩ := List.mem_map.mp hplace
    rw [List.mem_range] at hn
    obtain ⟨e, he⟩ : ∃ e, files.entryAt (location.take (n + 1)) = some e := by
      by_cases hdrop : location.drop (n + 1) = []
      · rw [List.take_of_length_le (List.drop_eq_nil_iff.mp hdrop)]
        exact ⟨entry, hentry⟩
      · rw [← List.take_append_drop (n + 1) location] at hentry
        obtain ⟨-, isSealed, he⟩ := h.entryAt_append hentry hdrop
        exact ⟨_, he⟩
    have hne : location.take (n + 1) ≠ [] := by
      rw [← List.length_pos_iff, List.length_take]
      omega
    exact List.mem_map.mpr ⟨_, h.mem_entries.mpr ⟨hne, he⟩, rfl⟩
  simpa [prefixes] using (List.subperm_of_subset hnodup hsubset).length_le

/-! ## Listing -/

/-- What is inside a directory is there. -/
theorem mem_children :
    (name, entry) ∈ files.children location ↔ files.entryAt (location ++ [name]) = some entry := by
  rw [Files.mem_children, h.mem_entries]
  simp

/-- What is inside a directory is listed once. -/
theorem children_distinct (location : Location) :
    (files.children location).Pairwise fun a b => a.1 ≠ b.1 := by
  unfold children
  rw [List.pairwise_filterMap]
  refine (List.pairwise_map.mp h.distinct).imp fun hne a ha b hb heq => hne ?_
  rw [(child_eq_some_iff.mp ha).1, (child_eq_some_iff.mp hb).1, heq]

/-- The listing finds what the chains lead to that are no longer than the levels that it enters. -/
theorem mem_below : (p, entry) ∈ files.below fuel location path ↔
    ∃ names, names ≠ [] ∧ names.length ≤ fuel ∧
      files.entryAt (location ++ names) = some entry ∧ p = Path.extend path names := by
  induction fuel generalizing location path with
  | zero => simp +contextual [below]
  | succ fuel ih =>
    rw [below_succ, List.mem_flatMap]
    constructor
    · rintro ⟨⟨name, child⟩, hchild, hmem⟩
      rcases mem_subtree.mp hmem with heq | ⟨-, hinside⟩
      · obtain ⟨rfl, rfl⟩ := Prod.mk.inj heq
        exact ⟨[name], by simp, by simp, h.mem_children.mp hchild, rfl⟩
      · obtain ⟨names, hne, hlength, hentry, rfl⟩ := ih.mp hinside
        refine ⟨name :: names, by simp, by simpa using hlength, ?_, rfl⟩
        rwa [List.append_assoc, List.singleton_append] at hentry
    · rintro ⟨names, hne, hlength, hentry, rfl⟩
      obtain ⟨name, rest, rfl⟩ := List.exists_cons_of_ne_nil hne
      -- The entry is the child of that name, or lies inside it.
      by_cases hrest : rest = []
      · subst hrest
        exact ⟨(name, entry), h.mem_children.mpr hentry, mem_subtree.mpr (.inl rfl)⟩
      · have hchain : files.entryAt ((location ++ [name]) ++ rest) = some entry := by
          rwa [List.append_assoc, List.singleton_append]
        obtain ⟨-, isSealed, hdirectory⟩ := h.entryAt_append hchain hrest
        refine ⟨(name, .directory isSealed), h.mem_children.mpr hdirectory, ?_⟩
        refine mem_subtree.mpr (.inr ⟨⟨isSealed, rfl⟩, ih.mpr ⟨rest, hrest, ?_, hchain, rfl⟩⟩)
        simpa using hlength

/-- The path of what the listing finds goes on from the path of the directory. -/
theorem components_of_mem_below (hpath : path ≠ "")
    (hmem : (p, entry) ∈ files.below fuel location path) :
    ∃ names, names ≠ [] ∧ Path.components p = Path.components path ++ names := by
  obtain ⟨names, hne, -, hentry, rfl⟩ := h.mem_below.mp hmem
  exact ⟨names, hne, Path.components_extend hpath (h.entryAt_append hentry hne).1⟩

/-- So does the path of something inside the directory, with its name. -/
theorem components_of_mem_subtree {child : String × Entry} {found : Path × Entry}
    (hpath : path ≠ "") (hchild : child ∈ files.children location)
    (hmem : found ∈ files.subtree fuel location path child) :
    ∃ rest, Path.components found.1 = Path.components path ++ child.1 :: rest := by
  obtain ⟨hname, -⟩ := h.entryAt_concat (h.mem_children.mp hchild)
  have hjoin := Path.components_join hpath hname
  rcases mem_subtree.mp hmem with rfl | ⟨-, hinside⟩
  · exact ⟨[], hjoin⟩
  · obtain ⟨names, -, heq⟩ := h.components_of_mem_below (Path.join_ne hpath _) hinside
    rw [hjoin, List.append_assoc] at heq
    exact ⟨names, heq⟩

/-- The listing has no two paths with the same components. -/
theorem below_distinct (hpath : path ≠ "") : (files.below fuel location path).Pairwise
    fun a b => Path.components a.1 ≠ Path.components b.1 := by
  induction fuel generalizing location path with
  | zero => exact .nil
  | succ fuel ih =>
    rw [below_succ, List.pairwise_flatMap]
    constructor
    · -- What is inside a directory has more components.
      rintro ⟨name, content | isSealed⟩ -
      · exact List.pairwise_singleton _ _
      · have hinner := Path.join_ne hpath name
        refine List.pairwise_cons.mpr ⟨fun inside hinside heq => ?_, ih hinner⟩
        obtain ⟨names, hne, hcomponents⟩ := h.components_of_mem_below hinner hinside
        exact hne (List.self_eq_append_right.mp (heq.trans hcomponents))
    · -- What is in different places of a directory differs in the name that follows its path.
      refine (h.children_distinct location).imp_of_mem ?_
      intro a b ha hb hne x hx y hy heq
      obtain ⟨rest, hx⟩ := h.components_of_mem_subtree hpath ha hx
      obtain ⟨rest', hy⟩ := h.components_of_mem_subtree hpath hb hy
      rw [hx, hy, List.append_cancel_left_eq] at heq
      exact hne (List.cons.inj heq).1

/-- Everything below a directory is found. -/
theorem mem_contents {isSealed : Bool}
    (hlookup : files.lookup path = .ok (location, .directory isSealed)) :
    (p, entry) ∈ files.contents path ↔
      ∃ names, names ≠ [] ∧ files.entryAt (location ++ names) = some entry ∧
        p = Path.extend path names := by
  simp only [contents, hlookup]
  rw [h.mem_below]
  refine exists_congr fun names => and_congr_right fun _ => ⟨And.right, fun hthere => ⟨?_, hthere⟩⟩
  have hlength := h.length_le hthere.1
  rw [List.length_append] at hlength
  omega

/-- The contents of a directory have no two paths with the same components. -/
theorem contents_distinct (path : Path) : (files.contents path).Pairwise
    fun a b => Path.components a.1 ≠ Path.components b.1 := by
  unfold contents
  split
  · next hlookup => exact h.below_distinct (ne_of_lookup hlookup)
  · exact .nil

/-! ## Operations -/

/-- A tree stays one when something is put into a directory where no directory is. -/
theorem place {isSealed : Bool} (hname : IsName name)
    (hparent : files.entryAt parent = some (.directory isSealed))
    (hfree : ∀ isSealed, files.entryAt (parent ++ [name]) ≠ some (.directory isSealed)) :
    (files.place (parent ++ [name]) entry).IsTree := by
  have hne : parent ++ [name] ≠ [] := by simp
  constructor
  · simp only [Files.place, List.map_append, List.map_singleton]
    refine List.nodup_append.mpr ⟨h.distinct.sublist (List.filter_sublist.map _), by simp, ?_⟩
    rintro a ha b hb
    obtain ⟨e, he, rfl⟩ := List.mem_map.mp ha
    rw [List.mem_singleton.mp hb]
    simpa using (List.mem_filter.mp he).2
  · intro e he
    rcases List.mem_append.mp he with he | he
    · -- The entries that stay keep their directories, since none of these is replaced.
      obtain ⟨hlast, isSealed', hdirectory⟩ := h.inside e (List.mem_filter.mp he).1
      refine ⟨hlast, isSealed', ?_⟩
      rw [entryAt_place hne, if_neg, hdirectory]
      exact fun heq => hfree isSealed' (heq ▸ hdirectory)
    · obtain rfl := List.mem_singleton.mp he
      refine ⟨⟨name, by simp, hname⟩, isSealed, ?_⟩
      rw [List.dropLast_concat, entryAt_place hne, if_neg (by simp), hparent]

/-- A tree stays one when a location is filled that is free for it. -/
theorem place_of_vacates (hvacates : files.Vacates path location)
    (hfree : ∀ isSealed, files.entryAt location ≠ some (.directory isSealed)) :
    (files.place location entry).IsTree := by
  obtain ⟨-, names, name, at_, isSealed, hnames, -, hdirectory, hproper, rfl⟩ := hvacates
  have hmem : name ∈ Path.names path := by simp [hnames]
  exact h.place (Path.isName_of_mem_names hmem hproper.ne_here hproper.ne_above) hdirectory hfree

/-- Creating a directory leaves a tree behind, whether it fails or not. -/
theorem makeDirectory (path : Path) : (reached (Files.makeDirectory path) files).IsTree := by
  unfold reached
  rw [makeDirectory_apply]
  cases hvacancy : files.vacancy path .alreadyExists with
  | error e => exact h
  | ok vacancy =>
    obtain ⟨isSealed, location⟩ := vacancy
    cases hentry : files.entryAt location with
    | some entry => simpa [hentry] using h
    | none =>
      cases isSealed with
      | true => simpa [hentry] using h
      | false =>
        simp only [hentry]
        exact h.place_of_vacates (vacates_of_vacancy hvacancy) (by simp [hentry])

/-- Writing a text leaves a tree behind, whether it fails or not. -/
theorem writeText (path : Path) (value : String) :
    (reached (Files.writeText path value) files).IsTree := by
  unfold reached
  cases hwrite : Files.writeText path value files with
  | ok _ later =>
    obtain ⟨location, hvacates, -, hstands, rfl⟩ := exists_place_of_writeText hwrite
    refine h.place_of_vacates hvacates fun isSealed hdirectory => ?_
    -- A directory would still stand there, but a file does.
    have hstill := hstands.directory _ _ hdirectory
    rw [entryAt_place hvacates.location_ne, if_pos rfl] at hstill
    cases hstill
  | error e later =>
    have hlater : later = files := by
      rw [writeText_apply] at hwrite
      grind
    exact hlater ▸ h

end IsTree

end Files

end BrowserFlow
