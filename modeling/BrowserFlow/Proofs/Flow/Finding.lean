import BrowserFlow.FlowFiles
import BrowserFlow.Proofs.Files.Tree

/-!
# Which flow files are found

A name is that of a flow file if it is one of the extensions of flow files behind a point that is
not its first character (`IsFlowName`). A chain of names leads from a directory to a flow file if a
file is at its end, and has such a name (`LeadsToFlow`); the directories that it leads through may
have any names, those of flow files included.

`Lists` says which paths a listing has, and in which order. It leaves no choice (`Lists.unique`).
In a tree the contents of a directory come with all that is below it and with nothing twice
(`Files.IsTree.mem_contents`, `Files.IsTree.contents_distinct`), in whatever order. Sorting the flow
files among them puts them into the order of their components (`ascending_sorted`); so what is found
is such a listing, and it cannot depend on anything but the tree (`find_lists`).
-/

namespace BrowserFlow

/-! ## Extensions -/

namespace Path

variable {path : Path} {name : String}

/-- The extension stands behind the last point of the last name, if something stands before the
point. -/
theorem extension?_of_point (hlast : (components path).getLast? = some name) (hname : name ≠ "..")
    {stem extension : List Char} (hpoint : name.toList = stem ++ '.' :: extension)
    (hextension : '.' ∉ extension) :
    extension? path = if stem = [] then none else some (String.ofList extension) := by
  have hparts : (Text.partsAt '.' name).reverse =
      String.ofList extension :: ((stem.splitOn '.').map String.ofList).reverse := by
    rw [Text.partsAt, hpoint, List.splitOn_append_cons_self, List.splitOn_eq_singleton hextension]
    simp
  -- Nothing is in front of the point exactly if the parts in front of it are one empty part.
  have hstem : ((stem.splitOn '.').map String.ofList).reverse = [""] ↔ stem = [] := by
    constructor
    · intro h
      have hmap : (stem.splitOn '.').map String.ofList = [""] := by
        rw [← List.reverse_reverse (List.map _ _), h, List.reverse_singleton]
      obtain ⟨part, hsplit, hpart⟩ := List.map_eq_singleton_iff.mp hmap
      have hnil : part = [] := by simpa using hpart
      calc stem = ['.'].intercalate (stem.splitOn '.') := (List.intercalate_splitOn '.').symm
        _ = ['.'].intercalate [[]] := by rw [hsplit, hnil]
        _ = [] := rfl
    · rintro rfl
      rfl
  simp only [extension?, hlast, hparts]
  by_cases hnil : stem = []
  · simp [hnil]
  · have hne := mt hstem.mp hnil
    simp [hname, hnil, hne]

/-- Without a point there is no extension. -/
theorem extension?_of_not_mem (hlast : (components path).getLast? = some name)
    (hpoint : '.' ∉ name.toList) : extension? path = none := by
  simp [extension?, hlast, Text.partsAt, List.splitOn_eq_singleton hpoint]

end Path

namespace FlowFiles

variable {files files' : Files} {location : Location} {path p : Path} {name : String}
  {names : List String} {found found' : List Path}

/-- The name of a flow file: something, a point, and one of the extensions. -/
def IsFlowName (name : String) : Prop :=
  ∃ stem, stem ≠ "" ∧ ∃ extension ∈ extensions, name = stem ++ "." ++ extension

/-- There is no point in the extensions. -/
theorem point_not_mem {extension : String} (h : extension ∈ extensions) :
    '.' ∉ extension.toList := by
  revert extension
  decide

/-- A path is that of a flow file if its last name is. -/
theorem isFlowFile_iff (hlast : (Path.components path).getLast? = some name) (hname : name ≠ "..") :
    isFlowFile path = true ↔ IsFlowName name := by
  constructor
  · intro h
    by_cases hpoint : '.' ∈ name.toList
    · -- Cut the name at its last point.
      obtain ⟨back, front, hreverse, hback⟩ :=
        List.eq_append_cons_of_mem (List.mem_reverse.mpr hpoint)
      have hsplit : name.toList = front.reverse ++ '.' :: back.reverse := by
        rw [← List.reverse_reverse name.toList, hreverse]
        simp
      have hextension := Path.extension?_of_point hlast hname hsplit (by simpa using hback)
      unfold isFlowFile at h
      rw [hextension] at h
      by_cases hfront : front.reverse = []
      · simp [hfront] at h
      · simp only [hfront, if_false, List.contains_eq_mem, decide_eq_true_eq] at h
        refine ⟨String.ofList front.reverse, by simpa using hfront, _, h, ?_⟩
        rw [← String.toList_inj]
        simpa using hsplit
    · simp [isFlowFile, Path.extension?_of_not_mem hlast hpoint] at h
  · rintro ⟨stem, hstem, extension, hextension, rfl⟩
    have hpoint : (stem ++ "." ++ extension).toList = stem.toList ++ '.' :: extension.toList := by
      simp
    rw [isFlowFile, Path.extension?_of_point hlast hname hpoint (point_not_mem hextension)]
    simpa [hstem] using hextension

/-! ## Listings -/

/-- A chain of names leads from a directory to a flow file. -/
def LeadsToFlow (files : Files) (location : Location) (names : List String) : Prop :=
  ∃ content, files.entryAt (location ++ names) = some (.file content) ∧
    ∃ name ∈ names.getLast?, IsFlowName name

/-- The flow files below the directory at a location, under the paths that begin with its path. -/
structure Lists (files : Files) (location : Location) (path : Path) (found : List Path) : Prop where
  /-- Every chain that leads to a flow file has its path in the listing, which has no others. -/
  mem_iff (p : Path) : p ∈ found ↔ ∃ names, LeadsToFlow files location names ∧
    p = Path.extend path names
  /-- The components of such a path are those of the directory and the names of the chain. -/
  components (names : List String) : LeadsToFlow files location names →
    Path.components (Path.extend path names) = Path.components path ++ names
  /-- The paths ascend by their components; so no file is in the listing twice. -/
  ascending : found.Pairwise fun p q => Path.components p < Path.components q

/-- A listing depends on what is at the locations only. -/
theorem Lists.congr (h : Lists files' location path found)
    (hentry : files'.entryAt = files.entryAt) : Lists files location path found := by
  have hleads : LeadsToFlow files' location = LeadsToFlow files location := by
    funext names
    rw [LeadsToFlow, LeadsToFlow, hentry]
  exact ⟨hleads ▸ h.mem_iff, hleads ▸ h.components, h.ascending⟩

/-- There is only one listing. -/
theorem Lists.unique (h : Lists files location path found) (h' : Lists files location path found') :
    found = found' := by
  let before (p q : Path) : Prop := Path.components p < Path.components q
  have : Std.Irrefl before := ⟨fun p => lt_irrefl _⟩
  have : Std.Antisymm before := ⟨fun p q hpq hqp => absurd hpq hqp.asymm⟩
  refine List.Pairwise.eq_of_mem_iff (r := before) h.ascending h'.ascending fun p => ?_
  rw [h.mem_iff, h'.mem_iff]

theorem flowFile?_eq_some_iff {found : Path × Entry} : flowFile? found = some p ↔
    found.1 = p ∧ (∃ content, found.2 = .file content) ∧ isFlowFile p = true := by
  obtain ⟨path, content | isSealed⟩ := found
  · by_cases hflow : isFlowFile path = true
    · simp only [flowFile?, hflow, if_true, Option.some.injEq]
      exact ⟨fun heq => ⟨heq, ⟨content, rfl⟩, heq ▸ hflow⟩, And.left⟩
    · simp only [flowFile?, hflow]
      refine ⟨fun hnone => by simp at hnone, ?_⟩
      rintro ⟨heq, -, hflow'⟩
      exact absurd (heq ▸ hflow') hflow
  · simp [flowFile?]

/-- A file stands for itself. -/
theorem find_of_file {content : Content}
    (hlookup : files.lookup path = .ok (location, .file content)) :
    find files path = .ok [path] := by
  rw [find, Files.isFile, hlookup]
  rfl

/-- What is neither a file nor a directory is not found. -/
theorem find_of_error {e : FileError} (hlookup : files.lookup path = .error e) :
    find files path = .error (.ofText ("Path not found: " ++ path)) := by
  rw [find, Files.isFile, Files.isDirectory, hlookup]
  rfl

/-- The paths that are taken from a directory go on from its path by names, and have different
components. -/
theorem distinct_taken (h : files.IsTree) {isSealed : Bool}
    (hlookup : files.lookup path = .ok (location, .directory isSealed)) :
    (∀ p ∈ (files.contents path).filterMap flowFile?,
      ∃ names, (∀ name ∈ names, IsName name) ∧ p = Path.extend path names) ∧
    ((files.contents path).filterMap flowFile?).Pairwise
      fun p q => Path.components p ≠ Path.components q := by
  constructor
  · intro p hp
    obtain ⟨⟨q, entry⟩, hmem, htaken⟩ := List.mem_filterMap.mp hp
    obtain ⟨rfl, -⟩ := flowFile?_eq_some_iff.mp htaken
    obtain ⟨names, hne, hentry, rfl⟩ := (h.mem_contents hlookup).mp hmem
    exact ⟨names, (h.entryAt_append hentry hne).1, rfl⟩
  · rw [List.pairwise_filterMap]
    refine (h.contents_distinct path).imp fun hne p hp q hq => ?_
    obtain ⟨rfl, -⟩ := flowFile?_eq_some_iff.mp hp
    obtain ⟨rfl, -⟩ := flowFile?_eq_some_iff.mp hq
    exact hne

/-- Sorted, such paths ascend by their components. -/
theorem ascending_sorted {taken : List Path} (hpath : path ≠ "")
    (hbelow : ∀ p ∈ taken, ∃ names, (∀ name ∈ names, IsName name) ∧ p = Path.extend path names)
    (hdistinct : taken.Pairwise fun p q => Path.components p ≠ Path.components q) :
    (taken.mergeSort Path.le).Pairwise fun p q => Path.components p < Path.components q := by
  have hsorted : (taken.mergeSort Path.le).Pairwise fun p q => Path.le p q = true := by
    apply List.pairwise_mergeSort
    · intro first second third hle hle'
      exact Path.le_trans hle hle'
    · exact Path.le_or_le
  have hdistinct : (taken.mergeSort Path.le).Pairwise
      fun p q => Path.components p ≠ Path.components q :=
    ((List.mergeSort_perm _ _).pairwise_iff fun hne => hne.symm).mpr hdistinct
  refine (hsorted.and hdistinct).imp_of_mem ?_
  rintro p q hp hq ⟨hle, hne⟩
  obtain ⟨names, hnames, rfl⟩ := hbelow p (List.mem_mergeSort.mp hp)
  obtain ⟨others, hothers, rfl⟩ := hbelow q (List.mem_mergeSort.mp hq)
  exact Path.lt_of_le_extend hpath hnames hothers hle hne

/-- What is found in a directory is the listing. -/
theorem exists_find_of_directory (h : files.IsTree) {isSealed : Bool}
    (hlookup : files.lookup path = .ok (location, .directory isSealed)) :
    ∃ found, find files path = .ok found ∧ Lists files location path found := by
  have hfind : find files path =
      .ok (((files.contents path).filterMap flowFile?).mergeSort Path.le) := by
    simp [find, Files.isFile, Files.isDirectory, hlookup]
  refine ⟨_, hfind, ?_⟩
  have hcomponents {names : List String} {entry : Entry} (hne : names ≠ [])
      (hentry : files.entryAt (location ++ names) = some entry) :
      Path.components (Path.extend path names) = Path.components path ++ names :=
    Path.components_extend (Files.ne_of_lookup hlookup) (h.entryAt_append hentry hne).1
  -- The last component is the name at the end of the chain.
  have hflow {names : List String} {name : String} {entry : Entry}
      (hlast : name ∈ names.getLast?) (hentry : files.entryAt (location ++ names) = some entry) :
      isFlowFile (Path.extend path names) = true ↔ IsFlowName name := by
    have hmem := List.mem_of_getLast? hlast
    have hne := List.ne_nil_of_mem hmem
    refine isFlowFile_iff ?_ ((h.entryAt_append hentry hne).1 name hmem).ne_above
    rw [hcomponents hne hentry, List.getLast?_append_of_ne_nil _ hne, hlast]
  obtain ⟨hbelow, hdistinct⟩ := distinct_taken h hlookup
  refine ⟨fun p => ?_, ?_, ascending_sorted (Files.ne_of_lookup hlookup) hbelow hdistinct⟩
  · rw [List.mem_mergeSort, List.mem_filterMap]
    constructor
    · rintro ⟨⟨q, entry⟩, hmem, htaken⟩
      obtain ⟨rfl, ⟨content, rfl⟩, hfile⟩ := flowFile?_eq_some_iff.mp htaken
      obtain ⟨names, hne, hentry, rfl⟩ := (h.mem_contents hlookup).mp hmem
      have hlast := List.getLast?_eq_some_getLast hne
      exact ⟨names, ⟨content, hentry, _, hlast, (hflow hlast hentry).mp hfile⟩, rfl⟩
    · rintro ⟨names, ⟨content, hentry, name, hlast, hname⟩, rfl⟩
      have hne := List.ne_nil_of_mem (List.mem_of_getLast? hlast)
      exact ⟨_, (h.mem_contents hlookup).mpr ⟨names, hne, hentry, rfl⟩,
        flowFile?_eq_some_iff.mpr ⟨rfl, ⟨content, rfl⟩, (hflow hlast hentry).mpr hname⟩⟩
  · rintro names ⟨content, hentry, name, hlast, -⟩
    exact hcomponents (List.ne_nil_of_mem (List.mem_of_getLast? hlast)) hentry

/-- What is found does not depend on the order of the entries. -/
theorem find_perm (h : files.IsTree) (hperm : files'.entries.Perm files.entries)
    (hworking : files'.working = files.working) (path : Path) :
    find files' path = find files path := by
  have hlookup' := Files.lookup_perm h.distinct hperm hworking path
  cases hlookup : files.lookup path with
  | error e => rw [find_of_error hlookup, find_of_error (hlookup'.trans hlookup)]
  | ok place =>
    obtain ⟨location, content | isSealed⟩ := place
    · rw [find_of_file hlookup, find_of_file (hlookup'.trans hlookup)]
    · obtain ⟨found, hfind, hlists⟩ := exists_find_of_directory h hlookup
      obtain ⟨found', hfind', hlists'⟩ :=
        exists_find_of_directory (h.perm hperm) (hlookup'.trans hlookup)
      rw [hfind, hfind', (hlists'.congr (Files.entryAt_perm h.distinct hperm)).unique hlists]

/-- What a path stands for: a file for itself, and a directory for the flow files below it. -/
theorem find_lists (h : files.IsTree) (path : Path) :
    (∀ location content, files.lookup path = .ok (location, .file content) →
      find files path = .ok [path]) ∧
    (∀ location isSealed, files.lookup path = .ok (location, .directory isSealed) →
      ∃ found, find files path = .ok found ∧ Lists files location path found) ∧
    (∀ e, files.lookup path = .error e →
      find files path = .error (.ofText ("Path not found: " ++ path))) ∧
    (∀ files' : Files, files'.entries.Perm files.entries → files'.working = files.working →
      find files' path = find files path) :=
  ⟨fun _ _ => find_of_file, fun _ _ => exists_find_of_directory h, fun _ => find_of_error,
    fun _ hperm hworking => find_perm h hperm hworking path⟩

/-- Flow files at two levels, other files, and directories with the names of flow files. -/
def suite : Files where
  entries := [
    (["flows"], .directory false),
    (["flows", "a.txt"], .file (.text "1. Volte")),
    (["flows", "a"], .directory false),
    (["flows", "a", "z.md"], .directory false),
    (["flows", "a", "z.md", "..flow"], .file (.text "1. Volte")),
    (["flows", "a", "config.yaml"], .file (.text "")),
    (["flows", ".md"], .file (.text "")),
    (["flows", "B.MD"], .file (.text "")),
    (["flows", "b.flow"], .file (.text "1. Volte"))]
  working := []

/-- The flow files of a tree are listed. -/
theorem find_suite : suite.IsTree ∧
    suite.lookup "flows" = .ok (["flows"], .directory false) ∧
    ∃ found, find suite "flows" = .ok found ∧ Lists suite ["flows"] "flows" found := by
  have htree : suite.IsTree := by decide
  have hlookup : suite.lookup "flows" = .ok (["flows"], .directory false) := by decide +kernel
  exact ⟨htree, hlookup, (find_lists htree "flows").2.1 ["flows"] false hlookup⟩

/-- What is in a directory comes before a file whose name goes on from that of the directory, though
it is behind it in the order of the characters. -/
example : Path.components "flows/a/z.md" < Path.components "flows/a.txt" ∧
    "flows/a.txt" < "flows/a/z.md" := by decide +kernel

end FlowFiles

end BrowserFlow
