import BrowserFlow.Proofs.Files.Writing
import BrowserFlow.Proofs.Report.Naming

/-!
# Kept reports

A store in a directory tells the path of every report that it is given, and the path goes on leading
to a report whatever the store is given later: creating the directory removes nothing, and a report
is written over another one only if it has the same name. `keepAll_readText` says what is found at
each path in the end: the text that was given last under that name, in the same format and in the
same second. A report is lost if another one follows it that fast (`keepAll_overwrites`).
-/

namespace BrowserFlow.Report

open Files

/-- What a store is given: a report with its format, its text and the time. -/
structure Delivery where
  /-- The document. -/
  document : ReportDocument
  /-- The format. -/
  format : ReportFormat
  /-- The document's text in the format. -/
  rendered : String
  /-- The time. -/
  at_ : Timestamp

/-- Gives one report after another to a store, and returns the paths. -/
def Store.keepAll {W : Type} (store : Store W) : List Delivery → EStateM ErrorChain W (List Path)
  | [] => return []
  | d :: later => do
    let path ← store d.document d.format d.rendered d.at_
    return path :: (← store.keepAll later)

namespace Delivery

/-- The name of the file. -/
def name (d : Delivery) : String :=
  fileName d.format d.at_

/-- Whether two deliveries are made in one format and in one second. -/
def SharesName (d d' : Delivery) : Prop :=
  d.format = d'.format ∧ d.at_.ms / 1000 = d'.at_.ms / 1000

instance (d d' : Delivery) : Decidable (d.SharesName d') := by
  unfold SharesName
  infer_instance

/-- The text that is given last in the format and in the second of a delivery. -/
def lastText (d : Delivery) (later : List Delivery) : String :=
  ((later.filter (d.SharesName ·)).map rendered).getLast?.getD d.rendered

/-- The text stays if every later one under the name is the same. -/
theorem lastText_eq_of_forall (d : Delivery) {later : List Delivery}
    (h : ∀ d' ∈ later, d.SharesName d' → d'.rendered = d.rendered) :
    d.lastText later = d.rendered := by
  unfold lastText
  cases hlast : ((later.filter (d.SharesName ·)).map rendered).getLast? with
  | none => rfl
  | some text =>
    obtain ⟨d', hd', rfl⟩ := List.mem_map.mp (List.mem_of_getLast? hlast)
    obtain ⟨hmem, hshares⟩ := List.mem_filter.mp hd'
    exact h d' hmem (of_decide_eq_true hshares)

end Delivery

variable {directory path : Path} {files later : Files}

/-! ## One report -/

/-- A sequence ends well if both its parts do. -/
theorem bind_eq_ok_iff {ε W α β : Type} {op : EStateM ε W α} {next : α → EStateM ε W β} {w w' : W}
    {b : β} : (op >>= next) w = .ok b w' ↔ ∃ a u, op w = .ok a u ∧ next a u = .ok b w' := by
  change EStateM.bind op next w = _ ↔ _
  unfold EStateM.bind
  cases op w <;> simp

/-- A part of a store ends well if the operation on files does. -/
theorem of_attempting_eq_ok {α : Type} {summary : String} {op : FileOp α} {a : α}
    (h : attempting summary op files = .ok a later) : op files = .ok a later := by
  unfold attempting at h
  cases hop : op files with
  | ok a' later' =>
    rw [hop] at h
    cases h
    rfl
  | error e later' => rw [hop] at h; cases h

/-- A report is written under its name, into a directory that is there then. -/
theorem exists_writeText_of_writeInto {format : ReportFormat} {rendered : String} {at_ : Timestamp}
    (h : writeInto directory format rendered at_ files = .ok path later) :
    path = Path.join directory (fileName format at_) ∧
      ∃ between, files.Grows between ∧ writeText path rendered between = .ok () later := by
  obtain ⟨_, between, hmake, h⟩ := bind_eq_ok_iff.mp h
  obtain ⟨_, _, hwrite, h⟩ := bind_eq_ok_iff.mp h
  obtain ⟨rfl, rfl⟩ := EStateM.Result.ok.inj h
  have hgrows := makeDirectories_adds directory files
  rw [reached_ok (of_attempting_eq_ok hmake)] at hgrows
  exact ⟨rfl, between, hgrows, of_attempting_eq_ok hwrite⟩

/-- The name of a report is neither empty nor one of the names that mean a directory. -/
theorem fileName_ne (format : ReportFormat) (at_ : Timestamp) :
    fileName format at_ ≠ "" ∧ fileName format at_ ≠ "." ∧ fileName format at_ ≠ ".." := by
  have hprefix : "relatorio-".length = 10 := by decide
  have hlength : 10 ≤ (fileName format at_).length := by
    simp [fileName, Nat.add_assoc, hprefix]
  refine ⟨?_, ?_, ?_⟩ <;> intro h <;> rw [h] at hlength <;> exact absurd hlength (by decide)

/-- A report can be read from its path. -/
theorem readText_of_writeInto {format : ReportFormat} {rendered : String} {at_ : Timestamp}
    (h : writeInto directory format rendered at_ files = .ok path later) :
    later.readText path = .ok rendered := by
  obtain ⟨-, between, -, hwrite⟩ := exists_writeText_of_writeInto h
  exact readText_of_writeText hwrite

/-- Writing a report leaves alone what can be read under the name of another one. -/
theorem readText_of_writeInto_of_ne {format format' : ReportFormat} {rendered text : String}
    {at_ at' : Timestamp} (hne : fileName format at_ ≠ fileName format' at')
    (h : writeInto directory format rendered at_ files = .ok path later)
    (hread : files.readText (Path.join directory (fileName format' at')) = .ok text) :
    later.readText (Path.join directory (fileName format' at')) = .ok text := by
  obtain ⟨rfl, between, hgrows, hwrite⟩ := exists_writeText_of_writeInto h
  have hproper := fileName_ne format' at'
  have hnames := Path.names_join directory (fileName_ne format at_).1
    (slash_not_mem_fileName format at_)
  have hnames' := Path.names_join directory hproper.1 (slash_not_mem_fileName format' at')
  refine readText_of_writeText_of_ne hproper.2.1 hproper.2.2 hnames' ?_ hwrite
    (hgrows.readText hread)
  rw [hnames, List.getLast?_concat]
  exact fun heq => hne (Option.some.inj heq)

/-! ## Many reports -/

/-- In a world of files, a store in a directory writes into it. -/
theorem directory_apply (directory : Path) (d : Delivery) (files : Files) :
    Store.directory directory d.document d.format d.rendered d.at_ files =
      writeInto directory d.format d.rendered d.at_ files := by
  simp only [Store.directory, FileOp.within, HasFiles.files, HasFiles.withFiles]
  cases writeInto directory d.format d.rendered d.at_ files <;> rfl

/-- What is read from the path of a report after some more of them. -/
theorem readText_of_keepAll {d : Delivery} {text : String} {after : List Delivery}
    {paths : List Path}
    (h : Store.keepAll (Store.directory directory) after files = .ok paths later)
    (hread : files.readText (Path.join directory (fileName d.format d.at_)) = .ok text) :
    later.readText (Path.join directory (fileName d.format d.at_)) =
      .ok (((after.filter (d.SharesName ·)).map Delivery.rendered).getLast?.getD text) := by
  induction after generalizing files paths text with
  | nil =>
    obtain ⟨-, rfl⟩ := EStateM.Result.ok.inj h
    exact hread
  | cons d' after ih =>
    obtain ⟨path, between, hfirst, h⟩ := bind_eq_ok_iff.mp h
    obtain ⟨paths', later', hrest, h⟩ := bind_eq_ok_iff.mp h
    obtain ⟨-, rfl⟩ := EStateM.Result.ok.inj h
    rw [directory_apply] at hfirst
    by_cases hshares : d.SharesName d'
    · -- The new report is written over the old one.
      have hname : fileName d.format d.at_ = fileName d'.format d'.at_ :=
        (fileName_eq_iff _ _ _ _).mpr hshares
      have hpath := (exists_writeText_of_writeInto hfirst).1
      have hnew : between.readText (Path.join directory (fileName d.format d.at_)) =
          .ok d'.rendered := by
        rw [hname, ← hpath]
        exact readText_of_writeInto hfirst
      rw [ih hrest hnew]
      simp [hshares, List.getLast?_cons]
    · have hname : fileName d'.format d'.at_ ≠ fileName d.format d.at_ :=
        fun heq => hshares ((fileName_eq_iff _ _ _ _).mp heq.symm)
      rw [ih hrest (readText_of_writeInto_of_ne hname hfirst hread)]
      simp [hshares]

/-- In the end the first path leads to the text that was given last under its name. -/
theorem readText_of_keepAll_cons {d : Delivery} {after : List Delivery} {paths : List Path}
    (h : Store.keepAll (Store.directory directory) (d :: after) files = .ok paths later) :
    ∃ path, paths[0]? = some path ∧ later.readText path = .ok (d.lastText after) := by
  obtain ⟨path, between, hfirst, h⟩ := bind_eq_ok_iff.mp h
  obtain ⟨paths', later', hrest, h⟩ := bind_eq_ok_iff.mp h
  obtain ⟨rfl, rfl⟩ := EStateM.Result.ok.inj h
  rw [directory_apply] at hfirst
  have hread := readText_of_writeInto hfirst
  obtain ⟨rfl, -⟩ := exists_writeText_of_writeInto hfirst
  exact ⟨_, rfl, readText_of_keepAll hrest hread⟩

/-- In the end every path that the store has told leads to the text that was given last in its
format and in its second: to the text that was given with it, unless another one followed. -/
theorem keepAll_readText (directory : Path) (earlier : List Delivery) (d : Delivery)
    (after : List Delivery) (files later : Files) (paths : List Path)
    (h : Store.keepAll (Store.directory directory) (earlier ++ d :: after) files =
      .ok paths later) :
    ∃ path, paths[earlier.length]? = some path ∧ later.readText path = .ok (d.lastText after) ∧
      ((∀ d' ∈ after, d.SharesName d' → d'.rendered = d.rendered) →
        later.readText path = .ok d.rendered) := by
  induction earlier generalizing files paths with
  | nil =>
    obtain ⟨path, hpath, hread⟩ := readText_of_keepAll_cons h
    refine ⟨path, hpath, hread, fun hsame => ?_⟩
    rw [hread, d.lastText_eq_of_forall hsame]
  | cons first earlier ih =>
    obtain ⟨path, between, hfirst, h⟩ := bind_eq_ok_iff.mp h
    obtain ⟨paths', later', hrest, h⟩ := bind_eq_ok_iff.mp h
    obtain ⟨rfl, rfl⟩ := EStateM.Result.ok.inj h
    exact ih between paths' hrest

/-- An empty report that is given in JSON at some time. -/
def Delivery.sample (rendered : String) (ms : Nat) : Delivery :=
  ⟨.build {} [] [] "" "" ⟨ms⟩, .json, rendered, ⟨ms⟩⟩

/-- Of three reports the second one is given last in the second of the first one. -/
theorem Delivery.lastText_sample :
    (sample "{}" 0).lastText [sample "[]" 500, sample "{}" 1000] = "[]" := by decide +kernel

/-- No files at all. -/
def noFiles : Files := ⟨[], []⟩

/-- Three reports are taken by a store whose directory is missing. -/
theorem exists_keepAll_samples : ∃ paths later, Store.keepAll (Store.directory "relatorios")
    [.sample "{}" 0, .sample "[]" 500, .sample "{}" 1000] noFiles = .ok paths later := by
  have hok : (match Store.keepAll (Store.directory "relatorios")
      [.sample "{}" 0, .sample "[]" 500, .sample "{}" 1000] noFiles with
    | .ok _ _ => true
    | .error _ _ => false) = true := by decide +kernel
  split at hok
  · next paths later h => exact ⟨paths, later, h⟩
  · cases hok

/-- The text of the first report is written over, since the second one is given in the same second;
the third one comes later and has a file of its own. -/
theorem keepAll_readText_samples : ∃ paths later path,
    Store.keepAll (Store.directory "relatorios")
      [.sample "{}" 0, .sample "[]" 500, .sample "{}" 1000] noFiles = .ok paths later ∧
    paths[0]? = some path ∧ later.readText path = .ok "[]" := by
  obtain ⟨paths, later, h⟩ := exists_keepAll_samples
  obtain ⟨path, hpath, hread, -⟩ := keepAll_readText "relatorios" [] (.sample "{}" 0)
    [.sample "[]" 500, .sample "{}" 1000] noFiles later paths h
  exact ⟨paths, later, path, h, hpath, Delivery.lastText_sample ▸ hread⟩

/-- Not every report is kept that is given to a store, also if the clock never goes back. -/
theorem keepAll_overwrites :
    ¬ ∀ (directory : Path) (deliveries : List Delivery) (files later : Files) (paths : List Path),
      deliveries.Pairwise (fun d d' => d.at_.ms ≤ d'.at_.ms) →
      Store.keepAll (Store.directory directory) deliveries files = .ok paths later →
      ∀ (i : Nat) (d : Delivery) (path : Path), deliveries[i]? = some d → paths[i]? = some path →
        later.readText path = .ok d.rendered := by
  intro h
  obtain ⟨paths, later, hkept⟩ := exists_keepAll_samples
  obtain ⟨path, hpath, hlost⟩ := readText_of_keepAll_cons hkept
  have hread := h "relatorios" _ noFiles later paths (by decide) hkept 0 _ path rfl hpath
  rw [hlost, Delivery.lastText_sample] at hread
  exact absurd (Except.ok.inj hread) (by decide)

end BrowserFlow.Report
