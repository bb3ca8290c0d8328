import BrowserFlow.Config
import Mathlib.Data.List.Basic
import Mathlib.Data.List.Forall2

/-!
# What the entries of a configuration set

A text that is a mapping gives entries: names, and the nodes that are to be the values of the
options with these names (`entries?`). A configuration fits the entries if every option that an
entry names has the value of the entry, every other one its standard value, and no two entries name
the same option (`Fits`). That does not depend on the order of the entries (`fits_perm`), and
entries that name no option do not matter (`fits_filter_iff`).

The entries are read one after the other, and what has been set is remembered. By induction over
them, with any options set before, the reading comes to a configuration exactly if that one fits
(`setEntries_eq_ok_iff`): the first entry sets its option, and no later one may name it again. So
what a text holds is the configuration that fits its entries (`read_options`). Under another name
for the same option an entry is read in the same way (`setEntries_renamed`); only what is said about
a wrong value begins with the name that was used (`ConfigError.unplaced`).
-/

namespace BrowserFlow

open Yaml

variable {config config' base : RunConfig} {s s' : Setting} {node : Node} {name name' : String}
  {entries entries' rest : List (String × Node)} {seen : List Setting}

/-! ## Names -/

namespace Setting

/-- A name is one of those of an option. -/
def IsNamed (s : Setting) (name : String) : Prop :=
  name = s.name ∨ s.otherName? = some name

/-- The options that have two names. -/
def spellings : List (String × String) :=
  [("tempoEspera", "stepDelayMs"), ("pararNaFalha", "stopOnFailure"), ("manterAberto", "keepOpen")]

/-- A name is the same as another one, or the other name of the same option. -/
def IsRenamed (name name' : String) : Prop :=
  name = name' ∨ (name, name') ∈ spellings ∨ (name', name) ∈ spellings

theorem ofName?_eq_some_iff : ofName? name = some s ↔ s.IsNamed name := by
  constructor
  · intro h
    have hnamed := List.find?_some h
    simp only [Bool.or_eq_true, beq_iff_eq] at hnamed
    exact hnamed.imp_left Eq.symm
  · rintro (rfl | hother)
    · cases s <;> decide
    · cases s <;> cases hother <;> decide

/-- A name that is found for no option is none of theirs. -/
theorem not_isNamed_of_ofName? (h : ofName? name = none) (s : Setting) : ¬ s.IsNamed name := by
  rw [← ofName?_eq_some_iff, h]
  simp

/-- No two options have a name in common. -/
theorem IsNamed.unique (h : s.IsNamed name) (h' : s'.IsNamed name) : s = s' := by
  rw [← ofName?_eq_some_iff] at h h'
  exact Option.some.inj (h.symm.trans h')

/-- The two names of an option are found for the same one. -/
theorem IsRenamed.ofName?_eq (h : IsRenamed name name') : ofName? name = ofName? name' := by
  have hspellings : ∀ pair ∈ spellings, ofName? pair.1 = ofName? pair.2 := by decide
  rcases h with rfl | h | h
  · rfl
  · exact hspellings _ h
  · exact (hspellings _ h).symm

/-! ## Values -/

/-- The values that an option can have. -/
def Value : Setting → Type
  | captureScreenshots | captureLogs | stopOnFailure | keepOpen => Bool
  | reportFormat => ReportFormat
  | reportDir => Path
  | stepDelayMs => Option UInt64

/-- The value that a node holds for an option; `place` is where it stands. -/
def decode (place : String) : (s : Setting) → Node → Except ConfigError s.Value
  | captureScreenshots, node | captureLogs, node | stopOnFailure, node | keepOpen, node =>
    (RunConfig.truth node).mapError (.invalid (some place))
  | reportFormat, node => RunConfig.format place node
  | reportDir, node => (RunConfig.path node).mapError (.invalid (some place))
  | stepDelayMs, node => do
    if ← (RunConfig.isAbsent node).mapError (.invalid none) then return none
    else return some (← (RunConfig.number node).mapError (.invalid (some place)))

/-- The value that a node holds for an option, if it holds one. -/
def decode? (s : Setting) (node : Node) : Option s.Value :=
  (s.decode "" node).toOption

end Setting

/-- An error without the place that is named in front of it. -/
def ConfigError.unplaced : ConfigError → ConfigError
  | .invalid _ e => .invalid none e
  | .malformed e => .malformed e

/-- Where a node stands matters only for what is said about it. -/
theorem Setting.decode_unplaced (place : String) (s : Setting) (node : Node) :
    (s.decode place node).mapError ConfigError.unplaced =
      (s.decode "" node).mapError ConfigError.unplaced := by
  -- A place occurs in an error only.
  have hplaced {α : Type} (result : Except DecodeError α) :
      (result.mapError (ConfigError.invalid (some place))).mapError ConfigError.unplaced =
        (result.mapError (ConfigError.invalid (some ""))).mapError ConfigError.unplaced := by
    cases result <;> rfl
  cases s with
  | reportFormat =>
    -- A tag may name the format, in which case the node has no content.
    cases htag : RunConfig.ownTag? (RunConfig.tagOf node) with
    | none =>
      simp only [decode, RunConfig.format, htag]
      cases node <;> exact hplaced _
    | some name =>
      simp only [decode, RunConfig.format, htag]
      cases RunConfig.formatOf name
      · rfl
      · cases RunConfig.noContent node <;> rfl
  | stepDelayMs =>
    simp only [decode]
    rcases RunConfig.isAbsent node with e | ⟨_ | _⟩
    · rfl
    · cases RunConfig.number node <;> rfl
    · rfl
  | _ => exact hplaced _

namespace RunConfig

/-- The value of an option. -/
def value (config : RunConfig) : (s : Setting) → s.Value
  | .captureScreenshots => config.captureScreenshots
  | .captureLogs => config.captureLogs
  | .reportFormat => config.reportFormat
  | .reportDir => config.reportDir
  | .stepDelayMs => config.stepDelayMs
  | .stopOnFailure => config.stopOnFailure
  | .keepOpen => config.keepOpen

/-- The configuration with another value of an option. -/
def withValue (config : RunConfig) : (s : Setting) → s.Value → RunConfig
  | .captureScreenshots, v => { config with captureScreenshots := v }
  | .captureLogs, v => { config with captureLogs := v }
  | .reportFormat, v => { config with reportFormat := v }
  | .reportDir, v => { config with reportDir := v }
  | .stepDelayMs, v => { config with stepDelayMs := v }
  | .stopOnFailure, v => { config with stopOnFailure := v }
  | .keepOpen, v => { config with keepOpen := v }

/-- A configuration is the values of its options. -/
theorem ext_value (h : ∀ s, config.value s = config'.value s) : config = config' := by
  obtain ⟨_, _, _, _, _, _, _⟩ := config
  obtain ⟨_, _, _, _, _, _, _⟩ := config'
  rw [mk.injEq]
  exact ⟨h .captureScreenshots, h .captureLogs, h .reportFormat, h .reportDir, h .stepDelayMs,
    h .stopOnFailure, h .keepOpen⟩

@[simp]
theorem value_withValue_self (config : RunConfig) (v : s.Value) :
    (config.withValue s v).value s = v := by
  cases s <;> rfl

/-- The other options stay as they are. -/
theorem value_withValue_of_ne (config : RunConfig) (v : s.Value) (h : s' ≠ s) :
    (config.withValue s v).value s' = config.value s' := by
  cases s <;> cases s' <;> first | rfl | exact absurd rfl h

/-- Setting an option takes the value that the node holds. -/
theorem set_eq (config : RunConfig) (s : Setting) (place : String) (node : Node) :
    config.set s place node = (s.decode place node).map (config.withValue s) := by
  have hreturn {α : Type} (result : Except ConfigError α) (f : α → RunConfig) :
      (do return f (← result)) = result.map f := by
    cases result <;> rfl
  cases s with
  | stepDelayMs =>
    simp only [set, Setting.decode]
    rcases isAbsent node with e | ⟨_ | _⟩
    · rfl
    · cases number node <;> rfl
    · rfl
  | _ => exact hreturn _ _

/-! ## Entries -/

/-- The entry that a key and its value are: the name that the key is, and the node that the value
stands for. -/
def entryOf? (document : Document) : Node × Node → Option (String × Node)
  | (_, .cut) => none
  | (key, value) => (keyOf document key).toOption.map fun found => (found.1, resolve document value)

theorem entryOf?_eq_some_iff {document : Document} {key held : Node} :
    entryOf? document (key, held) = some (name, node) ↔
      held ≠ .cut ∧ (∃ place, keyOf document key = .ok (name, place)) ∧
        node = resolve document held := by
  cases hkey : keyOf document key with
  | error e => cases held <;> simp [entryOf?, hkey, Except.toOption]
  | ok found => cases held <;> simp [entryOf?, hkey, Except.toOption, Prod.ext_iff, eq_comm]

/-- The entries of the mapping that a document is. -/
def entriesOf? (document : Document) : Option (List (String × Node)) :=
  match document.root, document.fault with
  | some (.mapping _ members), none => members.mapM (entryOf? document)
  | _, _ => none

/-- The entries of the mapping that a text is. -/
def entries? (text : String) : Option (List (String × Node)) :=
  if isBlankText text then none else entriesOf? (Document.read text)

/-- The configuration with the options of entries set; `seen` have been set before. -/
def setEntries (config : RunConfig) (seen : List Setting) :
    List (String × Node) → Except ConfigError RunConfig
  | [] => .ok config
  | (name, node) :: rest =>
    match Setting.ofName? name with
    | none => setEntries config seen rest
    | some s =>
      if seen.contains s then .error (.invalid none (.duplicateField s.name))
      else do
        let v ← (s.decode "" node).mapError ConfigError.unplaced
        setEntries (config.withValue s v) (s :: seen) rest

/-- One member of a mapping is read, then the others. -/
theorem setAll_cons {document : Document} {key held : Node} {place : String}
    {members : List (Node × Node)} (hcut : held ≠ .cut)
    (hkey : keyOf document key = .ok (name, place)) :
    setAll document config seen ((key, held) :: members) =
      match Setting.ofName? name with
      | none => setAll document config seen members
      | some s =>
        if seen.contains s then .error (.invalid none (.duplicateField s.name))
        else s.decode place (resolve document held) >>= fun v =>
          setAll document (config.withValue s v) (s :: seen) members := by
  rw [setAll, hkey]
  dsimp only [bind, Except.bind]
  cases Setting.ofName? name with
  | none => rfl
  | some s =>
    by_cases hseen : seen.contains s = true
    · simp only [hseen, if_true]
      rfl
    · simp only [hseen, set_eq]
      cases s.decode place (resolve document held) <;> rfl

/-- The members of a mapping are read as its entries are, but for the places. -/
theorem setAll_unplaced {document : Document} {members : List (Node × Node)}
    (h : members.mapM (entryOf? document) = some entries) (config : RunConfig)
    (seen : List Setting) :
    (setAll document config seen members).mapError ConfigError.unplaced =
      setEntries config seen entries := by
  -- The induction is on the members; each is an entry, because none has been cut off.
  induction members generalizing config seen entries with
  | nil =>
    obtain rfl : [] = entries := by simpa using h
    rfl
  | cons member members ih =>
    obtain ⟨key, held⟩ := member
    simp only [List.mapM_cons, Option.pure_def, Option.bind_eq_bind, Option.bind_eq_some_iff,
      Option.some.injEq] at h
    obtain ⟨⟨name, node⟩, hentry, entries, hentries, rfl⟩ := h
    obtain ⟨hcut, ⟨place, hkey⟩, rfl⟩ := entryOf?_eq_some_iff.mp hentry
    rw [setAll_cons hcut hkey, setEntries]
    cases Setting.ofName? name with
    | none => exact ih hentries config seen
    | some s =>
      dsimp only
      split
      · rfl
      · rw [← Setting.decode_unplaced place]
        cases s.decode place (resolve document held) with
        | error e => rfl
        | ok v => exact ih hentries (config.withValue s v) (s :: seen)

/-- The configuration that a text holds is read from its entries. -/
theorem read_unplaced {text : String} (h : entries? text = some entries) :
    (read text).mapError ConfigError.unplaced = setEntries {} [] entries := by
  unfold entries? at h
  rw [read]
  split at h
  · cases h
  next hblank =>
  rw [if_neg hblank]
  unfold entriesOf? at h
  split at h
  · next tag members hroot hfault =>
    have hread : ofDocument (Document.read text) = setAll (Document.read text) {} [] members := by
      simp only [ofDocument, hroot, hfault, ofNode]
      exact bind_pure _
    rw [hread, setAll_unplaced h]
  · cases h

/-! ## What fits -/

/-- A configuration fits entries, where `base` is what holds without them. -/
structure Fits (base : RunConfig) (entries : List (String × Node)) (config : RunConfig) : Prop where
  /-- No two entries name the same option. -/
  once : entries.Pairwise fun a b => ∀ s : Setting, s.IsNamed a.1 → ¬ s.IsNamed b.1
  /-- An option that an entry names has the value of the entry. -/
  given : ∀ e ∈ entries, ∀ s : Setting, s.IsNamed e.1 → s.decode? e.2 = some (config.value s)
  /-- The other options are as they were. -/
  absent : ∀ s : Setting, (∀ e ∈ entries, ¬ s.IsNamed e.1) → config.value s = base.value s

/-- Nothing is changed without entries. -/
theorem fits_nil_iff : Fits base [] config ↔ config = base := by
  constructor
  · intro h
    exact ext_value fun s => h.absent s (by simp)
  · rintro rfl
    exact ⟨.nil, by simp, fun _ _ => rfl⟩

/-- An entry whose name means nothing does not matter. -/
theorem fits_cons_of_none (h : Setting.ofName? name = none) :
    Fits base ((name, node) :: rest) config ↔ Fits base rest config := by
  have hunknown := Setting.not_isNamed_of_ofName? h
  constructor
  · intro hfits
    refine ⟨(List.pairwise_cons.mp hfits.once).2,
      fun e he => hfits.given e (List.mem_cons_of_mem _ he), fun s hs => hfits.absent s ?_⟩
    exact List.forall_mem_cons.mpr ⟨hunknown s, hs⟩
  · intro hfits
    refine ⟨List.pairwise_cons.mpr ⟨fun b _ s hs => absurd hs (hunknown s), hfits.once⟩,
      List.forall_mem_cons.mpr ⟨fun s hs => absurd hs (hunknown s), hfits.given⟩,
      fun s hs => hfits.absent s (List.forall_mem_cons.mp hs).2⟩

/-- An entry that names an option sets it, and no other entry may name it. -/
theorem fits_cons_of_some {v : s.Value} (h : Setting.ofName? name = some s)
    (hv : s.decode? node = some v) : Fits base ((name, node) :: rest) config ↔
      (∀ e ∈ rest, ¬ s.IsNamed e.1) ∧ Fits (base.withValue s v) rest config := by
  have hnamed := Setting.ofName?_eq_some_iff.mp h
  constructor
  · intro hfits
    obtain ⟨hfirst, honce⟩ := List.pairwise_cons.mp hfits.once
    have hv' := hfits.given _ List.mem_cons_self s hnamed
    refine ⟨fun e he => hfirst e he s hnamed, honce,
      fun e he => hfits.given e (List.mem_cons_of_mem _ he), fun s' hs' => ?_⟩
    -- No other entry names the option of the first one, and so its value stays.
    by_cases hs : s' = s
    · subst hs
      rw [value_withValue_self]
      exact Option.some.inj (hv'.symm.trans hv)
    · rw [value_withValue_of_ne _ _ hs]
      exact hfits.absent s' (List.forall_mem_cons.mpr ⟨fun hs'' => hs (hs''.unique hnamed), hs'⟩)
  · rintro ⟨hrest, hfits⟩
    refine ⟨List.pairwise_cons.mpr ⟨fun e he s' hs' => ?_, hfits.once⟩,
      List.forall_mem_cons.mpr ⟨fun s' hs' => ?_, hfits.given⟩, fun s' hs' => ?_⟩
    · obtain rfl := hs'.unique hnamed
      exact hrest e he
    · obtain rfl := hs'.unique hnamed
      rw [hfits.absent s' hrest, value_withValue_self]
      exact hv
    · obtain ⟨hfirst, hs'⟩ := List.forall_mem_cons.mp hs'
      have hne : s' ≠ s := by
        rintro rfl
        exact hfirst hnamed
      rw [hfits.absent s' hs', value_withValue_of_ne _ _ hne]

/-- With an entry for an option, reading comes to a configuration if the option has not been set
before, its value can be read, and the other entries come to it then. -/
theorem setEntries_cons_eq_ok_iff (hname : Setting.ofName? name = some s) :
    setEntries base seen ((name, node) :: rest) = .ok config ↔ s ∉ seen ∧ ∃ v,
      s.decode? node = some v ∧ setEntries (base.withValue s v) (s :: seen) rest = .ok config := by
  rw [setEntries, hname]
  by_cases hseen : s ∈ seen
  · simp [hseen]
  · simp only [List.contains_eq_mem, hseen, decide_false, Bool.false_eq_true, if_false,
      not_false_eq_true, true_and, Setting.decode?]
    cases s.decode "" node with
    | error e => simp [Except.mapError, Except.toOption, bind, Except.bind]
    | ok v => simp [Except.mapError, Except.toOption, bind, Except.bind]

/-- Reading entries comes to a configuration if it fits them, and they name none of the options that
have been set before. -/
theorem setEntries_eq_ok_iff : setEntries base seen entries = .ok config ↔
    (∀ e ∈ entries, ∀ s ∈ seen, ¬ s.IsNamed e.1) ∧ Fits base entries config := by
  induction entries generalizing base seen with
  | nil =>
    rw [fits_nil_iff, setEntries, Except.ok.injEq]
    simp [eq_comm]
  | cons e rest ih =>
    obtain ⟨name, node⟩ := e
    rw [List.forall_mem_cons]
    cases hname : Setting.ofName? name with
    | none =>
      have hunknown := Setting.not_isNamed_of_ofName? hname
      rw [fits_cons_of_none hname, setEntries, hname, ih]
      simp [hunknown]
    | some s =>
      have hnamed := Setting.ofName?_eq_some_iff.mp hname
      have hfresh : (∀ s' ∈ seen, ¬ s'.IsNamed name) ↔ s ∉ seen :=
        ⟨fun h hs => h s hs hnamed, fun h s' hs' hnamed' => h (hnamed'.unique hnamed ▸ hs')⟩
      have hseen : (∀ e ∈ rest, ∀ s' ∈ s :: seen, ¬ s'.IsNamed e.1) ↔
          (∀ e ∈ rest, ¬ s.IsNamed e.1) ∧ ∀ e ∈ rest, ∀ s' ∈ seen, ¬ s'.IsNamed e.1 := by
        simp only [List.forall_mem_cons, forall_and]
      rw [setEntries_cons_eq_ok_iff hname, hfresh, and_assoc]
      refine and_congr_right fun _ => ?_
      simp only [ih, hseen]
      cases hv : s.decode? node with
      | none =>
        -- No configuration has a value that cannot be read.
        simp only [reduceCtorEq, false_and, exists_false, false_iff]
        rintro ⟨-, hfits⟩
        have hgiven := hfits.given _ List.mem_cons_self s hnamed
        rw [hv] at hgiven
        cases hgiven
      | some v =>
        rw [fits_cons_of_some hname hv]
        simp only [Option.some.injEq, exists_eq_left']
        tauto

/-- Whether an entry names an option. -/
def namesOption (e : String × Node) : Bool :=
  (Setting.ofName? e.1).isSome

theorem namesOption_of_isNamed {e : String × Node} (h : s.IsNamed e.1) : namesOption e = true := by
  rw [namesOption, Setting.ofName?_eq_some_iff.mpr h, Option.isSome_some]

/-- Only the entries that name options matter. -/
theorem fits_filter_iff : Fits base (entries.filter namesOption) config ↔
    Fits base entries config := by
  -- An entry that names an option is among those that are kept.
  have hmem {e : String × Node} {s : Setting} (hs : s.IsNamed e.1) :
      e ∈ entries.filter namesOption ↔ e ∈ entries := by
    rw [List.mem_filter, namesOption_of_isNamed hs, and_iff_left rfl]
  have honce : (entries.filter namesOption).Pairwise
        (fun a b => ∀ s : Setting, s.IsNamed a.1 → ¬ s.IsNamed b.1) ↔
      entries.Pairwise fun a b => ∀ s : Setting, s.IsNamed a.1 → ¬ s.IsNamed b.1 := by
    rw [List.pairwise_filter]
    refine List.Pairwise.iff fun a b => ⟨fun hab s ha hb => ?_, fun hab _ _ => hab⟩
    exact hab (namesOption_of_isNamed ha) (namesOption_of_isNamed hb) s ha hb
  constructor
  · intro h
    exact ⟨honce.mp h.once, fun e he s hs => h.given e ((hmem hs).mpr he) s hs,
      fun s hs => h.absent s fun e he => hs e (List.mem_filter.mp he).1⟩
  · intro h
    exact ⟨honce.mpr h.once, fun e he => h.given e (List.mem_filter.mp he).1,
      fun s hs => h.absent s fun e he hnamed => hs e ((hmem hnamed).mpr he) hnamed⟩

/-- The order of the entries does not matter. -/
theorem fits_perm (h : entries'.Perm entries) :
    Fits base entries' config ↔ Fits base entries config := by
  have hsymm {a b : String × Node} (hab : ∀ s : Setting, s.IsNamed a.1 → ¬ s.IsNamed b.1) :
      ∀ s : Setting, s.IsNamed b.1 → ¬ s.IsNamed a.1 := fun s hb ha => hab s ha hb
  have hfits {entries entries' : List (String × Node)} (h : entries'.Perm entries)
      (hfits : Fits base entries config) : Fits base entries' config :=
    ⟨(h.pairwise_iff hsymm).mpr hfits.once, fun e he => hfits.given e (h.mem_iff.mp he),
      fun s hs => hfits.absent s fun e he => hs e (h.mem_iff.mpr he)⟩
  exact ⟨hfits h.symm, hfits h⟩

/-! ## Reading -/

theorem mapError_eq_ok_iff {α ε ε' : Type} {result : Except ε α} {f : ε → ε'} {a : α} :
    result.mapError f = .ok a ↔ result = .ok a := by
  cases result <;> simp [Except.mapError]

/-- Entries with other names for the same options are read in the same way. -/
theorem setEntries_renamed
    (h : List.Forall₂ (fun e e' => Setting.IsRenamed e.1 e'.1 ∧ e.2 = e'.2) entries entries')
    (config : RunConfig) (seen : List Setting) :
    setEntries config seen entries' = setEntries config seen entries := by
  induction h generalizing config seen with
  | nil => rfl
  | @cons e e' rest rest' he _ ih =>
    obtain ⟨name, node⟩ := e
    obtain ⟨name', node'⟩ := e'
    obtain ⟨hname, rfl⟩ := he
    simp only [setEntries, hname.ofName?_eq, ih]

/-- What the configuration is that a mapping holds, and when it holds one: the entries for the
options decide, whatever their order and whatever else there is; an option may be given under either
of its names, but not twice. -/
theorem read_options {text : String} (h : entries? text = some entries) :
    (∀ config, read text = .ok config ↔ Fits {} entries config) ∧
    (∀ text' entries', entries? text' = some entries' →
      (entries'.filter namesOption).Perm (entries.filter namesOption) →
        ∀ config, read text' = .ok config ↔ read text = .ok config) ∧
    (∀ text' entries', entries? text' = some entries' →
      List.Forall₂ (fun e e' => Setting.IsRenamed e.1 e'.1 ∧ e.2 = e'.2) entries entries' →
        (read text').mapError ConfigError.unplaced = (read text).mapError ConfigError.unplaced) ∧
    (∀ (s : Setting) (a b : String × Node), [a, b].Sublist entries → s.IsNamed a.1 →
      s.IsNamed b.1 → ∃ e, read text = .error e) := by
  have hfits {text : String} {entries : List (String × Node)} (h : entries? text = some entries)
      (config : RunConfig) : read text = .ok config ↔ Fits {} entries config := by
    rw [← mapError_eq_ok_iff (f := ConfigError.unplaced), read_unplaced h, setEntries_eq_ok_iff]
    simp
  refine ⟨hfits h, fun text' entries' h' hperm config => ?_, fun text' entries' h' hrenamed => ?_,
    fun s a b hab ha hb => ?_⟩
  · rw [hfits h', hfits h, ← fits_filter_iff, fits_perm hperm, fits_filter_iff]
  · rw [read_unplaced h', read_unplaced h, setEntries_renamed hrenamed]
  · cases hread : read text with
    | error e => exact ⟨e, rfl⟩
    | ok config =>
      have honce := ((hfits h config).mp hread).once.sublist hab
      exact absurd hb (List.rel_of_pairwise_cons honce (List.mem_singleton_self b) s ha)

/-- An option that is given under both of its names is given twice. -/
theorem read_twice :
    (∃ entries, entries? "tempoEspera: 500\nstepDelayMs: 250\n" = some entries ∧
      entries.map Prod.fst = ["tempoEspera", "stepDelayMs"]) ∧
    ∃ e, read "tempoEspera: 500\nstepDelayMs: 250\n" = .error e := by
  have hnames : (entries? "tempoEspera: 500\nstepDelayMs: 250\n").map (List.map Prod.fst) =
      some ["tempoEspera", "stepDelayMs"] := by decide +kernel
  obtain ⟨entries, hentries, hmap⟩ := Option.map_eq_some_iff.mp hnames
  obtain ⟨a, rest, rfl, ha, hrest⟩ := List.map_eq_cons_iff.mp hmap
  obtain ⟨b, rest', rfl, hb, hnil⟩ := List.map_eq_cons_iff.mp hrest
  obtain rfl := List.map_eq_nil_iff.mp hnil
  have hb' : Setting.stepDelayMs.IsNamed b.1 := .inr (by rw [hb]; rfl)
  exact ⟨⟨_, hentries, hmap⟩, (read_options hentries).2.2.2 .stepDelayMs a b (List.Sublist.refl _)
    (.inl ha) hb'⟩

/-- Under either name the option has the value, and what else there is does not matter. -/
example : read "autor: [Ana, Rui]\nstepDelayMs: 250\n" = read "\x7b\"tempoEspera\": 250\x7d" := by
  decide +kernel

end RunConfig

end BrowserFlow
