import BrowserFlow.Proofs.Config.JsonObject
import BrowserFlow.Proofs.Report.Lossless
import BrowserFlow.Proofs.Yaml.Held

/-!
# Reading a serialized configuration

One parser is to read both YAML and JSON. In JSON a configuration is read back from its own text
(`ofMembers_of_toJson`). In YAML it is so exactly if the report directory is kept
(`read_toJson_iff`): of what is written only the directory is not known beforehand. If a character of
it is forbidden, or one of its lines is a mark, then the text is no document, and if it is folded,
another directory is read.

`RunConfig.read_json` adds what holds of any other text of a configuration in JSON.
-/

namespace BrowserFlow

open Text JsonText JsonSource Yaml

namespace RunConfig

variable {config : RunConfig}

/-! ## The members of a configuration -/

/-- The value of an option in JSON. -/
def valueJson (config : RunConfig) : Setting → Json
  | .captureScreenshots => .bool config.captureScreenshots
  | .captureLogs => .bool config.captureLogs
  | .reportFormat => .string config.reportFormat.extension
  | .reportDir => .string config.reportDir
  | .stepDelayMs =>
    match config.stepDelayMs with
    | some ms => .natural ms.toNat
    | none => .null
  | .stopOnFailure => .bool config.stopOnFailure
  | .keepOpen => .bool config.keepOpen

/-- The member of an option in JSON. -/
def memberJson (config : RunConfig) (s : Setting) : String × Json :=
  (s.name, config.valueJson s)

theorem toJson_eq (config : RunConfig) :
    config.toJson = .object (Setting.all.map config.memberJson) := rfl

/-- The value of an option is decoded from what is written for it. -/
theorem decodeJson_valueJson (config : RunConfig) (s : Setting) :
    s.decodeJson (config.valueJson s).asText = .ok (config.value s) := by
  cases s with
  | reportFormat =>
    obtain ⟨_, _, format, _, _, _, _⟩ := config
    cases format <;> rfl
  | stepDelayMs =>
    obtain ⟨_, _, _, _, delay, _, _⟩ := config
    cases delay with
    | none => rfl
    | some ms =>
      show (Decode.uint64 (Json.natural ms.toNat).asText).map some = _
      rw [Decode.uint64_asText]
      rfl
  | _ => rfl

/-- Options are decoded from their members. -/
theorem setMembers_memberJson {base : RunConfig} {seen options : List Setting}
    (hnodup : options.Nodup) (hseen : ∀ s ∈ options, s ∉ seen) :
    setMembers base seen (Json.membersAsText (options.map config.memberJson)) =
      .ok (options.foldl (fun base s => base.withValue s (config.value s)) base) := by
  induction options generalizing base seen with
  | nil => rfl
  | cons s options ih =>
    rw [List.nodup_cons] at hnodup
    rw [List.forall_mem_cons] at hseen
    have hname : Setting.ofName? s.name = some s := Setting.ofName?_eq_some_iff.mpr (.inl rfl)
    have hrest : ∀ s' ∈ options, s' ∉ s :: seen := fun s' hs' hmem =>
      (List.mem_cons.mp hmem).elim (fun heq => hnodup.1 (heq ▸ hs')) (hseen.2 s' hs')
    exact (setMembers_cons_eq_ok_iff rfl hname).mpr
      ⟨hseen.1, config.value s, decodeJson_valueJson config s, ih hnodup.2 hrest⟩

/-- A configuration is decoded from its members. -/
theorem ofMembers_toJson (config : RunConfig) :
    ofMembers (Json.membersAsText (Setting.all.map config.memberJson)) = .ok config := by
  rw [ofMembers, setMembers_memberJson (by decide) fun _ _ => List.not_mem_nil]
  rfl

/-- A member is written as its key and its value. -/
theorem exists_writesMember (config : RunConfig) (s : Setting) :
    ∃ m, WritesMember m (config.memberJson s) := by
  obtain ⟨key, hkey⟩ := exists_written s.name.toList
  have hvalue : ∃ source : JsonSource, source.Writes (config.valueJson s) := by
    have hstring (text : String) : ∃ source : JsonSource, source.Writes (.string text) := by
      obtain ⟨pieces, h⟩ := exists_written text.toList
      exact ⟨_, .string h⟩
    cases s with
    | reportFormat | reportDir => exact hstring _
    | stepDelayMs =>
      simp only [valueJson]
      split
      · exact ⟨_, .natural _⟩
      · exact ⟨_, .null⟩
    | _ => exact ⟨_, .bool _⟩
  obtain ⟨source, hsource⟩ := hvalue
  exact ⟨(key, source), hkey, hsource⟩

/-- Options are written as members. -/
theorem exists_writes (config : RunConfig) (options : List Setting) :
    ∃ members, List.Forall₂ WritesMember members (options.map config.memberJson) ∧
      (∀ m ∈ members, ∃ s, WritesMember m (config.memberJson s)) ∧
      ∀ s ∈ options, ∃ m ∈ members, WritesMember m (config.memberJson s) := by
  induction options with
  | nil => exact ⟨[], .nil, nofun, nofun⟩
  | cons s options ih =>
    obtain ⟨m, hm⟩ := config.exists_writesMember s
    obtain ⟨members, hmembers, hleft, hright⟩ := ih
    refine ⟨m :: members, .cons hm hmembers, List.forall_mem_cons.mpr ⟨⟨s, hm⟩, hleft⟩,
      List.forall_mem_cons.mpr ⟨⟨m, List.mem_cons_self, hm⟩, fun s' hs' => ?_⟩⟩
    obtain ⟨m', hmem, hm'⟩ := hright s' hs'
    exact ⟨m', List.mem_cons_of_mem _ hmem, hm'⟩

/-- The name of an option is kept. -/
theorem isKept_name (s : Setting) : IsKept s.name.toList :=
  isKept_of_ascii (List.all_iff_forall_prop.mp (by cases s <;> decide))

section Member

variable {s : Setting} {m : List Piece × JsonSource} (h : WritesMember m (config.memberJson s))

include h

/-- The name of an option can be read as a key. -/
theorem isKey_of_writesMember : IsKey m.1 .none := by
  have hname : (∀ x ∈ Json.stringText s.name, isBreak x = false) ∧
      byteSize (Json.stringText s.name) ≤ Layout.maxKey :=
    ⟨List.all_iff_forall_prop.mp (by cases s <;> decide), by cases s <;> decide⟩
  rw [show Json.stringText s.name = literal m.1 from h.key.literal_eq.symm] at hname
  exact ⟨h.key.whole, by simpa [Blanks.none] using hname.1, by simpa [Blanks.none] using hname.2⟩

/-- A string among the values is the format or the directory. -/
theorem exists_text_of_writesMember {pieces : List Piece} (hm : m.2 = .string pieces) :
    ∃ text : String, config.valueJson s = .string text ∧ Written pieces text.toList ∧
      (IsKept text.toList ∨ s = .reportDir ∧ text = config.reportDir) := by
  have hvalue := h.value
  rw [hm] at hvalue
  generalize hjson : (config.memberJson s).2 = json at hvalue
  cases hvalue with
  | @string pieces text hpieces =>
    refine ⟨text, hjson, hpieces, ?_⟩
    -- The format and the directory are the only texts, and that of the format is plain.
    cases s with
    | reportFormat =>
      obtain rfl := Json.string.inj hjson
      refine .inl (isKept_of_ascii (List.all_iff_forall_prop.mp ?_))
      cases config.reportFormat <;> decide
    | reportDir => exact .inr ⟨rfl, (Json.string.inj hjson).symm⟩
    | stepDelayMs =>
      simp only [memberJson, valueJson] at hjson
      split at hjson <;> cases hjson
    | _ => cases hjson

/-- A value can be read, the directory if there is no mark in it. -/
theorem isReadable_of_writesMember (hdir : s = .reportDir →
    ∀ pieces, Written pieces config.reportDir.toList → marked false pieces = false) :
    m.2.IsReadable := by
  cases hm : m.2 with
  | string pieces =>
    obtain ⟨text, -, hpieces, hkept | ⟨hs, rfl⟩⟩ := exists_text_of_writesMember h hm
    · exact ⟨hpieces.whole, (hpieces.marked_eq_false_iff hkept.nextLine).mpr hkept.unmarked⟩
    · exact ⟨hpieces.whole, hdir hs pieces hpieces⟩
  | array | object =>
    have hvalue := h.value
    rw [hm] at hvalue
    cases hvalue
  | _ => trivial

/-- A member is the same in YAML if the directory is kept. -/
theorem agrees_of_writesMember (hdir : IsUnfolded config.reportDir.toList) : Agrees m where
  key := by
    rw [Keeps, h.key.map_char]
    exact h.key.folded_eq_iff.mpr (isKept_name s).toIsUnfolded
  value pieces hm := by
    obtain ⟨text, -, hpieces, hkept⟩ := exists_text_of_writesMember h hm
    rw [Keeps, hpieces.map_char]
    refine hpieces.folded_eq_iff.mpr ?_
    obtain hkept | ⟨-, rfl⟩ := hkept
    · exact hkept.toIsUnfolded
    · exact hdir
  format hname := by
    -- No two options have the same name.
    have hs : s = .reportFormat := by
      rw [h.key.spelling_eq] at hname
      have hname : s.name = Setting.reportFormat.name := Except.ok.inj hname
      revert hname
      cases s <;> decide
    subst hs
    have hvalue := h.value
    generalize m.2 = source at hvalue
    cases hvalue with
    | string => exact ⟨_, rfl⟩

/-- YAML allows what is written for a value if it allows the directory. -/
theorem isAllowed_of_writesMember
    (hdir : ∀ c ∈ config.reportDir.toList, 32 ≤ c.toNat → isAllowed c = true) :
    (∀ x ∈ literal m.1, isAllowed x = true) ∧ ∀ x ∈ m.2.chars, isAllowed x = true := by
  constructor
  · rw [h.key.literal_eq]
    exact isAllowed_stringText_iff.mpr (isKept_name s).allowed
  · -- Only strings and numbers are written with characters that depend on the value.
    cases hm : m.2 with
    | string pieces =>
      obtain ⟨text, -, hpieces, hkept⟩ := exists_text_of_writesMember h hm
      rw [JsonSource.chars, hpieces.literal_eq, isAllowed_stringText_iff]
      obtain hkept | ⟨-, rfl⟩ := hkept
      · exact hkept.allowed
      · exact hdir
    | number x digits spelled =>
      have hvalue := h.value
      rw [hm] at hvalue
      generalize (config.memberJson s).2 = json at hvalue
      cases hvalue with
      | natural n =>
        intro c hc
        have hdigit := isAsciiDigit_of_mem_toDigits hc
        simp only [isAsciiDigit, Bool.and_eq_true, decide_eq_true_eq] at hdigit
        simp [isAllowed]
        omega
    | bool b => exact List.all_eq_true.mp (by cases b <;> rfl)
    | null => exact List.all_eq_true.mp rfl
    | _ =>
      have hvalue := h.value
      rw [hm] at hvalue
      cases hvalue

end Member

/-! ## Texts that cannot be read -/

/-- A text that is no document is no configuration. -/
theorem read_of_fault {text : String} {targets : List (Nat × Node)} {e : SyntaxError}
    (hbrace : '\x7b' ∈ text.toList)
    (hread : Document.read text = { root := none, targets, fault := some e }) :
    read text = .error (.malformed e) := by
  have hblank : isBlankText text = false := List.all_eq_false.mpr ⟨'\x7b', hbrace, by decide⟩
  rw [read, hblank, if_neg Bool.false_ne_true, hread]
  rfl

/-- YAML allows all characters of a text that is a configuration. -/
theorem isAllowed_of_read {text : String} (hbrace : '\x7b' ∈ text.toList)
    (hread : read text = .ok config) : ∀ c ∈ text.toList, isAllowed c = true := by
  cases hforbidden : forbidden? 0 text.toList with
  | none => exact forbidden?_eq_none_iff.mp hforbidden
  | some position =>
    have hdocument : Document.read text =
        { root := none, targets := [], fault := some ⟨.forbidden position, none⟩ } := by
      simp only [Document.read, Layout.ofText, hforbidden]
    have hfault := read_of_fault hbrace hdocument
    rw [hread] at hfault
    cases hfault

/-! ## The text of a configuration -/

/-- A document has the text of a configuration. -/
structure Serializes (config : RunConfig) (m : List Piece × JsonSource)
    (rest : List (List Piece × JsonSource)) : Prop where
  /-- The options are written one after the other. -/
  writes : List.Forall₂ WritesMember (m :: rest) (Setting.all.map config.memberJson)
  /-- Every member is written for an option. -/
  member : ∀ m' ∈ m :: rest, ∃ s, WritesMember m' (config.memberJson s)
  /-- There is a member for every option. -/
  option : ∀ s, ∃ m' ∈ m :: rest, WritesMember m' (config.memberJson s)

theorem exists_serializes (config : RunConfig) : ∃ m rest, config.Serializes m rest := by
  obtain ⟨members, hwrites, hmember, hoption⟩ := config.exists_writes Setting.all
  have hall (s : Setting) : s ∈ Setting.all := by cases s <;> decide
  cases members with
  | nil => cases hwrites
  | cons m rest => exact ⟨m, rest, hwrites, hmember, fun s => hoption s (hall s)⟩

/-- The text in front of the directory. -/
def front (captureScreenshots captureLogs : Bool) (format : ReportFormat) : List Char :=
  ([(Setting.captureScreenshots.name, .bool captureScreenshots),
    (Setting.captureLogs.name, .bool captureLogs),
    (Setting.reportFormat.name, .string format.extension)].flatMap fun member =>
      Json.compactMember member ++ [',']) ++ (Json.stringText Setting.reportDir.name ++ [':'])

namespace Serializes

variable {m : List Piece × JsonSource} {rest : List (List Piece × JsonSource)}
  (h : config.Serializes m rest)

include h

theorem text_eq : (JsonDocument.compact m rest).text = config.toJson.compact := by
  rw [toJson_eq]
  exact JsonDocument.text_compact h.writes

theorem value_eq : (JsonDocument.compact m rest).source.value =
    .object (Json.membersAsText (Setting.all.map config.memberJson)) :=
  JsonDocument.value_compact h.writes

/-- The text can be read if there is no mark in the directory. -/
theorem isReadable
    (hdir : ∀ pieces, Written pieces config.reportDir.toList → marked false pieces = false) :
    (JsonDocument.compact m rest).IsReadable where
  source := by
    refine MembersSource.isReadable_compact fun m' hm' => ?_
    obtain ⟨s, hs⟩ := h.member m' hm'
    exact ⟨isKey_of_writesMember hs, isReadable_of_writesMember hs fun _ => hdir⟩
  before := rfl
  after := rfl

/-- YAML allows the text if it allows what is not escaped in the directory. -/
theorem isAllowed_iff : (∀ x ∈ (JsonDocument.compact m rest).text.toList, isAllowed x = true) ↔
    ∀ c ∈ config.reportDir.toList, 32 ≤ c.toNat → isAllowed c = true := by
  have htext : (∀ x ∈ (JsonDocument.compact m rest).text.toList, isAllowed x = true) ↔
      ∀ x ∈ (MembersSource.compact m rest).chars, isAllowed x = true := by
    have hbrace : isAllowed '\x7b' = true := rfl
    simp [JsonDocument.text, JsonDocument.compact, JsonSource.chars, Blanks.none, hbrace]
  rw [htext, MembersSource.forall_mem_chars_compact (P := fun x => isAllowed x = true)
    ⟨rfl, rfl, rfl⟩]
  constructor
  · intro hall
    obtain ⟨m', hm', hs⟩ := h.option .reportDir
    have hchars := (hall m' hm').2
    rw [hs.value.chars_eq] at hchars
    exact isAllowed_stringText_iff.mp hchars
  · intro hdir m' hm'
    obtain ⟨s, hs⟩ := h.member m' hm'
    exact isAllowed_of_writesMember hs hdir

/-- The text is read back if the directory is kept. -/
theorem read_eq (hdir : IsKept config.reportDir.toList) :
    read config.toJson.compact = .ok config := by
  have hscalar (pieces : List Piece) (hpieces : Written pieces config.reportDir.toList) :
      marked false pieces = false :=
    (hpieces.marked_eq_false_iff hdir.nextLine).mpr hdir.unmarked
  rw [← h.text_eq]
  refine read_of_isPortable ⟨h.isReadable hscalar, h.isAllowed_iff.mpr hdir.allowed, ?_⟩ h.value_eq
    config.ofMembers_toJson
  intro m' hm'
  obtain ⟨s, hs⟩ := h.member m' (by simpa [JsonDocument.compact, JsonSource.members] using hm')
  exact agrees_of_writesMember hs hdir.toIsUnfolded

/-- If the text is read back, then folding does not change the directory. -/
theorem isUnfolded_of_read
    (hmarked : ∀ pieces, Written pieces config.reportDir.toList → marked false pieces = false)
    (hallowed : ∀ c ∈ config.reportDir.toList, 32 ≤ c.toNat → isAllowed c = true)
    (hread : read config.toJson.compact = .ok config) : IsUnfolded config.reportDir.toList := by
  obtain ⟨m', hm', hs⟩ := h.option .reportDir
  have hentries := entries?_text (h.isReadable hmarked) h.value_eq (h.isAllowed_iff.mpr hallowed)
  rw [h.text_eq] at hentries
  -- What is read has the directory of the entry, which is the folded text.
  have hfits := ((read_options hentries).1 config).mp hread
  have hmem : (String.ofList (folded m'.1), m'.2.node) ∈
      (JsonDocument.compact m rest).source.members.map
        fun m => (String.ofList (folded m.1), m.2.node) := by
    refine List.mem_map_of_mem ?_
    simpa [JsonDocument.compact, JsonSource.members] using hm'
  have hname : String.ofList (folded m'.1) = Setting.reportDir.name := by
    rw [hs.key.folded_eq_iff.mpr (isKept_name .reportDir).toIsUnfolded]
    exact String.ofList_toList
  have hgiven := hfits.given _ hmem .reportDir (.inl hname)
  have hvalue := hs.value
  generalize m'.2 = source at hvalue hgiven
  cases hvalue with
  | string hpieces =>
    have hfolded := Option.some.inj hgiven
    rw [← hpieces.folded_eq_iff, ← String.toList_ofList (l := folded _)]
    exact congrArg String.toList hfolded

omit h in
/-- What stands in front of the directory. -/
theorem front_eq (a b : Bool) (format : ReportFormat) :
    (∀ x ∈ front a b format, isBreak x = false) ∧ byteSize (front a b format) < Layout.maxKey := by
  refine ⟨List.all_iff_forall_prop.mp ?_, ?_⟩ <;> cases a <;> cases b <;> cases format <;> decide

/-- The text is no document if there is a mark in the directory. -/
theorem exists_read_error {pieces : List Piece} (hpieces : Written pieces config.reportDir.toList)
    (hmarked : marked false pieces = true) : ∃ e, read config.toJson.compact = .error e := by
  -- The first three options come in front of the directory.
  obtain ⟨hm₁, h₁⟩ := List.forall₂_cons.mp h.writes
  obtain ⟨m₂, rest₂, hm₂, h₂, rfl⟩ := List.forall₂_cons_right_iff.mp h₁
  obtain ⟨m₃, rest₃, hm₃, h₃, rfl⟩ := List.forall₂_cons_right_iff.mp h₂
  obtain ⟨⟨key, source⟩, rest₄, hdir, h₄, rfl⟩ := List.forall₂_cons_right_iff.mp h₃
  obtain ⟨m₅, rest₅, hm₅, -, rfl⟩ := List.forall₂_cons_right_iff.mp h₄
  have hvalue : source.Writes (.string config.reportDir) := hdir.value
  cases hvalue with
  | @string pieces' _ hpieces' =>
    have hmarked' : marked false pieces' = true :=
      hpieces'.marked_iff.mpr (hpieces.marked_iff.mp hmarked)
    obtain ⟨hbreak, hsize⟩ :=
      front_eq config.captureScreenshots config.captureLogs config.reportFormat
    have hchars : [m, m₂, m₃].flatMap Layout.spelled ++ (literal key ++ [':']) = front
        config.captureScreenshots config.captureLogs config.reportFormat := by
      have hspelled {m s} (hm : WritesMember m (config.memberJson s)) :
          Layout.spelled m = Json.compactMember (config.memberJson s) ++ [','] := hm.chars_eq [',']
      simp only [List.flatMap_cons, List.flatMap_nil, hspelled hm₁, hspelled hm₂, hspelled hm₃,
        hdir.key.literal_eq]
      rfl
    have hmembers : ∀ m' ∈ [m, m₂, m₃], IsKey m'.1 .none ∧ m'.2.IsReadable := by
      simp only [List.forall_mem_cons, List.not_mem_nil, false_implies, implies_true, and_true]
      exact ⟨⟨isKey_of_writesMember hm₁, isReadable_of_writesMember hm₁ nofun⟩,
        ⟨isKey_of_writesMember hm₂, isReadable_of_writesMember hm₂ nofun⟩,
        ⟨isKey_of_writesMember hm₃, isReadable_of_writesMember hm₃ nofun⟩⟩
    have htext : config.toJson.compact.toList =
        '\x7b' :: ([m, m₂, m₃].flatMap Layout.spelled ++ (literal key ++ ':' ::
          (literal pieces' ++ ',' :: (MembersSource.compact m₅ rest₅).chars))) := by
      rw [← h.text_eq]
      simp [JsonDocument.text, JsonDocument.compact, JsonSource.chars, MembersSource.compact,
        MembersSource.chars, Layout.spelled, Blanks.none]
    rw [← hchars] at hbreak hsize
    obtain ⟨e, hread⟩ := Layout.exists_read_eq hmembers (isKey_of_writesMember hdir)
      hpieces'.whole hmarked' hbreak hsize htext
    exact ⟨_, read_of_fault (by simp [htext]) hread⟩

end Serializes

/-- The text of a configuration is read back exactly if the directory is kept. -/
theorem read_toJson_iff : read config.toJson.compact = .ok config ↔
    IsKept config.reportDir.toList := by
  obtain ⟨m, rest, h⟩ := config.exists_serializes
  constructor
  · intro hread
    -- Whatever would be changed or refused has to be excluded, one thing after the other.
    have hbrace : '\x7b' ∈ (JsonDocument.compact m rest).text.toList := by
      simp [JsonDocument.text, JsonDocument.compact, JsonSource.chars]
    have hallowed := h.isAllowed_iff.mp (isAllowed_of_read hbrace (h.text_eq ▸ hread))
    have hmarked (pieces : List Piece) (hpieces : Written pieces config.reportDir.toList) :
        marked false pieces = false := by
      rw [Bool.eq_false_iff]
      intro hmarked
      obtain ⟨e, herror⟩ := h.exists_read_error hpieces hmarked
      rw [hread] at herror
      cases herror
    have hunfolded := h.isUnfolded_of_read hmarked hallowed hread
    obtain ⟨pieces, hpieces⟩ := exists_written config.reportDir.toList
    exact ⟨hunfolded, hallowed,
      (hpieces.marked_eq_false_iff hunfolded.nextLine).mp (hmarked pieces hpieces)⟩
  · exact h.read_eq

/-- In JSON every configuration is read back from its text. -/
theorem ofMembers_of_toJson (config : RunConfig) :
    ∃ values, JsonText.read? config.toJson.compact = some (.object values) ∧
      ofMembers values = .ok config := by
  have hreads : ∀ m ∈ Setting.all.map config.memberJson,
      JsonText.Reads m.2.compactChars m.2.asText := by
    refine List.forall_mem_map.mpr fun s _ => ?_
    obtain ⟨m, hm⟩ := config.exists_writesMember s
    exact JsonText.reads_of_writes hm.value
  exact ⟨_, JsonText.read?_compact hreads, config.ofMembers_toJson⟩

/-- What is read of JSON. In JSON a configuration is read back from its own text, but in YAML exactly
if its directory is kept; and an object that is the configuration in JSON is read as it if YAML has
the same members for the object, however it is spelled. -/
theorem read_json (config : RunConfig) :
    ((∃ values, JsonText.read? config.toJson.compact = some (.object values) ∧
        ofMembers values = .ok config) ∧
      (read config.toJson.compact = .ok config ↔ IsKept config.reportDir.toList)) ∧
    ∀ (text : String) (values : List (Spelling × JsonText)),
      JsonText.read? text = some (.object values) → ofMembers values = .ok config →
        (∃ document : JsonDocument, document.text = text ∧ document.source.value = .object values) ∧
        ∀ document : JsonDocument, document.text = text → document.source.value = .object values →
          document.IsPortable → read text = .ok config := by
  refine ⟨⟨config.ofMembers_of_toJson, read_toJson_iff⟩,
    fun text values hread hconfig => ⟨JsonText.exists_document hread, ?_⟩⟩
  rintro document rfl hobject hportable
  exact read_of_isPortable hportable hobject hconfig

/-- An object with a directory in which a slash is spelled by its code. -/
def spelledDirectory : JsonDocument where
  before := .none
  source := .object (.last ⟨[' '], by simp [isSpace]⟩ ("reportDir".toList.pmap Piece.raw (by simp))
    .none ⟨[' '], by simp [isSpace]⟩
    (.string [.raw 'a' (by decide), .code '0' '0' '2' 'f' 47 fun _ => rfl, .raw 'b' (by decide)])
    .none)
  after := .none

/-- In JSON it has one member. -/
theorem read?_spelledDirectory : JsonText.read? spelledDirectory.text =
    some (.object [(.ok "reportDir", .string (.ok "a/b"))]) := by
  have hchars : spelledDirectory.text.toList =
      '\x7b' :: ' ' :: '"' :: "reportDir\": \"a\\u002fb\"\x7d".toList := by
    decide +kernel
  have hkey : JsonText.string? "reportDir\": \"a\\u002fb\"\x7d".toList =
      some (.ok "reportDir", ':' :: ' ' :: '"' :: "a\\u002fb\"\x7d".toList) := by
    decide +kernel
  have hstring : JsonText.string? "a\\u002fb\"\x7d".toList = some (.ok "a/b", ['\x7d']) := by
    decide +kernel
  have hspace (s : List Char) : JsonText.skipSpace (' ' :: '"' :: s) = '"' :: s := rfl
  have hmembers (fuel : Nat) : JsonText.members? (fuel + 2)
      ('"' :: "reportDir\": \"a\\u002fb\"\x7d".toList) =
        some ([(.ok "reportDir", .string (.ok "a/b"))], []) := by
    simp only [JsonText.members?, JsonText.value?, JsonText.skipSpace_cons (c := '"') rfl, hkey,
      Option.bind_eq_bind, Option.bind_some, JsonText.skipSpace_cons (c := ':') rfl, hspace,
      hstring]
    rfl
  rw [JsonText.read?, hchars]
  simp only [List.length_cons, JsonText.value?_brace (hspace _) (by decide), hmembers]
  rfl

/-- YAML has the same member for this object, so that it is read as the configuration that it is in
JSON. -/
theorem read_json_spelled :
    let config : RunConfig := { reportDir := "a/b" }
    let values : List (Spelling × JsonText) := [(.ok "reportDir", .string (.ok "a/b"))]
    spelledDirectory.text = "\x7b \"reportDir\": \"a\\u002fb\"\x7d" ∧
      JsonText.read? spelledDirectory.text = some (.object values) ∧
      ofMembers values = .ok config ∧ spelledDirectory.IsPortable ∧
      read spelledDirectory.text = .ok config := by
  intro config values
  have htext : spelledDirectory.text = "\x7b \"reportDir\": \"a\\u002fb\"\x7d" := by
    decide +kernel
  have hconfig : ofMembers values = .ok config := by decide +kernel
  let key := "reportDir".toList.pmap Piece.raw (by simp)
  have hwhole : ∀ p ∈ key, p.Whole := by
    intro p hp
    obtain ⟨c, hc, rfl⟩ := List.mem_pmap.mp hp
    trivial
  have hline : (literal key).all (!Yaml.isBreak ·) = true := by decide +kernel
  have hkey : IsKey key .none := {
    whole := hwhole
    isBreak := by simpa [Blanks.none] using hline
    size := by decide +kernel }
  have hportable : spelledDirectory.IsPortable := {
    source := ⟨hkey, by simp [Piece.Whole], by decide +kernel⟩
    before := rfl
    after := rfl
    allowed := List.all_eq_true.mp (by decide +kernel)
    agrees := List.forall_mem_singleton.mpr
      { key := by unfold Keeps; decide +kernel
        value := by rintro pieces ⟨⟩; unfold Keeps; decide +kernel
        format := fun _ => ⟨_, rfl⟩ } }
  exact ⟨htext, read?_spelledDirectory, hconfig, hportable,
    ((read_json config).2 _ values read?_spelledDirectory hconfig).2 spelledDirectory rfl rfl
      hportable⟩

/-- A directory with a delete character is not kept, which JSON does not escape and YAML forbids. -/
theorem read_json_delete :
    (∃ values, JsonText.read? { reportDir := "a\x7fb" : RunConfig }.toJson.compact =
        some (.object values) ∧ ofMembers values = .ok { reportDir := "a\x7fb" }) ∧
      read { reportDir := "a\x7fb" : RunConfig }.toJson.compact ≠
        .ok { reportDir := "a\x7fb" } := by
  refine ⟨ofMembers_of_toJson _, fun hread => ?_⟩
  have hkept := read_toJson_iff.mp hread
  exact absurd (hkept.allowed (Char.ofNat 0x7F) (by decide) (by decide)) (by decide)

end RunConfig

end BrowserFlow
