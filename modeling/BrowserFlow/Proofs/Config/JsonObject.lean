import BrowserFlow.Json.Decode
import BrowserFlow.Proofs.Config.Options
import BrowserFlow.Proofs.Yaml.JsonNodes

/-!
# Configurations in JSON

What a JSON object holds as a configuration when it is decoded as JSON (`RunConfig.ofMembers`), and
that YAML reads the same from its text if it has the same members for it (`read_of_isPortable`). The
values agree option by option (`Setting.decode_node`). The induction is then on the members, with the
options that have been set before, since an option may be set only once.
-/

namespace BrowserFlow

open Text JsonText JsonSource

/-! ## Decoding JSON -/

namespace Decode

/-- A truth value. -/
def truth : Decoder Bool
  | .bool b => .ok b
  | value => unexpected value "a boolean"

/-- A path. -/
def path : Decoder Path
  | .string s => spelled s
  | value => unexpected value "path string"

end Decode

namespace Setting

/-- The value that a JSON value is for an option. -/
def decodeJson : (s : Setting) → Decode.Decoder s.Value
  | captureScreenshots | captureLogs | stopOnFailure | keepOpen => Decode.truth
  | reportFormat =>
    Decode.constant .text ([ReportFormat.json, .html].map fun format => (format.extension, format))
  | reportDir => Decode.path
  | stepDelayMs => Decode.nullable Decode.uint64

end Setting

namespace RunConfig

/-- The configuration with the options of some members set; `seen` have been set before. -/
def setMembers (config : RunConfig) (seen : List Setting) :
    List (Spelling × JsonText) → Except DecodeError RunConfig
  | [] => .ok config
  | (key, value) :: rest => do
    match Setting.ofName? (← Decode.spelled key) with
    | none => setMembers config seen rest
    | some s =>
      if seen.contains s then throw (.duplicateField s.name)
      setMembers (config.withValue s (← s.decodeJson value)) (s :: seen) rest

/-- The configuration that the members of a JSON object are. -/
def ofMembers (members : List (Spelling × JsonText)) : Except DecodeError RunConfig :=
  setMembers {} [] members

end RunConfig

/-! ## Values -/

namespace Decode

/-- What was not expected is nothing. -/
theorem unexpected_ne_ok {α : Type} {value : JsonText} {expected : String} {a : α} :
    unexpected value expected ≠ .ok a := by
  unfold unexpected
  cases found value <;> nofun

end Decode

namespace JsonSource

variable {pieces : List Piece}

/-- YAML has the text of a string that JSON has. -/
def Keeps (pieces : List Piece) : Prop :=
  folded pieces = pieces.map Piece.char

/-- If YAML keeps a string, then its text is the one that is decoded. -/
theorem Keeps.eq_of_spelled {text : String} (hkeeps : Keeps pieces) (hwhole : ∀ p ∈ pieces, p.Whole)
    (h : Decode.spelled (spelling pieces) = .ok text) : String.ofList (folded pieces) = text := by
  rw [spelling_eq hwhole] at h
  rw [hkeeps]
  exact Except.ok.inj h

end JsonSource

namespace Numeral

/-- If all digits are read, then what is read is the number that they denote. -/
theorem eq_of_digitsWithin {n m : Nat} {digits : List Char}
    (h : digitsWithin n digits = (m, [])) :
    digits.foldl (fun n c => 10 * n + digitValue c) n = m := by
  induction digits generalizing n with
  | nil => exact (Prod.mk.inj h).1
  | cons c digits ih =>
    rw [digitsWithin] at h
    split_ifs at h
    · exact ih h
    · cases h

/-- A whole number without a sign is spelled by its digits alone. -/
theorem Spelled.of_natural {x : Numeral} {chars : List Char} {n : Nat} (h : x.Spelled chars)
    (hvalue : x.value? = some (.natural n)) : chars = x.whole ∧ numberOf chars = n := by
  obtain ⟨tail, hchars, -, htail⟩ := h.exists_tail
  unfold value? at hvalue
  cases hdigits : digitsWithin 0 x.whole with
  | mk m dropped =>
    simp only [hdigits] at hvalue
    -- Only a number without sign, point and power that fits in 64 bits is natural.
    split_ifs at hvalue with hwhole hnegative hlarge
    · simp only [Bool.and_eq_true, List.isEmpty_iff, Option.isNone_iff_eq_none] at hwhole
      obtain ⟨⟨rfl, hfraction⟩, hexponent⟩ := hwhole
      have hsign : x.negative = false := by simpa using hnegative
      have heq : chars = x.whole := by
        rw [hchars, hsign, htail hfraction hexponent]
        simp
      cases hvalue
      exact ⟨heq, by rw [heq, numberOf]; exact eq_of_digitsWithin hdigits⟩
    all_goals simp at hvalue

end Numeral

namespace Yaml

/-- Digits without a superfluous zero in front are a number in YAML. -/
theorem unsigned?_eq {digits : List Char} (hne : digits ≠ [])
    (hdigits : ∀ c ∈ digits, isAsciiDigit c = true)
    (hunpadded : digits.length = 1 ∨ digits.head? ≠ some '0') :
    unsigned? digits = some (numberOf digits) := by
  have hvalue {c : Char} (hc : isAsciiDigit c = true) :
      (hexValue? c).filter (· < 10) = some (digitValue c) := by
    simp only [isAsciiDigit, Bool.and_eq_true, decide_eq_true_eq] at hc
    have hlt : digitValue c < 10 := by unfold digitValue; omega
    have hhex : hexValue? c = some (digitValue c) := by simp [hexValue?, digitValue, hc.1, hc.2]
    rw [hhex, Option.filter_some, if_pos (by simpa using hlt)]
  have hvalues : digits.filterMap (fun c => (hexValue? c).filter (· < 10)) =
      digits.map digitValue := by
    rw [← List.filterMap_eq_map]
    exact List.filterMap_congr fun c hc => hvalue (hdigits c hc)
  obtain ⟨c, rest, rfl⟩ := List.exists_cons_of_ne_nil hne
  rw [List.forall_mem_cons] at hdigits
  -- A zero in front is the only digit.
  have hzero : c = '0' → rest = [] := by
    rintro rfl
    simpa using hunpadded
  have hsign : c ≠ '-' ∧ c ≠ '+' := by
    refine ⟨?_, ?_⟩ <;> rintro rfl <;> exact absurd hdigits.1 (by decide)
  have hbase : base? (c :: rest) = none := by
    by_cases hc : c = '0'
    · rw [hzero hc, hc]
      rfl
    · simp [base?, bases, after?, Ne.symm hc]
  have hpadded : isPadded (c :: rest) = false := by
    by_cases hc : c = '0'
    · rw [hzero hc, hc]
      rfl
    · simp [isPadded, hsign, hc]
  simp only [unsigned?, List.head?_cons, Option.some_inj, beq_iff_eq, hsign.2, if_false, hbase,
    hpadded, digits?, hvalues]
  simp [List.foldl_map, numberOf]

end Yaml

open Yaml

namespace RunConfig

/-- A format has the same name in JSON and in YAML. -/
theorem formatOf_eq_ok {name : String} {format : ReportFormat}
    (h : Decode.constantOf ([ReportFormat.json, .html].map fun f => (f.extension, f)) name =
      .ok format) : formatOf name = .ok format := by
  rw [Decode.constantOf, List.find?_map, show ((fun c : String × ReportFormat => c.1 == name) ∘
    fun f => (f.extension, f)) = fun f => f.extension == name from rfl] at h
  unfold formatOf
  cases hfind : [ReportFormat.json, .html].find? (·.extension == name) with
  | none => simp [hfind] at h
  | some f => simpa [hfind] using h

end RunConfig

namespace Setting

open RunConfig

variable {source : JsonSource}

/-- A truth value is the same in JSON and in YAML. -/
theorem truth_node {b : Bool} (h : Decode.truth source.value = .ok b) :
    truth source.node = .ok b := by
  cases source with
  | bool b' =>
    obtain rfl : b' = b := Except.ok.inj h
    cases b' <;> rfl
  | _ => exact absurd h Decode.unexpected_ne_ok

/-- A path is the same in JSON and in YAML, if YAML keeps its text. -/
theorem path_node {path : Path} (hreadable : source.IsReadable)
    (hkeeps : ∀ pieces, source = .string pieces → Keeps pieces)
    (h : Decode.path source.value = .ok path) : RunConfig.path source.node = .ok path := by
  cases source with
  | string pieces =>
    have htext := (hkeeps pieces rfl).eq_of_spelled (IsScalar.whole hreadable) h
    exact congrArg Except.ok htext
  | _ => exact absurd h Decode.unexpected_ne_ok

/-- A number is the same in JSON and in YAML, and it is not null. -/
theorem number_node {n : UInt64} (h : Decode.uint64 source.value = .ok n) :
    RunConfig.number source.node = .ok n ∧ isAbsent source.node = .ok false := by
  obtain ⟨m, hm, rfl⟩ : ∃ m, Decode.naturalBelow UInt64.size "u64" source.value = .ok m ∧
      UInt64.ofNat m = n := by
    rw [Decode.uint64] at h
    cases hm : Decode.naturalBelow UInt64.size "u64" source.value with
    | error e => rw [hm] at h; cases h
    | ok m => rw [hm] at h; exact ⟨m, rfl, Except.ok.inj h⟩
  cases source with
  | number x digits spelled =>
    rw [JsonSource.value, Decode.naturalBelow] at hm
    split at hm
    · next k hvalue =>
      split_ifs at hm with hlt
      cases hm
      obtain ⟨rfl, rfl⟩ := spelled.of_natural hvalue
      have hread := unsigned?_eq spelled.whole_ne_nil spelled.digits spelled.unpadded
      -- None of the words for null consists of digits.
      have hnull : isNull (String.ofList x.whole) = false := by
        have hnulls : ∀ s ∈ ["null", "Null", "NULL", "~"], unsigned? s.toList = none := by decide
        rw [Bool.eq_false_iff]
        intro hnull
        have hnone := hnulls _ (List.contains_iff_mem.mp hnull)
        rw [String.toList_ofList, hread] at hnone
        cases hnone
      have hempty : (String.ofList x.whole).isEmpty = false := by
        simp [spelled.whole_ne_nil]
      constructor
      · simp [RunConfig.number, JsonSource.node, plainNode, bareText?, hread, hlt]
      · simp [isAbsent, JsonSource.node, plainNode, hnull, hempty]
    all_goals cases hm
  | _ => exact absurd hm Decode.unexpected_ne_ok

/-- The value that an option has in YAML is the one that it has in JSON. -/
theorem decode_node {s : Setting} {v : s.Value}
    (hreadable : source.IsReadable) (hkeeps : ∀ pieces, source = .string pieces → Keeps pieces)
    (hformat : s = .reportFormat → ∃ pieces, source = .string pieces)
    (h : s.decodeJson source.value = .ok v) : s.decode "" source.node = .ok v := by
  cases s with
  | captureScreenshots | captureLogs | stopOnFailure | keepOpen =>
    rw [decode, truth_node h]
    rfl
  | reportFormat =>
    -- The format is a string by assumption: JSON would also take it as the key of an object.
    obtain ⟨pieces, rfl⟩ := hformat rfl
    replace h : Decode.spelled (spelling pieces) >>= Decode.constantOf _ = .ok v := h
    cases hspelled : Decode.spelled (spelling pieces) with
    | error e => rw [hspelled] at h; cases h
    | ok text =>
      rw [hspelled] at h
      have htext := (hkeeps pieces rfl).eq_of_spelled (IsScalar.whole hreadable) hspelled
      show (formatOf (String.ofList (folded pieces))).mapError _ = _
      rw [htext, formatOf_eq_ok h]
      rfl
  | reportDir =>
    rw [decode, path_node hreadable hkeeps h]
    rfl
  | stepDelayMs =>
    simp only [decodeJson, Decode.nullable] at h
    split at h
    · next hnull =>
      -- Null stands for no delay in both.
      cases source <;> cases hnull
      cases h
      rfl
    · cases hnumber : Decode.uint64 source.value with
      | error e => rw [hnumber] at h; cases h
      | ok n =>
        rw [hnumber] at h
        obtain ⟨hread, habsent⟩ := number_node hnumber
        cases h
        simp only [decode, habsent, hread]
        rfl

end Setting

/-! ## Objects -/

theorem MembersSource.nodes_eq_map (source : MembersSource) :
    source.nodes = source.list.map fun m => (stringNode m.1, m.2.node) := by
  cases source with
  | last => rfl
  | cons _ _ _ _ _ _ rest => rw [nodes, list, List.map_cons, rest.nodes_eq_map]

theorem MembersSource.IsReadable.member {source : MembersSource} (h : source.IsReadable) :
    ∀ m ∈ source.list, (∀ p ∈ m.1, p.Whole) ∧ m.2.IsReadable := by
  match source with
  | .last _ _ _ _ _ _ => exact List.forall_mem_singleton.mpr ⟨h.1.whole, h.2⟩
  | .cons _ _ _ _ _ _ rest =>
    exact List.forall_mem_cons.mpr ⟨⟨h.1.whole, h.2.1⟩, IsReadable.member h.2.2⟩

theorem JsonSource.IsReadable.member {source : JsonSource} (h : source.IsReadable) :
    ∀ m ∈ source.members, (∀ p ∈ m.1, p.Whole) ∧ m.2.IsReadable := by
  cases source with
  | object members => exact MembersSource.IsReadable.member h
  | _ => exact fun m hm => absurd hm List.not_mem_nil

/-- The members of an object are what is read from it, in JSON and in YAML. -/
theorem JsonSource.members_of_object {source : JsonSource} {values : List (Spelling × JsonText)}
    (h : source.value = .object values) :
    values = source.members.map (fun m => (spelling m.1, m.2.value)) ∧
      source.node = .mapping none (source.members.map fun m => (stringNode m.1, m.2.node)) := by
  cases source with
  | emptyObject =>
    cases h
    exact ⟨rfl, rfl⟩
  | object members =>
    cases h
    exact ⟨members.values_eq_map, congrArg _ members.nodes_eq_map⟩
  | _ => cases h

/-- A member is the same in YAML as it is in JSON. -/
structure JsonSource.Agrees (m : List Piece × JsonSource) : Prop where
  /-- YAML keeps its key. -/
  key : Keeps m.1
  /-- YAML keeps its value, if that is a string. -/
  value : ∀ pieces, m.2 = .string pieces → Keeps pieces
  /-- If it says what the format is, then by a string. -/
  format : spelling m.1 = .ok Setting.reportFormat.name → ∃ pieces, m.2 = .string pieces

/-- YAML has the same members for an object as JSON. -/
structure JsonDocument.IsPortable (document : JsonDocument) : Prop extends
    JsonDocument.IsReadable document where
  /-- YAML allows all the characters. -/
  allowed : ∀ c ∈ document.text.toList, isAllowed c = true
  /-- Every member is the same. -/
  agrees : ∀ m ∈ document.source.members, Agrees m

namespace RunConfig

variable {base config : RunConfig} {seen : List Setting} {members : List (List Piece × JsonSource)}

/-- With a member for an option, decoding comes to a configuration if the option has not been set
before, its value can be decoded, and the other members come to it then. -/
theorem setMembers_cons_eq_ok_iff {key : Spelling} {value : JsonText} {name : String} {s : Setting}
    {rest : List (Spelling × JsonText)} (hkey : key = .ok name)
    (hname : Setting.ofName? name = some s) :
    setMembers base seen ((key, value) :: rest) = .ok config ↔
      s ∉ seen ∧ ∃ v, s.decodeJson value = .ok v ∧
        setMembers (base.withValue s v) (s :: seen) rest = .ok config := by
  rw [setMembers, hkey]
  simp only [Decode.spelled, bind, Except.bind, hname]
  by_cases hseen : s ∈ seen
  · simp [hseen]
  · simp only [List.contains_eq_mem, hseen, decide_false, Bool.false_eq_true, if_false,
      not_false_eq_true, true_and]
    cases s.decodeJson value <;> simp

/-- What members set in JSON they set in YAML. -/
theorem setEntries_of_setMembers
    (hreadable : ∀ m ∈ members, (∀ p ∈ m.1, p.Whole) ∧ m.2.IsReadable)
    (hagrees : ∀ m ∈ members, Agrees m)
    (h : setMembers base seen (members.map fun m => (spelling m.1, m.2.value)) = .ok config) :
    setEntries base seen (members.map fun m => (String.ofList (folded m.1), m.2.node)) =
      .ok config := by
  induction members generalizing base seen with
  | nil =>
    cases h
    rfl
  | cons m members ih =>
    rw [List.forall_mem_cons] at hreadable hagrees
    obtain ⟨⟨hwhole, hvalue⟩, hreadable⟩ := hreadable
    obtain ⟨hm, hagrees⟩ := hagrees
    -- The key is the same text in both, so that it names the same option, if any.
    have hkey : spelling m.1 = .ok (String.ofList (folded m.1)) := by
      rw [spelling_eq hwhole, hm.key]
    cases hname : Setting.ofName? (String.ofList (folded m.1)) with
    | none =>
      rw [List.map_cons, setMembers, hkey] at h
      simp only [Decode.spelled, bind, Except.bind, hname] at h
      rw [List.map_cons, setEntries, hname]
      exact ih hreadable hagrees h
    | some s =>
      obtain ⟨hseen, v, hdecode, hrest⟩ := (setMembers_cons_eq_ok_iff hkey hname).mp h
      have hnode : s.decode "" m.2.node = .ok v := by
        refine Setting.decode_node hvalue hm.value ?_ hdecode
        rintro rfl
        obtain hname | hother := Setting.ofName?_eq_some_iff.mp hname
        · exact hm.format (hname ▸ hkey)
        · cases hother
      refine (setEntries_cons_eq_ok_iff hname).mpr ⟨hseen, v, ?_, ih hreadable hagrees hrest⟩
      rw [Setting.decode?, hnode]
      rfl

/-- The entries of an object are its members, with their texts in YAML. -/
theorem mapM_entryOf? (document : Document) (members : List (List Piece × JsonSource)) :
    (members.map fun m => (stringNode m.1, m.2.node)).mapM (entryOf? document) =
      some (members.map fun m => (String.ofList (folded m.1), m.2.node)) := by
  induction members with
  | nil => rfl
  | cons m members ih =>
    have hentry : entryOf? document (stringNode m.1, m.2.node) =
        some (String.ofList (folded m.1), m.2.node) := by
      obtain ⟨key, source⟩ := m
      cases source <;> rfl
    simp [hentry, ih]

/-- The entries of the text of an object are its members, with their texts in YAML. -/
theorem entries?_text {document : JsonDocument} {values : List (Spelling × JsonText)}
    (hreadable : document.IsReadable) (hobject : document.source.value = .object values)
    (hallowed : ∀ c ∈ document.text.toList, isAllowed c = true) :
    entries? document.text =
      some (document.source.members.map fun m => (String.ofList (folded m.1), m.2.node)) := by
  obtain ⟨targets, hread⟩ := document.read_eq hreadable hobject hallowed
  have hblank : isBlankText document.text = false := by
    obtain ⟨chars, hchars⟩ := JsonSource.exists_chars_eq_cons hobject
    have hbrace : '\x7b' ∈ document.text.toList := by simp [JsonDocument.text, hchars]
    exact List.all_eq_false.mpr ⟨'\x7b', hbrace, by decide⟩
  rw [entries?, hblank, if_neg Bool.false_ne_true, hread,
    (JsonSource.members_of_object hobject).2]
  exact mapM_entryOf? _ _

/-- An object that is a configuration in JSON is the same one in YAML, if YAML has the same members
for it. -/
theorem read_of_isPortable {document : JsonDocument} {values : List (Spelling × JsonText)}
    (hportable : document.IsPortable) (hobject : document.source.value = .object values)
    (h : ofMembers values = .ok config) : read document.text = .ok config := by
  have hentries := entries?_text hportable.toIsReadable hobject hportable.allowed
  rw [(JsonSource.members_of_object hobject).1] at h
  rw [← mapError_eq_ok_iff (f := ConfigError.unplaced), read_unplaced hentries]
  exact setEntries_of_setMembers hportable.source.member hportable.agrees h

end RunConfig

end BrowserFlow
