import BrowserFlow.Proofs.Json.Reading
import BrowserFlow.Report.Render

/-!
# Reports in JSON are lossless

A report is read back from its JSON text as it was, so that different reports have different texts
(`ReportDocument.read_render_json`). What a decoder gives for the text of a value is shown for the
parts of a report, from numbers up to records, and then for the report. An object is decoded if its
members are fields of the record, each once and each with a value that the field takes
(`Decode.members_object`).
-/

namespace BrowserFlow

namespace Decode

@[simp] theorem ok_bind {ε α β : Type} (a : α) (f : α → Except ε β) : (Except.ok a >>= f) = f a :=
  rfl

/-! ## Texts, numbers and lists -/

@[simp] theorem string_asText (s : String) : string (Json.string s).asText = .ok s :=
  rfl

@[simp] theorem nullable_string_asText (s : String) :
    nullable string (Json.string s).asText = .ok (some s) :=
  rfl

theorem naturalBelow_asText {bound n : Nat} (hbound : bound ≤ UInt64.size) (hn : n < bound)
    (name : String) : naturalBelow bound name (Json.natural n).asText = .ok n := by
  have hvalue := Numeral.value?_toDigits (Nat.lt_of_lt_of_le hn hbound)
  simp [naturalBelow, Json.asText, hvalue, hn]

@[simp] theorem uint32_asText (n : UInt32) : uint32 (Json.natural n.toNat).asText = .ok n := by
  rw [uint32, naturalBelow_asText (by decide) n.toNat_lt]
  simp [Except.map]

@[simp] theorem uint64_asText (n : UInt64) : uint64 (Json.natural n.toNat).asText = .ok n := by
  rw [uint64, naturalBelow_asText (by decide) n.toNat_lt]
  simp [Except.map]

/-- A list is decoded if its items are. -/
theorem list_asText {α : Type} {decode : Decoder α} {encode : α → Json}
    (h : ∀ a, decode (encode a).asText = .ok a) (as : List α) :
    list decode (Json.array (as.map encode)).asText = .ok as := by
  rw [Json.asText, Json.itemsAsText_eq_map, List.map_map, list]
  induction as with
  | nil => rfl
  | cons a as ih =>
    rw [List.map_cons, each, Function.comp_apply, h a, ok_bind, ih, ok_bind]
    rfl

/-! ## Objects -/

@[simp] theorem Field.name_of {α : Type} (name : String) (decode : Decoder α) :
    (Field.of name decode).name = name :=
  rfl

/-- A field takes what its decoder decodes. -/
@[simp] theorem Field.check_of_eq_ok_iff {α : Type} {name : String} {decode : Decoder α}
    {value : JsonText} :
    (Field.of name decode).check value = .ok () ↔ ∃ a, decode value = .ok a := by
  cases h : decode value <;> simp [Field.of, h, bind, Except.bind, pure, Except.pure]

/-- A member belongs to a field, and the field takes its value. -/
def Accepts (fields : List Field) (member : String × JsonText) : Prop :=
  ∃ field, fields.find? (·.name == member.1) = some field ∧ field.check member.2 = .ok ()

/-- Members that belong to different fields, none of which has been seen, are all taken. -/
theorem fieldsOf_eq_ok {fields : List Field} {members : Members}
    (haccepts : ∀ m ∈ members, Accepts fields m) :
    ∀ seen : Members, ((seen ++ members).map Prod.fst).Nodup →
      fieldsOf fields seen (members.map fun m => (.ok m.1, m.2)) = .ok (seen ++ members) := by
  induction members with
  | nil =>
    intro seen _
    rw [List.map_nil, fieldsOf, List.append_nil]
  | cons member members ih =>
    intro seen hnodup
    rw [List.forall_mem_cons] at haccepts
    obtain ⟨field, hfind, hcheck⟩ := haccepts.1
    -- A member that had been seen would be refused.
    have hnew : seen.any (·.1 == member.1) = false := by
      rw [List.map_append, List.map_cons, List.nodup_append] at hnodup
      simp only [List.any_eq_false, beq_iff_eq]
      exact fun m hm => hnodup.2.2 m.1 (List.mem_map_of_mem hm) member.1 List.mem_cons_self
    have hrest := ih haccepts.2 (seen ++ [member]) (by simpa using hnodup)
    rw [List.map_cons, fieldsOf, spelled, ok_bind]
    simp only [hfind, hnew, hcheck, ok_bind]
    simpa using hrest

/-- An object is taken as it stands if its members belong to different fields, which take their
values. -/
theorem members_object (shape : Shape) (origin : Origin) {members : List (String × Json)}
    (hnodup : (members.map Prod.fst).Nodup)
    (haccepts : ∀ m ∈ members, Accepts shape.fields (m.1, m.2.asText)) :
    shape.members origin (Json.object members).asText =
      .ok (members.map fun m => (m.1, m.2.asText)) := by
  have h := fieldsOf_eq_ok (List.forall_mem_map.mpr haccepts) []
    (by simpa [Function.comp_def] using hnodup)
  rw [List.map_map, List.nil_append] at h
  rw [Json.asText, Json.membersAsText_eq_map, Shape.members]
  exact h

end Decode

open Decode

/-! ## The parts of a report -/

@[simp] theorem StepStatus.decode_asText (origin : Origin) (status : StepStatus) :
    StepStatus.decode origin (Json.string status.name).asText = .ok status := by
  cases status <;> rfl

@[simp] theorem LogEntry.decode_asText (origin : Origin) (log : LogEntry) :
    LogEntry.decode origin log.toJson.asText = .ok log :=
  rfl

@[simp] theorem Extraction.decode_asText (origin : Origin) (extraction : Extraction) :
    Extraction.decode origin extraction.toJson.asText = .ok extraction :=
  rfl

@[simp] theorem StepRecord.decode_asText (origin : Origin) (record : StepRecord) :
    StepRecord.decode origin record.toJson.asText = .ok record := by
  obtain ⟨group, description, status, durationMs, error, timestamp⟩ := record
  -- The error is a member only if there is one.
  cases error <;> rw [StepRecord.decode, toJson, members_object, ok_bind]
  case none => simp [Members.required, Members.optional, Members.find]
  case some => simp [Members.required, Members.optional, Members.find]
  case none.hnodup | some.hnodup => simp
  case none.haccepts | some.haccepts => simp [Accepts, StepRecord.shape]

/-! ## Reports -/

namespace ReportDocument

/-- A report is decoded from what is read of its text. -/
theorem decode_asText (origin : Origin) (report : ReportDocument) :
    decode origin report.toJson.asText = .ok report := by
  obtain ⟨sessionId, timestamp, title, url, durationMs, status, successCount, failureCount, steps,
    logs, screenshots, extractions⟩ := report
  have hsteps := list_asText (StepRecord.decode_asText origin) steps
  have hlogs := list_asText (LogEntry.decode_asText origin) logs
  have hscreenshots : list string (Json.strings screenshots).asText = .ok screenshots :=
    list_asText string_asText screenshots
  have hextractions := list_asText (Extraction.decode_asText origin) extractions
  -- The extractions are a member only if there are some.
  cases hempty : extractions.isEmpty <;> rw [decode, toJson, members_object, ok_bind]
  case false => simp [Members.required, Members.optional, Members.find, *]
  case true =>
    rw [List.isEmpty_iff] at hempty
    simp [Members.required, Members.optional, Members.find, *]
  case false.hnodup | true.hnodup => simp [hempty]
  case false.haccepts | true.haccepts => simp [Accepts, shape, *]

/-- A report is read back from its JSON text as it was, so that no other report has this text. -/
theorem read_render_json (report : ReportDocument) :
    (∃ value, JsonText.read? (report.render .json) = some value ∧
      decode .text value = .ok report) ∧
    ∀ other : ReportDocument, other.render .json = report.render .json → other = report := by
  have hread : ∀ report : ReportDocument,
      JsonText.read? (report.render .json) = some report.toJson.asText :=
    fun report => Json.read?_pretty report.toJson
  refine ⟨⟨_, hread report, decode_asText .text report⟩, fun other hsame => ?_⟩
  have htext : other.toJson.asText = report.toJson.asText :=
    Option.some.inj (by rw [← hread other, hsame, hread report])
  have hdecoded : (.ok other : Except DecodeError ReportDocument) = .ok report := calc
    .ok other = decode .text other.toJson.asText := (decode_asText .text other).symm
    _ = decode .text report.toJson.asText := by rw [htext]
    _ = .ok report := decode_asText .text report
  exact Except.ok.inj hdecoded

end ReportDocument

end BrowserFlow
