import QueryBind.Proofs.Observe.Redaction
import QueryBind.Proofs.Value.Serialized

/-! # Data in lines

Data can be redacted, and what is shown of them are data (`Redaction.showsData`), so a line has
their text, and what is shown of a record is as long as what is shown of its fields
(`Redaction.size_shown_record`).
-/

namespace QueryBind

open Value (Data)
open Value.Json (size fieldSize quoted)

namespace Redaction

variable {hidden : List String}

/-- What is shown of a value that can be shown. -/
def shown (hidden : List String) (value : Value) : Value :=
  (redact hidden value).toOption.getD .null

/-- A field with what is shown of its value. -/
def shownField (hidden : List String) (field : String × Value) : String × Value :=
  (field.1, if hides hidden field.1 then mark else shown hidden field.2)

/-- Fields that are assigned to a record one after the other are its fields in the end, in the
order in which they are enumerated. -/
theorem redactInto_perm {fields acc : Fields} (distinct : (acc.names ++ fields.names).Nodup)
    (own : Bearing.heritageName ∉ fields.names)
    (redacts : ∀ field ∈ fields, redact hidden field.2 = .ok (shown hidden field.2)) :
    ∃ out, redactInto hidden ⟨.root, acc⟩ fields = .ok ⟨.root, out⟩ ∧
      out.Perm (acc ++ fields.map (shownField hidden)) := by
  induction fields generalizing acc with
  | nil =>
      refine ⟨acc, rfl, ?_⟩
      rw [List.map_nil, List.append_nil]
  | cons field rest ih =>
      obtain ⟨name, value⟩ := field
      obtain ⟨first, others⟩ := List.forall_mem_cons.mp redacts
      have other : name ≠ Bearing.heritageName := (List.ne_of_not_mem_cons own).symm
      have given : (if hides hidden name then .ok mark else redact hidden value) =
          (.ok (shownField hidden (name, value)).2 : Except Fault Value) := by
        unfold shownField
        cases hides hidden name with
        | true => rfl
        | false => exact first
      have new : name ∉ acc.names := by
        intro among
        exact (List.nodup_append.mp distinct).2.2 name among name List.mem_cons_self rfl
      have defined : (Fields.define acc name (shownField hidden (name, value)).2).Perm
          (acc ++ [shownField hidden (name, value)]) := by
        rw [Fields.define, Fields.contains_eq_false_iff.mpr new]
        exact (Fields.insert_perm acc name _).trans (List.perm_append_singleton _ _).symm
      have names : ((Fields.define acc name (shownField hidden (name, value)).2).names ++
          Fields.names rest).Nodup := by
        have same := (defined.map Prod.fst).append_right (Fields.names rest)
        rw [List.map_append, List.append_assoc] at same
        exact same.nodup_iff.mpr distinct
      obtain ⟨out, filled, perm⟩ := ih names (List.not_mem_of_not_mem_cons own) others
      refine ⟨out, ?_, ?_⟩
      · rw [redactInto_cons, given, ← filled]
        change ((⟨.root, acc⟩ : Record).assign name _ >>= fun assigned =>
          redactInto hidden assigned rest) = _
        rw [Record.assign_of_ne acc other]
        rfl
      · rw [List.map_cons]
        exact perm.trans ((defined.append_right _).trans (by simp))

/-- What is shown is what redacting comes to. -/
theorem shown_of_redact {value result : Value} (came : redact hidden value = .ok result) :
    shown hidden value = result := by
  rw [shown, came]
  rfl

private theorem redact_of_filled {fields out : Fields}
    (filled : redactInto hidden {} fields = .ok ⟨.root, out⟩) :
    redact hidden (.record fields) = .ok (.record out) := by
  rw [redact, filled]
  rfl

/-- A value of which data are shown. -/
def ShowsData (hidden : List String) (value : Value) : Prop :=
  redact hidden value = .ok (shown hidden value) ∧ (shown hidden value).Data

private theorem showsData_of_redact {value result : Value} (came : redact hidden value = .ok result)
    (data : result.Data) : ShowsData hidden value := by
  have same := shown_of_redact came
  exact ⟨by rw [same, came], by rw [same]; exact data⟩

private theorem redactInto_data {fields : Fields} (proper : fields.Proper)
    (each : ∀ field ∈ fields, ShowsData hidden field.2) :
    ∃ out, redactInto hidden {} fields = .ok ⟨.root, out⟩ ∧
      out.Perm (fields.map (shownField hidden)) ∧ (Value.record out).Data := by
  have distinct : (Fields.names [] ++ fields.names).Nodup := proper.distinct
  obtain ⟨out, filled, perm⟩ := redactInto_perm distinct proper.own
    fun field among => (each field among).1
  refine ⟨out, filled, perm, .record (proper.of_perm ?_) ?_⟩
  · have names := perm.map Prod.fst
    rw [List.nil_append, List.map_map] at names
    exact names
  · intro field among
    obtain ⟨given, member, rfl⟩ := List.mem_map.mp (perm.mem_iff.mp among)
    unfold shownField
    cases hides hidden given.1 with
    | true => exact .text _
    | false => exact (each given member).2

/-- Data can be shown, and what is shown of them are data. -/
theorem showsData {value : Value} (data : value.Data) : ShowsData hidden value := by
  induction data with
  | null => exact showsData_of_redact rfl .null
  | bool b => exact showsData_of_redact rfl (.bool b)
  | number n => exact showsData_of_redact rfl (.number n)
  | text s => exact showsData_of_redact rfl (.text s)
  | list each => exact showsData_of_redact rfl (.list each)
  | record proper _ ih =>
      obtain ⟨out, filled, -, data⟩ := redactInto_data proper ih
      exact showsData_of_redact (redact_of_filled filled) data

/-- What is shown of a record is as long as what is shown of its fields. -/
theorem size_shown_record {fields : Fields} (data : (Value.record fields).Data) :
    size (shown hidden (.record fields)) =
      2 + (fields.map fun field => fieldSize (shownField hidden field)).sum +
        (fields.length - 1) := by
  cases data with
  | record proper each =>
      obtain ⟨out, filled, perm, data⟩ := redactInto_data proper
        fun field among => showsData (each field among)
      have lengths := perm.length_eq
      rw [List.length_map] at lengths
      rw [shown_of_redact (redact_of_filled filled), data.size_record,
        (perm.map fieldSize).sum_nat, List.map_map, lengths]
      rfl

end Redaction

namespace Console

/-- A context of data is written as what is shown of it. -/
theorem contextText_of_data {console : Console} {context : Fields} (present : context ≠ [])
    (data : (Value.record context).Data) :
    console.contextText context =
      .ok (some (Value.Json.textOf (Redaction.shown console.hidden (.record context)))) := by
  cases data with
  | record proper each =>
      obtain ⟨out, filled, -, data⟩ := Redaction.redactInto_data proper
        fun field among => Redaction.showsData (each field among)
      have written : Value.Json.text? (.record out) =
          .ok (some (Value.Json.textOf (.record out))) := data.hasText
      rw [Redaction.shown_of_redact (Redaction.redact_of_filled filled)]
      unfold contextText
      rw [if_neg present, filled]
      simp only [bind, Except.bind, Record.toValue, written]
      rfl

/-- The line of an entry that is heavy enough. -/
theorem line_of_contextText {console : Console} {level : Level}
    (heavy : console.threshold ≤ level.rank) (time message : String) {context : Fields}
    {text : String}
    (came : console.contextText (Fields.merge console.context context) = .ok (some text)) :
    console.line time level message context =
      .ok (some (Stream.ofLevel level, Value.Json.braces [("timestamp", quoted time),
        ("level", quoted level.name), ("message", quoted message), ("context", text)])) := by
  unfold line
  rw [if_neg (Int.not_lt.mpr heavy), came]
  rfl

end Console

end QueryBind
