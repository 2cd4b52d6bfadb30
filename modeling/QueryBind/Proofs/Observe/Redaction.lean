import QueryBind.Observe.Console
import QueryBind.Proofs.Value.Merging

/-! # What redaction conceals

Two contexts are alike if nothing but the values under hidden names differs, at any depth of plain
records and lists (`Redaction.Alike`). A console looks for hidden names in records and passes lists
over, so it conceals the difference unless one of the lists that it passes over mentions a hidden
name (`Redaction.exposesFields`): then both contexts are the same outside of lists, and there is
nothing else to be covered (`Console.line_congr`).
-/

namespace QueryBind

namespace Redaction

section Cover

variable (hidden : List String)

mutual

/-- A value with one and the same value under hidden names, at every depth of plain records, and of
lists if they are looked into. -/
def cover (stand : Value) (lists : Bool) : Value → Value
  | .record fields => .record (coverFields stand lists fields)
  | .bareRecord fields => .bareRecord (coverFields stand lists fields)
  | .list items => .list (if lists then coverItems stand lists items else items)
  | other => other

def coverItems (stand : Value) (lists : Bool) : List Value → List Value
  | [] => []
  | item :: rest => cover stand lists item :: coverItems stand lists rest

def coverFields (stand : Value) (lists : Bool) : List (String × Value) → List (String × Value)
  | [] => []
  | (name, value) :: rest =>
    (name, if hides hidden name then stand else cover stand lists value) ::
      coverFields stand lists rest

end

/-- Contexts that are the same but for values under hidden names. -/
def Alike (first second : Fields) : Prop :=
  coverFields hidden mark true first = coverFields hidden mark true second

mutual

/-- Whether a hidden name stands anywhere in a value. -/
def mentions : Value → Bool
  | .record fields | .bareRecord fields => mentionsFields fields
  | .list items => mentionsItems items
  | _ => false

def mentionsItems : List Value → Bool
  | [] => false
  | item :: rest => mentions item || mentionsItems rest

def mentionsFields : List (String × Value) → Bool
  | [] => false
  | (name, value) :: rest => hides hidden name || mentions value || mentionsFields rest

end

mutual

/-- Whether a hidden name stands in a list that is not itself under a hidden name. -/
def exposes : Value → Bool
  | .record fields | .bareRecord fields => exposesFields fields
  | .list items => mentionsItems hidden items
  | _ => false

def exposesFields : List (String × Value) → Bool
  | [] => false
  | (name, value) :: rest => !hides hidden name && exposes value || exposesFields rest

end

/-- Whether a value is looked into for names. -/
def isNested : Value → Bool
  | .record _ | .bareRecord _ | .list _ => true
  | _ => false

variable {hidden} {stand : Value}

/-- A value without parts is not covered. -/
theorem cover_of_not_nested {lists : Bool} {value : Value} (flat : isNested value = false) :
    cover hidden stand lists value = value := by
  cases value with
  | record fields | bareRecord fields | list items => cases flat
  | _ => rfl

/-- A value without parts mentions nothing. -/
theorem mentions_of_not_nested {value : Value} (flat : isNested value = false) :
    mentions hidden value = false := by
  cases value with
  | record fields | bareRecord fields | list items => cases flat
  | _ => rfl

/-- A value without parts exposes nothing. -/
theorem exposes_of_not_nested {value : Value} (flat : isNested value = false) :
    exposes hidden value = false := by
  cases value with
  | record fields | bareRecord fields | list items => cases flat
  | _ => rfl

private theorem isNested_cover (lists : Bool) (value : Value) :
    isNested (cover hidden stand lists value) = isNested value := by
  cases value <;> rfl

/-- Fields are redacted one after the other. -/
theorem redactInto_cons (record : Record) (name : String) (value : Value) (rest : Fields) :
    redactInto hidden record ((name, value) :: rest) =
      (if hides hidden name then .ok mark else redact hidden value) >>= fun found =>
        record.assign name found >>= fun assigned => redactInto hidden assigned rest := by
  rw [redactInto]
  cases hides hidden name <;> rfl

/-! ## What is outside of lists -/

mutual

/-- Redaction does not look at what it covers. -/
theorem redact_cover (value : Value) :
    redact hidden (cover hidden stand false value) = redact hidden value := by
  cases value with
  | record fields | bareRecord fields =>
      simp only [cover, redact]
      rw [redactInto_coverFields]
  | list items => rfl
  | _ => rw [cover_of_not_nested rfl]

private theorem redactInto_coverFields (record : Record) (fields : List (String × Value)) :
    redactInto hidden record (coverFields hidden stand false fields) =
      redactInto hidden record fields := by
  match fields with
  | [] => rfl
  | (name, value) :: rest =>
      have behind := fun record => redactInto_coverFields record rest
      rw [coverFields, redactInto_cons, redactInto_cons]
      cases known : hides hidden name with
      | true => simp only [if_true, behind]
      | false => simp only [Bool.false_eq_true, if_false, redact_cover value, behind]

end

/-- Fields are covered each on its own. -/
theorem coverFields_eq_map (lists : Bool) (fields : Fields) :
    coverFields hidden stand lists fields = fields.map fun field =>
      (field.1, if hides hidden field.1 then stand else cover hidden stand lists field.2) := by
  induction fields with
  | nil => rfl
  | cons field rest ih => rw [coverFields, ih, List.map_cons]

/-! ## What is inside of lists -/

mutual

private theorem cover_of_unmentioned (value : Value) (plain : mentions hidden value = false) :
    cover hidden stand true value = value := by
  cases value with
  | record fields | bareRecord fields =>
      simp only [mentions] at plain
      rw [cover, coverFields_of_unmentioned fields plain]
  | list items =>
      simp only [mentions] at plain
      rw [cover, if_pos rfl, coverItems_of_unmentioned items plain]
  | _ => rfl

private theorem coverItems_of_unmentioned (items : List Value)
    (plain : mentionsItems hidden items = false) : coverItems hidden stand true items = items := by
  match items with
  | [] => rfl
  | item :: rest =>
      obtain ⟨first, others⟩ := Bool.or_eq_false_iff.mp plain
      rw [coverItems, cover_of_unmentioned item first, coverItems_of_unmentioned rest others]

private theorem coverFields_of_unmentioned (fields : List (String × Value))
    (plain : mentionsFields hidden fields = false) :
    coverFields hidden stand true fields = fields := by
  match fields with
  | [] => rfl
  | (name, value) :: rest =>
      simp only [mentionsFields, Bool.or_eq_false_iff] at plain
      obtain ⟨⟨shown, first⟩, others⟩ := plain
      rw [coverFields, shown, cover_of_unmentioned value first,
        coverFields_of_unmentioned rest others]
      rfl

end

mutual

/-- What is covered keeps its name. -/
theorem mentions_cover (value : Value) :
    mentions hidden (cover hidden stand true value) = mentions hidden value := by
  cases value with
  | record fields | bareRecord fields =>
      simp only [cover, mentions]
      exact mentionsFields_coverFields fields
  | list items =>
      simp only [cover, if_true, mentions]
      exact mentionsItems_coverItems items
  | _ => rfl

private theorem mentionsItems_coverItems (items : List Value) :
    mentionsItems hidden (coverItems hidden stand true items) = mentionsItems hidden items := by
  match items with
  | [] => rfl
  | item :: rest =>
      rw [coverItems, mentionsItems, mentionsItems, mentions_cover item,
        mentionsItems_coverItems rest]

private theorem mentionsFields_coverFields (fields : List (String × Value)) :
    mentionsFields hidden (coverFields hidden stand true fields) =
      mentionsFields hidden fields := by
  match fields with
  | [] => rfl
  | (name, value) :: rest =>
      rw [coverFields, mentionsFields, mentionsFields, mentionsFields_coverFields rest]
      cases known : hides hidden name with
      | true => rfl
      | false =>
          simp only [Bool.false_eq_true, if_false]
          rw [mentions_cover value]

end

mutual

/-- What was covered before is covered again. -/
theorem cover_cover (again value : Value) :
    cover hidden again true (cover hidden stand true value) = cover hidden again true value := by
  cases value with
  | record fields | bareRecord fields =>
      simp only [cover]
      rw [coverFields_coverFields again fields]
  | list items =>
      simp only [cover, if_true]
      rw [coverItems_coverItems again items]
  | _ => rfl

private theorem coverItems_coverItems (again : Value) (items : List Value) :
    coverItems hidden again true (coverItems hidden stand true items) =
      coverItems hidden again true items := by
  match items with
  | [] => rfl
  | item :: rest =>
      rw [coverItems, coverItems, coverItems, cover_cover again item,
        coverItems_coverItems again rest]

/-- Fields that were covered are covered as the fields themselves. -/
theorem coverFields_coverFields (again : Value) (fields : List (String × Value)) :
    coverFields hidden again true (coverFields hidden stand true fields) =
      coverFields hidden again true fields := by
  match fields with
  | [] => rfl
  | (name, value) :: rest =>
      rw [coverFields, coverFields, coverFields, coverFields_coverFields again rest]
      cases known : hides hidden name with
      | true => rfl
      | false =>
          simp only [Bool.false_eq_true, if_false]
          rw [cover_cover again value]

end

/-- Lists that are alike and mention nothing hidden are the same. -/
theorem eq_of_coverItems {items others : List Value}
    (plain : mentionsItems hidden items = false)
    (alike : coverItems hidden stand true items = coverItems hidden stand true others) :
    items = others := by
  have plainToo : mentionsItems hidden others = false := by
    rw [← mentionsItems_coverItems others, ← alike, mentionsItems_coverItems items, plain]
  rw [← coverItems_of_unmentioned items plain, alike, coverItems_of_unmentioned others plainToo]

mutual

/-- Two values that are alike are the same outside of lists, unless a list exposes something. -/
theorem cover_of_unexposed (value other : Value) (sealed : exposes hidden value = false)
    (alike : cover hidden stand true value = cover hidden stand true other) :
    cover hidden stand false value = cover hidden stand false other := by
  cases value with
  | record fields =>
      cases other with
      | record others =>
          exact congrArg Value.record (coverFields_of_unexposed fields others sealed
            (Value.record.inj alike))
      | _ => cases alike
  | bareRecord fields =>
      cases other with
      | bareRecord others =>
          exact congrArg Value.bareRecord (coverFields_of_unexposed fields others sealed
            (Value.bareRecord.inj alike))
      | _ => cases alike
  | list items =>
      cases other with
      | list others => exact congrArg Value.list (eq_of_coverItems sealed (Value.list.inj alike))
      | _ => cases alike
  | _ =>
      have flat : isNested other = false := by
        rw [← isNested_cover true other, ← alike]
        rfl
      rw [cover_of_not_nested flat] at alike
      exact congrArg (cover hidden stand false) alike

private theorem coverFields_of_unexposed (fields others : List (String × Value))
    (sealed : exposesFields hidden fields = false)
    (alike : coverFields hidden stand true fields = coverFields hidden stand true others) :
    coverFields hidden stand false fields = coverFields hidden stand false others := by
  match fields, others with
  | [], [] => rfl
  | [], _ :: _ | _ :: _, [] => cases alike
  | (name, value) :: rest, (again, other) :: behind =>
      simp only [exposesFields, Bool.or_eq_false_iff] at sealed
      obtain ⟨first, later⟩ := sealed
      simp only [coverFields, List.cons.injEq, Prod.mk.injEq] at alike
      obtain ⟨⟨rfl, heads⟩, tails⟩ := alike
      have same : (if hides hidden name then stand else cover hidden stand false value) =
          if hides hidden name then stand else cover hidden stand false other := by
        cases known : hides hidden name with
        | true => rfl
        | false =>
            rw [known] at first heads
            exact cover_of_unexposed value other first heads
      rw [coverFields, coverFields, same, coverFields_of_unexposed rest behind later tails]

end

private theorem coverFields_merge (base extra : Fields) :
    coverFields hidden stand false (Fields.merge base extra) =
      Fields.merge (coverFields hidden stand false base)
        (coverFields hidden stand false extra) := by
  simp only [coverFields_eq_map]
  exact Fields.map_merge
    (fun name value => if hides hidden name then stand else cover hidden stand false value) base
    extra

end Cover

end Redaction

namespace Console

open Redaction (mark coverFields)

/-- What is written of a context is what is outside of its lists. -/
theorem contextText_congr (console : Console) {context other : Fields}
    (same : coverFields console.hidden mark false context =
      coverFields console.hidden mark false other) :
    console.contextText context = console.contextText other := by
  have absent : context = [] ↔ other = [] := by
    rw [Redaction.coverFields_eq_map, Redaction.coverFields_eq_map] at same
    have lengths := congrArg List.length same
    rw [List.length_map, List.length_map] at lengths
    rw [← List.length_eq_zero_iff, lengths, List.length_eq_zero_iff]
  have shown : Redaction.redactInto console.hidden {} context =
      Redaction.redactInto console.hidden {} other := by
    rw [← Redaction.redactInto_coverFields {} context, same, Redaction.redactInto_coverFields]
  unfold contextText
  simp only [absent, shown]

/-- A console conceals what is under hidden names, in what it adds itself and in what it is given,
if no list of the latter exposes anything. -/
theorem line_congr (console : Console) (time : String) (level : Level) (message : String)
    {context other : Fields} (sealed : Redaction.exposesFields console.hidden context = false)
    (alike : Redaction.Alike console.hidden context other) :
    console.line time level message context = console.line time level message other := by
  have same := Redaction.coverFields_of_unexposed context other sealed alike
  have merged : coverFields console.hidden mark false (Fields.merge console.context context) =
      coverFields console.hidden mark false (Fields.merge console.context other) := by
    rw [Redaction.coverFields_merge, same, Redaction.coverFields_merge]
  unfold line
  rw [console.contextText_congr merged]

/-- What comes down a chain of contexts differs in what it adds, and in nothing else. -/
theorem children_eq (console : Console) (chain : List Fields) :
    chain.foldl child console =
      { console with context := chain.foldl Fields.merge console.context } := by
  induction chain generalizing console with
  | nil => rfl
  | cons context chain ih => exact ih (console.child context)

end Console

end QueryBind
