import QueryBind.Proofs.Observe.Shown

/-! # What redaction exposes

A list is written as it is, with all that stands under hidden names in it. So a context of data that
has such a list exposes what is hidden: put texts of different lengths under the hidden names, and
the lines have different lengths (`Redaction.exposes_grows`). With the fact that nothing else is
exposed, this says exactly which contexts a console conceals (`Console.line_conceals_iff`).
-/

namespace QueryBind

open Value (Data)
open Value.Json (size fieldSize quoted)

/-! ## Lengths that grow with a text -/

/-- A length that grows with the quoted form of a text, provided that it does at all. -/
def Grows (length : String → Nat) (does : Prop) : Prop :=
  ∃ base times, (does → 0 < times) ∧ ∀ text, length text = base + times * (quoted text).length

namespace Grows

variable {length other : String → Nat} {does too : Prop}

private theorem const (n : Nat) : Grows (fun _ => n) False :=
  ⟨n, 0, False.elim, fun _ => by rw [Nat.zero_mul, Nat.add_zero]⟩

private theorem quoted (does : Prop) : Grows (fun text => (Value.Json.quoted text).length) does :=
  ⟨0, 1, fun _ => Nat.one_pos, fun _ => by rw [Nat.one_mul, Nat.zero_add]⟩

private theorem mono (grows : Grows length does) (less : too → does) : Grows length too := by
  obtain ⟨base, times, positive, lengths⟩ := grows
  exact ⟨base, times, positive ∘ less, lengths⟩

private theorem congr (grows : Grows length does) (same : ∀ text, other text = length text) :
    Grows other does := by
  obtain ⟨base, times, positive, lengths⟩ := grows
  exact ⟨base, times, positive, fun text => (same text).trans (lengths text)⟩

private theorem add (grows : Grows length does) (growsToo : Grows other too) :
    Grows (fun text => length text + other text) (does ∨ too) := by
  obtain ⟨base, times, positive, lengths⟩ := grows
  obtain ⟨more, again, positiveToo, lengthsToo⟩ := growsToo
  refine ⟨base + more, times + again, ?_, fun text => ?_⟩
  · rintro (first | second)
    · exact Nat.add_pos_left (positive first) again
    · exact Nat.add_pos_right times (positiveToo second)
  · simp only [lengths, lengthsToo, Nat.add_mul]
    omega

/-- A sum grows if one of its parts does. -/
theorem sum {α : Type} {items : List α} {length : α → String → Nat} {does : α → Prop}
    (each : ∀ item ∈ items, Grows (length item) (does item)) :
    Grows (fun text => (items.map (length · text)).sum) (∃ item ∈ items, does item) := by
  induction items with
  | nil => exact (const 0).mono (by simp)
  | cons item rest ih =>
      obtain ⟨first, others⟩ := List.forall_mem_cons.mp each
      refine ((first.add (ih others)).mono ?_).congr fun text => ?_
      · rintro ⟨found, among, grows⟩
        rcases List.mem_cons.mp among with rfl | later
        · exact .inl grows
        · exact .inr ⟨found, later, grows⟩
      · rw [List.map_cons, List.sum_cons]

/-- Texts whose quoted forms are not equally long make a difference. -/
theorem ne (grows : Grows length does) (yes : does) : length "" ≠ length "a" := by
  obtain ⟨base, times, positive, lengths⟩ := grows
  have often := positive yes
  have short : (Value.Json.quoted "").length = 2 := by decide
  have long : (Value.Json.quoted "a").length = 3 := by decide
  rw [lengths, lengths, short, long]
  omega

end Grows

namespace Redaction

variable {hidden : List String}

/-! ## Data with a text under the hidden names -/

private theorem coverItems_eq_map {stand : Value} (items : List Value) :
    coverItems hidden stand true items = items.map (cover hidden stand true) := by
  induction items with
  | nil => rfl
  | cons item rest ih => rw [coverItems, ih, List.map_cons]

private theorem mentionsItems_eq_any (items : List Value) :
    mentionsItems hidden items = items.any (mentions hidden) := by
  induction items with
  | nil => rfl
  | cons item rest ih => rw [mentionsItems, ih, List.any_cons]

private theorem mentionsFields_eq_any (fields : Fields) :
    mentionsFields hidden fields =
      fields.any fun field => hides hidden field.1 || mentions hidden field.2 := by
  induction fields with
  | nil => rfl
  | cons field rest ih => rw [mentionsFields, ih, List.any_cons]

private theorem exposesFields_eq_any (fields : Fields) :
    exposesFields hidden fields =
      fields.any fun field => !hides hidden field.1 && exposes hidden field.2 := by
  induction fields with
  | nil => rfl
  | cons field rest ih => rw [exposesFields, ih, List.any_cons]

/-- Data are data with other data under the hidden names. -/
theorem data_cover (hidden : List String) {value stand : Value} (data : value.Data)
    (other : stand.Data) : (cover hidden stand true value).Data := by
  induction data with
  | null => exact .null
  | bool b => exact .bool b
  | number n => exact .number n
  | text s => exact .text s
  | list _ ih =>
      rw [cover, if_pos rfl, coverItems_eq_map]
      refine .list fun item among => ?_
      obtain ⟨given, member, rfl⟩ := List.mem_map.mp among
      exact ih given member
  | record proper _ ih =>
      rw [cover, coverFields_eq_map]
      refine .record (proper.of_perm ?_) fun field among => ?_
      · rw [Fields.names, List.map_map]
        exact .refl _
      · obtain ⟨given, member, rfl⟩ := List.mem_map.mp among
        dsimp only
        split
        · exact other
        · exact ih given member

/-! ## Their lengths -/

private theorem field_grows (name : String) {length : String → Nat} {does : Prop}
    (grows : Grows length does) :
    Grows (fun text => (quoted name).length + 1 + length text) does :=
  ((Grows.const _).add grows).mono .inr

/-- Nothing is put into a value that is not looked into. -/
theorem flat_grows (length : Value → Nat) {value : Value} (flat : isNested value = false)
    {does : Prop} (never : ¬does) :
    Grows (fun text => length (cover hidden (.text text) true value)) does :=
  ((Grows.const (length value)).mono never).congr fun _ => by rw [cover_of_not_nested flat]

/-- A value that mentions a hidden name is longer with a longer text under it. -/
theorem mentions_grows {value : Value} (data : value.Data) :
    Grows (fun text => size (cover hidden (.text text) true value))
      (mentions hidden value = true) := by
  induction data with
  | null | bool b | number n | text s =>
      exact flat_grows size rfl (Bool.eq_false_iff.mp (mentions_of_not_nested rfl))
  | @list items each ih =>
      refine (((Grows.const (2 + (items.length - 1))).add (Grows.sum ih)).mono ?_).congr ?_
      · intro mentioned
        rw [mentions, mentionsItems_eq_any, List.any_eq_true] at mentioned
        exact .inr mentioned
      · intro text
        have whole := data_cover hidden (.list each) (.text text)
        rw [cover, if_pos rfl, coverItems_eq_map] at whole ⊢
        rw [whole.size_list, List.map_map, List.length_map]
        exact Nat.add_right_comm _ _ _
  | @record fields proper each ih =>
      have grows : ∀ field ∈ fields, Grows (fun text => fieldSize (field.1,
          if hides hidden field.1 then .text text else cover hidden (.text text) true field.2))
            (hides hidden field.1 || mentions hidden field.2) := by
        intro field among
        cases hides hidden field.1 with
        | true => exact field_grows field.1 (Grows.quoted _)
        | false => exact field_grows field.1 (ih field among)
      refine (((Grows.const (2 + (fields.length - 1))).add (Grows.sum grows)).mono ?_).congr ?_
      · intro mentioned
        rw [mentions, mentionsFields_eq_any, List.any_eq_true] at mentioned
        exact .inr mentioned
      · intro text
        have whole := data_cover hidden (.record proper each) (.text text)
        rw [cover, coverFields_eq_map] at whole ⊢
        rw [whole.size_record, List.map_map, List.length_map]
        exact Nat.add_right_comm _ _ _

/-- What is shown of fields is longer if one of them exposes a longer text. -/
theorem fields_grow {fields : Fields}
    (each : ∀ field ∈ fields,
      Grows (fun text => size (shown hidden (cover hidden (.text text) true field.2)))
        (exposes hidden field.2 = true)) :
    Grows (fun text => ((coverFields hidden (.text text) true fields).map fun field =>
      fieldSize (shownField hidden field)).sum) (exposesFields hidden fields = true) := by
  have grows : ∀ field ∈ fields, Grows (fun text => fieldSize (shownField hidden (field.1,
      if hides hidden field.1 then .text text else cover hidden (.text text) true field.2)))
        (!hides hidden field.1 && exposes hidden field.2) := by
    intro field among
    cases known : hides hidden field.1 with
    | true =>
        refine ((Grows.const (fieldSize (field.1, mark))).mono nofun).congr fun text => ?_
        simp only [shownField, known, if_true]
    | false =>
        refine (field_grows field.1 (each field among)).congr fun text => ?_
        simp only [shownField, known, Bool.false_eq_true, if_false]
        rfl
  refine ((Grows.sum grows).mono fun exposed => ?_).congr fun text => ?_
  · rw [exposesFields_eq_any, List.any_eq_true] at exposed
    exact exposed
  · rw [coverFields_eq_map, List.map_map]
    rfl

/-- What is shown of a value is longer if it exposes a longer text. -/
theorem exposes_grows {value : Value} (data : value.Data) :
    Grows (fun text => size (shown hidden (cover hidden (.text text) true value)))
      (exposes hidden value = true) := by
  induction data with
  | null | bool b | number n | text s =>
      exact flat_grows (fun value => size (shown hidden value)) rfl
        (Bool.eq_false_iff.mp (exposes_of_not_nested rfl))
  | @list items each =>
      have written : Grows (fun text => size (cover hidden (.text text) true (.list items)))
          (mentions hidden (.list items) = true) := mentions_grows (.list each)
      refine (written.mono fun exposed => ?_).congr fun text => ?_
      · rw [exposes] at exposed
        rw [mentions, exposed]
      · rw [cover, shown_of_redact rfl]
  | @record fields proper each ih =>
      refine (((Grows.const (2 + (fields.length - 1))).add (fields_grow ih)).mono .inr).congr ?_
      intro text
      have whole := data_cover hidden (.record proper each) (.text text)
      rw [cover] at whole ⊢
      rw [size_shown_record whole, coverFields_eq_map, List.length_map]
      exact Nat.add_right_comm _ _ _

private theorem names_coverFields (stand : Value) (fields : Fields) :
    Fields.names (coverFields hidden stand true fields) = fields.names := by
  rw [coverFields_eq_map, Fields.names, List.map_map]
  rfl

/-- What is shown of merged fields is longer if the second list exposes a longer text. -/
theorem merge_grows {base extra : Fields} (data : (Value.record base).Data)
    (dataToo : (Value.record extra).Data) :
    Grows (fun text => size (shown hidden (.record
      (Fields.merge base (coverFields hidden (.text text) true extra)))))
        (exposesFields hidden extra = true) := by
  have added : Grows (fun text => ((coverFields hidden (.text text) true extra).map fun field =>
      fieldSize (shownField hidden field)).sum) (exposesFields hidden extra = true) := by
    cases dataToo with
    | record proper each => exact fields_grow fun field among => exposes_grows (each field among)
  let kept : Fields := base.without extra.names
  let keptSize := (kept.map fun field => fieldSize (shownField hidden field)).sum
  let total := kept.length + extra.length
  refine (((Grows.const (2 + keptSize + (total - 1))).add added).mono .inr).congr fun text => ?_
  have covered : (Value.record (coverFields hidden (.text text) true extra)).Data :=
    data_cover hidden dataToo (.text text)
  have perm : (Fields.merge base (coverFields hidden (.text text) true extra)).Perm
      (kept ++ coverFields hidden (.text text) true extra) := by
    have merged := Fields.merge_perm data.proper.distinct covered.proper.distinct
    rw [names_coverFields] at merged
    exact merged
  have lengths : (Fields.merge base (coverFields hidden (.text text) true extra)).length =
      total := by
    rw [perm.length_eq, List.length_append, coverFields_eq_map, List.length_map]
  rw [size_shown_record (data.merge covered), lengths, (perm.map _).sum_nat, List.map_append,
    List.sum_append_nat]
  omega

end Redaction

namespace Console

open Redaction (Alike coverFields exposesFields)

section Exposed

variable {console : Console} (standing : (Value.record console.context).Data) {context : Fields}
  (data : (Value.record context).Data)

include standing data

/-- The line of a context with a text under the hidden names. -/
theorem line_coverFields (present : context ≠ []) {level : Level}
    (heavy : console.threshold ≤ level.rank) (time message text : String) :
    console.line time level message (coverFields console.hidden (.text text) true context) =
      .ok (some (Stream.ofLevel level, Value.Json.braces [("timestamp", quoted time),
        ("level", quoted level.name), ("message", quoted message),
        ("context", Value.Json.textOf (Redaction.shown console.hidden (.record (Fields.merge
          console.context (coverFields console.hidden (.text text) true context)))))])) := by
  have covered : (Value.record (coverFields console.hidden (.text text) true context)).Data :=
    Redaction.data_cover console.hidden data (.text text)
  have presentToo : coverFields console.hidden (.text text) true context ≠ [] := by
    rw [Redaction.coverFields_eq_map]
    exact fun empty => present (List.map_eq_nil_iff.mp empty)
  have merged := Fields.merge_ne_nil standing.proper.distinct covered.proper.distinct presentToo
  exact line_of_contextText heavy time message
    (contextText_of_data merged (standing.merge covered))

/-- A context of data that exposes what is hidden is not concealed. -/
theorem exists_line_ne_of_exposed {level : Level} (heavy : console.threshold ≤ level.rank)
    (exposed : exposesFields console.hidden context = true) (time message : String) :
    ∃ other, (Value.record other).Data ∧ Alike console.hidden context other ∧
      console.line time level message context ≠ console.line time level message other := by
  have present : context ≠ [] := by
    rintro rfl
    cases exposed
  have differ := (Redaction.merge_grows standing data).ne exposed
  have written := line_coverFields standing data present heavy time message
  have candidate (text : String) :
      (Value.record (coverFields console.hidden (.text text) true context)).Data ∧
        Alike console.hidden context (coverFields console.hidden (.text text) true context) :=
    ⟨Redaction.data_cover console.hidden data (.text text),
      (Redaction.coverFields_coverFields Redaction.mark context).symm⟩
  -- the lines with the two texts differ, so the line of the context differs from one of them
  by_cases same : console.line time level message context =
      console.line time level message (coverFields console.hidden (.text "") true context)
  · refine ⟨_, (candidate "a").1, (candidate "a").2, fun sameToo => differ ?_⟩
    have lines := (written "").symm.trans (same.symm.trans (sameToo.trans (written "a")))
    simp only [Except.ok.injEq, Option.some.injEq, Prod.mk.injEq, true_and] at lines
    have lengths := congrArg String.length lines
    rw [Value.Json.length_braces, Value.Json.length_braces] at lengths
    simp only [List.map_cons, List.sum_cons, List.length_cons] at lengths
    unfold size
    omega
  · exact ⟨_, (candidate "").1, (candidate "").2, same⟩

end Exposed

/-- **A console conceals what stands in records, and shows what stands in lists.** A console is
made with any hidden names, and comes down a chain of contexts. Two contexts that differ only under
hidden names have the same line, unless a list that is itself under no hidden name has one in it.
For data this is exact: if all contexts of the chain are data and the level is heavy enough, a
context of data has the line of every other that differs from it only under hidden names if and
only if it has no such list. -/
theorem line_conceals_iff (threshold : Option Int) (base : Fields) (given : Option (List String))
    (chain : List Fields) (time : String) (level : Level) (message : String) :
    let console := chain.foldl child (make threshold base given)
    let hidden := (given.getD Redaction.standardNames).map Text.lowerCase
    (∀ context other, exposesFields hidden context = false → Alike hidden context other →
      console.line time level message context = console.line time level message other) ∧
    (threshold.getD 2 ≤ level.rank → (∀ standing ∈ base :: chain, (Value.record standing).Data) →
      ∀ context, (Value.record context).Data →
        ((∀ other, (Value.record other).Data → Alike hidden context other →
          console.line time level message context = console.line time level message other) ↔
            exposesFields hidden context = false)) := by
  intro console hidden
  have reached : console = { make threshold base given with
      context := chain.foldl Fields.merge base } := children_eq _ chain
  have names : console.hidden = hidden := by
    rw [reached]
    rfl
  have conceals (context other : Fields) (sealed : exposesFields hidden context = false)
      (alike : Alike hidden context other) :
      console.line time level message context = console.line time level message other := by
    rw [← names] at sealed alike
    exact console.line_congr time level message sealed alike
  refine ⟨conceals, fun heavy each context data => ⟨fun same => ?_, fun sealed other _ =>
    conceals context other sealed⟩⟩
  obtain ⟨first, others⟩ := List.forall_mem_cons.mp each
  have standing : (Value.record console.context).Data := by
    rw [reached]
    exact first.merge_chain others
  have written : console.threshold ≤ level.rank := by
    rw [reached]
    exact heavy
  refine eq_false_of_ne_true fun exposed => ?_
  rw [← names] at exposed
  obtain ⟨other, dataToo, alike, differ⟩ :=
    exists_line_ne_of_exposed standing data written exposed time message
  rw [names] at alike
  exact differ (same other dataToo alike)

/-- A password in a record is concealed, and a password in a list of records is not. -/
theorem line_conceals_iff_of_users :
    let console := [[("app", Value.text "shop")]].foldl child (make none [] none)
    (∀ time, console.line time .info "login"
        [("user", .record [("Password", .text "hunter2")])] =
      console.line time .info "login" [("user", .record [("Password", .text "swordfish")])]) ∧
    ∀ time, ¬ ∀ other, (Value.record other).Data →
      Alike (Redaction.standardNames.map Text.lowerCase)
        [("users", .list [.record [("password", .text "hunter2")]])] other →
      console.line time .info "login"
        [("users", .list [.record [("password", .text "hunter2")]])] =
          console.line time .info "login" other := by
  intro console
  have single {name : String} {value : Value} (other : name ≠ Bearing.heritageName)
      (data : value.Data) : (Value.record [(name, value)]).Data :=
    .record ⟨by simp [Fields.names], by simpa [Fields.names] using other.symm⟩ (by simpa using data)
  refine ⟨fun time => ?_, fun time same => ?_⟩
  · exact (line_conceals_iff none [] none [[("app", .text "shop")]] time .info "login").1 _ _
      (by decide) (by rfl)
  · have each : ∀ standing ∈ [[], [("app", Value.text "shop")]], (Value.record standing).Data := by
      simp only [List.forall_mem_cons]
      exact ⟨.record ⟨.nil, by simp [Fields.names]⟩ (by simp), single (by decide) (.text _),
        by simp⟩
    have data : (Value.record [("users", .list [.record [("password", .text "hunter2")]])]).Data :=
      single (by decide) (.list (by simpa using single (by decide) (.text _)))
    have concealed := ((line_conceals_iff none [] none [[("app", .text "shop")]] time .info
      "login").2 (by decide) each _ data).mp same
    revert concealed
    decide

end Console

end QueryBind
