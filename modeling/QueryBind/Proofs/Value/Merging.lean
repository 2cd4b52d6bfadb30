import QueryBind.Value.Record

/-! # Merged fields

Merging takes the fields of the second list over those of the first. Values may be changed by their
names before or after (`Fields.map_merge`), and but for their order the merged fields are those of
the second list and the others of the first (`Fields.merge_perm`).
-/

namespace QueryBind

/-- No name stands twice, and none stands for what a record inherits from. -/
structure Fields.Proper (fields : Fields) : Prop where
  distinct : fields.names.Nodup
  own : Bearing.heritageName ∉ fields.names

namespace Fields

/-- Fields are proper in any order. -/
theorem Proper.of_perm {fields others : Fields} (proper : fields.Proper)
    (same : others.names.Perm fields.names) : others.Proper :=
  ⟨same.nodup_iff.mpr proper.distinct, fun among => proper.own (same.mem_iff.mp among)⟩

section Change

variable (change : String → Value → Value)

private theorem map_insert (fields : Fields) (name : String) (value : Value) :
    (insert fields name value).map (fun field => (field.1, change field.1 field.2)) =
      insert (fields.map fun field => (field.1, change field.1 field.2)) name
        (change name value) := by
  induction fields with
  | nil => rfl
  | cons field rest ih =>
      simp only [insert, List.map_cons]
      split
      · rfl
      · rw [List.map_cons, ih]

/-- Fields may be changed before or after one of them is defined. -/
theorem map_define (fields : Fields) (name : String) (value : Value) :
    (define fields name value).map (fun field => (field.1, change field.1 field.2)) =
      define (fields.map fun field => (field.1, change field.1 field.2)) name
        (change name value) := by
  have known : contains (fields.map fun field => (field.1, change field.1 field.2)) name =
      contains fields name := by
    simp only [contains, List.any_map, Function.comp_def]
  unfold define
  rw [known]
  split
  · rw [List.map_map, List.map_map]
    refine List.map_congr_left fun field _ => ?_
    simp only [Function.comp_apply]
    split
    · next same => rw [← beq_iff_eq.mp same]
    · rfl
  · exact map_insert change fields name value

/-- Changing values by their names, and merging, may be done in either order. -/
theorem map_merge (base extra : Fields) :
    (merge base extra).map (fun field => (field.1, change field.1 field.2)) =
      merge (base.map fun field => (field.1, change field.1 field.2))
        (extra.map fun field => (field.1, change field.1 field.2)) := by
  induction extra generalizing base with
  | nil => rfl
  | cons field rest ih =>
      rw [List.map_cons]
      exact (ih _).trans (congrArg (fun fields => merge fields _) (map_define change base _ _))

end Change

/-! ## The order of fields -/

/-- A name is not contained exactly if it is not among the names. -/
theorem contains_eq_false_iff {fields : Fields} {name : String} :
    contains fields name = false ↔ name ∉ fields.names := by
  simp only [contains, names, List.any_eq_false, beq_iff_eq, List.mem_map, not_exists, not_and]

/-- The fields that have none of some names. -/
def without (fields : Fields) (gone : List String) : Fields :=
  fields.filter fun field => decide (field.1 ∉ gone)

private theorem without_of_not_mem {fields : Fields} {name : String}
    (absent : name ∉ fields.names) : fields.without [name] = fields := by
  refine List.filter_eq_self.mpr fun field among => ?_
  rw [decide_eq_true_eq, List.mem_singleton]
  rintro rfl
  exact absent (List.mem_map_of_mem among)

/-- A field is inserted somewhere among the others. -/
theorem insert_perm (fields : Fields) (name : String) (value : Value) :
    (insert fields name value).Perm ((name, value) :: fields) := by
  induction fields with
  | nil => exact .refl _
  | cons field rest ih =>
      unfold insert
      split
      · exact .refl _
      · exact (ih.cons field).trans (.swap (name, value) field rest)

/-- A name that stands once keeps its place, and takes the new value. -/
theorem replace_perm {fields : Fields} {name : String} (distinct : fields.names.Nodup)
    (known : name ∈ fields.names) (value : Value) :
    (fields.map fun field => if field.1 == name then (field.1, value) else field).Perm
      ((name, value) :: fields.without [name]) := by
  induction fields with
  | nil => cases known
  | cons field rest ih =>
      obtain ⟨old, held⟩ := field
      obtain ⟨new, others⟩ := List.nodup_cons.mp distinct
      by_cases same : old = name
      · subst same
        have kept : (rest.map fun field => if field.1 == old then (field.1, value) else field) =
            rest := by
          refine (List.map_congr_left fun field among => ?_).trans (List.map_id rest)
          have named : field.1 ∈ names rest := List.mem_map_of_mem among
          have different : (field.1 == old) = false :=
            beq_false_of_ne fun equal => new (equal ▸ named)
          rw [different]
          rfl
        have gone : without ((old, held) :: rest) [old] = rest := by
          rw [without, List.filter_cons_of_neg (by simp)]
          exact without_of_not_mem new
        rw [List.map_cons, kept, gone]
        simp
      · have later : name ∈ names rest :=
          (List.mem_cons.mp known).resolve_left (Ne.symm same)
        have different : (old == name) = false := beq_false_of_ne same
        have stays : without ((old, held) :: rest) [name] = (old, held) :: without rest [name] :=
          List.filter_cons_of_pos (by simp [same])
        rw [List.map_cons, different, stays]
        exact ((ih others later).cons _).trans (.swap _ _ _)

private theorem define_perm {fields : Fields} (distinct : fields.names.Nodup) (name : String)
    (value : Value) :
    (define fields name value).Perm ((name, value) :: fields.without [name]) := by
  unfold define
  by_cases known : name ∈ fields.names
  · have found : contains fields name = true :=
      eq_true_of_ne_false fun absent => contains_eq_false_iff.mp absent known
    rw [if_pos found]
    exact replace_perm distinct known value
  · rw [contains_eq_false_iff.mpr known, without_of_not_mem known]
    exact insert_perm fields name value

private theorem without_cons (fields : Fields) (name : String) (gone : List String) :
    (fields.without [name]).without gone = fields.without (name :: gone) := by
  rw [without, without, without, List.filter_filter]
  refine List.filter_congr fun field _ => ?_
  rw [← Bool.decide_and]
  refine decide_eq_decide.mpr ?_
  simp only [List.mem_cons, List.not_mem_nil, or_false, not_or]
  exact and_comm

private theorem nodup_names_define {fields : Fields} (distinct : fields.names.Nodup) (name : String)
    (value : Value) : (define fields name value).names.Nodup := by
  have same : (define fields name value).names.Perm (name :: (fields.without [name]).names) :=
    (define_perm distinct name value).map _
  refine same.nodup_iff.mpr (List.nodup_cons.mpr ⟨?_, ?_⟩)
  · intro among
    obtain ⟨field, kept, named⟩ := List.mem_map.mp among
    have other := of_decide_eq_true (List.mem_filter.mp kept).2
    exact other (List.mem_singleton.mpr named)
  · exact distinct.sublist (List.filter_sublist.map _)

/-- The merged fields are those of the second list, and those of the first whose names the second
does not have. -/
theorem merge_perm {base extra : Fields} (distinct : base.names.Nodup)
    (distinctToo : extra.names.Nodup) :
    (merge base extra).Perm (base.without extra.names ++ extra) := by
  induction extra generalizing base with
  | nil =>
      have all : base.without [] = base := List.filter_eq_self.mpr fun _ _ => rfl
      rw [names, List.map_nil, all, List.append_nil]
      exact .refl _
  | cons field rest ih =>
      obtain ⟨name, value⟩ := field
      obtain ⟨new, others⟩ := List.nodup_cons.mp distinctToo
      have stays : without ((name, value) :: base.without [name]) (names rest) =
          (name, value) :: base.without (name :: names rest) := by
        rw [← without_cons base name (names rest)]
        exact List.filter_cons_of_pos (decide_eq_true new)
      have defined : ((define base name value).without (names rest)).Perm
          ((name, value) :: base.without (name :: names rest)) := by
        rw [← stays]
        exact (define_perm distinct name value).filter _
      calc
        List.Perm (merge (define base name value) rest)
            ((define base name value).without (names rest) ++ rest) :=
          ih (nodup_names_define distinct name value) others
        List.Perm _ ((name, value) :: base.without (name :: names rest) ++ rest) :=
          defined.append_right rest
        List.Perm _ (base.without (name :: names rest) ++ (name, value) :: rest) :=
          List.perm_middle.symm

/-- Fields that are merged with some are some. -/
theorem merge_ne_nil {base extra : Fields} (distinct : base.names.Nodup)
    (distinctToo : extra.names.Nodup) (present : extra ≠ []) : merge base extra ≠ [] := by
  intro empty
  have perm := merge_perm distinct distinctToo
  rw [empty, List.nil_perm] at perm
  exact present (List.append_eq_nil_iff.mp perm).2

/-- Proper fields are merged to proper fields. -/
theorem Proper.merge {base extra : Fields} (proper : base.Proper) (properToo : extra.Proper) :
    (Fields.merge base extra).Proper where
  distinct := by
    have distinct := proper.distinct
    clear properToo proper
    induction extra generalizing base with
    | nil => exact distinct
    | cons field rest ih => exact ih (nodup_names_define distinct field.1 field.2)
  own := fun among => by
    have names := (merge_perm proper.distinct properToo.distinct).map Prod.fst
    obtain ⟨field, member, named⟩ := List.mem_map.mp (names.mem_iff.mp among)
    rcases List.mem_append.mp member with kept | added
    · exact proper.own (List.mem_map.mpr ⟨field, (List.mem_filter.mp kept).1, named⟩)
    · exact properToo.own (List.mem_map.mpr ⟨field, added, named⟩)

end Fields

end QueryBind
