import QueryBind.Proofs.Text.Order

/-! # Units of whole texts

Units that were cut out of a text may begin or end in half of a character. They do not where they
are cut at the end of a text or at a unit that is a character of its own, so what stands between
such places is a text again (`IsWhole.of_append`, `IsWhole.of_append_single`).
-/

namespace QueryBind.Text

/-- The units of two texts one behind the other. -/
theorem units_append (first second : String) :
    units (first ++ second) = units first ++ units second := by
  rw [units, units, units, String.toList_append, List.flatMap_append]

private theorem spell_units_append (text : String) (rest : List UInt16) :
    spell (units text ++ rest) = text.toList.map .whole ++ spell rest := by
  rw [units]
  induction text.toList with
  | nil => rfl
  | cons c cs ih =>
      rw [List.flatMap_cons, List.append_assoc, spell_unitsOf_append, ih, List.map_cons,
        List.cons_append]

/-- The last unit of a character is its only one, or a second half. -/
theorem exists_unitsOf_eq_concat (c : Char) :
    ∃ before last, unitsOf c = before ++ [last] ∧ (before = [] ∨ isLow last = true) := by
  unfold unitsOf
  split
  · exact ⟨[], _, rfl, .inl rfl⟩
  · refine ⟨[_], _, rfl, .inr ?_⟩
    have low : (UInt16.ofNat (0xDC00 + (c.toNat - 0x10000) % 0x400)).toNat =
        0xDC00 + (c.toNat - 0x10000) % 0x400 :=
      UInt16.toNat_ofNat_of_lt (show _ < 65536 by omega)
    simp only [isLow, low, decide_eq_true_eq]
    omega

/-- The units are those of a text: no half of a character stands alone. -/
def IsWhole (given : List UInt16) : Prop :=
  ∃ text, given = units text

namespace IsWhole

variable {first second : List UInt16}

/-- The units of a text are whole. -/
theorem units (text : String) : IsWhole (units text) :=
  ⟨text, rfl⟩

/-- Whole units one behind the other are whole. -/
theorem append (whole : IsWhole first) (wholeToo : IsWhole second) :
    IsWhole (first ++ second) := by
  obtain ⟨text, rfl⟩ := whole
  obtain ⟨other, rfl⟩ := wholeToo
  exact ⟨text ++ other, (units_append text other).symm⟩

/-- Whole units with whole separators are whole. -/
theorem intercalate {separator : List UInt16} (whole : IsWhole separator)
    {items : List (List UInt16)} (all : ∀ item ∈ items, IsWhole item) :
    IsWhole (separator.intercalate items) := by
  induction items with
  | nil => exact ⟨"", rfl⟩
  | cons item rest ih =>
      obtain ⟨own, others⟩ := List.forall_mem_cons.mp all
      cases rest with
      | nil =>
          rw [List.intercalate_singleton]
          exact own
      | cons next rest =>
          rw [List.intercalate_cons_cons]
          exact (own.append whole).append (ih others)

/-- What stands behind a text in a text is a text. -/
theorem of_append {text : String} (whole : IsWhole (Text.units text ++ second)) :
    IsWhole second := by
  obtain ⟨all, same⟩ := whole
  have spelled := congrArg spell same
  rw [spell_units_append, Text.units, spell_unitsOf, eq_comm, List.map_eq_append_iff] at spelled
  obtain ⟨front, back, split, own, -⟩ := spelled
  have begins : front = text.toList := (List.map_inj_right fun _ _ => Piece.whole.inj).mp own
  have joined : all = text ++ String.ofList back := by
    apply String.toList_inj.mp
    rw [split, begins, String.toList_append, String.toList_ofList]
  rw [joined, units_append, List.append_cancel_left_eq] at same
  exact ⟨String.ofList back, same⟩

/-- What stands in front of a unit that is no second half of a character is a text. -/
theorem of_append_single {unit : UInt16} (whole : IsWhole (first ++ [unit]))
    (alone : isLow unit = false) : IsWhole first := by
  obtain ⟨all, same⟩ := whole
  rcases List.eq_nil_or_concat all.toList with empty | ⟨front, last, split⟩
  · rw [Text.units, empty] at same
    exact absurd same (List.append_ne_nil_of_right_ne_nil _ (List.cons_ne_nil _ _))
  · rw [Text.units, split, List.concat_eq_append, List.flatMap_append, List.flatMap_singleton]
      at same
    obtain ⟨before, low, spelled, second⟩ := exists_unitsOf_eq_concat last
    rw [spelled, ← List.append_assoc] at same
    obtain ⟨own, ending⟩ := List.append_inj' same rfl
    cases second with
    | inl empty =>
        rw [empty, List.append_nil] at own
        exact ⟨String.ofList front, by rw [own, Text.units, String.toList_ofList]⟩
    | inr half =>
        rw [← List.head_eq_of_cons_eq ending, alone] at half
        cases half

end IsWhole

end QueryBind.Text
