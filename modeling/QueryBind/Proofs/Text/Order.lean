import Mathlib.Data.List.Sort
import QueryBind.Text.Units

/-! # The order of names

Names are compared by their units, from the first unit to the last. Sorting names that are all
different gives the one list of these names in which each stands in front of the greater ones
(`Text.Increasing.eq_of_mem_iff`).
-/

namespace QueryBind.Text

/-- A text is known by its units. -/
theorem units_injective {first second : String} (same : units first = units second) :
    first = second := by
  have spelled := congrArg spell same
  rw [units, units, spell_unitsOf, spell_unitsOf] at spelled
  exact String.toList_inj.mp ((List.map_inj_right fun _ _ => Piece.whole.inj).mp spelled)

/-- The order of units is the lexicographic one. -/
theorem unitsLe_iff (first second : List UInt16) :
    unitsLe first second = true ↔ first ≤ second := by
  induction first generalizing second with
  | nil => simp [unitsLe]
  | cons unit rest ih =>
      cases second with
      | nil => simp [unitsLe]
      | cons other others =>
          rw [unitsLe, List.cons_le_cons_iff]
          by_cases same : unit = other
          · rw [if_pos same, ih]
            simp [same]
          · rw [if_neg same, decide_eq_true_eq]
            simp [same]

/-- Names in the order of their units, each of them once. -/
def Increasing (names : List String) : Prop :=
  names.Pairwise fun first second => units first < units second

/-- The order of names is transitive. -/
theorem nameLe_trans {first second third : String} (le : nameLe first second = true)
    (leToo : nameLe second third = true) : nameLe first third = true :=
  (unitsLe_iff _ _).mpr (List.le_trans ((unitsLe_iff _ _).mp le) ((unitsLe_iff _ _).mp leToo))

/-- Different names are not equal in the order. -/
theorem units_lt_of_nameLe {first second : String} (le : nameLe first second = true)
    (different : first ≠ second) : units first < units second := by
  by_contra notBelow
  have above : units second ≤ units first := List.not_lt.mp notBelow
  exact different (units_injective (List.le_antisymm ((unitsLe_iff _ _).mp le) above))

/-- Names that increase are determined by which ones they are. -/
theorem Increasing.eq_of_mem_iff {first second : List String} (increasing : Increasing first)
    (increasingToo : Increasing second) (same : ∀ name, name ∈ first ↔ name ∈ second) :
    first = second := by
  have irreflexive : Std.Irrefl fun first second : String => units first < units second :=
    ⟨fun name => List.lt_irrefl (units name)⟩
  have antisymmetric : Std.Antisymm fun first second : String => units first < units second :=
    ⟨fun first second below above => absurd above (List.lt_asymm below)⟩
  exact List.Pairwise.eq_of_mem_iff increasing increasingToo same

end QueryBind.Text
