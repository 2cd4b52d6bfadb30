/-! # Separated texts

What stands in front of a separator can be told from what stands behind it, as long as it has none
of its own.
-/

namespace QueryBind.Text

variable {α : Type}

/-- The first separator ends what stands in front of it. -/
theorem append_separator_injective {separator : α} {first second rest other : List α}
    (plain : separator ∉ first) (plainToo : separator ∉ second)
    (same : first ++ separator :: rest = second ++ separator :: other) :
    first = second ∧ rest = other := by
  induction first generalizing second with
  | nil =>
      cases second with
      | nil => exact ⟨rfl, List.tail_eq_of_cons_eq same⟩
      | cons d second =>
          have head : separator = d := List.head_eq_of_cons_eq same
          exact absurd (head ▸ List.mem_cons_self) plainToo
  | cons c first ih =>
      cases second with
      | nil =>
          have head : c = separator := List.head_eq_of_cons_eq same
          exact absurd (head ▸ List.mem_cons_self) plain
      | cons d second =>
          obtain ⟨rfl, tail⟩ := List.cons.inj same
          obtain ⟨rfl, rest⟩ := ih (List.not_mem_of_not_mem_cons plain)
            (List.not_mem_of_not_mem_cons plainToo) tail
          exact ⟨rfl, rest⟩

/-- Separators between items and one behind the last are one behind each. -/
theorem intercalate_append_separator (separator : List α) {items : List (List α)}
    (filled : items ≠ []) :
    separator.intercalate items ++ separator = items.flatMap (· ++ separator) := by
  induction items with
  | nil => exact absurd rfl filled
  | cons item rest ih =>
      cases rest with
      | nil => rw [List.intercalate_singleton, List.flatMap_singleton]
      | cons next rest =>
          rw [List.intercalate_cons_cons, List.flatMap_cons, ← ih (List.cons_ne_nil _ _)]
          simp only [List.append_assoc]

end QueryBind.Text
