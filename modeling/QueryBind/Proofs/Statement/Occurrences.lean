import Mathlib.Data.List.Induction
import Mathlib.Data.List.Nodup

/-! # First occurrences

A list without its repetitions, each item standing where it stood first. Repetitions can be
dropped before or after the items are filtered, and before or after they are renamed as long as
the new names keep them apart.
-/

namespace QueryBind

variable {α β : Type} [DecidableEq α] [DecidableEq β]

private theorem eraseDups_concat (items : List α) (item : α) :
    (items ++ [item]).eraseDups =
      if item ∈ items then items.eraseDups else items.eraseDups ++ [item] := by
  rw [List.eraseDups_append]
  split
  · next known => simp [List.removeAll, known]
  · next fresh => simp [List.removeAll, fresh, List.eraseDups_cons]

/-- No item is kept twice. -/
theorem nodup_eraseDups (items : List α) : items.eraseDups.Nodup := by
  induction items using List.reverseRecOn with
  | nil => exact List.nodup_nil
  | append_singleton front item ih =>
      rw [eraseDups_concat]
      split
      · exact ih
      · next fresh =>
          refine List.nodup_append.mpr ⟨ih, List.nodup_singleton item, ?_⟩
          rintro a member b same rfl
          rw [List.mem_singleton.mp same] at member
          exact fresh (List.mem_eraseDups.mp member)

/-- Different items are all kept. -/
theorem eraseDups_of_nodup {items : List α} (distinct : items.Nodup) :
    items.eraseDups = items := by
  induction items using List.reverseRecOn with
  | nil => rfl
  | append_singleton front item ih =>
      obtain ⟨front_, _, apart⟩ := List.nodup_append.mp distinct
      have fresh : item ∉ front := fun member => apart item member item List.mem_cons_self rfl
      rw [eraseDups_concat, if_neg fresh, ih front_]

/-- Items may be left out before or after. -/
theorem eraseDups_filter (keep : α → Bool) (items : List α) :
    (items.filter keep).eraseDups = items.eraseDups.filter keep := by
  induction items using List.reverseRecOn with
  | nil => rfl
  | append_singleton front item ih =>
      rw [List.filter_append, eraseDups_concat]
      by_cases kept : keep item = true
      · rw [List.filter_cons_of_pos kept, List.filter_nil, eraseDups_concat, ih]
        by_cases known : item ∈ front
        · simp [known, kept]
        · simp [known, kept]
      · rw [List.filter_cons_of_neg kept, List.filter_nil, List.append_nil, ih]
        split
        · rfl
        · simp [kept]

/-- Items may be renamed before or after, if they are kept apart. -/
theorem eraseDups_map {rename : α → β} {items : List α}
    (apart : ∀ a ∈ items, ∀ b ∈ items, rename a = rename b → a = b) :
    (items.map rename).eraseDups = items.eraseDups.map rename := by
  induction items using List.reverseRecOn with
  | nil => rfl
  | append_singleton front item ih =>
      have later := ih fun a first b second =>
        apart a (List.mem_append_left _ first) b (List.mem_append_left _ second)
      have known : rename item ∈ front.map rename ↔ item ∈ front := by
        rw [List.mem_map]
        constructor
        · rintro ⟨other, member, same⟩
          have equal := apart other (List.mem_append_left _ member) item
            (List.mem_append_right _ List.mem_cons_self) same
          exact equal ▸ member
        · intro member
          exact ⟨item, member, rfl⟩
      rw [List.map_append, List.map_singleton, eraseDups_concat, eraseDups_concat, later]
      by_cases seen : item ∈ front
      · rw [if_pos (known.mpr seen), if_pos seen]
      · rw [if_neg (fun member => seen (known.mp member)), if_neg seen, List.map_append,
          List.map_singleton]

end QueryBind
