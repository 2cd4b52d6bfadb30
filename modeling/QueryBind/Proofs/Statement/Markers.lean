import Mathlib.Data.List.Forall2
import QueryBind.Statement.Server
import QueryBind.Proofs.Placeholder.Cut
import QueryBind.Proofs.Statement.Occurrences

/-! # Markers

What the markers of a server query stand for. The placeholders are gone through once, and a step
either adds an entry or uses one that is there (`Assignment.extend_cons_eq_ok`). So the entries
are the keys in the order of their first occurrences, and the marker of a placeholder leads to an
entry with the placeholder's own key and format.
-/

namespace QueryBind.Assignment

/-- A marker that is found is the place of its key among the entries. -/
theorem find?_eq_some {key : Key} {format : Format} {number marker : Nat}
    {entries : List (Key × Format)} (found : find? key number entries = some (marker, format)) :
    number ≤ marker ∧ entries[marker - number]? = some (key, format) := by
  induction entries generalizing number with
  | nil => simp [find?] at found
  | cons entry rest ih =>
      obtain ⟨known, held⟩ := entry
      simp only [find?] at found
      split at found
      · next same =>
          simp only [Option.some.injEq, Prod.mk.injEq] at found
          obtain ⟨rfl, rfl⟩ := found
          simp [same]
      · obtain ⟨later, there⟩ := ih found
        have next : marker - number = marker - (number + 1) + 1 := by omega
        refine ⟨by omega, ?_⟩
        rw [next, List.getElem?_cons_succ]
        exact there

private theorem find?_eq_none {key : Key} {number : Nat} {entries : List (Key × Format)}
    (missing : find? key number entries = none) : key ∉ entries.map Prod.fst := by
  induction entries generalizing number with
  | nil => simp
  | cons entry rest ih =>
      obtain ⟨known, held⟩ := entry
      simp only [find?] at missing
      split at missing
      · cases missing
      · next different =>
          rw [List.map_cons]
          exact List.not_mem_cons_of_ne_of_not_mem (Ne.symm different) (ih missing)

/-- What one placeholder does: it adds an entry for a key that is new, or takes the marker of an
entry with its key and its format. -/
theorem extend_cons_eq_ok {known : List (Key × Format)} {slot : Slot} {rest : List Slot}
    {assigned : Assignment} (success : extend known (slot :: rest) = .ok assigned) :
    ∃ marker inner, assigned = ⟨marker :: inner.markers, inner.entries⟩ ∧
      ((slot.key ∉ known.map Prod.fst ∧ marker = known.length + 1 ∧
          extend (known ++ [slot.demand]) rest = .ok inner) ∨
        (1 ≤ marker ∧ known[marker - 1]? = some slot.demand ∧ extend known rest = .ok inner)) := by
  unfold extend at success
  split at success
  · next missing =>
      cases tail : extend (known ++ [(slot.key, slot.format)]) rest with
      | error error => simp [tail, Except.map] at success
      | ok inner =>
          simp only [tail, Except.map, Except.ok.injEq] at success
          exact ⟨_, inner, success.symm, .inl ⟨find?_eq_none missing, rfl, tail⟩⟩
  · next marker format found =>
      split at success
      · next same =>
          subst same
          obtain ⟨positive, there⟩ := find?_eq_some found
          cases tail : extend known rest with
          | error error => simp [tail, Except.map] at success
          | ok inner =>
              simp only [tail, Except.map, Except.ok.injEq] at success
              exact ⟨_, inner, success.symm, .inr ⟨positive, there, rfl⟩⟩
      · cases success

/-- Entries stay where they are. -/
theorem known_prefix {known : List (Key × Format)} {slots : List Slot} {assigned : Assignment}
    (success : extend known slots = .ok assigned) : known <+: assigned.entries := by
  induction slots generalizing known assigned with
  | nil =>
      cases success
      exact List.prefix_refl known
  | cons slot rest ih =>
      obtain ⟨marker, inner, rfl, ⟨_, _, tail⟩ | ⟨_, _, tail⟩⟩ := extend_cons_eq_ok success
      · have longer : known ++ [slot.demand] <+: inner.entries := ih tail
        exact (List.prefix_append known [slot.demand]).trans longer
      · have same : known <+: inner.entries := ih tail
        exact same

/-- **Markers lead back to their placeholders.** The marker of a placeholder is the number,
counted from one, of an entry with its key and its format. -/
theorem forall₂_markers {known : List (Key × Format)} {slots : List Slot}
    {assigned : Assignment} (success : extend known slots = .ok assigned) :
    List.Forall₂ (fun slot marker =>
        1 ≤ marker ∧ assigned.entries[marker - 1]? = some slot.demand) slots assigned.markers := by
  induction slots generalizing known assigned with
  | nil =>
      cases success
      exact .nil
  | cons slot rest ih =>
      obtain ⟨marker, inner, rfl, ⟨_, rfl, tail⟩ | ⟨positive, there, tail⟩⟩ :=
        extend_cons_eq_ok success
      · refine .cons ⟨by omega, ?_⟩ (ih tail)
        obtain ⟨more, grown⟩ := known_prefix tail
        simp [← grown]
      · refine .cons ⟨positive, ?_⟩ (ih tail)
        obtain ⟨more, grown⟩ := known_prefix tail
        obtain ⟨bound, _⟩ := List.getElem?_eq_some_iff.mp there
        change inner.entries[marker - 1]? = _
        rw [← grown, List.getElem?_append_left bound]
        exact there

/-- The entries are the keys that were there, and behind them the new ones in the order of their
first occurrences. -/
theorem keys_extend {known : List (Key × Format)} {slots : List Slot} {assigned : Assignment}
    (success : extend known slots = .ok assigned) :
    assigned.entries.map Prod.fst = known.map Prod.fst ++
      ((slots.map (·.key)).removeAll (known.map Prod.fst)).eraseDups := by
  induction slots generalizing known assigned with
  | nil =>
      cases success
      simp
  | cons slot rest ih =>
      obtain ⟨marker, inner, rfl, ⟨fresh, _, tail⟩ | ⟨_, there, tail⟩⟩ := extend_cons_eq_ok success
      · have grown : (rest.map (·.key)).removeAll ((known ++ [slot.demand]).map Prod.fst) =
            ((rest.map (·.key)).removeAll (known.map Prod.fst)).filter (!· == slot.key) := by
          rw [List.removeAll, List.removeAll, List.filter_filter]
          refine List.filter_congr fun key _ => ?_
          rw [Bool.eq_iff_iff]
          simp [Slot.demand, or_comm]
        have kept : ((slot :: rest).map (·.key)).removeAll (known.map Prod.fst) =
            slot.key :: (rest.map (·.key)).removeAll (known.map Prod.fst) := by
          simp [List.removeAll, fresh]
        rw [kept, List.eraseDups_cons, ← grown, ih tail, List.map_append, List.append_assoc]
        rfl
      · have member : slot.key ∈ known.map Prod.fst :=
          List.mem_map.mpr ⟨_, List.mem_of_getElem? there, rfl⟩
        have dropped : ((slot :: rest).map (·.key)).removeAll (known.map Prod.fst) =
            (rest.map (·.key)).removeAll (known.map Prod.fst) := by
          simp [List.removeAll, member]
        rw [dropped, ih tail]

/-- Each key has one marker. -/
theorem keys_ofSlots {slots : List Slot} {assigned : Assignment}
    (success : ofSlots slots = .ok assigned) :
    assigned.entries.map Prod.fst = (slots.map (·.key)).eraseDups := by
  simpa using keys_extend success

/-- No two markers have one key. -/
theorem nodup_ofSlots {slots : List Slot} {assigned : Assignment}
    (success : ofSlots slots = .ok assigned) : (assigned.entries.map Prod.fst).Nodup := by
  rw [keys_ofSlots success]
  exact nodup_eraseDups _

/-- The marker of a placeholder is the place of its key, counted from one, in the order of the keys'
first occurrences. -/
theorem markers_ofSlots {slots : List Slot} {assigned : Assignment}
    (success : ofSlots slots = .ok assigned) :
    assigned.markers = (slots.map (·.key)).map fun key =>
      (slots.map (·.key)).eraseDups.idxOf key + 1 := by
  rw [← keys_ofSlots success, List.map_map, eq_comm, ← List.forall₂_eq_eq_eq,
    List.forall₂_map_left_iff]
  refine (forall₂_markers success).imp ?_
  rintro slot marker ⟨positive, there⟩
  have found : (assigned.entries.map Prod.fst)[marker - 1]? = some slot.key := by
    rw [List.getElem?_map, there]
    rfl
  obtain ⟨bound, here⟩ := List.getElem?_eq_some_iff.mp found
  have place := (nodup_ofSlots success).idxOf_getElem (marker - 1) bound
  rw [here] at place
  change (assigned.entries.map Prod.fst).idxOf slot.key + 1 = marker
  omega

end QueryBind.Assignment
