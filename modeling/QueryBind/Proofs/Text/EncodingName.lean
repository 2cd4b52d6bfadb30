import QueryBind.Encoding

/-! # Names of encodings

Whatever its case and the blanks around it, a name that selects a codec has no NUL in it: neither
trimming nor lower case takes one away, and no canonical name has one.
-/

namespace QueryBind.Text

private theorem mem_dropWhile_of_not {α : Type} {p : α → Bool} {x : α} {xs : List α}
    (member : x ∈ xs) (stays : p x = false) : x ∈ xs.dropWhile p := by
  induction xs with
  | nil => cases member
  | cons y ys ih =>
      rw [List.dropWhile_cons]
      split
      · next drops =>
          rcases List.mem_cons.mp member with rfl | later
          · rw [stays] at drops
            cases drops
          · exact ih later
      · exact member

private theorem mem_trimChars {c : Char} {cs : List Char} (member : c ∈ cs)
    (visible : isBlank c = false) : c ∈ trimChars cs := by
  have front := mem_dropWhile_of_not member visible
  have back := mem_dropWhile_of_not (List.mem_reverse.mpr front) visible
  exact List.mem_reverse.mpr back

/-- A character below `0x80` is put into lower case on its own, wherever it stands. -/
theorem mem_mapFrom {c : Char} {cs : List Char} (member : c ∈ cs) (small : c.toNat < 0x80)
    (before : List Char) : c.toLower ∈ LowerCase.mapFrom before cs := by
  induction cs generalizing before with
  | nil => cases member
  | cons d rest ih =>
      rw [LowerCase.mapFrom]
      rcases List.mem_cons.mp member with rfl | later
      · refine List.mem_append_left _ ?_
        rw [if_neg (by omega), if_neg (by omega), if_pos small]
        exact List.mem_singleton_self _
      · exact List.mem_append_right _ (ih later _)

namespace Codec

/-- No name of an encoding has a NUL in it. -/
theorem nul_not_mem_of_mem_names : ∀ named ∈ names, '\x00' ∉ named.1.toList := by
  decide +kernel

/-- A name that selects a codec has no NUL in it. -/
theorem nul_not_mem_of_ofName? {encoding : String} {codec : Codec}
    (selected : ofName? encoding = some codec) : '\x00' ∉ encoding.toList := by
  intro member
  obtain ⟨before, after, split, _⟩ := List.lookup_eq_some_iff.mp selected
  have canonical : (lowerCase (trim encoding), codec) ∈ names := by
    rw [split]
    exact List.mem_append_right _ List.mem_cons_self
  refine nul_not_mem_of_mem_names _ canonical ?_
  have trimmed : '\x00' ∈ (trim encoding).toList := by
    rw [trim, String.toList_ofList]
    exact mem_trimChars member (by decide)
  rw [lowerCase, String.toList_ofList]
  exact mem_mapFrom trimmed (by decide) []

end Codec

end QueryBind.Text
