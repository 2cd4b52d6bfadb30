import QueryBind.Sql.Quoted
import QueryBind.Text.Wide

/-! # Mended texts

The unit of a small character is spelled as this character wherever it stands, as no half of a
character can be joined with it. So a text and the characters that it is mended to have their small
characters in the same places: they are members of both or of neither (`Text.mem_mended_iff`), and
can be written twice, or put around a text, before or after mending
(`Text.mended_double`, `Text.mended_enclosed`).
-/

namespace QueryBind.Text

/-- The unit of a small character. -/
def unitOf (c : Char) : UInt16 :=
  UInt16.ofNat c.toNat

/-- A number in the range of characters is the number of its character. -/
theorem toNat_ofNat_of_isValidChar {n : Nat} (valid : n.isValidChar) :
    (Char.ofNat n).toNat = n := by
  rw [Char.ofNat, dif_pos valid]
  rfl

/-- A joined character has a number beyond the basic plane. -/
theorem le_toNat_joined {high low : UInt16} (first : isHigh high = true)
    (second : isLow low = true) : 0x10000 ≤ (joined high low).toNat := by
  simp only [isHigh, isLow, decide_eq_true_eq] at first second
  have valid : (0x10000 + (high.toNat - 0xD800) * 0x400 +
      (low.toNat - 0xDC00)).isValidChar := by
    unfold Nat.isValidChar
    omega
  rw [joined, toNat_ofNat_of_isValidChar valid]
  omega

/-- A unit stands alone in front of units that do not begin with its other half. -/
theorem spell_cons_of_head {unit : UInt16} {rest : List UInt16}
    (apart : ∀ next ∈ rest.head?, (isHigh unit && isLow next) = false) :
    spell (unit :: rest) = .single unit :: spell rest := by
  cases rest with
  | nil => rfl
  | cons next rest => simp [spell, apart next rfl]

/-- Nothing is joined with a unit that is no half of a character. -/
theorem spell_append_cons (front : List UInt16) {unit : UInt16} (notHigh : isHigh unit = false)
    (notLow : isLow unit = false) (rest : List UInt16) :
    spell (front ++ unit :: rest) = spell front ++ .single unit :: spell rest := by
  induction front using spell.induct with
  | case1 => exact spell_cons_of_not_high notHigh rest
  | case2 first =>
      have apart : ∀ next ∈ (unit :: rest).head?, (isHigh first && isLow next) = false := by
        rintro _ ⟨⟩
        rw [notLow, Bool.and_false]
      exact (spell_cons_of_head apart).trans
        (congrArg _ (spell_cons_of_not_high notHigh rest))
  | case3 first next front halves ih =>
      simp only [List.cons_append, spell, halves, if_true, ih]
  | case4 first next front halves ih =>
      rw [List.cons_append] at ih
      simp only [List.cons_append, spell, halves, Bool.false_eq_true, if_false]
      rw [ih]

section Small

variable {c : Char} (small : c.toNat < 0x80)

include small

private theorem toNat_unitOf : (unitOf c).toNat = c.toNat :=
  UInt16.toNat_ofNat_of_lt (show c.toNat < 65536 by omega)

private theorem isHigh_unitOf : isHigh (unitOf c) = false := by
  simp only [isHigh, toNat_unitOf small, decide_eq_false_iff_not]
  omega

private theorem isLow_unitOf : isLow (unitOf c) = false := by
  simp only [isLow, toNat_unitOf small, decide_eq_false_iff_not]
  omega

/-- A unit that stands alone is mended to a small character exactly if it is its unit. -/
theorem mended_single_eq_iff (unit : UInt16) :
    (Piece.single unit).mended = c ↔ unit = unitOf c := by
  constructor
  · intro same
    have number := congrArg Char.toNat same
    unfold Piece.single at number
    split at number
    · have replacement : (Char.ofNat 0xFFFD).toNat = 0xFFFD := by decide
      exact absurd (replacement.symm.trans number) (by omega)
    · next whole =>
        simp only [Bool.or_eq_true, isHigh, isLow, decide_eq_true_eq, not_or] at whole
        have range : unit.toNat < 65536 := UInt16.toNat_lt unit
        have valid : unit.toNat.isValidChar := by
          unfold Nat.isValidChar
          omega
        apply UInt16.toNat_inj.mp
        rw [toNat_unitOf small, ← number, Piece.mended_whole, toNat_ofNat_of_isValidChar valid]
  · rintro rfl
    simp only [Piece.single, isHigh_unitOf small, isLow_unitOf small, Bool.or_self,
      Bool.false_eq_true, if_false, toNat_unitOf small, Char.ofNat_toNat]
    rfl

/-- The unit of a small character is mended to it. -/
theorem mended_single_unitOf : (Piece.single (unitOf c)).mended = c :=
  (mended_single_eq_iff small _).mpr rfl

/-- A joined character is not small, and neither of its halves is the unit of a small one. -/
theorem ne_of_halves {high low : UInt16} (first : isHigh high = true) (second : isLow low = true) :
    (Piece.whole (joined high low)).mended ≠ c ∧ high ≠ unitOf c ∧ low ≠ unitOf c := by
  refine ⟨?_, ?_, ?_⟩
  · intro same
    have large := le_toNat_joined first second
    rw [Piece.mended_whole] at same
    rw [same] at large
    omega
  · rintro rfl
    rw [isHigh_unitOf small] at first
    cases first
  · rintro rfl
    rw [isLow_unitOf small] at second
    cases second

/-- A small character is in a mended text exactly if its unit is in the text. -/
theorem mem_mended_iff (units : List UInt16) : c ∈ (mended units).toList ↔ unitOf c ∈ units := by
  rw [mended, String.toList_ofList]
  induction units using spell.induct with
  | case1 => simp [spell]
  | case2 unit =>
      rw [spell, List.map_singleton, List.mem_singleton, List.mem_singleton, eq_comm,
        mended_single_eq_iff small, eq_comm]
  | case3 high low rest halves ih =>
      have both : isHigh high = true ∧ isLow low = true := by simpa using halves
      obtain ⟨whole, first, second⟩ := ne_of_halves small both.1 both.2
      rw [spell_cons_cons both.1 both.2, List.map_cons, List.mem_cons, ih, List.mem_cons,
        List.mem_cons]
      simp only [whole.symm, first.symm, second.symm, false_or]
  | case4 unit next rest halves ih =>
      simp only [spell, halves, Bool.false_eq_true, if_false]
      rw [List.map_cons, List.mem_cons, ih, List.mem_cons (b := unit), eq_comm,
        mended_single_eq_iff small, eq_comm]

/-- A small character is written twice before or after mending. -/
theorem mended_double (units : List UInt16) :
    (mended (Sql.double (unitOf c) units)).toList = Sql.double c (mended units).toList := by
  simp only [mended, String.toList_ofList]
  have alone (unit : UInt16) : (Piece.single unit).mended = c ↔ unit = unitOf c :=
    mended_single_eq_iff small unit
  have twice (rest : List UInt16) : spell (unitOf c :: unitOf c :: rest) =
      .single (unitOf c) :: .single (unitOf c) :: spell rest := by
    rw [spell_cons_of_not_high (isHigh_unitOf small), spell_cons_of_not_high (isHigh_unitOf small)]
  induction units using spell.induct with
  | case1 => rfl
  | case2 unit =>
      rw [Sql.double_cons, spell, List.map_singleton, Sql.double_cons]
      by_cases same : unit = unitOf c
      · rw [if_pos same, if_pos ((alone unit).mpr same), same]
        exact congrArg (List.map Piece.mended) (twice [])
      · rw [if_neg same, if_neg (mt (alone unit).mp same)]
        rfl
  | case3 high low rest halves ih =>
      have both : isHigh high = true ∧ isLow low = true := by simpa using halves
      obtain ⟨whole, first, second⟩ := ne_of_halves small both.1 both.2
      rw [Sql.double_cons, Sql.double_cons, if_neg first, if_neg second, List.singleton_append,
        List.singleton_append, spell_cons_cons both.1 both.2, spell_cons_cons both.1 both.2,
        List.map_cons, List.map_cons, ih, Sql.double_cons, if_neg whole, List.singleton_append]
  | case4 unit next rest halves ih =>
      have spelled : spell (unit :: next :: rest) = .single unit :: spell (next :: rest) := by
        simp only [spell, halves, Bool.false_eq_true, if_false]
      rw [spelled, Sql.double_cons (unitOf c) unit, List.map_cons, Sql.double_cons c, ← ih]
      by_cases same : unit = unitOf c
      · rw [if_pos same, if_pos ((alone unit).mpr same), same]
        exact congrArg (List.map Piece.mended) (twice _)
      · -- What stands behind the unit begins as before, so it is joined with nothing new.
        have apart : ∀ head ∈ (Sql.double (unitOf c) (next :: rest)).head?,
            (isHigh unit && isLow head) = false := by
          intro head begins
          rw [Sql.double_cons] at begins
          split at begins
          · cases begins
            simpa using halves
          · cases begins
            simpa using halves
        rw [if_neg same, if_neg (mt (alone unit).mp same), List.singleton_append,
          spell_cons_of_head apart]
        rfl

/-- A small character behind a text, and what stands behind it. -/
theorem mended_append_cons (front rest : List UInt16) :
    (mended (front ++ unitOf c :: rest)).toList =
      (mended front).toList ++ c :: (mended rest).toList := by
  simp only [mended, String.toList_ofList]
  rw [spell_append_cons front (isHigh_unitOf small) (isLow_unitOf small), List.map_append,
    List.map_cons, mended_single_unitOf small]

end Small

end QueryBind.Text
