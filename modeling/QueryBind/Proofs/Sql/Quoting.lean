import QueryBind.Proofs.Outcome
import QueryBind.Proofs.Text.Mended

/-! # Quoting by units

Texts and names are quoted by their units. Quoting a text of characters by its units is quoting its
characters (`Sql.quoteWide_ofText`), and a text with lone halves of characters may be mended before
or after it is quoted (`Sql.mended_quoteWide`, `Sql.mended_quoteName`): no half of a character is a
sign, or is joined with one.
-/

namespace QueryBind

namespace Text

/-- A small character is in a text exactly if its unit is among the units. -/
theorem unitOf_mem_units_iff {c : Char} (small : c.toNat < 0x80) (text : String) :
    unitOf c ∈ units text ↔ c ∈ text.toList := by
  rw [← mem_mended_iff small, mended_units]

/-- The units of a character list. -/
theorem units_ofList (cs : List Char) : units (String.ofList cs) = cs.flatMap unitsOf := by
  rw [units, String.toList_ofList]

private theorem mended_nil : (mended []).toList = [] := by
  rw [mended, String.toList_ofList]
  rfl

end Text

namespace Sql

open Text (Wide mended units unitsOf unitOf)

/-- Nothing is written twice where the mark does not occur. -/
theorem double_eq_self {α : Type} [DecidableEq α] {mark : α} {items : List α}
    (absent : mark ∉ items) : double mark items = items := by
  induction items with
  | nil => rfl
  | cons item rest ih =>
      have other : item ≠ mark := fun same => absent (same ▸ List.mem_cons_self)
      rw [double_cons, if_neg other, ih (List.not_mem_of_not_mem_cons absent)]
      rfl

/-- A small character is written twice by writing its unit twice. -/
theorem flatMap_unitsOf_double {c : Char} (small : c.toNat < 0x80) (cs : List Char) :
    (double c cs).flatMap unitsOf = double (unitOf c) (cs.flatMap unitsOf) := by
  have single : unitsOf c = [unitOf c] := if_pos (show c.toNat < 0x10000 by omega)
  induction cs with
  | nil => rfl
  | cons d cs ih =>
      rw [double_cons, List.flatMap_append, ih, List.flatMap_cons, double_append]
      by_cases same : d = c
      · simp [same, single, double]
      · have absent : unitOf c ∉ unitsOf d := by
          have own := Text.unitOf_mem_units_iff small (String.ofList [d])
          rw [Text.units_ofList, List.flatMap_singleton, String.toList_ofList,
            List.mem_singleton] at own
          exact fun member => same (own.mp member).symm
        rw [if_neg same, List.flatMap_singleton, double_eq_self absent]

private theorem literalOf_of_mem {α : Type} [DecidableEq α] {signs : Signs α} {items : List α}
    (present : signs.backslash ∈ items) :
    literalOf signs items = signs.space :: signs.letter ::
      ([signs.quote] ++ double signs.backslash (double signs.quote items) ++ [signs.quote]) := by
  rw [literalOf, if_pos (List.contains_iff_mem.mpr present)]
  rfl

private theorem literalOf_of_not_mem {α : Type} [DecidableEq α] {signs : Signs α} {items : List α}
    (absent : signs.backslash ∉ items) :
    literalOf signs items = [signs.quote] ++ double signs.quote items ++ [signs.quote] := by
  rw [literalOf, if_neg (mt List.contains_iff_mem.mp absent)]

/-- The literal of a text is quoted by characters or by units. -/
theorem flatMap_unitsOf_literalChars (text : String) :
    (literalChars text.toList).flatMap unitsOf = literalOf .units (units text) := by
  have present : Signs.units.backslash ∈ units text ↔ Signs.chars.backslash ∈ text.toList :=
    Text.unitOf_mem_units_iff (c := '\\') (by decide) text
  have quotes : (double '\'' text.toList).flatMap unitsOf = double 0x27 (units text) :=
    flatMap_unitsOf_double (c := '\'') (by decide) text.toList
  have backslashes : (double '\\' (double '\'' text.toList)).flatMap unitsOf =
      double 0x5C (double 0x27 (units text)) := by
    rw [← quotes]
    exact flatMap_unitsOf_double (c := '\\') (by decide) _
  by_cases escapes : Signs.chars.backslash ∈ text.toList
  · rw [literalChars, literalOf_of_mem escapes, literalOf_of_mem (present.mpr escapes)]
    simp only [Signs.chars, Signs.units, List.flatMap_cons, List.flatMap_append, backslashes]
    rfl
  · rw [literalChars, literalOf_of_not_mem escapes, literalOf_of_not_mem (mt present.mp escapes)]
    simp only [Signs.chars, Signs.units, List.flatMap_append, quotes]
    rfl

/-- **Quoting by units is quoting by characters** where there are no lone halves. -/
theorem quoteWide_ofText (text : String) :
    quoteWide (.ofText text) = (quoteText text).map Wide.ofText := by
  have nul : (units text).contains 0x00 = text.toList.contains '\x00' := by
    rw [Bool.eq_iff_iff, List.contains_iff_mem, List.contains_iff_mem]
    exact Text.unitOf_mem_units_iff (c := '\x00') (by decide) text
  rw [quoteWide, Wide.units_ofText, nul, quoteText]
  split
  · rfl
  · rw [← flatMap_unitsOf_literalChars, ← Text.units_ofList]
    rfl

/-- Two small characters around a text. -/
theorem mended_enclosed {c : Char} (small : c.toNat < 0x80) (units : List UInt16) :
    (mended ([unitOf c] ++ units ++ [unitOf c])).toList = [c] ++ (mended units).toList ++ [c] := by
  rw [Text.mended_append_cons small, List.singleton_append, Text.mended_nil]
  exact congrArg (· ++ [c]) (Text.mended_append_cons small [] units)

/-- A literal may be mended before or after it is quoted. -/
theorem mended_literalOf (units : List UInt16) :
    (mended (literalOf .units units)).toList = literalChars (mended units).toList := by
  have present : Signs.units.backslash ∈ units ↔
      Signs.chars.backslash ∈ (mended units).toList :=
    (Text.mem_mended_iff (c := '\\') (by decide) units).symm
  have quotes (given : List UInt16) :
      (mended (double Signs.units.quote given)).toList =
        double Signs.chars.quote (mended given).toList :=
    Text.mended_double (c := '\'') (by decide) given
  have backslashes (given : List UInt16) :
      (mended (double Signs.units.backslash given)).toList =
        double Signs.chars.backslash (mended given).toList :=
    Text.mended_double (c := '\\') (by decide) given
  have enclosed (given : List UInt16) :
      (mended ([Signs.units.quote] ++ given ++ [Signs.units.quote])).toList =
        [Signs.chars.quote] ++ (mended given).toList ++ [Signs.chars.quote] :=
    mended_enclosed (c := '\'') (by decide) given
  have introduced (given : List UInt16) :
      (mended (Signs.units.space :: Signs.units.letter :: given)).toList =
        Signs.chars.space :: Signs.chars.letter :: (mended given).toList :=
    (Text.mended_append_cons (c := ' ') (by decide) [] (Signs.units.letter :: given)).trans
      (congrArg (' ' :: ·) (Text.mended_append_cons (c := 'E') (by decide) [] given))
  by_cases escapes : Signs.chars.backslash ∈ (mended units).toList
  · rw [literalChars, literalOf_of_mem escapes, literalOf_of_mem (present.mpr escapes), introduced,
      enclosed, backslashes, quotes]
  · rw [literalChars, literalOf_of_not_mem escapes, literalOf_of_not_mem (mt present.mp escapes),
      enclosed, quotes]

/-- **A text may be mended before or after it is quoted.** -/
theorem mended_quoteWide (text : Wide) :
    (quoteWide text).map Wide.mended = quoteText text.mended := by
  have nul : text.units.contains 0x00 = text.mended.toList.contains '\x00' := by
    rw [Bool.eq_iff_iff, List.contains_iff_mem, List.contains_iff_mem]
    exact (Text.mem_mended_iff (c := '\x00') (by decide) text.units).symm
  rw [quoteWide, quoteText, nul]
  split
  · rfl
  · refine congrArg Except.ok (String.toList_inj.mp ?_)
    rw [String.toList_ofList]
    exact mended_literalOf text.units

/-- Names with dots between them may be mended before or after they are joined. -/
theorem mended_join (parts : List Wide) :
    (Wide.join "." parts).mended.toList =
      ['.'].intercalate (parts.map fun part => part.mended.toList) := by
  induction parts with
  | nil => exact Text.mended_nil
  | cons part rest ih =>
      cases rest with
      | nil =>
          rw [Wide.join, List.map_singleton, List.intercalate_singleton, List.map_singleton,
            List.intercalate_singleton]
      | cons next others =>
          have dot : Wide.join "." (part :: next :: others) =
              ⟨part.units ++ unitOf '.' :: (Wide.join "." (next :: others)).units⟩ := by
            rw [Wide.join, List.map_cons, List.map_cons, List.intercalate_cons_cons,
              List.append_assoc]
            rfl
          rw [dot, List.map_cons, List.map_cons, List.intercalate_cons_cons, List.append_assoc]
          refine (Text.mended_append_cons (c := '.') (by decide) _ _).trans ?_
          exact congrArg (part.mended.toList ++ '.' :: ·) ih

/-- The characters of a name in quotes. -/
def nameChars (name : String) : List Char :=
  ['"'] ++ double '"' name.toList ++ ['"']

/-- A name without a NUL is quoted, and may be mended before or after that. -/
theorem mended_quoteName {name : Wide} (nulFree : '\x00' ∉ name.mended.toList) :
    ∃ quoted, quoteName name = .ok quoted ∧ quoted.mended.toList = nameChars name.mended := by
  have absent : 0x00 ∉ name.units := fun member =>
    nulFree ((Text.mem_mended_iff (c := '\x00') (by decide) name.units).mpr member)
  refine ⟨⟨[0x22] ++ double 0x22 name.units ++ [0x22]⟩, by simp [quoteName, absent], ?_⟩
  have doubled : (mended (double 0x22 name.units)).toList = double '"' (mended name.units).toList :=
    Text.mended_double (c := '"') (by decide) name.units
  refine (mended_enclosed (c := '"') (by decide) _).trans ?_
  rw [doubled]
  rfl

/-- A name with a NUL is refused. -/
theorem quoteName_of_nul {name : Wide} (nul : '\x00' ∈ name.mended.toList) :
    quoteName name = .error (.conversion .nulInIdentifier) := by
  have member : 0x00 ∈ name.units :=
    (Text.mem_mended_iff (c := '\x00') (by decide) name.units).mp nul
  simp [quoteName, member]

end Sql

end QueryBind
