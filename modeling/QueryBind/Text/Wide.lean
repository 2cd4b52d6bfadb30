import QueryBind.Text.Units

/-! # Texts by their units

Callers may hand over a text in which half of a character stands alone. Such a text is known
by its units; where characters are wanted, each lone half counts as the replacement
character (`Wide.mended`). A text of characters is one of them, and nothing is mended in it.
-/

namespace QueryBind.Text

/-- A text by its units. Half of a character may stand alone in it. -/
structure Wide where
  units : List UInt16
  deriving DecidableEq, Repr, Inhabited

namespace Wide

/-- A text of characters, by its units. -/
def ofText (text : String) : Wide :=
  ⟨Text.units text⟩

instance : Coe String Wide := ⟨ofText⟩

/-- The characters of a text, with the replacement character for every lone half. -/
def mended (text : Wide) : String :=
  Text.mended text.units

/-- One text behind the other. -/
def append (front back : Wide) : Wide :=
  ⟨front.units ++ back.units⟩

/-- Texts with a separator between them. -/
def join (separator : String) (texts : List Wide) : Wide :=
  ⟨(Text.units separator).intercalate (texts.map units)⟩

/-- The units of a text of characters. -/
@[simp] theorem units_ofText (text : String) : (ofText text).units = Text.units text := rfl

end Wide

/-- Nothing is mended in a text of characters. -/
theorem mended_units (text : String) : mended (units text) = text := by
  rw [mended, units, spell_unitsOf, List.map_map]
  exact (congrArg String.ofList (List.map_id' _)).trans String.ofList_toList

/-- Nothing is mended in a text of characters. -/
@[simp] theorem Wide.mended_ofText (text : String) : (Wide.ofText text).mended = text :=
  mended_units text

/-- Texts of characters with the same units are the same text. -/
theorem Wide.ofText_injective {first second : String} (same : ofText first = ofText second) :
    first = second := by
  rw [← mended_ofText first, same, mended_ofText]

end QueryBind.Text
