import QueryBind.Error

/-! # Quoted text

Texts and names in quotation marks, as the server reads them. A quotation mark inside is
written twice. A text with backslashes takes the escape form, in which a backslash is
written twice as well. The character NUL has no place in either. Texts and names are quoted by
their units, in which half of a character may stand alone.
-/

namespace QueryBind.Sql

open Text (Wide)

/-- The signs of the syntax of literals. -/
structure Signs (α : Type) where
  space : α
  /-- The letter of the escape form. -/
  letter : α
  quote : α
  backslash : α
  space_ne : space ≠ quote
  letter_ne : letter ≠ quote
  backslash_ne : backslash ≠ quote

/-- The signs as characters. -/
def Signs.chars : Signs Char :=
  ⟨' ', 'E', '\'', '\\', by decide, by decide, by decide⟩

/-- The signs as units. -/
def Signs.units : Signs UInt16 :=
  ⟨0x20, 0x45, 0x27, 0x5C, by decide, by decide, by decide⟩

/-- Items with every `mark` written twice. -/
def double {α : Type} [DecidableEq α] (mark : α) (items : List α) : List α :=
  items.flatMap fun item => if item = mark then [item, item] else [item]

/-- Items as a literal. The escape form begins with a space, so that it cannot run into
a word in front of it. -/
def literalOf {α : Type} [DecidableEq α] (signs : Signs α) (items : List α) : List α :=
  if items.contains signs.backslash then
    [signs.space, signs.letter, signs.quote] ++
      double signs.backslash (double signs.quote items) ++ [signs.quote]
  else [signs.quote] ++ double signs.quote items ++ [signs.quote]

/-- Characters as a literal. -/
def literalChars (cs : List Char) : List Char :=
  literalOf .chars cs

/-- A text as a literal. -/
def quoteText (text : String) : Except QueryError String :=
  if text.toList.contains '\x00' then .error (.conversion .nulInText)
  else .ok (String.ofList (literalChars text.toList))

/-- A text by its units as a literal. -/
def quoteWide (text : Wide) : Except QueryError Wide :=
  if text.units.contains 0x00 then .error (.conversion .nulInText)
  else .ok ⟨literalOf .units text.units⟩

/-- A name as an identifier. -/
def quoteName (name : Wide) : Except QueryError Wide :=
  if name.units.contains 0x00 then .error (.conversion .nulInIdentifier)
  else .ok ⟨[0x22] ++ double 0x22 name.units ++ [0x22]⟩

/-- Names as one qualified identifier. -/
def quoteNames (names : List Wide) : Except QueryError Wide :=
  (names.mapM quoteName).map (Wide.join ".")

section Double

variable {α : Type} [DecidableEq α] (mark : α)

/-- The first item is written twice if it is the mark. -/
theorem double_cons (item : α) (items : List α) :
    double mark (item :: items) =
      (if item = mark then [item, item] else [item]) ++ double mark items := rfl

/-- Items are written twice one after the other. -/
theorem double_append (items others : List α) :
    double mark (items ++ others) = double mark items ++ double mark others := by
  simp [double]

end Double

end QueryBind.Sql
