/-! # Sixteen-bit units of a text

Lengths, cuts, byte encodings with one byte per unit and the order of names are all
measured in sixteen-bit units. A character outside the basic plane has two of them, a high
and a low half; every other character has one. Units that were cut out of a text may hold
half of a character, which is kept as it is when units are read. The units of a whole text
read as its characters (`spell_unitsOf`).
-/

namespace QueryBind.Text

/-- The units of a character: its own number, or a surrogate pair. -/
def unitsOf (c : Char) : List UInt16 :=
  if c.toNat < 0x10000 then [UInt16.ofNat c.toNat]
  else [UInt16.ofNat (0xD800 + (c.toNat - 0x10000) / 0x400),
    UInt16.ofNat (0xDC00 + (c.toNat - 0x10000) % 0x400)]

/-- The units of a text, in order. -/
def units (text : String) : List UInt16 :=
  text.toList.flatMap unitsOf

/-- Length of a text in units. -/
def unitCount (text : String) : Nat :=
  (units text).length

/-- Whether a unit is the first half of a character. -/
def isHigh (unit : UInt16) : Bool :=
  decide (0xD800 ≤ unit.toNat ∧ unit.toNat < 0xDC00)

/-- Whether a unit is the second half of a character. -/
def isLow (unit : UInt16) : Bool :=
  decide (0xDC00 ≤ unit.toNat ∧ unit.toNat < 0xE000)

/-- The character of two halves. -/
def joined (high low : UInt16) : Char :=
  Char.ofNat (0x10000 + (high.toNat - 0xD800) * 0x400 + (low.toNat - 0xDC00))

/-- What units spell: a character, or half of one that stands alone. -/
inductive Piece where
  | whole (c : Char)
  | half (unit : UInt16)
  deriving DecidableEq, Repr

/-- The piece of a unit that is not joined with another one. -/
def Piece.single (unit : UInt16) : Piece :=
  if isHigh unit || isLow unit then .half unit else .whole (Char.ofNat unit.toNat)

/-- The character of a whole piece. -/
def Piece.char? : Piece → Option Char
  | .whole c => some c
  | .half _ => none

/-- A piece as a character: the replacement character stands for half of one. -/
def Piece.mended (piece : Piece) : Char :=
  piece.char?.getD (Char.ofNat 0xFFFD)

/-- What units spell, from left to right. -/
def spell : List UInt16 → List Piece
  | [] => []
  | [unit] => [.single unit]
  | unit :: next :: rest =>
    if isHigh unit && isLow next then .whole (joined unit next) :: spell rest
    else .single unit :: spell (next :: rest)

/-- The text that units spell, unless half of a character stands alone. -/
def ofUnits? (units : List UInt16) : Option String :=
  ((spell units).mapM Piece.char?).map String.ofList

/-- The text that units spell, with the replacement character for every lone half. -/
def mended (units : List UInt16) : String :=
  String.ofList ((spell units).map Piece.mended)

/-- Lexicographic order of unit sequences. -/
def unitsLe : List UInt16 → List UInt16 → Bool
  | [], _ => true
  | _ :: _, [] => false
  | a :: as, b :: bs => if a = b then unitsLe as bs else decide (a < b)

/-- Order of names by their units, which differs from the order by code points where a
surrogate pair meets a character above the surrogates. -/
def nameLe (a b : String) : Bool :=
  unitsLe (units a) (units b)

/-- Names in unit order. -/
def sortNames (names : List String) : List String :=
  names.mergeSort nameLe

/-- A whole character needs no mending. -/
@[simp] theorem Piece.mended_whole (c : Char) : (Piece.whole c).mended = c := rfl

/-- Of two texts one is not behind the other. -/
theorem unitsLe_total (a b : List UInt16) : (unitsLe a b || unitsLe b a) = true := by
  induction a generalizing b with
  | nil => simp [unitsLe]
  | cons a as ih =>
    cases b with
    | nil => simp [unitsLe]
    | cons b bs =>
      by_cases same : a = b
      · subst same
        simpa [unitsLe] using ih bs
      · have different : b ≠ a := fun equal => same equal.symm
        have numbers : a.toNat ≠ b.toNat := fun equal => same (UInt16.toNat_inj.mp equal)
        simp only [unitsLe, same, different, if_false, Bool.or_eq_true, decide_eq_true_eq,
          UInt16.lt_iff_toNat_lt]
        omega

/-- A unit that begins no pair stands alone. -/
theorem spell_cons_of_not_high {unit : UInt16} (plain : isHigh unit = false)
    (rest : List UInt16) : spell (unit :: rest) = .single unit :: spell rest := by
  cases rest with
  | nil => rfl
  | cons next rest => simp [spell, plain]

/-- A pair of halves is one character. -/
theorem spell_cons_cons {high low : UInt16} (first : isHigh high = true)
    (second : isLow low = true) (rest : List UInt16) :
    spell (high :: low :: rest) = .whole (joined high low) :: spell rest := by
  simp [spell, first, second]

/-- The units of one character read as that character. -/
theorem spell_unitsOf_append (c : Char) (rest : List UInt16) :
    spell (unitsOf c ++ rest) = .whole c :: spell rest := by
  have range : c.toNat < 0xD800 ∨ 0xDFFF < c.toNat ∧ c.toNat < 0x110000 := c.valid
  unfold unitsOf
  split
  · next small =>
    have number : (UInt16.ofNat c.toNat).toNat = c.toNat := UInt16.toNat_ofNat_of_lt small
    have plain : isHigh (UInt16.ofNat c.toNat) = false := by
      simp only [isHigh, number, decide_eq_false_iff_not]
      omega
    have tail : isLow (UInt16.ofNat c.toNat) = false := by
      simp only [isLow, number, decide_eq_false_iff_not]
      omega
    rw [List.singleton_append, spell_cons_of_not_high plain]
    simp only [Piece.single, plain, tail, Bool.or_false, Bool.false_eq_true, if_false, number,
      Char.ofNat_toNat]
  · next large =>
    have upper : c.toNat < 0x110000 := by omega
    have high : (UInt16.ofNat (0xD800 + (c.toNat - 0x10000) / 0x400)).toNat =
        0xD800 + (c.toNat - 0x10000) / 0x400 :=
      UInt16.toNat_ofNat_of_lt (show _ < 65536 by omega)
    have low : (UInt16.ofNat (0xDC00 + (c.toNat - 0x10000) % 0x400)).toNat =
        0xDC00 + (c.toNat - 0x10000) % 0x400 :=
      UInt16.toNat_ofNat_of_lt (show _ < 65536 by omega)
    have first : isHigh (UInt16.ofNat (0xD800 + (c.toNat - 0x10000) / 0x400)) = true := by
      simp only [isHigh, high, decide_eq_true_eq]
      omega
    have second : isLow (UInt16.ofNat (0xDC00 + (c.toNat - 0x10000) % 0x400)) = true := by
      simp only [isLow, low, decide_eq_true_eq]
      omega
    have whole : 0x10000 + (0xD800 + (c.toNat - 0x10000) / 0x400 - 0xD800) * 0x400 +
        (0xDC00 + (c.toNat - 0x10000) % 0x400 - 0xDC00) = c.toNat := by
      omega
    rw [List.cons_append, List.singleton_append, spell_cons_cons first second, joined, high, low,
      whole, Char.ofNat_toNat]

/-- The units of characters read as these characters. -/
theorem spell_unitsOf (cs : List Char) : spell (cs.flatMap unitsOf) = cs.map .whole := by
  induction cs with
  | nil => rfl
  | cons c cs ih => rw [List.flatMap_cons, spell_unitsOf_append, ih, List.map_cons]

end QueryBind.Text
