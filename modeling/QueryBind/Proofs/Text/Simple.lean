import QueryBind.Proofs.Placeholder.Inert
import QueryBind.Transform.Text

/-! # Simple texts

What the text transformer writes by itself consists of letters, digits and a few signs: the texts of
numbers, of instants and of arrays of bytes. So none of them has a percent sign or a quote in it
(`Simple.unmarked`, `Simple.unquoted`).
-/

namespace QueryBind

/-- The characters that numbers, instants and arrays of bytes are written with. -/
def isSimple (c : Char) : Bool :=
  c.isAlphanum || ['+', '-', '.', ':', '\\', ' '].contains c

/-- A text of simple characters. -/
def Simple (text : String) : Prop :=
  ∀ c ∈ text.toList, isSimple c = true

namespace Simple

instance (text : String) : Decidable (Simple text) :=
  List.decidableBAll (fun c => isSimple c = true) text.toList

/-- Two texts are simple together if both are. -/
theorem append_iff {first second : String} :
    Simple (first ++ second) ↔ Simple first ∧ Simple second := by
  rw [Simple, String.toList_append, List.forall_mem_append]
  rfl

/-- A text is simple if all its characters are. -/
theorem ofList_iff {cs : List Char} :
    Simple (String.ofList cs) ↔ ∀ c ∈ cs, isSimple c = true := by
  rw [Simple, String.toList_ofList]

/-- Simple texts are simple together. -/
theorem append {first second : String} (front : Simple first) (back : Simple second) :
    Simple (first ++ second) :=
  append_iff.mpr ⟨front, back⟩

private theorem of_mem_digits {n : Nat} {c : Char} (member : c ∈ Nat.toDigits 10 n) :
    isSimple c = true := by
  have digit : c.isDigit = true := Nat.isDigit_of_mem_toDigits (by decide) (by decide) member
  simp [isSimple, Char.isAlphanum, digit]

private theorem digits (n : Nat) : Simple (String.ofList (Nat.toDigits 10 n)) :=
  ofList_iff.mpr fun _ => of_mem_digits

private theorem nat (n : Nat) : Simple (toString n) :=
  Nat.toString_eq_ofList_toDigits ▸ digits n

/-- The numeral of an integer is simple. -/
theorem int (n : Int) : Simple (toString n) := by
  cases n with
  | ofNat n => exact nat n
  | negSucc n => exact append (by decide) (nat (n + 1))

private theorem of_mem_zeros {n : Nat} {c : Char} (member : c ∈ List.replicate n '0') :
    isSimple c = true := by
  rw [(List.mem_replicate.mp member).2]
  rfl

private theorem zeros (n : Nat) : Simple (Number.zeros n) :=
  ofList_iff.mpr fun _ => of_mem_zeros

private theorem layout (number : Nat) (place : Int) : Simple (Number.layout number place) := by
  have front : ∀ count, Simple (String.ofList ((Nat.toDigits 10 number).take count)) :=
    fun _ => ofList_iff.mpr fun _ member => of_mem_digits (List.mem_of_mem_take member)
  have back : ∀ count, Simple (String.ofList ((Nat.toDigits 10 number).drop count)) :=
    fun _ => ofList_iff.mpr fun _ member => of_mem_digits (List.mem_of_mem_drop member)
  unfold Number.layout
  simp only [String.toList_ofList]
  split
  · exact append (digits number) (zeros _)
  split
  · exact append (append (front _) (by decide)) (back _)
  split
  · exact append (append (by decide) (zeros _)) (digits number)
  · refine append (append (append (append (front 1) ?_) (by decide)) ?_) (nat _)
    · split
      · decide
      · exact append (by decide) (back 1)
    · split <;> decide

/-- The text of a number is simple. -/
theorem number (n : Number) : Simple n.text := by
  cases n with
  | int n => exact int n
  | negativeZero => decide
  | wide bits =>
      rw [Number.text]
      cases Number.readBits bits with
      | notANumber => decide
      | infinite negative => cases negative <;> decide
      | finite negative significand exponent =>
          refine append ?_ (layout _ _)
          cases negative <;> decide

private theorem padded (width n : Nat) : Simple (Instant.padded width n) := by
  rw [Instant.padded, ofList_iff]
  exact List.forall_mem_append.mpr ⟨fun _ => of_mem_zeros, fun _ => of_mem_digits⟩

/-- The text of an instant is simple. -/
theorem iso (instant : Int) : Simple (Instant.iso instant) := by
  have year : ∀ year, Simple (Instant.isoYear year) := by
    intro year
    unfold Instant.isoYear
    split
    · exact padded _ _
    · refine append ?_ (padded _ _)
      split <;> decide
  simp only [Instant.iso, append_iff, padded, year, true_and, and_true]
  decide

/-- The digits of bytes are simple. -/
theorem hex (bytes : Bytes) : Simple (Text.hex bytes) := by
  have digit : ∀ n < 16, isSimple (Text.hexDigit n) = true := by decide
  rw [Text.hex, ofList_iff]
  intro c member
  obtain ⟨byte, _, within⟩ := List.mem_flatMap.mp member
  have small := byte.toNat_lt
  simp only [Text.hexByte, List.mem_cons, List.not_mem_nil, or_false] at within
  rcases within with rfl | rfl
  · exact digit _ (by omega)
  · exact digit _ (by omega)

/-- A space in front of a simple text leaves it simple. -/
theorem guarded {text : String} (simple : Simple text) : Simple (TextTransform.guarded text) := by
  unfold TextTransform.guarded
  split
  · exact append (by decide) simple
  · exact simple

/-- A simple text has no quotes. -/
theorem unquoted {text : String} (simple : Simple text) : '\'' ∉ text.toList :=
  fun member => absurd (simple _ member) (by decide)

end Simple

/-- A text without a percent sign. -/
def Unmarked (text : String) : Prop :=
  '%' ∉ text.toList

namespace Unmarked

instance (text : String) : Decidable (Unmarked text) :=
  inferInstanceAs (Decidable ('%' ∉ text.toList))

/-- Texts without marks have none together. -/
theorem append {first second : String} (front : Unmarked first) (back : Unmarked second) :
    Unmarked (first ++ second) := by
  rw [Unmarked, String.toList_append, List.mem_append, not_or]
  exact ⟨front, back⟩

/-- A text without marks is inert. -/
theorem inert {text : String} (unmarked : Unmarked text) : Marks.chars.inert text.toList = true :=
  Marks.inert_of_not_mem unmarked

end Unmarked

/-- A simple text has no marks. -/
theorem Simple.unmarked {text : String} (simple : Simple text) : Unmarked text :=
  fun member => absurd (simple _ member) (by decide)

end QueryBind
