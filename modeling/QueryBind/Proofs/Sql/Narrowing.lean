import Mathlib.Data.List.Basic
import QueryBind.Proofs.Sql.Reading
import QueryBind.Text.Codec

/-! # Quoted texts in single-byte encodings

A single-byte codec keeps the low byte of every unit, after the text has been quoted. So a unit
that is neither a quote nor a backslash may become one, and it has been written once. Such a false
sign leaves the reader in the middle of a pair (`Sql.Pending`), and what the next unit does then
depends on what is pending. A literal is read to its end exactly if nothing is pending behind the
last unit (`Sql.closes_iff`).
-/

namespace QueryBind.Sql

open Text (Codec unitsOf units)

/-- What a unit is to a reader who sees its low byte. -/
inductive Guise where
  | quote
  | backslash
  /-- Another unit with the low byte of a quote. -/
  | falseQuote
  /-- Another unit with the low byte of a backslash. -/
  | falseBackslash
  | plain
  deriving DecidableEq, Repr

/-- What a unit is to a reader who sees its low byte. -/
def guise (unit : UInt16) : Guise :=
  if unit = 0x27 then .quote
  else if unit = 0x5C then .backslash
  else if unit.toUInt8 = 0x27 then .falseQuote
  else if unit.toUInt8 = 0x5C then .falseBackslash
  else .plain

/-- What the reader of a literal waits for between two units. -/
inductive Pending where
  | nothing
  /-- A quote was read, which is the first of two or ends the literal. -/
  | quote
  /-- A backslash was read, which takes the next byte. -/
  | backslash
  deriving DecidableEq, Repr

namespace Pending

/-- What is pending behind another unit, if the literal has not ended in front of it. -/
def pass (escapes : Bool) : Pending → Guise → Option Pending
  | .nothing, .falseQuote => some .quote
  | .nothing, .falseBackslash => some (if escapes then .backslash else .nothing)
  | .nothing, _ => some .nothing
  | .quote, .quote => some .quote
  | .quote, .falseQuote => some .nothing
  | .quote, _ => none
  | .backslash, .quote => some .quote
  | .backslash, .backslash => some .backslash
  | .backslash, _ => some .nothing

/-- What is pending behind units. -/
def passAll (escapes : Bool) : Pending → List UInt16 → Option Pending
  | pending, [] => some pending
  | pending, unit :: rest => (pending.pass escapes (guise unit)).bind (passAll escapes · rest)

/-- The bytes that were read and not yet understood. -/
def bytes : Pending → Bytes
  | .nothing => []
  | .quote => [0x27]
  | .backslash => [0x5C]

end Pending

/-- A text whose literal stays one literal without a NUL when each of its units loses its high
byte. -/
def Intact (text : String) : Prop :=
  0 ∉ Codec.encodeUnits text ∧
    Pending.nothing.passAll (text.toList.contains '\\') (units text) = some .nothing

instance (text : String) : Decidable (Intact text) :=
  inferInstanceAs (Decidable (_ ∧ _))

/-- The low bytes of a unit between the quotes of a literal. -/
def narrowed (unit : UInt16) : Bytes :=
  if unit = 0x27 ∨ unit = 0x5C then [unit.toUInt8, unit.toUInt8] else [unit.toUInt8]

/-- The bytes of a unit in this guise. -/
inductive Narrows : Guise → Bytes → Prop
  | quote : Narrows .quote [0x27, 0x27]
  | backslash : Narrows .backslash [0x5C, 0x5C]
  | falseQuote : Narrows .falseQuote [0x27]
  | falseBackslash : Narrows .falseBackslash [0x5C]
  | plain {byte : UInt8} (notQuote : byte ≠ 0x27) (notBackslash : byte ≠ 0x5C) :
      Narrows .plain [byte]

private theorem narrows_guise (unit : UInt16) : Narrows (guise unit) (narrowed unit) := by
  unfold guise narrowed
  by_cases quote : unit = 0x27
  · subst quote
    exact .quote
  by_cases backslash : unit = 0x5C
  · subst backslash
    exact .backslash
  simp only [quote, backslash, or_self, if_false]
  split
  · next low =>
      rw [low]
      exact .falseQuote
  · next notQuote =>
      split
      · next low =>
          rw [low]
          exact .falseBackslash
      · next notBackslash => exact .plain notQuote notBackslash

private theorem guise_eq_backslash {unit : UInt16} (backslash : guise unit = .backslash) :
    unit = 0x5C := by
  by_cases same : unit = 0x5C
  · exact same
  unfold guise at backslash
  rw [if_neg same] at backslash
  split at backslash
  · cases backslash
  split at backslash
  · cases backslash
  split at backslash <;> cases backslash

/-- Whether reading ends with the last byte. -/
def Closes (escapes : Bool) (bytes : Bytes) : Prop :=
  ∃ content, readBody Signs.bytes escapes bytes = some (content, [])

private theorem closes_of_map {escapes : Bool} {items rest : Bytes} {more : Bytes → Bytes}
    (same : readBody Signs.bytes escapes items =
      (readBody Signs.bytes escapes rest).map (Prod.map more id)) :
    Closes escapes items ↔ Closes escapes rest := by
  unfold Closes
  rw [same]
  cases readBody Signs.bytes escapes rest with
  | none => simp
  | some read => simp [Prod.ext_iff]

section Closes

variable {escapes : Bool} (rest : Bytes)

/-- Two quotes do not close a literal. -/
theorem closes_quote_quote : Closes escapes (0x27 :: 0x27 :: rest) ↔ Closes escapes rest :=
  closes_of_map (readBody_quote_quote escapes rest)

/-- A byte behind a backslash does not close an escaped literal. -/
theorem closes_backslash (byte : UInt8) :
    Closes true (0x5C :: byte :: rest) ↔ Closes true rest :=
  closes_of_map (readBody_backslash rest byte)

/-- A plain byte does not close a literal. -/
theorem closes_plain {byte : UInt8} (notQuote : byte ≠ 0x27)
    (notBackslash : escapes = true → byte ≠ 0x5C) :
    Closes escapes (byte :: rest) ↔ Closes escapes rest :=
  closes_of_map (readBody_plain rest notQuote notBackslash)

/-- A literal that ends early leaves something. -/
theorem not_closes_quote {byte : UInt8} (notQuote : byte ≠ 0x27) :
    ¬Closes escapes (0x27 :: byte :: rest) := by
  rintro ⟨content, read⟩
  have single : (byte :: rest).head? ≠ some Signs.bytes.quote := fun same =>
    notQuote (Option.some.inj same)
  have early : readBody Signs.bytes escapes (0x27 :: byte :: rest) = some ([], byte :: rest) :=
    readBody_quote escapes single
  rw [early] at read
  cases read

end Closes

/-- **One unit.** The bytes of a unit behind a pending one are read to the end of what follows
exactly if the literal goes on, and with what is pending then. -/
theorem closes_step {escapes : Bool} {pending : Pending} {role : Guise} {front : Bytes}
    (narrows : Narrows role front) (waits : pending = .backslash → escapes = true)
    (allowed : role = .backslash → escapes = true) (rest : Bytes) :
    Closes escapes (pending.bytes ++ (front ++ rest)) ↔
      ∃ next, pending.pass escapes role = some next ∧ Closes escapes (next.bytes ++ rest) := by
  cases pending with
  | nothing =>
      cases narrows with
      | quote => simpa [Pending.pass, Pending.bytes] using closes_quote_quote rest
      | backslash =>
          rw [allowed rfl]
          simpa [Pending.pass, Pending.bytes] using closes_backslash rest 0x5C
      | falseQuote => simp [Pending.pass, Pending.bytes]
      | falseBackslash =>
          cases escapes with
          | true => simp [Pending.pass, Pending.bytes]
          | false =>
              have ordinary : Closes false (0x5C :: rest) ↔ Closes false rest :=
                closes_plain rest (by decide) (by simp)
              simpa [Pending.pass, Pending.bytes] using ordinary
      | plain notQuote notBackslash =>
          simpa [Pending.pass, Pending.bytes] using
            closes_plain rest notQuote fun _ => notBackslash
  | quote =>
      cases narrows with
      | quote => simpa [Pending.pass, Pending.bytes] using closes_quote_quote (0x27 :: rest)
      | backslash =>
          have early : ¬Closes escapes (0x27 :: 0x5C :: 0x5C :: rest) :=
            not_closes_quote _ (by decide)
          simpa [Pending.pass, Pending.bytes] using early
      | falseQuote => simpa [Pending.pass, Pending.bytes] using closes_quote_quote rest
      | falseBackslash =>
          have early : ¬Closes escapes (0x27 :: 0x5C :: rest) := not_closes_quote _ (by decide)
          simpa [Pending.pass, Pending.bytes] using early
      | plain notQuote _ =>
          simpa [Pending.pass, Pending.bytes] using not_closes_quote rest notQuote
  | backslash =>
      rw [waits rfl]
      cases narrows with
      | quote => simpa [Pending.pass, Pending.bytes] using closes_backslash (0x27 :: rest) 0x27
      | backslash => simpa [Pending.pass, Pending.bytes] using closes_backslash (0x5C :: rest) 0x5C
      | falseQuote => simpa [Pending.pass, Pending.bytes] using closes_backslash rest 0x27
      | falseBackslash => simpa [Pending.pass, Pending.bytes] using closes_backslash rest 0x5C
      | @plain byte _ _ => simpa [Pending.pass, Pending.bytes] using closes_backslash rest byte

private theorem Pending.waits_of_pass {escapes : Bool} {pending next : Pending} {role : Guise}
    (waits : pending = .backslash → escapes = true) (passed : pending.pass escapes role = some next)
    (backslash : next = .backslash) : escapes = true := by
  subst backslash
  cases pending with
  | backslash => exact waits rfl
  | quote => cases role <;> simp [pass] at passed
  | nothing =>
      cases role with
      | falseBackslash => simpa [pass] using passed
      | _ => simp [pass] at passed

/-- **All units.** The bytes of a text between quotes are read to the closing one exactly if
nothing is pending in front of it. -/
theorem closes_iff {escapes : Bool} {pending : Pending} {units : List UInt16}
    (waits : pending = .backslash → escapes = true) (allowed : 0x5C ∈ units → escapes = true) :
    Closes escapes (pending.bytes ++ (units.flatMap narrowed ++ [0x27])) ↔
      pending.passAll escapes units = some .nothing := by
  induction units generalizing pending with
  | nil =>
      have open_ : ¬Closes escapes [] := fun ⟨_, read⟩ => nomatch read
      cases pending with
      | nothing =>
          have closed : Closes escapes [0x27] := ⟨[], rfl⟩
          simpa [Pending.passAll, Pending.bytes] using closed
      | quote =>
          have unfinished : ¬Closes escapes [0x27, 0x27] :=
            (not_congr (closes_quote_quote [])).mpr open_
          simpa [Pending.passAll, Pending.bytes] using unfinished
      | backslash =>
          rw [waits rfl] at open_ ⊢
          have unfinished : ¬Closes true [0x5C, 0x27] :=
            (not_congr (closes_backslash [] 0x27)).mpr open_
          simpa [Pending.passAll, Pending.bytes] using unfinished
  | cons unit rest ih =>
      have first : guise unit = .backslash → escapes = true := fun backslash =>
        allowed (guise_eq_backslash backslash ▸ List.mem_cons_self)
      rw [List.flatMap_cons, List.append_assoc, closes_step (narrows_guise unit) waits first,
        Pending.passAll, Option.bind_eq_some_iff]
      refine exists_congr fun next => and_congr_right fun passed => ?_
      exact ih (Pending.waits_of_pass waits passed) fun member =>
        allowed (List.mem_cons_of_mem unit member)

private theorem toNat_of_mem_unitsOf {c : Char} {unit : UInt16} (member : unit ∈ unitsOf c)
    (small : unit.toNat < 0xD800) : c.toNat = unit.toNat := by
  have range : c.toNat < 0x110000 := by
    have valid : c.toNat < 0xD800 ∨ 0xDFFF < c.toNat ∧ c.toNat < 0x110000 := c.valid
    omega
  unfold unitsOf at member
  split at member
  · next plane =>
      rw [List.mem_singleton.mp member, UInt16.toNat_ofNat_of_lt' plane]
  · simp only [List.mem_cons, List.not_mem_nil, or_false] at member
    rcases member with rfl | rfl
    · rw [UInt16.toNat_ofNat_of_lt' (show _ < 65536 by omega)] at small
      omega
    · rw [UInt16.toNat_ofNat_of_lt' (show _ < 65536 by omega)] at small
      omega

/-- The low bytes of a character's units. -/
def lowBytes (c : Char) : Bytes :=
  (unitsOf c).map (·.toUInt8)

private theorem flatMap_lowBytes (cs : List Char) :
    Codec.encodeUnits (String.ofList cs) = cs.flatMap lowBytes := by
  rw [Codec.encodeUnits, units, String.toList_ofList, List.map_flatMap]
  rfl

private theorem flatMap_lowBytes_written (c : Char) :
    (written c).flatMap lowBytes = (unitsOf c).flatMap narrowed := by
  unfold written
  by_cases quote : c = '\''
  · subst quote
    rfl
  by_cases backslash : c = '\\'
  · subst backslash
    rfl
  simp only [quote, backslash, or_self, if_false, List.flatMap_singleton, lowBytes]
  rw [List.map_eq_flatMap]
  refine List.flatMap_congr fun unit member => ?_
  have single : ¬(unit = 0x27 ∨ unit = 0x5C) := by
    rintro (rfl | rfl)
    · exact quote (Char.toNat_inj.mp (toNat_of_mem_unitsOf member (by decide)))
    · exact backslash (Char.toNat_inj.mp (toNat_of_mem_unitsOf member (by decide)))
  rw [narrowed, if_neg single]

/-- The bytes of a quoted text in a single-byte encoding. -/
theorem encodeUnits_literalChars (text : String) :
    Codec.encodeUnits (String.ofList (literalChars text.toList)) =
      (opening (text.toList.contains '\\')).flatMap lowBytes ++
        ((units text).flatMap narrowed ++ [0x27]) := by
  have body : (text.toList.flatMap written).flatMap lowBytes = (units text).flatMap narrowed := by
    rw [List.flatMap_assoc, units, List.flatMap_assoc]
    exact List.flatMap_congr fun c _ => flatMap_lowBytes_written c
  rw [flatMap_lowBytes, literalChars_eq, List.flatMap_append, List.flatMap_append, body]
  rfl

/-- Reading the bytes as one literal from the first to the last. -/
def WholeLiteral (bytes : Bytes) : Prop :=
  (∃ content, readLiteral Signs.bytes bytes = some (content, [])) ∧ 0 ∉ bytes

private theorem readLiteral_opening (escapes : Bool) (body : Bytes) :
    readLiteral Signs.bytes ((opening escapes).flatMap lowBytes ++ body) =
      readBody Signs.bytes escapes body := by
  cases escapes <;> rfl

private theorem mem_units_of_backslash {text : String} (member : 0x5C ∈ units text) :
    text.toList.contains '\\' = true := by
  obtain ⟨c, among, unit⟩ := List.mem_flatMap.mp member
  have backslash : c = '\\' :=
    Char.toNat_inj.mp (toNat_of_mem_unitsOf unit (by decide))
  exact List.contains_iff_mem.mpr (backslash ▸ among)

private theorem zero_not_mem_iff (escapes : Bool) (units : List UInt16) :
    0 ∉ (opening escapes).flatMap lowBytes ++ (units.flatMap narrowed ++ [0x27]) ↔
      0 ∉ units.map (·.toUInt8) := by
  have front : 0 ∉ (opening escapes).flatMap lowBytes := by cases escapes <;> decide
  have back : (0 : UInt8) ∉ [0x27] := by decide
  have within : ∀ unit, 0 ∈ narrowed unit ↔ unit.toUInt8 = 0 := by
    intro unit
    unfold narrowed
    split <;> simp [eq_comm]
  simp only [List.mem_append, front, back, false_or, or_false, List.mem_flatMap, List.mem_map,
    within]

/-- **Losing high bytes.** A quoted text in a single-byte encoding is one literal exactly if the
text is intact. -/
theorem wholeLiteral_encodeUnits_iff (text : String) :
    WholeLiteral (Codec.encodeUnits (String.ofList (literalChars text.toList))) ↔
      Intact text := by
  have waits : Pending.nothing = .backslash → text.toList.contains '\\' = true := by
    intro impossible
    cases impossible
  have closes : Closes (text.toList.contains '\\') ((units text).flatMap narrowed ++ [0x27]) ↔
      Pending.nothing.passAll (text.toList.contains '\\') (units text) = some .nothing :=
    closes_iff waits mem_units_of_backslash
  rw [encodeUnits_literalChars, WholeLiteral, readLiteral_opening, zero_not_mem_iff, Intact,
    ← closes, and_comm]
  rfl

private theorem toNat_of_honest {unit : UInt16} {byte : UInt8} (low : unit.toUInt8 = byte)
    (small : unit.toNat < 0x100) : unit.toNat = byte.toNat := by
  rw [← low, UInt16.toNat_toUInt8]
  exact (Nat.mod_eq_of_lt small).symm

private theorem pass_of_honest (escapes : Bool) {unit : UInt16}
    (honest : unit.toUInt8 ∈ [0x00, 0x27, 0x5C] → unit.toNat < 0x100) :
    Pending.nothing.pass escapes (guise unit) = some .nothing := by
  unfold guise
  split
  · rfl
  next notQuote =>
    split
    · rfl
    next notBackslash =>
      split
      · next low =>
          have number := toNat_of_honest low (honest (by rw [low]; decide))
          exact absurd (UInt16.toNat_inj.mp number) notQuote
      · split
        · next low =>
            have number := toNat_of_honest low (honest (by rw [low]; decide))
            exact absurd (UInt16.toNat_inj.mp number) notBackslash
        · rfl

/-- Without false signs nothing is ever pending. -/
theorem passAll_of_honest (escapes : Bool) {units : List UInt16}
    (honest : ∀ unit ∈ units, unit.toUInt8 ∈ [0x00, 0x27, 0x5C] → unit.toNat < 0x100) :
    Pending.nothing.passAll escapes units = some .nothing := by
  induction units with
  | nil => rfl
  | cons unit rest ih =>
      obtain ⟨first, later⟩ := List.forall_mem_cons.mp honest
      rw [Pending.passAll, pass_of_honest escapes first]
      exact ih later

/-- A text is intact if none of its units has the low byte of a sign without being that sign. -/
theorem intact_of_honest {text : String} (nulFree : '\x00' ∉ text.toList)
    (honest : ∀ unit ∈ units text, unit.toUInt8 ∈ [0x00, 0x27, 0x5C] → unit.toNat < 0x100) :
    Intact text := by
  refine ⟨fun zero => ?_, passAll_of_honest _ honest⟩
  obtain ⟨unit, member, low⟩ := List.mem_map.mp zero
  have number := toNat_of_honest low (honest unit member (by rw [low]; decide))
  obtain ⟨c, among, within⟩ := List.mem_flatMap.mp member
  have nul : c = '\x00' :=
    Char.toNat_inj.mp ((toNat_of_mem_unitsOf within (by rw [number]; decide)).trans number)
  exact nulFree (nul ▸ among)

end QueryBind.Sql
