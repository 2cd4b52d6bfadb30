import Mathlib
import QueryBind.Proofs.Statement.Agreement

/-! # Markers as the server reads them

A marker ends where its digits end, and the server takes the longest run of digits behind a dollar
sign. So a marker runs on into a fragment that begins with a digit: what is read has the digits of
the fragment behind those of the marker (`readMarkers_weaveSlots`). If no fragment has a dollar sign
of its own, the server reads the markers that were assigned exactly if no fragment behind a
placeholder begins with a digit (`ServerQuery.readMarkers_iff`).
-/

namespace QueryBind

/-- The dollar sign. -/
def dollarByte : UInt8 := 0x24

/-- Whether a byte is a decimal digit. -/
def isDigitByte (b : UInt8) : Bool :=
  0x30 ≤ b && b ≤ 0x39

/-- The digits that bytes begin with. -/
def leadingDigits (bytes : Bytes) : Bytes :=
  bytes.takeWhile isDigitByte

/-- The number that digits spell. -/
def numberOf (digits : Bytes) : Nat :=
  Nat.ofDigitChars 10 (digits.map fun b => Char.ofNat b.toNat) 0

/-- The numbers of the markers in a query, from left to right: at each dollar sign the longest run
of digits behind it. A dollar sign without digits begins no marker. -/
def readMarkers : Bytes → List Nat
  | [] => []
  | b :: rest =>
    if b = dollarByte ∧ leadingDigits rest ≠ [] then
      numberOf (leadingDigits rest) :: readMarkers rest
    else readMarkers rest

/-- The number that is read where a marker stands in front of a fragment. -/
def readThrough (marker : Nat) (fragment : Bytes) : Nat :=
  marker * 10 ^ (leadingDigits fragment).length + numberOf (leadingDigits fragment)

namespace Scan

/-- The fragments behind the placeholders, one for each. -/
def following (scan : Scan) : List Bytes :=
  scan.fragments.tail

end Scan

/-! ## Digits -/

/-- The digits of a number, as bytes. -/
def digitBytes (number : Nat) : Bytes :=
  (Nat.toDigits 10 number).map fun digit => UInt8.ofNat digit.toNat

private theorem markerBytes_eq (number : Nat) :
    markerBytes number = dollarByte :: digitBytes number :=
  rfl

private theorem isDigitByte_of_isDigit {c : Char} (digit : c.isDigit = true) :
    isDigitByte (UInt8.ofNat c.toNat) = true ∧
      Char.ofNat (UInt8.ofNat c.toNat).toNat = c := by
  rw [Char.isDigit, Bool.and_eq_true, decide_eq_true_eq, decide_eq_true_eq] at digit
  have low : 48 ≤ c.toNat := UInt32.le_iff_toNat_le.mp digit.1
  have high : c.toNat ≤ 57 := UInt32.le_iff_toNat_le.mp digit.2
  have same : (UInt8.ofNat c.toNat).toNat = c.toNat :=
    UInt8.toNat_ofNat_of_lt' (Nat.lt_of_le_of_lt high (by decide))
  refine ⟨?_, ?_⟩
  · rw [isDigitByte, Bool.and_eq_true, decide_eq_true_eq, decide_eq_true_eq,
      UInt8.le_iff_toNat_le, UInt8.le_iff_toNat_le, same]
    exact ⟨low, high⟩
  · rw [same, Char.ofNat_toNat]

private theorem isDigitByte_of_mem_digitBytes {number : Nat} {b : UInt8}
    (member : b ∈ digitBytes number) : isDigitByte b = true := by
  obtain ⟨c, among, rfl⟩ := List.mem_map.mp member
  exact (isDigitByte_of_isDigit
    (Nat.isDigit_of_mem_toDigits (by decide) (by decide) among)).1

private theorem numberOf_digitBytes (number : Nat) : numberOf (digitBytes number) = number := by
  have chars : (digitBytes number).map (fun b => Char.ofNat b.toNat) = Nat.toDigits 10 number := by
    rw [digitBytes, List.map_map]
    refine (List.map_congr_left fun c among => ?_).trans (List.map_id _)
    exact (isDigitByte_of_isDigit
      (Nat.isDigit_of_mem_toDigits (by decide) (by decide) among)).2
  rw [numberOf, chars, Nat.ofDigitChars_toDigits (by decide) (by decide)]

private theorem ofDigitChars_eq (cs : List Char) (value : Nat) :
    Nat.ofDigitChars 10 cs value = value * 10 ^ cs.length + Nat.ofDigitChars 10 cs 0 := by
  induction cs generalizing value with
  | nil => simp [Nat.ofDigitChars]
  | cons c cs ih =>
      rw [Nat.ofDigitChars_cons, Nat.ofDigitChars_cons, ih, ih (10 * 0 + _), List.length_cons,
        pow_succ]
      ring

/-- Digits behind others shift the number that these spell. -/
theorem numberOf_append (front back : Bytes) :
    numberOf (front ++ back) = numberOf front * 10 ^ back.length + numberOf back := by
  rw [numberOf, List.map_append, Nat.ofDigitChars_append, ofDigitChars_eq, List.length_map]
  rfl

private theorem not_isDigitByte_dollar : isDigitByte dollarByte = false := by decide

/-- The digits that bytes begin with end at a dollar sign at the latest. -/
theorem leadingDigits_append_dollar (fragment rest : Bytes) :
    leadingDigits (fragment ++ dollarByte :: rest) = leadingDigits fragment := by
  unfold leadingDigits
  induction fragment with
  | nil => rw [List.nil_append, List.takeWhile_cons, not_isDigitByte_dollar]; rfl
  | cons b fragment ih =>
      rw [List.cons_append, List.takeWhile_cons, List.takeWhile_cons, ih]

private theorem leadingDigits_digitBytes_append (number : Nat) (rest : Bytes) :
    leadingDigits (digitBytes number ++ rest) = digitBytes number ++ leadingDigits rest :=
  List.takeWhile_append_of_pos fun _ member => isDigitByte_of_mem_digitBytes member

/-! ## Reading -/

/-- Bytes without a dollar sign are passed over. -/
theorem readMarkers_append {front : Bytes} (free : dollarByte ∉ front) (rest : Bytes) :
    readMarkers (front ++ rest) = readMarkers rest := by
  induction front with
  | nil => rfl
  | cons b front ih =>
      obtain ⟨other, later⟩ := not_or.mp (mt List.mem_cons.mpr free)
      rw [List.cons_append, readMarkers, if_neg fun both => other both.1.symm, ih later]

/-- A marker is read with the digits that stand behind it. -/
theorem readMarkers_marker (marker : Nat) (rest : Bytes) :
    readMarkers (markerBytes marker ++ rest) = readThrough marker rest :: readMarkers rest := by
  have run := leadingDigits_digitBytes_append marker rest
  have filled : digitBytes marker ++ leadingDigits rest ≠ [] := by
    refine List.append_ne_nil_of_left_ne_nil ?_ _
    exact List.map_eq_nil_iff.not.mpr Nat.toDigits_ne_nil
  have free : dollarByte ∉ digitBytes marker := fun member =>
    absurd (isDigitByte_of_mem_digitBytes member) (by decide)
  rw [markerBytes_eq, List.cons_append, readMarkers, run, if_pos ⟨rfl, filled⟩, numberOf_append,
    numberOf_digitBytes, readMarkers_append free]
  rfl

namespace Scan

/-- What is woven begins with the digits of the first fragment. -/
theorem leadingDigits_weaveSlots {slots : List Slot} {markers : List Nat}
    (enough : markers.length = slots.length) (tail : Bytes) :
    leadingDigits (weaveSlots slots (markers.map markerBytes) tail) =
      leadingDigits (((fragments ⟨slots, tail⟩).head?).getD []) := by
  cases slots with
  | nil => rfl
  | cons slot slots =>
      obtain ⟨marker, markers, rfl⟩ := List.exists_cons_of_length_eq_add_one enough
      rw [List.map_cons, weaveSlots, markerBytes_eq, List.append_assoc, List.cons_append,
        leadingDigits_append_dollar]
      rfl

/-- **What is read of woven markers.** Each marker is read with the digits that the fragment behind
it begins with. -/
theorem readMarkers_weaveSlots {slots : List Slot} {tail : Bytes}
    (free : ∀ fragment ∈ fragments ⟨slots, tail⟩, dollarByte ∉ fragment) {markers : List Nat}
    (enough : markers.length = slots.length) :
    readMarkers (weaveSlots slots (markers.map markerBytes) tail) =
      List.zipWith readThrough markers (following ⟨slots, tail⟩) := by
  induction slots generalizing markers with
  | nil =>
      rw [List.length_eq_zero_iff.mp enough]
      have passed := readMarkers_append (free tail List.mem_cons_self) []
      rw [List.append_nil] at passed
      exact passed
  | cons slot slots ih =>
      obtain ⟨marker, markers, rfl⟩ := List.exists_cons_of_length_eq_add_one enough
      obtain ⟨first, others⟩ := List.forall_mem_cons.mp free
      have later := Nat.succ.inj enough
      have next := leadingDigits_weaveSlots later tail
      rw [List.map_cons, weaveSlots, List.append_assoc, readMarkers_append first,
        readMarkers_marker, ih others later]
      cases split : fragments ⟨slots, tail⟩ with
      | nil => exact absurd split (List.append_ne_nil_of_right_ne_nil _ (List.cons_ne_nil _ _))
      | cons fragment rest =>
          rw [split] at next
          have here : following ⟨slot :: slots, tail⟩ = fragment :: rest := split
          have there : following ⟨slots, tail⟩ = rest := by rw [following, split]; rfl
          rw [here, there, List.zipWith_cons_cons, readThrough, readThrough, next]
          rfl

private theorem length_following (scan : Scan) : scan.following.length = scan.count := by
  rw [following, fragments, List.length_tail, List.length_append, List.length_map]
  rfl

end Scan

/-- A positive number is read as it is exactly if no digits stand behind it. -/
theorem readThrough_eq_iff {marker : Nat} (positive : 1 ≤ marker) (fragment : Bytes) :
    readThrough marker fragment = marker ↔ leadingDigits fragment = [] := by
  unfold readThrough
  constructor
  · intro same
    by_contra filled
    have longer : 10 ^ 1 ≤ 10 ^ (leadingDigits fragment).length :=
      Nat.pow_le_pow_right (by decide) (List.length_pos_iff.mpr filled)
    have grown := Nat.mul_le_mul_left marker longer
    omega
  · intro empty
    rw [empty]
    simp [numberOf, Nat.ofDigitChars]

/-- All numbers are read as they are exactly if no digits stand behind any of them. -/
theorem zipWith_readThrough_eq_iff {markers : List Nat} (positive : ∀ marker ∈ markers, 1 ≤ marker)
    {fragments : List Bytes} (enough : fragments.length = markers.length) :
    List.zipWith readThrough markers fragments = markers ↔
      ∀ fragment ∈ fragments, leadingDigits fragment = [] := by
  induction markers generalizing fragments with
  | nil => simp [List.length_eq_zero_iff.mp enough]
  | cons marker markers ih =>
      obtain ⟨fragment, fragments, rfl⟩ := List.exists_cons_of_length_eq_add_one enough
      obtain ⟨first, others⟩ := List.forall_mem_cons.mp positive
      rw [List.zipWith_cons_cons, List.cons.injEq, readThrough_eq_iff first,
        ih others (Nat.succ.inj enough), List.forall_mem_cons]

/-- Bytes begin with no digits if their first byte is none. -/
theorem leadingDigits_eq_nil_iff (bytes : Bytes) :
    leadingDigits bytes = [] ↔ bytes.head?.any isDigitByte = false := by
  cases bytes with
  | nil => simp [leadingDigits]
  | cons b rest => cases digit : isDigitByte b <;> simp [leadingDigits, digit]

namespace ServerQuery

/-- **When the server reads the markers that were assigned.** Take a query with markers whose
fragments have no dollar sign. At each placeholder the server reads the number of the marker with
the digits that the fragment behind it begins with. So it reads exactly the assigned markers, in
order, if no fragment behind a placeholder begins with a digit, and otherwise it does not. -/
theorem readMarkers_iff {encoding : String} {query : Bytes} {server : ServerQuery}
    (assembled : ofBytes encoding query = .ok server)
    (free : ∀ fragment ∈ server.scan.fragments, dollarByte ∉ fragment) :
    ∃ assigned, Assignment.ofSlots server.scan.slots = .ok assigned ∧
      server.query = server.scan.weave (assigned.markers.map markerBytes) ∧
      assigned.markers.length = server.scan.count ∧
      readMarkers server.query =
        List.zipWith readThrough assigned.markers server.scan.following ∧
      (readMarkers server.query = assigned.markers ↔
        ∀ fragment ∈ server.scan.following, fragment.head?.any isDigitByte = false) := by
  obtain ⟨scan, assigned, _, marked, rfl⟩ := ofBytes_eq_ok assembled
  have enough := Assignment.length_markers marked
  have read : readMarkers (ofAssignment scan assigned).query =
      List.zipWith readThrough assigned.markers scan.following :=
    Scan.readMarkers_weaveSlots free enough
  have positive : ∀ marker ∈ assigned.markers, 1 ≤ marker := by
    rw [Assignment.markers_ofSlots marked]
    intro marker among
    obtain ⟨key, _, rfl⟩ := List.mem_map.mp among
    exact Nat.succ_pos _
  refine ⟨assigned, marked, rfl, enough, read, ?_⟩
  rw [read, zipWith_readThrough_eq_iff positive ((Scan.length_following scan).trans enough.symm)]
  exact forall₂_congr fun fragment _ => leadingDigits_eq_nil_iff fragment

/-- Three placeholders for two names, the first in front of a digit: the server reads the eleventh
parameter where the first was meant. -/
theorem readMarkers_iff_of_digit :
    let query : Bytes := [0x25, 0x28, 0x78, 0x29, 0x73, 0x31, 0x25, 0x28, 0x79, 0x29, 0x73, 0x2C,
      0x25, 0x28, 0x78, 0x29, 0x73]
    let server : ServerQuery := ⟨[0x24, 0x31, 0x31, 0x24, 0x32, 0x2C, 0x24, 0x31], [.auto, .auto],
      some ["x", "y"], ⟨[⟨[], .name "x", .auto⟩, ⟨[0x31], .name "y", .auto⟩,
        ⟨[0x2C], .name "x", .auto⟩], []⟩⟩
    ofBytes "utf8" query = .ok server ∧
      (∀ fragment ∈ server.scan.fragments, dollarByte ∉ fragment) ∧
      ∃ assigned, Assignment.ofSlots server.scan.slots = .ok assigned ∧
        assigned.markers = [1, 2, 1] ∧ readMarkers server.query = [11, 2, 1] ∧
        readMarkers server.query ≠ assigned.markers := by
  intro query server
  have assembled : ofBytes "utf8" query = .ok server := by cbv
  have free : ∀ fragment ∈ server.scan.fragments, dollarByte ∉ fragment := by decide
  obtain ⟨assigned, marked, _, _, read, same⟩ := readMarkers_iff assembled free
  have markers : assigned.markers = [1, 2, 1] := by
    have known : Assignment.ofSlots server.scan.slots =
        .ok ⟨[1, 2, 1], [(.name "x", .auto), (.name "y", .auto)]⟩ := by cbv
    rw [known] at marked
    cases marked
    rfl
  refine ⟨assembled, free, assigned, marked, markers, ?_, fun equal => ?_⟩
  · rw [read, markers]
    cbv
  · exact absurd (same.mp equal [0x31] (by decide)) (by decide)

end ServerQuery

end QueryBind
