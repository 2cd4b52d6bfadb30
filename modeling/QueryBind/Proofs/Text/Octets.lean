import QueryBind.Placeholder.Format
import QueryBind.Text.Codec

/-! # Bytes as characters

Every byte is the number of one character, and the character gives the byte back. So the view of
bytes as characters, one for each, keeps all of them apart, and a byte is a format's letter in
one way only. In the eight-bit Unicode format the bytes below `0x80` are the characters below
`0x80`, and occur in no other character.
-/

namespace QueryBind

/-- The character of a byte has the byte as its number. -/
theorem toNat_ofNat_byte (byte : UInt8) : (Char.ofNat byte.toNat).toNat = byte.toNat := by
  have small := byte.toNat_lt
  have valid : byte.toNat.isValidChar := Or.inl (by omega)
  rw [Char.ofNat, dif_pos valid]
  rfl

private theorem ofNat_byte_injective {first second : UInt8}
    (same : Char.ofNat first.toNat = Char.ofNat second.toNat) : first = second := by
  apply UInt8.toNat_inj.mp
  rw [← toNat_ofNat_byte first, same, toNat_ofNat_byte]

namespace Text.Codec

/-- Bytes that look the same, one character for each, are the same. -/
theorem latin1Text_injective {first second : Bytes} (same : latin1Text first = latin1Text second) :
    first = second :=
  (List.map_inj_right fun _ _ => ofNat_byte_injective).mp (String.ofList_injective same)

end Text.Codec

namespace Text.Utf8

/-- A small character has one octet. -/
theorem utf8EncodeChar_of_small {c : Char} (small : c.toNat < 0x80) :
    String.utf8EncodeChar c = [UInt8.ofNat c.toNat] := by
  have bound : c.val.toNat ≤ 0x7F := Nat.le_of_lt_succ small
  unfold String.utf8EncodeChar
  exact if_pos bound

private theorem le_toNat_ofNat {n : Nat} (low : 0x80 ≤ n) (high : n < 0x100) :
    0x80 ≤ (UInt8.ofNat n).toNat := by
  rw [UInt8.toNat_ofNat_of_lt' high]
  exact low

private theorem le_of_mem_utf8EncodeChar {c : Char} (large : 0x80 ≤ c.toNat) {octet : UInt8}
    (member : octet ∈ String.utf8EncodeChar c) : 0x80 ≤ octet.toNat := by
  have bound : ¬ c.val.toNat ≤ 0x7F := Nat.not_le_of_lt large
  simp only [String.utf8EncodeChar, if_neg bound] at member
  split at member
  · simp only [List.mem_cons, List.not_mem_nil, or_false] at member
    rcases member with rfl | rfl
    all_goals exact le_toNat_ofNat (by omega) (by omega)
  split at member
  · simp only [List.mem_cons, List.not_mem_nil, or_false] at member
    rcases member with rfl | rfl | rfl
    all_goals exact le_toNat_ofNat (by omega) (by omega)
  · simp only [List.mem_cons, List.not_mem_nil, or_false] at member
    rcases member with rfl | rfl | rfl | rfl
    all_goals exact le_toNat_ofNat (by omega) (by omega)

private theorem toNat_octet {c : Char} (small : c.toNat < 0x80) :
    (UInt8.ofNat c.toNat).toNat = c.toNat :=
  UInt8.toNat_ofNat_of_lt' (Nat.lt_trans small (by decide))

/-- A byte below `0x80` is the character with its number, and only that one has it. -/
theorem mem_utf8EncodeChar_of_small {c : Char} {octet : UInt8} (small : octet.toNat < 0x80)
    (member : octet ∈ String.utf8EncodeChar c) : c.toNat = octet.toNat := by
  by_cases ascii : c.toNat < 0x80
  · rw [utf8EncodeChar_of_small ascii, List.mem_singleton] at member
    rw [member, toNat_octet ascii]
  · exact absurd small (Nat.not_lt_of_le
      (le_of_mem_utf8EncodeChar (Nat.le_of_not_lt ascii) member))

/-- Texts are encoded one behind the other. -/
theorem encode_append (first second : String) :
    encode (first ++ second) = encode first ++ encode second := by
  rw [encode, String.toList_append, List.flatMap_append]
  rfl

/-- The octets of characters. -/
def octets (cs : List Char) : Bytes :=
  cs.flatMap String.utf8EncodeChar

/-- No characters have no octets. -/
theorem octets_nil : octets [] = [] := rfl

/-- The octets of a character stand in front of those behind it. -/
theorem octets_cons (c : Char) (cs : List Char) :
    octets (c :: cs) = String.utf8EncodeChar c ++ octets cs :=
  List.flatMap_cons

/-- Characters one behind the other have their octets one behind the other. -/
theorem octets_append (front back : List Char) :
    octets (front ++ back) = octets front ++ octets back :=
  List.flatMap_append

/-- Every character has octets. -/
theorem octets_eq_nil_iff {cs : List Char} : octets cs = [] ↔ cs = [] := by
  cases cs with
  | nil => simp [octets_nil]
  | cons c cs => simp [octets_cons, String.utf8EncodeChar_ne_nil]

/-- Small characters have one octet each. -/
theorem octets_of_small {cs : List Char} (small : ∀ c ∈ cs, c.toNat < 0x80) :
    octets cs = cs.map fun c => UInt8.ofNat c.toNat := by
  have each : ∀ c ∈ cs, String.utf8EncodeChar c = [UInt8.ofNat c.toNat] :=
    fun c among => utf8EncodeChar_of_small (small c among)
  rw [octets, List.map_eq_flatMap, List.flatMap_def, List.flatMap_def, List.map_congr_left each]

/-- A text is encoded as the octets of its characters. -/
theorem encode_ofList (cs : List Char) : encode (String.ofList cs) = octets cs := by
  rw [encode, String.toList_ofList, octets]

/-- A character below `0x80` occurs in the octets of characters only as one of them. -/
theorem not_mem_octets {c : Char} (small : c.toNat < 0x80) {cs : List Char} (absent : c ∉ cs) :
    UInt8.ofNat c.toNat ∉ octets cs := by
  intro member
  obtain ⟨other, among, within⟩ := List.mem_flatMap.mp member
  have number := mem_utf8EncodeChar_of_small ((toNat_octet small).symm ▸ small) within
  exact absent (Char.toNat_inj.mp (number.trans (toNat_octet small)) ▸ among)

/-- The octets of a character: a first one and others, which are not below `0x80`. If the first one
is below `0x80`, it is the number of the character and there are no others. -/
structure Octets (c : Char) (lead : UInt8) (followers : Bytes) : Prop where
  spelled : String.utf8EncodeChar c = lead :: followers
  large : ∀ octet ∈ followers, 0x80 ≤ octet.toNat
  alone : lead.toNat < 0x80 → c.toNat = lead.toNat ∧ followers = []

/-- Every character has a first octet, and it may have followers. -/
theorem exists_octets (c : Char) : ∃ lead followers, Octets c lead followers := by
  obtain ⟨lead, followers, split⟩ :=
    List.exists_cons_of_ne_nil (String.utf8EncodeChar_ne_nil (c := c))
  have single (small : c.toNat < 0x80) : followers = [] :=
    (List.cons.inj (split.symm.trans (utf8EncodeChar_of_small small))).2
  refine ⟨lead, followers, split, fun octet member => ?_, fun small => ?_⟩
  · by_cases small : c.toNat < 0x80
    · rw [single small] at member
      cases member
    · exact le_of_mem_utf8EncodeChar (Nat.le_of_not_lt small)
        (split ▸ List.mem_cons_of_mem lead member)
  · have number : c.toNat = lead.toNat :=
      mem_utf8EncodeChar_of_small small (split ▸ List.mem_cons_self)
    exact ⟨number, single (number ▸ small)⟩

namespace Octets

variable {c : Char} {lead : UInt8} {followers : Bytes}

/-- No follower is small. -/
theorem not_mem (octets : Octets c lead followers) {byte : UInt8} (small : byte.toNat < 0x80) :
    byte ∉ followers :=
  fun member => Nat.not_lt_of_le (octets.large byte member) small

/-- A character begins with the number of one below `0x80` only if it is that one. -/
theorem lead_eq_iff (octets : Octets c lead followers) (d : Char) (small : d.toNat < 0x80) :
    lead = UInt8.ofNat d.toNat ↔ c = d := by
  constructor
  · rintro rfl
    have number := (octets.alone ((toNat_octet small).symm ▸ small)).1
    exact Char.toNat_inj.mp (number.trans (toNat_octet small))
  · rintro rfl
    exact (List.cons.inj (octets.spelled.symm.trans (utf8EncodeChar_of_small small))).1

end Octets

/-- A text begins with a character below `0x80` exactly if its octets begin with its number. -/
theorem head?_encode_iff (c : Char) (small : c.toNat < 0x80) (text : String) :
    (encode text).head? = some (UInt8.ofNat c.toNat) ↔ text.toList.head? = some c := by
  unfold encode
  cases text.toList with
  | nil => simp
  | cons first rest =>
      obtain ⟨lead, followers, octets⟩ := exists_octets first
      rw [List.flatMap_cons, octets.spelled, List.cons_append, List.head?_cons, List.head?_cons,
        Option.some.injEq, Option.some.injEq]
      exact octets.lead_eq_iff c small

end Text.Utf8

namespace Format

private theorem ofLetter?_eq_some_iff {c : Char} {format : Format} :
    ofLetter? c = some format ↔ c = format.letter := by
  constructor
  · intro found
    unfold ofLetter? at found
    split at found
    · cases found; assumption
    split at found
    · cases found; assumption
    split at found
    · cases found; assumption
    · cases found
  · rintro rfl
    exact ofLetter?_letter format

/-- The only byte of a format is the byte of its letter. -/
theorem ofByte?_eq_some_iff {byte : UInt8} {format : Format} :
    ofByte? byte = some format ↔ byte = format.byte := by
  constructor
  · intro found
    have letter : Char.ofNat byte.toNat = format.letter := ofLetter?_eq_some_iff.mp found
    apply UInt8.toNat_inj.mp
    rw [← toNat_ofNat_byte, letter]
    cases format <;> rfl
  · rintro rfl
    exact ofByte?_byte format

end Format

end QueryBind
