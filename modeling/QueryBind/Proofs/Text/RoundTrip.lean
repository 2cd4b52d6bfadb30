import QueryBind.Proofs.Text.Octets

/-! # Reading back what was written

The eight-bit Unicode format gives back every text: the octets of a character are read as that
character, whatever stands behind them. A single-byte codec gives back the texts whose characters
are all below its limit, and no other text (`Codec.decode_encode_iff`). It writes the octets of the
Unicode format for the texts whose characters take seven bits (`Codec.encode_eq_utf8_iff`).
-/

namespace QueryBind.Text

namespace Utf8

/-! ## One octet -/

section Octet

variable {octet : UInt8} {value missing low high : Nat} (rest : List UInt8)

private theorem decodeFrom_boundary_cons {chars : List Char} {next : State}
    (started : start octet = (chars, next)) :
    decodeFrom .boundary (octet :: rest) = chars ++ decodeFrom next rest := by
  simp only [decodeFrom, step, started]

/-- The last octet of a character. -/
theorem decodeFrom_inside_last (range : low ≤ octet.toNat ∧ octet.toNat ≤ high) :
    decodeFrom (.inside value 1 low high) (octet :: rest) =
      Char.ofNat (value * 0x40 + (octet.toNat - 0x80)) :: decodeFrom .boundary rest := by
  simp only [decodeFrom, step, if_pos range, if_pos (Nat.le_refl 1), List.singleton_append]

/-- An octet in the middle of a character. -/
theorem decodeFrom_inside_more (range : low ≤ octet.toNat ∧ octet.toNat ≤ high)
    (more : 1 < missing) :
    decodeFrom (.inside value missing low high) (octet :: rest) =
      decodeFrom (.inside (value * 0x40 + (octet.toNat - 0x80)) (missing - 1) 0x80 0xBF) rest := by
  simp only [decodeFrom, step, if_pos range, if_neg (Nat.not_le_of_lt more), List.nil_append]

private theorem start_of_single (range : octet.toNat < 0x80) :
    start octet = ([Char.ofNat octet.toNat], .boundary) := by
  simp only [start, if_pos range]

private theorem start_of_pair (range : 0xC2 ≤ octet.toNat ∧ octet.toNat < 0xE0) :
    start octet = ([], .inside (octet.toNat - 0xC0) 1 0x80 0xBF) := by
  have single : ¬ octet.toNat < 0x80 := by omega
  have stray : ¬ octet.toNat < 0xC2 := by omega
  simp only [start, if_neg single, if_neg stray, if_pos range.2]

private theorem start_of_triple (range : 0xE0 ≤ octet.toNat ∧ octet.toNat < 0xF0) :
    start octet = ([], .inside (octet.toNat - 0xE0) 2
      (if octet.toNat = 0xE0 then 0xA0 else 0x80) (if octet.toNat = 0xED then 0x9F else 0xBF)) := by
  have single : ¬ octet.toNat < 0x80 := by omega
  have stray : ¬ octet.toNat < 0xC2 := by omega
  have pair : ¬ octet.toNat < 0xE0 := by omega
  simp only [start, if_neg single, if_neg stray, if_neg pair, if_pos range.2]

private theorem start_of_quadruple (range : 0xF0 ≤ octet.toNat ∧ octet.toNat < 0xF5) :
    start octet = ([], .inside (octet.toNat - 0xF0) 3
      (if octet.toNat = 0xF0 then 0x90 else 0x80) (if octet.toNat = 0xF4 then 0x8F else 0xBF)) := by
  have single : ¬ octet.toNat < 0x80 := by omega
  have stray : ¬ octet.toNat < 0xC2 := by omega
  have pair : ¬ octet.toNat < 0xE0 := by omega
  have triple : ¬ octet.toNat < 0xF0 := by omega
  simp only [start, if_neg single, if_neg stray, if_neg pair, if_neg triple, if_pos range.2]

end Octet

/-! ## One character -/

/-- The first octet of a character. -/
theorem toNat_lead {n : Nat} (small : n < 0x100) : (UInt8.ofNat n).toNat = n :=
  UInt8.toNat_ofNat_of_lt' small

/-- The octets behind the first one carry six bits each. -/
theorem toNat_follower (n : Nat) : (UInt8.ofNat (n % 64 + 128)).toNat = n % 64 + 128 := by
  have small : n % 64 + 128 < 0x100 := by omega
  exact UInt8.toNat_ofNat_of_lt' small

section Character

variable (c : Char) (rest : List UInt8)

private theorem decodeFrom_pair (low : 0x80 ≤ c.toNat) (high : c.toNat < 0x800) :
    decodeFrom .boundary (UInt8.ofNat (c.toNat / 64 % 32 + 192) ::
        UInt8.ofNat (c.toNat % 64 + 128) :: rest) = c :: decodeFrom .boundary rest := by
  have lead : (UInt8.ofNat (c.toNat / 64 % 32 + 192)).toNat = c.toNat / 64 + 192 := by
    rw [toNat_lead (by omega)]
    omega
  have last := toNat_follower c.toNat
  have whole : (c.toNat / 64 + 192 - 0xC0) * 0x40 + (c.toNat % 64 + 128 - 0x80) = c.toNat := by
    omega
  rw [decodeFrom_boundary_cons _ (start_of_pair (by omega)), List.nil_append,
    decodeFrom_inside_last _ (by omega), lead, last, whole, Char.ofNat_toNat]

private theorem decodeFrom_triple (low : 0x800 ≤ c.toNat) (high : c.toNat < 0x10000) :
    decodeFrom .boundary (UInt8.ofNat (c.toNat / 4096 % 16 + 224) ::
        UInt8.ofNat (c.toNat / 64 % 64 + 128) :: UInt8.ofNat (c.toNat % 64 + 128) :: rest) =
      c :: decodeFrom .boundary rest := by
  have scalar : c.toNat < 0xD800 ∨ 0xDFFF < c.toNat ∧ c.toNat < 0x110000 := c.valid
  have lead : (UInt8.ofNat (c.toNat / 4096 % 16 + 224)).toNat = c.toNat / 4096 + 224 := by
    rw [toNat_lead (by omega)]
    omega
  have middle := toNat_follower (c.toNat / 64)
  have last := toNat_follower c.toNat
  -- No shorter form behind the first lead, and no half of a character behind the last but two.
  have range : (if c.toNat / 4096 + 224 = 0xE0 then 0xA0 else 0x80) ≤ c.toNat / 64 % 64 + 128 ∧
      c.toNat / 64 % 64 + 128 ≤ (if c.toNat / 4096 + 224 = 0xED then 0x9F else 0xBF) := by
    constructor
    all_goals split <;> omega
  have whole : ((c.toNat / 4096 + 224 - 0xE0) * 0x40 + (c.toNat / 64 % 64 + 128 - 0x80)) * 0x40 +
      (c.toNat % 64 + 128 - 0x80) = c.toNat := by
    omega
  rw [decodeFrom_boundary_cons _ (start_of_triple (by omega)), List.nil_append, lead,
    decodeFrom_inside_more _ (by rw [middle]; exact range) (by decide),
    decodeFrom_inside_last _ (by omega), middle, last, whole, Char.ofNat_toNat]

private theorem decodeFrom_quadruple (low : 0x10000 ≤ c.toNat) :
    decodeFrom .boundary (UInt8.ofNat (c.toNat / 262144 % 8 + 240) ::
        UInt8.ofNat (c.toNat / 4096 % 64 + 128) :: UInt8.ofNat (c.toNat / 64 % 64 + 128) ::
        UInt8.ofNat (c.toNat % 64 + 128) :: rest) =
      c :: decodeFrom .boundary rest := by
  have scalar : c.toNat < 0xD800 ∨ 0xDFFF < c.toNat ∧ c.toNat < 0x110000 := c.valid
  have lead : (UInt8.ofNat (c.toNat / 262144 % 8 + 240)).toNat = c.toNat / 262144 + 240 := by
    rw [toNat_lead (by omega)]
    omega
  have second := toNat_follower (c.toNat / 4096)
  have third := toNat_follower (c.toNat / 64)
  have last := toNat_follower c.toNat
  -- No shorter form behind the first lead, and no number above the last plane behind the last.
  have range : (if c.toNat / 262144 + 240 = 0xF0 then 0x90 else 0x80) ≤
        c.toNat / 4096 % 64 + 128 ∧
      c.toNat / 4096 % 64 + 128 ≤ (if c.toNat / 262144 + 240 = 0xF4 then 0x8F else 0xBF) := by
    constructor
    all_goals split <;> omega
  have whole : (((c.toNat / 262144 + 240 - 0xF0) * 0x40 + (c.toNat / 4096 % 64 + 128 - 0x80)) *
      0x40 + (c.toNat / 64 % 64 + 128 - 0x80)) * 0x40 + (c.toNat % 64 + 128 - 0x80) = c.toNat := by
    omega
  rw [decodeFrom_boundary_cons _ (start_of_quadruple (by omega)), List.nil_append, lead,
    decodeFrom_inside_more _ (by rw [second]; exact range) (by decide),
    decodeFrom_inside_more _ (by omega) (by decide), decodeFrom_inside_last _ (by omega),
    second, third, last, whole, Char.ofNat_toNat]

/-- The octets of a character are read as that character. -/
theorem decodeFrom_utf8EncodeChar_append :
    decodeFrom .boundary (String.utf8EncodeChar c ++ rest) = c :: decodeFrom .boundary rest := by
  by_cases single : c.toNat < 0x80
  · have octet : (UInt8.ofNat c.toNat).toNat = c.toNat :=
      toNat_lead (Nat.lt_trans single (by decide))
    rw [utf8EncodeChar_of_small single, List.singleton_append,
      decodeFrom_boundary_cons _ (start_of_single (by omega)), octet, Char.ofNat_toNat,
      List.singleton_append]
  have first : ¬ c.val.toNat ≤ 0x7F := fun small => single (Nat.lt_succ_of_le small)
  simp only [String.utf8EncodeChar, if_neg first]
  split
  · next small => exact decodeFrom_pair c rest (Nat.le_of_not_lt single) (Nat.lt_succ_of_le small)
  split
  · next large small =>
      exact decodeFrom_triple c rest (Nat.lt_of_not_le large) (Nat.lt_succ_of_le small)
  · next large => exact decodeFrom_quadruple c rest (Nat.lt_of_not_le large)

end Character

private theorem decodeFrom_encode (cs : List Char) :
    decodeFrom .boundary (cs.flatMap String.utf8EncodeChar) = cs := by
  induction cs with
  | nil => rfl
  | cons c cs ih => rw [List.flatMap_cons, decodeFrom_utf8EncodeChar_append, ih]

/-- Characters are read back from their octets. -/
theorem decode_octets (cs : List Char) : decode (octets cs) = String.ofList cs :=
  congrArg String.ofList (decodeFrom_encode cs)

/-- Octets of whole characters are what their text is written with. -/
theorem encode_decode_octets (cs : List Char) : encode (decode (octets cs)) = octets cs := by
  rw [decode_octets, encode_ofList]

/-- Every text is read back. -/
theorem decode_encode (text : String) : decode (encode text) = text := by
  rw [decode, encode, decodeFrom_encode, String.ofList_toList]

end Utf8

namespace Codec

/-- The first number that is too large for a character of a codec. -/
def limit : Codec → Nat
  | .utf8 => 0x110000
  | .latin1 => 0x100
  | .ascii => 0x80

/-- All characters of a text are characters of the codec. -/
def Keeps (codec : Codec) (text : String) : Prop :=
  ∀ c ∈ text.toList, c.toNat < codec.limit

instance (codec : Codec) (text : String) : Decidable (codec.Keeps text) :=
  List.decidableBAll (fun c : Char => c.toNat < codec.limit) text.toList

/-- No half of a character stands alone in a text, and all its characters are characters of the
codec. -/
def KeepsWide (codec : Codec) (text : Wide) : Prop :=
  ∃ whole, text = .ofText whole ∧ codec.Keeps whole

/-- Every character is one of the eight-bit Unicode format. -/
theorem keeps_utf8 (text : String) : Codec.utf8.Keeps text := by
  intro c _
  have scalar : c.toNat < 0xD800 ∨ 0xDFFF < c.toNat ∧ c.toNat < 0x110000 := c.valid
  change c.toNat < 0x110000
  omega

private theorem encodeUnits_of_small {text : String} (small : ∀ c ∈ text.toList, c.toNat < 0x100) :
    encodeUnits text = text.toList.map fun c => UInt8.ofNat c.toNat := by
  have each : ∀ c ∈ text.toList,
      (unitsOf c).map (·.toUInt8) = [UInt8.ofNat c.toNat] := by
    intro c among
    have basic : c.toNat < 0x10000 := Nat.lt_trans (small c among) (by decide)
    have low : (UInt16.ofNat c.toNat).toUInt8 = UInt8.ofNat c.toNat := by
      apply UInt8.toNat_inj.mp
      simp
    rw [unitsOf, if_pos basic, List.map_singleton, low]
  rw [encodeUnits, units, List.map_flatMap, List.map_eq_flatMap, List.flatMap_def, List.flatMap_def,
    List.map_congr_left each]

/-- A codec with one byte per unit gives back the texts below a limit, and no other, if it reads
every byte as a character below the limit and those below the limit as they are. -/
theorem latin1Text_encodeUnits_iff (read : UInt8 → UInt8) {limit : Nat} (narrow : limit ≤ 0x100)
    (below : ∀ byte, (read byte).toNat < limit)
    (fixed : ∀ byte : UInt8, byte.toNat < limit → read byte = byte) (text : String) :
    latin1Text ((encodeUnits text).map read) = text ↔ ∀ c ∈ text.toList, c.toNat < limit := by
  constructor
  · intro kept c among
    rw [← kept, latin1Text, String.toList_ofList, List.map_map] at among
    obtain ⟨byte, -, rfl⟩ := List.mem_map.mp among
    rw [Function.comp_apply, toNat_ofNat_byte]
    exact below byte
  · intro small
    have each : ∀ c ∈ text.toList,
        Char.ofNat (read (UInt8.ofNat c.toNat)).toNat = c := by
      intro c among
      have byte : (UInt8.ofNat c.toNat).toNat = c.toNat :=
        UInt8.toNat_ofNat_of_lt' (Nat.lt_of_lt_of_le (small c among) narrow)
      have unread : (UInt8.ofNat c.toNat).toNat < limit := byte.symm ▸ small c among
      rw [fixed _ unread, byte, Char.ofNat_toNat]
    rw [encodeUnits_of_small fun c among => Nat.lt_of_lt_of_le (small c among) narrow, latin1Text,
      List.map_map, List.map_map]
    calc
      String.ofList (text.toList.map _) = String.ofList (text.toList.map id) :=
        congrArg String.ofList (List.map_congr_left each)
      _ = text := by rw [List.map_id, String.ofList_toList]

/-- A text is read back if all its characters are characters of the codec, and only then. -/
theorem decode_encode_iff (codec : Codec) (text : String) :
    codec.decode (codec.encode text) = text ↔ codec.Keeps text := by
  cases codec with
  | utf8 => exact iff_of_true (Utf8.decode_encode text) (keeps_utf8 text)
  | latin1 =>
      have units := latin1Text_encodeUnits_iff id (Nat.le_refl 0x100)
        (fun byte => byte.toNat_lt) (fun _ _ => rfl) text
      rw [List.map_id] at units
      exact units
  | ascii =>
      have masked : ∀ byte : UInt8, (byte &&& 0x7F).toNat = byte.toNat % 0x80 := by
        intro byte
        rw [UInt8.toNat_and]
        exact Nat.and_two_pow_sub_one_eq_mod byte.toNat 7
      refine latin1Text_encodeUnits_iff (· &&& 0x7F) (by decide) (fun byte => ?_)
        (fun byte small => ?_) text
      · rw [masked]
        exact Nat.mod_lt _ (by decide)
      · apply UInt8.toNat_inj.mp
        rw [masked]
        exact Nat.mod_eq_of_lt small

/-- Any text by its units is read back exactly if it is a text of characters of the codec. -/
theorem decode_encodeWide_iff (codec : Codec) (text : Wide) :
    Wide.ofText (codec.decode (codec.encodeWide text)) = text ↔ codec.KeepsWide text := by
  constructor
  · intro kept
    refine ⟨codec.decode (codec.encodeWide text), kept.symm, ?_⟩
    apply (codec.decode_encode_iff _).mp
    rw [← encodeWide_ofText, kept]
  · rintro ⟨whole, rfl, keeps⟩
    rw [encodeWide_ofText, (codec.decode_encode_iff whole).mpr keeps]

/-- A character beyond `0x7F` has more octets in the eight-bit Unicode format than units. -/
theorem length_unitsOf_lt {c : Char} (large : 0x80 ≤ c.toNat) :
    (unitsOf c).length < (String.utf8EncodeChar c).length := by
  have first : ¬ c.val.toNat ≤ 0x7F := Nat.not_le_of_lt large
  unfold unitsOf String.utf8EncodeChar
  rw [if_neg first]
  by_cases basic : c.toNat < 0x10000
  · rw [if_pos basic]
    split
    · simp
    split <;> simp
  · have second : ¬ c.val.toNat ≤ 0x7FF := fun le => basic (Nat.lt_of_le_of_lt le (by decide))
    have third : ¬ c.val.toNat ≤ 0xFFFF := fun le => basic (Nat.lt_of_le_of_lt le (by decide))
    rw [if_neg basic, if_neg second, if_neg third]
    simp

private theorem length_unitsOf_le (c : Char) :
    (unitsOf c).length ≤ (String.utf8EncodeChar c).length := by
  by_cases small : c.toNat < 0x80
  · rw [unitsOf, if_pos (Nat.lt_trans small (by decide)), Utf8.utf8EncodeChar_of_small small]
    exact Nat.le_refl 1
  · exact Nat.le_of_lt (length_unitsOf_lt (Nat.le_of_not_lt small))

/-- A sequence of characters with no more octets than units has only characters of all codecs. -/
theorem small_of_length_le {cs : List Char}
    (short : (cs.flatMap String.utf8EncodeChar).length ≤ (cs.flatMap unitsOf).length) :
    ∀ c ∈ cs, c.toNat < 0x80 := by
  have total (cs : List Char) :
      (cs.flatMap unitsOf).length ≤ (cs.flatMap String.utf8EncodeChar).length := by
    induction cs with
    | nil => exact Nat.le_refl 0
    | cons c cs ih =>
        rw [List.flatMap_cons, List.flatMap_cons, List.length_append, List.length_append]
        exact Nat.add_le_add (length_unitsOf_le c) ih
  induction cs with
  | nil => nofun
  | cons c cs ih =>
      rw [List.flatMap_cons, List.flatMap_cons, List.length_append, List.length_append] at short
      have rest := total cs
      have one := length_unitsOf_le c
      intro d among
      rcases List.mem_cons.mp among with rfl | later
      · refine Nat.lt_of_not_le fun large => ?_
        have longer := length_unitsOf_lt large
        omega
      · exact ih (by omega) d later

/-- A text has the same bytes in a codec as in the eight-bit Unicode format if the codec is that
format, or if all characters of the text are characters of every codec, and not otherwise. -/
theorem encode_eq_utf8_iff (codec : Codec) (text : String) :
    codec.encode text = Codec.utf8.encode text ↔ codec = .utf8 ∨ Codec.ascii.Keeps text := by
  have units : encodeUnits text = Utf8.encode text ↔ Codec.ascii.Keeps text := by
    constructor
    · intro same
      have lengths := congrArg List.length same
      rw [encodeUnits, List.length_map] at lengths
      exact small_of_length_le (Nat.le_of_eq lengths.symm)
    · intro small
      rw [encodeUnits_of_small fun c among => Nat.lt_trans (small c among) (by decide)]
      exact (Utf8.octets_of_small small).symm
  cases codec with
  | utf8 => exact iff_of_true rfl (.inl rfl)
  | latin1 | ascii => exact units.trans (by simp)

end Codec

end QueryBind.Text
