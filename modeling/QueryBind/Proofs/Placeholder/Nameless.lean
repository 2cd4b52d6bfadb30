import QueryBind.Proofs.Outcome
import QueryBind.Proofs.Placeholder.Keys

/-! # Scans without names

An encoding is asked for the names of a query and for the texts of its errors, and for nothing
else. A query whose placeholders are all positional has therefore the same scan in every encoding,
and a query that has a scan in an encoding without a codec has no names in it. So whatever the
encoding in which a query has a scan, there is one with a codec in which it has the same scans
(`Scan.exists_codec`).
-/

namespace QueryBind

namespace Token

variable {encoding : String} {collapse : Bool} {count : Nat} {rest : List Token} {piece : Piece}

/-- A token has the format of its last byte. -/
theorem formatOf_eq_ok_iff {token : Token} {last : UInt8} {format : Format} :
    token.formatOf encoding last = .ok format ↔ Format.ofByte? last = some format := by
  unfold formatOf
  cases Format.ofByte? last with
  | some found => simp
  | none => cases Encoding.decode encoding token.bytes <;> simp

/-- A short placeholder is a slot for the next place. -/
theorem piece_short_eq_ok_iff {last : UInt8} :
    (short last).piece encoding collapse count rest = .ok piece ↔
      ∃ format : Format, last = format.byte ∧ piece = .slot (.position count) format := by
  simp only [Token.piece]
  split
  · next opens =>
      subst opens
      constructor
      · intro came
        obtain ⟨text, _, thrown⟩ := Outcome.bind_eq_ok.mp came
        cases thrown
      · rintro ⟨format, ends, _⟩
        cases format <;> cases ends
  split
  · next spaced =>
      subst spaced
      constructor
      · intro came
        cases came
      · rintro ⟨format, ends, _⟩
        cases format <;> cases ends
  · rw [Outcome.bind_eq_ok]
    refine exists_congr fun format => and_congr ?_ ?_
    · rw [formatOf_eq_ok_iff, Format.ofByte?_eq_some_iff]
    · exact ⟨fun same => (Except.ok.inj same).symm, fun same => same ▸ rfl⟩

/-- A name can only be read with a codec. -/
theorem piece_named_eq_ok {name : Bytes} {last : UInt8}
    (came : (named name last).piece encoding collapse count rest = .ok piece) :
    ∃ codec format, Encoding.codec encoding = .ok codec ∧
      piece = .slot (.name (codec.decode name)) format := by
  obtain ⟨format, _, afterFormat⟩ := Outcome.bind_eq_ok.mp came
  obtain ⟨text, read, added⟩ := Outcome.bind_eq_ok.mp afterFormat
  obtain ⟨codec, selected, rfl⟩ := Outcome.map_eq_ok.mp read
  exact ⟨codec, format, selected, (Except.ok.inj added).symm⟩

/-- What is no named placeholder is read without the encoding. -/
theorem piece_of_nameless (other : String) {token : Token}
    (came : token.piece encoding collapse count rest = .ok piece)
    (nameless : ∀ name format, piece ≠ .slot (.name name) format) :
    token.piece other collapse count rest = .ok piece := by
  cases token with
  | plain byte => exact came
  | doubled => exact came
  | lone => exact came
  | short last => exact piece_short_eq_ok_iff.mpr (piece_short_eq_ok_iff.mp came)
  | named name last =>
      obtain ⟨codec, format, _, named⟩ := piece_named_eq_ok came
      exact absurd named (nameless _ format)

end Token

namespace Scan

/-- No placeholder has a name. -/
def Nameless (scan : Scan) : Prop :=
  ∀ slot ∈ scan.slots, slot.key.style = .positional

private theorem nameless_iff_demands (scan : Scan) :
    scan.Nameless ↔ ∀ demand ∈ scan.demands, demand.1.style = .positional := by
  simp [Nameless, demands, Slot.demand]

private theorem nameless_prepend (bytes : Bytes) (scan : Scan) :
    (scan.prepend bytes).Nameless ↔ scan.Nameless := by
  rw [nameless_iff_demands, nameless_iff_demands, demands_prepend]

private theorem nameless_push (key : Key) (format : Format) (scan : Scan) :
    (scan.push key format).Nameless ↔ key.style = .positional ∧ scan.Nameless := by
  simp [nameless_iff_demands]

variable {encoding : String} {collapse : Bool} {style : Option Style} {count : Nat}
  {tokens : List Token} {scan : Scan}

/-- What the first token of a query with a scan adds to it. -/
theorem ofTokensFrom_cons_eq_ok {token : Token} {rest : List Token}
    (success : ofTokensFrom encoding collapse style count (token :: rest) = .ok scan) :
    (∃ bytes inner, token.piece encoding collapse count rest = .ok (.text bytes) ∧
        ofTokensFrom encoding collapse style count rest = .ok inner ∧
        scan = inner.prepend bytes) ∨
      ∃ key format inner, token.piece encoding collapse count rest = .ok (.slot key format) ∧
        style.all (· = key.style) = true ∧
        ofTokensFrom encoding collapse (some key.style) (count + 1) rest = .ok inner ∧
        scan = inner.push key format := by
  rw [ofTokensFrom] at success
  split at success
  · cases success
  · next bytes added =>
      obtain ⟨inner, came, rfl⟩ := Outcome.map_eq_ok.mp success
      exact .inl ⟨bytes, inner, added, came, rfl⟩
  · next key format added =>
      split at success
      · next agrees =>
          obtain ⟨inner, came, rfl⟩ := Outcome.map_eq_ok.mp success
          exact .inr ⟨key, format, inner, added, agrees, came, rfl⟩
      · cases success

/-- Without names no encoding is looked at. -/
theorem ofTokensFrom_of_nameless (other : String)
    (success : ofTokensFrom encoding collapse style count tokens = .ok scan)
    (nameless : scan.Nameless) : ofTokensFrom other collapse style count tokens = .ok scan := by
  induction tokens generalizing style count scan with
  | nil => exact success
  | cons token rest ih =>
      rcases ofTokensFrom_cons_eq_ok success with
        ⟨bytes, inner, added, came, rfl⟩ | ⟨key, format, inner, added, agrees, came, rfl⟩
      · have again := Token.piece_of_nameless other added nofun
        have behind := ih came ((nameless_prepend bytes inner).mp nameless)
        simp only [ofTokensFrom, again, behind, Except.map]
      · obtain ⟨positional, nameless⟩ := (nameless_push key format inner).mp nameless
        have again := Token.piece_of_nameless other added (by
          rintro name _ ⟨⟩
          cases positional)
        have behind := ih came nameless
        simp only [ofTokensFrom, again, agrees, behind, if_true, Except.map]

private theorem nameless_of_no_codec (noCodec : ∀ codec, Encoding.codec encoding ≠ .ok codec)
    (success : ofTokensFrom encoding collapse style count tokens = .ok scan) : scan.Nameless := by
  induction tokens generalizing style count scan with
  | nil =>
      cases success
      exact nofun
  | cons token rest ih =>
      rcases ofTokensFrom_cons_eq_ok success with
        ⟨bytes, inner, added, came, rfl⟩ | ⟨key, format, inner, added, agrees, came, rfl⟩
      · exact (nameless_prepend bytes inner).mpr (ih came)
      · refine (nameless_push key format inner).mpr ⟨?_, ih came⟩
        cases token with
        | plain byte => cases added
        | doubled => cases added
        | lone => cases added
        | short last =>
            obtain ⟨_, _, slot⟩ := Token.piece_short_eq_ok_iff.mp added
            cases slot
            rfl
        | named name last =>
            obtain ⟨codec, _, selected, _⟩ := Token.piece_named_eq_ok added
            exact absurd selected (noCodec codec)

/-- **The encoding hardly matters.** Whatever the encoding in which a query has a scan, there is
one with a codec in which it has the same scans, whether two marks are made one or kept. -/
theorem exists_codec {query : Bytes} (success : ofBytes encoding collapse query = .ok scan) :
    ∃ other codec, Encoding.codec other = .ok codec ∧ ∀ mode found,
      ofBytes encoding mode query = .ok found ↔ ofBytes other mode query = .ok found := by
  by_cases selected : ∃ codec, Encoding.codec encoding = .ok codec
  · obtain ⟨codec, selected⟩ := selected
    exact ⟨encoding, codec, selected, fun _ _ => Iff.rfl⟩
  · rw [not_exists] at selected
    have utf8 : Encoding.codec "utf8" = .ok .utf8 := Encoding.codec_name .utf8
    refine ⟨"utf8", .utf8, utf8, fun mode found => ⟨fun came => ?_, fun came => ?_⟩⟩
    · exact ofTokensFrom_of_nameless "utf8" came (nameless_of_no_codec selected came)
    · -- The scan in the other mode is bound to the same positions.
      have nameless := nameless_of_no_codec selected success
      have again := ofTokensFrom_of_nameless "utf8" success nameless
      obtain ⟨counterpart, kept, same⟩ := exists_scan_of_mode utf8 mode again
      cases kept.symm.trans came
      rw [nameless_iff_demands, ← same, ← nameless_iff_demands] at nameless
      exact ofTokensFrom_of_nameless encoding came nameless

end Scan

end QueryBind
