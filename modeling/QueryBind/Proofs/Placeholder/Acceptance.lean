import Mathlib
import QueryBind.Proofs.Placeholder.Cut
import QueryBind.Proofs.Placeholder.Grammar

/-! # Which queries have a scan

A query has a scan exactly if all its placeholder tokens end in the letter of a format and all
of them have one style, and the scan is then the cut of its tokens. Otherwise the first token
that spoils this decides the error, whatever stands behind it (`Scan.ofTokensFrom_of_spoiled`).
`Scan.ofBytes_reads` puts this together with the grammar of tokens.
-/

namespace QueryBind

open Text (Codec)

namespace Token

/-- A placeholder token ends in the letter of a format. -/
def WellEnded (token : Token) : Prop :=
  ∀ last, token.last? = some last → ∃ format : Format, last = format.byte

/-- Well ended tokens of one style, the given one if there is one. -/
structure Accepted (style : Option Style) (tokens : List Token) : Prop where
  wellEnded : ∀ token ∈ tokens, token.WellEnded
  uniform : ∃ common, (∀ given, style = some given → given = common) ∧
    ∀ token ∈ tokens, ∀ own, token.style? = some own → own = common

private theorem wellEnded_iff (token : Token) :
    token.WellEnded ↔ (token.last?.all fun last => (Format.ofByte? last).isSome) = true := by
  cases ending : token.last? with
  | none => simp [WellEnded, ending]
  | some last => simp [WellEnded, ending, Option.isSome_iff_exists, Format.ofByte?_eq_some_iff]

instance (token : Token) : Decidable token.WellEnded :=
  decidable_of_iff _ token.wellEnded_iff.symm

/-- The error of a token that may not stand where it stands, with the tokens behind it. A
token that is sound in itself can only have the wrong style. -/
def offence (codec : Codec) (token : Token) (rest : List Token) : QueryError :=
  if token.WellEnded then .mixedPlaceholders
  else if token = .short openByte then
    .malformedPlaceholder (.incomplete (codec.decode (token.fragment rest)))
  else if token = .short spaceByte then .malformedPlaceholder .beforeSpace
  else .malformedPlaceholder (.unknownFormat (codec.decode token.bytes))

/-- A slot says what the placeholder token at this position says. -/
def StandsFor (codec : Codec) (position : Nat) (slot : Slot) : Token → Prop
  | .named name last => last = slot.format.byte ∧ slot.key = .name (codec.decode name)
  | .short last => last = slot.format.byte ∧ slot.key = .position position
  | _ => False

private theorem accepted_nil (style : Option Style) : Accepted style [] where
  wellEnded := fun _ member => absurd member List.not_mem_nil
  uniform := ⟨style.getD .named, fun _ same => by simp [same],
    fun _ member => absurd member List.not_mem_nil⟩

/-- A token that is no placeholder ends well. -/
theorem wellEnded_of_text {token : Token} (text : token.isPlaceholder = false) :
    token.WellEnded := by
  cases token with
  | named | short => simp [isPlaceholder, style?] at text
  | _ => simp [WellEnded, last?]

private theorem accepted_cons_of_text {style : Option Style} {token : Token} {rest : List Token}
    (text : token.isPlaceholder = false) :
    Accepted style (token :: rest) ↔ Accepted style rest := by
  have styleless : token.style? = none := by simpa [isPlaceholder] using text
  constructor
  · rintro ⟨wellEnded, common, given, uniform⟩
    exact ⟨fun other member => wellEnded other (List.mem_cons_of_mem _ member), common, given,
      fun other member => uniform other (List.mem_cons_of_mem _ member)⟩
  · rintro ⟨wellEnded, common, given, uniform⟩
    refine ⟨List.forall_mem_cons.mpr ⟨wellEnded_of_text text, wellEnded⟩, common, given,
      List.forall_mem_cons.mpr ⟨?_, uniform⟩⟩
    intro own styled
    rw [styleless] at styled
    cases styled

private theorem accepted_cons {style : Option Style} {token : Token} {rest : List Token}
    {own : Style} (placeholder : token.style? = some own) :
    Accepted style (token :: rest) ↔
      token.WellEnded ∧ (∀ given, style = some given → given = own) ∧
        Accepted (some own) rest := by
  constructor
  · rintro ⟨wellEnded, common, given, uniform⟩
    obtain ⟨headEnded, restEnded⟩ := List.forall_mem_cons.mp wellEnded
    obtain ⟨headStyle, restStyle⟩ := List.forall_mem_cons.mp uniform
    have same : own = common := headStyle own placeholder
    subst same
    exact ⟨headEnded, given, restEnded, own, fun _ equal => (Option.some.inj equal).symm, restStyle⟩
  · rintro ⟨headEnded, given, restEnded, common, same, restStyle⟩
    have equal : own = common := same own rfl
    subst equal
    refine ⟨List.forall_mem_cons.mpr ⟨headEnded, restEnded⟩, own, given,
      List.forall_mem_cons.mpr ⟨?_, restStyle⟩⟩
    intro other styled
    exact Option.some.inj (styled.symm.trans placeholder)

/-- Tokens that are not accepted have a first one that spoils them. -/
theorem exists_spoiled {style : Option Style} {tokens : List Token}
    (refused : ¬ Accepted style tokens) :
    ∃ before token after, tokens = before ++ token :: after ∧ Accepted style before ∧
      ¬ Accepted style (before ++ [token]) := by
  induction tokens using List.reverseRecOn with
  | nil => exact absurd (accepted_nil style) refused
  | append_singleton front last ih =>
      by_cases sound : Accepted style front
      · exact ⟨front, last, [], rfl, sound, refused⟩
      · obtain ⟨before, token, after, rfl, accepted, spoiled⟩ := ih sound
        exact ⟨before, token, after ++ [last], by simp, accepted, spoiled⟩

/-- A token that ends well ends in the byte of its format. -/
theorem ofByte?_of_wellEnded {token : Token} {last : UInt8} (ends : token.last? = some last)
    (wellEnded : token.WellEnded) : Format.ofByte? last = some token.format := by
  obtain ⟨format, rfl⟩ := wellEnded last ends
  simp [Token.format, ends]

/-- A key has the style of its placeholder. -/
theorem style_key (codec : Codec) (count : Nat) {token : Token} {own : Style}
    (placeholder : token.style? = some own) : (token.key codec count).style = own := by
  cases token <;> simp_all [style?, key, Key.style]

variable {encoding : String} {codec : Codec} (selected : Encoding.codec encoding = .ok codec)
  (collapse : Bool) (count : Nat)

private theorem piece_of_text (encoding : String) {token : Token}
    (text : token.isPlaceholder = false) (rest : List Token) :
    token.piece encoding collapse count rest = .ok (.text (token.textBytes collapse)) := by
  cases token with
  | named | short => simp [isPlaceholder, style?] at text
  | _ => rfl

include selected in
private theorem piece_of_wellEnded {token : Token} {own : Style}
    (placeholder : token.style? = some own) (wellEnded : token.WellEnded) (rest : List Token) :
    token.piece encoding collapse count rest =
      .ok (.slot (token.key codec count) token.format) := by
  cases token with
  | plain | doubled | lone => simp [style?] at placeholder
  | named name last =>
      have ends := ofByte?_of_wellEnded rfl wellEnded
      simp only [piece, formatOf, ends, Encoding.decode_eq_ok selected]
      rfl
  | short last =>
      have ends := ofByte?_of_wellEnded rfl wellEnded
      have notOpen : last ≠ openByte := by
        rintro rfl
        simp [show Format.ofByte? openByte = none from rfl] at ends
      have notSpace : last ≠ spaceByte := by
        rintro rfl
        simp [show Format.ofByte? spaceByte = none from rfl] at ends
      simp only [piece, formatOf, ends, notOpen, notSpace, if_false]
      rfl

include selected in
private theorem piece_of_not_wellEnded {token : Token} (flawed : ¬ token.WellEnded)
    (rest : List Token) :
    token.piece encoding collapse count rest = .error (token.offence codec rest) := by
  have noFormat : ∀ last, token.last? = some last → Format.ofByte? last = none := by
    intro last ends
    cases found : Format.ofByte? last with
    | none => rfl
    | some format =>
        refine absurd (fun other also => ?_) flawed
        rw [ends] at also
        exact ⟨format, Option.some.inj also ▸ Format.ofByte?_eq_some_iff.mp found⟩
  cases token with
  | plain | doubled | lone => exact absurd (wellEnded_of_text rfl) flawed
  | named name last =>
      simp only [piece, formatOf, noFormat last rfl, Encoding.decode_eq_ok selected, offence,
        flawed, if_false]
      rfl
  | short last =>
      simp only [piece, formatOf, noFormat last rfl, Encoding.decode_eq_ok selected, offence,
        flawed, if_false, Token.short.injEq]
      split
      · rfl
      split <;> rfl

end Token

namespace Scan

variable {encoding : String} {codec : Codec} (selected : Encoding.codec encoding = .ok codec)

section Step

variable (collapse : Bool) {style : Option Style} (count : Nat) {token : Token} (rest : List Token)

/-- Text stands in front of the scan of what is behind it. -/
theorem ofTokensFrom_cons_of_text (encoding : String) (text : token.isPlaceholder = false) :
    ofTokensFrom encoding collapse style count (token :: rest) =
      (ofTokensFrom encoding collapse style count rest).map
        (prepend (token.textBytes collapse)) := by
  simp only [ofTokensFrom, Token.piece_of_text collapse count encoding text]

include selected

/-- An accepted placeholder is pushed to the scan of what is behind it. -/
theorem ofTokensFrom_cons {own : Style} (placeholder : token.style? = some own)
    (wellEnded : token.WellEnded) (agrees : ∀ given, style = some given → given = own) :
    ofTokensFrom encoding collapse style count (token :: rest) =
      (ofTokensFrom encoding collapse (some own) (count + 1) rest).map
        (push (token.key codec count) token.format) := by
  have same : style.all (· = own) = true := by
    cases style with
    | none => rfl
    | some given => simp [agrees given rfl]
  simp only [ofTokensFrom, Token.piece_of_wellEnded selected collapse count placeholder wellEnded,
    Token.style_key codec count placeholder, same, if_true]

/-- A token that may not stand behind accepted ones is refused for what it is. -/
theorem ofTokensFrom_cons_of_refused (refused : ¬ Token.Accepted style [token]) :
    ofTokensFrom encoding collapse style count (token :: rest) =
      .error (token.offence codec rest) := by
  by_cases wellEnded : token.WellEnded
  · cases placeholder : token.style? with
    | none =>
        have text := Token.not_isPlaceholder_of_style? placeholder
        exact absurd ((Token.accepted_cons_of_text text).mpr (Token.accepted_nil style)) refused
    | some own =>
        have disagrees : style.all (· = own) = false := by
          apply eq_false_of_ne_true
          intro agrees
          refine refused ((Token.accepted_cons placeholder).mpr
            ⟨wellEnded, fun given same => ?_, Token.accepted_nil _⟩)
          subst same
          simpa using agrees
        simp only [ofTokensFrom, Token.piece_of_wellEnded selected collapse count placeholder
          wellEnded, Token.style_key codec count placeholder, disagrees, Bool.false_eq_true,
          if_false, Token.offence, wellEnded, if_true]
  · simp only [ofTokensFrom, Token.piece_of_not_wellEnded selected collapse count wellEnded]

end Step

include selected in
/-- The scan of accepted tokens is their cut. -/
theorem ofTokensFrom_of_accepted (collapse : Bool) {style : Option Style} (count : Nat)
    {tokens : List Token} (accepted : Token.Accepted style tokens) :
    ofTokensFrom encoding collapse style count tokens = .ok (cut codec collapse count tokens) := by
  induction tokens generalizing style count with
  | nil => rfl
  | cons token rest ih =>
      cases placeholder : token.style? with
      | none =>
          have text := Token.not_isPlaceholder_of_style? placeholder
          rw [ofTokensFrom_cons_of_text collapse count rest encoding text,
            ih count ((Token.accepted_cons_of_text text).mp accepted),
            cut_cons_of_text _ _ _ text, Except.map]
      | some own =>
          obtain ⟨wellEnded, agrees, accepted⟩ := (Token.accepted_cons placeholder).mp accepted
          have sound := Token.isPlaceholder_of_style? placeholder
          rw [ofTokensFrom_cons selected collapse count rest placeholder wellEnded agrees,
            ih (count + 1) accepted, cut_cons _ _ _ sound, Except.map]

include selected in
/-- **The leftmost flaw decides the error.** The first token that may not stand where it stands
is the one reported, and no token behind it has a say but for the text of a fragment. -/
theorem ofTokensFrom_of_spoiled (collapse : Bool) {style : Option Style} (count : Nat)
    {before after : List Token} {token : Token} (accepted : Token.Accepted style before)
    (spoiled : ¬ Token.Accepted style (before ++ [token])) :
    ofTokensFrom encoding collapse style count (before ++ token :: after) =
      .error (token.offence codec after) := by
  induction before generalizing style count with
  | nil => exact ofTokensFrom_cons_of_refused selected collapse count after spoiled
  | cons first before ih =>
      rw [List.cons_append] at spoiled ⊢
      cases placeholder : first.style? with
      | none =>
          have text := Token.not_isPlaceholder_of_style? placeholder
          have later := ih count ((Token.accepted_cons_of_text text).mp accepted)
            fun sound => spoiled ((Token.accepted_cons_of_text text).mpr sound)
          rw [ofTokensFrom_cons_of_text collapse count _ encoding text, later, Except.map]
      | some own =>
          obtain ⟨wellEnded, agrees, accepted⟩ := (Token.accepted_cons placeholder).mp accepted
          have later := ih (count + 1) accepted fun sound =>
            spoiled ((Token.accepted_cons placeholder).mpr ⟨wellEnded, agrees, sound⟩)
          rw [ofTokensFrom_cons selected collapse count _ placeholder wellEnded agrees, later,
            Except.map]

include selected in
/-- A query is scanned exactly if its tokens are accepted, and the scan is cut from them. -/
theorem ofBytes_eq_ok_iff (collapse : Bool) (query : Bytes) (scan : Scan) :
    ofBytes encoding collapse query = .ok scan ↔
      Token.Accepted none (Token.tokenize query) ∧
        scan = cut codec collapse 0 (Token.tokenize query) := by
  constructor
  · intro success
    by_cases accepted : Token.Accepted none (Token.tokenize query)
    · refine ⟨accepted, ?_⟩
      rw [ofBytes, ofTokensFrom_of_accepted selected collapse 0 accepted] at success
      exact (Except.ok.inj success).symm
    · obtain ⟨before, token, after, split, sound, spoiled⟩ := Token.exists_spoiled accepted
      rw [ofBytes, split, ofTokensFrom_of_spoiled selected collapse 0 sound spoiled] at success
      cases success
  · rintro ⟨accepted, rfl⟩
    exact ofTokensFrom_of_accepted selected collapse 0 accepted

include selected in
/-- A query is refused exactly for the first token that is not accepted. -/
theorem ofBytes_eq_error_iff (collapse : Bool) (query : Bytes) (error : QueryError) :
    ofBytes encoding collapse query = .error error ↔
      ∃ before token after, Token.tokenize query = before ++ token :: after ∧
        Token.Accepted none before ∧ ¬ Token.Accepted none (before ++ [token]) ∧
        error = token.offence codec after := by
  constructor
  · intro failure
    by_cases accepted : Token.Accepted none (Token.tokenize query)
    · rw [ofBytes, ofTokensFrom_of_accepted selected collapse 0 accepted] at failure
      cases failure
    · obtain ⟨before, token, after, split, sound, spoiled⟩ := Token.exists_spoiled accepted
      refine ⟨before, token, after, split, sound, spoiled, ?_⟩
      rw [ofBytes, split, ofTokensFrom_of_spoiled selected collapse 0 sound spoiled] at failure
      exact (Except.error.inj failure).symm
  · rintro ⟨before, token, after, split, sound, spoiled, rfl⟩
    rw [ofBytes, split]
    exact ofTokensFrom_of_spoiled selected collapse 0 sound spoiled

/-- Every slot of a cut says what its placeholder token says. -/
theorem standsFor_cut (codec : Codec) (collapse : Bool) {tokens : List Token}
    (wellEnded : ∀ token ∈ tokens, token.WellEnded) {position : Nat} {slot : Slot} {token : Token}
    (placed : (cut codec collapse 0 tokens).slots[position]? = some slot)
    (stands : (Token.placeholders tokens)[position]? = some token) :
    token.StandsFor codec position slot := by
  have demand : (cut codec collapse 0 tokens).demands[position]? = some slot.demand := by
    rw [demands, List.getElem?_map, placed, Option.map_some]
  rw [demands_cut, List.getElem?_map, List.getElem?_zipIdx, stands, Option.map_some,
    Option.map_some, Nat.zero_add, Option.some.injEq, Slot.demand, Prod.mk.injEq] at demand
  obtain ⟨sameKey, sameFormat⟩ := demand
  obtain ⟨member, placeholder⟩ := List.mem_filter.mp (List.mem_of_getElem? stands)
  have ends : ∀ last, token.last? = some last → last = slot.format.byte := by
    intro last ending
    have format := Token.ofByte?_of_wellEnded ending (wellEnded token member)
    rw [sameFormat] at format
    exact Format.ofByte?_eq_some_iff.mp format
  cases token with
  | plain | doubled | lone => simp [Token.isPlaceholder, Token.style?] at placeholder
  | named name last => exact ⟨ends last rfl, sameKey.symm⟩
  | short last => exact ⟨ends last rfl, sameKey.symm⟩

include selected in
/-- **The scan accepts its placeholder language and loses nothing.** Every query is read as
tokens in one way. It has a scan exactly if these are well ended and of one style; the scan has
one slot for each placeholder token, which says what the token says, and with the spellings of
the placeholder tokens at its slots it is the query, the tail being what stands behind the last
one. A query without a scan fails with the offence of the first token that spoils the rest. -/
theorem ofBytes_reads (query : Bytes) :
    ∃ tokens, Token.Reads query tokens ∧ (∀ other, Token.Reads query other → other = tokens) ∧
      ((∃ scan, ofBytes encoding false query = .ok scan) ↔ Token.Accepted none tokens) ∧
      (∀ scan, ofBytes encoding false query = .ok scan →
        scan.weave ((Token.placeholders tokens).map Token.bytes) = query ∧
        scan.slots.length = (Token.placeholders tokens).length ∧
        ∀ (position : Nat) (slot : Slot) (token : Token), scan.slots[position]? = some slot →
          (Token.placeholders tokens)[position]? = some token →
          token.StandsFor codec position slot) ∧
      ∀ error, ofBytes encoding false query = .error error ↔
        ∃ before token after, tokens = before ++ token :: after ∧
          Token.Accepted none before ∧ ¬ Token.Accepted none (before ++ [token]) ∧
          error = token.offence codec after := by
  refine ⟨Token.tokenize query, Token.reads_tokenize query, fun _ reads => reads.eq_tokenize,
    ?_, ?_, ofBytes_eq_error_iff selected false query⟩
  · constructor
    · rintro ⟨scan, success⟩
      exact ((ofBytes_eq_ok_iff selected false query scan).mp success).1
    · intro accepted
      exact ⟨_, (ofBytes_eq_ok_iff selected false query _).mpr ⟨accepted, rfl⟩⟩
  · intro scan success
    obtain ⟨accepted, rfl⟩ := (ofBytes_eq_ok_iff selected false query scan).mp success
    refine ⟨?_, length_slots_cut codec false 0 _, fun position slot token placed stands =>
      standsFor_cut codec false accepted.wellEnded placed stands⟩
    rw [weave_cut, Token.bytes_tokenize]

/-- A mark before a newline, two marks, a name with a mark and a newline in it, and a mark at the
end. -/
theorem ofBytes_reads_marks :
    Encoding.codec "utf8" = .ok .utf8 ∧ ∃ tokens,
      Token.Reads [0x25, 0x0A, 0x25, 0x25, 0x25, 0x28, 0x25, 0x0A, 0x29, 0x73, 0x25] tokens ∧
      (⟨[⟨[0x25, 0x0A, 0x25, 0x25], .name "%\n", .auto⟩], [0x25]⟩ : Scan).weave
        ((Token.placeholders tokens).map Token.bytes) =
          [0x25, 0x0A, 0x25, 0x25, 0x25, 0x28, 0x25, 0x0A, 0x29, 0x73, 0x25] := by
  have selected : Encoding.codec "utf8" = .ok .utf8 :=
    Encoding.codec_eq_ok.mpr (Text.Codec.ofName?_name .utf8)
  obtain ⟨tokens, reads, _, _, spelled, _⟩ := ofBytes_reads selected
    [0x25, 0x0A, 0x25, 0x25, 0x25, 0x28, 0x25, 0x0A, 0x29, 0x73, 0x25]
  exact ⟨selected, tokens, reads, (spelled _ (by cbv)).1⟩

end Scan

end QueryBind
