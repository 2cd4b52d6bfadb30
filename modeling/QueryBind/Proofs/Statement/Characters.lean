import Mathlib
import QueryBind.Proofs.Placeholder.Characters
import QueryBind.Proofs.Statement.Agreement

/-! # Whole characters

A text in the eight-bit Unicode format is scanned byte by byte, but a scan that succeeds is one of
its characters: the fragments around the placeholders and the names in them are whole characters,
and the markers of the server query take the places of placeholders that can be read off the
characters themselves (`Scan.ofBytes_keeps_characters`). A placeholder ends in the letter of a
format, so the one byte that a placeholder takes without looking is never the first of several
(`Token.ending_of_wellEnded`).
-/

namespace QueryBind

open Text (Codec)
open Text.Utf8

namespace Lexeme

/-- The key of a lexeme behind `count` placeholders, if it is a placeholder. -/
def key? (count : Nat) : Lexeme → Option Key
  | .named name _ => some (.name (String.ofList name))
  | .short _ => some (.position count)
  | _ => none

/-- The characters that a lexeme stands for, two percent signs being one if `collapse` is set. -/
def text (collapse : Bool) : Lexeme → List Char
  | .doubled => if collapse then ['%'] else ['%', '%']
  | lexeme => lexeme.chars

/-- The keys of the placeholders among lexemes behind `count` placeholders. -/
def keys : Nat → List Lexeme → List Key
  | _, [] => []
  | count, lexeme :: rest =>
    match lexeme.key? count with
    | some key => key :: keys (count + 1) rest
    | none => keys count rest

/-- Lexemes with an insert in place of every placeholder. -/
def substitute (collapse : Bool) (insert : Key → List Char) : Nat → List Lexeme → List Char
  | _, [] => []
  | count, lexeme :: rest =>
    match lexeme.key? count with
    | some key => insert key ++ substitute collapse insert (count + 1) rest
    | none => lexeme.text collapse ++ substitute collapse insert count rest

/-- The characters of a key's marker: its number, counted from one, is the place of the key among
the given ones in the order of their first occurrences. -/
def marker (among : List Key) (key : Key) : List Char :=
  '$' :: Nat.toDigits 10 (among.eraseDups.idxOf key + 1)

/-- A text with one percent sign for two and a marker for each placeholder. -/
def marked (text : String) : String :=
  let lexemes := read text.toList
  String.ofList (substitute true (marker (keys 0 lexemes)) 0 lexemes)

end Lexeme

/-- The last character of a sound placeholder is the letter of a format, which is one octet. -/
theorem Token.ending_of_wellEnded {token : UInt8 → Token}
    (ends : ∀ byte, (token byte).last? = some byte) {last : Char}
    (wellEnded : ∀ other ∈ Token.ending token (String.utf8EncodeChar last), other.WellEnded) :
    ∃ format : Format, Token.ending token (String.utf8EncodeChar last) = [token format.byte] := by
  obtain ⟨lead, followers, octets⟩ := exists_octets last
  rw [octets.spelled] at wellEnded ⊢
  obtain ⟨format, rfl⟩ := wellEnded (token lead) List.mem_cons_self lead (ends lead)
  have small : format.byte.toNat < 0x80 := by cases format <;> decide
  exact ⟨format, by rw [(octets.alone small).2]; rfl⟩

/-- The octets of a marker are those of its characters. -/
theorem markerBytes_eq_octets (number : Nat) :
    markerBytes number = octets ('$' :: Nat.toDigits 10 number) := by
  have small : ∀ c ∈ '$' :: Nat.toDigits 10 number, c.toNat < 0x80 := by
    refine List.forall_mem_cons.mpr ⟨by decide, fun c member => ?_⟩
    have digit : c.isDigit = true := Nat.isDigit_of_mem_toDigits (by decide) (by decide) member
    rw [Char.isDigit, Bool.and_eq_true, decide_eq_true_eq, decide_eq_true_eq] at digit
    have last : c.toNat ≤ 57 := UInt32.le_iff_toNat_le.mp digit.2
    omega
  rw [octets_of_small small]
  rfl

namespace Scan

/-- All fragments are the octets of whole characters. -/
structure Whole (scan : Scan) : Prop where
  before : ∀ slot ∈ scan.slots, ∃ cs, slot.before = octets cs
  tail : ∃ cs, scan.tail = octets cs

private theorem Whole.prepend {scan : Scan} (whole : scan.Whole) (cs : List Char) :
    (scan.prepend (octets cs)).Whole := by
  obtain ⟨slots, tail⟩ := scan
  cases slots with
  | nil =>
      obtain ⟨rest, same⟩ := whole.tail
      refine ⟨whole.before, cs ++ rest, ?_⟩
      rw [octets_append, ← same]
      rfl
  | cons slot slots =>
      obtain ⟨first, others⟩ := List.forall_mem_cons.mp whole.before
      obtain ⟨rest, same⟩ := first
      refine ⟨List.forall_mem_cons.mpr ⟨⟨cs ++ rest, ?_⟩, others⟩, whole.tail⟩
      rw [octets_append, ← same]

private theorem Whole.push {scan : Scan} (whole : scan.Whole) (key : Key) (format : Format) :
    (scan.push key format).Whole :=
  ⟨List.forall_mem_cons.mpr ⟨⟨[], rfl⟩, whole.before⟩, whole.tail⟩

/-- A scan of lexemes behind `count` placeholders: its fragments are whole characters, its keys are
the keys of the lexemes, and texts put at its slots are put at the placeholders of the lexemes. -/
structure Spelled (collapse : Bool) (count : Nat) (lexemes : List Lexeme) (scan : Scan) :
    Prop where
  whole : scan.Whole
  keys : scan.keys = Lexeme.keys count lexemes
  woven : ∀ insert : Key → List Char, scan.weave (scan.keys.map fun key => octets (insert key)) =
    octets (Lexeme.substitute collapse insert count lexemes)

namespace Spelled

variable {collapse : Bool} {count : Nat} {lexeme : Lexeme} {rest : List Lexeme} {scan : Scan}

private theorem text (spelled : Spelled collapse count rest scan)
    (plain : lexeme.key? count = none) :
    Spelled collapse count (lexeme :: rest) (scan.prepend (octets (lexeme.text collapse))) where
  whole := spelled.whole.prepend _
  keys := by
    rw [keys_prepend, spelled.keys, Lexeme.keys, plain]
  woven insert := by
    have enough : scan.slots.length = (scan.keys.map fun key => octets (insert key)).length := by
      rw [List.length_map, Scan.keys, List.length_map]
    rw [keys_prepend, weave_prepend _ _ _ enough, spelled.woven, Lexeme.substitute, plain,
      octets_append]

private theorem slot {key : Key} (spelled : Spelled collapse (count + 1) rest scan)
    (placeholder : lexeme.key? count = some key) (format : Format) :
    Spelled collapse count (lexeme :: rest) (scan.push key format) where
  whole := spelled.whole.push key format
  keys := by
    rw [keys_push, spelled.keys, Lexeme.keys, placeholder]
  woven insert := by
    rw [keys_push, List.map_cons, weave_push, spelled.woven, Lexeme.substitute, placeholder,
      octets_append]

end Spelled

private theorem cut_plain (codec : Codec) (collapse : Bool) (count : Nat) (bytes : Bytes)
    (rest : List Token) :
    cut codec collapse count (bytes.map .plain ++ rest) =
      prepend bytes (cut codec collapse count rest) := by
  induction bytes with
  | nil => exact (prepend_nil _).symm
  | cons byte bytes ih =>
      have own : (Token.plain byte).textBytes collapse = [byte] := rfl
      rw [List.map_cons, List.cons_append, cut_cons_of_text _ _ _ rfl, ih, own, ← prepend_append,
        List.singleton_append]

/-- **A cut is at characters.** The cut of well ended tokens of lexemes spells the lexemes. -/
theorem spelled_cut (collapse : Bool) (count : Nat) {lexemes : List Lexeme}
    (wellEnded : ∀ token ∈ lexemes.flatMap Lexeme.tokens, token.WellEnded) :
    Spelled collapse count lexemes
      (cut .utf8 collapse count (lexemes.flatMap Lexeme.tokens)) := by
  induction lexemes generalizing count with
  | nil => exact ⟨⟨nofun, [], rfl⟩, rfl, fun _ => rfl⟩
  | cons lexeme rest ih =>
      rw [List.flatMap_cons] at wellEnded ⊢
      obtain ⟨own, others⟩ := List.forall_mem_append.mp wellEnded
      cases lexeme with
      | plain c =>
          have letters : String.utf8EncodeChar c = octets ((Lexeme.plain c).text collapse) :=
            (List.flatMap_singleton ..).symm
          rw [Lexeme.tokens, cut_plain, letters]
          exact (ih count others).text rfl
      | doubled =>
          have signs :
              Token.doubled.textBytes collapse = octets (Lexeme.doubled.text collapse) := by
            cases collapse <;> rfl
          rw [Lexeme.tokens, List.singleton_append, cut_cons_of_text _ _ _ rfl, signs]
          exact (ih count others).text rfl
      | lone =>
          rw [Lexeme.tokens, List.singleton_append, cut_cons_of_text _ _ _ rfl]
          exact (ih count others).text rfl
      | named name last =>
          -- The last character has one octet only, so no part of it is left to be text.
          obtain ⟨format, alone⟩ := Token.ending_of_wellEnded (fun _ => rfl) own
          have key : (Token.named (octets name) format.byte).key .utf8 count =
              .name (String.ofList name) := congrArg Key.name (decode_octets name)
          rw [Lexeme.tokens, alone, List.singleton_append, cut_cons _ _ _ rfl, key]
          exact (ih (count + 1) others).slot rfl _
      | short last =>
          obtain ⟨format, alone⟩ := Token.ending_of_wellEnded (fun _ => rfl) own
          rw [Lexeme.tokens, alone, List.singleton_append, cut_cons _ _ _ rfl]
          exact (ih (count + 1) others).slot rfl _

/-- The names of a text's tokens are whole characters. -/
theorem exists_octets_of_named {cs : List Char} {name : Bytes} {last : UInt8}
    (member : Token.named name last ∈ Token.tokenize (octets cs)) :
    ∃ inner, name = octets inner := by
  rw [Lexeme.tokenize_octets] at member
  obtain ⟨lexeme, -, among⟩ := List.mem_flatMap.mp member
  cases lexeme with
  | plain c => simp [Lexeme.tokens] at among
  | doubled | lone => simp [Lexeme.tokens] at among
  | named inner ended =>
      obtain ⟨lead, followers, spread⟩ := exists_octets ended
      simp [Lexeme.tokens, spread.spelled, Token.ending] at among
      exact ⟨inner, among.1⟩
  | short ended =>
      obtain ⟨lead, followers, spread⟩ := exists_octets ended
      simp [Lexeme.tokens, spread.spelled, Token.ending] at among

variable {encoding : String} (selected : Encoding.codec encoding = .ok .utf8)

include selected in
/-- A scan of a text spells the lexemes of the text. -/
theorem spelled_ofBytes {text : String} {collapse : Bool} {scan : Scan}
    (success : ofBytes encoding collapse (encode text) = .ok scan) :
    Spelled collapse 0 (Lexeme.read text.toList) scan := by
  obtain ⟨accepted, rfl⟩ := (ofBytes_eq_ok_iff selected collapse _ scan).mp success
  have wellEnded := accepted.wellEnded
  have read : Token.tokenize (encode text) =
      (Lexeme.read text.toList).flatMap Lexeme.tokens := Lexeme.tokenize_octets text.toList
  rw [read] at wellEnded ⊢
  exact spelled_cut collapse 0 wellEnded

/-- The markers of a server query are put in place of the placeholders that they stand for. -/
theorem Spelled.query {text : String} {scan : Scan} {assigned : Assignment}
    (spelled : Spelled true 0 (Lexeme.read text.toList) scan)
    (marked : Assignment.ofSlots scan.slots = .ok assigned) :
    (ServerQuery.ofAssignment scan assigned).query = encode (Lexeme.marked text) := by
  have markers : assigned.markers.map markerBytes =
      scan.keys.map fun key => octets (Lexeme.marker scan.keys key) := by
    rw [Assignment.markers_ofSlots marked, List.map_map]
    exact List.map_congr_left fun key _ => markerBytes_eq_octets _
  calc
    (ServerQuery.ofAssignment scan assigned).query =
        scan.weave (assigned.markers.map markerBytes) := rfl
    _ = octets (Lexeme.substitute true (Lexeme.marker scan.keys) 0 (Lexeme.read text.toList)) := by
      rw [markers, spelled.woven]
    _ = encode (Lexeme.marked text) := by
      rw [Lexeme.marked, encode_ofList, ← spelled.keys]

include selected in
/-- **No scan cuts a character.** A text is encoded and scanned: the fragments of the scan are
texts in the encoding, a name is the text between the parentheses of its placeholder, the text is
spelled by its lexemes, the keys are theirs, and the server query is the text with markers put in
place of those that are placeholders. -/
theorem ofBytes_keeps_characters (text : String) (collapse : Bool) {scan : Scan}
    (success : ofBytes encoding collapse (encode text) = .ok scan) :
    (∀ slot ∈ scan.slots, encode (decode slot.before) = slot.before) ∧
      encode (decode scan.tail) = scan.tail ∧
      (∀ (position : Nat) (slot : Slot) (name : String), scan.slots[position]? = some slot →
        slot.key = .name name →
          (Token.placeholders (Token.tokenize (encode text)))[position]? =
            some (.named (encode name) slot.format.byte)) ∧
      (Lexeme.read text.toList).flatMap Lexeme.chars = text.toList ∧
      scan.keys = Lexeme.keys 0 (Lexeme.read text.toList) ∧
      ∀ server, ServerQuery.ofBytes encoding (encode text) = .ok server →
        decode server.query = Lexeme.marked text := by
  have spelled := spelled_ofBytes selected success
  refine ⟨fun slot among => ?_, ?_, fun position slot name placed named => ?_,
    Lexeme.chars_read text.toList, spelled.keys, fun server parsed => ?_⟩
  · obtain ⟨cs, same⟩ := spelled.whole.before slot among
    rw [same, encode_decode_octets]
  · obtain ⟨cs, same⟩ := spelled.whole.tail
    rw [same, encode_decode_octets]
  · obtain ⟨accepted, rfl⟩ := (ofBytes_eq_ok_iff selected collapse _ scan).mp success
    obtain ⟨token, member, stands, stated⟩ :=
      exists_standsFor .utf8 collapse accepted.wellEnded placed
    cases token with
    | plain | doubled | lone => exact stated.elim
    | short last => cases named.symm.trans stated.2
    | named raw last =>
        obtain ⟨inner, rfl⟩ := exists_octets_of_named member
        have same : name = decode (octets inner) := Key.name.inj (named.symm.trans stated.2)
        rw [stands, stated.1, same, encode_decode_octets]
  · obtain ⟨scan, assigned, scanned, marked, rfl⟩ := ServerQuery.ofBytes_eq_ok parsed
    rw [(spelled_ofBytes selected scanned).query marked, decode_encode]

/-- A name with an accent, used twice, between characters of two and of three octets. -/
theorem ofBytes_keeps_characters_of_accents :
    ∃ scan server, ofBytes "utf8" false (encode "é%(naïve)s%%€%(naïve)s") = .ok scan ∧
      ServerQuery.ofBytes "utf8" (encode "é%(naïve)s%%€%(naïve)s") = .ok server ∧
      scan.keys = [.name "naïve", .name "naïve"] ∧ decode server.query = "é$1%€$1" := by
  have selected : Encoding.codec "utf8" = .ok .utf8 := Encoding.codec_name .utf8
  have success : ofBytes "utf8" false (encode "é%(naïve)s%%€%(naïve)s") =
      .ok ⟨[⟨[0xC3, 0xA9], .name "naïve", .auto⟩,
        ⟨[0x25, 0x25, 0xE2, 0x82, 0xAC], .name "naïve", .auto⟩], []⟩ := by cbv
  have parsed : ServerQuery.ofBytes "utf8" (encode "é%(naïve)s%%€%(naïve)s") =
      .ok {
        query := [0xC3, 0xA9, 0x24, 0x31, 0x25, 0xE2, 0x82, 0xAC, 0x24, 0x31]
        formats := [.auto]
        order := some ["naïve"]
        scan := ⟨[⟨[0xC3, 0xA9], .name "naïve", .auto⟩,
          ⟨[0x25, 0xE2, 0x82, 0xAC], .name "naïve", .auto⟩], []⟩ } := by cbv
  have marked : Lexeme.marked "é%(naïve)s%%€%(naïve)s" = "é$1%€$1" := by cbv
  obtain ⟨-, -, -, -, -, substituted⟩ := ofBytes_keeps_characters selected _ false success
  exact ⟨_, _, success, parsed, rfl, (substituted _ parsed).trans marked⟩

end Scan

end QueryBind
