import QueryBind.Placeholder.Scan
import QueryBind.Proofs.Text.Octets

/-! # Cutting tokens at their placeholders

`Scan.cut` cuts a list of tokens at its placeholder tokens and asks no questions: it takes every
placeholder as if it were sound. What a slot is bound to depends neither on the text around the
placeholders nor on what becomes of two marks (`Scan.demands_cut`), and the cut put together
with the placeholders' own spellings is the text of the tokens again (`Scan.weave_cut`).
-/

namespace QueryBind

open Text (Codec)

namespace Token

/-- The style of a placeholder token; text has none. -/
def style? : Token → Option Style
  | .named .. => some .named
  | .short _ => some .positional
  | _ => none

/-- Whether a token is a placeholder. -/
def isPlaceholder (token : Token) : Bool :=
  token.style?.isSome

/-- The byte that a placeholder token ends in. -/
def last? : Token → Option UInt8
  | .named _ last => some last
  | .short last => some last
  | _ => none

/-- The format of a placeholder token that ends in the letter of one. -/
def format (token : Token) : Format :=
  (token.last?.bind Format.ofByte?).getD .auto

/-- The key of a placeholder token behind `count` others. -/
def key (codec : Codec) (count : Nat) : Token → Key
  | .named name _ => .name (codec.decode name)
  | _ => .position count

/-- The text that a token stands for, two marks being one if `collapse` is set. -/
def textBytes (collapse : Bool) : Token → Bytes
  | .doubled => if collapse then [markByte] else [markByte, markByte]
  | token => token.bytes

/-- The placeholder tokens. -/
def placeholders (tokens : List Token) : List Token :=
  tokens.filter isPlaceholder

/-- A token with a style is a placeholder. -/
theorem isPlaceholder_of_style? {token : Token} {own : Style}
    (placeholder : token.style? = some own) : token.isPlaceholder = true := by
  rw [isPlaceholder, placeholder, Option.isSome_some]

/-- A token without a style is no placeholder. -/
theorem not_isPlaceholder_of_style? {token : Token} (styleless : token.style? = none) :
    token.isPlaceholder = false := by
  rw [isPlaceholder, styleless, Option.isSome_none]

/-- Text adds no placeholder. -/
theorem placeholders_cons_of_text {token : Token} (text : token.isPlaceholder = false)
    (rest : List Token) : placeholders (token :: rest) = placeholders rest := by
  simp [placeholders, text]

/-- A placeholder is one of the placeholders. -/
theorem placeholders_cons {token : Token} (placeholder : token.isPlaceholder = true)
    (rest : List Token) : placeholders (token :: rest) = token :: placeholders rest := by
  simp [placeholders, placeholder]

/-- Where nothing is collapsed a token has its own bytes. -/
@[simp] theorem textBytes_false (token : Token) : token.textBytes false = token.bytes := by
  cases token <;> rfl

end Token

/-- What a slot is bound to, the text in front of it aside. -/
def Slot.demand (slot : Slot) : Key × Format :=
  (slot.key, slot.format)

namespace Scan

/-- What the slots are bound to. -/
def demands (scan : Scan) : List (Key × Format) :=
  scan.slots.map Slot.demand

/-- Bytes in front of a scan demand nothing. -/
@[simp] theorem demands_prepend (bytes : Bytes) (scan : Scan) :
    (scan.prepend bytes).demands = scan.demands := by
  obtain ⟨slots, tail⟩ := scan
  cases slots <;> rfl

/-- A placeholder demands its key in its format. -/
@[simp] theorem demands_push (key : Key) (format : Format) (scan : Scan) :
    (scan.push key format).demands = (key, format) :: scan.demands := rfl

/-- There is a demand for each slot. -/
@[simp] theorem length_demands (scan : Scan) : scan.demands.length = scan.slots.length :=
  List.length_map ..

/-- The fragments around the placeholders. -/
def fragments (scan : Scan) : List Bytes :=
  scan.slots.map (·.before) ++ [scan.tail]

/-- In front of a placeholder there is nothing yet. -/
@[simp] theorem fragments_push (key : Key) (format : Format) (scan : Scan) :
    (scan.push key format).fragments = [] :: scan.fragments := rfl

/-- Bytes in front of a scan are bytes in front of its first fragment. -/
theorem fragments_prepend (bytes : Bytes) (scan : Scan) :
    (scan.prepend bytes).fragments = scan.fragments.modifyHead (bytes ++ ·) := by
  obtain ⟨slots, tail⟩ := scan
  cases slots <;> rfl

/-- No bytes in front of a scan change nothing. -/
theorem prepend_nil (scan : Scan) : scan.prepend [] = scan := by
  obtain ⟨slots, tail⟩ := scan
  cases slots <;> rfl

/-- Bytes stand in front of a scan one after the other. -/
theorem prepend_append (front back : Bytes) (scan : Scan) :
    scan.prepend (front ++ back) = (scan.prepend back).prepend front := by
  obtain ⟨slots, tail⟩ := scan
  cases slots <;> simp [prepend]

/-- Tokens behind `count` placeholders, cut at their placeholders. -/
def cut (codec : Codec) (collapse : Bool) : Nat → List Token → Scan
  | _, [] => ⟨[], []⟩
  | count, token :: rest =>
    if token.isPlaceholder then
      push (token.key codec count) token.format (cut codec collapse (count + 1) rest)
    else prepend (token.textBytes collapse) (cut codec collapse count rest)

/-- Text stands in front of what is cut behind it. -/
theorem cut_cons_of_text (codec : Codec) (collapse : Bool) (count : Nat) {token : Token}
    (text : token.isPlaceholder = false) (rest : List Token) :
    cut codec collapse count (token :: rest) =
      prepend (token.textBytes collapse) (cut codec collapse count rest) := by
  simp [cut, text]

/-- A placeholder is pushed to what is cut behind it. -/
theorem cut_cons (codec : Codec) (collapse : Bool) (count : Nat) {token : Token}
    (placeholder : token.isPlaceholder = true) (rest : List Token) :
    cut codec collapse count (token :: rest) =
      push (token.key codec count) token.format (cut codec collapse (count + 1) rest) := by
  simp [cut, placeholder]

/-- The slots are bound to what the placeholder tokens say, in their order. -/
theorem demands_cut (codec : Codec) (collapse : Bool) (count : Nat) (tokens : List Token) :
    (cut codec collapse count tokens).demands =
      ((Token.placeholders tokens).zipIdx count).map fun placed =>
        (placed.1.key codec placed.2, placed.1.format) := by
  induction tokens generalizing count with
  | nil => rfl
  | cons token rest ih =>
      by_cases placeholder : token.isPlaceholder = true
      · rw [cut_cons _ _ _ placeholder, Token.placeholders_cons placeholder, demands_push, ih,
          List.zipIdx_cons, List.map_cons]
      · have text : token.isPlaceholder = false := eq_false_of_ne_true placeholder
        rw [cut_cons_of_text _ _ _ text, Token.placeholders_cons_of_text text, demands_prepend, ih]

/-- There is a slot for each placeholder. -/
theorem length_slots_cut (codec : Codec) (collapse : Bool) (count : Nat) (tokens : List Token) :
    (cut codec collapse count tokens).slots.length = (Token.placeholders tokens).length := by
  rw [← length_demands, demands_cut, List.length_map, List.length_zipIdx]

/-- The cut with the placeholders' own spellings is the text of the tokens. -/
theorem weave_cut (codec : Codec) (count : Nat) (tokens : List Token) :
    (cut codec false count tokens).weave ((Token.placeholders tokens).map Token.bytes) =
      tokens.flatMap Token.bytes := by
  induction tokens generalizing count with
  | nil => rfl
  | cons token rest ih =>
      by_cases placeholder : token.isPlaceholder = true
      · rw [cut_cons _ _ _ placeholder, Token.placeholders_cons placeholder, List.map_cons,
          weave_push, ih, List.flatMap_cons]
      · have text : token.isPlaceholder = false := eq_false_of_ne_true placeholder
        have enough : (cut codec false count rest).slots.length =
            ((Token.placeholders rest).map Token.bytes).length := by
          rw [length_slots_cut, List.length_map]
        rw [cut_cons_of_text _ _ _ text, Token.placeholders_cons_of_text text,
          weave_prepend _ _ _ enough, ih, Token.textBytes_false, List.flatMap_cons]

end Scan

end QueryBind
