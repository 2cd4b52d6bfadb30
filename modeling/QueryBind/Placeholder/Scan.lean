import QueryBind.Encoding
import QueryBind.Placeholder.Token

/-! # Scanned queries

A scan is a query cut at its placeholders: every slot has the bytes in front of it, the key
of its parameter and its format, and the tail has the bytes behind the last slot. A scan
is read off the tokens of the query from left to right, and the leftmost flaw decides the
error. `Scan.weave` puts a scan together again with other bytes at the slots.
-/

namespace QueryBind

/-- The space, which makes a mark in front of it look like an operator. -/
def spaceByte : UInt8 := 0x20

/-- How a query refers to its parameters. -/
inductive Style where
  | positional
  | named
  deriving DecidableEq, Repr

/-- The parameter that a placeholder stands for. -/
inductive Key where
  /-- The parameter with this position, counted from zero. -/
  | position (index : Nat)
  | name (name : String)
  deriving DecidableEq, Repr

namespace Key

/-- The style of a key. -/
def style : Key → Style
  | .position _ => .positional
  | .name _ => .named

/-- A key as the name that it is looked up by. -/
def text : Key → String
  | .position index => toString index
  | .name spelled => spelled

end Key

/-- A placeholder with the bytes in front of it. -/
structure Slot where
  before : Bytes
  key : Key
  format : Format
  deriving DecidableEq, Repr

/-- A query cut at its placeholders. -/
structure Scan where
  slots : List Slot
  tail : Bytes
  deriving DecidableEq, Repr

namespace Scan

/-- The number of placeholders. -/
def count (scan : Scan) : Nat :=
  scan.slots.length

/-- The style of the first placeholder, if there is one. -/
def style? (scan : Scan) : Option Style :=
  scan.slots.head?.map (·.key.style)

/-- Whether a query has named placeholders. -/
def isNamed (scan : Scan) : Bool :=
  scan.style? == some .named

/-- Whether a query has positional placeholders. -/
def isPositional (scan : Scan) : Bool :=
  scan.style? == some .positional

/-- Bytes put in front of a scan. -/
def prepend (bytes : Bytes) : Scan → Scan
  | ⟨[], tail⟩ => ⟨[], bytes ++ tail⟩
  | ⟨slot :: slots, tail⟩ => ⟨{ slot with before := bytes ++ slot.before } :: slots, tail⟩

/-- A placeholder put in front of a scan. -/
def push (key : Key) (format : Format) (scan : Scan) : Scan :=
  ⟨⟨[], key, format⟩ :: scan.slots, scan.tail⟩

/-- The bytes of slots filled with inserts, in order, and of the tail. -/
def weaveSlots : List Slot → List Bytes → Bytes → Bytes
  | slot :: slots, insert :: inserts, tail => slot.before ++ insert ++ weaveSlots slots inserts tail
  | _, _, tail => tail

/-- The bytes of a scan with an insert at every slot. -/
def weave (scan : Scan) (inserts : List Bytes) : Bytes :=
  weaveSlots scan.slots inserts scan.tail

/-- Bytes in front of a scan add no slots. -/
@[simp] theorem slots_prepend_length (bytes : Bytes) (scan : Scan) :
    (scan.prepend bytes).slots.length = scan.slots.length := by
  obtain ⟨slots, tail⟩ := scan
  cases slots <;> rfl

/-- Bytes in front of a scan stand in front of whatever it is woven into. -/
theorem weave_prepend (bytes : Bytes) (scan : Scan) (inserts : List Bytes)
    (enough : scan.slots.length = inserts.length) :
    (scan.prepend bytes).weave inserts = bytes ++ scan.weave inserts := by
  obtain ⟨slots, tail⟩ := scan
  cases slots with
  | nil =>
    cases inserts with
    | nil => rfl
    | cons insert inserts => simp at enough
  | cons slot slots =>
    cases inserts with
    | nil => simp at enough
    | cons insert inserts => simp [weave, prepend, weaveSlots]

/-- The first insert stands in front of what is woven from the rest. -/
theorem weave_push (key : Key) (format : Format) (scan : Scan) (insert : Bytes)
    (inserts : List Bytes) :
    (scan.push key format).weave (insert :: inserts) = insert ++ scan.weave inserts := by
  simp [weave, push, weaveSlots]

end Scan

/-- What a token adds to a scan. -/
inductive Piece where
  | text (bytes : Bytes)
  | slot (key : Key) (format : Format)
  deriving DecidableEq, Repr

namespace Token

/-- Bytes that end the fragment which an unfinished placeholder is reported with. -/
def endsFragment (b : UInt8) : Bool :=
  b == spaceByte || (0x09 ≤ b && b ≤ 0x0D)

/-- The fragment of an unfinished placeholder with the tokens behind it: its bytes up to
the next blank. -/
def fragment (token : Token) (rest : List Token) : Bytes :=
  ((token :: rest).flatMap bytes).takeWhile fun b => !endsFragment b

/-- The format that a placeholder token ends in. -/
def formatOf (encoding : String) (token : Token) (last : UInt8) : Except QueryError Format :=
  match Format.ofByte? last with
  | some format => .ok format
  | none =>
    match Encoding.decode encoding token.bytes with
    | .ok text => .error (.malformedPlaceholder (.unknownFormat text))
    | .error error => .error error

/-- What a token adds to the scan, `count` being the number of placeholders in front of it
and `rest` the tokens behind it. -/
def piece (encoding : String) (collapse : Bool) (count : Nat) (token : Token)
    (rest : List Token) : Except QueryError Piece :=
  match token with
  | .plain byte => .ok (.text [byte])
  | .lone => .ok (.text [markByte])
  | .doubled => .ok (.text (if collapse then [markByte] else [markByte, markByte]))
  | .short last =>
    if last = openByte then do
      let text ← Encoding.decode encoding (token.fragment rest)
      throw (.malformedPlaceholder (.incomplete text))
    else if last = spaceByte then throw (.malformedPlaceholder .beforeSpace)
    else do
      let format ← token.formatOf encoding last
      return .slot (.position count) format
  | .named name last => do
    let format ← token.formatOf encoding last
    let text ← Encoding.decode encoding name
    return .slot (.name text) format

end Token

namespace Scan

/-- The scan of tokens that stand behind `count` placeholders of the given style. -/
def ofTokensFrom (encoding : String) (collapse : Bool) (style : Option Style) (count : Nat) :
    List Token → Except QueryError Scan
  | [] => .ok ⟨[], []⟩
  | token :: rest =>
    match token.piece encoding collapse count rest with
    | .error error => .error error
    | .ok (.text bytes) =>
      (ofTokensFrom encoding collapse style count rest).map (prepend bytes)
    | .ok (.slot key format) =>
      if style.all (· = key.style) then
        (ofTokensFrom encoding collapse (some key.style) (count + 1) rest).map (push key format)
      else .error .mixedPlaceholders

/-- The scan of a query. Names and fragments are read in the connection encoding; two marks
become one if `collapse` is set and are kept otherwise. -/
def ofBytes (encoding : String) (collapse : Bool) (query : Bytes) : Except QueryError Scan :=
  ofTokensFrom encoding collapse none 0 (Token.tokenize query)

end Scan

end QueryBind
