import QueryBind.Placeholder.Format

/-! # Placeholder tokens

The left-to-right reading of raw query bytes. A mark is the percent sign. Two marks are one
token; a mark at the end or before a newline is text; a mark with a name in parentheses
takes the byte behind the closing parenthesis as its last; any other mark takes the next
byte. Every other byte is a token of its own.

The reading loses nothing: `bytes_tokenize` puts the tokens together to the query again.
-/

namespace QueryBind

/-- The percent sign. -/
def markByte : UInt8 := 0x25

/-- The byte that no placeholder ends in. -/
def newlineByte : UInt8 := 0x0A

/-- The opening parenthesis. -/
def openByte : UInt8 := 0x28

/-- The closing parenthesis. -/
def closeByte : UInt8 := 0x29

/-- A piece of a query. -/
inductive Token where
  /-- A byte that is no mark. -/
  | plain (byte : UInt8)
  /-- Two marks. -/
  | doubled
  /-- A mark that is text: the last byte, or before a newline. -/
  | lone
  /-- A mark, a name in parentheses and one byte. -/
  | named (name : Bytes) (last : UInt8)
  /-- A mark and one byte. -/
  | short (last : UInt8)
  deriving DecidableEq, Repr

namespace Token

/-- The bytes that a token was read from. -/
def bytes : Token → Bytes
  | .plain byte => [byte]
  | .doubled => [markByte, markByte]
  | .lone => [markByte]
  | .named name last => markByte :: openByte :: name ++ [closeByte, last]
  | .short last => [markByte, last]

/-- Bytes up to the first closing parenthesis and the bytes behind it. -/
def splitName? : Bytes → Option (Bytes × Bytes)
  | [] => none
  | b :: rest =>
    if b = closeByte then some ([], rest)
    else (splitName? rest).map fun split => (b :: split.1, split.2)

/-- The named placeholder whose opening parenthesis stood in front of these bytes, with the
bytes behind it. The name has at least one byte and the last byte is no newline. -/
def named? (bytes : Bytes) : Option (Token × Bytes) :=
  match splitName? bytes with
  | some (name, last :: rest) =>
    if name = [] ∨ last = newlineByte then none else some (.named name last, rest)
  | _ => none

/-- The token behind a mark and the bytes behind the token. -/
def afterMark : Bytes → Token × Bytes
  | [] => (.lone, [])
  | b :: rest =>
    if b = newlineByte then (.lone, b :: rest)
    else if b = markByte then (.doubled, rest)
    else if b = openByte then (named? rest).getD (.short b, rest)
    else (.short b, rest)

/-- A name is followed by a closing parenthesis and the rest. -/
theorem splitName?_eq_some {bytes name rest : Bytes}
    (split : splitName? bytes = some (name, rest)) : bytes = name ++ closeByte :: rest := by
  induction bytes generalizing name with
  | nil => simp [splitName?] at split
  | cons b tail ih =>
    unfold splitName? at split
    split at split
    · next closes =>
      simp only [Option.some.injEq, Prod.mk.injEq] at split
      simp [← split.1, ← split.2, closes]
    · obtain ⟨⟨inner, after⟩, found, same⟩ := Option.map_eq_some_iff.mp split
      simp only [Prod.mk.injEq] at same
      obtain ⟨rfl, rfl⟩ := same
      simp [ih found]

private theorem named?_eq_some {bytes rest : Bytes} {token : Token}
    (found : named? bytes = some (token, rest)) :
    token.bytes ++ rest = markByte :: openByte :: bytes := by
  unfold named? at found
  split at found
  · next name last after split =>
    split at found
    · simp at found
    · simp only [Option.some.injEq, Prod.mk.injEq] at found
      obtain ⟨rfl, rfl⟩ := found
      simp [Token.bytes, splitName?_eq_some split]
  · simp at found

/-- The token behind a mark and what follows it spell the mark and its bytes. -/
theorem bytes_afterMark (bytes : Bytes) :
    (afterMark bytes).1.bytes ++ (afterMark bytes).2 = markByte :: bytes := by
  cases bytes with
  | nil => rfl
  | cons b rest =>
    simp only [afterMark]
    by_cases newline : b = newlineByte
    · simp [newline, Token.bytes]
    by_cases doubles : b = markByte
    · simp [doubles, Token.bytes, markByte, newlineByte]
    by_cases opens : b = openByte
    · subst opens
      simp only [newline, doubles, if_false, if_true]
      cases found : named? rest with
      | none => rfl
      | some pair => exact named?_eq_some found
    · simp [newline, doubles, opens, Token.bytes]

/-- Reading a mark never reads more than there is. -/
theorem length_afterMark_le (bytes : Bytes) : (afterMark bytes).2.length ≤ bytes.length := by
  have spelled := congrArg List.length (bytes_afterMark bytes)
  have positive : 1 ≤ (afterMark bytes).1.bytes.length := by
    cases (afterMark bytes).1 <;> simp [Token.bytes]
  simp only [List.length_append, List.length_cons] at spelled
  omega

/-- The tokens of raw query bytes. -/
def tokenize : Bytes → List Token
  | [] => []
  | b :: rest =>
    if b = markByte then (afterMark rest).1 :: tokenize (afterMark rest).2
    else .plain b :: tokenize rest
termination_by bytes => bytes.length
decreasing_by
  · have := length_afterMark_le rest
    simp only [List.length_cons]
    omega
  · simp

/-- **Nothing is lost.** The tokens of a query spell the query. -/
theorem bytes_tokenize (query : Bytes) : (tokenize query).flatMap Token.bytes = query := by
  fun_induction tokenize query with
  | case1 => rfl
  | case2 rest ih =>
    rw [List.flatMap_cons, ih, bytes_afterMark]
  | case3 b rest plain ih => simp [Token.bytes, ih]

end Token

end QueryBind
