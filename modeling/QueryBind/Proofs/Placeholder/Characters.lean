import QueryBind.Proofs.Placeholder.Grammar
import QueryBind.Proofs.Text.RoundTrip

/-! # Reading placeholders off characters

`Lexeme.read` reads a text from left to right, one character at a time, by the rules that
`Token.tokenize` applies to bytes. In the eight-bit Unicode format the two readings are the same:
the tokens of a text's octets are the tokens of its lexemes (`Lexeme.tokenize_octets`). Only the
character behind a placeholder can be taken apart, where its first octet ends the placeholder and
the others are text; every other token has whole characters.
-/

namespace QueryBind

open Text.Utf8

namespace Token

/-- Octets of which the first one ends a placeholder and the others are text. -/
def ending (token : UInt8 → Token) : Bytes → List Token
  | [] => []
  | lead :: followers => token lead :: followers.map .plain

/-- Bytes among which there is no mark are text. -/
theorem tokenize_append_of_not_mem {bytes : Bytes} (absent : markByte ∉ bytes) (rest : Bytes) :
    tokenize (bytes ++ rest) = bytes.map .plain ++ tokenize rest := by
  induction bytes with
  | nil => rfl
  | cons byte bytes ih =>
      have plain : byte ≠ markByte := Ne.symm (List.ne_of_not_mem_cons absent)
      rw [List.cons_append, tokenize, if_neg plain, ih (List.not_mem_of_not_mem_cons absent)]
      rfl

end Token

/-- A piece of a text. -/
inductive Lexeme where
  /-- A character that is no percent sign. -/
  | plain (c : Char)
  /-- Two percent signs. -/
  | doubled
  /-- A percent sign that is text: at the end, or before a newline. -/
  | lone
  /-- A percent sign, a name in parentheses and one character. -/
  | named (name : List Char) (last : Char)
  /-- A percent sign and one character. -/
  | short (last : Char)
  deriving DecidableEq, Repr

namespace Lexeme

/-- The characters that a lexeme was read from. -/
def chars : Lexeme → List Char
  | .plain c => [c]
  | .doubled => ['%', '%']
  | .lone => ['%']
  | .named name last => '%' :: '(' :: name ++ [')', last]
  | .short last => ['%', last]

/-- Characters up to the first closing parenthesis and the characters behind it. -/
def splitName? (cs : List Char) : Option (List Char × List Char) :=
  match cs.dropWhile (· ≠ ')') with
  | [] => none
  | _ :: rest => some (cs.takeWhile (· ≠ ')'), rest)

/-- The named placeholder whose opening parenthesis stood in front of these characters, with the
characters behind it. -/
def named? (cs : List Char) : Option (Lexeme × List Char) :=
  match splitName? cs with
  | some (name, last :: rest) =>
    if name = [] ∨ last = '\n' then none else some (.named name last, rest)
  | _ => none

/-- The lexeme behind a percent sign and the characters behind the lexeme. -/
def afterMark : List Char → Lexeme × List Char
  | [] => (.lone, [])
  | c :: rest =>
    if c = '\n' then (.lone, c :: rest)
    else if c = '%' then (.doubled, rest)
    else if c = '(' then (named? rest).getD (.short c, rest)
    else (.short c, rest)

section Name

variable {name cs : List Char}

private theorem splitName?_append (first : ')' ∉ name) (rest : List Char) :
    splitName? (name ++ ')' :: rest) = some (name, rest) := by
  have inside : ∀ c ∈ name, decide (c ≠ ')') = true :=
    fun c among => decide_eq_true fun same => first (same ▸ among)
  rw [splitName?, List.dropWhile_append_of_pos inside, List.takeWhile_append_of_pos inside]
  simp

private theorem splitName?_of_not_mem (absent : ')' ∉ cs) : splitName? cs = none := by
  have inside : ∀ c ∈ cs, decide (c ≠ ')') = true :=
    fun c among => decide_eq_true fun same => absent (same ▸ among)
  have dropped : (cs ++ []).dropWhile (· ≠ ')') = [] := List.dropWhile_append_of_pos inside
  rw [List.append_nil] at dropped
  rw [splitName?, dropped]

private theorem splitName?_eq_some {rest : List Char} (split : splitName? cs = some (name, rest)) :
    cs = name ++ ')' :: rest := by
  by_cases closes : ')' ∈ cs
  · obtain ⟨front, back, rfl, first⟩ := List.eq_append_cons_of_mem closes
    rw [splitName?_append first, Option.some.injEq, Prod.mk.injEq] at split
    rw [split.1, split.2]
  · rw [splitName?_of_not_mem closes] at split
    cases split

end Name

private theorem named?_eq_some {cs rest : List Char} {lexeme : Lexeme}
    (found : named? cs = some (lexeme, rest)) : lexeme.chars ++ rest = '%' :: '(' :: cs := by
  unfold named? at found
  split at found
  · next name last after split =>
      split at found
      · cases found
      · cases found
        simp [chars, splitName?_eq_some split]
  · cases found

/-- The lexeme behind a percent sign and what follows it spell the sign and its characters. -/
theorem chars_afterMark (cs : List Char) :
    (afterMark cs).1.chars ++ (afterMark cs).2 = '%' :: cs := by
  cases cs with
  | nil => rfl
  | cons c rest =>
      simp only [afterMark]
      split
      · rfl
      split
      · next doubles => rw [doubles]; rfl
      split
      · next opens =>
          subst opens
          cases found : named? rest with
          | none => rfl
          | some pair => exact named?_eq_some found
      · rfl

private theorem length_afterMark_le (cs : List Char) : (afterMark cs).2.length ≤ cs.length := by
  have spelled := congrArg List.length (chars_afterMark cs)
  have positive : 1 ≤ (afterMark cs).1.chars.length := by
    cases (afterMark cs).1 <;> simp [chars]
  simp only [List.length_append, List.length_cons] at spelled
  omega

/-- The lexemes of a text. -/
def read : List Char → List Lexeme
  | [] => []
  | c :: rest =>
    if c = '%' then (afterMark rest).1 :: read (afterMark rest).2
    else .plain c :: read rest
termination_by cs => cs.length
decreasing_by
  · have := length_afterMark_le rest
    simp only [List.length_cons]
    omega
  · simp

/-- The lexemes of a text spell the text. -/
theorem chars_read (cs : List Char) : (read cs).flatMap chars = cs := by
  fun_induction read cs with
  | case1 => rfl
  | case2 rest ih => rw [List.flatMap_cons, ih, chars_afterMark]
  | case3 c rest _ ih => rw [List.flatMap_cons, ih]; rfl

/-- The tokens of a lexeme's octets. -/
def tokens : Lexeme → List Token
  | .plain c => (String.utf8EncodeChar c).map .plain
  | .doubled => [.doubled]
  | .lone => [.lone]
  | .named name last => Token.ending (.named (octets name)) (String.utf8EncodeChar last)
  | .short last => Token.ending .short (String.utf8EncodeChar last)

/-! ## The two readings agree -/

/-- The closing parenthesis is one octet, and occurs in no other character. -/
theorem splitName?_octets (cs : List Char) : Token.splitName? (octets cs) =
    (splitName? cs).map fun split => (octets split.1, octets split.2) := by
  by_cases closes : ')' ∈ cs
  · obtain ⟨name, rest, rfl, first⟩ := List.eq_append_cons_of_mem closes
    rw [splitName?_append first, octets_append]
    exact Token.splitName?_append _ _ (not_mem_octets (by decide) first)
  · have missing : closeByte ∉ octets cs := not_mem_octets (by decide) closes
    rw [splitName?_of_not_mem closes]
    cases split : Token.splitName? (octets cs) with
    | none => rfl
    | some pair => exact absurd (Token.splitName?_eq_some split ▸ by simp) missing

/-- Both readings find the same name in parentheses, or none. -/
theorem named?_octets (cs : List Char) :
    (named? cs = none ∧ Token.named? (octets cs) = none) ∨
      ∃ name last rest lead followers, named? cs = some (.named name last, rest) ∧
        Octets last lead followers ∧
        Token.named? (octets cs) = some (.named (octets name) lead, followers ++ octets rest) := by
  have splitToo := splitName?_octets cs
  cases split : splitName? cs with
  | none => exact .inl ⟨by simp [named?, split], by simp [Token.named?, splitToo, split]⟩
  | some found =>
      obtain ⟨name, after⟩ := found
      rw [split] at splitToo
      cases after with
      | nil => exact .inl ⟨by simp [named?, split], by simp [Token.named?, splitToo, octets_nil]⟩
      | cons last rest =>
          obtain ⟨lead, followers, spread⟩ := exists_octets last
          -- The byte reading looks at the first octet, which is a newline's for a newline only.
          have newline : lead = newlineByte ↔ last = '\n' := spread.lead_eq_iff '\n' (by decide)
          rw [Option.map_some, octets_cons, spread.spelled, List.cons_append] at splitToo
          by_cases improper : name = [] ∨ last = '\n'
          · refine .inl ⟨by simp [named?, split, improper], ?_⟩
            simp [Token.named?, splitToo, octets_eq_nil_iff, newline, improper]
          · refine .inr ⟨name, last, rest, lead, followers, ?_, spread, ?_⟩
            · simp [named?, split, improper]
            · simp [Token.named?, splitToo, octets_eq_nil_iff, newline, improper]

/-- Behind a percent sign both readings find one placeholder or text, and the byte reading goes on
with what is left of the character that it ended in. -/
theorem afterMark_octets (cs : List Char) : ∃ token followers,
    (afterMark cs).1.tokens = token :: followers.map .plain ∧ markByte ∉ followers ∧
    Token.afterMark (octets cs) = (token, followers ++ octets (afterMark cs).2) := by
  cases cs with
  | nil => exact ⟨.lone, [], rfl, List.not_mem_nil, rfl⟩
  | cons c rest =>
      obtain ⟨lead, followers, spread⟩ := exists_octets c
      by_cases newline : c = '\n'
      · subst newline
        exact ⟨.lone, [], rfl, List.not_mem_nil, rfl⟩
      by_cases doubles : c = '%'
      · subst doubles
        exact ⟨.doubled, [], rfl, List.not_mem_nil, rfl⟩
      by_cases opens : c = '('
      · subst opens
        have opening : octets ('(' :: rest) = openByte :: octets rest := rfl
        have notNewline : openByte ≠ newlineByte := by decide
        have notMark : openByte ≠ markByte := by decide
        rw [opening]
        simp only [afterMark, Token.afterMark, newline, doubles, notNewline, notMark, if_false,
          if_true]
        rcases named?_octets rest with ⟨missing, missingToo⟩ |
          ⟨name, last, after, lead, followers, found, spread, foundToo⟩
        · rw [missing, missingToo]
          exact ⟨.short openByte, [], rfl, List.not_mem_nil, rfl⟩
        · rw [found, foundToo]
          refine ⟨.named (octets name) lead, followers, ?_, spread.not_mem (by decide), rfl⟩
          simp [tokens, spread.spelled, Token.ending]
      · -- Any other character begins with an octet that is no sign either.
        have notNewline : lead ≠ newlineByte := mt (spread.lead_eq_iff '\n' (by decide)).mp newline
        have notMark : lead ≠ markByte := mt (spread.lead_eq_iff '%' (by decide)).mp doubles
        have notOpen : lead ≠ openByte := mt (spread.lead_eq_iff '(' (by decide)).mp opens
        refine ⟨.short lead, followers, ?_, spread.not_mem (by decide), ?_⟩
        · simp [afterMark, newline, doubles, opens, tokens, spread.spelled, Token.ending]
        · simp [afterMark, newline, doubles, opens, octets_cons, spread.spelled, Token.afterMark,
            notNewline, notMark, notOpen]

/-- **The two readings agree.** The tokens of a text's octets are those of its lexemes. -/
theorem tokenize_octets (cs : List Char) :
    Token.tokenize (octets cs) = (read cs).flatMap tokens := by
  fun_induction read cs with
  | case1 => simp [octets_nil, Token.tokenize]
  | case2 rest ih =>
      obtain ⟨token, followers, spelled, absent, after⟩ := afterMark_octets rest
      calc
        Token.tokenize (octets ('%' :: rest)) = Token.tokenize (markByte :: octets rest) := rfl
        _ = token :: Token.tokenize (followers ++ octets (afterMark rest).2) := by
          rw [Token.tokenize, if_pos rfl, after]
        _ = (afterMark rest).1.tokens ++ Token.tokenize (octets (afterMark rest).2) := by
          rw [Token.tokenize_append_of_not_mem absent, spelled, List.cons_append]
        _ = ((afterMark rest).1 :: read (afterMark rest).2).flatMap tokens := by
          rw [ih, List.flatMap_cons]
  | case3 c rest plain ih =>
      have absent : markByte ∉ String.utf8EncodeChar c := by
        have alone : '%' ∉ [c] := fun member => plain (List.mem_singleton.mp member).symm
        have without := not_mem_octets (by decide) alone
        rwa [octets, List.flatMap_singleton] at without
      rw [octets_cons, Token.tokenize_append_of_not_mem absent, ih, List.flatMap_cons]
      rfl

end Lexeme

end QueryBind
