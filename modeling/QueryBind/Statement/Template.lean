import QueryBind.Error
import QueryBind.Placeholder.Token

/-! # Templates

Expansion puts literals at the slots of a template, one after the other, and turns two
marks into one. Any other mark is text. Literals are copied as they are.
-/

namespace QueryBind.Template

/-- How many slots and literals fail to match. -/
inductive Misfit where
  /-- A slot was reached when all literals were used. -/
  | tooFew
  /-- Literals were left over at the end; so many slots had been filled. -/
  | tooMany (filled : Nat)
  deriving DecidableEq, Repr

/-- The expansion of a template behind which `filled` slots lie. -/
def fill (filled : Nat) : Bytes → List Bytes → Except Misfit Bytes
  | b :: next :: rest, literals =>
    if b = markByte then
      if next = markByte then (fill filled rest literals).map (markByte :: ·)
      else if next = Format.auto.byte then
        match literals with
        | [] => .error .tooFew
        | literal :: others => (fill (filled + 1) rest others).map (literal ++ ·)
      else (fill filled (next :: rest) literals).map (b :: ·)
    else (fill filled (next :: rest) literals).map (b :: ·)
  | [b], literals => if literals = [] then .ok [b] else .error (.tooMany filled)
  | [], literals => if literals = [] then .ok [] else .error (.tooMany filled)

/-- The number of slots of a template. -/
def slotCount : Bytes → Nat
  | b :: next :: rest =>
    if b = markByte then
      if next = Format.auto.byte then slotCount rest + 1 else slotCount rest
    else slotCount (next :: rest)
  | _ => 0

/-- The template with the literals at its slots. -/
def expand (template : Bytes) (literals : List Bytes) : Except QueryError Bytes :=
  match fill 0 template literals with
  | .ok bytes => .ok bytes
  | .error .tooFew => .error (.paramCount (slotCount template) literals.length)
  | .error (.tooMany filled) => .error (.paramCount filled literals.length)

end QueryBind.Template
