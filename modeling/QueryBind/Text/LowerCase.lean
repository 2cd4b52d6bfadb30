import QueryBind.Text.LowerCase.Table

/-! # Lower case

The lower-case form of a text, by the full mapping: a capital I with a dot becomes two
characters, and a capital sigma takes its final form at the end of a word.
-/

namespace QueryBind.Text

namespace LowerCase

/-- Whether a number lies in one of the ranges. -/
def within (ranges : List (Nat × Nat)) (n : Nat) : Bool :=
  ranges.any fun range => range.1 ≤ n && n ≤ range.2

/-- Whether a run maps the character with this number. -/
def Run.covers (run : Run) (n : Nat) : Bool :=
  run.first ≤ n && n ≤ run.last && (n - run.first) % run.stride == 0

/-- The simple mapping of a single character. -/
def simple (c : Char) : Char :=
  match mappings.find? (·.covers c.toNat) with
  | some run => Char.ofNat (c.toNat + run.shift).toNat
  | none => c

/-- Whether the nearest character that is not case-ignorable is a cased letter. -/
def reachesCased (cs : List Char) : Bool :=
  match cs.dropWhile (within ignorable ·.toNat) with
  | [] => false
  | c :: _ => within cased c.toNat

/-- Lower case of the characters after `before`, which holds the ones already passed,
nearest first. -/
def mapFrom (before : List Char) : List Char → List Char
  | [] => []
  | c :: rest =>
    let lowered :=
      if c.toNat = 0x130 then [Char.ofNat 0x69, Char.ofNat 0x307]
      else if c.toNat = 0x3A3 then
        if reachesCased before && !reachesCased rest then [Char.ofNat 0x3C2]
        else [Char.ofNat 0x3C3]
      else if c.toNat < 0x80 then [c.toLower]
      else [simple c]
    lowered ++ mapFrom (c :: before) rest

end LowerCase

/-- The lower-case form of a text. -/
def lowerCase (text : String) : String :=
  String.ofList (LowerCase.mapFrom [] text.toList)

end QueryBind.Text
