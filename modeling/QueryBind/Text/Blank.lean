/-! # Blank characters

The characters removed at both ends of a name or a number: the ASCII blanks, the
no-break spaces, the space separators, the line and paragraph separators and the byte
order mark.
-/

namespace QueryBind.Text

/-- Blank characters. The next-line control U+0085 is not one of them. -/
def isBlank (c : Char) : Bool :=
  let n := c.toNat
  (0x09 ≤ n && n ≤ 0x0D) || n == 0x20 || n == 0xA0 || n == 0x1680 ||
    (0x2000 ≤ n && n ≤ 0x200A) || n == 0x2028 || n == 0x2029 || n == 0x202F ||
    n == 0x205F || n == 0x3000 || n == 0xFEFF

/-- Drops blanks at both ends of a character list. -/
def trimChars (cs : List Char) : List Char :=
  ((cs.dropWhile isBlank).reverse.dropWhile isBlank).reverse

/-- Drops blanks at both ends of a text. -/
def trim (text : String) : String :=
  String.ofList (trimChars text.toList)

end QueryBind.Text
