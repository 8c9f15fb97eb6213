/-!
# Blank characters

Blank characters are those with the Unicode property White_Space. Names, commands and
program words count as empty when they hold nothing else, conditions and placeholders
may be spaced with them, and captured output is trimmed of them.
-/

namespace JobMatrix.Text

/-- Membership in White_Space, a property of 25 characters. -/
def isBlank (c : Char) : Bool :=
  let n := c.toNat
  (0x09 ≤ n && n ≤ 0x0D) || n == 0x20 || n == 0x85 || n == 0xA0 || n == 0x1680
    || (0x2000 ≤ n && n ≤ 0x200A) || n == 0x2028 || n == 0x2029 || n == 0x202F
    || n == 0x205F || n == 0x3000

/-- Nothing but blank characters, or nothing at all. -/
def isBlankText (s : String) : Bool :=
  s.toList.all isBlank

/-- The text without the blank characters at its end. -/
def trimEnd (cs : List Char) : List Char :=
  (cs.reverse.dropWhile isBlank).reverse

end JobMatrix.Text
