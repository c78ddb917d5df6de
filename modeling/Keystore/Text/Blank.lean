/-
# Blanks

The characters that may stand around a number, and texts without them at their two ends.
-/

namespace Keystore
namespace Blank

/-- Whether a character is a blank: a space, one of the control characters for tabs and the ends
of lines and pages, or a space of Unicode 14 outside of ASCII. -/
def isBlank (c : Char) : Bool :=
  let n := c.toNat
  (9 ≤ n && n ≤ 13) || n = 32 || n = 0x85 || n = 0xA0 || n = 0x1680 ||
    (0x2000 ≤ n && n ≤ 0x200A) || n = 0x2028 || n = 0x2029 || n = 0x202F || n = 0x205F ||
    n = 0x3000

/-- A text without the blanks at its two ends. -/
def trim (cs : List Char) : List Char :=
  ((cs.dropWhile isBlank).reverse.dropWhile isBlank).reverse

example : trim [' ', 'a', ' ', 'b', '\t'] = ['a', ' ', 'b'] := by decide

end Blank
end Keystore
