/-
# Numerals

Natural numbers written in a base of at most sixteen, with a least width.  Letters are lower
case.  Decimal digits are recognised in every script, as the Unicode category `Nd` has them.
-/
import Keystore.Text.Blank

namespace Keystore
namespace Numeral

/-- The digits of `n` in `base`, filled with zeros on the left to at least `width` places. -/
def padded (base width n : Nat) : String :=
  let digits := Nat.toDigits base n
  String.ofList (List.replicate (width - digits.length) '0' ++ digits)

/-- The decimal digits of an integer, after a minus sign if it is negative. -/
def ofInt (n : Int) : String :=
  if n < 0 then "-" ++ padded 10 1 n.natAbs else padded 10 1 n.natAbs

/-- The most decimal digits that an integer may have where it is read or written. -/
def digitLimit : Nat := 4300

/-- Whether an integer can be written. -/
def isWritable (n : Int) : Bool := n.natAbs < Nat.pow 10 digitLimit

/-- The complaint about an integer with too many digits, and how many they are, if that is
known. -/
def limitMessage (count : Option Nat) : String :=
  "Exceeds the limit (" ++ padded 10 1 digitLimit ++ " digits) for integer string conversion" ++
    (match count with
      | some n => ": value has " ++ padded 10 1 n ++ " digits"
      | none => "") ++
    "; use sys.set_int_max_str_digits() to increase the limit"

/-- The value of an ASCII digit or letter in a base above ten; letters of either case. -/
def digit? (c : Char) : Option Nat :=
  if '0' ≤ c ∧ c ≤ '9' then some (c.toNat - '0'.toNat)
  else if 'a' ≤ c ∧ c ≤ 'f' then some (c.toNat - 'a'.toNat + 10)
  else if 'A' ≤ c ∧ c ≤ 'F' then some (c.toNat - 'A'.toNat + 10)
  else none

/-- The digit values of a text, if every character is a digit of `base` and there is one. -/
def digits? (base : Nat) (cs : List Char) : Option (List Nat) :=
  if cs.isEmpty then none
  else cs.mapM fun c => (digit? c).filter (· < base)

/-- Reads digits of `base`, the most significant first; `none` if one of them is no digit of
`base`, or if there are none. -/
def read? (base : Nat) (cs : List Char) : Option Nat :=
  (digits? base cs).map fun ds => ds.foldl (fun n d => n * base + d) 0

/-- Whether a character is one of the hexadecimal digits `0-9a-fA-F`. -/
def isHexDigit (c : Char) : Bool := (digit? c).isSome

/-- The zeros of the decimal digits of Unicode 14; nine more digits follow each of them. -/
def zeros : List Nat :=
  [0x30, 0x660, 0x6f0, 0x7c0, 0x966, 0x9e6, 0xa66, 0xae6, 0xb66, 0xbe6, 0xc66, 0xce6, 0xd66,
   0xde6, 0xe50, 0xed0, 0xf20, 0x1040, 0x1090, 0x17e0, 0x1810, 0x1946, 0x19d0, 0x1a80, 0x1a90,
   0x1b50, 0x1bb0, 0x1c40, 0x1c50, 0xa620, 0xa8d0, 0xa900, 0xa9d0, 0xa9f0, 0xaa50, 0xabf0,
   0xff10, 0x104a0, 0x10d30, 0x11066, 0x110f0, 0x11136, 0x111d0, 0x112f0, 0x11450, 0x114d0,
   0x11650, 0x116c0, 0x11730, 0x118e0, 0x11950, 0x11c50, 0x11d50, 0x11da0, 0x16a60, 0x16ac0,
   0x16b50, 0x1d7ce, 0x1d7d8, 0x1d7e2, 0x1d7ec, 0x1d7f6, 0x1e140, 0x1e2f0, 0x1e950, 0x1fbf0]

/-- Whether a character is a decimal digit of some script. -/
def isDecimalDigit (c : Char) : Bool :=
  zeros.any fun z => z ≤ c.toNat && c.toNat < z + 10

/-- A character, or the ASCII digit with its value if it is a decimal digit of some script. -/
def asciiDigit (c : Char) : Char :=
  match zeros.find? fun z => z ≤ c.toNat && c.toNat < z + 10 with
  | some z => Char.ofNat ('0'.toNat + (c.toNat - z))
  | none => c

/-- What may stand behind a zero to announce the digits of a base. -/
def isBaseSign (base : Nat) (c : Char) : Bool :=
  (base = 2 && (c = 'b' || c = 'B')) || (base = 8 && (c = 'o' || c = 'O')) ||
    (base = 16 && (c = 'x' || c = 'X'))

/-- The digits of a base that a text is, and whether a minus sign is in front of them: blanks
around them do not matter, and the sign of the base may announce them. -/
def signedDigits (base : Nat) (cs : List Char) : Bool × List Char :=
  let (negative, body) := match Blank.trim cs with
    | '-' :: rest => (true, rest)
    | '+' :: rest => (false, rest)
    | rest => (false, rest)
  let digits := match body with
    | '0' :: s :: rest => if isBaseSign base s then rest else body
    | _ => body
  (negative, digits.map asciiDigit)

example : padded 16 4 233 = "00e9" := by decide
example : read? 8 ['0', '1', '0'] = some 8 := by decide
example : isDecimalDigit '٣' = true := by decide
example : signedDigits 16 [' ', '-', '0', 'x', 'f'] = (true, ['f']) := by decide

end Numeral
end Keystore
