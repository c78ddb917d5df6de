/-
# Binary64 numbers

A number of the binary64 format, taken apart: not a number, an infinity, or a sign with a
natural number times a power of two.  Two numbers are the same number exactly when they are the
same integer multiple of the least positive one, which is how numbers of all kinds are compared.
-/
import Keystore.Text.Numeral

namespace Keystore

/-- A binary64 number. -/
inductive Binary where
  | nan
  | infinite (negative : Bool)
  /-- The number `m * 2 ^ q`, or its negative. -/
  | finite (negative : Bool) (m : Nat) (q : Int)
deriving DecidableEq, Repr

namespace Binary

/-- The exponent of the least positive number. -/
def leastExponent : Int := -1074

/-- The number that the bits of the format stand for. -/
def ofBits (bits : UInt64) : Binary :=
  let negative := bits >>> 63 != 0
  let exponent := ((bits >>> 52) &&& 0x7FF).toNat
  let fraction := (bits &&& 0xFFFFFFFFFFFFF).toNat
  if exponent = 0x7FF then
    if fraction = 0 then infinite negative else nan
  else if exponent = 0 then finite negative fraction leastExponent
  else finite negative (0x10000000000000 + fraction) (leastExponent + (exponent - 1 : Int))

/-- A floating-point value taken apart. -/
def ofFloat (x : Float) : Binary := ofBits x.toBits

/-- The floating-point value nearest to `m * 10 ^ e`.  Beyond the range of the format there is
nothing to round, so such exponents are not computed with. -/
def nearest (m : Nat) (e : Int) : Float :=
  let magnitude : Int := (Nat.toDigits 10 m).length + e
  if m = 0 ∨ magnitude < -400 then 0.0
  else if magnitude > 400 then 1.0 / 0.0
  else Float.ofScientific m (e < 0) e.natAbs

/-- Whether the number is a zero of either sign. -/
def isZero : Binary → Bool
  | finite _ m _ => m = 0
  | _ => false

/-- An integer, counted in the least positive number. -/
def unitsOfInt (n : Int) : Int := n * Int.ofNat (Nat.pow 2 (-leastExponent).toNat)

/-- A finite number, counted in the least positive number. -/
def unitsOf (negative : Bool) (m : Nat) (q : Int) : Int :=
  (if negative then -1 else 1) * Int.ofNat (m * Nat.pow 2 (q - leastExponent).toNat)

example : ofFloat 1.5 = finite false (3 * 2 ^ 51) (-52) := by decide +kernel
example : ofFloat (nearest 1 400) = infinite false := by decide +kernel

end Binary
end Keystore
