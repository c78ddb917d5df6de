/-
# The fewest digits that read back

Every binary64 number stands for an interval of reals: those that are rounded to it.  Its
written form is the decimal with the fewest digits in that interval, and of two such decimals
the one that is nearer to the number, or the even one if both are equally near.  Everything is
computed exactly, in natural numbers.
-/
import Keystore.Decimal.Binary

namespace Keystore
namespace Decimal

/-- The decimal number `digits * 10 ^ exponent`. -/
structure Dec where
  /-- The digits as a natural number. -/
  digits : Nat
  /-- The power of ten behind them. -/
  exponent : Int
deriving DecidableEq, Repr

/-- Compares a decimal with `n * 2 ^ j`. -/
def compareTo (d : Dec) (n : Nat) (j : Int) : Ordering :=
  compare (d.digits * Nat.pow 10 d.exponent.toNat * Nat.pow 2 (-j).toNat)
    (n * Nat.pow 2 j.toNat * Nat.pow 10 (-d.exponent).toNat)

/-- Whether a decimal lies among the reals that are rounded to `m * 2 ^ q`.  The interval goes
half way to both neighbours; the lower neighbour of a power of two is only half as far away.
The ends belong to it exactly if `m` is even. -/
def readsBack (m : Nat) (q : Int) (d : Dec) : Bool :=
  let below := if m = 0x10000000000000 ∧ q > Binary.leastExponent then 4 * m - 1 else 4 * m - 2
  let lower := compareTo d below (q - 2)
  let upper := compareTo d (4 * m + 2) (q - 2)
  let ends := m % 2 = 0
  (lower = .gt || (ends && lower = .eq)) && (upper = .lt || (ends && upper = .eq))

/-- The least `k` with `m * 2 ^ q < 10 ^ k`, for positive `m`: the binary logarithm says nearly
which, and the next few are tried. -/
def scale (m : Nat) (q : Int) : Int :=
  let guess := Int.fdiv ((m.log2 + q) * 30103) 100000
  match [guess - 1, guess, guess + 1, guess + 2].find? fun k => compareTo ⟨1, k⟩ m q = .gt with
  | some k => k
  | none => guess + 3

/-- The greatest multiple of `10 ^ grid` that is at most `m * 2 ^ q`. -/
def floorOn (grid : Int) (m : Nat) (q : Int) : Dec :=
  ⟨m * Nat.pow 2 q.toNat * Nat.pow 10 (-grid).toNat /
    (Nat.pow 2 (-q).toNat * Nat.pow 10 grid.toNat), grid⟩

/-- Of the two neighbours of `m * 2 ^ q` among the multiples of `10 ^ grid`, the one to write,
if one of them reads back. -/
def onGrid? (m : Nat) (q : Int) (grid : Int) : Option Dec :=
  let low := floorOn grid m q
  let high : Dec := ⟨low.digits + 1, grid⟩
  match readsBack m q low, readsBack m q high with
  | false, false => none
  | true, false => some low
  | false, true => some high
  | true, true =>
    -- twice the number against the sum of the two neighbours
    match compareTo ⟨2 * low.digits + 1, grid⟩ (2 * m) q with
    | .gt => some low
    | .lt => some high
    | .eq => if low.digits % 2 = 0 then some low else some high

/-- Moves zeros at the end of the digits into the exponent, at most `fuel` of them. -/
def stripZeros : Nat → Dec → Dec
  | 0, d => d
  | fuel + 1, d =>
    if d.digits ≠ 0 ∧ d.digits % 10 = 0 then stripZeros fuel ⟨d.digits / 10, d.exponent + 1⟩
    else d

/-- The exact decimal value of `m * 2 ^ q`. -/
def expansion (m : Nat) (q : Int) : Dec :=
  if 0 ≤ q then ⟨m * Nat.pow 2 q.toNat, 0⟩ else ⟨m * Nat.pow 5 (-q).toNat, q⟩

/-- The decimal with the fewest digits that reads back as `m * 2 ^ q`, for positive `m`. -/
def shortest (m : Nat) (q : Int) : Dec :=
  let k := scale m q
  let found := (List.range 17).findSome? fun (n : Nat) => onGrid? m q (k - Int.ofNat (n + 1))
  let d := found.getD (expansion m q)
  stripZeros (Nat.toDigits 10 d.digits).length d

/-! ## Layout -/

/-- The decimal exponents of the leading digit for which a number is written without one. -/
def isPlain (e : Int) : Bool := -4 ≤ e && e < 16

/-- A positive decimal as text.  A number without exponent keeps a digit behind the point; an
exponent has a sign and at least two digits. -/
def layout (d : Dec) : String :=
  let ds := Nat.toDigits 10 d.digits
  let lead : Int := ds.length + d.exponent - 1
  let zeros (n : Nat) : List Char := List.replicate n '0'
  if isPlain lead then
    if 0 ≤ d.exponent then String.ofList (ds ++ zeros d.exponent.toNat ++ ['.', '0'])
    else if 0 ≤ lead then
      String.ofList (ds.take (lead.toNat + 1) ++ '.' :: ds.drop (lead.toNat + 1))
    else String.ofList (['0', '.'] ++ zeros (-lead - 1).toNat ++ ds)
  else
    let tail := if ds.length ≤ 1 then [] else '.' :: ds.drop 1
    String.ofList (ds.take 1 ++ tail) ++ "e" ++ (if lead < 0 then "-" else "+") ++
      Numeral.padded 10 2 lead.natAbs

/-- The text of a binary64 number. -/
def render : Binary → String
  | .nan => "nan"
  | .infinite negative => if negative then "-inf" else "inf"
  | .finite negative m q =>
    (if negative then "-" else "") ++ if m = 0 then "0.0" else layout (shortest m q)

/-! ## Reading -/

/-- The longest run of decimal digits in front, and the rest. -/
def digitRun (cs : List Char) : List Char × List Char :=
  (cs.takeWhile Char.isDigit, cs.dropWhile Char.isDigit)

/-- An exponent part that takes up the whole text; no text at all is the exponent zero. -/
def exponent? : List Char → Option Int
  | [] => some 0
  | c :: cs =>
    if c = 'e' ∨ c = 'E' then
      match cs with
      | '-' :: ds => (Numeral.read? 10 ds).map fun n => -(n : Int)
      | '+' :: ds => (Numeral.read? 10 ds).map Int.ofNat
      | ds => (Numeral.read? 10 ds).map Int.ofNat
    else none

/-- A number without sign: digits with or without a point, then an exponent or none. -/
def magnitude? (cs : List Char) : Option (Nat × Int) :=
  let (whole, rest) := digitRun cs
  let (fraction, rest) := match rest with
    | '.' :: after => digitRun after
    | _ => ([], rest)
  match Numeral.read? 10 (whole ++ fraction), exponent? rest with
  | some m, some e => some (m, e - fraction.length)
  | _, _ => none

/-- Reads a number: an optional sign before digits, or before a word for an infinity or for
what is no number. -/
def read? (cs : List Char) : Option Float :=
  let (negative, cs) := match cs with
    | '-' :: rest => (true, rest)
    | '+' :: rest => (false, rest)
    | _ => (false, cs)
  let word := String.ofList (cs.map Char.toLower)
  let magnitude : Option Float :=
    if word = "nan" then some (0.0 / 0.0)
    else if word = "inf" ∨ word = "infinity" then some (1.0 / 0.0)
    else (magnitude? cs).map fun (m, e) => Binary.nearest m e
  magnitude.map fun x => if negative then -x else x

example : render (.ofFloat 0.1) = "0.1" := by decide +kernel
example : render (.ofFloat (0.1 + 0.2)) = "0.30000000000000004" := by decide +kernel
example : render (.ofFloat 1e16) = "1e+16" ∧ render (.ofFloat 1e-7) = "1e-07" := by decide +kernel
example : (read? ['1', '.', '5', 'e', '+', '3']).map (render ∘ .ofFloat) = some "1500.0" := by
  decide +kernel

end Decimal
end Keystore
