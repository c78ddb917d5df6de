/-
Numerals with a least width.

The last digit of a numeral stands for the remainder, and the digits in front of it are the
numeral of the quotient (`toList_padded_succ`); to fill it up with zeros does not change this.  So
a number below 16^4 is written with four hexadecimal digits, and these read back as the number.
-/
import Mathlib.Data.List.Basic
import Keystore.Text.Numeral

namespace Keystore
namespace Numeral

variable {base width n : Nat}

lemma toList_padded (base width n : Nat) :
    (padded base width n).toList =
      List.replicate (width - (Nat.toDigits base n).length) '0' ++ Nat.toDigits base n :=
  String.toList_ofList

lemma toList_padded_one (h : n < base) : (padded base 1 n).toList = [Nat.digitChar n] := by
  rw [toList_padded, Nat.toDigits_of_lt_base h]
  rfl

/-- The last digit is that of the remainder. -/
lemma toList_padded_succ (hbase : 1 < base) (hwidth : 0 < width) (n : Nat) :
    (padded base (width + 1) n).toList
      = (padded base width (n / base)).toList ++ [Nat.digitChar (n % base)] := by
  rw [toList_padded, toList_padded]
  by_cases h : n < base
  · -- The quotient is zero, and its digit is one of the zeros that fill the numeral up.
    obtain ⟨zeros, rfl⟩ : ∃ zeros, width = zeros + 1 := ⟨width - 1, by omega⟩
    rw [Nat.toDigits_of_lt_base h, Nat.div_eq_of_lt h, Nat.mod_eq_of_lt h, Nat.toDigits_zero]
    simp [List.replicate_succ']
  · rw [Nat.toDigits_of_base_le hbase (by omega), List.length_append, List.length_singleton,
      Nat.add_sub_add_right, List.append_assoc]

/-- The digits are those of the base. -/
lemma digit?_digitChar (h : n < 16) :
    (digit? (Nat.digitChar n)).filter (· < 16) = some n := by
  revert h
  revert n
  decide

lemma toNat_digitChar_lt (n : Nat) : (Nat.digitChar n).toNat < 128 := by
  by_cases h : n < 16
  · revert h
    revert n
    decide
  · have hstar : Nat.digitChar n = '*' := by
      unfold Nat.digitChar
      repeat rw [if_neg (by omega)]
    rw [hstar]
    decide

/-- The four hexadecimal digits of a number. -/
lemma toList_padded_four (h : n < 0x10000) :
    (padded 16 4 n).toList = [Nat.digitChar (n / 16 / 16 / 16), Nat.digitChar (n / 16 / 16 % 16),
      Nat.digitChar (n / 16 % 16), Nat.digitChar (n % 16)] := by
  rw [toList_padded_succ (by omega) (by omega), toList_padded_succ (by omega) (by omega),
    toList_padded_succ (by omega) (by omega), toList_padded_one (by omega)]
  rfl

/-- They read back as the number. -/
lemma read?_padded_four (h : n < 0x10000) : read? 16 (padded 16 4 n).toList = some n := by
  have hfirst : n / 16 / 16 / 16 < 16 := by omega
  rw [toList_padded_four h, read?, digits?, List.isEmpty_cons, if_neg Bool.false_ne_true]
  simp only [List.mapM_cons, List.mapM_nil, digit?_digitChar hfirst,
    digit?_digitChar (Nat.mod_lt _ (by omega : 0 < 16))]
  change some _ = some n
  simp only [List.foldl_cons, List.foldl_nil, Option.some.injEq]
  omega

end Numeral
end Keystore
