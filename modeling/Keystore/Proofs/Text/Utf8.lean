/-
Bytes that are text.

Reading bytes as text undoes writing text as bytes, and accepts nothing else
(`decode_eq_ok_iff`).  A character of more than seven bits is written as a first byte, which
says how many bytes follow, and as groups of six bits.  Between two of these bytes the
reader knows the bits so far, the number of bytes that are still to come, and the range of
the next one.  A code *continues* this state if its bits so far are these and its next group is
in the range; the reader then goes through the groups of the code and ends with its character.
-/
import Mathlib.Algebra.Ring.Nat
import Keystore.Text.Utf8

namespace Keystore
namespace Utf8

/-- Characters as bytes. -/
def encode (text : List Char) : List UInt8 := text.flatMap String.utf8EncodeChar

/-- The last `n` groups of six bits of a code, as the bytes that follow a first byte. -/
def groups (code : ℕ) : ℕ → List UInt8
  | 0 => []
  | n + 1 => UInt8.ofNat (code / 64 ^ n % 64 + 128) :: groups code n

/-- The bits so far are those of the code, and its next group is in the range. -/
structure Partial.Continues (p : Partial) (code : ℕ) : Prop where
  bits : code / 64 ^ (p.after + 1) = p.code
  low : p.low.toNat ≤ code / 64 ^ p.after % 64 + 128
  high : code / 64 ^ p.after % 64 + 128 ≤ p.high.toNat

lemma continues_iff {p : Partial} {code : ℕ} :
    p.Continues code ↔ code / 64 ^ (p.after + 1) = p.code ∧
      p.low.toNat ≤ code / 64 ^ p.after % 64 + 128 ∧
      code / 64 ^ p.after % 64 + 128 ≤ p.high.toNat :=
  ⟨fun h => ⟨h.bits, h.low, h.high⟩, fun h => ⟨h.1, h.2.1, h.2.2⟩⟩

/-- The next byte is one that can only follow a first byte. -/
structure Partial.Bounded (p : Partial) : Prop where
  low : 128 ≤ p.low.toNat
  high : p.high.toNat ≤ 191

/-! ## The groups of a code -/

lemma toNat_group (code n : ℕ) :
    (UInt8.ofNat (code / 64 ^ n % 64 + 128)).toNat = code / 64 ^ n % 64 + 128 := by
  rw [UInt8.toNat_ofNat']
  omega

/-- A byte in the range of all bytes that follow a first byte is a group. -/
lemma eq_group {code n : ℕ} {b : UInt8} (hlow : 128 ≤ b.toNat) (hhigh : b.toNat ≤ 191)
    (h : code / 64 ^ n % 64 = b.toNat % 64) : UInt8.ofNat (code / 64 ^ n % 64 + 128) = b := by
  apply UInt8.toNat_inj.1
  rw [toNat_group]
  omega

lemma div_eq_div_succ (code n : ℕ) :
    code / 64 ^ n = code / 64 ^ (n + 1) * 64 + code / 64 ^ n % 64 := by
  rw [Nat.pow_succ, ← Nat.div_div_eq_div_mul]
  omega

/-! ## Inside a character -/

section Inside

variable {p : Partial} {position n : ℕ} {b : UInt8} {rest : List UInt8}

lemma read_last (hafter : p.after = 0) (hlow : p.low.toNat ≤ b.toNat)
    (hhigh : b.toNat ≤ p.high.toNat) :
    read position (some p) (b :: rest)
      = (read (position + 1) none rest).map (Char.ofNat (p.code * 64 + b.toNat % 64) :: ·) := by
  rw [read, if_pos ⟨UInt8.le_iff_toNat_le.2 hlow, UInt8.le_iff_toNat_le.2 hhigh⟩]
  simp only [hafter]

/-- The state after a byte that is not the last one of its character. -/
def Partial.next (p : Partial) (b : UInt8) (n : ℕ) : Partial :=
  ⟨p.lead, p.size + 1, p.code * 64 + b.toNat % 64, n, 0x80, 0xBF⟩

lemma Partial.bounded_next : (p.next b n).Bounded := ⟨Nat.le_refl _, Nat.le_refl _⟩

lemma read_more (hafter : p.after = n + 1) (hlow : p.low.toNat ≤ b.toNat)
    (hhigh : b.toNat ≤ p.high.toNat) :
    read position (some p) (b :: rest) = read (position + 1) (some (p.next b n)) rest := by
  rw [read, if_pos ⟨UInt8.le_iff_toNat_le.2 hlow, UInt8.le_iff_toNat_le.2 hhigh⟩]
  simp only [hafter]
  rfl

/-- Only a byte in the range goes on. -/
lemma range_of_read {text : List Char} (h : read position (some p) (b :: rest) = .ok text) :
    p.low.toNat ≤ b.toNat ∧ b.toNat ≤ p.high.toNat := by
  rw [read] at h
  split at h
  · next hb => exact ⟨UInt8.le_iff_toNat_le.1 hb.1, UInt8.le_iff_toNat_le.1 hb.2⟩
  · cases h

/-- With the groups of a code that continues it, a character is read to its end. -/
lemma read_groups {code : ℕ} (h : p.Continues code) (position : ℕ) (rest : List UInt8) :
    read position (some p) (groups code (p.after + 1) ++ rest)
      = (read (position + p.after + 1) none rest).map (Char.ofNat code :: ·) := by
  obtain ⟨n, hafter⟩ : ∃ n, p.after = n := ⟨_, rfl⟩
  induction n generalizing p position with
  | zero =>
    have hlow := h.low
    have hhigh := h.high
    have hbits := h.bits
    rw [hafter] at hlow hhigh hbits ⊢
    rw [← toNat_group] at hlow hhigh
    have hcode : p.code * 64 + (code / 64 ^ 0 % 64 + 128) % 64 = code := by
      rw [← hbits, Nat.zero_add, Nat.pow_one, Nat.pow_zero, Nat.div_one]
      omega
    rw [groups, List.cons_append, read_last hafter hlow hhigh, toNat_group, hcode]
    rfl
  | succ n ih =>
    have hlow := h.low
    have hhigh := h.high
    have hbits := h.bits
    have hcode := div_eq_div_succ code (n + 1)
    rw [hafter] at hlow hhigh hbits ⊢
    rw [← toNat_group] at hlow hhigh
    have hnext : (p.next (UInt8.ofNat (code / 64 ^ (n + 1) % 64 + 128)) n).Continues code := by
      refine ⟨?_, Nat.le_add_left 128 _, ?_⟩
      · change code / 64 ^ (n + 1) = p.code * 64 + _ % 64
        rw [toNat_group, ← hbits]
        omega
      · change code / 64 ^ n % 64 + 128 ≤ 191
        omega
    rw [groups, List.cons_append, read_more hafter hlow hhigh]
    refine (ih hnext (position + 1) rfl).trans ?_
    change (read (position + 1 + n + 1) none rest).map _ = _
    rw [show position + 1 + n + 1 = position + (n + 1) + 1 by omega]

/-- What is read to the end of a character are the groups of a code. -/
lemma exists_groups (hp : p.Bounded) {bytes : List UInt8} {text : List Char}
    (h : read position (some p) bytes = .ok text) :
    ∃ code rest text', p.Continues code ∧ bytes = groups code (p.after + 1) ++ rest ∧
      read (position + p.after + 1) none rest = .ok text' ∧ text = Char.ofNat code :: text' := by
  obtain ⟨n, hafter⟩ : ∃ n, p.after = n := ⟨_, rfl⟩
  rcases bytes with _ | ⟨b, rest⟩
  · cases h
  induction n generalizing p position b rest with
  | zero =>
    obtain ⟨hlow, hhigh⟩ := range_of_read h
    have hb : 128 ≤ b.toNat := Nat.le_trans hp.low hlow
    have hb' : b.toNat ≤ 191 := Nat.le_trans hhigh hp.high
    rw [read_last hafter hlow hhigh] at h
    rcases hrest : read (position + 1) none rest with fault | text' <;> rw [hrest] at h <;> cases h
    have hgroup : (p.code * 64 + b.toNat % 64) / 64 ^ 0 % 64 = b.toNat % 64 := by
      rw [Nat.pow_zero, Nat.div_one]
      omega
    refine ⟨p.code * 64 + b.toNat % 64, rest, text', ⟨?_, ?_, ?_⟩, ?_, ?_, rfl⟩ <;> rw [hafter]
    · rw [Nat.zero_add, Nat.pow_one]
      omega
    · omega
    · omega
    · rw [groups, groups, eq_group hb hb' hgroup]
      rfl
    · exact hrest
  | succ n ih =>
    obtain ⟨hlow, hhigh⟩ := range_of_read h
    have hb : 128 ≤ b.toNat := Nat.le_trans hp.low hlow
    have hb' : b.toNat ≤ 191 := Nat.le_trans hhigh hp.high
    rw [read_more hafter hlow hhigh] at h
    rcases rest with _ | ⟨b', rest⟩
    · cases h
    obtain ⟨code, rest', text', hcode, hbytes, hread, rfl⟩ := ih Partial.bounded_next rfl _ _ h
    -- The bits so far end with the group that was read.
    have hbits : code / 64 ^ (n + 1) = p.code * 64 + b.toNat % 64 := hcode.bits
    have hdiv := div_eq_div_succ code (n + 1)
    refine ⟨code, rest', text', ⟨?_, ?_, ?_⟩, ?_, ?_, rfl⟩ <;> rw [hafter]
    · omega
    · omega
    · omega
    · rw [groups, eq_group hb hb' (by omega), hbytes]
      rfl
    · rw [show position + (n + 1) + 1 = position + 1 + n + 1 by omega]
      exact hread

end Inside

/-! ## The first byte of a character -/

/-- What a first byte starts, by its value: a character of two, three or four bytes, with a
narrower range for the second one behind the first and the last of some of them. -/
inductive Starts (b : UInt8) : Partial → Prop where
  | two (h : 194 ≤ b.toNat) (h' : b.toNat < 224) : Starts b ⟨b, 1, b.toNat % 32, 0, 0x80, 0xBF⟩
  | threeLow (h : b.toNat = 224) : Starts b ⟨b, 1, b.toNat % 16, 1, 0xA0, 0xBF⟩
  | three (h : 225 ≤ b.toNat) (h' : b.toNat < 240) (hne : b.toNat ≠ 237) :
    Starts b ⟨b, 1, b.toNat % 16, 1, 0x80, 0xBF⟩
  | threeHigh (h : b.toNat = 237) : Starts b ⟨b, 1, b.toNat % 16, 1, 0x80, 0x9F⟩
  | fourLow (h : b.toNat = 240) : Starts b ⟨b, 1, b.toNat % 8, 2, 0x90, 0xBF⟩
  | four (h : 241 ≤ b.toNat) (h' : b.toNat < 244) : Starts b ⟨b, 1, b.toNat % 8, 2, 0x80, 0xBF⟩
  | fourHigh (h : b.toNat = 244) : Starts b ⟨b, 1, b.toNat % 8, 2, 0x80, 0x8F⟩

lemma begin?_eq_some_iff {b : UInt8} {p : Partial} : begin? b = some p ↔ Starts b p := by
  simp only [begin?, UInt8.lt_iff_toNat_lt, ← UInt8.toNat_inj, UInt8.reduceToNat]
  constructor
  · intro h
    split_ifs at h <;> cases h
    · exact .two (by omega) (by omega)
    · exact .threeLow (by omega)
    · exact .threeHigh (by omega)
    · exact .three (by omega) (by omega) (by omega)
    · exact .fourLow (by omega)
    · exact .four (by omega) (by omega)
    · exact .fourHigh (by omega)
  · intro h
    cases h with
    | two h h' => rw [if_neg (by omega), if_pos (by omega)]
    | threeLow h => rw [if_neg (by omega), if_neg (by omega), if_pos h]
    | threeHigh h => rw [if_neg (by omega), if_neg (by omega), if_neg (by omega), if_pos h]
    | three h h' hne =>
      rw [if_neg (by omega), if_neg (by omega), if_neg (by omega), if_neg (by omega), if_pos h']
    | fourLow h =>
      rw [if_neg (by omega), if_neg (by omega), if_neg (by omega), if_neg (by omega),
        if_neg (by omega), if_pos h]
    | four h h' =>
      rw [if_neg (by omega), if_neg (by omega), if_neg (by omega), if_neg (by omega),
        if_neg (by omega), if_neg (by omega), if_pos h']
    | fourHigh h =>
      rw [if_neg (by omega), if_neg (by omega), if_neg (by omega), if_neg (by omega),
        if_neg (by omega), if_neg (by omega), if_neg (by omega), if_pos h]

lemma Starts.bounded {b : UInt8} {p : Partial} (h : Starts b p) : p.Bounded := by
  cases h <;> exact ⟨by simp, by simp⟩

/-- The number of bytes that follow the first byte of a character. -/
def following (code : ℕ) : ℕ :=
  if code < 128 then 0 else if code < 2048 then 1 else if code < 65536 then 2 else 3

/-- The first byte of a character that `n` bytes follow, without the bits of the code. -/
def leadBase : ℕ → ℕ
  | 0 => 0
  | 1 => 192
  | 2 => 224
  | _ => 240

/-- The first byte of a character. -/
def lead (code : ℕ) : UInt8 := UInt8.ofNat (code / 64 ^ following code + leadBase (following code))

lemma following_eq_iff {code n : ℕ} :
    following code = n ↔ n = 0 ∧ code < 128 ∨ n = 1 ∧ 128 ≤ code ∧ code < 2048 ∨
      n = 2 ∧ 2048 ≤ code ∧ code < 65536 ∨ n = 3 ∧ 65536 ≤ code := by
  unfold following
  split_ifs <;> omega

lemma le_leadBase (n : ℕ) : 192 ≤ leadBase (n + 1) := by
  rcases n with _ | _ | n
  · decide
  · decide
  · exact Nat.le_of_ble_eq_true rfl

lemma toNat_of_valid {code : ℕ} (h : code.isValidChar) : (Char.ofNat code).toNat = code := by
  rw [Char.ofNat, dif_pos h]
  rfl

lemma valid_toNat (c : Char) : c.toNat.isValidChar := c.valid

lemma lt_of_valid {code : ℕ} (h : code.isValidChar) : code < 1114112 := by
  rcases h with h | ⟨-, h⟩ <;> omega

lemma encodeChar_eq (c : Char) :
    String.utf8EncodeChar c = lead c.toNat :: groups c.toNat (following c.toNat) := by
  have hc : c.val.toNat = c.toNat := rfl
  have hlt := lt_of_valid (valid_toNat c)
  simp only [String.utf8EncodeChar, hc]
  split_ifs with h1 h2 h3
  · have hn : following c.toNat = 0 := following_eq_iff.2 (by omega)
    simp [hn, lead, groups, leadBase]
  · have hn : following c.toNat = 1 := following_eq_iff.2 (by omega)
    have hlead : c.toNat / 64 % 32 = c.toNat / 64 := by omega
    simp [hn, lead, groups, leadBase, hlead]
  · have hn : following c.toNat = 2 := following_eq_iff.2 (by omega)
    have hlead : c.toNat / 4096 % 16 = c.toNat / 4096 := by omega
    simp [hn, lead, groups, leadBase, hlead]
  · have hn : following c.toNat = 3 := following_eq_iff.2 (by omega)
    have hlead : c.toNat / 262144 % 8 = c.toNat / 262144 := by omega
    simp [hn, lead, groups, leadBase, hlead]

lemma toNat_lead {code : ℕ} (hvalid : code.isValidChar) (h : 128 ≤ code) :
    (lead code).toNat = code / 64 ^ following code + leadBase (following code) := by
  have hlt := lt_of_valid hvalid
  rw [lead, UInt8.toNat_ofNat']
  unfold following
  split_ifs <;> simp only [leadBase, Nat.reducePow] <;> omega

/-- The first byte of a character starts what its code continues. -/
lemma exists_begin {code : ℕ} (hvalid : code.isValidChar) (h : 128 ≤ code) :
    ∃ p, begin? (lead code) = some p ∧ p.Continues code ∧ p.after + 1 = following code := by
  have hlt := lt_of_valid hvalid
  have hlead := toNat_lead hvalid h
  unfold Nat.isValidChar at hvalid
  simp only [begin?_eq_some_iff]
  generalize lead code = b at hlead ⊢
  obtain ⟨-, hcode⟩ | ⟨hn, hcode⟩ | ⟨hn, hcode⟩ | ⟨hn, hcode⟩ :=
    following_eq_iff.1 (Eq.refl (following code))
  · omega
  all_goals
    rw [hn] at hlead ⊢
    simp only [leadBase, Nat.reducePow] at hlead
  · refine ⟨_, .two (by omega) (by omega), ?_, rfl⟩
    simp only [continues_iff, Nat.reduceAdd, Nat.reducePow, UInt8.reduceToNat]
    omega
  · obtain hb | hb | hb : b.toNat = 224 ∨ b.toNat = 237 ∨ b.toNat ≠ 224 ∧ b.toNat ≠ 237 := by omega
    · refine ⟨_, .threeLow hb, ?_, rfl⟩
      simp only [continues_iff, Nat.reduceAdd, Nat.reducePow, UInt8.reduceToNat]
      omega
    · refine ⟨_, .threeHigh hb, ?_, rfl⟩
      simp only [continues_iff, Nat.reduceAdd, Nat.reducePow, UInt8.reduceToNat]
      omega
    · refine ⟨_, .three (by omega) (by omega) hb.2, ?_, rfl⟩
      simp only [continues_iff, Nat.reduceAdd, Nat.reducePow, UInt8.reduceToNat]
      omega
  · obtain hb | hb | hb : b.toNat = 240 ∨ b.toNat = 244 ∨ b.toNat ≠ 240 ∧ b.toNat ≠ 244 := by omega
    · refine ⟨_, .fourLow hb, ?_, rfl⟩
      simp only [continues_iff, Nat.reduceAdd, Nat.reducePow, UInt8.reduceToNat]
      omega
    · refine ⟨_, .fourHigh hb, ?_, rfl⟩
      simp only [continues_iff, Nat.reduceAdd, Nat.reducePow, UInt8.reduceToNat]
      omega
    · refine ⟨_, .four (by omega) (by omega), ?_, rfl⟩
      simp only [continues_iff, Nat.reduceAdd, Nat.reducePow, UInt8.reduceToNat]
      omega

/-- A code that continues what a first byte starts is that of a character, and the byte is the
first one of this character. -/
lemma Starts.lead_eq {b : UInt8} {p : Partial} {code : ℕ} (hb : Starts b p) (h : p.Continues code) :
    code.isValidChar ∧ following code = p.after + 1 ∧ lead code = b := by
  have hlead : code.isValidChar ∧ following code = p.after + 1 ∧
      code / 64 ^ (p.after + 1) + leadBase (p.after + 1) = b.toNat := by
    rw [continues_iff] at h
    cases hb <;>
      simp only [Nat.reduceAdd, Nat.reducePow, UInt8.reduceToNat, leadBase] at h ⊢ <;>
      exact ⟨by unfold Nat.isValidChar; omega, following_eq_iff.2 (by omega), by omega⟩
  refine ⟨hlead.1, hlead.2.1, ?_⟩
  rw [lead, hlead.2.1, hlead.2.2, UInt8.ofNat_toNat]

/-! ## Texts -/

lemma encodeChar_of_lt {c : Char} (h : c.toNat < 128) :
    String.utf8EncodeChar c = [UInt8.ofNat c.toNat] := by
  have hn : following c.toNat = 0 := following_eq_iff.2 (by omega)
  rw [encodeChar_eq, lead, hn, Nat.pow_zero, Nat.div_one]
  rfl

lemma read_of_lt {position : ℕ} {b : UInt8} (h : b.toNat < 128) (rest : List UInt8) :
    read position none (b :: rest)
      = (read (position + 1) none rest).map (Char.ofNat b.toNat :: ·) := by
  rw [read, if_pos (UInt8.lt_iff_toNat_lt.2 h)]

lemma read_of_begin {position : ℕ} {b : UInt8} {p : Partial} (h : 128 ≤ b.toNat)
    (hp : begin? b = some p) (rest : List UInt8) :
    read position none (b :: rest) = read (position + 1) (some p) rest := by
  have hb : ¬b < 0x80 := fun hlt => Nat.not_lt.2 h (UInt8.lt_iff_toNat_lt.1 hlt)
  rw [read, if_neg hb, hp]

/-- The bytes of a character are read as this character. -/
lemma read_char (c : Char) (position : ℕ) (rest : List UInt8) :
    ∃ position', read position none (String.utf8EncodeChar c ++ rest)
      = (read position' none rest).map (c :: ·) := by
  by_cases hc : c.toNat < 128
  · have hb : (UInt8.ofNat c.toNat).toNat = c.toNat := by
      rw [UInt8.toNat_ofNat']
      omega
    refine ⟨position + 1, ?_⟩
    rw [encodeChar_of_lt hc, List.singleton_append, read_of_lt (by omega), hb, Char.ofNat_toNat]
  · have hcode : 128 ≤ c.toNat := Nat.le_of_not_lt hc
    obtain ⟨p, hp, hcont, hafter⟩ := exists_begin (valid_toNat c) hcode
    have hle : 192 ≤ leadBase (following c.toNat) := hafter ▸ le_leadBase p.after
    have hfirst : 128 ≤ (lead c.toNat).toNat := by
      rw [toNat_lead (valid_toNat c) hcode]
      exact Nat.le_trans (Nat.le_trans (by decide) hle) (Nat.le_add_left _ _)
    refine ⟨position + 1 + p.after + 1, ?_⟩
    rw [encodeChar_eq, List.cons_append, read_of_begin hfirst hp, ← hafter,
      read_groups hcont, Char.ofNat_toNat]

lemma read_encode (text : List Char) (position : ℕ) :
    read position none (encode text) = .ok text := by
  induction text generalizing position with
  | nil => rfl
  | cons c text ih =>
    obtain ⟨position', hread⟩ := read_char c position (encode text)
    change read position none (String.utf8EncodeChar c ++ encode text) = _
    rw [hread, ih]
    rfl

/-- What is read are the bytes of the text. -/
lemma eq_encode_of_read {position : ℕ} {bytes : List UInt8} {text : List Char}
    (h : read position none bytes = .ok text) : bytes = encode text := by
  -- The induction is on the number of bytes, of which every character takes some.
  induction hlength : bytes.length using Nat.strongRecOn generalizing position bytes text with
  | ind length ih =>
    subst hlength
    rcases bytes with _ | ⟨b, rest⟩
    · cases h
      rfl
    by_cases hb : b.toNat < 128
    · rw [read_of_lt hb] at h
      rcases hrest : read (position + 1) none rest with fault | text' <;> rw [hrest] at h <;> cases h
      have hc : (Char.ofNat b.toNat).toNat = b.toNat := toNat_of_valid (Or.inl (by omega))
      have hchar : String.utf8EncodeChar (Char.ofNat b.toNat) = [b] := by
        rw [encodeChar_of_lt (by omega), hc, UInt8.ofNat_toNat]
      rw [encode, List.flatMap_cons, hchar, ih _ (Nat.lt_succ_self _) hrest rfl]
      rfl
    · have hle : ¬b < 0x80 := fun hlt => hb (UInt8.lt_iff_toNat_lt.1 hlt)
      rw [read, if_neg hle] at h
      rcases hp : begin? b with _ | p <;> rw [hp] at h
      · cases h
      have hstarts := begin?_eq_some_iff.1 hp
      obtain ⟨code, rest', text', hcode, rfl, hread, rfl⟩ := exists_groups hstarts.bounded h
      obtain ⟨hvalid, hn, hlead⟩ := hstarts.lead_eq hcode
      have hc : (Char.ofNat code).toNat = code := toNat_of_valid hvalid
      have hchar : String.utf8EncodeChar (Char.ofNat code) = b :: groups code (p.after + 1) := by
        rw [encodeChar_eq, hc, hn, hlead]
      have hlt : rest'.length < (b :: (groups code (p.after + 1) ++ rest')).length := by
        simp only [List.length_cons, List.length_append]
        omega
      rw [encode, List.flatMap_cons, hchar, ih _ hlt hread rfl]
      rfl

/-- **Bytes are read as a text exactly if they are the bytes of this text.** -/
theorem decode_eq_ok_iff {bytes : List UInt8} {text : List Char} :
    decode bytes = .ok text ↔ bytes = encode text :=
  ⟨eq_encode_of_read, fun h => h ▸ read_encode text 0⟩

end Utf8
end Keystore
