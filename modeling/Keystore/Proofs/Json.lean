/-
JSON.

The grammar of JSON as a relation between characters and values: `Reads cs p rest` says that the
phrase `p` stands at the front of `cs`, and `rest` is what is left behind it.  A text between
quotes stands for UTF-16 code units, whether its characters are written as they are or escaped,
and its value is the text with these units.

The grammar is unambiguous (`Denotes.unique`): a reader that accepts a text at all, and keeps to the
grammar, has no choice in what it reads.  Where a phrase ends is settled by its first characters,
except for numbers, which go on as long as they can.
-/
import Mathlib.Data.List.Basic
import Keystore.Text.Numeral

namespace Keystore

/-- A JSON value.  Numbers are kept as they are written. -/
inductive Json where
  | null
  | bool (b : Bool)
  | number (numeral : String)
  | text (s : String)
  | array (items : List Json)
  | object (members : List (String × Json))

namespace Json

/-! ## Texts -/

/-- The UTF-16 code units of a character. -/
def unitsOf (c : Char) : List Nat :=
  if c.toNat < 0x10000 then [c.toNat]
  else [0xD800 + (c.toNat - 0x10000) / 0x400, 0xDC00 + (c.toNat - 0x10000) % 0x400]

/-- The UTF-16 code units of a text. -/
def units (s : String) : List Nat := s.toList.flatMap unitsOf

/-- What an escape with one letter stands for. -/
def escaped? (c : Char) : Option Nat :=
  if c = '"' ∨ c = '\\' ∨ c = '/' then some c.toNat
  else if c = 'b' then some 0x08
  else if c = 't' then some 0x09
  else if c = 'n' then some 0x0A
  else if c = 'f' then some 0x0C
  else if c = 'r' then some 0x0D
  else none

/-- The code units of a text, read behind the quote in front of it and up to the one behind it. -/
inductive ReadsUnits : List Char → List Nat → List Char → Prop where
  | quote {rest : List Char} : ReadsUnits ('"' :: rest) [] rest
  | character {c : Char} {cs rest : List Char} {us : List Nat} (hvisible : ' ' ≤ c)
    (hquote : c ≠ '"') (hescape : c ≠ '\\') (h : ReadsUnits cs us rest) :
    ReadsUnits (c :: cs) (unitsOf c ++ us) rest
  | letter {c : Char} {u : Nat} {cs rest : List Char} {us : List Nat} (hc : escaped? c = some u)
    (h : ReadsUnits cs us rest) : ReadsUnits ('\\' :: c :: cs) (u :: us) rest
  | unit {a b c d : Char} {u : Nat} {cs rest : List Char} {us : List Nat}
    (hu : Numeral.read? 16 [a, b, c, d] = some u) (h : ReadsUnits cs us rest) :
    ReadsUnits ('\\' :: 'u' :: a :: b :: c :: d :: cs) (u :: us) rest

/-! ## Numbers -/

/-- Decimal digits, and at least one. -/
def IsDigits (cs : List Char) : Prop := cs ≠ [] ∧ ∀ c ∈ cs, c.isDigit = true

/-- A number: perhaps a minus sign, digits without a zero in front of others, and perhaps a
fraction and an exponent. -/
def IsNumeral (cs : List Char) : Prop :=
  ∃ sign whole fraction exponent, cs = sign ++ whole ++ fraction ++ exponent ∧
    (sign = [] ∨ sign = ['-']) ∧
    (IsDigits whole ∧ (whole.head? = some '0' → whole = ['0'])) ∧
    (fraction = [] ∨ ∃ digits, fraction = '.' :: digits ∧ IsDigits digits) ∧
    (exponent = [] ∨ ∃ e plus digits, exponent = e :: (plus ++ digits) ∧ (e = 'e' ∨ e = 'E') ∧
      (plus = [] ∨ plus = ['+'] ∨ plus = ['-']) ∧ IsDigits digits)

/-- Whether a character may be a part of a number. -/
def isNumeric (c : Char) : Bool :=
  c.isDigit || c = '-' || c = '+' || c = '.' || c = 'e' || c = 'E'

/-! ## Phrases -/

/-- What the grammar has rules for. -/
inductive Phrase where
  /-- A value. -/
  | value (v : Json)
  /-- The items of a list, and the bracket behind them. -/
  | items (vs : List Json)
  /-- A name with a value. -/
  | member (name : String) (v : Json)
  /-- The members of an object, and the brace behind them. -/
  | members (ms : List (String × Json))

/-- The kind of a phrase. -/
inductive Kind where
  | value
  | items
  | member
  | members

/-- The kind of a phrase. -/
def Phrase.kind : Phrase → Kind
  | value _ => .value
  | items _ => .items
  | member .. => .member
  | members _ => .members

/-- What is left behind blanks. -/
def skip (cs : List Char) : List Char :=
  cs.dropWhile fun c => c = ' ' || c = '\t' || c = '\n' || c = '\r'

/-- The grammar. -/
inductive Reads : List Char → Phrase → List Char → Prop where
  | null {rest : List Char} : Reads ('n' :: 'u' :: 'l' :: 'l' :: rest) (.value .null) rest
  | true {rest : List Char} : Reads ('t' :: 'r' :: 'u' :: 'e' :: rest) (.value (.bool true)) rest
  | false {rest : List Char} :
    Reads ('f' :: 'a' :: 'l' :: 's' :: 'e' :: rest) (.value (.bool false)) rest
  | number {cs : List Char} (h : IsNumeral (cs.takeWhile isNumeric)) :
    Reads cs (.value (.number (String.ofList (cs.takeWhile isNumeric)))) (cs.dropWhile isNumeric)
  | text {cs rest : List Char} {s : String} (h : ReadsUnits cs (units s) rest) :
    Reads ('"' :: cs) (.value (.text s)) rest
  | emptyArray {cs rest : List Char} (h : skip cs = ']' :: rest) :
    Reads ('[' :: cs) (.value (.array [])) rest
  | array {cs rest : List Char} {vs : List Json} (h : Reads cs (.items vs) rest) :
    Reads ('[' :: cs) (.value (.array vs)) rest
  | lastItem {cs more rest : List Char} {v : Json} (h : Reads (skip cs) (.value v) more)
    (hend : skip more = ']' :: rest) : Reads cs (.items [v]) rest
  | item {cs more next rest : List Char} {v : Json} {vs : List Json}
    (h : Reads (skip cs) (.value v) more) (hcomma : skip more = ',' :: next)
    (hitems : Reads next (.items vs) rest) : Reads cs (.items (v :: vs)) rest
  | emptyObject {cs rest : List Char} (h : skip cs = '}' :: rest) :
    Reads ('{' :: cs) (.value (.object [])) rest
  | object {cs rest : List Char} {ms : List (String × Json)} (h : Reads cs (.members ms) rest) :
    Reads ('{' :: cs) (.value (.object ms)) rest
  | member {cs inner more next rest : List Char} {name : String} {v : Json}
    (hquote : skip cs = '"' :: inner) (hname : ReadsUnits inner (units name) more)
    (hcolon : skip more = ':' :: next) (h : Reads (skip next) (.value v) rest) :
    Reads cs (.member name v) rest
  | lastMember {cs more rest : List Char} {name : String} {v : Json}
    (h : Reads cs (.member name v) more) (hend : skip more = '}' :: rest) :
    Reads cs (.members [(name, v)]) rest
  | moreMembers {cs more next rest : List Char} {name : String} {v : Json}
    {ms : List (String × Json)} (h : Reads cs (.member name v) more)
    (hcomma : skip more = ',' :: next) (hmembers : Reads next (.members ms) rest) :
    Reads cs (.members ((name, v) :: ms)) rest

/-- The whole text is JSON, and stands for the value. -/
def Denotes (s : String) (v : Json) : Prop :=
  ∃ rest, Reads (skip s.toList) (.value v) rest ∧ skip rest = []

/-! ## The grammar is unambiguous -/

variable {cs rest rest' : List Char} {us us' : List Nat} {p p' : Phrase} {s s' : String}

/-- Units outside of the surrogates stand for themselves. -/
lemma unitsOf_append_injective {c c' : Char} (h : unitsOf c ++ us = unitsOf c' ++ us') :
    c = c' ∧ us = us' := by
  have hc : c.toNat < 0xD800 ∨ 0xDFFF < c.toNat ∧ c.toNat < 0x110000 := c.valid
  have hc' : c'.toNat < 0xD800 ∨ 0xDFFF < c'.toNat ∧ c'.toNat < 0x110000 := c'.valid
  rw [unitsOf, unitsOf] at h
  split at h <;> split at h <;>
    simp only [List.cons_append, List.nil_append, List.cons.injEq] at h
  · exact ⟨Char.toNat_inj.1 h.1, h.2⟩
  · omega
  · omega
  · exact ⟨Char.toNat_inj.1 (by omega), h.2.2⟩

lemma units_injective (h : units s = units s') : s = s' := by
  have hlists : ∀ cs cs' : List Char, cs.flatMap unitsOf = cs'.flatMap unitsOf → cs = cs' := by
    have hne : ∀ (c : Char) (us : List Nat), unitsOf c ++ us ≠ [] := by
      intro c us
      rw [unitsOf]
      split <;> simp
    intro cs
    induction cs with
    | nil =>
      rintro (_ | ⟨c', cs'⟩) h
      · rfl
      · exact absurd h.symm (hne c' _)
    | cons c cs ih =>
      rintro (_ | ⟨c', cs'⟩) h
      · exact absurd h (hne c _)
      · obtain ⟨rfl, hrest⟩ := unitsOf_append_injective h
        rw [ih cs' hrest]
  exact String.toList_inj.1 (hlists _ _ h)

lemma ReadsUnits.unique (h : ReadsUnits cs us rest) (h' : ReadsUnits cs us' rest') :
    us = us' ∧ rest = rest' := by
  induction h generalizing us' rest' with
  | quote =>
    cases h' with
    | quote => exact ⟨rfl, rfl⟩
    | character _ hquote _ _ => exact absurd rfl hquote
  | character _ hquote hescape _ ih =>
    cases h' with
    | quote => exact absurd rfl hquote
    | character _ _ _ h' =>
      obtain ⟨rfl, rfl⟩ := ih h'
      exact ⟨rfl, rfl⟩
    | letter _ _ => exact absurd rfl hescape
    | unit _ _ => exact absurd rfl hescape
  | letter hc _ ih =>
    cases h' with
    | character _ _ hescape _ => exact absurd rfl hescape
    | letter hc' h' =>
      obtain ⟨rfl, rfl⟩ := ih h'
      cases hc.symm.trans hc'
      exact ⟨rfl, rfl⟩
    | unit _ _ => cases hc
  | unit hu _ ih =>
    cases h' with
    | character _ _ hescape _ => exact absurd rfl hescape
    | letter hc' _ => cases hc'
    | unit hu' h' =>
      obtain ⟨rfl, rfl⟩ := ih h'
      cases hu.symm.trans hu'
      exact ⟨rfl, rfl⟩

/-- What two readings of a text agree on. -/
lemma ReadsUnits.text_unique (h : ReadsUnits cs (units s) rest)
    (h' : ReadsUnits cs (units s') rest') : s = s' ∧ rest = rest' := by
  obtain ⟨hunits, hrest⟩ := h.unique h'
  exact ⟨units_injective hunits, hrest⟩

/-- No number is empty. -/
lemma IsNumeral.ne_nil (h : IsNumeral cs) : cs ≠ [] := by
  obtain ⟨sign, whole, fraction, exponent, rfl, -, ⟨⟨hwhole, -⟩, -⟩, -⟩ := h
  simp [hwhole]

/-- Nothing else than a number starts like one. -/
lemma not_isNumeral {c : Char} (hc : isNumeric c = false) (cs : List Char) :
    ¬ IsNumeral ((c :: cs).takeWhile isNumeric) := by
  intro h
  rw [List.takeWhile_cons_of_neg (by simp [hc])] at h
  exact h.ne_nil rfl

/-- No value starts with a closing bracket. -/
lemma Reads.value_ne (h : Reads cs p rest) (hp : p.kind = .value) (more : List Char) :
    cs ≠ ']' :: more := by
  rintro rfl
  cases h with
  | number h => exact not_isNumeral rfl more h
  | _ => cases hp

/-- There are no blanks in front of a value. -/
lemma Reads.skip_eq {v : Json} (h : Reads cs (.value v) rest) : skip cs = cs := by
  cases h with
  | number h =>
    rcases cs with _ | ⟨c, cs⟩
    · rfl
    · rw [skip, List.dropWhile_cons_of_neg]
      intro hblank
      refine not_isNumeral ?_ cs h
      simp only [Bool.or_eq_true, decide_eq_true_eq] at hblank
      rcases hblank with ((rfl | rfl) | rfl) | rfl <;> rfl
  | _ => rfl

lemma Reads.items_ne {vs : List Json} (h : Reads cs (.items vs) rest) (more : List Char) :
    skip cs ≠ ']' :: more := by
  cases h with
  | lastItem h _ => exact h.value_ne rfl more
  | item h _ _ => exact h.value_ne rfl more

lemma Reads.members_ne {ms : List (String × Json)} (h : Reads cs (.members ms) rest)
    (more : List Char) : skip cs ≠ '}' :: more := by
  have hmember : ∀ {name v rest}, Reads cs (.member name v) rest → skip cs ≠ '}' :: more := by
    intro name v rest h hend
    cases h with
    | member hquote _ _ _ => cases hquote.symm.trans hend
  cases h with
  | lastMember h _ => exact hmember h
  | moreMembers h _ _ => exact hmember h

/-- **The grammar is unambiguous**: at most one phrase of each kind stands at the front. -/
theorem Reads.unique (h : Reads cs p rest) (h' : Reads cs p' rest') (hkind : p.kind = p'.kind) :
    p = p' ∧ rest = rest' := by
  -- The first characters of a phrase decide on the rule that it comes from.
  induction h generalizing p' rest' with
  | null =>
    cases h' with
    | null => exact ⟨rfl, rfl⟩
    | number h' => exact absurd h' (not_isNumeral rfl _)
    | _ => cases hkind
  | true =>
    cases h' with
    | true => exact ⟨rfl, rfl⟩
    | number h' => exact absurd h' (not_isNumeral rfl _)
    | _ => cases hkind
  | false =>
    cases h' with
    | false => exact ⟨rfl, rfl⟩
    | number h' => exact absurd h' (not_isNumeral rfl _)
    | _ => cases hkind
  | number h =>
    cases h' with
    | number _ => exact ⟨rfl, rfl⟩
    | lastItem _ _ => cases hkind
    | item _ _ _ => cases hkind
    | member _ _ _ _ => cases hkind
    | lastMember _ _ => cases hkind
    | moreMembers _ _ _ => cases hkind
    | _ => exact absurd h (not_isNumeral rfl _)
  | text h =>
    cases h' with
    | text h' =>
      obtain ⟨rfl, rfl⟩ := h.text_unique h'
      exact ⟨rfl, rfl⟩
    | number h' => exact absurd h' (not_isNumeral rfl _)
    | _ => cases hkind
  | emptyArray h =>
    cases h' with
    | emptyArray h' =>
      cases h.symm.trans h'
      exact ⟨rfl, rfl⟩
    | array h' => exact absurd h (h'.items_ne _)
    | number h' => exact absurd h' (not_isNumeral rfl _)
    | _ => cases hkind
  | array h ih =>
    cases h' with
    | emptyArray h' => exact absurd h' (h.items_ne _)
    | array h' =>
      obtain ⟨heq, rfl⟩ := ih h' rfl
      cases heq
      exact ⟨rfl, rfl⟩
    | number h' => exact absurd h' (not_isNumeral rfl _)
    | _ => cases hkind
  | lastItem _ hend ih =>
    cases h' with
    | lastItem h' hend' =>
      obtain ⟨heq, rfl⟩ := ih h' rfl
      cases heq
      cases hend.symm.trans hend'
      exact ⟨rfl, rfl⟩
    | item h' hcomma _ =>
      obtain ⟨-, rfl⟩ := ih h' rfl
      cases hend.symm.trans hcomma
    | _ => cases hkind
  | item _ hcomma _ ih ihitems =>
    cases h' with
    | lastItem h' hend =>
      obtain ⟨-, rfl⟩ := ih h' rfl
      cases hcomma.symm.trans hend
    | item h' hcomma' hitems =>
      obtain ⟨heq, rfl⟩ := ih h' rfl
      cases heq
      cases hcomma.symm.trans hcomma'
      obtain ⟨heq, rfl⟩ := ihitems hitems rfl
      cases heq
      exact ⟨rfl, rfl⟩
    | _ => cases hkind
  | emptyObject h =>
    cases h' with
    | emptyObject h' =>
      cases h.symm.trans h'
      exact ⟨rfl, rfl⟩
    | object h' => exact absurd h (h'.members_ne _)
    | number h' => exact absurd h' (not_isNumeral rfl _)
    | _ => cases hkind
  | object h ih =>
    cases h' with
    | emptyObject h' => exact absurd h' (h.members_ne _)
    | object h' =>
      obtain ⟨heq, rfl⟩ := ih h' rfl
      cases heq
      exact ⟨rfl, rfl⟩
    | number h' => exact absurd h' (not_isNumeral rfl _)
    | _ => cases hkind
  | member hquote hname hcolon _ ih =>
    cases h' with
    | member hquote' hname' hcolon' h' =>
      cases hquote.symm.trans hquote'
      obtain ⟨rfl, rfl⟩ := hname.text_unique hname'
      cases hcolon.symm.trans hcolon'
      obtain ⟨heq, rfl⟩ := ih h' rfl
      cases heq
      exact ⟨rfl, rfl⟩
    | _ => cases hkind
  | lastMember _ hend ih =>
    cases h' with
    | lastMember h' hend' =>
      obtain ⟨heq, rfl⟩ := ih h' rfl
      cases heq
      cases hend.symm.trans hend'
      exact ⟨rfl, rfl⟩
    | moreMembers h' hcomma _ =>
      obtain ⟨-, rfl⟩ := ih h' rfl
      cases hend.symm.trans hcomma
    | _ => cases hkind
  | moreMembers _ hcomma _ ih ihmembers =>
    cases h' with
    | lastMember h' hend =>
      obtain ⟨-, rfl⟩ := ih h' rfl
      cases hcomma.symm.trans hend
    | moreMembers h' hcomma' hmembers =>
      obtain ⟨heq, rfl⟩ := ih h' rfl
      cases heq
      cases hcomma.symm.trans hcomma'
      obtain ⟨heq, rfl⟩ := ihmembers hmembers rfl
      cases heq
      exact ⟨rfl, rfl⟩
    | _ => cases hkind

/-- A text stands for one value at most. -/
theorem Denotes.unique {v w : Json} (h : Denotes s v) (h' : Denotes s w) : v = w := by
  obtain ⟨rest, hreads, -⟩ := h
  obtain ⟨rest', hreads', -⟩ := h'
  cases (hreads.unique hreads' rfl).1
  rfl

end Json
end Keystore
