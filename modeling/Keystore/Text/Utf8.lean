/-
# Text as bytes

Reads bytes as UTF-8, one byte at a time.  Between characters the reader has no state; inside
one it knows which bytes may come next.  A fault spans the bytes of the character that went
wrong, without the byte that does not fit.
-/
import Keystore.Text.Numeral

namespace Keystore
namespace Utf8

/-- Why bytes are no text. -/
inductive Reason where
  /-- No character starts with the byte. -/
  | invalidStart
  /-- The character does not go on in the way that it started. -/
  | invalidContinuation
  /-- The bytes end inside a character. -/
  | unexpectedEnd
deriving DecidableEq, Repr

/-- The wording of a reason. -/
def Reason.text : Reason → String
  | invalidStart => "invalid start byte"
  | invalidContinuation => "invalid continuation byte"
  | unexpectedEnd => "unexpected end of data"

/-- A place where bytes are no text. -/
structure Fault where
  reason : Reason
  /-- The first byte of the character. -/
  lead : UInt8
  /-- The position of that byte. -/
  position : Nat
  /-- The number of bytes that belong to the fault. -/
  size : Nat
deriving DecidableEq, Repr

/-- The wording of a fault. -/
def Fault.message (f : Fault) : String :=
  let place :=
    if f.size = 1 then
      "byte 0x" ++ Numeral.padded 16 2 f.lead.toNat ++ " in position " ++
        Numeral.padded 10 1 f.position
    else
      "bytes in position " ++ Numeral.padded 10 1 f.position ++ "-" ++
        Numeral.padded 10 1 (f.position + f.size - 1)
  "'utf-8' codec can't decode " ++ place ++ ": " ++ f.reason.text

/-- A character of which some bytes have been read. -/
structure Partial where
  /-- The first byte. -/
  lead : UInt8
  /-- The number of bytes read. -/
  size : Nat
  /-- The bits of the code so far. -/
  code : Nat
  /-- The number of bytes that follow the next one. -/
  after : Nat
  /-- The least byte that may come next. -/
  low : UInt8
  /-- The greatest byte that may come next. -/
  high : UInt8
deriving DecidableEq, Repr

/-- What a first byte of more than seven bits starts.  The narrower ranges for the next byte
leave out codes with a shorter form, surrogates, and codes beyond the last character. -/
def begin? (b : UInt8) : Option Partial :=
  let start (values : Nat) (after : Nat) (low high : UInt8) : Option Partial :=
    some ⟨b, 1, b.toNat % values, after, low, high⟩
  if b < 0xC2 then none
  else if b < 0xE0 then start 0x20 0 0x80 0xBF
  else if b = 0xE0 then start 0x10 1 0xA0 0xBF
  else if b = 0xED then start 0x10 1 0x80 0x9F
  else if b < 0xF0 then start 0x10 1 0x80 0xBF
  else if b = 0xF0 then start 0x08 2 0x90 0xBF
  else if b < 0xF4 then start 0x08 2 0x80 0xBF
  else if b = 0xF4 then start 0x08 2 0x80 0x8F
  else none

/-- Reads bytes from a position on, inside the given character or between characters. -/
def read (position : Nat) (inside : Option Partial) (bytes : List UInt8) :
    Except Fault (List Char) :=
  match bytes, inside with
  | [], none => .ok []
  | [], some p => .error ⟨.unexpectedEnd, p.lead, position - p.size, p.size⟩
  | b :: rest, none =>
    if b < 0x80 then (read (position + 1) none rest).map (Char.ofNat b.toNat :: ·)
    else match begin? b with
      | some p => read (position + 1) (some p) rest
      | none => .error ⟨.invalidStart, b, position, 1⟩
  | b :: rest, some p =>
    if p.low ≤ b ∧ b ≤ p.high then
      let code := p.code * 64 + b.toNat % 64
      match p.after with
      | 0 => (read (position + 1) none rest).map (Char.ofNat code :: ·)
      | after + 1 =>
        read (position + 1) (some ⟨p.lead, p.size + 1, code, after, 0x80, 0xBF⟩) rest
    else .error ⟨.invalidContinuation, p.lead, position - p.size, p.size⟩

/-- The characters that bytes stand for. -/
def decode (bytes : List UInt8) : Except Fault (List Char) := read 0 none bytes

/-- One line feed for every way to end a line: a line feed, a carriage return, or both. -/
def unifyLineEnds : List Char → List Char
  | [] => []
  | '\r' :: '\n' :: cs => '\n' :: unifyLineEnds cs
  | '\r' :: cs => '\n' :: unifyLineEnds cs
  | c :: cs => c :: unifyLineEnds cs

example : decode [0x61, 0xC3, 0xA9, 0xF0, 0x9F, 0x98, 0x80] = .ok ['a', 'é', '😀'] := by rfl
example : decode [0x61, 0xE2, 0x82, 0x28] = .error ⟨.invalidContinuation, 0xE2, 1, 2⟩ := by rfl

end Utf8
end Keystore
