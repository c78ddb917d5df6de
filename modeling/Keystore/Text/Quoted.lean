/-
# Quoted text

The written form of a text inside a message: between quotes, with everything that would not
show or would end the quotation escaped.  Single quotes are used, unless the text holds a
single quote and no double quote.  Bytes are quoted in the same way after the letter `b`, as
the ASCII characters that they are, with all others escaped.
-/
import Keystore.Text.Numeral
import Keystore.Text.Printable

namespace Keystore
namespace Quoted

/-- The quote for a text with the given characters. -/
def quoteFor (cs : List Char) : Char :=
  if cs.contains '\'' && !cs.contains '"' then '"' else '\''

/-- The escape of a character by its code: two, four or eight hexadecimal digits. -/
def codeEscape (c : Char) : String :=
  let n := c.toNat
  if n < 0x100 then "\\x" ++ Numeral.padded 16 2 n
  else if n < 0x10000 then "\\u" ++ Numeral.padded 16 4 n
  else "\\U" ++ Numeral.padded 16 8 n

/-- One character as it stands between two quotes `q`; `shown` says which characters stand
for themselves. -/
def character (shown : Char → Bool) (q c : Char) : String :=
  if c = q ∨ c = '\\' then String.ofList ['\\', c]
  else if c = '\n' then "\\n"
  else if c = '\r' then "\\r"
  else if c = '\t' then "\\t"
  else if shown c then String.ofList [c]
  else codeEscape c

/-- The characters of a quoted text, quotes included. -/
def around (shown : Char → Bool) (cs : List Char) : String :=
  let q := quoteFor cs
  let quote := String.ofList [q]
  quote ++ String.join (cs.map (character shown q)) ++ quote

/-- A text in quotes. -/
def text (s : String) : String := around isPrintable s.toList

/-- Bytes in quotes, after the letter `b`. -/
def bytes (bs : List UInt8) : String :=
  "b" ++ around (fun c => ' ' ≤ c && c ≤ '~') (bs.map fun b => Char.ofNat b.toNat)

/-- A list of texts in quotes, between brackets. -/
def list (items : List String) : String :=
  "[" ++ ", ".intercalate (items.map text) ++ "]"

example : text "it's" = "\"it's\"" := by decide +kernel
example : text "a\n\\" = "'a\\n\\\\'" := by decide +kernel

end Quoted
end Keystore
