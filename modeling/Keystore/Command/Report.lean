/-
# The report of a lookup

The full result of a lookup as a JSON object in ASCII, one field on each line.  Characters
outside of ASCII, and those that do not show, are written by their UTF-16 code units.
-/
import Keystore.Lookup

namespace Keystore
namespace Command

/-- The escape of a UTF-16 code unit. -/
def unitEscape (n : Nat) : String := "\\u" ++ Numeral.padded 16 4 n

/-- One character inside a JSON text. -/
def jsonCharacter (c : Char) : String :=
  if c = '"' then "\\\""
  else if c = '\\' then "\\\\"
  else if c = '\n' then "\\n"
  else if c = '\r' then "\\r"
  else if c = '\t' then "\\t"
  else if c = '\x08' then "\\b"
  else if c = '\x0C' then "\\f"
  else if ' ' ≤ c ∧ c ≤ '~' then String.ofList [c]
  else if c.toNat < 0x10000 then unitEscape c.toNat
  else
    let above := c.toNat - 0x10000
    unitEscape (0xD800 + above / 0x400) ++ unitEscape (0xDC00 + above % 0x400)

/-- A JSON text. -/
def jsonText (s : String) : String := "\"" ++ String.join (s.toList.map jsonCharacter) ++ "\""

/-- A JSON text, or `null`. -/
def jsonText? (s : Option String) : String := (s.map jsonText).getD "null"

/-- A JSON truth value. -/
def jsonBool (b : Bool) : String := if b then "true" else "false"

/-- The fields of a report in order, with their values as JSON. -/
def reportFields (identity : Identity) (result : LookupResult) : List (String × String) :=
  [("name", jsonText identity.name),
   ("namespace", jsonText identity.scope),
   ("found", jsonBool result.isFound),
   ("path", jsonText? result.path?),
   ("error", jsonText? (result.cause?.map Cause.text)),
   ("diagnostic", jsonText result.diagnostic)]

/-- The report of a lookup. -/
def report (identity : Identity) (result : LookupResult) : String :=
  let lines := (reportFields identity result).map fun (name, value) =>
    "  " ++ jsonText name ++ ": " ++ value
  "\x7b\n" ++ ",\n".intercalate lines ++ "\n\x7d"

end Command
end Keystore
