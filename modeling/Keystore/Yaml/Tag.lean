/-
# Tags

A tag says what kind of value a node stands for.  A plain scalar without a tag gets one from its
text: `Tag.ofPlain` knows the texts of truth values, numbers, dates, the merge key, and of no
value at all.
-/
import Keystore.Yaml.Timestamp

namespace Keystore
namespace Yaml

/-- The kind of value that a node stands for. -/
inductive Tag where
  | null
  | bool
  | int
  | float
  /-- Bytes. -/
  | binary
  /-- A date or a moment. -/
  | timestamp
  /-- A list of pairs with different keys. -/
  | orderedMapping
  /-- A list of pairs. -/
  | pairs
  | set
  | text
  | list
  | mapping
  /-- As a key: the entries of other mappings. -/
  | merge
  /-- As a key: the value that stands for the mapping. -/
  | default
  | other
deriving DecidableEq, Repr

namespace Tag

/-- What the tags of the language start with. -/
def lead : String := "tag:yaml.org,2002:"

/-- The tags of the language, behind their common beginning. -/
def names : List (String × Tag) :=
  [("null", null), ("bool", bool), ("int", int), ("float", float), ("binary", binary),
   ("timestamp", timestamp), ("omap", orderedMapping), ("pairs", pairs), ("set", set),
   ("str", text), ("seq", list), ("map", mapping), ("merge", merge), ("value", default)]

/-- The tag that is written in full. -/
def ofString (s : String) : Tag :=
  ((names.find? fun e => lead ++ e.1 = s).map (·.2)).getD other

/-! ## Texts of scalars -/

/-- Whether a text consists of characters of a class, and there is one. -/
def isRun (p : Char → Bool) (cs : List Char) : Bool := !cs.isEmpty && cs.all p

/-- Whether a text starts with a digit and goes on with digits and underscores. -/
def isDigitRun (cs : List Char) : Bool :=
  cs.head?.any Char.isDigit && cs.all fun c => c.isDigit || c = '_'

/-- A text without the sign in front, if there is one. -/
def unsigned : List Char → List Char
  | '+' :: rest => rest
  | '-' :: rest => rest
  | cs => cs

/-- Cuts a text at every character of the given kind. -/
def cutAt (sep : Char) : List Char → List (List Char)
  | [] => [[]]
  | c :: cs =>
    if c = sep then [] :: cutAt sep cs
    else match cutAt sep cs with
      | [] => [[c]]
      | word :: words => (c :: word) :: words

/-- Whether a text is a number below sixty of one or two digits. -/
def isSixtieth : List Char → Bool
  | [d] => d.isDigit
  | [t, d] => '0' ≤ t && t ≤ '5' && d.isDigit
  | _ => false

/-- The words for truth values, in small letters, and what they say. -/
def truthWords : List (String × Bool) :=
  [("yes", true), ("no", false), ("true", true), ("false", false), ("on", true), ("off", false)]

/-- The three ways to write a word: in small letters, with a capital, in capital letters. -/
def spellings (word : String) : List String := [word, word.capitalize, word.toUpper]

/-- Whether a text is a truth value. -/
def isTruthValue (cs : List Char) : Bool :=
  (truthWords.flatMap fun w => spellings w.1).contains (String.ofList cs)

/-- Whether a text is an integer in base two, eight, ten or sixteen, or with sixtieths. -/
def isInt (cs : List Char) : Bool :=
  match unsigned cs with
  | ['0'] => true
  | '0' :: 'b' :: ds => isRun (fun c => c = '0' || c = '1' || c = '_') ds
  | '0' :: 'x' :: ds => isRun (fun c => Numeral.isHexDigit c || c = '_') ds
  | '0' :: ds => isRun (fun c => ('0' ≤ c && c ≤ '7') || c = '_') ds
  | ds =>
    match cutAt ':' ds with
    | [] => false
    | first :: sixtieths => isDigitRun first && sixtieths.all isSixtieth

/-- Whether a text is an exponent with a sign, or empty. -/
def isExponent : List Char → Bool
  | [] => true
  | e :: sign :: ds => (e = 'e' || e = 'E') && (sign = '+' || sign = '-') && isRun Char.isDigit ds
  | _ => false

/-- Whether a text is what may follow the point of a number. -/
def isFraction (cs : List Char) : Bool :=
  isExponent (cs.dropWhile fun c => c.isDigit || c = '_')

/-- Whether a text is a number with a point, or with sixtieths and a point, or an infinity, or
not a number. -/
def isFloat (cs : List Char) : Bool :=
  let body := unsigned cs
  let infinite := ((spellings "inf").map fun w => '.' :: w.toList).contains body
  let noNumber := ['.' :: "nan".toList, '.' :: "NaN".toList, '.' :: "NAN".toList].contains cs
  let short := match cs with
    | '.' :: ds => ds.head?.any Char.isDigit && isFraction ds
    | _ => false
  let (whole, rest) := (body.takeWhile (· ≠ '.'), body.dropWhile (· ≠ '.'))
  let long := match rest with
    | '.' :: fraction =>
      match cutAt ':' whole with
      | [first] => isDigitRun first && isFraction fraction
      | first :: sixtieths =>
        isDigitRun first && sixtieths.all isSixtieth &&
          fraction.all fun c => c.isDigit || c = '_'
      | [] => false
    | _ => false
  infinite || noNumber || short || long

/-- Whether a text is a date or a moment. -/
def isTimestamp (cs : List Char) : Bool :=
  (TimestampText.ofText? cs).any TimestampText.isObvious

/-- A text without a line feed at its end. -/
def chomp (cs : List Char) : List Char :=
  if cs.getLast? = some '\n' then cs.dropLast else cs

/-- The tag of a plain scalar. -/
def ofPlain (text : String) : Tag :=
  let cs := chomp text.toList
  if text = "" || ("~" :: spellings "null").contains (String.ofList cs) then null
  else if isTruthValue cs then bool
  else if isInt cs then int
  else if isFloat cs then float
  else if isTimestamp cs then timestamp
  else if cs = ['<', '<'] then merge
  else if cs = ['='] then default
  else if cs = ['!'] ∨ cs = ['&'] ∨ cs = ['*'] then other
  else Tag.text

example : ofPlain "010" = int ∧ ofPlain "08" = Tag.text ∧ ofPlain "190:20:30" = int := by
  decide +kernel
example : ofPlain "1e3" = Tag.text ∧ ofPlain "1.0e+3" = float ∧ ofPlain "-.inf" = float := by
  decide +kernel
example : ofPlain "2001-12-14" = timestamp ∧ ofPlain "2001-1-1" = Tag.text := by decide +kernel

end Tag
end Yaml
end Keystore
