/-
# What can be wrong with a YAML document

A text may fail to be a document: its characters, its layout or its structure are not those of
YAML, or it uses something that only other programs understand.  Such a flaw has a place in the
text.  A well-formed document may still hold a scalar that reads like a number or a date and is
none; that is a fault of the value.
-/
import Keystore.Calendar
import Keystore.Text.Quoted

namespace Keystore
namespace Yaml

/-- A place in a text, with lines and columns counted from zero. -/
structure Position where
  line : Nat
  column : Nat
deriving DecidableEq, Repr

/-- What makes a text no YAML document. -/
inductive Flaw where
  /-- A character that no document may hold. -/
  | unprintable
  /-- A character that starts no token. -/
  | noToken
  /-- A text that stands where a key has to stand, without a colon behind it. -/
  | keyWithoutColon
  | itemNotAllowed
  | keyNotAllowed
  | valueNotAllowed
  /-- A closing bracket without an opening one. -/
  | unbalanced
  | directive
  | anchor
  | tag
  /-- An escape that does not exist, or is not finished. -/
  | escape
  /-- A header of a block scalar that is not written as one. -/
  | blockHeader
  | unfinishedQuote
  | markerInQuote
  /-- A second version directive, or a version of another kind. -/
  | version
  | repeatedHandle
  /-- A tag handle that nothing declares. -/
  | unknownHandle
  | noDocumentStart
  | noNode
  /-- Something else than the next part or the end of a collection. -/
  | noEnd
  | unknownAlias
  | repeatedAnchor
  | severalDocuments
  | unknownTag
  /-- A tag on a node of another kind. -/
  | wrongKind
  | collectionAsKey
  /-- A merge with something else than mappings. -/
  | merge
  /-- An entry of an ordered mapping that is no mapping with one key. -/
  | noPair
  /-- Bytes that are not written as such. -/
  | binary
deriving DecidableEq, Repr

/-- The wording of a flaw. -/
def Flaw.text : Flaw → String
  | unprintable => "special characters are not allowed"
  | noToken => "found a character that cannot start any token"
  | keyWithoutColon => "could not find expected ':'"
  | itemNotAllowed => "sequence entries are not allowed here"
  | keyNotAllowed => "mapping keys are not allowed here"
  | valueNotAllowed => "mapping values are not allowed here"
  | unbalanced => "found a closing bracket without an opening one"
  | directive => "found a malformed directive"
  | anchor => "found a malformed anchor or alias"
  | tag => "found a malformed tag"
  | escape => "found an unknown escape"
  | blockHeader => "found a malformed header of a block scalar"
  | unfinishedQuote => "found unexpected end of stream inside a quoted scalar"
  | markerInQuote => "found unexpected document separator inside a quoted scalar"
  | version => "found a duplicate version directive or an incompatible version"
  | repeatedHandle => "found a duplicate tag handle"
  | unknownHandle => "found an undefined tag handle"
  | noDocumentStart => "expected a document start"
  | noNode => "expected the content of a node"
  | noEnd => "expected the end of a collection"
  | unknownAlias => "found an undefined alias"
  | repeatedAnchor => "found a duplicate anchor"
  | severalDocuments => "expected a single document"
  | unknownTag => "could not determine a constructor for the tag"
  | wrongKind => "found a tag on a node of another kind"
  | collectionAsKey => "found unhashable key"
  | merge => "expected a mapping or a list of mappings for merging"
  | noPair => "expected a mapping with a single key"
  | binary => "failed to decode base64 data"

/-- Why a scalar has no value although the document is well formed. -/
inductive ValueFault where
  | noCharacter
  /-- A code of more than thirty-one bits. -/
  | hugeCode
  /-- Numbers that make no date or moment. -/
  | calendar (fault : CalendarFault)
  /-- A text that is tagged as a date and is not written as one. -/
  | noMoment
  /-- A mapping that is tagged as a date. -/
  | noMomentText
  /-- A mapping whose default is the mapping itself. -/
  | endlessDefault
  /-- A text that is tagged as a truth value and is none. -/
  | noTruthValue (word : String)
  /-- An empty text that is tagged as a number. -/
  | emptyNumber
  | noInteger (base : Nat) (text : String)
  | tooManyDigits (count : Nat)
  | noNumber (text : String)
  /-- A number with more sixtieths than the range of binary64 numbers has. -/
  | tooManySixtieths
deriving DecidableEq, Repr

/-- The wording of a fault. -/
def ValueFault.message : ValueFault → String
  | noCharacter => "chr() arg not in range(0x110000)"
  | hugeCode => "Python int too large to convert to C int"
  | calendar fault => fault.message
  | noMoment => "'NoneType' object has no attribute 'groupdict'"
  | noMomentText => "expected string or bytes-like object, got 'list'"
  | endlessDefault => "maximum recursion depth exceeded"
  | noTruthValue word => Quoted.text word
  | emptyNumber => "string index out of range"
  | noInteger base text =>
    "invalid literal for int() with base " ++ Numeral.padded 10 1 base ++ ": " ++
      String.ofList ((Quoted.text text).toList.take 200)
  | tooManyDigits count => Numeral.limitMessage (some count)
  | noNumber text => "could not convert string to float: " ++ Quoted.text text
  | tooManySixtieths => "int too large to convert to float"

/-- Why a text gives no value. -/
inductive Fault where
  /-- It is no document. -/
  | malformed (flaw : Flaw) (position : Position)
  /-- It is a document in which a scalar has no value. -/
  | value (fault : ValueFault)
deriving DecidableEq, Repr

/-- The wording of a fault. -/
def Fault.message : Fault → String
  | malformed flaw p =>
    flaw.text ++ ", line " ++ Numeral.padded 10 1 (p.line + 1) ++ ", column " ++
      Numeral.padded 10 1 (p.column + 1)
  | value fault => fault.message

end Yaml
end Keystore
