/-
# Tokens

The pieces that a YAML text is made of.  Where the layout of block collections says that one of
them starts or ends, there is a token for it, although there is no character for it.
-/
import Keystore.Yaml.Fault

namespace Keystore
namespace Yaml

/-- How a tag is written. -/
structure TagText where
  /-- The handle in front, which stands for the beginning of a tag; `none` if the tag is written
  in full. -/
  handle : Option String
  suffix : String
deriving DecidableEq, Repr

/-- What a directive says. -/
inductive Directive where
  | version (major : Nat)
  /-- What a tag handle stands for. -/
  | handle (handle lead : String)
  /-- Something that is ignored. -/
  | reserved
deriving DecidableEq, Repr

/-- What a token is. -/
inductive TokenKind where
  | directive (d : Directive)
  | documentStart
  | documentEnd
  /-- The place where a block list starts. -/
  | blockListStart
  /-- The place where a block mapping starts. -/
  | blockMappingStart
  /-- The place where a block collection ends. -/
  | blockEnd
  | listOpen
  | listClose
  | mappingOpen
  | mappingClose
  /-- The dash in front of an item of a block list. -/
  | item
  | comma
  /-- The place where a key starts. -/
  | key
  /-- The colon in front of a value. -/
  | value
  | aliasOf (name : String)
  /-- An anchor on the node that follows. -/
  | anchor (name : String)
  /-- A tag on the node that follows. -/
  | tag (t : TagText)
  /-- A scalar; a plain one has neither quotes nor a block header. -/
  | scalar (text : String) (plain : Bool)
deriving DecidableEq, Repr

/-- A token and its place. -/
structure Token where
  kind : TokenKind
  position : Position
deriving DecidableEq, Repr

/-- The tokens of a text.  A text may have a fault behind its tokens; then only those count that
can be told without reading on to the fault. -/
structure TokenStream where
  tokens : List Token
  /-- The fault behind them. -/
  fault : Option Fault := none
deriving DecidableEq, Repr

end Yaml
end Keystore
