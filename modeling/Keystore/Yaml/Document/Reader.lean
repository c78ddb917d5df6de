/-
# Reading documents

Reads the tokens of a text into the nodes of a document, from the front.  Every part of a
collection may be left out, and is then a scalar without text.  No token is looked at before it
is needed: what is wrong with a document is found before the fault behind its tokens.
-/
import Keystore.Yaml.Document
import Keystore.Yaml.Token

namespace Keystore
namespace Yaml

/-- The state of reading tokens into nodes. -/
structure NodeSource where
  /-- The tokens that have not been read. -/
  rest : List Token
  /-- The fault behind the tokens. -/
  fault : Option Fault
  /-- The place of the last token that has been read. -/
  last : Position := ⟨0, 0⟩
  /-- What the tag handles stand for. -/
  handles : List (String × String) := []
  /-- The numbers of the nodes with anchors. -/
  anchors : List (String × Nat) := []
  nodes : Nodes := #[]

/-- A reader of tokens. -/
abbrev Parse := StateT NodeSource (Except Fault)

namespace Parse

/-- The next token; at the fault behind the tokens there is none to look at. -/
def next? : Parse (Option TokenKind) := do
  let s ← get
  match s.rest with
  | t :: _ => return some t.kind
  | [] =>
    if let some fault := s.fault then throw fault
    return none

/-- The place of the next token, or the last place. -/
def here : Parse Position := do
  let s ← get
  return (s.rest.head?.map (·.position)).getD s.last

/-- Finds a flaw at the next token. -/
def flawed {α : Type} (flaw : Flaw) : Parse α := do throw (.malformed flaw (← here))

/-- Reads a token. -/
def skip : Parse Unit := do
  let position ← here
  modify fun s => { s with rest := s.rest.drop 1, last := position }

/-- Reads a token if it is of the given kind, and says whether it was. -/
def accept (kind : TokenKind) : Parse Bool := do
  if (← next?) = some kind then
    skip
    return true
  else return false

/-- Reads a token of the given kind. -/
def expect (kind : TokenKind) (flaw : Flaw) : Parse Unit := do
  if !(← accept kind) then flawed flaw

/-- Whether one of the given tokens comes next. -/
def isNext (kinds : List TokenKind) : Parse Bool := return (← next?).any kinds.contains

/-! ## Nodes and their marks -/

/-- Puts a node behind the others and gives its number. -/
def add (node : Node) : Parse Nat := do
  let id := (← get).nodes.size
  modify fun s => { s with nodes := s.nodes.push node }
  return id

/-- Puts a node behind the others, with a number that an anchor stands for if there is one. -/
def addAnchored (anchor : Option String) (node : Node) : Parse Nat := do
  let id ← add node
  if let some name := anchor then
    if ((← get).anchors.lookup name).isSome then flawed .repeatedAnchor
    modify fun s => { s with anchors := (name, id) :: s.anchors }
  return id

/-- Sets the parts of a collection, and gives its number. -/
def fill (id : Nat) (content : Content) : Parse Nat := do
  modify fun s => { s with nodes := s.nodes.withContent id content }
  return id

/-- The marks in front of a node. -/
structure Properties where
  anchor : Option String := none
  tag : Option String := none

/-- Writes a tag in full. -/
def fullTag (t : TagText) : Parse String := do
  match t.handle with
  | none => return t.suffix
  | some handle =>
    match (← get).handles.lookup handle with
    | some lead => return lead ++ t.suffix
    | none => flawed .unknownHandle

/-- Reads the marks in front of a node: an anchor and a tag, in either order and both
optional. -/
def properties : Parse Properties := do
  match ← next? with
  | some (.anchor name) =>
    skip
    match ← next? with
    | some (.tag t) =>
      skip
      return ⟨some name, some (← fullTag t)⟩
    | _ => return ⟨some name, none⟩
  | some (.tag t) =>
    skip
    match ← next? with
    | some (.anchor name) =>
      skip
      return ⟨some name, some (← fullTag t)⟩
    | _ => return ⟨none, some (← fullTag t)⟩
  | _ => return {}

/-- The tag of a collection. -/
def collectionTag (tag : Option String) (usual : Tag) : Tag :=
  match tag with
  | none => usual
  | some "!" => usual
  | some s => .ofString s

/-- The tag of a scalar. -/
def scalarTag (tag : Option String) (text : String) (plain : Bool) : Tag :=
  match tag with
  | none => if plain then .ofPlain text else .text
  | some "!" => .ofPlain text
  | some s => .ofString s

/-- The node that an alias stands for. -/
def aliased (name : String) : Parse Nat := do
  match (← get).anchors.lookup name with
  | some id =>
    skip
    return id
  | none => flawed .unknownAlias

/-- Where a node stands. -/
inductive Context where
  | flow
  /-- Inside a block collection, or on its own. -/
  | block
  /-- In a block mapping, where a list may start at the column of the mapping. -/
  | blockEntry
deriving DecidableEq, Repr

mutual

/-- Reads a node. -/
def node (context : Context) : Nat → Parse Nat
  | 0 => flawed .noNode
  | fuel + 1 => do
    match ← next? with
    | some (.aliasOf name) => aliased name
    | _ =>
      let position ← here
      content context (← properties) position fuel

/-- Reads a node behind its marks. -/
def content (context : Context) (marks : Properties) (position : Position) : Nat → Parse Nat
  | 0 => flawed .noNode
  | fuel + 1 => do
    let scalar (text : String) (plain : Bool) : Parse Nat :=
      addAnchored marks.anchor ⟨position, scalarTag marks.tag text plain, .scalar text⟩
    let list : Parse Nat :=
      addAnchored marks.anchor ⟨position, collectionTag marks.tag .list, .list []⟩
    let mapping : Parse Nat :=
      addAnchored marks.anchor ⟨position, collectionTag marks.tag .mapping, .mapping []⟩
    match ← next? with
    | some (.scalar text plain) =>
      skip
      scalar text plain
    | some .listOpen =>
      let id ← list
      skip
      fill id (.list (← flowItems true fuel))
    | some .mappingOpen =>
      let id ← mapping
      skip
      fill id (.mapping (← flowEntries true fuel))
    | kind =>
      if kind = some .item && context = .blockEntry then
        fill (← list) (.list (← indentlessItems fuel))
      else if kind = some .blockListStart && context ≠ .flow then
        let id ← list
        skip
        fill id (.list (← blockItems fuel))
      else if kind = some .blockMappingStart && context ≠ .flow then
        let id ← mapping
        skip
        fill id (.mapping (← blockEntries fuel))
      else if marks.anchor.isSome || marks.tag.isSome then scalar "" true
      else flawed .noNode

/-- Reads a node, or nothing if one of the given tokens comes next. -/
def nodeUnless (ends : List TokenKind) (context : Context) : Nat → Parse Nat
  | 0 => flawed .noNode
  | fuel + 1 => do
    if ← isNext ends then add (.empty (← here)) else node context fuel

/-- Reads a value behind its colon; without a colon there is nothing. -/
def valueUnless (ends : List TokenKind) (context : Context) : Nat → Parse Nat
  | 0 => flawed .noNode
  | fuel + 1 => do
    if ← accept .value then nodeUnless ends context fuel else add (.empty (← here))

/-- Reads the items of a block list, and its end. -/
def blockItems : Nat → Parse (List Nat)
  | 0 => flawed .noEnd
  | fuel + 1 => do
    if ← accept .item then
      let item ← nodeUnless [.item, .blockEnd] .block fuel
      return item :: (← blockItems fuel)
    else
      expect .blockEnd .noEnd
      return []

/-- Reads the items of a block list that starts at the column of the mapping around it. -/
def indentlessItems : Nat → Parse (List Nat)
  | 0 => flawed .noEnd
  | fuel + 1 => do
    if ← accept .item then
      let item ← nodeUnless [.item, .key, .value, .blockEnd] .block fuel
      return item :: (← indentlessItems fuel)
    else return []

/-- Reads the entries of a block mapping, and its end. -/
def blockEntries : Nat → Parse (List (Nat × Nat))
  | 0 => flawed .noEnd
  | fuel + 1 => do
    if ← accept .key then
      let key ← nodeUnless [.key, .value, .blockEnd] .blockEntry fuel
      let value ← valueUnless [.key, .value, .blockEnd] .blockEntry fuel
      return (key, value) :: (← blockEntries fuel)
    else
      expect .blockEnd .noEnd
      return []

/-- Reads the items of a flow list, and its closing bracket.  An item may be a mapping of one
key without braces. -/
def flowItems (isFirst : Bool) : Nat → Parse (List Nat)
  | 0 => flawed .noEnd
  | fuel + 1 => do
    if ← accept .listClose then return []
    if !isFirst then expect .comma .noEnd
    let position ← here
    if ← accept .listClose then return []
    else if ← accept .key then
      let id ← add ⟨position, .mapping, .mapping []⟩
      let key ← nodeUnless [.value, .comma, .listClose] .flow fuel
      let value ← valueUnless [.comma, .listClose] .flow fuel
      let _ ← fill id (.mapping [(key, value)])
      return id :: (← flowItems false fuel)
    else
      let item ← node .flow fuel
      return item :: (← flowItems false fuel)

/-- Reads the entries of a flow mapping, and its closing brace.  A key may be without a
value. -/
def flowEntries (isFirst : Bool) : Nat → Parse (List (Nat × Nat))
  | 0 => flawed .noEnd
  | fuel + 1 => do
    if ← accept .mappingClose then return []
    if !isFirst then expect .comma .noEnd
    if ← accept .mappingClose then return []
    else if ← accept .key then
      let key ← nodeUnless [.value, .comma, .mappingClose] .flow fuel
      let value ← valueUnless [.comma, .mappingClose] .flow fuel
      return (key, value) :: (← flowEntries false fuel)
    else
      let key ← node .flow fuel
      let value ← add (.empty (← here))
      return (key, value) :: (← flowEntries false fuel)

end

/-! ## Documents -/

/-- The tag handles that need no directive. -/
def knownHandles : List (String × String) := [("!", "!"), ("!!", Tag.lead)]

/-- Takes in the directives in front of a document; `versionSeen` says whether one of them was
for the version. -/
def directives (versionSeen : Bool) : Nat → Parse Unit
  | 0 => return
  | fuel + 1 => do
    match ← next? with
    | some (.directive (.version major)) =>
      if versionSeen || major ≠ 1 then flawed .version
      skip
      directives true fuel
    | some (.directive (.handle handle lead)) =>
      if ((← get).handles.lookup handle).isSome then flawed .repeatedHandle
      modify fun s => { s with handles := (handle, lead) :: s.handles }
      skip
      directives versionSeen fuel
    | some (.directive .reserved) =>
      skip
      directives versionSeen fuel
    | _ => return

/-- Reads the directives in front of a document, and its marker. -/
def documentStart (fuel : Nat) : Parse Unit := do
  modify fun s => { s with handles := [] }
  directives false fuel
  modify fun s => { s with handles := s.handles ++ knownHandles }
  expect .documentStart .noDocumentStart

/-- Reads the markers behind a document. -/
def documentEnds : Nat → Parse Unit
  | 0 => return
  | fuel + 1 => do
    if ← accept .documentEnd then documentEnds fuel

/-- Whether the next token belongs to what is around documents. -/
def atBoundary : Parse Bool := do
  match ← next? with
  | none => return true
  | some (.directive _) => return true
  | some .documentStart => return true
  | some .documentEnd => return true
  | _ => return false

/-- Reads the only document of a text; `none` if there is no document in it. -/
def document (fuel : Nat) : Parse (Option Nat) := do
  if (← next?).isNone then return none
  let root ←
    if !(← atBoundary) || (← next?) = some .documentEnd then do
      modify fun s => { s with handles := knownHandles }
      node .block fuel
    else do
      documentStart fuel
      if ← atBoundary then add (.empty (← here)) else node .block fuel
  documentEnds fuel
  if (← next?).isSome then
    documentStart fuel
    flawed .severalDocuments
  return some root

end Parse

/-- The document that tokens make; `none` if there is none. -/
def Document.ofTokens? (s : TokenStream) : Except Fault (Option Document) := do
  let source : NodeSource := { rest := s.tokens, fault := s.fault }
  let (root, source) ← (Parse.document (4 * s.tokens.length + 8)).run source
  return root.map (⟨source.nodes, ·⟩)

end Yaml
end Keystore
