/-
# The tokens of a text

Reads a text into its tokens.  Block collections are known by their columns: a collection is
open as long as no token stands to the left of its column.  A key is known only by the colon
behind it, so the place of every token that may start a key is remembered until a colon comes,
the line ends, or it is too far away; the colon then puts the sign for a key in front of that
token.  As long as such a place is remembered, what stands behind it is not told for good.
-/
import Keystore.Yaml.Token.Property
import Keystore.Yaml.Token.Scalar

namespace Keystore
namespace Yaml

/-- A place where a key may have started. -/
structure PossibleKey where
  /-- The number of tokens in front of it. -/
  before : Nat
  /-- The cursor at the place. -/
  start : Cursor
  /-- Whether there has to be a key, because a block mapping goes on there. -/
  required : Bool

/-- The state of reading a text into tokens. -/
structure Layout where
  tokens : Array Token := #[]
  /-- The column of the innermost open block collection; -1 if none is open. -/
  indent : Int := -1
  /-- The columns around it, from the inside outwards. -/
  outer : List Int := []
  /-- Where a key may have started: for the innermost flow collection, then for the ones around
  it, and at last outside of them. -/
  keys : List (Option PossibleKey) := [none]
  /-- Whether a key may start at the next token. -/
  keyAllowed : Bool := true

/-- A reader that puts tokens into a layout. -/
abbrev Lay := StateT Layout Read

/-- The most characters between the start of a key and its colon. -/
def keyLimit : Nat := 1024

namespace Layout

/-- Whether a flow collection is open. -/
def inFlow (l : Layout) : Bool := 1 < l.keys.length

/-- Puts a token behind the others. -/
def push (kind : TokenKind) (position : Position) : Lay Unit :=
  modify fun l => { l with tokens := l.tokens.push ⟨kind, position⟩ }

/-- Reads `n` characters and puts a token for them behind the others. -/
def pushSign (kind : TokenKind) (n : Nat) : Lay Unit := do
  let position := (← getThe Cursor).position
  (advance n : Read Unit)
  push kind position

/-- Reads a token and puts it behind the others. -/
def pushRead (read : Read TokenKind) : Lay Unit := do
  let position := (← getThe Cursor).position
  push (← read) position

/-- Says whether a key may start at the next token. -/
def allowKey (allowed : Bool) : Lay Unit := modify ({ · with keyAllowed := allowed })

/-! ## Block collections -/

/-- Opens a block collection at a column behind the innermost one, with its token in front of
the last tokens, all but `before` of them. -/
def openBlock (kind : TokenKind) (column before : Nat) (position : Position) : Lay Unit :=
  modify fun l =>
    if l.indent < (column : Int) then
      { l with
        outer := l.indent :: l.outer
        indent := column
        tokens := l.tokens.insertIdxIfInBounds before ⟨kind, position⟩ }
    else l

/-- Closes the block collections from the inside outwards that start behind a column. -/
def closed (column : Int) (position : Position) :
    Int → List Int → Array Token → Int × List Int × Array Token
  | indent, [], tokens => (indent, [], tokens)
  | indent, next :: outer, tokens =>
    if column < indent then
      closed column position next outer (tokens.push ⟨.blockEnd, position⟩)
    else (indent, next :: outer, tokens)

/-- Closes the block collections that start behind a column, unless a flow collection is open. -/
def closeBlocks (column : Int) : Lay Unit := do
  let position := (← getThe Cursor).position
  modify fun l =>
    if l.inFlow then l
    else
      let (indent, outer, tokens) := closed column position l.indent l.outer l.tokens
      { l with indent, outer, tokens }

/-! ## Keys -/

/-- Whether the place of a possible key is too far behind. -/
def isStale (here : Cursor) (key : PossibleKey) : Bool :=
  key.start.line ≠ here.line || keyLimit < here.index - key.start.index

/-- Forgets the keys that are too far behind. -/
def dropStaleKeys : Lay Unit := do
  let here ← getThe Cursor
  let l ← get
  if l.keys.any fun key => key.any fun k => k.required && isStale here k then
    (flawed .keyWithoutColon : Read Unit)
  set { l with keys := l.keys.map (Option.filter fun k => !isStale here k) }

/-- Sets where the key of the innermost flow collection may have started. -/
def setKey (key : Option PossibleKey) : Lay Unit :=
  modify fun l => { l with keys := key :: l.keys.drop 1 }

/-- Forgets the key of the innermost flow collection. -/
def dropKey : Lay Unit := do
  if (← get).keys.head?.join.any (·.required) then (flawed .keyWithoutColon : Read Unit)
  setKey none

/-- Remembers that a key may start here. -/
def noteKey : Lay Unit := do
  let l ← get
  if l.keyAllowed then
    dropKey
    let start ← getThe Cursor
    setKey (some ⟨l.tokens.size, start, !l.inFlow && l.indent = start.column⟩)

/-! ## One token after the other -/

/-- Reads blanks, comments and line breaks.  Outside of flow collections a key may start at
every line. -/
def skipBlanks : Nat → Lay Unit
  | 0 => return
  | fuel + 1 => do
    let _ ← (takeRun (· = ' ') : Read _)
    if (← (peek : Read _)) = some '#' then
      let _ ← (takeRun (! isBreak ·) : Read _)
    if (← (lineBreak : Read _)).isEmpty then return
    if !(← get).inFlow then allowKey true
    skipBlanks fuel

/-- Reads what ends all collections: a directive or a marker between documents. -/
def readBoundary (read : Read TokenKind) : Lay Unit := do
  closeBlocks (-1)
  dropKey
  allowKey false
  pushRead read

/-- Reads an opening bracket or brace. -/
def readOpen (kind : TokenKind) : Lay Unit := do
  noteKey
  modify fun l => { l with keys := none :: l.keys }
  allowKey true
  pushSign kind 1

/-- Reads a closing bracket or brace. -/
def readClose (kind : TokenKind) : Lay Unit := do
  dropKey
  if !(← get).inFlow then (flawed .unbalanced : Read Unit)
  modify fun l => { l with keys := l.keys.drop 1 }
  allowKey false
  pushSign kind 1

/-- Reads a comma. -/
def readComma : Lay Unit := do
  allowKey true
  dropKey
  pushSign .comma 1

/-- Opens a block collection here, if none starts at this column and one may. -/
def openBlockHere (kind : TokenKind) (flaw : Flaw) : Lay Unit := do
  let l ← get
  if !l.inFlow then
    if !l.keyAllowed then (flawed flaw : Read Unit)
    let here ← getThe Cursor
    openBlock kind here.column l.tokens.size here.position

/-- Reads the dash of an item. -/
def readItem : Lay Unit := do
  openBlockHere .blockListStart .itemNotAllowed
  allowKey true
  dropKey
  pushSign .item 1

/-- Reads the question mark of a key. -/
def readKey : Lay Unit := do
  openBlockHere .blockMappingStart .keyNotAllowed
  allowKey (!(← get).inFlow)
  dropKey
  pushSign .key 1

/-- Reads the colon of a value, which makes a key of what may have been one. -/
def readValue : Lay Unit := do
  let l ← get
  match l.keys.head?.join with
  | some key =>
    setKey none
    let position := key.start.position
    modify fun l =>
      { l with tokens := l.tokens.insertIdxIfInBounds key.before ⟨.key, position⟩ }
    if !l.inFlow then openBlock .blockMappingStart key.start.column key.before position
    allowKey false
  | none =>
    openBlockHere .blockMappingStart .valueNotAllowed
    allowKey (!l.inFlow)
    dropKey
  pushSign .value 1

/-- Reads a token that may be a key, or stand in front of one. -/
def readInline (read : Read TokenKind) : Lay Unit := do
  noteKey
  allowKey false
  pushRead read

/-- Reads a plain scalar. -/
def readPlainToken : Lay Unit := do
  noteKey
  let l ← get
  let position := (← getThe Cursor).position
  let (text, lineEnded) ← (readPlain l.inFlow (l.indent + 1) : Read _)
  allowKey lineEnded
  push (.scalar text true) position

/-- Reads a block scalar. -/
def readBlockToken (folding : Bool) : Lay Unit := do
  allowKey true
  dropKey
  let indent := (← get).indent
  pushRead (return .scalar (← readBlock folding indent) false)

/-- Whether a character starts a token that is no plain scalar, or none at all. -/
def isIndicator (c : Char) : Bool :=
  isFlowSign c ||
    ['#', '&', '*', '!', '|', '>', '\'', '"', '%', '@', '\x60'].contains c

/-- Whether a plain scalar starts with the first of two characters. -/
def startsPlain (inFlow : Bool) (c : Char) (after : Option Char) : Bool :=
  if c = '-' then !endsToken after
  else if c = '?' || c = ':' then !inFlow && !endsToken after
  else !endsToken (some c) && !isIndicator c

/-- Reads the next token, which starts with the given character. -/
def readToken (c : Char) : Lay Unit := do
  let here ← getThe Cursor
  let after := here.rest[1]?
  let inFlow := (← get).inFlow
  let atMarker := here.column = 0 && here.atMarker
  if c = '%' && here.column = 0 then
    readBoundary do
      advance 1
      return .directive (← readDirective)
  else if c = '-' && atMarker then readBoundary do advance 3; return .documentStart
  else if c = '.' && atMarker then readBoundary do advance 3; return .documentEnd
  else if c = '[' then readOpen .listOpen
  else if c = '{' then readOpen .mappingOpen
  else if c = ']' then readClose .listClose
  else if c = '}' then readClose .mappingClose
  else if c = ',' then readComma
  else if c = '-' && endsToken after then readItem
  else if c = '?' && (inFlow || endsToken after) then readKey
  else if c = ':' && (inFlow || endsToken after) then readValue
  else if c = '*' then readInline do advance 1; return .aliasOf (← readAnchor)
  else if c = '&' then readInline do advance 1; return .anchor (← readAnchor)
  else if c = '!' then readInline do return .tag (← readTag)
  else if c = '|' && !inFlow then readBlockToken false
  else if c = '>' && !inFlow then readBlockToken true
  else if c = '\'' || c = '"' then readInline do return .scalar (← readQuoted c) false
  else if startsPlain inFlow c after then readPlainToken
  else (flawed .noToken : Read Unit)

/-- Reads what is in front of the next token, and this token; says whether there was one. -/
def readNext : Lay Bool := do
  skipBlanks (← (stepsLeft : Read _))
  dropStaleKeys
  let here ← getThe Cursor
  closeBlocks here.column
  match here.rest with
  | [] =>
    closeBlocks (-1)
    dropKey
    return false
  | c :: _ =>
    readToken c
    dropStaleKeys
    return true

/-- The number of tokens that are told for good: a later colon can put nothing in front of
them. -/
def settled (l : Layout) : Nat :=
  l.keys.foldl (fun n key => (key.map (min n ·.before)).getD n) l.tokens.size

/-- Reads tokens up to the end of the text, or up to a fault. -/
def readTokens : Nat → Layout → Cursor → TokenStream
  | 0, l, _ => ⟨l.tokens.toList, none⟩
  | fuel + 1, l, here =>
    match (readNext.run l).run here with
    | .ok ((true, l), here) => readTokens fuel l here
    | .ok ((false, l), _) => ⟨l.tokens.toList, none⟩
    | .error fault => ⟨l.tokens.toList.take l.settled, some fault⟩

end Layout

/-- The place of the first character of a text that no document may hold. -/
def unprintable? (text : List Char) : Option Position :=
  let start := text.takeWhile isDocumentChar
  if start.length = text.length then none
  else some ((Cursor.mk text 0 0 0).skip start.length).position

/-- The tokens of a text.  A byte order mark in front of it is no part of any token. -/
def TokenStream.ofText (text : List Char) : TokenStream :=
  match unprintable? text with
  | some position => ⟨[], some (.malformed .unprintable position)⟩
  | none =>
    let start : Cursor := { rest := text }
    let start := if text.head? = some '\uFEFF' then start.next else start
    Layout.readTokens (text.length + 1) {} start

end Yaml
end Keystore
