/-
# Document values

The values that a configuration document is made of: scalars, lists, pairs, sets of scalars, and
mappings from scalars to values.  Mappings keep the order in which their keys first arrived.  Two
keys are the same when they have the same `Scalar.rank`: numbers of all kinds are compared by
value, truth values counting as one and zero, and moments by the instant they mean.

A list or a mapping may be a part of itself.  Such a value has no end, and is cut off where a
collection would stand inside of itself: there is only a sign for it.
-/
import Keystore.Calendar
import Keystore.Decimal.Shortest
import Keystore.Text.Quoted

namespace Keystore

/-- A value without parts. -/
inductive Scalar where
  | null
  | bool (b : Bool)
  | int (n : Int)
  /-- A binary64 number. -/
  | float (x : Binary)
  /-- What is not a number, told from all others of the kind by the node that it comes from. -/
  | nanOf (node : Nat)
  | text (s : String)
  | date (d : Date)
  | moment (m : Moment)
  | bytes (bs : List UInt8)
deriving DecidableEq, Repr

/-- What decides whether two scalars are the same key. -/
inductive Rank where
  | null
  /-- A number, counted in the least positive binary64 number. -/
  | number (units : Int)
  | infinite (negative : Bool)
  | nan
  /-- Not a number, from a node of its own. -/
  | nanOf (node : Nat)
  | text (s : String)
  | date (d : Date)
  /-- A moment on a clock that is not known. -/
  | clock (ticks : Int)
  /-- An instant of universal time. -/
  | instant (ticks : Int)
  | bytes (bs : List UInt8)
deriving DecidableEq, Repr

namespace Scalar

/-- What decides whether the scalar is the same key as another. -/
def rank : Scalar → Rank
  | null => .null
  | bool b => .number (Binary.unitsOfInt (if b then 1 else 0))
  | int n => .number (Binary.unitsOfInt n)
  | float .nan => .nan
  | float (.infinite negative) => .infinite negative
  | float (.finite negative m q) => .number (Binary.unitsOf negative m q)
  | nanOf node => .nanOf node
  | text s => .text s
  | date d => .date d
  | moment m =>
    match m.universalTicks? with
    | some ticks => .instant ticks
    | none => .clock m.ticks
  | bytes bs => .bytes bs

/-- Whether two scalars are the same key. -/
def sameKey (a b : Scalar) : Bool := a.rank = b.rank

/-- The scalar as it stands alone. -/
def plain : Scalar → String
  | null => "None"
  | bool b => if b then "True" else "False"
  | int n => Numeral.ofInt n
  | float x => Decimal.render x
  | nanOf _ => Decimal.render .nan
  | text s => s
  | date d => d.render
  | moment m => m.render
  | bytes bs => Quoted.bytes bs

/-- The scalar as it is shown inside a list. -/
def literal : Scalar → String
  | text s => Quoted.text s
  | date d => d.literal
  | moment m => m.literal
  | s => s.plain

/-- Whether the scalar can be written: an integer may have too many digits. -/
def isWritable : Scalar → Bool
  | int n => Numeral.isWritable n
  | _ => true

/-- The number, of 64 bits, that a truth value or an integer is scattered by.  An integer is taken
modulo a prime number with its sign, and a remainder of minus one makes way for minus two. -/
def hash? : Scalar → Option Nat
  | bool b => some b.toNat
  | int n =>
    let rest := n.tmod 0x1fffffffffffffff
    some ((if rest = -1 then -2 else rest) % 0x10000000000000000).toNat
  | _ => none

end Scalar

/-! ## Sets -/

/-- The number of slots for the members of a set: eight, or the least power of two that is more
than twice the number of members if there are more than four. -/
def slotCount (members : Nat) : Nat :=
  if members ≤ 4 then 8 else Nat.pow 2 ((2 * members).log2 + 1)

/-- The first free slot on a way through the slots of a set.  The way looks at ten slots in a row
where there are as many, at one elsewhere, and then goes on to a slot that the rest of a hash has a
say in, which gets less with each of the `rounds`. -/
def freeSlot (slots : Nat) (taken : List Nat) : (rounds slot rest : Nat) → Nat
  | 0, slot, _ => slot
  | rounds + 1, slot, rest =>
    let row := if slot + 9 < slots then List.range' slot 10 else [slot]
    match row.find? fun slot => !taken.contains slot with
    | some free => free
    | none => freeSlot slots taken rounds ((slot * 5 + 1 + rest / 32) % slots) (rest / 32)

/-- Members with their slots, each with the first one that those before it have left free.  A hash
has had its say after thirteen rounds, and from then on the way comes through all slots. -/
def slotted (slots : Nat) (members : List (Nat × Scalar)) : List (Nat × Scalar) :=
  members.foldl (fun seated (hash, s) =>
    (freeSlot slots (seated.map (·.1)) (slots + 13) (hash % slots) hash, s) :: seated) []

/-- The members of a set in the order in which they are listed.  Truth values and integers have
slots; with other members in the set, all are listed as they arrive. -/
def listedMembers (members : List Scalar) : List Scalar :=
  match members.mapM fun s => s.hash?.map (·, s) with
  | some hashed =>
    ((slotted (slotCount members.length) hashed).mergeSort fun a b => a.1 ≤ b.1).map (·.2)
  | none => members

/-- A document value. -/
inductive Value where
  | scalar (s : Scalar)
  | list (items : List Value)
  | pair (first second : Value)
  | set (members : List Scalar)
  /-- A mapping, with its keys in the order in which they first arrived. -/
  | mapping (entries : List (Scalar × Value))
  /-- A list that this place is inside of. -/
  | outerList
  /-- A mapping that this place is inside of. -/
  | outerMapping
deriving Repr

/-- The keys of a mapping with their values. -/
abbrev Entries := List (Scalar × Value)

namespace Entries

/-- The value of a key. -/
def find? (es : Entries) (key : Scalar) : Option Value :=
  (List.find? (fun (e : Scalar × Value) => e.1.sameKey key) es).map (·.2)

/-- The value of a key that is a text. -/
def get? (es : Entries) (key : String) : Option Value := find? es (.text key)

/-- Gives a key a value: a key that is present stays where it is and as it is written, a new
one goes to the end. -/
def insert {α : Type} : List (Scalar × α) → Scalar → α → List (Scalar × α)
  | [], key, value => [(key, value)]
  | e :: es, key, value =>
    if e.1.sameKey key then (e.1, value) :: es else e :: insert es key value

end Entries

namespace Value

/-- The value that stands for nothing. -/
def null : Value := .scalar .null

/-- A text. -/
def text (s : String) : Value := .scalar (.text s)

/-- A truth value. -/
def bool (b : Bool) : Value := .scalar (.bool b)

/-- Whether the value counts as something: zero, the empty text, what has no parts, and no
value at all do not. -/
def isSomething : Value → Bool
  | .scalar .null => false
  | .scalar (.bool b) => b
  | .scalar (.int n) => n ≠ 0
  | .scalar (.float x) => !x.isZero
  | .scalar (.text s) => s ≠ ""
  | .scalar (.bytes bs) => !bs.isEmpty
  | .scalar _ => true
  | .list items => !items.isEmpty
  | .set members => !members.isEmpty
  | .mapping entries => !entries.isEmpty
  | _ => true

/-- A set as it is shown. -/
def membersLiteral (members : List Scalar) : String :=
  if members.isEmpty then "set()"
  else "\x7b" ++ ", ".intercalate ((listedMembers members).map Scalar.literal) ++ "\x7d"

mutual

/-- The value as it is shown inside a list. -/
def literal : Value → String
  | .scalar s => s.literal
  | .list items => "[" ++ ", ".intercalate (literals items) ++ "]"
  | .pair first second => "(" ++ literal first ++ ", " ++ literal second ++ ")"
  | .set members => membersLiteral members
  | .mapping entries => "\x7b" ++ ", ".intercalate (entryLiterals entries) ++ "\x7d"
  | .outerList => "[...]"
  | .outerMapping => "\x7b...\x7d"

/-- The values of a list, each as it is shown there. -/
def literals : List Value → List String
  | [] => []
  | item :: items => literal item :: literals items

/-- The entries of a mapping, each as it is shown there. -/
def entryLiterals : List (Scalar × Value) → List String
  | [] => []
  | (key, value) :: entries => (key.literal ++ ": " ++ literal value) :: entryLiterals entries

end

mutual

/-- Whether everything in the value can be written. -/
def isWritable : Value → Bool
  | .scalar s => s.isWritable
  | .list items => areWritable items
  | .pair first second => isWritable first && isWritable second
  | .set members => members.all Scalar.isWritable
  | .mapping entries => areEntriesWritable entries
  | .outerList => true
  | .outerMapping => true

/-- Whether everything in some values can be written. -/
def areWritable : List Value → Bool
  | [] => true
  | item :: items => isWritable item && areWritable items

/-- Whether everything in the entries of a mapping can be written. -/
def areEntriesWritable : List (Scalar × Value) → Bool
  | [] => true
  | (key, value) :: entries => key.isWritable && isWritable value && areEntriesWritable entries

end

/-- The value as it stands alone: a scalar without quotes, anything else as inside a list. -/
def plain : Value → String
  | .scalar s => s.plain
  | v => v.literal

/-- The word for the kind of a value. -/
def kind : Value → String
  | .scalar .null => "NoneType"
  | .scalar (.bool _) => "bool"
  | .scalar (.int _) => "int"
  | .scalar (.float _) => "float"
  | .scalar (.nanOf _) => "float"
  | .scalar (.text _) => "str"
  | .scalar (.date _) => "datetime.date"
  | .scalar (.moment _) => "datetime.datetime"
  | .scalar (.bytes _) => "bytes"
  | .list _ => "list"
  | .pair _ _ => "tuple"
  | .set _ => "set"
  | .mapping _ => "dict"
  | .outerList => "list"
  | .outerMapping => "dict"

end Value

/-! ## Merging -/

namespace Entries

mutual

/-- The value of a key after an update: mappings are merged, anything else is replaced. -/
def updated (old : Option Value) (new : Value) : Value :=
  match new with
  | .mapping changes =>
    match old with
    | some (.mapping entries) => .mapping (merge entries changes)
    | _ => new
  | _ => new

/-- The entries after an update, key by key in the order of the update. -/
def merge (entries : Entries) (changes : List (Scalar × Value)) : Entries :=
  match changes with
  | [] => entries
  | (key, value) :: rest =>
    merge (Entries.insert entries key (updated (entries.find? key) value)) rest

end

end Entries
end Keystore
