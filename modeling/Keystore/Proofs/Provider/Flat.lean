/-
Providers without layers.

However deep the layers of a provider are nested, it draws on some settings in a certain order:
settings of its own, the environment, and shared mappings.  These are its *leaves*
(`Provider.leaves`).  To ask a provider is to go through the contents of its leaves, from left to
right, to the first text that is not empty (`Provider.get_eq_some_iff`).  A name without such a
text in a leaf is *unset* there, and it does not matter in which of the three ways it is.

So providers with the same leaves answer the same, however these are grouped, and so do those
whose leaves are spelled in another way, or have others among them in which everything is unset
(`Rearranged`).  The configuration of a lookup is read off three answers, each for itself
(`Provider.reads`).
-/
import Mathlib.Data.List.Basic
import Keystore.Proofs.Association
import Keystore.Proofs.Provider

namespace Keystore

/-! ## Unset names -/

/-- What is listed under a name counts as unset: nothing at all, no text, or an empty text. -/
def IsUnset (entry : Option (Option String)) : Prop :=
  entry = none ∨ entry = some none ∨ entry = some (some "")

namespace Settings

/-- The settings have no text under the name that is not empty. -/
def Unset (s : Settings) (name : String) : Prop := IsUnset (s.lookup name)

/-- What the settings list in different ways is unset in both of them. -/
def Respelled (s s' : Settings) : Prop :=
  ∀ name, s.lookup name = s'.lookup name ∨ s.Unset name ∧ s'.Unset name

variable {s s' : Settings} {name text : String}

lemma value?_eq_none_iff : s.value? name = none ↔ s.Unset name := by
  rw [value?, nonempty?_eq_none_iff, Unset, IsUnset, Option.join_eq_none_iff,
    Option.join_eq_some_iff, or_assoc]

lemma value?_eq_some_iff :
    s.value? name = some text ↔ s.lookup name = some (some text) ∧ text ≠ "" := by
  rw [value?, nonempty?_eq_some_iff, Option.join_eq_some_iff]

lemma Respelled.value?_eq (h : s.Respelled s') (name : String) :
    s.value? name = s'.value? name := by
  rcases h name with heq | ⟨hs, hs'⟩
  · rw [value?, value?, heq]
  · rw [value?_eq_none_iff.2 hs, value?_eq_none_iff.2 hs']

lemma lookup_insert (s : Settings) (name other : String) (value : Option String) :
    (s.insert name value).lookup other = if other = name then some value else s.lookup other := by
  rw [insert, lookup_cons_eq_ite, lookup_filter_ne]
  split <;> rfl

lemma lookup_erase (s : Settings) (name other : String) :
    (s.erase name).lookup other = if other = name then none else s.lookup other :=
  lookup_filter_ne name other s

end Settings

lemma Sources.mapping_modifyMapping (src : Sources) (name other : String)
    (change : Settings → Settings) :
    (src.modifyMapping name change).mapping other
      = if other = name then change (src.mapping other) else src.mapping other := by
  rw [mapping, modifyMapping, lookup_cons_eq_ite, lookup_filter_ne]
  split
  · next h => rw [h, Option.getD_some]
  · rfl

/-! ## The first text -/

/-- The first text that some settings have under the name. -/
def firstText (all : List Settings) (name : String) : Option String :=
  all.findSome? (·.value? name)

/-- The text is listed under the name and is not empty, and the name is unset further left. -/
def IsFirst (all : List Settings) (name text : String) : Prop :=
  ∃ left own right, all = left ++ own :: right ∧ (∀ s ∈ left, s.Unset name) ∧
    own.lookup name = some (some text) ∧ text ≠ ""

/-- The settings on the right are those on the left, but that some are spelled in another way, and
that some in which everything is unset are put in or left out. -/
inductive Rearranged : List Settings → List Settings → Prop where
  | nil : Rearranged [] []
  | keep {s s' : Settings} {all all' : List Settings} (h : s.Respelled s')
    (hrest : Rearranged all all') : Rearranged (s :: all) (s' :: all')
  | put {s : Settings} {all all' : List Settings} (h : ∀ name, s.Unset name)
    (hrest : Rearranged all all') : Rearranged all (s :: all')
  | leave {s : Settings} {all all' : List Settings} (h : ∀ name, s.Unset name)
    (hrest : Rearranged all all') : Rearranged (s :: all) all'

section First

variable {all all' : List Settings} {name text : String}

lemma firstText_cons (s : Settings) (all : List Settings) (name : String) :
    firstText (s :: all) name = (s.value? name).or (firstText all name) := by
  rw [firstText, List.findSome?_cons]
  rcases s.value? name with _ | text <;> rfl

lemma firstText_append (all more : List Settings) (name : String) :
    firstText (all ++ more) name = (firstText all name).or (firstText more name) :=
  List.findSome?_append

lemma firstText_eq_some_iff : firstText all name = some text ↔ IsFirst all name text := by
  rw [firstText, List.findSome?_eq_some_iff]
  constructor
  · rintro ⟨left, own, right, hall, hown, hleft⟩
    exact ⟨left, own, right, hall, fun s hs => Settings.value?_eq_none_iff.1 (hleft s hs),
      Settings.value?_eq_some_iff.1 hown⟩
  · rintro ⟨left, own, right, hall, hleft, hown⟩
    exact ⟨left, own, right, hall, Settings.value?_eq_some_iff.2 hown,
      fun s hs => Settings.value?_eq_none_iff.2 (hleft s hs)⟩

lemma firstText_eq_none_iff : firstText all name = none ↔ ∀ s ∈ all, s.Unset name := by
  rw [firstText, List.findSome?_eq_none_iff]
  simp only [Settings.value?_eq_none_iff]

/-- **Rearranged settings have the same texts.** -/
lemma Rearranged.firstText_eq (h : Rearranged all all') (name : String) :
    firstText all name = firstText all' name := by
  induction h with
  | nil => rfl
  | keep h hrest ih => rw [firstText_cons, firstText_cons, h.value?_eq name, ih]
  | put h hrest ih =>
    rw [firstText_cons, Settings.value?_eq_none_iff.2 (h name), Option.none_or, ih]
  | leave h hrest ih =>
    rw [firstText_cons, Settings.value?_eq_none_iff.2 (h name), Option.none_or, ih]

end First

namespace Provider

/-! ## Leaves -/

/-- A provider that is not made of layers. -/
inductive Leaf where
  /-- Settings of its own. -/
  | fixed (settings : Settings)
  /-- The environment variables. -/
  | environment
  /-- The shared mapping of the given name. -/
  | shared (name : String)
deriving DecidableEq

/-- The settings of the leaf as of now. -/
def Leaf.contents (src : Sources) : Leaf → Settings
  | fixed settings => settings
  | environment => src.environment
  | shared name => src.mapping name

mutual

/-- The leaves of a provider, from the highest precedence to the lowest. -/
def leaves : Provider → List Leaf
  | fixed settings => [.fixed settings]
  | environment => [.environment]
  | shared name => [.shared name]
  | layered layers => leavesOf layers

/-- The leaves of some layers. -/
def leavesOf : List Provider → List Leaf
  | [] => []
  | layer :: rest => leaves layer ++ leavesOf rest

end

lemma leavesOf_append (layers more : List Provider) :
    leavesOf (layers ++ more) = leavesOf layers ++ leavesOf more := by
  induction layers with
  | nil => rfl
  | cons layer layers ih => rw [List.cons_append, leavesOf, leavesOf, ih, List.append_assoc]

/-- A group of layers has the leaves that its layers have without it. -/
lemma leaves_group (left inner right : List Provider) :
    (layered (left ++ layered inner :: right)).leaves
      = (layered (left ++ (inner ++ right))).leaves := by
  rw [leaves, leaves, leavesOf_append, leavesOf_append, leavesOf_append, leavesOf, leaves]

/-- The settings that a provider draws on as of now. -/
def contents (src : Sources) (p : Provider) : List Settings := p.leaves.map (Leaf.contents src)

mutual

/-- **A provider answers with the first text of its leaves.** -/
theorem get_eq_firstText (src : Sources) (p : Provider) (name : String) :
    p.get src name = firstText (p.contents src) name := by
  have hleaf : ∀ s : Settings, s.value? name = firstText [s] name := fun s => by
    rw [firstText, List.findSome?_singleton]
  cases p with
  | fixed settings => exact hleaf settings
  | environment => exact hleaf src.environment
  | shared mapping => exact hleaf (src.mapping mapping)
  | layered layers => exact getFirst_eq_firstText src layers name

theorem getFirst_eq_firstText (src : Sources) (layers : List Provider) (name : String) :
    getFirst src layers name = firstText ((leavesOf layers).map (Leaf.contents src)) name := by
  cases layers with
  | nil => rfl
  | cons layer rest =>
    have hlayer := get_eq_firstText src layer name
    have hrest := getFirst_eq_firstText src rest name
    rw [getFirst_cons, nonempty?_get, hlayer, hrest, leavesOf, List.map_append, firstText_append]
    rfl

end

section Get

variable {src src' : Sources} {p p' : Provider} {name text : String}

lemma get_eq_some_iff : p.get src name = some text ↔ IsFirst (p.contents src) name text := by
  rw [get_eq_firstText, firstText_eq_some_iff]

lemma get_eq_none_iff : p.get src name = none ↔ ∀ s ∈ p.contents src, s.Unset name := by
  rw [get_eq_firstText, firstText_eq_none_iff]

lemma get_ne_empty (src : Sources) (p : Provider) (name : String) : p.get src name ≠ some "" := by
  rw [Ne, get_eq_some_iff]
  rintro ⟨left, own, right, -, -, -, hne⟩
  exact hne rfl

/-- A provider whose leaves are spelled in another way. -/
lemma rearranged_contents (h : ∀ leaf : Leaf, (leaf.contents src).Respelled (leaf.contents src'))
    (p : Provider) : Rearranged (p.contents src) (p.contents src') := by
  rw [contents, contents]
  induction p.leaves with
  | nil => exact .nil
  | cons leaf rest ih => exact .keep (h leaf) ih

/-! ## The configuration of a lookup -/

/-- Two providers, each with the sources that it draws on, answer the same. -/
structure SameAnswers (src : Sources) (p : Provider) (src' : Sources) (p' : Provider) : Prop where
  get : ∀ name, p.get src name = p'.get src' name
  read : p.read src = p'.read src'

/-- The configuration of a lookup depends on answers only. -/
lemma sameAnswers_of_get (h : ∀ name, p.get src name = p'.get src' name) :
    SameAnswers src p src' p' := by
  refine ⟨h, ?_⟩
  rw [read, read]
  simp only [setting, h]

lemma sameAnswers_of_leaves (h : p.leaves = p'.leaves) : SameAnswers src p src p' := by
  refine sameAnswers_of_get fun name => ?_
  rw [get_eq_firstText, get_eq_firstText, contents, contents, h]

lemma sameAnswers_of_rearranged (h : Rearranged (p.contents src) (p'.contents src')) :
    SameAnswers src p src' p' := by
  refine sameAnswers_of_get fun name => ?_
  rw [get_eq_firstText, get_eq_firstText, h.firstText_eq]

/-- What is read from a provider.  The root and the override are its answers.  The policy is told by
the answer for the lookup type alone: a word that is not known is reported, and whole names
are asked for. -/
structure Reads (src : Sources) (p : Provider) (c : Logged LookupConfig) : Prop where
  root : c.value.rootDirectory = p.get src "ROS_SECURITY_ROOT_DIRECTORY"
  override : c.value.override = p.get src "ROS_SECURITY_NODE_DIRECTORY"
  unset : p.get src "ROS_SECURITY_LOOKUP_TYPE" = none → c.value.policy = .whole ∧ c.events = []
  whole : p.get src "ROS_SECURITY_LOOKUP_TYPE" = some "MATCH_EXACT" →
    c.value.policy = .whole ∧ c.events = []
  beginning : p.get src "ROS_SECURITY_LOOKUP_TYPE" = some "MATCH_PREFIX" →
    c.value.policy = .beginning ∧ c.events = []
  unrecognized : ∀ word, p.get src "ROS_SECURITY_LOOKUP_TYPE" = some word →
    word ≠ "MATCH_EXACT" → word ≠ "MATCH_PREFIX" →
    c.value.policy = .whole ∧ c.events = [.unrecognizedPolicy word] ∧
      (Event.unrecognizedPolicy word).severity = .warning

/-- **What is read from a provider.** -/
theorem reads (src : Sources) (p : Provider) : p.Reads src (p.read src) := by
  have hpolicy : ∀ answer, p.get src "ROS_SECURITY_LOOKUP_TYPE" = answer →
      (p.read src).value.policy = (MatchPolicy.ofSetting answer).value ∧
        (p.read src).events = (MatchPolicy.ofSetting answer).events := by
    rintro answer rfl
    exact ⟨rfl, rfl⟩
  refine ⟨read_root src p, read_override src p, hpolicy none, hpolicy (some "MATCH_EXACT"),
    hpolicy (some "MATCH_PREFIX"), fun word hword hwhole hbeginning => ?_⟩
  have hempty : word ≠ "" := fun heq => get_ne_empty src p _ (heq ▸ hword)
  have hunknown : MatchPolicy.ofText? word = none := (if_neg hwhole).trans (if_neg hbeginning)
  obtain ⟨hvalue, hevents⟩ := hpolicy (some word) hword
  rw [MatchPolicy.ofSetting, if_neg hempty, hunknown] at hvalue hevents
  exact ⟨hvalue, hevents, rfl⟩

end Get
end Provider
end Keystore
