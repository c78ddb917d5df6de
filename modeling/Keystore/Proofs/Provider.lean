/-
What providers answer.

A setting that is empty counts as unset, and providers take care of this themselves: whatever
they are made of, no answer is an empty text (`nonempty?_get`).  So what a lookup is configured
with is what the provider answers, without a further test (`read_override`, `read_root`).
-/
import Mathlib.Data.List.Basic
import Keystore.Provider

namespace Keystore

/-! ## Texts that are set -/

lemma nonempty?_nonempty? (value : Option String) :
    nonempty? (nonempty? value) = nonempty? value := by
  rw [nonempty?, nonempty?, Option.filter_filter]
  simp

/-- A setting is unset in two ways. -/
lemma nonempty?_eq_none_iff {value : Option String} :
    nonempty? value = none ↔ value = none ∨ value = some "" := by
  cases value with
  | none => simp [nonempty?]
  | some text => simp [nonempty?]

lemma nonempty?_eq_some_iff {value : Option String} {text : String} :
    nonempty? value = some text ↔ value = some text ∧ text ≠ "" := by
  rw [nonempty?, Option.filter_eq_some_iff]
  simp

lemma Settings.nonempty?_value? (s : Settings) (name : String) :
    nonempty? (s.value? name) = s.value? name :=
  nonempty?_nonempty? _

namespace Provider

variable (src : Sources) (name : String)

/-- The first layer with an answer has the answer of all. -/
lemma getFirst_cons (layer : Provider) (rest : List Provider) :
    getFirst src (layer :: rest) name
      = (nonempty? (layer.get src name)).or (getFirst src rest name) := by
  rw [getFirst]
  rcases nonempty? (layer.get src name) with _ | value <;> rfl

lemma nonempty?_getFirst (layers : List Provider) :
    nonempty? (getFirst src layers name) = getFirst src layers name := by
  induction layers with
  | nil => rfl
  | cons layer rest ih =>
    rw [getFirst_cons]
    rcases hvalue : nonempty? (layer.get src name) with _ | value
    · exact ih
    · rw [Option.some_or, ← hvalue, nonempty?_nonempty?]

/-- **No answer of a provider is empty.** -/
theorem nonempty?_get (p : Provider) : nonempty? (p.get src name) = p.get src name := by
  cases p with
  | fixed settings => exact settings.nonempty?_value? name
  | environment => exact src.environment.nonempty?_value? name
  | shared mapping => exact (src.mapping mapping).nonempty?_value? name
  | layered layers => exact nonempty?_getFirst src name layers

/-- Of two layers, the lower one is asked where the higher one has no answer. -/
lemma get_layered_pair (upper lower : Provider) :
    (layered [upper, lower]).get src name = (upper.get src name).or (lower.get src name) := by
  rw [get, getFirst_cons, getFirst_cons, nonempty?_get, nonempty?_get]
  rcases lower.get src name with _ | value <;> simp [getFirst]

/-! ## The configuration of a lookup -/

variable (p : Provider)

/-- The override is what the provider answers. -/
lemma read_override :
    (p.read src).value.override = p.get src "ROS_SECURITY_NODE_DIRECTORY" :=
  nonempty?_get src _ p

/-- The root is what the provider answers. -/
lemma read_root :
    (p.read src).value.rootDirectory = p.get src "ROS_SECURITY_ROOT_DIRECTORY" :=
  nonempty?_get src _ p

end Provider
end Keystore
