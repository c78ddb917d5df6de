/-
Whether two document values are equal can be decided, part by part.
-/
import Mathlib.Data.List.Basic
import Keystore.Value

namespace Keystore
namespace Value

mutual

/-- Whether two values have the same parts. -/
def same : Value → Value → Bool
  | .scalar s, .scalar t => s = t
  | .list items, .list items' => sameItems items items'
  | .pair first second, .pair first' second' => same first first' && same second second'
  | .set members, .set members' => members = members'
  | .mapping entries, .mapping entries' => sameEntries entries entries'
  | .outerList, .outerList => true
  | .outerMapping, .outerMapping => true
  | _, _ => false

/-- Whether two lists have the same items, one by one. -/
def sameItems : List Value → List Value → Bool
  | [], [] => true
  | item :: items, item' :: items' => same item item' && sameItems items items'
  | _, _ => false

/-- Whether two mappings have the same keys with the same values, in the same order. -/
def sameEntries : List (Scalar × Value) → List (Scalar × Value) → Bool
  | [], [] => true
  | (key, value) :: entries, (key', value') :: entries' =>
    key = key' && same value value' && sameEntries entries entries'
  | _, _ => false

end

mutual

lemma same_iff : ∀ v w, same v w = true ↔ v = w
  | .scalar s, w => by cases w <;> simp [same]
  | .list items, w => by
    cases w with
    | list items' => simp [same, sameItems_iff items items']
    | _ => simp [same]
  | .pair first second, w => by
    cases w with
    | pair first' second' => simp [same, same_iff first first', same_iff second second']
    | _ => simp [same]
  | .set members, w => by cases w <;> simp [same]
  | .mapping entries, w => by
    cases w with
    | mapping entries' => simp [same, sameEntries_iff entries entries']
    | _ => simp [same]
  | .outerList, w => by cases w <;> simp [same]
  | .outerMapping, w => by cases w <;> simp [same]

lemma sameItems_iff : ∀ items items', sameItems items items' = true ↔ items = items'
  | [], items' => by cases items' <;> simp [sameItems]
  | item :: items, [] => by simp [sameItems]
  | item :: items, item' :: items' => by
    simp [sameItems, same_iff item item', sameItems_iff items items']

lemma sameEntries_iff : ∀ entries entries', sameEntries entries entries' = true ↔ entries = entries'
  | [], entries' => by cases entries' <;> simp [sameEntries]
  | entry :: entries, [] => by simp [sameEntries]
  | (key, value) :: entries, (key', value') :: entries' => by
    simp [sameEntries, same_iff value value', sameEntries_iff entries entries', and_assoc]

end

instance : DecidableEq Value := fun v w => decidable_of_iff _ (same_iff v w)

end Value
end Keystore
