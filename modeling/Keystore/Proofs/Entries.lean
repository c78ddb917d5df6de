/-
Mappings, seen through their look-ups.

What a mapping says is what its keys look up to.  A key is looked up by its rank, so nothing
depends on how it is written.  Giving a key a value changes the look-up of this key only
(`find?_insert`), and a merge changes the look-ups of the keys of the update only, each to the old
value with the new one over it (`find?_merge`).  For the last one the keys of the update have to
be different, as they are in every mapping that is built by insertions (`Distinct.insert`).
-/
import Mathlib.Data.List.Nodup
import Keystore.Value

namespace Keystore

lemma Scalar.sameKey_iff {a b : Scalar} : a.sameKey b = true ↔ a.rank = b.rank :=
  decide_eq_true_iff

namespace Entries

variable {α : Type} {es : List (Scalar × α)} {key k : Scalar} {value : α}

/-! ## Different keys -/

/-- No two keys are the same. -/
def Distinct (es : List (Scalar × α)) : Prop := (es.map (·.1.rank)).Nodup

lemma distinct_nil : Distinct ([] : List (Scalar × α)) := List.nodup_nil

lemma distinct_cons {e : Scalar × α} :
    Distinct (e :: es) ↔ e.1.rank ∉ es.map (·.1.rank) ∧ Distinct es :=
  List.nodup_cons

/-- Whether keys are different does not depend on what they stand for. -/
lemma Distinct.of_keys {β : Type} {es' : List (Scalar × β)} (h : Distinct es)
    (hkeys : es'.map (·.1) = es.map (·.1)) : Distinct es' := by
  have hranks : (es'.map (·.1)).map Scalar.rank = (es.map (·.1)).map Scalar.rank := by rw [hkeys]
  rw [List.map_map, List.map_map] at hranks
  change (es'.map (Scalar.rank ∘ (·.1))).Nodup
  rw [hranks]
  exact h

/-- A key that is present stays, and a new one goes to the end. -/
lemma keys_insert (es : List (Scalar × α)) (key : Scalar) (value : α) :
    (insert es key value).map (·.1) =
      if key.rank ∈ es.map (·.1.rank) then es.map (·.1) else es.map (·.1) ++ [key] := by
  induction es with
  | nil => rfl
  | cons e es ih =>
    rw [insert]
    by_cases he : e.1.rank = key.rank
    · rw [if_pos (Scalar.sameKey_iff.2 he), List.map_cons, List.map_cons,
        if_pos (he ▸ List.mem_cons_self)]
      rfl
    · have hmem : key.rank ∈ e.1.rank :: es.map (·.1.rank) ↔ key.rank ∈ es.map (·.1.rank) := by
        rw [List.mem_cons, or_iff_right (Ne.symm he)]
      rw [if_neg (Scalar.sameKey_iff.not.2 he), List.map_cons, ih, List.map_cons, List.map_cons,
        if_congr hmem rfl rfl]
      split <;> rfl

lemma ranks_insert (es : List (Scalar × α)) (key : Scalar) (value : α) :
    (insert es key value).map (·.1.rank) =
      if key.rank ∈ es.map (·.1.rank) then es.map (·.1.rank)
      else es.map (·.1.rank) ++ [key.rank] := by
  have hranks := congrArg (List.map Scalar.rank) (keys_insert es key value)
  rw [apply_ite (List.map Scalar.rank), List.map_append, List.map_map, List.map_map] at hranks
  exact hranks

lemma Distinct.insert (h : Distinct es) (key : Scalar) (value : α) :
    Distinct (insert es key value) := by
  rw [Distinct, ranks_insert]
  split
  · exact h
  · next hkey =>
    refine List.nodup_append.2 ⟨h, List.nodup_singleton _, fun a ha b hb hab => hkey ?_⟩
    rw [← List.mem_singleton.1 hb, ← hab]
    exact ha

/-! ## Looking up -/

variable {entries changes : Entries} {v : Value}

lemma find?_nil (key : Scalar) : find? [] key = none := rfl

lemma find?_cons (k : Scalar) (v : Value) (entries : Entries) (key : Scalar) :
    find? ((k, v) :: entries) key = if k.rank = key.rank then some v else find? entries key := by
  rw [find?, List.find?_cons]
  by_cases h : k.rank = key.rank
  · rw [Scalar.sameKey_iff.2 h, if_pos h]
    rfl
  · rw [Bool.eq_false_iff.2 (Scalar.sameKey_iff.not.2 h), if_neg h]
    rfl

/-- Keys that are the same look up to the same. -/
lemma find?_congr (entries : Entries) (h : k.rank = key.rank) :
    find? entries k = find? entries key := by
  rw [find?, find?]
  simp only [Scalar.sameKey, h]

lemma find?_eq_none (h : key.rank ∉ entries.map (·.1.rank)) : find? entries key = none := by
  induction entries with
  | nil => rfl
  | cons e entries ih =>
    rw [List.map_cons, List.mem_cons, not_or] at h
    rw [find?_cons, if_neg (Ne.symm h.1), ih h.2]

lemma exists_mem_of_find? (h : find? entries key = some v) : ∃ e ∈ entries, e.2 = v := by
  obtain ⟨e, hfind, hv⟩ := Option.map_eq_some_iff.1 h
  exact ⟨e, List.mem_of_find?_eq_some hfind, hv⟩

lemma find?_insert (entries : Entries) (k : Scalar) (v : Value) (key : Scalar) :
    find? (insert entries k v) key = if k.rank = key.rank then some v else find? entries key := by
  induction entries with
  | nil => exact find?_cons k v [] key
  | cons e entries ih =>
    rw [insert]
    by_cases he : e.1.rank = k.rank
    · rw [if_pos (Scalar.sameKey_iff.2 he), find?_cons, find?_cons, he]
      split <;> rfl
    · rw [if_neg (Scalar.sameKey_iff.not.2 he), find?_cons, find?_cons, ih]
      by_cases hk : k.rank = key.rank
      · rw [if_pos hk, if_pos hk, if_neg (hk ▸ he)]
      · rw [if_neg hk, if_neg hk]

/-- **The look-ups after a merge.** -/
lemma find?_merge (h : Distinct changes) (entries : Entries) (key : Scalar) :
    find? (merge entries changes) key =
      match find? changes key with
      | some v => some (updated (find? entries key) v)
      | none => find? entries key := by
  induction changes generalizing entries with
  | nil => rw [merge, find?_nil]
  | cons e changes ih =>
    obtain ⟨hkey, hrest⟩ := distinct_cons.1 h
    obtain ⟨k, v⟩ := e
    rw [merge, ih hrest, find?_cons, find?_insert]
    by_cases hk : k.rank = key.rank
    · -- The rest of the update has nothing to say about the key.
      rw [find?_eq_none (hk ▸ hkey), if_pos hk, if_pos hk, find?_congr entries hk]
    · rw [if_neg hk, if_neg hk]

/-- Only of two mappings the new one leaves something of the old one. -/
lemma updated_of_not_mapping (old : Option Value) (h : ∀ entries, v ≠ .mapping entries) :
    updated old v = v := by
  unfold updated
  cases v with
  | mapping entries => exact absurd rfl (h entries)
  | _ => rfl

end Entries
end Keystore
