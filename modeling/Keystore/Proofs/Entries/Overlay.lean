/-
A merge as an overlay.

Mappings inside of mappings are seen through *paths*, which are keys to be looked up one after the
other (`Value.at?`).  A merge lays the update over the old entries, path by path (`at?_updated`):
what the update has at a path is there afterwards, what lies below something that it replaces is
gone, and everything else is as before.

On each level the old keys stay where they are and the new ones follow (`keys_merge`).  To merge
the same update once more changes nothing: each of its values is merged into what it has just
made, and the induction on the values ends at those that replace what they find
(`updated_updated`).
-/
import Mathlib.Data.List.Basic
import Keystore.Proofs.Entries
import Keystore.Proofs.Yaml.Keys

namespace Keystore
namespace Value

/-! ## Paths -/

/-- What the keys lead to, looked up one after the other. -/
def at? : Value → List Scalar → Option Value
  | v, [] => some v
  | .mapping entries, key :: path => (Entries.find? entries key).bind (at? · path)
  | _, _ :: _ => none

/-- Whether the value is a mapping. -/
def IsMapping (v : Value) : Prop := ∃ entries, v = .mapping entries

/-- The keys of the mapping that the path leads to. -/
def keysAt (v : Value) (path : List Scalar) : List Scalar :=
  match v.at? path with
  | some (.mapping entries) => entries.map (·.1)
  | _ => []

/-- No mapping has a key twice, wherever it stands. -/
def DistinctThroughout (v : Value) : Prop :=
  ∀ path entries, v.at? path = some (.mapping entries) → Entries.Distinct entries

/-- The path leads through something that is no mapping. -/
def Blocks (v : Value) (path : List Scalar) : Prop :=
  ∃ front, front <+: path ∧ front ≠ path ∧ ∃ w, v.at? front = some w ∧ ¬ w.IsMapping

variable {v new : Value} {entries changes : Entries} {key : Scalar} {path : List Scalar}

@[simp] lemma at?_nil (v : Value) : v.at? [] = some v := by
  cases v <;> rfl

lemma at?_mapping (entries : Entries) (key : Scalar) :
    (mapping entries).at? [key] = Entries.find? entries key := by
  rw [at?]
  cases Entries.find? entries key <;> simp

lemma at?_of_not_mapping (h : ¬ v.IsMapping) (key : Scalar) (path : List Scalar) :
    v.at? (key :: path) = none := by
  cases v with
  | mapping entries => exact absurd ⟨entries, rfl⟩ h
  | _ => rfl

/-- A path is followed key by key. -/
lemma at?_cons (v : Value) (key : Scalar) (path : List Scalar) :
    v.at? (key :: path) = (v.at? [key]).bind (·.at? path) := by
  by_cases h : v.IsMapping
  · obtain ⟨entries, rfl⟩ := h
    rw [at?_mapping, at?]
  · rw [at?_of_not_mapping h, at?_of_not_mapping h]
    rfl

lemma keysAt_of_mapping (h : v.at? path = some (.mapping entries)) :
    v.keysAt path = entries.map (·.1) := by
  rw [keysAt, h]

lemma keysAt_of_not_mapping (h : ∀ entries, v.at? path ≠ some (.mapping entries)) :
    v.keysAt path = [] := by
  rw [keysAt]
  split
  · next entries hentries => exact absurd hentries (h entries)
  · rfl

namespace DistinctThroughout

lemma keys (h : (mapping entries).DistinctThroughout) : Entries.Distinct entries :=
  h [] entries (at?_nil _)

lemma of_find? (h : (mapping entries).DistinctThroughout)
    (hv : Entries.find? entries key = some v) : v.DistinctThroughout := by
  intro path inner hinner
  refine h (key :: path) inner ?_
  rw [at?_cons, at?_mapping, hv]
  exact hinner

end DistinctThroughout

/-- A mapping with different keys has its parts tested one by one. -/
lemma distinctThroughout_mapping (h : Entries.Distinct entries)
    (hparts : ∀ e ∈ entries, e.2.DistinctThroughout) : (mapping entries).DistinctThroughout := by
  intro path inner hinner
  rcases path with _ | ⟨key, path⟩
  · rw [at?_nil] at hinner
    cases hinner
    exact h
  · rw [at?_cons, at?_mapping] at hinner
    obtain ⟨v, hv, hinner⟩ := Option.bind_eq_some_iff.1 hinner
    obtain ⟨e, he, rfl⟩ := Entries.exists_mem_of_find? hv
    exact hparts e he path inner hinner

lemma distinctThroughout_of_not_mapping (h : ¬ v.IsMapping) : v.DistinctThroughout := by
  intro path inner hinner
  rcases path with _ | ⟨key, path⟩
  · rw [at?_nil] at hinner
    exact absurd ⟨inner, Option.some.inj hinner⟩ h
  · rw [at?_of_not_mapping h] at hinner
    cases hinner

/-- What is read from a document has different keys, wherever a mapping stands. -/
lemma Keyed.distinctThroughout (h : v.Keyed) : v.DistinctThroughout := by
  induction h with
  | mapping hkeys _ ih => exact distinctThroughout_mapping hkeys ih
  | _ => exact distinctThroughout_of_not_mapping (by simp [IsMapping])

lemma blocks_of_not_mapping (h : ¬ v.IsMapping) (key : Scalar) (path : List Scalar) :
    v.Blocks (key :: path) :=
  ⟨[], List.nil_prefix, List.cons_ne_nil _ _ |>.symm, v, at?_nil v, h⟩

/-- Behind the first key of a mapping, a path is blocked by what the key stands for. -/
lemma blocks_mapping_cons :
    (mapping entries).Blocks (key :: path) ↔
      ∃ v, Entries.find? entries key = some v ∧ v.Blocks path := by
  constructor
  · rintro ⟨front, hfront, hne, w, hw, hmapping⟩
    rcases front with _ | ⟨k, front⟩
    · rw [at?_nil] at hw
      cases hw
      exact absurd ⟨entries, rfl⟩ hmapping
    · obtain ⟨rfl, hrest⟩ := List.cons_prefix_cons.1 hfront
      rw [at?_cons, at?_mapping] at hw
      obtain ⟨v, hv, hw⟩ := Option.bind_eq_some_iff.1 hw
      exact ⟨v, hv, front, hrest, fun heq => hne (heq ▸ rfl), w, hw, hmapping⟩
  · rintro ⟨v, hv, front, hfront, hne, w, hw, hmapping⟩
    refine ⟨key :: front, List.cons_prefix_cons.2 ⟨rfl, hfront⟩,
      fun heq => hne (List.cons.inj heq).2, w, ?_, hmapping⟩
    rw [at?_cons, at?_mapping, hv]
    exact hw

end Value

namespace Entries

open Value

variable {base update entries changes : Entries} {key : Scalar} {old : Option Value} {v new : Value}

/-! ## What is found after an update -/

lemma updated_of_old_not_mapping (h : ∀ entries, old ≠ some (.mapping entries)) (new : Value) :
    updated old new = new := by
  unfold updated
  cases new with
  | mapping changes =>
    rcases old with _ | (_ | _ | _ | _ | entries | _ | _)
    case some.mapping => exact absurd rfl (h entries)
    all_goals rfl
  | _ => rfl

lemma updated_mapping (entries changes : Entries) :
    updated (some (.mapping entries)) (.mapping changes) = .mapping (merge entries changes) := by
  unfold updated
  rfl

/-- The value of a key after an update by a mapping. -/
lemma at?_updated_mapping (h : Distinct changes) (old : Option Value) (key : Scalar) :
    (updated old (.mapping changes)).at? [key] =
      match find? changes key with
      | some v => some (updated (old.bind (·.at? [key])) v)
      | none => old.bind (·.at? [key]) := by
  by_cases hold : ∃ entries, old = some (.mapping entries)
  · obtain ⟨entries, rfl⟩ := hold
    rw [updated_mapping, at?_mapping, Option.bind_some, at?_mapping]
    exact find?_merge h entries key
  · have hnone : old.bind (·.at? [key]) = none := by
      rw [Option.bind_eq_none_iff]
      intro w hw
      refine at?_of_not_mapping ?_ key []
      rintro ⟨entries, rfl⟩
      exact hold ⟨entries, hw⟩
    rw [updated_of_old_not_mapping fun entries heq => hold ⟨entries, heq⟩, at?_mapping, hnone]
    rcases find? changes key with _ | v
    · rfl
    · simp [updated_of_old_not_mapping]

open Classical in
/-- **What is found at a path after an update.** -/
theorem at?_updated (h : new.DistinctThroughout) (old : Option Value) (path : List Scalar) :
    (updated old new).at? path =
      match new.at? path with
      | some v => some (updated (old.bind (·.at? path)) v)
      | none => if new.Blocks path then none else old.bind (·.at? path) := by
  induction path generalizing old new with
  | nil => simp
  | cons key path ih =>
    by_cases hnew : new.IsMapping
    · obtain ⟨changes, rfl⟩ := hnew
      have hbind : old.bind (·.at? (key :: path)) = (old.bind (·.at? [key])).bind (·.at? path) := by
        rw [Option.bind_assoc]
        exact Option.bind_congr fun w _ => at?_cons w key path
      rw [at?_cons, at?_updated_mapping h.keys, at?_cons, at?_mapping, hbind]
      rcases hv : find? changes key with _ | v
      · -- The update says nothing about the key, so that nothing of it is in the way.
        have hfree : ¬ (mapping changes).Blocks (key :: path) := by
          rw [blocks_mapping_cons, hv]
          rintro ⟨v, hv, -⟩
          cases hv
        simp only [Option.bind_none, if_neg hfree]
      · have hblocks : (mapping changes).Blocks (key :: path) ↔ v.Blocks path := by
          rw [blocks_mapping_cons, hv]
          simp
        simp only [Option.bind_some, hblocks, ih (h.of_find? hv)]
    · rw [updated_of_not_mapping old (not_exists.1 hnew), at?_of_not_mapping hnew,
        if_pos (blocks_of_not_mapping hnew key path)]

/-- **What is found at a path after a merge**: what the update has there, laid over what the base
has, or else what the base has, if nothing of the update is in the way. -/
theorem at?_merge_eq_some_iff (h : (mapping update).DistinctThroughout) {path : List Scalar} :
    (mapping (merge base update)).at? path = some v ↔
      (∃ w, (mapping update).at? path = some w ∧ updated ((mapping base).at? path) w = v) ∨
        (mapping base).at? path = some v ∧ (mapping update).at? path = none ∧
          ¬ (mapping update).Blocks path := by
  rw [← updated_mapping, at?_updated h, Option.bind_some]
  rcases (mapping update).at? path with _ | w
  · by_cases hblocks : (mapping update).Blocks path <;> simp [hblocks]
  · simp

lemma isMapping_updated_iff : (updated old v).IsMapping ↔ v.IsMapping := by
  constructor
  · intro h
    by_contra hv
    rw [updated_of_not_mapping old (not_exists.1 hv)] at h
    exact hv h
  · rintro ⟨changes, rfl⟩
    unfold updated
    split <;> exact ⟨_, rfl⟩

/-- There is a mapping where the update has one, and where the base has one that is left. -/
lemma exists_mapping_at?_merge_iff (h : (mapping update).DistinctThroughout) (path : List Scalar) :
    (∃ inner, (mapping (merge base update)).at? path = some (.mapping inner)) ↔
      (∃ inner, (mapping update).at? path = some (.mapping inner)) ∨
        (∃ inner, (mapping base).at? path = some (.mapping inner)) ∧
          (mapping update).at? path = none ∧ ¬ (mapping update).Blocks path := by
  constructor
  · rintro ⟨inner, hinner⟩
    rcases (at?_merge_eq_some_iff h).1 hinner with ⟨w, hw, hupdated⟩ | ⟨hold, hleft⟩
    · obtain ⟨changes, rfl⟩ := isMapping_updated_iff.1 ⟨inner, hupdated⟩
      exact .inl ⟨changes, hw⟩
    · exact .inr ⟨⟨inner, hold⟩, hleft⟩
  · rintro (⟨changes, hchanges⟩ | ⟨⟨inner, hold⟩, hleft⟩)
    · obtain ⟨inner, hinner⟩ : (updated ((mapping base).at? path) (.mapping changes)).IsMapping :=
        isMapping_updated_iff.2 ⟨changes, rfl⟩
      exact ⟨inner, (at?_merge_eq_some_iff h).2 (.inl ⟨_, hchanges, hinner⟩)⟩
    · exact ⟨inner, (at?_merge_eq_some_iff h).2 (.inr ⟨hold, hleft⟩)⟩

/-! ## The order of the keys -/

/-- **The keys after a merge**: the old ones, as they are written, and then the new ones. -/
lemma keys_merge (h : Distinct changes) (entries : Entries) :
    (merge entries changes).map (·.1) =
      entries.map (·.1) ++
        (changes.map (·.1)).filter fun k => k.rank ∉ entries.map (·.1.rank) := by
  induction changes generalizing entries with
  | nil => simp [merge]
  | cons e changes ih =>
    obtain ⟨hkey, hrest⟩ := distinct_cons.1 h
    obtain ⟨k, v⟩ := e
    rw [merge, ih hrest, keys_insert, ranks_insert, List.map_cons]
    by_cases hk : k.rank ∈ entries.map (·.1.rank)
    · rw [if_pos hk, if_pos hk, List.filter_cons_of_neg (by simpa using hk)]
    · -- The rest of the update has no key of the same rank.
      have hfilter : (changes.map (·.1)).filter
            (fun k' => k'.rank ∉ entries.map (·.1.rank) ++ [k.rank])
          = (changes.map (·.1)).filter fun k' => k'.rank ∉ entries.map (·.1.rank) := by
        refine List.filter_congr fun k' hk' => ?_
        obtain ⟨e, he, rfl⟩ := List.mem_map.1 hk'
        have hne : e.1.rank ≠ k.rank := fun heq => hkey (heq ▸ List.mem_map_of_mem he)
        simp [hne]
      rw [if_neg hk, if_neg hk, hfilter, List.filter_cons_of_pos (by simpa using hk),
        List.append_assoc, List.singleton_append]

lemma keys_at?_merge (h : (mapping update).DistinctThroughout) {path : List Scalar}
    {inner : Entries} (hinner : (mapping (merge base update)).at? path = some (.mapping inner)) :
    inner.map (·.1) = (mapping base).keysAt path ++
      ((mapping update).keysAt path).filter fun k =>
        k.rank ∉ ((mapping base).keysAt path).map Scalar.rank := by
  rcases (at?_merge_eq_some_iff h).1 hinner with ⟨w, hw, hupdated⟩ | ⟨hold, hnone, -⟩
  · obtain ⟨changes, rfl⟩ := isMapping_updated_iff.1 ⟨inner, hupdated⟩
    rw [keysAt_of_mapping hw]
    by_cases hbase : ∃ entries, (mapping base).at? path = some (.mapping entries)
    · obtain ⟨entries, hentries⟩ := hbase
      rw [hentries, updated_mapping] at hupdated
      rw [← Value.mapping.inj hupdated, keysAt_of_mapping hentries, keys_merge (h path _ hw),
        List.map_map]
      rfl
    · -- The mapping of the update has taken the place of whatever was there.
      rw [updated_of_old_not_mapping (not_exists.1 hbase)] at hupdated
      rw [← Value.mapping.inj hupdated, keysAt_of_not_mapping (not_exists.1 hbase)]
      simp
  · have hno : ∀ entries, (mapping update).at? path ≠ some (.mapping entries) := by
      simp [hnone]
    rw [keysAt_of_mapping hold, keysAt_of_not_mapping hno, List.filter_nil, List.append_nil]

/-! ## Merging again, and merging with nothing -/

lemma insert_of_find? (h : find? entries key = some v) : insert entries key v = entries := by
  induction entries with
  | nil => cases h
  | cons e entries ih =>
    rw [find?_cons] at h
    rw [insert]
    by_cases he : e.1.rank = key.rank
    · rw [if_pos he] at h
      cases h
      rw [if_pos (Scalar.sameKey_iff.2 he)]
    · rw [if_neg he] at h
      rw [if_neg (Scalar.sameKey_iff.not.2 he), ih h]

lemma insert_of_notMem (h : key.rank ∉ entries.map (·.1.rank)) (v : Value) :
    insert entries key v = entries ++ [(key, v)] := by
  induction entries with
  | nil => rfl
  | cons e entries ih =>
    rw [List.map_cons, List.mem_cons, not_or] at h
    rw [insert, if_neg (Scalar.sameKey_iff.not.2 (Ne.symm h.1)), ih h.2, List.cons_append]

lemma find?_of_mem (h : Distinct entries) {e : Scalar × Value} (he : e ∈ entries) :
    find? entries e.1 = some e.2 := by
  induction entries with
  | nil => exact absurd he List.not_mem_nil
  | cons first entries ih =>
    obtain ⟨hkey, hrest⟩ := distinct_cons.1 h
    rw [find?_cons]
    rcases List.mem_cons.1 he with rfl | he
    · rw [if_pos rfl]
    · have hne : first.1.rank ≠ e.1.rank := fun heq => hkey (heq ▸ List.mem_map_of_mem he)
      rw [if_neg hne, ih hrest he]

/-- Entries that an update adds nothing to are what is left by it. -/
lemma merge_eq_self
    (h : ∀ e ∈ changes, ∃ v, find? entries e.1 = some v ∧ updated (some v) e.2 = v) :
    merge entries changes = entries := by
  induction changes with
  | nil => rw [merge]
  | cons e changes ih =>
    obtain ⟨v, hv, hsame⟩ := h e List.mem_cons_self
    rw [merge, hv, hsame, insert_of_find? hv]
    exact ih fun e he => h e (List.mem_cons_of_mem _ he)

/-- An update with other keys only is put behind the entries. -/
lemma merge_of_notMem (h : Distinct changes)
    (hnew : ∀ e ∈ changes, e.1.rank ∉ entries.map (·.1.rank)) :
    merge entries changes = entries ++ changes := by
  induction changes generalizing entries with
  | nil => rw [merge, List.append_nil]
  | cons e changes ih =>
    obtain ⟨hkey, hrest⟩ := distinct_cons.1 h
    have hfirst := hnew e List.mem_cons_self
    rw [merge, find?_eq_none hfirst, updated_of_old_not_mapping (by simp), insert_of_notMem hfirst,
      ih hrest, List.append_assoc, List.singleton_append]
    intro e' he'
    rw [List.map_append, List.map_singleton, List.mem_append, List.mem_singleton, not_or]
    exact ⟨hnew e' (List.mem_cons_of_mem _ he'), fun heq => hkey (heq ▸ List.mem_map_of_mem he')⟩

mutual

/-- **What has been made by an update is not changed by it.** -/
lemma updated_updated : ∀ v : Value, v.DistinctThroughout → ∀ old,
    updated (some (updated old v)) v = updated old v
  | .mapping changes, h, old => by
    have hagain := updated_updated_of_mem changes fun e he => h.of_find? (find?_of_mem h.keys he)
    obtain ⟨entries, hentries⟩ : (updated old (.mapping changes)).IsMapping :=
      isMapping_updated_iff.2 ⟨changes, rfl⟩
    rw [hentries, updated_mapping, merge_eq_self]
    intro e he
    have hfind := at?_updated_mapping h.keys old e.1
    rw [hentries, at?_mapping, find?_of_mem h.keys he] at hfind
    exact ⟨_, hfind, hagain e he _⟩
  | .scalar s, _, _ => updated_of_not_mapping _ (by simp)
  | .list items, _, _ => updated_of_not_mapping _ (by simp)
  | .pair first second, _, _ => updated_of_not_mapping _ (by simp)
  | .set members, _, _ => updated_of_not_mapping _ (by simp)
  | .outerList, _, _ => updated_of_not_mapping _ (by simp)
  | .outerMapping, _, _ => updated_of_not_mapping _ (by simp)

lemma updated_updated_of_mem : ∀ changes : List (Scalar × Value),
    (∀ e ∈ changes, e.2.DistinctThroughout) →
    ∀ e ∈ changes, ∀ old, updated (some (updated old e.2)) e.2 = updated old e.2
  | [], _, e, he, _ => absurd he List.not_mem_nil
  | (key, value) :: changes, h, e, he, old => by
    rcases List.mem_cons.1 he with rfl | he
    · exact updated_updated value (h _ List.mem_cons_self) old
    · exact updated_updated_of_mem changes (fun e he => h e (List.mem_cons_of_mem _ he)) e he old

end

/-! ## The overlay -/

/-- What a merge makes of a base and an update, level by level. -/
structure Overlay (base update result : Entries) : Prop where
  /-- What the update has is there, if it is no mapping. -/
  new : ∀ path v, ¬ v.IsMapping → (mapping update).at? path = some v →
    (mapping result).at? path = some v
  /-- What the base has is there, if it is no mapping and the update has nothing in its place and
  nothing in its way. -/
  old : ∀ path v, ¬ v.IsMapping → (mapping base).at? path = some v →
    (mapping update).at? path = none → ¬ (mapping update).Blocks path →
    (mapping result).at? path = some v
  /-- Nothing else is there that is no mapping. -/
  only : ∀ path v, ¬ v.IsMapping → (mapping result).at? path = some v →
    (mapping update).at? path = some v ∨
      (mapping base).at? path = some v ∧ (mapping update).at? path = none ∧
        ¬ (mapping update).Blocks path
  /-- There is a mapping where the update has one, and where the base has one that is left. -/
  levels : ∀ path, (∃ inner, (mapping result).at? path = some (.mapping inner)) ↔
    (∃ inner, (mapping update).at? path = some (.mapping inner)) ∨
      (∃ inner, (mapping base).at? path = some (.mapping inner)) ∧
        (mapping update).at? path = none ∧ ¬ (mapping update).Blocks path
  /-- On each level the keys of the base come first, and then the new ones of the update. -/
  keys : ∀ path inner, (mapping result).at? path = some (.mapping inner) →
    inner.map (·.1) = (mapping base).keysAt path ++
      ((mapping update).keysAt path).filter fun k =>
        k.rank ∉ ((mapping base).keysAt path).map Scalar.rank
  /-- To merge the update again changes nothing. -/
  again : merge result update = result
  /-- An empty update changes nothing. -/
  nothing : merge base [] = base
  /-- In an empty base the update is all that there is. -/
  alone : merge [] update = update

/-- **A merge lays the update over the base**, on all levels. -/
theorem merge_overlay (base : Entries) {update : Entries}
    (h : (mapping update).DistinctThroughout) : Overlay base update (merge base update) := by
  have hempty : merge [] update = update := by
    rw [merge_of_notMem h.keys fun _ _ => List.not_mem_nil, List.nil_append]
  have hagain : merge (merge base update) update = merge base update := by
    have hsame := updated_updated (mapping update) h (some (mapping base))
    rw [updated_mapping, updated_mapping] at hsame
    exact Value.mapping.inj hsame
  refine ⟨fun path v hv hnew => ?_, fun path v _ hold hnone hfree => ?_, fun path v hv hfound => ?_,
    exists_mapping_at?_merge_iff h, fun path inner hinner => keys_at?_merge h hinner, hagain,
    by rw [merge], hempty⟩
  · exact (at?_merge_eq_some_iff h).2
      (.inl ⟨v, hnew, updated_of_not_mapping _ (not_exists.1 hv)⟩)
  · exact (at?_merge_eq_some_iff h).2 (.inr ⟨hold, hnone, hfree⟩)
  · rcases (at?_merge_eq_some_iff h).1 hfound with ⟨w, hw, rfl⟩ | hleft
    · rw [isMapping_updated_iff] at hv
      rw [updated_of_not_mapping _ (not_exists.1 hv)]
      exact .inl hw
    · exact .inr hleft

/-- An update that goes into a mapping, has an empty one in place of a scalar and a scalar in place
of a mapping, and brings a new key. -/
theorem merge_overlay_nested :
    Overlay
      [(.text "a", .mapping [(.text "x", .bool true), (.text "y", .mapping [(.text "z", .null)])]),
        (.text "b", .text "")]
      [(.text "c", .null),
        (.text "a", .mapping [(.text "y", .bool false), (.text "w", .mapping [])]),
        (.text "b", .mapping [])]
      [(.text "a", .mapping [(.text "x", .bool true), (.text "y", .bool false),
          (.text "w", .mapping [])]),
        (.text "b", .mapping []), (.text "c", .null)] := by
  have hpart : (mapping [(.text "y", .bool false), (.text "w", .mapping [])]).Keyed :=
    .mapping (by unfold Distinct; decide) (List.forall_mem_cons.2
      ⟨.scalar _, List.forall_mem_cons.2 ⟨.mapping distinct_nil (by simp), by simp⟩⟩)
  have hupdate : (mapping [(.text "c", .null),
      (.text "a", .mapping [(.text "y", .bool false), (.text "w", .mapping [])]),
      (.text "b", .mapping [])]).Keyed :=
    .mapping (by unfold Distinct; decide) (List.forall_mem_cons.2 ⟨.scalar _,
      List.forall_mem_cons.2 ⟨hpart,
        List.forall_mem_cons.2 ⟨.mapping distinct_nil (by simp), by simp⟩⟩⟩)
  exact merge_overlay _ hupdate.distinctThroughout

end Entries
end Keystore
