/-
The keys of a document.

In the value of a document no mapping has a key twice, on whatever level it stands
(`keyed_of_read`).  A mapping gets its parts at once, by insertions one after the other, so this
holds of everything that is noted while one finds out what the nodes stand for
(`parts_keyed`).  When a value is made of what the nodes stand for, the keys stay as they are.
-/
import Mathlib.Data.List.Nodup
import Keystore.Proofs.Entries
import Keystore.Proofs.Keeps
import Keystore.Yaml.Content

namespace Keystore
namespace Yaml

/-! ## Notes about nodes -/

/-- Everything that is noted has the property. -/
def Noted {α : Type} (p : α → Prop) (notes : Array (Option α)) : Prop :=
  ∀ (id : ℕ) (a : α), notes[id]? = some (some a) → p a

section Noted

variable {α : Type} {p : α → Prop} {notes : Array (Option α)} {a : α}

lemma noted_none (n : ℕ) : Noted p (.replicate n none) := by
  intro id a hget
  rw [Array.getElem?_replicate] at hget
  split at hget <;> cases hget

lemma Noted.set (h : Noted p notes) (id : ℕ) (ha : p a) :
    Noted p (notes.setIfInBounds id (some a)) := by
  intro id' a' hget
  rw [Array.getElem?_setIfInBounds] at hget
  split at hget
  · split at hget
    · cases hget
      exact ha
    · cases hget
  · exact h id' a' hget

lemma Noted.of_join (h : Noted p notes) {id : ℕ} (hget : notes[id]?.join = some a) : p a :=
  h id a (Option.join_eq_some_iff.1 hget)

end Noted

/-! ## What nodes stand for -/

/-- If a node stands for a mapping, the keys of this mapping are different. -/
def Part.Keyed (part : Part) : Prop := ∀ entries, part = .mapping entries → Entries.Distinct entries

/-- What has been noted about the nodes has different keys. -/
def Survey.Keyed (s : Survey) : Prop := Noted Part.Keyed s.parts

lemma Part.keyed_mapping {entries : List (Scalar × ℕ)} (h : Entries.Distinct entries) :
    (Part.mapping entries).Keyed := fun _ heq => by
  cases heq
  exact h

lemma Part.keyed_empty {tag : Tag} {part : Part} (h : Part.empty? tag = some part) :
    part.Keyed := by
  intro entries heq
  subst heq
  unfold Part.empty? at h
  split at h <;> cases h
  exact Entries.distinct_nil

namespace Find

/-- Everything that a step notes has different keys. -/
abbrev Kept {α : Type} (x : Find α) : Prop := Keeps Survey.Keyed (fun _ => True) x

lemma kept_node (id : ℕ) : Kept (node id) :=
  Keeps.get.bind fun _ _ => .pure trivial

lemma kept_flawed {α : Type} (id : ℕ) (flaw : Flaw) : Kept (flawed id flaw : Find α) :=
  (kept_node id).bind fun _ _ => .throw _

lemma kept_note (id : ℕ) {part : Part} (h : part.Keyed) : Kept (note id part) :=
  .modify fun _ hs => hs.set id h

/-- Which collections wait for their parts does not matter. -/
lemma kept_waiting (f : Survey → Survey) (h : ∀ s, (f s).parts = s.parts) : Kept (modify f) :=
  .modify fun s hs => by
    rw [Survey.Keyed, h s]
    exact hs

lemma kept_change (c : Change Unit) : Kept (change c) := by
  refine Keeps.get.bind fun s hs => (Keeps.lift _).bind fun r _ => ?_
  exact .set hs

/-! ### Scalars -/

lemma kept_text (id fuel : ℕ) : Kept (text id fuel) := by
  induction fuel generalizing id with
  | zero => exact .throw _
  | succ fuel ih =>
    refine Keeps.get.bind fun s _ => ?_
    split
    · exact .pure trivial
    · exact kept_flawed id _
    · split
      · exact ih _
      · exact kept_flawed id _

lemma kept_valued (value : Except ValueFault Scalar) : Kept (valued value) := by
  rcases value with fault | s
  · exact .throw _
  · exact .pure trivial

lemma kept_scalar (id : ℕ) : Kept (scalar id) := by
  refine (kept_node id).bind fun node _ => Keeps.get.bind fun s _ => ?_
  have htext := kept_text id (s.nodes.size + 1)
  split
  · exact htext.bind fun _ _ => .pure trivial
  · exact htext.bind fun _ _ => kept_valued _
  · exact htext.bind fun _ _ => kept_valued _
  · exact htext.bind fun _ _ => kept_valued _
  · refine htext.bind fun _ _ => ?_
    split
    · exact kept_valued _
    · exact .throw _
  · exact htext.bind fun _ _ => .pure trivial
  · refine htext.bind fun _ _ => ?_
    split
    · exact .pure trivial
    · exact kept_flawed id _
  · exact kept_flawed id _

/-! ### Collections -/

lemma kept_meet (id : ℕ) : Kept (meet id) := by
  refine Keeps.get.bind fun s _ => ?_
  split
  · exact .pure trivial
  · refine (kept_node id).bind fun node _ => ?_
    split
    · next part hpart =>
      refine (kept_note id (Part.keyed_empty hpart)).bind fun _ _ => ?_
      exact Keeps.bind (kept_waiting _ fun _ => rfl) fun _ _ => .pure trivial
    · refine (kept_scalar id).bind fun s _ => ?_
      have hnote : Kept (note id (.scalar s)) := kept_note id fun _ h => by cases h
      exact hnote.bind fun _ _ => .pure trivial

lemma kept_key (id : ℕ) : Kept (key id) := by
  refine (kept_meet id).bind fun part _ => ?_
  split
  · exact .pure trivial
  · exact kept_flawed id _

/-- **The entries of a mapping have different keys.** -/
lemma keeps_entries (id : ℕ) : Keeps Survey.Keyed Entries.Distinct (entries id) := by
  refine (kept_node id).bind fun node _ => ?_
  split
  · refine (kept_change _).bind fun _ _ => (kept_node id).bind fun node _ => ?_
    -- The entries are inserted one after the other, from none on.
    refine .foldlM Entries.distinct_nil fun es hes e _ => ?_
    refine (kept_key e.1).bind fun key _ => (kept_meet e.2).bind fun _ _ => ?_
    exact .pure (hes.insert key e.2)
  · exact (kept_node id).bind fun _ _ => .throw _

lemma kept_pair (id : ℕ) : Kept (pair id) := by
  refine (kept_node id).bind fun node _ => ?_
  split
  · exact (kept_meet _).bind fun _ _ => (kept_meet _).bind fun _ _ => .pure trivial
  · exact kept_flawed id _

lemma kept_items (id : ℕ) : Kept (items id) := by
  refine (kept_node id).bind fun node _ => ?_
  split
  · exact .pure trivial
  · exact kept_flawed id _

lemma kept_complete (id : ℕ) : Kept (complete id) := by
  refine (kept_node id).bind fun node _ => ?_
  split
  · refine (kept_items id).bind fun items _ => ?_
    have hmeet : ∀ item ∈ items, Kept (do let _ ← meet item) :=
      fun item _ => (kept_meet item).bind fun _ _ => .pure trivial
    exact (Keeps.forM hmeet).bind fun _ _ => kept_note id fun _ h => by cases h
  · refine (kept_items id).bind fun items _ => ?_
    exact (Keeps.mapM fun item _ => kept_pair item).bind fun _ _ =>
      kept_note id fun _ h => by cases h
  · refine (kept_items id).bind fun items _ => ?_
    exact (Keeps.mapM fun item _ => kept_pair item).bind fun _ _ =>
      kept_note id fun _ h => by cases h
  · exact (keeps_entries id).bind fun _ _ => kept_note id fun _ h => by cases h
  · exact (keeps_entries id).bind fun entries h => kept_note id (Part.keyed_mapping h)
  · exact .pure trivial

lemma kept_rounds (fuel : ℕ) : Kept (rounds fuel) := by
  induction fuel with
  | zero => exact .pure trivial
  | succ fuel ih =>
    refine Keeps.get.bind fun s _ => ?_
    by_cases hempty : s.waiting.reverse.isEmpty = true
    · simp only [hempty, if_true]
      exact .pure trivial
    · simp only [hempty]
      refine Keeps.bind (kept_waiting _ fun _ => rfl) fun _ _ => ?_
      exact (Keeps.forM fun id _ => kept_complete id).bind fun _ _ => ih

end Find

/-- **No node stands for a mapping that has a key twice.** -/
theorem Document.parts_keyed {d : Document} {parts : Array (Option Part)}
    (h : d.parts = .ok parts) : Noted Part.Keyed parts := by
  let survey : Survey := { nodes := d.nodes, parts := .replicate d.nodes.size none }
  let search : Find Unit := do
    let _ ← Find.meet d.root
    Find.rounds (d.nodes.size + 1)
  -- Before the search, nothing is noted.
  have hsearch : Find.Kept search := (Find.kept_meet d.root).bind fun _ _ => Find.kept_rounds _
  have hsurvey : survey.Keyed := noted_none d.nodes.size
  change (search.run survey >>= fun r => pure r.2.parts) = .ok parts at h
  rcases hrun : search.run survey with fault | ⟨a, s⟩ <;> rw [hrun] at h <;> cases h
  exact ((hsearch survey hsurvey).of_ok hrun).2

/-! ## Values -/

end Yaml

/-- No mapping in the value has a key twice. -/
inductive Value.Keyed : Value → Prop where
  | scalar (s : Scalar) : Keyed (.scalar s)
  | list {items : List Value} (h : ∀ item ∈ items, Keyed item) : Keyed (.list items)
  | pair {first second : Value} (hfirst : Keyed first) (hsecond : Keyed second) :
    Keyed (.pair first second)
  | set (members : List Scalar) : Keyed (.set members)
  | mapping {entries : Entries} (hkeys : Entries.Distinct entries)
    (h : ∀ entry ∈ entries, Keyed entry.2) : Keyed (.mapping entries)
  | outerList : Keyed .outerList
  | outerMapping : Keyed .outerMapping

namespace Yaml

lemma Part.keyed_outer (part : Part) : part.outer.Keyed := by
  cases part with
  | scalar s => exact .scalar s
  | list items => exact .outerList
  | pairs items => exact .outerList
  | set members => exact .set members
  | mapping entries => exact .outerMapping

namespace Recall

variable {parts : Array (Option Part)}

/-- A value that is nowhere cut off is noted. -/
lemma keeps_noted (id : ℕ) {r : Value × Bool} (hr : r.1.Keyed) :
    Keeps (Noted Value.Keyed) (fun r => r.1.Keyed) (do
      if r.2 then modify (·.setIfInBounds id (some r.1))
      return (r.1, r.2) : Recall (Value × Bool)) := by
  split
  · refine Keeps.bind (q := fun _ => True) (.modify fun notes hnotes => hnotes.set id hr) ?_
    exact fun _ _ => .pure hr
  · exact .pure hr

variable (hparts : Noted Part.Keyed parts)

include hparts

/-- **The value of a node has different keys.** -/
lemma keeps_inside (fuel : ℕ) (around : List ℕ) (id : ℕ) :
    Keeps (Noted Value.Keyed) (fun r => r.1.Keyed) (inside parts fuel around id) := by
  induction fuel generalizing around id with
  | zero => exact .pure (.scalar .null)
  | succ fuel ih =>
    refine Keeps.get.bind fun notes hnotes => ?_
    split
    · next value hvalue => exact .pure (hnotes.of_join hvalue)
    · exact .pure (.scalar .null)
    · -- The node is new, and its value is made of those of its parts, with its keys.
      next part hnone hpart =>
      have hinner := ih (id :: around)
      have hkeyed : part.Keyed := hparts.of_join hpart
      split
      · exact .pure part.keyed_outer
      · cases part with
        | scalar s => exact (Keeps.pure (.scalar s)).bind fun r hr => keeps_noted id hr
        | set members => exact (Keeps.pure (.set members)).bind fun r hr => keeps_noted id hr
        | list items =>
          refine (Keeps.mapM fun item _ => hinner item).bind fun values hvalues => ?_
          refine (Keeps.pure (.list fun v hv => ?_)).bind fun r hr => keeps_noted id hr
          obtain ⟨r, hr, rfl⟩ := List.mem_map.1 hv
          exact hvalues r hr
        | pairs items =>
          have hpair : ∀ item ∈ items, Keeps (Noted Value.Keyed)
              (fun r : (Value × Bool) × (Value × Bool) => r.1.1.Keyed ∧ r.2.1.Keyed)
              (do return (← inside parts fuel (id :: around) item.1,
                ← inside parts fuel (id :: around) item.2)) := fun item _ =>
            (hinner item.1).bind fun _ ha => (hinner item.2).bind fun _ hb => .pure ⟨ha, hb⟩
          refine (Keeps.mapM hpair).bind fun values hvalues => ?_
          refine (Keeps.pure (.list fun v hv => ?_)).bind fun r hr => keeps_noted id hr
          obtain ⟨r, hr, rfl⟩ := List.mem_map.1 hv
          exact .pair (hvalues r hr).1 (hvalues r hr).2
        | mapping entries =>
          have hentry : ∀ entry ∈ entries, Keeps (Noted Value.Keyed)
              (fun r : Scalar × (Value × Bool) => r.2.1.Keyed ∧ r.1 = entry.1)
              (do return (entry.1, ← inside parts fuel (id :: around) entry.2)) := fun entry _ =>
            (hinner entry.2).bind fun _ h => .pure ⟨h, rfl⟩
          refine (Keeps.mapM_map hentry).bind fun values hvalues => ?_
          refine (Keeps.pure (.mapping ?_ fun v hv => ?_)).bind fun r hr => keeps_noted id hr
          · refine (hkeyed entries rfl).of_keys ?_
            rw [List.map_map]
            exact hvalues.2
          · obtain ⟨r, hr, rfl⟩ := List.mem_map.1 hv
            exact hvalues.1 r hr

lemma keeps_opened (levels id : ℕ) :
    Keeps (Noted Value.Keyed) Value.Keyed (opened parts levels id) := by
  induction levels generalizing id with
  | zero => exact (keeps_inside hparts _ [] id).bind fun r hr => .pure hr
  | succ levels ih =>
    unfold opened
    split
    · next n levels' entries hlevels hpart =>
      cases hlevels
      have hkeyed := hparts.of_join hpart
      have hentry : ∀ entry ∈ entries, Keeps (Noted Value.Keyed)
          (fun r : Scalar × Value => r.2.Keyed ∧ r.1 = entry.1)
          (do return (entry.1, ← opened parts levels entry.2)) := fun entry _ =>
        (ih entry.2).bind fun _ h => .pure ⟨h, rfl⟩
      refine (Keeps.mapM_map hentry).bind fun values hvalues => ?_
      exact .pure (.mapping ((hkeyed entries rfl).of_keys hvalues.2) hvalues.1)
    · exact (keeps_inside hparts _ [] id).bind fun r hr => .pure hr

end Recall

lemma Document.keyed_value {d : Document} {value : Value} (h : d.value = .ok value) :
    value.Keyed := by
  rcases hparts : d.parts with fault | parts <;> rw [Document.value, hparts] at h <;> cases h
  exact (Recall.keeps_opened (Document.parts_keyed hparts) openLevels d.root _
    (noted_none parts.size)).of_id.1

/-- **No mapping in a document has a key twice.** -/
theorem keyed_of_read {text : List Char} {value : Value} (h : read text = .ok value) :
    value.Keyed := by
  rcases hdocument : Document.ofTokens? (.ofText text) with fault | document <;>
    rw [read, hdocument] at h
  · cases h
  · rcases document with _ | d
    · cases h
      exact .scalar .null
    · exact Document.keyed_value h

end Yaml
end Keystore
