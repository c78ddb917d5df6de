/-
Lists of entries under keys.

File systems, pools and settings keep what they know in lists of entries, and the first entry under
a key is the one that counts.  The entries under other keys do not matter to it: they may be put in
front or taken away.
-/
import Mathlib.Data.List.Basic

namespace Keystore

variable {κ α : Type} [BEq κ] [LawfulBEq κ]

lemma lookup_cons_eq_ite [DecidableEq κ] (key other : κ) (a : α) (rest : List (κ × α)) :
    List.lookup other ((key, a) :: rest) = if other = key then some a else rest.lookup other := by
  rw [List.lookup_cons]
  by_cases h : other = key
  · simp [h]
  · rw [beq_false_of_ne h, if_neg h]

/-- Which entries are kept is a question of their keys. -/
lemma lookup_filter_key (keep : κ → Bool) (key : κ) (entries : List (κ × α)) :
    (entries.filter fun e => keep e.1).lookup key
      = if keep key then entries.lookup key else none := by
  induction entries with
  | nil => simp
  | cons e rest ih =>
    obtain ⟨other, a⟩ := e
    by_cases hkey : key = other
    · subst hkey
      cases hkeep : keep key <;> simp [hkeep, ih]
    · rw [List.filter_cons, List.lookup_cons, beq_false_of_ne hkey]
      cases keep other
      · exact ih
      · rw [if_pos rfl, List.lookup_cons, beq_false_of_ne hkey]
        exact ih

/-- Taking away what is under a key. -/
lemma lookup_filter_ne [DecidableEq κ] (key other : κ) (entries : List (κ × α)) :
    (entries.filter (·.1 ≠ key)).lookup other
      = if other = key then none else entries.lookup other := by
  rw [lookup_filter_key (fun k => decide (k ≠ key)) other entries]
  by_cases h : other = key <;> simp [h]

/-- Under a key that no other entry has, an entry is found. -/
lemma lookup_eq_some_of_mem {entries : List (κ × α)} {e : κ × α}
    (hnodup : (entries.map (·.1)).Nodup) (he : e ∈ entries) : entries.lookup e.1 = some e.2 := by
  induction entries with
  | nil => exact absurd he List.not_mem_nil
  | cons first rest ih =>
    rw [List.map_cons, List.nodup_cons] at hnodup
    rcases List.mem_cons.1 he with rfl | he
    · exact List.lookup_cons_self
    · have hne : e.1 ≠ first.1 := fun heq => hnodup.1 (heq ▸ List.mem_map_of_mem he)
      rw [List.lookup_cons, beq_false_of_ne hne]
      exact ih hnodup.2 he

end Keystore
