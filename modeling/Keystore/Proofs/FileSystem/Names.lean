/-
The names of entries.

A directory lists names that an entry can have: none is empty, `.` or `..`, and none holds
a slash or the character that ends a path.  Operating systems promise this of every
directory.  Here it is a property of a file system, `WellNamed`, which a file system with nothing
but a working directory has and every change of files keeps: building trees, removing and renaming
(`WellNamed.build`, `WellNamed.remove`, `WellNamed.rename`).  So it holds of every file
system that can come about, and statements about all of them may assume it.
-/
import Mathlib.Data.List.Basic
import Keystore.FileSystem.Edit
import Keystore.Proofs.Path.Text

namespace Keystore

lemma isPiece_of_isEntryName {name : String} (h : isEntryName name) : IsPiece name := by
  simp only [isEntryName, Bool.and_eq_true, decide_eq_true_eq, Bool.not_eq_true',
    List.contains_eq_mem, decide_eq_false_iff_not] at h
  exact ⟨h.1.1.1.1, h.1.2⟩

lemma ne_dot_of_isEntryName {name : String} (h : isEntryName name) : name ≠ "." := by
  rintro rfl
  exact absurd h (by decide)

lemma ne_dotdot_of_isEntryName {name : String} (h : isEntryName name) : name ≠ ".." := by
  rintro rfl
  exact absurd h (by decide)

lemma nul_notMem_of_isEntryName {name : String} (h : isEntryName name) :
    '\x00' ∉ name.toList := by
  simp only [isEntryName, Bool.and_eq_true, Bool.not_eq_true', List.contains_eq_mem,
    decide_eq_false_iff_not] at h
  exact h.2

namespace FileSystem

/-- A change in two steps succeeds if both do. -/
lemma bind_eq_ok_iff {α β : Type} {x : Except PathFault α} {f : α → Except PathFault β} {b : β} :
    (x >>= f) = .ok b ↔ ∃ a, x = .ok a ∧ f a = .ok b := by
  cases x with
  | error fault =>
    constructor
    · intro h
      cases h
    · rintro ⟨_, h, -⟩
      cases h
  | ok a =>
    constructor
    · exact fun h => ⟨a, rfl, h⟩
    · rintro ⟨_, ha, h⟩
      cases ha
      exact h

/-- What a directory lists is what has an entry there. -/
lemma mem_children_iff {fs : FileSystem} {dir : Place} {name : String} :
    name ∈ fs.children dir ↔ ∃ entry, (dir ++ [name], entry) ∈ fs.entries := by
  rw [children, List.mem_filterMap]
  constructor
  · rintro ⟨⟨place, entry⟩, hmem, hname⟩
    obtain rfl : place = dir ++ [name] := eq_append_of_nameIn? hname
    exact ⟨entry, hmem⟩
  · rintro ⟨entry, hmem⟩
    exact ⟨_, hmem, nameIn?_append dir name⟩

/-- What is at a place and is no directory has an entry there. -/
lemma mem_entries_of_entry {fs : FileSystem} {p : Place} {entry : Entry}
    (h : fs.entry? p = some entry) (hne : entry ≠ .directory) : (p, entry) ∈ fs.entries := by
  rw [ entry?] at h
  split at h
  · -- The way to the working directory consists of directories.
    cases h
    exact absurd rfl hne
  · obtain ⟨before, behind, heq, -⟩ := List.lookup_eq_some_iff.1 h
    rw [heq]
    simp

/-- All directories list only names that an entry can have. -/
def WellNamed (fs : FileSystem) : Prop := ∀ dir, ∀ name ∈ fs.children dir, isEntryName name

lemma wellNamed_bare {workingDirectory : Place} (h : ∀ name ∈ workingDirectory, isEntryName name) :
    (bare workingDirectory).WellNamed := by
  intro dir name hname
  obtain ⟨entry, hmem⟩ := mem_children_iff.1 hname
  -- Whatever is listed lies on the way.
  obtain ⟨n, -, heq⟩ := List.mem_map.1 hmem
  have hway : workingDirectory.take (n + 1) = dir ++ [name] := congrArg Prod.fst heq
  refine h name (List.mem_of_mem_take (i := n + 1) ?_)
  simp [hway]

/-- Whoever lists no more than a well-named file system is well named. -/
lemma WellNamed.mono {fs fs' : FileSystem} (h : fs.WellNamed)
    (hsub : ∀ dir, ∀ name ∈ fs'.children dir, name ∈ fs.children dir ∨ isEntryName name) :
    fs'.WellNamed := by
  intro dir name hname
  rcases hsub dir name hname with hold | hnew
  · exact h dir name hold
  · exact hnew

/-! ## One change -/

/-- Putting an entry at a place adds at most the name of this place. -/
lemma mem_children_put {fs : FileSystem} {place dir : Place} {entry : Entry} {name : String}
    (h : name ∈ (fs.put place entry).children dir) :
    name ∈ fs.children dir ∨ place = dir ++ [name] := by
  obtain ⟨e, hmem⟩ := mem_children_iff.1 h
  rw [put] at hmem
  split at hmem
  · obtain ⟨old, hold, heq⟩ := List.mem_map.1 hmem
    split at heq
    · cases heq
      exact Or.inr rfl
    · subst heq
      exact Or.inl (mem_children_iff.2 ⟨_, hold⟩)
  · rcases List.mem_append.1 hmem with hold | hnew
    · exact Or.inl (mem_children_iff.2 ⟨_, hold⟩)
    · cases List.mem_singleton.1 hnew
      exact Or.inr rfl

lemma WellNamed.put {fs : FileSystem} (h : fs.WellNamed) {dir : Place} {name : String}
    (hname : isEntryName name) (entry : Entry) : (fs.put (dir ++ [name]) entry).WellNamed := by
  refine h.mono fun dir' name' hmem => ?_
  rcases mem_children_put hmem with hold | heq
  · exact Or.inl hold
  · cases (List.append_inj' heq rfl).2
    exact Or.inr hname

/-- Writing over an entry adds no name. -/
lemma WellNamed.put_of_entry {fs : FileSystem} (h : fs.WellNamed) {place : Place} {old : Entry}
    (hold : fs.entry? place = some old) (hfile : old ≠ .directory) (entry : Entry) :
    (fs.put place entry).WellNamed := by
  refine h.mono fun dir name hmem => ?_
  rcases mem_children_put hmem with hmem | rfl
  · exact Or.inl hmem
  · exact Or.inl (mem_children_iff.2 ⟨old, mem_entries_of_entry hold hfile⟩)

lemma WellNamed.clear {fs : FileSystem} (h : fs.WellNamed) (place : Place) :
    (fs.clear place).WellNamed := by
  refine h.mono fun dir name hmem => Or.inl ?_
  obtain ⟨entry, hmem⟩ := mem_children_iff.1 hmem
  exact mem_children_iff.2 ⟨entry, (List.mem_filter.1 hmem).1⟩

/-- The entry that a path names has a name that an entry can have. -/
lemma entryPlace_eq_ok {fs : FileSystem} {path : Path} {place : Place}
    (h : fs.entryPlace path = .ok place) : ∃ dir name, place = dir ++ [name] ∧ isEntryName name := by
  rw [entryPlace, bind_eq_ok_iff] at h
  obtain ⟨dir, -, h⟩ := h
  split at h
  · next name _ =>
    split at h
    · next hname =>
      split at h
      · cases h
      · cases h
        exact ⟨dir, name, rfl, hname⟩
    · split at h <;> cases h
  · cases h

/-! ## Building -/

section Build

variable {fs fs' : FileSystem} {path : Path}

lemma WellNamed.put_entryPlace (h : fs.WellNamed) {place : Place}
    (hplace : fs.entryPlace path = .ok place) (entry : Entry) : (fs.put place entry).WellNamed := by
  obtain ⟨dir, name, rfl, hname⟩ := entryPlace_eq_ok hplace
  exact h.put hname entry

lemma WellNamed.makeDirectory (h : fs.WellNamed) (hmake : fs.makeDirectory path = .ok fs') :
    fs'.WellNamed := by
  rw [FileSystem.makeDirectory] at hmake
  split at hmake
  · split at hmake
    · cases hmake
      exact h
    · cases hmake
  · obtain ⟨place, hplace, hmake⟩ := bind_eq_ok_iff.1 hmake
    split at hmake
    · cases hmake
    · cases hmake
      exact h.put_entryPlace hplace .directory
  · cases hmake

/-- A change that goes on over a list keeps what each of its steps keeps. -/
lemma wellNamed_foldlM {α : Type} {change : FileSystem → α → Except PathFault FileSystem}
    (hchange : ∀ {fs fs' : FileSystem} {a : α}, fs.WellNamed → change fs a = .ok fs' → fs'.WellNamed)
    {as : List α} (h : fs.WellNamed) (hall : as.foldlM change fs = .ok fs') : fs'.WellNamed := by
  induction as generalizing fs with
  | nil =>
    cases hall
    exact h
  | cons a as ih =>
    rw [List.foldlM_cons, bind_eq_ok_iff] at hall
    obtain ⟨next, hstep, hrest⟩ := hall
    exact ih (hchange h hstep) hrest

lemma WellNamed.makeDirectories (h : fs.WellNamed) (hmake : fs.makeDirectories path = .ok fs') :
    fs'.WellNamed :=
  wellNamed_foldlM (fun h => h.makeDirectory) h hmake

lemma WellNamed.writeFile {content : List UInt8} (h : fs.WellNamed)
    (hwrite : fs.writeFile path content = .ok fs') : fs'.WellNamed := by
  rw [FileSystem.writeFile, bind_eq_ok_iff] at hwrite
  obtain ⟨made, hmake, hwrite⟩ := hwrite
  have hmade := h.makeDirectories hmake
  split at hwrite
  · -- At a path that leads to a file, possibly through links, the file is written over.
    split at hwrite
    · next hfile =>
      cases hwrite
      exact hmade.put_of_entry hfile (by simp) _
    · cases hwrite
  · obtain ⟨place, hplace, hwrite⟩ := bind_eq_ok_iff.1 hwrite
    cases hwrite
    exact hmade.put_entryPlace hplace _
  · cases hwrite

lemma WellNamed.makeLink {target : String} (h : fs.WellNamed)
    (hlink : fs.makeLink path target = .ok fs') : fs'.WellNamed := by
  simp only [FileSystem.makeLink, bind_eq_ok_iff] at hlink
  obtain ⟨made, hmake, place, hplace, hlink⟩ := hlink
  split at hlink
  · cases hlink
  · cases hlink
    exact (h.makeDirectories hmake).put_entryPlace hplace _

lemma WellNamed.plant (h : fs.WellNamed) {thing : Planting} (hplant : fs.plant thing = .ok fs') :
    fs'.WellNamed := by
  cases thing with
  | directory path => exact h.makeDirectories hplant
  | file path content => exact h.writeFile hplant
  | link path target => exact h.makeLink hplant

/-- **Building keeps names.** -/
theorem WellNamed.build (h : fs.WellNamed) {tree : List Planting} (hbuild : fs.build tree = .ok fs') :
    fs'.WellNamed :=
  wellNamed_foldlM (fun h => h.plant) h hbuild

end Build

/-! ## Removing and renaming -/

theorem WellNamed.remove {fs fs' : FileSystem} {path : Path} (h : fs.WellNamed)
    (hremove : fs.remove path = .ok fs') : fs'.WellNamed := by
  rw [FileSystem.remove, bind_eq_ok_iff] at hremove
  obtain ⟨place, -, hremove⟩ := hremove
  split at hremove
  · cases hremove
  · cases hremove
    exact h.clear place

lemma eq_append_of_below? {dir place rest : Place} (h : below? dir place = some rest) :
    place = dir ++ rest := by
  induction dir generalizing place with
  | nil =>
    cases h
    rfl
  | cons d dir ih =>
    match place, h with
    | n :: place, h =>
      simp only [below?] at h
      split at h
      · next hd => rw [hd, List.cons_append, ih h]
      · cases h

/-- What is moved to a place keeps its name, but for the entry that gets the name of the
place. -/
lemma WellNamed.moved {fs : FileSystem} (h : fs.WellNamed) (old dir : Place) {name : String}
    (hname : isEntryName name) :
    WellNamed { fs with
      entries := fs.entries.map fun e =>
        match below? old e.1 with
        | some rest => (dir ++ [name] ++ rest, e.2)
        | none => e } := by
  refine h.mono fun dir' name' hmem => ?_
  obtain ⟨entry, hmem⟩ := mem_children_iff.1 hmem
  obtain ⟨e, he, heq⟩ := List.mem_map.1 hmem
  rcases hbelow : below? old e.1 with _ | rest
  · rw [hbelow] at heq
    subst heq
    exact Or.inl (mem_children_iff.2 ⟨_, he⟩)
  · rw [hbelow] at heq
    have hplace : dir ++ [name] ++ rest = dir' ++ [name'] := congrArg Prod.fst heq
    -- The entry itself gets the new name, and what is below it keeps its own.
    rcases List.eq_nil_or_concat rest with rfl | ⟨init, last, rfl⟩
    · rw [List.append_nil] at hplace
      cases (List.append_inj' hplace rfl).2
      exact Or.inr hname
    · rw [List.concat_eq_append, ← List.append_assoc] at hplace
      cases (List.append_inj' hplace rfl).2
      refine Or.inr (h (old ++ init) _ (mem_children_iff.2 ⟨e.2, ?_⟩))
      rw [List.append_assoc, ← List.concat_eq_append, ← eq_append_of_below? hbelow]
      exact he

theorem WellNamed.rename {fs fs' : FileSystem} {source target : Path} (h : fs.WellNamed)
    (hrename : fs.rename source target = .ok fs') : fs'.WellNamed := by
  rw [FileSystem.rename, bind_eq_ok_iff] at hrename
  obtain ⟨old, -, hrename⟩ := hrename
  split at hrename
  · cases hrename
  · obtain ⟨new, hnew, hrename⟩ := bind_eq_ok_iff.1 hrename
    split at hrename
    · cases hrename
      exact h
    · cases hrename
      obtain ⟨dir, name, rfl, hname⟩ := entryPlace_eq_ok hnew
      exact (h.clear (dir ++ [name])).moved old dir hname

end FileSystem
end Keystore
