/-
Following paths.

A way through names is followed piece by piece: to its end, or to the first link, from
where it goes on with the target of the link.  This file sets up the two facts that
everything else about paths in a file system rests on.

* `walk_append`: a way that is followed to a place, and then further, is followed from
  that place on, with the links that are left.
* `locate_fault`: a way that cannot be followed to its end either leads to nothing, or
  meets a name or a path that is too long.

From the first one follows what an entry of a directory is seen as through the path of
the directory (`locate_child`), and from the second one that asking for a directory only
ever fails because of a length (`isDirectory_eq_error_iff`).
-/
import Mathlib.Data.List.Basic
import Keystore.Proofs.FileSystem.Names

namespace Keystore
namespace FileSystem

variable {fs : FileSystem}

/-! ## Going on -/

/-- The stretch followed by further names. -/
def Stretch.andThen (fs : FileSystem) (more : List String) : Stretch → Except Fault Stretch
  | .ended place => fs.stretch place more
  | .atLink dir target rest => .ok (.atLink dir target (rest ++ more))

lemma stretch_append (fs : FileSystem) (place : Place) (names more : List String) :
    fs.stretch place (names ++ more) = (fs.stretch place names).bind (Stretch.andThen fs more) := by
  induction names generalizing place with
  | nil => rfl
  | cons name names ih =>
    rw [List.cons_append, stretch, stretch]
    split
    · rfl
    · split
      · exact ih place
      · split
        · exact ih place.dropLast
        · split
          · rfl
          · rcases fs.entry? (place ++ [name]) with _ | _ | _ | _
            · rfl
            · exact ih (place ++ [name])
            · exact ih (place ++ [name])
            · rfl

/-- A way that meets no link goes on from its end. -/
lemma walk_append_of_ended (links : ℕ) {place there : Place} {names : List String}
    (h : fs.stretch place names = .ok (.ended there)) (more : List String) :
    fs.walk links place (names ++ more) = fs.walk links there more := by
  have hstretch : fs.stretch place (names ++ more) = fs.stretch there more := by
    rw [stretch_append, h]
    rfl
  rw [walk, walk, hstretch]

/-- **Going on from where a way leads.**  What is left of the links is the same whatever the
further names are. -/
lemma walk_append {links : ℕ} {place there : Place} {names : List String}
    (h : fs.walk links place names = .ok there) :
    ∃ left ≤ links, ∀ more, fs.walk links place (names ++ more) = fs.walk left there more := by
  induction links generalizing place names with
  | zero =>
    rw [walk] at h
    rcases hs : fs.stretch place names with fault | ⟨place' | ⟨dir, target, rest⟩⟩ <;>
      rw [hs] at h <;> cases h
    exact ⟨0, Nat.le_refl 0, walk_append_of_ended 0 hs⟩
  | succ links ih =>
    rw [walk] at h
    rcases hs : fs.stretch place names with fault | ⟨place' | ⟨dir, target, rest⟩⟩ <;>
      rw [hs] at h
    · cases h
    · cases h
      exact ⟨links + 1, Nat.le_refl _, walk_append_of_ended (links + 1) hs⟩
    · -- The further names stay behind the target of the link.
      obtain ⟨left, hleft, hmore⟩ := ih h
      refine ⟨left, by omega, fun more => ?_⟩
      rw [walk, stretch_append, hs, ← hmore, List.append_assoc]
      rfl

/-! ## Faults -/

lemma stretch_fault {place : Place} {names : List String} {fault : Fault}
    (h : fs.stretch place names = .error fault) : fault = .nameTooLong ∨ fault.isAbsence := by
  induction names generalizing place with
  | nil => cases h
  | cons name names ih =>
    rw [stretch] at h
    split at h
    · cases h
      exact Or.inr rfl
    · split at h
      · exact ih h
      · split at h
        · exact ih h
        · split at h
          · cases h
            exact Or.inl rfl
          · split at h
            · cases h
              exact Or.inr rfl
            · cases h
            · exact ih h

lemma walk_fault {links : ℕ} {place : Place} {names : List String} {fault : Fault}
    (h : fs.walk links place names = .error fault) : fault = .nameTooLong ∨ fault.isAbsence := by
  induction links generalizing place names with
  | zero =>
    rw [walk] at h
    rcases hs : fs.stretch place names with fault' | ⟨place' | ⟨dir, target, rest⟩⟩ <;>
      rw [hs] at h <;> cases h
    · exact stretch_fault hs
    · exact Or.inr rfl
  | succ links ih =>
    rw [walk] at h
    rcases hs : fs.stretch place names with fault' | ⟨place' | ⟨dir, target, rest⟩⟩ <;>
      rw [hs] at h
    · cases h
      exact stretch_fault hs
    · cases h
    · exact ih h

/-- A path that leads nowhere meets a length that is too great, or the absence of what it
goes through. -/
lemma locate_fault {path : Path} {fault : Fault} (h : fs.locate path = .error fault) :
    fault = .nameTooLong ∨ fault.isAbsence := by
  rw [locate] at h
  split at h
  · cases h
    exact Or.inr rfl
  · split at h
    · cases h
      exact Or.inl rfl
    · exact walk_fault h

/-! ## Asking for a directory -/

lemma isDirectory_of_locate {path : Path} {place : Place} (h : fs.locate path = .ok place) :
    fs.isDirectory path = .ok (fs.entry? place = some .directory) := by
  simp [isDirectory, look?, h, Except.map]

lemma isDirectory_of_absence {path : Path} {fault : Fault} (h : fs.locate path = .error fault)
    (habsent : fault.isAbsence) : fs.isDirectory path = .ok false := by
  simp [isDirectory, look?, h, habsent, Except.map]

lemma isDirectory_eq_true_iff {path : Path} :
    fs.isDirectory path = .ok true ↔
      ∃ place, fs.locate path = .ok place ∧ fs.entry? place = some .directory := by
  rcases h : fs.locate path with fault | place
  · constructor
    · intro htrue
      rcases locate_fault h with rfl | habsent
      · simp [isDirectory, look?, h, Fault.isAbsence, Except.map] at htrue
      · rw [isDirectory_of_absence h habsent] at htrue
        cases htrue
    · rintro ⟨place, hplace, -⟩
      cases hplace
  · rw [isDirectory_of_locate h]
    simp

/-- Asking for a directory fails exactly where following the path meets a length that is too
great. -/
lemma isDirectory_eq_error_iff {path : Path} {fault : PathFault} :
    fs.isDirectory path = .error fault ↔
      fs.locate path = .error .nameTooLong ∧ fault = ⟨.nameTooLong, path⟩ := by
  rcases h : fs.locate path with fault' | place
  · rcases locate_fault h with rfl | habsent
    · simp [isDirectory, look?, h, Fault.isAbsence, Except.map, eq_comm]
    · rw [isDirectory_of_absence h habsent]
      simp only [reduceCtorEq, Except.error.injEq, false_iff, not_and]
      rintro rfl
      cases habsent
  · rw [isDirectory_of_locate h]
    simp

/-- Where asking for a directory has an answer, no length is too great. -/
lemma locate_ne_nameTooLong {path : Path} {answer : Bool} (h : fs.isDirectory path = .ok answer) :
    fs.locate path ≠ .error .nameTooLong := by
  intro hlong
  rw [isDirectory_eq_error_iff.2 ⟨hlong, rfl⟩] at h
  cases h

lemma listing_of_locate {path : Path} {place : Place} (h : fs.locate path = .ok place)
    (hdir : fs.entry? place = some .directory) : fs.listing path = .ok (fs.children place) := by
  simp only [listing, h, hdir]

/-! ## Children -/

section Child

variable {base : Path} {place : Place} {name : String}

/-- The way to a child goes on from the place of the directory, unless the text of the path gets
too long. -/
lemma locate_child_eq_walk (hplace : fs.locate base = .ok place) (hnul : '\x00' ∉ name.toList) :
    ∃ left, fs.locate (base.child name) =
      if pathLimit ≤ (base.child name).render.utf8ByteSize then .error .nameTooLong
      else fs.walk left place [name] := by
  rw [locate] at hplace
  split at hplace
  · cases hplace
  · next hbase =>
    split at hplace
    · cases hplace
    · obtain ⟨left, -, hmore⟩ := walk_append hplace
      have hchild : ¬ (base.child name).render.toList.contains '\x00' := by
        rw [List.contains_eq_mem, decide_eq_true_eq,
          Path.mem_render_iff (by decide) (by decide)] at hbase ⊢
        rintro ⟨n, hn, hmem⟩
        rcases List.mem_append.1 hn with hn | hn
        · exact hbase ⟨n, hn, hmem⟩
        · exact hnul (List.mem_singleton.1 hn ▸ hmem)
      exact ⟨left, by rw [locate, if_neg hchild, ← hmore [name]]; rfl⟩

/-- A child that is no link is examined successfully exactly if neither its name nor the text of its
path is too long. -/
lemma isDirectory_child (hplace : fs.locate base = .ok place)
    (hdir : fs.entry? place = some .directory) (hname : isEntryName name)
    (hlink : ∀ target, fs.entry? (place ++ [name]) ≠ some (.link target)) :
    fs.isDirectory (base.child name) =
      if pathLimit ≤ (base.child name).render.utf8ByteSize ∨ nameLimit < name.utf8ByteSize then
        .error ⟨.nameTooLong, base.child name⟩
      else .ok (fs.entry? (place ++ [name]) = some .directory) := by
  obtain ⟨left, hleft⟩ := locate_child_eq_walk hplace (nul_notMem_of_isEntryName hname)
  split at hleft
  · next hpath => rw [isDirectory_eq_error_iff.2 ⟨hleft, rfl⟩, if_pos (Or.inl hpath)]
  · next hpath =>
    rw [walk, stretch, if_neg (by simp [hdir]), if_neg (ne_dot_of_isEntryName hname),
      if_neg (ne_dotdot_of_isEntryName hname)] at hleft
    by_cases hsize : nameLimit < name.utf8ByteSize
    · rw [if_pos hsize] at hleft
      rw [isDirectory_eq_error_iff.2 ⟨hleft, rfl⟩, if_pos (Or.inr hsize)]
    · rw [if_neg hsize] at hleft
      rw [if_neg (not_or.2 ⟨hpath, hsize⟩)]
      rcases hentry : fs.entry? (place ++ [name]) with _ | _ | content | target
      · rw [hentry] at hleft
        rw [isDirectory_of_absence hleft rfl]
        simp
      · rw [hentry] at hleft
        rw [isDirectory_of_locate hleft, hentry]
      · rw [hentry] at hleft
        rw [isDirectory_of_locate hleft, hentry]
      · exact absurd hentry (hlink target)

/-- **What a path leads to behind the path of a directory.**  It is nothing where the directory
has no such entry, and the entry itself where that is no link. -/
lemma locate_child (hplace : fs.locate base = .ok place) (hdir : fs.entry? place = some .directory)
    (hname : isEntryName name) (hexam : ∃ answer, fs.isDirectory (base.child name) = .ok answer) :
    (fs.entry? (place ++ [name]) = none → fs.locate (base.child name) = .error .notFound) ∧
      ∀ entry, fs.entry? (place ++ [name]) = some entry → (∀ target, entry ≠ .link target) →
        fs.locate (base.child name) = .ok (place ++ [name]) := by
  obtain ⟨answer, hanswer⟩ := hexam
  have hlong := locate_ne_nameTooLong hanswer
  obtain ⟨left, h⟩ := locate_child_eq_walk hplace (nul_notMem_of_isEntryName hname)
  split at h
  · exact absurd h hlong
  · rw [h] at hlong ⊢
    by_cases hsize : name.utf8ByteSize > nameLimit
    · refine absurd ?_ hlong
      rw [walk, stretch, if_neg (by simp [hdir]), if_neg (ne_dot_of_isEntryName hname),
        if_neg (ne_dotdot_of_isEntryName hname), if_pos hsize]
    · rw [walk, stretch, if_neg (by simp [hdir]), if_neg (ne_dot_of_isEntryName hname),
        if_neg (ne_dotdot_of_isEntryName hname), if_neg hsize]
      constructor
      · intro hnone
        rw [hnone]
      · intro entry hentry hlink
        rw [hentry]
        cases entry with
        | directory => rfl
        | file content => rfl
        | link target => exact absurd rfl (hlink target)

end Child

end FileSystem
end Keystore
