/-
What a path leads to.

Following a path never ends at a link.  Each place on the way is there and is no link, and
so are the places above it: this holds of the places where ways start, and is kept by every
step down, up and behind a link (`locate_grounded`).  So a path leads to a directory, leads to a
file, leads nowhere, or is too long to be followed (`target`), and in each of these cases one knows
what the questions for its presence and for its content are answered with.
-/
import Mathlib.Data.List.Basic
import Keystore.Proofs.FileSystem.Trail

namespace Keystore
namespace FileSystem

variable {fs : FileSystem} {place : Place} {names : List String} {path : Path}

/-! ## No way ends at a link -/

/-- From the top down to the place, there are directories and files only. -/
def Grounded (fs : FileSystem) (place : Place) : Prop :=
  ∀ p, p <+: place →
    fs.entry? p = some .directory ∨ ∃ content, fs.entry? p = some (.file content)

lemma Grounded.mono {p : Place} (h : fs.Grounded place) (hp : p <+: place) : fs.Grounded p :=
  fun q hq => h q (hq.trans hp)

lemma Grounded.concat {name : String} (h : fs.Grounded place)
    (hentry : fs.entry? (place ++ [name]) = some .directory ∨
      ∃ content, fs.entry? (place ++ [name]) = some (.file content)) :
    fs.Grounded (place ++ [name]) := by
  intro p hp
  rcases List.prefix_concat_iff.1 hp with rfl | hp
  · exact hentry
  · exact h p hp

/-- The way to the working directory leads through directories. -/
lemma grounded_workingDirectory (fs : FileSystem) : fs.Grounded fs.workingDirectory := by
  intro p hp
  rw [ entry?, if_pos (List.isPrefixOf_iff_prefix.2 hp)]
  exact Or.inl rfl

lemma grounded_top (fs : FileSystem) : fs.Grounded [] :=
  fs.grounded_workingDirectory.mono List.nil_prefix

lemma grounded_start (fs : FileSystem) : ∀ origin, fs.Grounded (fs.start origin)
  | .here => fs.grounded_workingDirectory
  | .top => fs.grounded_top
  | .doubleTop => fs.grounded_top

lemma Grounded.linkStart {dir : Place} (h : fs.Grounded dir) (target : String) :
    fs.Grounded (linkStart dir target) := by
  rw [FileSystem.linkStart]
  split
  · exact fs.grounded_top
  · exact h

lemma Grounded.stretch {s : Stretch} (h : fs.Grounded place)
    (hs : fs.stretch place names = .ok s) : fs.Grounded s.reached := by
  induction names generalizing place with
  | nil =>
    cases hs
    exact h
  | cons name rest ih =>
    rw [FileSystem.stretch] at hs
    split at hs
    · cases hs
    · split at hs
      · exact ih h hs
      · split at hs
        · exact ih (h.mono (List.dropLast_prefix place)) hs
        · split at hs
          · cases hs
          · rcases hentry : fs.entry? (place ++ [name]) with _ | _ | content | target <;>
              rw [hentry] at hs
            · cases hs
            · exact ih (h.concat (Or.inl hentry)) hs
            · exact ih (h.concat (Or.inr ⟨content, hentry⟩)) hs
            · -- A link ends the stretch at the directory that it stands in.
              cases hs
              exact h

lemma Grounded.walk {links : ℕ} {there : Place} (h : fs.Grounded place)
    (hw : fs.walk links place names = .ok there) : fs.Grounded there := by
  induction links generalizing place names with
  | zero =>
    rw [FileSystem.walk] at hw
    rcases hs : fs.stretch place names with fault | ⟨end' | ⟨dir, target, rest⟩⟩ <;>
      rw [hs] at hw <;> cases hw
    exact h.stretch hs
  | succ links ih =>
    rw [FileSystem.walk] at hw
    rcases hs : fs.stretch place names with fault | ⟨end' | ⟨dir, target, rest⟩⟩ <;>
      rw [hs] at hw
    · cases hw
    · cases hw
      exact h.stretch hs
    · exact ih ((h.stretch hs).linkStart target) hw

lemma locate_grounded (h : fs.locate path = .ok place) : fs.Grounded place := by
  rw [locate] at h
  split at h
  · cases h
  · split at h
    · cases h
    · exact (fs.grounded_start path.origin).walk h

/-! ## Where a path leads -/

/-- The path leads to a file with these bytes. -/
def Holds (fs : FileSystem) (path : Path) (content : List UInt8) : Prop :=
  ∃ place, fs.locate path = .ok place ∧ fs.entry? place = some (.file content)

/-- The path leads to nothing that is there. -/
def Nowhere (fs : FileSystem) (path : Path) : Prop :=
  ∃ fault, fs.locate path = .error fault ∧ fault.isAbsence

/-- **Where a path leads.** -/
inductive Target (fs : FileSystem) (path : Path) : Prop where
  | nowhere (h : fs.Nowhere path)
  | overlong (h : fs.locate path = .error .nameTooLong)
  | directory (h : fs.isDirectory path = .ok true)
  | file (content : List UInt8) (h : fs.Holds path content)

lemma target (fs : FileSystem) (path : Path) : fs.Target path := by
  rcases h : fs.locate path with fault | place
  · rcases locate_fault h with rfl | habsent
    · exact .overlong h
    · exact .nowhere ⟨fault, h, habsent⟩
  · rcases locate_grounded h place (List.prefix_refl place) with hdir | ⟨content, hfile⟩
    · exact .directory (isDirectory_eq_true_iff.2 ⟨place, h, hdir⟩)
    · exact .file content ⟨place, h, hfile⟩

/-! ## What is found there -/

lemma isPresent_of_nowhere (h : fs.Nowhere path) : fs.isPresent path = .ok false := by
  obtain ⟨fault, hlocate, habsent⟩ := h
  simp [isPresent, look?, hlocate, habsent, Except.map]

lemma isPresent_of_overlong (h : fs.locate path = .error .nameTooLong) :
    fs.isPresent path = .error ⟨.nameTooLong, path⟩ := by
  simp [isPresent, look?, h, Fault.isAbsence, Except.map]

lemma isPresent_of_isDirectory (h : fs.isDirectory path = .ok true) :
    fs.isPresent path = .ok true := by
  obtain ⟨place, hlocate, hdir⟩ := isDirectory_eq_true_iff.1 h
  simp [isPresent, look?, hlocate, hdir, Except.map]

lemma Holds.isPresent {content : List UInt8} (h : fs.Holds path content) :
    fs.isPresent path = .ok true := by
  obtain ⟨place, hlocate, hfile⟩ := h
  simp [FileSystem.isPresent, look?, hlocate, hfile, Except.map]

/-- A directory has no content. -/
lemma content_of_isDirectory (h : fs.isDirectory path = .ok true) :
    fs.content path = .error ⟨.isDirectory, path⟩ := by
  obtain ⟨place, hlocate, hdir⟩ := isDirectory_eq_true_iff.1 h
  simp only [content, hlocate, hdir]

lemma Holds.content {content : List UInt8} (h : fs.Holds path content) :
    fs.content path = .ok content := by
  obtain ⟨place, hlocate, hfile⟩ := h
  simp only [FileSystem.content, hlocate, hfile]

/-- There is one content only. -/
lemma Holds.unique {content content' : List UInt8} (h : fs.Holds path content)
    (h' : fs.Holds path content') : content = content' := by
  have heq := h.content.symm.trans h'.content
  cases heq
  rfl

end FileSystem
end Keystore
