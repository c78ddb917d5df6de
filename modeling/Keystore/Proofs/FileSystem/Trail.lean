/-
What the way along a path depends on.

Whoever follows a path looks at the entries of some places and at nothing else in the file
system.  These places are the *trail* of the path.  Two file systems with the same entries
on the trail cannot be told apart by following the path (`locate_congr`), nor by asking
whether it leads to a directory (`isDirectory_congr`).

The trail is used for what happens when an entry is taken away with all that is below it.
No way comes to a place below another one without having been at the other one
(`Walked.not_below`), so a path that does not lead through the entry is followed as before
(`isDirectory_clear`).  And a way that comes to a place where nothing is ends there
(`Walked.eq_notFound`), so a path that can be followed without the entry does not lead
through it, and is followed in the same way with it (`locate_of_clear`).
-/
import Mathlib.Data.List.Basic
import Keystore.Proofs.Association
import Keystore.Proofs.FileSystem.Walk

namespace Keystore
namespace FileSystem

/-- The places that are looked at on a stretch, its end included. -/
def stretchTrail (fs : FileSystem) (place : Place) : List String → List Place
  | [] => [place]
  | name :: rest => place ::
    if fs.entry? place ≠ some .directory then []
    else if name = "." then stretchTrail fs place rest
    else if name = ".." then stretchTrail fs place.dropLast rest
    else if name.utf8ByteSize > nameLimit then []
    else match fs.entry? (place ++ [name]) with
      | none => [place ++ [name]]
      | some (.link _) => [place ++ [name]]
      | some _ => stretchTrail fs (place ++ [name]) rest

/-- The places that are looked at on a way with at most `links` links. -/
def walkTrail (fs : FileSystem) (links : ℕ) (place : Place) (names : List String) : List Place :=
  fs.stretchTrail place names ++
    match fs.stretch place names with
    | .ok (.atLink dir target rest) =>
      match links with
      | 0 => []
      | links + 1 => walkTrail fs links (linkStart dir target) (linkNames target ++ rest)
    | _ => []

/-- The places that are looked at when a path is followed. -/
def trail (fs : FileSystem) (path : Path) : List Place :=
  if path.render.toList.contains '\x00' then []
  else if pathLimit ≤ path.render.utf8ByteSize then []
  else fs.walkTrail linkLimit (fs.start path.origin) path.names

variable {fs fs' : FileSystem} {place there x : Place} {names : List String} {links : ℕ}
  {path : Path}

/-! ## The course of a way -/

/-- How a stretch ends, and the places that are looked at before. -/
inductive Stretched (fs : FileSystem) :
    Place → List String → Except Fault Stretch → List Place → Prop where
  /-- There is no further name. -/
  | ended (place : Place) : Stretched fs place [] (.ok (.ended place)) [place]
  /-- The next name is not looked for. -/
  | stuck (place : Place) (name : String) (rest : List String) (fault : Fault) :
    Stretched fs place (name :: rest) (.error fault) [place]
  /-- Nothing has the next name. -/
  | missing {place : Place} {name : String} (rest : List String)
    (hentry : fs.entry? (place ++ [name]) = none) :
    Stretched fs place (name :: rest) (.error .notFound) [place, place ++ [name]]
  /-- A link has the next name. -/
  | link {place : Place} {name target : String} (rest : List String)
    (hentry : fs.entry? (place ++ [name]) = some (.link target)) :
    Stretched fs place (name :: rest) (.ok (.atLink place target rest)) [place, place ++ [name]]
  /-- The stretch goes on where it is, or above. -/
  | back {place next : Place} (name : String) {rest : List String} {result : Except Fault Stretch}
    {places : List Place} (hnext : next <+: place) (h : Stretched fs next rest result places) :
    Stretched fs place (name :: rest) result (place :: places)
  /-- The stretch goes on below. -/
  | down {place : Place} {name : String} {rest : List String} {result : Except Fault Stretch}
    {places : List Place} {entry : Entry} (hentry : fs.entry? (place ++ [name]) = some entry)
    (h : Stretched fs (place ++ [name]) rest result places) :
    Stretched fs place (name :: rest) result (place :: places)

/-- How a way ends, and the places that are looked at before. -/
inductive Walked (fs : FileSystem) :
    ℕ → Place → List String → Except Fault Place → List Place → Prop where
  /-- A stretch of it fails. -/
  | failed (links : ℕ) {place : Place} {names : List String} {fault : Fault} {places : List Place}
    (hs : Stretched fs place names (.error fault) places) :
    Walked fs links place names (.error fault) places
  /-- It comes to its end. -/
  | arrived (links : ℕ) {place there : Place} {names : List String} {places : List Place}
    (hs : Stretched fs place names (.ok (.ended there)) places) :
    Walked fs links place names (.ok there) places
  /-- It comes to a link too many. -/
  | looped {place dir : Place} {names rest : List String} {target : String} {places : List Place}
    (hs : Stretched fs place names (.ok (.atLink dir target rest)) places) :
    Walked fs 0 place names (.error .linkLoop) places
  /-- It goes on behind a link. -/
  | followed {links : ℕ} {place dir : Place} {names rest : List String} {target : String}
    {result : Except Fault Place} {places more : List Place}
    (hs : Stretched fs place names (.ok (.atLink dir target rest)) places)
    (h : Walked fs links (linkStart dir target) (linkNames target ++ rest) result more) :
    Walked fs (links + 1) place names result (places ++ more)

lemma stretched (fs : FileSystem) (place : Place) (names : List String) :
    Stretched fs place names (fs.stretch place names) (fs.stretchTrail place names) := by
  induction names generalizing place with
  | nil => exact .ended place
  | cons name rest ih =>
    rw [stretch, stretchTrail]
    split
    · exact .stuck place name rest .notDirectory
    · split
      · exact .back name (List.prefix_refl place) (ih place)
      · split
        · exact .back name (List.dropLast_prefix place) (ih place.dropLast)
        · split
          · exact .stuck place name rest .nameTooLong
          · rcases hentry : fs.entry? (place ++ [name]) with _ | _ | content | target
            · exact .missing rest hentry
            · exact .down hentry (ih (place ++ [name]))
            · exact .down hentry (ih (place ++ [name]))
            · exact .link rest hentry

lemma walked (fs : FileSystem) (links : ℕ) (place : Place) (names : List String) :
    Walked fs links place names (fs.walk links place names) (fs.walkTrail links place names) := by
  induction links generalizing place names with
  | zero =>
    have hs := fs.stretched place names
    rw [walk, walkTrail]
    rcases heq : fs.stretch place names with fault | ⟨there | ⟨dir, target, rest⟩⟩ <;>
      rw [heq] at hs <;> simp only [List.append_nil]
    · exact .failed 0 hs
    · exact .arrived 0 hs
    · exact .looped hs
  | succ links ih =>
    have hs := fs.stretched place names
    rw [walk, walkTrail]
    rcases heq : fs.stretch place names with fault | ⟨there | ⟨dir, target, rest⟩⟩ <;>
      rw [heq] at hs
    · simpa only [List.append_nil] using Walked.failed (links + 1) hs
    · simpa only [List.append_nil] using Walked.arrived (links + 1) hs
    · exact .followed hs (ih _ _)

/-- Following a path is a way, unless the text of the path is none that is followed. -/
lemma locate_cases (fs : FileSystem) (path : Path) :
    (∃ fault, fs.locate path = .error fault ∧ fs.trail path = []) ∨
      Walked fs linkLimit (fs.start path.origin) path.names (fs.locate path) (fs.trail path) := by
  rw [locate, trail]
  split
  · exact Or.inl ⟨_, rfl, rfl⟩
  · split
    · exact Or.inl ⟨_, rfl, rfl⟩
    · exact Or.inr (fs.walked _ _ _)

/-! ## File systems that agree on a trail -/

lemma Stretched.start_mem {result : Except Fault Stretch} {places : List Place}
    (h : Stretched fs place names result places) : place ∈ places := by
  cases h with
  | ended place => exact List.mem_singleton_self place
  | _ => exact List.mem_cons_self

lemma stretch_congr (h : ∀ p ∈ fs.stretchTrail place names, fs'.entry? p = fs.entry? p) :
    fs'.stretch place names = fs.stretch place names := by
  induction names generalizing place with
  | nil => rfl
  | cons name rest ih =>
    -- Both stretches take the same branch, for what decides about it is on the trail.
    rw [stretchTrail] at h
    obtain ⟨hplace, h⟩ := List.forall_mem_cons.1 h
    rw [stretch, stretch, hplace]
    split
    · rfl
    · next hdir =>
      rw [if_neg hdir] at h
      split
      · next hdot =>
        rw [if_pos hdot] at h
        exact ih h
      · next hdot =>
        rw [if_neg hdot] at h
        split
        · next hdotdot =>
          rw [if_pos hdotdot] at h
          exact ih h
        · next hdotdot =>
          rw [if_neg hdotdot] at h
          split
          · rfl
          · next hsize =>
            rw [if_neg hsize] at h
            -- The entry of the name is on the trail, whatever it is.
            have hmem := (fs.stretched (place ++ [name]) rest).start_mem
            rcases hentry : fs.entry? (place ++ [name]) with _ | _ | content | target <;>
              simp only [hentry] at h
            · rw [h _ (List.mem_singleton_self _), hentry]
            · rw [h _ hmem, hentry]
              exact ih h
            · rw [h _ hmem, hentry]
              exact ih h
            · rw [h _ (List.mem_singleton_self _), hentry]

lemma walk_congr (h : ∀ p ∈ fs.walkTrail links place names, fs'.entry? p = fs.entry? p) :
    fs'.walk links place names = fs.walk links place names := by
  induction links generalizing place names with
  | zero =>
    rw [walkTrail] at h
    rw [walk, walk, stretch_congr fun p hp => h p (List.mem_append_left _ hp)]
  | succ links ih =>
    rw [walkTrail] at h
    rw [walk, walk, stretch_congr fun p hp => h p (List.mem_append_left _ hp)]
    rcases hs : fs.stretch place names with fault | ⟨there | ⟨dir, target, rest⟩⟩
    · rfl
    · rfl
    · rw [hs] at h
      exact ih fun p hp => h p (List.mem_append_right _ hp)

/-- **Following a path depends on its trail only.** -/
theorem locate_congr (hstart : fs'.workingDirectory = fs.workingDirectory)
    (h : ∀ p ∈ fs.trail path, fs'.entry? p = fs.entry? p) : fs'.locate path = fs.locate path := by
  have horigin : fs'.start path.origin = fs.start path.origin := by
    cases path.origin with
    | here => exact hstart
    | _ => rfl
  rw [trail] at h
  rw [locate, locate, horigin]
  split
  · rfl
  · next hnul =>
    rw [if_neg hnul] at h
    split
    · rfl
    · next hsize =>
      rw [if_neg hsize] at h
      exact walk_congr h

/-- The directory that a stretch has come to. -/
def Stretch.reached : Stretch → Place
  | .ended place => place
  | .atLink dir _ _ => dir

lemma Stretched.reached_mem {s : Stretch} {places : List Place}
    (h : Stretched fs place names (.ok s) places) : s.reached ∈ places := by
  generalize hresult : Except.ok s = result at h
  induction h with
  | ended place =>
    cases hresult
    exact List.mem_singleton_self place
  | link rest hentry =>
    cases hresult
    exact List.mem_cons_self
  | back name hnext h ih => exact List.mem_cons_of_mem _ (ih hresult)
  | down hentry h ih => exact List.mem_cons_of_mem _ (ih hresult)
  | _ => cases hresult

lemma Walked.end_mem {places : List Place} (h : Walked fs links place names (.ok there) places) :
    there ∈ places := by
  generalize hresult : Except.ok there = result at h
  induction h with
  | arrived links hs =>
    cases hresult
    exact hs.reached_mem
  | followed hs h ih => exact List.mem_append_right _ (ih hresult)
  | _ => cases hresult

/-- **Asking whether a path leads to a directory depends on its trail only.** -/
theorem isDirectory_congr (hstart : fs'.workingDirectory = fs.workingDirectory)
    (h : ∀ p ∈ fs.trail path, fs'.entry? p = fs.entry? p) :
    fs'.isDirectory path = fs.isDirectory path := by
  rw [isDirectory, isDirectory, look?, look?, locate_congr hstart h]
  rcases hlocate : fs.locate path with fault | there
  · rfl
  · rcases fs.locate_cases path with ⟨fault, hfault, -⟩ | hwalked
    · rw [hlocate] at hfault
      cases hfault
    · rw [hlocate] at hwalked
      simp only [h there hwalked.end_mem]

/-! ## Ways and the places above them -/

lemma not_below_append {name : String} (hplace : ¬ x <+: place) (hne : x ≠ place ++ [name]) :
    ¬ x <+: place ++ [name] := fun hbelow =>
  (List.prefix_concat_iff.1 hbelow).elim hne hplace

/-- The target of a link starts at the top, or where the link is. -/
lemma not_below_linkStart (hx : x ≠ []) {dir : Place} (hdir : ¬ x <+: dir) (target : String) :
    ¬ x <+: linkStart dir target := by
  rw [linkStart]
  split
  · exact fun hbelow => hx (List.prefix_nil.1 hbelow)
  · exact hdir

/-- A stretch that gets below a place has been there. -/
lemma Stretched.not_below {result : Except Fault Stretch} {places : List Place}
    (h : Stretched fs place names result places) (hplace : ¬ x <+: place) (hx : x ∉ places) :
    ∀ p ∈ places, ¬ x <+: p := by
  induction h with
  | ended place => exact fun p hp => List.mem_singleton.1 hp ▸ hplace
  | stuck place name rest fault => exact fun p hp => List.mem_singleton.1 hp ▸ hplace
  | missing rest hentry =>
    have hne := List.ne_of_not_mem_cons (List.not_mem_of_not_mem_cons hx)
    simpa using ⟨hplace, not_below_append hplace hne⟩
  | link rest hentry =>
    have hne := List.ne_of_not_mem_cons (List.not_mem_of_not_mem_cons hx)
    simpa using ⟨hplace, not_below_append hplace hne⟩
  | back name hnext h ih =>
    have hback := fun hbelow => hplace (List.IsPrefix.trans hbelow hnext)
    exact List.forall_mem_cons.2 ⟨hplace, ih hback (List.not_mem_of_not_mem_cons hx)⟩
  | down hentry h ih =>
    -- One step down leads below `x` only if it leads to `x`, which would be on the trail.
    have hlater := List.not_mem_of_not_mem_cons hx
    have hne := ne_of_mem_of_not_mem h.start_mem hlater
    exact List.forall_mem_cons.2 ⟨hplace, ih (not_below_append hplace hne.symm) hlater⟩

/-- A way that gets below a place has been there. -/
lemma Walked.not_below {result : Except Fault Place} {places : List Place}
    (h : Walked fs links place names result places) (hx : x ≠ []) (hplace : ¬ x <+: place)
    (hmem : x ∉ places) : ∀ p ∈ places, ¬ x <+: p := by
  induction h with
  | failed links hs => exact hs.not_below hplace hmem
  | arrived links hs => exact hs.not_below hplace hmem
  | looped hs => exact hs.not_below hplace hmem
  | followed hs h ih =>
    rw [List.mem_append, not_or] at hmem
    have hfirst := hs.not_below hplace hmem.1
    have hdir := hfirst _ hs.reached_mem
    have hlater := ih (not_below_linkStart hx hdir _) hmem.2
    exact fun p hp => (List.mem_append.1 hp).elim (hfirst p) (hlater p)

/-- A stretch that comes to a place where nothing is ends there. -/
lemma Stretched.eq_notFound {result : Except Fault Stretch} {places : List Place}
    (h : Stretched fs place names result places) (hnone : fs.entry? x = none)
    (hplace : ¬ x <+: place) (hx : x ∈ places) : result = .error .notFound := by
  have hself : ∀ {place : Place}, ¬ x <+: place → x ≠ place := by
    rintro place hplace rfl
    exact hplace (List.prefix_refl x)
  have hsome : ∀ {p : Place} {entry : Entry}, fs.entry? p = some entry → x ≠ p := by
    rintro p entry hentry rfl
    rw [hnone] at hentry
    cases hentry
  -- Of the places on the trail only the last one may be empty.
  induction h with
  | ended place => exact absurd (List.mem_singleton.1 hx) (hself hplace)
  | stuck place name rest fault => exact absurd (List.mem_singleton.1 hx) (hself hplace)
  | missing rest hentry => rfl
  | link rest hentry =>
    simp only [List.mem_cons, List.not_mem_nil, or_false] at hx
    exact absurd hx (not_or.2 ⟨hself hplace, hsome hentry⟩)
  | back name hnext h ih =>
    have hback := fun hbelow => hplace (List.IsPrefix.trans hbelow hnext)
    exact ih hback ((List.mem_cons.1 hx).resolve_left (hself hplace))
  | down hentry h ih =>
    exact ih (not_below_append hplace (hsome hentry))
      ((List.mem_cons.1 hx).resolve_left (hself hplace))

/-- A way that comes to a place where nothing is ends there. -/
lemma Walked.eq_notFound {result : Except Fault Place} {places : List Place}
    (h : Walked fs links place names result places) (hx : x ≠ []) (hnone : fs.entry? x = none)
    (hplace : ¬ x <+: place) (hmem : x ∈ places) : result = .error .notFound := by
  induction h with
  | failed links hs =>
    cases hs.eq_notFound hnone hplace hmem
    rfl
  | arrived links hs => cases hs.eq_notFound hnone hplace hmem
  | looped hs => cases hs.eq_notFound hnone hplace hmem
  | @followed _ _ _ _ _ _ _ passed _ hs h ih =>
    by_cases hfirst : x ∈ passed
    · cases hs.eq_notFound hnone hplace hfirst
    · -- The link lies on the way that has been gone, and so where its target starts is not below.
      have hdir := hs.not_below hplace hfirst _ hs.reached_mem
      exact ih (not_below_linkStart hx hdir _) ((List.mem_append.1 hmem).resolve_left hfirst)

/-! ## Taking an entry away -/

/-- What is at the place and below it is gone, but for the way to the working directory. -/
lemma entry_clear (fs : FileSystem) (x p : Place) :
    entry? (fs.clear x) p
      = if x.isPrefixOf p && !p.isPrefixOf fs.workingDirectory then none else fs.entry? p := by
  have hlookup : (fs.clear x).entries.lookup p
      = if (!x.isPrefixOf p) = true then fs.entries.lookup p else none :=
    lookup_filter_key (fun q => !x.isPrefixOf q) p fs.entries
  have hstart : (fs.clear x).workingDirectory = fs.workingDirectory := rfl
  rw [ entry?, entry?, hlookup, hstart]
  cases x.isPrefixOf p <;> cases p.isPrefixOf fs.workingDirectory <;> simp

lemma entry_clear_of_not_below {p : Place} (h : ¬ x <+: p) :
    entry? (fs.clear x) p = fs.entry? p := by
  rw [← List.isPrefixOf_iff_prefix, Bool.not_eq_true] at h
  rw [entry_clear, h]
  rfl

/-- The place is empty afterwards exactly if the working directory lies neither there nor below. -/
lemma entry_clear_eq_none_iff : entry? (fs.clear x) x = none ↔ ¬ x <+: fs.workingDirectory := by
  rw [entry_clear, List.isPrefixOf_iff_prefix.2 (List.prefix_refl x), ← List.isPrefixOf_iff_prefix]
  cases hwork : x.isPrefixOf fs.workingDirectory
  · simp
  · simp [ entry?, hwork]

/-- Afterwards the directory lists what it listed before, without the name that was taken away. -/
lemma children_clear (fs : FileSystem) (dir : Place) (name : String) :
    (fs.clear (dir ++ [name])).children dir = (fs.children dir).filter (· ≠ name) := by
  rw [children, children, clear, List.filterMap_filter, List.filter_filterMap]
  refine List.filterMap_congr fun e _ => ?_
  rcases hname : nameIn? dir e.1 with _ | other
  · simp
  · have hplace := eq_append_of_nameIn? hname
    have hbelow : (dir ++ [name]).isPrefixOf e.1 = decide (other = name) := by
      rw [Bool.eq_iff_iff, List.isPrefixOf_iff_prefix, hplace, List.prefix_append_right_inj,
        decide_eq_true_eq]
      simp [eq_comm]
    rw [hbelow]
    by_cases heq : other = name <;> simp [heq, Option.filter]

section Clear

variable (hx : x ≠ []) (hnone : entry? (fs.clear x) x = none)

include hx hnone

lemma not_below_start : ∀ origin, ¬ x <+: fs.start origin := by
  have hwork := entry_clear_eq_none_iff.1 hnone
  rintro (_ | _ | _)
  · exact hwork
  · exact fun hbelow => hx (List.prefix_nil.1 hbelow)
  · exact fun hbelow => hx (List.prefix_nil.1 hbelow)

/-- A path that does not lead through the entry is not touched by taking it away. -/
theorem isDirectory_clear (hmem : x ∉ fs.trail path) :
    (fs.clear x).isDirectory path = fs.isDirectory path := by
  refine isDirectory_congr rfl fun p hp => entry_clear_of_not_below ?_
  rcases fs.locate_cases path with ⟨-, -, htrail⟩ | hwalked
  · rw [htrail] at hp
    exact absurd hp List.not_mem_nil
  · exact hwalked.not_below hx (not_below_start hx hnone _) hmem p hp

/-- A path that can be followed without the entry is followed in the same way with it. -/
theorem locate_of_clear (hlocate : (fs.clear x).locate path = .ok there) :
    fs.locate path = .ok there := by
  rw [← hlocate]
  refine locate_congr rfl fun p hp => (entry_clear_of_not_below ?_).symm
  rcases (fs.clear x).locate_cases path with ⟨-, -, htrail⟩ | hwalked
  · rw [htrail] at hp
    exact absurd hp List.not_mem_nil
  · have hstart : ¬ x <+: (fs.clear x).start path.origin := not_below_start hx hnone path.origin
    have hmem : x ∉ (fs.clear x).trail path := by
      intro hmem
      have hfault := hwalked.eq_notFound hx hnone hstart hmem
      rw [hlocate] at hfault
      cases hfault
    exact hwalked.not_below hx hstart hmem p hp

end Clear

end FileSystem
end Keystore
