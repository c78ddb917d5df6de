/-
Paths as texts.

A path is read from text by cutting it at slashes, and written by putting slashes
between its names.  Cutting is `List.splitOn` of the library, so that its lemmas on
cutting and joining apply.  A path is *proper* when its names are what reading gives:
not empty, without a slash, and not the name `.`.  Everything that a lookup makes out
of texts is proper, and on proper paths writing and reading undo each other.  The main
results are

* `pieces_slashes_joined`: names joined by slashes are cut into the same names, however
  many slashes stand in front;
* `Path.ofString_render`: reading the text of a proper path gives the path;
* `Identity.proper_baseUnder`: the base of an identity is proper, whatever the root.
-/
import Mathlib.Data.List.Basic
import Keystore.Identity

namespace Keystore

/-! ## Cutting at slashes -/

lemma cutAtSlashes_eq_splitOn (cs : List Char) : cutAtSlashes cs = cs.splitOn '/' := by
  induction cs with
  | nil => rfl
  | cons c cs ih =>
    rw [cutAtSlashes, ih, List.splitOn_cons_eq_if_modifyHead]
    by_cases hc : c = '/'
    · simp [hc]
    · rcases hcut : cs.splitOn '/' with _ | ⟨word, words⟩
      · exact absurd hcut (List.splitOn_ne_nil _ _)
      · simp [hc]

lemma cutAtSlashes_slash (cs : List Char) : cutAtSlashes ('/' :: cs) = [] :: cutAtSlashes cs := by
  simp [cutAtSlashes]

/-- No text between slashes holds a slash. -/
lemma slash_notMem_of_mem_cutAtSlashes {cs word : List Char} (h : word ∈ cutAtSlashes cs) :
    '/' ∉ word := by
  induction cs generalizing word with
  | nil =>
    rw [List.mem_singleton.1 h]
    exact List.not_mem_nil
  | cons c cs ih =>
    rw [cutAtSlashes] at h
    split at h
    · rcases List.mem_cons.1 h with rfl | h
      · exact List.not_mem_nil
      · exact ih h
    · next hc =>
      rcases hcut : cutAtSlashes cs with _ | ⟨first, words⟩
      · rw [hcut] at h
        rw [List.mem_singleton.1 h, List.mem_singleton]
        exact fun heq => hc heq.symm
      · rw [hcut] at h ih
        rcases List.mem_cons.1 h with rfl | h
        · rw [List.mem_cons, not_or]
          exact ⟨fun heq => hc heq.symm, ih List.mem_cons_self⟩
        · exact ih (List.mem_cons_of_mem _ h)

/-! ## Pieces -/

/-- What stands between slashes: a text that is not empty and has no slash in it. -/
def IsPiece (s : String) : Prop := s ≠ "" ∧ '/' ∉ s.toList

lemma IsPiece.toList_ne_nil {s : String} (h : IsPiece s) : s.toList ≠ [] := by
  rw [Ne, String.toList_eq_nil_iff]
  exact h.1

lemma IsPiece.head?_ne {s : String} (h : IsPiece s) : s.toList.head? ≠ some '/' :=
  fun heq => h.2 (List.mem_of_head? heq)

lemma isPiece_of_mem_pieces {text s : String} (h : s ∈ pieces text) : IsPiece s := by
  obtain ⟨word, hword, rfl⟩ := List.mem_map.1 h
  obtain ⟨hmem, hne⟩ := List.mem_filter.1 hword
  refine ⟨?_, ?_⟩
  · intro hempty
    have hnil : word = [] := by simpa using congrArg String.toList hempty
    simp [hnil] at hne
  · rw [String.toList_ofList]
    exact slash_notMem_of_mem_cutAtSlashes hmem

/-- A list of pieces joined by slashes is cut into these pieces again. -/
lemma cutAtSlashes_joined {names : List String} (hne : names ≠ [])
    (h : ∀ n ∈ names, IsPiece n) :
    cutAtSlashes (List.intercalate ['/'] (names.map String.toList)) = names.map String.toList := by
  rw [cutAtSlashes_eq_splitOn]
  refine List.splitOn_intercalate '/' ?_ (by simpa using hne)
  intro word hword
  obtain ⟨n, hn, rfl⟩ := List.mem_map.1 hword
  exact (h n hn).2

lemma pieces_joined {names : List String} (h : ∀ n ∈ names, IsPiece n) :
    pieces (joinSlash names) = names := by
  rw [pieces, joinSlash, String.toList_ofList]
  by_cases hne : names = []
  · subst hne
    rfl
  · rw [cutAtSlashes_joined hne h, List.filter_eq_self.2, List.map_map]
    · simp [Function.comp_def]
    · intro word hword
      obtain ⟨n, hn, rfl⟩ := List.mem_map.1 hword
      simpa using (h n hn).1

lemma pieces_of_isPiece {s : String} (h : IsPiece s) : pieces s = [s] := by
  have hs : ∀ n ∈ [s], IsPiece n := by simpa using h
  simpa [joinSlash] using pieces_joined hs

/-- To cut a text at one of its slashes is to split the two sides of it. -/
lemma pieces_append_slash (cs ds : List Char) :
    pieces (String.ofList (cs ++ '/' :: ds))
      = pieces (String.ofList cs) ++ pieces (String.ofList ds) := by
  simp only [pieces, String.toList_ofList, cutAtSlashes_eq_splitOn]
  rw [List.splitOn_append_cons_self, List.filter_append, List.map_append]

lemma pieces_slash (cs : List Char) : pieces (String.ofList ('/' :: cs)) = pieces (String.ofList cs) := by
  simp [pieces, cutAtSlashes_slash]

/-- Slashes in front do not matter for the pieces of a text. -/
lemma pieces_slashes (k : ℕ) (cs : List Char) :
    pieces (String.ofList (List.replicate k '/' ++ cs)) = pieces (String.ofList cs) := by
  induction k with
  | zero => rw [List.replicate_zero, List.nil_append]
  | succ k ih => rw [List.replicate_succ, List.cons_append, pieces_slash, ih]

lemma pieces_slashes_joined (k : ℕ) {names : List String} (h : ∀ n ∈ names, IsPiece n) :
    pieces (String.ofList (List.replicate k '/' ++ (joinSlash names).toList)) = names := by
  rw [pieces_slashes, String.ofList_toList, pieces_joined h]

/-! ## Reading a written path -/

/-- The number of slashes in front of the names of a path. -/
def Origin.slashes : Origin → ℕ
  | here => 0
  | top => 1
  | doubleTop => 2

lemma Origin.toList_text (o : Origin) : o.text.toList = List.replicate o.slashes '/' := by
  cases o <;> rfl

@[simp] lemma Origin.ofSlashes_slashes (o : Origin) : Origin.ofSlashes o.slashes = o := by
  cases o <;> rfl

namespace Path

/-- The names of the path are such as reading a text gives. -/
def Proper (p : Path) : Prop := ∀ n ∈ p.names, IsPiece n ∧ n ≠ "."

lemma proper_ofString (text : String) : (ofString text).Proper := by
  intro n hn
  obtain ⟨hmem, hdot⟩ := List.mem_filter.1 hn
  exact ⟨isPiece_of_mem_pieces hmem, by simpa using hdot⟩

lemma Proper.append {p : Path} (hp : p.Proper) {names : List String}
    (h : ∀ n ∈ names, IsPiece n) : (p.append names).Proper := by
  intro n hn
  rcases List.mem_append.1 hn with hn | hn
  · exact hp n hn
  · obtain ⟨hmem, hdot⟩ := List.mem_filter.1 hn
    exact ⟨h n hmem, by simpa using hdot⟩

/-- For a name other than `.`, going on by one name is the same as naming a child. -/
lemma append_singleton {p : Path} {name : String} (h : name ≠ ".") :
    p.append [name] = p.child name := by
  simp [append, child, h]

/-- The text of a path: its slashes and its names, where anything is written at all. -/
lemma toList_render {p : Path} (h : ¬ (p.origin = .here ∧ p.names = [])) :
    p.render.toList = List.replicate p.origin.slashes '/' ++ (joinSlash p.names).toList := by
  rw [render, if_neg h, String.toList_append, Origin.toList_text]

/-- Apart from slashes, names joined by slashes hold the characters of the names. -/
lemma mem_joinSlash_iff {names : List String} {c : Char} (hc : c ≠ '/') :
    c ∈ (joinSlash names).toList ↔ ∃ n ∈ names, c ∈ n.toList := by
  rw [joinSlash, String.toList_ofList]
  induction names with
  | nil => simp
  | cons n names ih =>
    cases names with
    | nil => simp
    | cons m names =>
      rw [List.map_cons, List.map_cons, List.intercalate_cons_cons, ← List.map_cons,
        List.mem_append, List.mem_append, ih, List.mem_singleton]
      simp [hc]

/-- The text of a path holds no character that its names do not hold, but for slashes and the
dot of a path without names. -/
lemma mem_render_iff {p : Path} {c : Char} (hslash : c ≠ '/') (hdot : c ≠ '.') :
    c ∈ p.render.toList ↔ ∃ n ∈ p.names, c ∈ n.toList := by
  by_cases hempty : p.origin = .here ∧ p.names = []
  · rw [show p.render = "." from if_pos hempty, hempty.2]
    simp [hdot]
  · rw [toList_render hempty, List.mem_append, mem_joinSlash_iff hslash]
    simp [hslash]

/-- Names joined by slashes do not start with one. -/
lemma takeWhile_joinSlash {names : List String} (h : ∀ n ∈ names, IsPiece n) :
    (joinSlash names).toList.takeWhile (· = '/') = [] := by
  rcases names with _ | ⟨n, names⟩
  · rfl
  · obtain ⟨c, cs, hc⟩ := List.exists_cons_of_ne_nil (h n (by simp)).toList_ne_nil
    have hslash : c ≠ '/' := by
      rintro rfl
      exact (h n (by simp)).2 (by simp [hc])
    have hhead : ∃ rest, (joinSlash (n :: names)).toList = c :: rest := by
      rw [joinSlash, String.toList_ofList]
      cases names <;> simp [hc]
    obtain ⟨rest, hrest⟩ := hhead
    simp [hrest, hslash]

/-- **Reading undoes writing.**  A proper path is what its text is read as. -/
theorem ofString_render {p : Path} (hp : p.Proper) : ofString p.render = p := by
  by_cases hdot : p.origin = .here ∧ p.names = []
  · have hrender : p.render = "." := if_pos hdot
    obtain ⟨origin, names⟩ := p
    obtain ⟨rfl, rfl⟩ := hdot
    rw [hrender]
    decide
  · have hpieces : ∀ n ∈ p.names, IsPiece n := fun n hn => (hp n hn).1
    have htext := toList_render hdot
    have horigin : (p.render.toList.takeWhile (· = '/')).length = p.origin.slashes := by
      rw [htext, List.takeWhile_append_of_pos (by simp), takeWhile_joinSlash hpieces]
      simp
    have hnames : namesOf p.render = p.names := by
      rw [namesOf, ← String.ofList_toList (s := p.render), htext,
        pieces_slashes_joined _ hpieces, List.filter_eq_self]
      intro n hn
      simpa using (hp n hn).2
    rw [ofString, horigin, hnames, Origin.ofSlashes_slashes]

end Path

/-! ## The base of an identity -/

namespace Identity

lemma isPiece_of_mem_segments {i : Identity} {s : String} (h : s ∈ i.segments) : IsPiece s :=
  isPiece_of_mem_pieces h

/-- The root namespace has no segments, so that it needs no case of its own. -/
lemma baseUnder_eq_append (i : Identity) (root : String) :
    i.baseUnder root = (Path.ofString root).append i.segments := by
  rw [baseUnder]
  split
  · next h =>
    have hscope : i.scope = "/" := by simpa [inRootScope] using h
    have hnone : i.segments = [] := by
      rw [segments, hscope]
      decide
    rw [hnone, Path.append]
    simp
  · rfl

lemma proper_baseUnder (i : Identity) (root : String) : (i.baseUnder root).Proper := by
  rw [baseUnder_eq_append]
  exact (Path.proper_ofString root).append fun _ => isPiece_of_mem_segments

end Identity
end Keystore
