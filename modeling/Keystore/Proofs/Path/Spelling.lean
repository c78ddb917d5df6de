/-
The spellings of a namespace.

A list of names is spelled by writing the names one after the other, with slashes between
neighbours.  How many slashes there are does not matter, as long as there is one; and there may be
any number of them in front of the first name and behind the last one.  To split a namespace is
the inverse of this (`pieces_eq_iff`): the segments of a namespace are the one list of names that
the namespace spells, and every text whatever spells some list.

Of the spellings of a list there is one that has no slash to spare, and every other one comes down
to it when the slashes at its ends are dropped and each run of slashes is shortened to a single one
(`collapsed_eq_joinSlash`).  So namespaces have the same segments exactly if they collapse to the
same text.
-/
import Mathlib.Data.List.Destutter
import Mathlib.Data.List.DropRight
import Keystore.Proofs.Path.Text

namespace Keystore

/-! ## Spellings -/

/-- The characters are the names in order, with slashes between neighbours: one of them, and as
many more as there may be. -/
inductive Spaced : List String → List Char → Prop where
  | none : Spaced [] []
  | last {name : String} (hname : IsPiece name) : Spaced [name] name.toList
  | before {name next : String} {names : List String} {cs : List Char} (hname : IsPiece name)
    (more : ℕ) (h : Spaced (next :: names) cs) :
    Spaced (name :: next :: names) (name.toList ++ (List.replicate (more + 1) '/' ++ cs))

/-- The text spells the names: slashes stand between neighbours, and there may be more slashes in
front of the first name and behind the last one. -/
def Spells (text : String) (names : List String) : Prop :=
  ∃ lead trail core, Spaced names core ∧
    text.toList = List.replicate lead '/' ++ core ++ List.replicate trail '/'

/-- The characters without the slashes at their two ends. -/
def trimmed (cs : List Char) : List Char := (cs.dropWhile (· = '/')).rdropWhile (· = '/')

/-- The characters without those slashes that follow another slash. -/
def shortened (cs : List Char) : List Char := cs.destutter fun c d => c ≠ '/' ∨ d ≠ '/'

/-- The text without slashes at its ends, and with a single slash for every run of them. -/
def collapsed (text : String) : String := String.ofList (shortened (trimmed text.toList))

example : collapsed "//a///b/" = "a/b" ∧ collapsed "///" = "" := by decide

variable {name text : String} {names : List String} {cs core : List Char}

/-! ## What a spelling is split into -/

lemma pieces_append_slashes (cs : List Char) (k : ℕ) :
    pieces (String.ofList (cs ++ List.replicate k '/')) = pieces (String.ofList cs) := by
  cases k with
  | zero => rw [List.replicate_zero, List.append_nil]
  | succ k =>
    have hnone : pieces (String.ofList (List.replicate k '/')) = [] := by
      simpa [pieces, cutAtSlashes] using pieces_slashes k []
    rw [List.replicate_succ, pieces_append_slash, hnone, List.append_nil]

lemma Spaced.pieces_eq (h : Spaced names cs) : pieces (String.ofList cs) = names := by
  induction h with
  | none => decide
  | last hname => rw [String.ofList_toList, pieces_of_isPiece hname]
  | before hname more _ ih =>
    rw [List.replicate_succ, List.cons_append, pieces_append_slash, pieces_slashes, ih,
      String.ofList_toList, pieces_of_isPiece hname, List.singleton_append]

lemma Spells.pieces_eq (h : Spells text names) : pieces text = names := by
  obtain ⟨lead, trail, core, hcore, htext⟩ := h
  rw [← String.ofList_toList (s := text), htext, pieces_append_slashes, pieces_slashes,
    hcore.pieces_eq]

/-! ## Every text is a spelling -/

lemma spells_empty : Spells "" [] := ⟨0, 0, [], .none, rfl⟩

lemma spells_of_isPiece (h : IsPiece name) : Spells name [name] :=
  ⟨0, 0, name.toList, .last h, by simp⟩

lemma Spells.slash (h : Spells (String.ofList cs) names) :
    Spells (String.ofList ('/' :: cs)) names := by
  obtain ⟨lead, trail, core, hcore, htext⟩ := h
  refine ⟨lead + 1, trail, core, hcore, ?_⟩
  rw [String.toList_ofList] at htext ⊢
  rw [htext, List.replicate_succ, List.cons_append, List.cons_append]

/-- A name is put in front of a spelling.  The slashes that this one starts with stand between the
name and the next one, or behind the name if there is no next one. -/
lemma Spells.before (hname : IsPiece name) (h : Spells (String.ofList cs) names) :
    Spells (String.ofList (name.toList ++ '/' :: cs)) (name :: names) := by
  obtain ⟨lead, trail, core, hcore, htext⟩ := h
  rw [String.toList_ofList] at htext
  rcases names with _ | ⟨next, names⟩
  · cases hcore
    refine ⟨0, lead + trail + 1, name.toList, .last hname, ?_⟩
    rw [String.toList_ofList, htext, List.append_nil, List.replicate_append_replicate,
      List.replicate_zero, List.nil_append, List.replicate_succ]
  · refine ⟨0, trail, _, .before hname lead hcore, ?_⟩
    rw [String.toList_ofList, htext, List.replicate_succ]
    simp

/-- Words with slashes between neighbours spell those of the words that are not empty. -/
lemma spells_intercalate {words : List (List Char)} (h : ∀ word ∈ words, '/' ∉ word) :
    Spells (String.ofList (List.intercalate ['/'] words))
      ((words.filter (! ·.isEmpty)).map String.ofList) := by
  induction words with
  | nil => exact spells_empty
  | cons word words ih =>
    have hrest := ih fun w hw => h w (List.mem_cons_of_mem _ hw)
    rcases hword : word with _ | ⟨c, cs⟩
    · -- An empty word adds the slash behind it, if there is one.
      rcases words with _ | ⟨next, words⟩
      · exact spells_empty
      · exact hrest.slash
    · have hpiece : IsPiece (String.ofList (c :: cs)) := by
        refine ⟨by simp, ?_⟩
        rw [String.toList_ofList, ← hword]
        exact h word List.mem_cons_self
      rcases words with _ | ⟨next, words⟩
      · rw [List.intercalate_singleton]
        exact spells_of_isPiece hpiece
      · simpa using hrest.before hpiece

lemma spells_pieces (text : String) : Spells text (pieces text) := by
  have hwords : ∀ word ∈ cutAtSlashes text.toList, '/' ∉ word :=
    fun _ => slash_notMem_of_mem_cutAtSlashes
  have hspells := spells_intercalate hwords
  rwa [cutAtSlashes_eq_splitOn, List.intercalate_splitOn, String.ofList_toList,
    ← cutAtSlashes_eq_splitOn] at hspells

/-- **To split is to undo a spelling.** -/
theorem pieces_eq_iff : pieces text = names ↔ Spells text names :=
  ⟨fun h => h ▸ spells_pieces text, Spells.pieces_eq⟩

/-! ## Trimming -/

lemma dropWhile_slashes (k : ℕ) (h : cs.head? ≠ some '/') :
    (List.replicate k '/' ++ cs).dropWhile (· = '/') = cs := by
  rw [List.dropWhile_append_of_pos (by simp)]
  cases cs with
  | nil => rfl
  | cons c cs => exact List.dropWhile_cons_of_neg (by simpa using h)

lemma rdropWhile_slashes (k : ℕ) (h : cs.getLast? ≠ some '/') :
    (cs ++ List.replicate k '/').rdropWhile (· = '/') = cs := by
  rw [List.rdropWhile, List.reverse_append, List.reverse_replicate,
    dropWhile_slashes k (by rwa [List.head?_reverse]), List.reverse_reverse]

lemma trimmed_slashes (lead trail : ℕ) (hhead : core.head? ≠ some '/')
    (hlast : core.getLast? ≠ some '/') :
    trimmed (List.replicate lead '/' ++ core ++ List.replicate trail '/') = core := by
  rw [trimmed, List.append_assoc]
  by_cases hcore : core = []
  · -- Here the slashes in front and those behind are one run.
    rw [hcore, List.nil_append, List.replicate_append_replicate, List.dropWhile_eq_nil_iff.2]
    · rfl
    · simp
  · rw [dropWhile_slashes lead, rdropWhile_slashes trail hlast]
    rwa [List.head?_append_of_ne_nil _ hcore]

/-! ## Shortening -/

lemma shortened_cons {c : Char} (h : c ≠ '/') (cs : List Char) :
    shortened (c :: cs) = c :: shortened cs := by
  cases cs with
  | nil => rfl
  | cons d cs =>
    rw [shortened, List.destutter_cons_cons, if_pos (Or.inl h)]
    rfl

/-- What is not a slash stays. -/
lemma shortened_append {word : List Char} (h : '/' ∉ word) (cs : List Char) :
    shortened (word ++ cs) = word ++ shortened cs := by
  induction word with
  | nil => rfl
  | cons c word ih =>
    obtain ⟨hc, hword⟩ := not_or.1 fun hmem => h (List.mem_cons.2 hmem)
    rw [List.cons_append, shortened_cons (fun heq => hc heq.symm), ih hword, List.cons_append]

/-- Of a run of slashes one stays. -/
lemma shortened_slashes (more : ℕ) (h : cs.head? ≠ some '/') :
    shortened (List.replicate (more + 1) '/' ++ cs) = '/' :: shortened cs := by
  induction more with
  | zero =>
    rw [List.replicate_one, List.singleton_append]
    cases cs with
    | nil => rfl
    | cons d cs =>
      have hd : d ≠ '/' := by simpa using h
      rw [shortened, List.destutter_cons_cons, if_pos (Or.inr hd)]
      rfl
  | succ more ih =>
    rw [← ih, List.replicate_succ, List.replicate_succ, List.cons_append, List.cons_append,
      shortened, List.destutter_cons_cons, if_neg (by simp)]
    rfl

/-! ## Collapsing a spelling -/

namespace Spaced

lemma ne_nil (h : Spaced (name :: names) cs) : cs ≠ [] := by
  cases h with
  | last hname => exact hname.toList_ne_nil
  | before hname => exact List.append_ne_nil_of_left_ne_nil hname.toList_ne_nil _

lemma head?_ne (h : Spaced names cs) : cs.head? ≠ some '/' := by
  cases h with
  | none => simp
  | last hname => exact hname.head?_ne
  | before hname =>
    rw [List.head?_append_of_ne_nil _ hname.toList_ne_nil]
    exact hname.head?_ne

lemma getLast?_ne (h : Spaced names cs) : cs.getLast? ≠ some '/' := by
  induction h with
  | none => simp
  | last hname => exact fun heq => hname.2 (List.mem_of_getLast? heq)
  | before hname more hnext ih =>
    rwa [← List.append_assoc, List.getLast?_append_of_ne_nil _ hnext.ne_nil]

lemma shortened_eq (h : Spaced names cs) : shortened cs = (joinSlash names).toList := by
  rw [joinSlash, String.toList_ofList]
  induction h with
  | none => rfl
  | @last name hname =>
    calc shortened name.toList
        = shortened (name.toList ++ []) := by rw [List.append_nil]
      _ = name.toList ++ shortened [] := shortened_append hname.2 []
      _ = List.intercalate ['/'] [name.toList] := by
        rw [List.intercalate_singleton]
        exact List.append_nil _
  | @before name next names cs hname more hnext ih =>
    calc shortened (name.toList ++ (List.replicate (more + 1) '/' ++ cs))
        = name.toList ++ '/' :: shortened cs := by
          rw [shortened_append hname.2, shortened_slashes more hnext.head?_ne]
      _ = name.toList ++ ['/'] ++ List.intercalate ['/'] ((next :: names).map String.toList) := by
          rw [ih, List.append_assoc, List.singleton_append]
      _ = List.intercalate ['/'] ((name :: next :: names).map String.toList) :=
          List.intercalate_cons_cons.symm

end Spaced

/-- **A text collapses to its pieces** with single slashes between neighbours. -/
theorem collapsed_eq_joinSlash (text : String) : collapsed text = joinSlash (pieces text) := by
  obtain ⟨lead, trail, core, hcore, htext⟩ := spells_pieces text
  rw [collapsed, htext, trimmed_slashes lead trail hcore.head?_ne hcore.getLast?_ne,
    hcore.shortened_eq, String.ofList_toList]

lemma collapsed_eq_iff {other : String} :
    collapsed text = collapsed other ↔ pieces text = pieces other := by
  rw [collapsed_eq_joinSlash, collapsed_eq_joinSlash]
  constructor
  · intro h
    calc pieces text
        = pieces (joinSlash (pieces text)) := (pieces_joined fun _ => isPiece_of_mem_pieces).symm
      _ = pieces (joinSlash (pieces other)) := congrArg pieces h
      _ = pieces other := pieces_joined fun _ => isPiece_of_mem_pieces
  · exact fun h => congrArg joinSlash h

/-! ## The segments of a namespace -/

/-- Names that are joined behind a slash are a spelling of themselves. -/
lemma pieces_slash_joined (h : ∀ n ∈ names, IsPiece n) :
    pieces ("/" ++ joinSlash names) = names := by
  have hslash : "/".toList = List.replicate 1 '/' := by decide
  rw [← String.ofList_toList (s := "/" ++ joinSlash names), String.toList_append, hslash,
    pieces_slashes_joined 1 h]

/-- **To split a namespace undoes joining.**  The segments are the one list of names that the
namespace spells, and every list of names is spelled when it is joined behind a slash.  Segments
are not empty and hold no slash, and joined again they are the segments of what comes out.  Two
namespaces have the same segments exactly if they collapse to the same text. -/
theorem segments_undo_joining :
    (∀ (i : Identity) (names : List String), i.segments = names ↔ Spells i.scope names) ∧
    (∀ names : List String, (∀ n ∈ names, n ≠ "" ∧ '/' ∉ n.toList) →
      Spells ("/" ++ joinSlash names) names) ∧
    (∀ i : Identity, ∀ s ∈ i.segments, s ≠ "" ∧ '/' ∉ s.toList) ∧
    (∀ i : Identity, (Identity.mk i.name ("/" ++ joinSlash i.segments)).segments = i.segments) ∧
    ∀ i j : Identity, i.segments = j.segments ↔ collapsed i.scope = collapsed j.scope := by
  refine ⟨fun i names => pieces_eq_iff, fun names h => pieces_eq_iff.1 (pieces_slash_joined h),
    fun i s => Identity.isPiece_of_mem_segments, fun i => ?_, fun i j => collapsed_eq_iff.symm⟩
  exact pieces_slash_joined fun _ => Identity.isPiece_of_mem_segments

/-- A namespace with a slash to spare in every place where there may be one, beside the plain
spelling of the same names. -/
theorem segments_undo_joining_spare :
    Spells "//a///b/" ["a", "b"] ∧ Spells ("/" ++ joinSlash ["a", "b"]) ["a", "b"] ∧
      (Identity.mk "talker" "//a///b/").segments = ["a", "b"] ∧
      (Identity.mk "talker" "//a///b/").segments = (Identity.mk "talker" "/a/b").segments ∧
      "b" ≠ "" ∧ '/' ∉ "b".toList := by
  obtain ⟨hspells, hjoined, hpieces, -, hcollapsed⟩ := segments_undo_joining
  have hspelling : Spells "//a///b/" ["a", "b"] :=
    ⟨2, 1, _, .before ⟨by decide, by decide⟩ 2 (.last ⟨by decide, by decide⟩), by decide⟩
  have hsegments := (hspells ⟨"talker", "//a///b/"⟩ ["a", "b"]).2 hspelling
  refine ⟨hspelling, hjoined _ (by decide), hsegments, (hcollapsed _ _).2 (by decide), ?_⟩
  exact hpieces ⟨"talker", "//a///b/"⟩ "b" (by rw [hsegments]; decide)

end Keystore
