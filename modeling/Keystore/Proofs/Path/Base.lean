/-
The base of an identity.

To read a text as a path is to keep what stands between its slashes, but for empty texts and dots.
These are the *words* of the text.  The base of an identity is the root followed by the words of
the namespace (`Identity.names_baseUnder`), and it starts where the root starts.  To go on to a
text that starts with a slash would be to leave the root (`Path.join`), but a segment of a
namespace holds no slash, so that no namespace does this (`Identity.baseUnder_eq_join`).

What is said about namespaces and directories is read off their words.  A namespace behind another
one has the words of both, so to go down by the first one is to move the root
(`Identity.baseUnder_append`); and two namespaces have the same base exactly if they have the same
words (`Identity.baseUnder_eq_iff`).
-/
import Mathlib.Data.List.Basic
import Keystore.Proofs.Path.Text

namespace Keystore

/-! ## Words -/

/-- What stands between the slashes of a text, but for empty texts and dots. -/
def words (text : String) : List String :=
  ((text.toList.splitOn '/').map String.ofList).filter fun w => w ≠ "" ∧ w ≠ "."

example : words "//a/./b//" = ["a", "b"] := by decide

/-- The words of a text are the names that it is read as. -/
lemma namesOf_eq_words (text : String) : Path.namesOf text = words text := by
  rw [Path.namesOf, pieces, words, cutAtSlashes_eq_splitOn, List.filter_map, List.filter_map,
    List.filter_filter]
  refine congrArg _ (List.filter_congr fun word _ => ?_)
  have hempty : word.isEmpty = decide (String.ofList word = "") := by
    rw [Bool.eq_iff_iff, decide_eq_true_eq, List.isEmpty_iff, ← String.toList_eq_nil_iff,
      String.toList_ofList]
  simp [hempty, Bool.and_comm]

lemma words_of_isPiece {s : String} (h : IsPiece s) : words s = [s].filter (· ≠ ".") := by
  rw [← namesOf_eq_words, Path.namesOf, pieces_of_isPiece h]

/-- A text that starts with a slash adds its words to those in front of it. -/
lemma words_append (outer : String) {inner : String} (h : inner.toList.head? = some '/') :
    words (outer ++ inner) = words outer ++ words inner := by
  obtain ⟨rest, hrest⟩ := List.head?_eq_some_iff.1 h
  have hinner : inner = String.ofList ('/' :: rest) := by rw [← hrest, String.ofList_toList]
  have htext : outer ++ inner = String.ofList (outer.toList ++ '/' :: rest) := by
    rw [← hrest, String.ofList_append, String.ofList_toList, String.ofList_toList]
  -- The slash is a cut, in both texts.
  have hpieces : pieces (outer ++ inner) = pieces outer ++ pieces inner := by
    rw [htext, pieces_append_slash, String.ofList_toList, hinner, pieces_slash]
  simp only [← namesOf_eq_words, Path.namesOf, hpieces, List.filter_append]

namespace Path

lemma ext {p q : Path} (horigin : p.origin = q.origin) (hnames : p.names = q.names) : p = q := by
  cases p
  cases q
  cases horigin
  cases hnames
  rfl

/-! ## Going on by a text -/

/-- The path that a text leads to from another one: a text that starts with a slash leads away
from it. -/
def join (p : Path) (text : String) : Path :=
  if text.toList.head? = some '/' then ofString text
  else { p with names := p.names ++ words text }

example : (ofString "k").join "a/./b" = ofString "k/a/b" := by decide
example : (ofString "k").join "/a" = ofString "/a" := by decide

lemma append_append (p : Path) (names more : List String) :
    (p.append names).append more = p.append (names ++ more) := by
  simp [append]

/-- To go on by a name is to append it. -/
lemma join_of_isPiece (p : Path) {name : String} (h : IsPiece name) :
    p.join name = p.append [name] := by
  rw [join, if_neg h.head?_ne, words_of_isPiece h, append]

lemma foldl_join (p : Path) {names : List String} (h : ∀ n ∈ names, IsPiece n) :
    names.foldl join p = p.append names := by
  induction names generalizing p with
  | nil => simp [append]
  | cons name names ih =>
    rw [List.foldl_cons, ih _ fun n hn => h n (List.mem_cons_of_mem _ hn),
      p.join_of_isPiece (h name List.mem_cons_self), append_append, List.singleton_append]

/-! ## Written paths -/

/-- Proper paths can be told apart by their texts. -/
lemma render_eq_render_iff {p q : Path} (hp : p.Proper) (hq : q.Proper) :
    p.render = q.render ↔ p = q := by
  constructor
  · intro h
    rw [← ofString_render hp, h, ofString_render hq]
  · exact fun h => h ▸ rfl

/-- A proper path is not written as an empty text, which is read as the working directory. -/
lemma render_ne_empty {p : Path} (hp : p.Proper) : p.render ≠ "" := by
  intro hempty
  have hhere : ofString "" = p := by rw [← hempty, ofString_render hp]
  rw [← hhere] at hempty
  exact absurd hempty (by decide)

end Path

/-! ## The base -/

namespace Identity

variable (i : Identity) (root : String)

lemma origin_baseUnder : (i.baseUnder root).origin = (Path.ofString root).origin := by
  rw [baseUnder_eq_append]
  rfl

/-- **The base is the root followed by the words of the namespace.** -/
lemma names_baseUnder : (i.baseUnder root).names = (Path.ofString root).names ++ words i.scope := by
  rw [baseUnder_eq_append, ← namesOf_eq_words]
  rfl

/-- Going on by the segments one after the other leads to the base. -/
lemma baseUnder_eq_join : i.baseUnder root = i.segments.foldl Path.join (Path.ofString root) := by
  rw [baseUnder_eq_append, Path.foldl_join _ fun _ => isPiece_of_mem_segments]

variable {i root}

/-- **Namespaces with the same words have the same base**, and no others have. -/
lemma baseUnder_eq_iff {j : Identity} :
    i.baseUnder root = j.baseUnder root ↔ words i.scope = words j.scope := by
  have hnames : (i.baseUnder root).names = (j.baseUnder root).names ↔
      words i.scope = words j.scope := by
    rw [names_baseUnder, names_baseUnder, List.append_right_inj]
  constructor
  · exact fun h => hnames.1 (congrArg Path.names h)
  · intro h
    refine Path.ext ?_ (hnames.2 h)
    rw [origin_baseUnder, origin_baseUnder]

/-- **To go down is to move the root.**  What lies in a namespace behind another one is found from
the base of that one. -/
lemma baseUnder_append {outer inner : Identity} (root : String)
    (h : inner.scope.toList.head? = some '/') (hscope : i.scope = outer.scope ++ inner.scope) :
    i.baseUnder root = inner.baseUnder (outer.baseUnder root).render := by
  have hread := Path.ofString_render (outer.proper_baseUnder root)
  refine Path.ext ?_ ?_
  · rw [origin_baseUnder, origin_baseUnder, hread, origin_baseUnder]
  · rw [names_baseUnder, names_baseUnder, hread, names_baseUnder, hscope, words_append _ h,
      List.append_assoc]

end Identity
end Keystore
