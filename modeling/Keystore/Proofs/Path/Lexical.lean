/-
Paths read without looking at the files.

Read lexically, a name followed by `..` is as good as neither of them.  What cannot be
taken back stays: `..` is dropped at the top directory, and kept at the working
directory.  A path lies *inside* another one if it is, read lexically, the other one
followed by ordinary names.

Names that are appended to a path may go up before they come down.  Their *detour* is
the number of names of the path that they take back, together with the names that they
go down through afterwards.  The main result `Path.inside_append_iff` says when the way
ends inside the path: exactly if the names come down through the very names that they
went up over.  A way that does not go up at all is the plain case of it.
-/
import Mathlib.Data.List.Basic
import Mathlib.Data.List.Infix
import Mathlib.Tactic.Lemma
import Keystore.Path

namespace Keystore

namespace Path

/-- The names of a path after one more name, `..` taking back the last one. -/
def settle (o : Origin) (names : List String) (name : String) : List String :=
  if name = ".." then
    match names.getLast? with
    | none => if o = .here then [".."] else []
    | some last => if last = ".." then names ++ [".."] else names.dropLast
  else names ++ [name]

/-- The path with `..` read lexically. -/
def settled (p : Path) : Path := { p with names := p.names.foldl (settle p.origin) [] }

/-- The names of the path that lead down. -/
def ordinary (p : Path) : List String := p.names.filter (· ≠ "..")

/-- The path is, read lexically, the other one followed by ordinary names. -/
def Inside (p root : Path) : Prop :=
  ∃ below, ".." ∉ below ∧ p.settled = ⟨root.settled.origin, root.settled.names ++ below⟩

example : (ofString "k/a/../b").settled = ofString "k/b" := by decide
example : (ofString "k/../../b").settled = ofString "../b" := by decide
example : (ofString "/k/../../b").settled = ofString "/b" := by decide

end Path

/-- A way that goes up over some names of a path before it goes down. -/
structure Detour where
  /-- The number of names of the path that are taken back. -/
  up : ℕ
  /-- The names that are gone down through afterwards. -/
  down : List String
deriving DecidableEq, Repr

namespace Detour

/-- The way followed by one more name. -/
def go (d : Detour) (name : String) : Detour :=
  if name = ".." then
    if d.down = [] then { d with up := d.up + 1 } else { d with down := d.down.dropLast }
  else { d with down := d.down ++ [name] }

/-- The way through the given names. -/
def through (names : List String) : Detour := names.foldl go ⟨0, []⟩

/-- The way comes down through the names of the path that it went up over, and goes up no
further than the path has ordinary names, unless it ends at the top directory there. -/
def Retraces (d : Detour) (p : Path) : Prop :=
  p.ordinary.drop (p.ordinary.length - d.up) <+: d.down ∧
    (p.origin = .here → d.up ≤ p.ordinary.length)

instance (d : Detour) (p : Path) : Decidable (d.Retraces p) :=
  inferInstanceAs (Decidable (_ ∧ _))

example : through ["..", "a", "b", ".."] = ⟨1, ["a"]⟩ := by decide

/-- A way that does not go up retraces nothing. -/
lemma retraces_of_up_eq_zero {d : Detour} (h : d.up = 0) (p : Path) : d.Retraces p := by
  refine ⟨?_, fun _ => by omega⟩
  rw [h, Nat.sub_zero, List.drop_length]
  exact List.nil_prefix

lemma dotdot_notMem_go {d : Detour} (h : ".." ∉ d.down) (name : String) :
    ".." ∉ (d.go name).down := by
  rw [go]
  split
  · split
    · exact h
    · exact fun hmem => h (List.mem_of_mem_dropLast hmem)
  · next hname =>
    rw [List.mem_append, List.mem_singleton, not_or]
    exact ⟨h, fun heq => hname heq.symm⟩

/-- The way down is through ordinary names. -/
lemma dotdot_notMem_through (names : List String) : ".." ∉ (through names).down := by
  suffices h : ∀ d : Detour, ".." ∉ d.down → ".." ∉ (names.foldl go d).down from
    h ⟨0, []⟩ List.not_mem_nil
  induction names with
  | nil => exact fun _ h => h
  | cons name names ih => exact fun d h => ih _ (dotdot_notMem_go h name)

/-- Without `..`, a way goes straight down. -/
lemma through_of_dotdot_notMem {names : List String} (h : ".." ∉ names) :
    through names = ⟨0, names⟩ := by
  suffices hgo : ∀ d : Detour, names.foldl go d = ⟨d.up, d.down ++ names⟩ from hgo ⟨0, []⟩
  induction names with
  | nil => simp
  | cons name names ih =>
    intro d
    obtain ⟨hname, hrest⟩ := not_or.1 (fun hmem => h (List.mem_cons.2 hmem))
    rw [List.foldl_cons, ih hrest, go, if_neg (fun heq => hname heq.symm)]
    simp

end Detour

namespace Path

/-! ## The names of a path after a detour -/

/-- The names of a path after going up some of them. -/
def ascend (o : Origin) (names : List String) (n : ℕ) : List String :=
  (List.replicate n "..").foldl (settle o) names

lemma settle_ascend (o : Origin) (names : List String) (n : ℕ) :
    settle o (ascend o names n) ".." = ascend o names (n + 1) := by
  rw [ascend, ascend, List.replicate_succ', List.foldl_concat]

/-- One more name changes the way down only, or else, with nothing to take back there, the
number of names gone up. -/
lemma settle_detour (o : Origin) (names : List String) {d : Detour} (hd : ".." ∉ d.down)
    (name : String) :
    settle o (ascend o names d.up ++ d.down) name
      = ascend o names (d.go name).up ++ (d.go name).down := by
  by_cases hname : name = ".."
  · subst hname
    rcases List.eq_nil_or_concat d.down with hnil | ⟨init, last, hlast⟩
    · rw [Detour.go, if_pos rfl, if_pos hnil, hnil, List.append_nil, settle_ascend, List.append_nil]
    · have hne : last ≠ ".." := by
        rintro rfl
        exact hd (by simp [hlast])
      have hdown : d.down ≠ [] := by simp [hlast]
      rw [Detour.go, if_pos rfl, if_neg hdown, hlast, List.concat_eq_append]
      simp [settle, hne, ← List.append_assoc]
  · simp [Detour.go, settle, hname]

/-- **What appended names do.**  They go up over some names of the path and then down. -/
lemma foldl_settle (o : Origin) (start names : List String) :
    names.foldl (settle o) start
      = ascend o start (Detour.through names).up ++ (Detour.through names).down := by
  -- The induction is on the names, from any detour that has been made so far.
  suffices h : ∀ d : Detour, ".." ∉ d.down →
      names.foldl (settle o) (ascend o start d.up ++ d.down)
        = ascend o start (names.foldl Detour.go d).up ++ (names.foldl Detour.go d).down by
    simpa [ascend, Detour.through] using h ⟨0, []⟩ List.not_mem_nil
  induction names with
  | nil => exact fun _ _ => rfl
  | cons name names ih =>
    intro d hd
    rw [List.foldl_cons, settle_detour o start hd name]
    exact ih _ (Detour.dotdot_notMem_go hd name)

/-! ## Names that are settled -/

/-- Names in which no `..` can be taken back: they go up first, which only a path from the
working directory does, and down through ordinary names afterwards. -/
structure Settled (o : Origin) (names : List String) (ups : ℕ) (down : List String) : Prop where
  eq : names = List.replicate ups ".." ++ down
  notMem : ".." ∉ down
  here : o ≠ .here → ups = 0

namespace Settled

variable {o : Origin} {names down : List String} {ups : ℕ}

lemma filter_eq (h : Settled o names ups down) : names.filter (· ≠ "..") = down := by
  rw [h.eq, List.filter_append, List.filter_replicate, List.filter_eq_self.2]
  · simp
  · intro n hn
    simpa using fun heq : n = ".." => h.notMem (heq ▸ hn)

/-- The names up and the names down can be told apart. -/
lemma unique (h : Settled o names ups down) {ups' : ℕ} {down' : List String}
    (h' : Settled o names ups' down') : ups' = ups ∧ down' = down := by
  have hdown : down' = down := by rw [← h.filter_eq, ← h'.filter_eq]
  refine ⟨?_, hdown⟩
  have hlen := congrArg List.length (h'.eq.symm.trans h.eq)
  rw [hdown, List.length_append, List.length_append, List.length_replicate,
    List.length_replicate] at hlen
  omega

/-- An ordinary name is taken back by `..`. -/
lemma settle_dotdot_concat {init : List String} {last : String}
    (h : Settled o names ups (init ++ [last])) : Settled o (settle o names "..") ups init := by
  have hlast : last ≠ ".." := by
    rintro rfl
    exact h.notMem (by simp)
  refine ⟨?_, fun hmem => h.notMem (by simp [hmem]), h.here⟩
  rw [h.eq]
  simp [settle, hlast, ← List.append_assoc]

/-- Where there is no ordinary name, `..` stays if the path starts at the working directory. -/
lemma settle_dotdot_nil (h : Settled o names ups []) :
    Settled o (settle o names "..") (if o = .here then ups + 1 else 0) [] := by
  by_cases ho : o = .here
  · subst ho
    refine ⟨?_, List.not_mem_nil, fun hne => absurd rfl hne⟩
    rw [h.eq]
    cases ups with
    | zero => simp [settle]
    | succ ups => simp [settle, List.replicate_succ']
  · refine ⟨?_, List.not_mem_nil, fun _ => by simp [ho]⟩
    rw [h.eq, h.here ho]
    simp [settle, ho]

lemma settle_name (h : Settled o names ups down) {name : String} (hname : name ≠ "..") :
    Settled o (settle o names name) ups (down ++ [name]) := by
  refine ⟨by simp [settle, hname, h.eq], ?_, h.here⟩
  rw [List.mem_append, List.mem_singleton, not_or]
  exact ⟨h.notMem, fun heq => hname heq.symm⟩

lemma append (h : Settled o names ups down) {more : List String} (hmore : ".." ∉ more) :
    Settled o (names ++ more) ups (down ++ more) := by
  refine ⟨by rw [h.eq, List.append_assoc], ?_, h.here⟩
  rw [List.mem_append, not_or]
  exact ⟨h.notMem, hmore⟩

/-- Going up takes back ordinary names as long as there are any.  After that it leads to the
top directory, or above the working directory. -/
lemma ascend (h : Settled o names ups down) (n : ℕ) :
    Settled o (ascend o names n) (if o = .here then ups + (n - down.length) else 0)
      (down.take (down.length - n)) := by
  induction n with
  | zero =>
    have hups : (if o = .here then ups + (0 - down.length) else 0) = ups := by
      split
      · omega
      · next ho => exact (h.here ho).symm
    rw [hups, Nat.sub_zero, List.take_length]
    exact h
  | succ n ih =>
    rw [← settle_ascend]
    by_cases hn : n < down.length
    · -- There is an ordinary name left to take back.
      have htake : down.take (down.length - n)
          = down.take (down.length - (n + 1)) ++ [down[down.length - (n + 1)]] := by
        rw [List.take_append_getElem]
        congr 1
        omega
      rw [htake, show n - down.length = n + 1 - down.length by omega] at ih
      exact ih.settle_dotdot_concat
    · rw [show down.length - n = 0 by omega, List.take_zero] at ih
      have hstep := ih.settle_dotdot_nil
      rw [show down.length - (n + 1) = 0 by omega, List.take_zero]
      by_cases ho : o = .here
      · rw [if_pos ho] at hstep ⊢
        rw [if_pos ho, Nat.add_assoc] at hstep
        rwa [show n + 1 - down.length = n - down.length + 1 by omega]
      · rw [if_neg ho] at hstep ⊢
        exact hstep

end Settled

/-- Reading a path lexically leaves no `..` that can be taken back. -/
lemma exists_settled (p : Path) : ∃ ups down, Settled p.origin p.settled.names ups down := by
  suffices h : ∀ (names start : List String) (ups : ℕ) (down : List String),
      Settled p.origin start ups down →
      ∃ ups' down', Settled p.origin (names.foldl (settle p.origin) start) ups' down' from
    h p.names [] 0 [] ⟨rfl, List.not_mem_nil, fun _ => rfl⟩
  intro names
  induction names with
  | nil => exact fun _ ups down h => ⟨ups, down, h⟩
  | cons name names ih =>
    intro start ups down h
    by_cases hname : name = ".."
    · subst hname
      rcases List.eq_nil_or_concat down with rfl | ⟨init, last, rfl⟩
      · exact ih _ _ _ h.settle_dotdot_nil
      · rw [List.concat_eq_append] at h
        exact ih _ _ _ h.settle_dotdot_concat
    · exact ih _ _ _ (h.settle_name hname)

/-! ## Inside -/

/-- A list is the start of another one's beginning and what follows it, exactly if the rest of
the list starts what follows. -/
lemma exists_take_append_eq_iff (names down : List String) (n : ℕ) (hdown : ".." ∉ down) :
    (∃ below, ".." ∉ below ∧ names.take n ++ down = names ++ below) ↔ names.drop n <+: down := by
  constructor
  · rintro ⟨below, -, heq⟩
    have hsplit : names.take n ++ down = names.take n ++ (names.drop n ++ below) := by
      rw [← List.append_assoc, List.take_append_drop, heq]
    exact ⟨below, (List.append_cancel_left hsplit).symm⟩
  · rintro ⟨below, rfl⟩
    refine ⟨below, fun hmem => hdown (List.mem_append_right _ hmem), ?_⟩
    rw [← List.append_assoc, List.take_append_drop]

/-- **When appended names lead back inside.**  They do if they come down through the names of
the path that they went up over, and only then. -/
theorem inside_append_iff (p : Path) (names : List String) :
    Inside { p with names := p.names ++ names } p ↔ (Detour.through names).Retraces p.settled := by
  set d := Detour.through names with hd
  have hdown : ".." ∉ d.down := Detour.dotdot_notMem_through names
  obtain ⟨ups, down, h⟩ := exists_settled p
  have hsettled : ({ p with names := p.names ++ names } : Path).settled
      = ⟨p.origin, ascend p.origin p.settled.names d.up ++ d.down⟩ := by
    simp only [settled, List.foldl_append]
    rw [foldl_settle]
  -- Going up and then down is settled as well, so that both sides can be compared by parts.
  have hafter := (h.ascend d.up).append hdown
  rw [Detour.Retraces, show p.settled.ordinary = down from h.filter_eq,
    ← exists_take_append_eq_iff down d.down _ hdown, Inside, hsettled]
  constructor
  · rintro ⟨below, hbelow, heq⟩
    have hnames : ascend p.origin p.settled.names d.up ++ d.down = p.settled.names ++ below :=
      congrArg Path.names heq
    have hinside := h.append hbelow
    rw [← hnames] at hinside
    obtain ⟨hups, hdowns⟩ := hafter.unique hinside
    refine ⟨⟨below, hbelow, hdowns.symm⟩, fun ho => ?_⟩
    rw [if_pos (show p.origin = .here from ho)] at hups
    omega
  · rintro ⟨⟨below, hbelow, heq⟩, hhere⟩
    have hups : (if p.origin = .here then ups + (d.up - down.length) else 0) = ups := by
      split
      · next ho =>
        have := hhere ho
        omega
      · next ho => exact (h.here ho).symm
    refine ⟨below, hbelow, ?_⟩
    rw [hafter.eq, hups, heq, ← List.append_assoc, ← h.eq]
    rfl

end Path
end Keystore
