/-
Computations that keep something about their state.

A computation keeps a property of states if, started in a state that has it, it gives a value with a
certain property and a state that has it again.  What a computation gives is left to the monad
below the state: it may fail and then gives nothing, or always give something.  Steps of this kind
compose (`Keeps.bind`), and so do passes over lists (`Keeps.mapM`, `Keeps.foldlM`).
-/
import Mathlib.Tactic.Choose

namespace Keystore

variable {m : Type → Type} [Monad m] [LawfulMonad m] {α β σ ε : Type}

/-! ## What a computation gives -/

/-- Whatever the computation gives has the property. -/
def Within (p : α → Prop) (x : m α) : Prop := ∃ y : m {a // p a}, Subtype.val <$> y = x

section Within

variable {p q : α → Prop} {r : β → Prop} {x : m α} {a : α}

lemma Within.pure (h : p a) : Within p (pure a : m α) :=
  ⟨Pure.pure ⟨a, h⟩, by rw [map_pure]⟩

lemma Within.bind {f : α → m β} (hx : Within p x) (hf : ∀ a, p a → Within r (f a)) :
    Within r (x >>= f) := by
  obtain ⟨y, rfl⟩ := hx
  choose g hg using hf
  refine ⟨y >>= fun a => g a.1 a.2, ?_⟩
  rw [map_bind, bind_map_left]
  simp only [hg]

lemma within_trivial (x : m α) : Within (fun _ => True) x :=
  ⟨(fun a => ⟨a, trivial⟩) <$> x, by rw [← comp_map]; exact id_map x⟩

lemma Within.mono (hx : Within p x) (h : ∀ a, p a → q a) : Within q x := by
  have hbind : x >>= Pure.pure = x := bind_pure x
  exact hbind ▸ hx.bind fun a ha => .pure (h a ha)

/-- What fails gives nothing. -/
lemma within_error (p : α → Prop) (fault : ε) : Within p (Except.error fault : Except ε α) :=
  ⟨.error fault, rfl⟩

lemma Within.of_ok {x : Except ε α} (hx : Within p x) (h : x = .ok a) : p a := by
  obtain ⟨y, rfl⟩ := hx
  rcases y with fault | ⟨b, hb⟩
  · cases h
  · cases h
    exact hb

lemma Within.of_id {x : Id α} (hx : Within p x) : p x.run := by
  obtain ⟨y, rfl⟩ := hx
  exact y.run.2

end Within

/-! ## Computations with a state -/

/-- Started in a state with the property `I`, the computation gives a value with the property
`q` and a state with the property `I`. -/
def Keeps (I : σ → Prop) (q : α → Prop) (x : StateT σ m α) : Prop :=
  ∀ s, I s → Within (fun r => q r.1 ∧ I r.2) (x.run s)

namespace Keeps

variable {I : σ → Prop} {q q' : α → Prop} {r : β → Prop} {x : StateT σ m α} {a : α}

lemma pure (h : q a) : Keeps I q (pure a : StateT σ m α) := fun s hs => by
  rw [StateT.run_pure]
  exact .pure ⟨h, hs⟩

lemma bind {f : α → StateT σ m β} (hx : Keeps I q x) (hf : ∀ a, q a → Keeps I r (f a)) :
    Keeps I r (x >>= f) := fun s hs => by
  rw [StateT.run_bind]
  exact (hx s hs).bind fun b hb => hf b.1 hb.1 b.2 hb.2

lemma mono (hx : Keeps I q x) (h : ∀ a, q a → q' a) : Keeps I q' x := fun s hs =>
  (hx s hs).mono fun _ hb => ⟨h _ hb.1, hb.2⟩

lemma get : Keeps I I (get : StateT σ m σ) := fun s hs => by
  rw [StateT.run_get]
  exact .pure ⟨hs, hs⟩

lemma set {s : σ} (hs : I s) : Keeps I (fun _ => True) (set s : StateT σ m PUnit) := fun s' _ => by
  rw [StateT.run_set]
  exact .pure ⟨trivial, hs⟩

lemma modify {f : σ → σ} (h : ∀ s, I s → I (f s)) :
    Keeps I (fun _ => True) (modify f : StateT σ m PUnit) := fun s hs => by
  rw [StateT.run_modify]
  exact .pure ⟨trivial, h s hs⟩

lemma lift (x : m α) : Keeps I (fun _ => True) (liftM x : StateT σ m α) := fun s hs => by
  change Within _ (x >>= fun a => Pure.pure (a, s))
  exact (within_trivial x).bind fun a _ => .pure ⟨trivial, hs⟩

lemma throw (fault : ε) : Keeps I q (throw fault : StateT σ (Except ε) α) := fun _ _ =>
  within_error _ fault

/-- A pass over a list, where each result has something in common with what it comes from. -/
lemma mapM_map {γ : Type} {f : α → StateT σ m β} {g : β → γ} {k : α → γ} {xs : List α}
    (h : ∀ a ∈ xs, Keeps I (fun b => r b ∧ g b = k a) (f a)) :
    Keeps I (fun bs => (∀ b ∈ bs, r b) ∧ bs.map g = xs.map k) (xs.mapM f) := by
  induction xs with
  | nil => exact pure ⟨fun b hb => absurd hb List.not_mem_nil, rfl⟩
  | cons a xs ih =>
    rw [List.mapM_cons]
    refine bind (h a List.mem_cons_self) fun b hb => ?_
    refine bind (ih fun c hc => h c (List.mem_cons_of_mem a hc)) fun bs hbs => pure ⟨fun c hc => ?_, ?_⟩
    · rcases List.mem_cons.1 hc with rfl | hc
      · exact hb.1
      · exact hbs.1 c hc
    · rw [List.map_cons, List.map_cons, hb.2, hbs.2]

lemma mapM {f : α → StateT σ m β} {xs : List α} (h : ∀ a ∈ xs, Keeps I r (f a)) :
    Keeps I (fun bs => ∀ b ∈ bs, r b) (xs.mapM f) := by
  have hmap : Keeps I (fun bs => (∀ b ∈ bs, r b) ∧ bs.map (fun _ => ()) = xs.map fun _ => ())
      (xs.mapM f) := mapM_map fun a ha => (h a ha).mono fun b hb => ⟨hb, rfl⟩
  exact hmap.mono fun bs hbs => hbs.1

lemma forM {f : α → StateT σ m PUnit} {xs : List α}
    (h : ∀ a ∈ xs, Keeps I (fun _ => True) (f a)) : Keeps I (fun _ => True) (xs.forM f) := by
  induction xs with
  | nil => exact pure trivial
  | cons a xs ih =>
    change Keeps I _ (f a >>= fun _ => xs.forM f)
    exact bind (h a List.mem_cons_self) fun _ _ => ih fun b hb => h b (List.mem_cons_of_mem a hb)

lemma foldlM {f : β → α → StateT σ m β} {xs : List α} {b : β} (hb : r b)
    (h : ∀ b, r b → ∀ a ∈ xs, Keeps I r (f b a)) : Keeps I r (xs.foldlM f b) := by
  induction xs generalizing b with
  | nil => exact pure hb
  | cons a xs ih =>
    rw [List.foldlM_cons]
    exact bind (h b hb a List.mem_cons_self) fun c hc =>
      ih hc fun c' hc' a' ha' => h c' hc' a' (List.mem_cons_of_mem a ha')

end Keeps
end Keystore
