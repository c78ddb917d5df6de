/-
The settings of a loaded configuration.

The section of a loaded configuration says what the document says about each setting that it has a
value for, and about the others nothing or the default (`Tells`).  This comes from the
look-ups after a merge, once for the document and once for its section, and from there being no key
twice in either.  The latter is all that is asked of the reader of documents (`Reader.Keyed`), and
the reader of the library keeps to it (`keyed_read`).  The texts of the settings exist exactly if
each value that the document has for a setting can be written (`exists_sectionSettings`,
`sectionSettings_eq_error`).
-/
import Mathlib.Data.List.Basic
import Keystore.Proofs.ConfigFile.Loading
import Keystore.Proofs.Entries
import Keystore.Proofs.Yaml.Keys

namespace Keystore

lemma Setting.mem_all (s : Setting) : s ∈ all := by cases s <;> decide

/-! ## Passes that may fail -/

section Passes

variable {α β ε : Type} {f : α → Except ε β} {xs : List α}

lemma mapM_eq_ok {g : α → β} (h : ∀ a ∈ xs, f a = .ok (g a)) : xs.mapM f = .ok (xs.map g) := by
  induction xs with
  | nil => rfl
  | cons a xs ih =>
    rw [List.mapM_cons, h a List.mem_cons_self, ih fun b hb => h b (List.mem_cons_of_mem a hb)]
    rfl

/-- A pass fails with the only fault that there is. -/
lemma mapM_eq_error {fault : ε} (hfault : ∀ a ∈ xs, ∀ e, f a = .error e → e = fault)
    (h : ∃ a ∈ xs, f a = .error fault) : xs.mapM f = .error fault := by
  induction xs with
  | nil =>
    obtain ⟨a, ha, -⟩ := h
    cases ha
  | cons a xs ih =>
    rw [List.mapM_cons]
    rcases ha : f a with e | b
    · rw [hfault a List.mem_cons_self e ha]
      rfl
    · obtain ⟨c, hc, hfail⟩ := h
      have hmem : c ∈ xs := (List.mem_cons.1 hc).resolve_left fun heq => by
        rw [heq, ha] at hfail
        cases hfail
      have hrest := ih (fun b hb => hfault b (List.mem_cons_of_mem a hb)) ⟨c, hmem, hfail⟩
      rw [hrest]
      rfl

end Passes

namespace ConfigFile

variable {read : Reader} {fs : FileSystem} {path : Path} {entries own : Entries} {s : Setting}
  {v : Value}

/-! ## What a document says about a setting -/

/-- The value that a document has for a setting, if any. -/
def ownValue (entries : Entries) (s : Setting) : Option Value :=
  match Entries.get? entries sectionKey with
  | some (.mapping own) => Entries.get? own s.key
  | _ => none

/-- The section for the settings that a document has; one that is absent, or has no value, is
empty. -/
def ownSection (entries : Entries) : Entries :=
  match Entries.get? entries sectionKey with
  | some (.mapping own) => own
  | _ => []

lemma ownValue_eq_get? (entries : Entries) (s : Setting) :
    ownValue entries s = Entries.get? (ownSection entries) s.key := by
  rw [ownValue, ownSection]
  rcases Entries.get? entries sectionKey with _ | v
  · rfl
  · cases v <;> rfl

/-- A document with a section without a value has no values for settings. -/
lemma ownValue_of_null (h : Entries.get? entries sectionKey = some .null) (s : Setting) :
    ownValue entries s = none := by
  rw [ownValue, h]
  rfl

/-- The text that a value stands for: no value for none, `true` or `false` for a truth value, a
text for itself, and anything else for what it is written as. -/
def rendering : Value → Option String
  | .scalar .null => none
  | .scalar (.bool b) => some (if b then "true" else "false")
  | .scalar (.text t) => some t
  | v => some v.plain

lemma settingText_of_writable (h : v.isWritable = true) : settingText v = .ok (rendering v) := by
  cases v with
  | scalar s => cases s <;> simp_all [settingText, rendering, Value.plain, Scalar.plain]
  | _ => simp_all [settingText, rendering]

lemma settingText_of_unwritable (h : v.isWritable = false) :
    settingText v = .error .unwritable := by
  cases v with
  | scalar s => cases s <;> simp_all [settingText, Value.isWritable, Scalar.isWritable]
  | _ => simp_all [settingText]

/-! ## Defaults -/

/-- The section of the defaults. -/
def defaultSection : Entries := Setting.all.map fun s => (.text s.key, defaultValue s)

lemma get?_defaults : Entries.get? defaults sectionKey = some (.mapping defaultSection) := rfl

lemma get?_defaultSection (s : Setting) :
    Entries.get? defaultSection s.key = some (defaultValue s) := by
  cases s <;> rfl

lemma settingText_defaultValue (s : Setting) :
    settingText (defaultValue s) = .ok (rendering (defaultValue s)) := by
  cases s <;> rfl

/-- No default is replaced by halves. -/
lemma updated_defaultValue (s : Setting) (v : Value) :
    Entries.updated (some (defaultValue s)) v = v := by
  cases v with
  | mapping changes => cases s <;> rfl
  | _ => exact Entries.updated_of_not_mapping _ fun _ h => by cases h

/-! ## What a section says -/

/-- The section says what the document says about each setting that it has a value for, and about
the others nothing or the default. -/
def Tells (own entries : Entries) : Prop :=
  ∀ s, (∃ v, ownValue entries s = some v ∧ textIn own s = settingText v) ∨
    ownValue entries s = none ∧
      ∃ text, (text = none ∨ text = rendering (defaultValue s)) ∧ textIn own s = .ok text

lemma tells_of_none (h : ∀ s, ownValue entries s = none) : Tells [] entries := fun s =>
  Or.inr ⟨h s, none, Or.inl rfl, rfl⟩

lemma tells_of_get? (h : ∀ s, ownValue entries s = Entries.get? own s.key) : Tells own entries := by
  intro s
  rw [h s, textIn]
  rcases Entries.get? own s.key with _ | v
  · exact Or.inr ⟨rfl, none, Or.inl rfl, rfl⟩
  · exact Or.inl ⟨v, rfl, rfl⟩

/-- A setting of the section goes before the default. -/
lemma get?_setting_merge (hown : Entries.Distinct own) (s : Setting) :
    Entries.get? (Entries.merge defaultSection own) s.key
      = some ((Entries.get? own s.key).getD (defaultValue s)) := by
  have hdefault : Entries.find? defaultSection (.text s.key) = some (defaultValue s) :=
    get?_defaultSection s
  rw [Entries.get?, Entries.get?, Entries.find?_merge hown, hdefault]
  rcases Entries.find? own (.text s.key) with _ | v
  · rfl
  · simp only [updated_defaultValue, Option.getD_some]

lemma tells_merge (hown : Entries.Distinct own)
    (h : ∀ s, ownValue entries s = Entries.get? own s.key) :
    Tells (Entries.merge defaultSection own) entries := by
  intro s
  rw [h s, textIn, get?_setting_merge hown]
  rcases Entries.get? own s.key with _ | v
  · exact Or.inr ⟨rfl, _, Or.inr rfl, settingText_defaultValue s⟩
  · exact Or.inl ⟨v, rfl, rfl⟩

/-! ## Loaded configurations -/

/-- In no mapping that is read is there a key twice, on whatever level it stands. -/
def Reader.Keyed (read : Reader) : Prop := ∀ text value, read text = .ok value → value.Keyed

lemma keyed_read : Reader.Keyed Yaml.read := fun _ _ => Yaml.keyed_of_read

/-- The entries that a file states have different keys, on all levels. -/
lemma keyed_of_outcome (hread : read.Keyed) (h : Outcome read fs path (.ok entries)) :
    (Value.mapping entries).Keyed := by
  have hnil : (Value.mapping []).Keyed := .mapping Entries.distinct_nil fun _ h => by cases h
  cases h with
  | usable h hvalue =>
    obtain ⟨text, -, hresult⟩ := h
    have hkeyed := hread _ _ hresult
    cases hvalue with
    | nothing => exact hnil
    | plain h => exact hkeyed
    | emptySection h => exact hkeyed
    | settings h => exact hkeyed
  | hollow h hvalue => exact hnil

lemma section_of_outcome (h : Outcome read fs path (.ok entries)) :
    Entries.get? entries sectionKey = none ∨ Entries.get? entries sectionKey = some .null ∨
      ∃ own, Entries.get? entries sectionKey = some (.mapping own) := by
  cases h with
  | usable _ hvalue =>
    cases hvalue with
    | nothing => exact Or.inl rfl
    | plain h => exact Or.inl h
    | emptySection h => exact Or.inr (Or.inl h)
    | settings h => exact Or.inr (Or.inr ⟨_, h⟩)
  | hollow _ _ => exact Or.inl rfl

lemma distinct_of_keyed (h : (Value.mapping entries).Keyed) : Entries.Distinct entries := by
  cases h with
  | mapping hkeys _ => exact hkeys

lemma distinct_section (h : (Value.mapping entries).Keyed)
    (hget : Entries.get? entries sectionKey = some (.mapping own)) : Entries.Distinct own := by
  obtain ⟨e, he, hvalue⟩ := Entries.exists_mem_of_find? hget
  cases h with
  | mapping _ hentries => exact distinct_of_keyed (hvalue ▸ hentries e he)

lemma distinct_ownSection (h : (Value.mapping entries).Keyed) :
    Entries.Distinct (ownSection entries) := by
  rw [ownSection]
  split
  · next own hget => exact distinct_section h hget
  · exact Entries.distinct_nil

/-- A section without a value takes the place of the defaults. -/
lemma get?_section_merge_of_null (h : (Value.mapping entries).Keyed)
    (hnull : Entries.get? entries sectionKey = some .null) :
    Entries.get? (Entries.merge defaults entries) sectionKey = some .null := by
  rw [Entries.get?] at hnull
  rw [Entries.get?, Entries.find?_merge (distinct_of_keyed h), hnull]
  exact congrArg some (Entries.updated_of_not_mapping _ fun _ heq => by cases heq)

/-- A section that is absent or a mapping is laid over the defaults. -/
lemma get?_section_merge (h : (Value.mapping entries).Keyed)
    (hsection : Entries.get? entries sectionKey = none ∨
      ∃ own, Entries.get? entries sectionKey = some (.mapping own)) :
    Entries.get? (Entries.merge defaults entries) sectionKey
      = some (.mapping (Entries.merge defaultSection (ownSection entries))) := by
  have hmerge := Entries.find?_merge (distinct_of_keyed h) defaults (.text sectionKey)
  have hdefault : Entries.find? defaults (.text sectionKey) = some (.mapping defaultSection) :=
    get?_defaults
  rw [hdefault] at hmerge
  rw [Entries.get?, hmerge, ownSection]
  rcases hsection with hget | ⟨own, hget⟩
  · rw [Entries.get?] at hget
    rw [Entries.get?, hget, Entries.merge]
  · rw [Entries.get?] at hget
    rw [Entries.get?, hget]
    rfl

/-- The section of a loaded configuration, with the defaults below it and without them. -/
lemma exists_sections (hread : read.Keyed) (h : Outcome read fs path (.ok entries)) :
    (∃ own, sectionOf (Entries.merge defaults entries) = .ok own ∧ Tells own entries) ∧
      ∃ own, sectionOf entries = .ok own ∧ Tells own entries := by
  have hkeyed := keyed_of_outcome hread h
  have hlaid : (Entries.get? entries sectionKey = none ∨
      ∃ own, Entries.get? entries sectionKey = some (.mapping own)) →
      ∃ own, sectionOf (Entries.merge defaults entries) = .ok own ∧ Tells own entries := fun hget =>
    ⟨_, by rw [sectionOf, get?_section_merge hkeyed hget],
      tells_merge (distinct_ownSection hkeyed) (ownValue_eq_get? entries)⟩
  have htells : Tells (ownSection entries) entries := tells_of_get? (ownValue_eq_get? entries)
  rcases section_of_outcome h with hget | hget | ⟨own, hget⟩
  · exact ⟨hlaid (Or.inl hget), _, by rw [sectionOf, ownSection, hget], htells⟩
  · refine ⟨⟨[], ?_, tells_of_none (ownValue_of_null hget)⟩, _, ?_, htells⟩
    · rw [sectionOf, get?_section_merge_of_null hkeyed hget]
      rfl
    · rw [sectionOf, ownSection, hget]
      rfl
  · exact ⟨hlaid (Or.inr ⟨own, hget⟩), _, by rw [sectionOf, ownSection, hget], htells⟩

/-! ## Texts -/

/-- Each value that the document has for a setting can be written. -/
def Writable (entries : Entries) : Prop :=
  ∀ s v, ownValue entries s = some v → v.isWritable = true

/-- The text that a document states for a setting. -/
def ownText (entries : Entries) (s : Setting) : Option String := (ownValue entries s).bind rendering

/-- Settings that say what the document states, and besides this nothing but defaults. -/
def Renders (settings : Settings) (entries : Entries) : Prop :=
  ∀ s : Setting, settings.value? s.variableName = nonempty? (ownText entries s) ∨
    ownText entries s = none ∧
      settings.value? s.variableName = nonempty? (rendering (defaultValue s))

lemma value?_map_all (text : Setting → Option String) (s : Setting) :
    Settings.value? (Setting.all.map fun s => (s.variableName, text s)) s.variableName
      = nonempty? (text s) := by
  cases s <;> rfl

lemma exists_sectionSettings (htells : Tells own entries) (hwritable : Writable entries) :
    ∃ settings, sectionSettings own = .ok settings ∧ Renders settings entries := by
  have htexts : ∀ s, ∃ text, textIn own s = .ok text ∧
      (text = ownText entries s ∨
        ownText entries s = none ∧ text = rendering (defaultValue s)) := by
    intro s
    rcases htells s with ⟨v, hv, htext⟩ | ⟨hnone, text, htext, heq⟩
    · refine ⟨rendering v, ?_, Or.inl ?_⟩
      · rw [htext, settingText_of_writable (hwritable s v hv)]
      · rw [ownText, hv]
        rfl
    · have hown : ownText entries s = none := by
        rw [ownText, hnone]
        rfl
      exact ⟨text, heq, htext.imp (·.trans hown.symm) fun h => ⟨hown, h⟩⟩
  choose text htext hsaid using htexts
  refine ⟨Setting.all.map fun s => (s.variableName, text s), mapM_eq_ok fun s _ => ?_, fun s => ?_⟩
  · rw [htext]
    rfl
  · rw [value?_map_all]
    rcases hsaid s with h | ⟨hnone, h⟩
    · exact Or.inl (by rw [h])
    · exact Or.inr ⟨hnone, by rw [h]⟩

/-- One value that cannot be written leaves no texts at all. -/
lemma sectionSettings_eq_error (htells : Tells own entries) (h : ¬ Writable entries) :
    sectionSettings own = .error .unwritable := by
  have htext : ∀ s v, ownValue entries s = some v → v.isWritable = false →
      textIn own s = .error .unwritable := by
    intro s v hv hwritable
    rcases htells s with ⟨v', hv', hsaid⟩ | ⟨hnone, -⟩
    · cases hv.symm.trans hv'
      rw [hsaid, settingText_of_unwritable hwritable]
    · rw [hnone] at hv
      cases hv
  -- No text fails in another way, and the one of the value that cannot be written does fail.
  refine mapM_eq_error (fun s _ e he => ?_) ?_
  · rcases htells s with ⟨v, hv, hsaid⟩ | ⟨-, text, -, hsaid⟩
    · rcases hwritable : v.isWritable with _ | _
      · rw [htext s v hv hwritable] at he
        cases he
        rfl
      · rw [hsaid, settingText_of_writable hwritable] at he
        cases he
    · rw [hsaid] at he
      cases he
  · simp only [Writable, not_forall, Bool.not_eq_true] at h
    obtain ⟨s, v, hv, hwritable⟩ := h
    exact ⟨s, s.mem_all, by rw [htext s v hv hwritable]; rfl⟩

end ConfigFile
end Keystore
