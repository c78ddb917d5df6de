/-
Which files are configurations.

A path either leads to a file with text, whose document is then read, or the loading ends
before (`outcome_iff`).  It does not matter here what the reader of documents makes of a text.  Of
the documents two kinds are taken: those that say nothing or are a mapping with a mapping for the
settings, if with any, and besides these whatever counts as nothing without being it: zero, false,
what is empty.  What is not taken is refused as a configuration file that cannot be used, except
where the loading breaks off on the way to the document: at a path that is too long, at a directory,
at bytes that are no text, and at a scalar without a value.
-/
import Mathlib.Data.List.Basic
import Keystore.Command.Run
import Keystore.Proofs.FileSystem.Content
import Keystore.Proofs.Lookup.Verdict
import Keystore.Proofs.Text.Utf8
import Keystore.Proofs.Value
import Keystore.Yaml.Content

namespace Keystore
namespace ConfigFile

variable {read : Reader} {fs : FileSystem} {path : Path} {value : Value} {entries : Entries}

/-! ## Documents -/

/-- The path leads to a file with text, whose document is read with this result. -/
def Reads (read : Reader) (fs : FileSystem) (path : Path) (result : Except Yaml.Fault Value) :
    Prop :=
  ∃ text, fs.Holds path (Utf8.encode text) ∧ read (Utf8.unifyLineEnds text) = result

/-- Documents that state entries: an empty one, and a mapping whose section for the settings is
absent, empty or a mapping. -/
inductive Usable : Value → Entries → Prop where
  | nothing : Usable .null []
  | plain {entries : Entries} (h : Entries.get? entries sectionKey = none) :
    Usable (.mapping entries) entries
  | emptySection {entries : Entries} (h : Entries.get? entries sectionKey = some .null) :
    Usable (.mapping entries) entries
  | settings {entries own : Entries}
    (h : Entries.get? entries sectionKey = some (.mapping own)) :
    Usable (.mapping entries) entries

/-- Documents that are no mapping, say something, and count as nothing. -/
inductive Hollow : Value → Prop where
  | false : Hollow (.bool false)
  | zero : Hollow (.scalar (.int 0))
  | zeroFloat (negative : Bool) (exponent : Int) :
    Hollow (.scalar (.float (.finite negative 0 exponent)))
  | emptyText : Hollow (.text "")
  | noBytes : Hollow (.scalar (.bytes []))
  | emptyList : Hollow (.list [])
  | emptySet : Hollow (.set [])

/-! ## Ways of ending -/

/-- How a path is refused as one of a configuration file. -/
inductive Refused (read : Reader) (fs : FileSystem) (path : Path) : ConfigFault → Prop where
  | missing (h : fs.Nowhere path) : Refused read fs path (.missing path)
  | malformed {flaw : Yaml.Flaw} {position : Yaml.Position}
    (h : Reads read fs path (.error (.malformed flaw position))) :
    Refused read fs path (.malformed path (.malformed flaw position))
  | notMapping {value : Value} (h : Reads read fs path (.ok value)) (hnull : value ≠ .null)
    (hhollow : ¬ Hollow value) (hkind : ∀ entries, value ≠ .mapping entries) :
    Refused read fs path (.notMapping path)
  | sectionNotMapping {entries : Entries} {own : Value}
    (h : Reads read fs path (.ok (.mapping entries)))
    (hget : Entries.get? entries sectionKey = some own) (hnull : own ≠ .null)
    (hkind : ∀ entries, own ≠ .mapping entries) : Refused read fs path (.sectionNotMapping path)

/-- How the loading breaks off before there is a document. -/
inductive Broken (read : Reader) (fs : FileSystem) (path : Path) : ConfigFault → Prop where
  | overlong (h : fs.locate path = .error .nameTooLong) :
    Broken read fs path (.unreadable ⟨.nameTooLong, path⟩)
  | directory (h : fs.isDirectory path = .ok true) :
    Broken read fs path (.unreadable ⟨.isDirectory, path⟩)
  | notText {bytes : List UInt8} {fault : Utf8.Fault} (h : fs.Holds path bytes)
    (hdecode : Utf8.decode bytes = .error fault) : Broken read fs path (.notText fault)
  | valueless {fault : Yaml.ValueFault} (h : Reads read fs path (.error (.value fault))) :
    Broken read fs path (.valueless fault)

/-- How the loading ends. -/
inductive Outcome (read : Reader) (fs : FileSystem) (path : Path) :
    Except ConfigFault Entries → Prop where
  | usable {value : Value} {entries : Entries} (h : Reads read fs path (.ok value))
    (hvalue : Usable value entries) : Outcome read fs path (.ok entries)
  | hollow {value : Value} (h : Reads read fs path (.ok value)) (hvalue : Hollow value) :
    Outcome read fs path (.ok [])
  | refused {fault : ConfigFault} (h : Refused read fs path fault) :
    Outcome read fs path (.error fault)
  | broken {fault : ConfigFault} (h : Broken read fs path fault) :
    Outcome read fs path (.error fault)

/-! ## The entries of a document -/

lemma isSomething_eq_false_iff :
    value.isSomething = false ↔ value = .null ∨ Hollow value ∨ value = .mapping [] := by
  constructor
  · intro h
    cases value with
    | scalar s =>
      cases s with
      | null => exact Or.inl rfl
      | bool b =>
        cases b
        · exact Or.inr (Or.inl .false)
        · cases h
      | int n =>
        simp only [Value.isSomething, ne_eq, decide_not, Bool.not_eq_false', decide_eq_true_eq] at h
        exact Or.inr (Or.inl (h ▸ .zero))
      | float x =>
        cases x with
        | finite negative m exponent =>
          simp only [Value.isSomething, Binary.isZero, Bool.not_eq_false', decide_eq_true_eq] at h
          exact Or.inr (Or.inl (h ▸ .zeroFloat negative exponent))
        | _ => cases h
      | text s =>
        simp only [Value.isSomething, ne_eq, decide_not, Bool.not_eq_false', decide_eq_true_eq] at h
        exact Or.inr (Or.inl (h ▸ .emptyText))
      | bytes bs =>
        simp only [Value.isSomething, Bool.not_eq_false', List.isEmpty_iff] at h
        exact Or.inr (Or.inl (h ▸ .noBytes))
      | _ => cases h
    | list items =>
      simp only [Value.isSomething, Bool.not_eq_false', List.isEmpty_iff] at h
      exact Or.inr (Or.inl (h ▸ .emptyList))
    | set members =>
      simp only [Value.isSomething, Bool.not_eq_false', List.isEmpty_iff] at h
      exact Or.inr (Or.inl (h ▸ .emptySet))
    | mapping entries =>
      simp only [Value.isSomething, Bool.not_eq_false', List.isEmpty_iff] at h
      exact Or.inr (Or.inr (h ▸ rfl))
    | _ => cases h
  · rintro (rfl | h | rfl)
    · rfl
    · cases h <;> rfl
    · rfl

lemma entriesOf_of_hollow (h : Hollow value) (path : Path) : entriesOf path value = .ok [] := by
  unfold entriesOf
  rw [isSomething_eq_false_iff.2 (Or.inr (Or.inl h)), Bool.not_false, if_pos rfl]

/-- An empty mapping has no section. -/
lemma entriesOf_mapping (path : Path) (entries : Entries) :
    entriesOf path (.mapping entries) =
      match Entries.get? entries sectionKey with
      | none => .ok entries
      | some (.scalar .null) => .ok entries
      | some (.mapping _) => .ok entries
      | some _ => .error (.sectionNotMapping path) := by
  rcases entries with _ | ⟨entry, entries⟩ <;> rfl

lemma entriesOf_of_usable (h : Usable value entries) (path : Path) :
    entriesOf path value = .ok entries := by
  cases h with
  | nothing => rfl
  | plain h => rw [entriesOf_mapping, h]
  | emptySection h =>
    rw [entriesOf_mapping, h]
    rfl
  | settings h => rw [entriesOf_mapping, h]

lemma entriesOf_of_not_mapping (hnull : value ≠ .null) (hhollow : ¬ Hollow value)
    (hkind : ∀ entries, value ≠ .mapping entries) (path : Path) :
    entriesOf path value = .error (.notMapping path) := by
  have hsome : value.isSomething = true := by
    rw [← Bool.not_eq_false, isSomething_eq_false_iff]
    rintro (h | h | h)
    · exact hnull h
    · exact hhollow h
    · exact hkind [] h
  cases value with
  | mapping entries => exact absurd rfl (hkind entries)
  | _ =>
    unfold entriesOf
    rw [hsome]
    rfl

lemma entriesOf_of_section {own : Value} (hget : Entries.get? entries sectionKey = some own)
    (hnull : own ≠ .null) (hkind : ∀ es, own ≠ .mapping es) (path : Path) :
    entriesOf path (.mapping entries) = .error (.sectionNotMapping path) := by
  rw [entriesOf_mapping, hget]
  cases own with
  | scalar s =>
    cases s with
    | null => exact absurd rfl hnull
    | _ => rfl
  | mapping es => exact absurd rfl (hkind es)
  | _ => rfl

/-! ## Loading -/

lemma stated_of_holds {bytes : List UInt8} (h : fs.Holds path bytes) :
    stated read fs path = (document read path bytes).bind (entriesOf path) := by
  rw [stated, h.isPresent]
  simp only [h.content]
  rcases document read path bytes with fault | value <;> rfl

/-- The document in the bytes of a text. -/
lemma document_encode (path : Path) (text : List Char) :
    document read path (Utf8.encode text) =
      (read (Utf8.unifyLineEnds text)).mapError fun
        | .value fault => .valueless fault
        | .malformed flaw position => .malformed path (.malformed flaw position) := by
  rw [document, Utf8.decode_eq_ok_iff.2 rfl]
  rcases hread : read (Utf8.unifyLineEnds text) with (_ | _) | value <;>
    simp [hread, Except.mapError]

lemma stated_of_reads (h : Reads read fs path (.ok value)) :
    stated read fs path = entriesOf path value := by
  obtain ⟨text, hholds, hread⟩ := h
  rw [stated_of_holds hholds, document_encode, hread]
  rfl

lemma stated_of_refused {fault : ConfigFault} (h : Refused read fs path fault) :
    stated read fs path = .error fault := by
  cases h with
  | missing h => rw [stated, FileSystem.isPresent_of_nowhere h]
  | malformed h =>
    obtain ⟨text, hholds, hread⟩ := h
    rw [stated_of_holds hholds, document_encode, hread]
    rfl
  | notMapping h hnull hhollow hkind =>
    rw [stated_of_reads h, entriesOf_of_not_mapping hnull hhollow hkind]
  | sectionNotMapping h hget hnull hkind =>
    rw [stated_of_reads h, entriesOf_of_section hget hnull hkind]

lemma stated_of_broken {fault : ConfigFault} (h : Broken read fs path fault) :
    stated read fs path = .error fault := by
  cases h with
  | overlong h => rw [stated, FileSystem.isPresent_of_overlong h]
  | directory h =>
    rw [stated, FileSystem.isPresent_of_isDirectory h]
    simp only [FileSystem.content_of_isDirectory h]
  | notText h hdecode =>
    rw [stated_of_holds h, document, hdecode]
    rfl
  | valueless h =>
    obtain ⟨text, hholds, hread⟩ := h
    rw [stated_of_holds hholds, document_encode, hread]
    rfl

/-- What becomes of a document that is read. -/
lemma outcome_of_reads (h : Reads read fs path (.ok value)) :
    ∃ result, Outcome read fs path result := by
  by_cases hnull : value = .null
  · subst hnull
    exact ⟨_, .usable h .nothing⟩
  by_cases hhollow : Hollow value
  · exact ⟨_, .hollow h hhollow⟩
  by_cases hkind : ∀ entries, value ≠ .mapping entries
  · exact ⟨_, .refused (.notMapping h hnull hhollow hkind)⟩
  · obtain ⟨entries, rfl⟩ : ∃ entries, value = .mapping entries := by
      by_contra hno
      exact hkind fun entries heq => hno ⟨entries, heq⟩
    rcases hget : Entries.get? entries sectionKey with _ | own
    · exact ⟨_, .usable h (.plain hget)⟩
    · by_cases hown : own = .null
      · exact ⟨_, .usable h (.emptySection (hown ▸ hget))⟩
      · by_cases hmapping : ∃ es, own = .mapping es
        · obtain ⟨es, rfl⟩ := hmapping
          exact ⟨_, .usable h (.settings hget)⟩
        · exact ⟨_, .refused (.sectionNotMapping h hget hown fun es heq => hmapping ⟨es, heq⟩)⟩

lemma exists_outcome (read : Reader) (fs : FileSystem) (path : Path) :
    ∃ result, Outcome read fs path result := by
  -- Only a path that leads to a file gets as far as a document.
  rcases fs.target path with h | h | h | ⟨bytes, h⟩
  · exact ⟨_, .refused (.missing h)⟩
  · exact ⟨_, .broken (.overlong h)⟩
  · exact ⟨_, .broken (.directory h)⟩
  · rcases hdecode : Utf8.decode bytes with fault | text
    · exact ⟨_, .broken (.notText h hdecode)⟩
    · rw [Utf8.decode_eq_ok_iff.1 hdecode] at h
      rcases hread : read (Utf8.unifyLineEnds text) with fault | value
      · cases fault with
        | malformed flaw position => exact ⟨_, .refused (.malformed ⟨text, h, hread⟩)⟩
        | value fault => exact ⟨_, .broken (.valueless ⟨text, h, hread⟩)⟩
      · exact outcome_of_reads ⟨text, h, hread⟩

/-- A path has one way of ending, and it is the one that the loading comes to. -/
lemma outcome_iff {result : Except ConfigFault Entries} :
    Outcome read fs path result ↔ stated read fs path = result := by
  have hstated : ∀ {result}, Outcome read fs path result → stated read fs path = result := by
    intro result h
    cases h with
    | usable h hvalue => rw [stated_of_reads h, entriesOf_of_usable hvalue]
    | hollow h hvalue => rw [stated_of_reads h, entriesOf_of_hollow hvalue]
    | refused h => exact stated_of_refused h
    | broken h => exact stated_of_broken h
  refine ⟨hstated, fun h => ?_⟩
  -- The loading comes to one end only, so the one that exists is the one asked for.
  obtain ⟨result', h'⟩ := exists_outcome read fs path
  rwa [← h, hstated h']

/-! ## Results -/

lemma load_of_ne_empty {text : String} (h : text ≠ "") :
    (load read fs (some text)).value =
      (stated read fs (.ofString text)).map (Entries.merge defaults) := by
  rw [load, nonempty?_eq_some_iff.2 ⟨rfl, h⟩]
  rcases hstated : stated read fs (.ofString text) with fault | entries <;>
    simp only [hstated] <;> rfl

lemma isExpected_of_refused {fault : ConfigFault} (h : Refused read fs path fault) :
    (Command.CommandFault.config fault).isExpected = true := by
  cases h <;> rfl

lemma not_isExpected_of_broken {fault : ConfigFault} (h : Broken read fs path fault) :
    (Command.CommandFault.config fault).isExpected = false := by
  cases h <;> rfl

lemma stated_eq_error_iff {fault : ConfigFault} :
    stated read fs path = .error fault ↔
      Refused read fs path fault ∨ Broken read fs path fault := by
  rw [← outcome_iff]
  constructor
  · rintro (_ | _ | h | h)
    · exact Or.inl h
    · exact Or.inr h
  · rintro (h | h)
    · exact .refused h
    · exact .broken h

/-- **A path with something in it leads to a configuration exactly if it leads to a file with
text, whose document is usable or hollow.**  Otherwise, the fault is one that is expected exactly if the
path is refused, and one that is not exactly if the loading breaks off. -/
theorem load_sorted (read : Reader) (fs : FileSystem) {text : String} (h : text ≠ "") :
    (∀ config, (load read fs (some text)).value = .ok config ↔
      ∃ value, Reads read fs (.ofString text) (.ok value) ∧
        ((∃ entries, Usable value entries ∧ config = Entries.merge defaults entries) ∨
          Hollow value ∧ config = defaults)) ∧
    (∀ fault, (load read fs (some text)).value = .error fault ∧
        (Command.CommandFault.config fault).isExpected = true ↔
      Refused read fs (.ofString text) fault) ∧
    ∀ fault, (load read fs (some text)).value = .error fault ∧
        (Command.CommandFault.config fault).isExpected = false ↔
      Broken read fs (.ofString text) fault := by
  have herror : ∀ fault, (load read fs (some text)).value = .error fault ↔
      Refused read fs (.ofString text) fault ∨ Broken read fs (.ofString text) fault := by
    intro fault
    rw [load_of_ne_empty h, ← stated_eq_error_iff]
    rcases stated read fs (.ofString text) with fault' | entries <;> simp [Except.map]
  refine ⟨fun config => ?_, fun fault => ?_, fun fault => ?_⟩
  · rw [load_of_ne_empty h]
    constructor
    · intro hload
      rcases hstated : stated read fs (.ofString text) with fault | entries <;>
        rw [hstated] at hload <;> cases hload
      cases outcome_iff.2 hstated with
      | usable hreads hvalue => exact ⟨_, hreads, Or.inl ⟨entries, hvalue, rfl⟩⟩
      | hollow hreads hvalue => exact ⟨_, hreads, Or.inr ⟨hvalue, rfl⟩⟩
    · rintro ⟨value, hreads, ⟨entries, hvalue, rfl⟩ | ⟨hvalue, rfl⟩⟩
      · rw [outcome_iff.1 (.usable hreads hvalue)]
        rfl
      · rw [outcome_iff.1 (.hollow hreads hvalue)]
        rfl
  · rw [herror fault]
    constructor
    · rintro ⟨hrefused | hbroken, hexpected⟩
      · exact hrefused
      · rw [not_isExpected_of_broken hbroken] at hexpected
        cases hexpected
    · exact fun hrefused => ⟨Or.inl hrefused, isExpected_of_refused hrefused⟩
  · rw [herror fault]
    constructor
    · rintro ⟨hrefused | hbroken, hexpected⟩
      · rw [isExpected_of_refused hrefused] at hexpected
        cases hexpected
      · exact hbroken
    · exact fun hbroken => ⟨Or.inr hbroken, not_isExpected_of_broken hbroken⟩

/-- A working directory with three files: one that turns security on, an empty list, and one with a
date that there is not. -/
def writtenFiles : FileSystem where
  entries :=
    [(["home"], .directory),
      (["home", "on.yml"], .file (Utf8.encode "security:\n  enable: true\n".toList)),
      (["home", "list.yml"], .file (Utf8.encode "[]\n".toList)),
      (["home", "date.yml"], .file (Utf8.encode "since: 2001-13-01\n".toList))]
  workingDirectory := ["home"]

/-- A file that turns security on is laid over the defaults. -/
theorem load_sorted_enabling :
    "on.yml" ≠ "" ∧ (load Yaml.read writtenFiles (some "on.yml")).value =
      .ok (Entries.merge defaults
        [(.text "security", .mapping [(.text "enable", .bool true)])]) := by
  have hreads : Reads Yaml.read writtenFiles (.ofString "on.yml")
      (.ok (.mapping [(.text "security", .mapping [(.text "enable", .bool true)])])) :=
    ⟨"security:\n  enable: true\n".toList, ⟨["home", "on.yml"], by decide, by decide⟩,
      by decide +kernel⟩
  have hname : "on.yml" ≠ "" := by decide
  exact ⟨hname, ((load_sorted Yaml.read writtenFiles hname).1 _).2
    ⟨_, hreads, Or.inl ⟨_, .settings rfl, rfl⟩⟩⟩

/-- An empty list is taken as a configuration although it is no mapping; a directory, and a file
with a date that there is not, end the loading with a fault that is not expected. -/
theorem load_unsorted :
    ((load Yaml.read writtenFiles (some "list.yml")).value = .ok defaults ∧
      Reads Yaml.read writtenFiles (.ofString "list.yml") (.ok (.list [])) ∧
      ∀ entries, ¬ Usable (.list []) entries) ∧
    (∃ fault, (load Yaml.read writtenFiles (some "/home")).value = .error fault ∧
      (Command.CommandFault.config fault).isExpected = false) ∧
    ∃ fault, (load Yaml.read writtenFiles (some "date.yml")).value = .error fault ∧
      (Command.CommandFault.config fault).isExpected = false := by
  have hlist : Reads Yaml.read writtenFiles (.ofString "list.yml") (.ok (.list [])) :=
    ⟨"[]\n".toList, ⟨["home", "list.yml"], by decide, by decide⟩, by decide +kernel⟩
  have hdirectory : Broken Yaml.read writtenFiles (.ofString "/home")
      (.unreadable ⟨.isDirectory, .ofString "/home"⟩) := .directory (by decide)
  have hdate : Broken Yaml.read writtenFiles (.ofString "date.yml")
      (.valueless (.calendar .month)) :=
    .valueless ⟨"since: 2001-13-01\n".toList, ⟨["home", "date.yml"], by decide, by decide⟩,
      by decide +kernel⟩
  refine ⟨⟨?_, hlist, fun entries h => by cases h⟩, ⟨_, ?_, not_isExpected_of_broken hdirectory⟩,
    ⟨_, ?_, not_isExpected_of_broken hdate⟩⟩
  · rw [load_of_ne_empty (by decide), stated_of_reads hlist, entriesOf_of_hollow .emptyList]
    rfl
  · rw [load_of_ne_empty (by decide), stated_of_broken hdirectory]
    rfl
  · rw [load_of_ne_empty (by decide), stated_of_broken hdate]
    rfl

end ConfigFile
end Keystore
