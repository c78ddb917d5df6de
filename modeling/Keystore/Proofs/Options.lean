/-
Security options that fail closed.

A node whose security is enforced must not run without its directory.  The options are
made of two settings and a lookup, and there are five ways in which they can end:
security is off, the lookup is raised out of, a directory is found, there is none and that
is forbidden, or there is none and that is allowed.  `securityOptions_decided` goes through
them once, and `FailsClosed` collects what a caller may rely on in all of them.

While security is off, nothing but the two settings is looked at: the options are the same
whatever the files, the identity and the allocator are.
-/
import Mathlib.Data.List.Basic
import Keystore.Options
import Keystore.Proofs.Session

namespace Keystore

variable {fs : FileSystem} {src : Sources} {i : Identity} {p : Provider}
  {allocate : String → Except AllocationFault String}

/-! ## The ways in which options can end -/

lemma Enforcement.ofSetting_eq_enforce_iff {value : Option String} :
    ofSetting value = enforce ↔ value = some "Enforce" := by
  rw [ofSetting, show Enforcement.enforce.text = "Enforce" from rfl]
  split
  · next h => simp [h]
  · next h => simp [h]

lemma Provider.enables_iff : p.enables src = true ↔ p.get src "ROS_SECURITY_ENABLE" = some "true" := by
  rw [enables, decide_eq_true_eq]
  rfl

/-- How options can end, given the two settings and the outcome of the lookup. -/
inductive Decided (enable strategy : Option String) (lookup : Except LookupFault LookupResult) :
    Except OptionsFault SecurityOptions → Prop where
  /-- Security is off. -/
  | off (h : enable ≠ some "true") :
    Decided enable strategy lookup (.ok ⟨false, .ofSetting strategy, none⟩)
  /-- The lookup is raised out of. -/
  | raised (h : enable = some "true") {fault : LookupFault} (hlookup : lookup = .error fault) :
    Decided enable strategy lookup (.error (.lookup fault))
  /-- There is a directory. -/
  | secured (h : enable = some "true") {path : String} (hlookup : lookup = .ok (.found path)) :
    Decided enable strategy lookup (.ok ⟨true, .ofSetting strategy, some path⟩)
  /-- There is no directory, and the node must not run. -/
  | forbidden (h : enable = some "true") (hstrategy : strategy = some "Enforce") {cause : Cause}
    {diagnostic : String} (hlookup : lookup = .ok (.notFound cause diagnostic)) :
    Decided enable strategy lookup (.error (.enforcement diagnostic))
  /-- There is no directory, and the node runs without one. -/
  | unsecured (h : enable = some "true") (hstrategy : strategy ≠ some "Enforce") {cause : Cause}
    {diagnostic : String} (hlookup : lookup = .ok (.notFound cause diagnostic)) :
    Decided enable strategy lookup (.ok ⟨true, .permissive, none⟩)

/-- While security is off, the options are made of the settings alone. -/
lemma securityOptions_of_off (h : p.get src "ROS_SECURITY_ENABLE" ≠ some "true") :
    securityOptions fs src i p allocate
      = .silent (.ok ⟨false, .ofSetting (p.get src "ROS_SECURITY_STRATEGY"), none⟩) := by
  rw [securityOptions, if_neg (Provider.enables_iff.not.2 h)]
  rfl

/-- Options end in one of the five ways. -/
lemma securityOptions_decided (fs : FileSystem) (src : Sources) (i : Identity) (p : Provider)
    (allocate : String → Except AllocationFault String) :
    Decided (p.get src "ROS_SECURITY_ENABLE") (p.get src "ROS_SECURITY_STRATEGY")
      (resolve fs i (p.read src).value allocate).outcome
      (securityOptions fs src i p allocate).value := by
  by_cases h : p.get src "ROS_SECURITY_ENABLE" = some "true"
  · have hsecure : (secureRoot fs src i p allocate).outcome
        = (resolve fs i (p.read src).value allocate).outcome := rfl
    rw [← hsecure, securityOptions, if_pos (Provider.enables_iff.2 h)]
    dsimp only
    rcases (secureRoot fs src i p allocate).outcome with fault | path | ⟨cause, diagnostic⟩
    · exact .raised h rfl
    · exact .secured h rfl
    · -- Without a directory, the second setting has the last word.
      rcases hstrategy : p.enforcement src with _ | _
      · have hne : p.get src "ROS_SECURITY_STRATEGY" ≠ some "Enforce" := by
          rw [Ne, ← Enforcement.ofSetting_eq_enforce_iff]
          intro henforce
          cases hstrategy.symm.trans henforce
        exact .unsecured h hne rfl
      · exact .forbidden h (Enforcement.ofSetting_eq_enforce_iff.1 hstrategy) rfl
  · rw [securityOptions_of_off h]
    exact .off h

/-! ## What a caller may rely on -/

/-- What a caller may rely on, given the two settings and the outcome of the lookup. -/
structure FailsClosed (enable strategy : Option String) (lookup : Except LookupFault LookupResult)
    (options : Except OptionsFault SecurityOptions) : Prop where
  /-- Where security is on and enforced, the options have the directory that was looked up. -/
  enforced : ∀ o, options = .ok o → o.enabled = true → o.enforcement = .enforce →
    ∃ path, o.secureRoot = some path ∧ lookup = .ok (.found path)
  /-- A node is forbidden to run exactly if the settings turn security on and enforce it and no
  directory is found; the reason is that of the lookup. -/
  forbidden_iff : ∀ diagnostic, options = .error (.enforcement diagnostic) ↔
    enable = some "true" ∧ strategy = some "Enforce" ∧
      ∃ cause, lookup = .ok (.notFound cause diagnostic)
  /-- Whatever else is raised comes from the lookup. -/
  raised_iff : ∀ fault, options = .error (.lookup fault) ↔
    enable = some "true" ∧ lookup = .error fault
  /-- Where security is on and there is no directory, that is allowed and none was found. -/
  unsecured : ∀ o, options = .ok o → o.enabled = true → o.secureRoot = none →
    o.enforcement = .permissive ∧ ∃ cause diagnostic, lookup = .ok (.notFound cause diagnostic)
  /-- The options say what the settings say. -/
  settings : ∀ o, options = .ok o →
    (o.enabled = true ↔ enable = some "true") ∧ (o.enforcement = .enforce ↔ strategy = some "Enforce")

section Decided

variable {enable strategy : Option String} {lookup : Except LookupFault LookupResult}
  {options options' : Except OptionsFault SecurityOptions}

/-- The settings and the lookup leave one way only. -/
lemma Decided.unique (h : Decided enable strategy lookup options)
    (h' : Decided enable strategy lookup options') : options = options' := by
  cases h <;> cases h' <;> simp_all

lemma Decided.failsClosed (h : Decided enable strategy lookup options) :
    FailsClosed enable strategy lookup options := by
  refine ⟨?_, fun diagnostic => ⟨?_, ?_⟩, fun fault => ⟨?_, ?_⟩, ?_, ?_⟩
  · intro o ho henabled henforce
    cases h with
    | secured h hlookup =>
      cases ho
      exact ⟨_, rfl, hlookup⟩
    | off h =>
      cases ho
      cases henabled
    | unsecured h hstrategy hlookup =>
      cases ho
      cases henforce
    | _ => cases ho
  · intro ho
    cases h with
    | forbidden h hstrategy hlookup =>
      cases ho
      exact ⟨h, hstrategy, _, hlookup⟩
    | _ => cases ho
  · rintro ⟨henable, hstrategy, cause, hlookup⟩
    exact h.unique (.forbidden henable hstrategy hlookup)
  · intro ho
    cases h with
    | raised h hlookup =>
      cases ho
      exact ⟨h, hlookup⟩
    | _ => cases ho
  · rintro ⟨henable, hlookup⟩
    exact h.unique (.raised henable hlookup)
  · intro o ho henabled hnone
    cases h with
    | unsecured h hstrategy hlookup =>
      cases ho
      exact ⟨rfl, _, _, hlookup⟩
    | off h =>
      cases ho
      cases henabled
    | secured h hlookup =>
      cases ho
      cases hnone
    | _ => cases ho
  · intro o ho
    cases h with
    | off h =>
      cases ho
      exact ⟨by simp [h], Enforcement.ofSetting_eq_enforce_iff⟩
    | secured h hlookup =>
      cases ho
      exact ⟨by simp [h], Enforcement.ofSetting_eq_enforce_iff⟩
    | unsecured h hstrategy hlookup =>
      cases ho
      exact ⟨by simp [h], by simp [hstrategy]⟩
    | _ => cases ho

end Decided

/-- **Security options fail closed.**  They are never on and enforced without the directory that
the lookup has found.  While security is off, neither the files nor the identity nor the
allocator have a say, and nothing is taken out of a pool.  In a session the error channel stays
as it is in any case. -/
theorem securityOptions_failsClosed (fs : FileSystem) (src : Sources) (i : Identity) (p : Provider)
    (allocate : String → Except AllocationFault String) :
    FailsClosed (p.get src "ROS_SECURITY_ENABLE") (p.get src "ROS_SECURITY_STRATEGY")
        (resolve fs i (p.read src).value allocate).outcome
        (securityOptions fs src i p allocate).value ∧
      (p.get src "ROS_SECURITY_ENABLE" ≠ some "true" →
        ∀ (fs' : FileSystem) (i' : Identity) (allocate' : String → Except AllocationFault String),
          securityOptions fs' src i' p allocate'
            = .silent (.ok ⟨false, .ofSetting (p.get src "ROS_SECURITY_STRATEGY"), none⟩)) ∧
      ∀ (s : Session) (a : Allocator),
        (s.ask (.securityOptions i p a)).1.lastError = s.lastError ∧
          (p.get s.sources "ROS_SECURITY_ENABLE" ≠ some "true" →
            ∀ name, (s.ask (.securityOptions i p a)).1.pool name = s.pool name) := by
  refine ⟨(securityOptions_decided fs src i p allocate).failsClosed, ?_, ?_⟩
  · intro hoff fs' i' allocate'
    exact securityOptions_of_off hoff
  · -- Options are not reported, so the channel is only passed on.
    intro s a
    refine ⟨(s.hold_frame a _).2.2, fun hoff name => ?_⟩
    rw [Session.ask, securityOptions_of_off hoff]
    exact s.pool_hold_nil a name

/-- A node with enforced security and no settings that say where to look is forbidden to run. -/
theorem securityOptions_failsClosed_unconfigured :
    (securityOptions (.bare ["home"]) {} ⟨"talker", "/a"⟩
      (.layered [.environment, .fixed
        [("ROS_SECURITY_ENABLE", some "true"), ("ROS_SECURITY_STRATEGY", some "Enforce")]])
      (Allocator.pool "keys").allocate).value
        = .error (.enforcement Diagnostic.configurationMissing) := by
  refine ((securityOptions_failsClosed _ _ _ _ _).1.forbidden_iff _).2 ⟨?_, ?_, ?_⟩
  · decide
  · decide
  · exact ⟨.configurationMissing, by decide⟩

end Keystore
