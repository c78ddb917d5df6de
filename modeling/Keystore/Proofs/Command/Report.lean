/-
What a report says.

A report is JSON in ASCII, and it can be read in one way only: as an object with the six fields of
`reported`.  Each character of a text is written so that its code units are read back, whatever
follows it (`readsUnits_character`); texts, lines and the whole report are put together from there.

The two switches for the report and the log decide what is shown and not what happens
(`report_lossless`).  Since the arguments that are still to come do not look at them
(`Intake.take_takeSwitch`), each of them can be added in front of any arguments.
-/
import Mathlib.Data.List.Forall2
import Keystore.Proofs.Command.EntryPoints
import Keystore.Proofs.Command.Placement
import Keystore.Proofs.Json
import Keystore.Proofs.Text.Numeral

namespace Keystore

/-- All characters of the text are in ASCII. -/
def Ascii (s : String) : Prop := ∀ c ∈ s.toList, c.toNat < 128

instance (s : String) : Decidable (Ascii s) := List.decidableBAll _ s.toList

lemma Ascii.append {s t : String} (hs : Ascii s) (ht : Ascii t) : Ascii (s ++ t) := by
  intro c hc
  rw [String.toList_append, List.mem_append] at hc
  exact hc.elim (hs c) (ht c)

namespace Command

open Json (ReadsUnits Reads Denotes unitsOf units skip)

variable {cs rest : List Char} {us : List Nat} {n : Nat} {s name : String} {v : Json}
  {fields : List (String × String)} {members : List (String × Json)}

/-! ## Texts -/

lemma ascii_unitEscape (h : n < 0x10000) : Ascii (unitEscape n) := by
  have hdigits : Ascii (Numeral.padded 16 4 n) := by
    rw [Ascii, Numeral.toList_padded_four h]
    simp [Numeral.toNat_digitChar_lt]
  exact Ascii.append (by decide) hdigits

lemma readsUnits_unitEscape (h : n < 0x10000) (hread : ReadsUnits cs us rest) :
    ReadsUnits ((unitEscape n).toList ++ cs) (n :: us) rest := by
  have hvalue := Numeral.read?_padded_four h
  rw [unitEscape, String.toList_append]
  rw [Numeral.toList_padded_four h] at hvalue ⊢
  exact .unit hvalue hread

/-- A character that is no code unit itself is written by two of them. -/
lemma surrogates_lt (c : Char) :
    0xD800 + (c.toNat - 0x10000) / 0x400 < 0x10000 ∧
      0xDC00 + (c.toNat - 0x10000) % 0x400 < 0x10000 := by
  have hc : c.toNat < 0xD800 ∨ 0xDFFF < c.toNat ∧ c.toNat < 0x110000 := c.valid
  omega

lemma ascii_character (c : Char) : Ascii (jsonCharacter c) := by
  unfold jsonCharacter
  split_ifs with _ _ _ _ _ _ _ hvisible hbmp
  iterate 7 decide
  · intro d hd
    obtain rfl : d = c := by simpa using hd
    exact Nat.lt_of_le_of_lt hvisible.2 (by decide)
  · exact ascii_unitEscape hbmp
  · exact (ascii_unitEscape (surrogates_lt c).1).append (ascii_unitEscape (surrogates_lt c).2)

/-- **A character is read back**, whatever follows it. -/
lemma readsUnits_character (c : Char) (h : ReadsUnits cs us rest) :
    ReadsUnits ((jsonCharacter c).toList ++ cs) (unitsOf c ++ us) rest := by
  unfold jsonCharacter
  -- Seven characters have an escape of their own.
  split_ifs with hquote hescape hfeed hreturn htab hback hform hvisible hbmp
  · subst hquote
    exact .letter rfl h
  · subst hescape
    exact .letter rfl h
  · subst hfeed
    exact .letter rfl h
  · subst hreturn
    exact .letter rfl h
  · subst htab
    exact .letter rfl h
  · subst hback
    exact .letter rfl h
  · subst hform
    exact .letter rfl h
  · rw [String.toList_ofList]
    exact .character hvisible.1 hquote hescape h
  · rw [unitsOf, if_pos hbmp]
    exact readsUnits_unitEscape hbmp h
  · rw [unitsOf, if_neg hbmp, String.toList_append, List.append_assoc]
    exact readsUnits_unitEscape (surrogates_lt c).1 (readsUnits_unitEscape (surrogates_lt c).2 h)

lemma toList_jsonText (s : String) :
    (jsonText s).toList = '"' :: (s.toList.flatMap (fun c => (jsonCharacter c).toList) ++ ['"']) := by
  simp [jsonText, String.toList_join, List.flatMap_map]

lemma ascii_jsonText (s : String) : Ascii (jsonText s) := by
  intro c hc
  simp only [toList_jsonText, List.mem_cons, List.mem_append, List.mem_flatMap, List.not_mem_nil,
    or_false] at hc
  rcases hc with rfl | ⟨d, -, hc⟩ | rfl
  · decide
  · exact ascii_character d c hc
  · decide

lemma readsUnits_text (s rest) :
    ReadsUnits (s.toList.flatMap (fun c => (jsonCharacter c).toList) ++ '"' :: rest) (units s) rest := by
  rw [units]
  induction s.toList with
  | nil => exact .quote
  | cons c cs ih =>
    rw [List.flatMap_cons, List.flatMap_cons, List.append_assoc]
    exact readsUnits_character c ih

example : jsonText "\"😀" = "\"\\\"\\ud83d\\ude00\"" := by decide

/-! ## Values -/

/-- The text is the value as it is written, in ASCII and whatever follows it. -/
structure Writes (s : String) (v : Json) : Prop where
  ascii : Ascii s
  reads : ∀ rest, Reads (s.toList ++ rest) (.value v) rest

/-- A text as a value, or null. -/
def textOrNull (s : Option String) : Json := (s.map .text).getD .null

lemma writes_text (s : String) : Writes (jsonText s) (.text s) := by
  refine ⟨ascii_jsonText s, fun rest => ?_⟩
  rw [toList_jsonText, List.cons_append, List.append_assoc]
  exact .text (readsUnits_text s rest)

lemma writes_textOrNull (s : Option String) : Writes (jsonText? s) (textOrNull s) := by
  cases s with
  | none => exact ⟨by decide, fun rest => .null⟩
  | some s => exact writes_text s

lemma writes_bool (b : Bool) : Writes (jsonBool b) (.bool b) := by
  cases b with
  | false => exact ⟨by decide, fun rest => .false⟩
  | true => exact ⟨by decide, fun rest => .true⟩

/-! ## The report -/

/-- What a report says: the identity, and all there is in the result. -/
def reported (identity : Identity) (r : LookupResult) : List (String × Json) :=
  [("name", .text identity.name), ("namespace", .text identity.scope), ("found", .bool r.isFound),
    ("path", textOrNull r.path?), ("error", textOrNull (r.cause?.map Cause.text)),
    ("diagnostic", .text r.diagnostic)]

/-- The field is the member as it is written. -/
def WritesField (field : String × String) (member : String × Json) : Prop :=
  field.1 = member.1 ∧ Writes field.2 member.2

/-- The line of a field. -/
def fieldLine (field : String × String) : String := "  " ++ jsonText field.1 ++ ": " ++ field.2

/-- The fields are written as they are reported. -/
lemma reportFields_writes (identity : Identity) (r : LookupResult) :
    List.Forall₂ WritesField (reportFields identity r) (reported identity r) :=
  .cons ⟨rfl, writes_text _⟩ <| .cons ⟨rfl, writes_text _⟩ <| .cons ⟨rfl, writes_bool _⟩ <|
    .cons ⟨rfl, writes_textOrNull _⟩ <| .cons ⟨rfl, writes_textOrNull _⟩ <|
      .cons ⟨rfl, writes_text _⟩ .nil

lemma reads_fieldLine (h : Writes s v) (name : String) (rest : List Char) :
    Reads ('\n' :: (fieldLine (name, s)).toList ++ rest) (.member name v) rest := by
  -- Behind the colon there is one blank, and none in front of the value itself.
  have hvalue : skip (' ' :: (s.toList ++ rest)) = s.toList ++ rest := (h.reads rest).skip_eq
  have hline : '\n' :: (fieldLine (name, s)).toList ++ rest = '\n' :: ' ' :: ' ' :: '"' ::
      (name.toList.flatMap (fun c => (jsonCharacter c).toList)
        ++ '"' :: ':' :: ' ' :: (s.toList ++ rest)) := by
    simp [fieldLine, toList_jsonText]
  rw [hline]
  refine .member rfl (readsUnits_text name _) rfl ?_
  rw [hvalue]
  exact h.reads rest

/-- The lines of the fields are members up to the brace behind them. -/
lemma reads_fieldLines (h : List.Forall₂ WritesField fields members) (hne : fields ≠ [])
    (rest : List Char) :
    Reads ('\n' :: (",\n".intercalate (fields.map fieldLine)).toList ++ '\n' :: '}' :: rest)
      (.members members) rest := by
  induction h with
  | nil => exact absurd rfl hne
  | @cons field member fields members hfield hfields ih =>
    obtain ⟨name, s⟩ := field
    obtain ⟨_, v⟩ := member
    obtain ⟨rfl, hwrites⟩ := hfield
    cases hfields with
    | nil => exact .lastMember (reads_fieldLine hwrites name _) rfl
    | cons hnext hfields =>
      rw [List.map_cons, List.map_cons, String.intercalate_cons_cons, ← List.map_cons,
        String.toList_append, String.toList_append, ← List.cons_append, ← List.cons_append,
        List.append_assoc, List.append_assoc]
      exact .moreMembers (reads_fieldLine hwrites name _) rfl (ih (by simp))

lemma report_eq (identity : Identity) (r : LookupResult) :
    report identity r
      = "\x7b\n" ++ ",\n".intercalate ((reportFields identity r).map fieldLine) ++ "\n\x7d" := rfl

lemma ascii_fieldLines (h : List.Forall₂ WritesField fields members) :
    Ascii (",\n".intercalate (fields.map fieldLine)) := by
  induction h with
  | nil => decide
  | @cons field member fields members hfield hfields ih =>
    have hline : Ascii (fieldLine field) :=
      ((Ascii.append (by decide) (ascii_jsonText _)).append (by decide)).append hfield.2.ascii
    cases hfields with
    | nil => simpa using hline
    | cons hnext hfields =>
      rw [List.map_cons, List.map_cons, String.intercalate_cons_cons, ← List.map_cons]
      exact (hline.append (by decide)).append ih

lemma ascii_report (identity : Identity) (r : LookupResult) : Ascii (report identity r) := by
  rw [report_eq]
  exact (Ascii.append (by decide) (ascii_fieldLines (reportFields_writes identity r))).append
    (by decide)

lemma reads_report (identity : Identity) (r : LookupResult) (rest : List Char) :
    Reads ((report identity r).toList ++ rest) (.value (.object (reported identity r))) rest := by
  have hlines := reads_fieldLines (reportFields_writes identity r) (List.cons_ne_nil _ _) rest
  have hreport : (report identity r).toList ++ rest = '\x7b' :: ('\n' ::
      (",\n".intercalate ((reportFields identity r).map fieldLine)).toList
        ++ '\n' :: '\x7d' :: rest) := by
    simp [report_eq]
  rw [hreport]
  exact .object hlines

/-- **A report can be read in one way only.** -/
theorem report_denotes_iff (identity : Identity) (r : LookupResult) (v : Json) :
    Denotes (report identity r ++ "\n") v ↔ v = .object (reported identity r) := by
  have hreads := reads_report identity r ['\n']
  have hdenotes : Denotes (report identity r ++ "\n") (.object (reported identity r)) := by
    refine ⟨['\n'], ?_, rfl⟩
    rw [String.toList_append]
    change Reads (skip ((report identity r).toList ++ ['\n'])) _ _
    rw [hreads.skip_eq]
    exact hreads
  constructor
  · intro h
    exact h.unique hdenotes
  · rintro rfl
    exact hdenotes

/-! ## The switches -/

/-- The arguments, with one more switch. -/
def Arguments.withSwitch (a : Arguments) : Switch → Arguments
  | .json => { a with json := true }
  | .verbose => { a with verbose := true }
  | _ => a

/-- The request, with one more switch. -/
def Request.withSwitch : Request → Switch → Request
  | help, _ => help
  | lookup a, s => lookup (a.withSwitch s)

namespace Intake

variable (i : Intake) (s t : Switch)

lemma takeSwitch_comm : (i.takeSwitch s).takeSwitch t = (i.takeSwitch t).takeSwitch s := by
  cases s <;> cases t <;> rfl

lemma takeConfig_takeSwitch (path : String) :
    (i.takeSwitch s).takeConfig path = (i.takeConfig path).takeSwitch s := by
  cases s <;> rfl

lemma takeTexts_takeSwitch (run : List Piece) :
    (i.takeSwitch s).takeTexts run = (i.takeTexts run).takeSwitch s := by
  have hnames : (i.takeSwitch s).names = i.names := by cases s <;> rfl
  rw [takeTexts, takeTexts, hnames]
  by_cases hknown : i.names.isSome
  · rw [if_pos hknown, if_pos hknown]
    cases s <;> rfl
  · rw [if_neg hknown, if_neg hknown]
    rcases slice run with _ | ⟨nameSlice, rest⟩
    · cases s <;> rfl
    · dsimp only
      rcases slice rest with _ | ⟨scopeSlice, rest⟩ <;> cases s <;> rfl

lemma request_takeSwitch : (i.takeSwitch s).request = i.request.map (·.withSwitch s) := by
  have hnames : (i.takeSwitch s).names = i.names := by cases s <;> rfl
  have hleftOver : (i.takeSwitch s).leftOver = i.leftOver := by cases s <;> rfl
  rw [request, request, hnames, hleftOver]
  rcases i.names with _ | ⟨name, scope⟩
  · rfl
  · dsimp only
    by_cases hempty : i.leftOver.isEmpty
    · rw [if_pos hempty, if_pos hempty]
      cases s <;> rfl
    · rw [if_neg hempty, if_neg hempty]
      rfl

lemma leave_takeSwitch (text : String) :
    { i.takeSwitch s with leftOver := (i.takeSwitch s).leftOver ++ [text] }
      = { i with leftOver := i.leftOver ++ [text] }.takeSwitch s := by
  cases s <;> rfl

/-- The arguments that are still to come do not look at the switches so far. -/
lemma take_takeSwitch (run ps : List Piece) :
    (i.takeSwitch s).take run ps = (i.take run ps).map (·.withSwitch s) := by
  -- Whatever is taken in next, the switch may as well be taken in behind it.
  induction i, run, ps using take.induct with
  | case1 i run => rw [take, takeTexts_takeSwitch, request_takeSwitch, take]
  | case2 i run rest text ih => exact ih
  | case3 i run rest ih => exact ih
  | case4 i run rest text i' ih =>
    rw [take, takeTexts_takeSwitch, leave_takeSwitch]
    exact ih
  | case5 i run rest value fault h =>
    rw [take, take, h]
    rfl
  | case6 i run rest value h =>
    rw [take, take, h]
    rfl
  | case7 i run rest t v ht =>
    simp only [take, ht]
    rfl
  | case8 i run rest ht => rfl
  | case9 i run rest t i' ht hhelp ih =>
    simp only [take, ht, if_neg hhelp]
    rw [takeTexts_takeSwitch, takeSwitch_comm]
    exact ih
  | case10 i run rest t i' v ht ih =>
    simp only [take, ht]
    rw [takeTexts_takeSwitch, takeConfig_takeSwitch]
    exact ih
  | case11 i run t i' ht v rest ih =>
    simp only [take, ht]
    rw [takeTexts_takeSwitch, takeConfig_takeSwitch]
    exact ih
  | case12 i run rest t ht hrest =>
    simp only [take, ht]
    rfl

end Intake

/-- In front of other arguments, a switch is one more. -/
lemma request_withSwitch {arguments : List String} {t : Switch} (ht : t = .json ∨ t = .verbose) :
    request (t.long :: arguments) = (request arguments).map (·.withSwitch t) := by
  have hpiece : piece t.long = .ok (.switch t none) ∧ t.long ≠ "--" := by
    rcases ht with rfl | rfl <;> decide
  rw [request, request]
  rcases hpieces : pieces arguments with fault | ps
  · rw [pieces, if_neg hpiece.2, hpiece.1, hpieces]
    rfl
  · rw [pieces_cons hpiece.2 hpiece.1 hpieces]
    change Intake.take {} [] (.switch t none :: ps) = (Intake.take {} [] ps).map (·.withSwitch t)
    rw [← Intake.take_takeSwitch]
    rcases ht with rfl | rfl <;> rfl

/-! ## What is left behind -/

/-- The output when no report is asked for. -/
def plain (r : LookupResult) : String := (r.path?.map (· ++ "\n")).getD ""

lemma runLookup_outcome {read : ConfigFile.Reader} {fs : FileSystem} {src : Sources}
    {a : Arguments} {r : LookupResult} (h : (lookup read fs src a).value = .ok r) :
    ∃ errors, runLookup read fs src a
      = .ok { ending := .status (if r.isFound then 0 else 1)
              output := if a.json then report a.identity r ++ "\n" else plain r, errors } := by
  simp only [runLookup, h]
  rcases hjson : a.json with _ | _
  · cases r <;> exact ⟨_, by simp only [shown, hjson]; rfl⟩
  · exact ⟨_, by simp only [shown, hjson]; rfl⟩

/-- **The report says all there is in the result, and asking for it changes nothing else.**  Whatever
else the arguments say, with and without the two switches the command ends with the same status, and
without the report it puts out the path of the report.  The log is not on the output. -/
theorem report_lossless {read : ConfigFile.Reader} {fs : FileSystem} {src : Sources}
    {a : Arguments} {r : LookupResult} (h : (lookup read fs src a).value = .ok r) :
    (∀ arguments json verbose, request arguments = .ok (.lookup { a with json, verbose }) →
      ∃ errors, run read fs src arguments
        = .ok { ending := .status (if r.isFound then 0 else 1)
                output := if json then report a.identity r ++ "\n" else plain r, errors }) ∧
    (∀ arguments, request arguments = .ok (.lookup a) →
      request ("--json" :: arguments) = .ok (.lookup { a with json := true }) ∧
      request ("--verbose" :: arguments) = .ok (.lookup { a with verbose := true })) ∧
    Ascii (report a.identity r ++ "\n") ∧
    ∀ v, Denotes (report a.identity r ++ "\n") v ↔ v = .object (reported a.identity r) := by
  refine ⟨fun arguments json verbose hrequest => ?_, fun arguments hrequest => ⟨?_, ?_⟩,
    (ascii_report _ _).append (by decide), report_denotes_iff _ _⟩
  · -- The lookup does not depend on the switches.
    have hlookup : (lookup read fs src { a with json, verbose }).value = .ok r := h
    rw [run, hrequest]
    exact runLookup_outcome hlookup
  · exact (request_withSwitch (Or.inl rfl)).trans (by rw [hrequest]; rfl)
  · exact (request_withSwitch (Or.inr rfl)).trans (by rw [hrequest]; rfl)

/-- A working directory with a keystore whose name has a quote and a character with two code units. -/
def quotedFiles : FileSystem where
  entries := [(["home"], .directory), (["home", "\"😀"], .directory)]
  workingDirectory := ["home"]

/-- The environment that names it. -/
def quotedSources : Sources where
  environment := [("ROS_SECURITY_NODE_DIRECTORY", some "\"😀")]

/-- Both characters of the path are escaped in the report, and read back. -/
theorem report_lossless_quoted :
    (lookup Yaml.read quotedFiles quotedSources { name := "talker" }).value = .ok (.found "\"😀") ∧
    (∃ errors, run Yaml.read quotedFiles quotedSources ["--json", "talker"]
      = .ok { ending := .status 0, output := report ⟨"talker", "/"⟩ (.found "\"😀") ++ "\n", errors }) ∧
    Denotes (report ⟨"talker", "/"⟩ (.found "\"😀") ++ "\n")
      (.object [("name", .text "talker"), ("namespace", .text "/"), ("found", .bool true),
        ("path", .text "\"😀"), ("error", .null), ("diagnostic", .text "")]) := by
  have hconfigured : (configured Yaml.read quotedFiles { name := "talker" }).value
      = .ok (.layered [.environment, .fixed ConfigFile.defaultSettings]) := by
    rw [configured_value rfl, ConfigFile.settingsOf_defaults]
    rfl
  have hlookup : (lookup Yaml.read quotedFiles quotedSources { name := "talker" }).value
      = .ok (.found "\"😀") := by
    rw [lookup_eq hconfigured]
    rfl
  obtain ⟨hrun, hswitches, -, hdenotes⟩ := report_lossless hlookup
  have hrequest := (hswitches ["talker"] (by decide)).1
  exact ⟨hlookup, hrun _ true false hrequest, (hdenotes _).2 rfl⟩

end Command
end Keystore
