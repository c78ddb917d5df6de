/-
Where switches may stand.

A command line is written as a list of *items*: the name, the namespace, and switches, one of
which brings a value along.  The switches may stand anywhere around the two texts, and it does not
matter where (`request_placed`).  Only between the name and the namespace there must be none.  The
texts in front of a switch are taken in before the switch is (`take_switch`), and the name and the
namespace are only taken in together, so a namespace that comes later is left over.
-/
import Mathlib.Data.List.Basic
import Keystore.Command.Run

namespace Keystore
namespace Command

/-- What is written on a command line. -/
inductive Item where
  /-- A text that is the name or the namespace. -/
  | text (s : String)
  /-- The switch for a configuration file, and behind it the path. -/
  | config (path : String)
  /-- The switch for a full report. -/
  | json
  /-- The switch for a log. -/
  | verbose
deriving DecidableEq

namespace Item

/-- The arguments that an item is written with. -/
def words : Item → List String
  | text s => [s]
  | config path => ["--config", path]
  | json => ["--json"]
  | verbose => ["--verbose"]

/-- What these arguments are, one by one. -/
def pieces : Item → List Piece
  | text s => [.text s]
  | config path => [.switch .config none, .text path]
  | json => [.switch .json none]
  | verbose => [.switch .verbose none]

/-- The text, if the item is one. -/
def text? : Item → Option String
  | text s => some s
  | _ => none

/-- The path of the configuration file, if the item is the switch for it. -/
def path? : Item → Option String
  | config path => some path
  | _ => none

lemma text?_eq_some_iff {item : Item} {s : String} : item.text? = some s ↔ item = text s := by
  cases item <;> simp [text?]

lemma filterMap_text (s : String) (items : List Item) :
    (text s :: items).filterMap text? = s :: items.filterMap text? := rfl

lemma filterMap_path (path : String) (items : List Item) :
    (config path :: items).filterMap path? = path :: items.filterMap path? := rfl

end Item

/-- The text does not look like a switch. -/
def Undashed (s : String) : Prop := s.toList.head? ≠ some '-'

instance (s : String) : Decidable (Undashed s) := inferInstanceAs (Decidable (_ ≠ _))

/-- The item is a switch, and its value does not look like one. -/
def Item.IsSwitch (item : Item) : Prop :=
  item.text? = none ∧ ∀ path, item.path? = some path → Undashed path

/-- The items are a name, perhaps a namespace behind it, and the given switches anywhere. -/
structure Interleaves (name : String) (scope config : Option String) (json verbose : Bool)
    (items : List Item) : Prop where
  texts : items.filterMap Item.text? = name :: scope.toList
  config : items.filterMap Item.path? = config.toList
  json : items.count .json = json.toNat
  verbose : items.count .verbose = verbose.toNat

/-- A switch stands behind a text and in front of another one. -/
def Parted (items : List Item) : Prop :=
  ∃ front s switch middle t back, switch.text? = none ∧
    items = front ++ .text s :: switch :: (middle ++ .text t :: back)

variable {name s t : String} {i : Intake} {items front back : List Item} {rest : List Piece}

/-! ## What the arguments are -/

lemma Undashed.ne_divider (h : Undashed s) : s ≠ "--" := by
  rintro rfl
  exact h rfl

lemma piece_of_undashed (h : Undashed s) : piece s = .ok (.text s) := by
  rw [Undashed] at h
  unfold piece
  split <;> simp_all

lemma pieces_cons {p : Piece} {arguments : List String} {ps : List Piece} (hs : s ≠ "--")
    (hp : piece s = .ok p) (hps : pieces arguments = .ok ps) :
    pieces (s :: arguments) = .ok (p :: ps) := by
  rw [pieces, if_neg hs, hp, hps]
  rfl

lemma pieces_cons_undashed {arguments : List String} {ps : List Piece} (h : Undashed s)
    (hps : pieces arguments = .ok ps) : pieces (s :: arguments) = .ok (.text s :: ps) :=
  pieces_cons h.ne_divider (piece_of_undashed h) hps

/-- The arguments of items are what the items are. -/
lemma pieces_words (htexts : ∀ s ∈ items.filterMap Item.text?, Undashed s)
    (hpaths : ∀ s ∈ items.filterMap Item.path?, Undashed s) :
    pieces (items.flatMap Item.words) = .ok (items.flatMap Item.pieces) := by
  induction items with
  | nil => rfl
  | cons item items ih =>
    rw [List.flatMap_cons, List.flatMap_cons]
    cases item with
    | text s =>
      rw [Item.filterMap_text, List.forall_mem_cons] at htexts
      exact pieces_cons_undashed htexts.1 (ih htexts.2 hpaths)
    | config path =>
      rw [Item.filterMap_path, List.forall_mem_cons] at hpaths
      exact pieces_cons (by decide) rfl (pieces_cons_undashed hpaths.1 (ih htexts hpaths.2))
    | json => exact pieces_cons (by decide) rfl (ih htexts hpaths)
    | verbose => exact pieces_cons (by decide) rfl (ih htexts hpaths)

/-! ## Taking in switches -/

/-- What has been taken in, with the switches among some items.  The last path counts. -/
def Intake.switched (i : Intake) (items : List Item) : Intake :=
  { i with
    config := (items.filterMap Item.path?).getLast?.or i.config
    json := i.json || items.contains .json
    verbose := i.verbose || items.contains .verbose }

namespace Intake

@[simp] lemma switched_nil (i : Intake) : i.switched [] = i := by
  simp [switched]

lemma switched_append (i : Intake) (items more : List Item) :
    i.switched (items ++ more) = (i.switched items).switched more := by
  simp [switched, List.filterMap_append, List.getLast?_append, Option.or_assoc, Bool.or_assoc]

/-- Switches do not change the names. -/
lemma switched_with_names (i : Intake) (items : List Item) (names : Option (String × String)) :
    { i.switched items with names } = { i with names }.switched items := rfl

/-- Texts are no switches. -/
lemma switched_text (i : Intake) (s : String) (items : List Item) :
    i.switched (.text s :: items) = i.switched items := by
  simp [switched, Item.path?]

@[simp] lemma takeTexts_nil (i : Intake) : i.takeTexts [] = i := by
  rw [takeTexts]
  split <;> simp [slice]

lemma takeConfig_eq_switched (h : Undashed s) : i.takeConfig s = i.switched [.config s] := by
  simp [takeConfig, switched, Item.path?, h.ne_divider]

lemma takeSwitch_json (i : Intake) : i.takeSwitch .json = i.switched [.json] := by
  simp [takeSwitch, switched, Item.path?]

lemma takeSwitch_verbose (i : Intake) : i.takeSwitch .verbose = i.switched [.verbose] := by
  simp [takeSwitch, switched, Item.path?]

/-- In front of a switch, the texts are taken in. -/
lemma take_switch {item : Item} (h : item.IsSwitch) (i : Intake) (run : List Piece) :
    i.take run (item.pieces ++ rest)
      = ((i.takeTexts run.reverse).switched [item]).take [] rest := by
  cases item with
  | text s => cases h.1
  | config path =>
    rw [← takeConfig_eq_switched (h.2 path rfl)]
    rfl
  | json =>
    rw [← takeSwitch_json]
    rfl
  | verbose =>
    rw [← takeSwitch_verbose]
    rfl

lemma take_switches (h : ∀ o ∈ items, o.IsSwitch) (i : Intake) :
    i.take [] (items.flatMap Item.pieces ++ rest) = (i.switched items).take [] rest := by
  induction items generalizing i with
  | nil => rw [List.flatMap_nil, List.nil_append, switched_nil]
  | cons item items ih =>
    obtain ⟨hitem, hrest⟩ := List.forall_mem_cons.1 h
    rw [List.flatMap_cons, List.append_assoc, take_switch hitem, List.reverse_nil, takeTexts_nil,
      ih hrest, ← switched_append, List.singleton_append]

/-- The texts are taken in once for all switches that follow. -/
lemma take_run {item : Item} (h : ∀ o ∈ item :: items, o.IsSwitch) (i : Intake)
    (run rest : List Piece) :
    i.take run ((item :: items).flatMap Item.pieces ++ rest)
      = ((i.takeTexts run.reverse).switched (item :: items)).take [] rest := by
  obtain ⟨hitem, hrest⟩ := List.forall_mem_cons.1 h
  rw [List.flatMap_cons, List.append_assoc, take_switch hitem, take_switches hrest,
    ← switched_append, List.singleton_append]

/-- At the end, everything has been taken in. -/
lemma take_end (h : ∀ o ∈ items, o.IsSwitch) (i : Intake) (run : List Piece) :
    i.take run (items.flatMap Item.pieces)
      = ((i.takeTexts run.reverse).switched items).request := by
  cases items with
  | nil =>
    rw [switched_nil]
    rfl
  | cons item items =>
    have htaken := take_run h i run []
    rw [List.append_nil] at htaken
    rw [htaken, take, List.reverse_nil, takeTexts_nil]

/-! ## Taking in texts -/

lemma sliceText_singleton (h : s ≠ "--") : sliceText [s] = some s := by
  rw [sliceText, List.erase_of_not_mem (by simpa using h.symm)]
  rfl

/-- A name alone is in the top namespace. -/
lemma takeTexts_name (hname : Undashed name) (hi : i.names = none) :
    i.takeTexts [.text name] = { i with names := some (name, "/") } := by
  simp [takeTexts, hi, slice, sliceText_singleton hname.ne_divider]

lemma takeTexts_names (hname : Undashed name) (hs : Undashed s) (hi : i.names = none) :
    i.takeTexts [.text name, .text s] = { i with names := some (name, s) } := by
  simp [takeTexts, hi, slice, sliceText_singleton hname.ne_divider,
    sliceText_singleton hs.ne_divider]

/-- A text behind the names is left over. -/
lemma takeTexts_late {names : String × String} (hi : i.names = some names) (s : String) :
    i.takeTexts [.text s] = { i with leftOver := i.leftOver ++ [s] } := by
  simp [takeTexts, hi, Piece.written?]

end Intake

/-! ## Items -/

lemma isSwitch_of_subset (hpaths : ∀ path ∈ items.filterMap Item.path?, Undashed path)
    (htexts : front.filterMap Item.text? = []) (hfront : ∀ o ∈ front, o ∈ items) :
    ∀ o ∈ front, o.IsSwitch :=
  fun o ho => ⟨List.filterMap_eq_nil_iff.1 htexts o ho, fun path hpath =>
    hpaths path (List.mem_filterMap.2 ⟨o, hfront o ho, hpath⟩)⟩

/-- The switches of a command line with the given items. -/
lemma Interleaves.switched {scope config : Option String} {json verbose : Bool}
    (h : Interleaves name scope config json verbose items) (names : Option (String × String)) :
    ({ names } : Intake).switched items = { names, config, json, verbose } := by
  have hjson : items.contains .json = json := by
    rw [Bool.eq_iff_iff, List.contains_iff_mem, ← List.count_pos_iff, h.json]
    cases json <;> simp
  have hverbose : items.contains .verbose = verbose := by
    rw [Bool.eq_iff_iff, List.contains_iff_mem, ← List.count_pos_iff, h.verbose]
    cases verbose <;> simp
  have hconfig : (items.filterMap Item.path?).getLast? = config := by
    rw [h.config]
    cases config <;> rfl
  rw [Intake.switched, hjson, hverbose, hconfig]
  simp

/-- The switches in front of the first text are taken in before it. -/
lemma take_front (hfront : ∀ o ∈ front, o.IsSwitch) (s : String) (more : List Item) :
    Intake.take {} [] ((front ++ .text s :: more).flatMap Item.pieces)
      = (({} : Intake).switched front).take [.text s] (more.flatMap Item.pieces) := by
  rw [List.flatMap_append, Intake.take_switches hfront, List.flatMap_cons]
  rfl

/-- A name alone is taken in at the end, or in front of the switches behind it. -/
lemma take_alone (hname : Undashed name) (hfront : ∀ o ∈ front, o.IsSwitch)
    (hback : ∀ o ∈ back, o.IsSwitch) :
    Intake.take {} [] ((front ++ .text name :: back).flatMap Item.pieces)
      = (({ names := some (name, "/") } : Intake).switched
          (front ++ .text name :: back)).request := by
  rw [take_front hfront, Intake.take_end hback, List.reverse_singleton,
    Intake.takeTexts_name hname rfl, Intake.switched_with_names, Intake.switched_append,
    Intake.switched_text]

/-- A namespace right behind the name is taken in with it. -/
lemma take_together (hname : Undashed name) (hs : Undashed s) (hfront : ∀ o ∈ front, o.IsSwitch)
    (hback : ∀ o ∈ back, o.IsSwitch) :
    Intake.take {} [] ((front ++ .text name :: .text s :: back).flatMap Item.pieces)
      = (({ names := some (name, s) } : Intake).switched
          (front ++ .text name :: .text s :: back)).request := by
  have htaken := Intake.take_end hback (({} : Intake).switched front) [.text s, .text name]
  rw [take_front hfront]
  refine htaken.trans ?_
  change ((Intake.takeTexts _ [.text name, .text s]).switched back).request = _
  rw [Intake.takeTexts_names hname hs rfl, Intake.switched_with_names, Intake.switched_append,
    Intake.switched_text, Intake.switched_text]

/-- A namespace behind a switch comes too late. -/
lemma take_parted {switch : Item} {middle : List Item} (hname : Undashed name)
    (hfront : ∀ o ∈ front, o.IsSwitch) (hmiddle : ∀ o ∈ switch :: middle, o.IsSwitch)
    (hback : ∀ o ∈ back, o.IsSwitch) :
    Intake.take {} []
        ((front ++ .text name :: switch :: (middle ++ .text s :: back)).flatMap Item.pieces)
      = .error (.leftOver [s]) := by
  have htaken := Intake.take_run hmiddle (({} : Intake).switched front) [.text name]
    ((Item.text s :: back).flatMap Item.pieces)
  rw [← List.flatMap_append] at htaken
  rw [take_front hfront]
  refine htaken.trans ?_
  rw [List.reverse_singleton, Intake.takeTexts_name hname rfl, List.flatMap_cons]
  refine (Intake.take_end hback _ [.text s]).trans ?_
  rw [List.reverse_singleton, Intake.takeTexts_late rfl]
  rfl

/-- A namespace stands right behind the name, or a switch stands between them. -/
lemma exists_front (h : items.filterMap Item.text? = [name, s]) :
    ∃ front middle back, items = front ++ .text name :: (middle ++ .text s :: back) ∧
      front.filterMap Item.text? = [] ∧ middle.filterMap Item.text? = [] ∧
      back.filterMap Item.text? = [] := by
  obtain ⟨front, first, more, rfl, hfront, hfirst, hmore⟩ := List.filterMap_eq_cons_iff.1 h
  obtain ⟨middle, second, back, rfl, hmiddle, hsecond, hback⟩ := List.filterMap_eq_cons_iff.1 hmore
  obtain rfl := Item.text?_eq_some_iff.1 hfirst
  obtain rfl := Item.text?_eq_some_iff.1 hsecond
  exact ⟨front, middle, back, rfl, List.filterMap_eq_nil_iff.2 hfront,
    List.filterMap_eq_nil_iff.2 hmiddle, hback⟩

/-- Of the name and the namespace, two texts leave nothing. -/
lemma texts_cases {front middle back : List String} {scope : Option String}
    (h : front ++ s :: (middle ++ t :: back) = name :: scope.toList) :
    front = [] ∧ s = name ∧ middle = [] ∧ scope = some t ∧ back = [] := by
  have hlength := congrArg List.length h
  rcases scope with _ | u
  · simp only [List.length_append, List.length_cons, Option.toList_none, List.length_nil] at hlength
    omega
  · simp only [List.length_append, List.length_cons, Option.toList_some, List.length_nil] at hlength
    obtain rfl := List.eq_nil_of_length_eq_zero (by omega : front.length = 0)
    obtain rfl := List.eq_nil_of_length_eq_zero (by omega : middle.length = 0)
    obtain rfl := List.eq_nil_of_length_eq_zero (by omega : back.length = 0)
    simp only [List.nil_append, Option.toList_some, List.cons.injEq] at h
    exact ⟨rfl, h.1, rfl, congrArg some h.2.1.symm, rfl⟩

section Interleaved

variable {scope config : Option String} {json verbose : Bool}

lemma Interleaves.paths (h : Interleaves name scope config json verbose items)
    (hconfig : ∀ path, config = some path → Undashed path) :
    ∀ path ∈ items.filterMap Item.path?, Undashed path := by
  rw [h.config]
  exact fun path hpath => hconfig path (Option.mem_toList.1 hpath)

lemma Interleaves.request_eq (h : Interleaves name scope config json verbose items)
    (hname : Undashed name) (hscope : ∀ s, scope = some s → Undashed s)
    (hconfig : ∀ path, config = some path → Undashed path) :
    request (items.flatMap Item.words) = Intake.take {} [] (items.flatMap Item.pieces) := by
  have htexts : ∀ s ∈ items.filterMap Item.text?, Undashed s := by
    rw [h.texts, List.forall_mem_cons]
    exact ⟨hname, fun s hs => hscope s (Option.mem_toList.1 hs)⟩
  rw [request, pieces_words htexts (h.paths hconfig)]
  rfl

/-- The texts are taken in together, unless a switch is between them. -/
lemma Interleaves.take_of_not_parted (h : Interleaves name scope config json verbose items)
    (hname : Undashed name) (hscope : ∀ s, scope = some s → Undashed s)
    (hconfig : ∀ path, config = some path → Undashed path) (hparted : ¬ Parted items) :
    Intake.take {} [] (items.flatMap Item.pieces)
      = (({ names := some (name, scope.getD "/") } : Intake).switched items).request := by
  have hpaths := h.paths hconfig
  have htexts := h.texts
  rcases scope with _ | s
  · obtain ⟨front, first, back, rfl, hfront, hfirst, hback⟩ :=
      List.filterMap_eq_cons_iff.1 htexts
    obtain rfl := Item.text?_eq_some_iff.1 hfirst
    exact take_alone hname
      (isSwitch_of_subset hpaths (List.filterMap_eq_nil_iff.2 hfront) (by simp +contextual))
      (isSwitch_of_subset hpaths hback (by simp +contextual))
  · obtain ⟨front, middle, back, rfl, hfront, hmiddle, hback⟩ := exists_front htexts
    rcases middle with _ | ⟨switch, middle⟩
    · exact take_together hname (hscope s rfl)
        (isSwitch_of_subset hpaths hfront (by simp +contextual))
        (isSwitch_of_subset hpaths hback (by simp +contextual))
    · have hswitch := List.filterMap_eq_nil_iff.1 hmiddle switch List.mem_cons_self
      exact absurd ⟨front, name, switch, middle, s, back, hswitch, rfl⟩ hparted

/-- A switch between two texts is one between the name and the namespace. -/
lemma Interleaves.take_of_parted (h : Interleaves name scope config json verbose items)
    (hname : Undashed name) (hconfig : ∀ path, config = some path → Undashed path)
    (hparted : Parted items) :
    ∃ s, scope = some s ∧
      Intake.take {} [] (items.flatMap Item.pieces) = .error (.leftOver [s]) := by
  obtain ⟨front, first, switch, middle, s, back, hswitch, rfl⟩ := hparted
  have hpaths := h.paths hconfig
  have htexts := h.texts
  rw [List.filterMap_append, Item.filterMap_text, List.filterMap_cons_none hswitch,
    List.filterMap_append, Item.filterMap_text] at htexts
  obtain ⟨hfront, rfl, hmiddle, hscope, hback⟩ := texts_cases htexts
  have hmiddle : (switch :: middle).filterMap Item.text? = [] := by
    rw [List.filterMap_cons_none hswitch, hmiddle]
  exact ⟨s, hscope, take_parted hname
    (isSwitch_of_subset hpaths hfront (by simp +contextual))
    (isSwitch_of_subset hpaths hmiddle (by
      intro o ho
      rcases List.mem_cons.1 ho with rfl | ho <;> simp [*]))
    (isSwitch_of_subset hpaths hback (by simp +contextual))⟩

end Interleaved

/-- **Switches may stand anywhere but between the name and the namespace.**  Elsewhere it does not
matter where they stand: the arguments say the same, and the command does the same.  If one of them
stands between the name and the namespace, the namespace is left over, and the command refuses
it. -/
theorem request_placed {name : String} {scope config : Option String} {json verbose : Bool}
    {items : List Item} (h : Interleaves name scope config json verbose items)
    (hname : Undashed name) (hscope : ∀ s, scope = some s → Undashed s)
    (hconfig : ∀ path, config = some path → Undashed path) :
    (¬ Parted items →
      request (items.flatMap Item.words)
        = .ok (.lookup ⟨name, scope.getD "/", config, json, verbose⟩) ∧
      ∀ read fs src, run read fs src (items.flatMap Item.words)
        = runLookup read fs src ⟨name, scope.getD "/", config, json, verbose⟩) ∧
    (Parted items → ∃ s, scope = some s ∧
      request (items.flatMap Item.words) = .error (.leftOver [s]) ∧
      ∀ read fs src, run read fs src (items.flatMap Item.words)
        = .ok { ending := .status 2, output := "", errors := complaint (.leftOver [s]) }) := by
  have hrequest := h.request_eq hname hscope hconfig
  refine ⟨fun hparted => ?_, fun hparted => ?_⟩
  · have hlookup : request (items.flatMap Item.words)
        = .ok (.lookup ⟨name, scope.getD "/", config, json, verbose⟩) := by
      rw [hrequest, h.take_of_not_parted hname hscope hconfig hparted, h.switched]
      rfl
    exact ⟨hlookup, fun read fs src => by rw [run, hlookup]⟩
  · obtain ⟨s, hs, htaken⟩ := h.take_of_parted hname hconfig hparted
    rw [← hrequest] at htaken
    exact ⟨s, hs, htaken, fun read fs src => by rw [run, htaken]⟩

/-- The report is asked for in front of the name, and the file is named at the end. -/
theorem request_placed_around :
    Interleaves "talker" (some "/robot") (some "c.yml") true false
      [.json, .text "talker", .text "/robot", .config "c.yml"] ∧
    ¬ Parted [.json, .text "talker", .text "/robot", .config "c.yml"] ∧
    request ["--json", "talker", "/robot", "--config", "c.yml"]
      = .ok (.lookup ⟨"talker", "/robot", some "c.yml", true, false⟩) := by
  have h : Interleaves "talker" (some "/robot") (some "c.yml") true false
      [.json, .text "talker", .text "/robot", .config "c.yml"] :=
    ⟨by decide, by decide, by decide, by decide⟩
  have hparted : ¬ Parted [.json, .text "talker", .text "/robot", .config "c.yml"] := by
    rintro ⟨front, s, switch, middle, t, back, hswitch, heq⟩
    have hlength := congrArg List.length heq
    simp only [List.length_append, List.length_cons] at hlength
    rcases front with _ | ⟨_, _ | ⟨_, front⟩⟩
    · cases heq
    · simp only [List.cons_append, List.nil_append, List.cons.injEq] at heq
      obtain ⟨-, -, rfl, -⟩ := heq
      cases hswitch
    · simp only [List.length_cons, List.length_nil] at hlength
      omega
  exact ⟨h, hparted, ((request_placed h (by decide) (by decide) (by decide)).1 hparted).1⟩

/-- The same items, but the report is asked for between the two texts: the namespace is refused, while it
is taken if the switch stands behind it. -/
theorem request_misplaced :
    request ["talker", "--json", "/robot"] = .error (.leftOver ["/robot"]) ∧
    request ["talker", "/robot", "--json"]
      = .ok (.lookup ⟨"talker", "/robot", none, true, false⟩) ∧
    ∀ read fs src, run read fs src ["talker", "--json", "/robot"]
      = .ok { ending := .status 2, output := "", errors := complaint (.leftOver ["/robot"]) } :=
  ⟨by decide, by decide, fun _ _ _ => rfl⟩

end Command
end Keystore
