/-
# Match policies

When a directory name identifies a node: by being the node's name, or by being a non-empty
beginning of it, so that one directory can serve a family of nodes.
-/
import Keystore.Event

namespace Keystore

/-- How the name of a directory is compared with the name of a node. -/
inductive MatchPolicy where
  /-- The directory carries the name of the node. -/
  | whole
  /-- The directory carries a non-empty beginning of the node's name. -/
  | beginning
deriving DecidableEq, Repr

namespace MatchPolicy

/-- The word for a policy in settings and messages. -/
def text : MatchPolicy → String
  | whole => "MATCH_EXACT"
  | beginning => "MATCH_PREFIX"

/-- The policy that a word stands for. -/
def ofText? (word : String) : Option MatchPolicy :=
  if word = text whole then some whole
  else if word = text beginning then some beginning
  else none

theorem ofText?_text (p : MatchPolicy) : ofText? p.text = some p := by
  cases p <;> decide

/-- Whether the directory `candidate` identifies the node `name`; letters match in their case
only. -/
def accepts (p : MatchPolicy) (candidate name : String) : Bool :=
  match p with
  | whole => candidate = name
  | beginning => candidate ≠ "" && candidate.toList.isPrefixOf name.toList

/-- The policy that a setting asks for.  An unset or empty setting asks for whole names; so
does a word that names no policy, which is reported. -/
def ofSetting (raw : Option String) : Logged MatchPolicy :=
  match raw with
  | none => .silent whole
  | some word =>
    if word = "" then .silent whole
    else match ofText? word with
      | some p => .silent p
      | none => ⟨[.unrecognizedPolicy word], whole⟩

example : accepts beginning "talker" "talker_42" = true := by decide
example : accepts beginning "" "talker" = false := by decide

end MatchPolicy
end Keystore
