import Walkthrough.Report.Document
import Walkthrough.Report.Flowchart
import Walkthrough.Report.Timeline

/-! # Output formats

The three forms in which reports are written, and their names. -/

namespace Walkthrough

/-- The forms in which reports are written. -/
inductive Format where
  | json
  | text
  | dot
deriving DecidableEq, Repr

namespace Format

/-- The name of a form. -/
def name : Format → String
  | json => "json"
  | text => "text"
  | dot => "dot"

/-- The form that a name stands for; names are told apart by case. -/
def ofName? : String → Option Format
  | "json" => some json
  | "text" => some text
  | "dot" => some dot
  | _ => none

/-- The text of a list of reports. -/
def render : Format → List Report → String
  | json => Report.renderJson
  | text => Report.renderTimeline
  | dot => Report.renderFlowchart

theorem ofName?_eq_some_iff {s : String} {f : Format} : ofName? s = some f ↔ s = f.name := by
  constructor
  · intro h
    unfold ofName? at h
    split at h <;> simp_all [name]
    all_goals subst h; rfl
  · rintro rfl
    cases f <;> rfl

end Format

end Walkthrough
