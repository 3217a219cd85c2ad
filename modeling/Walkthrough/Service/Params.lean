import Walkthrough.Json.Printer
import Walkthrough.Text.Shown

/-! # Parameters of an analysis

The parameters name the source text or the path of a file, or neither.  They are an object, in
which other fields do not matter, or an array of the two; a field that is `null` is absent.

* `AnalysisParams.ofJson` decodes them, with the path judged before the source in an object, and in
  their order in an array;
* `ParamsError` says what was found instead. -/

namespace Walkthrough

/-- The parameters of an analysis. -/
structure AnalysisParams where
  source : Option String := none
  path : Option String := none
deriving DecidableEq, Repr

/-- The ways in which parameters are not those of an analysis. -/
inductive ParamsError where
  /-- neither an object nor an array -/
  | notFields (found : Json)
  /-- a field that is no text -/
  | notText (found : Json)
  /-- an array that ends too early -/
  | tooShort (length : Nat)
  /-- an array with further items -/
  | tooLong (length : Nat)

/-- What a value is, in a message. -/
def Json.found : Json → String
  | .null => "null"
  | .bool b => "boolean `" ++ toString b ++ "`"
  | .int n => "integer `" ++ toString n ++ "`"
  | .real x => "floating point `" ++ String.ofList (Decimal.text x) ++ "`"
  | .str s => "string " ++ Text.shown s
  | .arr _ => "sequence"
  | .obj _ => "map"

/-- The wording of wrong parameters. -/
def ParamsError.message : ParamsError → String
  | notFields j => "invalid type: " ++ j.found ++ ", expected struct AnalyzeParams"
  | notText j => "invalid type: " ++ j.found ++ ", expected a string"
  | tooShort n =>
    "invalid length " ++ toString n ++ ", expected struct AnalyzeParams with 2 elements"
  | tooLong n => "invalid length " ++ toString n ++ ", expected fewer elements in array"

namespace AnalysisParams

/-- An optional text: a string or `null`. -/
def text : Json → Except ParamsError (Option String)
  | .null => .ok none
  | .str s => .ok (some s)
  | j => .error (.notText j)

/-- An optional text that may be left out. -/
def field (j : Json) (key : String) : Except ParamsError (Option String) :=
  match j.field? key with
  | none => .ok none
  | some v => text v

/-- The parameters in the items of an array. -/
def ofItems (items : List Json) : Except ParamsError AnalysisParams :=
  match items with
  | [] => .error (.tooShort 0)
  | [first] => do
    let _ ← text first
    .error (.tooShort 1)
  | first :: second :: rest => do
    let source ← text first
    let path ← text second
    if rest.isEmpty then .ok ⟨source, path⟩ else .error (.tooLong items.length)

/-- The parameters in a value; of several fields with one key the last counts. -/
def ofJson (j : Json) : Except ParamsError AnalysisParams :=
  match j.sorted with
  | .arr items => ofItems items
  | .obj fields => do
    let path ← field (.obj fields) "path"
    let source ← field (.obj fields) "source"
    .ok ⟨source, path⟩
  | other => .error (.notFields other)

end AnalysisParams

end Walkthrough
