import Walkthrough.Analysis
import Walkthrough.Json.Printer
import Walkthrough.Trace.Json

/-! # Reports as a JSON document

A single file that has a trace is written as the bare trace; otherwise a single report is written
as one object, and any other number of reports as an array of them. -/

namespace Walkthrough.Report

/-- A report as an object. -/
def toJson (r : Report) : Json :=
  .obj [("file", .str r.file), ("trace", (r.trace.map Trace.toJson).getD .null),
    ("error", .optStr r.error)]

/-- The document of a list of reports. -/
def document : List Report → Json
  | [r] =>
    match r.trace with
    | some trace => trace.toJson
    | none => r.toJson
  | rs => .arr (rs.map toJson)

/-- The reports as JSON text. -/
def renderJson (rs : List Report) : String := (document rs).pretty

end Walkthrough.Report
