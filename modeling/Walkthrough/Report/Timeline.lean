import Walkthrough.Analysis

/-! # Reports as timelines

The plain text form: a headline for every file, then one numbered line for each step and, if the
file has calls of a function from its own body, a line that counts them.  A file without a trace
has a line with its error instead. -/

namespace Walkthrough.Report

/-- Fills a text up on the left with spaces. -/
def alignRight (width : Nat) (s : String) : String :=
  String.ofList (List.replicate (width - s.length) ' ') ++ s

/-- Fills a text up on the right with spaces. -/
def alignLeft (width : Nat) (s : String) : String :=
  s ++ String.ofList (List.replicate (width - s.length) ' ')

/-- The line of a step: its number, its source line and its summary. -/
def stepLine (number : Nat) (step : Step) : String :=
  alignRight 4 (toString number) ++ "  L" ++ alignLeft 5 (toString step.line) ++ " " ++
    step.describe

/-- The lines of a list of steps, where the first has the given number. -/
def stepLines (number : Nat) : List Step → List String
  | [] => []
  | step :: steps => stepLine number step :: stepLines (number + 1) steps

/-- The line that counts the calls of a function from its own body, if there are any. -/
def recursionLines (trace : Trace) : List String :=
  if trace.callStack.isEmpty then []
  else ["  recursive calls: " ++ toString trace.callStack.length]

/-- The lines under the headline of a file. -/
def bodyLines (r : Report) : List String :=
  match r.trace, r.error with
  | some trace, _ => stepLines 1 trace.steps ++ recursionLines trace
  | none, some error => ["  error: " ++ error]
  | none, none => []

/-- The lines of one file. -/
def timelineLines (r : Report) : List String := ("== " ++ r.file ++ " ==") :: r.bodyLines

/-- The reports as timelines, every line ended by a newline. -/
def renderTimeline (rs : List Report) : String :=
  String.join ((rs.flatMap timelineLines).map (· ++ "\n"))

end Walkthrough.Report
