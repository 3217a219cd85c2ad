import Walkthrough.Analysis

/-! # Reports as flowcharts

The steps of every file as a chart in the DOT language of graph descriptions: a cluster for each
file that has a trace, in it a node for each step, and an edge from every step to the next.

* `escapeLabel` makes a text fit to stand in quotes;
* `nodeId` names the nodes by the positions of the file and of the step;
* `chartLines` are the lines of the description, and newlines stand between them. -/

namespace Walkthrough.Report

/-- Replaces every occurrence of a character. -/
def replaceChar (c : Char) (replacement cs : List Char) : List Char :=
  cs.flatMap fun d => if d = c then replacement else [d]

/-- Escapes the backslash, then the quote, then the newline. -/
def escapeLabelChars (cs : List Char) : List Char :=
  replaceChar '\n' ['\\', 'n'] (replaceChar '"' ['\\', '"'] (replaceChar '\\' ['\\', '\\'] cs))

/-- A text fit to stand in quotes. -/
def escapeLabel (s : String) : String := String.ofList (escapeLabelChars s.toList)

/-- A text in quotes. -/
def quoted (s : String) : String := "\"" ++ escapeLabel s ++ "\""

/-- The looks of a node. -/
structure NodeStyle where
  shape : String
  style : String
  fill : String
  border : String
deriving DecidableEq, Repr

/-- The looks of a step. -/
def nodeStyle : Step → NodeStyle
  | .declare .. => ⟨"box", "filled,rounded", "#a6e3a1", "#40a02b"⟩
  | .assign .. => ⟨"box", "filled", "#89b4fa", "#1e66f5"⟩
  | .memberAssign .. => ⟨"box", "filled", "#94e2d5", "#179299"⟩
  | .conditionCheck .. => ⟨"diamond", "filled", "#f9e2af", "#df8e1d"⟩
  | .loopStart .. => ⟨"hexagon", "filled", "#cba6f7", "#8839ef"⟩
  | .call .. => ⟨"box", "filled", "#89dceb", "#04a5e5"⟩
  | .return .. => ⟨"box", "filled,rounded", "#f38ba8", "#d20f39"⟩
  | .allocate .. => ⟨"box3d", "filled", "#fab387", "#fe640b"⟩

/-- The name of a node: the positions of its file and of its step. -/
def nodeId (file step : Nat) : String := "f" ++ toString file ++ "s" ++ toString step

/-- The label of a step. -/
def stepLabel (step : Step) : String := "L" ++ toString step.line ++ ": " ++ step.describe

/-- The line of a node. -/
def nodeLine (file : Nat) (position : Nat) (step : Step) : String :=
  let look := nodeStyle step
  "        \"" ++ nodeId file position ++ "\" [label=" ++ quoted (stepLabel step) ++ ", shape=" ++
    look.shape ++ ", style=\"" ++ look.style ++ "\", fillcolor=\"" ++ look.fill ++
    "\", color=\"" ++ look.border ++ "\"];"

/-- The lines of the nodes, where the first has the given position. -/
def nodeLines (file : Nat) (position : Nat) : List Step → List String
  | [] => []
  | step :: steps => nodeLine file position step :: nodeLines file (position + 1) steps

/-- The line of the edge that leads to the step at a position. -/
def edgeLine (file : Nat) (position : Nat) : String :=
  "        \"" ++ nodeId file (position - 1) ++ "\" -> \"" ++ nodeId file position ++
    "\" [label=\"" ++ toString position ++ "\"];"

/-- The lines of the edges between a number of steps. -/
def edgeLines (file count : Nat) : List String :=
  (List.range (count - 1)).map fun i => edgeLine file (i + 1)

/-- The lines of one file; a file without a trace has none. -/
def clusterLines (file : Nat) (r : Report) : List String :=
  match r.trace with
  | none => []
  | some trace =>
    ["", "    subgraph cluster_" ++ toString file ++ " \x7b",
      "        label=" ++ quoted r.file ++ ";"] ++
      nodeLines file 0 trace.steps ++ edgeLines file trace.steps.length ++ ["    \x7d"]

/-- The lines of a list of files, where the first has the given position. -/
def clustersLines (file : Nat) : List Report → List String
  | [] => []
  | r :: rs => clusterLines file r ++ clustersLines (file + 1) rs

/-- The lines that every chart begins with. -/
def headerLines : List String :=
  ["digraph FlowChart \x7b", "    rankdir=TB;", "    nodesep=0.8;", "    ranksep=0.6;",
    "    node [fontname=\"Helvetica\", fontsize=12];",
    "    edge [fontname=\"Helvetica\", fontsize=10];"]

/-- All lines of a chart. -/
def chartLines (rs : List Report) : List String := headerLines ++ clustersLines 0 rs ++ ["\x7d"]

/-- The reports as a chart, with newlines between the lines. -/
def renderFlowchart (rs : List Report) : String := String.intercalate "\n" (chartLines rs)

end Walkthrough.Report
