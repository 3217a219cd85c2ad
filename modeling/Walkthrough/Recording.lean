import Walkthrough.Analysis
import Walkthrough.Tree.Table

/-! # Recorded parses

Source texts with the trees that a parser gave for them.  A list of recordings is a parser for
exactly these texts. -/

namespace Walkthrough

/-- A source text with its tree. -/
structure Recording where
  source : String
  tree : Node

namespace Recording

/-- Reads a recording: the source text and the table of its tree. -/
def ofJson? (j : Json) : Option Recording :=
  match j.field? "source", j.field? "nodes" with
  | some (.str source), some table => (Node.ofJson? source table).map (⟨source, ·⟩)
  | _, _ => none

/-- Reads a list of recordings. -/
def listOfJson? : Json → Option (List Recording)
  | .arr items => items.mapM ofJson?
  | _ => none

/-- The parser of the recorded texts; it gives no tree for any other. -/
def parser (recordings : List Recording) : Parser := fun text =>
  match recordings.find? (·.source == text) with
  | some r => .ok r.tree
  | none => .error .noTree

end Recording

end Walkthrough
