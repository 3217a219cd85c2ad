import Walkthrough.Json.Value
import Walkthrough.Tree.Node

/-! # Syntax trees as tables

A recorded syntax tree is a table with a row for each node: the position of its parent, which
stands in an earlier row, and its label.  The children of a node are the rows that name it, from
first to last.

* `Node.ofTable?` builds the tree whose root is the first row;
* `Row.ofJson?` reads a row `[parent, tag, row, text, named, field]`, where the text is given
  itself or as a range of bytes of the source text. -/

namespace Walkthrough

/-- A row of a table: the position of the parent, unless it is the root, and the label. -/
structure Row where
  parent : Option Nat
  label : Label
deriving DecidableEq, Repr

/-- Puts the node of a row in front of the children that its parent has so far. -/
def Row.place (r : Row) (position : Nat) (waiting : Array (List Node)) : Array (List Node) :=
  match r.parent with
  | none => waiting
  | some p =>
    let children := waiting[position]?.getD []
    waiting.modify p (Node.mk r.label children :: ·)

/-- The tree that a table holds. -/
def Node.ofTable? (rows : List Row) : Option Node :=
  let waiting := rows.zipIdx.foldr (fun (r, i) w => r.place i w)
    (Array.replicate rows.length [])
  rows.head?.map fun r => .mk r.label (waiting[0]?.getD [])

/-- The text between two positions in bytes. -/
def textBetween (source : String) (start stop : Nat) : String :=
  String.Pos.Raw.extract source ⟨start⟩ ⟨stop⟩

/-- The text of a row. -/
def rowText? (source : String) : Json → Option String
  | .str s => some s
  | .arr [.int start, .int stop] => some (textBetween source start.toNat stop.toNat)
  | _ => none

/-- Reads a row of a table over a source text. -/
def Row.ofJson? (source : String) : Json → Option Row
  | .arr [.int parent, .str tag, .int row, text, .int named, field] => do
    let text ← rowText? source text
    let field := match field with
      | .str f => some f
      | _ => none
    return ⟨if parent < 0 then none else some parent.toNat,
      ⟨tag, row.toNat, text, named != 0, field⟩⟩
  | _ => none

/-- Reads a recorded tree over a source text. -/
def Node.ofJson? (source : String) : Json → Option Node
  | .arr rows => do Node.ofTable? (← rows.mapM (Row.ofJson? source))
  | _ => none

end Walkthrough
