import Walkthrough.Text.Blank
import Walkthrough.Text.Holds
import Walkthrough.Tree.Kind

/-! # Clues in the source text

A walkthrough has no types to go by.  What a declaration, an assignment or a field is like is told
from its text, and where noted from the kind of a node; these are the clues it goes by. -/

namespace Walkthrough.Clue

open Text

/-- A declaration is of a pointer if its declarator carries a star or stands right under a
pointer declarator. -/
def declaresPointer (declarator : String) (parent : Kind) : Bool :=
  holdsChar declarator '*' || parent == .pointerDeclarator

/-- An initializer in braces. -/
def isBraced (value : String) : Bool := startsWith value '\x7b'

/-- An initializer that is called like a constructor. -/
def isCall (value : String) : Bool := holdsChar value '('

/-- A left-hand side that writes through a member. -/
def targetsMember (kind : Kind) (text : String) : Bool :=
  kind == .fieldExpression || holds text "->"

/-- A field is a pointer if it has a declarator with a star. -/
def fieldIsPointer : Option String → Bool
  | some declarator => holdsChar declarator '*'
  | none => false

/-- Takes one enclosing pair of parentheses, or else of braces, off an argument list and trims
what was inside; a text without such a pair stays as it is. -/
def stripDelimiters (text : String) : String :=
  match (enclosed? '(' ')' text.toList).or (enclosed? '\x7b' '\x7d' text.toList) with
  | some inner => String.ofList (trim inner)
  | none => text

end Walkthrough.Clue
