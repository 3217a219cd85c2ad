/-! # Strings inside strings

Tests for what a text holds, begins with or is enclosed in, stated on lists of characters so that
they can be reasoned about.

* `holdsChar` and `holds` look anywhere in a text, `startsWith` at its beginning;
* `enclosed?` takes one pair of delimiters off, if the text has both. -/

namespace Walkthrough.Text

/-- Does the character occur in the string? -/
def holdsChar (s : String) (c : Char) : Bool := s.toList.contains c

/-- Does the first list occur in the second, as a block? -/
def occursIn (needle : List Char) : List Char → Bool
  | [] => needle.isEmpty
  | c :: cs => needle.isPrefixOf (c :: cs) || occursIn needle cs

/-- Does the string hold the other one, as a block? -/
def holds (s needle : String) : Bool := occursIn needle.toList s.toList

/-- Does the string begin with the character? -/
def startsWith (s : String) (c : Char) : Bool := s.toList.head? == some c

/-- What stands between an opening character at the beginning and a closing one at the end. -/
def enclosed? (opening closing : Char) : List Char → Option (List Char)
  | [] => none
  | c :: cs => if c = opening ∧ cs.getLast? = some closing then some cs.dropLast else none

end Walkthrough.Text
