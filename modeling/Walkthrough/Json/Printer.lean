import Walkthrough.Decimal.Shortest
import Walkthrough.Json.Value

/-! # JSON text

The two written forms of a JSON value, as lists of characters.

* `compact` has no blanks at all;
* `pretty` puts every item and every field on a line of its own, two spaces deeper than what holds
  it, and a space after the colon; an empty array or object stays in one piece;
* `quote` writes a string: the quote, the backslash and the control characters below U+0020 are
  escaped, everything else stands for itself. -/

namespace Walkthrough.Json

/-- One hexadecimal digit. -/
def hexDigit (n : Nat) : Char := (Nat.toDigits 16 n).head?.getD '0'

/-- A character inside a string. -/
def escapeChar (c : Char) : List Char :=
  if c = '"' then ['\\', '"']
  else if c = '\\' then ['\\', '\\']
  else if c = '\x08' then ['\\', 'b']
  else if c = '\x0c' then ['\\', 'f']
  else if c = '\n' then ['\\', 'n']
  else if c = '\r' then ['\\', 'r']
  else if c = '\t' then ['\\', 't']
  else if c.toNat < 0x20 then
    ['\\', 'u', '0', '0', hexDigit (c.toNat / 16), hexDigit (c.toNat % 16)]
  else [c]

/-- A string in quotes. -/
def quote (s : String) : List Char := '"' :: s.toList.flatMap escapeChar ++ ['"']

/-- The text of a value that holds no others. -/
def scalar : Json → List Char
  | null => ['n', 'u', 'l', 'l']
  | bool true => ['t', 'r', 'u', 'e']
  | bool false => ['f', 'a', 'l', 's', 'e']
  | int n => (toString n).toList
  | real x => Decimal.text x
  | str s => quote s
  | arr _ => ['[', ']']
  | obj _ => ['\x7b', '\x7d']

mutual

/-- The form without blanks. -/
def compactChars : Json → List Char
  | arr items => '[' :: compactItems items ++ [']']
  | obj fields => '\x7b' :: compactFields fields ++ ['\x7d']
  | null => scalar null
  | bool b => scalar (bool b)
  | int n => scalar (int n)
  | real x => scalar (real x)
  | str s => scalar (str s)

/-- The items of an array, with commas between them. -/
def compactItems : List Json → List Char
  | [] => []
  | [x] => x.compactChars
  | x :: y :: xs => x.compactChars ++ ',' :: compactItems (y :: xs)

/-- The fields of an object, with commas between them. -/
def compactFields : List (String × Json) → List Char
  | [] => []
  | [(k, v)] => quote k ++ ':' :: v.compactChars
  | (k, v) :: f :: fs => quote k ++ ':' :: v.compactChars ++ ',' :: compactFields (f :: fs)

end

/-- The beginning of a line that is indented. -/
def newline (indent : Nat) : List Char := '\n' :: List.replicate indent ' '

mutual

/-- The form on several lines, for a value on a line with the given indentation. -/
def prettyChars (indent : Nat) : Json → List Char
  | arr [] => ['[', ']']
  | arr (x :: xs) =>
    '[' :: newline (indent + 2) ++ x.prettyChars (indent + 2) ++ prettyItems (indent + 2) xs ++
      newline indent ++ [']']
  | obj [] => ['\x7b', '\x7d']
  | obj ((k, v) :: fs) =>
    '\x7b' :: newline (indent + 2) ++ quote k ++ ':' :: ' ' :: v.prettyChars (indent + 2) ++
      prettyFields (indent + 2) fs ++ newline indent ++ ['\x7d']
  | null => scalar null
  | bool b => scalar (bool b)
  | int n => scalar (int n)
  | real x => scalar (real x)
  | str s => scalar (str s)

/-- The items of an array after the first. -/
def prettyItems (indent : Nat) : List Json → List Char
  | [] => []
  | x :: xs => ',' :: newline indent ++ x.prettyChars indent ++ prettyItems indent xs

/-- The fields of an object after the first. -/
def prettyFields (indent : Nat) : List (String × Json) → List Char
  | [] => []
  | (k, v) :: fs =>
    ',' :: newline indent ++ quote k ++ ':' :: ' ' :: v.prettyChars indent ++
      prettyFields indent fs

end

/-- The text of a value without blanks. -/
def compact (j : Json) : String := String.ofList j.compactChars

/-- The text of a value on several lines. -/
def pretty (j : Json) : String := String.ofList (j.prettyChars 0)

end Walkthrough.Json
