import Walkthrough.Toml.Scalar

/-! # Reading TOML

A document is read line by line: a key with its value, a header that begins a table, a comment, or
nothing.

* `keyAt` reads a dotted key, `valueAt` a value, `lineEnd?` what may follow them on the line;
* `Section` is the table that lines are being read into; `Section.close?` puts it into the
  document;
* `document?` reads a whole text into the fields of its root table. -/

namespace Walkthrough.Toml

/-! ### Blanks and ends of lines -/

/-- The text without its leading blanks. -/
def dropSpaces (cs : List Char) : List Char := cs.dropWhile isSpace

/-- Gets past the end of a line, which may be the end of the text. -/
def lineBreak? : List Char → Option (List Char)
  | [] => some []
  | '\n' :: rest => some rest
  | '\r' :: '\n' :: rest => some rest
  | _ => none

/-- Gets past blanks, a comment and the end of the line. -/
def lineEnd? (cs : List Char) : Option (List Char) :=
  match dropSpaces cs with
  | '#' :: rest => lineBreak? (rest.dropWhile isPrintable)
  | rest => lineBreak? rest

/-- The text without blanks, newlines and comments in front. -/
def dropFiller (inComment : Bool) : List Char → List Char
  | [] => []
  | '\n' :: rest => dropFiller false rest
  | '\r' :: '\n' :: rest => dropFiller false rest
  | c :: rest =>
    if inComment then if isPrintable c then dropFiller true rest else c :: rest
    else if isSpace c then dropFiller false rest
    else if c = '#' then dropFiller true rest
    else c :: rest

/-! ### Keys -/

/-- The number of parts that a dotted key may not reach, and of levels that values may not. -/
def nestingLimit : Nat := 80

/-- Characters of a key without quotes. -/
def isBareChar (c : Char) : Bool := c.isAlphanum || c == '-' || c == '_'

/-- One part of a key. -/
def keyPartAt : List Char → Option (String × List Char)
  | '"' :: rest => (basic rest).map fun r => (String.ofList r.1, r.2)
  | '\'' :: rest => (literal rest).map fun r => (String.ofList r.1, r.2)
  | cs =>
    match cs.takeWhile isBareChar with
    | [] => none
    | part => some (String.ofList part, cs.dropWhile isBareChar)

/-- The parts of a dotted key, with blanks around each. -/
def keyPartsAt : Nat → List Char → Option (List String × List Char)
  | 0, _ => none
  | fuel + 1, cs => do
    let (part, rest) ← keyPartAt (dropSpaces cs)
    match dropSpaces rest with
    | '.' :: rest =>
      let (parts, rest) ← keyPartsAt fuel rest
      return (part :: parts, rest)
    | rest => return ([part], rest)

/-- A dotted key: the path before its last part, the last part, and what follows. -/
def keyAt (cs : List Char) : Option ((List String × String) × List Char) := do
  let (parts, rest) ← keyPartsAt (nestingLimit - 1) cs
  let key ← parts.getLast?
  return ((parts.dropLast, key), rest)

/-! ### Values -/

/-- Reads a string. -/
def stringAt : List Char → Option (Value × List Char)
  | '"' :: '"' :: '"' :: rest => (multiBasic rest).map fun r => (.str (String.ofList r.1), r.2)
  | '"' :: rest => (basic rest).map fun r => (.str (String.ofList r.1), r.2)
  | '\'' :: '\'' :: '\'' :: rest =>
    (multiLiteral rest).map fun r => (.str (String.ofList r.1), r.2)
  | '\'' :: rest => (literal rest).map fun r => (.str (String.ofList r.1), r.2)
  | _ => none

/-- Reads a value that holds no others. -/
def scalarAt (cs : List Char) : Option (Value × List Char) :=
  match cs with
  | 't' :: 'r' :: 'u' :: 'e' :: rest => some (.bool true, rest)
  | 'f' :: 'a' :: 'l' :: 's' :: 'e' :: rest => some (.bool false, rest)
  | c :: _ => if c = '"' ∨ c = '\'' then stringAt cs else dateOrNumber? cs
  | [] => none

mutual

/-- Reads a value; `depth` levels may still be opened. -/
def valueAt : Nat → Nat → List Char → Option (Value × List Char)
  | 0, _, _ => none
  | fuel + 1, depth, cs =>
    match cs, depth with
    | '[' :: _, 0 => none
    | '\x7b' :: _, 0 => none
    | '[' :: rest, depth + 1 => (itemsAt fuel depth rest).map fun r => (.array r.1, r.2)
    | '\x7b' :: rest, depth + 1 =>
      match dropSpaces rest with
      | '\x7d' :: rest => some (.inline [], rest)
      | rest => (fieldsAt fuel depth [] rest).map fun r => (.inline r.1, r.2)
    | cs, _ => scalarAt cs

/-- Reads the items of an array up to its closing bracket. -/
def itemsAt : Nat → Nat → List Char → Option (List Value × List Char)
  | 0, _, _ => none
  | fuel + 1, depth, cs =>
    match dropFiller false cs with
    | ']' :: rest => some ([], rest)
    | cs =>
      match valueAt fuel depth cs with
      | none => none
      | some (v, rest) =>
        match dropFiller false rest with
        | ',' :: rest => (itemsAt fuel depth rest).map fun r => (v :: r.1, r.2)
        | ']' :: rest => some ([v], rest)
        | _ => none

/-- Reads the fields of a table in braces up to its closing brace. -/
def fieldsAt : Nat → Nat → Fields → List Char → Option (Fields × List Char)
  | 0, _, _, _ => none
  | fuel + 1, depth, fields, cs =>
    match keyAt cs with
    | some ((path, key), '=' :: rest) =>
      match valueAt fuel depth (dropSpaces rest) with
      | none => none
      | some (v, rest) =>
        match Fields.assign? path key v fields, dropSpaces rest with
        | some fields, ',' :: rest => fieldsAt fuel depth fields rest
        | some fields, '\x7d' :: rest => some (fields, rest)
        | _, _ => none
    | _ => none

end

/-! ### Documents -/

/-- Where the lines that are being read belong. -/
inductive Header where
  | root
  | table (path : List String) (key : String)
  | array (path : List String) (key : String)
deriving DecidableEq, Repr

/-- The table that lines are being read into. -/
structure Section where
  header : Header
  fields : Fields

/-- Puts the table of a section into the document. -/
def Section.close? (s : Section) (document : Fields) : Option Fields :=
  match s.header with
  | .root => some s.fields
  | .table path key => Fields.descend? (Fields.closeTable? key s.fields) path document
  | .array path key => Fields.descend? (Fields.closeArray? key s.fields) path document

/-- The document and the section that a header begins. -/
def Header.open? (h : Header) (document : Fields) : Option (Fields × Section) :=
  match h with
  | .root => some (document, ⟨h, document⟩)
  | .table path key =>
    (Fields.descend? (Fields.openTable? key) path document).map fun d =>
      (d, ⟨h, Fields.continued path key document⟩)
  | .array path key =>
    (Fields.descend? (Fields.openArray? key) path document).map fun d => (d, ⟨h, []⟩)

/-- Reads a header with the rest of its line, after its first bracket. -/
def headerAt : List Char → Option (Header × List Char)
  | '[' :: cs =>
    match keyAt cs with
    | some ((path, key), ']' :: ']' :: rest) => (lineEnd? rest).map fun r => (.array path key, r)
    | _ => none
  | cs =>
    match keyAt cs with
    | some ((path, key), ']' :: rest) => (lineEnd? rest).map fun r => (.table path key, r)
    | _ => none

/-- Reads a key with its value and the rest of the line into a section. -/
def keyValueAt (s : Section) (cs : List Char) : Option (Section × List Char) :=
  match keyAt cs with
  | some ((path, key), '=' :: rest) => do
    let (v, rest) ← valueAt (2 * rest.length + 2) (nestingLimit - 1) (dropSpaces rest)
    let rest ← lineEnd? rest
    let fields ← Fields.assign? path key v s.fields
    return (⟨s.header, fields⟩, rest)
  | _ => none

/-- Reads the lines of a document. -/
def linesAt : Nat → Fields → Section → List Char → Option Fields
  | 0, _, _, _ => none
  | fuel + 1, document, s, cs =>
    match dropSpaces cs with
    | [] => s.close? document
    | '[' :: rest => do
      let (header, rest) ← headerAt rest
      let document ← s.close? document
      let (document, s) ← header.open? document
      linesAt fuel document s rest
    | c :: rest =>
      if c = '#' ∨ c = '\n' ∨ c = '\r' then do
        let rest ← lineEnd? (c :: rest)
        linesAt fuel document s rest
      else do
        let (s, rest) ← keyValueAt s (c :: rest)
        linesAt fuel document s rest

/-- A mark of the byte order at the beginning does not count. -/
def dropMark : List Char → List Char
  | '\uFEFF' :: rest => rest
  | cs => cs

/-- Reads a document into the fields of its root table. -/
def document? (text : String) : Option Fields :=
  linesAt (text.length + 1) [] ⟨.root, []⟩ (dropMark text.toList)

end Walkthrough.Toml
