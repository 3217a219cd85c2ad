import Walkthrough.Json.Number

/-! # Reading JSON

A reader takes a value off the beginning of a text and gives what follows.

* `stringAt` reads a string after its opening quote, `valueAt` any value;
* the depth is the number of arrays and objects that may still be opened;
* a skipped value (`Care.skip`) is held to its form only: numbers of any size, and escapes of one
  half of a surrogate pair, pass;
* `Json.read?` reads a text that is one value. -/

namespace Walkthrough.Json

/-- How a value is read: for its content, or only to get past it. -/
inductive Care where
  | keep
  | skip
deriving DecidableEq, Repr

/-- The blanks between the tokens. -/
def isBlank (c : Char) : Bool := c == ' ' || c == '\n' || c == '\t' || c == '\r'

/-- The text without its leading blanks. -/
def dropBlanks (cs : List Char) : List Char := cs.dropWhile isBlank

/-! ### Strings -/

/-- A part of a string: a character, or an escaped unit of 16 bits. -/
inductive StringPart where
  | char (c : Char)
  | codeUnit (n : Nat)
deriving DecidableEq, Repr

/-- The characters up to the closing quote, and what follows it. -/
def rawString : List Char → Option (List Char × List Char)
  | [] => none
  | '"' :: rest => some ([], rest)
  | ['\\'] => none
  | '\\' :: c :: rest => (rawString rest).map fun r => ('\\' :: c :: r.1, r.2)
  | c :: rest =>
    if c.toNat < 0x20 then none else (rawString rest).map fun r => (c :: r.1, r.2)

/-- The value of a hexadecimal digit. -/
def hexValue? (c : Char) : Option Nat :=
  if '0' ≤ c ∧ c ≤ '9' then some (c.toNat - '0'.toNat)
  else if 'a' ≤ c ∧ c ≤ 'f' then some (c.toNat - 'a'.toNat + 10)
  else if 'A' ≤ c ∧ c ≤ 'F' then some (c.toNat - 'A'.toNat + 10)
  else none

/-- The character that a one-letter escape stands for. -/
def escaped? : Char → Option Char
  | '"' => some '"'
  | '\\' => some '\\'
  | '/' => some '/'
  | 'b' => some '\x08'
  | 'f' => some '\x0c'
  | 'n' => some '\n'
  | 'r' => some '\r'
  | 't' => some '\t'
  | _ => none

/-- The parts of a string between its quotes. -/
def stringParts : List Char → Option (List StringPart)
  | [] => some []
  | '\\' :: 'u' :: a :: b :: c :: d :: rest => do
    let a ← hexValue? a
    let b ← hexValue? b
    let c ← hexValue? c
    let d ← hexValue? d
    let parts ← stringParts rest
    return .codeUnit (((a * 16 + b) * 16 + c) * 16 + d) :: parts
  | '\\' :: c :: rest => do
    let e ← escaped? c
    let parts ← stringParts rest
    return .char e :: parts
  | '\\' :: [] => none
  | c :: rest => (stringParts rest).map (.char c :: ·)

/-- Is the unit the first half of a surrogate pair? -/
def isHigh (n : Nat) : Bool := decide (0xD800 ≤ n) && decide (n ≤ 0xDBFF)

/-- Is the unit the second half of a surrogate pair? -/
def isLow (n : Nat) : Bool := decide (0xDC00 ≤ n) && decide (n ≤ 0xDFFF)

/-- The characters of the parts: a surrogate pair is one character, and a half is none. -/
def joinParts : List StringPart → Option (List Char)
  | [] => some []
  | .char c :: rest => (joinParts rest).map (c :: ·)
  | .codeUnit hi :: .codeUnit lo :: rest =>
    if isHigh hi then
      if isLow lo then
        (joinParts rest).map (Char.ofNat (0x10000 + (hi - 0xD800) * 0x400 + (lo - 0xDC00)) :: ·)
      else none
    else if isLow hi then none
    else (joinParts (.codeUnit lo :: rest)).map (Char.ofNat hi :: ·)
  | .codeUnit n :: rest =>
    if isHigh n || isLow n then none else (joinParts rest).map (Char.ofNat n :: ·)

/-- The content of a string with the given parts; a skipped one has none. -/
def content? (care : Care) (parts : List StringPart) : Option String :=
  match care with
  | .keep => (joinParts parts).map String.ofList
  | .skip => some ""

/-- Reads a string after its opening quote. -/
def stringAt (care : Care) (cs : List Char) : Option (String × List Char) := do
  let (raw, rest) ← rawString cs
  let parts ← stringParts raw
  let s ← content? care parts
  return (s, rest)

/-! ### Values -/

/-- Reads a number. -/
def numberAt (care : Care) (cs : List Char) : Option (Json × List Char) := do
  let (n, rest) ← NumberText.read cs
  match care with
  | .keep => return (← n.value?, rest)
  | .skip => return (.null, rest)

/-- Reads the key of a field and the colon after it. -/
def keyAt (care : Care) (cs : List Char) : Option (String × List Char) := do
  match dropBlanks cs with
  | '"' :: rest =>
    let (key, rest) ← stringAt care rest
    match dropBlanks rest with
    | ':' :: rest => some (key, rest)
    | _ => none
  | _ => none

mutual

/-- Reads a value. -/
def valueAt (care : Care) : Nat → Nat → List Char → Option (Json × List Char)
  | 0, _, _ => none
  | fuel + 1, depth, cs =>
    match dropBlanks cs with
    | 'n' :: 'u' :: 'l' :: 'l' :: rest => some (.null, rest)
    | 't' :: 'r' :: 'u' :: 'e' :: rest => some (.bool true, rest)
    | 'f' :: 'a' :: 'l' :: 's' :: 'e' :: rest => some (.bool false, rest)
    | '"' :: rest => (stringAt care rest).map fun r => (.str r.1, r.2)
    | '[' :: rest =>
      match depth with
      | 0 => none
      | depth + 1 =>
        match dropBlanks rest with
        | ']' :: rest => some (.arr [], rest)
        | rest => (itemsAt care fuel depth rest).map fun r => (.arr r.1, r.2)
    | '\x7b' :: rest =>
      match depth with
      | 0 => none
      | depth + 1 =>
        match dropBlanks rest with
        | '\x7d' :: rest => some (.obj [], rest)
        | rest => (fieldsAt care fuel depth rest).map fun r => (.obj r.1, r.2)
    | cs => numberAt care cs

/-- Reads the items of an array up to its closing bracket. -/
def itemsAt (care : Care) : Nat → Nat → List Char → Option (List Json × List Char)
  | 0, _, _ => none
  | fuel + 1, depth, cs =>
    match valueAt care fuel depth cs with
    | none => none
    | some (x, rest) =>
      match dropBlanks rest with
      | ',' :: rest => (itemsAt care fuel depth rest).map fun r => (x :: r.1, r.2)
      | ']' :: rest => some ([x], rest)
      | _ => none

/-- Reads the fields of an object up to its closing brace. -/
def fieldsAt (care : Care) : Nat → Nat → List Char → Option (List (String × Json) × List Char)
  | 0, _, _ => none
  | fuel + 1, depth, cs =>
    match keyAt care cs with
    | none => none
    | some (key, rest) =>
      match valueAt care fuel depth rest with
      | none => none
      | some (x, rest) =>
        match dropBlanks rest with
        | ',' :: rest => (fieldsAt care fuel depth rest).map fun r => ((key, x) :: r.1, r.2)
        | '\x7d' :: rest => some ([(key, x)], rest)
        | _ => none

end

/-- Steps enough to read any value at the beginning of the text. -/
def steps (cs : List Char) : Nat := 2 * cs.length + 2

/-- Takes a value off a text. -/
def take? (depth : Nat) (cs : List Char) : Option (Json × List Char) :=
  valueAt .keep (steps cs) depth cs

/-- Gets past a value of any depth. -/
def skip? (cs : List Char) : Option (List Char) :=
  (valueAt .skip (steps cs) (steps cs) cs).map (·.2)

/-- Reads a text that is one value with blanks around it. -/
def read? (depth : Nat) (s : String) : Option Json := do
  let (x, rest) ← take? depth s.toList
  if (dropBlanks rest).isEmpty then some x else none

end Walkthrough.Json
