/-! # TOML strings

The four kinds of strings: in quotes with escapes or in apostrophes without, on one line or, with
three delimiters at each end, on several.

* `basic`, `literal`, `multiBasic` and `multiLiteral` read what follows the opening delimiter, and
  give the content and what follows the closing one;
* a newline in the source is one newline in the string, however it is written;
* a backslash at the end of a line takes all blanks and newlines up to the next character with it;
* one or two delimiters may stand right before the three that close. -/

namespace Walkthrough.Toml

/-- Blanks within a line. -/
def isSpace (c : Char) : Bool := c == ' ' || c == '\t'

/-- Characters that may stand in a comment: anything but control characters, and the tab. -/
def isPrintable (c : Char) : Bool :=
  c == '\t' || (decide (0x20 ≤ c.toNat) && c != '\x7f')

/-- Characters that stand for themselves in quotes. -/
def isBasicChar (c : Char) : Bool := isPrintable c && c != '"' && c != '\\'

/-- Characters that may stand in apostrophes. -/
def isLiteralChar (c : Char) : Bool := isPrintable c && c != '\''

/-- The value of a hexadecimal digit. -/
def hexDigit? (c : Char) : Option Nat :=
  if '0' ≤ c ∧ c ≤ '9' then some (c.toNat - '0'.toNat)
  else if 'a' ≤ c ∧ c ≤ 'f' then some (c.toNat - 'a'.toNat + 10)
  else if 'A' ≤ c ∧ c ≤ 'F' then some (c.toNat - 'A'.toNat + 10)
  else none

/-- The character with the code that is written in hexadecimal digits; surrogates are none. -/
def coded? (digits : List Char) : Option Char := do
  let n ← digits.foldlM (fun n c => (hexDigit? c).map (16 * n + ·)) 0
  if n < 0xD800 ∨ (0xDFFF < n ∧ n < 0x110000) then some (Char.ofNat n) else none

/-- The character that a one-letter escape stands for. -/
def escaped? : Char → Option Char
  | 'b' => some '\x08'
  | 'f' => some '\x0c'
  | 'n' => some '\n'
  | 'r' => some '\r'
  | 't' => some '\t'
  | '"' => some '"'
  | '\\' => some '\\'
  | _ => none

/-- Puts a character in front of what is read next. -/
def andThen (c : Char) (next : Option (List Char × List Char)) :
    Option (List Char × List Char) :=
  next.map fun r => (c :: r.1, r.2)

/-- A string in quotes. -/
def basic : List Char → Option (List Char × List Char)
  | [] => none
  | '"' :: rest => some ([], rest)
  | '\\' :: 'u' :: a :: b :: c :: d :: rest =>
    (coded? [a, b, c, d]).bind fun u => andThen u (basic rest)
  | '\\' :: 'U' :: a :: b :: c :: d :: e :: f :: g :: h :: rest =>
    (coded? [a, b, c, d, e, f, g, h]).bind fun u => andThen u (basic rest)
  | '\\' :: c :: rest => (escaped? c).bind fun e => andThen e (basic rest)
  | c :: rest => if isBasicChar c then andThen c (basic rest) else none

/-- A string in apostrophes. -/
def literal : List Char → Option (List Char × List Char)
  | [] => none
  | '\'' :: rest => some ([], rest)
  | c :: rest => if isLiteralChar c then andThen c (literal rest) else none

/-- Does the line end here, but for blanks? -/
def endsLine (cs : List Char) : Bool :=
  match cs.dropWhile isSpace with
  | '\n' :: _ => true
  | '\r' :: '\n' :: _ => true
  | _ => false

/-- A string in quotes on several lines; `trimming` is on after a backslash at the end of a
line. -/
def multiBasicBody (trimming : Bool) : List Char → Option (List Char × List Char)
  | [] => none
  | '"' :: '"' :: '"' :: '"' :: '"' :: rest => some (['"', '"'], rest)
  | '"' :: '"' :: '"' :: '"' :: rest => some (['"'], rest)
  | '"' :: '"' :: '"' :: rest => some ([], rest)
  | '"' :: rest => andThen '"' (multiBasicBody false rest)
  | '\\' :: 'u' :: a :: b :: c :: d :: rest =>
    (coded? [a, b, c, d]).bind fun u => andThen u (multiBasicBody false rest)
  | '\\' :: 'U' :: a :: b :: c :: d :: e :: f :: g :: h :: rest =>
    (coded? [a, b, c, d, e, f, g, h]).bind fun u => andThen u (multiBasicBody false rest)
  | '\\' :: c :: rest =>
    match escaped? c with
    | some e => andThen e (multiBasicBody false rest)
    | none => if endsLine (c :: rest) then multiBasicBody true (c :: rest) else none
  | '\r' :: '\n' :: rest =>
    if trimming then multiBasicBody true rest else andThen '\n' (multiBasicBody false rest)
  | '\n' :: rest =>
    if trimming then multiBasicBody true rest else andThen '\n' (multiBasicBody false rest)
  | c :: rest =>
    if trimming && isSpace c then multiBasicBody true rest
    else if isBasicChar c then andThen c (multiBasicBody false rest)
    else none

/-- A string in apostrophes on several lines. -/
def multiLiteralBody : List Char → Option (List Char × List Char)
  | [] => none
  | '\'' :: '\'' :: '\'' :: '\'' :: '\'' :: rest => some (['\'', '\''], rest)
  | '\'' :: '\'' :: '\'' :: '\'' :: rest => some (['\''], rest)
  | '\'' :: '\'' :: '\'' :: rest => some ([], rest)
  | '\'' :: rest => andThen '\'' (multiLiteralBody rest)
  | '\r' :: '\n' :: rest => andThen '\n' (multiLiteralBody rest)
  | '\n' :: rest => andThen '\n' (multiLiteralBody rest)
  | c :: rest => if isLiteralChar c then andThen c (multiLiteralBody rest) else none

/-- A newline right after the opening delimiter does not count. -/
def dropNewline : List Char → List Char
  | '\n' :: rest => rest
  | '\r' :: '\n' :: rest => rest
  | cs => cs

/-- What follows the three quotes that open a string. -/
def multiBasic (cs : List Char) : Option (List Char × List Char) :=
  multiBasicBody false (dropNewline cs)

/-- What follows the three apostrophes that open a string. -/
def multiLiteral (cs : List Char) : Option (List Char × List Char) :=
  multiLiteralBody (dropNewline cs)

end Walkthrough.Toml
