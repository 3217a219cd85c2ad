import Walkthrough.Decimal.Binary64
import Walkthrough.Toml.Quoted
import Walkthrough.Toml.Value
import Walkthrough.Word

/-! # TOML numbers and dates

* `integer?` and `float?` read numbers: digits may be divided by single underscores, and a decimal
  number has no needless leading zero;
* an integer has to fit a signed 64-bit word, a written float may not round to plus infinity;
* `dateTime?` reads dates, times, and dates with times and offsets, and checks the calendar. -/

namespace Walkthrough.Toml

/-! ### Digits -/

/-- More digits, each of which may have one underscore before it. -/
def moreDigits (isDigit : Char → Bool) : List Char → Option (List Char × List Char)
  | [] => some ([], [])
  | '_' :: c :: rest => if isDigit c then andThen c (moreDigits isDigit rest) else none
  | ['_'] => none
  | c :: rest =>
    if isDigit c then andThen c (moreDigits isDigit rest) else some ([], c :: rest)

/-- A row of digits that is not empty. -/
def someDigits (isDigit : Char → Bool) : List Char → Option (List Char × List Char)
  | [] => none
  | c :: rest => if isDigit c then andThen c (moreDigits isDigit rest) else none

/-- The number that digits of a radix stand for. -/
def ofDigits (radix : Nat) (digits : List Char) : Nat :=
  digits.foldl (fun n c => radix * n + (hexDigit? c).getD 0) 0

/-- Is the character a digit of the radix? -/
def isDigitOf (radix : Nat) (c : Char) : Bool :=
  match hexDigit? c with
  | some d => decide (d < radix)
  | none => false

/-- Takes one sign off: is it a minus, and what follows. -/
def takeSign : List Char → Bool × List Char
  | '-' :: rest => (true, rest)
  | '+' :: rest => (false, rest)
  | rest => (false, rest)

/-- The digits of a decimal integer, without needless zeros in front. -/
def decimalDigits : List Char → Option (List Char × List Char)
  | '0' :: rest => some (['0'], rest)
  | cs => someDigits Char.isDigit cs

/-! ### Integers -/

/-- An integer that fits a signed 64-bit word. -/
def word? (negative : Bool) (n : Nat) : Option Value :=
  if negative then if n ≤ Word.maxSigned + 1 then some (.int (-n)) else none
  else if n ≤ Word.maxSigned then some (.int n)
  else none

/-- An integer in a radix, after its mark. -/
def radixInteger? (radix : Nat) (cs : List Char) : Option (Value × List Char) := do
  let (digits, rest) ← someDigits (isDigitOf radix) cs
  let v ← word? false (ofDigits radix digits)
  return (v, rest)

/-- Reads an integer. -/
def integer? : List Char → Option (Value × List Char)
  | '0' :: 'x' :: rest => radixInteger? 16 rest
  | '0' :: 'o' :: rest => radixInteger? 8 rest
  | '0' :: 'b' :: rest => radixInteger? 2 rest
  | cs => do
    let (negative, cs) := takeSign cs
    let (digits, rest) ← decimalDigits cs
    let v ← word? negative (ofDigits 10 digits)
    return (v, rest)

/-! ### Floats -/

/-- The exponent after its mark: the sign and the digits. -/
def exponent? : List Char → Option ((Bool × List Char) × List Char)
  | c :: rest => do
    if c = 'e' ∨ c = 'E' then
      let (negative, rest) := takeSign rest
      let (digits, rest) ← someDigits Char.isDigit rest
      return ((negative, digits), rest)
    else none
  | [] => none

/-- The fraction after its point. -/
def fraction? : List Char → Option (List Char × List Char)
  | '.' :: rest => someDigits Char.isDigit rest
  | _ => none

/-- Does `c · 10 ^ e` lie beyond the largest finite floating-point number?  The order decides, and
near the bound the rounded value. -/
def isHuge (digits : List Char) (e : Int) : Bool :=
  let c := ofDigits 10 digits
  if c = 0 then false
  else
    let order := (toString c).length + e
    if order < 300 then false
    else if 320 < order then true
    else (Decimal.Binary64.ofRatio? false (c * Nat.pow 10 e.toNat) (Nat.pow 10 (-e).toNat)).isNone

/-- Reads the words for infinity and for no number. -/
def specialFloat? (cs : List Char) : Option (Value × List Char) :=
  match (takeSign cs).2 with
  | 'i' :: 'n' :: 'f' :: rest => some (.float "inf", rest)
  | 'n' :: 'a' :: 'n' :: rest => some (.float "nan", rest)
  | _ => none

/-- The text that was read, where `rest` follows. -/
def written (cs rest : List Char) : String := String.ofList (cs.take (cs.length - rest.length))

/-- Reads a float with a fraction, an exponent or both. -/
def pointFloat? (cs : List Char) : Option (Value × List Char) := do
  let (negative, body) := takeSign cs
  let (whole, rest) ← decimalDigits body
  let (fraction, rest) :=
    match fraction? rest with
    | some (f, r) => (some f, r)
    | none => (none, rest)
  let (exponent, rest) :=
    match exponent? rest with
    | some (e, r) => (some e, r)
    | none => (none, rest)
  if fraction.isNone && exponent.isNone then none
  else
    let places := fraction.getD []
    let power : Int :=
      match exponent with
      | none => 0
      | some (true, ds) => -(ofDigits 10 ds : Int)
      | some (false, ds) => ofDigits 10 ds
    if !negative && isHuge (whole ++ places) (power - places.length) then none
    else some (.float (written cs rest), rest)

/-- Reads a float. -/
def float? (cs : List Char) : Option (Value × List Char) :=
  (pointFloat? cs).or (specialFloat? cs)

/-! ### Dates and times -/

/-- A number of exactly the given count of digits. -/
def fixed? : Nat → List Char → Option (Nat × List Char)
  | count, cs =>
    let digits := cs.take count
    if digits.length = count ∧ digits.all Char.isDigit then
      some (ofDigits 10 digits, cs.drop count)
    else none

/-- The character, and what follows it. -/
def expect? (c : Char) : List Char → Option (List Char)
  | d :: rest => if d = c then some rest else none
  | [] => none

/-- Is it a leap year? -/
def isLeap (year : Nat) : Bool :=
  (year % 4 == 0 && year % 100 != 0) || year % 400 == 0

/-- The number of days of a month. -/
def daysIn (year month : Nat) : Nat :=
  if month = 2 then if isLeap year then 29 else 28
  else if month = 4 ∨ month = 6 ∨ month = 9 ∨ month = 11 then 30
  else 31

/-- Gets past a date. -/
def date? (cs : List Char) : Option (List Char) := do
  let (year, cs) ← fixed? 4 cs
  let cs ← expect? '-' cs
  let (month, cs) ← fixed? 2 cs
  let cs ← expect? '-' cs
  let (day, cs) ← fixed? 2 cs
  if 1 ≤ month ∧ month ≤ 12 ∧ 1 ≤ day ∧ day ≤ daysIn year month then some cs else none

/-- Gets past the fraction of a second, if there is one. -/
def secondFraction : List Char → List Char
  | '.' :: c :: rest => if c.isDigit then rest.dropWhile Char.isDigit else '.' :: c :: rest
  | cs => cs

/-- Gets past a time of day. -/
def time? (cs : List Char) : Option (List Char) := do
  let (hour, cs) ← fixed? 2 cs
  let cs ← expect? ':' cs
  let (minute, cs) ← fixed? 2 cs
  let cs ← expect? ':' cs
  let (second, cs) ← fixed? 2 cs
  if hour ≤ 23 ∧ minute ≤ 59 ∧ second ≤ 60 then some (secondFraction cs) else none

/-- Gets past the hours and minutes of an offset. -/
def offsetTime? (cs : List Char) : Option (List Char) := do
  let (hour, cs) ← fixed? 2 cs
  let cs ← expect? ':' cs
  let (minute, cs) ← fixed? 2 cs
  if hour ≤ 23 ∧ minute ≤ 59 then some cs else none

/-- Gets past an offset, if there is one. -/
def offset? : List Char → Option (List Char)
  | c :: rest =>
    if c = 'Z' ∨ c = 'z' then some rest
    else if c = '+' ∨ c = '-' then offsetTime? rest
    else some (c :: rest)
  | [] => some []

/-- Gets past the time after a date, if there is one. -/
def timeAfterDate? : List Char → Option (List Char)
  | c :: rest =>
    if c = 'T' ∨ c = 't' ∨ c = ' ' then
      match time? rest with
      | some after => offset? after
      | none => some (c :: rest)
    else some (c :: rest)
  | [] => some []

/-- Reads a date, a time, or both. -/
def dateTime? (cs : List Char) : Option (Value × List Char) := do
  let rest ← ((date? cs).bind timeAfterDate?).or (time? cs)
  return (.datetime (written cs rest), rest)

/-- Reads a date or a number. -/
def dateOrNumber? (cs : List Char) : Option (Value × List Char) :=
  ((dateTime? cs).or (float? cs)).or (integer? cs)

end Walkthrough.Toml
