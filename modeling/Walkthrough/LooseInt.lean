import Walkthrough.Text.Blank
import Walkthrough.Text.Cut
import Walkthrough.Word

/-! # Lenient reading of integers

An initializer is read as an integer if it begins like one: leading blanks and one sign are
accepted, `0x` or `0X` switches to radix sixteen, and the digits end at the first character that
is none.  What follows the digits is ignored.

* The digits are accumulated in a signed 64-bit word.  `Magnitude` is the state of that
  accumulation: a value that still fits, or `beyond` once a digit did not fit.
* `LooseInt.read` gives the number, the nearest 64-bit bound if it lies beyond, and `nan` if
  there is no digit at all.
* `LooseInt.readList` reads the entries of a braced list, cut at every comma. -/

namespace Walkthrough

open Text

/-- The digits read so far: their value while it fits a signed 64-bit word. -/
inductive Magnitude where
  | within (n : Int64)
  | beyond
deriving DecidableEq, Repr

namespace Magnitude

/-- One more digit in the given radix. -/
def push (radix : Nat) : Magnitude → Nat → Magnitude
  | within n, d =>
    match (Word.mul? n (.ofNat radix)).bind (Word.add? · (.ofNat d)) with
    | some m => within m
    | none => beyond
  | beyond, _ => beyond

/-- The signed value; beyond the word it is the bound on that side. -/
def signed : Magnitude → Bool → Int64
  | within n, negative => if negative then -n else n
  | beyond, negative => if negative then Int64.minValue else Int64.maxValue

end Magnitude

/-- The outcome of reading an integer leniently: a 64-bit number, or no number at all. -/
inductive LooseInt where
  | number (n : Int)
  | nan
deriving DecidableEq, Repr

namespace LooseInt

/-- The number, if there is one. -/
def toInt? : LooseInt → Option Int
  | number n => some n
  | nan => none

/-- Is there no number? -/
def isNan : LooseInt → Bool
  | number _ => false
  | nan => true

/-- The value of an ASCII digit of the radix. -/
def digit? (radix : Nat) (c : Char) : Option Nat :=
  let value? :=
    if '0' ≤ c ∧ c ≤ '9' then some (c.toNat - '0'.toNat)
    else if 'a' ≤ c ∧ c ≤ 'z' then some (c.toNat - 'a'.toNat + 10)
    else if 'A' ≤ c ∧ c ≤ 'Z' then some (c.toNat - 'A'.toNat + 10)
    else none
  value?.filter (· < radix)

/-- The values of the longest run of digits that the text begins with. -/
def digits (radix : Nat) : List Char → List Nat
  | [] => []
  | c :: cs =>
    match digit? radix c with
    | some d => d :: digits radix cs
    | none => []

/-- Takes one sign off: is it a minus, and what follows. -/
def sign : List Char → Bool × List Char
  | '-' :: cs => (true, cs)
  | '+' :: cs => (false, cs)
  | cs => (false, cs)

/-- Takes the mark of radix sixteen off: the radix, and what follows. -/
def radix : List Char → Nat × List Char
  | '0' :: 'x' :: cs => (16, cs)
  | '0' :: 'X' :: cs => (16, cs)
  | cs => (10, cs)

/-- Reads an integer leniently from the beginning of a text. -/
def readChars (cs : List Char) : LooseInt :=
  let (negative, unsigned) := sign (trimLeft cs)
  let (base, body) := radix unsigned
  match digits base body with
  | [] => nan
  | d :: ds => number (((d :: ds).foldl (Magnitude.push base) (.within 0)).signed negative).toInt

/-- Reads an integer leniently from the beginning of a string. -/
def read (s : String) : LooseInt := readChars s.toList

/-- The entries of a braced list: the text without its first and its last character, cut at every
comma, each piece trimmed and read. -/
def readListChars (cs : List Char) : List LooseInt :=
  (cutAt (· == ',') (cs.drop 1).dropLast).map fun piece => readChars (trim piece)

/-- The entries of the braced list that a string holds. -/
def readList (s : String) : List LooseInt := readListChars s.toList

end LooseInt

end Walkthrough
