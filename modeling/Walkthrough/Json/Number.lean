import Walkthrough.Json.Value
import Walkthrough.Word

/-! # JSON numbers

A number is written as a sign, digits without a needless leading zero, a fraction and an exponent.

* `NumberText` holds the parts of a written number; `NumberText.read` cuts them off a text;
* `NumberText.value?` is the number: an integer if it has neither fraction nor exponent and fits
  the 64-bit words, else a floating-point number, and none if it is too large for that.

A floating-point number is computed from the digits that fit an unsigned 64-bit word and from a
power of ten; digits that no longer fit are left out. -/

namespace Walkthrough.Json

open Decimal

/-- The parts of a written number. -/
structure NumberText where
  negative : Bool
  whole : List Nat
  fraction : List Nat
  exponent : Option (Bool × List Nat)
deriving DecidableEq, Repr

namespace NumberText

/-- The value of a decimal digit. -/
def digitValue (c : Char) : Nat := c.toNat - '0'.toNat

/-- The leading run of digits, and what follows. -/
def digitRun (cs : List Char) : List Nat × List Char :=
  ((cs.takeWhile Char.isDigit).map digitValue, cs.dropWhile Char.isDigit)

/-- The digits before the point: one zero, or a run that does not begin with zero. -/
def readWhole (cs : List Char) : Option (List Nat × List Char) :=
  match digitRun cs with
  | ([], _) => none
  | (0 :: _ :: _, _) => none
  | (ds, rest) => some (ds, rest)

/-- The digits after the point, if there is a point. -/
def readFraction : List Char → Option (List Nat × List Char)
  | '.' :: cs =>
    match digitRun cs with
    | ([], _) => none
    | (ds, rest) => some (ds, rest)
  | cs => some ([], cs)

/-- The digits of an exponent. -/
def readExponentDigits (negative : Bool) (cs : List Char) :
    Option (Option (Bool × List Nat) × List Char) :=
  match digitRun cs with
  | ([], _) => none
  | (ds, rest) => some (some (negative, ds), rest)

/-- The exponent, if there is its mark: is it negative, and its digits. -/
def readExponent : List Char → Option (Option (Bool × List Nat) × List Char)
  | c :: cs =>
    if c = 'e' ∨ c = 'E' then
      match cs with
      | '-' :: cs => readExponentDigits true cs
      | '+' :: cs => readExponentDigits false cs
      | cs => readExponentDigits false cs
    else some (none, c :: cs)
  | [] => some (none, [])

/-- Cuts a written number off a text. -/
def read (cs : List Char) : Option (NumberText × List Char) := do
  let (negative, cs) := match cs with
    | '-' :: cs => (true, cs)
    | cs => (false, cs)
  let (whole, cs) ← readWhole cs
  let (fraction, cs) ← readFraction cs
  let (exponent, cs) ← readExponent cs
  return (⟨negative, whole, fraction, exponent⟩, cs)

/-- The number that a row of digits stands for. -/
def ofDigits (ds : List Nat) : Nat := ds.foldl (fun n d => 10 * n + d) 0

/-- The significand of the whole digits that fit a word, and the number of those left out. -/
def takeWhole (s : Nat) : List Nat → Nat × Nat
  | [] => (s, 0)
  | d :: ds =>
    if 10 * s + d ≤ Word.maxUnsigned then takeWhole (10 * s + d) ds
    else (s, ds.length + 1)

/-- Appends to a significand the fraction digits that fit a word, and counts them. -/
def takeFraction (s : Nat) : List Nat → Nat × Nat
  | [] => (s, 0)
  | d :: ds =>
    if 10 * s + d ≤ Word.maxUnsigned then
      let (t, n) := takeFraction (10 * s + d) ds
      (t, n + 1)
    else (s, 0)

/-- The greatest power of ten by which a number is scaled at once. -/
def greatestPower : Nat := 308

/-- The number scaled by a power of ten that is not too great, rounded once. -/
def scaleOnce? (x : Binary64) (e : Int) : Option Binary64 :=
  (Binary64.powerOfTen? e.natAbs).bind fun p => if 0 ≤ e then x.mul? p else x.div? p

/-- Scales a number by a power of ten; where the exponent is too negative, a part of it is taken
off first, round after round.  There is no result beyond the largest finite number. -/
def scaleIn? : Nat → Binary64 → Int → Option Binary64
  | 0, x, e => scaleOnce? x e
  | rounds + 1, x, e =>
    if e.natAbs ≤ greatestPower then scaleOnce? x e
    else if x.isZero then some x
    else if 0 ≤ e then none
    else (scaleOnce? x (-greatestPower)).bind fun y => scaleIn? rounds y (e + greatestPower)

/-- Scales a number by a power of ten. -/
def scale? (x : Binary64) (e : Int) : Option Binary64 := scaleIn? (e.natAbs / greatestPower) x e

/-- The signed value of the exponent. -/
def exponentValue (n : NumberText) : Int :=
  match n.exponent with
  | none => 0
  | some (true, ds) => -(ofDigits ds : Int)
  | some (false, ds) => ofDigits ds

/-- The number as a floating-point number. -/
def real? (n : NumberText) : Option Binary64 := do
  let (s, dropped) := takeWhole 0 n.whole
  let (s, taken) := takeFraction s n.fraction
  let x ← Binary64.ofRatio? false s 1
  let y ← scale? x ((dropped : Int) - taken + n.exponentValue)
  return { y with negative := n.negative }

/-- The number as an integer of 64 bits; there is no negative zero. -/
def int? (n : NumberText) : Option Int :=
  if n.fraction.isEmpty && n.exponent.isNone then
    let k := ofDigits n.whole
    if n.negative then if 0 < k ∧ k ≤ Word.maxSigned + 1 then some (-k) else none
    else if k ≤ Word.maxUnsigned then some k
    else none
  else none

/-- The value of a written number. -/
def value? (n : NumberText) : Option Json :=
  match n.int? with
  | some k => some (.int k)
  | none => n.real?.map .real

end NumberText

end Walkthrough.Json
