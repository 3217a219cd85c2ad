import Walkthrough.Decimal.Binary64

/-! # The shortest decimal

The decimal text of a floating-point number has the fewest digits that still read back as the
number, and of those the nearest ones.

* `Gap` is the interval of reals that round to a number; its ends belong to it if the significand
  is even;
* `shortest` goes through the decimal grids from coarse to fine and takes the first grid on which
  one of the two neighbours of the number lies in the gap;
* `positional` and `layout` write the digits out: with a point between the orders `10 ^ -5` and
  `10 ^ 16`, and with an exponent outside. -/

namespace Walkthrough.Decimal

/-- The interval of reals that round to a positive floating-point number.  All three values are
multiples of a quarter of the unit in the last place. -/
structure Gap where
  low : Nat
  value : Nat
  high : Nat
  closed : Bool
  exponent : Int

/-- The gap of a floating-point number.  Below a power of two the numbers lie twice as dense. -/
def Gap.of (x : Binary64) : Gap where
  low := 4 * x.significand -
    if x.significand = Binary64.leastNormal ∧ x.exponent ≠ Binary64.leastExponent then 1 else 2
  value := 4 * x.significand
  high := 4 * x.significand + 2
  closed := x.significand % 2 == 0
  exponent := x.exponent - 2

/-- The factors by which a gap and the grid `10 ^ k` are multiplied to become integers. -/
def Gap.factors (g : Gap) (k : Int) : Nat × Nat :=
  (Nat.pow 2 g.exponent.toNat * Nat.pow 10 (-k).toNat,
    Nat.pow 2 (-g.exponent).toNat * Nat.pow 10 k.toNat)

/-- Does the point `c · 10 ^ k` lie in the gap? -/
def Gap.contains (g : Gap) (k : Int) (c : Nat) : Bool :=
  let (a, b) := g.factors k
  if g.closed then decide (g.low * a ≤ c * b) && decide (c * b ≤ g.high * a)
  else decide (g.low * a < c * b) && decide (c * b < g.high * a)

/-- The neighbour of the value on the grid `10 ^ k` that lies in the gap, the nearer one if both
do and the even one if both are as near. -/
def Gap.neighbour? (g : Gap) (k : Int) : Option Nat :=
  let (a, b) := g.factors k
  let c := g.value * a / b
  match g.contains k c, g.contains k (c + 1) with
  | true, true =>
    let below := g.value * a - c * b
    let above := (c + 1) * b - g.value * a
    if below < above then some c
    else if above < below then some (c + 1)
    else some (if c % 2 = 0 then c else c + 1)
  | true, false => some c
  | false, true => some (c + 1)
  | false, false => none

/-- The first grid, from `10 ^ k` downwards, on which a neighbour lies in the gap. -/
def Gap.search (g : Gap) : Nat → Int → Nat × Int
  | 0, k => (0, k)
  | steps + 1, k =>
    match g.neighbour? k with
    | some c => (c, k)
    | none => g.search steps (k - 1)

/-- Takes the trailing zeros of `c · 10 ^ k` into the exponent. -/
def dropZeros : Nat → Nat → Int → Nat × Int
  | 0, c, k => (c, k)
  | steps + 1, c, k => if c % 10 = 0 then dropZeros steps (c / 10) (k + 1) else (c, k)

/-- The shortest decimal `c · 10 ^ k` of a number other than zero, without its sign. -/
def shortest (x : Binary64) : Nat × Int :=
  let order := ((Nat.log2 x.significand : Int) + x.exponent) * 30103 / 100000 + 1
  let (c, k) := (Gap.of x).search 20 order
  dropZeros 20 c k

/-- The digits of `c · 10 ^ k` with a point, for `c` of `digits.length` digits. -/
def positional (digits : List Char) (k : Int) : List Char :=
  let point := digits.length + k
  if 0 ≤ k then digits ++ List.replicate k.toNat '0' ++ ['.', '0']
  else if 0 < point then digits.take point.toNat ++ '.' :: digits.drop point.toNat
  else '0' :: '.' :: List.replicate (-point).toNat '0' ++ digits

/-- The digits of `c · 10 ^ k`, with an exponent where the order is small or large. -/
def layout (c : Nat) (k : Int) : List Char :=
  let digits := (toString c).toList
  let point := digits.length + k
  if -5 < point ∧ point ≤ 16 then positional digits k
  else
    let mantissa :=
      match digits with
      | d :: e :: rest => d :: '.' :: e :: rest
      | short => short
    mantissa ++ 'e' :: (toString (point - 1)).toList

/-- The text of a floating-point number: the shortest digits that read back as the number. -/
def text (x : Binary64) : List Char :=
  let magnitude :=
    if x.isZero then ['0', '.', '0']
    else
      let (c, k) := shortest x
      layout c k
  if x.negative then '-' :: magnitude else magnitude

end Walkthrough.Decimal
