import QueryKernel.Number.Word

/-!
Contract: the shortest decimal that stands for a binary fraction.

A binary fraction is known by its neighbourhood: the reals that round to it.
The shortest decimal is the member of the neighbourhood on the coarsest grid of
powers of ten that meets it; of two such members the nearer one is taken, and
of two equally near ones the larger.

Owns:
- neighbourhoods over a common denominator, in exact natural arithmetic;
- the choice of the grid and of the point on it.

Does not own: the decoding of float words, or the layout of the digits.
-/

namespace QueryKernel.Number

/-- The positive decimal `coefficient × 10 ^ exponent`. -/
structure Decimal where
  coefficient : Nat
  exponent : Int
deriving DecidableEq, Repr

/-- The reals that round to `value / denominator`, as numerators over the same
denominator. The ends belong to it only when `closed` holds. -/
structure Neighbourhood where
  lower : Nat
  value : Nat
  upper : Nat
  denominator : Nat
  closed : Bool
deriving DecidableEq, Repr

def digitCount (n : Nat) : Nat :=
  (Nat.toDigits 10 n).length

/-- The exponent of the leading decimal digit of `numerator / denominator`. -/
def leadingExponent (numerator denominator : Nat) : Int :=
  if denominator ≤ numerator then
    (digitCount (numerator / denominator) : Int) - 1
  else
    -(digitCount ((denominator - 1) / numerator) : Int)

/-- The point of the grid `10 ^ exponent` that stands for the neighbourhood's
value, if the neighbourhood meets the grid beside it. -/
def Neighbourhood.pointOnGrid (region : Neighbourhood) (exponent : Int) : Option Nat :=
  let coarse := 10 ^ exponent.toNat
  let fine := 10 ^ (-exponent).toNat
  let step := region.denominator * coarse
  let contains := fun point : Nat =>
    if region.closed then
      region.lower * fine ≤ point * step && point * step ≤ region.upper * fine
    else
      region.lower * fine < point * step && point * step < region.upper * fine
  let below := region.value * fine / step
  let excess := region.value * fine % step
  match contains below, contains (below + 1) with
  | false, false => none
  | true, false => some below
  | false, true => some (below + 1)
  | true, true => some (if 2 * excess < step then below else below + 1)

/-- The same number with the largest exponent its coefficient allows. -/
def Decimal.trim (number : Decimal) : Decimal :=
  if positive : 0 < number.coefficient ∧ number.coefficient % 10 = 0 then
    Decimal.trim ⟨number.coefficient / 10, number.exponent + 1⟩
  else
    number
termination_by number.coefficient
decreasing_by exact Nat.div_lt_self positive.1 (by decide)

/-- Seventeen digits tell any two neighbouring words of 64 bits apart. -/
def maximalDigits : Nat := 17

/-- The shortest decimal of the neighbourhood. -/
def Neighbourhood.shortest (region : Neighbourhood) : Decimal :=
  let leading := leadingExponent region.value region.denominator
  let grids := (List.range maximalDigits).map fun (extra : Nat) => leading - extra
  let found := grids.findSome? fun exponent =>
    (region.pointOnGrid exponent).map fun point => Decimal.mk point exponent
  (found.getD ⟨region.value / region.denominator, 0⟩).trim

end QueryKernel.Number
