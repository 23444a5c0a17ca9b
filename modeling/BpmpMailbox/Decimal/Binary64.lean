/-!
# Double-precision numbers

The binary numbers of 64 bits, as exact values: a finite one is a whole
mantissa times a power of two. They are rounded from decimal notation and
written back in it without passing through machine arithmetic, so both
directions are computations on natural numbers.

Reading rounds to the nearest number, and a tie to the even mantissa. What is
larger than the largest number becomes infinite.

Writing gives the fewest digits that read back as the same number. Every
number stands for the interval of decimals that round to it, the ends of which
belong to it when the mantissa is even. The decimals with a given last place
form a grid, and the coarsest grid that has a point in the interval gives the
digits; of two points the nearer one is taken, and of two equally near ones
the larger. All numbers are written positionally, whatever their size.

## Main definitions

* `Binary64`: The numbers, with infinities and the one that is none.
* `Binary64.ofDecimal`: The nearest number to a decimal.
* `Binary64.shortest`: The fewest digits that read back.
* `Binary64.text`: A number in positional notation.
-/

namespace BpmpMailbox

/-- A double-precision number. -/
inductive Binary64 where
  /-- `mantissa * 2 ^ exponent`, or its negative. -/
  | finite (negative : Bool) (mantissa : Nat) (exponent : Int)
  | infinite (negative : Bool)
  | notANumber
  deriving DecidableEq, Repr

namespace Binary64

/-- The mantissa of a number that is not tiny has its leading bit here. -/
def leadingBit : Nat := 0x10000000000000

/-- The exponent of the smallest numbers. -/
def minExponent : Int := -1074

/-- The exponent of the largest numbers. -/
def maxExponent : Int := 971

/-- The whole number nearest to a quotient, and the even one of two. -/
def divideToEven (num den : Nat) : Nat :=
  let q := num / den
  let twice := 2 * (num % den)
  if twice < den ∨ (twice = den ∧ q % 2 = 0) then q else q + 1

/-- The quotient of `num` and `den` divided by `2 ^ exponent`, as a quotient. -/
def scaled (num den : Nat) (exponent : Int) : Nat × Nat :=
  if 0 ≤ exponent then (num, den <<< exponent.toNat) else (num <<< (-exponent).toNat, den)

/-- The exponent for which a quotient divided by that power of two has its
    leading bit in place, as far as the smallest exponent allows. -/
def exponentFor (num den : Nat) : Int :=
  let guess : Int := (num.log2 : Int) - den.log2 - 52
  let (n, d) := scaled num den guess
  max minExponent (if n / d < leadingBit then guess - 1 else guess)

/-- The number nearest to a quotient. -/
def ofQuotient (negative : Bool) (num den : Nat) : Binary64 :=
  let exponent := exponentFor num den
  let (n, d) := scaled num den exponent
  let mantissa := divideToEven n d
  let (mantissa, exponent) :=
    if mantissa = 2 * leadingBit then (leadingBit, exponent + 1) else (mantissa, exponent)
  if maxExponent < exponent then .infinite negative else .finite negative mantissa exponent

/-- The number nearest to `digits * 10 ^ exponent`. Decimals far beyond either
    end of the range are settled by their size alone. -/
def ofDecimal (negative : Bool) (digits : Nat) (exponent : Int) : Binary64 :=
  let size : Int := (Nat.toDigits 10 digits).length + exponent
  if digits = 0 ∨ size < -400 then .finite negative 0 minExponent
  else if 400 < size then .infinite negative
  else if 0 ≤ exponent then ofQuotient negative (digits * Nat.pow 10 exponent.toNat) 1
  else ofQuotient negative digits (Nat.pow 10 (-exponent).toNat)

/-- The point of the grid of multiples of `10 ^ place` that lies in the interval
    of a number, if there is one. The interval is given in quarters of the
    mantissa's last place: the number itself and its two ends. -/
def gridPoint? (low mid high : Nat) (closed : Bool) (exponent place : Int) : Option Nat :=
  -- All four quantities become whole numbers in units of `unit`.
  let binary := 1 <<< (exponent - 2).toNat
  let fraction := 1 <<< (2 - exponent).toNat
  let decimal := Nat.pow 10 place.toNat
  let refinement := Nat.pow 10 (-place).toNat
  let step := decimal * fraction
  let low := low * binary * refinement
  let mid := mid * binary * refinement
  let high := high * binary * refinement
  let inside (x : Nat) : Bool := if closed then low ≤ x && x ≤ high else low < x && x < high
  let below := mid / step
  let down := inside (below * step)
  let up := inside ((below + 1) * step)
  if down && up then
    some (if (below + 1) * step - mid ≤ mid - below * step then below + 1 else below)
  else if down then some below
  else if up then some (below + 1)
  else none

/-- The fewest digits, and the place of the last one, that read back as a
    number that is not zero. -/
def shortest (mantissa : Nat) (exponent : Int) : Nat × Int :=
  -- Below a power of two the numbers are twice as dense.
  let low := if mantissa = leadingBit then 4 * mantissa - 1 else 4 * mantissa - 2
  let places : List Int := (List.range 640).map fun (i : Nat) => 310 - (i : Int)
  (places.findSome? fun place =>
    (gridPoint? low (4 * mantissa) (4 * mantissa + 2) (mantissa % 2 == 0) exponent place).map
      (·, place)).getD (0, 0)

/-- Digits with their last place in positional notation, with a point and at
    least one digit on either side. -/
def positional (digits : Nat) (place : Int) : String :=
  let ds := Nat.toDigits 10 digits
  if 0 ≤ place then String.ofList (ds ++ List.replicate place.toNat '0') ++ ".0"
  else
    let after := (-place).toNat
    let padded := List.replicate (after + 1 - ds.length) '0' ++ ds
    let whole := padded.length - after
    String.ofList (padded.take whole ++ '.' :: padded.drop whole)

/-- A number in positional notation. -/
def text : Binary64 → String
  | .notANumber => "NaN"
  | .infinite negative => if negative then "-inf" else "inf"
  | .finite negative mantissa exponent =>
    let digits :=
      if mantissa = 0 then "0.0"
      else
        let (ds, place) := shortest mantissa exponent
        positional ds place
    if negative then "-" ++ digits else digits

end Binary64

end BpmpMailbox
