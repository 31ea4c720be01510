import ChatMarkup.Text.Digits

/-!
# Shortest Decimals

The decimal that a number is shown with after it has been rounded to double
precision.

A double is a whole number of powers of two. Between two neighbouring doubles
lie infinitely many decimals, and each of them is read back as the nearer of
the two, so a double can be shown by any decimal that is read back as itself.
The one chosen has as few digits as possible, and among those it is the one
nearest to the double.

All of it is exact arithmetic on natural numbers. A decimal is a whole number
of powers of ten. On each grid of such powers, from coarse to fine, only the
two grid points next to the double need to be tried: if any point of the grid
is read back as the double, one of these two is.

## Main definitions

* `Binary64`: A positive double, or zero.
* `Binary64.nearest?`: The double nearest to a decimal.
* `Binary64.shortest`: The shortest decimal that is read back as a double.
* `positional`: A decimal as text, without an exponent.
-/

namespace ChatMarkup.Decimal

/-- The number `mantissa * 2 ^ exponent`, which is a double. -/
structure Binary64 where
  mantissa : Nat
  exponent : Int
  deriving DecidableEq, Repr

/-- The quotient rounded to the nearest whole number, and to the even one of
    two that are equally near. -/
def roundDiv (numerator denominator : Nat) : Nat :=
  let quotient := numerator / denominator
  let remainder := numerator % denominator
  if 2 * remainder < denominator then quotient
  else if denominator < 2 * remainder then quotient + 1
  else quotient + quotient % 2

/-- The power `base ^ exponent` as a fraction. -/
def power (base : Nat) (exponent : Int) : Nat × Nat :=
  (base.pow exponent.toNat, base.pow (-exponent).toNat)

namespace Binary64

/-- The exponent of the finest doubles. -/
def finest : Int := -1074

/-- The exponent of the coarsest doubles. -/
def coarsest : Int := 971

/-- The number of mantissas. -/
def mantissaLimit : Nat := Nat.pow 2 53

/-- The double nearest to the fraction, if the fraction is not beyond all
    doubles. -/
def ofFraction? (numerator denominator : Nat) : Option Binary64 :=
  -- With this exponent the mantissa has one bit too many or none.
  let guess : Int := max ((numerator.log2 : Int) - denominator.log2 - 53) finest
  let scale (exponent : Int) : Nat × Nat :=
    let (up, down) := power 2 exponent
    (numerator * down, denominator * up)
  let exponent :=
    if mantissaLimit ≤ (scale guess).1 / (scale guess).2 then guess + 1 else guess
  let mantissa := roundDiv (scale exponent).1 (scale exponent).2
  let rounded : Binary64 :=
    if mantissa = mantissaLimit then ⟨mantissa / 2, exponent + 1⟩ else ⟨mantissa, exponent⟩
  if coarsest < rounded.exponent then none else some rounded

/-- The double nearest to `digits * 10 ^ exponent`, if there is one. Decimals
    far outside the range of doubles are told by their size. -/
def nearest? (digits : Nat) (exponent : Int) : Option Binary64 :=
  if digits = 0 then some ⟨0, finest⟩
  else
    let size : Int := exponent + (Text.decimal digits).length
    if 310 < size then none
    else if size < -330 then some ⟨0, finest⟩
    else
      let (up, down) := power 10 exponent
      ofFraction? (digits * up) down

/-- The point of the grid `10 ^ grid` that is read back as the double, if there
    is one, and the nearer one if there are two. The ends of the interval of
    numbers that are read back as the double belong to it if the mantissa is
    even. The interval is shorter below a power of two. -/
def onGrid? (x : Binary64) (grid : Int) : Option Nat :=
  -- Both sides are measured in quarters of the distance between doubles.
  let (binaryUp, binaryDown) := power 2 (x.exponent - 2)
  let (gridUp, gridDown) := power 10 grid
  let point := gridUp * binaryDown
  let quarter := binaryUp * gridDown
  let value := 4 * x.mantissa * quarter
  let above := value + 2 * quarter
  let below :=
    if x.mantissa = mantissaLimit / 2 ∧ finest < x.exponent then value - quarter
    else value - 2 * quarter
  let isReadBack (n : Nat) : Bool :=
    if x.mantissa % 2 = 0 then decide (below ≤ n * point) && decide (n * point ≤ above)
    else decide (below < n * point) && decide (n * point < above)
  let lower := value / point
  let upper := lower + 1
  if isReadBack lower && (!isReadBack upper || decide (2 * value < (lower + upper) * point)) then
    some lower
  else if isReadBack upper then some upper
  else none

/-- A grid on which no double of this size has more than one digit. -/
def startGrid (x : Binary64) : Int :=
  ((x.mantissa.log2 : Int) + 1 + x.exponent) * 30103 / 100000 + 1

/-- The shortest decimal that is read back as the double, as a number of powers
    of ten. Seventeen digits are always enough, so no more than twenty grids
    have to be tried. -/
def shortest (x : Binary64) : Nat × Int :=
  if x.mantissa = 0 then (0, 0)
  else
    let grids := (List.range 20).map fun (i : Nat) => x.startGrid - (i : Int)
    (grids.findSome? fun grid => (x.onGrid? grid).map fun n => (n, grid)).getD (0, 0)

end Binary64

/-- The decimal `digits * 10 ^ exponent` as text, with at least one digit on
    either side of the point. -/
def positional (digits : Nat) (exponent : Int) : Text :=
  let text := Text.decimal digits
  if 0 ≤ exponent then text ++ List.replicate exponent.toNat '0' ++ ['.', '0']
  else
    let places := (-exponent).toNat
    let padded := List.replicate (places + 1 - text.length) '0' ++ text
    padded.take (padded.length - places) ++ '.' :: padded.drop (padded.length - places)

end ChatMarkup.Decimal
