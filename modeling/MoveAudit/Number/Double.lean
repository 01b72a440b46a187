/-
This file holds binary64 numbers as exact values. Every finite one is a whole number of units of
`2 ^ -1074`, the least positive one, so it is kept as a sign and that whole number, and sums and
comparisons are those of whole numbers. A fraction that is no such number goes to the nearest
one, and a tie goes to the even significand.
-/

namespace MoveAudit

/-- A binary64 number: a finite one counts units of `2 ^ -1074`. -/
inductive Double where
  | finite (negative : Bool) (units : Nat)
  | infinite (negative : Bool)
  | nan
  deriving DecidableEq, Repr, Inhabited

namespace Double

/-- The units in one. -/
def one : Nat := Nat.pow 2 1074

/-- Finite numbers have fewer units than this. -/
def overflow : Nat := Nat.pow 2 2098

/-- The whole number nearest to a quotient; a tie goes to the even one. -/
def roundDiv (numerator denominator : Nat) : Nat :=
  let quotient := numerator / denominator
  let twice := 2 * (numerator % denominator)
  if twice < denominator || (twice == denominator && quotient % 2 == 0) then quotient
  else quotient + 1

/-- The number nearest to `numerator / denominator` units. -/
def ofUnitRatio (negative : Bool) (numerator denominator : Nat) : Double :=
  let step := Nat.pow 2 ((numerator / denominator).log2 + 1 - 53)
  let units := roundDiv numerator (denominator * step) * step
  if units < overflow then .finite negative units else .infinite negative

/-- The number nearest to a fraction. -/
def ofRatio (negative : Bool) (numerator denominator : Nat) : Double :=
  ofUnitRatio negative (numerator * one) denominator

/-- The number nearest to a whole number. -/
def ofInt (whole : Int) : Double :=
  ofRatio (whole < 0) whole.natAbs 1

/-- The number nearest to `digits * 10 ^ exponent`. Exponents so far out that the answer is zero
or infinite are settled without writing the power out. -/
def ofDecimal (negative : Bool) (digits : Nat) (exponent : Int) : Double :=
  let reach := (Nat.toDigits 10 digits).length + exponent
  if digits = 0 || reach < -330 then .finite negative 0
  else if 310 < reach then .infinite negative
  else if 0 ≤ exponent then ofRatio negative (digits * Nat.pow 10 exponent.toNat) 1
  else ofRatio negative digits (Nat.pow 10 (-exponent).toNat)

/-- The signed count of units of a finite number. -/
def units? : Double → Option Int
  | .finite negative units => some (if negative then -units else units)
  | _ => none

/-- Whether the number is neither infinite nor undefined. -/
def isFinite (x : Double) : Bool :=
  x.units?.isSome

/-- Whether the number is zero of either sign. -/
def isZero : Double → Bool
  | .finite _ 0 => true
  | _ => false

/-- The number, where a zero has no sign. -/
def plain : Double → Double
  | .finite _ 0 => .finite false 0
  | other => other

/-- The greatest whole number that is not above a finite number. -/
def floor? (x : Double) : Option Int :=
  x.units?.map (Int.fdiv · one)

/-- The whole number that a finite number without fraction equals. -/
def whole? (x : Double) : Option Int :=
  x.units?.bind fun units => if units % one = 0 then some (units / one) else none

/-- The whole part of a finite number, toward zero. -/
def truncate? (x : Double) : Option Int :=
  x.units?.map (Int.tdiv · one)

/-- The number nearest to a signed count of units; `zero` is the sign of the answer zero. -/
def ofUnits (zeroNegative : Bool) (units : Int) : Double :=
  if units = 0 then .finite zeroNegative 0 else ofUnitRatio (units < 0) units.natAbs 1

/-- The sum, rounded to the nearest number. -/
def add : Double → Double → Double
  | .nan, _ | _, .nan => .nan
  | .infinite a, .infinite b => if a = b then .infinite a else .nan
  | .infinite a, _ | _, .infinite a => .infinite a
  | .finite a m, .finite b n =>
    ofUnits (a && b) ((if a then -(m : Int) else m) + (if b then -(n : Int) else n))

/-- The product, rounded to the nearest number. -/
def mul : Double → Double → Double
  | .nan, _ | _, .nan => .nan
  | .infinite a, .infinite b => .infinite (a != b)
  | .infinite a, .finite b n | .finite b n, .infinite a => if n = 0 then .nan else .infinite (a != b)
  | .finite a m, .finite b n => ofUnitRatio (a != b) (m * n) one

/-- The quotient by a positive whole number, rounded to the nearest number. -/
def divNat (x : Double) (divisor : Nat) : Double :=
  match x with
  | .finite negative units => ofUnitRatio negative units divisor
  | other => other

/-- Whether one number is below another; nothing is below or above an undefined number. -/
def lt : Double → Double → Bool
  | .nan, _ | _, .nan => false
  | .infinite a, .infinite b => a && !b
  | .infinite a, .finite .. => a
  | .finite .., .infinite b => !b
  | .finite a m, .finite b n =>
    (if a then -(m : Int) else m) < (if b then -(n : Int) else n)

end Double

end MoveAudit
