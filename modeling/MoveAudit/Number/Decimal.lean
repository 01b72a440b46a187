/-
This file writes binary64 numbers in decimal. Since two divides ten, every finite one is a whole
number of units of `10 ^ -1074`, so both forms are taken from exact whole numbers: the shortest
form is the first count of digits at which a neighbour of the number on that decimal grid reads
back as the number, and the fixed form is the quotient rounded to the given places.
-/

import MoveAudit.Number.Double

namespace MoveAudit.Double

/-- A finite magnitude as a whole number of units of `10 ^ -1074`. -/
def decimalUnits (units : Nat) : Nat :=
  units * Nat.pow 5 1074

/-- The two neighbours of a magnitude among the decimals with `size` digits, nearer one first,
with the exponent of ten that belongs to them. -/
def neighbours (decimal length size : Nat) : List Nat × Int :=
  let dropped := length - size
  let place := Nat.pow 10 dropped
  let below := decimal / place
  let rest := decimal % place
  (if 2 * rest ≤ place then [below, below + 1] else [below + 1, below],
    (dropped : Int) - 1074)

/-- The digits and the exponent of ten of the shortest decimal that reads back as the magnitude,
tried with `size`, `size + 1`, … digits; without any, the exact decimal. -/
def shortestFrom (units decimal length : Nat) : (fuel size : Nat) → Nat × Int
  | 0, _ => (decimal, -1074)
  | fuel + 1, size =>
    let (candidates, exponent) := neighbours decimal length size
    match candidates.find? fun digits => ofDecimal false digits exponent = .finite false units with
    | some digits => (digits, exponent)
    | none => shortestFrom units decimal length fuel (size + 1)

/-- The digits and the exponent of ten of the shortest decimal that reads back as a magnitude. -/
def shortest (units : Nat) : Nat × Int :=
  let decimal := decimalUnits units
  shortestFrom units decimal (Nat.toDigits 10 decimal).length 17 1

/-- Digits without the zeros at their end, and how many of those there were. -/
def stripZeros (digits : List Char) : List Char × Nat :=
  let kept := (digits.reverse.dropWhile (· == '0')).reverse
  (kept, digits.length - kept.length)

/-- A magnitude in plain notation when its first digit stands for at least `10 ^ -4` and less
than `10 ^ 16`, and with an exponent of two or more digits otherwise. -/
def magnitudeText (units : Nat) : List Char :=
  if units = 0 then ['0', '.', '0']
  else
    let (number, exponent) := shortest units
    let (digits, zeros) := stripZeros (Nat.toDigits 10 number)
    let point : Int := digits.length + zeros + exponent
    if -4 < point && point ≤ 16 then
      if point ≤ 0 then '0' :: '.' :: List.replicate (-point).toNat '0' ++ digits
      else
        let whole := digits.take point.toNat
        let fraction := digits.drop point.toNat
        whole ++ List.replicate (point.toNat - whole.length) '0' ++ '.' ::
          (if fraction.isEmpty then ['0'] else fraction)
    else
      let power := point - 1
      let powerDigits := Nat.toDigits 10 power.natAbs
      digits.take 1 ++ (if digits.length ≤ 1 then [] else '.' :: digits.drop 1) ++
        'e' :: (if power < 0 then '-' else '+') ::
          (List.replicate (2 - powerDigits.length) '0' ++ powerDigits)

/-- The shortest text that reads back as the number. -/
def text : Double → String
  | .nan => "nan"
  | .infinite negative => if negative then "-inf" else "inf"
  | .finite negative units =>
    String.ofList ((if negative then ['-'] else []) ++ magnitudeText units)

/-- The number with a fixed count of decimal places; a tie goes to the even last digit. -/
def fixedText (places : Nat) : Double → String
  | .nan => "nan"
  | .infinite negative => if negative then "-inf" else "inf"
  | .finite negative units =>
    let digits := Nat.toDigits 10 (roundDiv (units * Nat.pow 10 places) one)
    let padded := List.replicate (places + 1 - digits.length) '0' ++ digits
    let whole := padded.take (padded.length - places)
    let fraction := padded.drop (padded.length - places)
    String.ofList ((if negative then ['-'] else []) ++ whole ++
      (if places = 0 then [] else '.' :: fraction))

end MoveAudit.Double
