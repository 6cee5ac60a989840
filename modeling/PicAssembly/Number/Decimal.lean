import PicAssembly.Number.Binary64

/-!
# Decimal text of binary numbers

A binary number is written with the fewest decimal digits that read back as the same number, and
of those the digits nearest to it.  Exponents from -4 to 15 are written positionally.
-/

namespace PicAssembly

/-- The decimal number `digits * 10 ^ exponent`. -/
structure Decimal where
  digits : Nat
  exponent : Int
deriving DecidableEq, Repr

namespace Decimal

/-- The decimal digits of a natural number, most significant first. -/
def digitsOf (number : Nat) : List Char :=
  Nat.toDigits 10 number

/-- The digits without the zeros at their end. -/
def significant (digits : List Char) : List Char :=
  (digits.reverse.dropWhile (· = '0')).reverse

/-- The exponent of ten of the leading digit. -/
def leading (number : Decimal) : Int :=
  number.exponent + ((digitsOf number.digits).length - 1 : Nat)

/-- An exponent, signed and at least two digits wide. -/
def exponentText (exponent : Int) : List Char :=
  let digits := digitsOf exponent.natAbs
  (if exponent < 0 then '-' else '+') :: (if digits.length < 2 then '0' :: digits else digits)

/-- Positional digits where the leading digit has the given exponent of ten. -/
def positional (digits : List Char) (leading : Int) : List Char :=
  if leading < 0 then
    '0' :: '.' :: (List.replicate ((-leading).toNat - 1) '0' ++ digits)
  else
    let whole := leading.toNat + 1
    let shown := digits.take whole ++ List.replicate (whole - digits.length) '0'
    let rest := digits.drop whole
    shown ++ '.' :: (if rest.isEmpty then ['0'] else rest)

/-- Digits with one place before the point, and the exponent of ten. -/
def scientific (digits : List Char) (leading : Int) : List Char :=
  let mantissa := match digits with
    | first :: second :: rest => first :: '.' :: second :: rest
    | short => short
  mantissa ++ 'e' :: exponentText leading

/-- The written form: positional from 0.0001 up to below 10 ^ 16, else with an exponent. -/
def text (number : Decimal) : List Char :=
  let digits := significant (digitsOf number.digits)
  let leading := number.leading
  if -4 ≤ leading ∧ leading < 16 then positional digits leading else scientific digits leading

end Decimal

namespace Binary64

/-- The whole part of a power of ten: the power itself if the exponent is not negative. -/
def tenTo (exponent : Int) : Nat :=
  Nat.pow 10 exponent.toNat

/-- Whether a decimal number lies among the reals that round to a positive count of units.

All bounds are counted in quarters of a unit, so that the nearer neighbour below a power of two has
a whole bound as well. -/
def holds (units : Nat) (candidate : Decimal) : Bool :=
  let step := spacing units
  let even := units / step % 2 = 0
  let below := if units = Nat.pow 2 units.log2 ∧ 1 < step then step else 2 * step
  let scale := tenTo (-candidate.exponent)
  let place := candidate.digits * tenTo candidate.exponent * (4 * unit)
  let lower := (4 * units - below) * scale
  let upper := (4 * units + 2 * step) * scale
  if even then lower ≤ place ∧ place ≤ upper else lower < place ∧ place < upper

/-- How far a decimal number lies from a count of units, in a measure common to one exponent. -/
def distance (units : Nat) (candidate : Decimal) : Nat :=
  let place := candidate.digits * tenTo candidate.exponent * unit
  let wanted := units * tenTo (-candidate.exponent)
  (place - wanted) + (wanted - place)

/-- The exponent of ten of the leading digit of a positive count of units. -/
def leadingExponent (units : Nat) : Int :=
  (Decimal.digitsOf (units * tenTo 324 / unit)).length - 325

/-- Whether the upper of two neighbours on a decimal grid is the nearer, a tie going to the even. -/
def prefersUpper (units : Nat) (below above : Decimal) : Bool :=
  let down := distance units below
  let up := distance units above
  up < down || (up == down && above.digits % 2 == 0)

/-- The nearer of the two neighbours with the given number of digits, if one reads back. -/
def withDigits (units count : Nat) : Option Decimal :=
  let exponent := leadingExponent units + 1 - count
  let floor := units * tenTo (-exponent) / (unit * tenTo exponent)
  let below : Decimal := ⟨floor, exponent⟩
  let above : Decimal := ⟨floor + 1, exponent⟩
  match holds units below, holds units above with
  | true, true => some (if prefersUpper units below above then above else below)
  | true, false => some below
  | false, true => some above
  | false, false => none

/-- The shortest decimal number that reads back as a positive count of units. -/
def shortest (units : Nat) : Decimal :=
  ((List.range' 1 17).findSome? (withDigits units)).getD ⟨0, 0⟩

/-- The written form of a number. -/
def text : Binary64 → String
  | nan => "nan"
  | infinite negative => if negative then "-inf" else "inf"
  | finite negative units =>
      let digits := if units = 0 then ['0', '.', '0'] else (shortest units).text
      String.ofList (if negative then '-' :: digits else digits)

/-- The natural number that decimal digits spell, if all are digits. -/
def readDigits (digits : List Char) : Option Nat :=
  if digits.all Char.isDigit then
    some (digits.foldl (fun number digit => 10 * number + (digit.toNat - '0'.toNat)) 0)
  else none

/-- A signed integer of at least one digit. -/
def readExponent : List Char → Option Int
  | [] | ['-'] | ['+'] => none
  | '-' :: digits => (readDigits digits).map fun number => -(number : Int)
  | '+' :: digits => (readDigits digits).map Int.ofNat
  | digits => (readDigits digits).map Int.ofNat

/-- An unsigned decimal number with an optional fraction and exponent. -/
def readDecimal (chars : List Char) : Option Decimal := do
  let mantissa := chars.takeWhile fun char => char != 'e' && char != 'E'
  let exponent ← match chars.dropWhile fun char => char != 'e' && char != 'E' with
    | [] => some 0
    | _ :: digits => readExponent digits
  let whole := mantissa.takeWhile (· != '.')
  let fraction := (mantissa.dropWhile (· != '.')).drop 1
  let digits ← readDigits (whole ++ fraction)
  if (whole ++ fraction).isEmpty then none else some ⟨digits, exponent - fraction.length⟩

/-- The number nearest to a decimal number. -/
def ofDecimal (negative : Bool) (number : Decimal) : Binary64 :=
  ofQuotient negative (number.digits * tenTo number.exponent) (tenTo (-number.exponent))

/-- Reads a written number. -/
def ofText? (text : String) : Option Binary64 :=
  let (negative, chars) := match text.toList with
    | '-' :: rest => (true, rest)
    | chars => (false, chars)
  match chars with
  | ['n', 'a', 'n'] => some nan
  | ['i', 'n', 'f'] => some (infinite negative)
  | _ => (readDecimal chars).map (ofDecimal negative)

end Binary64

end PicAssembly
