/-!
# Binary floating point numbers

The numbers of the 64-bit binary format, held exactly: a finite magnitude is a whole count of the
smallest positive number, so every operation is one exact quotient followed by one rounding to 53
significant bits, a half going to the even neighbour.
-/

namespace PicAssembly

/-- A number of the format; `units` counts multiples of `2 ^ (-1074)`. -/
inductive Binary64 where
  | nan
  | infinite (negative : Bool)
  | finite (negative : Bool) (units : Nat)
deriving DecidableEq, Repr

namespace Binary64

/-- The units of the number one. -/
def unit : Nat := Nat.pow 2 1074

/-- The least count of units that is too large for a finite number. -/
def overflow : Nat := Nat.pow 2 2098

/-- The whole number nearest to a quotient, a half going to the even neighbour. -/
def roundHalfEven (numerator denominator : Nat) : Nat :=
  let quotient := numerator / denominator
  let twice := 2 * (numerator % denominator)
  if twice < denominator then quotient
  else if denominator < twice then quotient + 1
  else quotient + quotient % 2

/-- The distance between neighbouring numbers around a count of units. -/
def spacing (units : Nat) : Nat :=
  Nat.pow 2 (units.log2 - 52)

/-- The count of units nearest to a quotient that 53 significant bits can hold. -/
def roundUnits (numerator denominator : Nat) : Nat :=
  let step := spacing (numerator / denominator)
  roundHalfEven numerator (denominator * step) * step

/-- The number nearest to a signed quotient of whole numbers. -/
def ofQuotient (negative : Bool) (numerator denominator : Nat) : Binary64 :=
  let units := roundUnits (numerator * unit) denominator
  if units < overflow then finite negative units else infinite negative

/-- The number nearest to an integer. -/
def ofInt (value : Int) : Binary64 :=
  ofQuotient (value < 0) value.natAbs 1

/-- Division, rounded once; a zero divisor gives an infinity, or no number for zero by zero. -/
def divide : Binary64 → Binary64 → Binary64
  | nan, _ | _, nan | infinite _, infinite _ => nan
  | infinite left, finite right _ => infinite (left != right)
  | finite left _, infinite right => finite (left != right) 0
  | finite left numerator, finite right 0 =>
      if numerator = 0 then nan else infinite (left != right)
  | finite left numerator, finite right denominator =>
      ofQuotient (left != right) numerator denominator

/-- A count of units with its sign. -/
def signed (negative : Bool) (units : Nat) : Int :=
  if negative then -(units : Int) else units

/-- An integer as a number of any size, which nothing has rounded. -/
def exactly (value : Int) : Binary64 :=
  finite (value < 0) (value.natAbs * unit)

/-- How two numbers compare; an undefined one does not. -/
def order? : Binary64 → Binary64 → Option Ordering
  | nan, _ | _, nan => none
  | infinite left, infinite right => some (compare right.toNat left.toNat)
  | infinite left, finite .. => some (if left then .lt else .gt)
  | finite .., infinite right => some (if right then .gt else .lt)
  | finite left leftUnits, finite right rightUnits =>
      some (compare (signed left leftUnits) (signed right rightUnits))

/-- The least integer that is not below a finite number. -/
def ceiling (negative : Bool) (units : Nat) : Int :=
  if negative then -(units / unit : Nat) else ((units + (unit - 1)) / unit : Nat)

/-- Whether a number equals an integer exactly. -/
def equalsInt : Binary64 → Int → Bool
  | finite negative units, value =>
      units == value.natAbs * unit && (units == 0 || negative == decide (value < 0))
  | _, _ => false

/-- Equality of numbers: nothing equals `nan`, and the two zeros are equal. -/
def equals : Binary64 → Binary64 → Bool
  | infinite left, infinite right => left == right
  | finite left leftUnits, finite right rightUnits =>
      leftUnits == rightUnits && (leftUnits == 0 || left == right)
  | _, _ => false

/-- The number of opposite sign. -/
def negate : Binary64 → Binary64
  | nan => nan
  | infinite negative => infinite !negative
  | finite negative units => finite (!negative) units

/-- Whether a number is undefined. -/
def isNan : Binary64 → Bool
  | nan => true
  | _ => false

/-- Whether a number is one of the two zeros. -/
def isZero : Binary64 → Bool
  | finite _ units => units == 0
  | _ => false

end Binary64

end PicAssembly
