import PicAssembly.Device

/-!
# Durations

A duration in seconds is waited for by the least number of delay units that covers it.  The
quotient by the unit is rounded to a binary number before it is rounded up.
-/

namespace PicAssembly.Duration

/-- The number of seconds that a value stands for. -/
def seconds (duration : Value) : Except Fault Binary64 :=
  match duration with
  | .float number => .ok number
  | _ =>
      match duration.integer? with
      | none => .error (.notDivisible duration.typeName)
      | some number =>
          match Binary64.ofInt number with
          | .infinite _ => .error .integerTooLarge
          | finite => .ok finite

/-- The count that a quotient of durations is rounded up to; a negative one counts as none. -/
def count : Binary64 → Except Fault Nat
  | .nan => .error .undefinedCount
  | .infinite _ => .error .infiniteCount
  | .finite negative units => .ok (Binary64.ceiling negative units).toNat

/-- The number of delay units that cover a duration. -/
def delayUnits (duration : Value) : Except Fault Nat := do
  count ((← seconds duration).divide Device.delayUnit)

end PicAssembly.Duration
