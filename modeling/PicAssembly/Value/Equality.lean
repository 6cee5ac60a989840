import PicAssembly.Value.Basic

/-!
# Equality of values

Values are equal when they have the same content; numbers are compared by their exact value across
types, and dictionaries without regard to order.  An undefined number equals nothing, except where
all undefined numbers are one and the same thing.
-/

namespace PicAssembly.Value

mutual

/-- Whether two values are equal; `shared` says that all undefined numbers are one thing. -/
def equals (shared : Bool) : Value → Value → Bool
  | null, null => true
  | str left, str right => left == right
  | list left, list right => allEqual shared left right
  | tuple left, tuple right => allEqual shared left right
  | dict left, dict right => left.length == right.length && allWithin shared left right
  | thing left, thing right => left == right
  | float left, float right => left.equals right || (shared && left.isNan && right.isNan)
  | float left, int right => left.equalsInt right
  | float left, bool right => left.equalsInt right.toNat
  | int left, float right => right.equalsInt left
  | bool left, float right => right.equalsInt left.toNat
  | left, right =>
      match left.integer?, right.integer? with
      | some left, some right => left == right
      | _, _ => false

/-- Whether two sequences are equal member by member. -/
def allEqual (shared : Bool) : List Value → List Value → Bool
  | [], [] => true
  | left :: lefts, right :: rights => equals shared left right && allEqual shared lefts rights
  | _, _ => false

/-- Whether each of several entries is among others. -/
def allWithin (shared : Bool) : List (Value × Value) → List (Value × Value) → Bool
  | [], _ => true
  | entry :: entries, others => isWithin shared entry others && allWithin shared entries others

/-- Whether an entry is among others. -/
def isWithin (shared : Bool) : Value × Value → List (Value × Value) → Bool
  | (key, value), others =>
      others.any fun other => equals shared key other.1 && equals shared value other.2

end

end PicAssembly.Value
