import PicAssembly.Fault
import PicAssembly.Value.Equality

/-!
# Order of values

Numbers are ordered by their exact value across types and texts by the codes of their characters.
Two lists, or two tuples, are ordered as the first members that differ, or else by their lengths.
Nothing else is ordered.
-/

namespace PicAssembly.Value

/-- The two strict orders. -/
inductive Relation where
  | below
  | above
deriving DecidableEq, Repr

namespace Relation

/-- The sign of a relation. -/
def sign : Relation → String
  | below => "<"
  | above => ">"

/-- Whether a relation holds of things that compare as given. -/
def holds (relation : Relation) (ordering : Ordering) : Bool :=
  match relation with
  | below => ordering == .lt
  | above => ordering == .gt

end Relation

/-- The number that a value counts as. -/
def number? : Value → Option Binary64
  | float number => some number
  | value => value.integer?.map Binary64.exactly

/-- How two texts compare. -/
def orderOfTexts : List Char → List Char → Ordering
  | [], [] => .eq
  | [], _ :: _ => .lt
  | _ :: _, [] => .gt
  | left :: lefts, right :: rights =>
      if left = right then orderOfTexts lefts rights else compare left.toNat right.toNat

mutual

/-- Whether a relation holds of two values. -/
def relates (relation : Relation) (left right : Value) : Except Fault Bool :=
  match left, right with
  | str left, str right => .ok (relation.holds (orderOfTexts left.toList right.toList))
  | list lefts, list rights | tuple lefts, tuple rights => relatesAll relation lefts rights
  | left, right =>
      match left.number?, right.number? with
      | some left, some right => .ok ((Binary64.order? left right).any relation.holds)
      | _, _ => .error (.notOrdered relation.sign left.typeName right.typeName)

/-- Whether a relation holds of two sequences. -/
def relatesAll (relation : Relation) (lefts rights : List Value) : Except Fault Bool :=
  match lefts, rights with
  | [], rights => .ok (relation.holds (compare 0 rights.length))
  | _ :: _, [] => .ok (relation.holds .gt)
  | left :: lefts, right :: rights =>
      if left.equals true right then relatesAll relation lefts rights
      else relates relation left right

end

/-- The extreme of some values, the first of those that nothing exceeds. -/
def extreme (relation : Relation) (first : Value) (others : List Value) : Except Fault Value :=
  others.foldlM (fun found value => do
    pure (if ← relates relation value found then value else found)) first

/-- The length of the run at the start of some values in which each relates to the one before as
given. -/
def run (falling : Bool) (first : Value) : List Value → Except Fault Nat
  | [] => .ok 1
  | second :: rest => do
      if (← relates .below second first) = falling then
        pure ((← run falling second rest) + 1)
      else pure 1

/-- The place of a value among sorted values between two bounds, behind those equal to it. -/
def place (values : Array Value) (value : Value) (low high : Nat) : Except Fault Nat := do
  if inside : low < high then
    let middle := (low + high) / 2
    if ← relates .below value (values[middle]?.getD .null) then place values value low middle
    else place values value (middle + 1) high
  else pure low
termination_by high - low

/-- Puts a value in its place among sorted values. -/
def insertSorted (values : Array Value) (value : Value) : Except Fault (Array Value) := do
  let place ← place values value 0 values.size
  pure (values.extract 0 place ++ #[value] ++ values.extract place values.size)

/-- Sorts values: the run at their start is taken as it is, and each further value is put in its
place. -/
def sorted (values : List Value) : Except Fault (List Value) := do
  match values with
  | first :: second :: rest =>
      let falling ← relates .below second first
      let count ← run falling first (second :: rest)
      let start := values.take count
      let start := if falling then start.reverse else start
      pure (← (values.drop count).foldlM insertSorted start.toArray).toList
  | short => pure short

end PicAssembly.Value
