import PicAssembly.Fault
import PicAssembly.Value.Dictionary

/-!
# Literals in recorded scripts

The numbers that have no digits are written by name in a literal, so a script can bind those names
to something else.  A long dictionary is made in portions, and brackets may be open only so deep.
-/

namespace PicAssembly.Recorded.Literal

/-- How many brackets may be open at once. -/
def mostBrackets : Nat := 200

mutual

/-- How many brackets are open at once in a value. -/
def brackets : Value → Nat
  | .list items | .tuple items => bracketsOfAll items + 1
  | .dict entries => bracketsOfEntries entries + 1
  | _ => 0

/-- How many brackets are open at once in one of several values. -/
def bracketsOfAll : List Value → Nat
  | [] => 0
  | item :: items => max (brackets item) (bracketsOfAll items)

/-- How many brackets are open at once in one of several entries. -/
def bracketsOfEntries : List (Value × Value) → Nat
  | [] => 0
  | entry :: entries => max (bracketsOfEntry entry) (bracketsOfEntries entries)

/-- How many brackets are open at once in a key or its value. -/
def bracketsOfEntry : Value × Value → Nat
  | (key, value) => max (brackets key) (brackets value)

end

/-- The negative of a value. -/
def negative (value : Value) : Except Fault Value :=
  match value, value.integer? with
  | .float number, _ => .ok (.float number.negate)
  | _, some number => .ok (.int (-number))
  | _, none => .error (.noNegative value.typeName)

/-- Refuses entries whose keys can be none. -/
def checkEntries (entries : Entries) : Except Fault Unit :=
  match entries.findSome? fun entry => entry.1.unhashable? with
  | some typeName => .error (.unhashable typeName)
  | none => .ok ()

/-- How many entries of a dictionary are added one by one before the others are looked at. -/
def portion : Nat := 17

section

variable (named : String → Except Fault Value)

mutual

/-- The value of a literal, where names stand for what they are bound to. -/
def evaluate : Value → Except Fault Value
  | .float .nan => named "nan"
  | .float (.infinite false) => named "inf"
  | .float (.infinite true) => do negative (← named "inf")
  | .list items => do pure (.list (← evaluateAll items))
  | .tuple items => do pure (.tuple (← evaluateAll items))
  | .dict entries => do
      let values ← evaluateEntries 0 entries.length entries
      checkEntries values
      pure (.dict (Entries.ofLiteral values))
  | value => .ok value

/-- The values of several literals. -/
def evaluateAll : List Value → Except Fault (List Value)
  | [] => .ok []
  | item :: items => do
      let first ← evaluate item
      pure (first :: (← evaluateAll items))

/-- The values of the last entries of a literal, the first of which is at the given place, where all
entries have the given count.  A key of a full portion is checked as soon as it has a value. -/
def evaluateEntries (place count : Nat) :
    List (Value × Value) → Except Fault (List (Value × Value))
  | [] => .ok []
  | entry :: entries => do
      let first ← evaluateEntry entry
      if place < count / portion * portion then checkEntries [first]
      pure (first :: (← evaluateEntries (place + 1) count entries))

/-- The values of one entry of a literal. -/
def evaluateEntry : Value × Value → Except Fault (Value × Value)
  | (key, value) => do
      let key ← evaluate key
      pure (key, ← evaluate value)

end

end

end PicAssembly.Recorded.Literal
