import PicAssembly.Value.Basic

/-!
# Handing values over

A program that is handed a value knows the parts of itself in it from those of other programs.
-/

namespace PicAssembly

/-- A thing as the program with a number sees it. -/
def Thing.handedTo (number : Nat) (held : Thing) : Thing :=
  if held.owner = some number then { held with owner := none } else held

namespace Value

mutual

/-- A value as the program with a number sees it. -/
def handedTo (number : Nat) : Value → Value
  | list items => list (allHandedTo number items)
  | tuple items => tuple (allHandedTo number items)
  | dict entries => dict (entriesHandedTo number entries)
  | thing held => thing (held.handedTo number)
  | value => value

/-- Several values as the program with a number sees them. -/
def allHandedTo (number : Nat) : List Value → List Value
  | [] => []
  | item :: items => handedTo number item :: allHandedTo number items

/-- Entries as the program with a number sees them. -/
def entriesHandedTo (number : Nat) : List (Value × Value) → List (Value × Value)
  | [] => []
  | entry :: entries => entryHandedTo number entry :: entriesHandedTo number entries

/-- An entry as the program with a number sees it. -/
def entryHandedTo (number : Nat) : Value × Value → Value × Value
  | (key, value) => (handedTo number key, handedTo number value)

end

end Value

end PicAssembly
