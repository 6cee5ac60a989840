import PicAssembly.Number.Binary64

/-!
# Operand values

The values that callers hand to a program: operands, names, command trees and pin mappings.  Left
out are numbers of further types, such as fractions, things with texts or comparisons of their own,
and whole numbers of more than 4300 digits, which have no decimal text unless that limit is raised.
-/

namespace PicAssembly

/-- Something that can be named and handed on but is no plain value.  Its name and its number tell
it apart from others of its type, and it is written as it likes to be. -/
structure Thing where
  typeName : String
  name : String
  number : Nat
  literal : String
  text : String
  /-- The number of the program that it belongs to; none is given for what belongs to the program
  that it is handed to. -/
  owner : Option Nat := none
deriving DecidableEq, Repr

namespace Thing

/-- A thing with a name, written in one way. -/
def named (typeName name literal : String) : Thing :=
  { typeName, name, number := 0, literal, text := literal }

/-- A thing with a number. -/
def numbered (typeName : String) (number : Nat) : Thing :=
  let literal := "<" ++ typeName ++ ">"
  { typeName, name := "", number, literal, text := literal }

/-- A thing of which nothing is known but its type. -/
def ofType (typeName : String) : Thing :=
  numbered typeName 0

/-- A program, known by its number; without one it is the program that it is handed to. -/
def program (owner : Option Nat) : Thing :=
  { ofType "Program" with owner }

/-- A constants block of a program, known by the order in which it was made. -/
def constants (owner : Option Nat) (index : Nat) : Thing :=
  { numbered "ConstantBlock" index with owner }

/-- Whether a thing makes something of every public name that is called on it: a program takes the
name for that of a subroutine, a constants block for that of a register. -/
def takesNames (held : Thing) : Bool :=
  held.typeName == "Program" || held.typeName == "ConstantBlock"

/-- A type of things. -/
def type (name path : String) : Thing :=
  named "type" name ("<class '" ++ path ++ "'>")

/-- What a comparison gives that decides nothing. -/
def notImplemented : Thing :=
  named "NotImplementedType" "NotImplemented" "NotImplemented"

/-- Something that can be called. -/
def function : Thing :=
  ofType "function"

/-- The types of collections that are no plain values; a thing of such a type is empty. -/
def collectionTypes : List String :=
  ["bytes", "bytearray", "frozenset", "set"]

/-- Whether a thing holds nothing. -/
def isEmpty (held : Thing) : Bool :=
  collectionTypes.contains held.typeName

/-- Whether a thing counts as true; the only complex number is zero. -/
def isTruthy (held : Thing) : Bool :=
  !held.isEmpty && held.typeName != "complex"

/-- Whether a thing can be walked through, which meets nothing. -/
def isWalkable (held : Thing) : Bool :=
  held.isEmpty || held.typeName == "zip"

/-- Whether a thing can be no key. -/
def isUnhashable (held : Thing) : Bool :=
  held.typeName == "set" || held.typeName == "bytearray"

end Thing

/-- A value given by a caller; the entries of a dictionary keep their order. -/
inductive Value where
  | null
  | bool (value : Bool)
  | int (value : Int)
  | float (value : Binary64)
  | str (value : String)
  | list (items : List Value)
  | tuple (items : List Value)
  | dict (entries : List (Value × Value))
  | thing (thing : Thing)
deriving Repr

instance : Inhabited Value := ⟨.null⟩

namespace Value

/-- The name of a value's type. -/
def typeName : Value → String
  | null => "NoneType"
  | bool _ => "bool"
  | int _ => "int"
  | float _ => "float"
  | str _ => "str"
  | list _ => "list"
  | tuple _ => "tuple"
  | dict _ => "dict"
  | thing held => held.typeName

/-- Whether a value counts as true: everything but null, false, zero and the empty. -/
def isTruthy : Value → Bool
  | null => false
  | bool value => value
  | int value => value != 0
  | float value => !value.isZero
  | str value => !value.isEmpty
  | list items | tuple items => !items.isEmpty
  | dict entries => !entries.isEmpty
  | thing held => held.isTruthy

/-- The items met when a value is walked through: characters, members or keys. -/
def elements? : Value → Option (List Value)
  | str value => some (value.toList.map fun char => str (String.singleton char))
  | list items | tuple items => some items
  | dict entries => some (entries.map Prod.fst)
  | thing held => if held.isWalkable then some [] else none
  | _ => none

/-- The integer that a value counts as. -/
def integer? : Value → Option Int
  | int value => some value
  | bool value => some value.toNat
  | _ => none

mutual

/-- The type of the first part that keeps a value from being a key. -/
def unhashable? : Value → Option String
  | list _ => some "list"
  | dict _ => some "dict"
  | tuple items => firstUnhashable? items
  | thing held => if held.isUnhashable then some held.typeName else none
  | _ => none

/-- The first such type among several values. -/
def firstUnhashable? : List Value → Option String
  | [] => none
  | item :: items => unhashable? item <|> firstUnhashable? items

end

/-- The type that keeps a value from being looked up among names.  A set that is no part of another
value is looked up by what it holds. -/
def unsearchable? (value : Value) : Option String :=
  match value with
  | thing held => if held.typeName == "set" then none else value.unhashable?
  | _ => value.unhashable?

/-- The thing that a value is, if it makes something of every public name. -/
def callee? : Value → Option Thing
  | thing held => if held.takesNames then some held else none
  | _ => none

end Value

end PicAssembly
