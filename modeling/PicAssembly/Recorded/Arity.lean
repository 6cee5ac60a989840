import PicAssembly.Refusal

/-!
# Counts of arguments

How many arguments the functions and types that recorded scripts know take, and in which words a
call with another count is refused.
-/

namespace PicAssembly.Recorded

/-- How many arguments a callable takes. -/
inductive Arity where
  /-- Exactly one. -/
  | single
  /-- None at all. -/
  | empty
  /-- At least some and, unless there is no end to them, at most some. -/
  | between (least : Nat) (most : Option Nat)
  /-- The named parameters and more, up to a count; further ones are given by name. -/
  | named (required : List String) (most further : Nat)
  /-- At least some, up to a count; further ones are given by name. -/
  | ordered (least most further : Nat)
deriving Repr

namespace Arity

/-- A count of arguments in words. -/
def counted (count : Nat) : String :=
  toString count ++ (if count = 1 then " argument" else " arguments")

/-- The fault of a call of a callable that takes some arguments of a range. -/
def rangeRefusal? (callee : String) (least : Nat) (most : Option Nat) (given : Nat) :
    Option Fault :=
  let expected (words : String) (count : Nat) : Option Fault :=
    some (Refusal.type
      (callee ++ " expected " ++ words ++ counted count ++ ", got " ++ toString given))
  let words (bound : String) : String := if most = some least then "" else bound
  if given < least then expected (words "at least ") least
  else
    match most with
    | some most => if most < given then expected (words "at most ") most else none
    | none => none

/-- The fault of a call with too many arguments. -/
def surplusRefusal? (callee : String) (most further given : Nat) : Option Fault :=
  let given' := " (" ++ toString given ++ " given)"
  if most + further < given then
    some (Refusal.type (callee ++ "() takes at most " ++ counted (most + further) ++ given'))
  else if most < given then
    some (Refusal.type
      (callee ++ "() takes at most " ++ toString most ++ " positional arguments" ++ given'))
  else none

/-- The fault of a call with a count of arguments, if it is not among those that are taken. -/
def refusal? (callee : String) (arity : Arity) (given : Nat) : Option Fault :=
  match arity with
  | single => if given = 1 then none else some (.takesOne callee given)
  | empty => if given = 0 then none else some (.takesNone callee given)
  | between least most => rangeRefusal? callee least most given
  | named required most further =>
      match required[given]? with
      | some parameter =>
          some (Refusal.type (callee ++ "() missing required argument '" ++ parameter ++
            "' (pos " ++
            toString (given + 1) ++ ")"))
      | none => surplusRefusal? callee most further given
  | ordered least most further =>
      if given < least then
        some (Refusal.type (callee ++ "() takes at least " ++ toString least ++
          " positional argument (" ++ toString given ++ " given)"))
      else surplusRefusal? callee most further given

/-- The callables that take exactly one argument. -/
def singles : List String :=
  [ "abs", "aiter", "all", "any", "ascii", "bin", "callable", "chr", "hash", "hex", "id", "len",
    "oct", "ord", "repr" ]

/-- The callables that take arguments of a range. -/
def ranges : List (String × Nat × Option Nat) :=
  [ ("anext", 1, some 2), ("bool", 0, some 1), ("classmethod", 1, some 1), ("delattr", 2, some 2),
    ("dict", 0, some 1), ("dir", 0, some 1), ("divmod", 2, some 2), ("eval", 1, some 3),
    ("filter", 2, some 2), ("float", 0, some 1), ("format", 1, some 2), ("frozenset", 0, some 1),
    ("getattr", 2, some 3), ("hasattr", 2, some 2), ("input", 0, some 1),
    ("isinstance", 2, some 2), ("issubclass", 2, some 2), ("iter", 1, some 2),
    ("list", 0, some 1), ("max", 1, none), ("min", 1, none), ("next", 1, some 2),
    ("range", 1, some 3), ("reversed", 1, some 1), ("set", 0, some 1), ("setattr", 3, some 3),
    ("slice", 1, some 3), ("sorted", 1, some 1), ("staticmethod", 1, some 1),
    ("tuple", 0, some 1), ("vars", 0, some 1) ]

/-- The count of arguments that a callable takes, if it takes not any. -/
def ofName? (name : String) : Option Arity :=
  match name with
  | "globals" | "locals" => some empty
  | "__import__" => some (named ["name"] 5 0)
  | "compile" => some (named ["source", "filename", "mode"] 6 1)
  | "memoryview" => some (named ["object"] 1 0)
  | "open" => some (named ["file"] 8 0)
  | "pow" => some (named ["base", "exp"] 3 0)
  | "round" => some (named ["number"] 2 0)
  | "exec" => some (ordered 1 3 1)
  | "sum" => some (ordered 1 2 0)
  | "int" | "complex" => some (ordered 0 2 0)
  | "bytes" | "bytearray" | "str" => some (ordered 0 3 0)
  | "property" => some (ordered 0 4 0)
  | _ =>
      if singles.contains name then some single
      else (ranges.lookup name).map fun (least, most) => between least most

/-- The fault of a call of a callable with a count of arguments. -/
def misfit? (name : String) (given : Nat) : Option Fault :=
  (ofName? name).bind fun arity => refusal? name arity given

example : (misfit? "sorted" 2).map Fault.message = some "sorted expected 1 argument, got 2" ∧
    (misfit? "list" 2).map Fault.message = some "list expected at most 1 argument, got 2" ∧
    misfit? "pow" 2 = none := by
  decide +kernel

end Arity

end PicAssembly.Recorded
