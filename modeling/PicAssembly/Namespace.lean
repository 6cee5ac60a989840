import PicAssembly.Fault

/-!
# Namespaces

The names of a script with what they are bound to.  A namespace selects one program: the one that a
chosen name is bound to, or else the only one, where names bound to one program count once.
-/

namespace PicAssembly

/-- What a name of a script is bound to. -/
inductive Binding (Id : Type) where
  | program (id : Id)
  | value (value : Value)

/-- Names with what they are bound to, in the order in which they were first bound. -/
abbrev Namespace (Id : Type) := List (String × Binding Id)

namespace Namespace

variable {Id : Type} [DecidableEq Id]

/-- Binds a name, in its old place if it has one and last otherwise. -/
def bind (bindings : Namespace Id) (name : String) (binding : Binding Id) : Namespace Id :=
  match bindings with
  | [] => [(name, binding)]
  | (first, old) :: rest =>
      if first = name then (first, binding) :: rest else (first, old) :: bind rest name binding

/-- Gives a name up. -/
def unbind (bindings : Namespace Id) (name : String) : Namespace Id :=
  bindings.filter fun binding => binding.1 != name

/-- The names of a sequence of bindings, a later one replacing an earlier one of the same name. -/
def ofList (bindings : List (String × Binding Id)) : Namespace Id :=
  bindings.foldl (fun bindings binding => bindings.bind binding.1 binding.2) []

/-- The members of a list in the order of their first occurrences. -/
def distinct : List Id → List Id
  | [] => []
  | id :: ids => id :: (distinct ids).filter (· != id)

@[simp]
theorem mem_distinct (id : Id) (ids : List Id) : id ∈ distinct ids ↔ id ∈ ids := by
  induction ids with
  | nil => simp [distinct]
  | cons first rest induction =>
      by_cases equal : id = first <;> simp [distinct, induction, equal]

/-- The program that a binding holds. -/
def program? : Binding Id → Option Id
  | .program id => some id
  | .value _ => none

/-- The distinct programs that names are bound to. -/
def programs (bindings : Namespace Id) : List Id :=
  distinct (bindings.filterMap fun binding => program? binding.2)

/-- The program that a chosen name is bound to. -/
def named (bindings : Namespace Id) (name : Value) : Except Fault Id :=
  match name.unhashable?, name with
  | some typeName, _ => .error (.unhashable typeName)
  | none, .str text =>
      match bindings.lookup text with
      | some (.program id) => .ok id
      | _ => .error (.notProgram name)
  | none, _ => .error (.notProgram name)

/-- The program that a script defines, under a chosen name or as the only one. -/
def discover (bindings : Namespace Id) (name : Option Value) : Except Fault Id :=
  match name with
  | some name => bindings.named name
  | none =>
      match bindings.programs with
      | [id] => .ok id
      | several => .error (.programCount several.length)

end Namespace

end PicAssembly
