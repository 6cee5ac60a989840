import PicAssembly.Stage.Scope

/-!
# Reading and replacing members

Everything has members by which its own members are read, replaced and removed, and some by which it
is compared and described.  They bind their arguments in words of their own.
-/

namespace PicAssembly.Stage

/-- The members that are worked out anew each time, so that nothing replaces them. -/
def derivedNames : Item → List String
  | .program _ => ["buffer", "code", "finalized"]
  | .labelled _ => ["label"]
  | _ => []

/-- The name of a member that a value gives. -/
def memberName : Value → Run String
  | .str name => pure name
  | other => throw (.memberName other.typeName)

/-- What a member holds, as an item. -/
def ofHeld : Held → Item
  | .program number => .program number
  | .listing _ => .sealed "LineBuffer"
  | .value value => .reply 0 (.value value)

/-- What holds the nesting guard of a program. -/
def guardItem (stage : Stage) (number : Nat) : Item :=
  match (stage.programs number).guard with
  | some block => .reply number (.scope (.constants block))
  | none => .nothing

/-- A member of an item, without anything that stands in for it. -/
def read (item : Item) (name : String) : Run Item := do
  let stage ← get
  let missing : Run Item := throw (.noAttribute item.typeName name)
  match item with
  | .program number =>
      match stage.replacement? number name with
      | some (some value) => pure (.reply 0 (.value value))
      | some none => missing
      | none =>
          if name = guardName then pure (guardItem stage number)
          else if name = bufferName then pure (.sealed "LineBuffer")
          else
            match Member.ofName name with
            | .ok (.operation found) => pure (.reply number (.operation found))
            | .ok (.field typeName) => pure (.sealed typeName)
            | .ok (.subroutine _) | .error _ => missing
            | .ok _ => pure (.sealed "method")
  | .reply number (.scope (.constants block)) =>
      match (stage.constantsMembers number block).lookup name with
      | some held => pure (ofHeld held)
      | none => if name = "declare" then pure (.sealed "method") else missing
  | .labelled block =>
      match (stage.labelledMembers block).lookup name with
      | some held => pure (ofHeld held)
      | none =>
          if name = "label" then pure (.reply 0 (.value (.str (← labelOf block)))) else missing
  | _ => missing

/-- Replaces a member of an item by a value. -/
def write (item : Item) (name : String) (value : Value) : Run Unit := do
  if (derivedNames item).contains name then throw (.fixedMember item.typeName name false)
  if name = "__class__" then throw (.typeReplaced value.typeName)
  match item with
  | .program number =>
      if name = guardName then holdGuard number (.inr value) else replace number name (some value)
  | .reply number (.scope (.constants block)) => setConstants number block name (.value value)
  | .labelled block => setLabelled block (((← get).labelledMembers block).set name (.value value))
  | other => throw (.noAttribute other.typeName name)

/-- Removes a member of an item. -/
def erase (item : Item) (name : String) : Run Unit := do
  if (derivedNames item).contains name then throw (.fixedMember item.typeName name true)
  if name = "__class__" then throw .typeRemoval
  let stage ← get
  let missing : Run Unit := throw (.noAttribute item.typeName name)
  let without (members : Members) : Members := members.filter (·.1 != name)
  match item with
  | .program number =>
      match stage.replacement? number name with
      | some none => missing
      | some (some _) => if name = guardName then remove number else restore number name
      | none => if name = guardName then remove number else missing
  | .reply number (.scope (.constants block)) =>
      let members := stage.constantsMembers number block
      if (members.lookup name).isNone then missing
      else set { stage with constants := ((number, block), without members) :: stage.constants }
  | .labelled block =>
      let members := stage.labelledMembers block
      if (members.lookup name).isNone then missing else setLabelled block (without members)
  | _ => missing
where
  /-- Removes the nesting guard of a program. -/
  remove (number : Nat) : Run Unit := do
    freeGuard number
    replace number guardName none

/-- The general members that take a fixed count of positions, with that count. -/
def fixedCounts : List (String × Nat) :=
  [ ("__delattr__", 1), ("__eq__", 1), ("__ge__", 1), ("__getattribute__", 1), ("__gt__", 1),
    ("__hash__", 0), ("__le__", 1), ("__lt__", 1), ("__ne__", 1), ("__repr__", 0),
    ("__setattr__", 2), ("__str__", 0) ]

/-- The fault of a general member that is called with arguments that it does not take. -/
def misfit? (typeName name : String) (arguments : Arguments) : Option Fault :=
  let given := arguments.positional.length
  let callee := typeName ++ "." ++ name
  let refuse (isMet : Bool) (fault : Fault) : Option Fault := if isMet then none else some fault
  let keywords (callee : String) : Option Fault :=
    refuse arguments.keywords.isEmpty (.noKeywords callee)
  match fixedCounts.lookup name, name with
  | some count, _ =>
      keywords ("wrapper " ++ name) <|>
        refuse (given == count)
          (if name = "__setattr__" then .changeCount given else .wrongCount count given)
  | none, "__format__" => keywords callee <|> refuse (given == 1) (.takesOne callee given)
  | none, "__init_subclass__" => keywords callee <|> refuse (given == 0) (.takesNone callee given)
  | none, "__subclasshook__" => keywords name
  | none, _ => none

/-- Calls a general member of an item, if it is one. -/
def general? (item : Item) (name : String) (arguments : Arguments) : Option (Run Item) :=
  let typeName := item.typeName
  let answer (run : Run Item) : Option (Run Item) :=
    some do
      match misfit? typeName name arguments with
      | some fault => throw fault
      | none => run
  match name, arguments.positional with
  | "__getattribute__", [member] => answer do read item (← memberName member)
  | "__setattr__", [member, value] => answer do
      write item (← memberName member) value
      pure .nothing
  | "__delattr__", [member] => answer do
      erase item (← memberName member)
      pure .nothing
  | "__format__", [.str text] =>
      answer (if text.isEmpty then pure (.sealed "str") else throw (.noNumericForm typeName))
  | "__format__", [form] =>
      answer (throw (.formatType (if form.typeName = "NoneType" then "None" else form.typeName)))
  | "__new__", [] => answer (throw .newWithoutType)
  | "__new__", type :: _ => answer (throw (.newOfValue type.typeName))
  | "__init_subclass__", _ => answer (pure .nothing)
  | "__doc__", _ => answer (throw (.notCallable "str"))
  | "__hash__", _ => answer (pure (.sealed "int"))
  | "__repr__", _ | "__str__", _ => answer (pure (.sealed "str"))
  | _, _ =>
      if (fixedCounts.lookup name).isSome || name = "__subclasshook__" || name = "__format__" then
        answer (pure (.reply 0 (.value (.thing .notImplemented))))
      else none

end PicAssembly.Stage
