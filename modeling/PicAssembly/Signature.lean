import PicAssembly.Fault

/-!
# Signatures

Binding the arguments of a call to parameters: positions first, then keywords in their order.  A
keyword that does not fit is refused before a wrong count of positions, and a surplus before a lack.
-/

namespace PicAssembly

/-- The arguments of a call. -/
structure Arguments where
  positional : List Value
  keywords : List (String × Value)
deriving Repr

namespace Arguments

/-- A call with positional arguments only. -/
def ofList (positional : List Value) : Arguments :=
  ⟨positional, []⟩

end Arguments

/-- The parameters of a callable; a method has its receiver as first parameter. -/
structure Signature where
  callee : String
  receiver : Option String
  required : List String
  optional : List String
  takesRest : Bool
  takesKeywords : Bool
deriving Repr

/-- The outcome of binding: parameter values, surplus positions and surplus keywords. -/
structure Bound where
  slots : List (Option Value)
  rest : List Value
  extra : List (String × Value)
deriving Repr

namespace Bound

/-- The value of a parameter; one left out is null. -/
def slot (bound : Bound) (index : Nat) : Value :=
  (bound.slots[index]?.join).getD .null

end Bound

namespace Signature

/-- A method with required parameters only. -/
def method (callee : String) (required : List String) : Signature :=
  { callee, receiver := some "self", required, optional := [], takesRest := false,
    takesKeywords := false }

/-- A plain function with required parameters only. -/
def function (callee : String) (required : List String) : Signature :=
  { callee, receiver := none, required, optional := [], takesRest := false,
    takesKeywords := false }

/-- The names of all parameters but the receiver. -/
def parameters (signature : Signature) : List String :=
  signature.required ++ signature.optional

/-- One more if the callable has a receiver. -/
def withReceiver (signature : Signature) (count : Nat) : Nat :=
  if signature.receiver.isSome then count + 1 else count

/-- Gives a keyword argument its place. -/
def bindKeyword (signature : Signature) (bound : Bound) (keyword : String × Value) :
    Except Fault Bound :=
  if signature.receiver == some keyword.1 then
    .error (.repeatedArgument signature.callee keyword.1)
  else
    match signature.parameters.idxOf? keyword.1 with
    | some index =>
        if (bound.slots[index]?.join).isSome then
          .error (.repeatedArgument signature.callee keyword.1)
        else .ok { bound with slots := bound.slots.set index (some keyword.2) }
    | none =>
        if signature.takesKeywords then .ok { bound with extra := bound.extra ++ [keyword] }
        else .error (.unexpectedKeyword signature.callee keyword.1)

/-- The required parameters that have no value. -/
def missing (signature : Signature) (bound : Bound) : List String :=
  (signature.required.zip bound.slots).filterMap fun (parameter, value) =>
    if value.isNone then some parameter else none

/-- Binds the arguments of a call. -/
def bind (signature : Signature) (arguments : Arguments) : Except Fault Bound := do
  let count := signature.parameters.length
  let given := arguments.positional.length
  let placed := (arguments.positional.take count).map some
  let initial : Bound :=
    { slots := placed ++ List.replicate (count - given) none
      rest := arguments.positional.drop count
      extra := [] }
  let bound ← arguments.keywords.foldlM signature.bindKeyword initial
  if count < given && !signature.takesRest then
    throw (.tooManyArguments signature.callee
      (signature.withReceiver signature.required.length) (signature.withReceiver count)
      (signature.withReceiver given))
  let missing := signature.missing bound
  if missing.isEmpty then pure bound else throw (.missingArguments signature.callee missing)

end Signature

end PicAssembly
