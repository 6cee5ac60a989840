import PicAssembly.Program.Reply

/-!
# Members of scopes

What a scope offers under a public name.  On a constants block every name that is nothing else
declares a register; a labelled block has no further names.
-/

namespace PicAssembly

/-- Whether a name is private, so that it never stands for a subroutine or a register. -/
def isPrivateName (name : String) : Bool :=
  name.toList.head? == some '_'

namespace Scope

/-- Declares the register that a name stands for; the declaration takes no arguments. -/
def declareNamed (owner : ConstantsBlock) (name : String) (positional : List Value) :
    Build Unit := do
  let _ ← Build.ofExcept
    ((Signature.function "ConstantBlock.__getattr__.<locals>._declare" []).bind
      (.ofList positional))
  Build.declare owner name

/-- Declares the register that an argument names. -/
def declareGiven (owner : ConstantsBlock) (positional : List Value) : Build Unit := do
  let bound ← Build.ofExcept
    ((Signature.method "ConstantBlock.declare" ["name"]).bind (.ofList positional))
  Build.declare owner (bound.slot 0).text

/-- Calls a member of a scope. -/
def request (scope : Scope) (name : String) (positional : List Value) : Build Unit :=
  match scope with
  | block _ _ => throw (if name = "label" then .notCallable "str" else .noAttribute "Block" name)
  | constants owner =>
      if name = "declare" then declareGiven owner positional
      else if isPrivateName name then throw (.noMember name)
      else declareNamed owner name positional

/-- Runs a body that is given as a value; no value can be called. -/
def callWith (scope : Scope) (body : Value) : Build Unit :=
  scope.within (throw (.notCallable body.typeName))

end Scope

end PicAssembly
