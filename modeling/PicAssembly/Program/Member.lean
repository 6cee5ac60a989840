import PicAssembly.Program.ScopeMember

/-!
# Members

What a program offers under a public name: its operations, its other methods, its fields, and for
every other name a call of the subroutine of that name.
-/

namespace PicAssembly

/-- A member of a program. -/
inductive Member where
  | operation (operation : Operation)
  | call
  | dispatch
  | replay
  | resolve
  | text
  | load
  | field (typeName : String)
  | subroutine (name : String)
deriving Repr

namespace Member

/-- The members of a program that are no operations. -/
def others : List (String × Member) :=
  [ ("OPERATIONS", field "frozenset"), ("SCOPED_OPERATIONS", field "frozenset"),
    ("buffer", field "LineBuffer"), ("call", call), ("code", field "pvectorc.PVector"),
    ("dispatch", dispatch), ("finalized", field "bool"), ("load", load), ("replay", replay),
    ("resolve", resolve), ("text", text) ]

/-- The member with a given name. -/
def ofName (name : String) : Except Fault Member :=
  match Operation.ofName? name, others.lookup name with
  | some found, _ => .ok (operation found)
  | none, some member => .ok member
  | none, none => if isPrivateName name then .error (.noMember name) else .ok (subroutine name)

/-- The signature of a method that is no operation. -/
def signature (method : String) (parameters : List String) : Signature :=
  .method ("Program." ++ method) parameters

/-- What a name resolves to: an operation, or else a call of a subroutine. -/
def resolved (name : Value) : Except Fault Reply := do
  match ← Task.operation? name with
  | some found => pure (.operation found)
  | none => pure (.subroutine name)

/-- Calls a member. -/
def apply (member : Member) (arguments : Arguments) : Build Reply :=
  match member with
  | operation found => do
      pure (.ofScope? (← (Task.ofOperation found arguments).perform))
  | call => do
      let bound ← Build.ofExcept ((signature "call" ["name"]).bind arguments)
      Build.perform (.call (bound.slot 0).text)
      pure .nothing
  | dispatch => do
      let signature := { signature "dispatch" ["name"] with takesRest := true }
      let bound ← Build.ofExcept (signature.bind arguments)
      pure (.ofScope? (← (Task.read (bound.slot 0) bound.rest).perform))
  | replay => do
      let bound ← Build.ofExcept ((signature "replay" ["commands"]).bind arguments)
      Build.replay (bound.slot 0)
      pure .nothing
  | resolve => do
      let bound ← Build.ofExcept ((signature "resolve" ["name"]).bind arguments)
      Build.ofExcept (resolved (bound.slot 0))
  | text => do
      let _ ← Build.ofExcept ((signature "text" []).bind arguments)
      pure (.value (.str (← (← get).listing.text)))
  | load => do
      let signature := { signature "load" ["fn"] with receiver := some "cls" }
      let bound ← Build.ofExcept (signature.bind arguments)
      throw (.notCallable (bound.slot 0).typeName)
  | field typeName => throw (.notCallable typeName)
  | subroutine name => do
      pure (.ofScope? (← (Task.ofCall (.str name) arguments).perform))

/-- Looks a member up and calls it. -/
def request (name : String) (arguments : Arguments) : Build Reply := do
  (← Build.ofExcept (ofName name)).apply arguments

end Member

namespace Reply

/-- Calls a reply with one argument. -/
def callWith (reply : Reply) (argument : Value) : Build Reply :=
  match reply with
  | scope inner => do
      inner.callWith argument
      pure nothing
  | operation found => Member.apply (.operation found) (.ofList [argument])
  | subroutine name => do
      pure (ofScope? (← (Task.ofCall name (.ofList [argument])).perform))
  | other => throw (.notCallable other.typeName)

/-- Calls a member of a reply. -/
def request (reply : Reply) (name : String) (positional : List Value) : Build Unit :=
  match reply with
  | scope inner => inner.request name positional
  | other => throw (other.noAttribute name)

/-- Enters a reply, which must be a scope. -/
def enter (reply : Reply) : Build Scope :=
  match reply with
  | scope inner => do
      inner.enter
      pure inner
  | other => throw (other.noAttribute "__enter__")

/-- Leaves a reply, which must be a scope, normally or as a fault does. -/
def leave (reply : Reply) (failed : Bool) : Build Unit :=
  match reply with
  | scope inner => if failed then inner.close else inner.leave
  | other => throw (other.noAttribute "__exit__")

end Reply

end PicAssembly
