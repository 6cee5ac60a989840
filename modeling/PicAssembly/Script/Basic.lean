import PicAssembly.Script.World

/-!
# Scripts

A script is known by what it does: one effect after another, each of which may depend on everything
before.  It goes on from the answer of each effect, also behind a fault of a program, and ends with
a result or with a fault.  It reaches programs through their public members alone, and what it
writes to the error stream is left out.
-/

namespace PicAssembly

/-- A script among files with contents of a given type, which ends with a result of a given type. -/
inductive Script (Content α : Type) where
  /-- End with a result. -/
  | finish (result : α)
  /-- End with a fault. -/
  | raise (fault : Fault)
  /-- Look at everything that there is. -/
  | look (next : World Content → Script Content α)
  /-- Print a text. -/
  | print (text : String) (next : Script Content α)
  /-- Change files, or the current directory. -/
  | change (effect : Site Content → Site Content) (next : Script Content α)
  /-- Make a program and go on with its number. -/
  | create (next : Nat → Script Content α)
  /-- Bind a name to a program or to a value. -/
  | bind (name : String) (binding : Binding Nat) (next : Script Content α)
  /-- Give a name up. -/
  | unbind (name : String) (next : Script Content α)
  /-- Replay commands on what a name is bound to. -/
  | replay (name : String) (commands : Value) (next : Except Fault Reply → Script Content α)
  /-- Make a request to a program, which is known by its number. -/
  | request (number : Nat) (request : Request) (next : Except Fault Reply → Script Content α)

namespace Script

variable {Content α β : Type}

/-- Goes on with the result of a script. -/
def andThen (goOn : α → Script Content β) : Script Content α → Script Content β
  | finish result => goOn result
  | raise fault => raise fault
  | look next => look fun world => andThen goOn (next world)
  | print text next => print text (andThen goOn next)
  | change effect next => change effect (andThen goOn next)
  | create next => create fun number => andThen goOn (next number)
  | bind name binding next => bind name binding (andThen goOn next)
  | unbind name next => unbind name (andThen goOn next)
  | replay name commands next => replay name commands fun outcome => andThen goOn (next outcome)
  | request number demand next => request number demand fun outcome => andThen goOn (next outcome)

instance : Monad (Script Content) where
  pure := finish
  bind script goOn := andThen goOn script

/-- A script that takes over an outcome. -/
def ofExcept : Except Fault α → Script Content α
  | .ok result => finish result
  | .error fault => raise fault

instance : MonadLift (Except Fault) (Script Content) where
  monadLift := ofExcept

/-- A script that catches its own fault. -/
def attempt : Script Content α → Script Content (Except Fault α)
  | finish result => finish (.ok result)
  | raise fault => finish (.error fault)
  | look next => look fun world => (next world).attempt
  | print text next => print text next.attempt
  | change effect next => change effect next.attempt
  | create next => create fun number => (next number).attempt
  | bind name binding next => bind name binding next.attempt
  | unbind name next => unbind name next.attempt
  | replay name commands next => replay name commands fun outcome => (next outcome).attempt
  | request number demand next => request number demand fun outcome => (next outcome).attempt

/-- A replay of commands on what a name is bound to, which ends the script if it fails. -/
def replaying (name : String) (commands : Value) : Script Content Unit :=
  replay name commands fun outcome => ofExcept (outcome.map fun _ => ())

/-- A request to a program, which ends the script if it fails. -/
def demand (number : Nat) (made : Request) : Script Content Reply :=
  request number made ofExcept

/-- A body inside a scope of a program; a fault in it leaves the scope and goes on outwards. -/
def within (number : Nat) (scope : Reply) (body : Script Content Unit) : Script Content Unit := do
  let _ ← demand number (.enter scope)
  let outcome ← body.attempt
  let _ ← demand number (.leave scope outcome.toOption.isNone)
  ofExcept outcome

/-- Runs a script. -/
def run : Script Content α → World Content → Except Fault α × World Content
  | finish result, world => (.ok result, world)
  | raise fault, world => (.error fault, world)
  | look next, world => (next world).run world
  | print text next, world => next.run { world with printed := world.printed ++ text }
  | change effect next, world => next.run { world with toSite := effect world.toSite }
  | create next, world => (next world.made).run { world with made := world.made + 1 }
  | bind name binding next, world => next.run { world with names := world.names.bind name binding }
  | unbind name next, world => next.run { world with names := world.names.unbind name }
  | replay name commands next, world =>
      let (outcome, world) := world.replay name commands
      (next outcome).run world
  | request number demand next, world =>
      let (outcome, world) := world.request number demand
      (next outcome).run world

end Script

end PicAssembly
