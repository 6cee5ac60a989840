import PicAssembly.Statement

/-!
# Tasks

A task is a request to a program with its arguments bound.  Binding never looks at the program; what
cannot be bound becomes a task that refuses, in the place where it stands.
-/

namespace PicAssembly

/-- A request with its arguments bound. -/
inductive Task where
  /-- Record the lines of a statement. -/
  | state (statement : Statement)
  /-- Ask for keys something that makes something of every name. -/
  | ask (asked : Thing)
  /-- Decrement a register and skip the inner task when it reaches zero. -/
  | skip (register : String) (inner : Task)
  /-- End the program. -/
  | finish
  /-- Make a labelled block, which may jump back to its label. -/
  | makeBlock (name : Value) (repeats : Bool)
  /-- Make a constants block. -/
  | makeConstants
  /-- Refuse. -/
  | refuse (fault : Fault)
deriving Repr

namespace Task

/-- The task of a call whose arguments are bound, or a refusal. -/
def ofBinding (binding : Except Fault Bound) (next : Bound → Task) : Task :=
  match binding with
  | .ok bound => next bound
  | .error fault => refuse fault

/-- The signature of a call of a subroutine by its name. -/
def callSignature : Signature :=
  .function "Program.resolve.<locals>._call" []

/-- A call of a subroutine by its name, which takes no arguments. -/
def ofCall (name : Value) (arguments : Arguments) : Task :=
  ofBinding (callSignature.bind arguments) fun _ => state (.call name.text)

/-- Whether a value names an operation that opens a scope. -/
def namesScope : Value → Bool
  | .str name => (Operation.ofName? name).any Operation.isScoped
  | _ => false

/-- Skips over an inner operation, which must not open a scope. -/
def skipping (register operation : Value) (inner : Task) : Task :=
  match operation.unsearchable? with
  | some typeName => refuse (.unhashable typeName)
  | none =>
      if namesScope operation then refuse (.scopedOperation operation)
      else skip register.text inner

/-- The task of an operation on pins.  A dictionary is made of them first, for which a thing that
makes something of every name is asked for its keys. -/
def ofPins (statement : Value → List (String × Value) → Statement) (bound : Bound) : Task :=
  match (bound.slot 0).callee? with
  | some asked => ask asked
  | none => state (statement (bound.slot 0) bound.extra)

/-- The task of an operation with its parameters bound; `inner` is what it skips, if it skips. -/
def ofBound (operation : Operation) (bound : Bound) (inner : Task) : Task :=
  let value := bound.slot
  let text := fun index => (bound.slot index).text
  match operation with
  | .add => state (.addTo (value 0) (text 1))
  | .block | .subr => makeBlock (value 0) false
  | .clearBit => state (.clearBit (text 0) (value 1))
  | .configIo => ofPins .configurePins bound
  | .constants => makeConstants
  | .copy => state (.copy (text 0) (text 1))
  | .decrement => state (.decrement (text 0))
  | .decrementAndTest => skipping (value 0) (value 1) inner
  | .decrementBy => state (.decrementBy (value 0) (text 1))
  | .delay => state (.delay (value 0))
  | .done => state (.returnWith (value 0))
  | .endCode => finish
  | .increment => state (.increment (text 0))
  | .incrementBy => state (.incrementBy (value 0) (text 1))
  | .initClock => state .initClock
  | .jump => state (.jump (text 0))
  | .loop => makeBlock (value 0) true
  | .set => state (.set (text 0) (value 1))
  | .setBit => state (.setBit (text 0) (value 1))
  | .setIo => ofPins .drivePins bound
  | .subtract => state (.subtractFrom (value 0) (text 1))
  | .subtractAndSet => state (.subtractInto (text 0) (text 1))
  | .test => state (.test (text 0) (value 1) (text 2))
  | .testCarry => state (.testCarry (text 0))

/-- The operation that a value names; a value that cannot be looked up is refused. -/
def operation? (name : Value) : Except Fault (Option Operation) :=
  match name with
  | .str name => .ok (Operation.ofName? name)
  | _ =>
      match name.unsearchable? with
      | some typeName => .error (.unhashable typeName)
      | none => .ok none

/-- The task of an operation, or of a subroutine call, given by name and positional arguments. -/
def read (name : Value) (arguments : List Value) : Task :=
  let inner := match arguments with
    | _ :: operation :: operands => read operation operands
    | _ => refuse .emptyCommand
  match operation? name with
  | .error fault => refuse fault
  | .ok none => ofCall name (.ofList arguments)
  | .ok (some operation) =>
      ofBinding (operation.signature.bind (.ofList arguments)) fun bound =>
        ofBound operation bound inner

/-- The task of an operation whose arguments may be given by keywords. -/
def ofOperation (operation : Operation) (arguments : Arguments) : Task :=
  ofBinding (operation.signature.bind arguments) fun bound =>
    ofBound operation bound (read (bound.slot 1) bound.rest)

end Task

end PicAssembly
