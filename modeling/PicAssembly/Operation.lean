import PicAssembly.Signature

/-!
# Operations

The vocabulary of a program: the name and the parameters of every operation.
-/

namespace PicAssembly

/-- The operations of a program. -/
inductive Operation where
  | add
  | block
  | clearBit
  | configIo
  | constants
  | copy
  | decrement
  | decrementAndTest
  | decrementBy
  | delay
  | done
  | endCode
  | increment
  | incrementBy
  | initClock
  | jump
  | loop
  | set
  | setBit
  | setIo
  | subr
  | subtract
  | subtractAndSet
  | test
  | testCarry
deriving DecidableEq, Repr

namespace Operation

/-- All operations in the order of their names. -/
def all : List Operation :=
  [ add, block, clearBit, configIo, constants, copy, decrement, decrementAndTest, decrementBy,
    delay, done, endCode, increment, incrementBy, initClock, jump, loop, set, setBit, setIo, subr,
    subtract, subtractAndSet, test, testCarry ]

/-- The name of an operation. -/
def name : Operation → String
  | add => "add"
  | block => "block"
  | clearBit => "clear_bit"
  | configIo => "config_io"
  | constants => "constants"
  | copy => "copy"
  | decrement => "decrement"
  | decrementAndTest => "decrement_and_test"
  | decrementBy => "decrement_by"
  | delay => "delay"
  | done => "done"
  | endCode => "end_code"
  | increment => "increment"
  | incrementBy => "increment_by"
  | initClock => "init_clock"
  | jump => "jump"
  | loop => "loop"
  | set => "set"
  | setBit => "set_bit"
  | setIo => "set_io"
  | subr => "subr"
  | subtract => "subtract"
  | subtractAndSet => "subtract_and_set"
  | test => "test"
  | testCarry => "test_carry"

/-- The operation with a given name. -/
def ofName? (name : String) : Option Operation :=
  all.find? fun operation => operation.name == name

/-- Whether an operation opens a scope. -/
def isScoped : Operation → Bool
  | block | constants | loop | subr => true
  | _ => false

/-- The parameters of an operation. -/
def parameters : Operation → List String
  | add => ["val", "to"]
  | block | loop | subr => ["name"]
  | clearBit | setBit => ["var", "bit"]
  | constants | endCode | initClock => []
  | configIo | setIo => []
  | copy => ["src", "dst"]
  | decrement | increment => ["var"]
  | decrementAndTest => ["var", "op"]
  | decrementBy | incrementBy => ["val", "sym"]
  | delay => ["secs"]
  | done => ["w"]
  | jump | testCarry => ["target"]
  | set => ["sym", "val"]
  | subtract => ["val", "frm"]
  | subtractAndSet => ["sym", "frm"]
  | test => ["var", "bit", "target"]

/-- Whether an operation takes pins, in a mapping and by keywords. -/
def takesPins : Operation → Bool
  | configIo | setIo => true
  | _ => false

/-- The signature of an operation. -/
def signature (operation : Operation) : Signature :=
  { callee := "Program." ++ operation.name
    receiver := some "self"
    required := operation.parameters
    optional := if operation.takesPins then ["pins"] else []
    takesRest := operation == decrementAndTest
    takesKeywords := operation.takesPins }

end Operation

end PicAssembly
