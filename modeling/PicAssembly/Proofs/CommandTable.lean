import PicAssembly.Duration
import PicAssembly.Operation
import PicAssembly.Pins

/-!
# The table of commands

The lines of every command that is well formed.  An operation with admissible operands has the lines
of its row; a scope puts its own lines around those of its body, and a sequence has the lines of its
commands in order.  A command without lines is ill formed.
-/

namespace PicAssembly.CommandTable

/-- An instruction: after a tab its mnemonic, and after another one its operands. -/
def instruction (mnemonic : String) (operands : List String) : String :=
  "\t" ++ mnemonic ++ "\t" ++ ", ".intercalate operands

/-- An operand as a hexadecimal literal, which only integers and truth values have. -/
def literal? (operand : Value) : Option String :=
  operand.integer?.map Literal.hexadecimal

/-- The mapping that the operands of a pin operation are read as. -/
def mapping? : List Value → Option Dictionary
  | [] => some .empty
  | [pins] => (Pins.ofValue pins).toOption
  | _ => none

/-- Whether a mapping gives a pin a word. -/
def gives (entries : Entries) (pin word : String) : Bool :=
  entries.any fun entry => Pins.isWord pin entry.1 && Pins.isWord word entry.2

/-- The direction mask, where every pin is an input unless the mapping makes it an output. -/
def mask (entries : Entries) : String :=
  let bit := fun pin => if gives entries pin "out" then "0" else "1"
  "b'0000" ++ bit "gp3" ++ bit "gp2" ++ bit "gp1" ++ bit "gp0" ++ "'"

/-- The instruction that drives the pin of an entry high or low; three pins can be driven. -/
def drive? (entry : Value × Value) : Option String :=
  let mnemonic := if Pins.isWord "hi" entry.2 then "bsf" else "bcf"
  if Pins.isWord "gp0" entry.1 then some (instruction mnemonic ["GPIO", "0"])
  else if Pins.isWord "gp1" entry.1 then some (instruction mnemonic ["GPIO", "1"])
  else if Pins.isWord "gp2" entry.1 then some (instruction mnemonic ["GPIO", "2"])
  else none

/-- How often a duration holds the delay unit, rounded up, if that is a finite number. -/
def units? (duration : Value) : Option Nat :=
  match (Duration.seconds duration).toOption.map (·.divide Device.delayUnit) with
  | some (Binary64.finite negative quotient) => some (Binary64.ceiling negative quotient).toNat
  | _ => none

/-- The lines of an operation that neither opens a scope nor ends the program. -/
def row? : Operation → List Value → Option (List String)
  | .add, [value, register] => do
      some [instruction "movlw" [← literal? value], instruction "addwf" [register.text, "w"], ""]
  | .clearBit, [register, bit] => do
      some [instruction "bcf" [register.text, ← literal? bit], ""]
  | .configIo, operands => do
      some [instruction "movlw" [mask (← mapping? operands).entries],
        instruction "tris" ["GPIO"], ""]
  | .copy, [source, destination] =>
      some [instruction "movf" [source.text, "w"], instruction "movwf" [destination.text], ""]
  | .decrement, [register] => some [instruction "decf" [register.text, "f"], ""]
  | .decrementBy, [value, register] => do
      some [instruction "movlw" [← literal? value], instruction "subwf" [register.text, "f"], ""]
  | .delay, [duration] => do
      some (List.replicate (← units? duration) (instruction "call" ["Four_microsecond_delay"]) ++
        [""])
  | .done, [value] => do some [instruction "retlw" [← literal? value], ""]
  | .increment, [register] => some [instruction "incf" [register.text, "f"], ""]
  | .incrementBy, [value, register] => do
      some [instruction "movlw" [← literal? value], instruction "addwf" [register.text, "f"], ""]
  | .initClock, [] =>
      some [instruction "movwf" ["OSCCAL"], instruction "movlw" ["b'10011000'"], "\toption", ""]
  | .jump, [target] => some [instruction "goto" [label target.text], ""]
  | .set, [register, value] => do
      some [instruction "movlw" [← literal? value], instruction "movwf" [register.text], ""]
  | .setBit, [register, bit] => do
      some [instruction "bsf" [register.text, ← literal? bit], ""]
  | .setIo, operands => do some ((← (← mapping? operands).entries.mapM drive?) ++ [""])
  | .subtract, [value, register] => do
      some [instruction "movlw" [← literal? value], instruction "subwf" [register.text, "w"], ""]
  | .subtractAndSet, [subtrahend, register] =>
      some [instruction "movf" [subtrahend.text, "w"], instruction "subwf" [register.text, "f"]]
  | .test, [register, bit, target] => do
      some [instruction "btfss" [register.text, ← literal? bit],
        instruction "goto" [label target.text], ""]
  | .testCarry, [target] =>
      some [instruction "btfss" ["STATUS", "0"], instruction "goto" [label target.text], ""]
  | _, _ => none

/-- The operation that a value names. -/
def operation? : Value → Option Operation
  | .str name => Operation.ofName? name
  | _ => none

/-- The line of a call by a name that is no operation; it takes no operands. -/
def call? (name : Value) : List Value → Option (List String)
  | [] =>
      if name.unsearchable?.isNone then some [instruction "call" [label name.text]] else none
  | _ => none

/-- The lines that a name with operands is dispatched to; a skip dispatches its inner operation. -/
def dispatched? (name : Value) (operands : List Value) : Option (List String) :=
  match operation? name, operands with
  | some .decrementAndTest, register :: inner :: rest => do
      some (instruction "decfsz" [register.text, "f"] :: (← dispatched? inner rest) ++ [""])
  | some operation, operands => row? operation operands
  | none, operands => call? name operands

/-- The name and the operands of a command: a text alone, or a sequence that starts with one. -/
def parts? (command : Value) : Option (String × List Value) :=
  match command with
  | .str name => some (name, [])
  | _ =>
      match command.elements? with
      | some (.str name :: operands) => some (name, operands)
      | _ => none

mutual

/-- The lines of a command. -/
inductive Writes : Value → List String → Prop
  | plain {command : Value} {name : String} {operands : List Value} {lines : List String}
      (parts : parts? command = some (name, operands))
      (row : dispatched? (.str name) operands = some lines) :
      Writes command lines
  | block {command heading body : Value} {name : String} {commands : List Value}
      {lines : List String} (parts : parts? command = some (name, [heading, body]))
      (isBlock : name = "subr" ∨ name = "block") (items : body.elements? = some commands)
      (inner : WritesAll commands lines) :
      Writes command (label heading.text :: lines ++ [""])
  | loop {command heading body : Value} {commands : List Value} {lines : List String}
      (parts : parts? command = some ("loop", [heading, body]))
      (items : body.elements? = some commands) (inner : WritesAll commands lines) :
      Writes command (label heading.text :: lines ++
        ["", instruction "goto" [label heading.text], ""])
  | constants {command body : Value} {declarations : List Value} {names : List String}
      (parts : parts? command = some ("constants", [body]))
      (items : body.elements? = some declarations)
      (declared : declarations.map parts? = names.map fun name => some (name, [])) :
      Writes command ("\tcblock 0x08" :: names.map ("\t\t" ++ ·) ++ ["\tendc", ""])

/-- The lines of commands in order. -/
inductive WritesAll : List Value → List String → Prop
  | nil : WritesAll [] []
  | cons {command : Value} {commands : List Value} {front back : List String}
      (first : Writes command front) (others : WritesAll commands back) :
      WritesAll (command :: commands) (front ++ back)

end

/-- The lines of a sequence of commands. -/
def Lists (sequence : Value) (lines : List String) : Prop :=
  ∃ commands, sequence.elements? = some commands ∧ WritesAll commands lines

/-- A sequence of commands is well formed if each of them has its lines. -/
def WellFormed (sequence : Value) : Prop :=
  ∃ lines, Lists sequence lines

/-- A command that ends the program, itself or by a command in the body of a labelled block. -/
inductive Ends : Value → Prop
  | command {command : Value} {operands : List Value}
      (parts : parts? command = some ("end_code", operands)) :
      Ends command
  | body {command inner body : Value} {name : String} {operands commands : List Value}
      (parts : parts? command = some (name, operands))
      (isLabelled : name = "subr" ∨ name = "block" ∨ name = "loop")
      (last : operands.getLast? = some body) (items : body.elements? = some commands)
      (member : inner ∈ commands) (ends : Ends inner) :
      Ends command

/-- Whether a sequence holds a command that ends the program. -/
def HoldsEnd (sequence : Value) : Prop :=
  ∃ commands, sequence.elements? = some commands ∧ ∃ command ∈ commands, Ends command

end PicAssembly.CommandTable
