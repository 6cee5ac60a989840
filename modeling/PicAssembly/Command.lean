import PicAssembly.Program.Task

/-!
# Commands

Recorded command trees.  A command is a name, or a sequence of a name and arguments; a scope takes
its body as the last argument.  Reading a tree gives every command its meaning, with a refusal in
the place of each part that has none, and replaying performs the commands in order.
-/

namespace PicAssembly

/-- A recorded command. -/
inductive Command where
  /-- An operation or a subroutine call. -/
  | run (task : Task)
  /-- A labelled block with its body. -/
  | block (name : Value) (repeats : Bool) (body : List Command)
  /-- A constants block with the names that it declares. -/
  | constants (names : List (Except Fault String))
  /-- Refuse. -/
  | refuse (fault : Fault)

namespace Command

/-- The fault of a sequence of commands that cannot be walked through. -/
def notSequence (value : Value) : Fault :=
  .notIterable value.typeName

/-- The name and the arguments of a command. -/
def split (command : Value) : Except Fault (String × List Value) :=
  match command with
  | .str name => .ok (name, [])
  | _ =>
      if !command.isTruthy then .error .emptyCommand
      else
        match command.elements? with
        | none => .error (.notUnpackable command.typeName)
        | some [] => .error .emptyCommand
        | some (.str name :: arguments) => .ok (name, arguments)
        | some (name :: _) => .error (.commandName name.typeName)

/-- The name that a command declares inside a constants block. -/
def constantName (command : Value) : Except Fault String := do
  let (name, arguments) ← split command
  if arguments.isEmpty then pure name else throw (.constantArguments name arguments.length)

/-- The names that a sequence of commands declares inside a constants block. -/
def constantNames (body : Value) : List (Except Fault String) :=
  match body.elements? with
  | some commands => commands.map constantName
  | none => [.error (notSequence body)]

/-- The name of a command that opens a scope, with the operation. -/
def scoped? (name : String) : Option Operation :=
  (Operation.ofName? name).filter Operation.isScoped

/-- Why something that is no program cannot dispatch a command: it has no such member, the type of
programs takes the name of the command for a program, and a constants block declares a register. -/
def notDispatched (target : Value) (arguments : List Value) : Fault :=
  match target with
  | .thing held =>
      if held.typeName = "type" then
        if held.name ≠ "Program" then .noTypeMember held.name "dispatch"
        else if arguments.isEmpty then .missingArguments "Program.dispatch" ["name"]
        else .noAttribute "str" "resolve"
      else if held.takesNames then
        .tooManyArguments "ConstantBlock.__getattr__.<locals>._declare" 0 0 (arguments.length + 1)
      else .noAttribute held.typeName "dispatch"
  | _ => .noAttribute target.typeName "dispatch"

/-- Why commands cannot be replayed on something that is no program, which is found at the first of
them. -/
def notReplayed? (target commands : Value) : Option Fault :=
  match commands.elements? with
  | none => some (notSequence commands)
  | some [] => none
  | some (first :: _) =>
      match split first with
      | .error fault => some fault
      | .ok (name, arguments) =>
          if (scoped? name).isNone then some (notDispatched target arguments)
          else if arguments.isEmpty then some (.missingBody name)
          else some (notDispatched target arguments.dropLast)

/-- A scope command with the commands and the names that its last argument stands for. -/
def ofScope (operation : Operation) (arguments : List Value) (body : List Command) : Command :=
  match arguments.getLast? with
  | none => refuse (.missingBody operation.name)
  | some last =>
      match Task.read (.str operation.name) arguments.dropLast with
      | .makeBlock name repeats => block name repeats body
      | .makeConstants => constants (constantNames last)
      | .refuse fault => refuse fault
      | task => run task

/-- A command given by its name and arguments, with the commands that its last argument holds. -/
def ofParts (command : Value) (body : List Command) : Command :=
  match split command with
  | .error fault => refuse fault
  | .ok (name, arguments) =>
      match scoped? name with
      | some operation => ofScope operation arguments body
      | none => run (Task.read (.str name) arguments)

mutual

/-- The command that a value stands for. -/
def ofValue : Value → Command
  | .list items => ofParts (.list items) (lastBody items)
  | .tuple items => ofParts (.tuple items) (lastBody items)
  | .dict entries => ofParts (.dict entries) (lastKeyBody entries)
  | value => ofParts value []

/-- The commands that a value stands for when it is walked through. -/
def sequence : Value → List Command
  | .list items | .tuple items => ofValues items
  | .dict entries => ofKeys entries
  | .str text => text.toList.map fun char => ofParts (.str (String.singleton char)) []
  | .thing held => if held.isWalkable then [] else [refuse (notSequence (.thing held))]
  | value => [refuse (notSequence value)]

/-- The commands that several values stand for. -/
def ofValues : List Value → List Command
  | [] => []
  | value :: values => ofValue value :: ofValues values

/-- The commands that the keys of a dictionary stand for. -/
def ofKeys : List (Value × Value) → List Command
  | [] => []
  | entry :: entries => ofKey entry :: ofKeys entries

/-- The command that the key of an entry stands for. -/
def ofKey : Value × Value → Command
  | (key, _) => ofValue key

/-- The commands of a body that is the last of several values. -/
def lastBody : List Value → List Command
  | [] => []
  | [body] => sequence body
  | _ :: values => lastBody values

/-- The commands of a body that is the last key of a dictionary. -/
def lastKeyBody : List (Value × Value) → List Command
  | [] => []
  | [entry] => keyBody entry
  | _ :: entries => lastKeyBody entries

/-- The commands of a body that is the key of an entry. -/
def keyBody : Value × Value → List Command
  | (key, _) => sequence key

end

/-- Declares the names of a constants block in turn, up to the first that is none. -/
def declareAll (block : ConstantsBlock) : List (Except Fault String) → Build Unit
  | [] => pure ()
  | .ok name :: names => do
      Build.declare block name
      declareAll block names
  | .error fault :: _ => throw fault

mutual

/-- Performs a command. -/
def perform : Command → Build Unit
  | run task => do
      let _ ← task.perform
      pure ()
  | block name repeats body => (Scope.block name repeats).within (performAll body)
  | constants names => do
      let block ← Build.makeConstants
      (Scope.constants block).within (declareAll block names)
  | refuse fault => throw fault

/-- Performs commands in order. -/
def performAll : List Command → Build Unit
  | [] => pure ()
  | command :: commands => do
      perform command
      performAll commands

end

end Command

namespace Build

/-- Replays the commands that a value holds. -/
def replay (commands : Value) : Build Unit :=
  Command.performAll (Command.sequence commands)

end Build

end PicAssembly
