import PicAssembly.Session.Run

/-!
# Stages

A stage is a session whose steps may also reach the private members of programs and of blocks.  Its
programs are those of plain sessions, so public members do there what they do everywhere.  Beside
them a stage knows what has been replaced: members of programs, and all members of a block that is
no longer as its program has made it.  Commands that are replayed see their program as it was made.
-/

namespace PicAssembly

namespace Stage

/-- What a member of a block holds. -/
inductive Held where
  | program (number : Nat)
  /-- The listing of the program with a number. -/
  | listing (number : Nat)
  | value (value : Value)

/-- The members of a block by their names. -/
abbrev Members := List (String × Held)

/-- A labelled block that is kept, with what it was made with; the key tells it from all others. -/
structure LabelledBlock where
  key : Nat
  number : Nat
  name : Value
  repeats : Bool

/-- A labelled block as its program has answered with it. -/
def LabelledBlock.reply (block : LabelledBlock) : Reply :=
  .scope (.block block.name block.repeats)

/-- What a step answers with and a stage keeps; programs are known by their numbers. -/
inductive Item where
  | program (number : Nat)
  /-- A reply of the program with a number. -/
  | reply (number : Nat) (reply : Reply)
  | labelled (block : LabelledBlock)
  /-- Something of which nothing is known but its type. -/
  | sealed (typeName : String)

end Stage

/-- The state of a stage, which drives the first of its programs. -/
structure Stage where
  programs : Nat → Program
  made : Nat
  items : List (String × Stage.Item)
  snapshots : List (String × List Value)
  recorded : Nat
  trace : Array Entry
  /-- Labelled blocks with members that have been replaced, by their keys. -/
  labelled : List (Nat × Stage.Members)
  /-- Constants blocks with members that have been replaced. -/
  constants : List ((Nat × ConstantsBlock) × Stage.Members)
  /-- Members of programs that have been replaced by values, or removed. -/
  replaced : List ((Nat × String) × Option Value)

namespace Stage

/-- A step on a stage: it may fail, and the stage keeps what it did before. -/
abbrev Run := ExceptT Fault (StateM Stage)

/-- A step that takes over an outcome. -/
def ofExcept {α : Type} : Except Fault α → Run α
  | .ok result => pure result
  | .error fault => throw fault

/-- The stage with another state of a program. -/
def setProgram (stage : Stage) (number : Nat) (program : Program) : Stage :=
  { stage with programs := fun other => if other = number then program else stage.programs other }

/-- Runs a building step on the program with a number. -/
def build {α : Type} (number : Nat) (step : Build α) : Run α := do
  let stage ← get
  let (outcome, program) := step.run (stage.programs number)
  set (stage.setProgram number program)
  ofExcept outcome

/-- The stage with one more entry for the given outcome. -/
def withEntry (stage : Stage) (outcome : Except Fault Answer) : Stage :=
  let listing := (stage.programs 0).listing
  { stage with
    recorded := listing.size
    trace := stage.trace.push (.ofOutcome outcome listing stage.recorded) }

/-- Records the outcome of a step and passes its fault on. -/
def recording (step : Run Answer) : Run Unit := do
  let outcome ← tryCatch (do pure (Except.ok (← step))) fun fault => pure (Except.error fault)
  modify (·.withEntry outcome)
  match outcome with
  | .ok _ => pure ()
  | .error fault => throw fault

/-- The item kept under a name. -/
def item (id : String) : Run Item := do
  match (← get).items.lookup id with
  | some item => pure item
  | none => throw (Session.nothingKept id)

namespace Item

/-- The item of a request that gives nothing back. -/
def nothing : Item :=
  reply 0 .nothing

/-- The name of the type of an item. -/
def typeName : Item → String
  | program _ => "Program"
  | reply _ given => given.typeName
  | labelled _ => "Block"
  | sealed typeName => typeName

/-- Whether a body can be run inside an item. -/
def isScope : Item → Bool
  | program _ | labelled _ | reply _ (.scope _) => true
  | _ => false

/-- The item as it is kept, where so many others have been kept before. -/
def keyed (key : Nat) : Item → Item
  | reply number (.scope (.block name repeats)) => labelled ⟨key, number, name, repeats⟩
  | item => item

end Item

/-- Keeps an item under a name. -/
def keep (id : String) (item : Item) : Run Unit :=
  modify fun stage =>
    { stage with items := (id, item.keyed stage.items.length) :: stage.items }

/-- What a program has in the place of a member, if it has been replaced or removed. -/
def replacement? (stage : Stage) (number : Nat) (name : String) : Option (Option Value) :=
  stage.replaced.lookup (number, name)

/-- Gives a member of a program back what it was made with. -/
def restore (number : Nat) (name : String) : Run Unit :=
  modify fun stage =>
    { stage with replaced := stage.replaced.filter fun member => member.1 != (number, name) }

/-- Replaces a member of a program by a value, or removes it. -/
def replace (number : Nat) (name : String) (value? : Option Value) : Run Unit := do
  restore number name
  modify fun stage => { stage with replaced := ((number, name), value?) :: stage.replaced }

/-- Members with one of them replaced in its place, or put at the end. -/
def Members.set (members : Members) (name : String) (held : Held) : Members :=
  match members with
  | [] => [(name, held)]
  | (first, old) :: rest =>
      if first = name then (name, held) :: rest else (first, old) :: set rest name held

/-! ## Names of members -/

/-- The member of a block that holds its program. -/
def programName : String := "_program"

/-- The member of a labelled block that holds its name. -/
def labelName : String := "_name"

/-- The member of a labelled block that says whether it repeats. -/
def repeatName : String := "_repeat"

/-- The member of a constants block that holds its listing. -/
def bufferName : String := "_buffer"

/-- The member of a constants block that says whether it is open. -/
def openName : String := "_open"

/-- The member of a program that holds the nesting guard. -/
def guardName : String := "_constant_block"

/-- The member of a program that holds the names of the operations that open a scope. -/
def scopesName : String := "SCOPED_OPERATIONS"

/-- The members that a labelled block is made with. -/
def LabelledBlock.members (block : LabelledBlock) : Members :=
  [ (programName, .program block.number), (labelName, .value block.name),
    (repeatName, .value (.bool block.repeats)) ]

/-- The members of a labelled block. -/
def labelledMembers (stage : Stage) (block : LabelledBlock) : Members :=
  (stage.labelled.lookup block.key).getD block.members

/-- The members of a constants block of a program. -/
def constantsMembers (stage : Stage) (number : Nat) (block : ConstantsBlock) : Members :=
  (stage.constants.lookup (number, block)).getD
    [ (programName, .program number), (bufferName, .listing number),
      (openName, .value (.bool ((stage.programs number).openBlocks.contains block))) ]

/-- Whether members have been replaced on which the public ones of an item depend. -/
def isChanged (stage : Stage) : Item → Bool
  | .program number => stage.replaced.any fun member => member.1.1 == number
  | .labelled block => (stage.labelled.lookup block.key).isSome
  | .reply number (.scope (.constants block)) =>
      (stage.constants.lookup (number, block)).isSome ||
        (stage.replacement? number guardName).isSome
  | _ => false

end Stage

end PicAssembly
