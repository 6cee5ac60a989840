import PicAssembly.Listing.Basic
import PicAssembly.Task

/-!
# Programs

A program is a listing that starts with the device header, together with what is known about its
constants blocks: which one holds the nesting guard and which ones are open.  Building steps keep
what was recorded before a fault.
-/

namespace PicAssembly

/-- A constants block of a program, by the order in which it was made. -/
structure ConstantsBlock where
  index : Nat
deriving DecidableEq, Repr

/-- A program under construction. -/
structure Program where
  listing : Listing
  guard : Option ConstantsBlock
  openBlocks : List ConstantsBlock
  blocksMade : Nat
deriving Repr

/-- A building step: it may fail, and the program keeps what it did before. -/
abbrev Build := ExceptT Fault (StateM Program)

namespace Program

/-- The lines of a program as values. -/
def lineValues (lines : List Line) : List Value :=
  lines.map fun line => .str line.text

/-- A new program, which holds the header. -/
def initial : Program :=
  { listing := .ofList (lineValues Device.header)
    guard := none
    openBlocks := []
    blocksMade := 0 }

/-- The lines of a program. -/
def code (program : Program) : List Value :=
  program.listing.toList

/-- Whether a program takes no more lines. -/
def isFinal (program : Program) : Bool :=
  program.listing.isClosed

/-- The program with more lines. -/
def record (program : Program) (lines : List Line) : Program :=
  { program with listing := program.listing.grow (lineValues lines) }

@[simp]
theorem record_nil (program : Program) : program.record [] = program := by
  simp [record, lineValues]

theorem record_record (program : Program) (front back : List Line) :
    (program.record front).record back = program.record (front ++ back) := by
  simp [record, lineValues, Listing.grow_grow]

@[simp]
theorem code_record (program : Program) (lines : List Line) :
    (program.record lines).code = program.code ++ lineValues lines := by
  simp [record, code]

@[simp]
theorem isFinal_record (program : Program) (lines : List Line) :
    (program.record lines).isFinal = program.isFinal := rfl

end Program

namespace Build

/-- Runs a building step. -/
def run {α : Type} (step : Build α) (program : Program) : Except Fault α × Program :=
  StateT.run (ExceptT.run step) program

/-- A step that changes the program. -/
def update (change : Program → Program) : Build Unit :=
  modify change

@[simp]
theorem run_pure {α : Type} (result : α) (program : Program) :
    run (pure result) program = (.ok result, program) := rfl

@[simp]
theorem run_throw {α : Type} (fault : Fault) (program : Program) :
    run (throw fault : Build α) program = (.error fault, program) := rfl

@[simp]
theorem run_get (program : Program) : run get program = (.ok program, program) := rfl

@[simp]
theorem run_update (change : Program → Program) (program : Program) :
    run (update change) program = (.ok (), change program) := rfl

/-- A step is followed by the next one where it has led, unless it has failed. -/
theorem run_bind {α β : Type} (step : Build α) (next : α → Build β) (program : Program) :
    run (step >>= next) program =
      match run step program with
      | (.ok result, after) => run (next result) after
      | (.error fault, after) => (.error fault, after) := by
  simp only [run, ExceptT.run_bind, StateT.run_bind]
  generalize StateT.run (ExceptT.run step) program = outcome
  rcases outcome with ⟨_ | _, after⟩ <;> rfl

/-- A handler runs where a fault has led. -/
theorem run_tryCatch {α : Type} (step : Build α) (handler : Fault → Build α) (program : Program) :
    run (tryCatch step handler) program =
      match run step program with
      | (.ok result, after) => (.ok result, after)
      | (.error fault, after) => run (handler fault) after := by
  rcases outcome : run step program with ⟨_ | _, after⟩ <;>
    simp only [run, ExceptT.run] at outcome <;>
    simp only [run, tryCatch, tryCatchThe, MonadExceptOf.tryCatch, ExceptT.tryCatch, ExceptT.run,
      ExceptT.mk, StateT.run_bind, outcome] <;> rfl

/-- A step that takes over an outcome. -/
def ofExcept {α : Type} : Except Fault α → Build α
  | .ok result => pure result
  | .error fault => throw fault

/-- Records a line. -/
def emitLine (line : Line) : Build Unit := do
  if (← get).isFinal then throw (.closed (.str line.text)) else update (·.record [line])

/-- Forms lines one after the other and records each of them before the next one is formed. -/
def write : Draft → Build Unit
  | [] => pure ()
  | line :: draft => do
      emitLine (← ofExcept line)
      write draft

/-- Records lines. -/
def emit (lines : List Line) : Build Unit :=
  write (.ofLines lines)

theorem run_emitLine (line : Line) (program : Program) :
    (emitLine line).run program =
      if program.isFinal then (.error (.closed (.str line.text)), program)
      else (.ok (), program.record [line]) := by
  rw [emitLine, run_bind, run_get]
  dsimp only
  split <;> rfl

theorem emit_cons (line : Line) (lines : List Line) :
    emit (line :: lines) = emitLine line >>= fun _ => emit lines := by
  simp [emit, Draft.ofLines, write, ofExcept]

/-- An open program takes lines one after the other. -/
theorem run_emit_open (lines : List Line) {program : Program}
    (isOpen : program.isFinal = false) :
    (emit lines).run program = (.ok (), program.record lines) := by
  induction lines generalizing program with
  | nil =>
      rw [Program.record_nil]
      rfl
  | cons line lines induction =>
      have rest := @induction (program.record [line]) isOpen
      rw [Program.record_record] at rest
      rw [emit_cons, run_bind, run_emitLine, isOpen]
      exact rest

/-- A final program refuses the first of several lines. -/
theorem run_emit_final (line : Line) (lines : List Line) {program : Program}
    (isFinal : program.isFinal = true) :
    (emit (line :: lines)).run program = (.error (.closed (.str line.text)), program) := by
  rw [emit_cons, run_bind, run_emitLine, isFinal]
  rfl

/-- Lines that are all known are recorded all together or not at all. -/
theorem run_emit (lines : List Line) (program : Program) :
    (emit lines).run program =
      match program.listing.refusal? (Program.lineValues lines) with
      | some fault => (.error fault, program)
      | none => (.ok (), program.record lines) := by
  cases state : program.isFinal with
  | false =>
      have taken : program.listing.refusal? (Program.lineValues lines) = none :=
        (program.listing.refusal?_eq_none_iff _).mpr (.inr state)
      rw [taken, run_emit_open lines state]
  | true =>
      cases lines with
      | nil =>
          rw [Program.lineValues, List.map_nil, Listing.refusal?, Program.record_nil]
          rfl
      | cons line lines =>
          have refused : program.listing.refusal? (Program.lineValues (line :: lines)) =
              some (.closed (.str line.text)) := if_pos state
          rw [refused, run_emit_final line lines state]

/-- Fails if there is a fault. -/
def stop : Option Fault → Build Unit
  | some fault => throw fault
  | none => pure ()

/-- A draft comes to the lines before the first one that cannot be formed, and to its fault. -/
theorem write_eq (draft : Draft) :
    write draft = emit draft.lines >>= fun _ => stop draft.fault? := by
  induction draft with
  | nil => rfl
  | cons line draft induction =>
      cases line with
      | error fault => rfl
      | ok line =>
          rw [write, induction, Draft.lines, Draft.fault?, emit_cons, bind_assoc]
          rfl

/-- Records the lines of a statement, each as soon as it is formed. -/
def perform (statement : Statement) : Build Unit :=
  write statement.draft

/-- A statement records its lines, and may end in a fault after them. -/
theorem perform_eq (statement : Statement) :
    perform statement = emit statement.lines >>= fun _ => stop statement.fault? :=
  write_eq statement.draft

/-- Records the end of the program and closes it. -/
def finish : Build Unit := do
  if (← get).isFinal then throw .alreadyEnded
  emit [.directive "end", .blank]
  update fun program => { program with listing := program.listing.close }

/-- Ends the program unless it is final already. -/
def finishOpen : Build Unit := do
  if (← get).isFinal then pure () else finish

/-- Makes a new constants block. -/
def makeConstants : Build ConstantsBlock := do
  let block : ConstantsBlock := ⟨(← get).blocksMade⟩
  update fun program => { program with blocksMade := program.blocksMade + 1 }
  pure block

/-- Declares a register in a constants block, which must be open. -/
def declare (block : ConstantsBlock) (name : String) : Build Unit := do
  if (← get).openBlocks.contains block then emit [.register name] else throw .declaredOutside

/-- The name under which the keys of a mapping are asked for. -/
def keysName : String := "keys"

/-- Calls by its name what a thing of the program makes of every name. -/
def callNamed (asked : Thing) (name : String) : Build Unit :=
  if asked.typeName = "Program" then perform (.call name) else declare ⟨asked.number⟩ name

/-- Asks a thing for its keys, for which it does what it does for every name, and lists none.  What
belongs to another program is left to that program. -/
def askKeys (asked : Thing) : Build Unit :=
  match asked.owner with
  | none => do
      callNamed asked keysName
      throw (.noKeys asked.typeName)
  | some _ => throw (.foreign asked)

end Build

end PicAssembly
