import PicAssembly.Proofs.Building
import PicAssembly.Proofs.Reading

/-!
# Steps that add lines

A building step adds lines if it succeeds on every open program, leaves it open and puts just these
lines behind its own; what else it asks of the program, and what it promises in return, is told by a
condition before and one after.  A step fails if it does so on every open program.
-/

namespace PicAssembly

open CommandTable

namespace Program

/-- A program with more lines that is still open. -/
structure Adds (before : Program) (lines : List String) (after : Program) : Prop where
  code : after.code = before.code ++ lines.map .str
  isOpen : after.isFinal = false

namespace Adds

theorem refl {program : Program} (isOpen : program.isFinal = false) : program.Adds [] program :=
  ⟨by simp, isOpen⟩

theorem trans {first second third : Program} {front back : List String}
    (left : first.Adds front second) (right : second.Adds back third) :
    first.Adds (front ++ back) third := by
  refine ⟨?_, right.isOpen⟩
  rw [right.code, left.code, List.append_assoc, List.map_append]

theorem record {program : Program} (lines : List Line) (isOpen : program.isFinal = false) :
    program.Adds (lines.map Line.text) (program.record lines) := by
  refine ⟨?_, isOpen⟩
  rw [code_record, lineValues, List.map_map]
  rfl

end Adds

/-- A program whose constants blocks are all closed, so that its nesting guard is free. -/
def IsFree (program : Program) : Prop :=
  program.guard = none

/-- A program with an open constants block. -/
def Opens (block : ConstantsBlock) (program : Program) : Prop :=
  program.openBlocks.contains block = true

end Program

namespace Build

variable {α β : Type}

/-- A step adds lines to every open program as described before and after. -/
def Adds (before : Program → Prop) (step : Build α) (lines : List String)
    (after : Program → Prop) : Prop :=
  ∀ program, program.isFinal = false → before program →
    ∃ result reached, step.run program = (.ok result, reached) ∧ program.Adds lines reached ∧
      after reached

/-- A step that fails on every open program that is as described. -/
def Fails (before : Program → Prop) (step : Build α) : Prop :=
  ∀ program, program.isFinal = false → before program →
    ∃ fault reached, step.run program = (.error fault, reached)

variable {before middle after : Program → Prop} {step : Build α} {next : α → Build β}
  {front back : List String}

namespace Adds

theorem pure (result : α) : Adds before (Pure.pure result : Build α) [] before :=
  fun program isOpen holds => ⟨result, program, rfl, .refl isOpen, holds⟩

theorem bind (first : Adds before step front middle)
    (second : ∀ result, Adds middle (next result) back after) :
    Adds before (step >>= next) (front ++ back) after := by
  intro program isOpen holds
  obtain ⟨result, reached, runs, adds, between⟩ := first program isOpen holds
  obtain ⟨final, last, runsOn, addsOn, done⟩ := second result reached adds.isOpen between
  refine ⟨final, last, ?_, adds.trans addsOn, done⟩
  rw [run_bind, runs]
  exact runsOn

/-- A step that adds lines before one that adds none. -/
theorem bind_last (first : Adds before step front middle)
    (second : ∀ result, Adds middle (next result) [] after) :
    Adds before (step >>= next) front after := by
  simpa using first.bind second

theorem emit (lines : List Line)
    (kept : ∀ program, before program → after (program.record lines)) :
    Adds before (emit lines) (lines.map Line.text) after := by
  intro program isOpen holds
  exact ⟨(), program.record lines, run_emit_open lines isOpen, .record lines isOpen,
    kept program holds⟩

theorem update {change : Program → Program}
    (unchanged : ∀ program, (change program).listing = program.listing)
    (kept : ∀ program, before program → after (change program)) :
    Adds before (update change) [] after := by
  intro program isOpen holds
  refine ⟨(), change program, rfl, ⟨?_, ?_⟩, kept program holds⟩
  · rw [Program.code, unchanged]
    simp [Program.code]
  · rw [Program.isFinal, unchanged]
    exact isOpen

/-- A handler is not needed by a step that succeeds. -/
theorem tryCatch {step : Build α} {handler : Fault → Build α}
    (adds : Adds before step front after) : Adds before (tryCatch step handler) front after := by
  intro program isOpen holds
  obtain ⟨result, reached, runs, rest⟩ := adds program isOpen holds
  refine ⟨result, reached, ?_, rest⟩
  rw [run_tryCatch, runs]

end Adds

namespace Fails

theorem throw (fault : Fault) : Fails before (throw fault : Build α) :=
  fun program _ _ => ⟨fault, program, rfl⟩

theorem bind_left (fails : Fails before step) : Fails before (step >>= next) := by
  intro program isOpen holds
  obtain ⟨fault, reached, runs⟩ := fails program isOpen holds
  refine ⟨fault, reached, ?_⟩
  rw [run_bind, runs]

theorem bind_right (first : Adds before step front middle)
    (second : ∀ result, Fails middle (next result)) : Fails before (step >>= next) := by
  intro program isOpen holds
  obtain ⟨result, reached, runs, adds, between⟩ := first program isOpen holds
  obtain ⟨fault, last, runsOn⟩ := second result reached adds.isOpen between
  refine ⟨fault, last, ?_⟩
  rw [run_bind, runs]
  exact runsOn

end Fails

/-- A step that fails as described leaves no room for a success. -/
theorem Fails.ne_ok (fails : Fails before step) {program reached : Program} {result : α}
    (isOpen : program.isFinal = false) (holds : before program) :
    step.run program ≠ (.ok result, reached) := by
  obtain ⟨fault, last, runs⟩ := fails program isOpen holds
  rw [runs]
  exact nofun

end Build

namespace Build

/-- Recording lines leaves the constants blocks alone. -/
theorem adds_emit (lines : List Line) :
    Adds Program.IsFree (emit lines) (lines.map Line.text) Program.IsFree :=
  .emit lines fun _ free => free

theorem adds_perform {statement : Statement} (succeeds : statement.fault? = none) :
    Adds Program.IsFree (perform statement) (statement.lines.map Line.text) Program.IsFree := by
  rw [perform_eq, succeeds]
  exact (adds_emit statement.lines).bind_last fun _ => .pure ()

theorem fails_perform {statement : Statement} (invalid : statement.fault? ≠ none) :
    Fails Program.IsFree (perform statement) := by
  obtain ⟨fault, found⟩ := Option.ne_none_iff_exists'.mp invalid
  rw [perform_eq, found]
  exact Fails.bind_right (adds_emit statement.lines) fun _ => .throw fault

theorem adds_makeConstants : Adds Program.IsFree makeConstants [] Program.IsFree := by
  intro program isOpen free
  refine ⟨⟨program.blocksMade⟩, _, rfl, ⟨?_, isOpen⟩, free⟩
  simp [Program.code]

end Build

namespace Task

theorem adds_perform {task : Task} {lines : List Line} (records : task.lines? = some lines) :
    Build.Adds Program.IsFree task.perform (lines.map Line.text) Program.IsFree := by
  induction task generalizing lines with
  | state statement =>
      rw [lines?] at records
      split at records
      · next succeeds =>
          cases records
          exact (Build.adds_perform (Option.isNone_iff_eq_none.mp succeeds)).bind_last
            fun _ => .pure none
      · cases records
  | skip register inner induction =>
      obtain ⟨skipped, inside, rfl⟩ := Option.map_eq_some_iff.mp records
      have decrement := Build.adds_emit [.instruction .decfsz [register, "f"]]
      have blank := (Build.adds_emit [.blank]).bind_last fun _ => .pure (none : Option Scope)
      rw [List.map_append, ← List.singleton_append, List.map_append, List.append_assoc]
      exact decrement.bind fun _ => (induction inside).bind fun _ => blank
  | ask | finish | refuse => cases records
  | makeBlock name repeats =>
      cases records
      exact .pure _
  | makeConstants =>
      cases records
      exact Build.adds_makeConstants.bind_last fun _ => .pure _

/-- An end closes the program, so the blank line behind it is refused. -/
theorem fails_finish_bind :
    Build.Fails Program.IsFree (do
      let _ ← finish.perform
      Build.emit [.blank]
      pure (none : Option Scope)) := by
  intro program isOpen _
  have ended : finish.perform.run program = (.ok none, program.finished) := by
    rw [perform, Build.run_bind, Build.run_finish_open isOpen]
    rfl
  have refused := Build.run_emit_final .blank [] program.isFinal_finished
  refine ⟨.closed (.str Line.blank.text), program.finished, ?_⟩
  rw [Build.run_bind, ended]
  dsimp only
  rw [Build.run_bind, refused]

theorem fails_perform {task : Task} (fails : task.lines? = none) (noEnd : task ≠ finish) :
    Build.Fails Program.IsFree task.perform := by
  induction task with
  | state statement =>
      have invalid : statement.fault? ≠ none := by
        intro succeeds
        simp [lines?, succeeds] at fails
      exact (Build.fails_perform invalid).bind_left
  | skip register inner induction =>
      have decrement := Build.adds_emit [.instruction .decfsz [register, "f"]]
      refine Build.Fails.bind_right decrement fun _ => ?_
      by_cases isEnd : inner = finish
      · rw [isEnd]
        exact fails_finish_bind
      · have inside : inner.lines? = none := Option.map_eq_none_iff.mp fails
        exact (induction inside isEnd).bind_left
  | ask asked =>
      have asks : Build.Fails Program.IsFree (Build.askKeys asked) :=
        fun program _ _ => Build.exists_run_askKeys asked program
      exact asks.bind_left
  | finish => exact absurd rfl noEnd
  | refuse fault => exact .throw fault
  | makeBlock | makeConstants => cases fails

end Task

end PicAssembly
