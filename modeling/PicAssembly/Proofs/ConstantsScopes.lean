import PicAssembly.Proofs.Builder
import PicAssembly.Proofs.Structured

/-!
# Constants scopes

In a structured run the open flags of the constants blocks and the nesting guard of the program are
in step: inside of the scope of a constants block this block is the only open one and holds the
guard, and everywhere else none is open.  So a nested entry is refused, and a register is declared
in the block around it only.
-/

namespace PicAssembly

namespace Build

variable {owner : ConstantsBlock} {program : Program}

theorem run_declare_open (name : String) (opened : owner ∈ program.openBlocks)
    (isOpen : program.isFinal = false) :
    (declare owner name).run program = (.ok (), program.record [.register name]) := by
  have listed : program.openBlocks.contains owner = true := by simpa using opened
  rw [declare, run_bind, run_get]
  dsimp only
  rw [if_pos listed]
  exact run_emit_open [.register name] isOpen

/-- A register is refused outside of its constants block, and by a final program. -/
theorem exists_run_declare (name : String)
    (refused : ¬ (owner ∈ program.openBlocks ∧ program.isFinal = false)) :
    ∃ fault, (declare owner name).run program = (.error fault, program) := by
  rw [declare, run_bind, run_get]
  dsimp only
  split
  · next listed =>
      have opened : owner ∈ program.openBlocks := by simpa using listed
      have isFinal : program.isFinal = true := by
        cases state : program.isFinal with
        | true => rfl
        | false => exact absurd ⟨opened, state⟩ refused
      exact ⟨_, run_emit_final (.register name) [] isFinal⟩
  · exact ⟨.declaredOutside, rfl⟩

end Build

namespace Scope

/-- A call on a constants block that declares a register: of `declare` with the name of the
register, or without arguments under this name. -/
inductive Declares : String → List Value → String → Prop
  | given (value : Value) : Declares "declare" [value] value.text
  | named {name : String} (valid : IsDeclaration name) : Declares name [] name

theorem Declares.request_eq {name register : String} {positional : List Value}
    (declares : Declares name positional register) (owner : ConstantsBlock) :
    (constants owner).request name positional = Build.declare owner register := by
  cases declares with
  | given value =>
      rw [request, if_pos rfl]
      rfl
  | named valid => exact Step.request_declaration owner valid

end Scope

/-- The constants blocks of a program are in step with the frames around a place. -/
structure Program.InStep (frames : List Frame) (program : Program) : Prop where
  /-- A block is open exactly inside of its own scope. -/
  opened : ∀ owner, owner ∈ program.openBlocks ↔ .scope (.constants owner) ∈ frames
  /-- At most one block is open. -/
  single : program.openBlocks.length ≤ 1
  /-- The open block holds the nesting guard. -/
  guarded : ∀ owner ∈ program.openBlocks, program.guard = some owner
  /-- While a block is open, neither it nor another one is entered. -/
  refuses : ∀ holder ∈ program.openBlocks, ∀ owner,
    (Scope.constants owner).enter.run program = (.error .nestedConstants, program)
  /-- A register is declared in an open block, as long as the program is not final. -/
  declares : ∀ {name positional register}, Scope.Declares name positional register →
    ∀ owner ∈ program.openBlocks, program.isFinal = false →
      ((Scope.constants owner).request name positional).run program =
        (.ok (), program.record [.register register])
  /-- Any other declaration is refused and records nothing. -/
  undeclared : ∀ {name positional register}, Scope.Declares name positional register →
    ∀ owner, ¬ (owner ∈ program.openBlocks ∧ program.isFinal = false) →
      ∃ fault, ((Scope.constants owner).request name positional).run program =
        (.error fault, program)

theorem Program.Inside.inStep {frames : List Frame} {program : Program}
    (inside : program.Inside (frames.reverse.flatMap Frame.opens)) : program.InStep frames where
  opened owner := by
    rw [inside.opened, List.mem_flatMap]
    simp [Frame.mem_opens]
  single := by
    rw [inside.opened]
    exact inside.single
  guarded owner opened := by
    rw [inside.opened] at opened
    exact inside.guarded owner opened
  refuses holder opened owner := by
    rw [inside.opened] at opened
    exact Scope.run_enter_held owner (inside.guarded holder opened)
  declares declares owner opened isOpen := by
    rw [declares.request_eq]
    exact Build.run_declare_open _ opened isOpen
  undeclared declares owner refused := by
    rw [declares.request_eq]
    exact Build.exists_run_declare _ refused

namespace Move

/-- At every place of a structured run on a new program, and also where the moves that are left
there have ended or failed, the constants blocks are in step with the frames around the place. -/
theorem constants_inStep (steps : List Step) (structured : Step.areStructured steps = true)
    {frames : List Frame} {rest : List Move} {point : Session}
    (comes : ComesTo (steps.map .step) .initial frames rest point) :
    point.program.InStep frames ∧ (outcome (runAll rest) point).2.program.InStep frames := by
  obtain ⟨inside, stillStructured⟩ :=
    comes.inside (isStructured_steps structured) Program.inside_initial
  have ended := (keeps_runAll stillStructured _).outcome inside
  rw [List.append_nil] at inside ended
  exact ⟨inside.inStep, Program.Inside.inStep ended⟩

/-- Inside of an attempt a constants block is open, and its body tries to enter another one; where
this has failed, the first block is still open. -/
theorem constants_inStep_nested :
    let nested : Step := .within "constants" [] [.declare "it" (.str "led")]
    let around : Step := .within "constants" [] [.declare "it" (.str "led"), nested]
    let steps : List Step := [.tolerate around]
    let frames : List Frame := [.attempt, .scope (.constants ⟨0⟩)]
    Step.areStructured steps = true ∧
      ∃ point, ComesTo (steps.map .step) .initial frames [.step nested] point ∧
        (outcome (runAll [.step nested]) point).1 = .error .nestedConstants ∧
        point.program.InStep frames ∧
        (outcome (runAll [.step nested]) point).2.program.InStep frames := by
  intro nested around steps frames
  have structured : Step.areStructured steps = true := rfl
  have comes : ∃ point, ComesTo (steps.map .step) .initial frames [.step nested] point ∧
      (outcome (runAll [.step nested]) point).1 = .error .nestedConstants := by
    refine ⟨_, .inner (.tolerate _) (.inner (.within rfl rfl) (.later rfl (.here _ _))), ?_⟩
    rfl
  obtain ⟨point, reaches, fails⟩ := comes
  exact ⟨structured, point, reaches, fails, constants_inStep steps structured reaches⟩

end Move

end PicAssembly
