import PicAssembly.Proofs.ConstantsScopes

/-!
# Refused entries

An entry that is refused records no line, ends nothing and opens no constants block; and while a
program takes lines it is refused for one reason only, that a constants block is open.  A final
program refuses every entry, and there one trace is left: the nesting guard is taken before the
first line of a constants block is refused, and it is not given back, so that later entries are
refused as nested ones although no block is open.
-/

namespace PicAssembly

namespace Scope

/-- How the entry of a scope is refused, and the program that is left then. -/
inductive Refused (program : Program) : Scope → Fault → Program → Prop
  | heading {name : Value} {repeats : Bool} (isFinal : program.isFinal = true) :
      Refused program (block name repeats) (.closed (.str (label name.text))) program
  | nested {owner holder : ConstantsBlock} (held : program.guard = some holder) :
      Refused program (constants owner) .nestedConstants program
  | closed {owner : ConstantsBlock} (free : program.guard = none)
      (isFinal : program.isFinal = true) :
      Refused program (constants owner) (.closed (.str constantsStart.text))
        { program with guard := some owner }

variable {scope : Scope} {program left : Program} {fault : Fault}

theorem refused_of_run (fails : scope.enter.run program = (.error fault, left)) :
    Refused program scope fault left := by
  cases scope with
  | block name repeats =>
      cases state : program.isFinal with
      | true =>
          rw [enter, Build.run_emit_final _ [] state] at fails
          cases fails
          exact .heading state
      | false =>
          rw [enter, Build.run_emit_open _ state] at fails
          cases fails
  | constants owner =>
      cases guard : program.guard with
      | some holder =>
          rw [run_enter_held owner guard] at fails
          cases fails
          exact .nested guard
      | none =>
          cases state : program.isFinal with
          | true =>
              rw [run_enter_final owner guard state] at fails
              cases fails
              exact .closed guard state
          | false =>
              rw [run_enter_open owner guard state] at fails
              cases fails

namespace Refused

theorem listing (refused : Refused program scope fault left) :
    left.listing = program.listing := by
  cases refused <;> rfl

theorem openBlocks (refused : Refused program scope fault left) :
    left.openBlocks = program.openBlocks := by
  cases refused <;> rfl

/-- The guard changes hands only where a final program refuses the first line of a block. -/
theorem guard (refused : Refused program scope fault left) :
    left.guard = program.guard ∨
      program.isFinal = true ∧ program.guard = none ∧
        ∃ owner, scope = constants owner ∧ left.guard = some owner := by
  cases refused with
  | heading | nested => exact .inl rfl
  | closed free isFinal => exact .inr ⟨isFinal, free, _, rfl, rfl⟩

/-- A program that takes lines refuses nothing but a constants block while the guard is held. -/
theorem of_open (refused : Refused program scope fault left) (isOpen : program.isFinal = false) :
    left = program ∧ fault = .nestedConstants ∧ ∃ holder, program.guard = some holder := by
  cases refused with
  | heading isFinal | closed _ isFinal => simp [isOpen] at isFinal
  | nested held => exact ⟨rfl, rfl, _, held⟩

end Refused

end Scope

/-- What refused entries leave of a program at a place with the given frames around it. -/
structure Program.Refusals (frames : List Frame) (program : Program) : Prop where
  /-- Neither the lines nor the end nor the open constants blocks of the program change. -/
  unchanged : ∀ {scope : Scope} {fault left}, scope.enter.run program = (.error fault, left) →
    left.code = program.code ∧ left.isFinal = program.isFinal ∧
      left.openBlocks = program.openBlocks
  /-- The nesting guard stays as well, unless a final program refuses a block that has taken it. -/
  guarded : ∀ {scope : Scope} {fault left}, scope.enter.run program = (.error fault, left) →
    left.guard = program.guard ∨
      program.isFinal = true ∧ program.guard = none ∧
        ∃ owner, scope = .constants owner ∧ left.guard = some owner
  /-- While lines are taken, an entry is refused inside of a constants block only, as a nested one,
  and the whole program stays as it is. -/
  nested : program.isFinal = false → ∀ {scope : Scope} {fault left},
    scope.enter.run program = (.error fault, left) →
    left = program ∧ fault = .nestedConstants ∧
      ∃ holder ∈ program.openBlocks, .scope (.constants holder) ∈ frames
  /-- In a final program whose guard is free the first entry of a constants block is refused for
  its line, and every later one as nested, while no block is open. -/
  kept : program.isFinal = true → program.guard = none → ∀ owner,
    ∃ left, (Scope.constants owner).enter.run program =
        (.error (.closed (.str Scope.constantsStart.text)), left) ∧
      left.openBlocks = [] ∧
      ∀ other, (Scope.constants other).enter.run left = (.error .nestedConstants, left)

namespace Program

variable {frames : List Frame} {program : Program}

theorem Inside.refusals (inside : program.Inside (frames.reverse.flatMap Frame.opens)) :
    program.Refusals frames where
  unchanged fails := by
    have refused := Scope.refused_of_run fails
    have listing := refused.listing
    exact ⟨by rw [code, listing, code], by rw [isFinal, listing, isFinal], refused.openBlocks⟩
  guarded fails := (Scope.refused_of_run fails).guard
  nested isOpen _ _ _ fails := by
    obtain ⟨same, nested, holder, held⟩ := (Scope.refused_of_run fails).of_open isOpen
    -- Outside of all constants blocks the guard would be free, so some frame has opened one.
    have someOpen : program.openBlocks ≠ [] := by
      intro none
      have outside := inside.free (inside.opened.symm.trans none) isOpen
      rw [held] at outside
      cases outside
    obtain ⟨owner, rest, opened⟩ := List.exists_cons_of_ne_nil someOpen
    have member : owner ∈ program.openBlocks := by simp [opened]
    exact ⟨same, nested, owner, member, (inside.inStep.opened owner).mp member⟩
  kept isFinal free owner := by
    have noneOpen : program.openBlocks = [] := inside.opened.trans (inside.eq_nil_of_guard free)
    refine ⟨_, Scope.run_enter_final owner free isFinal, noneOpen, fun other => ?_⟩
    exact Scope.run_enter_held other rfl

end Program

namespace Move

/-- At every place of a structured run on a new program, and also where the moves that are left
there have ended or failed, a refused entry leaves the lines, the end and the open blocks as they
are.  The nesting guard stays too, and a nested entry is told only where a constants block is open,
as long as the program takes lines; a final program keeps the guard of the first block it refuses.
-/
theorem entries_refused (steps : List Step) (structured : Step.areStructured steps = true)
    {frames : List Frame} {rest : List Move} {point : Session}
    (comes : ComesTo (steps.map .step) .initial frames rest point) :
    point.program.Refusals frames ∧ (outcome (runAll rest) point).2.program.Refusals frames := by
  obtain ⟨inside, stillStructured⟩ :=
    comes.inside (isStructured_steps structured) Program.inside_initial
  have ended := (keeps_runAll stillStructured _).outcome inside
  rw [List.append_nil] at inside ended
  exact ⟨inside.refusals, Program.Inside.refusals ended⟩

/-- A loop whose body has ended the program: a constants block is refused for its line there, and
the next one as a nested one. -/
theorem entries_refused_behind_end :
    let end_code : Step := .dispatch (.str "end_code") []
    let steps : List Step := [.within "loop" [.str "main"] [end_code]]
    let frames : List Frame := [.scope (.block (.str "main") true)]
    Step.areStructured steps = true ∧
      ∃ point, ComesTo (steps.map .step) .initial frames [] point ∧
        point.program.isFinal = true ∧ point.program.Refusals frames ∧
        ∃ left, (Scope.constants ⟨0⟩).enter.run point.program =
            (.error (.closed (.str "\tcblock 0x08")), left) ∧
          left.openBlocks = [] ∧
          (Scope.constants ⟨1⟩).enter.run left = (.error .nestedConstants, left) := by
  intro end_code steps frames
  obtain ⟨point, comes, isFinal, free⟩ : ∃ point,
      ComesTo (steps.map .step) .initial frames [] point ∧ point.program.isFinal = true ∧
        point.program.guard = none :=
    ⟨_, .inner (.within rfl rfl) (.later rfl (.here _ _)), rfl, rfl⟩
  obtain ⟨refusals, _⟩ := entries_refused steps rfl comes
  obtain ⟨left, fails, noneOpen, nested⟩ := refusals.kept isFinal free ⟨0⟩
  have line : Scope.constantsStart.text = "\tcblock 0x08" := by decide +kernel
  rw [line] at fails
  exact ⟨rfl, point, comes, isFinal, refusals, left, fails, noneOpen, nested ⟨1⟩⟩

/-- Not every refused entry leaves the program as it was: behind the end of a program the nesting
guard is kept by a constants block that is not open, and the next entry is refused as nested. -/
theorem exists_guard_kept :
    ¬ ∀ (steps : List Step) (frames : List Frame) (rest : List Move) (point : Session),
      Step.areStructured steps = true → ComesTo (steps.map .step) .initial frames rest point →
      ∀ (scope : Scope) fault left, scope.enter.run point.program = (.error fault, left) →
        left.guard = point.program.guard := by
  intro stays
  let end_code : Step := .dispatch (.str "end_code") []
  obtain ⟨point, comes, isFinal, free⟩ : ∃ point,
      ComesTo ([end_code].map .step) .initial [] [] point ∧ point.program.isFinal = true ∧
        point.program.guard = none :=
    ⟨_, .later rfl (.here _ _), rfl, rfl⟩
  have fails := Scope.run_enter_final ⟨0⟩ free isFinal
  have kept := stays [end_code] [] [] point rfl comes _ _ _ fails
  rw [free] at kept
  cases kept

end Move

end PicAssembly
