import PicAssembly.Proofs.Stability

/-!
# Open constants blocks

Inside of a constants block this block alone is open, and it holds the nesting guard; outside of all
of them none is open, and the guard is free unless the program is final.  Building steps keep this,
whatever they are and however they end, because each scope that they enter they also leave.
-/

namespace PicAssembly

namespace Program

/-- A program inside of the given constants blocks. -/
structure Inside (blocks : List ConstantsBlock) (program : Program) : Prop where
  opened : program.openBlocks = blocks
  single : blocks.length ≤ 1
  guarded : ∀ owner ∈ blocks, program.guard = some owner
  free : blocks = [] → program.isFinal = false → program.guard = none

theorem inside_initial : initial.Inside [] :=
  ⟨rfl, by decide, List.forall_mem_nil _, fun _ _ => rfl⟩

namespace Inside

variable {blocks : List ConstantsBlock} {program after : Program}

/-- Only the constants blocks and the end of a program matter. -/
theorem of_same (inside : program.Inside blocks) (opened : after.openBlocks = program.openBlocks)
    (guarded : after.guard = program.guard)
    (stays : program.isFinal = true → after.isFinal = true) : after.Inside blocks := by
  refine ⟨opened.trans inside.opened, inside.single, fun owner member => ?_, fun none isOpen => ?_⟩
  · rw [guarded]
    exact inside.guarded owner member
  · have wasOpen : program.isFinal = false := by
      cases state : program.isFinal with
      | false => rfl
      | true => simp [stays state] at isOpen
    rw [guarded]
    exact inside.free none wasOpen

theorem record (inside : program.Inside blocks) (lines : List Line) :
    (program.record lines).Inside blocks :=
  inside.of_same rfl rfl id

theorem finished (inside : program.Inside blocks) : program.finished.Inside blocks :=
  inside.of_same rfl rfl fun _ => rfl

theorem stable (blocks : List ConstantsBlock) : Stable (Inside blocks) where
  record inside _ := inside.record _
  finished inside := inside.finished
  made _ inside := inside.of_same rfl rfl id

/-- The guard is taken as long as a constants block is open. -/
theorem eq_nil_of_guard (inside : program.Inside blocks) (free : program.guard = none) :
    blocks = [] := by
  cases blocks with
  | nil => rfl
  | cons owner rest =>
      have held := inside.guarded owner List.mem_cons_self
      rw [free] at held
      cases held

end Inside

end Program

open Program (Inside)

variable {α : Type} {blocks : List ConstantsBlock}

namespace Build

theorem keeps_emit (lines : List Line) : Keeps (Inside blocks) (emit lines) := by
  refine keeps_of_run fun program inside => ?_
  rw [run_emit]
  split
  · exact inside
  · exact inside.record lines

end Build

namespace Scope

/-- The constants blocks that are open inside of a scope and not around it. -/
def opens : Scope → List ConstantsBlock
  | block _ _ => []
  | constants owner => [owner]

/-- No constants block is entered while the guard is held, not even the one that holds it. -/
theorem run_enter_held (owner : ConstantsBlock) {program : Program} {holder : ConstantsBlock}
    (held : program.guard = some holder) :
    (constants owner).enter.run program = (.error .nestedConstants, program) := by
  rw [enter, Build.run_bind, Build.run_get]
  simp [held]

/-- The guard is taken before the program turns out to be final, and then it stays taken. -/
theorem run_enter_final (owner : ConstantsBlock) {program : Program} (free : program.guard = none)
    (isFinal : program.isFinal = true) :
    (constants owner).enter.run program =
      (.error (.closed (.str constantsStart.text)), { program with guard := some owner }) := by
  have final : Program.isFinal { program with guard := some owner } = true := isFinal
  rw [enter, Build.run_bind, Build.run_get]
  simp only [free, Option.isSome_none, Bool.false_eq_true, if_false]
  rw [Build.run_bind, Build.run_update]
  dsimp only
  rw [Build.run_bind, Build.run_emit_final constantsStart [] final]

theorem run_enter_open (owner : ConstantsBlock) {program : Program} (free : program.guard = none)
    (isOpen : program.isFinal = false) :
    (constants owner).enter.run program =
      (.ok (), { program.record [constantsStart] with
        guard := some owner
        openBlocks := owner :: program.openBlocks.filter (· != owner) }) := by
  have stillOpen : Program.isFinal { program with guard := some owner } = false := isOpen
  rw [enter, Build.run_bind, Build.run_get]
  simp only [free, Option.isSome_none, Bool.false_eq_true, if_false]
  rw [Build.run_bind, Build.run_update]
  dsimp only
  rw [Build.run_bind, Build.run_emit_open _ stillOpen]
  rfl

/-- A constants block is entered by an open program whose nesting guard is free, and by no other. -/
theorem free_of_enter {owner : ConstantsBlock} {program entered : Program}
    (enters : (constants owner).enter.run program = (.ok (), entered)) :
    program.guard = none ∧ program.isFinal = false := by
  cases guard : program.guard with
  | some holder =>
      rw [run_enter_held owner guard] at enters
      cases enters
  | none =>
      cases state : program.isFinal with
      | false => exact ⟨rfl, rfl⟩
      | true =>
          rw [run_enter_final owner guard state] at enters
          cases enters

theorem brings_enter (scope : Scope) :
    Brings (Inside blocks) scope.enter (Inside (scope.opens ++ blocks)) (Inside blocks) := by
  cases scope with
  | block name repeats => exact Build.keeps_emit _
  | constants owner =>
      intro program inside
      rw [← Build.run_eq_outcome]
      cases held : program.guard with
      | some holder =>
          rw [run_enter_held owner held]
          exact inside
      | none =>
          obtain rfl := inside.eq_nil_of_guard held
          cases state : program.isFinal with
          | true =>
              rw [run_enter_final owner held state]
              refine ⟨inside.opened, inside.single, List.forall_mem_nil _, fun _ isOpen => ?_⟩
              exact absurd state (ne_true_of_eq_false isOpen)
          | false =>
              rw [run_enter_open owner held state]
              refine ⟨?_, by simp [opens], ?_, nofun⟩
              · simp [inside.opened, opens]
              · simp [opens]

/-- Closing a constants block frees the guard, so no block is open any more. -/
theorem brings_close (scope : Scope) (failed : Program → Prop) :
    Brings (Inside (scope.opens ++ blocks)) scope.close (Inside blocks) failed := by
  cases scope with
  | block name repeats => exact Brings.pure ()
  | constants owner =>
      refine Brings.modify fun program inside => ?_
      have none : blocks = [] := by
        have single := inside.single
        simpa [opens] using single
      subst none
      refine ⟨?_, by simp, List.forall_mem_nil _, fun _ _ => rfl⟩
      simp [inside.opened, opens]

theorem brings_leave (scope : Scope) :
    Brings (Inside (scope.opens ++ blocks)) scope.leave (Inside blocks) (Inside blocks) :=
  (scope.brings_close _).bind fun _ => Build.keeps_emit _

/-- What is kept inside of a scope is kept around it, since the scope is left again. -/
theorem keeps_within (scope : Scope) {body : Build α}
    (inner : Keeps (Inside (scope.opens ++ blocks)) body) :
    Keeps (Inside blocks) (scope.within body) := by
  refine scope.brings_enter.bind fun _ => ?_
  refine Brings.bind (inner.tryCatch fun fault => ?_) fun result => ?_
  · exact (scope.brings_close _).bind fun _ => Brings.throw fault
  · exact scope.brings_leave.bind fun _ => Brings.pure result

end Scope

namespace Command

mutual

theorem keeps_perform : ∀ (command : Command) (blocks : List ConstantsBlock),
    Keeps (Inside blocks) command.perform
  | run task, blocks => by
      rw [perform]
      exact ((Inside.stable blocks).task task).bind fun _ => Brings.pure ()
  | block name repeats body, blocks => by
      rw [perform]
      exact (Scope.block name repeats).keeps_within (keeps_performAll body _)
  | constants names, blocks => by
      rw [perform]
      refine (Inside.stable blocks).makeConstants.bind fun owner => ?_
      exact (Scope.constants owner).keeps_within ((Inside.stable _).declareAll owner names)
  | refuse fault, blocks => by
      rw [perform]
      exact Brings.throw fault

theorem keeps_performAll : ∀ (commands : List Command) (blocks : List ConstantsBlock),
    Keeps (Inside blocks) (performAll commands)
  | [], blocks => by
      rw [performAll]
      exact Brings.pure ()
  | command :: commands, blocks => by
      rw [performAll]
      exact (keeps_perform command blocks).bind fun _ => keeps_performAll commands blocks

end

end Command

namespace Member

theorem keeps_apply (member : Member) (arguments : Arguments) :
    Keeps (Inside blocks) (member.apply arguments) :=
  (Inside.stable blocks).apply fun _ _ => Command.keeps_performAll _ blocks

theorem keeps_request (name : String) (arguments : Arguments) :
    Keeps (Inside blocks) (request name arguments) :=
  (Build.keeps_ofExcept _ _).bind fun member => member.keeps_apply arguments

end Member

theorem Reply.keeps_callWith (reply : Reply) (argument : Value) :
    Keeps (Inside blocks) (reply.callWith argument) :=
  (Inside.stable blocks).callWith fun scope _ => scope.keeps_within (Brings.throw _)

/-- Asking the listing may close the program, but opens none. -/
theorem Session.keeps_ask (request : Listing.Request) : Keeps (Inside blocks) (ask request) := by
  refine Build.keeps_of_run fun program inside => ?_
  rw [Build.run_eq_outcome, program_of_ask]
  have grows := program.listing.grows_answer request
  exact inside.of_same rfl rfl fun isFinal => (grows.closed isFinal).1

end PicAssembly
