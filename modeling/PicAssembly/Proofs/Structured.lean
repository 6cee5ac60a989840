import PicAssembly.Proofs.Nesting

/-!
# Structured runs

A run is structured if no step of it enters or leaves a kept scope by itself, so that scopes are
used around steps and by replaying only.  At every place of such a run the open constants blocks are
those whose scopes stand around the place.
-/

namespace PicAssembly

open Program (Inside)

namespace Step

mutual

/-- Whether a step, with the steps that it holds, enters and leaves no scope by itself. -/
def isStructured : Step → Bool
  | enter _ | leave _ _ => false
  | within _ _ body | whole body | apply _ body => areStructured body
  | tolerate step => isStructured step
  | _ => true

/-- Whether steps, with the steps that they hold, enter and leave no scope by themselves. -/
def areStructured : List Step → Bool
  | [] => true
  | step :: steps => isStructured step && areStructured steps

end

theorem isStructured_of_mem {steps : List Step} (structured : areStructured steps = true) :
    ∀ step ∈ steps, isStructured step = true := by
  induction steps with
  | nil => exact List.forall_mem_nil _
  | cons first steps induction =>
      rw [areStructured, Bool.and_eq_true] at structured
      obtain ⟨head, tail⟩ := structured
      exact List.forall_mem_cons.mpr ⟨head, induction tail⟩

end Step

variable {α : Type} {blocks : List ConstantsBlock}

namespace Session

/-- Sessions whose programs satisfy a condition. -/
abbrev Has (condition : Program → Prop) (session : Session) : Prop :=
  condition session.program

theorem brings_build {before after failed : Program → Prop} {step : Build α}
    (brings : Brings before step after failed) :
    Brings (Has before) (build step) (Has after) (Has failed) := by
  intro session holds
  have reached := brings session.program holds
  rw [outcome_build]
  rcases ran : outcome step session.program with ⟨fault | result, program⟩ <;>
    rw [ran] at reached
  · exact reached
  · exact reached

theorem keeps_keep (condition : Program → Prop) (id : String) (reply : Reply) :
    Keeps (Has condition) (keep id reply) :=
  Brings.modify fun _ holds => holds

theorem keeps_snapshot (condition : Program → Prop) (id : String) :
    Keeps (Has condition) (modify fun session =>
      { session with snapshots := (id, session.program.code) :: session.snapshots } : Run Unit) :=
  Brings.modify fun _ holds => holds

theorem keeps_recording {condition : Program → Prop} {step : Run Answer}
    (keeps : Keeps (Has condition) step) : Keeps (Has condition) (recording step) := by
  intro session holds
  have reached := keeps session holds
  rw [outcome_recording]
  rcases ran : outcome step session with ⟨fault | answer, after⟩ <;> rw [ran] at reached
  · exact reached
  · exact reached

theorem keeps_reply (condition : Program → Prop) (id : String) :
    Keeps (Has condition) (reply id) := by
  refine Brings.get.bind fun session => ?_
  split
  · exact Brings.pure _
  · exact Brings.throw _

theorem keeps_kept (condition : Program → Prop) (id : String) :
    Keeps (Has condition) (kept id) := by
  refine Brings.get.bind fun session => ?_
  split
  · exact Brings.pure _
  · exact Brings.throw _

/-- Keeping a constants block under a name does not matter for the program. -/
theorem brings_enter_of {before after failed : Program → Prop} {scope : Scope}
    (enters : Brings before scope.enter after failed) :
    Brings (Has before) (enter scope) (Has after) (Has failed) := by
  refine (brings_build enters).bind fun _ => ?_
  cases scope with
  | block name repeats => exact Brings.pure ()
  | constants owner => exact Brings.modify fun _ holds => holds

theorem brings_enter (scope : Scope) :
    Brings (Has (Inside blocks)) (enter scope) (Has (Inside (scope.opens ++ blocks)))
      (Has (Inside blocks)) :=
  brings_enter_of scope.brings_enter

section

variable {body : Run Unit}

theorem keeps_inside (scope : Scope)
    (inner : Keeps (Has (Inside (scope.opens ++ blocks))) body) :
    Keeps (Has (Inside blocks)) (inside scope body) := by
  refine (brings_enter scope).bind fun _ => ?_
  refine Brings.bind (inner.tryCatch fun fault => ?_) fun _ => ?_
  · exact (brings_build (scope.brings_close _)).bind fun _ => Brings.throw fault
  · exact brings_build scope.brings_leave

theorem keeps_ending (inner : Keeps (Has (Inside blocks)) body) :
    Keeps (Has (Inside blocks)) (ending body) :=
  inner.bind fun _ => brings_build (Inside.stable blocks).finishOpen

/-- The body may be run inside of a constants block, or of none. -/
theorem keeps_insideReply (reply : Reply)
    (inner : ∀ blocks, Keeps (Has (Inside blocks)) body) :
    Keeps (Has (Inside blocks)) (insideReply reply body) := by
  cases reply with
  | scope scope => exact keeps_inside scope (inner _)
  | value | operation | subroutine => exact Brings.throw _

theorem keeps_applyReply (reply : Reply)
    (inner : ∀ blocks, Keeps (Has (Inside blocks)) body) :
    Keeps (Has (Inside blocks)) (applyReply reply body) := by
  cases reply with
  | scope scope => exact (keeps_inside scope (inner _)).bind fun _ => Brings.pure true
  | value | operation | subroutine =>
      exact (brings_build (Reply.keeps_callWith _ _)).bind fun _ => Brings.pure false

end

end Session

namespace Step

open Session (Has brings_build keeps_recording)

mutual

/-- A structured step leaves the constants blocks open that it finds open, and no others. -/
theorem keeps_run : ∀ {step : Step}, step.isStructured = true → ∀ blocks,
    Keeps (Has (Inside blocks)) step.run
  | tolerate step, structured, blocks => by
      rw [run]
      have inner : step.isStructured = true := structured
      exact (keeps_run inner blocks).tryCatch fun _ => Brings.pure ()
  | dispatch name arguments, _, blocks => by
      rw [run]
      exact keeps_recording
        (brings_build (((Inside.stable blocks).task _).bind fun _ => Brings.pure _))
  | member name arguments, _, blocks => by
      rw [run]
      exact keeps_recording
        (brings_build ((Member.keeps_request name arguments).bind fun _ => Brings.pure _))
  | call name, _, blocks => by
      rw [run]
      exact keeps_recording
        (brings_build (((Inside.stable blocks).statement _).bind fun _ => Brings.pure _))
  | replay commands, _, blocks => by
      rw [run]
      exact keeps_recording
        (brings_build ((Command.keeps_performAll _ blocks).bind fun _ => Brings.pure _))
  | within name arguments body, structured, blocks => by
      rw [run]
      refine keeps_recording ((brings_build (Member.keeps_request _ _)).bind fun reply => ?_)
      have inner : Keeps (Has (Inside blocks)) (Session.insideReply reply (runAll body)) :=
        Session.keeps_insideReply reply (keeps_runAll structured)
      exact inner.bind fun _ => Brings.pure _
  | whole body, structured, blocks => by
      rw [run]
      have inner := Session.keeps_ending (keeps_runAll structured blocks)
      exact keeps_recording (inner.bind fun _ => Brings.pure _)
  | make id name arguments, _, blocks => by
      rw [run]
      refine keeps_recording ((brings_build (Member.keeps_request _ _)).bind fun reply => ?_)
      exact (Session.keeps_keep _ id reply).bind fun _ => Brings.pure _
  | apply id body, structured, blocks => by
      rw [run]
      refine keeps_recording ((Session.keeps_reply _ id).bind fun reply => ?_)
      have inner : Keeps (Has (Inside blocks)) (Session.applyReply reply (runAll body)) :=
        Session.keeps_applyReply reply (keeps_runAll structured)
      exact inner.bind fun _ => Brings.pure _
  | declare id name, _, blocks => by
      rw [run]
      refine keeps_recording ((Session.keeps_reply _ id).bind fun reply => ?_)
      exact (brings_build ((Inside.stable blocks).request reply _ _)).bind fun _ => Brings.pure _
  | register id name arguments, _, blocks => by
      rw [run]
      refine keeps_recording ((Session.keeps_reply _ id).bind fun reply => ?_)
      exact (brings_build ((Inside.stable blocks).request reply _ _)).bind fun _ => Brings.pure _
  | text, _, blocks => by
      rw [run]
      exact keeps_recording (brings_build (Session.keeps_source _))
  | snapshot id, _, blocks => by
      rw [run]
      exact keeps_recording ((Session.keeps_snapshot _ id).bind fun _ => Brings.pure _)
  | reread id, _, blocks => by
      rw [run]
      exact keeps_recording ((Session.keeps_kept _ id).bind fun _ => Brings.pure _)
  | listing request, _, blocks => by
      rw [run]
      exact keeps_recording (brings_build (Session.keeps_ask request))

theorem keeps_runAll : ∀ {steps : List Step}, areStructured steps = true → ∀ blocks,
    Keeps (Has (Inside blocks)) (runAll steps)
  | [], _, blocks => by
      rw [runAll]
      exact Brings.pure ()
  | step :: steps, structured, blocks => by
      rw [areStructured, Bool.and_eq_true] at structured
      obtain ⟨head, tail⟩ := structured
      rw [runAll]
      exact (keeps_run head blocks).bind fun _ => keeps_runAll tail blocks

end

end Step

namespace Move

open Session (Has brings_build)

/-- Whether a move enters and leaves no scope by itself; commands never do. -/
def isStructured : Move → Bool
  | step inner => inner.isStructured
  | command _ | declaration _ _ => true

variable {move : Move} {moves body rest : List Move} {session entered point : Session}
  {frame : Frame} {frames : List Frame}

theorem isStructured_steps {steps : List Step} (structured : Step.areStructured steps = true) :
    ∀ move ∈ steps.map Move.step, move.isStructured = true := by
  intro move member
  obtain ⟨step, held, rfl⟩ := List.mem_map.mp member
  exact Step.isStructured_of_mem structured step held

theorem keeps_run (structured : move.isStructured = true) (blocks : List ConstantsBlock) :
    Keeps (Has (Inside blocks)) move.run := by
  cases move with
  | step inner => exact Step.keeps_run structured blocks
  | command inner => exact brings_build (Command.keeps_perform inner blocks)
  | declaration owner name => exact brings_build ((Inside.stable blocks).declareAll owner [name])

theorem keeps_runAll (structured : ∀ move ∈ moves, move.isStructured = true)
    (blocks : List ConstantsBlock) : Keeps (Has (Inside blocks)) (runAll moves) := by
  induction moves with
  | nil => exact Brings.pure ()
  | cons move moves induction =>
      obtain ⟨head, tail⟩ := List.forall_mem_cons.mp structured
      exact (keeps_run head blocks).bind fun _ => induction tail

/-- A frame opens the constants block of its scope, if it has one, and nothing else. -/
theorem Opens.inside (opens : move.Opens session frame body entered)
    (structured : move.isStructured = true) (holds : session.program.Inside blocks) :
    entered.program.Inside (frame.opens ++ blocks) ∧
      ∀ inner ∈ body, inner.isStructured = true := by
  cases opens with
  | within requests enters =>
      have requested := (brings_build (Member.keeps_request _ _)).of_ok holds requests
      exact ⟨(Session.brings_enter _).of_ok requested enters, isStructured_steps structured⟩
  | apply kept enters =>
      exact ⟨(Session.brings_enter _).of_ok holds enters, isStructured_steps structured⟩
  | whole body => exact ⟨holds, isStructured_steps structured⟩
  | tolerate step =>
      refine ⟨holds, fun inner member => ?_⟩
      rw [List.mem_singleton.mp member]
      exact structured
  | performs step =>
      refine ⟨holds, fun inner member => ?_⟩
      obtain ⟨command, _, rfl⟩ := List.mem_map.mp member
      rfl
  | block enters =>
      refine ⟨(brings_build (Scope.brings_enter _)).of_ok holds enters, fun inner member => ?_⟩
      obtain ⟨command, _, rfl⟩ := List.mem_map.mp member
      rfl
  | constants makes enters =>
      have made := (brings_build (Inside.stable blocks).makeConstants).of_ok holds makes
      refine ⟨(brings_build (Scope.brings_enter _)).of_ok made enters, fun inner member => ?_⟩
      obtain ⟨name, _, rfl⟩ := List.mem_map.mp member
      rfl

/-- At a place of a structured run the constants blocks of the frames around it are open, and those
that were open before. -/
theorem ComesTo.inside (comes : ComesTo moves session frames rest point)
    (structured : ∀ move ∈ moves, move.isStructured = true)
    (holds : session.program.Inside blocks) :
    point.program.Inside (frames.reverse.flatMap Frame.opens ++ blocks) ∧
      ∀ move ∈ rest, move.isStructured = true := by
  induction comes generalizing blocks with
  | here moves session => exact ⟨holds, structured⟩
  | later runs _ induction =>
      obtain ⟨head, tail⟩ := List.forall_mem_cons.mp structured
      exact induction tail ((keeps_run head blocks).of_ok holds runs)
  | inner opens _ induction =>
      obtain ⟨head, _⟩ := List.forall_mem_cons.mp structured
      obtain ⟨inside, inner⟩ := opens.inside head holds
      have reached := induction inner inside
      rw [List.reverse_cons, List.flatMap_append, List.flatMap_singleton, List.append_assoc]
      exact reached

end Move

end PicAssembly
