import PicAssembly.Proofs.Conditions
import PicAssembly.Proofs.EndMarker
import PicAssembly.Proofs.Sessions

/-!
# Stable conditions

Operations and declarations change a program in a few ways only: they record plain lines, they end
it, or they count the constants blocks that have been made.  A condition that outlasts these changes
is kept by every building step that enters no scope.
-/

namespace PicAssembly

/-- Whether a line may be recorded by an operation or a declaration; the others are those of scopes
and of the end. -/
def Line.isPlain : Line → Bool
  | .blank | .instruction .. | .register _ => true
  | .heading _ | .directive _ => false

theorem Statement.isPlain_of_mem {statement : Statement} :
    ∀ line ∈ statement.lines, line.isPlain = true := by
  intro line member
  rcases statement.blank_or_instruction line member with rfl | ⟨mnemonic, operands, rfl⟩
  · rfl
  · rfl

/-- A condition on programs that outlasts what operations and declarations do. -/
structure Program.Stable (condition : Program → Prop) : Prop where
  record : ∀ {program lines}, condition program → (∀ line ∈ lines, line.isPlain = true) →
    condition (program.record lines)
  finished : ∀ {program}, condition program → condition program.finished
  made : ∀ {program} count, condition program → condition { program with blocksMade := count }

variable {α : Type}

namespace Build

theorem run_eq_outcome (step : Build α) (program : Program) :
    step.run program = outcome step program := rfl

theorem keeps_of_run {condition : Program → Prop} {step : Build α}
    (keeps : ∀ program, condition program → condition (step.run program).2) :
    Keeps condition step := by
  intro program holds
  have kept := keeps program holds
  rw [run_eq_outcome] at kept
  rcases ran : outcome step program with ⟨fault | result, after⟩ <;> rw [ran] at kept
  · exact kept
  · exact kept

theorem keeps_ofExcept (condition : Program → Prop) (result : Except Fault α) :
    Keeps condition (ofExcept result) := by
  cases result with
  | ok found => exact Brings.pure found
  | error fault => exact Brings.throw fault

end Build

namespace Program.Stable

variable {condition : Program → Prop} (stable : Stable condition)

include stable

theorem emit {lines : List Line} (plain : ∀ line ∈ lines, line.isPlain = true) :
    Keeps condition (Build.emit lines) := by
  refine Build.keeps_of_run fun program holds => ?_
  rw [Build.run_emit]
  split
  · exact holds
  · exact stable.record holds plain

theorem statement (statement : Statement) : Keeps condition (Build.perform statement) := by
  rw [Build.perform_eq]
  refine (stable.emit Statement.isPlain_of_mem).bind fun _ => ?_
  cases statement.fault? with
  | none => exact Brings.pure ()
  | some fault => exact Brings.throw fault

theorem finish : Keeps condition Build.finish := by
  refine Build.keeps_of_run fun program holds => ?_
  cases state : program.isFinal with
  | false =>
      rw [Build.run_finish_open state]
      exact stable.finished holds
  | true =>
      rw [Build.run_finish_final state]
      exact holds

theorem finishOpen : Keeps condition Build.finishOpen := by
  refine Brings.get.bind fun program => ?_
  split
  · exact Brings.pure ()
  · exact stable.finish

theorem makeConstants : Keeps condition Build.makeConstants :=
  Build.keeps_of_run fun _ holds => stable.made _ holds

theorem declare (owner : ConstantsBlock) (name : String) :
    Keeps condition (Build.declare owner name) := by
  refine Brings.get.bind fun program => ?_
  split
  · exact stable.emit (by simp [Line.isPlain])
  · exact Brings.throw _

theorem callNamed (asked : Thing) (name : String) :
    Keeps condition (Build.callNamed asked name) := by
  rw [Build.callNamed]
  split
  · exact stable.statement _
  · exact stable.declare _ _

theorem askKeys (asked : Thing) : Keeps condition (Build.askKeys asked) := by
  rw [Build.askKeys]
  split
  · exact (stable.callNamed asked _).bind fun _ => Brings.throw _
  · exact Brings.throw _

theorem task (task : Task) : Keeps condition task.perform := by
  induction task with
  | state statement => exact (stable.statement statement).bind fun _ => Brings.pure none
  | ask asked => exact (stable.askKeys asked).bind fun _ => Brings.pure none
  | skip register inner induction =>
      refine (stable.emit (by simp [Line.isPlain])).bind fun _ => ?_
      refine induction.bind fun _ => ?_
      exact (stable.emit (by simp [Line.isPlain])).bind fun _ => Brings.pure none
  | finish => exact stable.finish.bind fun _ => Brings.pure none
  | makeBlock name repeats => exact Brings.pure _
  | makeConstants => exact stable.makeConstants.bind fun owner => Brings.pure _
  | refuse fault => exact Brings.throw fault

theorem declareAll (owner : ConstantsBlock) (names : List (Except Fault String)) :
    Keeps condition (Command.declareAll owner names) := by
  induction names with
  | nil => exact Brings.pure ()
  | cons outcome names induction =>
      cases outcome with
      | ok name => exact (stable.declare owner name).bind fun _ => induction
      | error fault => exact Brings.throw fault

/-- A call of a member keeps the condition if it is no replay; a replay may enter scopes. -/
theorem apply {member : Member} {arguments : Arguments}
    (replays : member = .replay → ∀ commands, Keeps condition (Build.replay commands)) :
    Keeps condition (member.apply arguments) := by
  cases member with
  | operation found => exact (stable.task _).bind fun _ => Brings.pure _
  | call =>
      refine (Build.keeps_ofExcept _ _).bind fun bound => ?_
      exact (stable.statement _).bind fun _ => Brings.pure _
  | dispatch =>
      refine (Build.keeps_ofExcept _ _).bind fun bound => ?_
      exact (stable.task _).bind fun _ => Brings.pure _
  | replay =>
      refine (Build.keeps_ofExcept _ _).bind fun bound => ?_
      exact (replays rfl _).bind fun _ => Brings.pure _
  | resolve =>
      exact (Build.keeps_ofExcept _ _).bind fun bound => Build.keeps_ofExcept _ _
  | text =>
      refine (Build.keeps_ofExcept _ _).bind fun bound => ?_
      exact Brings.get.bind fun program => (Keeps.liftM _ _).bind fun _ => Brings.pure _
  | load => exact (Build.keeps_ofExcept _ _).bind fun bound => Brings.throw _
  | field typeName => exact Brings.throw _
  | subroutine name => exact (stable.task _).bind fun _ => Brings.pure _

/-- A call of a member of a reply declares a register, or it is refused. -/
theorem request (reply : Reply) (name : String) (positional : List Value) :
    Keeps condition (reply.request name positional) := by
  cases reply with
  | scope inner =>
      cases inner with
      | block label repeats => exact Brings.throw _
      | constants owner =>
          rw [Reply.request, Scope.request]
          split
          · exact (Build.keeps_ofExcept _ _).bind fun bound => stable.declare owner _
          · split
            · exact Brings.throw _
            · exact (Build.keeps_ofExcept _ _).bind fun bound => stable.declare owner _
  | value | operation | subroutine => exact Brings.throw _

/-- A call of a reply keeps the condition if it is no scope; a scope is entered by its call. -/
theorem callWith {reply : Reply} {argument : Value}
    (calls : ∀ scope, reply = .scope scope → Keeps condition (scope.callWith argument)) :
    Keeps condition (reply.callWith argument) := by
  cases reply with
  | value held => exact Brings.throw _
  | scope inner => exact (calls inner rfl).bind fun _ => Brings.pure _
  | operation found =>
      have applied : Keeps condition (Member.apply (.operation found) (.ofList [argument])) :=
        stable.apply nofun
      exact applied
  | subroutine name => exact (stable.task _).bind fun _ => Brings.pure _

end Program.Stable

namespace Session

theorem keeps_ask_of_isReading {request : Listing.Request} (isReading : request.isReading = true)
    (condition : Program → Prop) : Keeps condition (ask request) := by
  refine Build.keeps_of_run fun program holds => ?_
  rw [Build.run_eq_outcome, program_of_ask, Listing.Request.answer_of_isReading isReading]
  exact holds

theorem keeps_source (condition : Program → Prop) : Keeps condition source :=
  Brings.get.bind fun _ => (Keeps.liftM _ _).bind fun _ => Brings.pure _

end Session

end PicAssembly
