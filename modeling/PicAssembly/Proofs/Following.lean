import PicAssembly.Proofs.Ends
import PicAssembly.Proofs.History

/-!
# Building steps follow histories

Every building step takes a program along a history, whether it succeeds or fails, and the history
has as many ends as are counted for the step.  The steps are gone through once, from the elementary
ones to the calls of members; all that they are asked for is that the names of labelled blocks are
allowed.
-/

namespace PicAssembly

/-- Whether the labelled blocks that a task makes have allowed names. -/
def Task.Allowed (allowance : Allowance) : Task → Prop
  | makeBlock name _ => allowance.name name
  | skip _ inner => inner.Allowed allowance
  | _ => True

namespace Command

mutual

/-- Whether the labelled blocks that a command makes have allowed names. -/
def Allowed (allowance : Allowance) : Command → Prop
  | run task => task.Allowed allowance
  | block name _ body => allowance.name name ∧ AllAllowed allowance body
  | constants _ | refuse _ => True

/-- Whether the labelled blocks that commands make have allowed names. -/
def AllAllowed (allowance : Allowance) : List Command → Prop
  | [] => True
  | command :: commands => Allowed allowance command ∧ AllAllowed allowance commands

end

end Command

/-- Whether a scope has an allowed name, if it is a labelled block. -/
def Scope.Allowed (allowance : Allowance) : Scope → Prop
  | block name _ => allowance.name name
  | constants _ => True

/-- Whether a reply is no labelled block of a name that is not allowed. -/
def Reply.Allowed (allowance : Allowance) : Reply → Prop
  | scope made => made.Allowed allowance
  | _ => True

/-- The histories of programs as a course, which counts ends. -/
def History.course (allowance : Allowance) : Course Program where
  Valid _ := True
  Leads before ends after := History allowance before ends after
  refl _ := .start
  trans front back := front.trans back

namespace Build

variable {α : Type} {allowance : Allowance}

/-- A building step that follows histories on which it ends no program. -/
abbrev Quiet (allowance : Allowance) (step : Build α) : Prop :=
  Follows (History.course allowance) step (fun _ => 0) fun _ => True

/-- A step without a result to describe follows histories if every run of it does. -/
theorem follows_of_run {step : Build α} {ends : Program → Nat}
    (history : ∀ program, History allowance program (ends program) (step.run program).2) :
    Follows (History.course allowance) step ends fun _ => True :=
  fun program _ => ⟨history program, trivial, fun _ _ => trivial⟩

theorem quiet_get : Quiet allowance get :=
  follows_of_run fun _ => .start

theorem quiet_update {change : Program → Program}
    (unchanged : ∀ program, (change program).listing = program.listing) :
    Quiet allowance (update change) :=
  follows_of_run fun program => .rearrange .start (unchanged program)

theorem quiet_ofExcept {outcome : Except Fault α} {answers : α → Prop}
    (described : ∀ result, outcome = .ok result → answers result) :
    Follows (History.course allowance) (ofExcept outcome) (fun _ => 0) answers := by
  cases outcome with
  | ok result => exact .pure (described result rfl)
  | error fault => exact .throw fault

theorem quiet_emit {lines : List Line} (allowed : ∀ line ∈ lines, allowance.line line) :
    Quiet allowance (emit lines) := by
  refine follows_of_run fun program => ?_
  rw [run_emit]
  split
  · exact .start
  · next taken =>
      rcases (program.listing.refusal?_eq_none_iff _).mp taken with none | isOpen
      · refine .rearrange .start ?_
        simp [Program.record, Listing.grow, none]
      · exact .record lines .start isOpen allowed

theorem follows_finish :
    Follows (History.course allowance) finish (behind finish fun _ _ => 1) fun _ => True := by
  refine follows_of_run fun program => ?_
  cases state : program.isFinal with
  | false =>
      rw [behind_ok (run_finish_open state), run_finish_open state]
      exact .finish .start state
  | true =>
      rw [behind_error (run_finish_final state), run_finish_final state]
      exact .start

/-- A program that is final is left alone, which an end would be refused by as well. -/
theorem follows_finishOpen :
    Follows (History.course allowance) finishOpen (behind finish fun _ _ => 1) fun _ => True := by
  refine follows_of_run fun program => ?_
  rw [finishOpen, run_bind, run_get]
  dsimp only
  split
  · next isFinal =>
      rw [behind_error (run_finish_final isFinal)]
      exact .start
  · exact (follows_finish program trivial).leads

theorem quiet_makeConstants : Quiet allowance makeConstants :=
  quiet_get.bind_last fun _ _ =>
    Follows.bind_last (quiet_update fun _ => rfl) fun _ _ => .pure trivial

theorem quiet_declare (block : ConstantsBlock) (name : String) :
    Quiet allowance (declare block name) := by
  refine quiet_get.bind_last fun program _ => ?_
  split
  · exact quiet_emit (by simp [Allowance.line])
  · exact .throw _

end Build

namespace Statement

/-- Whether a line is blank or holds an instruction. -/
def Plain (line : Line) : Prop :=
  line = .blank ∨ ∃ mnemonic operands, line = .instruction mnemonic operands

theorem plain_blank : Plain .blank :=
  .inl rfl

theorem plain_instruction (mnemonic : Mnemonic) (operands : List String) :
    Plain (.instruction mnemonic operands) :=
  .inr ⟨mnemonic, operands, rfl⟩

theorem forms_plain_literal (mnemonic : Mnemonic) (operands : List String) (value : Value) :
    Draft.Forms Plain (literal mnemonic operands value) :=
  forms_literal value fun _ => plain_instruction _ _

theorem forms_plain_level (entry : Value × Value) : Draft.Forms Plain (Pins.level entry) := by
  rw [Pins.level]
  cases Device.Pin.drivenOfKey? entry.1 with
  | none => exact Draft.forms_error _
  | some pin => exact Draft.forms_ok.mpr (plain_instruction _ _)

theorem forms_plain (statement : Statement) :
    ∀ formed ∈ statement.draft, Draft.Forms Plain formed := by
  cases statement with
  | configurePins pins keywords =>
      rw [draft]
      cases Pins.read pins keywords with
      | error fault => simp
      | ok merged => simp [plain_instruction, plain_blank]
  | delay duration =>
      rw [draft]
      cases Duration.delayUnits duration with
      | error fault => simp
      | ok units =>
          rw [Draft.forall_forms_ofLines, List.forall_mem_append, List.forall_mem_singleton]
          refine ⟨fun line member => ?_, plain_blank⟩
          rw [List.eq_of_mem_replicate member]
          exact plain_instruction _ _
  | drivePins pins keywords =>
      rw [draft]
      cases Pins.read pins keywords with
      | error fault => simp
      | ok merged =>
          rw [List.forall_mem_append, List.forall_mem_map, List.forall_mem_singleton]
          exact ⟨fun entry _ => forms_plain_level entry, Draft.forms_ok.mpr plain_blank⟩
  | _ =>
      simp [draft, load, Line.call, Line.goto, forms_plain_literal, plain_instruction, plain_blank]

/-- A statement consists of instructions and blank lines. -/
theorem blank_or_instruction (statement : Statement) :
    ∀ line ∈ statement.lines, line = .blank ∨ ∃ mnemonic operands,
      line = .instruction mnemonic operands :=
  Draft.forall_lines statement.forms_plain

theorem lines_allowed (allowance : Allowance) (statement : Statement) :
    ∀ line ∈ statement.lines, allowance.line line := by
  intro line member
  rcases statement.blank_or_instruction line member with rfl | ⟨_, _, rfl⟩
  · trivial
  · trivial

end Statement

namespace Build

variable {allowance : Allowance}

theorem quiet_perform (statement : Statement) : Quiet allowance (perform statement) := by
  rw [perform_eq]
  refine (quiet_emit (statement.lines_allowed allowance)).bind_last fun _ _ => ?_
  cases statement.fault? with
  | none => exact .pure trivial
  | some fault => exact .throw fault

theorem quiet_callNamed (asked : Thing) (name : String) :
    Quiet allowance (callNamed asked name) := by
  rw [callNamed]
  split
  · exact quiet_perform _
  · exact quiet_declare _ _

theorem quiet_askKeys (asked : Thing) : Quiet allowance (askKeys asked) := by
  rw [askKeys]
  split
  · exact (quiet_callNamed asked keysName).bind_last fun _ _ => .throw _
  · exact .throw _

end Build

namespace Scope

open Build (Quiet)

variable {α : Type} {allowance : Allowance} {ends : Program → Nat} {answers : α → Prop}

theorem quiet_enter {scope : Scope} (allowed : scope.Allowed allowance) :
    Quiet allowance scope.enter := by
  cases scope with
  | block name repeats =>
      apply Build.quiet_emit
      simpa [Allowance.line] using ⟨name, allowed, rfl⟩
  | constants owner =>
      refine Build.quiet_get.bind_last fun program _ => ?_
      split
      · exact .throw _
      · refine Follows.bind_last (Build.quiet_update fun _ => rfl) fun _ _ => ?_
        refine Follows.bind_last (Build.quiet_emit ?_) fun _ _ => Build.quiet_update fun _ => rfl
        simp [Allowance.line, constantsStart]

theorem quiet_close (scope : Scope) : Quiet allowance scope.close := by
  cases scope with
  | block name repeats => exact .pure trivial
  | constants owner => exact Build.quiet_update fun _ => rfl

theorem quiet_leave (scope : Scope) : Quiet allowance scope.leave := by
  refine scope.quiet_close.bind_last fun _ _ => Build.quiet_emit ?_
  cases scope with
  | block name repeats => cases repeats <;> simp [closingLines, Allowance.line, Line.goto]
  | constants owner => simp [closingLines, Allowance.line]

theorem follows_within (scope : Scope) (allowed : scope.Allowed allowance) {body : Build α}
    (inner : Follows (History.course allowance) body ends answers) :
    Follows (History.course allowance) (scope.within body) (behind scope.enter fun _ => ends)
      answers := by
  refine (quiet_enter allowed).bind_quiet fun _ _ => ?_
  refine Follows.bind_last (inner.tryCatch fun fault => ?_) fun result described => ?_
  · exact scope.quiet_close.bind_last fun _ _ => .throw fault
  · exact scope.quiet_leave.bind_last fun _ _ => .pure described

end Scope

namespace Task

variable {allowance : Allowance}

/-- Performing a task ends the program as often as is counted; the scope that an allowed task makes
is allowed. -/
theorem follows_perform (task : Task) :
    Follows (History.course allowance) task.perform task.ends fun made =>
      task.Allowed allowance → ∀ scope, made = some scope → scope.Allowed allowance := by
  induction task with
  | state statement =>
      refine (Build.quiet_perform statement).bind_last fun _ _ => .pure ?_
      rintro - scope ⟨⟩
  | ask asked =>
      refine (Build.quiet_askKeys asked).bind_last fun _ _ => .pure ?_
      rintro - scope ⟨⟩
  | skip register inner induction =>
      have decrement :
          ∀ line ∈ [Line.instruction .decfsz [register, "f"]], allowance.line line := by
        simp [Allowance.line]
      have blank : ∀ line ∈ [Line.blank], allowance.line line := by simp [Allowance.line]
      refine (Build.quiet_emit decrement).bind_quiet fun _ _ => ?_
      refine induction.bind_last fun _ _ => ?_
      refine (Build.quiet_emit blank).bind_last fun _ _ => .pure ?_
      rintro - scope ⟨⟩
  | finish =>
      refine Build.follows_finish.bind_last fun _ _ => .pure ?_
      rintro - scope ⟨⟩
  | makeBlock name repeats =>
      refine .pure ?_
      rintro allowed scope ⟨⟩
      exact allowed
  | makeConstants =>
      refine Build.quiet_makeConstants.bind_last fun _ _ => .pure ?_
      rintro - scope ⟨⟩
      trivial
  | refuse fault => exact .throw fault

end Task

namespace Command

variable {allowance : Allowance}

theorem quiet_declareAll (block : ConstantsBlock) (names : List (Except Fault String)) :
    Build.Quiet allowance (declareAll block names) := by
  induction names with
  | nil => exact .pure trivial
  | cons outcome names induction =>
      cases outcome with
      | ok name => exact (Build.quiet_declare block name).bind_last fun _ _ => induction
      | error fault => exact .throw fault

mutual

theorem follows_perform : ∀ {command : Command}, command.Allowed allowance →
    Follows (History.course allowance) command.perform command.ends fun _ => True
  | run task, _ => by
      rw [perform, ends]
      exact (Task.follows_perform task).bind_last fun _ _ => .pure trivial
  | block name repeats body, allowed => by
      rw [perform, ends]
      exact (Scope.block name repeats).follows_within allowed.1 (follows_performAll allowed.2)
  | constants names, allowed => by
      rw [perform, ends]
      refine Build.quiet_makeConstants.bind_last fun block _ => ?_
      simpa using (Scope.constants block).follows_within trivial (quiet_declareAll block names)
  | refuse fault, _ => by
      rw [perform, ends]
      exact .throw fault

theorem follows_performAll : ∀ {commands : List Command}, AllAllowed allowance commands →
    Follows (History.course allowance) (performAll commands) (endsAll commands) fun _ => True
  | [], _ => by
      rw [performAll, endsAll]
      exact .pure trivial
  | command :: commands, allowed => by
      rw [performAll, endsAll]
      exact (follows_perform allowed.1).bind fun _ _ => follows_performAll allowed.2

end

end Command

end PicAssembly
