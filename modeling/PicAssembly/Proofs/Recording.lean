import PicAssembly.Proofs.Failing

/-!
# Operations that record a statement

An operation whose arguments are read as a statement records the lines of the statement on every
open program, and if the statement has a fault, the operation fails with it behind these lines.  A
statement whose first line cannot be formed leaves every program as it is.
-/

namespace PicAssembly

variable {program : Program} {statement : Statement} {fault : Fault}

namespace Build

/-- A step that appends lines to a program. -/
def Appends {α : Type} (step : Build α) (program : Program) (texts : List String) : Prop :=
  ∃ result reached, step.run program = (.ok result, reached) ∧ program.Adds texts reached

theorem run_perform_of_open (succeeds : statement.fault? = none)
    (isOpen : program.isFinal = false) :
    (perform statement).run program = (.ok (), program.record statement.lines) := by
  rw [perform_eq, run_bind, run_emit_open statement.lines isOpen, succeeds]
  rfl

theorem run_perform_of_fault (fails : statement.fault? = some fault)
    (isOpen : program.isFinal = false) :
    (perform statement).run program = (.error fault, program.record statement.lines) := by
  rw [perform_eq, run_bind, run_emit_open statement.lines isOpen, fails]
  rfl

end Build

namespace Member

variable {operation : Operation} {arguments : Arguments}

theorem run_statement (read : Task.ofOperation operation arguments = .state statement)
    (succeeds : statement.fault? = none) (isOpen : program.isFinal = false) :
    (request operation.name arguments).run program =
      (.ok .nothing, program.record statement.lines) := by
  have performs : (Task.state statement).perform.run program =
      (.ok none, program.record statement.lines) := by
    rw [Task.perform, Build.run_bind, Build.run_perform_of_open succeeds isOpen]
    rfl
  rw [request_operation, read]
  exact Task.run_reply_of_ok performs

theorem appends_statement (read : Task.ofOperation operation arguments = .state statement)
    (succeeds : statement.fault? = none) (isOpen : program.isFinal = false) :
    (request operation.name arguments).Appends program (statement.lines.map Line.text) :=
  ⟨_, _, run_statement read succeeds isOpen, .record _ isOpen⟩

/-- A statement that is drafted as known lines appends them. -/
theorem appends_draft {lines : List Line}
    (read : Task.ofOperation operation arguments = .state statement)
    (drafted : statement.draft = .ofLines lines) (isOpen : program.isFinal = false) :
    (request operation.name arguments).Appends program (lines.map Line.text) := by
  have succeeds : statement.fault? = none := by
    rw [Statement.fault?, drafted, Draft.fault?_ofLines]
  have appends := appends_statement read succeeds isOpen
  rwa [Statement.lines, drafted, Draft.lines_ofLines] at appends

theorem run_statement_of_fault (read : Task.ofOperation operation arguments = .state statement)
    (fails : statement.fault? = some fault) (isOpen : program.isFinal = false) :
    (request operation.name arguments).run program =
      (.error fault, program.record statement.lines) := by
  have performs : (Task.state statement).perform.run program =
      (.error fault, program.record statement.lines) := by
    rw [Task.perform, Build.run_bind, Build.run_perform_of_fault fails isOpen]
  rw [request_operation, read]
  exact Task.run_reply_of_error performs

/-- A statement whose first line cannot be formed leaves every program as it is. -/
theorem run_refused (read : Task.ofOperation operation arguments = .state statement)
    (drafted : statement.draft = [.error fault]) (program : Program) :
    (request operation.name arguments).run program = (.error fault, program) := by
  have performs : (Task.state statement).perform.run program = (.error fault, program) := by
    rw [Task.perform, Build.perform, drafted]
    rfl
  rw [request_operation, read]
  exact Task.run_reply_of_error performs

end Member

end PicAssembly
