import PicAssembly.Program.Scope

/-!
# Performing tasks

A task is performed on a program.  One that skips an inner task records its own first line before
the inner one is looked at, so a refusal in the inner task comes after that line.
-/

namespace PicAssembly

namespace Task

/-- Performs a task; one that makes a scope answers with it. -/
def perform : Task → Build (Option Scope)
  | state statement => do
      Build.perform statement
      pure none
  | ask asked => do
      Build.askKeys asked
      pure none
  | skip register inner => do
      Build.emit [.instruction .decfsz [register, "f"]]
      let _ ← inner.perform
      Build.emit [.blank]
      pure none
  | finish => do
      Build.finish
      pure none
  | makeBlock name repeats => pure (some (.block name repeats))
  | makeConstants => do
      pure (some (.constants (← Build.makeConstants)))
  | refuse fault => throw fault

end Task

end PicAssembly
