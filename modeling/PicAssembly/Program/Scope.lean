import PicAssembly.Program.Basic

/-!
# Scopes

A labelled block records its label on entry and a blank line on exit, followed by a jump back if it
repeats.  A constants block takes the nesting guard and opens on entry; it closes and frees the
guard on exit, whoever holds it.  A scope left by a fault records nothing.
-/

namespace PicAssembly

/-- A block of a program that can be entered and left. -/
inductive Scope where
  | block (name : Value) (repeats : Bool)
  | constants (block : ConstantsBlock)
deriving Repr

namespace Scope

/-- The line that opens a constants block at the first general register. -/
def constantsStart : Line :=
  .directive ("cblock 0x" ++ String.ofList (Quoted.hexadecimal 2 Device.registerBase))

/-- Enters a scope. -/
def enter : Scope → Build Unit
  | block name _ => Build.emit [.heading (label name.text)]
  | constants owner => do
      if (← get).guard.isSome then throw .nestedConstants
      Build.update fun program => { program with guard := some owner }
      Build.emit [constantsStart]
      Build.update fun program =>
        { program with openBlocks := owner :: program.openBlocks.filter (· != owner) }

/-- Closes a constants block and frees the nesting guard; a labelled block has nothing to close. -/
def close : Scope → Build Unit
  | block _ _ => pure ()
  | constants owner =>
      Build.update fun program =>
        { program with guard := none, openBlocks := program.openBlocks.filter (· != owner) }

/-- The lines at the end of a scope. -/
def closingLines : Scope → List Line
  | block name repeats => if repeats then [.blank, .goto name.text, .blank] else [.blank]
  | constants _ => [.directive "endc", .blank]

/-- Leaves a scope whose body has succeeded. -/
def leave (scope : Scope) : Build Unit := do
  scope.close
  Build.emit scope.closingLines

/-- Runs a body inside a scope; a fault in the body closes the scope and goes on outwards. -/
def within {α : Type} (scope : Scope) (body : Build α) : Build α := do
  scope.enter
  let result ← tryCatch body fun fault => do
    scope.close
    throw fault
  scope.leave
  pure result

end Scope

end PicAssembly
