import PicAssembly.Proofs.CommandTable
import PicAssembly.Session.Run

/-!
# Commands as calls

The calls of a program and of its scopes that stand for a tree of commands.  A scope stands around
the calls of its body, or it is called with a function that makes them; whichever it is for each
scope, the calls stand for the same commands.
-/

namespace PicAssembly

open CommandTable

/-- Whether a name that is no operation stands for a call of a subroutine. -/
structure Member.IsCall (name : String) : Prop where
  noOperation : Operation.ofName? name = none
  noMember : others.lookup name = none
  isPublic : isPrivateName name = false

/-- Whether a constants block declares a register by a call under its name. -/
structure Scope.IsDeclaration (name : String) : Prop where
  isPublic : isPrivateName name = false
  noMember : name ≠ "declare"

namespace Step

/-- A command that can be carried out by calls: its scopes have bodies, the bodies of its constants
blocks are names without arguments, and no name of it hides another member. -/
inductive Callable : Value → Prop
  | operation {command : Value} {name : String} {operands : List Value} {found : Operation}
      (parts : parts? command = some (name, operands))
      (named : Operation.ofName? name = some found) (noScope : found.isScoped = false) :
      Callable command
  | call {command : Value} {name : String} {operands : List Value}
      (parts : parts? command = some (name, operands)) (isCall : Member.IsCall name) :
      Callable command
  | block {command body : Value} {name : String} {arguments commands : List Value}
      (parts : parts? command = some (name, arguments ++ [body]))
      (isLabelled : name = "subr" ∨ name = "block" ∨ name = "loop")
      (items : body.elements? = some commands) (inner : ∀ item ∈ commands, Callable item) :
      Callable command
  | constants {command body : Value} {arguments commands : List Value} {names : List String}
      (parts : parts? command = some ("constants", arguments ++ [body]))
      (items : body.elements? = some commands)
      (declared : commands.map parts? = names.map fun name => some (name, []))
      (valid : ∀ name ∈ names, Scope.IsDeclaration name) :
      Callable command

/-- A sequence of commands that can be carried out by calls. -/
def CallableSequence (sequence : Value) : Prop :=
  ∃ commands, sequence.elements? = some commands ∧ ∀ command ∈ commands, Callable command

/-- The calls that declare registers in the constants block entered last. -/
def declarations (names : List String) : List Step :=
  names.map fun name => register Session.lastConstants name []

/-- The steps that carry out a scope around a body: inside of the scope, or as a function that the
scope is called with. -/
inductive Encloses (name : String) (arguments : List Value) (body : List Step) : List Step → Prop
  | inside : Encloses name arguments body [within name arguments body]
  | called (id : String) : Encloses name arguments body [make id name arguments, apply id body]

mutual

/-- The steps that carry out a command by calls. -/
inductive Builds : Value → List Step → Prop
  | operation {command : Value} {name : String} {operands : List Value} {found : Operation}
      (parts : parts? command = some (name, operands))
      (named : Operation.ofName? name = some found) (noScope : found.isScoped = false) :
      Builds command [member name (.ofList operands)]
  | call {command : Value} {name : String} {operands : List Value}
      (parts : parts? command = some (name, operands)) (isCall : Member.IsCall name) :
      Builds command [member name (.ofList operands)]
  | block {command body : Value} {name : String} {arguments commands : List Value}
      {inner steps : List Step} (parts : parts? command = some (name, arguments ++ [body]))
      (isLabelled : name = "subr" ∨ name = "block" ∨ name = "loop")
      (items : body.elements? = some commands) (builds : BuildsAll commands inner)
      (encloses : Encloses name arguments inner steps) :
      Builds command steps
  | constants {command body : Value} {arguments commands : List Value} {names : List String}
      {steps : List Step} (parts : parts? command = some ("constants", arguments ++ [body]))
      (items : body.elements? = some commands)
      (declared : commands.map parts? = names.map fun name => some (name, []))
      (valid : ∀ name ∈ names, Scope.IsDeclaration name)
      (encloses : Encloses "constants" arguments (declarations names) steps) :
      Builds command steps

/-- The steps that carry out commands in order. -/
inductive BuildsAll : List Value → List Step → Prop
  | nil : BuildsAll [] []
  | cons {command : Value} {commands : List Value} {front back : List Step}
      (first : Builds command front) (others : BuildsAll commands back) :
      BuildsAll (command :: commands) (front ++ back)

end

/-- The steps that carry out a sequence of commands. -/
def BuildsSequence (sequence : Value) (steps : List Step) : Prop :=
  ∃ commands, sequence.elements? = some commands ∧ BuildsAll commands steps

theorem exists_buildsAll {commands : List Value}
    (builds : ∀ command ∈ commands, ∃ steps, Builds command steps) :
    ∃ steps, BuildsAll commands steps := by
  induction commands with
  | nil => exact ⟨[], .nil⟩
  | cons command commands induction =>
      obtain ⟨front, first⟩ := builds command List.mem_cons_self
      obtain ⟨back, others⟩ := induction fun other member =>
        builds other (List.mem_cons_of_mem _ member)
      exact ⟨front ++ back, .cons first others⟩

theorem exists_builds {command : Value} (callable : Callable command) :
    ∃ steps, Builds command steps := by
  induction callable with
  | operation parts named noScope => exact ⟨_, .operation parts named noScope⟩
  | call parts isCall => exact ⟨_, .call parts isCall⟩
  | block parts isLabelled items _ induction =>
      obtain ⟨steps, builds⟩ := exists_buildsAll induction
      exact ⟨_, .block parts isLabelled items builds .inside⟩
  | constants parts items declared valid =>
      exact ⟨_, .constants parts items declared valid .inside⟩

end Step

end PicAssembly
