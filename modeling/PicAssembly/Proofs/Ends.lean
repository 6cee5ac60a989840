import PicAssembly.Proofs.Outcome
import PicAssembly.Session.Run

/-!
# Ends of programs

How often a program is ended by what is done with it.  The count follows a run part by part: what
stands behind a step that fails counts nothing, and an end that is refused counts nothing either.
-/

namespace PicAssembly

/-- Counts the ends of a task. -/
def Task.ends : Task → Program → Nat
  | skip register inner =>
      behind (Build.emit [.instruction .decfsz [register, "f"]]) fun _ => inner.ends
  | finish => behind Build.finish fun _ _ => 1
  | _ => fun _ => 0

namespace Command

mutual

/-- Counts the ends of a command. -/
def ends : Command → Program → Nat
  | run task => task.ends
  | block name repeats body => behind (Scope.block name repeats).enter fun _ => endsAll body
  | constants _ | refuse _ => fun _ => 0

/-- Counts the ends of commands in order. -/
def endsAll : List Command → Program → Nat
  | [] => fun _ => 0
  | command :: commands => fun program =>
      command.ends program + behind command.perform (fun _ => endsAll commands) program

end

end Command

/-- The commands that a call of a member performs. -/
def Member.commands (member : Member) (arguments : Arguments) : List Command :=
  match member with
  | operation found => [.run (Task.ofOperation found arguments)]
  | dispatch =>
      match { signature "dispatch" ["name"] with takesRest := true }.bind arguments with
      | .ok bound => [.run (Task.read (bound.slot 0) bound.rest)]
      | .error _ => []
  | replay =>
      match (signature "replay" ["commands"]).bind arguments with
      | .ok bound => Command.sequence (bound.slot 0)
      | .error _ => []
  | subroutine name => [.run (Task.ofCall (.str name) arguments)]
  | _ => []

/-- The commands that a request for a member performs. -/
def Member.requested (name : String) (arguments : Arguments) : List Command :=
  match ofName name with
  | .ok member => member.commands arguments
  | .error _ => []

/-- The commands that a call of a reply with one argument performs. -/
def Reply.commands (reply : Reply) (argument : Value) : List Command :=
  match reply with
  | operation found => Member.commands (.operation found) (.ofList [argument])
  | subroutine name => [.run (Task.ofCall name (.ofList [argument]))]
  | _ => []

namespace Session

/-- Counts the ends of a body that is run inside a scope. -/
def insideEnds (scope : Scope) (body : Session → Nat) : Session → Nat :=
  behind (enter scope) fun _ => body

/-- Counts the ends of a body that is run inside a reply. -/
def insideReplyEnds (reply : Reply) (body : Session → Nat) : Session → Nat :=
  match reply with
  | .scope scope => insideEnds scope body
  | _ => fun _ => 0

/-- Counts the ends of a call of a reply with a body. -/
def applyReplyEnds (reply : Reply) (body : Session → Nat) : Session → Nat :=
  match reply with
  | .scope scope => insideEnds scope body
  | reply => fun session => Command.endsAll (reply.commands (.thing .function)) session.program

/-- Counts the ends of a body that the program is ended after. -/
def endingEnds (body : Run Unit) (ends : Session → Nat) (session : Session) : Nat :=
  ends session +
    behind body (fun _ after => behind Build.finish (fun _ _ => 1) after.program) session

end Session

namespace Step

/-- The commands that a step performs itself, apart from the steps that it holds. -/
def commands : Step → List Command
  | dispatch name arguments => [.run (Task.read name arguments)]
  | member name arguments => Member.requested name arguments
  | within name arguments _ | make _ name arguments => Member.requested name (.ofList arguments)
  | replay commands => Command.sequence commands
  | _ => []

mutual

/-- Counts the ends of a step. -/
def ends : Step → Session → Nat
  | tolerate step => ends step
  | within name arguments body => fun session =>
      Command.endsAll (commands (within name arguments body)) session.program +
        behind (Session.build (Member.request name (.ofList arguments)))
          (fun reply => Session.insideReplyEnds reply (endsAll body)) session
  | whole body => Session.endingEnds (runAll body) (endsAll body)
  | apply id body =>
      behind (Session.reply id) fun reply => Session.applyReplyEnds reply (endsAll body)
  | step => fun session => Command.endsAll step.commands session.program

/-- Counts the ends of steps in order. -/
def endsAll : List Step → Session → Nat
  | [] => fun _ => 0
  | step :: steps => fun session =>
      ends step session + behind (run step) (fun _ => endsAll steps) session

end

end Step

end PicAssembly
