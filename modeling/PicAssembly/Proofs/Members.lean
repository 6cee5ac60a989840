import PicAssembly.Proofs.Following

/-!
# Members follow histories

Calls of members, of scopes and of replies are building steps like any other.  A call gives back a
scope only if it was asked for one, so the scopes that are at hand have allowed names.
-/

namespace PicAssembly

open Build (Quiet)

variable {α : Type} {allowance : Allowance}

namespace Command

@[simp]
theorem endsAll_single (command : Command) : endsAll [command] = command.ends := by
  funext program
  simp [endsAll]

end Command

namespace Build

/-- A step that goes on with an outcome follows histories if it does so from every result. -/
theorem follows_ofExcept_bind {β : Type} {outcome : Except Fault α} {next : α → Build β}
    {ends : Program → Nat} {answers : β → Prop}
    (goesOn : ∀ result, outcome = .ok result →
      Follows (History.course allowance) (next result) ends answers)
    (stops : ∀ fault, outcome = .error fault → ends = fun _ => 0) :
    Follows (History.course allowance) (ofExcept outcome >>= next) ends answers := by
  cases outcome with
  | ok result => exact goesOn result rfl
  | error fault =>
      rw [stops fault rfl]
      exact .throw fault

theorem quiet_lift (outcome : Except Fault α) : Quiet allowance (liftM outcome : Build α) := by
  cases outcome with
  | ok result => exact Follows.pure trivial
  | error fault => exact Follows.throw fault

end Build

namespace Task

/-- Performs a task and replies with what it makes. -/
def reply (task : Task) : Build Reply := do
  pure (.ofScope? (← task.perform))

/-- The reply of a task is a scope only if the task makes one. -/
theorem follows_reply (task : Task) :
    Follows (History.course allowance) task.reply (Command.endsAll [.run task]) fun reply =>
        task.Allowed allowance → reply.Allowed allowance := by
  rw [Command.endsAll_single]
  refine (follows_perform task).bind_last fun made described => .pure fun allowed => ?_
  cases made with
  | none => trivial
  | some scope => exact described allowed scope rfl

end Task

namespace Member

theorem follows_operation (found : Operation) (arguments : Arguments) :
    Follows (History.course allowance) ((operation found).apply arguments)
      (Command.endsAll ((operation found).commands arguments)) fun reply =>
        (Task.ofOperation found arguments).Allowed allowance → reply.Allowed allowance :=
  Task.follows_reply (Task.ofOperation found arguments)

/-- A call of a member ends the program as often as the commands that it performs. -/
theorem follows_apply {member : Member} {arguments : Arguments}
    (allowed : Command.AllAllowed allowance (member.commands arguments)) :
    Follows (History.course allowance) (member.apply arguments)
      (Command.endsAll (member.commands arguments)) (Reply.Allowed allowance) := by
  cases member with
  | operation found =>
      refine (follows_operation found arguments).describe fun reply described => ?_
      exact described allowed.1
  | call =>
      refine Build.follows_ofExcept_bind (fun bound _ => ?_) fun _ _ => rfl
      exact (Build.quiet_perform _).bind_last fun _ _ => .pure trivial
  | dispatch =>
      refine Build.follows_ofExcept_bind (fun bound binds => ?_) fun fault refused => ?_
      · rw [commands, binds] at allowed ⊢
        refine (Task.follows_reply _).describe fun reply described => ?_
        exact described allowed.1
      · rw [commands, refused]
        rfl
  | replay =>
      refine Build.follows_ofExcept_bind (fun bound binds => ?_) fun fault refused => ?_
      · rw [commands, binds] at allowed ⊢
        exact (Command.follows_performAll allowed).bind_last fun _ _ => .pure trivial
      · rw [commands, refused]
        rfl
  | resolve =>
      refine Build.follows_ofExcept_bind (fun bound _ => ?_) fun _ _ => rfl
      refine Build.quiet_ofExcept fun reply resolves => ?_
      obtain ⟨found, _, replies⟩ := exists_of_bind_ok resolves
      cases found <;> cases replies <;> trivial
  | text =>
      refine Build.follows_ofExcept_bind (fun bound _ => ?_) fun _ _ => rfl
      refine Build.quiet_get.bind_last fun program _ => ?_
      exact (Build.quiet_lift _).bind_last fun _ _ => .pure trivial
  | load => exact Build.follows_ofExcept_bind (fun bound _ => .throw _) fun _ _ => rfl
  | field typeName => exact .throw _
  | subroutine name =>
      refine (Task.follows_reply (Task.ofCall (.str name) arguments)).describe fun _ described => ?_
      exact described allowed.1

theorem follows_request {name : String} {arguments : Arguments}
    (allowed : Command.AllAllowed allowance (requested name arguments)) :
    Follows (History.course allowance) (request name arguments)
      (Command.endsAll (requested name arguments)) (Reply.Allowed allowance) := by
  refine Build.follows_ofExcept_bind (fun member found => ?_) fun fault refused => ?_
  · rw [requested, found] at allowed ⊢
    exact follows_apply allowed
  · rw [requested, refused]
    rfl

end Member

namespace Scope

theorem quiet_request (scope : Scope) (name : String) (positional : List Value) :
    Quiet allowance (scope.request name positional) := by
  cases scope with
  | block label repeats => exact .throw _
  | constants owner =>
      rw [request]
      split
      · exact Build.follows_ofExcept_bind (fun _ _ => Build.quiet_declare owner _) fun _ _ => rfl
      · split
        · exact .throw _
        · exact Build.follows_ofExcept_bind (fun _ _ => Build.quiet_declare owner _) fun _ _ => rfl

/-- A scope that is called with a value is entered, and closed again because the call fails. -/
theorem quiet_callWith {scope : Scope} (allowed : scope.Allowed allowance) (body : Value) :
    Quiet allowance (scope.callWith body) := by
  simpa [callWith] using scope.follows_within allowed (.throw (.notCallable body.typeName))

end Scope

namespace Reply

theorem follows_callWith {reply : Reply} (allowed : reply.Allowed allowance) (argument : Value) :
    Follows (History.course allowance) (reply.callWith argument)
      (Command.endsAll (reply.commands argument)) fun _ => True := by
  cases reply with
  | value held => exact .throw _
  | scope inner => exact (Scope.quiet_callWith allowed argument).bind_last fun _ _ => .pure trivial
  | operation found => exact (Member.follows_operation found _).describe fun _ _ => trivial
  | subroutine name => exact (Task.follows_reply _).describe fun _ _ => trivial

theorem quiet_request (reply : Reply) (name : String) (positional : List Value) :
    Quiet allowance (reply.request name positional) := by
  cases reply with
  | scope inner => exact inner.quiet_request name positional
  | value | operation | subroutine => exact .throw _

theorem quiet_enter {reply : Reply} (allowed : reply.Allowed allowance) :
    Quiet allowance reply.enter := by
  cases reply with
  | scope inner => exact (Scope.quiet_enter allowed).bind_last fun _ _ => .pure trivial
  | value | operation | subroutine => exact .throw _

theorem quiet_leave (reply : Reply) (failed : Bool) : Quiet allowance (reply.leave failed) := by
  cases reply with
  | scope inner => cases failed with
    | true => exact inner.quiet_close
    | false => exact inner.quiet_leave
  | value | operation | subroutine => exact .throw _

end Reply

end PicAssembly
