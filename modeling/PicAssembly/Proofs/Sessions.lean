import PicAssembly.Proofs.Members

/-!
# Sessions follow histories

A session takes its program along a history, whatever its steps are and however they end.  What it
keeps stays: snapshots are never dropped, and a new one holds the lines of the program.
-/

namespace PicAssembly

variable {α : Type} {allowance : Allowance}

namespace Session

/-- Whether all scopes that a session keeps have allowed names. -/
def Allowed (allowance : Allowance) (session : Session) : Prop :=
  ∀ kept ∈ session.replies, kept.2.Allowed allowance

/-- What a session may come to while its program is ended so often. -/
structure Leads (allowance : Allowance) (before : Session) (ends : Nat) (after : Session) :
    Prop where
  history : History allowance before.program ends after.program
  kept : before.snapshots <:+ after.snapshots
  taken : ∀ snapshot ∈ after.snapshots,
    snapshot ∈ before.snapshots ∨ snapshot.2 <+: after.program.code

namespace Leads

/-- A session with another program, as far as a history leads. -/
theorem of_history {before : Session} {after : Program} {ends : Nat}
    (history : History allowance before.program ends after) :
    Leads allowance before ends { before with program := after } :=
  ⟨history, List.suffix_refl _, fun _ member => .inl member⟩

theorem refl (session : Session) : Leads allowance session 0 session :=
  of_history .start

/-- A snapshot that has been taken stays at the start of the lines, since these only grow. -/
theorem trans {first second third : Session} {frontEnds backEnds : Nat}
    (front : Leads allowance first frontEnds second)
    (back : Leads allowance second backEnds third) :
    Leads allowance first (frontEnds + backEnds) third := by
  refine ⟨front.history.trans back.history, front.kept.trans back.kept, fun snapshot member => ?_⟩
  rcases back.taken snapshot member with before | isPrefix
  · rcases front.taken snapshot before with first | isPrefix
    · exact .inl first
    · exact .inr (isPrefix.trans back.history.grows.isPrefix)
  · exact .inr isPrefix

end Leads

/-- What sessions may come to as a course, which counts ends; kept scopes stay allowed. -/
def course (allowance : Allowance) : Course Session where
  Valid := Allowed allowance
  Leads := Leads allowance
  refl := .refl
  trans front back := front.trans back

/-- A step of a session that follows histories on which it ends no program. -/
abbrev Quiet (allowance : Allowance) (step : Run α) : Prop :=
  Follows (course allowance) step (fun _ => 0) fun _ => True

theorem outcome_build (step : Build α) (session : Session) :
    outcome (build step) session =
      ((outcome step session.program).1,
        { session with program := (outcome step session.program).2 }) := by
  rw [build, outcome_bind, outcome_get]
  rcases reached : outcome step session.program with ⟨_ | _, after⟩ <;>
    rw [outcome] at reached <;> simp only [Build.run, reached] <;> rfl

/-- A building step does on the program of a session what it does on the program alone. -/
theorem follows_build {step : Build α} {ends : Program → Nat} {answers : α → Prop}
    (follows : Follows (History.course allowance) step ends answers) :
    Follows (course allowance) (build step) (fun session => ends session.program) answers := by
  intro session valid
  have inner := follows session.program trivial
  rw [outcome_build]
  exact ⟨.of_history inner.leads, valid, inner.result⟩

theorem quiet_modify {change : Session → Session}
    (leads : ∀ session, Leads allowance session 0 (change session))
    (valid : ∀ session, session.Allowed allowance → (change session).Allowed allowance) :
    Quiet allowance (modify change : Run Unit) :=
  fun session isValid => ⟨leads session, valid session isValid, fun _ _ => trivial⟩

theorem quiet_get : Follows (course allowance) (get : Run Session) (fun _ => 0)
    (Allowed allowance) := by
  intro session valid
  refine ⟨.refl session, valid, fun result succeeds => ?_⟩
  cases succeeds
  exact valid

theorem follows_recording {step : Run Answer} {ends : Session → Nat}
    (follows : Follows (course allowance) step ends fun _ => True) :
    Follows (course allowance) (recording step) ends fun _ => True := by
  have caught : Follows (course allowance)
      (tryCatch (do pure (Except.ok (← step))) fun fault => pure (Except.error fault)) ends
      fun _ : Except Fault Answer => True :=
    (follows.bind_last fun _ _ => .pure trivial).tryCatch fun _ => .pure trivial
  refine caught.bind_last fun outcome _ => ?_
  refine Follows.bind_last (quiet_modify (fun session => ?_) fun _ valid => valid) fun _ _ => ?_
  · exact ⟨.start, List.suffix_refl _, fun _ member => .inl member⟩
  · cases outcome with
    | ok answer => exact .pure trivial
    | error fault => exact .throw fault

/-- The reply that is kept under a name is one of those that are kept. -/
theorem quiet_reply (id : String) :
    Follows (course allowance) (reply id) (fun _ => 0) (Reply.Allowed allowance) := by
  refine quiet_get.bind_last fun session valid => ?_
  split
  · next kept found =>
      obtain ⟨front, back, replies, _⟩ := List.lookup_eq_some_iff.mp found
      have member : (id, kept) ∈ session.replies := by simp [replies]
      exact .pure (valid (id, kept) member)
  · exact .throw _

theorem quiet_keep (id : String) {reply : Reply} (allowed : reply.Allowed allowance) :
    Quiet allowance (keep id reply) := by
  refine quiet_modify (fun session => ?_) fun session valid kept member => ?_
  · exact ⟨.start, List.suffix_refl _, fun _ member => .inl member⟩
  · rcases List.mem_cons.mp member with rfl | member
    · exact allowed
    · exact valid kept member

theorem quiet_enter {scope : Scope} (allowed : scope.Allowed allowance) :
    Quiet allowance (enter scope) := by
  refine (follows_build (Scope.quiet_enter allowed)).bind_last fun _ _ => ?_
  cases scope with
  | block name repeats => exact .pure trivial
  | constants owner => exact quiet_keep _ allowed

theorem quiet_kept (id : String) : Quiet allowance (kept id) := by
  refine quiet_get.bind_last fun session _ => ?_
  split
  · exact .pure trivial
  · exact .throw _

/-- A snapshot holds the lines of the program at its time. -/
theorem quiet_snapshot (id : String) :
    Quiet allowance (modify fun session =>
      { session with snapshots := (id, session.program.code) :: session.snapshots }) := by
  refine quiet_modify (fun session => ?_) fun _ valid => valid
  refine ⟨.start, List.suffix_cons _ _, fun snapshot member => ?_⟩
  rcases List.mem_cons.mp member with rfl | member
  · exact .inr (List.prefix_refl _)
  · exact .inl member

section

variable {body : Run Unit} {ends : Session → Nat}

theorem follows_inside {scope : Scope} (allowed : scope.Allowed allowance)
    (inner : Follows (course allowance) body ends fun _ => True) :
    Follows (course allowance) (inside scope body) (insideEnds scope ends) fun _ => True := by
  refine (quiet_enter allowed).bind_quiet fun _ _ => ?_
  refine Follows.bind_last (inner.tryCatch fun fault => ?_) fun _ _ => ?_
  · exact (follows_build scope.quiet_close).bind_last fun _ _ => .throw fault
  · exact follows_build scope.quiet_leave

theorem follows_ending (inner : Follows (course allowance) body ends fun _ => True) :
    Follows (course allowance) (ending body) (endingEnds body ends) fun _ => True :=
  inner.bind fun _ _ => follows_build Build.follows_finishOpen

theorem follows_insideReply {reply : Reply} (allowed : reply.Allowed allowance)
    (inner : Follows (course allowance) body ends fun _ => True) :
    Follows (course allowance) (insideReply reply body) (insideReplyEnds reply ends)
      fun _ => True := by
  cases reply with
  | scope scope => exact follows_inside allowed inner
  | value | operation | subroutine => exact .throw _

theorem follows_applyReply {reply : Reply} (allowed : reply.Allowed allowance)
    (inner : Follows (course allowance) body ends fun _ => True) :
    Follows (course allowance) (applyReply reply body) (applyReplyEnds reply ends)
      fun _ => True := by
  cases reply with
  | scope scope => exact (follows_inside allowed inner).bind_last fun _ _ => .pure trivial
  | value | operation | subroutine =>
      exact (follows_build (Reply.follows_callWith allowed _)).bind_last fun _ _ => .pure trivial

end

theorem program_of_ask (request : Listing.Request) (program : Program) :
    (outcome (ask request) program).2 =
      { program with listing := (program.listing.answer request).2 } := by
  rw [ask, outcome_bind, outcome_get]
  rcases answered : program.listing.answer request with ⟨_ | _, after⟩ <;>
    simp only [answered] <;> rfl

/-- Asking the listing is a step of a history of its own kind. -/
theorem quiet_ask {request : Listing.Request} (allowed : allowance.request request) :
    Build.Quiet allowance (ask request) := by
  intro program _
  refine ⟨?_, trivial, fun _ _ => trivial⟩
  rw [program_of_ask]
  exact .ask request .start allowed

theorem quiet_source : Build.Quiet allowance source :=
  Build.quiet_get.bind_last fun _ _ =>
    (Build.quiet_lift _).bind_last fun _ _ => .pure trivial

end Session

namespace Step

mutual

/-- Whether a step, with the steps that it holds, keeps to what is allowed. -/
def Allowed (allowance : Allowance) : Step → Prop
  | tolerate step => step.Allowed allowance
  | within name arguments body =>
      Command.AllAllowed allowance (commands (within name arguments body)) ∧
        AllAllowed allowance body
  | whole body | apply _ body => AllAllowed allowance body
  | listing request => allowance.request request
  | step => Command.AllAllowed allowance step.commands

/-- Whether steps, with the steps that they hold, keep to what is allowed. -/
def AllAllowed (allowance : Allowance) : List Step → Prop
  | [] => True
  | step :: steps => step.Allowed allowance ∧ AllAllowed allowance steps

end

open Session (follows_build follows_recording)

mutual

/-- A step that keeps to what is allowed takes a session along a history. -/
theorem follows_run : ∀ {step : Step}, step.Allowed allowance →
    Follows (Session.course allowance) (run step) step.ends fun _ => True
  | tolerate step, allowed => by
      simp only [run, ends]
      have inner : step.Allowed allowance := allowed
      exact (follows_run inner).tryCatch fun _ => .pure trivial
  | dispatch name arguments, _ => by
      simp only [run, ends]
      refine follows_recording (follows_build ?_)
      rw [Step.commands, Command.endsAll_single]
      exact (Task.follows_perform _).bind_last fun _ _ => .pure trivial
  | member name arguments, allowed => by
      simp only [run, ends]
      refine follows_recording (follows_build ?_)
      exact (Member.follows_request allowed).bind_last fun _ _ => .pure trivial
  | call name, _ => by
      simp only [run, ends]
      refine follows_recording (follows_build ?_)
      exact (Build.quiet_perform _).bind_last fun _ _ => .pure trivial
  | replay commands, allowed => by
      simp only [run, ends]
      refine follows_recording (follows_build ?_)
      exact (Command.follows_performAll allowed).bind_last fun _ _ => .pure trivial
  | within name arguments body, allowed => by
      simp only [run, ends]
      refine follows_recording ?_
      refine (follows_build (Member.follows_request allowed.1)).bind fun reply isAllowed => ?_
      have inside := Session.follows_insideReply isAllowed (follows_runAll allowed.2)
      exact inside.bind_last fun _ _ => .pure trivial
  | whole body, allowed => by
      simp only [run, ends]
      have ended := Session.follows_ending (follows_runAll allowed)
      exact follows_recording (ended.bind_last fun _ _ => .pure trivial)
  | make id name arguments, allowed => by
      simp only [run, ends]
      refine follows_recording ?_
      refine (follows_build (Member.follows_request allowed)).bind_last fun reply isAllowed => ?_
      exact (Session.quiet_keep id isAllowed).bind_last fun _ _ => .pure trivial
  | enter id, _ => by
      simp only [run, ends]
      refine follows_recording ((Session.quiet_reply id).bind_last fun reply isAllowed => ?_)
      exact (follows_build (Reply.quiet_enter isAllowed)).bind_last fun _ _ => .pure trivial
  | leave id failed, _ => by
      simp only [run, ends]
      refine follows_recording ((Session.quiet_reply id).bind_last fun reply _ => ?_)
      exact (follows_build (reply.quiet_leave failed)).bind_last fun _ _ => .pure trivial
  | apply id body, allowed => by
      simp only [run, ends]
      refine follows_recording ((Session.quiet_reply id).bind_quiet fun reply isAllowed => ?_)
      have applied := Session.follows_applyReply isAllowed (follows_runAll allowed)
      exact applied.bind_last fun _ _ => .pure trivial
  | declare id name, _ => by
      simp only [run, ends]
      refine follows_recording ((Session.quiet_reply id).bind_last fun reply _ => ?_)
      exact (follows_build (reply.quiet_request _ _)).bind_last fun _ _ => .pure trivial
  | register id name arguments, _ => by
      simp only [run, ends]
      refine follows_recording ((Session.quiet_reply id).bind_last fun reply _ => ?_)
      exact (follows_build (reply.quiet_request _ _)).bind_last fun _ _ => .pure trivial
  | text, _ => by
      simp only [run, ends]
      exact follows_recording (follows_build Session.quiet_source)
  | snapshot id, _ => by
      simp only [run, ends]
      exact follows_recording ((Session.quiet_snapshot id).bind_last fun _ _ => .pure trivial)
  | reread id, _ => by
      simp only [run, ends]
      exact follows_recording ((Session.quiet_kept id).bind_last fun _ _ => .pure trivial)
  | listing request, allowed => by
      simp only [run, ends]
      exact follows_recording (follows_build (Session.quiet_ask allowed))

theorem follows_runAll : ∀ {steps : List Step}, AllAllowed allowance steps →
    Follows (Session.course allowance) (runAll steps) (endsAll steps) fun _ => True
  | [], _ => by
      rw [runAll, endsAll]
      exact .pure trivial
  | step :: steps, allowed => by
      rw [runAll, endsAll]
      exact (follows_run allowed.1).bind fun _ _ => follows_runAll allowed.2

end

end Step

end PicAssembly
