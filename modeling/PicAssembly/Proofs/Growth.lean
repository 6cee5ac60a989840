import PicAssembly.Proofs.Sessions

/-!
# Growth of the lines

Every step of a session, whether it succeeds or fails, only adds lines at the end.  So the header
stays first, every snapshot stays the start of the lines, and a program that is final stays as it
is.
-/

namespace PicAssembly

/-- Where all names are allowed, every task is. -/
theorem Task.allowed_of_names {allowance : Allowance} (names : ∀ name, allowance.name name)
    (task : Task) : task.Allowed allowance := by
  induction task with
  | skip register inner induction => exact induction
  | makeBlock name repeats => exact names name
  | state | ask | finish | makeConstants | refuse => trivial

namespace Command

variable {allowance : Allowance}

mutual

theorem allowed_of_names (names : ∀ name, allowance.name name) :
    ∀ command : Command, command.Allowed allowance
  | run task => task.allowed_of_names names
  | block name _ body => ⟨names name, allAllowed_of_names names body⟩
  | constants _ | refuse _ => trivial

theorem allAllowed_of_names (names : ∀ name, allowance.name name) :
    ∀ commands : List Command, AllAllowed allowance commands
  | [] => trivial
  | command :: commands => ⟨allowed_of_names names command, allAllowed_of_names names commands⟩

end

end Command

namespace Step

mutual

/-- Every step keeps to what is allowed if everything is. -/
theorem allowed_everything : ∀ step : Step, step.Allowed .everything
  | tolerate step => allowed_everything step
  | within _ _ body => ⟨Command.allAllowed_of_names (fun _ => trivial) _, runs_everything body⟩
  | whole body | apply _ body => runs_everything body
  | listing _ => trivial
  | dispatch .. | member .. | call .. | replay .. | make .. | enter .. | leave .. | declare ..
  | register .. | text | snapshot .. | reread .. => Command.allAllowed_of_names (fun _ => trivial) _

theorem runs_everything : ∀ steps : List Step, AllAllowed .everything steps
  | [] => trivial
  | step :: steps => ⟨allowed_everything step, runs_everything steps⟩

end

end Step

namespace Session

/-- A session that has come to another one without a line or a snapshot lost: lines are added at the
end, and to a final program none are. -/
structure Extends (before after : Session) : Prop where
  code : before.program.code <+: after.program.code
  final : before.program.isFinal = true →
    after.program.isFinal = true ∧ after.program.code = before.program.code
  snapshots : ∀ snapshot ∈ before.snapshots, snapshot ∈ after.snapshots

/-- A session whose lines start with the header and with every snapshot of them. -/
structure Faithful (session : Session) : Prop where
  header : Program.lineValues Device.header <+: session.program.code
  snapshots : ∀ snapshot ∈ session.snapshots,
    snapshot.2 = session.program.code.take snapshot.2.length

theorem faithful_initial : initial.Faithful :=
  ⟨List.prefix_refl _, nofun⟩

namespace Leads

variable {allowance : Allowance} {before after : Session} {ends : Nat}

theorem to_extends (leads : Leads allowance before ends after) : before.Extends after := by
  obtain ⟨isPrefix, closed⟩ := leads.history.grows
  exact ⟨isPrefix, closed, fun _ member => leads.kept.mem member⟩

theorem faithful (leads : Leads allowance before ends after) (faithful : before.Faithful) :
    after.Faithful := by
  have grows := leads.history.grows.isPrefix
  refine ⟨faithful.header.trans grows, fun snapshot member => ?_⟩
  rcases leads.taken snapshot member with earlier | isPrefix
  · have known := faithful.snapshots snapshot earlier
    have isPrefix : snapshot.2 <+: after.program.code := by
      rw [known]
      exact (List.take_prefix _ _).trans grows
    exact List.prefix_iff_eq_take.mp isPrefix
  · exact List.prefix_iff_eq_take.mp isPrefix

end Leads

theorem allowed_everything (session : Session) : session.Allowed .everything := by
  rintro ⟨id, reply⟩ _
  cases reply with
  | scope made => cases made <;> trivial
  | value | operation | subroutine => trivial

theorem leads_run (step : Step) (session : Session) :
    Leads .everything session (step.ends session) (outcome (Step.run step) session).2 :=
  (Step.follows_run step.allowed_everything session session.allowed_everything).leads

theorem leads_runAll (steps : List Step) (session : Session) :
    Leads .everything session (Step.endsAll steps session)
      (outcome (Step.runAll steps) session).2 :=
  (Step.follows_runAll (Step.runs_everything steps) session session.allowed_everything).leads

/-- No step takes a line away or changes one, and none changes a program that is final; the header
and the snapshots that have been taken stay at the start of the lines. -/
theorem lines_only_grow :
    (∀ (step : Step) (session : Session),
      session.Extends (outcome (Step.run step) session).2 ∧
        (session.Faithful → (outcome (Step.run step) session).2.Faithful)) ∧
    (∀ (steps : List Step) (session : Session),
      session.Extends (outcome (Step.runAll steps) session).2 ∧
        (session.Faithful → (outcome (Step.runAll steps) session).2.Faithful)) ∧
    initial.Faithful := by
  refine ⟨fun step session => ?_, fun steps session => ?_, faithful_initial⟩
  · have leads := leads_run step session
    exact ⟨leads.to_extends, leads.faithful⟩
  · have leads := leads_runAll steps session
    exact ⟨leads.to_extends, leads.faithful⟩

end Session

end PicAssembly
