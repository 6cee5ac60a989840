import PicAssembly.Proofs.Nesting

/-!
# Histories of places

Every place of a run lies on a history: the moves that lead there, the scopes that are entered on
the way and the scopes that are kept keep to what is allowed for the whole run.
-/

namespace PicAssembly

variable {allowance : Allowance}

namespace Move

/-- Whether a move keeps to what is allowed; declarations always do. -/
def Allowed (allowance : Allowance) : Move → Prop
  | step inner => inner.Allowed allowance
  | command inner => inner.Allowed allowance
  | declaration _ _ => True

theorem allowed_steps {steps : List Step} (allowed : Step.AllAllowed allowance steps) :
    ∀ move ∈ steps.map Move.step, move.Allowed allowance := by
  induction steps with
  | nil => exact List.forall_mem_nil _
  | cons step steps induction =>
      exact List.forall_mem_cons.mpr ⟨allowed.1, induction allowed.2⟩

theorem allowed_commands {commands : List Command}
    (allowed : Command.AllAllowed allowance commands) :
    ∀ move ∈ commands.map Move.command, move.Allowed allowance := by
  induction commands with
  | nil => exact List.forall_mem_nil _
  | cons command commands induction =>
      exact List.forall_mem_cons.mpr ⟨allowed.1, induction allowed.2⟩

/-- The commands that an allowed step performs are allowed. -/
theorem allowed_performed {step : Step} (allowed : step.Allowed allowance) :
    Command.AllAllowed allowance step.commands := by
  cases step with
  | within => exact allowed.1
  | tolerate | whole | apply | listing => trivial
  | _ => exact allowed

/-- An allowed move takes a session along a history. -/
theorem exists_follows_run {move : Move} (allowed : move.Allowed allowance) :
    ∃ ends, Follows (Session.course allowance) move.run ends fun _ => True := by
  cases move with
  | step inner => exact ⟨_, Step.follows_run allowed⟩
  | command inner => exact ⟨_, Session.follows_build (Command.follows_perform allowed)⟩
  | declaration owner name => exact ⟨_, Session.follows_build (Command.quiet_declareAll owner _)⟩

theorem exists_follows_runAll {moves : List Move}
    (allowed : ∀ move ∈ moves, move.Allowed allowance) :
    ∃ ends, Follows (Session.course allowance) (runAll moves) ends fun _ => True := by
  induction moves with
  | nil => exact ⟨_, .pure trivial⟩
  | cons move moves induction =>
      obtain ⟨head, tail⟩ := List.forall_mem_cons.mp allowed
      obtain ⟨front, first⟩ := exists_follows_run head
      obtain ⟨back, others⟩ := induction tail
      exact ⟨_, first.bind fun _ _ => others⟩

end Move

namespace Session

/-- A session that another one leads to, with the scopes that it keeps allowed. -/
structure Reaches (allowance : Allowance) (before after : Session) : Prop where
  history : ∃ ends, History allowance before.program ends after.program
  valid : after.Allowed allowance

namespace Reaches

theorem refl {session : Session} (valid : session.Allowed allowance) :
    session.Reaches allowance session :=
  ⟨⟨0, .start⟩, valid⟩

theorem trans {first second third : Session} (front : first.Reaches allowance second)
    (back : second.Reaches allowance third) : first.Reaches allowance third := by
  obtain ⟨_, before⟩ := front.history
  obtain ⟨_, after⟩ := back.history
  exact ⟨⟨_, before.trans after⟩, back.valid⟩

theorem of_follows {α : Type} {step : Run α} {ends : Session → Nat} {described : α → Prop}
    {session : Session} (follows : Follows (course allowance) step ends described)
    (valid : session.Allowed allowance) :
    session.Reaches allowance (outcome step session).2 := by
  have reached := follows session valid
  exact ⟨⟨_, reached.leads.history⟩, reached.valid⟩

/-- What a successful step leads to, and what is said of its result. -/
theorem of_ok {α : Type} {step : Run α} {ends : Session → Nat} {described : α → Prop}
    {session after : Session} {result : α}
    (follows : Follows (course allowance) step ends described)
    (valid : session.Allowed allowance) (runs : outcome step session = (.ok result, after)) :
    session.Reaches allowance after ∧ described result := by
  have reached := of_follows follows valid
  have answers := (follows session valid).result
  rw [runs] at reached answers
  exact ⟨reached, answers result rfl⟩

end Reaches

end Session

namespace Move

variable {move : Move} {moves body rest : List Move} {session entered point : Session}
  {frame : Frame} {frames : List Frame}

/-- A frame is opened by allowed moves around allowed moves, and the scope of it is allowed. -/
theorem Opens.reaches (opens : move.Opens session frame body entered)
    (allowed : move.Allowed allowance) (valid : session.Allowed allowance) :
    session.Reaches allowance entered ∧ (∀ inner ∈ body, inner.Allowed allowance) ∧
      ∀ scope, frame = .scope scope → scope.Allowed allowance := by
  cases opens with
  | within requests enters =>
      have asks := Session.follows_build (Member.follows_request allowed.1)
      obtain ⟨asked, isAllowed⟩ := Session.Reaches.of_ok asks valid requests
      obtain ⟨reached, _⟩ :=
        Session.Reaches.of_ok (Session.quiet_enter isAllowed) asked.valid enters
      exact ⟨asked.trans reached, allowed_steps allowed.2,
        fun _ same => Frame.scope.inj same ▸ isAllowed⟩
  | apply kept enters =>
      obtain ⟨front, back, replies, _⟩ := List.lookup_eq_some_iff.mp kept
      have isAllowed := valid _ (replies ▸ List.mem_append_cons_self)
      obtain ⟨reached, _⟩ := Session.Reaches.of_ok (Session.quiet_enter isAllowed) valid enters
      exact ⟨reached, allowed_steps allowed, fun _ same => Frame.scope.inj same ▸ isAllowed⟩
  | whole body => exact ⟨.refl valid, allowed_steps allowed, nofun⟩
  | tolerate step => exact ⟨.refl valid, List.forall_mem_singleton.mpr allowed, nofun⟩
  | performs step => exact ⟨.refl valid, allowed_commands (allowed_performed allowed), nofun⟩
  | @block name repeats body _ enters =>
      have isAllowed : (Scope.block name repeats).Allowed allowance := allowed.1
      have heads := Session.follows_build (Scope.quiet_enter isAllowed)
      obtain ⟨reached, _⟩ := Session.Reaches.of_ok heads valid enters
      exact ⟨reached, allowed_commands allowed.2, fun _ same => Frame.scope.inj same ▸ isAllowed⟩
  | @constants names owner _ _ makes enters =>
      have isAllowed : (Scope.constants owner).Allowed allowance := trivial
      have quiet : Build.Quiet allowance Build.makeConstants := Build.quiet_makeConstants
      have making := Session.follows_build quiet
      obtain ⟨made, _⟩ := Session.Reaches.of_ok making valid makes
      have heads := Session.follows_build (Scope.quiet_enter isAllowed)
      obtain ⟨reached, _⟩ := Session.Reaches.of_ok heads made.valid enters
      refine ⟨made.trans reached, fun inner member => ?_,
        fun _ same => Frame.scope.inj same ▸ isAllowed⟩
      obtain ⟨name, _, rfl⟩ := List.mem_map.mp member
      trivial

/-- A place is reached by a history, and the moves that are left there are allowed. -/
theorem ComesTo.reaches (comes : ComesTo moves session frames rest point)
    (allowed : ∀ move ∈ moves, move.Allowed allowance) (valid : session.Allowed allowance) :
    session.Reaches allowance point ∧ ∀ move ∈ rest, move.Allowed allowance := by
  induction comes with
  | here moves session => exact ⟨.refl valid, allowed⟩
  | later runs _ induction =>
      obtain ⟨head, tail⟩ := List.forall_mem_cons.mp allowed
      obtain ⟨ends, follows⟩ := exists_follows_run head
      obtain ⟨reached, _⟩ := Session.Reaches.of_ok follows valid runs
      obtain ⟨onwards, left⟩ := induction tail reached.valid
      exact ⟨reached.trans onwards, left⟩
  | inner opens _ induction =>
      obtain ⟨head, _⟩ := List.forall_mem_cons.mp allowed
      obtain ⟨reached, inner, _⟩ := opens.reaches head valid
      obtain ⟨onwards, left⟩ := induction inner reached.valid
      exact ⟨reached.trans onwards, left⟩

end Move

end PicAssembly
