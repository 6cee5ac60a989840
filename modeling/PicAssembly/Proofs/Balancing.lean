import PicAssembly.Proofs.Brackets
import PicAssembly.Proofs.Places
import PicAssembly.Proofs.Structured

/-!
# Balanced moves

As long as no fault leaves a constants block that has been entered, every block is closed by its own
line, so the brackets of a program come in pairs.  Blocks that are refused at their entry record
nothing, and what is swallowed elsewhere does not matter.
-/

namespace PicAssembly

open Program (Bracketed)
open Session (Has brings_build build keeps_recording upshot)

/-- What may be done in a run whose labelled blocks have no names that start with a tab, and whose
listing is asked for reading only. -/
abbrev Allowance.flushBuilding : Allowance :=
  .building flush

namespace Session

variable {α β : Type}

/-- What holds behind two steps in a row, if it holds wherever the first one fails and behind the
second one elsewhere. -/
theorem upshot_bind_holds {condition : Program → Prop} {step : Run α} {next : α → Run β}
    {session : Session}
    (stops : ∀ fault after, outcome step session = (.error fault, after) → condition after.program)
    (goesOn : ∀ result after, outcome step session = (.ok result, after) →
      condition (upshot (next result) after).2) :
    condition (upshot (step >>= next) session).2 := by
  rcases ran : outcome step session with ⟨fault | result, after⟩
  · rw [upshot_bind_error (upshot_error ran)]
    exact stops fault after ran
  · rw [upshot_bind_ok ran]
    exact goesOn result after ran

/-- What is made of the result of a building step does not matter for its upshot. -/
theorem upshot_build_answer (step : Build α) (answer : α → β) (session : Session) :
    upshot (build (step >>= fun result => pure (answer result))) session =
      upshot (build step) session := by
  rw [build_bind]
  exact upshot_bind_pure (build step) answer session

/-- Swallowing a fault does not change the program. -/
theorem upshot_tolerate (step : Run Unit) (session : Session) :
    (upshot (tryCatch step fun _ => pure ()) session).2 = (upshot step session).2 := by
  rw [upshot, upshot, outcome_tryCatch]
  rcases outcome step session with ⟨fault | result, after⟩ <;> rfl

end Session

namespace Move

variable {move : Move} {moves body : List Move} {session between entered : Session}
  {frame : Frame} {scope : Scope} {owner : ConstantsBlock} {blocks : List ConstantsBlock}

/-- No fault leaves a constants block that is entered on the way: wherever moves come to a move that
enters one, this move succeeds. -/
def Settles (moves : List Move) (session : Session) : Prop :=
  ∀ frames move later here owner body entered,
    ComesTo moves session frames (move :: later) here →
    move.Opens here (.scope (.constants owner)) body entered →
    (outcome move.run here).1 = .ok ()

namespace Settles

theorem nil (session : Session) : Settles [] session := by
  intro frames move later here owner body entered comes
  cases comes

theorem cons (succeeds : ∀ owner body entered,
      move.Opens session (.scope (.constants owner)) body entered →
      (outcome move.run session).1 = .ok ())
    (inner : ∀ frame body entered, move.Opens session frame body entered → Settles body entered)
    (later : ∀ between, outcome move.run session = (.ok (), between) → Settles moves between) :
    Settles (move :: moves) session := by
  intro frames next others place owner body entered comes opens
  cases comes with
  | here => exact succeeds _ _ _ opens
  | later runs comes => exact later _ runs _ _ _ _ _ _ _ comes opens
  | inner first comes => exact inner _ _ _ first _ _ _ _ _ _ _ comes opens

/-- A move without a frame enters nothing. -/
theorem single (none : ∀ frame body entered, ¬ move.Opens session frame body entered) :
    Settles [move] session := by
  refine .cons (fun _ _ _ opens => ?_) (fun _ _ _ opens => ?_) fun _ _ => .nil _
  · exact absurd opens (none _ _ _)
  · exact absurd opens (none _ _ _)

theorem here (settles : Settles (move :: moves) session)
    (opens : move.Opens session (.scope (.constants owner)) body entered) :
    (upshot move.run session).1 = .ok () := by
  have succeeds := settles _ _ _ _ _ _ _ (.here _ _) opens
  rw [upshot, succeeds]
  rfl

theorem later (settles : Settles (move :: moves) session)
    (runs : outcome move.run session = (.ok (), between)) : Settles moves between :=
  fun _ _ _ _ _ _ _ comes => settles _ _ _ _ _ _ _ (.later runs comes)

theorem inner (settles : Settles (move :: moves) session)
    (opens : move.Opens session frame body entered) : Settles body entered :=
  fun _ _ _ _ _ _ _ comes => settles _ _ _ _ _ _ _ (.inner opens comes)

end Settles

/-- Behind a scope the brackets are as around it. -/
theorem Opens.bracketed (opens : move.Opens session (.scope scope) body entered)
    (settles : Settles (move :: moves) session)
    (ran : (upshot (runAll body) entered).2.Bracketed (scope.opens ++ blocks)) :
    (upshot move.run session).2.Bracketed blocks := by
  -- A fault passes through labelled blocks only, and these have nothing to close.
  have broken : ∀ {fault raised}, upshot move.run session = (.error fault, scope.closed raised) →
      raised.Bracketed (scope.opens ++ blocks) → (upshot move.run session).2.Bracketed blocks := by
    intro fault raised fails bracketed
    cases scope with
    | block name repeats =>
        rw [fails]
        exact bracketed
    | constants owner =>
        have succeeds := settles.here opens
        rw [fails] at succeeds
        cases succeeds
  rcases reached : upshot (runAll body) entered with ⟨fault | _, finished⟩ <;> rw [reached] at ran
  · exact broken (opens.upshot_error nofun reached) ran
  · have leaves := opens.upshot_ok reached
    cases state : finished.isFinal with
    | true =>
        obtain ⟨fault, fails⟩ := scope.exists_outcome_leave_final state
        exact broken (leaves.trans fails) ran
    | false =>
        have closes := scope.outcome_leave_open state
        rw [leaves, closes]
        exact Scope.bracketed_of_leave ran closes

/-- A move that leaves the brackets as it finds them, wherever it is the first of moves that let no
fault leave a constants block. -/
def Balances (move : Move) : Prop :=
  ∀ moves session blocks, Settles (move :: moves) session →
    session.Allowed .flushBuilding → session.program.Bracketed blocks →
    (upshot move.run session).2.Bracketed blocks

theorem balances_of_keeps (keeps : ∀ blocks, Keeps (Has (Bracketed blocks)) move.run) :
    move.Balances :=
  fun _ _ blocks _ _ bracketed => (keeps blocks).outcome bracketed

theorem bracketed_runAll (balances : ∀ move ∈ moves, move.Balances)
    (allowed : ∀ move ∈ moves, move.Allowed .flushBuilding) (settles : Settles moves session)
    (valid : session.Allowed .flushBuilding) (bracketed : session.program.Bracketed blocks) :
    (upshot (runAll moves) session).2.Bracketed blocks := by
  induction moves generalizing session with
  | nil => exact bracketed
  | cons move moves induction =>
      obtain ⟨first, others⟩ := List.forall_mem_cons.mp balances
      obtain ⟨head, tail⟩ := List.forall_mem_cons.mp allowed
      obtain ⟨_, follows⟩ := exists_follows_run head
      have after := first moves session blocks settles valid bracketed
      refine Session.upshot_bind_holds (fun fault reached ran => ?_) fun result reached ran => ?_
      · rw [Session.upshot_error ran] at after
        exact after
      · rw [Session.upshot_ok ran] at after
        obtain ⟨reaches, _⟩ := Session.Reaches.of_ok follows valid ran
        exact induction others tail (settles.later ran) reaches.valid after

/-- A scope around moves that balance the brackets balances them as well. -/
theorem Opens.bracketed_run (opens : move.Opens session (.scope scope) body entered)
    (settles : Settles (move :: moves) session) (allowed : move.Allowed .flushBuilding)
    (valid : session.Allowed .flushBuilding) (balances : ∀ inner ∈ body, inner.Balances)
    (bracketed : entered.program.Bracketed (scope.opens ++ blocks)) :
    (upshot move.run session).2.Bracketed blocks := by
  obtain ⟨reached, inner, _⟩ := opens.reaches allowed valid
  have ran := bracketed_runAll balances inner (settles.inner opens) reached.valid bracketed
  exact opens.bracketed settles ran

/-- A move that enters a scope and goes on inside of it with balanced moves is balanced, whether it
is refused at the entry or not. -/
theorem bracketed_of_enter {enter : Session.Run Unit} {before : Session}
    (enters : Brings (Has (Bracketed blocks)) enter (Has (Bracketed (scope.opens ++ blocks)))
      (Has (Bracketed blocks)))
    (bracketed : before.program.Bracketed blocks)
    (stops : ∀ fault after, outcome enter before = (.error fault, after) →
      upshot move.run session = (.error fault, after.program))
    (opens : ∀ after, outcome enter before = (.ok (), after) →
      move.Opens session (.scope scope) body after)
    (settles : Settles (move :: moves) session) (allowed : move.Allowed .flushBuilding)
    (valid : session.Allowed .flushBuilding) (balances : ∀ inner ∈ body, inner.Balances) :
    (upshot move.run session).2.Bracketed blocks := by
  have reached := enters before bracketed
  rcases ran : outcome enter before with ⟨fault | _, after⟩ <;> rw [ran] at reached
  · rw [stops fault after ran]
    exact reached
  · exact (opens after ran).bracketed_run settles allowed valid balances reached

theorem balances_declaration (owner : ConstantsBlock) (name : Except Fault String) :
    (declaration owner name).Balances :=
  balances_of_keeps fun blocks => brings_build ((Bracketed.stable blocks).declareAll owner [name])

mutual

theorem balances_command : ∀ {command : Command}, command.Allowed .flushBuilding →
    (Move.command command).Balances
  | .run task, _ => by
      refine balances_of_keeps fun blocks => ?_
      rw [run, Command.perform]
      exact brings_build (((Bracketed.stable blocks).task task).bind fun _ => Brings.pure ())
  | .block name repeats body, allowed => by
      intro moves session blocks settles valid bracketed
      have isAllowed : (Scope.block name repeats).Allowed .flushBuilding := allowed.1
      refine bracketed_of_enter (brings_build (Scope.brings_bracketed isAllowed)) bracketed
        (fun fault after refused => ?_) (fun _ => .block) settles allowed valid
        (balances_commands allowed.2)
      rw [run, Command.perform, Session.build_within]
      exact Session.upshot_bind_error (Session.upshot_error refused)
  | .constants names, allowed => by
      intro moves session blocks settles valid bracketed
      obtain ⟨owner, made, makes⟩ : ∃ owner made,
          outcome (build Build.makeConstants) session = (.ok owner, made) := ⟨_, _, rfl⟩
      have isAllowed : (Scope.constants owner).Allowed .flushBuilding := trivial
      have counted := (brings_build (Bracketed.stable blocks).makeConstants).of_ok bracketed makes
      refine bracketed_of_enter (brings_build (Scope.brings_bracketed isAllowed)) counted
        (fun fault after refused => ?_) (fun _ => .constants makes) settles allowed valid
        fun inner member => ?_
      · rw [run, Command.perform, Session.build_bind, Session.upshot_bind_ok makes,
          Session.build_within]
        exact Session.upshot_bind_error (Session.upshot_error refused)
      · obtain ⟨name, _, rfl⟩ := List.mem_map.mp member
        exact balances_declaration owner name
  | .refuse fault, _ => by
      refine balances_of_keeps fun blocks => ?_
      rw [run, Command.perform]
      exact brings_build (Brings.throw fault)

theorem balances_commands : ∀ {commands : List Command},
    Command.AllAllowed .flushBuilding commands →
    ∀ move ∈ commands.map Move.command, move.Balances
  | [], _ => List.forall_mem_nil _
  | _ :: _, allowed =>
      List.forall_mem_cons.mpr ⟨balances_command allowed.1, balances_commands allowed.2⟩

end

/-- Commands that are performed by a request leave the brackets as they find them. -/
theorem bracketed_performAll {commands : List Command}
    (allowed : Command.AllAllowed .flushBuilding commands)
    (settles : Settles (commands.map .command) session) (valid : session.Allowed .flushBuilding)
    (bracketed : session.program.Bracketed blocks) :
    (upshot (build (Command.performAll commands)) session).2.Bracketed blocks := by
  rw [← runAll_commands]
  exact bracketed_runAll (balances_commands allowed) (allowed_commands allowed) settles valid
    bracketed

theorem bracketed_request {name : String} {arguments : Arguments}
    (allowed : Command.AllAllowed .flushBuilding (Member.requested name arguments))
    (settles : Settles ((Member.requested name arguments).map .command) session)
    (valid : session.Allowed .flushBuilding) (bracketed : session.program.Bracketed blocks) :
    (upshot (build (Member.request name arguments)) session).2.Bracketed blocks := by
  rw [Member.request]
  cases found : Member.ofName name with
  | error fault => exact bracketed
  | ok member =>
      rw [Build.ofExcept, pure_bind]
      by_cases isReplay : member = .replay
      · subst isReplay
        cases binds : (Member.signature "replay" ["commands"]).bind arguments with
        | error fault =>
            rw [Member.apply, binds]
            exact bracketed
        | ok bound =>
            have performs : Member.requested name arguments = Command.sequence (bound.slot 0) := by
              rw [Member.requested, found]
              simp only [Member.commands, binds]
            rw [performs] at allowed settles
            rw [Member.apply, binds, Build.ofExcept, pure_bind,
              Session.upshot_build_answer _ fun _ => Reply.nothing]
            exact bracketed_performAll allowed settles valid bracketed
      · have keeps : Keeps (Bracketed blocks) (member.apply arguments) :=
          (Bracketed.stable blocks).apply fun replays => absurd replays isReplay
        have built : Keeps (Has (Bracketed blocks)) (build (member.apply arguments)) :=
          brings_build keeps
        exact built.outcome bracketed

/-- A reply that is no scope enters none when it is called. -/
theorem bracketed_callWith {reply : Reply} {argument : Value}
    (noScope : ∀ inner, reply ≠ .scope inner) (bracketed : session.program.Bracketed blocks) :
    (upshot (build (reply.callWith argument)) session).2.Bracketed blocks := by
  have calls : Keeps (Has (Bracketed blocks)) (build (reply.callWith argument)) :=
    brings_build ((Bracketed.stable blocks).callWith fun inner same => absurd same (noScope inner))
  exact calls.outcome bracketed

mutual

theorem balances_step : ∀ {step : Step}, step.isStructured = true →
    step.Allowed .flushBuilding → (Move.step step).Balances
  | .tolerate attempt, structured, allowed => by
      intro moves session blocks settles valid bracketed
      rw [run, Step.run, Session.upshot_tolerate]
      have inner : (Move.step attempt).Balances := balances_step structured allowed
      exact inner [] session blocks (settles.inner (.tolerate attempt)) valid bracketed
  | .dispatch name arguments, _, _ => by
      refine balances_of_keeps fun blocks => ?_
      rw [run, Step.run]
      exact keeps_recording
        (brings_build (((Bracketed.stable blocks).task _).bind fun _ => Brings.pure _))
  | .member name arguments, _, allowed => by
      intro moves session blocks settles valid bracketed
      rw [run, Step.run, Session.upshot_recording, Session.upshot_build_answer _ Answer.ofReply]
      exact bracketed_request allowed (settles.inner (.performs _)) valid bracketed
  | .call name, _, _ => by
      refine balances_of_keeps fun blocks => ?_
      rw [run, Step.run]
      exact keeps_recording
        (brings_build (((Bracketed.stable blocks).statement _).bind fun _ => Brings.pure _))
  | .replay commands, _, allowed => by
      intro moves session blocks settles valid bracketed
      rw [run, Step.run, Session.upshot_recording,
        Session.upshot_build_answer _ fun _ => Answer.nothing]
      exact bracketed_performAll allowed (settles.inner (.performs _)) valid bracketed
  | .within name arguments body, structured, allowed => by
      intro moves session blocks settles valid bracketed
      have requested := bracketed_request allowed.1 (settles.inner (.performs _)) valid bracketed
      rcases asked : outcome (build (Member.request name (.ofList arguments))) session
        with ⟨fault | reply, after⟩
      · rw [run, Step.run, Session.upshot_recording,
          Session.upshot_bind_error (Session.upshot_error asked)]
        rw [Session.upshot_error asked] at requested
        exact requested
      · rw [Session.upshot_ok asked] at requested
        cases reply with
        | scope scope =>
            have asks := Session.follows_build (Member.follows_request allowed.1)
            obtain ⟨_, isAllowed⟩ := Session.Reaches.of_ok asks valid asked
            refine bracketed_of_enter (Session.brings_enter_of (Scope.brings_bracketed isAllowed))
              requested (fun fault after refused => ?_) (fun _ => .within asked) settles allowed
              valid (balances_steps structured allowed.2)
            rw [run, Step.run, Session.upshot_recording, Session.upshot_bind_ok asked,
              Session.upshot_bind_pure _ fun _ => Answer.nothing]
            exact Session.upshot_bind_error (Session.upshot_error refused)
        | value | operation | subroutine =>
            rw [run, Step.run, Session.upshot_recording, Session.upshot_bind_ok asked]
            exact requested
  | .whole body, structured, allowed => by
      intro moves session blocks settles valid bracketed
      have ran := bracketed_runAll (balances_steps structured allowed) (allowed_steps allowed)
        (settles.inner (.whole body)) valid bracketed
      rw [runAll_steps] at ran
      rw [run, Step.run, Session.upshot_recording,
        Session.upshot_bind_pure _ fun _ => Answer.value (.bool true), Session.ending]
      refine Session.upshot_bind_holds (fun fault after stops => ?_) fun _ after goesOn => ?_
      · rw [Session.upshot_error stops] at ran
        exact ran
      · rw [Session.upshot_ok goesOn] at ran
        have ends : Keeps (Has (Bracketed blocks)) (build Build.finishOpen) :=
          brings_build (Bracketed.stable blocks).finishOpen
        exact ends.outcome ran
  | .make id name arguments, _, allowed => by
      intro moves session blocks settles valid bracketed
      have requested := bracketed_request allowed (settles.inner (.performs _)) valid bracketed
      rw [run, Step.run, Session.upshot_recording]
      refine Session.upshot_bind_holds (fun fault after stops => ?_) fun reply after goesOn => ?_
      · rw [Session.upshot_error stops] at requested
        exact requested
      · rw [Session.upshot_ok goesOn] at requested
        exact requested
  | .apply id body, structured, allowed => by
      intro moves session blocks settles valid bracketed
      cases kept : session.replies.lookup id with
      | none =>
          rw [run, Step.run, Session.upshot_recording,
            Session.upshot_bind_error (Session.upshot_error (Session.outcome_reply_none kept))]
          exact bracketed
      | some reply =>
          have found := Session.outcome_reply_some kept
          cases reply with
          | scope scope =>
              obtain ⟨_, isAllowed⟩ :=
                Session.Reaches.of_ok (Session.quiet_reply id) valid found
              refine bracketed_of_enter
                (Session.brings_enter_of (Scope.brings_bracketed isAllowed)) bracketed
                (fun fault after refused => ?_) (fun _ => .apply kept) settles allowed valid
                (balances_steps structured allowed)
              rw [run, Step.run, Session.upshot_recording, Session.upshot_bind_ok found,
                Session.upshot_bind_pure _ fun answer => Answer.value (.bool answer),
                Session.applyReply, Session.upshot_bind_pure _ fun _ => true]
              exact Session.upshot_bind_error (Session.upshot_error refused)
          | value | operation | subroutine =>
              rw [run, Step.run, Session.upshot_recording, Session.upshot_bind_ok found,
                Session.upshot_bind_pure _ fun answer => Answer.value (.bool answer),
                Session.applyReply, Session.upshot_bind_pure _ fun _ => false]
              · refine bracketed_callWith ?_ bracketed
                nofun
              · nofun
  | .declare id name, _, _ => by
      refine balances_of_keeps fun blocks => ?_
      rw [run, Step.run]
      refine keeps_recording ((Session.keeps_reply _ id).bind fun reply => ?_)
      exact (brings_build ((Bracketed.stable blocks).request reply _ _)).bind fun _ => Brings.pure _
  | .register id name arguments, _, _ => by
      refine balances_of_keeps fun blocks => ?_
      rw [run, Step.run]
      refine keeps_recording ((Session.keeps_reply _ id).bind fun reply => ?_)
      exact (brings_build ((Bracketed.stable blocks).request reply _ _)).bind fun _ => Brings.pure _
  | .text, _, _ => by
      refine balances_of_keeps fun blocks => ?_
      rw [run, Step.run]
      exact keeps_recording (brings_build (Session.keeps_source _))
  | .snapshot id, _, _ => by
      refine balances_of_keeps fun blocks => ?_
      rw [run, Step.run]
      exact keeps_recording ((Session.keeps_snapshot _ id).bind fun _ => Brings.pure _)
  | .reread id, _, _ => by
      refine balances_of_keeps fun blocks => ?_
      rw [run, Step.run]
      exact keeps_recording ((Session.keeps_kept _ id).bind fun _ => Brings.pure _)
  | .listing request, _, isReading => by
      refine balances_of_keeps fun blocks => ?_
      rw [run, Step.run]
      exact keeps_recording (brings_build (Session.keeps_ask_of_isReading isReading _))

theorem balances_steps : ∀ {steps : List Step}, Step.areStructured steps = true →
    Step.AllAllowed .flushBuilding steps → ∀ move ∈ steps.map Move.step, move.Balances
  | [], _, _ => List.forall_mem_nil _
  | _ :: _, structured, allowed => by
      rw [Step.areStructured, Bool.and_eq_true] at structured
      obtain ⟨head, tail⟩ := structured
      exact List.forall_mem_cons.mpr
        ⟨balances_step head allowed.1, balances_steps tail allowed.2⟩

end

end Move

end PicAssembly
