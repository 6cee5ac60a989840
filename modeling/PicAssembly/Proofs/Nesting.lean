import PicAssembly.Proofs.Moves
import PicAssembly.Proofs.Openness

/-!
# Places in a run

A move may hold further moves inside of a frame, which is a scope, the whole program, a step that
performs commands, or an attempt whose fault is swallowed.  A place in a run is told by the frames
around it, by the moves that are left to be made there, and by the session at that point.  A fault
at a place passes outwards through the frames, and each scope among them is closed on the way.
-/

namespace PicAssembly

namespace Scope

/-- What closing a scope makes of a program. -/
def closed (scope : Scope) (program : Program) : Program :=
  match scope with
  | block _ _ => program
  | constants owner =>
      { program with guard := none, openBlocks := program.openBlocks.filter (· != owner) }

theorem outcome_close (scope : Scope) (program : Program) :
    outcome scope.close program = (.ok (), scope.closed program) := by
  cases scope <;> rfl

@[simp]
theorem listing_closed (scope : Scope) (program : Program) :
    (scope.closed program).listing = program.listing := by
  cases scope <;> rfl

@[simp]
theorem isFinal_closed (scope : Scope) (program : Program) :
    (scope.closed program).isFinal = program.isFinal := by
  rw [Program.isFinal, listing_closed, Program.isFinal]

theorem outcome_leave_open (scope : Scope) {program : Program} (isOpen : program.isFinal = false) :
    outcome scope.leave program =
      (.ok (), (scope.closed program).record scope.closingLines) := by
  have stillOpen : (scope.closed program).isFinal = false := by rw [isFinal_closed, isOpen]
  rw [leave, outcome_bind, outcome_close]
  exact Build.run_emit_open scope.closingLines stillOpen

/-- A scope of a final program is closed before its closing lines are refused. -/
theorem exists_outcome_leave_final (scope : Scope) {program : Program}
    (isFinal : program.isFinal = true) :
    ∃ fault, outcome scope.leave program = (.error fault, scope.closed program) := by
  have stillFinal : (scope.closed program).isFinal = true := by rw [isFinal_closed, isFinal]
  have some : ∃ line lines, scope.closingLines = line :: lines := by
    cases scope with
    | block name repeats => cases repeats <;> exact ⟨_, _, rfl⟩
    | constants owner => exact ⟨_, _, rfl⟩
  obtain ⟨line, lines, closing⟩ := some
  refine ⟨.closed (.str line.text), ?_⟩
  rw [leave, outcome_bind, outcome_close, closing]
  exact Build.run_emit_final line lines stillFinal

end Scope

variable {program raised : Program} {fault : Fault}

theorem Command.outcome_perform_of_performAll {task : Task}
    (fails : outcome (performAll [.run task]) program = (.error fault, raised)) :
    outcome task.perform program = (.error fault, raised) := by
  rw [performAll, perform, performAll, outcome_bind, outcome_bind] at fails
  rcases reached : outcome task.perform program with ⟨found | result, after⟩ <;>
    rw [reached] at fails
  · cases fails
    rfl
  · cases fails

theorem Command.outcome_performAll_nil_ne :
    outcome (performAll []) program ≠ (.error fault, raised) := by
  rw [performAll]
  rintro ⟨⟩

namespace Member

/-- A member that performs commands fails as these do. -/
theorem outcome_apply_of_commands {member : Member} {arguments : Arguments}
    (fails : outcome (Command.performAll (member.commands arguments)) program =
      (.error fault, raised)) :
    outcome (member.apply arguments) program = (.error fault, raised) := by
  cases member with
  | operation found => exact outcome_bind_error (Command.outcome_perform_of_performAll fails)
  | dispatch =>
      rw [commands] at fails
      split at fails
      · next bound binds =>
          rw [apply, binds, Build.ofExcept, pure_bind]
          exact outcome_bind_error (Command.outcome_perform_of_performAll fails)
      · exact absurd fails Command.outcome_performAll_nil_ne
  | replay =>
      rw [commands] at fails
      split at fails
      · next bound binds =>
          rw [apply, binds, Build.ofExcept, pure_bind]
          exact outcome_bind_error fails
      · exact absurd fails Command.outcome_performAll_nil_ne
  | subroutine name => exact outcome_bind_error (Command.outcome_perform_of_performAll fails)
  | call | resolve | text | load | field => exact absurd fails Command.outcome_performAll_nil_ne

theorem outcome_request_of_requested {name : String} {arguments : Arguments}
    (fails : outcome (Command.performAll (requested name arguments)) program =
      (.error fault, raised)) :
    outcome (request name arguments) program = (.error fault, raised) := by
  rw [requested] at fails
  split at fails
  · next member found =>
      rw [request, found]
      exact outcome_apply_of_commands fails
  · exact absurd fails Command.outcome_performAll_nil_ne

end Member

namespace Session

/-- Runs a body and leaves the scope around it, which has been entered before. -/
def closing (scope : Scope) (body : Run Unit) : Run Unit := do
  tryCatch body fun fault => do
    build scope.close
    throw fault
  build scope.leave

theorem build_within (scope : Scope) (body : Build Unit) :
    build (scope.within body) = (build scope.enter >>= fun _ => closing scope (build body)) := by
  have leaves : (fun result : Unit => do scope.leave; pure result) = fun _ => scope.leave := by
    funext result
    simp
  rw [Scope.within, leaves, build_bind]
  congr 1
  funext _
  rw [build_bind, build_tryCatch, closing]
  congr 2
  funext fault
  rw [build_bind]
  rfl

/-- A fault in the body of a scope passes through the scope, which is closed and records nothing. -/
theorem upshot_closing_error (scope : Scope) {body : Run Unit} {session : Session} {fault : Fault}
    {raised : Program} (fails : upshot body session = (.error fault, raised)) :
    upshot (closing scope body) session = (.error fault, scope.closed raised) := by
  obtain ⟨after, reached, rfl⟩ := exists_of_upshot_error fails
  have caught : outcome (tryCatch body fun fault => do
      build scope.close
      throw fault) session =
        (.error fault, { after with program := scope.closed after.program }) := by
    rw [outcome_tryCatch, reached]
    dsimp only
    rw [outcome_bind, outcome_build, Scope.outcome_close]
    rfl
  exact upshot_bind_error (upshot_error caught)

theorem upshot_closing_ok (scope : Scope) {body : Run Unit} {session : Session}
    {finished : Program} (runs : upshot body session = (.ok (), finished)) :
    upshot (closing scope body) session = outcome scope.leave finished := by
  obtain ⟨result, after, reached, rfl⟩ := exists_of_upshot_ok runs
  have caught : outcome (tryCatch body fun fault => do
      build scope.close
      throw fault) session = (.ok result, after) := by
    rw [outcome_tryCatch, reached]
  rw [closing, upshot_bind_ok caught, upshot_build]
  rcases outcome scope.leave after.program with ⟨fault | result, left⟩ <;> rfl

end Session

/-- What may stand around moves. -/
inductive Frame where
  /-- A scope that has been entered. -/
  | scope (scope : Scope)
  /-- The whole program, which is ended behind its moves. -/
  | whole
  /-- A step that performs commands. -/
  | commands
  /-- An attempt, which swallows the fault of its move. -/
  | attempt

namespace Frame

/-- The constants blocks that are open inside of a frame and not around it. -/
def opens : Frame → List ConstantsBlock
  | scope inner => inner.opens
  | whole | commands | attempt => []

/-- A frame opens a constants block exactly if it is the scope of this block. -/
theorem mem_opens {frame : Frame} {owner : ConstantsBlock} :
    owner ∈ frame.opens ↔ frame = .scope (.constants owner) := by
  rcases frame with ⟨⟨name, repeats⟩ | ⟨held⟩⟩ | _ | _ | _ <;> simp [opens, Scope.opens, eq_comm]

/-- What a fault that passes through a frame makes of the program. -/
def closed (frame : Frame) (raised : Program) : Program :=
  match frame with
  | scope inner => inner.closed raised
  | whole | commands | attempt => raised

end Frame

namespace Move

open Session (upshot build)

/-- A move that, made in a session, comes to hold further moves inside of a frame, with the session
in which it goes on with these. -/
inductive Opens (session : Session) : Move → Frame → List Move → Session → Prop
  | within {name : String} {arguments : List Value} {body : List Step} {scope : Scope}
      {requested entered : Session}
      (requests : outcome (build (Member.request name (.ofList arguments))) session =
        (.ok (.scope scope), requested))
      (enters : outcome (Session.enter scope) requested = (.ok (), entered)) :
      Opens session (.step (.within name arguments body)) (.scope scope) (body.map .step) entered
  | apply {id : String} {body : List Step} {scope : Scope} {entered : Session}
      (kept : session.replies.lookup id = some (.scope scope))
      (enters : outcome (Session.enter scope) session = (.ok (), entered)) :
      Opens session (.step (.apply id body)) (.scope scope) (body.map .step) entered
  | whole (body : List Step) :
      Opens session (.step (.whole body)) .whole (body.map .step) session
  | tolerate (step : Step) : Opens session (.step (.tolerate step)) .attempt [.step step] session
  | performs (step : Step) :
      Opens session (.step step) .commands (step.commands.map .command) session
  | block {name : Value} {repeats : Bool} {body : List Command} {entered : Session}
      (enters : outcome (build (Scope.block name repeats).enter) session = (.ok (), entered)) :
      Opens session (.command (.block name repeats body)) (.scope (.block name repeats))
        (body.map .command) entered
  | constants {names : List (Except Fault String)} {owner : ConstantsBlock}
      {made entered : Session}
      (makes : outcome (build Build.makeConstants) session = (.ok owner, made))
      (enters : outcome (build (Scope.constants owner).enter) made = (.ok (), entered)) :
      Opens session (.command (.constants names)) (.scope (.constants owner))
        (names.map (.declaration owner)) entered

/-- Moves that, made in order, come to a place: behind moves that have succeeded, or inside of one.
The frames are listed from the outside inwards. -/
inductive ComesTo : List Move → Session → List Frame → List Move → Session → Prop
  | here (moves : List Move) (session : Session) : ComesTo moves session [] moves session
  | later {move : Move} {moves rest : List Move} {session between point : Session}
      {frames : List Frame} (runs : outcome move.run session = (.ok (), between))
      (comes : ComesTo moves between frames rest point) :
      ComesTo (move :: moves) session frames rest point
  | inner {move : Move} {moves body rest : List Move} {session entered point : Session}
      {frame : Frame} {frames : List Frame} (opens : move.Opens session frame body entered)
      (comes : ComesTo body entered frames rest point) :
      ComesTo (move :: moves) session (frame :: frames) rest point

/-- Behind its entry a move inside of a scope does nothing but run its moves and leave the scope. -/
theorem Opens.upshot_run {move : Move} {session entered : Session} {scope : Scope}
    {body : List Move} (opens : move.Opens session (.scope scope) body entered) :
    upshot move.run session = upshot (Session.closing scope (runAll body)) entered := by
  cases opens with
  | within requests enters =>
      rw [runAll_steps, run, Step.run, Session.upshot_recording, Session.upshot_bind_ok requests,
        Session.upshot_bind_pure _ fun _ => Answer.nothing]
      exact Session.upshot_bind_ok enters
  | @apply id body _ _ kept enters =>
      rw [runAll_steps, run, Step.run, Session.upshot_recording,
        Session.upshot_bind_ok (Session.outcome_reply_some kept),
        Session.upshot_bind_pure _ fun answer => Answer.value (.bool answer),
        Session.applyReply, Session.upshot_bind_pure _ fun _ => true]
      exact Session.upshot_bind_ok enters
  | block enters =>
      rw [runAll_commands, run, Command.perform, Session.build_within,
        Session.upshot_bind_ok enters]
  | constants makes enters =>
      rw [runAll_declarations, run, Command.perform, Session.build_bind,
        Session.upshot_bind_ok makes, Session.build_within, Session.upshot_bind_ok enters]

/-- A step fails as the commands that it performs do. -/
theorem upshot_step_of_commands {step : Step} {session : Session}
    (fails : outcome (Command.performAll step.commands) session.program = (.error fault, raised)) :
    upshot step.run session = (.error fault, raised) := by
  have built {α : Type} {inner : Build α}
      (stops : outcome inner session.program = (.error fault, raised)) :
      upshot (build inner) session = (.error fault, raised) := by
    rw [Session.upshot_build, stops]
    rfl
  cases step with
  | dispatch name arguments =>
      rw [Step.run, Session.upshot_recording]
      exact built (outcome_bind_error (Command.outcome_perform_of_performAll fails))
  | member name arguments =>
      rw [Step.run, Session.upshot_recording]
      exact built (outcome_bind_error (Member.outcome_request_of_requested fails))
  | replay commands =>
      rw [Step.run, Session.upshot_recording]
      exact built (outcome_bind_error fails)
  | within name arguments body | make id name arguments =>
      rw [Step.run, Session.upshot_recording]
      exact Session.upshot_bind_error (built (Member.outcome_request_of_requested fails))
  | call | whole | enter | leave | apply | declare | register | text | snapshot | reread | listing
  | tolerate => exact absurd fails Command.outcome_performAll_nil_ne

variable {move : Move} {moves body rest : List Move} {session entered point : Session}
  {frame : Frame} {frames : List Frame}

/-- A fault that nothing swallows passes outwards through one frame. -/
theorem Opens.upshot_error (opens : move.Opens session frame body entered)
    (passes : frame ≠ .attempt) (fails : upshot (runAll body) entered = (.error fault, raised)) :
    upshot move.run session = (.error fault, frame.closed raised) := by
  cases frame with
  | scope scope =>
      rw [opens.upshot_run]
      exact Session.upshot_closing_error scope fails
  | whole =>
      cases opens
      rw [runAll_steps] at fails
      rw [run, Step.run, Session.upshot_recording, Session.ending]
      exact Session.upshot_bind_error (Session.upshot_bind_error fails)
  | commands =>
      cases opens
      rw [runAll_commands, Session.upshot_build] at fails
      apply upshot_step_of_commands
      rcases reached : outcome (Command.performAll _) session.program with ⟨found | result, after⟩
      · rw [reached] at fails
        cases fails
        rfl
      · rw [reached] at fails
        cases fails
  | attempt => exact absurd rfl passes

/-- A fault that nothing swallows passes outwards through all frames around a place. -/
theorem ComesTo.upshot_error (comes : ComesTo moves session frames rest point)
    (passes : .attempt ∉ frames) (fails : upshot (runAll rest) point = (.error fault, raised)) :
    upshot (runAll moves) session =
      (.error fault, frames.foldr (fun frame program => frame.closed program) raised) := by
  induction comes with
  | here moves session => exact fails
  | later runs _ induction =>
      rw [runAll, Session.upshot_bind_ok runs]
      exact induction passes fails
  | inner opens _ induction =>
      have outer := List.ne_of_not_mem_cons passes
      have inner := List.not_mem_of_not_mem_cons passes
      rw [runAll]
      exact Session.upshot_bind_error (opens.upshot_error (Ne.symm outer) (induction inner fails))

/-- What is left of a scope whose moves have succeeded is leaving it. -/
theorem Opens.upshot_ok {scope : Scope} {finished : Program}
    (opens : move.Opens session (.scope scope) body entered)
    (returns : upshot (runAll body) entered = (.ok (), finished)) :
    upshot move.run session = outcome scope.leave finished := by
  rw [opens.upshot_run]
  exact Session.upshot_closing_ok scope returns

end Move

end PicAssembly
