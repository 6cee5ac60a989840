import PicAssembly.Proofs.Ends
import PicAssembly.Proofs.Mirroring

/-!
# Moves

A run goes through moves: steps, the commands that a step performs, and the declarations of a
constants block that is replayed.  What a move comes to is told by how it ends and by the program
that it leaves.
-/

namespace PicAssembly

namespace Session

variable {α β : Type}

/-- How a step of a session ends, and the program that it leaves. -/
def upshot (step : Run α) (session : Session) : Except Fault Unit × Program :=
  ((outcome step session).1.map fun _ => (), (outcome step session).2.program)

theorem upshot_ok {step : Run α} {session after : Session} {result : α}
    (runs : outcome step session = (.ok result, after)) :
    upshot step session = (.ok (), after.program) := by
  rw [upshot, runs]
  rfl

theorem upshot_error {step : Run α} {session after : Session} {fault : Fault}
    (fails : outcome step session = (.error fault, after)) :
    upshot step session = (.error fault, after.program) := by
  rw [upshot, fails]
  rfl

theorem exists_of_upshot_ok {step : Run α} {session : Session} {program : Program}
    (runs : upshot step session = (.ok (), program)) :
    ∃ result after, outcome step session = (.ok result, after) ∧ after.program = program := by
  rcases reached : outcome step session with ⟨fault | result, after⟩
  · rw [upshot_error reached] at runs
    cases runs
  · rw [upshot_ok reached] at runs
    cases runs
    exact ⟨result, after, rfl, rfl⟩

theorem exists_of_upshot_error {step : Run α} {session : Session} {program : Program}
    {fault : Fault} (fails : upshot step session = (.error fault, program)) :
    ∃ after, outcome step session = (.error fault, after) ∧ after.program = program := by
  rcases reached : outcome step session with ⟨raised | result, after⟩
  · rw [upshot_error reached] at fails
    cases fails
    exact ⟨after, rfl, rfl⟩
  · rw [upshot_ok reached] at fails
    cases fails

theorem upshot_bind_ok {step : Run α} {next : α → Run β} {session after : Session} {result : α}
    (runs : outcome step session = (.ok result, after)) :
    upshot (step >>= next) session = upshot (next result) after := by
  rw [upshot, outcome_bind, runs]
  rfl

theorem upshot_bind_error {step : Run α} {next : α → Run β} {session : Session} {fault : Fault}
    {program : Program} (fails : upshot step session = (.error fault, program)) :
    upshot (step >>= next) session = (.error fault, program) := by
  obtain ⟨after, reached, rfl⟩ := exists_of_upshot_error fails
  rw [upshot, outcome_bind, reached]
  rfl

/-- The result of a step does not matter for its upshot. -/
theorem upshot_bind_pure (step : Run α) (answer : α → β) (session : Session) :
    upshot (step >>= fun result => pure (answer result)) session = upshot step session := by
  rcases reached : outcome step session with ⟨fault | result, after⟩
  · rw [upshot_error reached, upshot_bind_error (upshot_error reached)]
  · rw [upshot_ok reached, upshot_bind_ok reached, upshot_ok (outcome_pure _ _)]

theorem upshot_recording (step : Run Answer) (session : Session) :
    upshot (recording step) session = upshot step session := by
  rcases reached : outcome step session with ⟨fault | answer, after⟩ <;>
    rw [upshot, outcome_recording, upshot, reached] <;> rfl

theorem upshot_build (step : Build α) (session : Session) :
    upshot (build step) session =
      ((outcome step session.program).1.map fun _ => (), (outcome step session.program).2) := by
  rw [upshot, outcome_build]

/-- A building step that succeeds in a session does so on its program alone. -/
theorem run_of_build {step : Build α} {session after : Session} {result : α}
    (runs : outcome (build step) session = (.ok result, after)) :
    step.run session.program = (.ok result, after.program) := by
  rw [outcome_build] at runs
  obtain ⟨succeeds, rfl⟩ := Prod.mk.inj runs
  exact Prod.ext succeeds rfl

/-- Building steps in a row are the same in a session as alone. -/
theorem build_bind (step : Build α) (next : α → Build β) :
    build (step >>= next) = (build step >>= fun result => build (next result)) := by
  funext session
  have same : outcome (build (step >>= next)) session =
      outcome (build step >>= fun result => build (next result)) session := by
    rw [outcome_build, outcome_bind, outcome_bind, outcome_build]
    rcases outcome step session.program with ⟨fault | result, after⟩
    · rfl
    · dsimp only
      rw [outcome_build]
  exact same

theorem build_tryCatch (step : Build α) (handler : Fault → Build α) :
    build (tryCatch step handler) = tryCatch (build step) fun fault => build (handler fault) := by
  funext session
  have same : outcome (build (tryCatch step handler)) session =
      outcome (tryCatch (build step) fun fault => build (handler fault)) session := by
    rw [outcome_build, outcome_tryCatch, outcome_tryCatch, outcome_build]
    rcases outcome step session.program with ⟨fault | result, after⟩
    · dsimp only
      rw [outcome_build]
    · rfl
  exact same

theorem outcome_reply_some {id : String} {reply : Reply} {session : Session}
    (kept : session.replies.lookup id = some reply) :
    outcome (Session.reply id) session = (.ok reply, session) := by
  rw [Session.reply, outcome_bind, outcome_get]
  dsimp only
  rw [kept]
  rfl

theorem outcome_reply_none {id : String} {session : Session}
    (missing : session.replies.lookup id = none) :
    outcome (Session.reply id) session = (.error (nothingKept id), session) := by
  rw [Session.reply, outcome_bind, outcome_get]
  dsimp only
  rw [missing]
  rfl

end Session

/-- What a run does at one go. -/
inductive Move where
  | step (step : Step)
  | command (command : Command)
  | declaration (owner : ConstantsBlock) (name : Except Fault String)

namespace Move

/-- Makes a move. -/
def run : Move → Session.Run Unit
  | step inner => inner.run
  | command inner => Session.build inner.perform
  | declaration owner name => Session.build (Command.declareAll owner [name])

/-- Makes moves in order. -/
def runAll : List Move → Session.Run Unit
  | [] => pure ()
  | move :: moves => do
      run move
      runAll moves

theorem runAll_steps (steps : List Step) : runAll (steps.map .step) = Step.runAll steps := by
  induction steps with
  | nil =>
      rw [Step.runAll]
      rfl
  | cons step steps induction =>
      rw [List.map_cons, runAll, induction, Step.runAll]
      rfl

theorem runAll_commands (commands : List Command) :
    runAll (commands.map .command) = Session.build (Command.performAll commands) := by
  induction commands with
  | nil =>
      rw [Command.performAll]
      rfl
  | cons command commands induction =>
      rw [List.map_cons, runAll, induction, Command.performAll, Session.build_bind]
      rfl

theorem runAll_declarations (owner : ConstantsBlock) (names : List (Except Fault String)) :
    runAll (names.map (.declaration owner)) = Session.build (Command.declareAll owner names) := by
  induction names with
  | nil => rfl
  | cons name names induction =>
      have first : Command.declareAll owner (name :: names) =
          (Command.declareAll owner [name] >>= fun _ => Command.declareAll owner names) := by
        cases name with
        | ok name => simp [Command.declareAll]
        | error fault => rfl
      rw [List.map_cons, runAll, induction, first, Session.build_bind]
      rfl

end Move

end PicAssembly
