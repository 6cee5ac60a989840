import PicAssembly.Proofs.Sessions

/-!
# Steps that mirror building steps

A step of a session mirrors a building step if it does on the program of the session just what the
other does on the program alone: it fails with the same fault, or both succeed, and the same program
is left.  Conditions on the replies that the session keeps are told before and after.
-/

namespace PicAssembly

/-- What is kept about the scope that a session is in: the constants block entered last. -/
def Scope.KeptIn (scope : Scope) (replies : List (String × Reply)) : Prop :=
  match scope with
  | block .. => True
  | constants _ => replies.lookup Session.lastConstants = some (.scope scope)

namespace Session

/-- The replies that a session keeps. -/
abbrev Replies := List (String × Reply)

variable {α β γ δ : Type}

/-- Outcomes of a session and of a program alone that agree. -/
inductive Agree (after : α → β → Replies → Prop) :
    Except Fault α × Session → Except Fault β × Program → Prop
  | ok {left : α} {right : β} {session : Session} (holds : after left right session.replies) :
      Agree after (.ok left, session) (.ok right, session.program)
  | error (fault : Fault) (session : Session) :
      Agree after (.error fault, session) (.error fault, session.program)

/-- A step of a session that does on its program what a building step does. -/
def Mirrors (before : Replies → Prop) (step : Run α) (inner : Build β)
    (after : α → β → Replies → Prop) : Prop :=
  ∀ session, before session.replies →
    Agree after (outcome step session) (outcome inner session.program)

/-- No condition on replies. -/
abbrev Any : Replies → Prop := fun _ => True

/-- No condition on results and replies. -/
abbrev Done (_ : α) (_ : β) (_ : Replies) : Prop := True

theorem outcome_recording (step : Run Answer) (session : Session) :
    outcome (recording step) session =
      match outcome step session with
      | (.ok answer, after) => (.ok (), after.withEntry (.ok answer))
      | (.error fault, after) => (.error fault, after.withEntry (.error fault)) := by
  rw [recording, outcome_bind, outcome_tryCatch, outcome_bind]
  rcases outcome step session with ⟨_ | _, after⟩ <;> rfl

namespace Mirrors

variable {before middle : Replies → Prop} {step : Run α} {inner : Build β}
  {between : α → β → Replies → Prop} {next : α → Run γ} {onwards : β → Build δ}
  {after : γ → δ → Replies → Prop}

theorem pure {left : α} {right : β}
    (holds : ∀ replies, before replies → between left right replies) :
    Mirrors before (Pure.pure left : Run α) (Pure.pure right : Build β) between :=
  fun session valid => .ok (holds session.replies valid)

theorem throw (fault : Fault) :
    Mirrors before (throw fault : Run α) (throw fault : Build β) between :=
  fun session _ => .error fault session

theorem bind (first : Mirrors before step inner between)
    (second : ∀ left right, Mirrors (between left right) (next left) (onwards right) after) :
    Mirrors before (step >>= next) (inner >>= onwards) after := by
  intro session valid
  have agrees := first session valid
  rw [outcome_bind, outcome_bind]
  generalize outcome step session = reached at agrees ⊢
  generalize outcome inner session.program = alone at agrees ⊢
  cases agrees with
  | ok holds => exact second _ _ _ holds
  | error fault session => exact .error fault session

theorem weaken {other : α → β → Replies → Prop} (mirrors : Mirrors before step inner between)
    (implies : ∀ left right replies, between left right replies → other left right replies) :
    Mirrors before step inner other := by
  intro session valid
  have agrees := mirrors session valid
  generalize outcome step session = reached at agrees ⊢
  generalize outcome inner session.program = alone at agrees ⊢
  cases agrees with
  | ok holds => exact .ok (implies _ _ _ holds)
  | error fault session => exact .error fault session

theorem strengthen (mirrors : Mirrors before step inner between)
    (implies : ∀ replies, middle replies → before replies) :
    Mirrors middle step inner between :=
  fun session valid => mirrors session (implies _ valid)

/-- The session goes on where the building step has ended. -/
theorem bind_left {after : γ → β → Replies → Prop} (first : Mirrors before step inner between)
    (second : ∀ left right, Mirrors (between left right) (next left) (Pure.pure right) after) :
    Mirrors before (step >>= next) inner after := by
  rw [← bind_pure inner]
  exact first.bind second

/-- The session does something of its own before it goes on. -/
theorem bind_quiet {right : β} {onwards : Build δ}
    (first : Mirrors before step (Pure.pure right) between)
    (second : ∀ left, Mirrors (between left right) (next left) onwards after) :
    Mirrors before (step >>= next) onwards after := by
  intro session valid
  have agrees := first session valid
  rw [outcome_pure] at agrees
  rw [outcome_bind]
  generalize outcome step session = reached at agrees ⊢
  generalize session.program = program at agrees ⊢
  cases agrees with
  | ok holds => exact second _ _ holds

/-- The building step ends with a result that the session does not have. -/
theorem bind_right {right : δ} (mirrors : Mirrors before step inner Done) :
    Mirrors before step (inner >>= fun _ => Pure.pure right) Done := by
  rw [← bind_pure step]
  exact mirrors.bind fun _ _ => pure fun _ _ => trivial

theorem tryCatch {handler : Fault → Run α} {handled : Fault → Build β}
    (body : Mirrors before step inner between)
    (recovers : ∀ fault, Mirrors Any (handler fault) (handled fault) between) :
    Mirrors before (tryCatch step handler) (tryCatch inner handled) between := by
  intro session valid
  have agrees := body session valid
  rw [outcome_tryCatch, outcome_tryCatch]
  generalize outcome step session = reached at agrees ⊢
  generalize outcome inner session.program = alone at agrees ⊢
  cases agrees with
  | ok holds => exact .ok holds
  | error fault session => exact recovers fault session trivial

theorem build {inner : Build α} :
    Mirrors before (build inner) inner fun left right replies => left = right ∧ before replies := by
  intro session valid
  rw [outcome_build]
  generalize outcome inner session.program = alone
  rcases alone with ⟨fault | result, program⟩
  · exact .error fault { session with program }
  · have holds : result = result ∧ before { session with program }.replies := ⟨rfl, valid⟩
    exact .ok holds

/-- What is made of a result does not matter. -/
theorem build_map {inner : Build α} {f : α → γ} {g : α → δ} :
    Mirrors before (Session.build (inner >>= fun result => Pure.pure (f result)))
      (inner >>= fun result => Pure.pure (g result)) Done := by
  intro session valid
  rw [outcome_build, outcome_bind, outcome_bind]
  generalize outcome inner session.program = alone
  rcases alone with ⟨fault | result, program⟩
  · exact .error fault { session with program }
  · have done : Done (f result) (g result) { session with program }.replies := trivial
    exact .ok done

/-- What is made of a result, and what is known of all results, goes with the result. -/
theorem build_made {inner : Build α} {made : α → γ} {described : α → Prop}
    (results : ∀ program result after,
      outcome inner program = (.ok result, after) → described result) :
    Mirrors before (Session.build (inner >>= fun result => Pure.pure (made result))) inner
      fun left right replies => (left = made right ∧ described right) ∧ before replies := by
  intro session valid
  rw [outcome_build, outcome_bind]
  rcases alone : outcome inner session.program with ⟨fault | result, program⟩
  · exact .error fault { session with program }
  · have holds : (made result = made result ∧ described result) ∧
        before { session with program }.replies := ⟨⟨rfl, results _ _ _ alone⟩, valid⟩
    exact .ok holds

/-- A fact that does not depend on the replies is assumed. -/
theorem assume {fact : Prop} (mirrors : fact → Mirrors before step inner between) :
    Mirrors (fun replies => fact ∧ before replies) step inner between :=
  fun session valid => mirrors valid.1 session valid.2

/-- A step is recorded without its answer. -/
theorem recording {step : Run Answer} {holds : β → Replies → Prop}
    (mirrors : Mirrors before step inner fun _ right replies => holds right replies) :
    Mirrors before (recording step) inner fun _ right replies => holds right replies := by
  intro session valid
  have agrees := mirrors session valid
  rw [outcome_recording]
  generalize outcome step session = reached at agrees ⊢
  generalize outcome inner session.program = alone at agrees ⊢
  cases agrees with
  | @ok answer right session known =>
      have kept : holds right (session.withEntry (.ok answer)).replies := known
      exact .ok kept
  | error fault session => exact .error fault (session.withEntry (.error fault))

theorem keep (id : String) (kept : Reply) (right : β) :
    Mirrors before (keep id kept) (Pure.pure right) fun _ found replies =>
      found = right ∧ replies.lookup id = some kept := by
  intro session _
  rw [Session.keep, outcome_modify]
  have holds : right = right ∧ ((id, kept) :: session.replies).lookup id = some kept :=
    ⟨rfl, List.lookup_cons_self⟩
  exact .ok holds

theorem reply {id : String} {found : Reply} (right : β)
    (known : ∀ replies, before replies → replies.lookup id = some found) :
    Mirrors before (reply id) (Pure.pure right) fun left _ replies =>
      left = found ∧ before replies := by
  intro session valid
  have finds : outcome (Session.reply id) session = (.ok found, session) := by
    rw [Session.reply, outcome_bind, outcome_get]
    dsimp only
    rw [known session.replies valid]
    rfl
  rw [finds]
  have holds : found = found ∧ before session.replies := ⟨rfl, valid⟩
  exact .ok holds

/-- A scope is entered and left by a session as by a building step. -/
theorem enter (scope : Scope) :
    Mirrors before (enter scope) scope.enter fun _ _ replies => scope.KeptIn replies := by
  refine build.bind_left fun _ right => ?_
  cases scope with
  | block name repeats => exact pure fun _ _ => trivial
  | constants owner => exact (keep lastConstants _ right).weaken fun _ _ _ holds => holds.2

theorem inside {scope : Scope} {body : Run Unit} {inner : Build Unit}
    (mirrors : Mirrors scope.KeptIn body inner Done) :
    Mirrors before (inside scope body) (scope.within inner) Done := by
  refine (enter scope).bind fun _ _ => ?_
  refine Mirrors.bind (mirrors.tryCatch fun fault => ?_) fun _ _ => ?_
  · exact build.bind fun _ _ => throw fault
  · exact (build.weaken fun _ _ _ _ => trivial).bind_right

end Mirrors

end Session

theorem Step.runAll_append (front back : List Step) :
    runAll (front ++ back) = (runAll front >>= fun _ => runAll back) := by
  induction front with
  | nil => simp [runAll]
  | cons step steps induction =>
      rw [List.cons_append, runAll, runAll, induction, bind_assoc]

end PicAssembly
