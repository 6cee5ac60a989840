import PicAssembly.Fault

/-!
# Outcomes of steps

A step changes a state and may fail, and then the state keeps what was done before.  Whatever
relation of states the parts of a step respect, the step respects as well; the relation may count
something, and so a count for a step is put together from counts for its parts.
-/

namespace PicAssembly

/-- A step that changes a state and may fail. -/
abbrev Stateful (State α : Type) := ExceptT Fault (StateM State) α

section

variable {State α β : Type}

/-- The result of a step, or its fault, and the state that it leaves. -/
def outcome (step : Stateful State α) (state : State) : Except Fault α × State :=
  StateT.run (ExceptT.run step) state

@[simp]
theorem outcome_pure (result : α) (state : State) :
    outcome (pure result) state = (.ok result, state) := rfl

@[simp]
theorem outcome_get (state : State) :
    outcome (get : Stateful State State) state = (.ok state, state) := rfl

@[simp]
theorem outcome_modify (change : State → State) (state : State) :
    outcome (modify change : Stateful State Unit) state = (.ok (), change state) := rfl

theorem outcome_bind (step : Stateful State α) (next : α → Stateful State β) (state : State) :
    outcome (step >>= next) state =
      match outcome step state with
      | (.ok result, after) => outcome (next result) after
      | (.error fault, after) => (.error fault, after) := by
  simp only [outcome, ExceptT.run_bind, StateT.run_bind]
  generalize StateT.run (ExceptT.run step) state = reached
  rcases reached with ⟨_ | _, after⟩ <;> rfl

theorem outcome_bind_error {step : Stateful State α} {next : α → Stateful State β}
    {state after : State} {fault : Fault} (fails : outcome step state = (.error fault, after)) :
    outcome (step >>= next) state = (.error fault, after) := by
  rw [outcome_bind, fails]

theorem outcome_tryCatch (step : Stateful State α) (handler : Fault → Stateful State α)
    (state : State) :
    outcome (tryCatch step handler) state =
      match outcome step state with
      | (.ok result, after) => (.ok result, after)
      | (.error fault, after) => outcome (handler fault) after := by
  rcases reached : outcome step state with ⟨_ | _, after⟩ <;>
    simp only [outcome, ExceptT.run] at reached <;>
    simp only [outcome, tryCatch, tryCatchThe, MonadExceptOf.tryCatch, ExceptT.tryCatch,
      ExceptT.run, ExceptT.mk, StateT.run_bind, reached] <;> rfl

/-- What is counted behind a step; nothing if the step fails. -/
def behind (step : Stateful State α) (count : α → State → Nat) (state : State) : Nat :=
  match outcome step state with
  | (.ok result, after) => count result after
  | (.error _, _) => 0

theorem behind_ok {step : Stateful State α} {count : α → State → Nat} {state after : State}
    {result : α} (reached : outcome step state = (.ok result, after)) :
    behind step count state = count result after := by
  rw [behind, reached]

theorem behind_error {step : Stateful State α} {count : α → State → Nat} {state after : State}
    {fault : Fault} (reached : outcome step state = (.error fault, after)) :
    behind step count state = 0 := by
  rw [behind, reached]

@[simp]
theorem behind_zero (step : Stateful State α) : (behind step fun _ _ => 0) = fun _ => 0 := by
  funext state
  rw [behind]
  split <;> rfl

end

/-- A relation of states that can be strung together and counts something, together with what holds
of all states that are reached. -/
structure Course (State : Type) where
  Valid : State → Prop
  Leads : State → Nat → State → Prop
  refl : ∀ state, Leads state 0 state
  trans : ∀ {first second third : State} {front back : Nat},
    Leads first front second → Leads second back third → Leads first (front + back) third

/-- An outcome that lies on a course from a state, with the given count and a result as described.
-/
structure Course.Reaches {State α : Type} (course : Course State) (state : State) (count : Nat)
    (described : α → Prop) (reached : Except Fault α × State) : Prop where
  leads : course.Leads state count reached.2
  valid : course.Valid reached.2
  result : ∀ result, reached.1 = .ok result → described result

/-- A step stays on a course with the given count, from wherever it is taken. -/
def Follows {State α : Type} (course : Course State) (step : Stateful State α)
    (count : State → Nat) (described : α → Prop) : Prop :=
  ∀ state, course.Valid state →
    course.Reaches state (count state) described (outcome step state)

namespace Follows

variable {State α β : Type} {course : Course State} {step : Stateful State α}
  {next : α → Stateful State β} {count : State → Nat} {later : α → State → Nat}
  {described : α → Prop} {final : β → Prop}

/-- What is said of the result may be weakened. -/
theorem describe {other : α → Prop} (follows : Follows course step count described)
    (implies : ∀ result, described result → other result) : Follows course step count other := by
  intro state valid
  obtain ⟨leads, reached, result⟩ := follows state valid
  exact ⟨leads, reached, fun found succeeds => implies found (result found succeeds)⟩

theorem pure {result : α} (holds : described result) :
    Follows course (Pure.pure result) (fun _ => 0) described := by
  intro state valid
  refine ⟨course.refl state, valid, fun other succeeds => ?_⟩
  cases succeeds
  exact holds

theorem throw (fault : Fault) :
    Follows course (throw fault : Stateful State α) (fun _ => 0) described :=
  fun state valid => ⟨course.refl state, valid, nofun⟩

/-- The counts of two steps in a row are added. -/
theorem bind (front : Follows course step count described)
    (back : ∀ result, described result → Follows course (next result) (later result) final) :
    Follows course (step >>= next) (fun state => count state + behind step later state) final := by
  intro state valid
  have first := front state valid
  rw [outcome_bind]
  rcases reached : outcome step state with ⟨fault | result, after⟩
  · rw [reached] at first
    dsimp only
    rw [behind_error reached]
    exact ⟨first.leads, first.valid, nofun⟩
  · rw [reached] at first
    dsimp only
    rw [behind_ok reached]
    have second := back result (first.result result rfl) after first.valid
    exact ⟨course.trans first.leads second.leads, second.valid, second.result⟩

/-- If the first of two steps counts nothing, only the next one counts. -/
theorem bind_quiet (front : Follows course step (fun _ => 0) described)
    (back : ∀ result, described result → Follows course (next result) (later result) final) :
    Follows course (step >>= next) (behind step later) final := by
  simpa using front.bind back

/-- If the next of two steps counts nothing, only the first one counts. -/
theorem bind_last (front : Follows course step count described)
    (back : ∀ result, described result → Follows course (next result) (fun _ => 0) final) :
    Follows course (step >>= next) count final := by
  simpa using front.bind back

/-- A handler that counts nothing adds nothing to the count of the step that has failed. -/
theorem tryCatch {handler : Fault → Stateful State α}
    (body : Follows course step count described)
    (handled : ∀ fault, Follows course (handler fault) (fun _ => 0) described) :
    Follows course (tryCatch step handler) count described := by
  intro state valid
  have first := body state valid
  rw [outcome_tryCatch]
  rcases reached : outcome step state with ⟨fault | result, after⟩
  · rw [reached] at first
    have second := handled fault after first.valid
    exact ⟨course.trans first.leads second.leads, second.valid, second.result⟩
  · rw [reached] at first
    exact first

end Follows

end PicAssembly
