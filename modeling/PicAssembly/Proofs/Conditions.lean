import PicAssembly.Proofs.Outcome

/-!
# Conditions around steps

A step brings states that satisfy one condition to states that satisfy another one, which may depend
on whether the step succeeds.  A step keeps a condition if it holds behind the step whenever it has
held before, however the step ends; the result may be described as well.
-/

namespace PicAssembly

variable {State α β : Type}

/-- From every state as described before it a step leads to one as described after it, or for its
failure. -/
def Brings (before : State → Prop) (step : Stateful State α) (after failed : State → Prop) : Prop :=
  ∀ state, before state →
    match outcome step state with
    | (.ok _, reached) => after reached
    | (.error _, reached) => failed reached

/-- A step keeps a condition, whether it succeeds or fails. -/
abbrev Keeps (condition : State → Prop) (step : Stateful State α) : Prop :=
  Brings condition step condition condition

namespace Brings

variable {before between after raised failed : State → Prop} {step : Stateful State α}
  {next : α → Stateful State β}

theorem pure (result : α) : Brings after (Pure.pure result : Stateful State α) after failed :=
  fun _ holds => holds

theorem throw (fault : Fault) : Brings failed (throw fault : Stateful State α) after failed :=
  fun _ holds => holds

theorem get : Brings after (MonadState.get : Stateful State State) after failed :=
  fun _ holds => holds

theorem modify {change : State → State} (leads : ∀ state, before state → after (change state)) :
    Brings before (modify change : Stateful State Unit) after failed :=
  leads

theorem bind (first : Brings before step between failed)
    (second : ∀ result, Brings between (next result) after failed) :
    Brings before (step >>= next) after failed := by
  intro state holds
  have reached := first state holds
  rw [outcome_bind]
  rcases ran : outcome step state with ⟨fault | result, middle⟩ <;> rw [ran] at reached
  · exact reached
  · exact second result middle reached

/-- A handler takes over where the step has failed. -/
theorem tryCatch {handler : Fault → Stateful State α} (body : Brings before step after raised)
    (handled : ∀ fault, Brings raised (handler fault) after failed) :
    Brings before (tryCatch step handler) after failed := by
  intro state holds
  have reached := body state holds
  rw [outcome_tryCatch]
  rcases ran : outcome step state with ⟨fault | result, middle⟩ <;> rw [ran] at reached
  · exact handled fault middle reached
  · exact reached

/-- Behind a step that has succeeded holds what it brings. -/
theorem of_ok {state reached : State} {result : α} (brings : Brings before step after failed)
    (holds : before state) (runs : outcome step state = (.ok result, reached)) : after reached := by
  have led := brings state holds
  rw [runs] at led
  exact led

end Brings

theorem Keeps.liftM (condition : State → Prop) (result : Except Fault α) :
    Keeps condition (liftM result : Stateful State α) := by
  cases result with
  | ok found => exact Brings.pure found
  | error fault => exact Brings.throw fault

/-- What a step keeps holds of the state that it leaves. -/
theorem Keeps.outcome {condition : State → Prop} {step : Stateful State α} {state : State}
    (keeps : Keeps condition step) (holds : condition state) :
    condition (PicAssembly.outcome step state).2 := by
  have reached := keeps state holds
  rcases ran : PicAssembly.outcome step state with ⟨fault | result, after⟩ <;> rw [ran] at reached
  · exact reached
  · exact reached

/-- The states as described, between which every step leads and counts nothing. -/
def Course.keeping (condition : State → Prop) : Course State where
  Valid := condition
  Leads _ _ _ := True
  refl _ := trivial
  trans _ _ := trivial

/-- A step keeps a condition, whether it succeeds or fails, and its result is as described. -/
abbrev Maintains (condition : State → Prop) (step : Stateful State α) (described : α → Prop) :
    Prop :=
  Follows (Course.keeping condition) step (fun _ => 0) described

theorem Keeps.maintains {condition : State → Prop} {step : Stateful State α}
    (keeps : Keeps condition step) : Maintains condition step fun _ => True :=
  fun _ holds => ⟨trivial, keeps.outcome holds, fun _ _ => trivial⟩

end PicAssembly
