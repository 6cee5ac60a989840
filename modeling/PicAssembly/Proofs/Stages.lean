import PicAssembly.Proofs.Failing
import PicAssembly.Proofs.Moves
import PicAssembly.Session.Drive

/-!
# Stages and sessions

As long as only public members are asked for, a stage does what a session does: from the stage on
which a session stands, every step leads to the stage on which the session stands after it, with the
same fault or the same answer.
-/

namespace PicAssembly

variable {α β γ δ : Type}

/-! ## The stage of a session -/

namespace Stage

/-- What a session keeps, as the items of a stage; the key of a block is the count of what has been
kept before it. -/
def itemsOf : List (String × Reply) → List (String × Item)
  | [] => []
  | (id, reply) :: older => (id, (Item.reply 0 reply).keyed older.length) :: itemsOf older

@[simp]
theorem length_itemsOf (replies : List (String × Reply)) :
    (itemsOf replies).length = replies.length := by
  induction replies with
  | nil => rfl
  | cons kept older induction => simp [itemsOf, induction]

/-- The stage on which a session stands: its program is the only one, and nothing is replaced. -/
def ofSession (session : Session) : Stage :=
  { programs := fun number => if number = 0 then session.program else .initial
    made := 1
    items := itemsOf session.replies
    snapshots := session.snapshots
    recorded := session.recorded
    trace := session.trace
    labelled := []
    constants := []
    replaced := [] }

@[simp]
theorem program_ofSession (session : Session) :
    (ofSession session).programs 0 = session.program := rfl

@[simp]
theorem items_ofSession (session : Session) :
    (ofSession session).items = itemsOf session.replies := rfl

@[simp]
theorem snapshots_ofSession (session : Session) :
    (ofSession session).snapshots = session.snapshots := rfl

theorem setProgram_ofSession (session : Session) (program : Program) :
    (ofSession session).setProgram 0 program = ofSession { session with program } := by
  simp only [setProgram, ofSession, Stage.mk.injEq, and_true]
  funext number
  by_cases first : number = 0 <;> simp [first]

@[simp]
theorem isChanged_ofSession (session : Session) (item : Item) :
    (ofSession session).isChanged item = false := by
  cases item with
  | reply number reply =>
      cases reply with
      | scope scope => cases scope <;> rfl
      | value | operation | subroutine => rfl
  | program | labelled | sealed => rfl

/-! ## Items and replies -/

/-- An item of a stage that is what a reply of a session is. -/
inductive StandsFor : Item → Reply → Prop where
  | reply (reply : Reply) : StandsFor (.reply 0 reply) reply
  | labelled (key : Nat) (name : Value) (repeats : Bool) :
      StandsFor (.labelled ⟨key, 0, name, repeats⟩) (.scope (.block name repeats))

/-- What a stage runs a body with, for a scope that a session has entered. -/
inductive Entered : Item → Scope → Prop where
  | program (name : Value) (repeats : Bool) : Entered (.program 0) (.block name repeats)
  | constants (block : ConstantsBlock) :
      Entered (.reply 0 (.scope (.constants block))) (.constants block)

theorem StandsFor.keyed (key : Nat) (reply : Reply) :
    StandsFor ((Item.reply 0 reply).keyed key) reply := by
  cases reply with
  | scope scope =>
      cases scope with
      | block name repeats => exact .labelled key name repeats
      | constants block => exact .reply _
  | value | operation | subroutine => exact .reply _

/-- What is kept is an item under a name exactly if it is a reply, and the one stands for the
other. -/
theorem lookup_itemsOf (replies : List (String × Reply)) (id : String) :
    (replies.lookup id = none ∧ (itemsOf replies).lookup id = none) ∨
      ∃ reply item, replies.lookup id = some reply ∧ (itemsOf replies).lookup id = some item ∧
        StandsFor item reply := by
  induction replies with
  | nil => exact .inl ⟨rfl, rfl⟩
  | cons kept older induction =>
      rw [itemsOf, List.lookup_cons, List.lookup_cons]
      cases same : id == kept.1 with
      | true => exact .inr ⟨_, _, rfl, rfl, .keyed _ _⟩
      | false => exact induction

end Stage

/-! ## Enacting steps -/

/-- An outcome on a stage that is the same as one in a session, with results as related. -/
inductive SameOutcome (related : α → β → Prop) :
    Except Fault α × Stage → Except Fault β × Session → Prop where
  | ok {shown : α} {result : β} (session : Session) (holds : related shown result) :
      SameOutcome related (.ok shown, .ofSession session) (.ok result, session)
  | error (fault : Fault) (session : Session) :
      SameOutcome related (.error fault, .ofSession session) (.error fault, session)

namespace SameOutcome

theorem stage {related : α → β → Prop} {onStage : Except Fault α × Stage}
    {inSession : Except Fault β × Session} (same : SameOutcome related onStage inSession) :
    onStage.2 = .ofSession inSession.2 := by
  cases same <;> rfl

theorem result {onStage : Except Fault α × Stage} {inSession : Except Fault α × Session}
    (same : SameOutcome Eq onStage inSession) : onStage.1 = inSession.1 := by
  cases same with
  | ok session holds => rw [holds]
  | error fault session => rfl

end SameOutcome

/-- A step on a stage does what a step of a session does, on whatever stage a session stands. -/
def Enacts (related : α → β → Prop) (act : Stage.Run α) (step : Session.Run β) : Prop :=
  ∀ session, SameOutcome related (outcome act (.ofSession session)) (outcome step session)

namespace Enacts

variable {related : α → β → Prop} {later : γ → δ → Prop} {act : Stage.Run α}
  {step : Session.Run β} {nextAct : α → Stage.Run γ} {next : β → Session.Run δ}

theorem pure {shown : α} {result : β} (holds : related shown result) :
    Enacts related (Pure.pure shown) (Pure.pure result) :=
  fun session => .ok session holds

theorem throw (fault : Fault) :
    Enacts related (throw fault : Stage.Run α) (throw fault : Session.Run β) :=
  fun session => .error fault session

theorem bind (front : Enacts related act step)
    (back : ∀ shown result, related shown result → Enacts later (nextAct shown) (next result)) :
    Enacts later (act >>= nextAct) (step >>= next) := by
  intro session
  rw [outcome_bind, outcome_bind]
  have first := front session
  generalize outcome act (.ofSession session) = onStage at first ⊢
  generalize outcome step session = inSession at first ⊢
  cases first with
  | ok after holds => exact back _ _ holds after
  | error fault after => exact .error fault after

theorem tryCatch {handlerAct : Fault → Stage.Run α} {handler : Fault → Session.Run β}
    (body : Enacts related act step)
    (handled : ∀ fault, Enacts related (handlerAct fault) (handler fault)) :
    Enacts related (tryCatch act handlerAct) (tryCatch step handler) := by
  intro session
  rw [outcome_tryCatch, outcome_tryCatch]
  have first := body session
  generalize outcome act (.ofSession session) = onStage at first ⊢
  generalize outcome step session = inSession at first ⊢
  cases first with
  | ok after holds => exact .ok after holds
  | error fault after => exact handled fault after

/-- What is read off a session can be read off the stage on which it stands. -/
theorem get : Enacts (fun stage session => stage = Stage.ofSession session)
    (MonadState.get : Stage.Run Stage) (MonadState.get : Session.Run Session) :=
  fun session => .ok session rfl

/-- A change of what both have is enacted by itself. -/
theorem modify {changeStage : Stage → Stage} {change : Session → Session}
    (same : ∀ session, changeStage (.ofSession session) = .ofSession (change session)) :
    Enacts Eq (modify changeStage : Stage.Run Unit) (modify change : Session.Run Unit) := by
  intro session
  rw [outcome_modify, outcome_modify, same]
  exact .ok _ rfl

/-- Steps with the same outcomes enact the same. -/
theorem congr {otherAct : Stage.Run α} {otherStep : Session.Run β}
    (enacts : Enacts related act step)
    (sameAct : ∀ session, outcome otherAct (.ofSession session) = outcome act (.ofSession session))
    (sameStep : ∀ session, outcome otherStep session = outcome step session) :
    Enacts related otherAct otherStep := by
  intro session
  rw [sameAct, sameStep]
  exact enacts session

end Enacts

namespace Stage

theorem outcome_build (number : Nat) (step : Build α) (stage : Stage) :
    outcome (build number step) stage =
      ((outcome step (stage.programs number)).1,
        stage.setProgram number (outcome step (stage.programs number)).2) := by
  rw [build, outcome_bind, outcome_get]
  rcases reached : outcome step (stage.programs number) with ⟨_ | _, after⟩ <;>
    rw [outcome] at reached <;> simp only [Build.run, reached] <;> rfl

/-- A building step does on the program of a session what it does in the session. -/
theorem enacts_build (step : Build α) : Enacts Eq (build 0 step) (Session.build step) := by
  intro session
  rw [outcome_build, Session.outcome_build, program_ofSession, setProgram_ofSession]
  rcases outcome step session.program with ⟨fault | result, after⟩
  · exact .error fault { session with program := after }
  · exact .ok { session with program := after } rfl

theorem enacts_recording {act : Run Answer} {step : Session.Run Answer}
    (enacts : Enacts Eq act step) : Enacts Eq (recording act) (Session.recording step) := by
  have caught : Enacts Eq
      (tryCatch (do pure (Except.ok (← act))) fun fault => pure (Except.error fault))
      (tryCatch (do pure (Except.ok (← step))) fun fault => pure (Except.error fault)) :=
    (enacts.bind fun _ _ same => .pure (congrArg _ same)).tryCatch fun _ => .pure rfl
  refine caught.bind fun shown result same => ?_
  subst same
  refine (Enacts.modify fun session => rfl).bind fun _ _ _ => ?_
  cases shown with
  | ok answer => exact .pure rfl
  | error fault => exact .throw fault

/-! ## Kept items -/

theorem enacts_item (id : String) : Enacts StandsFor (item id) (Session.reply id) := by
  refine Enacts.get.bind fun stage session stands => ?_
  subst stands
  rcases lookup_itemsOf session.replies id with
    ⟨noReply, noItem⟩ | ⟨reply, item, isReply, isItem, same⟩
  · rw [items_ofSession, noReply, noItem]
    exact .throw _
  · rw [items_ofSession, isReply, isItem]
    exact .pure same

theorem enacts_keep (id : String) (reply : Reply) :
    Enacts Eq (keep id (.reply 0 reply)) (Session.keep id reply) := by
  refine Enacts.modify fun session => ?_
  simp [ofSession, itemsOf]

theorem enacts_kept (id : String) : Enacts Eq (kept id) (Session.kept id) := by
  refine Enacts.get.bind fun stage session stands => ?_
  subst stands
  rw [snapshots_ofSession]
  cases session.snapshots.lookup id with
  | some lines => exact .pure rfl
  | none => exact .throw _

/-! ## Entering and leaving -/

theorem enacts_enterReply (reply : Reply) :
    Enacts Entered (enterReply 0 reply) (Session.build reply.enter) := by
  rw [← bind_pure (Session.build reply.enter)]
  refine (enacts_build reply.enter).bind fun shown scope same => ?_
  subst same
  cases shown with
  | block name repeats => exact .pure (.program name repeats)
  | constants block => exact .pure (.constants block)

/-- On the stage of a session everything is entered as if nothing could be replaced. -/
theorem outcome_enter (item : Item) (session : Session) :
    outcome (enter item) (ofSession session) = outcome (enterPlain item) (ofSession session) := by
  rw [enter, outcome_bind, outcome_get]
  dsimp only
  rw [isChanged_ofSession]
  split
  · next impossible => cases impossible
  · next impossible => cases impossible
  · rfl

theorem outcome_leave (failed : Bool) (item : Item) (session : Session) :
    outcome (leave failed item) (ofSession session) =
      outcome (leavePlain failed item) (ofSession session) := by
  rw [leave, outcome_bind, outcome_get]
  dsimp only
  rw [isChanged_ofSession]
  split
  · next impossible => cases impossible
  · next impossible => cases impossible
  · rfl

theorem enacts_enter {item : Item} {reply : Reply} (stands : StandsFor item reply) :
    Enacts Entered (enter item) (Session.build reply.enter) := by
  cases stands with
  | reply => exact (enacts_enterReply reply).congr (outcome_enter _) fun _ => rfl
  | labelled key name repeats =>
      exact (enacts_enterReply (.scope (.block name repeats))).congr (outcome_enter _) fun _ => rfl

theorem enacts_leave (failed : Bool) {item : Item} {reply : Reply}
    (stands : StandsFor item reply) :
    Enacts Eq (leave failed item) (Session.build (reply.leave failed)) := by
  cases stands with
  | reply => exact (enacts_build _).congr (outcome_leave failed _) fun _ => rfl
  | labelled key name repeats => exact (enacts_build _).congr (outcome_leave failed _) fun _ => rfl

theorem shown_of_entered {item : Item} {scope : Scope} (entered : Entered item scope) :
    shown item = pure (.ofEntered scope) := by
  cases entered <;> rfl

/-- What a session does with a scope that it has entered: it keeps a constants block. -/
def keepScope : Scope → Session.Run Unit
  | .block .. => pure ()
  | .constants block => Session.keep Session.lastConstants (.scope (.constants block))

theorem enter_eq (scope : Scope) :
    Session.enter scope = Session.build (Reply.scope scope).enter >>= keepScope := by
  rw [Reply.enter, Session.build_bind, bind_assoc]
  cases scope <;> rfl

/-- A session that enters a scope keeps it if it is a constants block, and so does a stage. -/
theorem enacts_keepEntered {item : Item} {scope : Scope} (stands : StandsFor item (.scope scope)) :
    Enacts Eq (do keepEntered (← enter item)) (Session.enter scope) := by
  rw [enter_eq]
  refine (enacts_enter stands).bind fun entered result isEntered => ?_
  cases isEntered with
  | program name repeats => exact .pure rfl
  | constants block => exact enacts_keep _ _

section

variable {bodyAct : Run Unit} {body : Session.Run Unit}

theorem enacts_inside {item : Item} {scope : Scope} (stands : StandsFor item (.scope scope))
    (enacts : Enacts Eq bodyAct body) :
    Enacts Eq (inside item bodyAct) (Session.inside scope body) := by
  have regrouped : inside item bodyAct =
      (enter item >>= keepEntered) >>= fun _ =>
        tryCatch bodyAct (fun fault => leave true item >>= fun _ => throw fault) >>= fun _ =>
          leave false item := by
    rw [inside, bind_assoc]
  rw [regrouped, Session.inside]
  refine (enacts_keepEntered stands).bind fun _ _ _ => ?_
  refine Enacts.bind (enacts.tryCatch fun fault => ?_) fun _ _ _ => enacts_leave false stands
  exact (enacts_leave true stands).bind fun _ _ _ => .throw fault

/-- A body in the program of a stage is a body at whose end the program is ended. -/
theorem enacts_inside_driven (enacts : Enacts Eq bodyAct body) :
    Enacts Eq (inside driven bodyAct) (Session.ending body) := by
  have started : Enacts (fun item (_ : Unit) => item = driven) (pure driven) (pure ()) := .pure rfl
  have opened := started.congr (outcome_enter driven) fun _ => rfl
  have nothing : Enacts (@Eq Unit) (pure ()) (pure ()) := .pure rfl
  have passed := nothing.congr (outcome_leave true driven) fun _ => rfl
  have ended : Enacts Eq (leave false driven) (Session.build Build.finishOpen) :=
    (enacts_build Build.finishOpen).congr (outcome_leave false driven) fun _ => rfl
  have rethrown : tryCatch body (fun fault => pure () >>= fun _ => throw fault) = body := by
    funext session
    change outcome (tryCatch body _) session = outcome body session
    rw [outcome_tryCatch]
    rcases outcome body session with ⟨fault | result, after⟩ <;> rfl
  have regrouped : Session.ending body =
      pure () >>= fun _ =>
        tryCatch body (fun fault => pure () >>= fun _ => throw fault) >>= fun _ =>
          Session.build Build.finishOpen := by
    rw [rethrown, pure_bind, Session.ending]
  rw [regrouped, inside]
  refine opened.bind fun item _ isDriven => ?_
  subst isDriven
  have unkept : keepEntered driven = pure () := rfl
  rw [unkept, pure_bind]
  refine Enacts.bind (enacts.tryCatch fun fault => ?_) fun _ _ _ => ended
  exact passed.bind fun _ _ _ => .throw fault

theorem enacts_insideItem {item : Item} {reply : Reply} (stands : StandsFor item reply)
    (enacts : Enacts Eq bodyAct body) :
    Enacts Eq (insideItem item bodyAct) (Session.insideReply reply body) := by
  cases stands with
  | labelled key name repeats => exact enacts_inside (.labelled key name repeats) enacts
  | reply =>
      cases reply with
      | scope scope => exact enacts_inside (.reply _) enacts
      | value | operation | subroutine => exact .throw _

theorem enacts_applyItem {item : Item} {reply : Reply} (stands : StandsFor item reply)
    (enacts : Enacts Eq bodyAct body) :
    Enacts Eq (applyItem item bodyAct) (Session.applyReply reply body) := by
  cases stands with
  | labelled key name repeats =>
      exact (enacts_inside (.labelled key name repeats) enacts).bind fun _ _ _ => .pure rfl
  | reply =>
      cases reply with
      | scope scope => exact (enacts_inside (.reply _) enacts).bind fun _ _ _ => .pure rfl
      | value | operation | subroutine =>
          exact (enacts_build _).bind fun _ _ _ => .pure rfl

end

/-! ## Asking -/

/-- On the stage of a session a public member is asked for as if nothing could be replaced. -/
theorem outcome_ask (item : Item) {name : String} (isPublic : isPrivateName name = false)
    (arguments : Arguments) (session : Session) :
    outcome (ask item name arguments) (ofSession session) =
      outcome (askPlain item name arguments) (ofSession session) := by
  rw [ask, outcome_bind, outcome_get]
  dsimp only
  rw [isPublic, isChanged_ofSession]
  rfl

/-- What a member of the program answers with. -/
theorem enacts_ask {name : String} (isPublic : isPrivateName name = false)
    (arguments : Arguments) :
    Enacts (fun item reply => item = .reply 0 reply) (ask driven name arguments)
      (Session.build (Member.request name arguments)) := by
  refine Enacts.congr ?_ (outcome_ask driven isPublic arguments) fun _ => rfl
  rw [← bind_pure (Session.build _)]
  exact (enacts_build _).bind fun _ _ same => .pure (congrArg (Item.reply 0) same)

/-- An item that is shown as an answer. -/
def ShownAs (item : Item) (answer : Answer) : Prop :=
  shown item = pure answer

theorem enacts_shown {act : Run Item} {step : Session.Run Answer}
    (enacts : Enacts ShownAs act step) : Enacts Eq (do shown (← act)) step := by
  rw [← bind_pure step]
  refine enacts.bind fun item answer isShown => ?_
  rw [show shown item = pure answer from isShown]
  exact .pure rfl

/-- A member of the program is asked for and shown. -/
theorem enacts_shown_ask {name : String} (isPublic : isPrivateName name = false)
    (arguments : Arguments) :
    Enacts Eq (do shown (← ask driven name arguments))
      (Session.build do pure (.ofReply (← Member.request name arguments))) := by
  rw [Session.build_bind]
  refine (enacts_ask isPublic arguments).bind fun item reply same => ?_
  subst same
  exact .pure rfl

/-- A member of a kept item is asked for; what it answers with is not shown. -/
theorem enacts_ask_item {item : Item} {reply : Reply} (stands : StandsFor item reply)
    {name : String} (isPublic : isPrivateName name = false) (positional : List Value) :
    Enacts Eq (do shown (← ask item name (.ofList positional)))
      (do Session.build (reply.request name positional); pure .nothing) := by
  refine enacts_shown (Enacts.congr ?_ (outcome_ask item isPublic _) fun _ => rfl)
  cases stands with
  | reply => exact (enacts_build _).bind fun _ _ _ => .pure rfl
  | labelled key name repeats => exact (enacts_build _).bind fun _ _ _ => .pure rfl

end Stage

/-! ## Methods behind the steps of a session -/

namespace Member

/-- What a member answers with, as it is shown. -/
def answer (name : String) (arguments : Arguments) : Build Answer := do
  pure (.ofReply (← request name arguments))

theorem answer_dispatch (name : Value) (arguments : List Value) :
    answer "dispatch" (.ofList (name :: arguments)) =
      (Task.read name arguments).perform >>= fun scope? => pure (.ofReply (.ofScope? scope?)) := by
  have dispatched : request "dispatch" (.ofList (name :: arguments)) =
      (Task.read name arguments).reply := dispatched_eq_reply name arguments
  rw [answer, dispatched, Task.reply, bind_assoc]
  simp only [pure_bind]

theorem answer_call (name : Value) :
    answer "call" (.ofList [name]) =
      Build.perform (.call name.text) >>= fun _ => pure .nothing := by
  have called : request "call" (.ofList [name]) =
      Build.perform (.call name.text) >>= fun _ => pure .nothing := rfl
  rw [answer, called, bind_assoc]
  simp only [pure_bind]
  rfl

theorem answer_replay (commands : Value) :
    answer "replay" (.ofList [commands]) =
      Build.replay commands >>= fun _ => pure .nothing := by
  have replayed : request "replay" (.ofList [commands]) =
      Build.replay commands >>= fun _ => pure .nothing := rfl
  rw [answer, replayed, bind_assoc]
  simp only [pure_bind]
  rfl

end Member

open Stage

namespace Step

mutual

/-- A step that asks for public members only does on a stage what it does in a session. -/
theorem enacts_run : ∀ {step : Step}, step.isPublic = true →
    Enacts Eq (runOpenly step) (run step)
  | tolerate step, isPublic => by
      rw [runOpenly, run]
      have inner : step.isPublic = true := isPublic
      exact (enacts_run inner).tryCatch fun _ => .pure rfl
  | dispatch name arguments, _ => by
      rw [runOpenly, run]
      refine enacts_recording ?_
      rw [← Member.answer_dispatch]
      exact enacts_shown_ask rfl _
  | member name arguments, isPublic => by
      rw [runOpenly, run]
      have isPublicName : isPrivateName name = false := by simpa [Step.isPublic] using isPublic
      exact enacts_recording (enacts_shown_ask isPublicName arguments)
  | call name, _ => by
      rw [runOpenly, run]
      refine enacts_recording ?_
      rw [← Member.answer_call]
      exact enacts_shown_ask rfl _
  | replay commands, _ => by
      rw [runOpenly, run]
      refine enacts_recording ?_
      rw [← Member.answer_replay]
      exact enacts_shown_ask rfl _
  | within name arguments body, isPublic => by
      rw [runOpenly, run]
      have both : isPrivateName name = false ∧ arePublic body = true := by
        simpa [Step.isPublic] using isPublic
      refine enacts_recording ((enacts_ask both.1 _).bind fun item reply same => ?_)
      subst same
      have inside := enacts_insideItem (.reply reply) (enacts_runAll both.2)
      exact inside.bind fun _ _ _ => .pure rfl
  | whole body, isPublic => by
      rw [runOpenly, run]
      have inside := enacts_inside_driven (enacts_runAll isPublic)
      exact enacts_recording (inside.bind fun _ _ _ => .pure rfl)
  | make id name arguments, isPublic => by
      rw [runOpenly, run]
      have isPublicName : isPrivateName name = false := by simpa [Step.isPublic] using isPublic
      refine enacts_recording ((enacts_ask isPublicName _).bind fun item reply same => ?_)
      subst same
      exact (enacts_keep id reply).bind fun _ _ _ => .pure rfl
  | enter id, _ => by
      rw [runOpenly, run]
      refine enacts_recording ((enacts_item id).bind fun item reply stands => ?_)
      refine (enacts_enter stands).bind fun entered scope isEntered => ?_
      rw [shown_of_entered isEntered]
      exact .pure rfl
  | leave id failed, _ => by
      rw [runOpenly, run]
      refine enacts_recording ((enacts_item id).bind fun item reply stands => ?_)
      exact (enacts_leave failed stands).bind fun _ _ _ => .pure rfl
  | apply id body, isPublic => by
      rw [runOpenly, run]
      refine enacts_recording ((enacts_item id).bind fun item reply stands => ?_)
      have applied := enacts_applyItem stands (enacts_runAll isPublic)
      exact applied.bind fun _ _ same => .pure (by rw [same])
  | declare id name, _ => by
      rw [runOpenly, run]
      refine enacts_recording ((enacts_item id).bind fun item reply stands => ?_)
      exact enacts_ask_item stands rfl _
  | register id name arguments, isPublic => by
      rw [runOpenly, run]
      have isPublicName : isPrivateName name = false := by simpa [Step.isPublic] using isPublic
      refine enacts_recording ((enacts_item id).bind fun item reply stands => ?_)
      exact enacts_ask_item stands isPublicName _
  | text, _ => by
      rw [runOpenly, run]
      exact enacts_recording (enacts_build Session.source)
  | snapshot id, _ => by
      rw [runOpenly, run]
      exact enacts_recording ((Enacts.modify fun _ => rfl).bind fun _ _ _ => .pure rfl)
  | reread id, _ => by
      rw [runOpenly, run]
      exact enacts_recording ((enacts_kept id).bind fun _ _ same => .pure (congrArg _ same))
  | listing request, _ => by
      rw [runOpenly, run]
      exact enacts_recording (enacts_build (Session.ask request))

theorem enacts_runAll : ∀ {steps : List Step}, arePublic steps = true →
    Enacts Eq (runAllOpenly steps) (runAll steps)
  | [], _ => by
      rw [runAllOpenly, runAll]
      exact .pure rfl
  | step :: steps, isPublic => by
      rw [runAllOpenly, runAll]
      have both : step.isPublic = true ∧ arePublic steps = true := by
        simpa [arePublic] using isPublic
      exact (enacts_run both.1).bind fun _ _ _ => enacts_runAll both.2

end

theorem arePublic_tolerate (steps : List Step) :
    arePublic (steps.map .tolerate) = arePublic steps := by
  induction steps with
  | nil => rfl
  | cons step steps induction => rw [List.map_cons, arePublic, arePublic, induction, isPublic]

end Step

/-! ## Whole sessions -/

namespace Stage

theorem initial_eq : initial = .ofSession .initial := by
  have programs : (fun _ => Program.initial) =
      fun number : Nat => if number = 0 then Program.initial else Program.initial := by
    funext number
    rw [ite_self]
  rw [initial, programs]
  rfl

theorem transcript_ofSession (session : Session) :
    (ofSession session).transcript = session.transcript := rfl

/-- Steps that ask for public members only lead to the stage of the session to which they lead. -/
theorem drive_eq {steps : List Step} (arePublic : Step.arePublic steps = true) :
    drive steps = .ofSession (Session.drive steps) := by
  have tolerated : Step.arePublic (steps.map .tolerate) = true := by
    rw [Step.arePublic_tolerate, arePublic]
  have same := (Step.enacts_runAll tolerated Session.initial).stage
  rw [← initial_eq] at same
  exact same

theorem define_eq {steps : List Step} (arePublic : Step.arePublic steps = true) :
    define steps = ((Session.define steps).1, .ofSession (Session.define steps).2) := by
  have same := enacts_inside_driven (Step.enacts_runAll arePublic) Session.initial
  rw [← initial_eq] at same
  exact Prod.ext_iff.mpr ⟨same.result, same.stage⟩

end Stage

namespace Transcript

/-- The transcript of any steps is that of the stage on which they are run. -/
theorem ofSteps_eq (steps : List Step) : ofSteps steps = (Stage.drive steps).transcript := by
  rw [ofSteps]
  split
  · next arePublic => rw [Stage.drive_eq arePublic, Stage.transcript_ofSession]
  · rfl

/-- The transcript of any body is that of the stage on which it is run. -/
theorem ofBody_eq (steps : List Step) :
    ofBody steps = ((Stage.define steps).1, (Stage.define steps).2.transcript) := by
  rw [ofBody]
  split
  · next arePublic => rw [Stage.define_eq arePublic, Stage.transcript_ofSession]
  · rfl

end Transcript

end PicAssembly
