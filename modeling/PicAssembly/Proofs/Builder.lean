import PicAssembly.Proofs.Calls
import PicAssembly.Proofs.CommandReading
import PicAssembly.Proofs.Mirroring

/-!
# Building and replaying

A tree of commands can be replayed, or carried out by calls of a program and of its scopes.  Both do
the same to every program: the same lines and the same state, and where one of them fails the other
one fails with the same fault at the same place.
-/

namespace PicAssembly

open CommandTable

namespace Task

/-- Positional arguments are read alike by an operation and by its name. -/
theorem ofOperation_ofList (operation : Operation) (operands : List Value) :
    ofOperation operation (.ofList operands) = read (.str operation.name) operands := by
  rw [read_of_ofName? operation.ofName?_name, ofOperation]
  cases admits : operation.signature.admits operands.length with
  | false =>
      obtain ⟨fault, refused⟩ := Signature.bind_of_not_admits admits
      rw [refused]
      rfl
  | true =>
      rw [Signature.bind_of_admits admits]
      cases operation with
      | decrementAndTest =>
          match operands with
          | [] | [_] => cases admits
          | register :: inner :: rest => rfl
      | _ => rfl

end Task

namespace Member

theorem request_of_ofName {name : String} {member : Member} (found : ofName name = .ok member)
    (arguments : Arguments) : request name arguments = member.apply arguments := by
  rw [request, found]
  rfl

theorem request_of_ofName? {name : String} {found : Operation} (operands : List Value)
    (named : Operation.ofName? name = some found) :
    request name (.ofList operands) = (Task.read (.str name) operands).reply := by
  have member : ofName name = .ok (operation found) := by rw [ofName, named]
  rw [request_of_ofName member, Operation.eq_name_of_ofName? named, ← Task.ofOperation_ofList]
  rfl

theorem request_of_isCall {name : String} (operands : List Value) (isCall : IsCall name) :
    request name (.ofList operands) = (Task.read (.str name) operands).reply := by
  have member : ofName name = .ok (subroutine name) := by
    rw [ofName, isCall.noOperation, isCall.noMember, isCall.isPublic]
    rfl
  have read : Task.read (.str name) operands = Task.ofCall (.str name) (.ofList operands) :=
    Task.read_of_call rfl isCall.noOperation
  rw [request_of_ofName member, read]
  rfl

end Member

namespace Scope

/-- Whether an operation makes scopes of this kind. -/
def Fits (operation : Operation) : Scope → Prop
  | block .. => operation ≠ .constants
  | constants _ => operation = .constants

/-- What replaying does with a body inside a scope. -/
def replayed (body : Value) : Scope → Build Unit
  | block .. => Command.performAll (Command.sequence body)
  | constants owner => Command.declareAll owner (Command.constantNames body)

end Scope

namespace Task

/-- What a task that makes a scope does to make it, for an operation that opens scopes. -/
inductive Makes (operation : Operation) : Task → Build Scope → Prop
  | block (name : Value) (repeats : Bool) (isOther : operation ≠ .constants) :
      Makes operation (makeBlock name repeats) (pure (.block name repeats))
  | constants (isConstants : operation = .constants) :
      Makes operation makeConstants (do pure (.constants (← Build.makeConstants)))
  | refuse (fault : Fault) : Makes operation (refuse fault) (throw fault)

variable {operation : Operation} {task : Task} {creating : Build Scope}

theorem Makes.reply (makes : Makes operation task creating) :
    task.reply = (creating >>= fun scope => pure (.scope scope)) := by
  cases makes with
  | block | refuse => rfl
  | constants isConstants => rfl

theorem Makes.fits (makes : Makes operation task creating) (program : Program) (scope : Scope)
    (after : Program) (created : outcome creating program = (.ok scope, after)) :
    scope.Fits operation := by
  cases makes with
  | block name repeats isOther =>
      cases created
      exact isOther
  | constants isConstants =>
      cases created
      exact isConstants
  | refuse fault => cases created

theorem exists_makes_of_isScoped (isScoped : operation.isScoped = true) (arguments : List Value) :
    ∃ creating, Makes operation (read (.str operation.name) arguments) creating := by
  rw [read_of_ofName? operation.ofName?_name]
  cases admits : operation.signature.admits arguments.length with
  | false =>
      obtain ⟨fault, refused⟩ := Signature.bind_of_not_admits admits
      rw [refused]
      exact ⟨_, .refuse fault⟩
  | true =>
      rw [Signature.bind_of_admits admits]
      cases operation with
      | block | subr | loop => exact ⟨_, .block _ _ nofun⟩
      | constants => exact ⟨_, .constants rfl⟩
      | _ => cases isScoped

end Task

namespace Command

variable {operation : Operation} {creating : Build Scope}

/-- A scope command makes its scope and does inside it what its body says. -/
theorem perform_ofNamed_scope (isScoped : operation.isScoped = true) {arguments : List Value}
    (body : Value)
    (makes : Task.Makes operation (Task.read (.str operation.name) arguments) creating) :
    (ofNamed operation.name (arguments ++ [body])).perform =
      (creating >>= fun scope => scope.within (scope.replayed body)) := by
  have inner : bodyOf (arguments ++ [body]) = sequence body := by simp [bodyOf]
  rw [ofNamed_scope isScoped, inner, ofScope]
  simp only [List.getLast?_append, List.getLast?_singleton, Option.some_or, List.dropLast_concat]
  generalize Task.read (.str operation.name) arguments = task at makes
  cases makes with
  | block name repeats isOther =>
      dsimp only
      rw [perform, pure_bind]
      rfl
  | constants isConstants =>
      dsimp only
      rw [perform, bind_assoc]
      simp only [pure_bind]
      rfl
  | refuse fault =>
      dsimp only
      rw [perform]
      rfl

end Command

namespace Step

open Session (Mirrors Any Done)

variable {name : String} {operands arguments : List Value}

theorem mirrors_single {before : Session.Replies → Prop} {step : Step} {inner : Build Unit}
    (mirrors : Mirrors before (run step) inner Done) :
    Mirrors before (runAll [step]) inner Done := by
  rw [runAll, runAll]
  exact mirrors.bind_left fun _ _ => .pure fun _ _ => trivial

/-- A call of a member that is no scope does what replaying its command does. -/
theorem mirrors_member
    (request : Member.request name (.ofList operands) = (Task.read (.str name) operands).reply) :
    Mirrors Any (run (member name (.ofList operands)))
      (Command.run (Task.read (.str name) operands)).perform Done := by
  rw [run, request, Command.perform, Task.reply]
  simp only [bind_assoc, pure_bind]
  exact Mirrors.recording Mirrors.build_map

theorem mirrors_apply {id : String} {scope : Scope} {steps : List Step} {inner : Build Unit}
    (mirrors : Mirrors scope.KeptIn (runAll steps) inner Done) :
    Mirrors (fun replies => replies.lookup id = some (.scope scope)) (run (apply id steps))
      (scope.within inner) Done := by
  rw [run]
  refine Mirrors.recording ((Mirrors.reply () fun _ found => found).bind_quiet fun reply => ?_)
  refine Mirrors.assume ?_
  rintro rfl
  have applied : Mirrors (fun replies => replies.lookup id = some (.scope scope))
      (Session.applyReply (.scope scope) (runAll steps)) (scope.within inner) Done :=
    mirrors.inside.bind_left fun _ _ => .pure fun _ _ => trivial
  exact applied.bind_left fun _ _ => .pure fun _ _ => trivial

section

variable {operation : Operation} {creating : Build Scope} {steps : List Step} {body : Value}
  (request : Member.request operation.name (.ofList arguments) =
    (Task.read (.str operation.name) arguments).reply)
  (makes : Task.Makes operation (Task.read (.str operation.name) arguments) creating)

include request makes

theorem mirrors_inside
    (mirrors : ∀ scope : Scope, scope.Fits operation →
      Mirrors scope.KeptIn (runAll steps) (scope.replayed body) Done) :
    Mirrors Any (run (within operation.name arguments steps))
      (creating >>= fun scope => scope.within (scope.replayed body)) Done := by
  rw [run, request, makes.reply]
  refine Mirrors.recording (Mirrors.bind (Mirrors.build_made makes.fits) fun reply scope => ?_)
  refine Mirrors.assume ?_
  rintro ⟨rfl, fits⟩
  exact ((mirrors scope fits).inside).bind_left fun _ _ => .pure fun _ _ => trivial

theorem mirrors_make (id : String) :
    Mirrors Any (run (make id operation.name arguments)) creating fun _ scope replies =>
      scope.Fits operation ∧ replies.lookup id = some (.scope scope) := by
  rw [run, request, makes.reply]
  refine Mirrors.recording (Mirrors.bind_left (Mirrors.build_made makes.fits) fun reply scope => ?_)
  refine Mirrors.assume ?_
  rintro ⟨rfl, fits⟩
  refine (Mirrors.keep id _ scope).bind_left fun _ right => Mirrors.assume ?_
  rintro rfl
  exact .pure fun _ found => ⟨fits, found⟩

theorem mirrors_called (id : String)
    (mirrors : ∀ scope : Scope, scope.Fits operation →
      Mirrors scope.KeptIn (runAll steps) (scope.replayed body) Done) :
    Mirrors Any (runAll [make id operation.name arguments, apply id steps])
      (creating >>= fun scope => scope.within (scope.replayed body)) Done := by
  rw [runAll]
  refine (mirrors_make request makes id).bind fun _ scope => Mirrors.assume fun fits => ?_
  exact mirrors_single (mirrors_apply (mirrors scope fits))

/-- Either way of carrying out a scope does what replaying its command does. -/
theorem mirrors_encloses {enclosing : List Step}
    (encloses : Encloses operation.name arguments steps enclosing)
    (isScoped : operation.isScoped = true)
    (mirrors : ∀ scope : Scope, scope.Fits operation →
      Mirrors scope.KeptIn (runAll steps) (scope.replayed body) Done) :
    Mirrors Any (runAll enclosing)
      (Command.ofNamed operation.name (arguments ++ [body])).perform Done := by
  rw [Command.perform_ofNamed_scope isScoped body makes]
  -- A call that is refused makes no scope, so both ways stop there and the body is not reached.
  cases encloses with
  | inside => exact mirrors_single (mirrors_inside request makes mirrors)
  | called id => exact mirrors_called request makes id mirrors

end

/-- A declaration by a call under its name declares the register of that name. -/
theorem request_declaration (owner : ConstantsBlock) {name : String}
    (valid : Scope.IsDeclaration name) :
    (Reply.scope (.constants owner)).request name [] = Build.declare owner name := by
  rw [Reply.request, Scope.request, if_neg valid.noMember, valid.isPublic]
  rfl

theorem mirrors_declaration (owner : ConstantsBlock) {name : String}
    (valid : Scope.IsDeclaration name) :
    Mirrors (Scope.constants owner).KeptIn (run (register Session.lastConstants name []))
      (Build.declare owner name) fun _ _ replies => (Scope.constants owner).KeptIn replies := by
  rw [run]
  refine Mirrors.recording ?_
  refine (Mirrors.reply () fun _ found => found).bind_quiet fun reply => Mirrors.assume ?_
  rintro rfl
  rw [request_declaration owner valid]
  exact Mirrors.build.bind_left fun _ _ => .pure fun _ known => known.2

theorem mirrors_declarations (owner : ConstantsBlock) {names : List String}
    (valid : ∀ name ∈ names, Scope.IsDeclaration name) :
    Mirrors (Scope.constants owner).KeptIn (runAll (declarations names))
      (Command.declareAll owner (names.map .ok)) Done := by
  induction names with
  | nil => exact .pure fun _ _ => trivial
  | cons name names induction =>
      have others := induction fun other member => valid other (List.mem_cons_of_mem _ member)
      rw [declarations, List.map_cons, runAll, List.map_cons, Command.declareAll]
      exact (mirrors_declaration owner (valid name List.mem_cons_self)).bind fun _ _ => others

theorem exists_of_isLabelled {name : String}
    (isLabelled : name = "subr" ∨ name = "block" ∨ name = "loop") :
    ∃ operation : Operation, name = operation.name ∧ operation.isScoped = true ∧
      operation ≠ .constants := by
  rcases isLabelled with rfl | rfl | rfl
  · exact ⟨.subr, rfl, rfl, nofun⟩
  · exact ⟨.block, rfl, rfl, nofun⟩
  · exact ⟨.loop, rfl, rfl, nofun⟩

theorem mirrors_operation {command : Value} {found : Operation}
    (parts : parts? command = some (name, operands)) (named : Operation.ofName? name = some found)
    (noScope : found.isScoped = false) :
    Mirrors Any (runAll [member name (.ofList operands)]) (Command.ofValue command).perform
      Done := by
  have isPlain : Task.namesScope (.str name) = false := by
    rw [Task.namesScope, named]
    exact noScope
  rw [Command.ofValue_of_parts? parts, Command.ofNamed_of_not_scope isPlain]
  exact mirrors_single (mirrors_member (Member.request_of_ofName? operands named))

theorem mirrors_call {command : Value} (parts : parts? command = some (name, operands))
    (isCall : Member.IsCall name) :
    Mirrors Any (runAll [member name (.ofList operands)]) (Command.ofValue command).perform
      Done := by
  have isPlain : Task.namesScope (.str name) = false := by
    rw [Task.namesScope, isCall.noOperation]
    rfl
  rw [Command.ofValue_of_parts? parts, Command.ofNamed_of_not_scope isPlain]
  exact mirrors_single (mirrors_member (Member.request_of_isCall operands isCall))

/-- A scope does what replaying its command does when its steps do what replaying its body does. -/
theorem mirrors_scope {command body : Value} {operation : Operation} {steps enclosing : List Step}
    (isScoped : operation.isScoped = true)
    (parts : parts? command = some (operation.name, arguments ++ [body]))
    (encloses : Encloses operation.name arguments steps enclosing)
    (mirrors : ∀ scope : Scope, scope.Fits operation →
      Mirrors scope.KeptIn (runAll steps) (scope.replayed body) Done) :
    Mirrors Any (runAll enclosing) (Command.ofValue command).perform Done := by
  obtain ⟨creating, makes⟩ := Task.exists_makes_of_isScoped isScoped arguments
  rw [Command.ofValue_of_parts? parts]
  have request := Member.request_of_ofName? arguments operation.ofName?_name
  exact mirrors_encloses request makes encloses isScoped mirrors

mutual

/-- Carrying out a command does what replaying it does. -/
theorem mirrors_of_builds : ∀ {command : Value} {steps : List Step}, Builds command steps →
    Mirrors Any (runAll steps) (Command.ofValue command).perform Done
  | _, _, .operation parts named noScope => mirrors_operation parts named noScope
  | _, _, .call parts isCall => mirrors_call parts isCall
  | _, _, .block parts isLabelled items builds encloses => by
      obtain ⟨operation, rfl, isScoped, isOther⟩ := exists_of_isLabelled isLabelled
      refine mirrors_scope isScoped parts encloses fun scope fits => ?_
      cases scope with
      | constants owner => exact absurd fits isOther
      | block name repeats =>
          rw [Scope.replayed, Command.sequence_of_elements? items]
          exact (mirrors_of_buildsAll builds).strengthen fun _ _ => trivial
  | _, _, .constants parts items declared valid encloses => by
      have isScoped : Operation.constants.isScoped = true := rfl
      refine mirrors_scope isScoped parts encloses fun scope fits => ?_
      cases scope with
      | block name repeats => exact absurd rfl fits
      | constants owner =>
          rw [Scope.replayed, Command.constantNames_of_elements? items,
            Command.map_constantName_eq.mpr declared]
          exact mirrors_declarations owner valid

theorem mirrors_of_buildsAll : ∀ {commands : List Value} {steps : List Step},
    BuildsAll commands steps →
    Mirrors Any (runAll steps) (Command.performAll (commands.map Command.ofValue)) Done
  | _, _, .nil => .pure fun _ _ => trivial
  | _, _, .cons first others => by
      rw [runAll_append, List.map_cons, Command.performAll]
      exact (mirrors_of_builds first).bind fun _ _ => mirrors_of_buildsAll others

end

/-- A sequence of commands without hidden members can be carried out by calls of a program and its
scopes, and each way of doing so does the same as replaying it: from every session both come to the
same program, and they succeed together or fail with the same fault. -/
theorem builds_eq_replay {commands : Value} (callable : CallableSequence commands) :
    (∃ steps, BuildsSequence commands steps) ∧
      ∀ steps, BuildsSequence commands steps → ∀ session : Session,
        (outcome (runAll steps) session).1 = ((Build.replay commands).run session.program).1 ∧
          (outcome (runAll steps) session).2.program =
            ((Build.replay commands).run session.program).2 := by
  constructor
  · obtain ⟨items, elements, callable⟩ := callable
    obtain ⟨steps, builds⟩ := exists_buildsAll fun item member =>
      exists_builds (callable item member)
    exact ⟨steps, items, elements, builds⟩
  · rintro steps ⟨items, elements, builds⟩ session
    have agrees := mirrors_of_buildsAll builds session trivial
    rw [Build.replay, Command.sequence_of_elements? elements]
    change _ = (outcome _ session.program).1 ∧ _ = (outcome _ session.program).2
    generalize outcome (runAll steps) session = reached at agrees ⊢
    generalize outcome (Command.performAll _) session.program = alone at agrees ⊢
    cases agrees with
    | ok | error => exact ⟨rfl, rfl⟩

/-- A loop around a call and a failing return, and a constants block, carried out by calls. -/
theorem builds_loop_and_constants :
    let commands : Value := .list [
      .list [.str "loop", .str "main", .list [.str "blink", .list [.str "done", .str "off"]]],
      .list [.str "constants", .list [.str "led"]]]
    let steps := [
      make "scope" "loop" [.str "main"],
      apply "scope" [member "blink" (.ofList []), member "done" (.ofList [.str "off"])],
      within "constants" [] [register Session.lastConstants "led" []]]
    CallableSequence commands ∧ BuildsSequence commands steps ∧
      ∀ session : Session,
        (outcome (runAll steps) session).1 = ((Build.replay commands).run session.program).1 := by
  intro commands steps
  have call : parts? (.str "blink") = some ("blink", []) := rfl
  have isCall : Member.IsCall "blink" := ⟨by decide +kernel, by decide +kernel, by decide +kernel⟩
  have done : parts? (.list [.str "done", .str "off"]) = some ("done", [.str "off"]) := rfl
  have named : Operation.ofName? "done" = some .done := by decide +kernel
  have loop : parts? (.list [.str "loop", .str "main", .list [.str "blink",
      .list [.str "done", .str "off"]]]) =
      some ("loop", [.str "main"] ++ [.list [.str "blink", .list [.str "done", .str "off"]]]) := rfl
  have isLabelled : "loop" = "subr" ∨ "loop" = "block" ∨ "loop" = "loop" := .inr (.inr rfl)
  have constants : parts? (.list [.str "constants", .list [.str "led"]]) =
      some ("constants", [] ++ [.list [.str "led"]]) := rfl
  have declared : [Value.str "led"].map parts? = ["led"].map fun name => some (name, []) := rfl
  have valid : ∀ name ∈ ["led"], Scope.IsDeclaration name := by
    intro name member
    rw [List.mem_singleton.mp member]
    exact ⟨by decide +kernel, by decide⟩
  have callable : CallableSequence commands := by
    refine ⟨_, rfl, List.forall_mem_cons.mpr ⟨?_, List.forall_mem_singleton.mpr ?_⟩⟩
    · refine .block loop isLabelled rfl ?_
      refine List.forall_mem_cons.mpr ⟨?_, List.forall_mem_singleton.mpr ?_⟩
      · exact .call call isCall
      · exact .operation done named rfl
    · exact .constants constants rfl declared valid
  have builds : BuildsSequence commands steps := by
    have inner := BuildsAll.cons (.call call isCall) (.cons (.operation done named rfl) .nil)
    have first := Builds.block loop isLabelled rfl inner (.called "scope")
    have second := Builds.constants constants rfl declared valid .inside
    exact ⟨_, rfl, .cons first (.cons second .nil)⟩
  exact ⟨callable, builds, fun session => ((builds_eq_replay callable).2 steps builds session).1⟩

end Step

end PicAssembly
