import PicAssembly.Proofs.Defining
import PicAssembly.Script.Basic

/-!
# What reaches a program

A script may act on many programs through many names, but what becomes of one of them depends on
what reaches that one alone: the requests that are made to it, under whatever name, and the requests
for keys that come from other programs, in the order of the run.  Each of them appends lines.  A
confined script changes programs and names only, so the files are as it has found them.
-/

namespace PicAssembly

variable {Content α : Type}

/-! ## Requests follow histories -/

namespace Reply

/-- Where all names are allowed, every reply is. -/
theorem allowed_of_names {allowance : Allowance} (names : ∀ name, allowance.name name)
    (reply : Reply) : reply.Allowed allowance := by
  cases reply with
  | scope made =>
      cases made with
      | block name repeats => exact names name
      | constants owner => trivial
  | value | operation | subroutine => trivial

end Reply

namespace Request

/-- Whether a request changes a listing through operations and scopes only, if it changes one. -/
def isBuilding : Request → Bool
  | listing request => request.isReading
  | _ => true

/-- Every request takes a program along a history. -/
theorem exists_history {allowance : Allowance} (names : ∀ name, allowance.name name)
    {request : Request} (asks : ∀ asked, request = listing asked → allowance.request asked)
    (program : Program) :
    ∃ ends, History allowance program ends (request.perform.run program).2 := by
  have of_follows {β : Type} {step : Build β} {count : Program → Nat}
      (follows : Follows (History.course allowance) step count fun _ => True) :
      ∃ ends, History allowance program ends (step.run program).2 :=
    ⟨_, (follows program trivial).leads⟩
  cases request with
  | replay commands =>
      have allowed := Command.allAllowed_of_names names (Command.sequence commands)
      exact of_follows ((Command.follows_performAll allowed).bind_last fun _ _ => .pure trivial)
  | member name isPublic arguments =>
      have follows := Member.follows_request
        (Command.allAllowed_of_names names (Member.requested name arguments))
      exact of_follows (follows.describe fun _ _ => trivial)
  | part owner name isPublic arguments =>
      exact of_follows ((owner.quiet_request name arguments).bind_last fun _ _ => .pure trivial)
  | call callee argument =>
      exact of_follows (Reply.follows_callWith (callee.allowed_of_names names) argument)
  | enter scope =>
      have allowed := scope.allowed_of_names names
      exact of_follows ((Reply.quiet_enter allowed).bind_last fun _ _ => .pure trivial)
  | leave scope failed =>
      exact of_follows ((scope.quiet_leave failed).bind_last fun _ _ => .pure trivial)
  | finish => exact of_follows (Build.follows_finishOpen.bind_last fun _ _ => .pure trivial)
  | listing asked =>
      have allowed := asks asked rfl
      exact of_follows ((Session.quiet_ask allowed).bind_last fun _ _ => .pure trivial)

end Request

/-! ## Demands -/

/-- What reaches a program. -/
inductive Demand where
  /-- A request that is made to it. -/
  | request (request : Request)
  /-- A request for the keys of something that belongs to it, made by another program. -/
  | keys (asked : Thing)

namespace Demand

/-- What a demand leaves of a program, whether it is met or refused. -/
def after (program : Program) : Demand → Program
  | request demand => (demand.perform.run program).2
  | keys asked => ((Build.askKeys asked).run program).2

/-- Whether a demand changes a listing through operations and scopes only, if it changes one. -/
def IsBuilding : Demand → Prop
  | request demand => demand.isBuilding = true
  | keys _ => True

theorem exists_history {demand : Demand} (isBuilding : demand.IsBuilding) (program : Program) :
    ∃ ends, History (.building fun _ => True) program ends (demand.after program) := by
  cases demand with
  | request demand =>
      refine Request.exists_history (fun _ => trivial) ?_ program
      rintro asked rfl
      exact isBuilding
  | keys asked => exact ⟨_, (Build.quiet_askKeys asked program trivial).leads⟩

end Demand

/-- What demands leave of a program, one after another. -/
def Program.afterAll (program : Program) (demands : List Demand) : Program :=
  demands.foldl Demand.after program

theorem Program.afterAll_append (program : Program) (front back : List Demand) :
    program.afterAll (front ++ back) = (program.afterAll front).afterAll back :=
  List.foldl_append

namespace Program

/-- A program that has come from a new one through operations and scopes only. -/
def IsBuilt (program : Program) : Prop :=
  ∃ ends, History (.building fun _ => True) initial ends program

theorem isBuilt_initial : initial.IsBuilt :=
  ⟨0, .start⟩

theorem IsBuilt.afterAll {program : Program} {demands : List Demand} (isBuilt : program.IsBuilt)
    (building : ∀ demand ∈ demands, demand.IsBuilding) : (program.afterAll demands).IsBuilt := by
  induction demands generalizing program with
  | nil => exact isBuilt
  | cons demand demands induction =>
      obtain ⟨first, others⟩ := List.forall_mem_cons.mp building
      obtain ⟨_, history⟩ := isBuilt
      obtain ⟨_, further⟩ := Demand.exists_history first program
      exact induction ⟨_, history.trans further⟩ others

end Program

/-! ## Demands of a run -/

namespace World

variable (world : World Content) (number : Nat)

/-- What reaches the program with a number when a request is made to a target. -/
def demands (target : Nat) (request : Request) : List Demand :=
  let seen := request.handedTo target
  (if target = number then [.request seen] else []) ++
    match foreign? (seen.perform.run (world.programs target)).1 with
    | some asked =>
        if asked.owner = some number then [.keys { asked with owner := none }] else []
    | none => []

/-- What reaches the program with a number when commands are replayed through a name: the commands,
if the name is bound to that program. -/
def replayDemands (name : String) (commands : Value) : List Demand :=
  match world.names.lookup name with
  | some (.program target) => world.demands number target (.replay commands)
  | _ => []

theorem programs_setProgram (target : Nat) (program : Program) :
    (world.setProgram target program).programs number =
      if number = target then program else world.programs number := rfl

theorem programs_askKeys (asked : Thing) :
    (world.askKeys asked).2.programs number = (world.programs number).afterAll
      (if asked.owner = some number then [.keys { asked with owner := none }] else []) := by
  rw [askKeys]
  cases isOwned : asked.owner with
  | none => rfl
  | some owner =>
      change (world.setProgram owner _).programs number = _
      rw [programs_setProgram]
      by_cases same : owner = number
      · subst same
        rw [if_pos rfl, if_pos rfl]
        rfl
      · rw [if_neg (Ne.symm same), if_neg (mt Option.some.inj same)]
        rfl

theorem programs_request (target : Nat) (request : Request) :
    (world.request target request).2.programs number =
      (world.programs number).afterAll (world.demands number target request) := by
  rcases ran : (request.handedTo target).perform.run (world.programs target) with
    ⟨outcome, program⟩
  have reached : (world.setProgram target program).programs number =
      (world.programs number).afterAll
        (if target = number then [.request (request.handedTo target)] else []) := by
    rw [programs_setProgram]
    by_cases same : target = number
    · subst same
      rw [if_pos rfl, if_pos rfl]
      exact (congrArg Prod.snd ran).symm
    · rw [if_neg (Ne.symm same), if_neg same]
      rfl
  rw [World.request, demands, ran, Program.afterAll_append, ← reached]
  dsimp only
  cases foreign? outcome with
  | some asked => exact programs_askKeys _ number asked
  | none => rfl

theorem programs_replay (name : String) (commands : Value) :
    (world.replay name commands).2.programs number =
      (world.programs number).afterAll (world.replayDemands number name commands) := by
  rw [replay, replayDemands]
  rcases world.names.lookup name with _ | ⟨target⟩ | target
  · rfl
  · exact world.programs_request number target _
  · dsimp only
    split <;> rfl

end World

namespace Script

/-- What reaches the program with a number in a run, in order. -/
def demands (number : Nat) : Script Content α → World Content → List Demand
  | finish _, _ | raise _, _ => []
  | look next, world => (next world).demands number world
  | print text next, world => next.demands number { world with printed := world.printed ++ text }
  | change effect next, world => next.demands number { world with toSite := effect world.toSite }
  | create next, world => (next world.made).demands number { world with made := world.made + 1 }
  | bind name binding next, world =>
      next.demands number { world with names := world.names.bind name binding }
  | unbind name next, world =>
      next.demands number { world with names := world.names.unbind name }
  | replay name commands next, world =>
      world.replayDemands number name commands ++
        (next (world.replay name commands).1).demands number (world.replay name commands).2
  | request target demand next, world =>
      world.demands number target demand ++
        (next (world.request target demand).1).demands number (world.request target demand).2

/-- A program is left as a new one would be by what reaches it. -/
theorem programs_run (number : Nat) (script : Script Content α) (world : World Content) :
    (script.run world).2.programs number =
      (world.programs number).afterAll (script.demands number world) := by
  induction script generalizing world with
  | finish | raise => rfl
  | look next induction => exact induction world world
  | print text next induction => exact induction _
  | change effect next induction => exact induction _
  | create next induction => exact induction _ _
  | bind name binding next induction => exact induction _
  | unbind name next induction => exact induction _
  | replay name commands next induction =>
      rw [run, demands, Program.afterAll_append, ← world.programs_replay]
      exact induction _ _
  | request target demand next induction =>
      rw [run, demands, Program.afterAll_append, ← world.programs_request]
      exact induction _ _

end Script

/-! ## Confined scripts -/

namespace World

/-- Two worlds with the same files, the same directory and the same output. -/
structure SameOutside (before after : World Content) : Prop where
  site : after.toSite = before.toSite
  printed : after.printed = before.printed

variable (world : World Content)

theorem sameOutside_request (target : Nat) (request : Request) :
    world.SameOutside (world.request target request).2 := by
  rw [World.request]
  dsimp only
  split
  · next asked _ =>
      rw [askKeys]
      split <;> exact ⟨rfl, rfl⟩
  · exact ⟨rfl, rfl⟩

theorem sameOutside_replay (name : String) (commands : Value) :
    world.SameOutside (world.replay name commands).2 := by
  rw [replay]
  split
  · exact world.sameOutside_request _ _
  · split <;> exact ⟨rfl, rfl⟩
  · exact ⟨rfl, rfl⟩

theorem isBuilding_demands {request : Request} (building : request.isBuilding = true)
    (number target : Nat) : ∀ demand ∈ world.demands number target request, demand.IsBuilding := by
  have seen : (request.handedTo target).isBuilding = true := by
    cases request <;> exact building
  intro demand member
  cases demand with
  | keys asked => trivial
  | request made =>
      rw [demands] at member
      rcases List.mem_append.mp member with own | foreign
      · split at own
        · cases List.mem_singleton.mp own
          exact seen
        · cases own
      · split at foreign
        · split at foreign
          · cases List.mem_singleton.mp foreign
          · cases foreign
        · cases foreign

theorem isBuilding_replayDemands (number : Nat) (name : String) (commands : Value) :
    ∀ demand ∈ world.replayDemands number name commands, demand.IsBuilding := by
  rw [replayDemands]
  split
  · exact world.isBuilding_demands rfl number _
  · exact fun _ member => absurd member List.not_mem_nil

end World

namespace Script

/-- Whether a script prints nothing and leaves the files and the directory alone in its run, and
changes listings through operations and scopes only. -/
def isConfined : Script Content α → World Content → Bool
  | finish _, _ | raise _, _ => true
  | print .., _ | change .., _ => false
  | look next, world => (next world).isConfined world
  | create next, world => (next world.made).isConfined { world with made := world.made + 1 }
  | bind name binding next, world =>
      next.isConfined { world with names := world.names.bind name binding }
  | unbind name next, world => next.isConfined { world with names := world.names.unbind name }
  | replay name commands next, world =>
      (next (world.replay name commands).1).isConfined (world.replay name commands).2
  | request target demand next, world =>
      demand.isBuilding &&
        (next (world.request target demand).1).isConfined (world.request target demand).2

variable {script : Script Content α} {world : World Content}

theorem sameOutside_run (confined : script.isConfined world = true) :
    world.SameOutside (script.run world).2 := by
  induction script generalizing world with
  | finish | raise => exact ⟨rfl, rfl⟩
  | print | change => cases confined
  | look next induction => exact induction world confined
  | create next induction =>
      obtain ⟨site, printed⟩ := induction _ confined
      exact ⟨site, printed⟩
  | bind name binding next induction | unbind name next induction =>
      obtain ⟨site, printed⟩ := induction confined
      exact ⟨site, printed⟩
  | replay name commands next induction =>
      obtain ⟨site, printed⟩ := induction _ confined
      have replayed := world.sameOutside_replay name commands
      exact ⟨site.trans replayed.site, printed.trans replayed.printed⟩
  | request target demand next induction =>
      obtain ⟨site, printed⟩ := induction _ (Bool.and_eq_true_iff.mp confined).2
      have requested := world.sameOutside_request target demand
      exact ⟨site.trans requested.site, printed.trans requested.printed⟩

theorem isBuilding_demands (confined : script.isConfined world = true) (number : Nat) :
    ∀ demand ∈ script.demands number world, demand.IsBuilding := by
  induction script generalizing world with
  | finish | raise => exact fun _ member => absurd member List.not_mem_nil
  | print | change => cases confined
  | look next induction => exact induction world confined
  | create next induction => exact induction _ confined
  | bind name binding next induction | unbind name next induction => exact induction confined
  | replay name commands next induction =>
      intro demand member
      rcases List.mem_append.mp member with first | later
      · exact world.isBuilding_replayDemands number name commands demand first
      · exact induction _ confined demand later
  | request target made next induction =>
      obtain ⟨building, others⟩ := Bool.and_eq_true_iff.mp confined
      intro demand member
      rcases List.mem_append.mp member with first | later
      · exact world.isBuilding_demands building number target demand first
      · exact induction _ others demand later

end Script

end PicAssembly
