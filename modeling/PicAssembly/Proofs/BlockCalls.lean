import PicAssembly.Proofs.Nesting

/-!
# Constants blocks entered and left by hand

The calls of entering, leaving and declaring may be made of several constants blocks in any order.
Leaving a block frees the nesting guard whoever holds it, so at most one block is open as long as no
block is left while another one is open, and only so long.
-/

namespace PicAssembly

open Program (Inside)

/-- A call that is made by hand: of a program for a new constants block, or of such a block. -/
inductive BlockCall where
  | make
  | enter (owner : ConstantsBlock)
  | leave (owner : ConstantsBlock) (failed : Bool)
  | declare (owner : ConstantsBlock) (name : Value)

/-- At most one constants block of a program is open, and no second one is entered then. -/
structure Program.Exclusive (program : Program) : Prop where
  single : ∀ {first second}, first ∈ program.openBlocks → second ∈ program.openBlocks →
    first = second
  refuses : ∀ {holder owner}, holder ∈ program.openBlocks → owner ≠ holder →
    (Scope.constants owner).enter.run program = (.error .nestedConstants, program)

theorem Program.Inside.exclusive {blocks : List ConstantsBlock} {program : Program}
    (inside : program.Inside blocks) : program.Exclusive where
  single {first second} firstOpen secondOpen := by
    rw [inside.opened] at firstOpen secondOpen
    have held := inside.guarded first firstOpen
    rw [inside.guarded second secondOpen] at held
    exact (Option.some.inj held).symm
  refuses {holder owner} opened _ := by
    rw [inside.opened] at opened
    exact Scope.run_enter_held owner (inside.guarded holder opened)

namespace BlockCall

/-- Makes a call. -/
def run : BlockCall → Build Unit
  | make => do
      let _ ← Build.makeConstants
      pure ()
  | enter owner => (Scope.constants owner).enter
  | leave owner failed => (Reply.scope (.constants owner)).leave failed
  | declare owner name => (Reply.scope (.constants owner)).request "declare" [name]

/-- The program after a call, which may have failed. -/
def after (call : BlockCall) (program : Program) : Program :=
  (outcome call.run program).2

/-- The program after calls in order, each of which is made whatever became of the one before. -/
def afterAll (calls : List BlockCall) (program : Program) : Program :=
  calls.foldl (fun program call => call.after program) program

/-- Whether a call leaves no block while another one is open. -/
def IsProper (program : Program) : BlockCall → Prop
  | leave owner _ => ∀ holder ∈ program.openBlocks, holder = owner
  | make | enter _ | declare _ _ => True

/-- Calls none of which leaves a block while another one is open. -/
def AllProper (program : Program) : List BlockCall → Prop
  | [] => True
  | call :: calls => call.IsProper program ∧ AllProper (call.after program) calls

variable {program : Program} {blocks : List ConstantsBlock}

/-- A block that is left is closed; what else happens is told by the listing. -/
theorem after_leave (owner : ConstantsBlock) (failed : Bool) (program : Program) :
    ∃ lines, (leave owner failed).after program =
      ((Scope.constants owner).closed program).record lines := by
  have unrecorded (program : Program) : program.record [] = program := by
    simp [Program.record, Program.lineValues, Listing.grow]
  cases failed with
  | true =>
      refine ⟨[], ?_⟩
      rw [unrecorded, after, run, Reply.leave, if_pos rfl, Scope.outcome_close]
  | false =>
      rw [after, run, Reply.leave, if_neg Bool.false_ne_true]
      cases state : program.isFinal with
      | false => exact ⟨_, by rw [Scope.outcome_leave_open _ state]⟩
      | true =>
          obtain ⟨fault, leaves⟩ := Scope.exists_outcome_leave_final (.constants owner) state
          exact ⟨[], by rw [leaves, unrecorded]⟩

/-- A call that is proper leaves a program inside of at most one block. -/
theorem exists_inside_after {call : BlockCall} (inside : program.Inside blocks)
    (proper : call.IsProper program) : ∃ reached, (call.after program).Inside reached := by
  cases call with
  | make =>
      have keeps : Keeps (Inside blocks) (run make) :=
        (Inside.stable blocks).makeConstants.bind fun _ => Brings.pure ()
      exact ⟨blocks, keeps.outcome inside⟩
  | enter owner =>
      have entered := (Scope.constants owner).brings_enter program inside
      rw [after, run]
      rcases ran : outcome (Scope.constants owner).enter program with ⟨fault | result, reached⟩ <;>
        rw [ran] at entered
      · exact ⟨blocks, entered⟩
      · exact ⟨_, entered⟩
  | leave owner failed =>
      obtain ⟨lines, leaves⟩ := after_leave owner failed program
      have own : ∀ holder ∈ program.openBlocks, holder = owner := proper
      have closed : ((Scope.constants owner).closed program).Inside [] := by
        refine ⟨?_, by simp, List.forall_mem_nil _, fun _ _ => rfl⟩
        simpa [Scope.closed] using own
      rw [leaves]
      exact ⟨[], closed.record lines⟩
  | declare owner name =>
      have keeps : Keeps (Inside blocks) (run (declare owner name)) :=
        (Inside.stable blocks).request (.scope (.constants owner)) "declare" [name]
      exact ⟨blocks, keeps.outcome inside⟩

theorem exists_inside_afterAll {calls : List BlockCall} (inside : program.Inside blocks)
    (proper : AllProper program calls) : ∃ reached, (afterAll calls program).Inside reached := by
  induction calls generalizing program blocks with
  | nil => exact ⟨blocks, inside⟩
  | cons call calls induction =>
      obtain ⟨head, tail⟩ := proper
      obtain ⟨reached, first⟩ := exists_inside_after inside head
      exact induction first tail

/-- Leaving another block than the open one frees the guard, and any block is entered then. -/
theorem both_open {holder other : ConstantsBlock} (opened : holder ∈ program.openBlocks)
    (isOther : other ≠ holder) (isOpen : program.isFinal = false) (failed : Bool)
    (owner : ConstantsBlock) :
    let reached := afterAll [leave other failed, enter owner] program
    holder ∈ reached.openBlocks ∧ owner ∈ reached.openBlocks := by
  intro reached
  obtain ⟨lines, leaves⟩ := after_leave other failed program
  have stillOpen : ((leave other failed).after program).isFinal = false := by
    rw [leaves, Program.isFinal_record, Scope.isFinal_closed, isOpen]
  have free : ((leave other failed).after program).guard = none := by
    rw [leaves]
    rfl
  have kept : holder ∈ ((leave other failed).after program).openBlocks := by
    rw [leaves]
    exact List.mem_filter.mpr ⟨opened, by simpa using Ne.symm isOther⟩
  have enters := Scope.run_enter_open owner free stillOpen
  have blocks : reached.openBlocks =
      owner :: ((leave other failed).after program).openBlocks.filter (· != owner) :=
    congrArg (fun result => result.2.openBlocks) enters
  rw [blocks]
  refine ⟨?_, List.mem_cons_self⟩
  by_cases same : holder = owner
  · rw [same]
    exact List.mem_cons_self
  · exact List.mem_cons_of_mem _ (List.mem_filter.mpr ⟨kept, by simpa using same⟩)

/-- As long as no block is left while another one is open, at most one block is open and no second
one is entered.  But once this has been done to a program that takes lines, every block is entered
while the first one is open. -/
theorem exclusive_of_allProper (program : Program) (blocks : List ConstantsBlock)
    (inside : program.Inside blocks) (calls : List BlockCall) (proper : AllProper program calls) :
    let reached := afterAll calls program
    reached.Exclusive ∧
      (reached.isFinal = false → ∀ holder ∈ reached.openBlocks, ∀ other ≠ holder, ∀ failed owner,
        let last := afterAll [leave other failed, enter owner] reached
        holder ∈ last.openBlocks ∧ owner ∈ last.openBlocks) := by
  intro reached
  obtain ⟨blocks, stillInside⟩ := exists_inside_afterAll inside proper
  refine ⟨stillInside.exclusive, fun isOpen holder opened other isOther failed owner => ?_⟩
  exact both_open opened isOther isOpen failed owner

/-- A block is entered, left and entered again; then leaving another block lets that one in. -/
theorem exclusive_of_own_exits :
    let calls : List BlockCall :=
      [make, make, enter ⟨0⟩, leave ⟨0⟩ false, leave ⟨1⟩ true, enter ⟨0⟩, declare ⟨0⟩ (.str "led")]
    let reached := afterAll calls .initial
    let last := afterAll [leave ⟨1⟩ true, enter ⟨1⟩] reached
    AllProper .initial calls ∧ reached.Exclusive ∧ reached.openBlocks = [⟨0⟩] ∧
      ⟨0⟩ ∈ last.openBlocks ∧ ⟨1⟩ ∈ last.openBlocks := by
  intro calls reached last
  have proper : AllProper .initial calls := by
    refine ⟨trivial, trivial, trivial, ?_, ?_, trivial, trivial, trivial⟩
    · intro holder opened
      exact List.mem_singleton.mp opened
    · intro holder opened
      cases opened
  have opened : reached.openBlocks = [⟨0⟩] := rfl
  obtain ⟨exclusive, breaks⟩ :=
    exclusive_of_allProper .initial [] Program.inside_initial calls proper
  have both := breaks rfl ⟨0⟩ (by rw [opened]; exact List.mem_cons_self) ⟨1⟩ (by decide) true ⟨1⟩
  exact ⟨proper, exclusive, opened, both⟩

/-- Two blocks are open at the same time after an exit of the one that has not been entered. -/
theorem exists_both_open : ¬ ∀ calls : List BlockCall, (afterAll calls .initial).Exclusive := by
  intro exclusive
  have law := exclusive [make, make, enter ⟨0⟩, leave ⟨1⟩ true, enter ⟨1⟩]
  have same : (⟨1⟩ : ConstantsBlock) = ⟨0⟩ := law.single (by decide +kernel) (by decide +kernel)
  cases same

end BlockCall

end PicAssembly
