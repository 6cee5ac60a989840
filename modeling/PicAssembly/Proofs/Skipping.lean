import PicAssembly.Proofs.Following
import PicAssembly.Proofs.Replay
import PicAssembly.Program.Member

/-!
# Skipped operations

The instruction that decrements a register jumps over one instruction when the register reaches
zero.  An operation may stand behind it that consists of several instructions, or of none; it is
skipped as a whole only where it consists of a single one.
-/

namespace PicAssembly

open CommandTable

namespace CommandTable

/-- How many instructions an operation consists of that neither skips nor opens a scope. -/
def size : Operation → List Value → Nat
  | .clearBit, _ | .decrement, _ | .done, _ | .increment, _ | .jump, _ | .setBit, _ => 1
  | .add, _ | .configIo, _ | .copy, _ | .decrementBy, _ | .incrementBy, _ | .set, _
  | .subtract, _ | .subtractAndSet, _ | .test, _ | .testCarry, _ => 2
  | .initClock, _ => 3
  | .delay, operands => (operands.head?.bind units?).getD 0
  | .setIo, operands => ((mapping? operands).getD .empty).entries.length
  | _, _ => 0

/-- How many instructions a name with operands is dispatched to; a skip adds its own one to those of
its inner operation. -/
def dispatchedSize (name : Value) (operands : List Value) : Nat :=
  match operation? name, operands with
  | some .decrementAndTest, _ :: inner :: rest => dispatchedSize inner rest + 1
  | some operation, operands => size operation operands
  | none, _ => 1

/-- How many of several lines are not blank. -/
def filled (lines : List String) : Nat :=
  lines.countP (· != "")

@[simp]
theorem filled_cons_instruction (mnemonic : String) (operands lines : List String) :
    filled (instruction mnemonic operands :: lines) = filled lines + 1 := by
  simp [filled, instruction]

@[simp]
theorem filled_append (front back : List String) :
    filled (front ++ back) = filled front + filled back := by
  simp [filled]

@[simp]
theorem filled_cons_blank (lines : List String) : filled ("" :: lines) = filled lines := by
  simp [filled]

@[simp]
theorem filled_nil : filled [] = 0 := rfl

theorem filled_replicate (count : Nat) (mnemonic : String) (operands : List String) :
    filled (List.replicate count (instruction mnemonic operands)) = count := by
  induction count with
  | zero => rfl
  | succ count induction => simp [List.replicate_succ, induction]

theorem filled_of_mapM_drive? {entries : Entries} {lines : List String}
    (driven : entries.mapM drive? = some lines) : filled lines = entries.length := by
  induction entries generalizing lines with
  | nil => cases driven; rfl
  | cons entry entries induction =>
      simp only [List.mapM_cons, Option.bind_eq_bind, Option.bind_eq_some_iff] at driven
      obtain ⟨first, drives, rest, others, result⟩ := driven
      cases result
      have single : ∃ mnemonic operands, first = instruction mnemonic operands := by
        simp only [drive?] at drives
        grind
      obtain ⟨mnemonic, operands, rfl⟩ := single
      simp [induction others]

theorem filled_of_row? {operation : Operation} {operands : List Value} {lines : List String}
    (row : row? operation operands = some lines) : filled lines = size operation operands := by
  unfold row? at row
  split at row
  all_goals simp only [Option.bind_eq_bind, Option.bind_eq_some_iff, Option.some.injEq,
    reduceCtorEq] at row
  case h_7 =>
    obtain ⟨count, found, rfl⟩ := row
    simp [size, found, filled_replicate]
  case h_15 =>
    obtain ⟨merged, found, driven, drives, rfl⟩ := row
    simp [size, found, filled_of_mapM_drive? drives]
  case h_11 =>
    subst row
    decide +kernel
  -- The other rows have a fixed number of instructions, if their literal can be written at all.
  all_goals first | subst row | obtain ⟨literal, -, rfl⟩ := row
  all_goals simp [size]

/-- What a name with operands is dispatched to has as many lines that are not blank as instructions.
-/
theorem filled_of_dispatched? {name : Value} {operands : List Value} {lines : List String}
    (dispatched : dispatched? name operands = some lines) :
    filled lines = dispatchedSize name operands := by
  fun_induction dispatched? name operands generalizing lines with
  | case1 name register inner rest isSkip induction =>
      simp only [Option.bind_eq_bind, Option.bind_eq_some_iff, Option.some.injEq] at dispatched
      obtain ⟨skipped, found, rfl⟩ := dispatched
      simp [dispatchedSize, isSkip, induction found]
  | case2 name operation operands notSkip named =>
      rw [filled_of_row? dispatched]
      unfold dispatchedSize
      rw [named]
      split <;> simp_all
  | case3 name operands isCall =>
      unfold dispatchedSize
      rw [isCall]
      unfold call? at dispatched
      split at dispatched
      · split at dispatched
        · cases dispatched
          simp
        · cases dispatched
      · cases dispatched

end CommandTable

/-- Whether a text is that of an instruction. -/
def Line.IsInstruction (text : String) : Prop :=
  ∃ mnemonic operands, text = (Line.instruction mnemonic operands).text

namespace Task

/-- Whether each of several lines is blank or an instruction. -/
def Plain (lines : List Line) : Prop :=
  ∀ line ∈ lines, line.text = "" ∨ Line.IsInstruction line.text

theorem plain_statement (statement : Statement) : Plain statement.lines := by
  intro line member
  rcases statement.blank_or_instruction line member with rfl | ⟨mnemonic, operands, rfl⟩
  · exact .inl rfl
  · exact .inr ⟨mnemonic, operands, rfl⟩

theorem plain_of_lines? {task : Task} {lines : List Line} (records : task.lines? = some lines) :
    Plain lines := by
  induction task generalizing lines with
  | state statement =>
      rw [lines?] at records
      split at records <;> cases records
      exact plain_statement statement
  | skip register inner induction =>
      obtain ⟨skipped, inside, rfl⟩ := Option.map_eq_some_iff.mp records
      intro line member
      simp only [List.cons_append, List.mem_cons, List.mem_append, List.not_mem_nil,
        or_false] at member
      rcases member with rfl | member | rfl
      · exact .inr ⟨_, _, rfl⟩
      · exact induction inside line member
      · exact .inl rfl
  | makeBlock | makeConstants =>
      cases records
      exact List.forall_mem_nil _
  | ask | finish | refuse => cases records

end Task

namespace Build

theorem adds_of_emit {lines : List Line} {program after : Program}
    (succeeds : (emit lines).run program = (.ok (), after)) (isOpen : after.isFinal = false) :
    program.Adds (lines.map Line.text) after := by
  rw [run_emit] at succeeds
  split at succeeds <;> cases succeeds
  exact .record lines isOpen

/-- A line is recorded by an open program only. -/
theorem isOpen_of_emit {line : Line} {lines : List Line} {program after : Program}
    (succeeds : (emit (line :: lines)).run program = (.ok (), after)) :
    program.isFinal = false ∧ after.isFinal = false := by
  cases state : program.isFinal with
  | true =>
      rw [run_emit_final line lines state] at succeeds
      cases succeeds
  | false =>
      rw [run_emit_open _ state] at succeeds
      cases succeeds
      exact ⟨rfl, state⟩

end Build

namespace Task

/-- A task that succeeds on any program and leaves it open has added its lines. -/
theorem adds_of_perform {task : Task} {program after : Program} {made : Option Scope}
    (succeeds : task.perform.run program = (.ok made, after)) (isOpen : after.isFinal = false) :
    ∃ lines, task.lines? = some lines ∧ program.Adds (lines.map Line.text) after := by
  induction task generalizing program after made with
  | state statement =>
      obtain ⟨_, stated, states, done⟩ := Build.exists_of_run_bind succeeds
      cases done
      rw [Build.perform_eq] at states
      obtain ⟨_, reached, emits, ends⟩ := Build.exists_of_run_bind states
      cases fault : statement.fault? with
      | some fault =>
          rw [fault] at ends
          cases ends
      | none =>
          rw [fault] at ends
          cases ends
          exact ⟨statement.lines, by simp [lines?, fault], Build.adds_of_emit emits isOpen⟩
  | ask asked =>
      obtain ⟨_, reached, asks, _⟩ := Build.exists_of_run_bind succeeds
      exact absurd asks (Build.run_askKeys_ne_ok asked program reached)
  | skip register inner induction =>
      obtain ⟨_, first, decrements, rest⟩ := Build.exists_of_run_bind succeeds
      obtain ⟨_, second, performs, last⟩ := Build.exists_of_run_bind rest
      obtain ⟨_, third, blanks, done⟩ := Build.exists_of_run_bind last
      cases done
      have started := Build.isOpen_of_emit decrements
      have reached := Build.isOpen_of_emit blanks
      obtain ⟨lines, known, inside⟩ := induction performs reached.1
      have before := Build.adds_of_emit decrements started.2
      have behind := Build.adds_of_emit blanks reached.2
      refine ⟨.instruction .decfsz [register, "f"] :: lines ++ [.blank], ?_, ?_⟩
      · simp [lines?, known]
      · simpa using (before.trans inside).trans behind
  | finish =>
      obtain ⟨_, reached, ends, done⟩ := Build.exists_of_run_bind succeeds
      cases done
      cases state : program.isFinal with
      | true =>
          rw [Build.run_finish_final state] at ends
          cases ends
      | false =>
          rw [Build.run_finish_open state] at ends
          cases ends
          cases isOpen
  | makeBlock name repeats =>
      cases succeeds
      exact ⟨[], rfl, .refl isOpen⟩
  | makeConstants =>
      obtain ⟨_, reached, makes, done⟩ := Build.exists_of_run_bind succeeds
      cases done
      cases makes
      exact ⟨[], rfl, by simp [Program.code], isOpen⟩
  | refuse fault => cases succeeds

/-- A skip that succeeds has left the program open, since its blank line was recorded. -/
theorem isOpen_of_skip {register : String} {inner : Task} {program after : Program}
    {made : Option Scope}
    (succeeds : (skip register inner).perform.run program = (.ok made, after)) :
    after.isFinal = false := by
  obtain ⟨_, first, _, rest⟩ := Build.exists_of_run_bind succeeds
  obtain ⟨_, second, _, last⟩ := Build.exists_of_run_bind rest
  obtain ⟨_, third, blanks, done⟩ := Build.exists_of_run_bind last
  cases done
  exact (Build.isOpen_of_emit blanks).2

/-- What is skipped by a request that succeeds is an operation or a call, and no scope. -/
theorem exists_of_skipping {register operation : Value} {inner : Task} {program after : Program}
    {made : Option Scope}
    (succeeds : (skipping register operation inner).perform.run program = (.ok made, after)) :
    namesScope operation = false ∧
      skipping register operation inner = skip register.text inner := by
  unfold skipping at succeeds ⊢
  split at succeeds
  · cases succeeds
  · split at succeeds
    · cases succeeds
    · next noScope => simp_all

end Task

namespace Member

/-- A call of the skipping operation that succeeds has bound its arguments and performed the skip of
the operation that the second of them names. -/
theorem exists_of_request_skip {arguments : Arguments} {program after : Program} {reply : Reply}
    (succeeds : (request "decrement_and_test" arguments).run program = (.ok reply, after)) :
    ∃ bound made, Operation.decrementAndTest.signature.bind arguments = .ok bound ∧
      (Task.skipping (bound.slot 0) (bound.slot 1)
        (Task.read (bound.slot 1) bound.rest)).perform.run program = (.ok made, after) := by
  have found : ofName "decrement_and_test" = .ok (.operation .decrementAndTest) := by rfl
  have performing : request "decrement_and_test" arguments = (do
      pure (.ofScope? (← (Task.ofOperation .decrementAndTest arguments).perform))) := by
    rw [request, found]
    rfl
  rw [performing] at succeeds
  obtain ⟨made, reached, performs, done⟩ := Build.exists_of_run_bind succeeds
  cases done
  unfold Task.ofOperation at performs
  cases bound : Operation.decrementAndTest.signature.bind arguments with
  | error fault =>
      rw [bound] at performs
      cases performs
  | ok found =>
      rw [bound] at performs
      exact ⟨found, made, rfl, performs⟩

/-- A call of the skipping operation that succeeds puts just as many instructions behind its first
line as the skipped operation has, and blank lines else; so the operation is skipped as a whole
where it has a single one. -/
theorem instructions_behind_skip {arguments : Arguments} {program after : Program} {reply : Reply}
    (succeeds : (request "decrement_and_test" arguments).run program = (.ok reply, after)) :
    ∃ bound lines, Operation.decrementAndTest.signature.bind arguments = .ok bound ∧
      program.Adds (instruction "decfsz" [(bound.slot 0).text, "f"] :: lines) after ∧
      (∀ line ∈ lines, line = "" ∨ Line.IsInstruction line) ∧
      filled lines = dispatchedSize (bound.slot 1) bound.rest := by
  obtain ⟨bound, made, binds, performs⟩ := exists_of_request_skip succeeds
  obtain ⟨noScope, isSkip⟩ := Task.exists_of_skipping performs
  rw [isSkip] at performs
  obtain ⟨recorded, records, adds⟩ := Task.adds_of_perform performs (Task.isOpen_of_skip performs)
  obtain ⟨skipped, inside, rfl⟩ := Option.map_eq_some_iff.mp records
  have texts : (Task.read (bound.slot 1) bound.rest).texts? = some (skipped.map Line.text) := by
    simp [Task.texts?, inside]
  rw [Task.texts?_read bound.rest _ noScope] at texts
  refine ⟨bound, skipped.map Line.text ++ [""], binds, ?_, ?_, ?_⟩
  · simpa [Line.text, Line.statement, instruction, Line.indented, Mnemonic.text] using adds
  · intro line member
    rcases List.mem_append.mp member with member | blank
    · obtain ⟨source, listed, rfl⟩ := List.mem_map.mp member
      exact Task.plain_of_lines? inside source listed
    · exact .inl (List.mem_singleton.mp blank)
  · simp [filled_of_dispatched? texts]

/-- A jump is a single instruction, so it is skipped as a whole. -/
theorem jump_behind_skip :
    let arguments := Arguments.ofList [.str "count", .str "jump", .str "again"]
    ∃ after, (request "decrement_and_test" arguments).run .initial = (.ok .nothing, after) ∧
      ∃ lines, Program.initial.Adds ("\tdecfsz\tcount, f" :: lines) after ∧ filled lines = 1 := by
  intro arguments
  have succeeds : (request "decrement_and_test" arguments).run .initial =
      (.ok .nothing, ((request "decrement_and_test" arguments).run .initial).2) := by rfl
  obtain ⟨bound, lines, binds, adds, _, counted⟩ := instructions_behind_skip succeeds
  cases binds
  exact ⟨_, succeeds, lines, adds, counted⟩

/-- Not every operation is skipped as a whole: a register is set by two instructions, and only the
first of them is jumped over. -/
theorem exists_skipped_in_part :
    ¬ ∀ (arguments : Arguments) (program after : Program) (reply : Reply),
      (request "decrement_and_test" arguments).run program = (.ok reply, after) →
      ∃ bound lines, Operation.decrementAndTest.signature.bind arguments = .ok bound ∧
        program.Adds (instruction "decfsz" [(bound.slot 0).text, "f"] :: lines) after ∧
        filled lines = 1 := by
  intro single
  let arguments := Arguments.ofList [.str "count", .str "set", .str "led", .int 1]
  have succeeds : (request "decrement_and_test" arguments).run .initial =
      (.ok .nothing, ((request "decrement_and_test" arguments).run .initial).2) := by rfl
  obtain ⟨bound, lines, binds, adds, counted⟩ := single _ _ _ _ succeeds
  cases binds
  have code : ((request "decrement_and_test" arguments).run .initial).2.code =
      Program.initial.code ++ ["\tdecfsz\tcount, f", "\tmovlw\t0x1", "\tmovwf\tled", "", ""].map
        Value.str := by rfl
  have same := List.append_cancel_left (code.symm.trans adds.code)
  have listed := (List.map_inj_right fun _ _ => Value.str.inj).mp same
  obtain ⟨-, rfl⟩ := List.cons.inj listed
  cases counted

end Member

end PicAssembly
