import PicAssembly.Proofs.Builder
import PicAssembly.Proofs.Growth
import PicAssembly.Proofs.Nesting
import PicAssembly.Proofs.Skipping

/-!
# The end as the last command

Every command records something last, so it succeeds on an open program only, and but for the end
itself it leaves the program open.  So a replay that succeeds ends the program exactly by its last
command, and a replay with an end anywhere else fails.
-/

namespace PicAssembly

namespace CommandTable

/-- A command of a labelled block, with the commands of its body. -/
inductive HasBody (command : Value) (commands : List Value) : Prop
  | labelled {body : Value} {name : String} {operands : List Value}
      (parts : parts? command = some (name, operands))
      (isLabelled : name = "subr" ∨ name = "block" ∨ name = "loop")
      (last : operands.getLast? = some body) (items : body.elements? = some commands) :
      HasBody command commands

/-- The operands of a skip over the end of the program, at the end of a row of skips. -/
inductive SkipsEnd : List Value → Prop
  | finish (register : Value) (operands : List Value) :
      SkipsEnd (register :: .str "end_code" :: operands)
  | skip (register : Value) {operands : List Value} (inner : SkipsEnd operands) :
      SkipsEnd (register :: .str "decrement_and_test" :: operands)

/-- A command that holds an end of the program inside: as what it skips over, or in the body of a
labelled block at any depth.  What stands in the body of a constants block are names. -/
inductive EndsInside : Value → Prop
  | skip {command : Value} {operands : List Value}
      (parts : parts? command = some ("decrement_and_test", operands))
      (skips : SkipsEnd operands) : EndsInside command
  | body {command inner : Value} {commands operands : List Value}
      (hasBody : HasBody command commands) (member : inner ∈ commands)
      (parts : parts? inner = some ("end_code", operands)) : EndsInside command
  | deeper {command inner : Value} {commands : List Value} (hasBody : HasBody command commands)
      (member : inner ∈ commands) (ends : EndsInside inner) : EndsInside command

/-- Commands with an end of the program anywhere but as the last of them and without operands. -/
inductive Misplaces : List Value → Prop
  | inside (front : List Value) {command : Value} (ends : EndsInside command) (back : List Value) :
      Misplaces (front ++ command :: back)
  | followed (front : List Value) {command : Value} {operands : List Value}
      (parts : parts? command = some ("end_code", operands)) {back : List Value}
      (more : back ≠ []) : Misplaces (front ++ command :: back)
  | operands (front : List Value) {command : Value} {operands : List Value}
      (parts : parts? command = some ("end_code", operands)) (some : operands ≠ [])
      (back : List Value) : Misplaces (front ++ command :: back)

end CommandTable

open CommandTable

variable {α β : Type}

namespace Build

/-- A step that succeeds on open programs only, and leaves them open. -/
def StaysOpen (step : Build α) : Prop :=
  ∀ program result reached, step.run program = (.ok result, reached) →
    program.isFinal = false ∧ reached.isFinal = false

theorem StaysOpen.throw (fault : Fault) : StaysOpen (throw fault : Build α) := by
  intro program result reached succeeds
  cases succeeds

/-- What is made of the result does not matter. -/
theorem StaysOpen.bind_pure {step : Build α} (stays : StaysOpen step) (answer : α → β) :
    StaysOpen (step >>= fun result => pure (answer result)) := by
  intro program result reached succeeds
  obtain ⟨_, after, runs, done⟩ := exists_of_run_bind succeeds
  cases done
  exact stays _ _ _ runs

end Build

namespace Draft

/-- A draft that is not stopped has all of its lines. -/
theorem exists_lines {first : Except Fault Line} {others : Draft}
    (succeeds : fault? (first :: others) = none) :
    ∃ line rest, lines (first :: others) = line :: rest := by
  cases first with
  | error fault => cases succeeds
  | ok line => exact ⟨line, _, rfl⟩

end Draft

namespace Statement

theorem exists_draft (statement : Statement) :
    ∃ first others, statement.draft = first :: others := by
  cases statement with
  | configurePins pins keywords =>
      rw [draft]
      cases Pins.read pins keywords <;> exact ⟨_, _, rfl⟩
  | delay duration =>
      rw [draft]
      cases Duration.delayUnits duration with
      | error fault => exact ⟨_, _, rfl⟩
      | ok units => cases units <;> exact ⟨_, _, rfl⟩
  | drivePins pins keywords =>
      rw [draft]
      cases Pins.read pins keywords with
      | error fault => exact ⟨_, _, rfl⟩
      | ok merged =>
          dsimp only
          cases merged.entries <;> exact ⟨_, _, rfl⟩
  | _ => exact ⟨_, _, rfl⟩

/-- A statement that succeeds records at least one line. -/
theorem exists_lines {statement : Statement} (succeeds : statement.fault? = none) :
    ∃ line others, statement.lines = line :: others := by
  obtain ⟨first, others, drafted⟩ := statement.exists_draft
  rw [fault?, drafted] at succeeds
  rw [lines, drafted]
  exact Draft.exists_lines succeeds

end Statement

namespace Task

/-- Whether a task records lines, or ends the program, rather than to make a scope. -/
def Records : Task → Prop
  | makeBlock _ _ | makeConstants => False
  | _ => True

theorem records_ofPins (statement : Value → List (String × Value) → Statement) (bound : Bound) :
    (ofPins statement bound).Records := by
  rw [ofPins]
  split <;> trivial

theorem records_ofBound {operation : Operation} (noScope : operation.isScoped = false)
    (bound : Bound) (inner : Task) : (ofBound operation bound inner).Records := by
  cases operation with
  | block | constants | loop | subr => cases noScope
  | decrementAndTest =>
      rw [ofBound, skipping]
      split
      · trivial
      · split <;> trivial
  | configIo | setIo => exact records_ofPins _ bound
  | _ => trivial

theorem records_ofBinding {binding : Except Fault Bound} {next : Bound → Task}
    (records : ∀ bound, (next bound).Records) : (ofBinding binding next).Records := by
  cases binding with
  | ok bound => exact records bound
  | error fault => trivial

theorem records_read {name : Value} {operands : List Value}
    (noScope : namesScope name = false) : (read name operands).Records := by
  cases named : CommandTable.operation? name with
  | none =>
      cases searchable : name.unsearchable? with
      | some typeName =>
          have refused : operation? name = .error (.unhashable typeName) := by
            rw [operation?_eq, searchable]
          unfold read
          rw [refused]
          trivial
      | none =>
          rw [read_of_call searchable named]
          exact records_ofBinding fun _ => trivial
  | some operation =>
      obtain ⟨text, rfl, found⟩ := exists_of_operation? named
      have isPlain : operation.isScoped = false := by simpa [namesScope, found] using noScope
      rw [read_of_ofName? found]
      exact records_ofBinding fun bound => records_ofBound isPlain bound _

/-- A skip records a blank line last, whatever it skips over. -/
theorem staysOpen_perform {task : Task} (records : task.Records) (noEnd : task ≠ finish) :
    Build.StaysOpen task.perform := by
  intro program made reached succeeds
  cases task with
  | state statement =>
      obtain ⟨_, stated, states, done⟩ := Build.exists_of_run_bind succeeds
      cases done
      rw [Build.perform_eq] at states
      obtain ⟨_, middle, emits, ends⟩ := Build.exists_of_run_bind states
      cases fault : statement.fault? with
      | some fault =>
          rw [fault] at ends
          cases ends
      | none =>
          obtain ⟨line, others, lines⟩ := Statement.exists_lines fault
          rw [lines] at emits
          rw [fault] at ends
          cases ends
          exact Build.isOpen_of_emit emits
  | ask asked =>
      obtain ⟨_, middle, asks, _⟩ := Build.exists_of_run_bind succeeds
      exact absurd asks (Build.run_askKeys_ne_ok asked program middle)
  | skip register inner =>
      have isOpen := isOpen_of_skip succeeds
      obtain ⟨_, first, decrements, _⟩ := Build.exists_of_run_bind succeeds
      exact ⟨(Build.isOpen_of_emit decrements).1, isOpen⟩
  | finish => exact absurd rfl noEnd
  | makeBlock | makeConstants => cases records
  | refuse fault => cases succeeds

/-- The end is taken by open programs, and closes them. -/
theorem isFinal_of_finish {program reached : Program} {made : Option Scope}
    (succeeds : finish.perform.run program = (.ok made, reached)) :
    program.isFinal = false ∧ reached.isFinal = true := by
  obtain ⟨_, ended, ends, done⟩ := Build.exists_of_run_bind succeeds
  cases done
  cases state : program.isFinal with
  | true =>
      rw [Build.run_finish_final state] at ends
      cases ends
  | false =>
      rw [Build.run_finish_open state] at ends
      cases ends
      exact ⟨rfl, program.isFinal_finished⟩

/-- The end of a program is read from its name alone; with operands it is refused. -/
theorem read_end (operands : List Value) :
    operands = [] ∧ read (.str "end_code") operands = finish ∨
      operands ≠ [] ∧ ∃ fault, read (.str "end_code") operands = refuse fault := by
  have found : Operation.ofName? "end_code" = some .endCode := Operation.endCode.ofName?_name
  cases operands with
  | nil => exact .inl ⟨rfl, by rw [read_of_ofName? found]; rfl⟩
  | cons first rest =>
      refine .inr ⟨List.cons_ne_nil _ _, ?_⟩
      have refused : Operation.endCode.signature.admits (first :: rest).length = false := by
        simp [Signature.admits, Operation.signature, Operation.parameters, Signature.parameters,
          Operation.takesPins]
      obtain ⟨fault, fails⟩ := Signature.bind_of_not_admits refused
      exact ⟨fault, by rw [read_of_ofName? found, fails]; rfl⟩

/-- An end that is skipped over closes the program before the blank line of the skip. -/
theorem ne_ok_of_skipsEnd {operands : List Value} (skips : SkipsEnd operands)
    (program reached : Program) (made : Option Scope) :
    (read (.str "decrement_and_test") operands).perform.run program ≠ (.ok made, reached) := by
  have found : Operation.ofName? "decrement_and_test" = some .decrementAndTest :=
    Operation.decrementAndTest.ofName?_name
  intro succeeds
  induction skips generalizing program reached made with
  | finish register operands =>
      have isSkip : read (.str "decrement_and_test") (register :: .str "end_code" :: operands) =
          skip register.text (read (.str "end_code") operands) := read_skip found
      rw [isSkip] at succeeds
      obtain ⟨_, first, _, rest⟩ := Build.exists_of_run_bind succeeds
      obtain ⟨_, second, performs, last⟩ := Build.exists_of_run_bind rest
      obtain ⟨_, third, blanks, _⟩ := Build.exists_of_run_bind last
      have stillOpen := (Build.isOpen_of_emit blanks).1
      rcases read_end operands with ⟨_, ends⟩ | ⟨_, fault, refused⟩
      · rw [ends] at performs
        simp [(isFinal_of_finish performs).2] at stillOpen
      · rw [refused] at performs
        cases performs
  | @skip register operands _ induction =>
      have isSkip :
          read (.str "decrement_and_test") (register :: .str "decrement_and_test" :: operands) =
            skip register.text (read (.str "decrement_and_test") operands) := read_skip found
      rw [isSkip] at succeeds
      obtain ⟨_, first, _, rest⟩ := Build.exists_of_run_bind succeeds
      obtain ⟨_, second, performs, _⟩ := Build.exists_of_run_bind rest
      exact induction _ _ _ performs

end Task

namespace Scope

theorem isOpen_of_enter {scope : Scope} {program entered : Program}
    (enters : scope.enter.run program = (.ok (), entered)) : program.isFinal = false := by
  cases scope with
  | block name repeats => exact (Build.isOpen_of_emit enters).1
  | constants owner => exact (free_of_enter enters).2

theorem isOpen_of_leave {scope : Scope} {program left : Program}
    (leaves : scope.leave.run program = (.ok (), left)) :
    program.isFinal = false ∧ left.isFinal = false := by
  rw [Build.run_eq_outcome] at leaves
  cases state : program.isFinal with
  | true =>
      obtain ⟨fault, fails⟩ := scope.exists_outcome_leave_final state
      rw [fails] at leaves
      cases leaves
  | false =>
      rw [scope.outcome_leave_open state] at leaves
      cases leaves
      exact ⟨rfl, by rw [Program.isFinal_record, isFinal_closed, state]⟩

/-- A scope that succeeds has been left by an open program, so its body has left it open. -/
theorem exists_body_of_within {scope : Scope} {body : Build Unit} {program reached : Program}
    (succeeds : (scope.within body).run program = (.ok (), reached)) :
    ∃ entered finished, scope.enter.run program = (.ok (), entered) ∧
      body.run entered = (.ok (), finished) ∧ finished.isFinal = false ∧
        reached.isFinal = false := by
  obtain ⟨_, entered, enters, inner⟩ := Build.exists_of_run_bind succeeds
  obtain ⟨_, finished, runs, rest⟩ := Build.exists_of_run_bind inner
  obtain ⟨_, left, leaves, done⟩ := Build.exists_of_run_bind rest
  cases done
  have isOpen := isOpen_of_leave leaves
  exact ⟨entered, finished, enters, Build.run_of_tryCatch runs, isOpen.1, isOpen.2⟩

theorem staysOpen_within (scope : Scope) (body : Build Unit) :
    Build.StaysOpen (scope.within body) := by
  intro program _ reached succeeds
  obtain ⟨entered, finished, enters, _, _, isOpen⟩ := exists_body_of_within succeeds
  exact ⟨isOpen_of_enter enters, isOpen⟩

end Scope

namespace Command

variable {command : Value} {program reached : Program}

/-- Every command but the end of the program leaves the program open. -/
theorem staysOpen_perform (noEnd : parts? command ≠ some ("end_code", [])) :
    Build.StaysOpen (ofValue command).perform := by
  have reads := readAs_ofValue command
  generalize ofValue command = known at reads ⊢
  cases reads with
  | @run name operands parts noScope =>
      have unfinished : Task.read (.str name) operands ≠ .finish := by
        intro ends
        obtain rfl := eq_end_of_read ends
        rcases Task.read_end operands with ⟨rfl, _⟩ | ⟨_, fault, refused⟩
        · exact noEnd parts
        · rw [refused] at ends
          cases ends
      rw [perform]
      exact (Task.staysOpen_perform (Task.records_read noScope) unfinished).bind_pure fun _ => ()
  | block | loop =>
      rw [perform]
      exact Scope.staysOpen_within _ _
  | constants parts =>
      rw [perform]
      intro program _ reached succeeds
      obtain ⟨owner, made, makes, within⟩ := Build.exists_of_run_bind succeeds
      have same : made.isFinal = program.isFinal := by
        cases makes
        rfl
      have isOpen := Scope.staysOpen_within _ _ _ _ _ within
      exact ⟨same ▸ isOpen.1, isOpen.2⟩
  | refuse fault =>
      rw [perform]
      exact .throw fault

theorem ofValue_end (parts : parts? command = some ("end_code", [])) :
    ofValue command = run .finish := by
  rw [ofValue_of_parts? parts, ofNamed_of_not_scope rfl]
  rfl

/-- The end of the program closes it. -/
theorem isFinal_of_end {operands : List Value}
    (parts : parts? command = some ("end_code", operands))
    (succeeds : (ofValue command).perform.run program = (.ok (), reached)) :
    operands = [] ∧ program.isFinal = false ∧ reached.isFinal = true := by
  rw [ofValue_of_parts? parts, ofNamed_of_not_scope rfl, perform] at succeeds
  obtain ⟨_, after, performs, done⟩ := Build.exists_of_run_bind succeeds
  cases done
  rcases Task.read_end operands with ⟨none, ends⟩ | ⟨_, fault, refused⟩
  · rw [ends] at performs
    exact ⟨none, Task.isFinal_of_finish performs⟩
  · rw [refused] at performs
    cases performs

/-- Commands succeed on open programs only. -/
theorem isOpen_of_perform
    (succeeds : (ofValue command).perform.run program = (.ok (), reached)) :
    program.isFinal = false := by
  by_cases isEnd : parts? command = some ("end_code", [])
  · exact (isFinal_of_end isEnd succeeds).2.1
  · exact (staysOpen_perform isEnd _ _ _ succeeds).1

theorem performAll_append (front back : List Command) :
    performAll (front ++ back) = (performAll front >>= fun _ => performAll back) := by
  induction front with
  | nil => simp [performAll]
  | cons command commands induction =>
      rw [List.cons_append, performAll, performAll, induction, bind_assoc]

theorem performAll_single (command : Command) : performAll [command] = command.perform := by
  simp [performAll]

/-- Commands of which the first succeeds, with the program behind it. -/
theorem exists_of_performAll_cons {back : List Value} {last : Program}
    (succeeds : (performAll ((command :: back).map ofValue)).run program = (.ok (), last)) :
    ∃ after, (ofValue command).perform.run program = (.ok (), after) ∧
      (performAll (back.map ofValue)).run after = (.ok (), last) := by
  rw [List.map_cons, performAll] at succeeds
  obtain ⟨_, after, performs, others⟩ := Build.exists_of_run_bind succeeds
  exact ⟨after, performs, others⟩

/-- Commands of which one succeeds in the middle, with the programs around it. -/
theorem exists_of_performAll {front back : List Value} {last : Program}
    (succeeds : (performAll ((front ++ command :: back).map ofValue)).run program =
      (.ok (), last)) :
    ∃ before after, (performAll (front.map ofValue)).run program = (.ok (), before) ∧
      (ofValue command).perform.run before = (.ok (), after) ∧
        (performAll (back.map ofValue)).run after = (.ok (), last) := by
  rw [List.map_append, performAll_append] at succeeds
  obtain ⟨_, before, runs, rest⟩ := Build.exists_of_run_bind succeeds
  obtain ⟨after, performs, others⟩ := exists_of_performAll_cons rest
  exact ⟨before, after, runs, performs, others⟩

/-- Commands that leave a program open have found it open. -/
theorem isOpen_of_performAll {commands : List Value}
    (succeeds : (performAll (commands.map ofValue)).run program = (.ok (), reached))
    (isOpen : reached.isFinal = false) : program.isFinal = false := by
  cases commands with
  | nil =>
      cases succeeds
      exact isOpen
  | cons first others =>
      obtain ⟨_, performs, _⟩ := exists_of_performAll_cons succeeds
      exact isOpen_of_perform performs

/-- What stands in the body of a labelled block that succeeds has left the program open. -/
theorem exists_of_mem_body {inner : Value} {commands : List Value}
    (hasBody : HasBody command commands) (member : inner ∈ commands)
    (succeeds : (ofValue command).perform.run program = (.ok (), reached)) :
    ∃ before after, (ofValue inner).perform.run before = (.ok (), after) ∧
      after.isFinal = false := by
  obtain @⟨body, name, operands, parts, isLabelled, last, items⟩ := hasBody
  obtain ⟨operation, rfl, isScoped, isOther⟩ := Step.exists_of_isLabelled isLabelled
  obtain ⟨arguments, rfl⟩ := List.getLast?_eq_some_iff.mp last
  obtain ⟨creating, makes⟩ := Task.exists_makes_of_isScoped isScoped arguments
  rw [ofValue_of_parts? parts, perform_ofNamed_scope isScoped body makes] at succeeds
  obtain ⟨scope, made, creates, within⟩ := Build.exists_of_run_bind succeeds
  have fits := makes.fits _ _ _ creates
  cases scope with
  | constants owner => exact absurd fits isOther
  | block heading repeats =>
      obtain ⟨entered, finished, _, runs, isOpen, _⟩ := Scope.exists_body_of_within within
      rw [Scope.replayed, sequence_of_elements? items] at runs
      obtain ⟨front, back, rfl⟩ := List.append_of_mem member
      obtain ⟨before, after, _, performs, others⟩ := exists_of_performAll runs
      exact ⟨before, after, performs, isOpen_of_performAll others isOpen⟩

/-- A command with an end inside fails on every program. -/
theorem ne_ok_of_endsInside (ends : EndsInside command) (program reached : Program) :
    (ofValue command).perform.run program ≠ (.ok (), reached) := by
  intro succeeds
  induction ends generalizing program reached with
  | skip parts skips =>
      rw [ofValue_of_parts? parts, ofNamed_of_not_scope rfl, perform] at succeeds
      obtain ⟨_, _, performs, _⟩ := Build.exists_of_run_bind succeeds
      exact Task.ne_ok_of_skipsEnd skips _ _ _ performs
  | body hasBody member parts =>
      obtain ⟨before, after, performs, isOpen⟩ := exists_of_mem_body hasBody member succeeds
      simp [(isFinal_of_end parts performs).2.2] at isOpen
  | deeper hasBody member _ induction =>
      obtain ⟨before, after, performs, _⟩ := exists_of_mem_body hasBody member succeeds
      exact induction _ _ performs

theorem ne_ok_of_misplaces {commands : List Value} (misplaces : Misplaces commands)
    (program reached : Program) :
    (performAll (commands.map ofValue)).run program ≠ (.ok (), reached) := by
  intro succeeds
  cases misplaces with
  | inside front ends back =>
      obtain ⟨before, after, _, performs, _⟩ := exists_of_performAll succeeds
      exact ne_ok_of_endsInside ends _ _ performs
  | followed front parts more =>
      obtain ⟨before, after, _, performs, others⟩ := exists_of_performAll succeeds
      obtain ⟨next, rest, rfl⟩ := List.exists_cons_of_ne_nil more
      obtain ⟨_, onwards, _⟩ := exists_of_performAll_cons others
      have isOpen := isOpen_of_perform onwards
      simp [(isFinal_of_end parts performs).2.2] at isOpen
  | operands front parts some back =>
      obtain ⟨before, after, _, performs, _⟩ := exists_of_performAll succeeds
      exact some (isFinal_of_end parts performs).1

end Command

namespace Build

theorem replay_list (commands : List Value) :
    replay (.list commands) = Command.performAll (commands.map Command.ofValue) := by
  have elements : (Value.list commands).elements? = some commands := rfl
  rw [replay, Command.sequence_of_elements? elements]

/-- A step that never succeeds fails. -/
theorem exists_fault_of_ne_ok {step : Build Unit} {program : Program}
    (fails : ∀ reached, step.run program ≠ (.ok (), reached)) :
    ∃ fault left, step.run program = (.error fault, left) := by
  rcases ran : step.run program with ⟨fault | _, left⟩
  · exact ⟨fault, left, rfl⟩
  · exact absurd ran (fails left)

theorem code_of_replay_final (commands : Value) {program : Program}
    (isFinal : program.isFinal = true) :
    ((replay commands).run program).2.code = program.code := by
  have allowed : Command.AllAllowed .everything (Command.sequence commands) :=
    Command.allAllowed_of_names (fun _ => trivial) _
  have follows := Command.follows_performAll allowed program trivial
  exact (follows.leads.grows.closed isFinal).2

/-- A final program refuses every replay but that of nothing, without a line. -/
theorem replay_of_final {commands : Value} {program : Program} (isFinal : program.isFinal = true)
    (some : commands.elements? ≠ some []) :
    ∃ fault left, (replay commands).run program = (.error fault, left) ∧
      left.code = program.code := by
  have fails : ∀ reached, (replay commands).run program ≠ (.ok (), reached) := by
    intro reached succeeds
    obtain ⟨items, elements⟩ := Command.exists_elements?_of_run succeeds
    rw [replay, Command.sequence_of_elements? elements] at succeeds
    cases items with
    | nil => exact some elements
    | cons first others =>
        obtain ⟨_, performs, _⟩ := Command.exists_of_performAll_cons succeeds
        have isOpen := Command.isOpen_of_perform performs
        simp [isFinal] at isOpen
  obtain ⟨fault, left, ran⟩ := exists_fault_of_ne_ok fails
  have code := code_of_replay_final commands isFinal
  rw [ran] at code
  exact ⟨fault, left, ran, code⟩

/-- A replay ends an open program exactly by its last command. -/
theorem replay_isFinal_iff {commands : Value} {program : Program}
    (isOpen : program.isFinal = false) :
    (∃ reached, (replay commands).run program = (.ok (), reached) ∧ reached.isFinal = true) ↔
      ∃ front last, commands.elements? = some (front ++ [last]) ∧
        parts? last = some ("end_code", []) ∧
        ∃ reached, (replay (.list front)).run program = (.ok (), reached) ∧
          reached.isFinal = false := by
  constructor
  · rintro ⟨reached, succeeds, isFinal⟩
    obtain ⟨items, elements⟩ := Command.exists_elements?_of_run succeeds
    rw [replay, Command.sequence_of_elements? elements] at succeeds
    rcases List.eq_nil_or_concat items with rfl | ⟨front, last, rfl⟩
    · cases succeeds
      simp [isOpen] at isFinal
    · rw [List.concat_eq_append] at elements succeeds
      obtain ⟨before, after, runs, performs, done⟩ := Command.exists_of_performAll succeeds
      cases done
      have parts : parts? last = some ("end_code", []) := by
        refine Classical.byContradiction fun noEnd => ?_
        have stays := Command.staysOpen_perform noEnd _ _ _ performs
        simp [isFinal] at stays
      refine ⟨front, last, elements, parts, before, ?_, Command.isOpen_of_perform performs⟩
      rw [replay_list, runs]
  · rintro ⟨front, last, elements, parts, reached, succeeds, stillOpen⟩
    refine ⟨reached.finished, ?_, reached.isFinal_finished⟩
    have ends : (Command.ofValue last).perform.run reached = (.ok (), reached.finished) := by
      rw [Command.ofValue_end parts, Command.perform, Task.perform, run_bind, run_bind,
        run_finish_open stillOpen]
      rfl
    rw [replay_list] at succeeds
    rw [replay, Command.sequence_of_elements? elements, List.map_append,
      Command.performAll_append, run_bind, succeeds]
    exact (congrFun (congrArg run (Command.performAll_single _)) reached).trans ends

/-- A final program refuses every replay of commands and keeps its lines.  On an open program a
replay succeeds and ends it exactly if its last command is the end, without operands, and the
commands before it succeed and leave the program open.  With an end anywhere else it fails. -/
theorem replay_ends_iff (program : Program) (commands : Value) :
    (program.isFinal = true → commands.elements? ≠ some [] →
      ∃ fault left, (replay commands).run program = (.error fault, left) ∧
        left.code = program.code) ∧
    (program.isFinal = false →
      ((∃ reached, (replay commands).run program = (.ok (), reached) ∧ reached.isFinal = true) ↔
        ∃ front last, commands.elements? = some (front ++ [last]) ∧
          parts? last = some ("end_code", []) ∧
          ∃ reached, (replay (.list front)).run program = (.ok (), reached) ∧
            reached.isFinal = false)) ∧
    (∀ items, commands.elements? = some items → Misplaces items →
      ∃ fault left, (replay commands).run program = (.error fault, left)) := by
  refine ⟨replay_of_final, replay_isFinal_iff, fun items elements misplaces => ?_⟩
  refine exists_fault_of_ne_ok fun reached succeeds => ?_
  rw [replay, Command.sequence_of_elements? elements] at succeeds
  exact Command.ne_ok_of_misplaces misplaces _ _ succeeds

/-- A jump and the end are replayed; a loop around a skipped end is not, and a final program refuses
even what drives no pins. -/
theorem replay_ends_behind_jump :
    let jump : Value := .list [.str "jump", .str "main"]
    let skip : Value := .list [.str "decrement_and_test", .str "count", .str "end_code"]
    let loop : Value := .list [.str "loop", .str "main", .list [jump, skip]]
    let quiet : Value := .list [.str "set_io", .dict []]
    (∃ reached, (replay (.list [jump, .str "end_code"])).run .initial = (.ok (), reached) ∧
      reached.isFinal = true) ∧
    (∃ fault left, (replay (.list [loop])).run .initial = (.error fault, left)) ∧
    ∃ fault left, (replay (.list [quiet])).run Program.initial.finished = (.error fault, left) ∧
      left.code = Program.initial.finished.code := by
  intro jump skip loop quiet
  obtain ⟨_, ends, _⟩ := replay_ends_iff .initial (.list [jump, .str "end_code"])
  obtain ⟨_, _, refuses⟩ := replay_ends_iff .initial (.list [loop])
  obtain ⟨stays, _, _⟩ := replay_ends_iff Program.initial.finished (.list [quiet])
  have jumps : ∃ reached, (replay (.list [jump])).run .initial = (.ok (), reached) ∧
      reached.isFinal = false := ⟨_, rfl, rfl⟩
  have skipped : EndsInside skip := .skip rfl (.finish (.str "count") [])
  have body : HasBody loop [jump, skip] := .labelled rfl (.inr (.inr rfl)) rfl rfl
  have misplaced : Misplaces [loop] := .inside [] (.deeper body (by simp) skipped) []
  refine ⟨(ends rfl).mpr ⟨[jump], .str "end_code", rfl, rfl, jumps⟩, ?_, ?_⟩
  · exact refuses [loop] rfl misplaced
  · exact stays Program.initial.isFinal_finished (by simp [Value.elements?])

end Build

end PicAssembly
