import PicAssembly.Proofs.Builder
import PicAssembly.Proofs.Skipping

/-!
# Operations that fail

An operation that fails leaves its program as it was, but for two operations.  One drives pins up to
the first invalid one.  The other one records a line of its own before the operation behind it is
looked at, and whatever that operation records by itself stays as well.  Besides, pins that make
something of every name, such as the program itself, make a line of the name under which their keys
are asked for.
-/

namespace PicAssembly

open CommandTable

variable {program left : Program} {fault : Fault}

namespace Build

variable {α β : Type}

/-- Of two steps in a row the first one fails, or the next one where the first one has led. -/
theorem failure_of_run_bind {step : Build α} {next : α → Build β}
    (fails : (step >>= next).run program = (.error fault, left)) :
    step.run program = (.error fault, left) ∨
      ∃ result middle, step.run program = (.ok result, middle) ∧
        (next result).run middle = (.error fault, left) := by
  rw [run_bind] at fails
  rcases ran : step.run program with ⟨raised | result, middle⟩ <;> rw [ran] at fails
  · cases fails
    exact .inl rfl
  · exact .inr ⟨result, middle, rfl, fails⟩

/-- A last step that always succeeds cannot be the one that fails. -/
theorem failure_of_run_bind_pure {step : Build α} {last : α → β}
    (fails : (step >>= fun result => pure (last result)).run program = (.error fault, left)) :
    step.run program = (.error fault, left) := by
  rcases failure_of_run_bind fails with fails | ⟨_, _, _, done⟩
  · exact fails
  · cases done

theorem left_of_emit {lines : List Line}
    (fails : (emit lines).run program = (.error fault, left)) : left = program := by
  rw [run_emit] at fails
  split at fails <;> cases fails
  rfl

theorem left_of_finish (fails : finish.run program = (.error fault, left)) : left = program := by
  cases state : program.isFinal with
  | true =>
      rw [run_finish_final state] at fails
      cases fails
      rfl
  | false =>
      rw [run_finish_open state] at fails
      cases fails

end Build

/-- The line that a thing makes of a name. -/
def Thing.line (asked : Thing) (name : String) : Line :=
  if asked.typeName = "Program" then .call name else .register name

/-- What is left of a program by something of its own that has been asked for its keys: one more
line, where the program is open, and so is a constants block that is asked. -/
structure Program.Asked (fault : Fault) (asked : Thing) (program left : Program) : Prop where
  isOwn : asked.owner = none
  isOpen : program.isFinal = false
  declares : asked.typeName ≠ "Program" → program.Opens ⟨asked.number⟩
  fault_eq : fault = .noKeys asked.typeName
  left_eq : left = program.record [asked.line Build.keysName]

namespace Build

/-- A name that is called on a thing is refused, or it becomes its line. -/
theorem run_callNamed (asked : Thing) (name : String) (program : Program) :
    (∃ fault, (callNamed asked name).run program = (.error fault, program)) ∨
      (callNamed asked name).run program = (.ok (), program.record [asked.line name]) ∧
        program.isFinal = false ∧ (asked.typeName ≠ "Program" → program.Opens ⟨asked.number⟩) := by
  have recorded (line : Line) : (∃ fault, (emit [line]).run program = (.error fault, program)) ∨
      (emit [line]).run program = (.ok (), program.record [line]) ∧ program.isFinal = false := by
    cases state : program.isFinal with
    | true => exact .inl ⟨_, run_emit_final line [] state⟩
    | false => exact .inr ⟨run_emit_open [line] state, rfl⟩
  rw [callNamed, Thing.line]
  split
  · next isProgram =>
      exact (recorded (.call name)).imp_right fun appends =>
        ⟨appends.1, appends.2, fun isOther => absurd isProgram isOther⟩
  · rw [declare, run_bind, run_get]
    dsimp only
    split
    · next opened =>
        exact (recorded (.register name)).imp_right fun appends =>
          ⟨appends.1, appends.2, fun _ => opened⟩
    · exact .inl ⟨_, rfl⟩

theorem left_of_askKeys {asked : Thing}
    (fails : (askKeys asked).run program = (.error fault, left)) :
    left = program ∨ program.Asked fault asked left := by
  rw [askKeys] at fails
  split at fails
  · next isOwn =>
      rw [run_bind] at fails
      rcases run_callNamed asked keysName program with ⟨raised, ran⟩ | ⟨ran, isOpen, declares⟩
      · rw [ran] at fails
        cases fails
        exact .inl rfl
      · rw [ran] at fails
        cases fails
        exact .inr ⟨isOwn, isOpen, declares, rfl, rfl⟩
  · cases fails
    exact .inl rfl

/-- A statement that is stopped by its first line, if at all, records its lines together. -/
theorem left_of_perform {statement : Statement} (isWhole : statement.draft.IsWhole)
    (fails : (perform statement).run program = (.error fault, left)) : left = program := by
  rw [perform_eq] at fails
  rcases failure_of_run_bind fails with emits | ⟨_, middle, emits, ends⟩
  · exact left_of_emit emits
  · cases stopped : statement.fault? with
    | none =>
        rw [stopped] at ends
        cases ends
    | some raised =>
        rw [stopped] at ends
        have none : statement.lines = [] := isWhole raised stopped
        rw [none, run_emit] at emits
        cases ends
        cases emits
        exact Program.record_nil program

end Build

namespace Task

/-- Whether a task records all of its lines together, if it records any. -/
def IsOutright : Task → Prop
  | state statement => statement.draft.IsWhole
  | ask _ | skip _ _ => False
  | _ => True

/-- A task that records its lines together changes nothing when it fails. -/
theorem left_of_isOutright {task : Task} (isOutright : task.IsOutright)
    (fails : task.perform.run program = (.error fault, left)) : left = program := by
  cases task with
  | state statement =>
      exact Build.left_of_perform isOutright (Build.failure_of_run_bind_pure fails)
  | ask | skip => exact isOutright.elim
  | finish => exact Build.left_of_finish (Build.failure_of_run_bind_pure fails)
  | makeBlock name repeats => cases fails
  | makeConstants => cases fails
  | refuse raised =>
      cases fails
      rfl

end Task

namespace Pins

/-- The instructions that drive pins to their levels. -/
def driveAll (levels : List (Device.Pin × Value)) : List Line :=
  levels.map fun level => drive level.1 level.2

/-- Entries are stopped by a key that is no pin to drive, behind the pins before it. -/
theorem exists_driveAll {entries : Entries}
    (fails : Draft.fault? (entries.map level ++ [.ok .blank]) = some fault) :
    ∃ (pin : Value) (levels : List (Device.Pin × Value)), fault = .invalidPin pin ∧
      Draft.lines (entries.map level ++ [.ok .blank]) = driveAll levels := by
  induction entries with
  | nil => cases fails
  | cons entry entries induction =>
      rw [List.map_cons, List.cons_append, level] at fails ⊢
      cases found : Device.Pin.drivenOfKey? entry.1 with
      | none =>
          rw [found] at fails
          cases fails
          exact ⟨entry.1, [], rfl, rfl⟩
      | some driven =>
          rw [found] at fails
          obtain ⟨pin, levels, rfl, lines⟩ := induction fails
          refine ⟨pin, (driven, entry.2) :: levels, rfl, ?_⟩
          rw [Draft.lines, lines]
          rfl

end Pins

namespace Task

/-- Pins are driven up to the first invalid one. -/
theorem left_of_drivePins {pins : Value} {keywords : List (String × Value)}
    (fails : (state (.drivePins pins keywords)).perform.run program = (.error fault, left)) :
    left = program ∨ ∃ (pin : Value) (levels : List (Device.Pin × Value)),
      fault = .invalidPin pin ∧ left = program.record (Pins.driveAll levels) := by
  have states := Build.failure_of_run_bind_pure fails
  cases reads : Pins.read pins keywords with
  | error raised =>
      have stopped : (Statement.drivePins pins keywords).draft = [.error raised] := by
        rw [Statement.draft, reads]
      exact .inl (Build.left_of_perform (stopped ▸ Draft.isWhole_error raised) states)
  | ok merged =>
      have forms : (Statement.drivePins pins keywords).draft =
          merged.entries.map Pins.level ++ [.ok .blank] := by
        rw [Statement.draft, reads]
      rw [Build.perform_eq, Statement.lines, Statement.fault?, forms] at states
      rcases Build.failure_of_run_bind states with emits | ⟨_, middle, emits, ends⟩
      · exact .inl (Build.left_of_emit emits)
      · cases stopped : Draft.fault? (merged.entries.map Pins.level ++ [.ok .blank]) with
        | none =>
            rw [stopped] at ends
            cases ends
        | some raised =>
            obtain ⟨pin, levels, rfl, lines⟩ := Pins.exists_driveAll stopped
            rw [stopped] at ends
            cases ends
            rw [lines, Build.run_emit] at emits
            split at emits <;> cases emits
            exact .inr ⟨pin, levels, rfl, rfl⟩

end Task

/-- The program with the line that decrements a register and skips behind zero. -/
def Program.decremented (program : Program) (register : Value) : Program :=
  program.record [.instruction .decfsz [register.text, "f"]]

@[simp]
theorem Program.code_decremented (program : Program) (register : Value) :
    (program.decremented register).code =
      program.code ++ [.str (instruction "decfsz" [register.text, "f"])] := by
  rw [decremented, code_record]
  rfl

namespace Task

/-- A skip fails before its first line, in the operation behind it, or because that operation has
ended the program, which then refuses the blank line. -/
theorem left_of_skip {register : Value} {inner : Task}
    (fails : (skip register.text inner).perform.run program = (.error fault, left)) :
    left = program ∨ program.isFinal = false ∧
      (inner.perform.run (program.decremented register) = (.error fault, left) ∨
        fault = .closed (.str "") ∧ left.isFinal = true ∧
          ∃ made, inner.perform.run (program.decremented register) = (.ok made, left)) := by
  rcases Build.failure_of_run_bind fails with decrements | ⟨_, first, decrements, rest⟩
  · exact .inl (Build.left_of_emit decrements)
  · have isOpen := (Build.isOpen_of_emit decrements).1
    rw [Build.run_emit_open _ isOpen] at decrements
    cases decrements
    refine .inr ⟨isOpen, ?_⟩
    rcases Build.failure_of_run_bind rest with performs | ⟨made, second, performs, last⟩
    · exact .inl performs
    · have blanks := Build.failure_of_run_bind_pure last
      cases state : second.isFinal with
      | true =>
          rw [Build.run_emit_final _ _ state] at blanks
          cases blanks
          exact .inr ⟨rfl, state, made, performs⟩
      | false =>
          rw [Build.run_emit_open _ state] at blanks
          cases blanks

/-- Every operation that takes no pins and does not skip records its lines together. -/
theorem isOutright_ofBound {operation : Operation} {bound : Bound} {inner : Task}
    (noPins : operation.takesPins = false) (noSkip : operation ≠ .decrementAndTest) :
    (ofBound operation bound inner).IsOutright := by
  have stated {statement : Statement}
      (noDrive : ∀ pins keywords, statement ≠ .drivePins pins keywords) :
      (state statement).IsOutright := Statement.isWhole_draft noDrive
  cases operation with
  | configIo | setIo => cases noPins
  | decrementAndTest => exact absurd rfl noSkip
  | block | subr | loop | constants | endCode => trivial
  | _ => exact stated fun _ _ => by rintro ⟨⟩

/-- Binding comes before everything that an operation records. -/
theorem isOutright_ofBinding {operation : Operation} {binding : Except Fault Bound}
    {inner : Bound → Task} (noPins : operation.takesPins = false)
    (noSkip : operation ≠ .decrementAndTest) :
    (ofBinding binding fun bound => ofBound operation bound (inner bound)).IsOutright := by
  cases binding with
  | ok bound => exact isOutright_ofBound noPins noSkip
  | error raised => trivial

/-- Of a task that is refused nothing is left. -/
theorem left_of_refuse {raised : Fault}
    (fails : (refuse raised).perform.run program = (.error fault, left)) : left = program := by
  have isOutright : (refuse raised).IsOutright := trivial
  exact left_of_isOutright isOutright fails

theorem left_of_ask {asked : Thing}
    (fails : (ask asked).perform.run program = (.error fault, left)) :
    left = program ∨ program.Asked fault asked left :=
  Build.left_of_askKeys (Build.failure_of_run_bind_pure fails)

/-- Directions are recorded together, but pins that make something of every name are asked for their
keys before. -/
theorem left_of_configurePins {bound : Bound}
    (fails : (ofPins .configurePins bound).perform.run program = (.error fault, left)) :
    left = program ∨
      ∃ asked, (bound.slot 0).callee? = some asked ∧ program.Asked fault asked left := by
  rw [ofPins] at fails
  cases calls : (bound.slot 0).callee? with
  | some asked =>
      rw [calls] at fails
      exact (left_of_ask fails).imp_right fun asks => ⟨asked, rfl, asks⟩
  | none =>
      rw [calls] at fails
      have isWhole : (Statement.configurePins (bound.slot 0) bound.extra).draft.IsWhole :=
        Statement.isWhole_draft fun _ _ => by rintro ⟨⟩
      exact .inl (Build.left_of_perform isWhole (Build.failure_of_run_bind_pure fails))

/-- Pins are driven up to the first invalid one, but pins that make something of every name are
asked for their keys before. -/
theorem left_of_setIo {bound : Bound}
    (fails : (ofPins .drivePins bound).perform.run program = (.error fault, left)) :
    left = program ∨
      (∃ asked, (bound.slot 0).callee? = some asked ∧ program.Asked fault asked left) ∨
      ∃ (pin : Value) (levels : List (Device.Pin × Value)),
        fault = .invalidPin pin ∧ left = program.record (Pins.driveAll levels) := by
  rw [ofPins] at fails
  cases calls : (bound.slot 0).callee? with
  | some asked =>
      rw [calls] at fails
      exact (left_of_ask fails).imp_right fun asks => .inl ⟨asked, rfl, asks⟩
  | none =>
      rw [calls] at fails
      exact (left_of_drivePins fails).imp_right .inr

end Task

namespace Member

/-- A name that is dispatched with operands. -/
def dispatched (name : Value) (operands : List Value) : Build Reply :=
  request "dispatch" (.ofList (name :: operands))

theorem dispatched_eq_reply (name : Value) (operands : List Value) :
    dispatched name operands = (Task.read name operands).reply := by
  have found : ofName "dispatch" = .ok dispatch := by rfl
  let signature := { signature "dispatch" ["name"] with takesRest := true }
  have admits : signature.admits (name :: operands).length = true := by
    simp [signature, Member.signature, Signature.method, Signature.admits]
  have binds : signature.bind (.ofList (name :: operands)) =
      .ok (signature.placed (name :: operands)) := Signature.bind_of_admits admits
  rw [dispatched, request_of_ofName found, apply, binds]
  rfl

/-- What is left of a program by a name that is dispatched with operands and fails. -/
inductive Failure : Fault → Value → List Value → Program → Program → Prop
  /-- Nothing has changed. -/
  | unchanged (fault : Fault) (name : Value) (operands : List Value) (program : Program) :
      Failure fault name operands program program
  /-- The pins before an invalid one are driven. -/
  | driven (pin : Value) (operands : List Value) (program : Program)
      (levels : List (Device.Pin × Value)) :
      Failure (.invalidPin pin) (.str "set_io") operands program
        (program.record (Pins.driveAll levels))
  /-- Pins that make something of every name have made a line of the name of the keys. -/
  | asked {fault : Fault} {name : Value} {asked : Thing} {operands : List Value}
      {program left : Program} (takesPins : name = .str "config_io" ∨ name = .str "set_io")
      (calls : ∃ pins, operands = [pins] ∧ pins.callee? = some asked)
      (asks : program.Asked fault asked left) :
      Failure fault name operands program left
  /-- The operation behind a decrement has failed. -/
  | inside {fault : Fault} {register name : Value} {operands : List Value} {program left : Program}
      (isOpen : program.isFinal = false)
      (fails : (dispatched name operands).run (program.decremented register) =
        (.error fault, left))
      (inner : Failure fault name operands (program.decremented register) left) :
      Failure fault (.str "decrement_and_test") (register :: name :: operands) program left
  /-- The operation behind a decrement has ended the program. -/
  | ended {register name : Value} {operands : List Value} {program left : Program} {reply : Reply}
      (isOpen : program.isFinal = false)
      (succeeds : (dispatched name operands).run (program.decremented register) =
        (.ok reply, left))
      (isFinal : left.isFinal = true) :
      Failure (.closed (.str "")) (.str "decrement_and_test") (register :: name :: operands)
        program left

end Member

namespace Task

open Member (Failure dispatched dispatched_eq_reply)

theorem run_reply_of_ok {task : Task} {made : Option Scope}
    (succeeds : task.perform.run program = (.ok made, left)) :
    task.reply.run program = (.ok (.ofScope? made), left) := by
  rw [reply, Build.run_bind, succeeds]
  rfl

theorem run_reply_of_error {task : Task}
    (fails : task.perform.run program = (.error fault, left)) :
    task.reply.run program = (.error fault, left) := by
  rw [reply, Build.run_bind, fails]

/-- Reading gives a task that records its lines together, unless it takes pins or skips. -/
theorem isOutright_read {name : Value} (operands : List Value)
    (noPins : name ≠ .str "config_io" ∧ name ≠ .str "set_io")
    (noSkip : name ≠ .str "decrement_and_test") : (read name operands).IsOutright := by
  cases searchable : name.unsearchable? with
  | some typeName =>
      have refused : operation? name = .error (.unhashable typeName) := by
        rw [operation?_eq, searchable]
      unfold read
      rw [refused]
      trivial
  | none =>
      cases named : CommandTable.operation? name with
      | none =>
          rw [read_of_call searchable named, ofCall]
          cases callSignature.bind (.ofList operands) with
          | ok bound => exact Draft.isWhole_ofLines _
          | error raised => trivial
      | some operation =>
          obtain ⟨text, rfl, found⟩ := exists_of_operation? named
          rw [read_of_ofName? found]
          have spelled := congrArg Value.str (Operation.eq_name_of_ofName? found)
          refine isOutright_ofBinding ?_ ?_
          · cases operation with
            | configIo => exact absurd spelled noPins.1
            | setIo => exact absurd spelled noPins.2
            | _ => rfl
          · rintro rfl
            exact noSkip spelled

/-- Pins of a dispatched operation are its only operand. -/
theorem exists_operand_of_callee? {operation : Operation} (takesPins : operation.takesPins = true)
    {operands : List Value} {bound : Bound} {asked : Thing}
    (binds : operation.signature.bind (.ofList operands) = .ok bound)
    (calls : (bound.slot 0).callee? = some asked) :
    ∃ pins, operands = [pins] ∧ pins.callee? = some asked := by
  cases admits : operation.signature.admits operands.length with
  | false =>
      obtain ⟨raised, refused⟩ := Signature.bind_of_not_admits admits
      rw [refused] at binds
      cases binds
  | true =>
      rw [Signature.bind_of_admits admits] at binds
      cases binds
      match operands, length_le_one_of_takesPins takesPins admits with
      | [], _ => cases operation <;> cases takesPins <;> cases calls
      | [pins], _ => cases operation <;> cases takesPins <;> exact ⟨pins, rfl, calls⟩

/-- What is left by an operation on pins that is dispatched and fails. -/
theorem failure_of_pins (operation : Operation) (takesPins : operation.takesPins = true)
    {operands : List Value}
    (fails : (read (.str operation.name) operands).perform.run program = (.error fault, left)) :
    Failure fault (.str operation.name) operands program left := by
  rw [read_of_ofName? operation.ofName?_name] at fails
  cases binds : operation.signature.bind (.ofList operands) with
  | error raised =>
      rw [binds] at fails
      rw [left_of_refuse fails]
      exact .unchanged _ _ _ _
  | ok bound =>
      rw [binds] at fails
      have asks {asked : Thing} (calls : (bound.slot 0).callee? = some asked)
          (asks : program.Asked fault asked left) :
          Failure fault (.str operation.name) operands program left := by
        refine .asked ?_ (exists_operand_of_callee? takesPins binds calls) asks
        cases operation <;> cases takesPins
        · exact .inl rfl
        · exact .inr rfl
      cases operation <;> cases takesPins
      · rcases left_of_configurePins fails with rfl | ⟨asked, calls, asked_left⟩
        · exact .unchanged _ _ _ _
        · exact asks calls asked_left
      · rcases left_of_setIo fails with rfl | ⟨asked, calls, asked_left⟩ | ⟨pin, levels, rfl, rfl⟩
        · exact .unchanged _ _ _ _
        · exact asks calls asked_left
        · exact .driven _ _ _ _

/-- A skip that fails has changed nothing, or it has failed behind its first line. -/
theorem left_of_skipping {register name : Value} {operands : List Value}
    (fails : (skipping register name (read name operands)).perform.run program =
      (.error fault, left)) :
    left = program ∨ program.isFinal = false ∧
      ((read name operands).perform.run (program.decremented register) = (.error fault, left) ∨
        fault = .closed (.str "") ∧ left.isFinal = true ∧
          ∃ made, (read name operands).perform.run (program.decremented register) =
            (.ok made, left)) := by
  rw [skipping] at fails
  cases searchable : name.unsearchable? with
  | some typeName =>
      rw [searchable] at fails
      exact .inl (left_of_refuse fails)
  | none =>
      simp only [searchable] at fails
      split at fails
      · exact .inl (left_of_refuse fails)
      · exact left_of_skip fails

/-- Every name that is dispatched and fails leaves what has been said. -/
theorem failure_of_read : ∀ (operands : List Value) (name : Value) {program left : Program},
    (read name operands).perform.run program = (.error fault, left) →
    Failure fault name operands program left
  | operands, name, program, left, fails => by
      by_cases isPins : name = .str "config_io" ∨ name = .str "set_io"
      · rcases isPins with rfl | rfl
        · exact failure_of_pins .configIo rfl fails
        · exact failure_of_pins .setIo rfl fails
      · by_cases isSkip : name = .str "decrement_and_test"
        · subst isSkip
          have found : Operation.ofName? "decrement_and_test" = some .decrementAndTest := by rfl
          match operands with
          | [] | [_] =>
              rw [read_of_ofName? found] at fails
              rw [left_of_refuse fails]
              exact .unchanged _ _ _ _
          | register :: inner :: rest =>
              rw [read_skip found] at fails
              rcases left_of_skipping fails with rfl | ⟨isOpen, failed | ⟨rfl, isFinal, made, done⟩⟩
              · exact .unchanged _ _ _ _
              · refine .inside isOpen ?_ (failure_of_read rest inner failed)
                rw [dispatched_eq_reply]
                exact run_reply_of_error failed
              · have ran := run_reply_of_ok done
                rw [← dispatched_eq_reply] at ran
                exact .ended isOpen ran isFinal
        · rw [left_of_isOutright (isOutright_read operands (not_or.mp isPins) isSkip) fails]
          exact .unchanged _ _ _ _

end Task

namespace Member

/-- A name that is dispatched only adds lines. -/
theorem prefix_of_dispatched {name : Value} {operands : List Value} {result : Except Fault Reply}
    (runs : (dispatched name operands).run program = (result, left)) :
    program.code <+: left.code := by
  rw [dispatched_eq_reply] at runs
  have reached : outcome (Task.read name operands).reply program = (result, left) := runs
  have follows : Follows (History.course .everything) (Task.read name operands).reply _ _ :=
    Task.follows_reply (Task.read name operands)
  have leads := (follows program trivial).leads
  rw [reached] at leads
  exact leads.grows.isPrefix

/-- What is left of a program by a skip that has failed behind its first line: the line is there,
behind it is what the skipped operation records by itself, and that operation has failed or has
ended the program. -/
structure FailedSkip (fault : Fault) (register name : Value) (operands : List Value)
    (program left : Program) : Prop where
  isOpen : program.isFinal = false
  code : ∃ appended, left.code =
    program.code ++ .str (instruction "decfsz" [register.text, "f"]) :: appended
  reason :
    (dispatched name operands).run (program.decremented register) = (.error fault, left) ∧
        Failure fault name operands (program.decremented register) left ∨
      fault = .closed (.str "") ∧ left.isFinal = true ∧
        ∃ reply, (dispatched name operands).run (program.decremented register) = (.ok reply, left)

theorem FailedSkip.of_skipping {register name : Value} {operands : List Value}
    (fails : (Task.skipping register name (Task.read name operands)).perform.run program =
      (.error fault, left)) :
    left = program ∨ FailedSkip fault register name operands program left := by
  have behindLine {result : Except Fault Reply}
      (runs : (dispatched name operands).run (program.decremented register) = (result, left)) :
      ∃ appended, left.code =
        program.code ++ .str (instruction "decfsz" [register.text, "f"]) :: appended := by
    obtain ⟨appended, code⟩ := prefix_of_dispatched runs
    exact ⟨appended, by simp [← code]⟩
  rcases Task.left_of_skipping fails with same | ⟨isOpen, failed | ⟨closed, isFinal, made, done⟩⟩
  · exact .inl same
  · have ran := Task.run_reply_of_error failed
    rw [← dispatched_eq_reply] at ran
    exact .inr ⟨isOpen, behindLine ran, .inl ⟨ran, Task.failure_of_read operands name failed⟩⟩
  · have ran := Task.run_reply_of_ok done
    rw [← dispatched_eq_reply] at ran
    exact .inr ⟨isOpen, behindLine ran, .inr ⟨closed, isFinal, _, ran⟩⟩

theorem request_operation (operation : Operation) (arguments : Arguments) :
    request operation.name arguments = (Task.ofOperation operation arguments).reply := by
  have found : ofName operation.name = .ok (.operation operation) := by
    rw [ofName, operation.ofName?_name]
  rw [request_of_ofName found]
  rfl

/-- The arguments of a dispatch to a name: the name, and then the arguments for it. -/
def dispatching (name : String) (arguments : Arguments) : Arguments :=
  { arguments with positional := .str name :: arguments.positional }

/-- The parameter of a dispatch has its value by position, so no keyword fits. -/
theorem exists_refused_keyword (name : Value) (keyword : String × Value) (positional : List Value)
    (keywords : List (String × Value)) :
    ∃ fault, { signature "dispatch" ["name"] with takesRest := true }.bind
      ⟨name :: positional, keyword :: keywords⟩ = .error fault := by
  let signature := { signature "dispatch" ["name"] with takesRest := true }
  have placed : signature.placed (name :: positional) = ⟨[some name], positional, []⟩ := by
    simp [signature, Member.signature, Signature.method, Signature.placed, Signature.parameters]
  have found : signature.parameters.idxOf? keyword.1 =
      if "name" == keyword.1 then some 0 else none := rfl
  have refused : ∃ fault,
      signature.bindKeyword (signature.placed (name :: positional)) keyword = .error fault := by
    rw [placed, Signature.bindKeyword, found]
    split
    · exact ⟨_, rfl⟩
    · cases "name" == keyword.1 with
      | true => exact ⟨_, rfl⟩
      | false => exact ⟨_, rfl⟩
  obtain ⟨fault, refused⟩ := refused
  refine ⟨fault, ?_⟩
  change (List.foldlM signature.bindKeyword (signature.placed (name :: positional))
    (keyword :: keywords) >>= _) = _
  rw [List.foldlM_cons, refused]
  rfl

/-- A dispatch with keywords is refused, and without keywords it is a call of the operation. -/
theorem run_dispatching (operation : Operation) (arguments : Arguments) (program : Program) :
    (∃ fault, (request "dispatch" (dispatching operation.name arguments)).run program =
        (.error fault, program)) ∨
      request "dispatch" (dispatching operation.name arguments) =
        request operation.name arguments := by
  obtain ⟨positional, keywords⟩ := arguments
  cases keywords with
  | nil =>
      have called : request "dispatch" (dispatching operation.name ⟨positional, []⟩) =
          dispatched (.str operation.name) positional := rfl
      have listed : Arguments.mk positional [] = .ofList positional := rfl
      rw [called, dispatched_eq_reply, listed, request_operation, Task.ofOperation_ofList]
      exact .inr rfl
  | cons keyword keywords =>
      obtain ⟨fault, refused⟩ :=
        exists_refused_keyword (.str operation.name) keyword positional keywords
      have found : ofName "dispatch" = .ok dispatch := by rfl
      refine .inl ⟨fault, ?_⟩
      rw [request_of_ofName found, apply, dispatching, refused]
      rfl

/-- A call of an operation that fails, directly or by its name, whatever its arguments are and
whether the program is final or not.  Every operation but two leaves the program as it was, unless
it has asked the program itself or an open constants block of it for the keys of a mapping.  The one
that skips leaves it as it was as well, or it has failed behind its first line. -/
theorem left_of_failure {operation : Operation} {arguments : Arguments}
    (fails : (request operation.name arguments).run program = (.error fault, left) ∨
      (request "dispatch" (dispatching operation.name arguments)).run program =
        (.error fault, left)) :
    (operation ≠ .setIo → operation ≠ .decrementAndTest → left = program ∨
      operation = .configIo ∧ ∃ bound asked, operation.signature.bind arguments = .ok bound ∧
        (bound.slot 0).callee? = some asked ∧ program.Asked fault asked left) ∧
    (operation = .decrementAndTest → left = program ∨
      ∃ bound, operation.signature.bind arguments = .ok bound ∧
        FailedSkip fault (bound.slot 0) (bound.slot 1) bound.rest program left) := by
  have direct : left = program ∨
      (request operation.name arguments).run program = (.error fault, left) := by
    rcases fails with called | named
    · exact .inr called
    · rcases run_dispatching operation arguments program with ⟨raised, refused⟩ | same
      · rw [refused] at named
        cases named
        exact .inl rfl
      · exact .inr (same ▸ named)
  rcases direct with same | called
  · exact ⟨fun _ _ => .inl same, fun _ => .inl same⟩
  · rw [request_operation] at called
    have performs := Build.failure_of_run_bind_pure called
    rw [Task.ofOperation] at performs
    refine ⟨fun noDrive noSkip => ?_, ?_⟩
    · by_cases isDirections : operation = .configIo
      · subst isDirections
        cases binds : Operation.configIo.signature.bind arguments with
        | error raised =>
            rw [binds] at performs
            exact .inl (Task.left_of_refuse performs)
        | ok bound =>
            rw [binds] at performs
            refine (Task.left_of_configurePins performs).imp_right ?_
            rintro ⟨asked, calls, asks⟩
            exact ⟨rfl, bound, asked, rfl, calls, asks⟩
      · have noPins : operation.takesPins = false := by
          cases operation with
          | configIo => exact absurd rfl isDirections
          | setIo => exact absurd rfl noDrive
          | _ => rfl
        exact .inl (Task.left_of_isOutright (Task.isOutright_ofBinding noPins noSkip) performs)
    · rintro rfl
      cases binds : Operation.decrementAndTest.signature.bind arguments with
      | error raised =>
          rw [binds] at performs
          exact .inl (Task.left_of_refuse performs)
      | ok bound =>
          rw [binds] at performs
          refine (FailedSkip.of_skipping performs).imp_right fun failed => ?_
          exact ⟨bound, rfl, failed⟩

/-- Of a skip over a skip over the end both first lines are left, and the end. -/
theorem left_of_skipped_end :
    let arguments := Arguments.ofList
      [.str "outer", .str "decrement_and_test", .str "inner", .str "end_code"]
    let left := ((request "decrement_and_test" arguments).run .initial).2
    (left = .initial ∨ ∃ bound, Operation.decrementAndTest.signature.bind arguments = .ok bound ∧
        FailedSkip (.closed (.str "")) (bound.slot 0) (bound.slot 1) bound.rest .initial left) ∧
      left.code = Program.initial.code ++
        ["\tdecfsz\touter, f", "\tdecfsz\tinner, f", "\tend", ""].map Value.str := by
  intro arguments left
  have fails : (request Operation.decrementAndTest.name arguments).run .initial =
      (.error (.closed (.str "")), left) := by rfl
  exact ⟨(left_of_failure (.inl fails)).2 rfl, by rfl⟩

/-- A program that is given as pins takes the name of the keys for that of a subroutine, so that a
call of an operation other than those two fails behind a line. -/
theorem exists_line_of_own_pins :
    ∃ left, (request "config_io" (.ofList [.thing (.program none)])).run .initial =
        (.error (.noKeys "Program"), left) ∧
      left.code = Program.initial.code ++ [.str "\tcall\tKeys"] :=
  ⟨_, rfl, rfl⟩

end Member

end PicAssembly
