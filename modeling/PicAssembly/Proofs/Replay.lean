import PicAssembly.Proofs.Adding
import PicAssembly.Proofs.CommandReading

/-!
# Replaying

Replaying adds the lines that the table gives a sequence of commands, and it succeeds for the
sequences only that the table has lines for.  One direction goes along the derivation of the lines,
the other one along the command that was read.
-/

namespace PicAssembly

open CommandTable
open Program (IsFree Opens)

namespace Build

variable {α β : Type}

theorem exists_of_run_bind {step : Build α} {next : α → Build β} {program last : Program}
    {final : β} (succeeds : (step >>= next).run program = (.ok final, last)) :
    ∃ result reached, step.run program = (.ok result, reached) ∧
      (next result).run reached = (.ok final, last) := by
  rw [run_bind] at succeeds
  rcases reached : step.run program with ⟨_ | result, after⟩
  · rw [reached] at succeeds
    cases succeeds
  · rw [reached] at succeeds
    exact ⟨result, after, rfl, succeeds⟩

/-- A handler that fails in turn has not been needed by a success. -/
theorem run_of_tryCatch {step : Build α} {handled : Build β} {program last : Program} {final : α}
    (succeeds : (tryCatch step fun fault => do
      let _ ← handled
      throw fault).run program = (.ok final, last)) :
    step.run program = (.ok final, last) := by
  rw [run_tryCatch] at succeeds
  rcases reached : step.run program with ⟨fault | result, after⟩
  · rw [reached] at succeeds
    obtain ⟨_, _, _, throws⟩ := exists_of_run_bind succeeds
    cases throws
  · rw [reached] at succeeds
    exact succeeds

end Build

namespace Scope

variable {scope : Scope} {body : Build Unit}

/-- The body of a scope that succeeds has been run behind the entry. -/
theorem exists_of_within {program last : Program}
    (succeeds : (scope.within body).run program = (.ok (), last)) :
    ∃ entered left, scope.enter.run program = (.ok (), entered) ∧
      body.run entered = (.ok (), left) := by
  obtain ⟨_, entered, enters, inner⟩ := Build.exists_of_run_bind succeeds
  obtain ⟨_, left, runs, _⟩ := Build.exists_of_run_bind inner
  exact ⟨entered, left, enters, Build.run_of_tryCatch runs⟩

/-- The lines of a scope stand around those of its body. -/
theorem adds_within {before inside after : Program → Prop} {opening lines closing : List String}
    (enters : Build.Adds before scope.enter opening inside)
    (inner : Build.Adds inside body lines inside)
    (leaves : Build.Adds inside scope.leave closing after) :
    Build.Adds before (scope.within body) (opening ++ (lines ++ closing)) after :=
  enters.bind fun _ => inner.tryCatch.bind fun _ => leaves.bind_last fun _ => .pure ()

theorem adds_within_block (name : Value) (repeats : Bool) {lines : List String}
    (inner : Build.Adds IsFree body lines IsFree) :
    Build.Adds IsFree ((block name repeats).within body)
      (label name.text :: lines ++ (block name repeats).closingLines.map Line.text) IsFree := by
  have enters := Build.adds_emit [.heading (label name.text)]
  have leaves := Build.adds_emit (block name repeats).closingLines
  exact adds_within enters inner ((Build.Adds.pure ()).bind fun _ => leaves)

variable (owner : ConstantsBlock)

/-- A constants block is open once it has been entered. -/
theorem adds_enter_constants :
    Build.Adds IsFree (constants owner).enter ["\tcblock 0x08"] (Opens owner) := by
  have start : [constantsStart].map Line.text = ["\tcblock 0x08"] := by decide +kernel
  have takes : Build.Adds IsFree (Build.update fun program => { program with guard := some owner })
      [] (fun _ => True) := .update (fun _ => rfl) fun _ _ => trivial
  have emits : Build.Adds (fun _ => True) (Build.emit [constantsStart]) ["\tcblock 0x08"]
      (fun _ => True) := start ▸ .emit [constantsStart] fun _ _ => trivial
  have opens : Build.Adds (fun _ => True)
      (Build.update fun program =>
        { program with openBlocks := owner :: program.openBlocks.filter (· != owner) })
      [] (Opens owner) := by
    refine .update (fun _ => rfl) fun program _ => ?_
    rw [Opens]
    simp
  intro program isOpen free
  obtain ⟨result, reached, runs, rest⟩ :=
    (takes.bind fun _ => emits.bind fun _ => opens) program isOpen free
  refine ⟨result, reached, ?_, rest⟩
  rw [← runs, enter, Build.run_bind, Build.run_get]
  dsimp only
  rw [free]
  rfl

theorem adds_leave_constants :
    Build.Adds (Opens owner) (constants owner).leave ["\tendc", ""] IsFree := by
  have closes : Build.Adds (Opens owner) (constants owner).close [] IsFree :=
    .update (fun _ => rfl) fun _ _ => rfl
  exact closes.bind fun _ => Build.adds_emit [.directive "endc", .blank]

theorem adds_declare (name : String) :
    Build.Adds (Opens owner) (Build.declare owner name) ["\t\t" ++ name] (Opens owner) := by
  intro program isOpen opened
  have adds : Build.Adds (Opens owner) (Build.emit [.register name]) ["\t\t" ++ name]
      (Opens owner) := .emit [.register name] fun _ opened => opened
  have listed : program.openBlocks.contains owner = true := opened
  rw [Build.declare, Build.run_bind, Build.run_get]
  dsimp only
  rw [if_pos listed]
  exact adds program isOpen opened

theorem adds_declareAll (names : List String) :
    Build.Adds (Opens owner) (Command.declareAll owner (names.map .ok))
      (names.map fun name => "\t\t" ++ name) (Opens owner) := by
  induction names with
  | nil => exact .pure ()
  | cons name names induction =>
      rw [List.map_cons, Command.declareAll]
      exact (adds_declare owner name).bind fun _ => induction

end Scope

namespace Task

theorem skipping_ne_finish (register operation : Value) (inner : Task) :
    skipping register operation inner ≠ .finish := by
  rw [skipping]
  cases operation.unsearchable? with
  | some typeName => rintro ⟨⟩
  | none => cases namesScope operation <;> rintro ⟨⟩

theorem ofPins_ne_finish (statement : Value → List (String × Value) → Statement) (bound : Bound) :
    ofPins statement bound ≠ .finish := by
  rw [ofPins]
  cases (bound.slot 0).callee? <;> rintro ⟨⟩

/-- No other operation is read as the end of the program. -/
theorem ofBound_ne_finish {operation : Operation} (isOther : operation ≠ .endCode) (bound : Bound)
    (inner : Task) : ofBound operation bound inner ≠ .finish := by
  cases operation with
  | endCode => exact absurd rfl isOther
  | decrementAndTest => exact skipping_ne_finish _ _ _
  | configIo | setIo => exact ofPins_ne_finish _ bound
  | _ => rintro ⟨⟩

theorem ofBinding_ne_finish {operation : Operation} (isOther : operation ≠ .endCode)
    (binding : Except Fault Bound) (inner : Task) :
    (ofBinding binding fun bound => ofBound operation bound inner) ≠ .finish := by
  cases binding with
  | ok bound => exact ofBound_ne_finish isOther bound inner
  | error fault => rintro ⟨⟩

/-- A name with operands that the table has lines for adds these lines. -/
theorem adds_read {name : Value} {operands : List Value} {lines : List String}
    (row : dispatched? name operands = some lines) :
    Build.Adds IsFree (read name operands).perform lines IsFree := by
  rw [← texts?_read operands _ (namesScope_of_dispatched? row)] at row
  obtain ⟨recorded, records, rfl⟩ := Option.map_eq_some_iff.mp row
  exact adds_perform records

end Task

namespace Command

theorem adds_run {name : String} {operands : List Value} {lines : List String}
    (row : dispatched? (.str name) operands = some lines) :
    Build.Adds IsFree (ofNamed name operands).perform lines IsFree := by
  rw [ofNamed_of_not_scope (namesScope_of_dispatched? row), perform]
  exact (Task.adds_read row).bind_last fun _ => .pure ()

theorem ofNamed_block {name : String} (isBlock : name = "subr" ∨ name = "block")
    (heading body : Value) :
    ofNamed name [heading, body] = block heading false (sequence body) := by
  rcases isBlock with rfl | rfl <;> rfl

theorem ofNamed_loop (heading body : Value) :
    ofNamed "loop" [heading, body] = block heading true (sequence body) := rfl

theorem ofNamed_constants (body : Value) :
    ofNamed "constants" [body] = constants (constantNames body) := rfl

/-- A constants block adds a line for each of its names, between those that open and close it. -/
theorem adds_constants (names : List String) :
    Build.Adds IsFree (constants (names.map .ok)).perform
      ("\tcblock 0x08" :: names.map ("\t\t" ++ ·) ++ ["\tendc", ""]) IsFree := by
  rw [perform]
  exact Build.adds_makeConstants.bind fun owner =>
    Scope.adds_within (Scope.adds_enter_constants owner) (Scope.adds_declareAll owner names)
      (Scope.adds_leave_constants owner)

mutual

/-- A command that the table has lines for adds these lines. -/
theorem adds_of_writes : ∀ {command : Value} {lines : List String}, Writes command lines →
    Build.Adds IsFree (ofValue command).perform lines IsFree
  | _, _, .plain parts row => by
      rw [ofValue_of_parts? parts]
      exact adds_run row
  | _, _, .block parts isBlock items inner => by
      rw [ofValue_of_parts? parts, ofNamed_block isBlock, perform, sequence_of_elements? items]
      exact Scope.adds_within_block _ false (adds_of_writesAll inner)
  | _, _, .loop parts items inner => by
      rw [ofValue_of_parts? parts, ofNamed_loop, perform, sequence_of_elements? items]
      exact Scope.adds_within_block _ true (adds_of_writesAll inner)
  | _, _, .constants parts items declared => by
      rw [ofValue_of_parts? parts, ofNamed_constants, constantNames_of_elements? items,
        map_constantName_eq.mpr declared]
      exact adds_constants _

theorem adds_of_writesAll : ∀ {commands : List Value} {lines : List String},
    WritesAll commands lines → Build.Adds IsFree (performAll (commands.map ofValue)) lines IsFree
  | _, _, .nil => .pure ()
  | _, _, .cons first others => by
      rw [List.map_cons, performAll]
      exact (adds_of_writes first).bind fun _ => adds_of_writesAll others

end

/-- All names of a constants block are declared by a success. -/
theorem exists_of_declareAll {owner : ConstantsBlock} {names : List (Except Fault String)}
    {program last : Program}
    (succeeds : (declareAll owner names).run program = (.ok (), last)) :
    ∃ texts : List String, names = texts.map .ok := by
  induction names generalizing program with
  | nil => exact ⟨[], rfl⟩
  | cons outcome names induction =>
      cases outcome with
      | error fault => cases succeeds
      | ok name =>
          rw [declareAll] at succeeds
          obtain ⟨_, reached, _, others⟩ := Build.exists_of_run_bind succeeds
          obtain ⟨texts, rfl⟩ := induction others
          exact ⟨name :: texts, rfl⟩

/-- Only the command that ends the program is read as its end. -/
theorem eq_end_of_read {name : String} {operands : List Value}
    (ends : Task.read (.str name) operands = .finish) : name = "end_code" := by
  cases found : Operation.ofName? name with
  | none =>
      have isCall : Task.read (.str name) operands = Task.ofCall (.str name) (.ofList operands) :=
        Task.read_of_call rfl found
      rw [isCall] at ends
      cases operands <;> cases ends
  | some operation =>
      rw [Task.read_of_ofName? found] at ends
      have known := Operation.eq_name_of_ofName? found
      by_cases isEnd : operation = .endCode
      · rw [known, isEnd]
        rfl
      · exact absurd ends (Task.ofBinding_ne_finish isEnd _ _)

/-- A sequence that can be replayed can be walked through. -/
theorem exists_elements?_of_run {sequence : Value} {program last : Program}
    (succeeds : (performAll (Command.sequence sequence)).run program = (.ok (), last)) :
    ∃ commands, sequence.elements? = some commands := by
  cases items : sequence.elements? with
  | some commands => exact ⟨commands, rfl⟩
  | none =>
      rw [sequence_of_none items] at succeeds
      cases succeeds

theorem writes_of_run {command : Value} {name : String} {operands : List Value}
    (parts : parts? command = some (name, operands)) (noEnd : ¬ Ends command)
    (noScope : Task.namesScope (.str name) = false) {program last : Program}
    (isOpen : program.isFinal = false) (free : program.IsFree)
    (succeeds : (run (Task.read (.str name) operands)).perform.run program = (.ok (), last)) :
    ∃ lines, Writes command lines := by
  cases row : dispatched? (.str name) operands with
  | some lines => exact ⟨lines, .plain parts row⟩
  | none =>
      rw [← Task.texts?_read operands _ noScope, Task.texts?, Option.map_eq_none_iff] at row
      have unfinished : Task.read (.str name) operands ≠ .finish := by
        intro ends
        rw [eq_end_of_read ends] at parts
        exact noEnd (.command parts)
      rw [perform] at succeeds
      exact absurd succeeds ((Task.fails_perform row unfinished).bind_left.ne_ok isOpen free)

/-- The body of a labelled block that succeeds has been run on an open program. -/
theorem run_body_of_block {heading body : Value} {repeats : Bool} {inner : List Command}
    (isBody : sequence body = inner) {program last : Program} (isOpen : program.isFinal = false)
    (free : program.IsFree)
    (succeeds : (block heading repeats inner).perform.run program = (.ok (), last)) :
    ∃ commands entered left, body.elements? = some commands ∧ commands.map ofValue = inner ∧
      entered.isFinal = false ∧ entered.IsFree ∧
      (performAll inner).run entered = (.ok (), left) := by
  subst isBody
  rw [perform] at succeeds
  obtain ⟨entered, left, enters, runs⟩ := Scope.exists_of_within succeeds
  have heads : (Scope.block heading repeats).enter.run program =
      (.ok (), program.record [.heading (label heading.text)]) := Build.run_emit_open _ isOpen
  rw [heads] at enters
  cases enters
  obtain ⟨commands, items⟩ := exists_elements?_of_run runs
  exact ⟨commands, program.record [.heading (label heading.text)], left, items,
    (sequence_of_elements? items).symm, isOpen, free, runs⟩

/-- The names of a constants block that succeeds have all been declared. -/
theorem names_of_constants {body : Value} {program last : Program}
    (succeeds : (constants (constantNames body)).perform.run program = (.ok (), last)) :
    ∃ (declarations : List Value) (names : List String),
      body.elements? = some declarations ∧
        declarations.map parts? = names.map fun name => some (name, []) := by
  rw [perform] at succeeds
  obtain ⟨owner, made, _, within⟩ := Build.exists_of_run_bind succeeds
  obtain ⟨entered, left, _, runs⟩ := Scope.exists_of_within within
  obtain ⟨names, declared⟩ := exists_of_declareAll runs
  cases items : body.elements? with
  | none =>
      rw [constantNames, items] at declared
      cases names <;> cases declared
  | some declarations =>
      rw [constantNames_of_elements? items] at declared
      exact ⟨declarations, names, rfl, map_constantName_eq.mp declared⟩

mutual

/-- A command that succeeds on an open program without ending it has lines in the table. -/
theorem writes_of_perform : ∀ {read : Command} {command : Value} {program last : Program},
    ReadAs command read → ¬ Ends command → program.isFinal = false → program.IsFree →
    read.perform.run program = (.ok (), last) → ∃ lines, Writes command lines
  | .run _, _, _, _, .run parts noScope, noEnd, isOpen, free, succeeds =>
      writes_of_run parts noEnd noScope isOpen free succeeds
  | .block _ _ inner, _, _, _, .block parts isBlock isBody, noEnd, isOpen, free, succeeds => by
      obtain ⟨commands, entered, left, items, known, stillOpen, stillFree, runs⟩ :=
        run_body_of_block isBody isOpen free succeeds
      have noInnerEnd : ∀ command ∈ commands, ¬ Ends command := fun command member ends =>
        noEnd (.body parts (isBlock.elim .inl fun isBlock => .inr (.inl isBlock)) rfl items member
          ends)
      obtain ⟨lines, writes⟩ := writesAll_of_performAll known noInnerEnd stillOpen stillFree runs
      exact ⟨_, .block parts isBlock items writes⟩
  | .block _ _ inner, _, _, _, .loop parts isBody, noEnd, isOpen, free, succeeds => by
      obtain ⟨commands, entered, left, items, known, stillOpen, stillFree, runs⟩ :=
        run_body_of_block isBody isOpen free succeeds
      have noInnerEnd : ∀ command ∈ commands, ¬ Ends command := fun command member ends =>
        noEnd (.body parts (.inr (.inr rfl)) rfl items member ends)
      obtain ⟨lines, writes⟩ := writesAll_of_performAll known noInnerEnd stillOpen stillFree runs
      exact ⟨_, .loop parts items writes⟩
  | .constants _, _, _, _, .constants parts, _, _, _, succeeds => by
      obtain ⟨declarations, names, items, declared⟩ := names_of_constants succeeds
      exact ⟨_, .constants parts items declared⟩
  | .refuse _, _, _, _, .refuse fault, _, _, _, succeeds => by cases succeeds

theorem writesAll_of_performAll : ∀ {read : List Command} {commands : List Value}
    {program last : Program}, commands.map ofValue = read → (∀ command ∈ commands, ¬ Ends command) →
    program.isFinal = false → program.IsFree →
    (performAll read).run program = (.ok (), last) → ∃ lines, WritesAll commands lines
  | _, [], _, _, _, _, _, _, _ => ⟨[], .nil⟩
  | first :: others, command :: commands, program, last, known, noEnd, isOpen, free, succeeds => by
      rw [List.map_cons] at known
      obtain ⟨rfl, knownOthers⟩ := List.cons_eq_cons.mp known
      rw [performAll] at succeeds
      obtain ⟨_, reached, runs, runsOn⟩ := Build.exists_of_run_bind succeeds
      obtain ⟨front, writes⟩ := writes_of_perform (readAs_ofValue command)
        (noEnd command List.mem_cons_self) isOpen free runs
      -- That the first command leaves the program open and free is known from the lines it has.
      obtain ⟨_, _, same, adds, stillFree⟩ := adds_of_writes writes program isOpen free
      rw [runs] at same
      cases same
      have noOtherEnds : ∀ other ∈ commands, ¬ Ends other := fun other member =>
        noEnd other (List.mem_cons_of_mem _ member)
      obtain ⟨back, writesAll⟩ :=
        writesAll_of_performAll knownOthers noOtherEnds adds.isOpen stillFree runsOn
      exact ⟨front ++ back, .cons writes writesAll⟩

end

end Command

namespace Build

theorem adds_replay {commands : Value} {lines : List String} (lists : Lists commands lines) :
    Adds IsFree (replay commands) lines IsFree := by
  obtain ⟨items, elements, writes⟩ := lists
  rw [replay, Command.sequence_of_elements? elements]
  exact Command.adds_of_writesAll writes

theorem wellFormed_of_replay {commands : Value} (noEnd : ¬ HoldsEnd commands)
    {program last : Program} (isOpen : program.isFinal = false) (free : program.IsFree)
    (succeeds : (replay commands).run program = (.ok (), last)) : WellFormed commands := by
  obtain ⟨items, elements⟩ := Command.exists_elements?_of_run succeeds
  have noItemEnds : ∀ command ∈ items, ¬ Ends command := fun command member ends =>
    noEnd ⟨items, elements, command, member, ends⟩
  obtain ⟨lines, writes⟩ := Command.writesAll_of_performAll
    (Command.sequence_of_elements? elements).symm noItemEnds isOpen free succeeds
  exact ⟨lines, items, elements, writes⟩

end Build

end PicAssembly
