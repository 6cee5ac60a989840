import PicAssembly.Proofs.Finalization
import PicAssembly.Proofs.Growth
import PicAssembly.Proofs.Mirroring

/-!
# Ways to define a program

A body of steps may be loaded as lines, it may define a program, or it may be run inside a program
that is ended behind it.  All three end the program only if the body has returned and has left it
open, so the lines that the body has recorded are followed by the end exactly once.
-/

namespace PicAssembly

namespace Program

/-- The lines with which a program ends. -/
def lastLines : List Value :=
  [.str "\tend", .str ""]

/-- The program with its end recorded, unless it is final already. -/
def ended (program : Program) : Program :=
  if program.isFinal then program else program.finished

@[simp]
theorem isFinal_ended (program : Program) : program.ended.isFinal = true := by
  rw [ended]
  split
  · assumption
  · rfl

/-- A program that has come from another one by recording lines and, if it is final, its end behind
them. -/
def Emits (before : Program) (emitted : List Value) (after : Program) : Prop :=
  after.code = before.code ++ emitted ++ if after.isFinal then lastLines else []

theorem emits_of_open {before after : Program} {emitted : List Value}
    (isOpen : after.isFinal = false) :
    before.Emits emitted after ↔ after.code = before.code ++ emitted := by
  simp [Emits, isOpen]

theorem emits_of_final {before after : Program} {emitted : List Value}
    (isFinal : after.isFinal = true) :
    before.Emits emitted after ↔ after.code = before.code ++ emitted ++ lastLines := by
  simp [Emits, isFinal]

/-- Ending a program adds the closing lines to those that have been recorded, if they are missing.
-/
theorem Emits.code_ended {before after : Program} {emitted : List Value}
    (emits : before.Emits emitted after) :
    after.ended.code = before.code ++ emitted ++ lastLines := by
  rw [ended]
  cases state : after.isFinal with
  | true => exact (emits_of_final state).mp emits
  | false =>
      have code := (emits_of_open state).mp emits
      exact (code_finished after).trans (by rw [code]; rfl)

end Program

namespace History

variable {name : Value → Prop} {before after : Program} {ends : Nat}

/-- Along a history that starts with an open program lines are recorded, and then it may be ended.
-/
theorem exists_emitted (history : History (.building name) before ends after)
    (isOpen : before.isFinal = false) : ∃ emitted, before.Emits emitted after := by
  induction history with
  | start => exact ⟨[], (Program.emits_of_open isOpen).mpr (List.append_nil _).symm⟩
  | @record _ program lines _ stillOpen _ induction =>
      obtain ⟨emitted, emits⟩ := induction
      have code := (Program.emits_of_open stillOpen).mp emits
      have isOpen : (program.record lines).isFinal = false := stillOpen
      refine ⟨emitted ++ Program.lineValues lines, (Program.emits_of_open isOpen).mpr ?_⟩
      rw [Program.code_record, code, List.append_assoc]
  | finish _ stillOpen induction =>
      obtain ⟨emitted, emits⟩ := induction
      have code := (Program.emits_of_open stillOpen).mp emits
      refine ⟨emitted, (Program.emits_of_final (Program.isFinal_finished _)).mpr ?_⟩
      rw [Program.code_finished, code]
      rfl
  | rearrange _ unchanged induction =>
      obtain ⟨emitted, emits⟩ := induction
      refine ⟨emitted, ?_⟩
      rw [Program.Emits, Program.code, Program.isFinal, unchanged]
      exact emits
  | ask request _ allowed induction =>
      obtain ⟨emitted, emits⟩ := induction
      refine ⟨emitted, ?_⟩
      rw [Program.Emits, Program.code, Program.isFinal,
        Listing.Request.answer_of_isReading allowed]
      exact emits

end History

namespace Session

variable {steps : List Step} {session after : Session} {fault : Fault}

theorem outcome_finishOpen (program : Program) :
    outcome Build.finishOpen program = (.ok (), program.ended) := by
  rw [Build.finishOpen, outcome_bind]
  change outcome (if program.isFinal then pure () else Build.finish) program = _
  rw [Program.ended]
  cases state : program.isFinal with
  | true => rfl
  | false => exact Build.run_finish_open state

/-- Behind a body that has returned the program is ended, unless it is final. -/
theorem outcome_ending_of_ok {body : Run Unit} (returns : outcome body session = (.ok (), after)) :
    outcome (ending body) session = (.ok (), { after with program := after.program.ended }) := by
  rw [ending, outcome_bind, returns]
  change outcome (build Build.finishOpen) after = _
  rw [outcome_build, outcome_finishOpen]

/-- Behind a body that has failed nothing is done. -/
theorem outcome_ending_of_error {body : Run Unit}
    (fails : outcome body session = (.error fault, after)) :
    outcome (ending body) session = (.error fault, after) :=
  outcome_bind_error fails

/-- The lines that loading a body gives. -/
def load (steps : List Step) : Except Fault (List Value) :=
  let (outcome, session) := define steps
  outcome.map fun _ => session.program.code

/-- The program that a body defines. -/
def defined (steps : List Step) : Except Fault Program :=
  let (outcome, session) := define steps
  outcome.map fun _ => session.program

/-- What a body that is run inside a new program comes to, and the program that it leaves. -/
def runInside (steps : List Step) : Except Fault Unit × Program :=
  let (outcome, session) := outcome (Step.run (.whole steps)) initial
  (outcome, session.program)

theorem define_of_ok (returns : outcome (Step.runAll steps) initial = (.ok (), after)) :
    define steps = (.ok (), { after with program := after.program.ended }) :=
  outcome_ending_of_ok returns

theorem define_of_error (fails : outcome (Step.runAll steps) initial = (.error fault, after)) :
    define steps = (.error fault, after) :=
  outcome_ending_of_error fails

theorem runInside_of_ok (returns : outcome (Step.runAll steps) initial = (.ok (), after)) :
    runInside steps = (.ok (), after.program.ended) := by
  have ends := outcome_ending_of_ok returns
  rw [runInside, Step.run, outcome_recording, outcome_bind, ends]
  rfl

theorem runInside_of_error (fails : outcome (Step.runAll steps) initial = (.error fault, after)) :
    runInside steps = (.error fault, after.program) := by
  have stops := outcome_ending_of_error fails
  rw [runInside, Step.run, outcome_recording, outcome_bind, stops]
  rfl

/-- A body that has returned gives, in each of the three ways, the program that it has left, ended
if it was open. -/
structure Defines (steps : List Step) (program : Program) : Prop where
  load : load steps = .ok program.code
  defined : defined steps = .ok program
  runInside : runInside steps = (.ok (), program)

theorem defines_of_ok (returns : outcome (Step.runAll steps) initial = (.ok (), after)) :
    Defines steps after.program.ended where
  load := by
    rw [load, define_of_ok returns]
    rfl
  defined := by
    rw [defined, define_of_ok returns]
    rfl
  runInside := runInside_of_ok returns

theorem history_runInside {allowance : Allowance} (allowed : Step.AllAllowed allowance steps) :
    History allowance .initial (Step.ends (.whole steps) initial) (runInside steps).2 := by
  have follows : Follows (course allowance) (Step.run (.whole steps)) _ _ :=
    Step.follows_run allowed
  exact (follows initial nofun).leads.history

/-- A body that returns gives the lines that it has recorded, and the end. -/
theorem exists_defines {emitted : List Value} (returns : (outcome (Step.runAll steps) initial).1 =
      .ok ())
    (emits : Program.initial.Emits emitted (outcome (Step.runAll steps) initial).2.program) :
    ∃ program, Defines steps program ∧ program.isFinal = true ∧
      program.code = Program.lineValues Device.header ++ emitted ++ Program.lastLines := by
  have split : outcome (Step.runAll steps) initial =
      (.ok (), (outcome (Step.runAll steps) initial).2) := Prod.ext returns rfl
  exact ⟨_, defines_of_ok split, Program.isFinal_ended _, emits.code_ended⟩

/-- Inside a new program a body that returns is ended once, by itself or behind it. -/
theorem ends_whole_of_ok (reading : Step.AllAllowed (.building fun _ => True) steps)
    (returns : outcome (Step.runAll steps) initial = (.ok (), after)) :
    Step.ends (.whole steps) initial = 1 := by
  have counted := (history_runInside reading).isFinal_of_building
  rw [runInside_of_ok returns, Program.isFinal_ended] at counted
  have isOpen : Program.initial.isFinal = false := rfl
  rw [isOpen] at counted
  simpa using counted.symm

/-- The step that ends a program. -/
def endStep : Step :=
  .dispatch (.str "end_code") []

theorem outcome_endStep (isOpen : session.program.isFinal = false) :
    ∃ ended, outcome (Step.run endStep) session = (.ok (), ended) ∧
      ended.program = session.program.finished := by
  have reads : Task.read (.str "end_code") [] = .finish := by rfl
  have finishes : outcome Task.finish.perform session.program =
      (.ok none, session.program.finished) := by
    have ends := Build.run_finish_open isOpen
    rw [Task.perform, outcome_bind]
    change outcome Build.finish session.program = _ at ends
    rw [ends]
    rfl
  rw [endStep, Step.run, outcome_recording, outcome_build, outcome_bind, reads, finishes]
  exact ⟨_, rfl, rfl⟩

/-- A body that leaves its program open may end it instead, and then nothing is recorded any more.
-/
theorem emits_behind_end {emitted : List Value}
    (returns : outcome (Step.runAll steps) initial = (.ok (), after))
    (emits : Program.initial.Emits emitted after.program) (isOpen : after.program.isFinal = false)
    (rest : List Step) :
    Program.initial.Emits emitted
      (outcome (Step.runAll (steps ++ endStep :: rest)) initial).2.program := by
  obtain ⟨ended, ends, finished⟩ := outcome_endStep isOpen
  have split : outcome (Step.runAll (steps ++ endStep :: rest)) initial =
      outcome (Step.runAll rest) ended := by
    rw [Step.runAll_append, outcome_bind, returns]
    change outcome (Step.runAll (endStep :: rest)) after = _
    rw [Step.runAll, outcome_bind, ends]
  have isFinal : ended.program.isFinal = true := by rw [finished]; rfl
  obtain ⟨stays, same⟩ := (lines_only_grow.2.1 rest ended).1.final isFinal
  rw [split]
  refine (Program.emits_of_final stays).mpr ?_
  rw [same, finished, Program.code_finished, (Program.emits_of_open isOpen).mp emits]
  rfl

/-- A body of steps that asks its listing for reading only may be loaded, it may define a program,
and it may be run inside a new one.  If it fails, all three fail with the same fault, and the
program is left as the body has left it.  If it returns, all three give the header, the lines that
the body has recorded before its end, and the end, which is recorded exactly once.  It is the same
for every body that records these lines, whether it leaves the program open or ends it behind them;
so a body that leaves it open may as well end it. -/
theorem definitions_agree (steps : List Step)
    (reading : Step.AllAllowed (.building fun _ => True) steps) :
    let body := outcome (Step.runAll steps) initial
    (∀ fault, body.1 = .error fault →
      load steps = .error fault ∧ defined steps = .error fault ∧
        runInside steps = (.error fault, body.2.program) ∧
        define steps = (.error fault, body.2)) ∧
    (body.1 = .ok () → ∃ emitted program,
      Program.initial.Emits emitted body.2.program ∧
        Defines steps program ∧ program.isFinal = true ∧
        program.code = Program.lineValues Device.header ++ emitted ++ [.str "\tend", .str ""] ∧
        Step.ends (.whole steps) initial = 1 ∧
        (Step.AllAllowed (.building Allowance.flush) steps →
          program.code.countP (Pins.isWord "\tend") = 1) ∧
        (∀ others, (outcome (Step.runAll others) initial).1 = .ok () →
          Program.initial.Emits emitted (outcome (Step.runAll others) initial).2.program →
          ∃ other, Defines others other ∧ other.isFinal = true ∧ other.code = program.code) ∧
        ∀ rest, body.2.program.isFinal = false →
          (outcome (Step.runAll (steps ++ endStep :: rest)) initial).1 = .ok () →
          ∃ other, Defines (steps ++ endStep :: rest) other ∧ other.isFinal = true ∧
            other.code = program.code) := by
  intro body
  have split : outcome (Step.runAll steps) initial = (body.1, body.2) := rfl
  refine ⟨fun fault fails => ?_, fun returns => ?_⟩
  · rw [fails] at split
    have stops := define_of_error split
    refine ⟨?_, ?_, runInside_of_error split, stops⟩
    · rw [load, stops]
      rfl
    · rw [defined, stops]
      rfl
  · rw [returns] at split
    obtain ⟨emitted, emits⟩ := (history_of_runAll reading).exists_emitted rfl
    obtain ⟨program, defines, isFinal, code⟩ := exists_defines returns emits
    have same : ∀ others, (outcome (Step.runAll others) initial).1 = .ok () →
        Program.initial.Emits emitted (outcome (Step.runAll others) initial).2.program →
        ∃ other, Defines others other ∧ other.isFinal = true ∧ other.code = program.code := by
      intro others others_return alike
      rw [code]
      exact exists_defines others_return alike
    refine ⟨emitted, program, emits, defines, isFinal, code, ends_whole_of_ok reading split,
      fun flush => ?_, same, fun rest isOpen others_return => ?_⟩
    · have markers := (history_runInside flush).endMarkers_of_building
      rw [ends_whole_of_ok reading split, defines.runInside, Program.endMarkers_initial] at markers
      exact markers
    · exact same _ others_return (emits_behind_end split emits isOpen rest)

/-- A body that goes on behind a fault and is run inside its own program ends it there, and then it
is not ended again. -/
theorem definitions_agree_nested :
    let steps : List Step := [.whole [.dispatch (.str "increment") [.str "ticks"],
      .tolerate (.dispatch (.str "set") [.str "led"])]]
    Step.AllAllowed (.building fun _ => True) steps ∧
      (outcome (Step.runAll steps) initial).1 = .ok () ∧
      ∃ program, Defines steps program ∧ program.code.countP (Pins.isWord "\tend") = 1 ∧
        program.code = Program.lineValues Device.header ++
          ["\tincf\tticks, f", "", "\tend", ""].map .str := by
  intro steps
  have reading : Step.AllAllowed (.building fun _ => True) steps :=
    ⟨⟨⟨trivial, trivial⟩, ⟨trivial, trivial⟩, trivial⟩, trivial⟩
  have flush : Step.AllAllowed (.building Allowance.flush) steps :=
    ⟨⟨⟨trivial, trivial⟩, ⟨trivial, trivial⟩, trivial⟩, trivial⟩
  have returns : (outcome (Step.runAll steps) initial).1 = .ok () := by rfl
  obtain ⟨emitted, program, _, defines, _, _, _, marked, _⟩ :=
    (definitions_agree steps reading).2 returns
  have left : (runInside steps).2.code = Program.lineValues Device.header ++
      ["\tincf\tticks, f", "", "\tend", ""].map .str := by rfl
  rw [defines.runInside] at left
  exact ⟨reading, returns, program, defines, marked flush, left⟩

end Session

end PicAssembly
