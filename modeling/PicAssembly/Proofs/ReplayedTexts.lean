import PicAssembly.Proofs.CommandRuns
import PicAssembly.Proofs.LastCommand

/-!
# Texts of selected programs

The text that a run writes is told by what reaches the selected program: the header, the lines that
each demand appends, and the end, unless a demand has ended the program.  So two runs in which the
same demands reach the programs that are selected write the same text, whatever else their scripts
do and whatever names they use, and it makes no difference whether one of them replays the end as
well.  The commands that are replayed through names of the program are not all that reaches it:
a command that is replayed into another program may ask this one for its keys.
-/

namespace PicAssembly

/-- Along a history with reading requests only, the lines that are added are texts. -/
theorem History.exists_texts {name : Value → Prop} {before after : Program} {ends : Nat}
    (history : History (.building name) before ends after) :
    ∃ lines : List String, after.code = before.code ++ lines.map .str := by
  induction history with
  | start => exact ⟨[], (List.append_nil _).symm⟩
  | @record _ program lines _ _ _ induction =>
      obtain ⟨texts, code⟩ := induction
      refine ⟨texts ++ lines.map Line.text, ?_⟩
      rw [Program.code_record, code, List.append_assoc, List.map_append, List.map_map]
      rfl
  | finish _ _ induction =>
      obtain ⟨texts, code⟩ := induction
      refine ⟨texts ++ ["\tend", ""], ?_⟩
      rw [Program.code_finished, code, List.append_assoc, List.map_append]
      rfl
  | rearrange _ unchanged induction =>
      rw [Program.code, unchanged]
      exact induction
  | ask request _ allowed induction =>
      rw [Program.code, Listing.Request.answer_of_isReading allowed]
      exact induction

/-! ## Lines of demands -/

namespace Program

/-- Demands that reach a program one after another, with the lines that each of them appends. -/
inductive Takes : Program → List Demand → List (List String) → Prop
  | nothing (program : Program) : Takes program [] []
  | demand {program : Program} {demand : Demand} {demands : List Demand} {lines : List String}
      {more : List (List String)}
      (appends : (demand.after program).code = program.code ++ lines.map .str)
      (takes : Takes (demand.after program) demands more) :
      Takes program (demand :: demands) (lines :: more)

theorem Takes.code {program : Program} {demands : List Demand} {appended : List (List String)}
    (takes : program.Takes demands appended) :
    (program.afterAll demands).code = program.code ++ appended.flatten.map .str := by
  induction takes with
  | nothing program => exact (List.append_nil _).symm
  | @demand program demand demands lines more appends _ induction =>
      rw [List.flatten_cons, List.map_append, ← List.append_assoc, ← appends]
      exact induction

/-- Demands that build a program append texts. -/
theorem exists_takes (program : Program) {demands : List Demand}
    (building : ∀ demand ∈ demands, demand.IsBuilding) :
    ∃ appended, program.Takes demands appended := by
  induction demands generalizing program with
  | nil => exact ⟨[], .nothing program⟩
  | cons demand demands induction =>
      obtain ⟨first, others⟩ := List.forall_mem_cons.mp building
      obtain ⟨_, history⟩ := Demand.exists_history first program
      obtain ⟨lines, appends⟩ := History.exists_texts history
      obtain ⟨more, takes⟩ := induction (demand.after program) others
      exact ⟨lines :: more, .demand appends takes⟩

/-- The lines of a program behind all demands, which is then ended if it is not final already. -/
theorem Takes.code_ended {demands : List Demand} {appended : List (List String)}
    (takes : initial.Takes demands appended) :
    (initial.afterAll demands).ended.code = (Device.header.map Line.text ++ appended.flatten ++
      if (initial.afterAll demands).isFinal then [] else ["\tend", ""]).map .str := by
  have header : initial.code = (Device.header.map Line.text).map .str := (List.map_map ..).symm
  rw [List.map_append, List.map_append, ← header, ← takes.code, ended]
  split
  · exact (List.append_nil _).symm
  · exact code_finished _

end Program

/-! ## Demands that differ in an end -/

theorem Command.ended_performAll_finish (program : Program) :
    ((performAll [run .finish]).run program).2.ended = program.ended := by
  have finishes : ((performAll [run .finish]).run program).2 = (Build.finish.run program).2 := by
    rw [performAll_single, perform, Build.run_bind, Task.perform, Build.run_bind]
    cases Build.finish.run program with
    | mk outcome reached => cases outcome <;> rfl
  rw [finishes]
  cases state : program.isFinal with
  | true => rw [Build.run_finish_final state]
  | false =>
      rw [Build.run_finish_open state, Program.ended, if_pos (Program.isFinal_finished _),
        Program.ended, state]
      rfl

namespace Demand

/-- The demand of replaying commands. -/
def replay (commands : Value) : Demand :=
  .request (.replay commands)

theorem after_replay (program : Program) (commands : Value) :
    (replay commands).after program =
      ((Command.performAll (Command.sequence commands)).run program).2 := by
  rw [replay, after, Request.perform, Build.run_bind, Build.replay]
  cases (Command.performAll (Command.sequence commands)).run program with
  | mk outcome reached => cases outcome <;> rfl

/-- The commands that a demand replays, if it replays any. -/
def replayed? : Demand → Option Value
  | request (.replay commands) => some commands
  | _ => none

/-- Whether a demand is a request for keys. -/
def isKeys : Demand → Bool
  | keys _ => true
  | _ => false

/-- Demands that are the same, but for an end of the program that is replayed last on one side. -/
inductive SameUpToEnd : List Demand → List Demand → Prop
  | same (demands : List Demand) : SameUpToEnd demands demands
  | behind (demands : List Demand) {last : Value}
      (ends : Command.sequence last = [.run .finish]) :
      SameUpToEnd demands (demands ++ [replay last])
  | inside (demands : List Demand) {last longer : Value}
      (ends : Command.sequence longer = Command.sequence last ++ [.run .finish]) :
      SameUpToEnd (demands ++ [replay last]) (demands ++ [replay longer])
  | symm {front back : List Demand} (same : SameUpToEnd front back) : SameUpToEnd back front

/-- An end behind the last commands does what is done at the end of a run anyway. -/
theorem SameUpToEnd.ended_eq {front back : List Demand} (same : SameUpToEnd front back)
    (program : Program) : (program.afterAll front).ended = (program.afterAll back).ended := by
  induction same with
  | same demands => rfl
  | @behind demands last ends =>
      rw [Program.afterAll_append]
      change _ = ((replay last).after _).ended
      rw [after_replay, ends, Command.ended_performAll_finish]
  | @inside demands last longer ends =>
      rw [Program.afterAll_append, Program.afterAll_append]
      change ((replay last).after _).ended = ((replay longer).after _).ended
      rw [after_replay, after_replay, ends, Command.performAll_append, Build.run_bind]
      rcases (Command.performAll (Command.sequence last)).run (program.afterAll demands) with
        ⟨fault | done, reached⟩
      · rfl
      · exact (Command.ended_performAll_finish reached).symm
  | symm _ induction => exact induction.symm

end Demand

namespace CommandLine

variable {Content : Type} {host : Host Content} {environment : Environment}
  {tree : FileTree Content} {arguments : List String} {options : Options} {script : Path}
  {number : Nat} {source : String}

/-- What reaches the program with a number in a run. -/
def demands (host : Host Content) (environment : Environment) (tree : FileTree Content)
    (arguments : List String) (number : Nat) : List Demand :=
  match start host environment tree arguments with
  | .refused _ => []
  | .script _ _ behaviour => behaviour.demands number (outset environment tree)

theorem demands_of_start {behaviour : Script Content Unit}
    (starts : start host environment tree arguments = .script options script behaviour)
    (number : Nat) :
    demands host environment tree arguments number =
      behaviour.demands number (outset environment tree) := by
  rw [demands, starts]

/-- Every program is left as a new one would be by what reaches it. -/
theorem programs_leftWorld (host : Host Content) (environment : Environment)
    (tree : FileTree Content) (arguments : List String) (number : Nat) :
    (leftWorld host environment tree arguments).programs number =
      Program.initial.afterAll (demands host environment tree arguments number) := by
  rw [leftWorld, demands]
  cases start host environment tree arguments with
  | refused refusal => rfl
  | script options script behaviour => exact Script.programs_run number behaviour _

/-- A run that is going to write a text, which the file at the output path holds if the run
succeeds. -/
structure Writes (host : Host Content) (environment : Environment) (tree : FileTree Content)
    (arguments : List String) (options : Options) (script : Path) (source : String) : Prop where
  planned : ∃ path output summary, IsOutput options script path ∧
    (plan host environment tree arguments).1 = .write path source output summary
  written : (run host environment tree arguments).ending = .exit 0 → ∃ path,
    IsOutput options script path ∧ (leftWorld host environment tree arguments).WritesAt path
      (host.ofText source) (run host environment tree arguments).tree

theorem Completes.writes
    (completes : Completes host environment tree arguments options script number)
    (prints : ((leftWorld host environment tree arguments).programs number).ended.listing.text =
      .ok source) :
    Writes host environment tree arguments options script source := by
  let left := leftWorld host environment tree arguments
  obtain ⟨_, starts, _⟩ := completes.returns
  have isOutput : IsOutput options script (outputPath options script) :=
    (isOutput_iff options (parts_ne_nil_of_start starts) _).mpr rfl
  have planned := completes.plan_eq prints
  have carried : run host environment tree arguments =
      (Plan.write (outputPath options script) source left.printed
        (summary options script (left.programs number) source)).carryOut host left.toSite :=
    run_of_plan planned
  refine ⟨⟨_, _, _, isOutput, congrArg Prod.fst planned⟩, ?_⟩
  rcases carryOut_write_cases host left.toSite (outputPath options script) source left.printed
    (summary options script (left.programs number) source) with
      ⟨fault, after, failed, _⟩ | ⟨fault, after, _, failed, _⟩ | ⟨after, _, succeeded, writes⟩
  · rw [carried, failed]
    exact nofun
  · rw [carried, failed]
    exact nofun
  · rw [carried, succeeded]
    exact fun _ => ⟨_, isOutput, writes⟩

/-- A run that performs its script up to the end and selects a program is going to write the header,
the lines that what reaches this program appends in order, and the end, unless the program has been
ended.  Whatever else two scripts do and whatever names they use, if the same demands reach the
programs that are selected, perhaps with the end replayed behind the ones or the others, their runs
write the same text. -/
theorem run_writes_demands
    (completes : Completes host environment tree arguments options script number)
    (building : ∀ demand ∈ demands host environment tree arguments number, demand.IsBuilding) :
    let reaching := demands host environment tree arguments number
    ∃ appended source,
      (leftWorld host environment tree arguments).programs number =
        Program.initial.afterAll reaching ∧
      Program.initial.Takes reaching appended ∧
      source = "\n".intercalate (Device.header.map Line.text ++ appended.flatten ++
        if (Program.initial.afterAll reaching).isFinal then [] else ["\tend", ""]) ∧
      Writes host environment tree arguments options script source ∧
      ∀ {OtherContent : Type} {otherHost : Host OtherContent} {otherEnvironment : Environment}
        {otherTree : FileTree OtherContent} {otherArguments : List String}
        {otherOptions : Options} {otherScript : Path} {otherNumber : Nat},
        Completes otherHost otherEnvironment otherTree otherArguments otherOptions otherScript
          otherNumber →
        Demand.SameUpToEnd reaching
          (demands otherHost otherEnvironment otherTree otherArguments otherNumber) →
        Writes otherHost otherEnvironment otherTree otherArguments otherOptions otherScript
          source := by
  intro reaching
  obtain ⟨appended, takes⟩ := Program.initial.exists_takes building
  have left_eq := programs_leftWorld host environment tree arguments number
  have prints : (Program.initial.afterAll reaching).ended.listing.text = .ok ("\n".intercalate
      (Device.header.map Line.text ++ appended.flatten ++
        if (Program.initial.afterAll reaching).isFinal then [] else ["\tend", ""])) :=
    Listing.text_of_toList takes.code_ended
  refine ⟨appended, _, left_eq, takes, rfl, completes.writes (left_eq ▸ prints),
    fun others same => others.writes ?_⟩
  rw [programs_leftWorld, ← same.ended_eq]
  exact prints

section Samples

/-- A command that is replayed as it stands. -/
def tick : Value :=
  .list [.list [.str "increment", .str "ticks"]]

/-- The end as the only command. -/
def close : Value :=
  .list [.list [.str "end_code"]]

/-- The text of a script that replays a command through a second name of a program, next to another
program, which it ends, and gives the first name up. -/
def aliasedText : String :=
  "from pypic import Program, replay\np = Program()\nq = p\nr = Program()\n" ++
    "replay(q, [['increment', 'ticks']])\nreplay(r, [['end_code']])\np = 3\n"

/-- What that script does. -/
def aliasedScript : Script String Unit :=
  .bind "Program" programType <| .bind "replay" replayFunction <|
  .create fun first => .bind "p" (.program first) <| .bind "q" (.program first) <|
  .create fun second => .bind "r" (.program second) do
    .replaying "q" tick
    .replaying "r" close
    .bind "p" (.value (.int 3)) (.finish ())

/-- The text of a script that replays the same command, and the end behind it. -/
def closedText : String :=
  "from pypic import Program, replay\na = Program()\n" ++
    "replay(a, [['increment', 'ticks']])\nreplay(a, [['end_code']])\n"

/-- What that script does. -/
def closedScript : Script String Unit :=
  .bind "Program" programType <| .bind "replay" replayFunction <|
  .create fun number => .bind "a" (.program number) do
    .replaying "a" tick
    .replaying "a" close

/-- A directory with the first script alone. -/
def aliasedTree : FileTree String :=
  ⟨[(["s.py"], aliasedText)], []⟩

/-- The command line of its run. -/
def aliasedOptions : Options :=
  ⟨"s.py", none, some (.str "q"), false⟩

theorem start_aliased :
    start (.knowing [(aliasedText, aliasedScript)]) ⟨[], []⟩ aliasedTree
      ["s.py", "--program", "q"] = .script aliasedOptions (.absolute ["s.py"]) aliasedScript := by
  have reads : Options.ofArguments ["s.py", "--program", "q"] = .ok aliasedOptions := by rfl
  have found : scriptPlace ⟨[], []⟩ aliasedOptions = .ok ["s.py"] := by rfl
  have held : aliasedTree.find (.absolute ["s.py"]) = .ok (some aliasedText) := by rfl
  rw [start_of_find reads found held, Host.interpret_knowing]

theorem completes_aliased :
    Completes (.knowing [(aliasedText, aliasedScript)]) ⟨[], []⟩ aliasedTree
      ["s.py", "--program", "q"] aliasedOptions (.absolute ["s.py"]) 0 := by
  refine completes_of_start start_aliased ?_ ?_
  · rfl
  · rfl

theorem demands_aliased :
    demands (.knowing [(aliasedText, aliasedScript)]) ⟨[], []⟩ aliasedTree
      ["s.py", "--program", "q"] 0 = [.replay tick] := by
  rw [demands_of_start start_aliased]
  rfl

/-- A directory with the second script alone. -/
def closedTree : FileTree String :=
  ⟨[(["t.py"], closedText)], []⟩

/-- The command line of its run. -/
def closedOptions : Options :=
  ⟨"t.py", none, none, false⟩

theorem start_closed :
    start (.knowing [(closedText, closedScript)]) ⟨[], []⟩ closedTree
      ["t.py"] = .script closedOptions (.absolute ["t.py"]) closedScript := by
  have reads : Options.ofArguments ["t.py"] = .ok closedOptions := by rfl
  have found : scriptPlace ⟨[], []⟩ closedOptions = .ok ["t.py"] := by rfl
  have held : closedTree.find (.absolute ["t.py"]) = .ok (some closedText) := by rfl
  rw [start_of_find reads found held, Host.interpret_knowing]

theorem completes_closed :
    Completes (.knowing [(closedText, closedScript)]) ⟨[], []⟩ closedTree
      ["t.py"] closedOptions (.absolute ["t.py"]) 0 := by
  refine completes_of_start start_closed ?_ ?_
  · rfl
  · rfl

theorem demands_closed :
    demands (.knowing [(closedText, closedScript)]) ⟨[], []⟩ closedTree
      ["t.py"] 0 = [.replay tick, .replay close] := by
  rw [demands_of_start start_closed]
  rfl

/-- The two scripts give the same text, where one of the programs is ended by the run. -/
theorem run_writes_demands_of_alias :
    let source := "\n".intercalate (Device.header.map Line.text ++
      ["\tincf\tticks, f", ""] ++ ["\tend", ""])
    Writes (.knowing [(aliasedText, aliasedScript)]) ⟨[], []⟩ aliasedTree
        ["s.py", "--program", "q"] aliasedOptions (.absolute ["s.py"]) source ∧
      Writes (.knowing [(closedText, closedScript)]) ⟨[], []⟩ closedTree ["t.py"] closedOptions
        (.absolute ["t.py"]) source := by
  intro source
  have building : ∀ demand ∈ demands (.knowing [(aliasedText, aliasedScript)]) ⟨[], []⟩
      aliasedTree ["s.py", "--program", "q"] 0, demand.IsBuilding := by
    rw [demands_aliased]
    rintro demand (_ | ⟨_, ⟨⟩⟩)
    rfl
  obtain ⟨appended, text, -, takes, rfl, writes, alike⟩ :=
    run_writes_demands completes_aliased building
  have same := alike completes_closed
  rw [demands_aliased] at takes writes same
  rw [demands_closed] at same
  cases takes with
  | @demand _ _ _ lines _ appends others =>
      cases others
      have known : ((Demand.replay tick).after .initial).code =
          Program.initial.code ++ ["\tincf\tticks, f", ""].map .str := by rfl
      have same_lines := List.append_cancel_left (appends.symm.trans known)
      obtain rfl := (List.map_inj_right fun _ _ => Value.str.inj).mp same_lines
      exact ⟨writes, same (.behind [.replay tick] (by rfl))⟩

/-- The text of a script that replays a command, and that goes on behind the replay of another
command into another program, which asks the first one for its keys. -/
def askingText : String :=
  "from pypic import Program, replay\np = Program()\nr = Program()\n" ++
    "replay(p, [['increment', 'ticks']])\n" ++
    "try:\n    replay(r, [['config_io', p]])\nexcept TypeError:\n    pass\n"

/-- What that script does. -/
def askingScript : Script String Unit :=
  .bind "Program" programType <| .bind "replay" replayFunction <|
  .create fun first => .bind "p" (.program first) <|
  .create fun second => .bind "r" (.program second) do
    .replaying "p" tick
    let pins : Value := .thing (.program (some first))
    let outcome ← (Script.replaying "r" (.list [.list [.str "config_io", pins]])).attempt
    match outcome with
    | .ok () => pure ()
    | .error fault => if fault.kind == .type then pure () else .raise fault

/-- A directory with this script alone. -/
def askingTree : FileTree String :=
  ⟨[(["s.py"], askingText)], []⟩

/-- The command line of its run. -/
def askingOptions : Options :=
  ⟨"s.py", none, some (.str "p"), false⟩

theorem start_asking :
    start (.knowing [(askingText, askingScript)]) ⟨[], []⟩ askingTree
      ["s.py", "--program", "p"] = .script askingOptions (.absolute ["s.py"]) askingScript := by
  have reads : Options.ofArguments ["s.py", "--program", "p"] = .ok askingOptions := by rfl
  have found : scriptPlace ⟨[], []⟩ askingOptions = .ok ["s.py"] := by rfl
  have held : askingTree.find (.absolute ["s.py"]) = .ok (some askingText) := by rfl
  rw [start_of_find reads found held, Host.interpret_knowing]

theorem completes_asking :
    Completes (.knowing [(askingText, askingScript)]) ⟨[], []⟩ askingTree
      ["s.py", "--program", "p"] askingOptions (.absolute ["s.py"]) 0 := by
  refine completes_of_start start_asking ?_ ?_
  · rfl
  · rfl

theorem demands_asking :
    demands (.knowing [(askingText, askingScript)]) ⟨[], []⟩ askingTree
      ["s.py", "--program", "p"] 0 = [.replay tick, .keys (.program none)] := by
  rw [demands_of_start start_asking]
  rfl

theorem writes_asking :
    Writes (.knowing [(askingText, askingScript)]) ⟨[], []⟩ askingTree ["s.py", "--program", "p"]
      askingOptions (.absolute ["s.py"])
      ("\n".intercalate (Device.header.map Line.text ++
        ["\tincf\tticks, f", "", "\tcall\tKeys", "\tend", ""])) := by
  refine completes_asking.writes ?_
  rw [programs_leftWorld, demands_asking]
  apply Listing.text_of_toList
  rfl

theorem writes_aliased :
    Writes (.knowing [(aliasedText, aliasedScript)]) ⟨[], []⟩ aliasedTree
      ["s.py", "--program", "q"] aliasedOptions (.absolute ["s.py"])
      ("\n".intercalate (Device.header.map Line.text ++
        ["\tincf\tticks, f", "", "\tend", ""])) := by
  refine completes_aliased.writes ?_
  rw [programs_leftWorld, demands_aliased]
  apply Listing.text_of_toList
  rfl

/-- Two scripts replay the same commands through names of the selected programs and ask nothing else
of them, yet their texts differ: one of them replays a command into another program, which asks the
selected one for its keys. -/
theorem exists_text_beside_replays :
    ∃ (host otherHost : Host String) (environment : Environment) (tree otherTree : FileTree String)
      (arguments otherArguments : List String) (options otherOptions : Options) (script : Path)
      (number otherNumber : Nat) (source otherSource : String),
      Completes host environment tree arguments options script number ∧
      Completes otherHost environment otherTree otherArguments otherOptions script otherNumber ∧
      (demands host environment tree arguments number).filterMap Demand.replayed? =
        (demands otherHost environment otherTree otherArguments otherNumber).filterMap
          Demand.replayed? ∧
      (∀ demand ∈ demands host environment tree arguments number,
        demand.replayed?.isSome ∨ demand.isKeys = true) ∧
      (∀ demand ∈ demands otherHost environment otherTree otherArguments otherNumber,
        demand.replayed?.isSome) ∧
      Writes host environment tree arguments options script source ∧
      Writes otherHost environment otherTree otherArguments otherOptions script otherSource ∧
      source ≠ otherSource := by
  refine ⟨_, _, _, _, _, _, _, _, _, _, _, _, _, _, completes_asking, completes_aliased, ?_, ?_, ?_,
    writes_asking, writes_aliased, by decide +kernel⟩
  · rw [demands_asking, demands_aliased]
    rfl
  · rw [demands_asking]
    decide
  · rw [demands_aliased]
    decide

end Samples

end CommandLine

end PicAssembly
