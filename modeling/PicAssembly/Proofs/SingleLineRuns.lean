import PicAssembly.Proofs.CommandRuns
import PicAssembly.Proofs.SingleLines

/-!
# Sessions without line breaks

What a session keeps is kept unbroken with its program, through every step that mentions no text
with a line break, whether the step succeeds or fails.  So at the end of every run the text of the
program has as many lines as are counted for it.
-/

namespace PicAssembly

open Build (Unbreaking)

namespace Session

variable {α : Type}

/-- Whether a session has no line break in its program nor in a scope or a call that it keeps. -/
structure IsUnbroken (session : Session) : Prop where
  program : session.program.IsUnbroken
  replies : ∀ kept ∈ session.replies, kept.2.IsUnbroken

theorem isUnbroken_initial : initial.IsUnbroken :=
  ⟨Program.isUnbroken_initial, nofun⟩

/-- A step of a session that leaves it unbroken. -/
abbrev Unbreaks (step : Run α) (described : α → Prop) : Prop :=
  Maintains IsUnbroken step described

theorem unbreaks_build {step : Build α} {described : α → Prop}
    (inner : Unbreaking step described) : Unbreaks (build step) described := by
  intro session isUnbroken
  have reached := inner session.program isUnbroken.program
  rw [outcome_build]
  exact ⟨trivial, ⟨reached.valid, isUnbroken.replies⟩, reached.result⟩

theorem unbreaks_get : Unbreaks get IsUnbroken := by
  intro session isUnbroken
  refine ⟨trivial, isUnbroken, fun result succeeds => ?_⟩
  cases succeeds
  exact isUnbroken

theorem unbreaks_modify {change : Session → Session}
    (keeps : ∀ session, session.IsUnbroken → (change session).IsUnbroken) :
    Unbreaks (modify change) fun _ => True :=
  fun session isUnbroken => ⟨trivial, keeps session isUnbroken, fun _ _ => trivial⟩

theorem unbreaks_recording {step : Run Answer} (inner : Unbreaks step fun _ => True) :
    Unbreaks (recording step) fun _ => True := by
  intro session isUnbroken
  have reached := inner session isUnbroken
  rw [outcome_recording]
  rcases ran : outcome step session with ⟨fault | answer, after⟩ <;> rw [ran] at reached
  · exact ⟨trivial, ⟨reached.valid.program, reached.valid.replies⟩, fun _ _ => trivial⟩
  · exact ⟨trivial, ⟨reached.valid.program, reached.valid.replies⟩, fun _ _ => trivial⟩

theorem unbreaks_reply (id : String) : Unbreaks (reply id) Reply.IsUnbroken := by
  refine unbreaks_get.bind_last fun session isUnbroken => ?_
  split
  · next kept found =>
      obtain ⟨front, back, split, -⟩ := List.lookup_eq_some_iff.mp found
      exact .pure (isUnbroken.replies (id, kept) (split ▸ List.mem_append_cons_self))
  · exact .throw _

theorem unbreaks_keep (id : String) {reply : Reply} (isUnbroken : reply.IsUnbroken) :
    Unbreaks (keep id reply) fun _ => True := by
  refine unbreaks_modify fun session valid => ⟨valid.program, fun kept member => ?_⟩
  rcases List.mem_cons.mp member with rfl | earlier
  · exact isUnbroken
  · exact valid.replies kept earlier

theorem unbreaks_enter {scope : Scope} (isUnbroken : scope.IsUnbroken) :
    Unbreaks (enter scope) fun _ => True := by
  refine (unbreaks_build (Scope.unbreaking_enter isUnbroken)).bind_last fun _ _ => ?_
  cases scope with
  | block name repeats => exact .pure trivial
  | constants owner => exact unbreaks_keep _ isUnbroken

theorem unbreaks_kept (id : String) : Unbreaks (kept id) fun _ => True := by
  refine unbreaks_get.bind_last fun session _ => ?_
  split
  · exact .pure trivial
  · exact .throw _

section

variable {body : Run Unit} (inner : Unbreaks body fun _ => True)

include inner

theorem unbreaks_inside {scope : Scope} (isUnbroken : scope.IsUnbroken) :
    Unbreaks (inside scope body) fun _ => True := by
  refine (unbreaks_enter isUnbroken).bind_last fun _ _ => ?_
  refine Follows.bind_last (inner.tryCatch fun fault => ?_) fun _ _ => ?_
  · exact (unbreaks_build scope.unbreaking_close).bind_last fun _ _ => .throw fault
  · exact unbreaks_build (Scope.unbreaking_leave isUnbroken)

theorem unbreaks_ending : Unbreaks (ending body) fun _ => True :=
  inner.bind_last fun _ _ => unbreaks_build Build.unbreaking_finishOpen

theorem unbreaks_insideReply {reply : Reply} (isUnbroken : reply.IsUnbroken) :
    Unbreaks (insideReply reply body) fun _ => True := by
  cases reply with
  | scope scope => exact unbreaks_inside inner isUnbroken
  | value | operation | subroutine => exact .throw _

theorem unbreaks_applyReply {reply : Reply} (isUnbroken : reply.IsUnbroken) :
    Unbreaks (applyReply reply body) fun _ => True := by
  cases reply with
  | scope scope => exact (unbreaks_inside inner isUnbroken).bind_last fun _ _ => .pure trivial
  | value | operation | subroutine =>
      have function : Unbroken (Value.thing .function).text := by decide
      have called := Reply.unbreaking_callWith isUnbroken function
      exact (unbreaks_build called).bind_last fun _ _ => .pure trivial

end

theorem unbreaks_ask {request : Listing.Request} (isReading : request.isReading = true) :
    Unbreaks (build (ask request)) fun _ => True :=
  unbreaks_build (keeps_ask_of_isReading isReading _).maintains

end Session

namespace Step

/-- The names and the operands that a step hands over itself. -/
def operands : Step → List Value
  | dispatch name arguments => name :: arguments
  | member name arguments => .str name :: arguments.values
  | within name arguments _ | make _ name arguments | register _ name arguments =>
      .str name :: arguments
  | call name | declare _ name => [name]
  | _ => []

/-- The sequences of commands that a step replays. -/
def sequences : Step → List Value
  | replay commands => [commands]
  | member name arguments => if name = "replay" then arguments.values else []
  | within name arguments _ | make _ name arguments => if name = "replay" then arguments else []
  | _ => []

/-- The steps that a step holds. -/
def held : Step → List Step
  | within _ _ body | whole body | apply _ body => body
  | tolerate step => [step]
  | _ => []

/-- Whether a value is an operand, a symbol, a label or a name of a step, of a command that it
replays, or of a step that it holds. -/
inductive Mentions : Step → Value → Prop
  | operand {step : Step} {operand : Value} (member : operand ∈ step.operands) :
      Mentions step operand
  | command {step : Step} {commands command operand : Value} {items : List Value}
      (member : commands ∈ step.sequences) (elements : commands.elements? = some items)
      (listed : command ∈ items) (mentions : Command.Mentions command operand) :
      Mentions step operand
  | held {step inner : Step} {operand : Value} (member : inner ∈ step.held)
      (mentions : Mentions inner operand) :
      Mentions step operand

/-- Whether nothing that a step mentions is a text with a line break. -/
def MentionsUnbroken (step : Step) : Prop :=
  ∀ operand, step.Mentions operand → operand.IsUnbroken

namespace MentionsUnbroken

theorem of_parts {step : Step} (operands : ∀ operand ∈ step.operands, operand.IsUnbroken)
    (sequences : ∀ commands ∈ step.sequences, Command.MentionsUnbroken commands)
    (held : ∀ inner ∈ step.held, inner.MentionsUnbroken) : step.MentionsUnbroken := by
  intro operand mentions
  cases mentions with
  | operand member => exact operands operand member
  | command member elements listed mentions =>
      exact sequences _ member _ elements _ listed operand mentions
  | held member mentions => exact held _ member operand mentions

variable {step : Step} (unbroken : step.MentionsUnbroken)

include unbroken

theorem operands : ∀ operand ∈ step.operands, Unbroken operand.text :=
  fun operand member => (unbroken operand (.operand member)).text

theorem sequences : ∀ commands ∈ step.sequences, Command.MentionsUnbroken commands :=
  fun _ member _ elements _ listed operand mentions =>
    unbroken operand (.command member elements listed mentions)

theorem held : ∀ inner ∈ step.held, inner.MentionsUnbroken :=
  fun _ member operand mentions => unbroken operand (.held member mentions)

end MentionsUnbroken

open Session (Unbreaks unbreaks_build unbreaks_recording)

/-- A request with positional arguments for a member whose name and arguments a step mentions. -/
theorem unbreaks_request {step : Step} {name : String} {arguments : List Value}
    (unbroken : step.MentionsUnbroken) (operands : step.operands = .str name :: arguments)
    (sequences : step.sequences = if name = "replay" then arguments else []) :
    Unbreaking (Member.request name (.ofList arguments)) Reply.IsUnbroken := by
  have texts := unbroken.operands
  have commands := unbroken.sequences
  rw [operands, List.forall_mem_cons] at texts
  have values : (Arguments.ofList arguments).values = arguments := List.append_nil _
  obtain ⟨named, given⟩ := texts
  refine Member.unbreaking_request named (by rwa [values]) fun isReplay => ?_
  rw [sequences, if_pos isReplay] at commands
  rwa [values]

mutual

/-- Every step that mentions no text with a line break leaves a session unbroken. -/
theorem unbreaks_run : ∀ {step : Step}, step.Allowed (.building fun _ => True) →
    step.MentionsUnbroken → Unbreaks (run step) fun _ => True
  | tolerate step, allowed, unbroken => by
      rw [run]
      have inner : step.Allowed (.building fun _ => True) := allowed
      have held := unbroken.held step List.mem_cons_self
      exact (unbreaks_run inner held).tryCatch fun _ => .pure trivial
  | dispatch name arguments, _, unbroken => by
      rw [run]
      have texts := List.forall_mem_cons.mp unbroken.operands
      refine unbreaks_recording (unbreaks_build ?_)
      have task := Task.isUnbroken_read arguments name texts.1 texts.2
      exact (Task.unbreaking_perform task).bind_last fun _ _ => .pure trivial
  | member name arguments, _, unbroken => by
      rw [run]
      have texts := List.forall_mem_cons.mp unbroken.operands
      have commands := unbroken.sequences
      refine unbreaks_recording (unbreaks_build ?_)
      have asks : Unbreaking (Member.request name arguments) Reply.IsUnbroken := by
        refine Member.unbreaking_request texts.1 texts.2 fun isReplay => ?_
        rwa [sequences, if_pos isReplay] at commands
      exact asks.bind_last fun _ _ => .pure trivial
  | call name, _, unbroken => by
      rw [run]
      have single : ∀ text ∈ (Statement.call name.text).texts, Unbroken text := by
        simpa [Statement.texts] using unbroken.operands name List.mem_cons_self
      refine unbreaks_recording (unbreaks_build ?_)
      exact (Build.unbreaking_perform single).bind_last fun _ _ => .pure trivial
  | replay commands, _, unbroken => by
      rw [run]
      have mentions := unbroken.sequences commands List.mem_cons_self
      refine unbreaks_recording (unbreaks_build ?_)
      exact (Build.unbreaking_replay mentions).bind_last fun _ _ => .pure trivial
  | within name arguments body, allowed, unbroken => by
      rw [run]
      refine unbreaks_recording ?_
      have asks := unbreaks_build (unbreaks_request unbroken rfl rfl)
      refine asks.bind_last fun reply isUnbroken => ?_
      have inside := Session.unbreaks_insideReply (unbreaks_runAll allowed.2 unbroken.held)
        isUnbroken
      exact inside.bind_last fun _ _ => .pure trivial
  | whole body, allowed, unbroken => by
      rw [run]
      have ended := Session.unbreaks_ending (unbreaks_runAll allowed unbroken.held)
      exact unbreaks_recording (ended.bind_last fun _ _ => .pure trivial)
  | make id name arguments, _, unbroken => by
      rw [run]
      refine unbreaks_recording ?_
      have asks := unbreaks_build (unbreaks_request unbroken rfl rfl)
      refine asks.bind_last fun reply isUnbroken => ?_
      exact (Session.unbreaks_keep id isUnbroken).bind_last fun _ _ => .pure trivial
  | enter id, _, _ => by
      rw [run]
      refine unbreaks_recording ((Session.unbreaks_reply id).bind_last fun reply isUnbroken => ?_)
      exact (unbreaks_build (Reply.unbreaking_enter isUnbroken)).bind_last fun _ _ => .pure trivial
  | leave id failed, _, _ => by
      rw [run]
      refine unbreaks_recording ((Session.unbreaks_reply id).bind_last fun reply isUnbroken => ?_)
      exact (unbreaks_build (Reply.unbreaking_leave isUnbroken failed)).bind_last fun _ _ =>
        .pure trivial
  | apply id body, allowed, unbroken => by
      rw [run]
      refine unbreaks_recording ((Session.unbreaks_reply id).bind_last fun reply isUnbroken => ?_)
      have applied := Session.unbreaks_applyReply (unbreaks_runAll allowed unbroken.held) isUnbroken
      exact applied.bind_last fun _ _ => .pure trivial
  | declare id name, _, unbroken => by
      rw [run]
      have named : ∀ value ∈ [name], Unbroken value.text := unbroken.operands
      refine unbreaks_recording ((Session.unbreaks_reply id).bind_last fun reply _ => ?_)
      have word : Unbroken "declare" := by decide
      have declares := reply.unbreaking_request word named
      exact (unbreaks_build declares).bind_last fun _ _ => .pure trivial
  | register id name arguments, _, unbroken => by
      rw [run]
      have texts := List.forall_mem_cons.mp unbroken.operands
      refine unbreaks_recording ((Session.unbreaks_reply id).bind_last fun reply _ => ?_)
      have declares := reply.unbreaking_request texts.1 texts.2
      exact (unbreaks_build declares).bind_last fun _ _ => .pure trivial
  | text, _, _ => by
      rw [run]
      exact unbreaks_recording (unbreaks_build (Session.keeps_source _).maintains)
  | snapshot id, _, _ => by
      rw [run]
      refine unbreaks_recording (Follows.bind_last (Session.unbreaks_modify ?_) fun _ _ => ?_)
      · exact fun _ isUnbroken => ⟨isUnbroken.program, isUnbroken.replies⟩
      · exact .pure trivial
  | reread id, _, _ => by
      rw [run]
      exact unbreaks_recording ((Session.unbreaks_kept id).bind_last fun _ _ => .pure trivial)
  | listing request, allowed, _ => by
      rw [run]
      exact unbreaks_recording (Session.unbreaks_ask allowed)

theorem unbreaks_runAll : ∀ {steps : List Step}, AllAllowed (.building fun _ => True) steps →
    (∀ step ∈ steps, step.MentionsUnbroken) → Unbreaks (runAll steps) fun _ => True
  | [], _, _ => by
      rw [runAll]
      exact .pure trivial
  | step :: steps, allowed, unbroken => by
      rw [runAll]
      refine (unbreaks_run allowed.1 (unbroken step List.mem_cons_self)).bind_last fun _ _ => ?_
      exact unbreaks_runAll allowed.2 fun other member =>
        unbroken other (List.mem_cons_of_mem _ member)

end

end Step

/-- A program whose lines are single, and are found again in its text. -/
structure Program.Prints (program : Program) (lines : List String) (source : String) : Prop where
  code : program.code = lines.map .str
  unbroken : ∀ line ∈ lines, Unbroken line
  text : program.listing.text = .ok source
  split : (Pieces.split '\n' source.toList).map String.ofList = lines

theorem exists_map_str {values : List Value}
    (unbroken : ∀ value ∈ values, ∃ text, value = .str text ∧ Unbroken text) :
    ∃ lines : List String, values = lines.map .str ∧ ∀ line ∈ lines, Unbroken line := by
  induction values with
  | nil => exact ⟨[], rfl, nofun⟩
  | cons value values induction =>
      obtain ⟨text, rfl, first⟩ := unbroken value List.mem_cons_self
      obtain ⟨lines, rfl, rest⟩ := induction fun other member =>
        unbroken other (List.mem_cons_of_mem _ member)
      exact ⟨text :: lines, rfl, List.forall_mem_cons.mpr ⟨first, rest⟩⟩

theorem Program.exists_prints {program : Program} (isUnbroken : program.IsUnbroken)
    (nonempty : program.code ≠ []) : ∃ lines source, program.Prints lines source := by
  obtain ⟨lines, code, unbroken⟩ := exists_map_str isUnbroken
  have some : lines ≠ [] := by
    rintro rfl
    exact nonempty code
  obtain ⟨source, text, split⟩ := Listing.exists_text_split some code unbroken
  exact ⟨lines, source, code, unbroken, text, split⟩

theorem Program.isUnbroken_ended {program : Program} (isUnbroken : program.IsUnbroken) :
    program.ended.IsUnbroken := by
  rw [ended]
  split
  · exact isUnbroken
  · exact isUnbroken_finished isUnbroken

namespace Session

/-- In every run on a new program that asks its listing for reading only, whatever steps fail, and
in which no operand, symbol, label or name is a text with a line break, all lines of the program are
texts without line breaks, and the program has a text that splits at line breaks into just these
lines.  So the number of lines that the command reports for such a program is that of the file. -/
theorem lines_are_single (steps : List Step)
    (reading : Step.AllAllowed (.building fun _ => True) steps)
    (unbroken : ∀ step ∈ steps, step.MentionsUnbroken) :
    let program := (outcome (Step.runAll steps) initial).2.program
    (∃ lines source, program.Prints lines source) ∧
      ∀ options script output, ∃ lines source,
        (CommandLine.finished program).Prints lines source ∧
        CommandLine.writing options script output program =
          .write (CommandLine.outputPath options script) source output
            (CommandLine.printed
                ("Wrote " ++ CommandLine.shown (CommandLine.outputPath options script).text ++
                  " (" ++ toString lines.length ++ " lines)") ++
              (if options.toStdout then source else "")) := by
  intro program
  have isUnbroken : program.IsUnbroken :=
    (Step.unbreaks_runAll reading unbroken initial isUnbroken_initial).valid.program
  have nonempty : program.code ≠ [] := by
    intro empty
    have header := ((lines_only_grow.2.1 steps initial).2 faithful_initial).header
    change _ <+: program.code at header
    rw [empty, List.prefix_nil] at header
    exact absurd header (by decide)
  refine ⟨Program.exists_prints isUnbroken nonempty, fun options script output => ?_⟩
  have ended := CommandLine.finished_eq_ended program
  have ended_nonempty : program.ended.code ≠ [] := by
    rw [Program.ended]
    split
    · exact nonempty
    · simp
  obtain ⟨lines, source, prints⟩ :=
    Program.exists_prints (Program.isUnbroken_ended isUnbroken) ended_nonempty
  refine ⟨lines, source, ended ▸ prints, ?_⟩
  have size : program.ended.listing.size = lines.length := by
    rw [← Listing.length_toList]
    change program.ended.code.length = _
    rw [prints.code, List.length_map]
  simp only [CommandLine.writing, ended, prints.text, size]

/-- A register whose name is a list is written with the line break in it escaped; the jump without
a target fails, and the run goes on behind it. -/
theorem lines_are_single_of_list :
    let steps : List Step := [.within "loop" [.str "main"]
      [.dispatch (.str "increment") [.list [.str "a\nb"]], .tolerate (.dispatch (.str "jump") [])]]
    let program := (outcome (Step.runAll steps) initial).2.program
    Step.AllAllowed (.building fun _ => True) steps ∧ (∀ step ∈ steps, step.MentionsUnbroken) ∧
      (∃ lines source, program.Prints lines source) ∧
      program.code = Program.lineValues Device.header ++
        ["Main", "\tincf\t['a\\nb'], f", "", "", "\tgoto\tMain", ""].map .str := by
  intro steps program
  have reading : Step.AllAllowed (.building fun _ => True) steps :=
    ⟨⟨⟨trivial, trivial⟩, ⟨trivial, trivial⟩, ⟨trivial, trivial⟩, trivial⟩, trivial⟩
  have increment : (Step.dispatch (.str "increment") [.list [.str "a\nb"]]).MentionsUnbroken := by
    have name : Unbroken "increment" := by decide
    have written : (Value.list [.str "a\nb"]).IsUnbroken := ⟨trivial, trivial⟩
    exact .of_parts (List.forall_mem_cons.mpr ⟨name, List.forall_mem_singleton.mpr written⟩)
      nofun nofun
  have jump : (Step.tolerate (.dispatch (.str "jump") [])).MentionsUnbroken := by
    have name : Unbroken "jump" := by decide
    exact .of_parts nofun nofun (List.forall_mem_singleton.mpr
      (.of_parts (List.forall_mem_singleton.mpr name) nofun nofun))
  have unbroken : ∀ step ∈ steps, step.MentionsUnbroken := by
    have name : Unbroken "loop" := by decide
    have label : Unbroken "main" := by decide
    have body := List.forall_mem_cons.mpr ⟨increment, List.forall_mem_singleton.mpr jump⟩
    exact List.forall_mem_singleton.mpr (.of_parts
      (List.forall_mem_cons.mpr ⟨name, List.forall_mem_singleton.mpr label⟩) nofun body)
  obtain ⟨prints, _⟩ := lines_are_single steps reading unbroken
  exact ⟨reading, unbroken, prints, by rfl⟩

end Session

end PicAssembly
