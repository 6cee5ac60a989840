import PicAssembly.Proofs.Finalization
import PicAssembly.Proofs.Operands
import PicAssembly.Proofs.Stability

/-!
# Runs without line breaks

As long as nothing that a step mentions is a text with a line break, every line of the program is a
single line: a text without line breaks.  So the program has a text, whatever steps have failed, and
the text can be split into the lines again.
-/

namespace PicAssembly

/-- Whether all lines of a program are texts without line breaks. -/
def Program.IsUnbroken (program : Program) : Prop :=
  ∀ line ∈ program.code, ∃ text, line = .str text ∧ Unbroken text

theorem Program.isUnbroken_record {program : Program} {lines : List Line}
    (isUnbroken : program.IsUnbroken) (unbroken : ∀ line ∈ lines, Unbroken line.text) :
    (program.record lines).IsUnbroken := by
  intro value member
  rw [code_record, List.mem_append] at member
  rcases member with earlier | recorded
  · exact isUnbroken value earlier
  · obtain ⟨line, listed, rfl⟩ := List.mem_map.mp recorded
    exact ⟨line.text, rfl, unbroken line listed⟩

theorem Program.isUnbroken_finished {program : Program} (isUnbroken : program.IsUnbroken) :
    program.finished.IsUnbroken :=
  isUnbroken_record isUnbroken (by decide)

theorem Program.isUnbroken_initial : initial.IsUnbroken := by
  intro value member
  rw [code, initial, Listing.toList_ofList] at member
  obtain ⟨line, listed, rfl⟩ := List.mem_map.mp member
  exact ⟨line.text, rfl, Device.unbroken_header line listed⟩

/-- A building step that leaves all lines unbroken. -/
abbrev Build.Unbreaking {α : Type} (step : Build α) (described : α → Prop) : Prop :=
  Maintains Program.IsUnbroken step described

namespace Build

variable {α : Type}

theorem unbreaking_of_run {step : Build α}
    (keeps : ∀ program, program.IsUnbroken → (step.run program).2.IsUnbroken) :
    Unbreaking step fun _ => True :=
  (keeps_of_run keeps).maintains

theorem unbreaking_emit {lines : List Line} (unbroken : ∀ line ∈ lines, Unbroken line.text) :
    Unbreaking (emit lines) fun _ => True := by
  refine unbreaking_of_run fun program isUnbroken => ?_
  rw [run_emit]
  split
  · exact isUnbroken
  · exact Program.isUnbroken_record isUnbroken unbroken

theorem unbreaking_update {change : Program → Program}
    (unchanged : ∀ program, (change program).listing = program.listing) :
    Unbreaking (update change) fun _ => True := by
  refine unbreaking_of_run fun program isUnbroken => ?_
  rw [run_update, Program.IsUnbroken, Program.code, unchanged]
  exact isUnbroken

theorem unbreaking_get : Unbreaking get fun _ => True :=
  unbreaking_of_run fun _ isUnbroken => isUnbroken

theorem unbreaking_ofExcept {outcome : Except Fault α} {described : α → Prop}
    (holds : ∀ result, outcome = .ok result → described result) :
    Unbreaking (ofExcept outcome) described := by
  cases outcome with
  | ok result => exact .pure (holds result rfl)
  | error fault => exact .throw fault

theorem unbreaking_perform {statement : Statement}
    (unbroken : ∀ text ∈ statement.texts, Unbroken text) :
    Unbreaking (perform statement) fun _ => True := by
  rw [perform_eq]
  refine (unbreaking_emit (Statement.unbroken_lines unbroken)).bind_last fun _ _ => ?_
  cases statement.fault? with
  | none => exact .pure trivial
  | some fault => exact .throw fault

theorem unbreaking_finish : Unbreaking finish fun _ => True := by
  refine unbreaking_of_run fun program isUnbroken => ?_
  cases state : program.isFinal with
  | true =>
      rw [run_finish_final state]
      exact isUnbroken
  | false =>
      rw [run_finish_open state]
      exact Program.isUnbroken_finished isUnbroken

theorem unbreaking_finishOpen : Unbreaking finishOpen fun _ => True := by
  refine unbreaking_get.bind_last fun program _ => ?_
  split
  · exact .pure trivial
  · exact unbreaking_finish

theorem unbreaking_makeConstants : Unbreaking makeConstants fun _ => True :=
  unbreaking_get.bind_last fun _ _ =>
    Follows.bind_last (unbreaking_update fun _ => rfl) fun _ _ => .pure trivial

theorem unbreaking_declare (owner : ConstantsBlock) {name : String} (isUnbroken : Unbroken name) :
    Unbreaking (declare owner name) fun _ => True := by
  refine unbreaking_get.bind_last fun program _ => ?_
  split
  · have tabs : Unbroken "\t\t" := by decide
    exact unbreaking_emit (by simp [Line.text, isUnbroken, tabs])
  · exact .throw _

theorem unbreaking_callNamed (asked : Thing) {name : String} (isUnbroken : Unbroken name) :
    Unbreaking (callNamed asked name) fun _ => True := by
  have single : ∀ text ∈ (Statement.call name).texts, Unbroken text := by
    simpa [Statement.texts] using isUnbroken
  rw [callNamed]
  split
  · exact unbreaking_perform single
  · exact unbreaking_declare _ isUnbroken

theorem unbreaking_askKeys (asked : Thing) : Unbreaking (askKeys asked) fun _ => True := by
  have keys : Unbroken keysName := by decide
  rw [askKeys]
  split
  · exact (unbreaking_callNamed asked keys).bind_last fun _ _ => .throw _
  · exact .throw _

end Build

open Build (Unbreaking)

namespace Scope

variable {α : Type}

/-- Whether the label of a scope is unbroken, if it has one. -/
def IsUnbroken : Scope → Prop
  | block name _ => Unbroken name.text
  | constants _ => True

theorem unbreaking_enter {scope : Scope} (isUnbroken : scope.IsUnbroken) :
    Unbreaking scope.enter fun _ => True := by
  cases scope with
  | block name repeats =>
      refine Build.unbreaking_emit fun line member => ?_
      rw [List.mem_singleton.mp member]
      exact unbroken_label isUnbroken
  | constants owner =>
      have start : ∀ line ∈ [constantsStart], Unbroken line.text := by decide +kernel
      refine Build.unbreaking_get.bind_last fun program _ => ?_
      split
      · exact .throw _
      · refine Follows.bind_last (Build.unbreaking_update fun _ => rfl) fun _ _ => ?_
        exact (Build.unbreaking_emit start).bind_last fun _ _ =>
          Build.unbreaking_update fun _ => rfl

theorem unbreaking_close (scope : Scope) : Unbreaking scope.close fun _ => True := by
  cases scope with
  | block name repeats => exact .pure trivial
  | constants owner => exact Build.unbreaking_update fun _ => rfl

theorem unbroken_closingLines {scope : Scope} (isUnbroken : scope.IsUnbroken) :
    ∀ line ∈ scope.closingLines, Unbroken line.text := by
  cases scope with
  | block name repeats =>
      have blank : Unbroken Line.blank.text := by decide
      have label : Unbroken (label name.text) := unbroken_label isUnbroken
      cases repeats <;>
        simp [closingLines, blank, label, Line.goto, Line.unbroken_instruction]
  | constants owner =>
      rw [closingLines]
      decide

theorem unbreaking_leave {scope : Scope} (isUnbroken : scope.IsUnbroken) :
    Unbreaking scope.leave fun _ => True :=
  scope.unbreaking_close.bind_last fun _ _ =>
    Build.unbreaking_emit (unbroken_closingLines isUnbroken)

theorem unbreaking_within {scope : Scope} (isUnbroken : scope.IsUnbroken) {body : Build α}
    {described : α → Prop} (inner : Unbreaking body described) :
    Unbreaking (scope.within body) described := by
  refine (unbreaking_enter isUnbroken).bind_last fun _ _ => ?_
  refine Follows.bind_last (inner.tryCatch fun fault => ?_) fun result holds => ?_
  · exact scope.unbreaking_close.bind_last fun _ _ => .throw fault
  · exact (unbreaking_leave isUnbroken).bind_last fun _ _ => .pure holds

end Scope

namespace Task

/-- A task that writes unbroken texts makes a scope with an unbroken label, if it makes one. -/
theorem unbreaking_perform {task : Task} (isUnbroken : task.IsUnbroken) :
    Unbreaking task.perform fun made => ∀ scope, made = some scope → scope.IsUnbroken := by
  have nothing : ∀ scope, none = some scope → Scope.IsUnbroken scope := nofun
  induction task with
  | state statement =>
      exact (Build.unbreaking_perform isUnbroken).bind_last fun _ _ => .pure nothing
  | ask asked => exact (Build.unbreaking_askKeys asked).bind_last fun _ _ => .pure nothing
  | skip register inner induction =>
      have decrement : ∀ line ∈ [Line.instruction .decfsz [register, "f"]], Unbroken line.text := by
        have file : Unbroken "f" := by decide
        simp [Line.unbroken_instruction, isUnbroken.1, file]
      refine (Build.unbreaking_emit decrement).bind_last fun _ _ => ?_
      refine (induction isUnbroken.2).bind_last fun _ _ => ?_
      exact (Build.unbreaking_emit (by decide)).bind_last fun _ _ => .pure nothing
  | finish => exact Build.unbreaking_finish.bind_last fun _ _ => .pure nothing
  | makeBlock name repeats =>
      refine .pure ?_
      rintro scope ⟨⟩
      exact isUnbroken
  | makeConstants =>
      refine Build.unbreaking_makeConstants.bind_last fun _ _ => .pure ?_
      rintro scope ⟨⟩
      trivial
  | refuse fault => exact .throw fault

end Task

namespace Command

theorem unbreaking_declareAll (owner : ConstantsBlock) {names : List (Except Fault String)}
    (unbroken : ∀ name, .ok name ∈ names → Unbroken name) :
    Unbreaking (declareAll owner names) fun _ => True := by
  induction names with
  | nil => exact .pure trivial
  | cons outcome names induction =>
      cases outcome with
      | ok name =>
          refine (Build.unbreaking_declare owner (unbroken name List.mem_cons_self)).bind_last ?_
          exact fun _ _ => induction fun other member =>
            unbroken other (List.mem_cons_of_mem _ member)
      | error fault => exact .throw fault

mutual

theorem unbreaking_perform : ∀ {command : Command}, command.IsUnbroken →
    Unbreaking command.perform fun _ => True
  | run task, isUnbroken => by
      rw [perform]
      exact (Task.unbreaking_perform isUnbroken).bind_last fun _ _ => .pure trivial
  | block name repeats body, isUnbroken => by
      rw [perform]
      have named : (Scope.block name repeats).IsUnbroken := isUnbroken.1
      exact Scope.unbreaking_within named (unbreaking_performAll isUnbroken.2)
  | constants names, isUnbroken => by
      rw [perform]
      refine Build.unbreaking_makeConstants.bind_last fun owner _ => ?_
      have unnamed : (Scope.constants owner).IsUnbroken := trivial
      exact Scope.unbreaking_within unnamed (unbreaking_declareAll owner isUnbroken)
  | refuse fault, _ => by
      rw [perform]
      exact .throw fault

theorem unbreaking_performAll : ∀ {commands : List Command}, AreUnbroken commands →
    Unbreaking (performAll commands) fun _ => True
  | [], _ => by
      rw [performAll]
      exact .pure trivial
  | command :: commands, unbroken => by
      rw [performAll]
      exact (unbreaking_perform unbroken.1).bind_last fun _ _ => unbreaking_performAll unbroken.2

end

end Command

theorem Build.unbreaking_replay {commands : Value} (unbroken : Command.MentionsUnbroken commands) :
    Unbreaking (replay commands) fun _ => True :=
  Command.unbreaking_performAll (Command.areUnbroken_sequence rfl unbroken)

/-- The values of all arguments of a call. -/
def Arguments.values (arguments : Arguments) : List Value :=
  arguments.positional ++ arguments.keywords.map Prod.snd

namespace Signature

/-- What holds of all values that are handed over holds of all that are bound. -/
theorem places_of_values {condition : Value → Prop} {signature : Signature} {arguments : Arguments}
    {bound : Bound} (holds : ∀ value ∈ arguments.values, condition value)
    (binds : signature.bind arguments = .ok bound) : Places condition bound :=
  places_of_bind (fun value member => holds value (List.mem_append_left _ member))
    (fun _ member => holds _ (List.mem_append_right _ (List.mem_map_of_mem member))) binds

end Signature

/-- Whether the label of a reply is unbroken, if it has one, and the name that it calls. -/
def Reply.IsUnbroken : Reply → Prop
  | .scope made => made.IsUnbroken
  | .subroutine name => Unbroken name.text
  | .value _ | .operation _ => True

namespace Task

theorem unbreaking_reply {task : Task} (isUnbroken : task.IsUnbroken) :
    Unbreaking task.reply Reply.IsUnbroken := by
  refine (unbreaking_perform isUnbroken).bind_last fun made described => .pure ?_
  cases made with
  | none => trivial
  | some scope => exact described scope rfl

end Task

namespace Member

variable {arguments : Arguments}

theorem isUnbroken_of_resolved {name : Value} {reply : Reply} (isUnbroken : Unbroken name.text)
    (resolves : resolved name = .ok reply) : reply.IsUnbroken := by
  obtain ⟨found, -, replies⟩ := exists_of_bind_ok resolves
  cases found with
  | none =>
      cases replies
      exact isUnbroken
  | some operation =>
      cases replies
      trivial

/-- A member that is no operation and is not looked up by its own name has a name of its own. -/
theorem ofName_cases {name : String} {member : Member} (found : ofName name = .ok member) :
    (∃ operation, member = .operation operation) ∨ (name, member) ∈ others ∨
      member = subroutine name := by
  rw [ofName] at found
  cases named : Operation.ofName? name with
  | some operation =>
      rw [named] at found
      cases found
      exact .inl ⟨operation, rfl⟩
  | none =>
      cases listed : others.lookup name with
      | some other =>
          rw [named, listed] at found
          cases found
          obtain ⟨front, back, split, -⟩ := List.lookup_eq_some_iff.mp listed
          exact .inr (.inl (split ▸ List.mem_append_cons_self))
      | none =>
          simp only [named, listed] at found
          split at found <;> cases found
          exact .inr (.inr rfl)

theorem eq_of_ofName_subroutine {name other : String}
    (found : ofName name = .ok (subroutine other)) : other = name := by
  rcases ofName_cases found with ⟨operation, same⟩ | listed | same
  · cases same
  · simp [others] at listed
  · cases same
    rfl

theorem eq_of_ofName_replay {name : String} (found : ofName name = .ok replay) :
    name = "replay" := by
  rcases ofName_cases found with ⟨operation, same⟩ | listed | same
  · cases same
  · simpa [others] using listed
  · cases same

/-- A call of a member writes nothing but its arguments and its own name. -/
theorem unbreaking_apply {member : Member}
    (named : ∀ name, member = subroutine name → Unbroken name)
    (unbroken : ∀ value ∈ arguments.values, Unbroken value.text)
    (replays : member = replay → ∀ value ∈ arguments.values, Command.MentionsUnbroken value) :
    Unbreaking (member.apply arguments) Reply.IsUnbroken := by
  have null : Unbroken Value.null.text := by decide
  have slots {signature : Signature} {bound : Bound}
      (binds : signature.bind arguments = .ok bound) : Signature.Places (Unbroken ·.text) bound :=
    Signature.places_of_values unbroken binds
  cases member with
  | operation found =>
      have isUnbroken : (Task.ofOperation found arguments).IsUnbroken :=
        Task.isUnbroken_ofOperation
          (fun value member => unbroken value (List.mem_append_left _ member))
          fun _ member => unbroken _ (List.mem_append_right _ (List.mem_map_of_mem member))
      exact Task.unbreaking_reply isUnbroken
  | call =>
      refine (Build.unbreaking_ofExcept fun _ => slots).bind_last fun bound places => ?_
      have single : ∀ text ∈ (Statement.call (bound.slot 0).text).texts, Unbroken text := by
        simpa [Statement.texts] using places.slot null 0
      exact (Build.unbreaking_perform single).bind_last fun _ _ => .pure trivial
  | dispatch =>
      refine (Build.unbreaking_ofExcept fun _ => slots).bind_last fun bound places => ?_
      exact Task.unbreaking_reply
        (Task.isUnbroken_read bound.rest _ (places.slot null 0) places.2)
  | replay =>
      have commands {bound : Bound}
          (binds : (signature "replay" ["commands"]).bind arguments = .ok bound) :
          Signature.Places Command.MentionsUnbroken bound :=
        Signature.places_of_values (replays rfl) binds
      refine (Build.unbreaking_ofExcept fun _ => commands).bind_last fun bound places => ?_
      have nothing : Command.MentionsUnbroken .null := by rintro items ⟨⟩
      exact (Build.unbreaking_replay (places.slot nothing 0)).bind_last fun _ _ => .pure trivial
  | resolve =>
      refine (Build.unbreaking_ofExcept fun _ => slots).bind_last fun bound places => ?_
      exact Build.unbreaking_ofExcept fun _ =>
        isUnbroken_of_resolved (places.slot null 0)
  | text =>
      refine (Build.unbreaking_ofExcept fun _ => slots).bind_last fun bound places => ?_
      refine Build.unbreaking_get.bind_last fun program _ => ?_
      exact (Keeps.liftM _ _).maintains.bind_last fun _ _ => .pure trivial
  | load => exact (Build.unbreaking_ofExcept fun _ => slots).bind_last fun _ _ => .throw _
  | field typeName => exact .throw _
  | subroutine name =>
      exact Task.unbreaking_reply (Task.isUnbroken_ofCall arguments (named name rfl))

theorem unbreaking_request {name : String} (named : Unbroken name)
    (unbroken : ∀ value ∈ arguments.values, Unbroken value.text)
    (replays : name = "replay" → ∀ value ∈ arguments.values, Command.MentionsUnbroken value) :
    Unbreaking (request name arguments) Reply.IsUnbroken := by
  have known : ∀ member, ofName name = .ok member → ofName name = .ok member := fun _ found => found
  refine (Build.unbreaking_ofExcept known).bind_last fun member found => ?_
  refine unbreaking_apply ?_ unbroken ?_
  · rintro other rfl
    exact eq_of_ofName_subroutine found ▸ named
  · rintro rfl
    exact replays (eq_of_ofName_replay found)

end Member

namespace Scope

/-- A call of a member of a scope declares its argument or its own name. -/
theorem unbreaking_request (scope : Scope) {name : String} {positional : List Value}
    (named : Unbroken name) (unbroken : ∀ value ∈ positional, Unbroken value.text) :
    Unbreaking (scope.request name positional) fun _ => True := by
  have places {signature : Signature} {bound : Bound}
      (binds : signature.bind (.ofList positional) = .ok bound) :
      Signature.Places (Unbroken ·.text) bound :=
    Signature.places_of_bind unbroken (List.forall_mem_nil _) binds
  cases scope with
  | block label repeats => exact .throw _
  | constants owner =>
      rw [request]
      split
      · refine (Build.unbreaking_ofExcept fun _ => places).bind_last fun bound placed => ?_
        exact Build.unbreaking_declare owner (placed.slot (by decide) 0)
      · split
        · exact .throw _
        · refine (Build.unbreaking_ofExcept fun _ => places).bind_last fun bound placed => ?_
          exact Build.unbreaking_declare owner named

end Scope

namespace Reply

theorem unbreaking_callWith {reply : Reply} (isUnbroken : reply.IsUnbroken) {argument : Value}
    (unbroken : Unbroken argument.text) :
    Unbreaking (reply.callWith argument) fun _ => True := by
  have single : ∀ value ∈ (Arguments.ofList [argument]).values, Unbroken value.text := by
    simpa [Arguments.values, Arguments.ofList] using unbroken
  cases reply with
  | value held => exact .throw _
  | scope inner =>
      have fails : Unbreaking (throw (.notCallable argument.typeName)) fun _ : Unit => True :=
        .throw _
      have within := Scope.unbreaking_within isUnbroken fails
      exact Follows.bind_last within fun _ _ => .pure trivial
  | operation found =>
      have applied : Unbreaking (Member.apply (.operation found) (.ofList [argument]))
          Reply.IsUnbroken := Member.unbreaking_apply nofun single nofun
      exact applied.describe fun _ _ => trivial
  | subroutine name =>
      have called := Task.unbreaking_reply
        (Task.isUnbroken_ofCall (.ofList [argument]) isUnbroken)
      exact called.describe fun _ _ => trivial

theorem unbreaking_request (reply : Reply) {name : String} {positional : List Value}
    (named : Unbroken name) (unbroken : ∀ value ∈ positional, Unbroken value.text) :
    Unbreaking (reply.request name positional) fun _ => True := by
  cases reply with
  | scope inner => exact inner.unbreaking_request named unbroken
  | value | operation | subroutine => exact .throw _

theorem unbreaking_enter {reply : Reply} (isUnbroken : reply.IsUnbroken) :
    Unbreaking reply.enter Scope.IsUnbroken := by
  cases reply with
  | scope inner => exact (Scope.unbreaking_enter isUnbroken).bind_last fun _ _ => .pure isUnbroken
  | value | operation | subroutine => exact .throw _

theorem unbreaking_leave {reply : Reply} (isUnbroken : reply.IsUnbroken) (failed : Bool) :
    Unbreaking (reply.leave failed) fun _ => True := by
  cases reply with
  | scope inner =>
      cases failed with
      | true => exact inner.unbreaking_close
      | false => exact Scope.unbreaking_leave isUnbroken
  | value | operation | subroutine => exact .throw _

end Reply

end PicAssembly
