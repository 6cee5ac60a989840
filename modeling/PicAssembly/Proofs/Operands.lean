import PicAssembly.Proofs.CommandReading
import PicAssembly.Proofs.LineBreaks

/-!
# Operands without line breaks

Binding hands arguments on as they are, and reading writes nothing that has not been an operand.  So
a task, or a tree of commands, consists of single lines if the operands and the names that it
mentions are unbroken.
-/

namespace PicAssembly

open CommandTable

namespace Signature

variable {condition : Value → Prop}

/-- Whether all values that a binding has placed are as described. -/
def Places (condition : Value → Prop) (bound : Bound) : Prop :=
  (∀ value, some value ∈ bound.slots → condition value) ∧ ∀ value ∈ bound.rest, condition value

theorem Places.slot {bound : Bound} (places : Places condition bound) (null : condition .null)
    (index : Nat) : condition (bound.slot index) := by
  rw [Bound.slot]
  cases found : bound.slots[index]? with
  | none => exact null
  | some value =>
      cases value with
      | none => exact null
      | some value => exact places.1 value (List.mem_of_getElem? found)

theorem places_bindKeyword {signature : Signature} {bound after : Bound} {keyword : String × Value}
    (places : Places condition bound) (holds : condition keyword.2)
    (binds : signature.bindKeyword bound keyword = .ok after) : Places condition after := by
  rw [bindKeyword] at binds
  split at binds
  · cases binds
  · split at binds
    · split at binds
      · cases binds
      · cases binds
        refine ⟨fun value member => ?_, places.2⟩
        rcases List.mem_or_eq_of_mem_set member with earlier | set
        · exact places.1 value earlier
        · cases set
          exact holds
    · split at binds
      · cases binds
        exact places
      · cases binds

theorem places_foldlM {signature : Signature} {keywords : List (String × Value)}
    {bound after : Bound} (places : Places condition bound)
    (holds : ∀ keyword ∈ keywords, condition keyword.2)
    (binds : keywords.foldlM signature.bindKeyword bound = .ok after) : Places condition after := by
  induction keywords generalizing bound with
  | nil =>
      cases binds
      exact places
  | cons keyword keywords induction =>
      rw [List.foldlM_cons] at binds
      obtain ⟨middle, first, rest⟩ := exists_of_bind_ok binds
      have placed := places_bindKeyword places (holds keyword List.mem_cons_self) first
      exact induction placed (fun other member => holds other (List.mem_cons_of_mem _ member)) rest

/-- What holds of all arguments of a call holds of all values that are bound to them. -/
theorem places_of_bind {signature : Signature} {arguments : Arguments} {bound : Bound}
    (positional : ∀ value ∈ arguments.positional, condition value)
    (keywords : ∀ keyword ∈ arguments.keywords, condition keyword.2)
    (binds : signature.bind arguments = .ok bound) : Places condition bound := by
  obtain ⟨placed, folds, checked⟩ := exists_of_bind_ok binds
  have initial : Places condition (signature.placed arguments.positional) := by
    refine ⟨fun value member => ?_, fun value member => ?_⟩
    · rcases List.mem_append.mp member with given | missing
      · obtain ⟨same, listed, equal⟩ := List.mem_map.mp given
        cases equal
        exact positional value (List.mem_of_mem_take listed)
      · cases List.eq_of_mem_replicate missing
    · exact positional value (List.mem_of_mem_drop member)
  have places := places_foldlM initial keywords folds
  have same : placed = bound := by
    dsimp only at checked
    split at checked
    · cases checked
    · split at checked
      · exact Except.ok.inj checked
      · cases checked
  exact same ▸ places

end Signature

namespace Task

/-- Whether all texts that a task writes are unbroken. -/
def IsUnbroken : Task → Prop
  | state statement => ∀ text ∈ statement.texts, Unbroken text
  | skip register inner => Unbroken register ∧ inner.IsUnbroken
  | makeBlock name _ => Unbroken name.text
  | ask _ | finish | makeConstants | refuse _ => True

theorem isUnbroken_skipping {register operation : Value} {inner : Task}
    (register_unbroken : Unbroken register.text) (inner_unbroken : inner.IsUnbroken) :
    (skipping register operation inner).IsUnbroken := by
  rw [skipping]
  split
  · trivial
  · split
    · trivial
    · exact ⟨register_unbroken, inner_unbroken⟩

theorem isUnbroken_ofPins {statement : Value → List (String × Value) → Statement}
    (noTexts : ∀ pins keywords, (statement pins keywords).texts = []) (bound : Bound) :
    (ofPins statement bound).IsUnbroken := by
  rw [ofPins]
  cases (bound.slot 0).callee? with
  | some asked => trivial
  | none =>
      rw [IsUnbroken, noTexts]
      exact List.forall_mem_nil _

/-- The operands of an operation are written as they are bound, or as literals. -/
theorem isUnbroken_ofBound {operation : Operation} {bound : Bound} {inner : Task}
    (slots : ∀ index, Unbroken (bound.slot index).text) (inner_unbroken : inner.IsUnbroken) :
    (ofBound operation bound inner).IsUnbroken := by
  cases operation with
  | decrementAndTest => exact isUnbroken_skipping (slots 0) inner_unbroken
  | block | subr | loop => exact slots 0
  | constants | endCode => trivial
  | configIo | setIo => exact isUnbroken_ofPins (fun _ _ => rfl) bound
  | _ => simp [ofBound, IsUnbroken, Statement.texts, slots]

theorem isUnbroken_ofCall {name : Value} (arguments : Arguments)
    (name_unbroken : Unbroken name.text) : (ofCall name arguments).IsUnbroken := by
  rw [ofCall]
  cases callSignature.bind arguments with
  | ok bound =>
      have single : ∀ text ∈ [name.text], Unbroken text := by simpa using name_unbroken
      exact single
  | error raised => trivial

/-- Binding comes before the operands are looked at. -/
theorem isUnbroken_of_bind {operation : Operation} {arguments : Arguments} {inner : Bound → Task}
    (positional : ∀ value ∈ arguments.positional, Unbroken value.text)
    (keywords : ∀ keyword ∈ arguments.keywords, Unbroken keyword.2.text)
    (inner_unbroken : ∀ bound, Signature.Places (Unbroken ·.text) bound →
      (inner bound).IsUnbroken) :
    (ofBinding (operation.signature.bind arguments) fun bound =>
      ofBound operation bound (inner bound)).IsUnbroken := by
  cases binds : operation.signature.bind arguments with
  | error raised => trivial
  | ok bound =>
      have places : Signature.Places (Unbroken ·.text) bound :=
        Signature.places_of_bind positional keywords binds
      exact isUnbroken_ofBound (places.slot (by decide)) (inner_unbroken bound places)

/-- What a name with unbroken operands is read as writes no line breaks. -/
theorem isUnbroken_read : ∀ (operands : List Value) (name : Value), Unbroken name.text →
    (∀ operand ∈ operands, Unbroken operand.text) → (read name operands).IsUnbroken
  | operands, name, named, unbroken => by
      have inside : (skipped operands).IsUnbroken := by
        match operands with
        | [] | [_] => trivial
        | register :: inner :: rest =>
            have listed : ∀ operand ∈ inner :: rest, Unbroken operand.text := fun operand member =>
              unbroken operand (List.mem_cons_of_mem _ member)
            exact isUnbroken_read rest inner (listed inner List.mem_cons_self)
              fun operand member => listed operand (List.mem_cons_of_mem _ member)
      cases searchable : name.unsearchable? with
      | some typeName =>
          have refused : operation? name = .error (.unhashable typeName) := by
            rw [operation?_eq, searchable]
          unfold read
          rw [refused]
          trivial
      | none =>
          cases found : CommandTable.operation? name with
          | none =>
              rw [read_of_call searchable found]
              exact isUnbroken_ofCall _ named
          | some operation =>
              obtain ⟨text, rfl, isName⟩ := exists_of_operation? found
              rw [read_of_ofName? isName]
              exact isUnbroken_of_bind unbroken (List.forall_mem_nil _) fun _ _ => inside

theorem isUnbroken_ofOperation {operation : Operation} {arguments : Arguments}
    (positional : ∀ value ∈ arguments.positional, Unbroken value.text)
    (keywords : ∀ keyword ∈ arguments.keywords, Unbroken keyword.2.text) :
    (ofOperation operation arguments).IsUnbroken :=
  isUnbroken_of_bind positional keywords fun bound places =>
    isUnbroken_read bound.rest (bound.slot 1) (places.slot (by decide) 1) places.2

end Task

namespace Command

mutual

/-- Whether all texts that a command writes are unbroken. -/
def IsUnbroken : Command → Prop
  | run task => task.IsUnbroken
  | block name _ body => Unbroken name.text ∧ AreUnbroken body
  | constants names => ∀ name, .ok name ∈ names → Unbroken name
  | refuse _ => True

/-- Whether all texts that commands write are unbroken. -/
def AreUnbroken : List Command → Prop
  | [] => True
  | command :: commands => command.IsUnbroken ∧ AreUnbroken commands

end

/-- Whether a value is the name of a command, an operand of it, or is mentioned in its body. -/
inductive Mentions : Value → Value → Prop
  | name {command : Value} {name : String} {operands : List Value}
      (parts : parts? command = some (name, operands)) :
      Mentions command (.str name)
  | operand {command operand : Value} {name : String} {operands : List Value}
      (parts : parts? command = some (name, operands))
      (member : operand ∈
        if Task.namesScope (.str name) then operands.dropLast else operands) :
      Mentions command operand
  | body {command inner body operand : Value} {name : String} {operands commands : List Value}
      (parts : parts? command = some (name, operands))
      (isScope : Task.namesScope (.str name) = true) (last : operands.getLast? = some body)
      (items : body.elements? = some commands) (member : inner ∈ commands)
      (mentions : Mentions inner operand) :
      Mentions command operand

/-- Whether nothing that is mentioned in a sequence of commands is a text with a line break. -/
def MentionsUnbroken (commands : Value) : Prop :=
  ∀ items, commands.elements? = some items →
    ∀ command ∈ items, ∀ operand, Mentions command operand → operand.IsUnbroken

/-- A body mentions nothing that the command around it does not mention. -/
theorem mentionsUnbroken_body {command body : Value} {name : String} {operands : List Value}
    (unbroken : ∀ operand, Mentions command operand → operand.IsUnbroken)
    (parts : parts? command = some (name, operands))
    (isScope : Task.namesScope (.str name) = true) (last : operands.getLast? = some body) :
    MentionsUnbroken body :=
  fun _ items _ member operand mentions =>
    unbroken operand (.body parts isScope last items member mentions)

theorem namesScope_of_isBlock {name : String} (isBlock : name = "subr" ∨ name = "block") :
    Task.namesScope (.str name) = true := by
  rcases isBlock with rfl | rfl <;> rfl

/-- The names that a body declares are mentioned in it. -/
theorem unbroken_constantNames {body : Value} (unbroken : MentionsUnbroken body) :
    ∀ name, .ok name ∈ constantNames body → Unbroken name := by
  intro name member
  cases items : body.elements? with
  | none =>
      rw [constantNames, items] at member
      cases List.mem_singleton.mp member
  | some declarations =>
      rw [constantNames_of_elements? items] at member
      obtain ⟨command, listed, declares⟩ := List.mem_map.mp member
      have parts := constantName_eq_ok.mp declares
      exact unbroken declarations items command listed (.str name) (.name parts)

mutual

theorem isUnbroken_of_readAs : ∀ {read : Command} {command : Value}, ReadAs command read →
    (∀ operand, Mentions command operand → operand.IsUnbroken) → read.IsUnbroken
  | run _, _, reads, unbroken => by
      cases reads with
      | @run name operands parts noScope =>
          refine Task.isUnbroken_read operands _ (unbroken _ (.name parts)).text ?_
          intro operand member
          exact (unbroken _ (.operand parts (by rwa [noScope]))).text
  | block _ _ _, _, reads, unbroken => by
      cases reads with
      | block parts isBlock inner =>
          have isScope := namesScope_of_isBlock isBlock
          refine ⟨(unbroken _ (.operand parts ?_)).text, ?_⟩
          · simp [isScope]
          · exact areUnbroken_sequence inner (mentionsUnbroken_body unbroken parts isScope rfl)
      | loop parts inner =>
          have isScope : Task.namesScope (.str "loop") = true := by rfl
          refine ⟨(unbroken _ (.operand parts ?_)).text, ?_⟩
          · simp [isScope]
          · exact areUnbroken_sequence inner (mentionsUnbroken_body unbroken parts isScope rfl)
  | constants _, _, reads, unbroken => by
      cases reads with
      | constants parts =>
          exact unbroken_constantNames (mentionsUnbroken_body unbroken parts rfl rfl)
  | refuse _, _, _, _ => trivial

theorem areUnbroken_sequence : ∀ {read : List Command} {commands : Value},
    sequence commands = read → MentionsUnbroken commands → AreUnbroken read
  | read, commands, reads, unbroken => by
      cases items : commands.elements? with
      | none =>
          rw [sequence_of_none items] at reads
          subst reads
          exact ⟨trivial, trivial⟩
      | some values =>
          rw [sequence_of_elements? items] at reads
          exact areUnbroken_map reads (unbroken values items)

theorem areUnbroken_map : ∀ {read : List Command} {values : List Value},
    values.map ofValue = read →
    (∀ command ∈ values, ∀ operand, Mentions command operand → operand.IsUnbroken) →
    AreUnbroken read
  | [], _, _, _ => trivial
  | first :: rest, values, reads, unbroken => by
      obtain ⟨value, values, rfl, rfl, others⟩ := List.map_eq_cons_iff.mp reads
      refine ⟨isUnbroken_of_readAs (readAs_ofValue value) (unbroken value List.mem_cons_self), ?_⟩
      exact areUnbroken_map others fun command member =>
        unbroken command (List.mem_cons_of_mem _ member)

end

end Command

end PicAssembly
