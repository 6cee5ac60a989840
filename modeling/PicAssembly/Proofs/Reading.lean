import PicAssembly.Proofs.Rows

/-!
# Reading agrees with the table

A name with operands is read as a task that has the lines that the table dispatches it to.
-/

namespace PicAssembly

open CommandTable

namespace Operation

theorem ofName?_name (operation : Operation) : ofName? operation.name = some operation := by
  cases operation <;> decide

theorem eq_name_of_ofName? {text : String} {operation : Operation}
    (found : ofName? text = some operation) : text = operation.name := by
  rw [ofName?] at found
  have named := List.find?_some found
  exact (eq_of_beq named).symm

end Operation

namespace CommandTable

theorem dispatched?_of_ne_skip {text : String} {operation : Operation} {operands : List Value}
    (found : Operation.ofName? text = some operation) (noSkip : operation ≠ .decrementAndTest) :
    dispatched? (.str text) operands = row? operation operands := by
  unfold dispatched?
  rw [operation?, found]
  cases operation <;> first | exact absurd rfl noSkip | rfl

theorem dispatched?_skip {text : String} {register inner : Value} {rest : List Value}
    (found : Operation.ofName? text = some .decrementAndTest) :
    dispatched? (.str text) (register :: inner :: rest) =
      (dispatched? inner rest).map fun lines =>
        instruction "decfsz" [register.text, "f"] :: lines ++ [""] := by
  rw [dispatched?]
  · cases dispatched? inner rest <;> rfl
  · exact found

theorem dispatched?_of_few {text : String} {operands : List Value}
    (found : Operation.ofName? text = some .decrementAndTest) (few : operands.length < 2) :
    dispatched? (.str text) operands = none := by
  unfold dispatched?
  rw [operation?, found]
  match operands with
  | [] | [_] => rfl
  | _ :: _ :: _ =>
      simp only [List.length_cons] at few
      omega

theorem exists_of_operation? {name : Value} {operation : Operation}
    (named : operation? name = some operation) :
    ∃ text, name = .str text ∧ Operation.ofName? text = some operation := by
  cases name with
  | str text => exact ⟨text, rfl, named⟩
  | _ => cases named

theorem dispatched?_of_none {name : Value} {operands : List Value}
    (none : operation? name = none) : dispatched? name operands = call? name operands := by
  unfold dispatched?
  rw [none]

theorem dispatched?_of_unsearchable {name : Value} {operands : List Value} {typeName : String}
    (unsearchable : name.unsearchable? = some typeName) : dispatched? name operands = none := by
  have none : operation? name = none := by
    cases name with
    | str text => cases unsearchable
    | _ => rfl
  rw [dispatched?_of_none none]
  cases operands <;> simp [call?, unsearchable]

theorem dispatched?_of_namesScope {name : Value} {operands : List Value}
    (isScope : Task.namesScope name = true) : dispatched? name operands = none := by
  cases name with
  | str text =>
      obtain ⟨operation, found, isScoped⟩ := (Option.any_eq_true _ _).mp isScope
      rw [dispatched?_of_ne_skip found]
      · cases operation <;> cases isScoped <;> rfl
      · rintro rfl
        cases isScoped
  | _ => cases isScope

theorem namesScope_of_dispatched? {name : Value} {operands : List Value} {lines : List String}
    (row : dispatched? name operands = some lines) : Task.namesScope name = false := by
  cases isScope : Task.namesScope name with
  | false => rfl
  | true =>
      rw [dispatched?_of_namesScope isScope] at row
      cases row

end CommandTable

namespace Task

theorem texts?_ofCall (name : Value) (operands : List Value)
    (searchable : name.unsearchable? = none) :
    (ofCall name (.ofList operands)).texts? = call? name operands := by
  cases operands with
  | nil =>
      rw [call?, searchable]
      rfl
  | cons first rest => rfl

theorem texts?_skip (register : String) (inner : Task) :
    (skip register inner).texts? = inner.texts?.map fun lines =>
      instruction "decfsz" [register, "f"] :: lines ++ [""] := by
  simp only [texts?, lines?, Option.map_map]
  congr 1
  funext lines
  simp [Line.text, Line.statement, instruction, Line.indented, Mnemonic.text]

/-- The task that is skipped over by an operation with operands, if it skips at all. -/
def skipped : List Value → Task
  | _ :: operation :: operands => read operation operands
  | _ => refuse .emptyCommand

theorem read_of_ofName? {text : String} {operation : Operation} {operands : List Value}
    (found : Operation.ofName? text = some operation) :
    read (.str text) operands = ofBinding (operation.signature.bind (.ofList operands))
      fun bound => ofBound operation bound (skipped operands) := by
  have named : operation? (.str text) = .ok (some operation) := by rw [operation?, found]
  unfold read
  rw [named]
  rfl

/-- A value that can be looked up names an operation if it is the name of one. -/
theorem operation?_eq (name : Value) :
    operation? name =
      match name.unsearchable? with
      | some typeName => .error (.unhashable typeName)
      | none => .ok (CommandTable.operation? name) := by
  cases name <;> rfl

theorem read_skip {text : String} {register inner : Value} {rest : List Value}
    (found : Operation.ofName? text = some .decrementAndTest) :
    read (.str text) (register :: inner :: rest) =
      skipping register inner (read inner rest) := by
  have admits : Operation.decrementAndTest.signature.admits
      (register :: inner :: rest).length = true := by
    simp [Signature.admits, Operation.signature, Operation.parameters]
  rw [read_of_ofName? found, Signature.bind_of_admits admits]
  rfl

theorem texts?_read_of_ofName? {text : String} {operation : Operation} {operands : List Value}
    (found : Operation.ofName? text = some operation) (noScope : operation.isScoped = false)
    (noSkip : operation ≠ .decrementAndTest) :
    (read (.str text) operands).texts? = dispatched? (.str text) operands := by
  rw [read_of_ofName? found, dispatched?_of_ne_skip found noSkip]
  cases admits : operation.signature.admits operands.length with
  | true =>
      rw [Signature.bind_of_admits admits]
      exact texts?_placed _ admits noScope noSkip
  | false =>
      obtain ⟨fault, refused⟩ := Signature.bind_of_not_admits admits
      rw [refused]
      cases row : row? operation operands with
      | none => rfl
      | some lines =>
          rw [admits_of_row? row] at admits
          cases admits

theorem read_of_call {name : Value} {operands : List Value} (searchable : name.unsearchable? = none)
    (isCall : CommandTable.operation? name = none) :
    read name operands = ofCall name (.ofList operands) := by
  have named : operation? name = .ok none := by rw [operation?_eq, searchable, isCall]
  unfold read
  rw [named]

theorem texts?_read_of_call {name : Value} {operands : List Value}
    (isCall : CommandTable.operation? name = none) :
    (read name operands).texts? = dispatched? name operands := by
  cases searchable : name.unsearchable? with
  | some typeName =>
      have refused : operation? name = .error (.unhashable typeName) := by
        rw [operation?_eq, searchable]
      unfold read
      rw [refused, dispatched?_of_unsearchable searchable]
      rfl
  | none =>
      rw [read_of_call searchable isCall, dispatched?_of_none isCall]
      exact texts?_ofCall name operands searchable

/-- What a name with operands is read as has the lines that it is dispatched to. -/
theorem texts?_read : ∀ (operands : List Value) (name : Value), namesScope name = false →
    (read name operands).texts? = dispatched? name operands
  | operands, name, noScope => by
      cases named : CommandTable.operation? name with
      | none => exact texts?_read_of_call named
      | some operation =>
          obtain ⟨text, rfl, found⟩ := exists_of_operation? named
          rw [namesScope, found] at noScope
          by_cases isSkip : operation = .decrementAndTest
          · subst isSkip
            match operands with
            | [] | [_] =>
                rw [read_of_ofName? found, dispatched?_of_few found (by simp)]
                rfl
            | register :: inner :: rest =>
                rw [read_skip found, dispatched?_skip found, skipping]
                cases searchable : inner.unsearchable? with
                | some typeName =>
                    rw [dispatched?_of_unsearchable searchable]
                    rfl
                | none =>
                    cases isScope : namesScope inner with
                    | true =>
                        rw [dispatched?_of_namesScope isScope]
                        rfl
                    | false =>
                        rw [← texts?_read rest inner isScope]
                        exact texts?_skip _ _
          · exact texts?_read_of_ofName? found noScope isSkip

end Task

end PicAssembly
