import PicAssembly.Command
import PicAssembly.Proofs.Building
import PicAssembly.Proofs.Reading

/-!
# Reading commands

What a command is read as, told by its name and its operands: a scope with the right operands is
read as a block with the commands of its body, every other scope is refused, and every other name is
read as a task.
-/

namespace PicAssembly.Command

open CommandTable

theorem ofValues_eq_map (values : List Value) : ofValues values = values.map ofValue := by
  induction values with
  | nil => rfl
  | cons value values induction => rw [ofValues, induction, List.map_cons]

theorem ofKeys_eq_map (entries : List (Value × Value)) :
    ofKeys entries = (entries.map Prod.fst).map ofValue := by
  induction entries with
  | nil => rfl
  | cons entry entries induction =>
      obtain ⟨key, value⟩ := entry
      rw [ofKeys, ofKey, induction]
      rfl

/-- The commands of a sequence are those that its elements stand for. -/
theorem sequence_of_elements? {value : Value} {commands : List Value}
    (items : value.elements? = some commands) : sequence value = commands.map ofValue := by
  cases value with
  | str text =>
      cases items
      rw [sequence, List.map_map]
      rfl
  | list members | tuple members =>
      cases items
      rw [sequence, ofValues_eq_map]
  | dict entries =>
      cases items
      rw [sequence, ofKeys_eq_map]
  | thing held =>
      rw [Value.elements?] at items
      split at items
      · next walkable =>
          cases items
          rw [sequence, if_pos walkable]
          rfl
      · cases items
  | null | bool | int | float => cases items

theorem sequence_of_none {value : Value} (stuck : value.elements? = none) :
    sequence value = [refuse (notSequence value)] := by
  cases value with
  | str | list | tuple | dict => cases stuck
  | thing held =>
      rw [Value.elements?] at stuck
      split at stuck
      · cases stuck
      · next walkable => rw [sequence, if_neg walkable]
  | null | bool | int | float => rfl

/-- A command without elements has no name. -/
theorem toOption_split_of_bare {command : Value} (noText : ∀ text, command ≠ .str text)
    (bare : command.elements? = none ∨ command.elements? = some []) :
    (split command).toOption = none := by
  rw [split]
  · split
    · rfl
    · rcases bare with bare | bare <;> rw [bare] <;> rfl
  · exact noText

theorem toOption_split (command : Value) : (split command).toOption = parts? command := by
  cases command with
  | str name => rfl
  | list items | tuple items =>
      cases items with
      | nil => rfl
      | cons first rest => cases first <;> rfl
  | dict entries =>
      cases entries with
      | nil => rfl
      | cons entry entries =>
          obtain ⟨key, value⟩ := entry
          cases key <;> rfl
  | thing held =>
      have bare : (Value.thing held).elements? = none ∨ (Value.thing held).elements? = some [] := by
        rw [Value.elements?]
        split
        · exact .inr rfl
        · exact .inl rfl
      rw [toOption_split_of_bare (by rintro text ⟨⟩) bare, parts?]
      · rcases bare with bare | bare <;> rw [bare]
      · rintro text ⟨⟩
  | null | bool | int | float =>
      exact toOption_split_of_bare (by rintro text ⟨⟩) (.inl rfl)

theorem split_of_parts? {command : Value} {name : String} {operands : List Value}
    (parts : parts? command = some (name, operands)) : split command = .ok (name, operands) := by
  rw [← toOption_split] at parts
  cases known : split command with
  | ok found =>
      rw [known] at parts
      cases parts
      rfl
  | error fault =>
      rw [known] at parts
      cases parts

theorem exists_of_parts?_none {command : Value} (stuck : parts? command = none) :
    ∃ fault, split command = .error fault := by
  rw [← toOption_split] at stuck
  cases known : split command with
  | ok found =>
      rw [known] at stuck
      cases stuck
  | error fault => exact ⟨fault, rfl⟩

/-- The commands of a body that is the last of several operands. -/
def bodyOf (operands : List Value) : List Command :=
  (operands.getLast?.map sequence).getD []

theorem bodyOf_cons {first : Value} {rest : List Value} (more : rest ≠ []) :
    bodyOf (first :: rest) = bodyOf rest := by
  cases rest with
  | nil => exact absurd rfl more
  | cons second others => rw [bodyOf, bodyOf, List.getLast?_cons_cons]

theorem lastBody_eq_bodyOf (items : List Value) : lastBody items = bodyOf items := by
  induction items with
  | nil => rfl
  | cons first rest induction =>
      cases rest with
      | nil => rfl
      | cons second others =>
          rw [bodyOf_cons (List.cons_ne_nil _ _), ← induction, lastBody]
          exact nofun

theorem lastKeyBody_eq_bodyOf (entries : List (Value × Value)) :
    lastKeyBody entries = bodyOf (entries.map Prod.fst) := by
  induction entries with
  | nil => rfl
  | cons first rest induction =>
      cases rest with
      | nil =>
          obtain ⟨key, value⟩ := first
          rw [lastKeyBody, keyBody]
          rfl
      | cons second others =>
          have more : (second :: others).map Prod.fst ≠ [] := List.cons_ne_nil _ _
          rw [List.map_cons, bodyOf_cons more, ← induction, lastKeyBody]
          exact nofun

/-- The command of a name with operands. -/
def ofNamed (name : String) (operands : List Value) : Command :=
  match scoped? name with
  | some operation => ofScope operation operands (bodyOf operands)
  | none => run (Task.read (.str name) operands)

/-- A body is looked at only if there are operands. -/
theorem ofParts_of_parts? {command : Value} {name : String} {operands : List Value}
    {body : List Command} (parts : parts? command = some (name, operands))
    (last : operands ≠ [] → body = bodyOf operands) :
    ofParts command body = ofNamed name operands := by
  rw [ofParts, split_of_parts? parts, ofNamed]
  dsimp only
  cases operands with
  | nil => cases scoped? name <;> rfl
  | cons first rest =>
      have inner : body = bodyOf (first :: rest) := last (List.cons_ne_nil _ _)
      subst inner
      cases scoped? name <;> rfl

theorem ofValue_of_parts? {command : Value} {name : String} {operands : List Value}
    (parts : parts? command = some (name, operands)) :
    ofValue command = ofNamed name operands := by
  cases command with
  | str text =>
      change ofParts (.str text) [] = _
      refine ofParts_of_parts? parts fun more => ?_
      cases parts
      exact absurd rfl more
  | list items | tuple items =>
      rw [ofValue]
      refine ofParts_of_parts? parts fun more => ?_
      cases items with
      | nil => cases parts
      | cons first rest =>
          cases first <;> cases parts
          rw [lastBody_eq_bodyOf, bodyOf_cons more]
  | dict entries =>
      rw [ofValue]
      refine ofParts_of_parts? parts fun more => ?_
      cases entries with
      | nil => cases parts
      | cons entry entries =>
          obtain ⟨key, value⟩ := entry
          cases key <;> cases parts
          rw [lastKeyBody_eq_bodyOf, List.map_cons, bodyOf_cons more]
  | thing held =>
      cases walkable : held.isWalkable <;> simp [parts?, Value.elements?, walkable] at parts
  | null | bool | int | float => cases parts

theorem ofParts_of_none {command : Value} (body : List Command) (stuck : parts? command = none) :
    ∃ fault, ofParts command body = refuse fault := by
  obtain ⟨fault, fails⟩ := exists_of_parts?_none stuck
  exact ⟨fault, by rw [ofParts, fails]⟩

theorem ofValue_of_none {command : Value} (stuck : parts? command = none) :
    ∃ fault, ofValue command = refuse fault := by
  cases command with
  | str text => cases stuck
  | list items | tuple items => exact ofParts_of_none (lastBody items) stuck
  | dict entries => exact ofParts_of_none (lastKeyBody entries) stuck
  | thing | null | bool | int | float => exact ofParts_of_none [] stuck

/-- What a command is read as. -/
inductive ReadAs (command : Value) : Command → Prop
  | run {name : String} {operands : List Value} (parts : parts? command = some (name, operands))
      (noScope : Task.namesScope (.str name) = false) :
      ReadAs command (run (Task.read (.str name) operands))
  | block {name : String} {heading body : Value} {commands : List Command}
      (parts : parts? command = some (name, [heading, body]))
      (isBlock : name = "subr" ∨ name = "block") (inner : sequence body = commands) :
      ReadAs command (block heading false commands)
  | loop {heading body : Value} {commands : List Command}
      (parts : parts? command = some ("loop", [heading, body]))
      (inner : sequence body = commands) :
      ReadAs command (block heading true commands)
  | constants {body : Value} (parts : parts? command = some ("constants", [body])) :
      ReadAs command (constants (constantNames body))
  | refuse (fault : Fault) : ReadAs command (refuse fault)

theorem ofNamed_scope {operation : Operation} (isScoped : operation.isScoped = true)
    (operands : List Value) :
    ofNamed operation.name operands = ofScope operation operands (bodyOf operands) := by
  have found : scoped? operation.name = some operation := by
    rw [scoped?, Operation.ofName?_name, Option.filter_some, if_pos isScoped]
  rw [ofNamed, found]

theorem namesScope_eq (name : String) : Task.namesScope (.str name) = (scoped? name).isSome := by
  rw [Task.namesScope, scoped?]
  cases Operation.ofName? name with
  | none => rfl
  | some operation => cases isScoped : operation.isScoped <;> simp [isScoped]

theorem ofNamed_of_not_scope {name : String} (noScope : Task.namesScope (.str name) = false)
    (operands : List Value) : ofNamed name operands = run (Task.read (.str name) operands) := by
  rw [namesScope_eq, Option.isSome_eq_false_iff, Option.isNone_iff_eq_none] at noScope
  rw [ofNamed, noScope]

theorem eq_name_of_scoped? {name : String} {operation : Operation}
    (found : scoped? name = some operation) :
    name = operation.name ∧ operation.isScoped = true := by
  obtain ⟨named, isScoped⟩ := Option.filter_eq_some_iff.mp found
  exact ⟨Operation.eq_name_of_ofName? named, isScoped⟩

/-- A scope with another number of operands than its own is refused, as is one without a body. -/
theorem ofScope_refused {operation : Operation} (isScoped : operation.isScoped = true)
    {operands : List Value} (wrong : operands.length ≠ operation.parameters.length + 1)
    (body : List Command) : ∃ fault, ofScope operation operands body = refuse fault := by
  rw [ofScope]
  cases last : operands.getLast? with
  | none => exact ⟨_, rfl⟩
  | some value =>
      have refused : operation.signature.admits operands.dropLast.length = false := by
        cases admits : operation.signature.admits operands.dropLast.length with
        | false => rfl
        | true =>
            have nonempty : operands ≠ [] := by
              rintro rfl
              cases last
            have positive := List.length_pos_iff.mpr nonempty
            have length : operands.dropLast.length = operation.parameters.length := by
              refine Task.length_of_admits admits ?_ ?_
              · cases operation <;> first | rfl | cases isScoped
              · rintro rfl
                cases isScoped
            rw [List.length_dropLast] at length
            omega
      obtain ⟨fault, fails⟩ := Signature.bind_of_not_admits refused
      rw [Task.read_of_ofName? operation.ofName?_name, fails]
      exact ⟨fault, rfl⟩

theorem readAs_ofValue (command : Value) : ReadAs command (ofValue command) := by
  cases parts : parts? command with
  | none =>
      obtain ⟨fault, refused⟩ := ofValue_of_none parts
      rw [refused]
      exact .refuse fault
  | some found =>
      obtain ⟨name, operands⟩ := found
      rw [ofValue_of_parts? parts]
      cases scope : scoped? name with
      | none =>
          have noScope : Task.namesScope (.str name) = false := by
            rw [namesScope_eq, scope]
            rfl
          rw [ofNamed, scope]
          exact .run parts noScope
      | some operation =>
          obtain ⟨rfl, isScoped⟩ := eq_name_of_scoped? scope
          rw [ofNamed_scope isScoped]
          by_cases length : operands.length = operation.parameters.length + 1
          · cases operation with
            | block =>
                match operands, length with
                | [heading, body], _ => exact .block parts (.inr rfl) rfl
            | subr =>
                match operands, length with
                | [heading, body], _ => exact .block parts (.inl rfl) rfl
            | loop =>
                match operands, length with
                | [heading, body], _ => exact .loop parts rfl
            | constants =>
                match operands, length with
                | [body], _ => exact .constants parts
            | _ => cases isScoped
          · obtain ⟨fault, refused⟩ := ofScope_refused isScoped length (bodyOf operands)
            rw [refused]
            exact .refuse fault

/-- A command declares its name if it has no operands, and nothing else does. -/
theorem constantName_eq_ok {command : Value} {name : String} :
    constantName command = .ok name ↔ parts? command = some (name, []) := by
  constructor
  · intro declares
    obtain ⟨⟨found, operands⟩, splits, named⟩ := exists_of_bind_ok declares
    rw [← toOption_split, splits]
    cases operands with
    | nil =>
        cases named
        rfl
    | cons first rest => cases named
  · intro parts
    rw [constantName, split_of_parts? parts]
    rfl

theorem map_constantName_eq {declarations : List Value} {names : List String} :
    declarations.map constantName = names.map .ok ↔
      declarations.map parts? = names.map fun name => some (name, []) := by
  induction declarations generalizing names with
  | nil => cases names <;> simp
  | cons declaration declarations induction =>
      cases names with
      | nil => simp
      | cons name names =>
          rw [List.map_cons, List.map_cons, List.map_cons, List.map_cons, List.cons_eq_cons,
            List.cons_eq_cons, constantName_eq_ok, induction]

theorem constantNames_of_elements? {body : Value} {declarations : List Value}
    (items : body.elements? = some declarations) :
    constantNames body = declarations.map constantName := by
  rw [constantNames, items]

end PicAssembly.Command
