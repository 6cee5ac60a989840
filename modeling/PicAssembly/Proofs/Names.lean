import PicAssembly.Proofs.ConstantsScopes
import PicAssembly.Proofs.LastCommand
import PicAssembly.Proofs.Recording

/-!
# Names as lines

On an open program a name that is no operation stands for the call of a subroutine, and on an open
constants block every name stands for a register.  Looking the name up, handing it over and
replaying it record the same line.  Only a lookup can miss it: a public name that belongs to a
method or a field is never taken for a line.
-/

namespace PicAssembly

open CommandTable

variable {name : String} {program : Program} {owner : ConstantsBlock}

namespace Member

/-- What a name stands for in a program that records a call of it. -/
structure StandsForCall (name : String) (program : Program) : Prop where
  /-- The call is one line. -/
  line : (program.record [.call name]).code =
    program.code ++ [.str ("\tcall\t" ++ label name)]
  called : (request "call" (.ofList [.str name])).run program =
    (.ok .nothing, program.record [.call name])
  dispatched : (request "dispatch" (.ofList [.str name])).run program =
    (.ok .nothing, program.record [.call name])
  replayed : ∀ commands command, commands.elements? = some [command] →
    parts? command = some (name, []) →
    (request "replay" (.ofList [commands])).run program =
      (.ok .nothing, program.record [.call name])
  /-- A public name is looked up as the call, unless it is the name of a method or a field. -/
  named : isPrivateName name = false → others.lookup name = none →
    (request name (.ofList [])).run program = (.ok .nothing, program.record [.call name])
  /-- Called without arguments, the name of a method or a field changes nothing. -/
  hidden : (others.lookup name).isSome → ((request name (.ofList [])).run program).2 = program

theorem run_call (name : String) (isOpen : program.isFinal = false) :
    (request "call" (.ofList [.str name])).run program =
      (.ok .nothing, program.record [.call name]) := by
  have called : request "call" (.ofList [.str name]) =
      (Build.perform (.call name) >>= fun _ => pure .nothing) := rfl
  rw [called, Build.run_bind, Build.run_perform_of_open rfl isOpen]
  rfl

/-- A name that is no operation is read as a call. -/
theorem read_name (noOperation : Operation.ofName? name = none) :
    Task.read (.str name) [] = .state (.call name) := by
  have named : CommandTable.operation? (.str name) = none := noOperation
  rw [Task.read_of_call rfl named]
  rfl

theorem run_task_call (name : String) (isOpen : program.isFinal = false) :
    (Task.state (.call name)).perform.run program = (.ok none, program.record [.call name]) := by
  rw [Task.perform, Build.run_bind, Build.run_perform_of_open rfl isOpen]
  rfl

theorem run_reply_name (noOperation : Operation.ofName? name = none)
    (isOpen : program.isFinal = false) :
    (Task.read (.str name) []).reply.run program =
      (.ok .nothing, program.record [.call name]) := by
  rw [read_name noOperation, Task.reply, Build.run_bind, run_task_call name isOpen]
  rfl

theorem run_replay_name {commands command : Value} (noOperation : Operation.ofName? name = none)
    (isOpen : program.isFinal = false) (elements : commands.elements? = some [command])
    (parts : parts? command = some (name, [])) :
    (Build.replay commands).run program = (.ok (), program.record [.call name]) := by
  have noScope : Task.namesScope (.str name) = false := by simp [Task.namesScope, noOperation]
  rw [Build.replay, Command.sequence_of_elements? elements, List.map_singleton,
    Command.performAll_single, Command.ofValue_of_parts? parts,
    Command.ofNamed_of_not_scope noScope, read_name noOperation, Command.perform, Build.run_bind,
    run_task_call name isOpen]
  rfl

/-- Without arguments no method changes the program, and no field can be called. -/
theorem run_apply_of_mem {member : Member} (listed : (name, member) ∈ others) :
    ((member.apply (.ofList [])).run program).2 = program := by
  have reads : Keeps (· = program) (text.apply (.ofList [])) := by
    refine (Build.keeps_ofExcept _ _).bind fun bound => ?_
    exact Brings.get.bind fun program => (Keeps.liftM _ _).bind fun _ => Brings.pure _
  simp only [others, List.mem_cons, Prod.mk.injEq, List.not_mem_nil, or_false] at listed
  rcases listed with ⟨_, rfl⟩ | ⟨_, rfl⟩ | ⟨_, rfl⟩ | ⟨_, rfl⟩ | ⟨_, rfl⟩ | ⟨_, rfl⟩ | ⟨_, rfl⟩ |
    ⟨_, rfl⟩ | ⟨_, rfl⟩ | ⟨_, rfl⟩ | ⟨_, rfl⟩
  case inr.inr.inr.inr.inr.inr.inr.inr.inr.inr => exact reads.outcome rfl
  all_goals rfl

theorem run_request_hidden (noOperation : Operation.ofName? name = none)
    (isHidden : (others.lookup name).isSome) :
    ((request name (.ofList [])).run program).2 = program := by
  obtain ⟨member, listed⟩ := Option.isSome_iff_exists.mp isHidden
  obtain ⟨front, back, split, _⟩ := List.lookup_eq_some_iff.mp listed
  have found : ofName name = .ok member := by rw [ofName, noOperation, listed]
  rw [request_of_ofName found]
  exact run_apply_of_mem (split ▸ List.mem_append_cons_self)

theorem standsForCall (noOperation : Operation.ofName? name = none)
    (isOpen : program.isFinal = false) : StandsForCall name program where
  line := by
    rw [Program.code_record]
    rfl
  called := run_call name isOpen
  dispatched := run_reply_name noOperation isOpen
  replayed commands command elements parts := by
    have replayed : request "replay" (.ofList [commands]) =
        (Build.replay commands >>= fun _ => pure .nothing) := rfl
    rw [replayed, Build.run_bind, run_replay_name noOperation isOpen elements parts]
    rfl
  named isPublic noMember := by
    rw [request_of_isCall [] ⟨noOperation, noMember, isPublic⟩]
    exact run_reply_name noOperation isOpen
  hidden := run_request_hidden noOperation

end Member

namespace Scope

/-- What a name stands for on a constants block that declares a register under it. -/
structure StandsForRegister (owner : ConstantsBlock) (name : String) (program : Program) :
    Prop where
  /-- The register is one line. -/
  line : (program.record [.register name]).code = program.code ++ [.str ("\t\t" ++ name)]
  declared : ((constants owner).request "declare" [.str name]).run program =
    (.ok (), program.record [.register name])
  replayed : ∀ body command, body.elements? = some [command] →
    parts? command = some (name, []) →
    ((constants owner).replayed body).run program = (.ok (), program.record [.register name])
  /-- Every public name but that of the method declares itself. -/
  named : isPrivateName name = false → name ≠ "declare" →
    ((constants owner).request name []).run program = (.ok (), program.record [.register name])
  /-- Called without arguments, that method changes nothing. -/
  hidden : name = "declare" → (((constants owner).request name []).run program).2 = program

theorem standsForRegister (name : String) (isOpen : program.isFinal = false)
    (opened : owner ∈ program.openBlocks) : StandsForRegister owner name program where
  line := by
    rw [Program.code_record]
    rfl
  declared := by
    rw [(Declares.given (.str name)).request_eq]
    exact Build.run_declare_open name opened isOpen
  replayed body command elements parts := by
    have declares := Build.run_declare_open name opened isOpen
    rw [Scope.replayed, Command.constantNames_of_elements? elements, List.map_singleton,
      Command.constantName_eq_ok.mpr parts, Command.declareAll, Build.run_bind, declares]
    rfl
  named isPublic noMember := by
    rw [(Declares.named ⟨isPublic, noMember⟩).request_eq]
    exact Build.run_declare_open name opened isOpen
  hidden isMethod := by
    rw [request, if_pos isMethod]
    rfl

end Scope

namespace Program

/-- On every open program a name that is no operation stands for a call, by a call of it, by
dispatch, in a replay and as a member, if it is public and hidden by no method and no field of a
program; and any name stands for a register on an open constants block, given to it, in the body of
a replay and as a member, if it is public and not hidden by the method that declares. -/
theorem names_stand_for_lines (program : Program) (isOpen : program.isFinal = false)
    (name : String) :
    (Operation.ofName? name = none → Member.StandsForCall name program) ∧
    ∀ owner ∈ program.openBlocks, Scope.StandsForRegister owner name program := by
  constructor
  · intro noOperation
    exact Member.standsForCall noOperation isOpen
  · intro owner opened
    exact Scope.standsForRegister name isOpen opened

/-- In a constants block, a subroutine is called and the name of an operation is declared. -/
theorem names_stand_for_lines_in_block :
    let owner : ConstantsBlock := ⟨0⟩
    let program : Program := { Program.initial with guard := some owner, openBlocks := [owner] }
    (Member.request "blink" (.ofList [])).run program =
        (.ok .nothing, program.record [.call "blink"]) ∧
      ((Scope.constants owner).request "loop" []).run program =
        (.ok (), program.record [.register "loop"]) := by
  intro owner program
  obtain ⟨calls, _⟩ := names_stand_for_lines program rfl "blink"
  obtain ⟨_, declares⟩ := names_stand_for_lines program rfl "loop"
  have opened : owner ∈ program.openBlocks := List.mem_singleton_self owner
  exact ⟨(calls (by decide)).named (by decide) (by decide),
    (declares owner opened).named (by decide) (by decide)⟩

/-- Not every public name stands for a line: the methods of a program hide calls, and the method
that declares hides a register. -/
theorem exists_hidden_names :
    (¬ ∀ (program : Program) (name : String), program.isFinal = false →
      isPrivateName name = false → Operation.ofName? name = none →
      ((Member.request name (.ofList [])).run program).2.code =
        program.code ++ [.str ("\tcall\t" ++ label name)]) ∧
    ¬ ∀ (program : Program) (owner : ConstantsBlock) (name : String), program.isFinal = false →
      owner ∈ program.openBlocks → isPrivateName name = false →
      (((Scope.constants owner).request name []).run program).2.code =
        program.code ++ [.str ("\t\t" ++ name)] := by
  constructor
  · intro stands
    have calls := stands .initial "text" rfl (by decide) (by decide)
    have standing : Member.StandsForCall "text" .initial := Member.standsForCall (by decide) rfl
    rw [standing.hidden (by decide)] at calls
    simp at calls
  · intro stands
    let owner : ConstantsBlock := ⟨0⟩
    let program : Program := { Program.initial with guard := some owner, openBlocks := [owner] }
    have opened : owner ∈ program.openBlocks := List.mem_singleton_self owner
    have declares := stands program owner "declare" rfl opened (by decide)
    have standing : Scope.StandsForRegister owner "declare" program :=
      Scope.standsForRegister "declare" rfl opened
    rw [standing.hidden rfl] at declares
    simp at declares

end Program

end PicAssembly
