import PicAssembly.Proofs.Nesting

/-!
# Brackets

A constants block stands between two lines that no other line of a program looks like.  In a program
that is inside of given constants blocks these lines come in pairs, and behind the pairs stands the
opening line of the block that is open.
-/

namespace PicAssembly

namespace Program

/-- The line that opens a constants block. -/
def opening : Value :=
  .str "\tcblock 0x08"

/-- The line that closes a constants block. -/
def closing : Value :=
  .str "\tendc"

/-- Whether a line opens or closes a constants block. -/
def isBracket (line : Value) : Bool :=
  Pins.isWord "\tcblock 0x08" line || Pins.isWord "\tendc" line

/-- The lines of a program that open and close constants blocks. -/
def brackets (program : Program) : List Value :=
  program.code.filter isBracket

/-- So many constants blocks one behind the other, each with its two lines. -/
def pairs (count : Nat) : List Value :=
  (List.replicate count [opening, closing]).flatten

theorem pairs_succ (count : Nat) : pairs (count + 1) = pairs count ++ [opening, closing] := by
  rw [pairs, List.replicate_succ', List.flatten_append, List.flatten_singleton, pairs]

/-- As many lines open a constants block as close one. -/
theorem countP_pairs (count : Nat) :
    (pairs count).countP (Pins.isWord "\tcblock 0x08") =
      (pairs count).countP (Pins.isWord "\tendc") := by
  induction count with
  | zero => rfl
  | succ count induction =>
      rw [pairs_succ, List.countP_append, List.countP_append, induction]
      rfl

end Program

open Program (isBracket)

/-- A line that has the text of neither bracket is none. -/
theorem isBracket_of_ne {text : String} (notOpening : text ≠ "\tcblock 0x08")
    (notClosing : text ≠ "\tendc") : isBracket (.str text) = false := by
  simp [isBracket, Pins.isWord, notOpening, notClosing]

/-- A line without a tab at its start is no bracket. -/
theorem isBracket_of_startsWithTab {text : String} (isFlush : startsWithTab text = false) :
    isBracket (.str text) = false := by
  apply isBracket_of_ne
  · rintro rfl
    cases isFlush
  · rintro rfl
    cases isFlush

namespace Line

/-- The words of instructions are others than those of brackets. -/
theorem isBracket_instruction (mnemonic : Mnemonic) (operands : List String) :
    isBracket (.str (instruction mnemonic operands).text) = false := by
  apply isBracket_of_ne
  all_goals
    intro equal
    have letters := congrArg String.toList equal
    rw [text, statement] at letters
    split at letters <;> cases mnemonic <;>
      simp [indented, Mnemonic.text, String.toList_append] at letters

/-- Behind the tab of a register stands another one. -/
theorem isBracket_register (name : String) : isBracket (.str (register name).text) = false := by
  apply isBracket_of_ne
  all_goals
    intro equal
    have letters := congrArg String.toList equal
    simp [text, String.toList_append] at letters

theorem isBracket_of_isPlain {line : Line} (plain : line.isPlain = true) :
    isBracket (.str line.text) = false := by
  cases line with
  | blank => rfl
  | instruction mnemonic operands => exact isBracket_instruction mnemonic operands
  | register name => exact isBracket_register name
  | heading | directive => cases plain

end Line

namespace Program

variable {blocks : List ConstantsBlock} {program : Program}

theorem brackets_record (program : Program) (lines : List Line) :
    (program.record lines).brackets = program.brackets ++ (lineValues lines).filter isBracket := by
  rw [brackets, code_record, List.filter_append, brackets]

theorem brackets_record_of_none {lines : List Line}
    (none : ∀ line ∈ lines, isBracket (.str line.text) = false) :
    (program.record lines).brackets = program.brackets := by
  have plain : (lineValues lines).filter isBracket = [] := by
    rw [List.filter_eq_nil_iff]
    intro value member
    obtain ⟨line, recorded, rfl⟩ := List.mem_map.mp member
    rw [none line recorded]
    exact Bool.false_ne_true
  rw [brackets_record, plain, List.append_nil]

theorem brackets_finished (program : Program) : program.finished.brackets = program.brackets := by
  rw [brackets, code_finished, List.filter_append, brackets]
  exact List.append_nil _

/-- A program inside of the given constants blocks, whose brackets are pairs but for the last. -/
structure Bracketed (blocks : List ConstantsBlock) (program : Program) : Prop where
  inside : program.Inside blocks
  paired : ∃ count, program.brackets = pairs count ++ blocks.map fun _ => opening

namespace Bracketed

theorem initial : Program.initial.Bracketed [] := by
  have none : Program.initial.brackets.isEmpty = true := by decide +kernel
  exact ⟨inside_initial, 0, List.isEmpty_iff.mp none⟩

/-- Only what matters inside of constants blocks and the brackets themselves matter. -/
theorem of_same {after : Program} (bracketed : program.Bracketed blocks)
    (inside : after.Inside blocks) (same : after.brackets = program.brackets) :
    after.Bracketed blocks :=
  ⟨inside, same ▸ bracketed.paired⟩

theorem record (bracketed : program.Bracketed blocks) {lines : List Line}
    (none : ∀ line ∈ lines, isBracket (.str line.text) = false) :
    (program.record lines).Bracketed blocks :=
  bracketed.of_same (bracketed.inside.record lines) (brackets_record_of_none none)

theorem stable (blocks : List ConstantsBlock) : Stable (Bracketed blocks) where
  record bracketed plain := bracketed.record fun line member =>
    Line.isBracket_of_isPlain (plain line member)
  finished bracketed := bracketed.of_same bracketed.inside.finished (brackets_finished _)
  made _ bracketed := bracketed.of_same (bracketed.inside.of_same rfl rfl id) rfl

end Bracketed

end Program

namespace Scope

open Program (Bracketed)

variable {blocks : List ConstantsBlock} {scope : Scope} {program left : Program}

theorem lineValues_constantsStart : Program.lineValues [constantsStart] = [Program.opening] := by
  have line : constantsStart.text = "\tcblock 0x08" := by decide +kernel
  rw [Program.lineValues, List.map_singleton, line, Program.opening]

/-- The name of a labelled block that does not start with a tab makes no bracket. -/
theorem brings_bracketed (allowed : scope.Allowed (.building Allowance.flush)) :
    Brings (Bracketed blocks) scope.enter (Bracketed (scope.opens ++ blocks))
      (Bracketed blocks) := by
  cases scope with
  | block name repeats =>
      have isFlush : startsWithTab (label name.text) = false := by
        cases starts : startsWithTab (label name.text) with
        | false => rfl
        | true => exact (startsWithTab_label starts).symm.trans allowed
      have none : ∀ line ∈ [Line.heading (label name.text)],
          Program.isBracket (.str line.text) = false := by
        intro line member
        rw [List.mem_singleton.mp member]
        exact isBracket_of_startsWithTab isFlush
      intro program bracketed
      rw [← Build.run_eq_outcome]
      cases state : program.isFinal with
      | true =>
          rw [enter, Build.run_emit_final _ [] state]
          exact bracketed
      | false =>
          rw [enter, Build.run_emit_open _ state]
          exact bracketed.record none
  | constants owner =>
      intro program bracketed
      have inside := brings_enter (constants owner) program bracketed.inside
      rw [← Build.run_eq_outcome] at inside ⊢
      cases held : program.guard with
      | some holder =>
          rw [run_enter_held owner held]
          exact bracketed
      | none =>
          obtain rfl := bracketed.inside.eq_nil_of_guard held
          cases state : program.isFinal with
          | true =>
              rw [run_enter_final owner held state] at inside ⊢
              exact bracketed.of_same inside rfl
          | false =>
              rw [run_enter_open owner held state] at inside ⊢
              obtain ⟨count, paired⟩ := bracketed.paired
              have opened : (program.record [constantsStart]).brackets =
                  Program.pairs count ++ [Program.opening] := by
                rw [Program.brackets_record, lineValues_constantsStart, paired]
                exact congrArg (· ++ _) (List.append_nil _)
              exact ⟨inside, count, opened⟩

/-- A scope that is left by a success closes the bracket that it has opened. -/
theorem bracketed_of_leave (bracketed : program.Bracketed (scope.opens ++ blocks))
    (leaves : outcome scope.leave program = (.ok (), left)) : left.Bracketed blocks := by
  have inside : left.Inside blocks := scope.brings_leave.of_ok bracketed.inside leaves
  cases state : program.isFinal with
  | true =>
      obtain ⟨fault, fails⟩ := scope.exists_outcome_leave_final state
      rw [fails] at leaves
      cases leaves
  | false =>
      rw [scope.outcome_leave_open state] at leaves
      cases leaves
      cases scope with
      | block name repeats =>
          have plain : ∀ line ∈ (block name repeats).closingLines, line.isPlain = true := by
            cases repeats <;> simp [closingLines, Line.isPlain, Line.goto]
          exact (Bracketed.stable blocks).record bracketed plain
      | constants owner =>
          obtain ⟨count, paired⟩ := bracketed.paired
          have none : blocks = [] := by
            have single := bracketed.inside.single
            simpa [opens] using single
          subst none
          refine ⟨inside, count + 1, ?_⟩
          have brackets : program.brackets = Program.pairs count ++ [Program.opening] := paired
          rw [Program.brackets_record, Program.pairs_succ, List.map_nil, List.append_nil]
          change program.brackets ++ [Program.closing] = _
          rw [brackets, List.append_assoc]
          rfl

end Scope

end PicAssembly
