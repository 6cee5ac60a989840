import PicAssembly.Program.ScopeMember

/-!
# Outcomes of building steps

What the elementary building steps come to, on programs that are open and on programs that are
final.  Longer steps are opened by the equations for their parts and by these.
-/

namespace PicAssembly

/-- Two outcomes in a row succeed through a result of the first one. -/
theorem exists_of_bind_ok {α β : Type} {outcome : Except Fault α} {next : α → Except Fault β}
    {result : β} (succeeds : outcome >>= next = .ok result) :
    ∃ middle, outcome = .ok middle ∧ next middle = .ok result := by
  cases outcome with
  | ok middle => exact ⟨middle, rfl, succeeds⟩
  | error fault => cases succeeds

namespace Program

/-- The program with its end recorded and its listing closed. -/
def finished (program : Program) : Program :=
  let ended := program.record [.directive "end", .blank]
  { ended with listing := ended.listing.close }

@[simp]
theorem code_finished (program : Program) :
    program.finished.code = program.code ++ [.str "\tend", .str ""] := by
  simp only [finished, code, Listing.toList_close]
  exact code_record program _

@[simp]
theorem isFinal_finished (program : Program) : program.finished.isFinal = true := rfl

end Program

namespace Build

variable {α : Type}

theorem run_finish_open {program : Program} (isOpen : program.isFinal = false) :
    finish.run program = (.ok (), program.finished) := by
  rw [finish, run_bind, run_get]
  simp only [isOpen, Bool.false_eq_true, if_false]
  rw [run_bind, run_emit_open _ isOpen]
  rfl

theorem run_finish_final {program : Program} (isFinal : program.isFinal = true) :
    finish.run program = (.error .alreadyEnded, program) := by
  rw [finish, run_bind, run_get]
  simp [isFinal]

/-- Whatever is asked for its keys fails to list them, if it does not fail before. -/
theorem exists_run_askKeys (asked : Thing) (program : Program) :
    ∃ fault left, (askKeys asked).run program = (.error fault, left) := by
  rw [askKeys]
  split
  · rw [run_bind]
    rcases (callNamed asked keysName).run program with ⟨fault | result, left⟩
    · exact ⟨fault, left, rfl⟩
    · exact ⟨.noKeys asked.typeName, left, rfl⟩
  · exact ⟨.foreign asked, program, rfl⟩

theorem run_askKeys_ne_ok (asked : Thing) (program after : Program) :
    (askKeys asked).run program ≠ (.ok (), after) := by
  obtain ⟨fault, left, fails⟩ := exists_run_askKeys asked program
  rw [fails]
  rintro ⟨⟩

end Build

end PicAssembly
