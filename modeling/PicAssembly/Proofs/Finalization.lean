import PicAssembly.Proofs.EndMarker
import PicAssembly.Proofs.Sessions

/-!
# Finalization

As long as nothing but reading is asked of its listing directly, a program is final exactly when it
has been ended, and it is ended at most once.  The end marker stands before the last line then, and
nowhere else.
-/

namespace PicAssembly

namespace Program

/-- How many lines of a program are end markers. -/
def endMarkers (program : Program) : Nat :=
  program.code.countP (Pins.isWord Line.endMarker)

@[simp]
theorem endMarkers_finished (program : Program) :
    program.finished.endMarkers = program.endMarkers + 1 := by
  have closing : [Value.str "\tend", .str ""].countP (Pins.isWord Line.endMarker) = 1 := by decide
  rw [endMarkers, code_finished, List.countP_append, closing, endMarkers]

theorem endMarkers_record {program : Program} {lines : List Line}
    (allowed : ∀ line ∈ lines, (Allowance.building Allowance.flush).line line) :
    (program.record lines).endMarkers = program.endMarkers := by
  have none : (lineValues lines).countP (Pins.isWord Line.endMarker) = 0 := by
    rw [List.countP_eq_zero]
    intro value member
    obtain ⟨line, recorded, rfl⟩ := List.mem_map.mp member
    simpa [Pins.isWord] using Allowance.text_ne_endMarker (allowed line recorded)
  rw [endMarkers, code_record, List.countP_append, none, endMarkers]
  rfl

theorem endMarkers_initial : initial.endMarkers = 0 := by
  decide +kernel

end Program

namespace History

variable {name : Value → Prop} {before after : Program} {ends : Nat}

/-- A program becomes final by an end, and only by an end. -/
theorem isFinal_of_building (history : History (.building name) before ends after) :
    after.isFinal.toNat = before.isFinal.toNat + ends := by
  induction history with
  | start => rfl
  | record lines _ _ _ induction => exact induction
  | @finish ends program _ isOpen induction =>
      rw [isOpen] at induction
      rw [Program.isFinal_finished, ← Nat.add_assoc, ← induction]
      rfl
  | rearrange _ unchanged induction =>
      rw [← induction, Program.isFinal, Program.isFinal, unchanged]
  | @ask _ program request _ allowed induction =>
      rw [← induction, Program.isFinal, Listing.Request.answer_of_isReading allowed]
      rfl

/-- The lines that end a program are its last ones from then on. -/
theorem closing_suffix (history : History (.building name) before ends after)
    (isOpen : before.isFinal = false) (isFinal : after.isFinal = true) :
    [.str "\tend", .str ""] <:+ after.code := by
  induction history with
  | start => simp [isOpen] at isFinal
  | record lines _ stillOpen _ _ => simp [stillOpen] at isFinal
  | finish _ _ _ =>
      rw [Program.code_finished]
      exact List.suffix_append _ _
  | rearrange _ unchanged induction =>
      rw [Program.isFinal, unchanged] at isFinal
      rw [Program.code, unchanged]
      exact induction isFinal
  | ask request _ allowed induction =>
      rw [Program.isFinal, Listing.Request.answer_of_isReading allowed] at isFinal
      rw [Program.code, Listing.Request.answer_of_isReading allowed]
      exact induction isFinal

/-- Every end adds one end marker, and nothing else adds any. -/
theorem endMarkers_of_building (history : History (.building Allowance.flush) before ends after) :
    after.endMarkers = before.endMarkers + ends := by
  induction history with
  | start => rfl
  | record lines _ _ allowed induction => rw [Program.endMarkers_record allowed, induction]
  | finish _ _ induction => rw [Program.endMarkers_finished, induction, Nat.add_assoc]
  | rearrange _ unchanged induction =>
      rw [← induction, Program.endMarkers, Program.code, unchanged]
      rfl
  | ask request _ allowed induction =>
      rw [← induction, Program.endMarkers, Program.code,
        Listing.Request.answer_of_isReading allowed]
      rfl

end History

namespace Session

/-- A run from a new session ends the program as often as its history does. -/
theorem history_of_runAll {allowance : Allowance} {steps : List Step}
    (allowed : Step.AllAllowed allowance steps) :
    History allowance .initial (Step.endsAll steps initial)
      (outcome (Step.runAll steps) initial).2.program :=
  (Step.follows_runAll allowed initial nofun).leads.history

/-- In every run on a new program that asks its listing for reading only, an end succeeds at most
once, and the program is final exactly if one has succeeded.  Its last two lines are the end marker
and a blank line then; and if no name of a labelled block starts with a tab, the end marker stands
nowhere else, and nowhere at all before. -/
theorem final_iff_ended (steps : List Step)
    (reading : Step.AllAllowed (.building fun _ => True) steps) :
    let ends := Step.endsAll steps initial
    let program := (outcome (Step.runAll steps) initial).2.program
    ends ≤ 1 ∧ (program.isFinal = true ↔ ends = 1) ∧
      (program.isFinal = true → [.str "\tend", .str ""] <:+ program.code) ∧
      (Step.AllAllowed (.building Allowance.flush) steps →
        program.code.countP (Pins.isWord "\tend") = if program.isFinal then 1 else 0) := by
  intro ends program
  have history := history_of_runAll reading
  have counted : program.isFinal.toNat = ends := by
    rw [history.isFinal_of_building]
    exact Nat.zero_add _
  refine ⟨?_, ?_, history.closing_suffix rfl, fun flush => ?_⟩
  · rw [← counted]
    exact Bool.toNat_le _
  · rw [← counted]
    cases program.isFinal <;> simp
  · have markers := (history_of_runAll flush).endMarkers_of_building
    rw [Program.endMarkers_initial, Nat.zero_add] at markers
    refine markers.trans ?_
    change ends = _
    rw [← counted]
    cases program.isFinal <;> rfl

/-- A skipped end closes the program before the blank line behind it, which is refused, and the loop
around it adds no line any more. -/
theorem final_of_skipped_end :
    let steps : List Step := [.within "loop" [.str "main"]
      [.dispatch (.str "decrement_and_test") [.str "counter", .str "end_code"]]]
    let program := (outcome (Step.runAll steps) initial).2.program
    Step.AllAllowed (.building fun _ => True) steps ∧ program.isFinal = true ∧
      [.str "\tend", .str ""] <:+ program.code ∧
      program.code.countP (Pins.isWord "\tend") = 1 := by
  intro steps program
  have reading : Step.AllAllowed (.building fun _ => True) steps :=
    ⟨⟨⟨trivial, trivial⟩, ⟨trivial, trivial⟩, trivial⟩, trivial⟩
  have flush : Step.AllAllowed (.building Allowance.flush) steps :=
    ⟨⟨⟨rfl, trivial⟩, ⟨trivial, trivial⟩, trivial⟩, trivial⟩
  have isFinal : program.isFinal = true := by decide +kernel
  obtain ⟨_, _, closing, marked⟩ := final_iff_ended steps reading
  have once := marked flush
  rw [isFinal] at once
  exact ⟨reading, isFinal, closing isFinal, once⟩

end Session

end PicAssembly
