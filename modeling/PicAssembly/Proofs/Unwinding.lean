import PicAssembly.Proofs.Replay
import PicAssembly.Proofs.Structured

/-!
# Faults that pass through scopes

A fault that passes outwards through scopes records nothing on its way, and it closes the constants
blocks that it passes through, so that the program goes on behind them as if they had been left.  A
scope whose body has succeeded is refused its closing lines exactly by a final program, and then it
is closed all the same.
-/

namespace PicAssembly

open CommandTable

/-- A program is left by a fault that was raised in another one as that one was, except that the
constants blocks among the frames are closed. -/
structure Program.Unwound (frames : List Frame) (raised left : Program) : Prop where
  code : left.code = raised.code
  isFinal : left.isFinal = raised.isFinal
  closed : ∀ owner, .scope (.constants owner) ∈ frames →
    owner ∉ left.openBlocks ∧ left.guard = none

/-- The program that is left, and whether it is left by a fault, when the body of a scope has
finished. -/
structure Scope.Leaves (scope : Scope) (finished : Program) (result : Except Fault Unit)
    (left : Program) : Prop where
  refused : (∃ fault, result = .error fault) ↔ finished.isFinal = true
  unchanged : finished.isFinal = true → left.code = finished.code
  isFinal : left.isFinal = finished.isFinal
  closed : ∀ owner, scope = .constants owner → owner ∉ left.openBlocks ∧ left.guard = none

/-- A program that takes well-formed operations and sequences, its end, and a constants block. -/
structure Program.GoesOn (program : Program) : Prop where
  performs : ∀ {name operands lines}, dispatched? name operands = some lines →
    ∃ result after, (Task.read name operands).perform.run program = (.ok result, after) ∧
      after.code = program.code ++ lines.map .str
  replays : ∀ {commands lines}, Lists commands lines →
    ∃ after, (Build.replay commands).run program = (.ok (), after) ∧
      after.code = program.code ++ lines.map .str
  finishes : ∃ after, Build.finish.run program = (.ok (), after)
  enters : ∀ owner, ∃ entered, (Scope.constants owner).enter.run program = (.ok (), entered) ∧
    owner ∈ entered.openBlocks

namespace Scope

theorem not_mem_openBlocks_closed (owner : ConstantsBlock) (program : Program) :
    owner ∉ ((constants owner).closed program).openBlocks := by
  simp [closed]

/-- Closing a scope opens no constants block and does not take the guard. -/
theorem closed_stays (scope : Scope) {program : Program} {owner : ConstantsBlock}
    (closed : owner ∉ program.openBlocks ∧ program.guard = none) :
    owner ∉ (scope.closed program).openBlocks ∧ (scope.closed program).guard = none := by
  cases scope with
  | block name repeats => exact closed
  | constants other =>
      refine ⟨fun opened => closed.1 ?_, rfl⟩
      exact (List.mem_filter.mp opened).1

theorem leaves (scope : Scope) (finished : Program) :
    scope.Leaves finished (outcome scope.leave finished).1 (outcome scope.leave finished).2 := by
  have closes (owner : ConstantsBlock) (isConstants : scope = .constants owner) :
      owner ∉ (scope.closed finished).openBlocks ∧ (scope.closed finished).guard = none := by
    subst isConstants
    exact ⟨not_mem_openBlocks_closed owner finished, rfl⟩
  cases state : finished.isFinal with
  | false =>
      rw [scope.outcome_leave_open state]
      refine ⟨?_, ?_, ?_, closes⟩
      · simp [state]
      · simp [state]
      · rw [Program.isFinal_record, isFinal_closed]
  | true =>
      obtain ⟨fault, leaves⟩ := scope.exists_outcome_leave_final state
      rw [leaves]
      refine ⟨?_, fun _ => ?_, isFinal_closed scope finished, closes⟩
      · simp [state]
      · rw [Program.code, listing_closed, Program.code]

end Scope

namespace Program

/-- What a fault makes of a program by passing through frames. -/
theorem unwound_foldr (frames : List Frame) (raised : Program) :
    raised.Unwound frames (frames.foldr (fun frame program => frame.closed program) raised) := by
  induction frames with
  | nil => exact ⟨rfl, rfl, nofun⟩
  | cons frame frames induction =>
      rw [List.foldr_cons]
      generalize frames.foldr (fun frame program => frame.closed program) raised = left
        at induction ⊢
      cases frame with
      | scope scope =>
          refine ⟨?_, ?_, fun owner member => ?_⟩
          · rw [← induction.code, Frame.closed, code, Scope.listing_closed, code]
          · rw [← induction.isFinal, Frame.closed, Scope.isFinal_closed]
          · rcases List.mem_cons.mp member with isHead | isLater
            · cases isHead
              exact ⟨Scope.not_mem_openBlocks_closed owner left, rfl⟩
            · exact scope.closed_stays (induction.closed owner isLater)
      | whole | commands | attempt =>
          refine ⟨induction.code, induction.isFinal, fun owner member => ?_⟩
          rcases List.mem_cons.mp member with isHead | isLater
          · cases isHead
          · exact induction.closed owner isLater

/-- An open program whose guard is free goes on. -/
theorem goesOn_of_free {program : Program} (isOpen : program.isFinal = false)
    (free : program.guard = none) : program.GoesOn where
  performs {name operands lines} row := by
    obtain ⟨result, after, runs, adds, _⟩ := Task.adds_read row program isOpen free
    exact ⟨result, after, runs, adds.code⟩
  replays lists := by
    obtain ⟨_, after, runs, adds, _⟩ := Build.adds_replay lists program isOpen free
    exact ⟨after, runs, adds.code⟩
  finishes := ⟨program.finished, Build.run_finish_open isOpen⟩
  enters owner := ⟨_, Scope.run_enter_open owner free isOpen, List.mem_cons_self⟩

end Program

namespace Move

open Session (upshot)

/-- In every structured run on a new program, whatever the scopes around a failing move are, its
fault passes through them without a line and without a change of finality, and the constants blocks
that it passes through are closed and the guard is free; outside of all constants blocks the program
goes on, unless it is final.  A scope whose moves have succeeded is left by a fault exactly if the
program has become final, with no line and with its constants block closed. -/
theorem scopes_unwind (steps : List Step) (structured : Step.areStructured steps = true)
    {outer : List Frame} {move : Move} {later : List Move} {here : Session}
    (reaches : ComesTo (steps.map .step) .initial outer (move :: later) here) :
    (∀ {frames raising rest point fault raised},
      ComesTo (move :: later) here frames (raising :: rest) point → .attempt ∉ frames →
      upshot raising.run point = (.error fault, raised) →
      ∃ left, upshot (runAll (move :: later)) here = (.error fault, left) ∧
        raised.Unwound frames left ∧
        ((∀ owner, .scope (.constants owner) ∉ outer) → raised.isFinal = false → left.GoesOn)) ∧
      ∀ {scope body entered finished}, move.Opens here (.scope scope) body entered →
        upshot (runAll body) entered = (.ok (), finished) →
        ∃ result left, upshot move.run here = (result, left) ∧
          scope.Leaves finished result left := by
  refine ⟨fun {frames raising rest point fault raised} comes passes fails => ?_, ?_⟩
  · have stops : upshot (runAll (raising :: rest)) point = (.error fault, raised) :=
      Session.upshot_bind_error fails
    have unwinds := comes.upshot_error passes stops
    have unwound := Program.unwound_foldr frames raised
    refine ⟨_, unwinds, unwound, fun outside isOpen => ?_⟩
    -- The guard is free behind the fault, since the run around it keeps what holds outside.
    obtain ⟨inside, stillStructured⟩ :=
      reaches.inside (isStructured_steps structured) Program.inside_initial
    have ended := (keeps_runAll stillStructured _).outcome inside
    obtain ⟨after, reached, left⟩ := Session.exists_of_upshot_error unwinds
    rw [reached] at ended
    have noBlocks : outer.reverse.flatMap Frame.opens ++ [] = [] := by
      simp only [List.append_nil, List.flatMap_eq_nil_iff, List.mem_reverse]
      intro frame member
      rw [List.eq_nil_iff_forall_not_mem]
      intro owner opened
      rw [Frame.mem_opens.mp opened] at member
      exact outside owner member
    rw [← unwound.isFinal] at isOpen
    rw [← left] at isOpen ⊢
    exact Program.goesOn_of_free isOpen (ended.free noBlocks isOpen)
  · intro scope body entered finished opens returns
    exact ⟨_, _, opens.upshot_ok returns, scope.leaves finished⟩

/-- A declaration with an argument too many fails in a constants block of a subroutine, and an
attempt outside of both swallows the fault.  In another run a block is left by a fault, since its
body has ended the program. -/
theorem scopes_unwind_attempt :
    let wrong : Step := .register "it" "led" [.null]
    let inner : Step := .within "subr" [.str "init"] [.within "constants" [] [wrong]]
    let end_code : Step := .dispatch (.str "end_code") []
    let last : Step := .within "block" [.str "tail"] [end_code]
    let tail : Scope := .block (.str "tail") false
    Step.areStructured [.tolerate inner] = true ∧ Step.areStructured [last] = true ∧
      (∃ fault, ∃ raised left : Program, raised.openBlocks = [⟨0⟩] ∧
        upshot (runAll [.step inner]) .initial = (.error fault, left) ∧
        raised.Unwound [.scope (.block (.str "init") false), .scope (.constants ⟨0⟩)] left ∧
        left.GoesOn) ∧
      ∃ fault, ∃ finished left : Program, finished.isFinal = true ∧
        upshot (Move.step last).run .initial = (.error fault, left) ∧
        tail.Leaves finished (.error fault) left := by
  intro wrong inner end_code last tail
  refine ⟨rfl, rfl, ?_, ?_⟩
  · have reaches : ComesTo [.step (.tolerate inner)] .initial [.attempt] [.step inner] .initial :=
      .inner (.tolerate _) (.here _ _)
    obtain ⟨unwinds, _⟩ := scopes_unwind [.tolerate inner] rfl reaches
    obtain ⟨point, comes, ⟨fault, fails⟩, opened, isOpen⟩ : ∃ point,
        ComesTo [.step inner] .initial
          [.scope (.block (.str "init") false), .scope (.constants ⟨0⟩)] [.step wrong] point ∧
        (∃ fault, (upshot (Move.step wrong).run point).1 = .error fault) ∧
        (upshot (Move.step wrong).run point).2.openBlocks = [⟨0⟩] ∧
        (upshot (Move.step wrong).run point).2.isFinal = false :=
      ⟨_, .inner (.within rfl rfl) (.inner (.within rfl rfl) (.here _ _)), ⟨_, rfl⟩, rfl, rfl⟩
    obtain ⟨left, passes, unwound, goesOn⟩ := unwinds comes (by simp) (Prod.ext fails rfl)
    exact ⟨fault, _, left, opened, passes, unwound, goesOn (by simp) isOpen⟩
  · have reaches : ComesTo [.step last] .initial [] [.step last] .initial := .here _ _
    obtain ⟨_, leaves⟩ := scopes_unwind [last] rfl reaches
    obtain ⟨entered, opens, returns, isFinal⟩ : ∃ entered,
        (Move.step last).Opens .initial (.scope tail) [.step end_code] entered ∧
        (upshot (runAll [.step end_code]) entered).1 = .ok () ∧
        (upshot (runAll [.step end_code]) entered).2.isFinal = true :=
      ⟨_, .within rfl rfl, rfl, rfl⟩
    obtain ⟨result, left, runs, isLeft⟩ := leaves opens (Prod.ext returns rfl)
    obtain ⟨fault, rfl⟩ := isLeft.refused.mpr isFinal
    exact ⟨fault, _, left, isFinal, runs, isLeft⟩

end Move

end PicAssembly
