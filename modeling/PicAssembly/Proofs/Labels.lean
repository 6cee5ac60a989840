import PicAssembly.Proofs.Capitals
import PicAssembly.Proofs.Names

/-!
# Labels of names

A label is its own label, so a block meets everything that leads to its name, whether the name or
its label is written in either place.  Names that start with seven-bit characters have the same
label only if they differ in nothing but the case of these characters.
-/

namespace PicAssembly

open CommandTable

/-! ## Labels of labels -/

theorem labelChars_labelChars (chars : List Char) :
    labelChars (labelChars chars) = labelChars chars := by
  cases chars with
  | nil => rfl
  | cons char rest =>
      obtain ⟨first, others, spelled⟩ := Capital.exists_ofChar char
      have settled := Capital.ofChar_of_head spelled
      rw [labelChars, spelled, List.cons_append, labelChars, settled]
      rfl

theorem label_label (name : String) : label (label name) = label name := by
  rw [label, toList_label, labelChars_labelChars, label]

/-! ## Labels of seven-bit names -/

namespace Capital

theorem toUpper_of_lt_128 : ∀ code < 128, ofChar (.ofNat code) = [(Char.ofNat code).toUpper] := by
  decide +kernel

theorem case_of_lt_128 : ∀ code < 128,
    (Char.ofNat code).toUpper.toLower = (Char.ofNat code).toLower ∧
      (Char.ofNat code).toLower.toUpper = (Char.ofNat code).toUpper := by
  decide +kernel

variable {first second : Char}

theorem ofChar_of_ascii (ascii : first.toNat < 128) : ofChar first = [first.toUpper] := by
  simpa using toUpper_of_lt_128 first.toNat ascii

theorem toUpper_eq_toUpper_iff (left : first.toNat < 128) (right : second.toNat < 128) :
    first.toUpper = second.toUpper ↔ first.toLower = second.toLower := by
  have leftCase := case_of_lt_128 first.toNat left
  have rightCase := case_of_lt_128 second.toNat right
  rw [Char.ofNat_toNat] at leftCase rightCase
  constructor
  · intro upper
    rw [← leftCase.1, upper, rightCase.1]
  · intro lower
    rw [← leftCase.2, lower, rightCase.2]

end Capital

/-- The label of a seven-bit initial forgets its case and nothing else. -/
theorem label_eq_label_iff {first second : Char} {rest others : List Char}
    (left : first.toNat < 128) (right : second.toNat < 128) :
    label (.ofList (first :: rest)) = label (.ofList (second :: others)) ↔
      first.toLower = second.toLower ∧ rest = others := by
  rw [label, label, String.toList_ofList, String.toList_ofList, String.ofList_inj, labelChars,
    labelChars, Capital.ofChar_of_ascii left, Capital.ofChar_of_ascii right, List.singleton_append,
    List.singleton_append, List.cons.injEq, Capital.toUpper_eq_toUpper_iff left right]

/-! ## Blocks and what leads to them -/

namespace Member

/-- A labelled block that is opened under one name is headed by the label that every call, jump
and test to another name holds. -/
structure Meets (heading opened target : String) (program : Program) : Prop where
  opens : ∀ operation : Operation, operation.isScoped = true → operation ≠ .constants →
    (request operation.name (.ofList [.str opened]) >>= Reply.enter).Appends program [heading]
  calls : (request "call" (.ofList [.str target])).Appends program ["\tcall\t" ++ heading]
  dispatches : Operation.ofName? target = none →
    (request "dispatch" (.ofList [.str target])).Appends program ["\tcall\t" ++ heading]
  names : Operation.ofName? target = none → isPrivateName target = false →
    others.lookup target = none →
    (request target (.ofList [])).Appends program ["\tcall\t" ++ heading]
  jumps : (request "jump" (.ofList [.str target])).Appends program ["\tgoto\t" ++ heading, ""]
  tests : ∀ (register bit : Value) (number : Int), bit.integer? = some number →
    (request "test" (.ofList [register, bit, .str target])).Appends program
      [instruction "btfss" [register.text, Literal.hexadecimal number], "\tgoto\t" ++ heading, ""]
  testsCarry : (request "test_carry" (.ofList [.str target])).Appends program
    ["\tbtfss\tSTATUS, 0", "\tgoto\t" ++ heading, ""]

variable {opened target : String} {program : Program}

/-- Every operation that opens a scope makes a labelled block, but for the constants block. -/
theorem exists_request_block {operation : Operation} (isScoped : operation.isScoped = true)
    (noConstants : operation ≠ .constants) (name : Value) :
    ∃ repeats, request operation.name (.ofList [name]) = pure (.scope (.block name repeats)) := by
  cases operation <;> cases isScoped
  case constants => exact absurd rfl noConstants
  all_goals exact ⟨_, rfl⟩

theorem appends_enter_block (name : String) (repeats : Bool) (isOpen : program.isFinal = false) :
    (Reply.scope (.block (.str name) repeats)).enter.Appends program [label name] := by
  have enters : (Scope.block (.str name) repeats).enter.run program =
      (.ok (), program.record [.heading (label name)]) := Build.run_emit_open _ isOpen
  refine ⟨.block (.str name) repeats, program.record [.heading (label name)], ?_, ?_⟩
  · rw [Reply.enter, Build.run_bind, enters]
    rfl
  · exact .record [.heading (label name)] isOpen

theorem adds_call (target : String) (isOpen : program.isFinal = false) :
    program.Adds ["\tcall\t" ++ label target] (program.record [.call target]) :=
  .record [.call target] isOpen

/-- Names with the same label meet each other. -/
theorem meets (same : label opened = label target) (isOpen : program.isFinal = false) :
    Meets (label target) opened target program where
  opens operation isScoped noConstants := by
    obtain ⟨repeats, made⟩ := exists_request_block isScoped noConstants (.str opened)
    rw [made, pure_bind, ← same]
    exact appends_enter_block opened repeats isOpen
  calls := ⟨_, _, run_call target isOpen, adds_call target isOpen⟩
  dispatches noOperation :=
    ⟨_, _, (standsForCall noOperation isOpen).dispatched, adds_call target isOpen⟩
  names noOperation isPublic noMember :=
    ⟨_, _, (standsForCall noOperation isOpen).named isPublic noMember, adds_call target isOpen⟩
  jumps := by
    have read : Task.ofOperation .jump (.ofList [.str target]) = .state (.jump target) := rfl
    have appends := appends_statement read rfl isOpen
    exact appends
  tests register bit number isNumber := by
    have read : Task.ofOperation .test (.ofList [register, bit, .str target]) =
        .state (.test register.text bit target) := rfl
    have written : Statement.literal .btfss [register.text] bit =
        .ok (.instruction .btfss [register.text, Literal.hexadecimal number]) := by
      cases bit <;> cases isNumber <;> rfl
    have drafted : (Statement.test register.text bit target).draft = .ofLines
        [ .instruction .btfss [register.text, Literal.hexadecimal number], .goto target,
          .blank ] := by
      rw [Statement.draft, written]
      rfl
    have appends := appends_draft read drafted isOpen
    exact appends
  testsCarry := by
    have read : Task.ofOperation .testCarry (.ofList [.str target]) =
        .state (.testCarry target) := rfl
    have appends := appends_statement read rfl isOpen
    exact appends

end Member

/-- A label is its own label, so that a block opened under a name or under its label meets the other
one; and names that start with seven-bit characters have the same label exactly if they differ in
nothing but the case of these characters. -/
theorem labels_agree :
    (∀ name : String, label (label name) = label name) ∧
    (∀ (name : String) (program : Program), program.isFinal = false →
      Member.Meets (label name) (label name) name program ∧
        Member.Meets (label name) name (label name) program) ∧
    ∀ (first second : Char) (rest others : List Char), first.toNat < 128 → second.toNat < 128 →
      (label (.ofList (first :: rest)) = label (.ofList (second :: others)) ↔
        first.toLower = second.toLower ∧ rest = others) := by
  refine ⟨label_label, fun name program isOpen => ⟨?_, ?_⟩, fun _ _ _ _ => label_eq_label_iff⟩
  · exact Member.meets (label_label name) isOpen
  · have met := Member.meets (label_label name).symm isOpen
    rwa [label_label] at met

/-- A name that starts with a ligature meets the label that takes three characters for it, and of
two names that differ in their initials only those share a label that differ in its case. -/
theorem labels_agree_of_initials :
    label (label "ﬃx") = "FFIx" ∧ Program.initial.isFinal = false ∧
      Member.Meets "FFIx" "FFIx" "ﬃx" .initial ∧
      label "blink" = label "Blink" ∧ label "blink" ≠ label "clink" := by
  obtain ⟨settled, meets, shares⟩ := labels_agree
  have spelled : label "ﬃx" = "FFIx" := by decide +kernel
  refine ⟨(settled _).trans spelled, rfl, ?_, ?_, ?_⟩
  · rw [← spelled]
    exact (meets "ﬃx" .initial rfl).1
  · exact (shares 'b' 'B' "link".toList "link".toList (by decide) (by decide)).mpr (by decide)
  · intro same
    have initials := (shares 'b' 'c' "link".toList "link".toList (by decide) (by decide)).mp same
    exact absurd initials.1 (by decide)

end PicAssembly
