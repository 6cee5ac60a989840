import PicAssembly.Duration
import PicAssembly.Operation
import PicAssembly.Pins

/-!
# Statements

A statement is an operation with its operands in place.  The table of this module says how each of
them goes on: which lines it forms one after the other, each of them right before it is recorded, so
that an operand that has no form stops the statement behind the lines before it.
-/

namespace PicAssembly

/-- The lines that a statement forms in turn; one that cannot be formed stops it. -/
abbrev Draft := List (Except Fault Line)

namespace Draft

/-- The lines before the first one that cannot be formed. -/
def lines : Draft → List Line
  | [] | .error _ :: _ => []
  | .ok line :: draft => line :: lines draft

/-- Why the first line that cannot be formed has no form. -/
def fault? : Draft → Option Fault
  | [] => none
  | .ok _ :: draft => fault? draft
  | .error fault :: _ => some fault

/-- The draft of lines that are all known. -/
def ofLines (lines : List Line) : Draft :=
  lines.map .ok

@[simp]
theorem lines_ofLines_append (known : List Line) (draft : Draft) :
    lines (ofLines known ++ draft) = known ++ draft.lines := by
  induction known with
  | nil => rfl
  | cons line known induction => exact congrArg (line :: ·) induction

@[simp]
theorem fault?_ofLines_append (known : List Line) (draft : Draft) :
    fault? (ofLines known ++ draft) = draft.fault? := by
  induction known with
  | nil => rfl
  | cons line known induction => exact induction

@[simp]
theorem lines_ofLines (known : List Line) : lines (ofLines known) = known := by
  have read := lines_ofLines_append known []
  rw [List.append_nil] at read
  exact read.trans (List.append_nil known)

@[simp]
theorem fault?_ofLines (known : List Line) : fault? (ofLines known) = none := by
  have read := fault?_ofLines_append known []
  rwa [List.append_nil] at read

/-- Whether a line is as described, if it can be formed. -/
def Forms (condition : Line → Prop) (formed : Except Fault Line) : Prop :=
  ∀ line, formed = .ok line → condition line

variable {condition : Line → Prop}

@[simp]
theorem forms_ok {line : Line} : Forms condition (.ok line) ↔ condition line := by
  simp [Forms]

@[simp]
theorem forms_error (fault : Fault) : Forms condition (.error fault) := by
  simp [Forms]

@[simp]
theorem forall_forms_ofLines {known : List Line} :
    (∀ formed ∈ ofLines known, Forms condition formed) ↔ ∀ line ∈ known, condition line := by
  simp [ofLines]

/-- A draft that forms lines as described has only such lines. -/
theorem forall_lines {draft : Draft} (forms : ∀ formed ∈ draft, Forms condition formed) :
    ∀ line ∈ draft.lines, condition line := by
  induction draft with
  | nil => exact List.forall_mem_nil _
  | cons formed draft induction =>
      obtain ⟨first, others⟩ := List.forall_mem_cons.mp forms
      cases formed with
      | error fault => exact List.forall_mem_nil _
      | ok line => exact List.forall_mem_cons.mpr ⟨forms_ok.mp first, induction others⟩

/-- Whether a draft that is stopped by a line has formed none before. -/
def IsWhole (draft : Draft) : Prop :=
  ∀ fault, draft.fault? = some fault → draft.lines = []

theorem isWhole_ofLines (known : List Line) : IsWhole (ofLines known) := by
  intro fault fails
  rw [fault?_ofLines] at fails
  cases fails

theorem isWhole_error (fault : Fault) : IsWhole [.error fault] :=
  fun _ _ => rfl

/-- A draft in which only the first line can stop it has formed none before. -/
theorem isWhole_cons (first : Except Fault Line) (known : List Line) :
    IsWhole (first :: ofLines known) := by
  intro fault fails
  cases first with
  | error _ => rfl
  | ok line =>
      rw [fault?, fault?_ofLines] at fails
      cases fails

end Draft

/-- An operation with its operands: registers and targets as texts, everything else as it is given.
-/
inductive Statement where
  | addTo (value : Value) (register : String)
  | call (target : String)
  | clearBit (register : String) (bit : Value)
  | configurePins (pins : Value) (keywords : List (String × Value))
  | copy (source destination : String)
  | decrement (register : String)
  | decrementBy (value : Value) (register : String)
  | delay (duration : Value)
  | drivePins (pins : Value) (keywords : List (String × Value))
  | increment (register : String)
  | incrementBy (value : Value) (register : String)
  | initClock
  | jump (target : String)
  | returnWith (value : Value)
  | set (register : String) (value : Value)
  | setBit (register : String) (bit : Value)
  | subtractFrom (value : Value) (register : String)
  | subtractInto (subtrahend register : String)
  | test (register : String) (bit : Value) (target : String)
  | testCarry (target : String)
deriving Repr

namespace Statement

/-- An instruction whose last operand is a hexadecimal literal. -/
def literal (mnemonic : Mnemonic) (operands : List String) (value : Value) : Except Fault Line := do
  let number ← Literal.hexadecimalOperand value
  pure (.instruction mnemonic (operands ++ [Literal.hexadecimal number]))

theorem forms_literal {condition : Line → Prop} {mnemonic : Mnemonic} {operands : List String}
    (value : Value) (holds : ∀ number : Int,
      condition (.instruction mnemonic (operands ++ [Literal.hexadecimal number]))) :
    Draft.Forms condition (literal mnemonic operands value) := by
  rw [literal]
  cases Literal.hexadecimalOperand value with
  | error fault => exact Draft.forms_error fault
  | ok number => exact Draft.forms_ok.mpr (holds number)

/-- An instruction that loads a value into the working register. -/
def load (value : Value) : Except Fault Line :=
  literal .movlw [] value

/-- The lines of a statement in the order in which they are formed. -/
def draft : Statement → Draft
  | addTo value register =>
      [load value, .ok (.instruction .addwf [register, "w"]), .ok .blank]
  | call target => .ofLines [.call target]
  | clearBit register bit => [literal .bcf [register] bit, .ok .blank]
  | configurePins pins keywords =>
      match Pins.read pins keywords with
      | .error fault => [.error fault]
      | .ok merged =>
          .ofLines
            [ .instruction .movlw [Literal.binary (Pins.directionMask merged)],
              .instruction .tris ["GPIO"], .blank ]
  | copy source destination =>
      .ofLines [.instruction .movf [source, "w"], .instruction .movwf [destination], .blank]
  | decrement register => .ofLines [.instruction .decf [register, "f"], .blank]
  | decrementBy value register =>
      [load value, .ok (.instruction .subwf [register, "f"]), .ok .blank]
  | delay duration =>
      match Duration.delayUnits duration with
      | .error fault => [.error fault]
      | .ok units => .ofLines (List.replicate units (.call Device.delaySubroutine) ++ [.blank])
  | drivePins pins keywords =>
      match Pins.read pins keywords with
      | .error fault => [.error fault]
      | .ok merged => merged.entries.map Pins.level ++ [.ok .blank]
  | increment register => .ofLines [.instruction .incf [register, "f"], .blank]
  | incrementBy value register =>
      [load value, .ok (.instruction .addwf [register, "f"]), .ok .blank]
  | initClock =>
      .ofLines
        [ .instruction .movwf ["OSCCAL"], .instruction .movlw [Literal.binary Device.optionValue],
          .instruction .option [], .blank ]
  | jump target => .ofLines [.goto target, .blank]
  | returnWith value => [literal .retlw [] value, .ok .blank]
  | set register value => [load value, .ok (.instruction .movwf [register]), .ok .blank]
  | setBit register bit => [literal .bsf [register] bit, .ok .blank]
  | subtractFrom value register =>
      [load value, .ok (.instruction .subwf [register, "w"]), .ok .blank]
  | subtractInto subtrahend register =>
      .ofLines [.instruction .movf [subtrahend, "w"], .instruction .subwf [register, "f"]]
  | test register bit target =>
      [literal .btfss [register] bit, .ok (.goto target), .ok .blank]
  | testCarry target =>
      .ofLines [.instruction .btfss ["STATUS", "0"], .goto target, .blank]

/-- No statement but the one that drives pins is stopped behind its first line. -/
theorem isWhole_draft {statement : Statement}
    (noDrive : ∀ pins keywords, statement ≠ .drivePins pins keywords) :
    statement.draft.IsWhole := by
  cases statement with
  | drivePins pins keywords => exact absurd rfl (noDrive pins keywords)
  | configurePins pins keywords =>
      rw [draft]
      cases Pins.read pins keywords with
      | error fault => exact Draft.isWhole_error fault
      | ok merged => exact Draft.isWhole_ofLines _
  | delay duration =>
      rw [draft]
      cases Duration.delayUnits duration with
      | error fault => exact Draft.isWhole_error fault
      | ok units => exact Draft.isWhole_ofLines _
  | call | copy | decrement | increment | initClock | jump | subtractInto | testCarry =>
      exact Draft.isWhole_ofLines _
  | addTo value | decrementBy value | incrementBy value | set _ value | subtractFrom value =>
      exact Draft.isWhole_cons (load value) [_, _]
  | clearBit register bit | setBit register bit => exact Draft.isWhole_cons (literal _ _ bit) [_]
  | returnWith value => exact Draft.isWhole_cons (literal _ _ value) [_]
  | test register bit target => exact Draft.isWhole_cons (literal _ _ bit) [_, _]

/-- The lines that a statement records on a program that takes them. -/
def lines (statement : Statement) : List Line :=
  statement.draft.lines

/-- The fault with which a statement ends after its lines. -/
def fault? (statement : Statement) : Option Fault :=
  statement.draft.fault?

end Statement

end PicAssembly
