import PicAssembly.Proofs.Binding
import PicAssembly.Proofs.DirectionMasks
import PicAssembly.Task

/-!
# Rows of the table

An operation with its operands in place is read as a task that has the lines of its row in the
table, and no lines where the table has no row.
-/

namespace PicAssembly

open CommandTable

namespace Draft

/-- The texts of the lines of a draft, if all of them can be formed. -/
def texts? (draft : Draft) : Option (List String) :=
  if draft.fault?.isNone then some (draft.lines.map Line.text) else none

@[simp]
theorem texts?_ofLines (known : List Line) :
    texts? (ofLines known) = some (known.map Line.text) := by
  rw [texts?, fault?_ofLines, lines_ofLines]
  rfl

theorem texts?_ok_cons (line : Line) (draft : Draft) :
    texts? (.ok line :: draft) = draft.texts?.map (line.text :: ·) := by
  rw [texts?, texts?, fault?, lines]
  cases draft.fault? <;> rfl

end Draft

namespace Pins

/-- An entry has an instruction in the table if its key is a pin that can be driven. -/
theorem toOption_level (key value : Value) :
    (level (key, value)).toOption.map Line.text = drive? (key, value) := by
  have first : _ = isWord "gp0" key := Device.Pin.ofKey?_beq key .gp0
  have second : _ = isWord "gp1" key := Device.Pin.ofKey?_beq key .gp1
  have third : _ = isWord "gp2" key := Device.Pin.ofKey?_beq key .gp2
  rw [drive?, ← first, ← second, ← third, level, Device.Pin.drivenOfKey?]
  simp only [drive]
  rw [Device.highWord]
  generalize isWord "hi" value = isHigh
  rcases Device.Pin.ofKey? key with _ | pin
  · rfl
  · cases pin <;> cases isHigh <;> rfl

theorem texts?_levels (entries : Entries) :
    Draft.texts? (entries.map level ++ [.ok .blank]) =
      (entries.mapM drive?).bind fun driven => some (driven ++ [""]) := by
  induction entries with
  | nil => rfl
  | cons entry entries induction =>
      have first := toOption_level entry.1 entry.2
      rw [List.map_cons, List.cons_append, List.mapM_cons, ← first]
      cases level entry with
      | error fault => rfl
      | ok line =>
          rw [Draft.texts?_ok_cons, induction]
          cases entries.mapM drive? <;> rfl

theorem read_nil (pins : Value) : read pins [] = ofValue pins := by
  rw [read]
  cases ofValue pins <;> rfl

/-- What makes something of every name lists no keys. -/
theorem ofValue_callee {pins : Value} {asked : Thing} (calls : pins.callee? = some asked) :
    ofValue pins = .error (.noKeys pins.typeName) := by
  cases pins with
  | thing held =>
      have takesNames : held.takesNames = true := by
        rw [Value.callee?] at calls
        split at calls
        · assumption
        · cases calls
      have named : held.typeName = "Program" ∨ held.typeName = "ConstantBlock" := by
        simpa [Thing.takesNames] using takesNames
      have isTruthy : (Value.thing held).isTruthy = true := by
        rcases named with named | named <;>
          simp [Value.isTruthy, Thing.isTruthy, Thing.isEmpty, Thing.collectionTypes, named]
      have noElements : (Value.thing held).elements? = none := by
        rcases named with named | named <;>
          simp [Value.elements?, Thing.isWalkable, Thing.isEmpty, Thing.collectionTypes, named]
      have paired : pairsOf (.thing held) = .error (.noKeys held.typeName) := by
        simp [pairsOf, noElements, Value.callee?, takesNames, Value.typeName]
      rw [ofValue, if_pos isTruthy, paired]
      rfl
  | null | bool | int | float | str | list | tuple | dict => cases calls

end Pins

namespace Duration

theorem toOption_delayUnits (duration : Value) :
    (delayUnits duration).toOption = units? duration := by
  rw [delayUnits, units?]
  cases seconds duration with
  | error fault => rfl
  | ok number =>
      change (count (number.divide Device.delayUnit)).toOption = _
      simp only [Except.toOption, Option.map_some]
      cases number.divide Device.delayUnit <;> rfl

end Duration

namespace Task

/-- The lines that a task records if it neither fails nor ends the program. -/
def lines? : Task → Option (List Line)
  | state statement => if statement.fault?.isNone then some statement.lines else none
  | skip register inner =>
      inner.lines?.map fun lines => .instruction .decfsz [register, "f"] :: lines ++ [.blank]
  | makeBlock _ _ | makeConstants => some []
  | ask _ | finish | refuse _ => none

/-- The texts of these lines. -/
def texts? (task : Task) : Option (List String) :=
  task.lines?.map fun lines => lines.map Line.text

theorem length_le_one_of_mapping? {operands : List Value} {lines : List String}
    {next : Dictionary → Option (List String)} (row : (mapping? operands).bind next = some lines) :
    operands.length ≤ 1 := by
  match operands with
  | [] | [_] => simp
  | _ :: _ :: _ => cases row

theorem admits_of_takesPins {operation : Operation} (takesPins : operation.takesPins = true)
    {count : Nat} (few : count ≤ 1) : operation.signature.admits count = true := by
  cases operation <;> cases takesPins <;>
    simp [Signature.admits, Operation.signature, Operation.parameters, Signature.parameters,
      Operation.takesPins, few]

/-- A row of the table takes no other number of operands than the signature. -/
theorem admits_of_row? {operation : Operation} {operands : List Value} {lines : List String}
    (row : row? operation operands = some lines) :
    operation.signature.admits operands.length = true := by
  unfold row? at row
  split at row <;> try rfl
  · exact admits_of_takesPins rfl (length_le_one_of_mapping? row)
  · exact admits_of_takesPins rfl (length_le_one_of_mapping? row)
  · cases row

theorem length_of_admits {operation : Operation} {operands : List Value}
    (admits : operation.signature.admits operands.length = true)
    (noPins : operation.takesPins = false) (noSkip : operation ≠ .decrementAndTest) :
    operands.length = operation.parameters.length := by
  simp [Signature.admits, Operation.signature, Signature.parameters, noPins, noSkip] at admits
  omega

theorem length_le_one_of_takesPins {operation : Operation} {operands : List Value}
    (takesPins : operation.takesPins = true)
    (admits : operation.signature.admits operands.length = true) : operands.length ≤ 1 := by
  cases operation <;> cases takesPins <;>
    simpa [Signature.admits, Operation.signature, Operation.parameters, Signature.parameters,
      Operation.takesPins] using admits

theorem texts?_state (statement : Statement) :
    (state statement).texts? = statement.draft.texts? := by
  rw [texts?, lines?, Statement.fault?, Draft.texts?]
  cases statement.draft.fault? <;> rfl

theorem initClock_texts : (state .initClock).texts? = some
    [instruction "movwf" ["OSCCAL"], instruction "movlw" ["b'10011000'"], "\toption", ""] := by
  rw [texts?_state, Statement.draft, Draft.texts?_ofLines]
  decide +kernel

theorem delay_texts (duration : Value) :
    (state (.delay duration)).texts? = row? .delay [duration] := by
  have call : (Line.call Device.delaySubroutine).text =
      instruction "call" ["Four_microsecond_delay"] := by decide +kernel
  rw [texts?_state, Statement.draft, row?, ← Duration.toOption_delayUnits]
  cases Duration.delayUnits duration with
  | error fault => rfl
  | ok units =>
      dsimp only
      rw [Draft.texts?_ofLines, List.map_append, List.map_replicate, call]
      rfl

theorem configPins_texts (pins : Value) :
    (state (.configurePins pins [])).texts? =
      (Pins.ofValue pins).toOption.bind fun merged =>
        some [instruction "movlw" [mask merged.entries], instruction "tris" ["GPIO"], ""] := by
  rw [texts?_state, Statement.draft, Pins.read_nil]
  cases Pins.ofValue pins with
  | error fault => rfl
  | ok merged =>
      dsimp only
      rw [Draft.texts?_ofLines, Pins.binary_directionMask]
      rfl

theorem drivePins_texts (pins : Value) :
    (state (.drivePins pins [])).texts? =
      (Pins.ofValue pins).toOption.bind fun merged =>
        (merged.entries.mapM drive?).bind fun driven => some (driven ++ [""]) := by
  rw [texts?_state, Statement.draft, Pins.read_nil]
  cases Pins.ofValue pins with
  | error fault => rfl
  | ok merged => exact Pins.texts?_levels merged.entries

/-- An operation on pins has the lines of its statement; nothing is left of pins that make something
of every name, which list no keys. -/
theorem texts?_ofPins (statement : Value → List (String × Value) → Statement) (bound : Bound)
    {row : Dictionary → Option (List String)}
    (texts : (state (statement (bound.slot 0) bound.extra)).texts? =
      (Pins.ofValue (bound.slot 0)).toOption.bind row) :
    (ofPins statement bound).texts? = (Pins.ofValue (bound.slot 0)).toOption.bind row := by
  rw [ofPins]
  cases calls : (bound.slot 0).callee? with
  | none => exact texts
  | some asked =>
      rw [Pins.ofValue_callee calls]
      rfl

/-- What an operation with its operands in place is read as has the lines of its row. -/
theorem texts?_placed {operation : Operation} {operands : List Value} (inner : Task)
    (admits : operation.signature.admits operands.length = true)
    (noScope : operation.isScoped = false) (noSkip : operation ≠ .decrementAndTest) :
    (ofBound operation (operation.signature.placed operands) inner).texts? =
      row? operation operands := by
  have length := length_of_admits admits
  cases operation with
  | block | constants | loop | subr => cases noScope
  | decrementAndTest => exact absurd rfl noSkip
  | add =>
      match operands, length rfl noSkip with
      | [value, register], _ => cases value <;> rfl
  | clearBit =>
      match operands, length rfl noSkip with
      | [register, bit], _ => cases bit <;> rfl
  | configIo =>
      match operands, length_le_one_of_takesPins rfl admits with
      | [], _ => exact texts?_ofPins .configurePins (.mk [none] [] []) (configPins_texts .null)
      | [pins], _ =>
          exact texts?_ofPins .configurePins (.mk [some pins] [] []) (configPins_texts pins)
  | copy =>
      match operands, length rfl noSkip with
      | [source, destination], _ => rfl
  | decrement =>
      match operands, length rfl noSkip with
      | [register], _ => rfl
  | decrementBy =>
      match operands, length rfl noSkip with
      | [value, register], _ => cases value <;> rfl
  | delay =>
      match operands, length rfl noSkip with
      | [duration], _ => exact delay_texts duration
  | done =>
      match operands, length rfl noSkip with
      | [value], _ => cases value <;> rfl
  | endCode =>
      match operands, length rfl noSkip with
      | [], _ => rfl
  | increment =>
      match operands, length rfl noSkip with
      | [register], _ => rfl
  | incrementBy =>
      match operands, length rfl noSkip with
      | [value, register], _ => cases value <;> rfl
  | initClock =>
      match operands, length rfl noSkip with
      | [], _ => exact initClock_texts
  | jump =>
      match operands, length rfl noSkip with
      | [target], _ => rfl
  | set =>
      match operands, length rfl noSkip with
      | [register, value], _ => cases value <;> rfl
  | setBit =>
      match operands, length rfl noSkip with
      | [register, bit], _ => cases bit <;> rfl
  | setIo =>
      match operands, length_le_one_of_takesPins rfl admits with
      | [], _ => exact texts?_ofPins .drivePins (.mk [none] [] []) (drivePins_texts .null)
      | [pins], _ =>
          exact texts?_ofPins .drivePins (.mk [some pins] [] []) (drivePins_texts pins)
  | subtract =>
      match operands, length rfl noSkip with
      | [value, register], _ => cases value <;> rfl
  | subtractAndSet =>
      match operands, length rfl noSkip with
      | [subtrahend, register], _ => rfl
  | test =>
      match operands, length rfl noSkip with
      | [register, bit, target], _ => cases bit <;> rfl
  | testCarry =>
      match operands, length rfl noSkip with
      | [target], _ => rfl

end Task

end PicAssembly
