import PicAssembly.Proofs.CommandTable

/-!
# Direction masks

The mask of directions is worked out entry by entry, from the mask that makes every pin an input.
No two entries of a dictionary have the same key, so the order in which bits are cleared and set
does not show: a bit is clear in the end exactly if its pin is bound to the word for an output.
-/

namespace PicAssembly

open CommandTable

/-! ## Texts as keys -/

namespace Pins

theorem isWord_iff {name : String} {key : Value} : isWord name key = true ↔ key = .str name := by
  cases key <;> simp [isWord]

end Pins

namespace Value

theorem str_equals (name : String) (shared : Bool) (key : Value) :
    (str name).equals shared key = Pins.isWord name key := by
  cases key with
  | str text =>
      rw [equals, Pins.isWord]
      exact BEq.comm
  | null | bool | int | float | list | tuple | dict | thing =>
      simp [equals, Pins.isWord, integer?]

theorem equals_str (key : Value) (shared : Bool) (name : String) :
    key.equals shared (str name) = Pins.isWord name key := by
  cases key <;> simp [equals, Pins.isWord, integer?]

end Value

namespace Device.Pin

theorem ofKey?_eq_some {text : String} {pin : Pin} :
    ofKey? (.str text) = some pin ↔ text = pin.name := by
  constructor
  · intro found
    rw [ofKey?] at found
    have named := List.find?_some found
    exact (eq_of_beq named).symm
  · rintro rfl
    cases pin <;> decide

theorem ofKey?_beq (key : Value) (pin : Pin) :
    (ofKey? key == some pin) = Pins.isWord pin.name key := by
  cases key with
  | str text =>
      rw [Bool.eq_iff_iff, beq_iff_eq, ofKey?_eq_some, Pins.isWord, beq_iff_eq]
  | null | bool | int | float | list | tuple | dict | thing => cases pin <;> rfl

end Device.Pin

namespace Pins

variable {entries : Entries} {name : String}

/-- Only the first entry of a dictionary can have the key that it has. -/
theorem absent_of_isDictionary {value : Value}
    (isDictionary : Entries.IsDictionary ((.str name, value) :: entries)) :
    ∀ entry ∈ entries, isWord name entry.1 = false := by
  intro entry member
  have differs := (List.pairwise_cons.mp isDictionary).1 entry member
  rwa [Value.str_equals] at differs

/-! ## Entry by entry -/

/-- The mask of four pins, told which of them are inputs. -/
def bits (first second third fourth : Bool) : Nat :=
  first.toNat + 2 * second.toNat + 4 * third.toNat + 8 * fourth.toNat

/-- Whether a pin is an input behind one more entry. -/
def turn (name : String) (isInput : Bool) (entry : Value × Value) : Bool :=
  if isWord name entry.1 then !isWord Device.outputWord entry.2 else isInput

theorem direct_bits (entry : Value × Value) (first second third fourth : Bool) :
    direct (bits first second third fourth) entry =
      bits (turn "gp0" first entry) (turn "gp1" second entry) (turn "gp2" third entry)
        (turn "gp3" fourth entry) := by
  obtain ⟨key, direction⟩ := entry
  have zero : _ = isWord "gp0" key := Device.Pin.ofKey?_beq key .gp0
  have one : _ = isWord "gp1" key := Device.Pin.ofKey?_beq key .gp1
  have two : _ = isWord "gp2" key := Device.Pin.ofKey?_beq key .gp2
  have three : _ = isWord "gp3" key := Device.Pin.ofKey?_beq key .gp3
  simp only [turn, direct, ← zero, ← one, ← two, ← three]
  generalize isWord Device.outputWord direction = isOutput
  rcases Device.Pin.ofKey? key with _ | pin
  · rfl
  · revert first second third fourth isOutput
    cases pin <;> decide

/-- Whether a pin is an input behind several entries. -/
def settled (name : String) (isInput : Bool) (entries : Entries) : Bool :=
  entries.foldl (turn name) isInput

theorem foldl_direct_bits (entries : Entries) (first second third fourth : Bool) :
    entries.foldl direct (bits first second third fourth) =
      bits (settled "gp0" first entries) (settled "gp1" second entries)
        (settled "gp2" third entries) (settled "gp3" fourth entries) := by
  induction entries generalizing first second third fourth with
  | nil => rfl
  | cons entry entries induction =>
      rw [List.foldl_cons, direct_bits, induction]
      rfl

/-- Entries without the key of a pin leave it as it is. -/
theorem settled_of_absent (isInput : Bool)
    (absent : ∀ entry ∈ entries, isWord name entry.1 = false) :
    settled name isInput entries = isInput := by
  induction entries with
  | nil => rfl
  | cons entry entries induction =>
      have unchanged : turn name isInput entry = isInput := by
        rw [turn, absent entry List.mem_cons_self]
        rfl
      rw [settled, List.foldl_cons, unchanged]
      exact induction fun other member => absent other (List.mem_cons_of_mem _ member)

theorem gives_of_absent (word : String)
    (absent : ∀ entry ∈ entries, isWord name entry.1 = false) :
    gives entries name word = false := by
  rw [gives, List.any_eq_false]
  intro entry member
  simp [absent entry member]

/-- An input of a dictionary stays one unless the dictionary makes it an output. -/
theorem settled_eq (isDictionary : entries.IsDictionary) :
    settled name true entries = !gives entries name Device.outputWord := by
  induction entries with
  | nil => rfl
  | cons entry entries induction =>
      obtain ⟨key, direction⟩ := entry
      rw [settled, List.foldl_cons, turn, gives, List.any_cons]
      cases isKey : isWord name key with
      | false =>
          rw [Bool.false_and, Bool.false_or]
          exact induction (List.pairwise_cons.mp isDictionary).2
      | true =>
          rw [isWord_iff.mp isKey] at isDictionary
          have absent := absent_of_isDictionary isDictionary
          have others : entries.any _ = false := gives_of_absent Device.outputWord absent
          have rest := settled_of_absent (!isWord Device.outputWord direction) absent
          rw [others, Bool.true_and, Bool.or_false]
          exact rest

theorem binary_bits : ∀ first second third fourth : Bool,
    Literal.binary (bits (!first) (!second) (!third) (!fourth)) =
      "b'0000" ++ (if fourth then "0" else "1") ++ (if third then "0" else "1") ++
        (if second then "0" else "1") ++ (if first then "0" else "1") ++ "'" := by
  decide +kernel

/-- The mask of a dictionary is that of the four pins, each by itself. -/
theorem binary_directionMask (pins : Dictionary) :
    Literal.binary (directionMask pins) = mask pins.entries := by
  have start : Device.inputMask = bits true true true true := by decide
  rw [directionMask, start, foldl_direct_bits, settled_eq pins.isDictionary,
    settled_eq pins.isDictionary, settled_eq pins.isDictionary, settled_eq pins.isDictionary,
    binary_bits]
  rfl

end Pins

end PicAssembly
