import PicAssembly.Device
import PicAssembly.Value.Dictionary

/-!
# Pin mappings

Pins are given as a dictionary or as a sequence of pairs, and by keywords, which override.  Either
way a new dictionary is made of them.
-/

namespace PicAssembly.Pins

/-- The pair that an entry of a sequence stands for. -/
def pair (index : Nat) (entry : Value) : Except Fault (Value × Value) :=
  match entry.elements? with
  | none => .error (.entryNotSequence index)
  | some [key, value] =>
      match key.unhashable? with
      | some typeName => .error (.unhashable typeName)
      | none => .ok (key, value)
  | some items => .error (.entryLength index items.length)

/-- The pairs that the entries of a sequence stand for, the first at the given place. -/
def pairs (index : Nat) : List Value → Except Fault (List (Value × Value))
  | [] => .ok []
  | entry :: entries => do
      let first ← pair index entry
      let rest ← pairs (index + 1) entries
      pure (first :: rest)

/-- The pairs that a value stands for.  What makes something of every name has been asked for its
keys before, and lists none. -/
def pairsOf (value : Value) : Except Fault (List (Value × Value)) :=
  match value with
  | .dict entries => .ok entries
  | _ =>
      match value.elements? with
      | some items => pairs 0 items
      | none =>
          .error (if value.callee?.isSome then .noKeys value.typeName
            else .notIterable value.typeName)

/-- The mapping that a value stands for; everything that counts as false is the empty one. -/
def ofValue (pins : Value) : Except Fault Dictionary :=
  if pins.isTruthy then (pairsOf pins).map Dictionary.ofPairs else .ok .empty

/-- A mapping with the keywords set in turn. -/
def merge (pins : Dictionary) (keywords : List (String × Value)) : Dictionary :=
  pins.setAll (keywords.map fun keyword => (.str keyword.1, keyword.2))

/-- The mapping that a value with keywords stands for. -/
def read (pins : Value) (keywords : List (String × Value)) : Except Fault Dictionary := do
  pure (merge (← ofValue pins) keywords)

/-- Whether a value is the given word. -/
def isWord (word : String) : Value → Bool
  | .str text => text == word
  | _ => false

/-- A mask with one bit cleared. -/
def clearBit (mask bit : Nat) : Nat :=
  mask ^^^ (mask &&& (1 <<< bit))

/-- A mask with one bit set. -/
def setBit (mask bit : Nat) : Nat :=
  mask ||| (1 <<< bit)

/-- A direction mask with the direction of one more entry; a key that is no pin is passed over. -/
def direct (mask : Nat) (entry : Value × Value) : Nat :=
  match Device.Pin.ofKey? entry.1 with
  | none => mask
  | some pin =>
      if isWord Device.outputWord entry.2 then clearBit mask pin.bit else setBit mask pin.bit

/-- The direction mask of the port, where a set bit is an input; every pin starts as one. -/
def directionMask (pins : Dictionary) : Nat :=
  pins.entries.foldl direct Device.inputMask

/-- The instruction that drives a pin high or low. -/
def drive (pin : Device.Pin) (level : Value) : Line :=
  .instruction (if isWord Device.highWord level then .bsf else .bcf) ["GPIO", toString pin.bit]

/-- The instruction for an entry, whose key must be a pin that can be driven. -/
def level (entry : Value × Value) : Except Fault Line :=
  match Device.Pin.drivenOfKey? entry.1 with
  | none => .error (.invalidPin entry.1)
  | some pin => .ok (drive pin entry.2)

end PicAssembly.Pins
