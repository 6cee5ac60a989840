import PicAssembly.Fault

/-!
# Integer literals

Byte values and bit numbers are written in hexadecimal without padding, masks in binary with at
least eight columns.  A minus sign stands before the digits and takes a column of its own.
-/

namespace PicAssembly.Literal

/-- The sign and digits of an integer in at least `width` columns. -/
def signedDigits (base width : Nat) (value : Int) : List Char :=
  let sign := if value < 0 then ['-'] else []
  let digits := Nat.toDigits base value.natAbs
  sign ++ List.replicate (width - sign.length - digits.length) '0' ++ digits

/-- An integer as a hexadecimal literal. -/
def hexadecimal (value : Int) : String :=
  String.ofList ('0' :: 'x' :: signedDigits 16 0 value)

/-- An integer as a binary literal of at least eight columns. -/
def binary (value : Int) : String :=
  String.ofList ('b' :: '\'' :: (signedDigits 2 8 value ++ ['\'']))

/-- The integer that a value is written as, where `code` names the kind of digits. -/
def integer (code : Char) (value : Value) : Except Fault Int :=
  match value with
  | .int number => .ok number
  | .bool flag => .ok flag.toNat
  | .str _ | .float _ => .error (.noIntegerForm code value.typeName)
  | .null | .list _ | .tuple _ | .dict _ | .thing _ => .error (.noNumericForm value.typeName)

/-- The integer that a value is written as in hexadecimal. -/
def hexadecimalOperand (value : Value) : Except Fault Int :=
  integer 'x' value

/-- The integer that a value is written as in binary. -/
def binaryOperand (value : Value) : Except Fault Int :=
  integer 'b' value

example : hexadecimal (-5) = "0x-5" ∧ binary (-5) = "b'-0000101'" := by
  decide +kernel

end PicAssembly.Literal
