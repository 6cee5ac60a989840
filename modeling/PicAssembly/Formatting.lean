import PicAssembly.Line
import PicAssembly.Signature

/-!
# Formatting functions

The formatting functions of assembly text, called by name with values.
-/

namespace PicAssembly

/-- A formatting function. -/
inductive Formatting where
  | label
  | hexLiteral
  | binaryLiteral
  | instruction
  | directive
deriving DecidableEq, Repr

namespace Formatting

/-- All formatting functions. -/
def all : List Formatting :=
  [label, hexLiteral, binaryLiteral, instruction, directive]

/-- The name of a formatting function. -/
def name : Formatting → String
  | label => "label"
  | hexLiteral => "hex_literal"
  | binaryLiteral => "binary_literal"
  | instruction => "instruction"
  | directive => "directive"

/-- The formatting function with a given name. -/
def ofName? (name : String) : Option Formatting :=
  all.find? fun formatting => formatting.name == name

/-- The parameter of a formatting function. -/
def parameter : Formatting → String
  | label => "name"
  | hexLiteral | binaryLiteral => "value"
  | instruction => "mnemonic"
  | directive => "text"

/-- The signature of a formatting function. -/
def signature (formatting : Formatting) : Signature :=
  { Signature.function formatting.name [formatting.parameter] with
    takesRest := formatting == instruction }

/-- Calls a formatting function. -/
def apply (formatting : Formatting) (arguments : List Value) : Except Fault String := do
  let bound ← formatting.signature.bind (.ofList arguments)
  let value := bound.slot 0
  match formatting with
  | label => pure (PicAssembly.label value.text)
  | hexLiteral => (Literal.hexadecimalOperand value).map Literal.hexadecimal
  | binaryLiteral => (Literal.binaryOperand value).map Literal.binary
  | instruction => pure (Line.statement value.text (bound.rest.map Value.text))
  | directive => pure (Line.directive value.text).text

end Formatting

end PicAssembly
