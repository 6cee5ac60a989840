import PicAssembly.Number.Decimal
import PicAssembly.Text.Quoted
import PicAssembly.Value.Basic

/-!
# Text of values

A text stands for itself when it is an operand, and is quoted inside a container; every other value
has one written form.
-/

namespace PicAssembly.Value

/-- Parts between two brackets, separated by commas. -/
def enclosed (opening closing : String) (parts : List String) : String :=
  opening ++ ", ".intercalate parts ++ closing

mutual

/-- The written form of a value, from which it can be told apart from every other type. -/
def literal : Value → String
  | null => "None"
  | bool value => if value then "True" else "False"
  | int value => toString value
  | float value => value.text
  | str value => Quoted.quoted value
  | list items => enclosed "[" "]" (literals items)
  | tuple [item] => "(" ++ item.literal ++ ",)"
  | tuple items => enclosed "(" ")" (literals items)
  | dict entries => enclosed "\x7b" "\x7d" (entryLiterals entries)
  | thing held => held.literal

/-- The written forms of several values. -/
def literals : List Value → List String
  | [] => []
  | item :: items => item.literal :: literals items

/-- The written forms of dictionary entries. -/
def entryLiterals : List (Value × Value) → List String
  | [] => []
  | entry :: entries => entryLiteral entry :: entryLiterals entries

/-- The written form of one dictionary entry. -/
def entryLiteral : Value × Value → String
  | (key, value) => key.literal ++ ": " ++ value.literal

end

/-- The text of a value as an operand. -/
def text : Value → String
  | str value => value
  | thing held => held.text
  | value => value.literal

example : (list [null, str "it's", tuple [int 1]]).text = "[None, \"it's\", (1,)]" := by
  decide +kernel

end PicAssembly.Value
