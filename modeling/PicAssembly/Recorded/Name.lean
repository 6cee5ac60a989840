import PicAssembly.Fault

/-!
# Names in recorded scripts

Names that differ only in variants of their letters are one name.  Some words are no names at all,
and to some names nothing can be bound.
-/

namespace PicAssembly.Recorded.Name

/-- Runs of characters that vary others: the first and the last of a run, and the character that
the first one varies. -/
def variants : List (Nat × Nat × Nat) :=
  [ (0x17F, 0x17F, 0x73), (0x210E, 0x210E, 0x68), (0x212A, 0x212A, 0x4B), (0x212B, 0x212B, 0xC5),
    (0xFF10, 0xFF19, 0x30), (0xFF21, 0xFF3A, 0x41), (0xFF3F, 0xFF3F, 0x5F),
    (0xFF41, 0xFF5A, 0x61) ]

/-- The first of the letters for formulas, which come in alphabets of 26 large and 26 small ones,
and the first of the digits for formulas. -/
def formulaLetters : Nat := 0x1D400

/-- The end of the letters for formulas. -/
def formulaLettersEnd : Nat := 0x1D6A4

/-- The first of the digits for formulas. -/
def formulaDigits : Nat := 0x1D7CE

/-- The end of the digits for formulas. -/
def formulaDigitsEnd : Nat := 0x1D800

/-- The character that a character varies, or the character itself. -/
def unvaried (code : Nat) : Nat :=
  if formulaLetters ≤ code ∧ code < formulaLettersEnd then
    let place := (code - formulaLetters) % 52
    if place < 26 then 'A'.toNat + place else 'a'.toNat + (place - 26)
  else if formulaDigits ≤ code ∧ code < formulaDigitsEnd then
    '0'.toNat + (code - formulaDigits) % 10
  else
    match variants.find? fun run => run.1 ≤ code && code ≤ run.2.1 with
    | some (first, _, plain) => plain + (code - first)
    | none => code

/-- Marks that stand above or below a letter, each with the letters that it changes and what they
become. -/
def marks : List (Nat × String × String) :=
  [ (0x300, "AEIOUaeiou", "ÀÈÌÒÙàèìòù"), (0x301, "AEIOUYaeiouy", "ÁÉÍÓÚÝáéíóúý"),
    (0x302, "AEIOUaeiou", "ÂÊÎÔÛâêîôû"), (0x303, "ANOano", "ÃÑÕãñõ"),
    (0x308, "AEIOUaeiouy", "ÄËÏÖÜäëïöüÿ"), (0x30A, "Aa", "Åå"), (0x327, "Cc", "Çç") ]

/-- The first syllable of the block of syllables. -/
def syllables : Nat := 0xAC00

/-- The syllable that a leading letter and a vowel make, or an open syllable and a closing letter.
-/
def syllable? (first second : Nat) : Option Nat :=
  if 0x1100 ≤ first ∧ first < 0x1113 ∧ 0x1161 ≤ second ∧ second < 0x1176 then
    some (syllables + ((first - 0x1100) * 21 + (second - 0x1161)) * 28)
  else if syllables ≤ first ∧ first < syllables + 11172 ∧ (first - syllables) % 28 = 0 ∧
      0x11A7 < second ∧ second < 0x11C3 then
    some (first + (second - 0x11A7))
  else none

/-- The character that two characters make. -/
def pair? (first second : Nat) : Option Nat :=
  match syllable? first second, marks.lookup second with
  | some syllable, _ => some syllable
  | none, some (letters, marked) =>
      ((letters.toList.zip marked.toList).lookup (Char.ofNat first)).map Char.toNat
  | none, none => none

/-- Puts a character together with those behind it. -/
def composed (first : Nat) : List Nat → List Nat
  | [] => [first]
  | second :: rest =>
      match pair? first second with
      | some whole => composed whole rest
      | none => first :: composed second rest

/-- The plain form of a name. -/
def plain (name : String) : String :=
  match name.toList.map fun char => unvaried char.toNat with
  | [] => name
  | first :: rest => String.ofList ((composed first rest).map Char.ofNat)

/-- The words that are no names. -/
def reserved : List String :=
  [ "and", "as", "assert", "async", "await", "break", "class", "continue", "def", "del", "elif",
    "else", "except", "finally", "for", "from", "global", "if", "import", "in", "is", "lambda",
    "nonlocal", "not", "or", "pass", "raise", "return", "try", "while", "with", "yield" ]

/-- The words that stand for one value each. -/
def constants : List (String × Value) :=
  [("None", .null), ("True", .bool true), ("False", .bool false)]

/-- The name to which nothing can be bound, although it is one. -/
def fixed : String := "__debug__"

/-- Why a word is no name. -/
def problem? (word : String) : Option String :=
  if reserved.contains word || word.isEmpty then some "invalid syntax" else none

/-- Why nothing can be bound to a word. -/
def targetProblem? (word : String) : Option String :=
  if (constants.lookup word).isSome then some ("cannot assign to " ++ word)
  else if word = "yield" then some "assignment to yield expression not possible"
  else if word = "try" then some "expected ':'"
  else problem? word

example : plain "\u212Ae\u0301" = "Ké" ∧ plain "\u1100\u1161" = "\uAC00" := by decide +kernel

end PicAssembly.Recorded.Name
