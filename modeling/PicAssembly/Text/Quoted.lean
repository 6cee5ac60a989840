import PicAssembly.Text.Printable
import PicAssembly.Text.Surrogate

/-!
# Quoted text

Text is quoted between single quotes, or between double quotes when it holds a single quote and no
double one.  A backslash stands before the quote in use and before itself, and characters without a
printed form are written by their code.  Quoted text therefore never holds a line break.
-/

namespace PicAssembly.Quoted

/-- The mark that encloses a text. -/
def mark (chars : List Char) : Char :=
  if chars.contains '\'' && !chars.contains '"' then '"' else '\''

/-- A number in hexadecimal with at least the given count of digits. -/
def hexadecimal (width number : Nat) : List Char :=
  let digits := Nat.toDigits 16 number
  List.replicate (width - digits.length) '0' ++ digits

/-- A character written by its code, in the shortest of three widths. -/
def coded (char : Char) : List Char :=
  let code := Surrogate.codePoint char
  if code < 0x100 then '\\' :: 'x' :: hexadecimal 2 code
  else if code < 0x10000 then '\\' :: 'u' :: hexadecimal 4 code
  else '\\' :: 'U' :: hexadecimal 8 code

/-- The written form of one character between the given marks. -/
def escaped (mark char : Char) : List Char :=
  if char = mark ∨ char = '\\' then ['\\', char]
  else if char = '\n' then ['\\', 'n']
  else if char = '\r' then ['\\', 'r']
  else if char = '\t' then ['\\', 't']
  else if Printable.isPrintable char then [char]
  else coded char

/-- The quoted form of a text. -/
def quoted (text : String) : String :=
  let chars := text.toList
  let mark := mark chars
  String.ofList (mark :: (chars.flatMap (escaped mark) ++ [mark]))

end PicAssembly.Quoted
