import PicAssembly.Text.Blank
import PicAssembly.Text.Pieces

/-!
# Messages

How the command prints its messages.  Words in brackets may style a message, so a text that is put
into one keeps its own as they are.  A backslash before any other opening bracket is lost, a single
one at the end of a text is doubled, and a line that is wider than the screen loses blanks that
stand beyond it.
-/

namespace PicAssembly.CommandLine

/-- The width of the screen in characters. -/
def screenWidth : Nat := 80

/-- Whether a character can begin a style. -/
def beginsStyle (char : Char) : Bool :=
  ('a' ≤ char && char ≤ 'z') || char == '#' || char == '/' || char == '@'

/-- Whether the text behind an opening bracket goes on as a style, up to a closing bracket. -/
def isStyle : List Char → Bool
  | [] => false
  | first :: rest =>
      beginsStyle first && (rest.find? fun char => char == '[' || char == ']') == some ']'

/-- A text behind some backslashes, without the last of those before a bracket that opens no
style. -/
def bare (backslashes : Nat) : List Char → List Char
  | [] => List.replicate backslashes '\\'
  | char :: rest =>
      if char = '\\' then bare (backslashes + 1) rest
      else
        let kept := if char = '[' && !isStyle rest then backslashes - 1 else backslashes
        List.replicate kept '\\' ++ char :: bare 0 rest

/-- The backslash that is added to a text which ends in a single one. -/
def ending (chars : List Char) : List Char :=
  if (chars.reverse.takeWhile (· = '\\')).length = 1 then ['\\'] else []

/-- A text as it is shown inside a message. -/
def shown (text : String) : String :=
  String.ofList (bare 0 text.toList ++ ending text.toList)

/-- A line without the blanks at its end that stand beyond the screen. -/
def trimmed (line : List Char) : List Char :=
  let blanks := (line.reverse.takeWhile isBlank).length
  line.take (line.length - min blanks (line.length - screenWidth))

/-- The printed form of a message, with a line break behind it. -/
def printed (message : String) : String :=
  String.ofList
    (Pieces.join '\n' ((Pieces.split '\n' message.toList).map trimmed) ++ ['\n'])

example : shown "a\\[1] [b] \\[c] \\" = "a[1] [b] \\[c] \\\\" := by
  decide +kernel

end PicAssembly.CommandLine
