import PicAssembly.Recorded.Action
import PicAssembly.Recorded.Encoding
import PicAssembly.Text.Pieces

/-!
# Recorded texts

A script that is recorded as a text has lines that are empty, hold a comment, or hold one name that
is looked up.  A comment in one of the first two lines may say in which encoding the text is to be
read.
-/

namespace PicAssembly.Recorded.Comment

/-- The lines of a text, which three kinds of breaks end. -/
def lines (text : String) : List (List Char) :=
  Pieces.split '\n' (joined text.toList)
where
  /-- A text in which every line ends in the same way. -/
  joined : List Char → List Char
    | '\r' :: '\n' :: rest => '\n' :: joined rest
    | '\r' :: rest => '\n' :: joined rest
    | char :: rest => char :: joined rest
    | [] => []

/-- Whether a character is blank at the start of a line. -/
def isIndent (char : Char) : Bool :=
  char == ' ' || char == '\t' || char == '\x0c'

/-- The comment of a line that holds nothing else. -/
def ofLine? (line : List Char) : Option (List Char) :=
  match line.dropWhile isIndent with
  | '#' :: comment => some comment
  | _ => none

/-- The name of an encoding that a comment declares. -/
def declared? : List Char → Option String
  | [] => none
  | char :: rest =>
      let name := ((char :: rest).drop 7).dropWhile isIndent |>.takeWhile fun char =>
        char.isAlphanum || ['-', '_', '.'].contains char
      if ("coding:".toList.isPrefixOf (char :: rest) || "coding=".toList.isPrefixOf (char :: rest))
          && !name.isEmpty then some (String.ofList name)
      else declared? rest

/-- Why a text cannot be read, with the number of a line. -/
def problem? (text : String) : Option (String × Nat) := do
  let name ← ((lines text).take 2).findSome? fun line => (ofLine? line).bind declared?
  match Encoding.ofName? name with
  | some encoding => encoding.problem? text
  | none => some ("unknown encoding: " ++ name, 0)

/-- What a line does. -/
def perform {Content : Type} (path : Path) (line : List Char) : Script Content Unit :=
  let rest := line.dropWhile isIndent
  if rest.isEmpty || (ofLine? line).isSome then .finish ()
  else do
    let _ ← referent path (String.ofList rest)

/-- What the script at a path does that is recorded as a text; a mark may stand before it. -/
def script {Content : Type} (path : Path) (text : String) : Script Content Unit :=
  let text := (text.dropPrefix "\uFEFF").toString
  match problem? text with
  | some (problem, line) => .raise (.notScript problem path.name line)
  | none => (lines text).forM (perform path)

end PicAssembly.Recorded.Comment
