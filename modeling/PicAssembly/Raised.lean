import PicAssembly.Value.Text

/-!
# Texts of raised exceptions

An exception that a script raises shows its arguments.  System errors show a code and a
description, errors of syntax a place, and errors of encoding a character.
-/

namespace PicAssembly.Raised

/-- The exceptions that report an error of the system. -/
def systemErrors : List String :=
  [ "BlockingIOError", "BrokenPipeError", "ChildProcessError", "ConnectionAbortedError",
    "ConnectionError", "ConnectionRefusedError", "ConnectionResetError", "FileExistsError",
    "FileNotFoundError", "InterruptedError", "IsADirectoryError", "NotADirectoryError", "OSError",
    "PermissionError", "ProcessLookupError", "TimeoutError" ]

/-- The codes of an operation that would block. -/
def blockingCodes : List Int :=
  [11, 114, 115]

/-- Whether a system error reports an operation that would block; a general one does so by its
code. -/
def isBlocking (name : String) (code : Value) : Bool :=
  name == "BlockingIOError" ||
    (name == "OSError" && code.integer?.any blockingCodes.contains)

/-- The exceptions that report an error of syntax. -/
def syntaxErrors : List String :=
  ["IndentationError", "SyntaxError", "TabError"]

/-- The text of an exception of no special form. -/
def plain : List Value → String
  | [] => ""
  | [argument] => argument.text
  | arguments => (Value.tuple arguments).text

/-- The text of a system error: its code and description, and the files that it is about. -/
def system (name : String) (arguments : List Value) : String :=
  match arguments with
  | code :: description :: details =>
      if 3 < details.length then plain arguments
      else
        let start := "[Errno " ++ code.text ++ "] " ++ description.text
        match details with
        | [] | .null :: _ => start
        | file :: others =>
            if isBlocking name code && file.integer?.isSome then start
            else
              match others with
              | [] | [_] | [_, .null] => start ++ ": " ++ file.literal
              | _ :: second :: _ => start ++ ": " ++ file.literal ++ " -> " ++ second.literal
  | _ => plain arguments

/-- The name behind the last slash of a path. -/
def lastName (path : String) : String :=
  String.ofList (path.toList.reverse.takeWhile (· != '/')).reverse

/-- A line number as it is reported; one too large for a signed word of 64 bits counts as -1. -/
def reportedLine (line : Int) : Int :=
  if line < -9223372036854775808 ∨ 9223372036854775808 ≤ line then -1 else line

/-- The place of an error of syntax behind its message. -/
def syntaxPlace : List Value → String
  | .str file :: .int line :: _ =>
      " (" ++ lastName file ++ ", line " ++ toString (reportedLine line) ++ ")"
  | .str file :: _ => " (" ++ lastName file ++ ")"
  | _ :: .int line :: _ => " (line " ++ toString (reportedLine line) ++ ")"
  | _ => ""

/-- The text of an error of syntax: its message and its place. -/
def syntaxText : List Value → String
  | [] => "None"
  | [message, place] => message.text ++ syntaxPlace (place.elements?.getD [])
  | message :: _ => message.text

/-- The part of a text that an error of encoding is about. -/
def encodingPlace (text : String) (first last : Int) : String :=
  match if 0 ≤ first ∧ last = first + 1 then text.toList[first.toNat]? else none with
  | some char =>
      " character " ++ "'" ++ String.ofList (Quoted.coded char) ++ "' in position " ++
        toString first
  | none => " characters in position " ++ toString first ++ "-" ++ toString (last - 1)

/-- The text of an exception with the given name and arguments. -/
def text (name : String) (arguments : List Value) : String :=
  if systemErrors.contains name then system name arguments
  else if syntaxErrors.contains name then syntaxText arguments
  else
    match name, arguments with
    | "KeyError", [argument] => argument.literal
    | "UnicodeEncodeError", [.str codec, .str text, first, last, .str reason] =>
        "'" ++ codec ++ "' codec can't encode" ++
          encodingPlace text (first.integer?.getD 0) (last.integer?.getD 0) ++ ": " ++ reason
    | "UnicodeTranslateError", [.str text, first, last, .str reason] =>
        "can't translate" ++
          encodingPlace text (first.integer?.getD 0) (last.integer?.getD 0) ++ ": " ++ reason
    | _, _ => plain arguments

example : text "OSError" [.int 2, .str "x", .str "f"] = "[Errno 2] x: 'f'" ∧
    text "SyntaxError" [.str "m", .tuple [.str "a/b.py", .int 3]] = "m (b.py, line 3)" := by
  decide +kernel

end PicAssembly.Raised
