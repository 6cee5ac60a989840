import PicAssembly.Fault
import PicAssembly.Text.Pieces

/-!
# Paths

A path is a sequence of names, absolute or relative, without empty parts and without single dots.
Its written form is normal: it names no part twice over and ends in no slash.
-/

namespace PicAssembly

/-- A path of a file or directory. -/
structure Path where
  /-- The slashes at the start: none for a relative path, two only if exactly two were written. -/
  root : String
  parts : List String
deriving DecidableEq, Repr

namespace Path

/-- The slashes at the start of a written path. -/
def leadingSlashes (chars : List Char) : Nat :=
  (chars.takeWhile (· = '/')).length

/-- Reads a written path. -/
def ofString (text : String) : Path :=
  let root := match leadingSlashes text.toList with
    | 0 => ""
    | 2 => "//"
    | _ => "/"
  let pieces := (Pieces.split '/' text.toList).map String.ofList
  { root, parts := pieces.filter fun part => part != "" && part != "." }

/-- The written form of a path. -/
def text (path : Path) : String :=
  let joined := "/".intercalate path.parts
  if path.root = "" ∧ path.parts.isEmpty then "." else path.root ++ joined

/-- The path of the directory that holds a path. -/
def parent (path : Path) : Path :=
  { path with parts := path.parts.dropLast }

/-- The last name of a path. -/
def name (path : Path) : String :=
  path.parts.getLast?.getD ""

/-- Whether a path starts at the root. -/
def isAbsolute (path : Path) : Bool :=
  path.root != ""

/-- Whether a path has a null character, which no file has. -/
def hasNull (path : Path) : Bool :=
  path.parts.any fun part => part.toList.contains '\x00'

/-- A name with its suffix replaced, or extended by one if it has none.

A suffix starts at the last dot, which is neither the first nor the last character. -/
def replaceSuffix (name suffix : List Char) : List Char :=
  let after := name.reverse.takeWhile (· != '.')
  let stem := (name.reverse.drop (after.length + 1)).reverse
  if stem.isEmpty || after.isEmpty then name ++ suffix else stem ++ suffix

/-- The path with the suffix of its name replaced. -/
def withSuffix (path : Path) (suffix : String) : Path :=
  let name := String.ofList (replaceSuffix path.name.toList suffix.toList)
  { path with parts := path.parts.dropLast ++ [name] }

/-- Parts from which each step upwards has taken away the part before it. -/
def collapse (parts : List String) : List String :=
  (parts.foldl (fun above part => if part = ".." then above.drop 1 else part :: above) []).reverse

/-- The absolute parts that a path stands for below a directory. -/
def resolve (path : Path) (directory : List String) : List String :=
  collapse (if path.isAbsolute then path.parts else directory ++ path.parts)

/-- The absolute path with the given parts. -/
def absolute (parts : List String) : Path :=
  { root := "/", parts }

example : (ofString "./q/../r.asm").text = "q/../r.asm" ∧ (ofString "").text = "." := by
  decide +kernel

end Path

end PicAssembly
