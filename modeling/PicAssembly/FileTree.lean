import PicAssembly.Path

/-!
# File trees

Files and directories by their absolute parts.  A path is walked part by part, so every part before
the last must be a directory, also where the next part leads upwards again.
-/

namespace PicAssembly

/-- Files and directories, the files with contents of a given type. -/
structure FileTree (Content : Type) where
  files : List (List String × Content)
  directories : List (List String)

namespace FileTree

variable {Content : Type}

/-- What is found at a place. -/
inductive Node (Content : Type) where
  | file (content : Content)
  | directory
  | absent

/-- What is at the given absolute parts; the root is always a directory. -/
def node (tree : FileTree Content) (parts : List String) : Node Content :=
  if parts.isEmpty then .directory
  else
    match tree.files.lookup parts with
    | some content => .file content
    | none => if tree.directories.contains parts then .directory else .absent

/-- Whether there is a directory at the given parts. -/
def isDirectory (tree : FileTree Content) (parts : List String) : Bool :=
  match tree.node parts with
  | .directory => true
  | _ => false

/-- The content of the file at the given parts. -/
def content? (tree : FileTree Content) (parts : List String) : Option Content :=
  match tree.node parts with
  | .file content => some content
  | _ => none

/-- The tree with a directory at the given parts. -/
def addDirectory (tree : FileTree Content) (parts : List String) : FileTree Content :=
  if tree.isDirectory parts then tree
  else { tree with directories := tree.directories ++ [parts] }

/-- The tree with the directories at all beginnings of the given parts. -/
def addDirectories (tree : FileTree Content) (parts : List String) : FileTree Content :=
  (List.range (parts.length + 1)).foldl
    (fun tree count => tree.addDirectory (parts.take count)) tree

/-- A list of files with the content at one place set. -/
def setFile (files : List (List String × Content)) (parts : List String) (content : Content) :
    List (List String × Content) :=
  match files with
  | [] => [(parts, content)]
  | (place, old) :: rest =>
      if place = parts then (place, content) :: rest else (place, old) :: setFile rest parts content

/-- The tree with a file at the given parts, and with the directories above it. -/
def addFile (tree : FileTree Content) (parts : List String) (content : Content) :
    FileTree Content :=
  let tree := tree.addDirectories parts.dropLast
  { tree with files := setFile tree.files parts content }

/-- Why a walk does not reach a place. -/
inductive Obstacle where
  /-- A directory on the way is missing. -/
  | missing
  /-- A file stands where a directory is wanted. -/
  | file
  /-- A name, or the whole path, is too long. -/
  | tooLong
deriving DecidableEq, Repr

/-- The most bytes of a name. -/
def longestName : Nat := 255

/-- The most bytes of a path. -/
def longestPath : Nat := 4095

/-- The place that further parts lead to from a directory. -/
def walk (tree : FileTree Content) (place : List String) :
    List String → Except Obstacle (List String)
  | [] => .ok place
  | part :: parts =>
      match tree.node place with
      | .directory =>
          if longestName < part.utf8ByteSize then .error .tooLong
          else tree.walk (if part = ".." then place.dropLast else place ++ [part]) parts
      | .file _ => .error .file
      | .absent => .error .missing

/-- The place of a path, as seen from a directory. -/
def locate (tree : FileTree Content) (directory : List String) (path : Path) :
    Except Obstacle (List String) :=
  if longestPath < path.text.utf8ByteSize then .error .tooLong
  else tree.walk (if path.isAbsolute then [] else directory) path.parts

/-- The content of the file at an absolute path, if there is a file. -/
def find (tree : FileTree Content) (path : Path) : Except Fault (Option Content) :=
  match tree.locate [] path with
  | .ok place => .ok (tree.content? place)
  | .error .tooLong => .error (.nameTooLong path.text)
  | .error _ => .ok none

/-- How making one directory ends. -/
inductive Making (Content : Type) where
  | made (tree : FileTree Content)
  | parentMissing
  | refused (fault : Fault)

/-- Makes one directory, unless there is one. -/
def makeOne (tree : FileTree Content) (directory : List String) (path : Path) : Making Content :=
  match tree.locate directory path with
  | .error .missing => .parentMissing
  | .error .file => .refused (.notDirectory path.text)
  | .error .tooLong => .refused (.nameTooLong path.text)
  | .ok place =>
      match tree.node place with
      | .directory => .made tree
      | .file _ => .refused (.fileExists path.text)
      | .absent => .made (tree.addDirectory place)

/-- Makes the directory at the first `count` parts of a path, after those above it where they are
missing.  A refusal comes with the tree that has been reached. -/
def makeUpTo (tree : FileTree Content) (directory : List String) (path : Path) :
    Nat → Except (Fault × FileTree Content) (FileTree Content)
  | 0 => .ok tree
  | count + 1 =>
      let target : Path := { path with parts := path.parts.take (count + 1) }
      match tree.makeOne directory target with
      | .made tree => .ok tree
      | .refused fault => .error (fault, tree)
      | .parentMissing => do
          let tree ← tree.makeUpTo directory path count
          match tree.makeOne directory target with
          | .made tree => .ok tree
          | .refused fault => .error (fault, tree)
          | .parentMissing => .ok tree

/-- Makes a directory and all that are missing above it. -/
def makeDirectories (tree : FileTree Content) (directory : List String) (path : Path) :
    Except (Fault × FileTree Content) (FileTree Content) :=
  if path.hasNull then .error (.embeddedNull, tree)
  else tree.makeUpTo directory path path.parts.length

/-- Writes a file, as seen from a directory; the directories above it must be there. -/
def write (tree : FileTree Content) (directory : List String) (path : Path) (content : Content) :
    Except Fault (FileTree Content) :=
  if path.hasNull then .error .embeddedNull
  else
    match tree.locate directory path with
    | .error .tooLong => .error (.nameTooLong path.text)
    | .error _ => .error (.notDirectory path.text)
    | .ok place =>
        if tree.isDirectory place then .error (.isDirectory path.text)
        else .ok { tree with files := setFile tree.files place content }

end FileTree

end PicAssembly
