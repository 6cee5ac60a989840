import PicAssembly.FileTree
import PicAssembly.Namespace
import PicAssembly.Script.Request

/-!
# What scripts act on

The programs that a script has made, known by their numbers, the names that it has bound, what it
has printed, and the files around it.  Names that are bound to one program share it, so commands
that are replayed through any of them reach the same listing.
-/

namespace PicAssembly

/-- The files and the current directory. -/
structure Site (Content : Type) where
  directory : List String
  tree : FileTree Content

/-- What a script acts on.  A program that has not been made yet is new. -/
structure World (Content : Type) extends Site Content where
  programs : Nat → Program
  made : Nat
  names : Namespace Nat
  printed : String

namespace World

variable {Content : Type}

/-- What a script finds at a site. -/
def initial (site : Site Content) : World Content :=
  { site with
    programs := fun _ => .initial
    made := 0
    names := []
    printed := "" }

/-- The world with another state of a program. -/
def setProgram (world : World Content) (number : Nat) (program : Program) : World Content :=
  { world with programs := fun other => if other = number then program else world.programs other }

/-- Asks something for its keys in the program that it belongs to. -/
def askKeys (world : World Content) (asked : Thing) : Except Fault Reply × World Content :=
  match asked.owner with
  | some number =>
      let (outcome, program) :=
        (Build.askKeys { asked with owner := none }).run (world.programs number)
      (outcome.map fun _ => .nothing, world.setProgram number program)
  | none => (.error (.foreign asked), world)

/-- What has been asked for its keys and belongs to another program, as the outcome of a request
says. -/
def foreign? : Except Fault Reply → Option Thing
  | .error (.foreign asked) => some asked
  | _ => none

/-- Makes a request to a program.  Where it asks for the keys of something that belongs to another
program, that program answers. -/
def request (world : World Content) (number : Nat) (request : Request) :
    Except Fault Reply × World Content :=
  let (outcome, program) := (request.handedTo number).perform.run (world.programs number)
  let reached := world.setProgram number program
  match foreign? outcome with
  | some asked => reached.askKeys asked
  | none => (outcome, reached)

/-- Replays commands on what a name is bound to. -/
def replay (world : World Content) (name : String) (commands : Value) :
    Except Fault Reply × World Content :=
  match world.names.lookup name with
  | some (.program number) => world.request number (.replay commands)
  | some (.value target) =>
      match Command.notReplayed? target commands with
      | some fault => (.error fault, world)
      | none => (.ok .nothing, world)
  | none => (.error (.unboundName name), world)

end World

end PicAssembly
