import PicAssembly.Listing.Request
import PicAssembly.Program.Member

/-!
# Steps

The steps of which a session consists.  Steps that open a scope hold the steps of its body.
-/

namespace PicAssembly

/-- A step of a session. -/
inductive Step where
  /-- Dispatch an operation or a subroutine call by its name. -/
  | dispatch (name : Value) (arguments : List Value)
  /-- Call a member of the program. -/
  | member (name : String) (arguments : Arguments)
  /-- Call a subroutine. -/
  | call (name : Value)
  /-- Replay recorded commands. -/
  | replay (commands : Value)
  /-- Run steps inside what a member answers with. -/
  | within (name : String) (arguments : List Value) (body : List Step)
  /-- Run steps and end the program after them. -/
  | whole (body : List Step)
  /-- Keep what a member answers with. -/
  | make (id name : String) (arguments : List Value)
  /-- Enter a kept answer. -/
  | enter (id : String)
  /-- Leave a kept answer, normally or as a fault does. -/
  | leave (id : String) (failed : Bool)
  /-- Run steps by a call of a kept answer. -/
  | apply (id : String) (body : List Step)
  /-- Declare a register in a kept constants block. -/
  | declare (id : String) (name : Value)
  /-- Call a member of a kept answer. -/
  | register (id name : String) (arguments : List Value)
  /-- Read the text of the program. -/
  | text
  /-- Keep the lines of the program. -/
  | snapshot (id : String)
  /-- Read kept lines. -/
  | reread (id : String)
  /-- Ask the listing of the program directly. -/
  | listing (request : Listing.Request)
  /-- Run a step and go on after its fault. -/
  | tolerate (step : Step)

namespace Step

mutual

/-- Whether a step and the steps that it holds ask for public members only. -/
def isPublic : Step → Bool
  | member name _ | make _ name _ | register _ name _ => !isPrivateName name
  | within name _ body => !isPrivateName name && arePublic body
  | whole body | apply _ body => arePublic body
  | tolerate step => isPublic step
  | _ => true

/-- Whether steps ask for public members only. -/
def arePublic : List Step → Bool
  | [] => true
  | step :: steps => isPublic step && arePublic steps

end

end Step

end PicAssembly
