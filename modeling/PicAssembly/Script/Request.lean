import PicAssembly.Session.Basic
import PicAssembly.Value.Handing

/-!
# Requests

What scripts ask of a program: to replay commands, to call its public members and what they answer
with, to enter and leave scopes, to end, and to change its listing directly.  A request answers with
a reply, or it fails behind what has been done before.
-/

namespace PicAssembly

/-- A request to a program. -/
inductive Request where
  /-- Replay recorded commands. -/
  | replay (commands : Value)
  /-- Call a public member. -/
  | member (name : String) (isPublic : isPrivateName name = false) (arguments : Arguments)
  /-- Call a public member of a reply. -/
  | part (owner : Reply) (name : String) (isPublic : isPrivateName name = false)
      (arguments : List Value)
  /-- Call a reply. -/
  | call (callee : Reply) (argument : Value)
  /-- Enter a scope. -/
  | enter (scope : Reply)
  /-- Leave a scope, normally or as a fault does. -/
  | leave (scope : Reply) (failed : Bool)
  /-- End the program, unless it is final. -/
  | finish
  /-- Ask the listing of the program directly. -/
  | listing (request : Listing.Request)

namespace Request

/-- A request as the program with a number sees it. -/
def handedTo (number : Nat) : Request → Request
  | replay commands => replay (commands.handedTo number)
  | member name isPublic arguments =>
      member name isPublic
        ⟨Value.allHandedTo number arguments.positional,
          arguments.keywords.map fun keyword => (keyword.1, keyword.2.handedTo number)⟩
  | part owner name isPublic arguments =>
      part owner name isPublic (Value.allHandedTo number arguments)
  | call callee argument => call callee (argument.handedTo number)
  | request => request

/-- Performs a request. -/
def perform : Request → Build Reply
  | replay commands => do
      Build.replay commands
      pure .nothing
  | member name _ arguments => Member.request name arguments
  | part owner name _ arguments => do
      owner.request name arguments
      pure .nothing
  | call callee argument => callee.callWith argument
  | enter scope => do pure (.scope (← scope.enter))
  | leave scope failed => do
      scope.leave failed
      pure .nothing
  | finish => do
      Build.finishOpen
      pure .nothing
  | listing request => do
      let _ ← Session.ask request
      pure .nothing

end Request

end PicAssembly
