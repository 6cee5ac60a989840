import PicAssembly.Session.Entry
import PicAssembly.Session.Step

/-!
# Sessions

A session drives one program.  Replies and snapshots are kept under names, and every step that ends
is recorded with its outcome and with the lines that came since the one before.
-/

namespace PicAssembly

/-- The state of a session. -/
structure Session where
  program : Program
  replies : List (String × Reply)
  snapshots : List (String × List Value)
  recorded : Nat
  trace : Array Entry

namespace Session

/-- A step of a session: it may fail, and the session keeps what it did before. -/
abbrev Run := ExceptT Fault (StateM Session)

/-- Runs a building step on the program of the session. -/
def build {α : Type} (step : Build α) : Run α := do
  let session ← get
  let (outcome, program) := step.run session.program
  set { session with program }
  match outcome with
  | .ok result => pure result
  | .error fault => throw fault

/-- The session with one more entry for the given outcome. -/
def withEntry (session : Session) (outcome : Except Fault Answer) : Session :=
  let listing := session.program.listing
  { session with
    recorded := listing.size
    trace := session.trace.push (.ofOutcome outcome listing session.recorded) }

/-- Records the outcome of a step and passes its fault on. -/
def recording (step : Run Answer) : Run Unit := do
  let outcome ← tryCatch (do pure (Except.ok (← step))) fun fault => pure (Except.error fault)
  modify (·.withEntry outcome)
  match outcome with
  | .ok _ => pure ()
  | .error fault => throw fault

/-- A new session, which has recorded the header of its program. -/
def initial : Session :=
  withEntry
    { program := .initial, replies := [], snapshots := [], recorded := 0, trace := #[] }
    (.ok .nothing)

/-- The fault of a name under which nothing is kept. -/
def nothingKept (id : String) : Fault :=
  .raised "KeyError" [.str id]

/-- The reply kept under a name. -/
def reply (id : String) : Run Reply := do
  match (← get).replies.lookup id with
  | some reply => pure reply
  | none => throw (nothingKept id)

/-- Keeps a reply under a name. -/
def keep (id : String) (reply : Reply) : Run Unit :=
  modify fun session => { session with replies := (id, reply) :: session.replies }

/-- The name under which the constants block entered last is kept. -/
def lastConstants : String := "it"

/-- Enters a scope; a constants block is kept under the name of the last one. -/
def enter (scope : Scope) : Run Unit := do
  build scope.enter
  match scope with
  | .block .. => pure ()
  | .constants _ => keep lastConstants (.scope scope)

/-- Runs a body inside a scope; a fault in the body closes the scope and goes on outwards. -/
def inside (scope : Scope) (body : Run Unit) : Run Unit := do
  enter scope
  tryCatch body fun fault => do
    build scope.close
    throw fault
  build scope.leave

/-- Runs a body and ends the program after it, unless the body has failed. -/
def ending (body : Run Unit) : Run Unit := do
  body
  build Build.finishOpen

/-- Runs a body inside a reply, which must be a scope. -/
def insideReply (reply : Reply) (body : Run Unit) : Run Unit :=
  match reply with
  | .scope scope => inside scope body
  | other => throw (.notScope other.typeName)

/-- Runs a body by calling a reply with it; the answer is whether the body is handed back. -/
def applyReply (reply : Reply) (body : Run Unit) : Run Bool :=
  match reply with
  | .scope scope => do
      inside scope body
      pure true
  | other => do
      let _ ← build (other.callWith (.thing .function))
      pure false

/-- The lines kept under a name. -/
def kept (id : String) : Run (List Value) := do
  match (← get).snapshots.lookup id with
  | some lines => pure lines
  | none => throw (nothingKept id)

/-- Asks the listing of the program. -/
def ask (request : Listing.Request) : Build Answer := do
  let (answer, listing) := (← get).listing.answer request
  Build.update fun program => { program with listing }
  match answer with
  | .ok value => pure (.value value)
  | .error fault => throw fault

/-- The text of the program. -/
def source : Build Answer := do
  pure (.source (← (← get).listing.text))

end Session

end PicAssembly
