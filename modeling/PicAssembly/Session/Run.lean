import PicAssembly.Session.Basic

/-!
# Running sessions

Nested steps are recorded before the step that holds them.  A fault passes outwards through the
scopes that are open, and each step that it passes records it again.
-/

namespace PicAssembly

namespace Step

open Session (build keep)

mutual

/-- Runs a step and records it. -/
def run : Step → Session.Run Unit
  | tolerate step => tryCatch (run step) fun _ => pure ()
  | dispatch name arguments => Session.recording (build do
      pure (.ofReply (.ofScope? (← (Task.read name arguments).perform))))
  | member name arguments => Session.recording (build do
      pure (.ofReply (← Member.request name arguments)))
  | call name => Session.recording (build do
      Build.perform (.call name.text)
      pure .nothing)
  | replay commands => Session.recording (build do
      Build.replay commands
      pure .nothing)
  | within name arguments body => Session.recording do
      Session.insideReply (← build (Member.request name (.ofList arguments))) (runAll body)
      pure .nothing
  | whole body => Session.recording do
      Session.ending (runAll body)
      pure (.value (.bool true))
  | make id name arguments => Session.recording do
      let reply ← build (Member.request name (.ofList arguments))
      keep id reply
      pure (.ofReply reply)
  | enter id => Session.recording do
      pure (.ofEntered (← build (← Session.reply id).enter))
  | leave id failed => Session.recording do
      build ((← Session.reply id).leave failed)
      pure .nothing
  | apply id body => Session.recording do
      pure (.value (.bool (← Session.applyReply (← Session.reply id) (runAll body))))
  | declare id name => Session.recording do
      build ((← Session.reply id).request "declare" [name])
      pure .nothing
  | register id name arguments => Session.recording do
      build ((← Session.reply id).request name arguments)
      pure .nothing
  | text => Session.recording (build Session.source)
  | snapshot id => Session.recording do
      modify fun session =>
        { session with snapshots := (id, session.program.code) :: session.snapshots }
      pure .nothing
  | reread id => Session.recording do
      pure (.lines (← Session.kept id))
  | listing request => Session.recording (build (Session.ask request))

/-- Runs steps in order. -/
def runAll : List Step → Session.Run Unit
  | [] => pure ()
  | step :: steps => do
      run step
      runAll steps

end

end Step

namespace Session

/-- What a session has come to. -/
def transcript (session : Session) : Transcript :=
  { entries := session.trace.toList
    code := session.program.code
    isFinal := session.program.isFinal }

/-- Runs steps on a new program, going on after each fault. -/
def drive (steps : List Step) : Session :=
  ((Step.runAll (steps.map .tolerate)).run initial).2

/-- Runs steps on a new program up to the first fault, and ends the program if they left it open. -/
def define (steps : List Step) : Except Fault Unit × Session :=
  (ending (Step.runAll steps)).run initial

end Session

end PicAssembly
