import PicAssembly.Stage.Run

/-!
# Driving a program

The transcript of a session.  A session that asks for public members only needs nothing but the
program; any other is run on a stage.
-/

namespace PicAssembly.Transcript

/-- The transcript of steps, each of which is run whatever became of the one before. -/
def ofSteps (steps : List Step) : Transcript :=
  if Step.arePublic steps then (Session.drive steps).transcript
  else (Stage.drive steps).transcript

/-- The outcome and the transcript of steps that are the whole body of a program. -/
def ofBody (steps : List Step) : Except Fault Unit × Transcript :=
  if Step.arePublic steps then
    let (outcome, session) := Session.define steps
    (outcome, session.transcript)
  else
    let (outcome, stage) := Stage.define steps
    (outcome, stage.transcript)

end PicAssembly.Transcript
