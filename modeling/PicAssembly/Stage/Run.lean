import PicAssembly.Stage.Member

/-!
# Running steps on a stage

The steps of a session, any of which may ask for a private member.  As long as none has, they come
to the same as in the session.
-/

namespace PicAssembly

namespace Stage

/-! ## Asking for members -/

/-- Whether a name is that of a member which an item holds itself, and which can be called in no
other way than as what it is. -/
def isHeld (stage : Stage) (item : Item) (name : String) : Bool :=
  match item with
  | .program number =>
      match stage.replacement? number name with
      | some value? => value?.isSome
      | none => name == guardName || name == bufferName
  | .labelled block => ((stage.labelledMembers block).lookup name).isSome
  | .reply number (.scope (.constants block)) =>
      ((stage.constantsMembers number block).lookup name).isSome
  | _ => false

/-- Calls an item that another one holds. -/
def callHeld (item : Item) (arguments : Arguments) : Run Item :=
  match item with
  | .reply number (.scope (.constants block)) => callConstants number block "__call__" arguments
  | other => throw (.notCallable other.typeName)

/-- Calls a private member of an item. -/
def askPrivate (item : Item) (name : String) (arguments : Arguments) : Run Item :=
  match general? item name arguments with
  | some run => run
  | none =>
      match item with
      | .program number => callProgram number name arguments
      | .labelled block => callLabelled block name arguments
      | .reply number (.scope (.constants block)) => callConstants number block name arguments
      | .reply _ reply => throw (reply.noAttribute name)
      | .sealed typeName => throw (.noAttribute typeName name)

/-- Calls a public member of an item with members that have been replaced. -/
def askChanged (item : Item) (name : String) (arguments : Arguments) : Run Item :=
  match item with
  | .program number => askProgram number name arguments
  | .reply number (.scope (.constants block)) => askConstants number block name arguments
  | .labelled _ =>
      throw (if name = "label" then .notCallable "str" else .noAttribute "Block" name)
  | .reply _ reply => throw (reply.noAttribute name)
  | .sealed typeName => throw (.noAttribute typeName name)

/-- Calls a public member of a reply of a program. -/
def askReply (number : Nat) (reply : Reply) (name : String) (arguments : Arguments) :
    Run Item := do
  build number (reply.request name arguments.positional)
  pure .nothing

/-- Calls a public member of an item of which no member has been replaced. -/
def askPlain (item : Item) (name : String) (arguments : Arguments) : Run Item :=
  match item with
  | .program number => do pure (.reply number (← build number (Member.request name arguments)))
  | .reply number reply => askReply number reply name arguments
  | .labelled block => askReply block.number block.reply name arguments
  | .sealed typeName => throw (.noAttribute typeName name)

/-- Calls a member of an item. -/
def ask (item : Item) (name : String) (arguments : Arguments) : Run Item := do
  let stage ← get
  if !isPrivateName name && !stage.isChanged item then askPlain item name arguments
  else if isHeld stage item name then callHeld (← read item name) arguments
  else if isPrivateName name then askPrivate item name arguments
  else askChanged item name arguments

/-- The program that a stage drives. -/
def driven : Item :=
  .program 0

/-! ## Steps -/

/-- An item as it is shown. -/
def shown : Item → Run Answer
  | .program _ => pure .program
  | .reply _ reply => pure (.ofReply reply)
  | .labelled block => do pure (.block (← labelOf block))
  | .sealed typeName => pure (.other typeName)

/-- Runs a body inside an item, which must be a scope. -/
def insideItem (item : Item) (body : Run Unit) : Run Unit :=
  if item.isScope then inside item body else throw (.notScope item.typeName)

/-- Calls a reply of a program with a function that is no body. -/
def applyReply (number : Nat) (reply : Reply) : Run Bool := do
  let _ ← build number (reply.callWith (.thing .function))
  pure false

/-- Runs a body by calling an item with it; the answer is whether the body is handed back. -/
def applyItem (item : Item) (body : Run Unit) : Run Bool :=
  match item with
  | .labelled _ | .reply _ (.scope _) => do
      inside item body
      pure true
  | .reply number reply => applyReply number reply
  | other => throw (.notCallable other.typeName)

/-- The lines kept under a name. -/
def kept (id : String) : Run (List Value) := do
  match (← get).snapshots.lookup id with
  | some lines => pure lines
  | none => throw (Session.nothingKept id)

end Stage

namespace Step

open Stage (build driven shown)

mutual

/-- Runs a step on a stage and records it. -/
def runOpenly : Step → Stage.Run Unit
  | tolerate step => tryCatch (runOpenly step) fun _ => pure ()
  | dispatch name arguments => Stage.recording do
      shown (← Stage.ask driven "dispatch" (.ofList (name :: arguments)))
  | member name arguments => Stage.recording do
      shown (← Stage.ask driven name arguments)
  | call name => Stage.recording do
      shown (← Stage.ask driven "call" (.ofList [name]))
  | replay commands => Stage.recording do
      shown (← Stage.ask driven "replay" (.ofList [commands]))
  | within name arguments body => Stage.recording do
      Stage.insideItem (← Stage.ask driven name (.ofList arguments)) (runAllOpenly body)
      pure .nothing
  | whole body => Stage.recording do
      Stage.inside driven (runAllOpenly body)
      pure (.value (.bool true))
  | make id name arguments => Stage.recording do
      let made ← Stage.ask driven name (.ofList arguments)
      Stage.keep id made
      shown made
  | enter id => Stage.recording do
      shown (← Stage.enter (← Stage.item id))
  | leave id failed => Stage.recording do
      Stage.leave failed (← Stage.item id)
      pure .nothing
  | apply id body => Stage.recording do
      pure (.value (.bool (← Stage.applyItem (← Stage.item id) (runAllOpenly body))))
  | declare id name => Stage.recording do
      shown (← Stage.ask (← Stage.item id) "declare" (.ofList [name]))
  | register id name arguments => Stage.recording do
      shown (← Stage.ask (← Stage.item id) name (.ofList arguments))
  | text => Stage.recording (build 0 Session.source)
  | snapshot id => Stage.recording do
      modify fun stage =>
        { stage with snapshots := (id, (stage.programs 0).code) :: stage.snapshots }
      pure .nothing
  | reread id => Stage.recording do
      pure (.lines (← Stage.kept id))
  | listing request => Stage.recording (build 0 (Session.ask request))

/-- Runs steps in order. -/
def runAllOpenly : List Step → Stage.Run Unit
  | [] => pure ()
  | step :: steps => do
      runOpenly step
      runAllOpenly steps

end

end Step

namespace Stage

/-- A new stage, which has recorded the header of its program. -/
def initial : Stage :=
  withEntry
    { programs := fun _ => .initial, made := 1, items := [], snapshots := [], recorded := 0,
      trace := #[], labelled := [], constants := [], replaced := [] }
    (.ok .nothing)

/-- What a stage has come to. -/
def transcript (stage : Stage) : Transcript :=
  { entries := stage.trace.toList
    code := (stage.programs 0).code
    isFinal := (stage.programs 0).isFinal }

/-- Runs steps on a new program, going on after each fault. -/
def drive (steps : List Step) : Stage :=
  ((Step.runAllOpenly (steps.map .tolerate)).run initial).2

/-- Runs steps on a new program up to the first fault, and ends the program if they left it open. -/
def define (steps : List Step) : Except Fault Unit × Stage :=
  (inside driven (Step.runAllOpenly steps)).run initial

end Stage

end PicAssembly
