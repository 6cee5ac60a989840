import PicAssembly.Stage.Basic

/-!
# Scopes on a stage

A scope is entered and left as on its program alone, unless members of it have been replaced.  Then
each member is looked up when it is needed, and the first one that is missing, or is no program,
ends the step.
-/

namespace PicAssembly.Stage

/-- A member that has to be there. -/
def required (members : Members) (missing : Fault) (name : String) : Run Held :=
  match members.lookup name with
  | some held => pure held
  | none => throw missing

/-- The program that a member holds, which is asked for a member of its own. -/
def asProgram (held : Held) (asked : String) : Run Nat :=
  match held with
  | .program number => pure number
  | .listing _ => throw (.noAttribute "LineBuffer" asked)
  | .value value => throw (.noAttribute value.typeName asked)

/-- The value that a member holds; what is no value counts as a thing. -/
def asValue : Held → Value
  | .program number => .thing (.program (some number))
  | .listing _ => .thing (.ofType "LineBuffer")
  | .value value => value

/-! ## Labelled blocks -/

/-- Replaces the members of a labelled block. -/
def setLabelled (block : LabelledBlock) (members : Members) : Run Unit :=
  modify fun stage => { stage with labelled := (block.key, members) :: stage.labelled }

/-- A member of a labelled block that has to be there. -/
def labelledMember (block : LabelledBlock) (name : String) : Run Held := do
  required ((← get).labelledMembers block) (.noAttribute "Block" name) name

/-- The label of a labelled block, made of the name that it holds. -/
def labelOf (block : LabelledBlock) : Run String := do
  pure (label (asValue (← labelledMember block labelName)).text)

/-- Enters a labelled block with members that have been replaced. -/
def enterLabelled (block : LabelledBlock) : Run Item := do
  let number ← asProgram (← labelledMember block programName) "_emit"
  build number (Build.emit [.heading (← labelOf block)])
  pure (.program number)

/-- Leaves a labelled block with members that have been replaced. -/
def leaveLabelled (block : LabelledBlock) : Run Unit := do
  let number ← asProgram (← labelledMember block programName) "_emit"
  build number (Build.emit [.blank])
  if (asValue (← labelledMember block repeatName)).isTruthy then
    let name ← labelledMember block labelName
    build number (Build.emit [.goto (asValue name).text, .blank])

/-! ## Constants blocks -/

/-- Lets a value, or else a constants block, hold the nesting guard of a program; null holds
nothing. -/
def holdGuard (number : Nat) : ConstantsBlock ⊕ Value → Run Unit
  | .inl block => do
      build number (Build.update fun program => { program with guard := some block })
      restore number guardName
  | .inr .null => do
      build number (Build.update fun program => { program with guard := none })
      restore number guardName
  | .inr value => do
      build number (Build.update fun program => { program with guard := some ⟨program.blocksMade⟩ })
      replace number guardName (some value)

/-- Takes the nesting guard of a program. -/
def takeGuard (number : Nat) (holder : ConstantsBlock ⊕ Value) : Run Unit := do
  let stage ← get
  match stage.replacement? number guardName, (stage.programs number).guard with
  | some none, _ => throw (.noMember guardName)
  | _, some _ => throw .nestedConstants
  | _, none => holdGuard number holder

/-- Frees the nesting guard of a program. -/
def freeGuard (number : Nat) : Run Unit :=
  holdGuard number (.inr .null)

/-- Replaces a member of a constants block. -/
def setConstants (number : Nat) (block : ConstantsBlock) (name : String) (held : Held) :
    Run Unit :=
  modify fun stage =>
    let members := (stage.constantsMembers number block).set name held
    { stage with constants := ((number, block), members) :: stage.constants }

/-- A member of a constants block that has to be there. -/
def constantsMember (number : Nat) (block : ConstantsBlock) (name : String) : Run Held := do
  required ((← get).constantsMembers number block) (.noMember name) name

/-- Records lines in the listing of a constants block. -/
def recordConstants (number : Nat) (block : ConstantsBlock) (lines : List Line) : Run Unit := do
  match ← constantsMember number block bufferName with
  | .listing listing => build listing (Build.emit lines)
  | .program _ => throw (.noAttribute "Program" "append")
  | .value value => throw (.noAttribute value.typeName "append")

/-- Enters a constants block with members that have been replaced. -/
def enterConstants (number : Nat) (block : ConstantsBlock) : Run Unit := do
  takeGuard (← asProgram (← constantsMember number block programName) "_start_constants")
    (.inl block)
  recordConstants number block [Scope.constantsStart]
  setConstants number block openName (.value (.bool true))

/-- Closes a constants block with members that have been replaced, and frees the guard. -/
def closeConstants (number : Nat) (block : ConstantsBlock) : Run Unit := do
  setConstants number block openName (.value (.bool false))
  freeGuard (← asProgram (← constantsMember number block programName) "_end_constants")

/-- Leaves a constants block with members that have been replaced. -/
def leaveConstants (number : Nat) (block : ConstantsBlock) : Run Unit := do
  closeConstants number block
  recordConstants number block (Scope.constants block).closingLines

/-! ## Items as scopes -/

/-- Enters a reply of a program, which gives what a body is run with. -/
def enterReply (number : Nat) (reply : Reply) : Run Item := do
  match ← build number reply.enter with
  | .block .. => pure (.program number)
  | .constants block => pure (.reply number (.scope (.constants block)))

/-- Enters an item of which no member has been replaced. -/
def enterPlain : Item → Run Item
  | .program number => pure (.program number)
  | .reply number reply => enterReply number reply
  | .labelled block => enterReply block.number block.reply
  | .sealed typeName => throw (.noAttribute typeName "__enter__")

/-- Leaves an item of which no member has been replaced, normally or as a fault does. -/
def leavePlain (failed : Bool) : Item → Run Unit
  | .program number => if failed then pure () else build number Build.finishOpen
  | .reply number reply => build number (reply.leave failed)
  | .labelled block => build block.number (block.reply.leave failed)
  | .sealed typeName => throw (.noAttribute typeName "__exit__")

/-- Enters an item, which gives what a body is run with. -/
def enter (item : Item) : Run Item := do
  match item, (← get).isChanged item with
  | .labelled block, true => enterLabelled block
  | .reply number (.scope (.constants block)), true => do
      enterConstants number block
      pure item
  | _, _ => enterPlain item

/-- Leaves an item, normally or as a fault does. -/
def leave (failed : Bool) (item : Item) : Run Unit := do
  match item, (← get).isChanged item with
  | .labelled block, true => if failed then pure () else leaveLabelled block
  | .reply number (.scope (.constants block)), true =>
      if failed then closeConstants number block else leaveConstants number block
  | _, _ => leavePlain failed item

/-- Keeps a constants block that has been entered as the last one. -/
def keepEntered : Item → Run Unit
  | .reply number (.scope (.constants block)) =>
      keep Session.lastConstants (.reply number (.scope (.constants block)))
  | _ => pure ()

/-- Runs a body inside an item. -/
def inside (item : Item) (body : Run Unit) : Run Unit := do
  keepEntered (← enter item)
  tryCatch body fun fault => do
    leave true item
    throw fault
  leave false item

end PicAssembly.Stage
