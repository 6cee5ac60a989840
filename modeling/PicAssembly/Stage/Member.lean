import PicAssembly.Stage.General

/-!
# Private members

What programs and blocks offer under private names: to record a line as it is, to take and free the
nesting guard, to be entered and left, and to be made anew.  A program that is made anew has another
listing, so the constants blocks that it has made before keep the old one.
-/

namespace PicAssembly.Stage

/-- The arguments of a method, bound to its parameters. -/
def bound (callee : String) (parameters : List String) (arguments : Arguments) : Run Bound :=
  ofExcept ((Signature.method callee parameters).bind arguments)

/-- The parameters of leaving a scope: the type, the value and the trace of a fault. -/
def leavingParameters : List String :=
  ["exc_type", "exc_val", "exc_tb"]

/-! ## Programs -/

/-- Makes a program. -/
def makeProgram : Run Nat := do
  let number := (← get).made
  modify fun stage => { stage.setProgram number .initial with made := number + 1 }
  pure number

/-- Members of a block that keep the listing which a program has had so far, under another
number. -/
def Members.keepListing (number kept : Nat) (members : Members) : Members :=
  members.map fun (name, held) =>
    match held with
    | .listing other => (name, .listing (if other = number then kept else other))
    | held => (name, held)

/-- Makes a program anew. -/
def renew (number : Nat) : Run Unit := do
  let kept ← makeProgram
  modify fun stage =>
    let before := stage.programs number
    let owned := (List.range before.blocksMade).map fun index =>
      ((number, ConstantsBlock.mk index), stage.constantsMembers number ⟨index⟩)
    let others := stage.constants.filter fun block => block.1.1 != number
    { (stage.setProgram kept before).setProgram number
        { Program.initial with blocksMade := before.blocksMade } with
      constants := (owned ++ others).map fun (block, members) =>
        (block, members.keepListing number kept) }
  restore number guardName

/-- Calls what is called on a program under a private name. -/
def callProgram (number : Nat) (name : String) (arguments : Arguments) : Run Item := do
  let bound (method : String) (parameters : List String) : Run Bound :=
    bound ("Program." ++ method) parameters arguments
  match name with
  | "_emit" => do
      let line := (← bound name ["line"]).slot 0
      let _ ← build number (Session.ask (.append [line]))
      pure .nothing
  | "_start_constants" => do
      takeGuard number (.inr ((← bound name ["block"]).slot 0))
      pure .nothing
  | "_end_constants" => do
      let _ ← bound name []
      freeGuard number
      pure .nothing
  | "__init__" => do
      let _ ← bound name []
      renew number
      pure .nothing
  | "__enter__" => do
      let _ ← bound name []
      enter (.program number)
  | "__exit__" => do
      let isNormal := (← bound name leavingParameters).slot 0 matches .null
      leave (!isNormal) (.program number)
      pure .nothing
  | "__getattr__" =>
      match (← bound name ["name"]).slot 0 with
      | .str name =>
          if isPrivateName name then throw (.noMember name)
          else do pure (.reply number (← ofExcept (Member.resolved (.str name))))
      | other => throw (.noAttribute other.typeName "startswith")
  | "__class__" => do
      let _ ← bound "__init__" []
      pure (.program (← makeProgram))
  | _ => throw (.noMember name)

/-- Whether one value is in another. -/
def isAmong (collection value : Value) : Except Fault Bool :=
  match collection, value.unhashable? with
  | .list items, _ | .tuple items, _ => .ok (items.any (Value.equals false value))
  | .dict _, some typeName => .error (.unhashable typeName)
  | .dict entries, none => .ok (entries.any fun entry => Value.equals false value entry.1)
  | other, _ => .error (.notContainer other.typeName)

/-- Skips over an inner operation, which must not be among the given names. -/
def skipOutside (number : Nat) (scopes : Value) (operands : List Value) : Run Item := do
  let bound ← ofExcept (Operation.decrementAndTest.signature.bind (.ofList operands))
  let operation := bound.slot 1
  if ← ofExcept (isAmong scopes operation) then throw (.scopedOperation operation)
  let _ ← build number (Task.skip (bound.slot 0).text (Task.read operation bound.rest)).perform
  pure .nothing

/-- Calls a public member of a program with members that have been replaced, of which only skipping
makes use. -/
def askProgram (number : Nat) (name : String) (arguments : Arguments) : Run Item := do
  match (← get).replacement? number scopesName, name, arguments.positional with
  | some (some scopes), "decrement_and_test", operands
  | some (some scopes), "dispatch", .str "decrement_and_test" :: operands =>
      skipOutside number scopes operands
  | _, _, _ => do pure (.reply number (← build number (Member.request name arguments)))

/-! ## Blocks -/

/-- Runs a body inside an item that is given as a value; no value can be called. -/
def callBody (item : Item) (body : Value) : Run Item := do
  inside item (throw (.notCallable body.typeName))
  pure .nothing

/-- Calls what is called on a labelled block under a private name. -/
def callLabelled (block : LabelledBlock) (name : String) (arguments : Arguments) : Run Item := do
  let bound (method : String) (parameters : List String) : Run Bound :=
    bound ("Block." ++ method) parameters arguments
  match name with
  | "__init__" => do
      let bound ← bound name ["program", "name"]
      setLabelled block
        [ (programName, .value (bound.slot 0)), (labelName, .value (bound.slot 1)),
          (repeatName, .value (.bool false)) ]
      pure .nothing
  | "__enter__" => do
      let _ ← bound name []
      enter (.labelled block)
  | "__exit__" => do
      let isNormal := (← bound name leavingParameters).slot 0 matches .null
      leave (!isNormal) (.labelled block)
      pure .nothing
  | "__call__" => do callBody (.labelled block) ((← bound name ["body"]).slot 0)
  | "__class__" => do
      pure (.reply 0 (.scope (.block ((← bound "__init__" ["program", "name"]).slot 1) false)))
  | _ => throw (.noAttribute "Block" name)

/-- Calls what is called on a constants block under a private name. -/
def callConstants (number : Nat) (block : ConstantsBlock) (name : String)
    (arguments : Arguments) : Run Item := do
  let bound (method : String) (parameters : List String) : Run Bound :=
    bound ("ConstantBlock." ++ method) parameters arguments
  let item := Item.reply number (.scope (.constants block))
  match name with
  | "__init__" => do
      let program := (← bound name ["program"]).slot 0
      setConstants number block programName (.value program)
      throw (.noAttribute program.typeName "buffer")
  | "__enter__" => do
      let _ ← bound name []
      enter item
  | "__exit__" => do
      let isNormal := (← bound name leavingParameters).slot 0 matches .null
      leave (!isNormal) item
      pure .nothing
  | "__call__" => do callBody item ((← bound name ["body"]).slot 0)
  | "__class__" => do
      throw (.noAttribute ((← bound "__init__" ["program"]).slot 0).typeName "buffer")
  | "__getattr__" =>
      match (← bound name ["name"]).slot 0 with
      | .str name =>
          if isPrivateName name then throw (.noMember name) else pure (.sealed "function")
      | other => throw (.noAttribute other.typeName "startswith")
  | _ => throw (.noMember name)

/-- Declares a register in a constants block with members that have been replaced. -/
def declareIn (number : Nat) (block : ConstantsBlock) (name : String) : Run Item := do
  if (asValue (← constantsMember number block openName)).isTruthy then
    recordConstants number block [.register name]
    pure .nothing
  else throw .declaredOutside

/-- Calls a public member of a constants block with members that have been replaced. -/
def askConstants (number : Nat) (block : ConstantsBlock) (name : String)
    (arguments : Arguments) : Run Item := do
  if name = "declare" then
    let bound ← bound "ConstantBlock.declare" ["name"] arguments
    declareIn number block (bound.slot 0).text
  else
    let _ ← ofExcept
      ((Signature.function "ConstantBlock.__getattr__.<locals>._declare" []).bind arguments)
    declareIn number block name

end PicAssembly.Stage
