import PicAssembly.CommandLine.Run
import PicAssembly.Recorded.Builtin
import PicAssembly.Recorded.Literal

/-!
# Recorded scripts

A recorded script is a list of actions, one to a line behind two lines that bring in names.  It is
read as a whole before any action is performed, so a word that is no name, or brackets that are too
deep, keep it from running at all.
-/

namespace PicAssembly.Recorded

/-- An action of a recorded script. -/
inductive Action where
  /-- Bind a name to a new program. -/
  | program (name : String)
  /-- Bind a name to what another stands for. -/
  | share (name target : String)
  /-- Bind a name to the value of a literal. -/
  | value (name : String) (literal : Value)
  /-- Replay commands on what a name stands for. -/
  | replay (name : String) (commands : Value)
  /-- Raise an exception. -/
  | raise (exception : String) (arguments : List Value)

namespace Action

/-- How many brackets are open at once in an action. -/
def brackets : Action → Nat
  | value _ literal => Literal.brackets literal
  | replay _ commands => Literal.brackets commands + 1
  | raise _ arguments => Literal.bracketsOfAll arguments + 1
  | _ => 0

/-- Why an action cannot be read. -/
def problem? (action : Action) : Option String :=
  let ofWords : Option String := match action with
    | program name | value name _ => Name.targetProblem? name
    | share name target => Name.targetProblem? name <|> Name.problem? target
    | replay name _ | raise name _ => Name.problem? name
  if Literal.mostBrackets < action.brackets then some "too many nested parentheses" else ofWords

/-- Why an action that can be read means nothing. -/
def meaninglessness? : Action → Option String
  | program name | value name _ | share name _ =>
      if Name.plain name = Name.fixed then some ("cannot assign to " ++ Name.fixed) else none
  | replay .. | raise .. => none

/-- The fault of the first action of a script at a path that has a problem. -/
def refusal? (path : Path) (problem? : Action → Option String) (actions : List Action) :
    Option Fault :=
  actions.zipIdx.findSome? fun (action, place) =>
    (problem? action).map fun problem => .notScript problem path.name (place + 3)

end Action

/-- What a call gives: a value, or an exception that can be raised. -/
inductive Result where
  | value (value : Value)
  | exception (name : String) (arguments : List Value)

namespace Result

/-- A result as a value; an exception is known by its type and its text. -/
def toValue : Result → Value
  | value held => held
  | exception name arguments =>
      .thing { Thing.ofType name with literal := name ++ "()", text := Raised.text name arguments }

/-- The fault of raising a result: an exception, or a type of exceptions. -/
def toFault : Result → Fault
  | exception name arguments => .raised name arguments
  | value held =>
      match (Known.typeOf? held).filter Known.exceptions.contains with
      | some name => (exceptionRefusal? name 0).getD (.raised name [])
      | none => .notException

end Result

variable {Content : Type}

/-- What a binding stands for, as a value. -/
def ofBinding : Binding Nat → Value
  | .program number => .thing (.program (some number))
  | .value value => value

/-- The number of the program that a value is, if it is one. -/
def programNumber? : Value → Option Nat
  | .thing held => if held = .program held.owner then held.owner else none
  | _ => none

/-- What a name that a value is given stands for. -/
def toBinding (value : Value) : Binding Nat :=
  match programNumber? value with
  | some number => .program number
  | none => .value value

/-- What a name stands for in the script at a path. -/
def found (path : Path) (names : Namespace Nat) (name : String) : Except Fault Value :=
  let plain := Name.plain name
  let value? := Name.constants.lookup name <|> (names.lookup plain).map ofBinding <|>
    (Known.ofScript path.text).lookup plain <|> Known.everywhere? plain
  match value? with
  | some value => .ok value
  | none => .error (.unboundName plain)

/-- What a name stands for. -/
def referent (path : Path) (name : String) : Script Content Value :=
  .look fun world => .ofExcept (found path world.names name)

/-- The value of a literal. -/
def literal (path : Path) (value : Value) : Script Content Value :=
  .look fun world => .ofExcept (Literal.evaluate (found path world.names) value)

/-- Binds a name to a value. -/
def bindTo (name : String) (value : Value) : Script Content Unit :=
  .bind (Name.plain name) (toBinding value) (.finish ())

/-- Refuses arguments that the parameters of a callable do not take. -/
def checkArguments (signature : Signature) (arguments : List Value) : Script Content Bound :=
  .ofExcept (signature.bind (.ofList arguments))

/-- Replays commands on a value. -/
def replayOn (target commands : Value) : Script Content Unit :=
  match programNumber? target, Command.notReplayed? target commands with
  | some number, _ => do
      let _ ← Script.demand number (.replay commands)
  | none, some fault => .raise fault
  | none, none => .finish ()

/-- Calls a type. -/
def construct (name : String) (arguments : List Value) : Script Content Result := do
  if name = "Program" then
    let _ ← checkArguments (.method "Program.__init__" []) arguments
    .create fun number => .finish (.value (.thing (.program (some number))))
  else if Known.exceptions.contains name then
    match exceptionRefusal? name arguments.length with
    | some fault => .raise fault
    | none => pure (.exception name arguments)
  else do pure (.value (← Construction.apply name arguments))

/-- Calls a function that is known everywhere. -/
def callFunction (name : String) (arguments : List Value) : Script Content Value :=
  match name with
  | "print" => .print (" ".intercalate (arguments.map Value.text) ++ "\n") (.finish .null)
  | _ => .ofExcept (Function.apply name arguments)

/-- Calls a value. -/
def call (callee : Value) (arguments : List Value) : Script Content Result := do
  let held ← match callee with
    | .thing held => pure held
    | _ => .raise (.notCallable callee.typeName)
  match held.typeName, Arity.misfit? held.name arguments.length with
  | "type", some misfit | "builtin_function_or_method", some misfit => .raise misfit
  | "type", none => construct held.name arguments
  | "builtin_function_or_method", none => do pure (.value (← callFunction held.name arguments))
  | "function", _ => do
      let bound ← checkArguments (.function "replay" ["program", "commands"]) arguments
      replayOn (bound.slot 0) (bound.slot 1)
      pure (.value .null)
  | "Quitter", _ => do
      let bound ← checkArguments
        { Signature.method "Quitter.__call__" [] with optional := ["code"] } arguments
      .raise (.raised "SystemExit" [bound.slot 0])
  | typeName, _ => .raise (.notCallable typeName)

/-- Performs an action of the script at a path.  Commands that are replayed through a name of the
script reach what that name is bound to. -/
def perform (path : Path) : Action → Script Content Unit
  | .program name => do
      let result ← call (← referent path "Program") []
      bindTo name result.toValue
  | .share name target => do bindTo name (← referent path target)
  | .value name value => do bindTo name (← literal path value)
  | .replay name commands => do
      let callee ← referent path "replay"
      let target ← referent path name
      let commands ← literal path commands
      match callee, programNumber? target with
      | .thing held, some _ =>
          if held.typeName = "function" then Script.replaying (Name.plain name) commands
          else do
            let _ ← call callee [target, commands]
      | _, _ => do
          let _ ← call callee [target, commands]
  | .raise exception arguments => do
      let callee ← referent path exception
      let values ← arguments.mapM (literal path)
      let result ← call callee values
      .raise result.toFault

/-- What the script at a path does, which is recorded as a list of actions. -/
def ofActions (path : Path) (actions : List Action) : Script Content Unit :=
  match Action.refusal? path Action.problem? actions <|>
      Action.refusal? path Action.meaninglessness? actions with
  | some fault => .raise fault
  | none => do
      Known.broughtIn.forM fun (name, value) => bindTo name value
      actions.forM (perform path)

/-! ## Hosts -/

/-- What a file holds: a text, or a recorded script. -/
inductive Source where
  | text (text : String)
  | actions (actions : List Action)

/-- The host that performs recorded scripts, where it is given what the script at a path does that
is a text. -/
def host (ofText : Path → String → Script Source Unit) : CommandLine.Host Source where
  ofText := .text
  interpret path
    | .text text => ofText path text
    | .actions actions => ofActions path actions

end PicAssembly.Recorded
