import PicAssembly.Command

/-!
# Replies

What a request to a program gives back: a plain value, a scope, or something that can be called in
its turn.
-/

namespace PicAssembly

/-- What a request gives back. -/
inductive Reply where
  /-- A plain value. -/
  | value (value : Value)
  /-- A scope that has been made. -/
  | scope (scope : Scope)
  /-- An operation that can be called. -/
  | operation (operation : Operation)
  /-- A call of a subroutine that can be made. -/
  | subroutine (name : Value)
deriving Repr

namespace Reply

/-- The reply of a request that gives nothing back. -/
def nothing : Reply :=
  value .null

/-- The reply of a task. -/
def ofScope? : Option Scope → Reply
  | some made => scope made
  | none => nothing

/-- The name of the type of a reply. -/
def typeName : Reply → String
  | value held => held.typeName
  | scope (.block ..) => "Block"
  | scope (.constants _) => "ConstantBlock"
  | operation _ => "method"
  | subroutine _ => "function"

/-- The fault of a name that a reply has no member for; operations are looked at as functions. -/
def noAttribute (reply : Reply) (name : String) : Fault :=
  match reply with
  | operation _ => .noAttribute "function" name
  | other => .noAttribute other.typeName name

end Reply

end PicAssembly
