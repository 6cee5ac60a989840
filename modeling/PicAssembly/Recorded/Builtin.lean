import PicAssembly.Duration
import PicAssembly.Pins
import PicAssembly.Recorded.Arity
import PicAssembly.Recorded.Known
import PicAssembly.Value.Order

/-!
# Functions and types that recorded scripts know

What a call of a function or of a type gives, or why it is refused.  Results that nothing in a
recorded script can show are known by their types only.
-/

namespace PicAssembly.Recorded

/-- A value of which only the type is known. -/
def made (typeName : String) : Value :=
  .thing (.ofType typeName)

/-- The items met when an argument is walked through. -/
def items (argument : Value) : Except Fault (List Value) :=
  match argument.elements? with
  | some items => .ok items
  | none => .error (.notIterable argument.typeName)

/-- The whole number that an argument counts as. -/
def whole (argument : Value) : Except Fault Int :=
  match argument.integer? with
  | some number => .ok number
  | none => .error (.notInteger argument.typeName)

/-- Refuses items that can be no keys. -/
def checkKeys (items : List Value) : Except Fault Unit :=
  match items.findSome? Value.unhashable? with
  | some typeName => .error (.unhashable typeName)
  | none => .ok ()

/-- The fault of an operation on values that are no numbers. -/
def unsupported (sign : String) (left right : Value) : Fault :=
  Refusal.type ("unsupported operand type(s) for " ++ sign ++ ": '" ++ left.typeName ++ "' and '" ++
    right.typeName ++ "'")

/-! ## Functions -/

namespace Function

/-- The distance of a value from zero. -/
def absolute (value : Value) : Except Fault Value :=
  match value, value.integer? with
  | .float (.finite _ units), _ => .ok (.float (.finite false units))
  | .float (.infinite _), _ => .ok (.float (.infinite false))
  | .float .nan, _ => .ok value
  | _, some number => .ok (.int number.natAbs)
  | _, none => .error (Refusal.type ("bad operand type for abs(): '" ++ value.typeName ++ "'"))

/-- The code of a character that an argument is. -/
def character (argument : Value) : Except Fault Value :=
  let refuse (found : String) : Except Fault Value :=
    .error (Refusal.type ("ord() expected " ++ found ++ " found"))
  match argument with
  | .str text =>
      match text.toList with
      | [char] => .ok (.int char.toNat)
      | chars => refuse ("a character, but string of length " ++ toString chars.length)
  | _ => refuse ("string of length 1, but " ++ argument.typeName)

/-- The character with a code. -/
def characterOf (argument : Value) : Except Fault Value := do
  let code ← whole argument
  if code < -2147483648 ∨ 2147483648 ≤ code then throw .wordTooSmall
  if code < 0 ∨ 0x110000 ≤ code then
    throw (Refusal.value "chr() arg not in range(0x110000)")
  pure (.str (String.singleton (Char.ofNat code.toNat)))

/-- The extreme of the arguments, or of the items of a single one. -/
def extreme (name : String) (relation : Value.Relation) (arguments : List Value) :
    Except Fault Value := do
  let candidates ← match arguments with
    | [only] => items only
    | several => pure several
  match candidates with
  | [] => throw (Refusal.value (name ++ "() arg is an empty sequence"))
  | first :: others => Value.extreme relation first others

/-- The sum of whole numbers behind a given one. -/
def sum (start : Value) (values : List Value) : Except Fault Value :=
  values.foldlM (fun total value =>
    match total.integer?, value.integer? with
    | some left, some right => .ok (.int (left + right))
    | _, _ => .error (unsupported "+" total value)) start

/-- Refuses the name of a member that is no text, and a member that a value does not have; every
member of a plain value is taken for one that it does not have. -/
def member (owner name : Value) : Except Fault Value :=
  match name with
  | .str name => .error (.noAttribute owner.typeName name)
  | _ => .error (.memberName name.typeName)

/-- Whether a value can be called. -/
def isCallable (value : Value) : Bool :=
  ["Quitter", "builtin_function_or_method", "function", "type"].contains value.typeName

/-- Refuses an operation on two values unless both are numbers. -/
def ofNumbers (sign : String) (left right : Value) : Except Fault Value :=
  match left.number?, right.number? with
  | some _, some _ => .ok (made "object")
  | _, _ => .error (unsupported sign left right)

/-- What a call of a function gives. -/
def apply (name : String) (arguments : List Value) : Except Fault Value :=
  match name, arguments with
  | "abs", [value] => absolute value
  | "aiter", [value] => notIterator "async iterable" value
  | "anext", value :: _ => notIterator "async iterator" value
  | "next", value :: _ => notIterator "iterator" value
  | "all", [value] => do pure (.bool ((← items value).all Value.isTruthy))
  | "any", [value] => do pure (.bool ((← items value).any Value.isTruthy))
  | "bin", [value] | "hex", [value] | "oct", [value] => do
      let _ ← whole value
      pure (made "str")
  | "callable", [value] => .ok (.bool (isCallable value))
  | "chr", [value] => characterOf value
  | "delattr", owner :: name :: _ | "getattr", [owner, name] => member owner name
  | "getattr", [_, .str _, fallback] => .ok fallback
  | "hasattr", [_, .str _] => .ok (.bool false)
  | "getattr", _ :: name :: _ | "hasattr", [_, name] | "setattr", _ :: name :: _ =>
      .error (.memberName name.typeName)
  | "divmod", [left, right] => ofNumbers "divmod()" left right
  | "pow", left :: right :: _ => ofNumbers "** or pow()" left right
  | "format", [_, .str _] | "format", [_] => .ok (made "str")
  | "format", _ :: form :: _ =>
      .error (Refusal.type ("format() argument 2 must be str, not " ++ form.typeName))
  | "hash", [value] => do
      checkKeys [value]
      pure (made "int")
  | "isinstance", [_, types] =>
      if (Known.typeOf? types).isSome then .ok (made "bool")
      else
        .error (Refusal.type "isinstance() arg 2 must be a type, a tuple of types, or a union")
  | "issubclass", _ => .error (Refusal.type "issubclass() arg 1 must be a class")
  | "iter", [value] => do
      let _ ← items value
      pure (made "iterator")
  | "iter", callee :: _ =>
      if isCallable callee then .ok (made "callable_iterator")
      else .error (Refusal.type "iter(v, w): v must be callable")
  | "len", [value] =>
      match value.elements? with
      | some found => .ok (.int found.length)
      | none => .error (Refusal.type ("object of type '" ++ value.typeName ++ "' has no len()"))
  | "max", values => extreme name .above values
  | "min", values => extreme name .below values
  | "ord", [value] => character value
  | "round", number :: places =>
      match number.number?, places with
      | none, _ =>
          .error (Refusal.type
            ("type " ++ number.typeName ++ " doesn't define __round__ method"))
      | some _, [.null] | some _, [] => .ok (made "int")
      | some _, places :: _ => do
          let _ ← whole places
          pure (made "int")
  | "sorted", [value] => do pure (.list (← Value.sorted (← items value)))
  | "sum", [value] => do sum (.int 0) (← items value)
  | "sum", [value, start] => do sum start (← items value)
  | "eval", source :: _ | "exec", source :: _ =>
      match source with
      | .str _ => .ok .null
      | _ => .error (Refusal.type (name ++ "() arg 1 must be a string, bytes or code object"))
  | _, _ => .ok (made "object")
where
  /-- Refuses what is no iterator of a kind. -/
  notIterator (kind : String) (value : Value) : Except Fault Value :=
    .error (Refusal.type ("'" ++ value.typeName ++ "' object is not an " ++ kind))

end Function

/-! ## Types -/

namespace Construction

/-- Whether a text spells a whole number. -/
def isWhole (text : String) : Bool :=
  let chars := text.trimAscii.toString.toList
  let digits := match chars with
    | '+' :: rest | '-' :: rest => rest
    | rest => rest
  !digits.isEmpty && digits.all Char.isDigit

/-- A whole number that a text or a number stands for. -/
def integer (argument : Value) : Except Fault Unit := do
  match argument, argument.integer? with
  | .str text, _ =>
      if !isWhole text then
        throw (Refusal.value ("invalid literal for int() with base 10: " ++ Quoted.quoted text))
  | .float number, _ => let _ ← Duration.count number
  | _, some _ => pure ()
  | _, none =>
      throw (Refusal.type ("int() argument must be a string, a bytes-like object or a real " ++
        "number, not '" ++ argument.typeName ++ "'"))

/-- A binary number that a text or a number stands for. -/
def binary (argument : Value) : Except Fault Unit := do
  match argument, argument.number? with
  | .str text, _ =>
      if (Binary64.ofText? text.trimAscii.toString).isNone then
        throw (Refusal.value ("could not convert string to float: " ++ Quoted.quoted text))
  | _, some _ => pure ()
  | _, none =>
      throw (Refusal.type ("float() argument must be a string or a real number, not '" ++
        argument.typeName ++ "'"))

/-- The dictionary that an argument stands for. -/
def dictionary (argument : Value) : Except Fault Value :=
  match argument with
  | .dict entries => .ok (.dict entries)
  | _ => do pure (.dict (Dictionary.ofPairs (← Pins.pairsOf argument)).entries)

/-- Refuses what no bytes can be made of. -/
def checkBytes (typeName : String) (argument : Value) : Except Fault Unit := do
  match argument, argument.integer?, argument.elements? with
  | .str _, _, _ => throw (Refusal.type "string argument without an encoding")
  | _, some number, _ => if number < 0 then throw (Refusal.value "negative count")
  | _, none, some found => found.forM fun item => do
      let _ ← whole item
  | _, none, none =>
      throw (Refusal.type ("cannot convert '" ++ argument.typeName ++ "' object to " ++ typeName))

/-- What a call of a type makes. -/
def apply (name : String) (arguments : List Value) : Except Fault Value :=
  match name, arguments with
  | "bool", [] => .ok (.bool false)
  | "bool", value :: _ => .ok (.bool value.isTruthy)
  | "bytes", [argument] | "bytearray", [argument] => after (checkBytes name argument)
  | "dict", [] => .ok (.dict [])
  | "dict", argument :: _ => dictionary argument
  | "enumerate", [] => .error (Refusal.type "enumerate() missing required argument 'iterable'")
  | "enumerate", iterable :: start => after do
      let _ ← start.mapM whole
      checkItems [iterable]
  | "filter", [_, iterable] => after (checkItems [iterable])
  | "float", [] => .ok (.float (.finite false 0))
  | "float", argument :: _ => after (binary argument)
  | "frozenset", _ | "set", _ =>
      after (arguments.forM fun argument => do checkKeys (← items argument))
  | "int", [] => .ok (.int 0)
  | "int", [argument] => after (integer argument)
  | "int", _ :: base :: _ => after do
      let _ ← whole base
      throw (Refusal.type "int() can't convert non-string with explicit base")
  | "list", [] => .ok (.list [])
  | "list", argument :: _ => do pure (.list (← items argument))
  | "map", _ :: first :: rest => after (checkItems (first :: rest))
  | "map", _ => .error (Refusal.type "map() must have at least two arguments.")
  | "object", _ :: _ => .error (Refusal.type "object() takes no arguments")
  | "range", bounds => after (bounds.forM fun bound => do
      let _ ← whole bound)
  | "str", [] => .ok (.str "")
  | "str", [argument] => .ok (.str argument.text)
  | "str", _ :: encoding :: _ =>
      .error (Refusal.type
        ("str() argument 'encoding' must be str, not " ++ encoding.typeName))
  | "super", [] => .error (Refusal.runtime "super(): no arguments")
  | "tuple", [] => .ok (.tuple [])
  | "tuple", argument :: _ => do pure (.tuple (← items argument))
  | "type", [argument] => .ok (Known.type argument.typeName)
  | "type", _ => .error (Refusal.type "type() takes 1 or 3 arguments")
  | "zip", _ => after (checkItems arguments)
  | _, _ => .ok fresh
where
  /-- What is made if nothing refuses it. -/
  after (check : Except Fault Unit) : Except Fault Value :=
    check.map fun _ => fresh
  /-- A thing of the type. -/
  fresh : Value :=
    made name
  /-- Refuses what cannot be walked through. -/
  checkItems (iterables : List Value) : Except Fault Unit :=
    iterables.forM fun iterable => do
      let _ ← items iterable

end Construction

/-! ## Exceptions -/

/-- The fault of making an exception about a character from other arguments than it is made from. -/
def exceptionRefusal? (name : String) (given : Nat) : Option Fault :=
  let wanted : Option Nat := match name with
    | "UnicodeDecodeError" | "UnicodeEncodeError" => some 5
    | "UnicodeTranslateError" => some 4
    | "ExceptionGroup" | "BaseExceptionGroup" => some 2
    | _ => none
  wanted.bind fun count =>
    if given = count then none
    else
      let callee := if count = 2 then "BaseExceptionGroup.__new__()" else "function"
      some (Refusal.type (callee ++ " takes exactly " ++ toString count ++ " arguments (" ++
        toString given ++ " given)"))

end PicAssembly.Recorded
