import PicAssembly.Raised

/-!
# Faults

Every reason for which a request is refused, with one wording and one kind for each.
-/

namespace PicAssembly

/-- Why a request was refused. -/
inductive Fault where
  /-- A keyword that names no parameter. -/
  | unexpectedKeyword (callee keyword : String)
  /-- A keyword for a parameter that has a value already. -/
  | repeatedArgument (callee parameter : String)
  /-- More positional arguments than parameters. -/
  | tooManyArguments (callee : String) (least most given : Nat)
  /-- Parameters without a value. -/
  | missingArguments (callee : String) (parameters : List String)
  /-- A call of a callable that takes a fixed count of positions with another count. -/
  | wrongCount (expected given : Nat)
  /-- A call with arguments of a callable that takes none. -/
  | takesNone (callee : String) (given : Nat)
  /-- A call of a value that is no callable. -/
  | notCallable (typeName : String)
  /-- An unknown private member. -/
  | noMember (name : String)
  /-- A value that cannot be walked through. -/
  | notIterable (typeName : String)
  /-- A command that is no sequence. -/
  | notUnpackable (typeName : String)
  /-- A value that cannot be a key. -/
  | unhashable (typeName : String)
  /-- A text or a fraction where an integer literal is written. -/
  | noIntegerForm (code : Char) (typeName : String)
  /-- A value without numeric form where an integer literal is written. -/
  | noNumericForm (typeName : String)
  /-- A duration that is no number. -/
  | notDivisible (typeName : String)
  /-- An integer beyond the largest binary number. -/
  | integerTooLarge
  /-- An infinite count. -/
  | infiniteCount
  /-- A count that is no number. -/
  | undefinedCount
  /-- Something that does not list its keys where a dictionary is wanted. -/
  | noKeys (typeName : String)
  /-- Something of another program that is asked for its keys. -/
  | foreign (asked : Thing)
  /-- An entry of a pin sequence that is no sequence itself. -/
  | entryNotSequence (index : Nat)
  /-- An entry of a pin sequence that is no pair. -/
  | entryLength (index length : Nat)
  /-- A line that is no text. -/
  | lineNotText (index : Nat) (typeName : String)
  /-- A line for a listing that is closed. -/
  | closed (line : Value)
  /-- A position outside a listing. -/
  | outOfRange (index : Int)
  /-- A position that no listing is long enough for. -/
  | positionTooLarge
  /-- A position that is no whole number. -/
  | indexType (typeName : String)
  /-- A bound of a slice that is no whole number. -/
  | sliceType
  /-- A slice that does not move. -/
  | zeroStep
  /-- A second end of a program. -/
  | alreadyEnded
  /-- A constants block inside another. -/
  | nestedConstants
  /-- A declaration outside of its constants block. -/
  | declaredOutside
  /-- A scope where a single operation is expected. -/
  | scopedOperation (operation : Value)
  /-- A pin that cannot be driven. -/
  | invalidPin (pin : Value)
  /-- A command without a name. -/
  | emptyCommand
  /-- A command whose name is no text. -/
  | commandName (typeName : String)
  /-- A scope command without a body. -/
  | missingBody (name : String)
  /-- A constant with arguments. -/
  | constantArguments (name : String) (count : Nat)
  /-- A result that is no scope where one is entered. -/
  | notScope (typeName : String)
  /-- A member that things of the given kind do not have. -/
  | noAttribute (typeName member : String)
  /-- A member that a type does not have. -/
  | noTypeMember (typeName member : String)
  /-- A change of a member that is worked out anew each time. -/
  | fixedMember (typeName member : String) (removing : Bool)
  /-- A value in the place of a type. -/
  | typeReplaced (typeName : String)
  /-- The removal of a type. -/
  | typeRemoval
  /-- The name of a member that is no text. -/
  | memberName (typeName : String)
  /-- Keywords for a callable that takes none. -/
  | noKeywords (callee : String)
  /-- Another count of arguments for a callable that takes one. -/
  | takesOne (callee : String) (given : Nat)
  /-- A change of a member with another count of arguments than two. -/
  | changeCount (given : Nat)
  /-- A format that is no text. -/
  | formatType (typeName : String)
  /-- A value where a whole number is wanted. -/
  | notInteger (typeName : String)
  /-- A whole number that does not fit a machine word. -/
  | wordTooSmall
  /-- A new thing of no type. -/
  | newWithoutType
  /-- A new thing of something that is no type. -/
  | newOfValue (typeName : String)
  /-- A search in something that holds nothing. -/
  | notContainer (typeName : String)
  /-- A value where an exception is to be raised. -/
  | notException
  /-- A value that has no negative. -/
  | noNegative (typeName : String)
  /-- A comparison of values that have no order. -/
  | notOrdered (sign left right : String)
  /-- A name that a script does not define. -/
  | unboundName (name : String)
  /-- A selected name that is bound to no program. -/
  | notProgram (name : Value)
  /-- A script that defines no program, or several. -/
  | programCount (count : Nat)
  /-- A home directory of an unknown user. -/
  | noHome
  /-- A file where a directory is wanted. -/
  | fileExists (path : String)
  /-- A path that leads through a file. -/
  | notDirectory (path : String)
  /-- A directory where a file is wanted. -/
  | isDirectory (path : String)
  /-- A path, or a name in it, that is longer than the system allows. -/
  | nameTooLong (path : String)
  /-- A path with a null character. -/
  | embeddedNull
  /-- A text that is no script. -/
  | notScript (problem file : String) (line : Nat)
  /-- An exception that a script raises itself. -/
  | raised (name : String) (arguments : List Value)
deriving Repr

namespace Fault

/-- The kinds of faults. -/
inductive Kind where
  | type
  | value
  | runtime
  | attribute
  | overflow
  | index
  | name
  | invalidPin
  | discovery
  | fileExists
  | notDirectory
  | isDirectory
  | system
  | raised (name : String)
deriving DecidableEq, Repr

/-- The kind of a fault. -/
def kind : Fault → Kind
  | noIntegerForm .. | undefinedCount | entryLength .. | zeroStep | emptyCommand
  | embeddedNull => .value
  | closed _ | alreadyEnded | nestedConstants | declaredOutside | noHome => .runtime
  | noMember _ | noAttribute .. | noTypeMember .. | fixedMember .. => .attribute
  | integerTooLarge | infiniteCount | wordTooSmall => .overflow
  | outOfRange _ | positionTooLarge => .index
  | unboundName _ => .name
  | invalidPin _ => .invalidPin
  | notProgram _ | programCount _ => .discovery
  | fileExists _ => .fileExists
  | notDirectory _ => .notDirectory
  | isDirectory _ => .isDirectory
  | nameTooLong _ => .system
  | notScript .. => .raised "SyntaxError"
  | raised name _ => .raised name
  | _ => .type

/-- A count with its noun. -/
def counted (count : Nat) (noun : String) : String :=
  toString count ++ " " ++ noun ++ (if count = 1 then "" else "s")

/-- A list in words. -/
def inWords : List String → String
  | [] => ""
  | [only] => only
  | [first, second] => first ++ " and " ++ second
  | [first, second, third] => first ++ ", " ++ second ++ ", and " ++ third
  | first :: rest => first ++ ", " ++ inWords rest

/-- The wording of a fault about the arguments of a call. -/
def callMessage (callee : String) (least most given : Nat) : String :=
  let allowed :=
    if least < most then "from " ++ toString least ++ " to " ++ toString most else toString most
  let noun := if least = 1 ∧ most = 1 then " positional argument but " else
    " positional arguments but "
  callee ++ "() takes " ++ allowed ++ noun ++ toString given ++
    (if given = 1 then " was given" else " were given")

/-- The wording of a fault. -/
def message : Fault → String
  | unexpectedKeyword callee keyword =>
      callee ++ "() got an unexpected keyword argument " ++ "'" ++ keyword ++ "'"
  | repeatedArgument callee parameter =>
      callee ++ "() got multiple values for argument " ++ "'" ++ parameter ++ "'"
  | tooManyArguments callee least most given => callMessage callee least most given
  | missingArguments callee parameters =>
      callee ++ "() missing " ++ counted parameters.length "required positional argument" ++ ": " ++
        inWords (parameters.map fun parameter => "'" ++ parameter ++ "'")
  | wrongCount expected given =>
      "expected " ++ counted expected "argument" ++ ", got " ++ toString given
  | takesNone callee given => callee ++ "() takes no arguments (" ++ toString given ++ " given)"
  | notCallable typeName => "'" ++ typeName ++ "' object is not callable"
  | noMember name => name
  | notIterable typeName => "'" ++ typeName ++ "' object is not iterable"
  | notUnpackable typeName => "cannot unpack non-iterable " ++ typeName ++ " object"
  | unhashable typeName => "unhashable type: '" ++ typeName ++ "'"
  | noIntegerForm code typeName =>
      "Unknown format code '" ++ String.singleton code ++ "' for object of type '" ++
        typeName ++ "'"
  | noNumericForm typeName => "unsupported format string passed to " ++ typeName ++ ".__format__"
  | notDivisible typeName =>
      "unsupported operand type(s) for /: '" ++ typeName ++ "' and 'float'"
  | integerTooLarge => "int too large to convert to float"
  | infiniteCount => "cannot convert float infinity to integer"
  | undefinedCount => "cannot convert float NaN to integer"
  | noKeys typeName => typeName ++ ".keys() returned a non-iterable (type NoneType)"
  | foreign asked => asked.typeName ++ ".keys() returned a non-iterable (type NoneType)"
  | entryNotSequence index =>
      "cannot convert dictionary update sequence element #" ++ toString index ++ " to a sequence"
  | entryLength index length =>
      "dictionary update sequence element #" ++ toString index ++ " has length " ++
        toString length ++ "; 2 is required"
  | lineNotText index typeName =>
      "sequence item " ++ toString index ++ ": expected str instance, " ++ typeName ++ " found"
  | closed line => "Cannot emit " ++ line.literal ++ ": program already finalized"
  | outOfRange index => "Index out of range: " ++ toString index
  | positionTooLarge => "cannot fit 'int' into an index-sized integer"
  | indexType typeName => "pvector indices must be integers, not " ++ typeName
  | sliceType => "slice indices must be integers or None or have an __index__ method"
  | zeroStep => "slice step cannot be zero"
  | alreadyEnded => "end_code() already called for this program"
  | nestedConstants => "Nested constants() block is not permitted"
  | declaredOutside => "declare() must be called inside a constants() block"
  | scopedOperation operation =>
      "decrement_and_test() cannot run scoped operation " ++ operation.literal
  | invalidPin pin => "Invalid port " ++ pin.text ++ " specified"
  | emptyCommand => "Empty command"
  | commandName typeName => "Command name must be str, got " ++ typeName
  | missingBody name => name ++ "() requires a body command sequence"
  | constantArguments name count =>
      "Constant " ++ Quoted.quoted name ++ " takes no arguments, got " ++ toString count
  | notScope typeName =>
      "'" ++ typeName ++ "' object does not support the context manager protocol"
  | noAttribute typeName member =>
      "'" ++ typeName ++ "' object has no attribute '" ++ member ++ "'"
  | noTypeMember typeName member =>
      "type object '" ++ typeName ++ "' has no attribute '" ++ member ++ "'"
  | fixedMember typeName member removing =>
      "property '" ++ member ++ "' of '" ++ typeName ++ "' object has no " ++
        (if removing then "deleter" else "setter")
  | typeReplaced typeName => "__class__ must be set to a class, not '" ++ typeName ++ "' object"
  | typeRemoval => "can't delete __class__ attribute"
  | memberName typeName => "attribute name must be string, not '" ++ typeName ++ "'"
  | noKeywords callee => callee ++ "() takes no keyword arguments"
  | takesOne callee given =>
      callee ++ "() takes exactly one argument (" ++ toString given ++ " given)"
  | changeCount given => " expected 2 arguments, got " ++ toString given
  | formatType typeName => "__format__() argument must be str, not " ++ typeName
  | notInteger typeName => "'" ++ typeName ++ "' object cannot be interpreted as an integer"
  | wordTooSmall => "Python int too large to convert to C int"
  | newWithoutType => "object.__new__(): not enough arguments"
  | newOfValue typeName =>
      "object.__new__(X): X is not a type object (" ++ typeName ++ ")"
  | notContainer typeName => "argument of type '" ++ typeName ++ "' is not iterable"
  | notException => "exceptions must derive from BaseException"
  | noNegative typeName => "bad operand type for unary -: '" ++ typeName ++ "'"
  | notOrdered sign left right =>
      "'" ++ sign ++ "' not supported between instances of '" ++ left ++ "' and '" ++ right ++ "'"
  | unboundName name => "name '" ++ name ++ "' is not defined"
  | notProgram name => "Script attribute " ++ name.literal ++ " is not a Program object"
  | programCount count =>
      "Script must define exactly one Program, or name one with --program. Found " ++
        toString count ++ " Program(s)."
  | noHome => "Could not determine home directory."
  | fileExists path => "[Errno 17] File exists: " ++ Quoted.quoted path
  | notDirectory path => "[Errno 20] Not a directory: " ++ Quoted.quoted path
  | isDirectory path => "[Errno 21] Is a directory: " ++ Quoted.quoted path
  | nameTooLong path => "[Errno 36] File name too long: " ++ Quoted.quoted path
  | embeddedNull => "embedded null byte"
  | notScript problem file line => problem ++ " (" ++ file ++ ", line " ++ toString line ++ ")"
  | raised name arguments => Raised.text name arguments

end Fault

end PicAssembly
