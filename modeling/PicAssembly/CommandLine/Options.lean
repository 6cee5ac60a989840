import PicAssembly.Fault
import PicAssembly.Text.DecimalDigit

/-!
# Command line options

Reading of the command line: one script, and options that may be abbreviated, joined with their
values, or clustered after a single dash.  Arguments are first sorted into options and plain words,
and are then consumed from left to right.
-/

namespace PicAssembly.CommandLine

/-- An option of the command line. -/
inductive Flag where
  | help
  | output
  | program
  | stdout
deriving DecidableEq, Repr

namespace Flag

/-- All spellings of the options. -/
def spellings : List (String × Flag) :=
  [ ("-h", help), ("--help", help), ("-o", output), ("--output", output), ("--program", program),
    ("--stdout", stdout) ]

/-- The option with a given spelling. -/
def ofSpelling? (spelling : String) : Option Flag :=
  spellings.lookup spelling

/-- Whether an option takes a value. -/
def takesValue : Flag → Bool
  | output | program => true
  | help | stdout => false

/-- The name of an option in messages: all of its spellings. -/
def describe (flag : Flag) : String :=
  "/".intercalate ((spellings.filter fun spelling => spelling.2 == flag).map Prod.fst)

end Flag

/-- Why a command line is refused. -/
inductive Misuse where
  | ambiguous (argument : String) (candidates : List String)
  | expectedValue (flag : Flag)
  | ignoredValue (flag : Flag) (value : String)
  | missingScript
  | unrecognized (arguments : List String)
deriving DecidableEq, Repr

namespace Misuse

/-- The wording of a refusal. -/
def message : Misuse → String
  | ambiguous argument candidates =>
      "ambiguous option: " ++ argument ++ " could match " ++ ", ".intercalate candidates
  | expectedValue flag => "argument " ++ flag.describe ++ ": expected one argument"
  | ignoredValue flag value =>
      "argument " ++ flag.describe ++ ": ignored explicit argument " ++ Quoted.quoted value
  | missingScript => "the following arguments are required: script"
  | unrecognized arguments => "unrecognized arguments: " ++ " ".intercalate arguments

end Misuse

/-- An argument by its form; an option may have a value attached. -/
inductive Argument where
  | option (flag : Flag) (isShort : Bool) (attached : Option String)
  | unknown (text : String)
  | plain (text : String)
  | separator
deriving DecidableEq, Repr

namespace Argument

/-- A text without a line break at its end. -/
def withoutBreak (chars : List Char) : List Char :=
  if chars.getLast? = some '\n' then chars.dropLast else chars

/-- Whether a text is written like a negative number. -/
def isNegativeNumber (chars : List Char) : Bool :=
  match withoutBreak chars with
  | '-' :: digits =>
      let whole := digits.takeWhile isDecimalDigit
      match digits.dropWhile isDecimalDigit with
      | [] => !whole.isEmpty
      | '.' :: fraction => !fraction.isEmpty && fraction.all isDecimalDigit
      | _ => false
  | _ => false

/-- Whether one text begins with another. -/
def startsWith (text beginning : List Char) : Bool :=
  beginning.isPrefixOf text

/-- A text cut at its first equals sign, if it has one. -/
def cutAtEquals (chars : List Char) : List Char × Option String :=
  match chars.dropWhile (· != '=') with
  | [] => (chars, none)
  | _ :: value => (chars.takeWhile (· != '='), some (String.ofList value))

/-- The long options that a text with two dashes abbreviates. -/
def longCandidates (chars : List Char) : List (String × Flag × Option String) :=
  let (beginning, attached) := cutAtEquals chars
  (Flag.spellings.filter fun spelling => startsWith spelling.1.toList beginning).map
    fun spelling => (spelling.1, spelling.2, attached)

/-- The options that a text with one dash spells, its value attached without a sign. -/
def shortCandidates (chars : List Char) : List (String × Flag × Option String) :=
  Flag.spellings.filterMap fun (spelling, flag) =>
    if spelling.toList = chars.take 2 then
      some (spelling, flag, some (String.ofList (chars.drop 2)))
    else if startsWith spelling.toList chars then some (spelling, flag, none)
    else none

/-- Whether an option is spelled with one dash. -/
def isShort (spelling : String) : Bool :=
  spelling.toList[1]? != some '-'

/-- The option that a text spells exactly, perhaps with a value after an equals sign. -/
def ofExact? (chars : List Char) : Option Argument :=
  let (spelling, attached) := cutAtEquals chars
  let whole := String.ofList chars
  match Flag.ofSpelling? whole with
  | some flag => some (option flag (isShort whole) none)
  | none =>
      match attached, Flag.ofSpelling? (String.ofList spelling) with
      | some value, some flag => some (option flag (isShort (String.ofList spelling)) (some value))
      | _, _ => none

/-- Sorts an argument that begins with a dash and is longer than that. -/
def ofDashed (chars : List Char) : Except Misuse Argument :=
  let text := String.ofList chars
  match ofExact? chars with
  | some found => .ok found
  | none =>
      let candidates :=
        if chars[1]? = some '-' then longCandidates chars else shortCandidates chars
      match candidates with
      | [(spelling, flag, attached)] => .ok (option flag (isShort spelling) attached)
      | [] =>
          .ok (if isNegativeNumber chars || chars.contains ' ' then plain text else unknown text)
      | several => .error (.ambiguous text (several.map fun candidate => candidate.1))

/-- Sorts one argument. -/
def ofString (text : String) : Except Misuse Argument :=
  match text.toList with
  | '-' :: second :: rest => ofDashed ('-' :: second :: rest)
  | _ => .ok (plain text)

/-- Sorts all arguments; those after two dashes are plain words. -/
def ofStrings : List String → Except Misuse (List Argument)
  | [] => .ok []
  | text :: texts =>
      if text = "--" then .ok (separator :: texts.map plain)
      else do
        let first ← ofString text
        let rest ← ofStrings texts
        pure (first :: rest)

end Argument

/-- What a text of options behind one dash stands for. -/
structure Cluster where
  switches : List Flag
  valued : Option (Flag × Option String)

namespace Cluster

/-- Reads the options behind one dash, the rest of the text being attached to the first. -/
def ofShort (flag : Flag) (attached : List Char) : Except Misuse Cluster :=
  if flag.takesValue then .ok ⟨[], some (flag, some (String.ofList attached))⟩
  else
    match attached with
    | [] => .error (.ignoredValue flag "")
    | next :: rest =>
        match Flag.ofSpelling? (String.ofList ['-', next]), rest with
        | none, _ => .error (.ignoredValue flag (String.ofList attached))
        | some last, [] =>
            if last.takesValue then .ok ⟨[flag], some (last, none)⟩ else .ok ⟨[flag, last], none⟩
        | some another, _ :: _ => do
            let cluster ← ofShort another rest
            pure { cluster with switches := flag :: cluster.switches }

/-- Reads an option with what is attached to it. -/
def ofOption (flag : Flag) (isShort : Bool) (attached : Option String) : Except Misuse Cluster :=
  match attached with
  | none => .ok (if flag.takesValue then ⟨[], some (flag, none)⟩ else ⟨[flag], none⟩)
  | some value =>
      if isShort then ofShort flag value.toList
      else if flag.takesValue then .ok ⟨[], some (flag, some value)⟩
      else .error (.ignoredValue flag value)

end Cluster

/-- The options of a run; the chosen program has a name, unless the name given was no word. -/
structure Options where
  script : String
  output : Option String
  program : Option Value
  toStdout : Bool
deriving Repr

/-- What has been read of the options. -/
structure Reading where
  script : Option String
  output : Option String
  program : Option Value
  toStdout : Bool
  extras : List String
  /-- An option that waits for its value, with the options clustered before it. -/
  pending : Option (List Flag × Flag)
  /-- Whether the argument before was taken as the script. -/
  followsScript : Bool
deriving Repr

/-- How reading ends before its end. -/
inductive Stop where
  /-- Help is wanted. -/
  | help
  /-- The command line is refused. -/
  | misuse (misuse : Misuse)

namespace Reading

/-- Nothing read so far. -/
def initial : Reading :=
  { script := none, output := none, program := none, toStdout := false, extras := [],
    pending := none, followsScript := false }

/-- Notes an argument that nothing takes. -/
def addExtra (reading : Reading) (text : String) : Reading :=
  { reading with extras := reading.extras ++ [text] }

/-- Acts on an option without value. -/
def switch (reading : Reading) (flag : Flag) : Except Stop Reading :=
  match flag with
  | .help => .error .help
  | .stdout => .ok { reading with toStdout := true }
  | .output | .program => .ok reading

/-- The words of an attached value, which are none if it is nothing but the separator. -/
def attachedWord (value : String) : Option String :=
  if value = "--" then none else some value

/-- Acts on an option with its value. -/
def setValue (reading : Reading) (flag : Flag) (value : String) : Reading :=
  let word := attachedWord value
  match flag with
  | .output => { reading with output := some (word.getD "") }
  | .program => { reading with program := some ((word.map .str).getD (.list [])) }
  | .help | .stdout => reading

/-- The cluster that an option stands for. -/
def cluster (flag : Flag) (isShort : Bool) (attached : Option String) : Except Stop Cluster :=
  (Cluster.ofOption flag isShort attached).mapError .misuse

/-- Acts on a cluster of options; a last option without its value waits for it. -/
def perform (reading : Reading) (cluster : Cluster) : Except Stop Reading :=
  match cluster.valued with
  | none => cluster.switches.foldlM switch reading
  | some (flag, some value) => do
      pure ((← cluster.switches.foldlM switch reading).setValue flag value)
  | some (flag, none) => .ok { reading with pending := some (cluster.switches, flag) }

/-- Consumes an argument when no option waits for a value. -/
def consumeFree (reading : Reading) (argument : Argument) : Except Stop Reading :=
  let further := { reading with followsScript := false }
  match argument with
  | .unknown text => .ok (further.addExtra text)
  | .plain text =>
      if reading.script.isNone then .ok { reading with script := some text, followsScript := true }
      else .ok (further.addExtra text)
  | .separator =>
      if reading.script.isNone || reading.followsScript then .ok further
      else .ok (further.addExtra "--")
  | .option flag isShort attached => do further.perform (← cluster flag isShort attached)

/-- Consumes an argument. -/
def consume (reading : Reading) (argument : Argument) : Except Stop Reading :=
  match reading.pending, argument with
  | none, _ => reading.consumeFree argument
  | some (switches, flag), .plain value => do
      pure ((← switches.foldlM switch { reading with pending := none }).setValue flag value)
  | some (_, flag), _ => .error (.misuse (.expectedValue flag))

/-- The options of a run, once everything is consumed. -/
def toOptions (reading : Reading) : Except Stop Options :=
  match reading.pending, reading.script with
  | some (_, flag), _ => .error (.misuse (.expectedValue flag))
  | none, none => .error (.misuse .missingScript)
  | none, some script =>
      if reading.extras.isEmpty then
        .ok
          { script, output := reading.output, program := reading.program,
            toStdout := reading.toStdout }
      else .error (.misuse (.unrecognized reading.extras))

end Reading

/-- Reads a command line. -/
def Options.ofArguments (arguments : List String) : Except Stop Options := do
  let sorted ← (Argument.ofStrings arguments).mapError .misuse
  (← sorted.foldlM Reading.consume Reading.initial).toOptions

/-- The line that shows how the command is used. -/
def usage : String :=
  "usage: pypic [-h] [-o OUTPUT] [--program PROGRAM] [--stdout] script\n"

/-- The help text. -/
def help : String :=
  usage ++ "\n" ++
    "Generate PIC10F202 assembly from a pypic DSL script.\n\n" ++
    "positional arguments:\n" ++
    "  script                Python file that builds a Program.\n\n" ++
    "options:\n" ++
    "  -h, --help            show this help message and exit\n" ++
    "  -o OUTPUT, --output OUTPUT\n" ++
    "                        Output file path (default: the script path with an\n" ++
    "                        .asm suffix).\n" ++
    "  --program PROGRAM     Attribute name of the Program object in the script\n" ++
    "                        (default: auto-detect).\n" ++
    "  --stdout              Also print the generated assembly to stdout.\n"

/-- The text of a refusal. -/
def refusal (misuse : Misuse) : String :=
  usage ++ "pypic: error: " ++ misuse.message ++ "\n"

end PicAssembly.CommandLine
