import PicAssembly.CommandLine.Message
import PicAssembly.CommandLine.Options
import PicAssembly.Script.Basic
import PicAssembly.Text.Surrogate

/-!
# A run of the command

A run finds its script, runs it, selects the program that it defines, ends that program if the
script left it open, and writes the text to the output path.  Every refusal comes before the first
write, and a plan says what is to be written without writing it.  What a script does is up to the
host that runs it.
-/

namespace PicAssembly.CommandLine

/-- Where a run takes place: the current directory and the home directories of users; the current
user has the empty name. -/
structure Environment where
  directory : List String
  homes : List (String × List String)

/-- What a run leaves to others: what a file holds after a text has been written to it, and what the
script does that a file holds, given the path of the file. -/
structure Host (Content : Type) where
  ofText : String → Content
  interpret : Path → Content → Script Content Unit

/-- How a run ends. -/
inductive Ending where
  /-- With an exit code. -/
  | exit (code : Nat)
  /-- With a request to exit, which may carry any value. -/
  | systemExit (code : Value)
  /-- With a fault that nothing catches. -/
  | fault (fault : Fault)

/-- What a run is going to do. -/
inductive Plan where
  /-- End at once. -/
  | stop (ending : Ending) (stdout stderr : String)
  /-- Write a text after an output, and print more on success. -/
  | write (path : Path) (source output summary : String)

/-- What a run has done. -/
structure Report (Content : Type) where
  ending : Ending
  stdout : String
  stderr : String
  tree : FileTree Content

/-- The path with a user's home directory in place of a tilde and the user's name. -/
def expandHome (environment : Environment) (path : Path) : Except Fault Path :=
  match path.isAbsolute, path.parts with
  | false, first :: rest =>
      match first.toList with
      | '~' :: user =>
          match environment.homes.lookup (String.ofList user) with
          | some home => .ok (.absolute (home ++ rest))
          | none => .error (if user.contains '\x00' then .embeddedNull else .noHome)
      | _ => .ok path
  | _, _ => .ok path

/-- The absolute parts of the script path. -/
def scriptPlace (environment : Environment) (options : Options) : Except Fault (List String) := do
  let path ← expandHome environment (.ofString options.script)
  if path.hasNull then throw .embeddedNull
  pure (path.resolve environment.directory)

/-- The output path: the given one, or else the script path with its own suffix. -/
def outputPath (options : Options) (script : Path) : Path :=
  match options.output with
  | some output => if output.isEmpty then script.withSuffix ".asm" else .ofString output
  | none => script.withSuffix ".asm"

/-- The exceptions that are no errors, so that nothing catches them. -/
def uncaught : List String :=
  ["BaseException", "GeneratorExit", "KeyboardInterrupt"]

/-- The value with which an exit is requested by its arguments. -/
def exitCode : List Value → Value
  | [] => .null
  | [code] => code
  | codes => .tuple codes

/-- Whether a fault is about a pin that cannot be driven. -/
def isPinFault (fault : Fault) : Bool :=
  fault.kind == .invalidPin || fault.kind == .raised "InvalidPinError"

/-- A run that fails with a message, after an output. -/
def failure (output message : String) : Plan :=
  .stop (.exit 1) output (printed message)

/-- How a run ends after a fault of its script, which has printed an output. -/
def scriptFailure (script : Path) (output : String) (fault : Fault) : Plan :=
  match fault with
  | .raised "SystemExit" arguments => .stop (.systemExit (exitCode arguments)) output ""
  | _ =>
      if isPinFault fault then failure output ("Error: " ++ shown fault.message)
      else if uncaught.any fun name => fault.kind == .raised name then
        .stop (.fault fault) output ""
      else
        failure output ("Failed to run " ++ shown script.name ++ ": " ++ shown fault.message)

/-- How a run ends when no program can be selected. -/
def discoveryFailure (output : String) (fault : Fault) : Plan :=
  if fault.kind == .discovery then failure output ("Error: " ++ shown fault.message)
  else .stop (.fault fault) output ""

/-- A finished program: ended, unless it was final already. -/
def finished (program : Program) : Program :=
  (Build.finishOpen.run program).2

/-- The plan for a selected program of a script that has printed an output. -/
def writing (options : Options) (script : Path) (output : String) (program : Program) : Plan :=
  let program := finished program
  match program.listing.text with
  | .error fault => .stop (.fault fault) output ""
  | .ok source =>
      let path := outputPath options script
      let count := toString program.listing.size
      let summary := "Wrote " ++ shown path.text ++ " (" ++ count ++ " lines)"
      .write path source output (printed summary ++ (if options.toStdout then source else ""))

/-- The plan for a script that has been run. -/
def planRun {Content : Type} (options : Options) (script : Path) (outcome : Except Fault Unit)
    (left : World Content) : Plan :=
  match outcome with
  | .error fault => scriptFailure script left.printed fault
  | .ok () =>
      match left.names.discover options.program with
      | .error fault => discoveryFailure left.printed fault
      | .ok number => writing options script left.printed (left.programs number)

variable {Content : Type}

/-- How a run begins. -/
inductive Start (Content : Type) where
  /-- It is refused. -/
  | refused (plan : Plan)
  /-- It runs the script at a path. -/
  | script (options : Options) (path : Path) (behaviour : Script Content Unit)

/-- The beginning of a run among the given files. -/
def start (host : Host Content) (environment : Environment) (tree : FileTree Content)
    (arguments : List String) : Start Content :=
  match Options.ofArguments arguments with
  | .error .help => .refused (.stop (.systemExit (.int 0)) help "")
  | .error (.misuse misuse) => .refused (.stop (.systemExit (.int 2)) "" (refusal misuse))
  | .ok options =>
      match scriptPlace environment options with
      | .error fault => .refused (.stop (.fault fault) "" "")
      | .ok place =>
          let path := Path.absolute place
          match tree.find path with
          | .error fault => .refused (.stop (.fault fault) "" "")
          | .ok none => .refused (failure "" ("Script not found: " ++ shown path.text))
          | .ok (some content) => .script options path (host.interpret path content)

/-- The world in which a script begins. -/
def outset (environment : Environment) (tree : FileTree Content) : World Content :=
  .initial ⟨environment.directory, tree⟩

/-- The plan of a run, and the files as its script has left them. -/
def plan (host : Host Content) (environment : Environment) (tree : FileTree Content)
    (arguments : List String) : Plan × Site Content :=
  match start host environment tree arguments with
  | .refused plan => (plan, (outset environment tree).toSite)
  | .script options path behaviour =>
      let (outcome, left) := behaviour.run (outset environment tree)
      (planRun options path outcome left, left.toSite)

/-- Why a file cannot hold a text: there is a surrogate in it. -/
def unwritable? (source : String) : Option Fault :=
  let chars := source.toList
  match chars.findIdx? Surrogate.isStandIn with
  | none => none
  | some first =>
      let run := (chars.drop first).takeWhile Surrogate.isStandIn
      some (.raised "UnicodeEncodeError"
        [ .str "utf-8", .str source, .int first, .int (first + run.length),
          .str "surrogates not allowed" ])

/-- Carries a plan out on files.  A file is empty before a text is written to it, and it stays so if
it cannot hold the text. -/
def Plan.carryOut (plan : Plan) (host : Host Content) (site : Site Content) : Report Content :=
  match plan with
  | .stop ending stdout stderr => { ending, stdout, stderr, tree := site.tree }
  | .write path source output summary =>
      let failed (fault : Fault) (tree : FileTree Content) : Report Content :=
        { ending := .fault fault, stdout := output, stderr := "", tree }
      match site.tree.makeDirectories site.directory path.parent with
      | .error (fault, tree) => failed fault tree
      | .ok tree =>
          match unwritable? source with
          | none =>
              match tree.write site.directory path (host.ofText source) with
              | .error fault => failed fault tree
              | .ok tree => { ending := .exit 0, stdout := output ++ summary, stderr := "", tree }
          | some fault =>
              match tree.write site.directory path (host.ofText "") with
              | .error refusal => failed refusal tree
              | .ok tree => failed fault tree

/-- Runs the command. -/
def run (host : Host Content) (environment : Environment) (tree : FileTree Content)
    (arguments : List String) : Report Content :=
  let (plan, site) := plan host environment tree arguments
  plan.carryOut host site

end PicAssembly.CommandLine
