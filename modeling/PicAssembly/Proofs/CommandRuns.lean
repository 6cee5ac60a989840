import PicAssembly.Proofs.Demands
import PicAssembly.Proofs.FileTrees
import PicAssembly.Proofs.LineBreaks
import PicAssembly.Proofs.ListingPaths

/-!
# Files that a run of the command changes

Every refusal comes before the first write: a run that does not succeed leaves every file as its
script has left it, and one that fails with an exit code says why in one message.  A run that
succeeds changes the file at the output path only, to the text of the program that its script
defines, which is ended if the script has left it open.  There is one way to fail behind the first
write: a text that no file can hold leaves the file at the output path empty.
-/

namespace PicAssembly

/-- The text of the header, with the line break behind it. -/
def Device.headerText : String :=
  "\n".intercalate (header.map Line.text) ++ "\n"

/-- Lines that begin with the header and end with the end marker have a text that does so too. -/
theorem Device.exists_text_between (body : List String) :
    ∃ middle, "\n".intercalate (header.map Line.text ++ body ++ ["\tend", ""]) =
      headerText ++ middle ++ "\tend\n" := by
  have end_text : "\n".intercalate ["\tend", ""] = "\tend\n" := by decide +kernel
  have some : header.map Line.text ≠ [] := by decide
  rw [List.append_assoc, String.intercalate_append_of_ne_nil some (by simp)]
  by_cases none : body = []
  · refine ⟨"", ?_⟩
    rw [none, List.nil_append, end_text, headerText, String.append_empty]
  · refine ⟨"\n".intercalate body ++ "\n", ?_⟩
    rw [String.intercalate_append_of_ne_nil none (List.cons_ne_nil _ _), end_text]
    simp only [headerText, String.append_assoc]

namespace Program.IsBuilt

variable {program : Program} (isBuilt : program.IsBuilt)

include isBuilt

/-- The lines of a program that has been built and is ended begin with the header and end with the
end marker. -/
theorem exists_body_ended {lines : List String} (code : program.ended.code = lines.map .str) :
    ∃ body, lines = Device.header.map Line.text ++ body ++ ["\tend", ""] := by
  obtain ⟨ends, history⟩ := isBuilt
  obtain ⟨emitted, emits⟩ := history.exists_emitted rfl
  have split := code.symm.trans emits.code_ended
  obtain ⟨front, closing, rfl, opens, closes⟩ := List.map_eq_append_iff.mp split
  obtain ⟨header, body, rfl, opens, _⟩ := List.map_eq_append_iff.mp opens
  have injective : ∀ front back : String, Value.str front = .str back → front = back :=
    fun _ _ => Value.str.inj
  have header_eq : header = Device.header.map Line.text := by
    refine (List.map_inj_right injective).mp (opens.trans ?_)
    exact (List.map_map ..).symm
  have closing_eq : closing = ["\tend", ""] := (List.map_inj_right injective).mp closes
  exact ⟨body, by rw [header_eq, closing_eq]⟩

theorem text_ended {source : String} (written : program.ended.listing.text = .ok source) :
    ∃ middle, source = Device.headerText ++ middle ++ "\tend\n" := by
  rw [Listing.text] at written
  rcases texts : Listing.texts program.ended.listing.toList 0 with fault | lines <;>
    rw [texts] at written
  · cases written
  · cases written
    obtain ⟨body, rfl⟩ := isBuilt.exists_body_ended (Listing.eq_map_of_texts texts)
    exact Device.exists_text_between body

end Program.IsBuilt

/-- Whether a tree differs from the one at a site in the file alone that a path leads to, which has
a given content. -/
def Site.WritesAt {Content : Type} (site : Site Content) (path : Path) (content : Content)
    (after : FileTree Content) : Prop :=
  ∃ place, after.locate site.directory path = .ok place ∧ site.tree.Writes place content after

namespace CommandLine

variable {Content : Type} {host : Host Content} {environment : Environment}
  {tree : FileTree Content} {arguments : List String} {options : Options} {script : Path}
  {number : Nat} {output message source : String}

/-! ## Plans -/

/-- The messages with which a run fails: there is no script, it refuses a pin, it does not define
one program, or it fails in another way. -/
inductive Complaint : String → Prop
  | notFound (place : String) : Complaint ("Script not found: " ++ shown place)
  | fault (fault : Fault) : Complaint ("Error: " ++ shown fault.message)
  | script (name : String) (fault : Fault) :
      Complaint ("Failed to run " ++ shown name ++ ": " ++ shown fault.message)

/-- A plan that does not succeed; it writes nothing, and where it has an exit code there is one
complaint on the one side and nothing but the output of the script on the other. -/
def Plan.Refuses (output : String) : Plan → Prop
  | stop ending stdout stderr =>
      ending ≠ .exit 0 ∧ (ending = .exit 1 →
        stdout = output ∧ ∃ message, Complaint message ∧ stderr = printed message)
  | write .. => False

theorem refuses_failure (complaint : Complaint message) :
    (failure output message).Refuses output :=
  ⟨nofun, fun _ => ⟨rfl, message, complaint, rfl⟩⟩

theorem refuses_scriptFailure (script : Path) (output : String) (fault : Fault) :
    (scriptFailure script output fault).Refuses output := by
  rw [scriptFailure.eq_def]
  split
  · exact ⟨nofun, nofun⟩
  · split
    · exact refuses_failure (.fault _)
    · split
      · exact ⟨nofun, nofun⟩
      · exact refuses_failure (.script _ _)

theorem refuses_discoveryFailure (output : String) (fault : Fault) :
    (discoveryFailure output fault).Refuses output := by
  rw [discoveryFailure]
  split
  · exact refuses_failure (.fault fault)
  · exact ⟨nofun, nofun⟩

theorem finished_eq_ended (program : Program) : finished program = program.ended :=
  congrArg Prod.snd (Session.outcome_finishOpen program)

/-- What a successful run prints: where it has written how many lines, and the text if it is wanted.
-/
def summary (options : Options) (script : Path) (program : Program) (source : String) : String :=
  printed ("Wrote " ++ shown (outputPath options script).text ++ " (" ++
    toString program.ended.listing.size ++ " lines)") ++ (if options.toStdout then source else "")

/-- Behind its script a run is refused, unless the script has returned and selects a program that
has a text. -/
theorem planRun_cases (options : Options) (script : Path) (outcome : Except Fault Unit)
    (left : World Content) :
    (planRun options script outcome left).Refuses left.printed ∨
    ∃ number source, outcome = .ok () ∧ left.names.discover options.program = .ok number ∧
      (left.programs number).ended.listing.text = .ok source ∧
      planRun options script outcome left =
        .write (outputPath options script) source left.printed
          (summary options script (left.programs number) source) := by
  rw [planRun.eq_def]
  split
  · exact .inl (refuses_scriptFailure _ _ _)
  · split
    · exact .inl (refuses_discoveryFailure _ _)
    · next number selects =>
        rw [writing, finished_eq_ended]
        dsimp only
        split
        · exact .inl ⟨nofun, nofun⟩
        · next source written => exact .inr ⟨number, source, rfl, selects, written, rfl⟩

/-- A run that does not come to its script is refused, and nothing has been printed. -/
theorem refuses_of_refused {plan : Plan}
    (refused : start host environment tree arguments = .refused plan) : plan.Refuses "" := by
  rw [start] at refused
  split at refused
  · cases refused
    exact ⟨nofun, nofun⟩
  · cases refused
    exact ⟨nofun, nofun⟩
  · split at refused
    · cases refused
      exact ⟨nofun, nofun⟩
    · dsimp only at refused
      split at refused
      · cases refused
        exact ⟨nofun, nofun⟩
      · cases refused
        exact refuses_failure (.notFound _)
      · cases refused

/-- A script that is run is the file at its path. -/
theorem find_of_start {behaviour : Script Content Unit}
    (starts : start host environment tree arguments = .script options script behaviour) :
    Options.ofArguments arguments = .ok options ∧
      (scriptPlace environment options).map Path.absolute = .ok script ∧
      ∃ content, tree.find script = .ok (some content) := by
  rw [start] at starts
  split at starts
  · cases starts
  · cases starts
  · next reads =>
      split at starts
      · cases starts
      · next place found =>
          dsimp only at starts
          split at starts
          · cases starts
          · cases starts
          · next content held =>
              cases starts
              refine ⟨reads, ?_, content, held⟩
              rw [found]
              rfl

/-- A script that is found is run as the host understands it. -/
theorem start_of_find {place : List String} {content : Content}
    (reads : Options.ofArguments arguments = .ok options)
    (found : scriptPlace environment options = .ok place)
    (held : tree.find (.absolute place) = .ok (some content)) :
    start host environment tree arguments =
      .script options (.absolute place) (host.interpret (.absolute place) content) := by
  rw [start, reads]
  dsimp only
  rw [found]
  dsimp only
  rw [held]

theorem parts_ne_nil_of_start {behaviour : Script Content Unit}
    (starts : start host environment tree arguments = .script options script behaviour) :
    script.parts ≠ [] := by
  obtain ⟨_, place_eq, content, held⟩ := find_of_start starts
  intro root
  have script_eq : script = .absolute [] := by
    cases found : scriptPlace environment options with
    | error fault =>
        rw [found] at place_eq
        cases place_eq
    | ok place =>
        rw [found] at place_eq
        cases place_eq
        exact congrArg Path.absolute root
  rw [script_eq] at held
  cases held

/-! ## Runs -/

/-- The world as the script of a run has left it; without a script it is the one from the start. -/
def leftWorld (host : Host Content) (environment : Environment) (tree : FileTree Content)
    (arguments : List String) : World Content :=
  match start host environment tree arguments with
  | .refused _ => outset environment tree
  | .script _ _ behaviour => (behaviour.run (outset environment tree)).2

theorem leftWorld_of_start {behaviour : Script Content Unit}
    (starts : start host environment tree arguments = .script options script behaviour) :
    leftWorld host environment tree arguments = (behaviour.run (outset environment tree)).2 := by
  rw [leftWorld, starts]

/-- A run that has performed its script up to the end and selects a program, which is known by its
number. -/
structure Completes (host : Host Content) (environment : Environment) (tree : FileTree Content)
    (arguments : List String) (options : Options) (script : Path) (number : Nat) : Prop where
  returns : ∃ behaviour,
    start host environment tree arguments = .script options script behaviour ∧
      (behaviour.run (outset environment tree)).1 = .ok ()
  selects : (leftWorld host environment tree arguments).names.discover options.program = .ok number

theorem completes_of_start {behaviour : Script Content Unit}
    (starts : start host environment tree arguments = .script options script behaviour)
    (returns : (behaviour.run (outset environment tree)).1 = .ok ())
    (selects : (behaviour.run (outset environment tree)).2.names.discover options.program =
      .ok number) :
    Completes host environment tree arguments options script number :=
  ⟨⟨behaviour, starts, returns⟩, by rw [leftWorld_of_start starts, selects]⟩

/-- A plan is either a refusal, behind what the script has printed, or the one of writing the text
of the selected program. -/
theorem plan_cases (host : Host Content) (environment : Environment) (tree : FileTree Content)
    (arguments : List String) :
    let left := leftWorld host environment tree arguments
    (∃ refusal, refusal.Refuses left.printed ∧
      plan host environment tree arguments = (refusal, left.toSite)) ∨
    ∃ options script number source,
      Completes host environment tree arguments options script number ∧
      (left.programs number).ended.listing.text = .ok source ∧
      plan host environment tree arguments =
        (.write (outputPath options script) source left.printed
          (summary options script (left.programs number) source), left.toSite) := by
  intro world
  cases started : start host environment tree arguments with
  | refused refusal =>
      have world_eq : world = outset environment tree := by
        simp only [world, leftWorld, started]
      refine .inl ⟨refusal, ?_, ?_⟩
      · rw [world_eq]
        exact refuses_of_refused started
      · rw [plan, started, world_eq]
  | script options script behaviour =>
      have world_eq : world = (behaviour.run (outset environment tree)).2 :=
        leftWorld_of_start started
      have planned : plan host environment tree arguments =
          (planRun options script (behaviour.run (outset environment tree)).1 world,
            world.toSite) := by
        rw [plan, started, world_eq]
      rw [planned]
      rcases planRun_cases options script (behaviour.run (outset environment tree)).1 world with
        refuses | ⟨number, source, returned, selects, written, writes⟩
      · exact .inl ⟨_, refuses, rfl⟩
      · refine .inr ⟨options, script, number, source, ?_, written, by rw [writes]⟩
        exact ⟨⟨behaviour, started, returned⟩, selects⟩

/-- A run that selects a program with a text is going to write it. -/
theorem Completes.plan_eq
    (completes : Completes host environment tree arguments options script number)
    (prints : ((leftWorld host environment tree arguments).programs number).ended.listing.text =
      .ok source) :
    plan host environment tree arguments =
      (.write (outputPath options script) source
        (leftWorld host environment tree arguments).printed
        (summary options script ((leftWorld host environment tree arguments).programs number)
          source), (leftWorld host environment tree arguments).toSite) := by
  obtain ⟨behaviour, starts, returned⟩ := completes.returns
  have selects := completes.selects
  rw [leftWorld_of_start starts] at selects prints ⊢
  rw [plan, starts]
  dsimp only
  rw [returned, planRun.eq_def]
  dsimp only
  rw [selects]
  dsimp only
  rw [writing, finished_eq_ended, prints]
  rfl

theorem run_of_plan {chosen : Plan} {site : Site Content}
    (planned : plan host environment tree arguments = (chosen, site)) :
    run host environment tree arguments = chosen.carryOut host site := by
  rw [run, planned]

/-- Carrying a refusal out changes nothing. -/
theorem carryOut_of_refuses (host : Host Content) {plan : Plan} (refuses : plan.Refuses output)
    (site : Site Content) :
    ∃ ending stdout stderr, plan.carryOut host site = ⟨ending, stdout, stderr, site.tree⟩ ∧
      ending ≠ .exit 0 ∧ (ending = .exit 1 →
        stdout = output ∧ ∃ message, Complaint message ∧ stderr = printed message) := by
  cases plan with
  | stop ending stdout stderr => exact ⟨ending, stdout, stderr, rfl, refuses.1, refuses.2⟩
  | write => exact refuses.elim

/-- Writing fails without a change of any file, it leaves the file at the path empty, as that cannot
hold the text, or it changes that file to the text. -/
theorem carryOut_write_cases (host : Host Content) (site : Site Content) (path : Path)
    (source output summary : String) :
    let report := (Plan.write path source output summary).carryOut host site
    (∃ fault after, report = ⟨.fault fault, output, "", after⟩ ∧ after.files = site.tree.files) ∨
    (∃ fault after, unwritable? source = some fault ∧
      report = ⟨.fault fault, output, "", after⟩ ∧ site.WritesAt path (host.ofText "") after) ∨
    ∃ after, unwritable? source = none ∧ report = ⟨.exit 0, output ++ summary, "", after⟩ ∧
      site.WritesAt path (host.ofText source) after := by
  have made := site.tree.files_makeDirectories site.directory path.parent
  rw [Plan.carryOut]
  split
  · next fault after fails =>
      rw [fails] at made
      exact .inl ⟨fault, after, rfl, made⟩
  · next middle makes =>
      rw [makes] at made
      have at_path {content : Content} {after : FileTree Content}
          (wrote : middle.write site.directory path content = .ok after) :
          site.WritesAt path content after := by
        obtain ⟨place, _, located, writes⟩ := FileTree.exists_of_write wrote
        refine ⟨place, located, writes.written, fun other differs => ?_⟩
        exact (writes.others other differs).trans (FileTree.content?_of_files made other)
      dsimp only
      split
      · next writable =>
          split
          · next fault _ => exact .inl ⟨fault, middle, rfl, made⟩
          · next after wrote => exact .inr (.inr ⟨after, writable, rfl, at_path wrote⟩)
      · next fault unwritable =>
          split
          · next refusal _ => exact .inl ⟨refusal, middle, rfl, made⟩
          · next after wrote => exact .inr (.inl ⟨fault, after, unwritable, rfl, at_path wrote⟩)

/-- A run whose script is confined to programs, if it has one. -/
def IsConfined (host : Host Content) (environment : Environment) (tree : FileTree Content)
    (arguments : List String) : Prop :=
  ∀ options script behaviour,
    start host environment tree arguments = .script options script behaviour →
      behaviour.isConfined (outset environment tree) = true

/-- A confined script leaves the files and the directory as they are, prints nothing, and builds
its programs. -/
theorem leftWorld_of_isConfined (confined : IsConfined host environment tree arguments) :
    let left := leftWorld host environment tree arguments
    left.toSite = ⟨environment.directory, tree⟩ ∧ left.printed = "" ∧
      ∀ number, (left.programs number).IsBuilt := by
  intro world
  cases started : start host environment tree arguments with
  | refused refusal =>
      have world_eq : world = outset environment tree := by
        simp only [world, leftWorld, started]
      rw [world_eq]
      exact ⟨rfl, rfl, fun _ => Program.isBuilt_initial⟩
  | script options script behaviour =>
      have world_eq : world = (behaviour.run (outset environment tree)).2 :=
        leftWorld_of_start started
      have isConfined := confined _ _ _ started
      obtain ⟨site, printed⟩ := Script.sameOutside_run isConfined
      rw [world_eq]
      refine ⟨site, printed, fun number => ?_⟩
      rw [Script.programs_run]
      exact Program.isBuilt_initial.afterAll (Script.isBuilding_demands isConfined number)

section Samples

/-- A host for texts, some of which it knows as scripts. -/
def Host.knowing (scripts : List (String × Script String Unit)) : Host String where
  ofText text := text
  interpret path content :=
    (scripts.lookup content).getD (.raise (.notScript "invalid syntax" path.name 1))

theorem Host.interpret_knowing (text : String) (script : Script String Unit) (path : Path) :
    (knowing [(text, script)]).interpret path text = script := by
  simp [knowing]

/-- The type of programs, as a script brings it in. -/
def programType : Binding Nat :=
  .value (.thing (.type "Program" "pypic.core.program.context.Program"))

/-- The function that replays commands, as a script brings it in. -/
def replayFunction : Binding Nat :=
  .value (.thing (.named "function" "replay" "<function replay>"))

/-- The text of a script that repeats an assignment. -/
def loopText : String :=
  "from pypic import Program\nprog = Program()\nwith prog.loop('main'):\n" ++
    "    prog.set('foo', 0x23)\n"

/-- What that script does. -/
def loopScript : Script String Unit :=
  .bind "Program" programType <| .create fun number => .bind "prog" (.program number) do
    let scope ← .demand number (.member "loop" (by decide) (.ofList [.str "main"]))
    .within number scope do
      let _ ← .demand number (.member "set" (by decide) (.ofList [.str "foo", .int 35]))
      pure ()

namespace Ending

/-- The exit code of a run, if it ends with one. -/
def code? : Ending → Option Nat
  | exit code => some code
  | _ => none

/-- Whether a run ends with a fault. -/
def isFault : Ending → Bool
  | fault _ => true
  | _ => false

theorem eq_exit_of_code? {ending : Ending} {code : Nat} (ends : ending.code? = some code) :
    ending = .exit code := by
  cases ending with
  | exit other => rw [Option.some.inj ends]
  | systemExit | fault => cases ends

theorem exists_of_isFault {ending : Ending} (fails : ending.isFault = true) :
    ∃ reason, ending = .fault reason := by
  cases ending with
  | fault reason => exact ⟨reason, rfl⟩
  | exit | systemExit => cases fails

end Ending

/-- A directory with that script alone. -/
def loopTree : FileTree String :=
  ⟨[(["home", "script.py"], loopText)], [["home"]]⟩

/-- A run of the script in its directory. -/
def loopReport : Report String :=
  run (.knowing [(loopText, loopScript)]) ⟨["home"], []⟩ loopTree ["./script.py"]

theorem loopReport_evaluated :
    loopReport.ending.code? = some 0 ∧
      loopReport.stdout = "Wrote /home/script.asm (20 lines)\n" ∧
      (loopReport.tree.content? ["home", "script.asm"]).isSome := by
  decide +kernel

/-- The text of a script that jumps to half of a character. -/
def halfText : String :=
  "from pypic import Program\np = Program()\np.replay([['jump', '\\ud800']])\n"

/-- What that script does. -/
def halfScript : Script String Unit :=
  .bind "Program" programType <| .create fun number => .bind "p" (.program number) do
    let half := String.singleton (Char.ofNat Surrogate.firstStandIn)
    let _ ← .demand number (.member "replay" (by decide)
      (.ofList [.list [.list [.str "jump", .str half]]]))
    pure ()

/-- A directory with that script and an older listing. -/
def halfTree : FileTree String :=
  ⟨[(["home", "s.py"], halfText), (["home", "s.asm"], "old")], [["home"]]⟩

/-- A run of the script in its directory. -/
def halfReport : Report String :=
  run (.knowing [(halfText, halfScript)]) ⟨["home"], []⟩ halfTree ["s.py"]

theorem halfReport_evaluated :
    halfReport.ending.isFault ∧ halfReport.tree.content? ["home", "s.asm"] = some "" := by
  decide +kernel

end Samples

end CommandLine

end PicAssembly
