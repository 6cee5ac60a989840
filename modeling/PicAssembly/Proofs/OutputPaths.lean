import PicAssembly.Proofs.CommandRuns

/-!
# Scripts beside their listings

A run to which no output path is given writes beside its script, to a path that differs in the
suffix of the name.  The two paths are the same only if the script has the suffix of a listing
itself, so a script of any other name outlives its own run.
-/

namespace PicAssembly

namespace Path

/-- A name that is replaced ends in the new suffix. -/
theorem exists_replaceSuffix (name suffix : List Char) :
    ∃ front, replaceSuffix name suffix = front ++ suffix := by
  rw [replaceSuffix]
  split
  · exact ⟨name, rfl⟩
  · exact ⟨_, rfl⟩

/-- Parts that have been collapsed lead downwards only. -/
theorem not_mem_collapse (parts : List String) : ".." ∉ collapse parts := by
  have kept : ∀ above : List String, ".." ∉ above → ".." ∉ parts.foldl
      (fun above part => if part = ".." then above.drop 1 else part :: above) above := by
    induction parts with
    | nil => exact fun above down => down
    | cons part parts induction =>
        intro above down
        rw [List.foldl_cons]
        apply induction
        split
        · exact fun member => down (List.mem_of_mem_drop member)
        · next differs =>
            rw [List.mem_cons]
            exact not_or.mpr ⟨Ne.symm differs, down⟩
  rw [collapse, List.mem_reverse]
  exact kept [] List.not_mem_nil

theorem not_mem_withSuffix {path : Path} (down : ".." ∉ path.parts) :
    ".." ∉ (path.withSuffix ".asm").parts := by
  rw [withSuffix, List.mem_append, List.mem_singleton]
  refine not_or.mpr ⟨fun member => down (List.dropLast_sublist _ |>.mem member), fun same => ?_⟩
  obtain ⟨front, replaced⟩ := exists_replaceSuffix path.name.toList ".asm".toList
  have length := congrArg String.length same
  rw [replaced] at length
  have short : "..".length = 2 := rfl
  have suffix : ".asm".toList.length = 4 := rfl
  simp only [String.length_ofList, List.length_append, short, suffix] at length
  omega

end Path

namespace FileTree

variable {Content : Type} {tree : FileTree Content} {parts start place directory : List String}

/-- A walk that never leads upwards ends where its parts say. -/
theorem eq_append_of_walk (down : ".." ∉ parts) (walks : tree.walk start parts = .ok place) :
    place = start ++ parts := by
  induction parts generalizing start with
  | nil =>
      cases walks
      exact (List.append_nil _).symm
  | cons part parts induction =>
      obtain ⟨differs, rest⟩ := not_or.mp (mt List.mem_cons.mpr down)
      rw [walk] at walks
      split at walks
      · split at walks
        · cases walks
        · rw [if_neg (Ne.symm differs)] at walks
          rw [induction rest walks, List.append_assoc, List.singleton_append]
      · cases walks
      · cases walks

theorem eq_parts_of_locate {path : Path} (isAbsolute : path.isAbsolute)
    (down : ".." ∉ path.parts) (located : tree.locate directory path = .ok place) :
    place = path.parts := by
  rw [locate, if_pos isAbsolute] at located
  split at located
  · cases located
  · exact eq_append_of_walk down located

end FileTree

namespace CommandLine

variable {Content : Type} {environment : Environment} {arguments : List String}
  {options : Options} {place : List String}

theorem not_mem_of_scriptPlace (found : scriptPlace environment options = .ok place) :
    ".." ∉ place := by
  rw [scriptPlace] at found
  obtain ⟨path, _, checked⟩ := exists_of_bind_ok found
  split at checked
  · cases checked
  · cases checked
    exact Path.not_mem_collapse _

/-- What is written at the path beside a file leaves that file alone, unless the paths are the same:
the path leads downwards only, so it leads to its own parts. -/
theorem content?_of_writesAt_beside {site : Site Content} {content : Content}
    {after : FileTree Content} (down : ".." ∉ place)
    (writes : site.WritesAt ((Path.absolute place).withSuffix ".asm") content after) :
    after.content? place = site.tree.content? place ∨
      (Path.absolute place).withSuffix ".asm" = .absolute place := by
  obtain ⟨written, located, writes⟩ := writes
  have written_eq := FileTree.eq_parts_of_locate rfl (Path.not_mem_withSuffix down) located
  by_cases same : place = written
  · have parts_eq : ((Path.absolute place).withSuffix ".asm").parts = place :=
      written_eq ▸ same.symm
    exact .inr (Path.mk.injEq .. |>.mpr ⟨rfl, parts_eq⟩)
  · exact .inl (writes.others place same)

/-- Without an output path a run leaves the file of its script as the script has left it, or it
writes to that file: the paths are the same then, and the run returns with exit code zero or fails.
-/
theorem content?_run_of_default (host : Host Content) (tree : FileTree Content)
    (reads : Options.ofArguments arguments = .ok options)
    (byDefault : options.output.getD "" = "")
    (found : scriptPlace environment options = .ok place) :
    let report := run host environment tree arguments
    let left := leftWorld host environment tree arguments
    report.tree.content? place = left.tree.content? place ∨
      (report.ending = .exit 0 ∨ ∃ fault, report.ending = .fault fault) ∧
        outputPath options (.absolute place) = .absolute place := by
  intro report left
  rcases plan_cases host environment tree arguments with
    ⟨refusal, refuses, planned⟩ | ⟨others, script, number, source, completes, _, planned⟩
  · obtain ⟨ending, stdout, stderr, carried, _⟩ :=
      carryOut_of_refuses host refuses left.toSite
    have reported : report = ⟨ending, stdout, stderr, left.tree⟩ :=
      (run_of_plan planned).trans carried
    rw [reported]
    exact .inl rfl
  · obtain ⟨_, starts, _⟩ := completes.returns
    obtain ⟨readsOthers, finds, _⟩ := find_of_start starts
    obtain rfl : others = options := Except.ok.inj (readsOthers.symm.trans reads)
    rw [found] at finds
    obtain rfl : .absolute place = script := Except.ok.inj finds
    have path_eq : outputPath others (.absolute place) = (Path.absolute place).withSuffix ".asm" :=
      outputPath_of_default byDefault _
    have down := not_mem_of_scriptPlace found
    have carried := run_of_plan planned
    rw [path_eq] at carried ⊢
    rcases carryOut_write_cases host left.toSite ((Path.absolute place).withSuffix ".asm") source
      left.printed (summary others (.absolute place) (left.programs number) source) with
        ⟨fault, after, failed, same⟩ | ⟨fault, after, _, failed, writes⟩ |
          ⟨after, _, succeeded, writes⟩
    · have reported : report = ⟨.fault fault, left.printed, "", after⟩ := carried.trans failed
      rw [reported]
      exact .inl (FileTree.content?_of_files same place)
    · have reported : report = ⟨.fault fault, left.printed, "", after⟩ := carried.trans failed
      rw [reported]
      exact (content?_of_writesAt_beside down writes).imp_right fun same =>
        ⟨.inr ⟨fault, rfl⟩, same⟩
    · have reported : report = _ := carried.trans succeeded
      rw [reported]
      exact (content?_of_writesAt_beside down writes).imp_right fun same => ⟨.inl rfl, same⟩

/-- A run to which no output path is given has a path other than that of its script to write to,
unless the script has the suffix of a listing.  Then it leaves the file of the script as the script
has left it, and so does every run that returns with another exit code than zero or exits on
request.  A confined script leaves all files as they are. -/
theorem run_keeps_script (host : Host Content) (tree : FileTree Content)
    (reads : Options.ofArguments arguments = .ok options)
    (byDefault : options.output.getD "" = "")
    (found : scriptPlace environment options = .ok place) :
    let script := Path.absolute place
    let report := run host environment tree arguments
    let left := leftWorld host environment tree arguments
    (∀ content, tree.find script = .ok (some content) → tree.content? place = some content) ∧
    (outputPath options script = script ↔ script.HasSuffix ".asm") ∧
    (¬ script.HasSuffix ".asm" → report.tree.content? place = left.tree.content? place) ∧
    (report.ending ≠ .exit 0 → (∀ fault, report.ending ≠ .fault fault) →
      report.tree.content? place = left.tree.content? place) ∧
    (IsConfined host environment tree arguments → left.tree = tree) := by
  intro script report left
  have path_eq : outputPath options script = script ↔ script.HasSuffix ".asm" := by
    rw [outputPath_of_default byDefault, Path.withSuffix_eq_self_iff]
  have changes := content?_run_of_default host tree reads byDefault found
  refine ⟨fun content held => ?_, path_eq, fun other => ?_, fun fails returns => ?_,
    fun confined => congrArg Site.tree (leftWorld_of_isConfined confined).1⟩
  · rw [FileTree.find] at held
    split at held
    · next reached located =>
        have reached_eq : reached = place :=
          FileTree.eq_parts_of_locate rfl (not_mem_of_scriptPlace found) located
        rw [← reached_eq]
        exact Except.ok.inj held
    · cases held
    · cases held
  · exact changes.resolve_right fun same => other (path_eq.mp same.2)
  · refine changes.resolve_right fun same => ?_
    rcases same.1 with succeeds | ⟨fault, ends⟩
    · exact fails succeeds
    · exact returns fault ends

section Samples

/-- The text of a script that makes a program and leaves it as it is. -/
def plainText : String :=
  "from pypic import Program\np = Program()\n"

/-- What that script does. -/
def plainScript : Script String Unit :=
  .bind "Program" programType <| .create fun number => .bind "p" (.program number) <| .finish ()

/-- A script that is named by a roundabout path and has a suffix of its own is left as it is, and
the listing stands beside it. -/
theorem run_keeps_script_of_version :
    let host := Host.knowing [(plainText, plainScript)]
    let environment : Environment := ⟨["home"], []⟩
    let tree : FileTree String :=
      ⟨[(["home", "lib", "blink.v2"], plainText)], [["home"], ["home", "lib"]]⟩
    let report := run host environment tree ["lib/../lib/./blink.v2"]
    (report.tree.content? ["home", "lib", "blink.asm"]).isSome ∧
      report.tree.content? ["home", "lib", "blink.v2"] = some plainText := by
  intro host environment tree report
  have written : (report.tree.content? ["home", "lib", "blink.asm"]).isSome = true := by
    decide +kernel
  have reads : Options.ofArguments ["lib/../lib/./blink.v2"] =
      .ok ⟨"lib/../lib/./blink.v2", none, none, false⟩ := by rfl
  have found : scriptPlace environment ⟨"lib/../lib/./blink.v2", none, none, false⟩ =
      .ok ["home", "lib", "blink.v2"] := by rfl
  have other : ¬ (Path.absolute ["home", "lib", "blink.v2"]).HasSuffix ".asm" := by
    rw [← Path.withSuffix_eq_self_iff]
    decide +kernel
  have kept := (run_keeps_script host tree reads rfl found).2.2.1 other
  exact ⟨written, kept⟩

/-- A script with the suffix of a listing is lost, although it touches no file itself. -/
theorem exists_script_overwritten :
    ∃ (host : Host String) (environment : Environment) (tree : FileTree String)
      (arguments : List String) (options : Options) (place : List String),
      Options.ofArguments arguments = .ok options ∧ options.output = none ∧
      scriptPlace environment options = .ok place ∧
      tree.find (.absolute place) = .ok (tree.content? place) ∧ (tree.content? place).isSome ∧
      IsConfined host environment tree arguments ∧
      outputPath options (.absolute place) = .absolute place ∧
      (run host environment tree arguments).tree.content? place ≠ tree.content? place := by
  let host := Host.knowing [(plainText, plainScript)]
  let environment : Environment := ⟨["home"], []⟩
  let tree : FileTree String := ⟨[(["home", "blink.asm"], plainText)], [["home"]]⟩
  have confined : IsConfined host environment tree ["blink.asm"] := by
    intro options script behaviour starts
    cases starts
    rfl
  refine ⟨host, environment, tree, ["blink.asm"], ⟨"blink.asm", none, none, false⟩,
    ["home", "blink.asm"], rfl, rfl, rfl, rfl, rfl, confined, rfl, ?_⟩
  decide +kernel

end Samples

end CommandLine

end PicAssembly
