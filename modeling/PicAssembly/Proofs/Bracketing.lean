import PicAssembly.Proofs.Balancing
import PicAssembly.Proofs.ConstantsScopes
import PicAssembly.Proofs.Finalization
import PicAssembly.Proofs.Replay

/-!
# Bracketing

As long as no fault leaves a constants block that has been entered, the lines that open and close
constants blocks take turns at every place of a structured run, and none of them stands behind the
end of the program.  A constants block that is replayed records a line for each of its names between
the two.
-/

namespace PicAssembly

open CommandTable
open Program (Bracketed pairs opening closing)
open Session (Has brings_build build upshot)

namespace Move

variable {move : Move} {moves body rest : List Move} {session entered point : Session}
  {frame : Frame} {frames : List Frame} {blocks : List ConstantsBlock}

theorem balances (structured : move.isStructured = true) (allowed : move.Allowed .flushBuilding) :
    move.Balances := by
  cases move with
  | step inner => exact balances_step structured allowed
  | command inner => exact balances_command allowed
  | declaration owner name => exact balances_declaration owner name

/-- A frame opens at most the bracket of its scope. -/
theorem Opens.bracketed_entered (opens : move.Opens session frame body entered)
    (settles : Settles (move :: moves) session) (allowed : move.Allowed .flushBuilding)
    (valid : session.Allowed .flushBuilding) (bracketed : session.program.Bracketed blocks) :
    entered.program.Bracketed (frame.opens ++ blocks) := by
  obtain ⟨_, _, scopeAllowed⟩ := opens.reaches allowed valid
  cases opens with
  | within requests enters =>
      have isAllowed := scopeAllowed _ rfl
      have requested := bracketed_request allowed.1 (settles.inner (.performs _)) valid bracketed
      rw [Session.upshot_ok requests] at requested
      exact (Session.brings_enter_of (Scope.brings_bracketed isAllowed)).of_ok requested enters
  | apply kept enters =>
      have isAllowed := scopeAllowed _ rfl
      exact (Session.brings_enter_of (Scope.brings_bracketed isAllowed)).of_ok bracketed enters
  | whole | tolerate | performs => exact bracketed
  | block enters =>
      have isAllowed := scopeAllowed _ rfl
      exact (brings_build (Scope.brings_bracketed isAllowed)).of_ok bracketed enters
  | constants makes enters =>
      have isAllowed := scopeAllowed _ rfl
      have made := (brings_build (Bracketed.stable blocks).makeConstants).of_ok bracketed makes
      exact (brings_build (Scope.brings_bracketed isAllowed)).of_ok made enters

/-- At a place the brackets are pairs but for those of the constants blocks around it. -/
theorem ComesTo.bracketed (comes : ComesTo moves session frames rest point)
    (structured : ∀ move ∈ moves, move.isStructured = true)
    (allowed : ∀ move ∈ moves, move.Allowed .flushBuilding) (settles : Settles moves session)
    (valid : session.Allowed .flushBuilding) (bracketed : session.program.Bracketed blocks) :
    point.program.Bracketed (frames.reverse.flatMap Frame.opens ++ blocks) ∧
      Settles rest point := by
  induction comes generalizing blocks with
  | here moves session => exact ⟨bracketed, settles⟩
  | later runs _ induction =>
      obtain ⟨head, tail⟩ := List.forall_mem_cons.mp structured
      obtain ⟨headAllowed, tailAllowed⟩ := List.forall_mem_cons.mp allowed
      obtain ⟨ends, follows⟩ := exists_follows_run headAllowed
      obtain ⟨reached, _⟩ := Session.Reaches.of_ok follows valid runs
      have ran := balances head headAllowed _ _ _ settles valid bracketed
      rw [Session.upshot_ok runs] at ran
      exact induction tail tailAllowed (settles.later runs) reached.valid ran
  | inner opens _ induction =>
      obtain ⟨head, _⟩ := List.forall_mem_cons.mp structured
      obtain ⟨headAllowed, _⟩ := List.forall_mem_cons.mp allowed
      obtain ⟨reached, inner, _⟩ := opens.reaches headAllowed valid
      have first := opens.bracketed_entered settles headAllowed valid bracketed
      obtain ⟨_, innerStructured⟩ := opens.inside head bracketed.inside
      have onwards := induction innerStructured inner (settles.inner opens) reached.valid first
      rw [List.reverse_cons, List.flatMap_append, List.flatMap_singleton, List.append_assoc]
      exact onwards

end Move

/-- Behind the end marker of a program stands its blank line and nothing else. -/
theorem History.eq_blank_of_end {program : Program} {ends : Nat} {front back : List Value}
    (history : History .flushBuilding .initial ends program)
    (ended : program.code = front ++ .str "\tend" :: back) : back = [.str ""] := by
  have isEnd : Pins.isWord Line.endMarker (.str "\tend") = true := by decide
  have markers : program.endMarkers = ends := by
    rw [history.endMarkers_of_building, Program.endMarkers_initial, Nat.zero_add]
  have final : program.isFinal.toNat = ends := by
    rw [history.isFinal_of_building]
    exact Nat.zero_add _
  have marked : 0 < program.endMarkers := by
    rw [Program.endMarkers, ended]
    exact List.countP_pos_iff.mpr ⟨_, List.mem_append_cons_self, isEnd⟩
  have isFinal : program.isFinal = true := by
    rw [markers, ← final] at marked
    cases state : program.isFinal with
    | true => rfl
    | false => simp [state] at marked
  obtain ⟨lines, closes⟩ := history.closing_suffix rfl isFinal
  -- The program has one end marker only, so the marker of its closing lines is the given one.
  have single : program.endMarkers ≤ 1 := by
    rw [markers, ← final]
    exact Bool.toNat_le _
  have none : lines.countP (Pins.isWord Line.endMarker) = 0 := by
    rw [Program.endMarkers, ← closes, List.countP_append, List.countP_cons_of_pos isEnd] at single
    omega
  rw [ended] at closes
  rcases List.append_eq_append_iff.mp closes with ⟨between, _, rest⟩ | ⟨between, split, rest⟩
  · rcases between with _ | ⟨first, _ | ⟨second, others⟩⟩
    · simpa using rest.symm
    · simp at rest
    · simp at rest
  · cases between with
    | nil => simpa using rest
    | cons first others =>
        have same : first = .str "\tend" := (List.cons_eq_cons.mp rest).1.symm
        rw [split, same] at none
        have unmarked := List.countP_eq_zero.mp none _ List.mem_append_cons_self
        exact absurd isEnd unmarked

/-- The lines that open and close constants blocks, in a program at a place with the given frames
around it. -/
structure Program.Alternates (frames : List Frame) (program : Program) : Prop where
  /-- Outside of the constants blocks every opening line has its closing line. -/
  outside : (∀ owner, .scope (.constants owner) ∉ frames) → ∃ count, program.brackets = pairs count
  /-- Inside of one of them another opening line stands behind the pairs. -/
  inside : ∀ owner, .scope (.constants owner) ∈ frames →
    ∃ count, program.brackets = pairs count ++ [opening]
  /-- Outside of the constants blocks the program has as many opening as closing lines. -/
  balanced : (∀ owner, .scope (.constants owner) ∉ frames) →
    program.code.countP (Pins.isWord "\tcblock 0x08") = program.code.countP (Pins.isWord "\tendc")
  /-- No closing line stands behind the end marker. -/
  ended : ∀ front back, program.code = front ++ .str "\tend" :: back → closing ∉ back

namespace Program

variable {program : Program} {frames : List Frame}

/-- All lines that open constants blocks are brackets, and so are all that close them. -/
theorem countP_brackets (program : Program) {word : String}
    (either : word = "\tcblock 0x08" ∨ word = "\tendc") :
    program.brackets.countP (Pins.isWord word) = program.code.countP (Pins.isWord word) := by
  rw [brackets, List.countP_filter]
  congr 1
  funext line
  rw [isBracket]
  rcases either with rfl | rfl
  · cases Pins.isWord "\tcblock 0x08" line <;> rfl
  · cases Pins.isWord "\tendc" line <;> simp

theorem Bracketed.alternates {ends : Nat}
    (bracketed : program.Bracketed (frames.reverse.flatMap Frame.opens))
    (history : History .flushBuilding .initial ends program) : program.Alternates frames := by
  obtain ⟨count, paired⟩ := bracketed.paired
  have inStep := bracketed.inside.inStep
  rw [← bracketed.inside.opened] at paired
  have none : (∀ owner, .scope (.constants owner) ∉ frames) → program.brackets = pairs count := by
    intro outside
    have noneOpen : program.openBlocks = [] := by
      refine List.eq_nil_iff_forall_not_mem.mpr fun owner opened => ?_
      exact outside owner ((inStep.opened owner).mp opened)
    rw [paired, noneOpen, List.map_nil, List.append_nil]
  refine ⟨fun outside => ⟨count, none outside⟩, fun owner member => ⟨count, ?_⟩, fun outside => ?_,
    fun front back ended => ?_⟩
  · have opened := (inStep.opened owner).mpr member
    obtain ⟨first, others, blocks⟩ := List.exists_cons_of_ne_nil (List.ne_nil_of_mem opened)
    have single := inStep.single
    have one : others = [] := by
      rw [blocks, List.length_cons] at single
      exact List.length_eq_zero_iff.mp (by omega)
    rw [paired, blocks, one, List.map_singleton]
  · rw [← countP_brackets program (.inl rfl), ← countP_brackets program (.inr rfl), none outside]
    exact countP_pairs count
  · rw [history.eq_blank_of_end ended]
    simp [closing]

/-- A program behind a constants block that has been replayed from a body: the block has opened and
closed, and in between it has recorded a line for each name of the body, in order. -/
def Declares (body : Value) (before after : Program) : Prop :=
  ∃ (declarations : List Value) (names : List String),
    body.elements? = some declarations ∧
    (declarations.map parts? = names.map fun name => some (name, [])) ∧
    after.code = before.code ++
      (opening :: (names.map fun name => .str ("\t\t" ++ name)) ++ [closing, .str ""])

end Program

/-- A constants block succeeds on open programs only whose nesting guard is free, and then it has
recorded its names. -/
theorem Command.declares_of_constants {body : Value} {before after : Program}
    (free : before.IsFree) (isOpen : before.isFinal = false)
    (succeeds : (constants (constantNames body)).perform.run before = (.ok (), after)) :
    before.Declares body after := by
  obtain ⟨declarations, names, items, declared⟩ := names_of_constants succeeds
  refine ⟨declarations, names, items, declared, ?_⟩
  obtain ⟨_, reached, runs, adds, _⟩ := adds_constants names before isOpen free
  rw [constantNames_of_elements? items, map_constantName_eq.mpr declared, runs] at succeeds
  cases succeeds
  rw [adds.code]
  simp [opening, closing]

namespace Move

variable {frames : List Frame} {rest : List Move} {point : Session}

/-- In a structured run on a new program in which no fault leaves a constants block that has been
entered, and in which no name of a labelled block starts with a tab, the brackets alternate at every
place, and also where the moves that are left there have ended or failed.  A constants block that is
replayed at the place, once it is entered, succeeds and records a line for each of its names. -/
theorem constants_bracketed (steps : List Step) (structured : Step.areStructured steps = true)
    (allowed : Step.AllAllowed .flushBuilding steps)
    (settles : Settles (steps.map .step) .initial)
    (comes : ComesTo (steps.map .step) .initial frames rest point) :
    point.program.Alternates frames ∧
    (outcome (runAll rest) point).2.program.Alternates frames ∧
    ∀ body later owner declarations entered,
      rest = .command (.constants (Command.constantNames body)) :: later →
      (Move.command (.constants (Command.constantNames body))).Opens point
        (.scope (.constants owner)) declarations entered →
      ∃ left, (Command.constants (Command.constantNames body)).perform.run point.program =
        (.ok (), left) ∧ point.program.Declares body left := by
  have movesStructured := isStructured_steps structured
  have movesAllowed := allowed_steps allowed
  obtain ⟨bracketed, settled⟩ :=
    comes.bracketed movesStructured movesAllowed settles nofun Bracketed.initial
  obtain ⟨_, stillStructured⟩ := comes.inside movesStructured Program.inside_initial
  obtain ⟨reached, stillAllowed⟩ := comes.reaches movesAllowed nofun
  rw [List.append_nil] at bracketed
  have balanced : ∀ move ∈ rest, move.Balances := fun move member =>
    balances (stillStructured move member) (stillAllowed move member)
  have ended := bracketed_runAll balanced stillAllowed settled reached.valid bracketed
  obtain ⟨_, follows⟩ := exists_follows_runAll stillAllowed
  obtain ⟨_, before⟩ := reached.history
  obtain ⟨_, after⟩ := (reached.trans (.of_follows follows reached.valid)).history
  refine ⟨bracketed.alternates before, ended.alternates after, ?_⟩
  rintro body later owner declarations entered rfl opens
  have succeeds := settled.here opens
  rcases performed : (Command.constants (Command.constantNames body)).perform.run point.program
    with ⟨fault | _, left⟩
  · rw [run, Session.upshot_build, ← Build.run_eq_outcome, performed] at succeeds
    cases succeeds
  · cases opens with
    | constants makes enters =>
        cases makes
        obtain ⟨free, isOpen⟩ := Scope.free_of_enter (Session.run_of_build enters)
        exact ⟨left, rfl, Command.declares_of_constants free isOpen performed⟩

/-- A loop that replays a constants block and then fails inside of an attempt: the block is closed
again, and the jump without a target is swallowed outside of the loop. -/
theorem constants_bracketed_replay :
    let body : Value := .list [.str "led"]
    let commands : Value := .list [.list [.str "constants", body]]
    let steps : List Step :=
      [.tolerate (.within "loop" [.str "main"] [.replay commands, .dispatch (.str "jump") []])]
    let frames : List Frame := [.attempt, .scope (.block (.str "main") true), .commands]
    Settles (steps.map .step) .initial ∧
      (outcome (runAll (steps.map .step)) .initial).2.program.Alternates [] ∧
      ∃ point left rest, ComesTo (steps.map .step) .initial frames rest point ∧
        point.program.Alternates frames ∧ point.program.Declares body left := by
  intro body commands steps frames
  have allowed : Step.AllAllowed .flushBuilding steps :=
    ⟨⟨⟨rfl, trivial⟩, ⟨trivial, trivial⟩, ⟨trivial, trivial⟩, trivial⟩, trivial⟩
  have declared (owner : ConstantsBlock) (session : Session) :
      Settles [.declaration owner (.ok "led")] session := .single nofun
  have performed (task : Task) (session : Session) : Settles [.command (.run task)] session :=
    .single nofun
  have jumped (session : Session) : Settles [.step (.dispatch (.str "jump") [])] session := by
    refine .cons nofun (fun frame body entered opens => ?_) fun _ _ => .nil _
    cases opens
    exact performed _ _
  have looped : Settles [.step (.within "loop" [.str "main"]
      [.replay commands, .dispatch (.str "jump") []])] .initial := by
    refine .cons (fun owner body entered opens => ?_) (fun frame body entered opens => ?_)
      fun _ _ => .nil _
    · cases opens with
      | within requests enters => cases requests
    · cases opens with
      | performs => exact performed _ _
      | within requests enters =>
          cases requests
          cases enters
          refine .cons nofun (fun frame body entered opens => ?_) fun between _ => jumped between
          cases opens
          refine .cons (fun _ _ _ _ => rfl) (fun frame body entered opens => ?_) fun _ _ => .nil _
          cases opens
          exact declared _ _
  have settles : Settles (steps.map .step) .initial := by
    refine .cons nofun (fun frame body entered opens => ?_) fun _ _ => .nil _
    cases opens with
    | performs => exact .nil _
    | tolerate => exact looped
  obtain ⟨_, whole, _⟩ := constants_bracketed steps rfl allowed settles (.here _ _)
  obtain ⟨point, comes, opens⟩ : ∃ point,
      ComesTo (steps.map .step) .initial frames [.command (.constants [.ok "led"])] point ∧
        ∃ entered, (Move.command (.constants [.ok "led"])).Opens point
          (.scope (.constants ⟨0⟩)) [.declaration ⟨0⟩ (.ok "led")] entered :=
    ⟨_, .inner (.tolerate _) (.inner (.within rfl rfl) (.inner (.performs _) (.here _ _))),
      _, .constants rfl rfl⟩
  obtain ⟨entered, opens⟩ := opens
  obtain ⟨alternates, _, replays⟩ := constants_bracketed steps rfl allowed settles comes
  obtain ⟨left, _, declares⟩ := replays body [] ⟨0⟩ _ entered rfl opens
  exact ⟨settles, whole, point, left, _, comes, alternates, declares⟩

end Move

end PicAssembly
