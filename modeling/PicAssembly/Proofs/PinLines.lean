import Mathlib.Data.List.Perm.Subperm
import PicAssembly.Proofs.PinMappings
import PicAssembly.Proofs.Recording

/-!
# Lines for pins

The directions of the pins are one mask, in which nothing counts but which of the four pins are
bound to the word for an output.  The levels are one line for each pin in the order of the merged
mapping, up to the first key that is no pin to drive.
-/

namespace PicAssembly

open CommandTable

/-! ## Masks -/

namespace Pins

/-- A mask of eight binary digits in which no bit is clear but those of the pins that are bound to
the word for an output; bits count from the right. -/
structure Directs (pins : Entries) (keywords : List (String × Value)) (mask : String) : Prop where
  length : mask.length = 8
  binary : ∀ digit ∈ mask.toList, digit = '0' ∨ digit = '1'
  upper : ∀ bit, 4 ≤ bit → bit < 8 → mask.toList.reverse[bit]? = some '0'
  lower : ∀ bit, bit < 4 → (mask.toList.reverse[bit]? = some '0' ↔
    Binds pins keywords ("gp" ++ toString bit) (.str "out"))

/-- The digits of a mask, told which pins are outputs. -/
def digits (first second third fourth : Bool) : List Char :=
  let digit := fun isOutput => if isOutput then '0' else '1'
  ['0', '0', '0', '0', digit fourth, digit third, digit second, digit first]

variable {pins : Entries} {keywords : List (String × Value)}

theorem gives_iff {entries : Entries} {pin word : String} :
    gives entries pin word = true ↔ (.str pin, .str word) ∈ entries := by
  simp only [gives, List.any_eq_true, Bool.and_eq_true, isWord_iff]
  constructor
  · rintro ⟨⟨key, value⟩, member, rfl, rfl⟩
    exact member
  · intro member
    exact ⟨_, member, rfl, rfl⟩

theorem text_digits : ∀ first second third fourth : Bool,
    "b'0000" ++ (if fourth then "0" else "1") ++ (if third then "0" else "1") ++
      (if second then "0" else "1") ++ (if first then "0" else "1") ++ "'" =
    "b'" ++ String.ofList (digits first second third fourth) ++ "'" := by
  decide +kernel

theorem binary_digits (first second third fourth : Bool) :
    ∀ digit ∈ digits first second third fourth, digit = '0' ∨ digit = '1' := by
  have either (isOutput : Bool) : (if isOutput then '0' else '1') = '0' ∨
      (if isOutput then '0' else '1') = '1' := by
    cases isOutput
    · exact .inr rfl
    · exact .inl rfl
  simp only [digits, List.forall_mem_cons, either, true_or, true_and]
  exact List.forall_mem_nil _

theorem some_digit_eq_zero (isOutput : Bool) :
    some (if isOutput then '0' else '1') = some '0' ↔ isOutput = true := by
  cases isOutput <;> decide

theorem exists_directs (pins : Entries) (distinct : (keywords.map Prod.fst).Nodup) :
    ∃ digits, Directs pins keywords digits ∧
      mask (merged pins keywords) = "b'" ++ digits ++ "'" := by
  refine ⟨_, ⟨?_, ?_, ?_, ?_⟩, text_digits _ _ _ _⟩
  · rw [String.length_ofList]
    rfl
  · rw [String.toList_ofList]
    exact binary_digits _ _ _ _
  · intro bit above below
    rw [String.toList_ofList]
    obtain rfl | rfl | rfl | rfl : bit = 4 ∨ bit = 5 ∨ bit = 6 ∨ bit = 7 := by omega
    all_goals rfl
  · intro bit below
    rw [String.toList_ofList, ← mem_merged distinct, ← gives_iff]
    obtain rfl | rfl | rfl | rfl : bit = 0 ∨ bit = 1 ∨ bit = 2 ∨ bit = 3 := by omega
    all_goals exact some_digit_eq_zero _

theorem name_eq (pin : Device.Pin) : pin.name = "gp" ++ toString pin.bit := by
  cases pin <;> decide +kernel

/-- The mask depends on the four pins alone. -/
theorem mask_congr {further : Entries} {words : List (String × Value)}
    (distinct : (keywords.map Prod.fst).Nodup) (distinctWords : (words.map Prod.fst).Nodup)
    (same : ∀ bit, bit < 4 → (Binds further words ("gp" ++ toString bit) (.str "out") ↔
      Binds pins keywords ("gp" ++ toString bit) (.str "out"))) :
    mask (merged further words) = mask (merged pins keywords) := by
  have gives_eq (pin : Device.Pin) : gives (merged further words) pin.name "out" =
      gives (merged pins keywords) pin.name "out" := by
    have low : pin.bit < 4 := by cases pin <;> decide
    rw [Bool.eq_iff_iff, gives_iff, gives_iff, mem_merged distinctWords, mem_merged distinct,
      name_eq]
    exact same pin.bit low
  have first : _ = gives _ "gp0" "out" := gives_eq .gp0
  have second : _ = gives _ "gp1" "out" := gives_eq .gp1
  have third : _ = gives _ "gp2" "out" := gives_eq .gp2
  have fourth : _ = gives _ "gp3" "out" := gives_eq .gp3
  simp only [Device.Pin.name] at first second third fourth
  simp only [mask, first, second, third, fourth]

end Pins

/-! ## Levels -/

namespace Pins

/-- A key that is one of the three pins to drive. -/
def Drivable (key : Value) : Prop :=
  key = .str "gp0" ∨ key = .str "gp1" ∨ key = .str "gp2"

theorem exists_driven {key : Value} (drivable : Drivable key) :
    ∃ pin, Device.Pin.drivenOfKey? key = some pin := by
  rcases drivable with rfl | rfl | rfl
  · exact ⟨.gp0, by decide⟩
  · exact ⟨.gp1, by decide⟩
  · exact ⟨.gp2, by decide⟩

theorem drivenOfKey?_eq_none {key : Value} (undrivable : ¬ Drivable key) :
    Device.Pin.drivenOfKey? key = none := by
  cases found : Device.Pin.drivenOfKey? key with
  | none => rfl
  | some pin =>
      obtain ⟨named, isDriven⟩ := Option.filter_eq_some_iff.mp found
      cases key with
      | str text =>
          have same := Device.Pin.ofKey?_eq_some.mp named
          subst same
          refine absurd ?_ undrivable
          cases pin with
          | gp0 => exact .inl rfl
          | gp1 => exact .inr (.inl rfl)
          | gp2 => exact .inr (.inr rfl)
          | gp3 => cases isDriven
      | null | bool | int | float | list | tuple | dict | thing => cases named

/-- Pins to drive have their lines. -/
theorem exists_map_level {front : Entries} (drivable : ∀ entry ∈ front, Drivable entry.1) :
    ∃ lines : List Line, front.map level = Draft.ofLines lines ∧
      front.map drive? = (lines.map Line.text).map some := by
  induction front with
  | nil => exact ⟨[], rfl, rfl⟩
  | cons entry front induction =>
      obtain ⟨key, value⟩ := entry
      obtain ⟨pin, found⟩ := exists_driven (drivable _ List.mem_cons_self)
      obtain ⟨lines, levels, texts⟩ :=
        induction fun other member => drivable other (List.mem_cons_of_mem _ member)
      have first : level (key, value) = .ok (drive pin value) := by
        rw [level, found]
      have text := toOption_level key value
      rw [first] at text
      refine ⟨drive pin value :: lines, ?_, ?_⟩
      · rw [List.map_cons, first, levels]
        rfl
      · rw [List.map_cons, ← text, texts]
        rfl

theorem level_of_undrivable {key : Value} (undrivable : ¬ Drivable key) (value : Value) :
    level (key, value) = .error (.invalidPin key) := by
  rw [level, drivenOfKey?_eq_none undrivable]

/-- Entries are drivable, or there is a first one that is not. -/
theorem drivable_or_first (entries : Entries) :
    (∀ entry ∈ entries, Drivable entry.1) ∨
      ∃ front key level back, entries = front ++ (key, level) :: back ∧
        (∀ entry ∈ front, Drivable entry.1) ∧ ¬ Drivable key := by
  induction entries with
  | nil => exact .inl (List.forall_mem_nil _)
  | cons entry entries induction =>
      obtain ⟨key, level⟩ := entry
      by_cases drivable : Drivable key
      · rcases induction with all | ⟨front, other, given, back, split, all, undrivable⟩
        · exact .inl (List.forall_mem_cons.mpr ⟨drivable, all⟩)
        · refine .inr ⟨(key, level) :: front, other, given, back, ?_, ?_, undrivable⟩
          · rw [split, List.cons_append]
          · exact List.forall_mem_cons.mpr ⟨drivable, all⟩
      · exact .inr ⟨[], key, level, entries, rfl, List.forall_mem_nil _, drivable⟩

/-- A dictionary has each of the pins to drive at most once. -/
theorem nodup_of_drivable {entries : Entries} (isDictionary : entries.IsDictionary)
    (drivable : ∀ entry ∈ entries, Drivable entry.1) : (entries.map Prod.fst).Nodup := by
  refine List.pairwise_map.mpr (List.Pairwise.imp_of_mem ?_ isDictionary)
  intro entry later member _ differs same
  have isText : ∃ name, entry.1 = .str name := by
    rcases drivable entry member with named | named | named <;> exact ⟨_, named⟩
  obtain ⟨name, named⟩ := isText
  rw [← same, named, Value.str_equals, isWord_iff.mpr rfl] at differs
  cases differs

theorem length_le_of_drivable {entries : Entries} (isDictionary : entries.IsDictionary)
    (drivable : ∀ entry ∈ entries, Drivable entry.1) : entries.length ≤ 3 := by
  have within : entries.map Prod.fst ⊆ [.str "gp0", .str "gp1", .str "gp2"] := by
    intro key member
    obtain ⟨entry, found, rfl⟩ := List.mem_map.mp member
    simpa [Drivable] using drivable entry found
  have few := ((nodup_of_drivable isDictionary drivable).subperm within).length_le
  simpa using few

end Pins

/-! ## Requests -/

namespace Member

open Pins

variable {arguments others : Arguments} {pins : Dictionary} {keywords : List (String × Value)}
  {program : Program}

theorem load_mask (digits : String) :
    "\tmovlw\t" ++ ("b'" ++ digits ++ "'") = "\tmovlw\tb'" ++ digits ++ "'" := by
  have opening : "\tmovlw\t" ++ "b'" = "\tmovlw\tb'" := by decide +kernel
  rw [← String.append_assoc, ← String.append_assoc, opening]

theorem appends_directions (given : Given arguments pins keywords)
    (isOpen : program.isFinal = false) :
    (request "config_io" arguments).Appends program
      ["\tmovlw\t" ++ mask (merged pins.entries keywords), "\ttris\tGPIO", ""] := by
  obtain ⟨statement, states, drafted⟩ := given.ofOperation_configIo
  have appends := appends_draft states drafted isOpen
  exact appends

/-- Statements with the same draft are the same request. -/
theorem request_eq_of_draft {operation : Operation} {statement other : Statement}
    (states : Task.ofOperation operation arguments = .state statement)
    (statesOther : Task.ofOperation operation others = .state other)
    (same : other.draft = statement.draft) :
    request operation.name others = request operation.name arguments := by
  rw [request_operation, request_operation, states, statesOther, Task.reply, Task.reply,
    Task.perform, Task.perform, Build.perform, Build.perform, same]

/-- Pins with keywords become the mask of their directions on every open program.  The four pins
that are bound to the word for an output are all that counts, so that neither the order of the pins
nor other names nor the split into pins and keywords makes a difference. -/
theorem directions_of_pins (given : Given arguments pins keywords) :
    (∃ digits, Directs pins.entries keywords digits ∧
      ∀ program : Program, program.isFinal = false →
        (request "config_io" arguments).Appends program
          ["\tmovlw\tb'" ++ digits ++ "'", "\ttris\tGPIO", ""]) ∧
    ∀ (others : Arguments) (further : Dictionary) (words : List (String × Value)),
      Given others further words →
      (∀ bit, bit < 4 → (Binds further.entries words ("gp" ++ toString bit) (.str "out") ↔
        Binds pins.entries keywords ("gp" ++ toString bit) (.str "out"))) →
      request "config_io" others = request "config_io" arguments := by
  constructor
  · obtain ⟨digits, directs, text⟩ := exists_directs pins.entries given.distinct
    refine ⟨digits, directs, fun program isOpen => ?_⟩
    rw [← load_mask, ← text]
    exact appends_directions given isOpen
  · intro others further words otherGiven same
    obtain ⟨statement, states, drafted⟩ := given.ofOperation_configIo
    obtain ⟨other, statesOther, draftedOther⟩ := otherGiven.ofOperation_configIo
    have masks := mask_congr given.distinct otherGiven.distinct same
    have requests := request_eq_of_draft states statesOther (by rw [drafted, draftedOther, masks])
    exact requests

/-- Two outputs, one of them given by a keyword over its direction in the mapping, are the same mask
in the other order with an unknown name among them. -/
theorem directions_of_pins_of_two :
    let pins : Entries := [(.str "gp0", .str "out"), (.str "gp3", .str "in")]
    let keywords : List (String × Value) := [("gp3", .str "out")]
    (∃ digits, Directs pins keywords digits ∧ ∀ program : Program, program.isFinal = false →
      (request "config_io" ⟨[.dict pins], keywords⟩).Appends program
        ["\tmovlw\tb'" ++ digits ++ "'", "\ttris\tGPIO", ""]) ∧
    request "config_io"
        ⟨[.dict [(.str "gp3", .str "out"), (.int 5, .null), (.str "gp0", .str "out")]], []⟩ =
      request "config_io" ⟨[.dict pins], keywords⟩ := by
  intro pins keywords
  let directed : Dictionary :=
    ⟨pins, by simp [pins, Entries.IsDictionary, Value.str_equals, isWord]⟩
  let further : Dictionary :=
    ⟨[(.str "gp3", .str "out"), (.int 5, .null), (.str "gp0", .str "out")],
      by simp [Entries.IsDictionary, Value.str_equals, Value.equals_str, isWord]⟩
  have given := given_dict directed keywords (by decide) (by decide)
  obtain ⟨directs, same⟩ := directions_of_pins given
  refine ⟨directs, same _ further [] (given_dict further [] (by decide) (by decide)) ?_⟩
  intro bit _
  simp only [Binds, further, directed, pins, keywords, List.mem_cons, List.map_cons,
    Prod.mk.injEq, Value.str.injEq]
  grind

/-- Pins that can all be driven have a line each, and a blank line stands behind them. -/
theorem exists_appends_levels (given : Given arguments pins keywords)
    (drivable : ∀ entry ∈ merged pins.entries keywords, Drivable entry.1) :
    ∃ texts : List String, (merged pins.entries keywords).map drive? = texts.map some ∧
      ∀ program : Program, program.isFinal = false →
        (request "set_io" arguments).Appends program (texts ++ [""]) := by
  obtain ⟨lines, levels, texts⟩ := exists_map_level drivable
  obtain ⟨statement, states, drafted⟩ := given.ofOperation_setIo
  have known : statement.draft = .ofLines (lines ++ [.blank]) := by
    rw [drafted, levels, Draft.ofLines, Draft.ofLines, List.map_append]
    rfl
  refine ⟨lines.map Line.text, texts, fun program isOpen => ?_⟩
  have appends := appends_draft states known isOpen
  rw [List.map_append] at appends
  exact appends

/-- Pins before a key that is no pin to drive have their lines, and then the key is refused. -/
theorem exists_adds_levels (given : Given arguments pins keywords) {front back : Entries}
    {key value : Value} (split : merged pins.entries keywords = front ++ (key, value) :: back)
    (drivable : ∀ entry ∈ front, Drivable entry.1) (undrivable : ¬ Drivable key) :
    ∃ texts : List String, front.map drive? = texts.map some ∧
      ∀ program : Program, program.isFinal = false → ∃ reached,
        (request "set_io" arguments).run program = (.error (.invalidPin key), reached) ∧
          program.Adds texts reached := by
  obtain ⟨lines, levels, texts⟩ := exists_map_level drivable
  obtain ⟨statement, states, drafted⟩ := given.ofOperation_setIo
  rw [split, List.map_append, List.map_cons, levels, level_of_undrivable undrivable,
    List.append_assoc] at drafted
  have fails : statement.fault? = some (.invalidPin key) := by
    rw [Statement.fault?, drafted, Draft.fault?_ofLines_append]
    rfl
  have written : statement.lines = lines := by
    rw [Statement.lines, drafted, Draft.lines_ofLines_append]
    exact List.append_nil lines
  refine ⟨lines.map Line.text, texts, fun program isOpen => ?_⟩
  exact ⟨_, run_statement_of_fault states fails isOpen, written ▸ .record _ isOpen⟩

/-- Pins with keywords become a line for each pin in the order of the merged mapping, no pin twice,
and a blank line behind them on every open program.  At the first key that is no pin to drive the
operation fails with the lines of the pins before it and nothing else.  The merged mapping is all
that counts. -/
theorem levels_of_pins (given : Given arguments pins keywords) :
    ((∀ entry ∈ merged pins.entries keywords, Drivable entry.1) →
      ((merged pins.entries keywords).map Prod.fst).Nodup ∧
        ∃ texts : List String, texts.length ≤ 3 ∧
          (merged pins.entries keywords).map drive? = texts.map some ∧
          ∀ program : Program, program.isFinal = false →
            (request "set_io" arguments).Appends program (texts ++ [""])) ∧
    ((∃ entry ∈ merged pins.entries keywords, ¬ Drivable entry.1) →
      ∃ (front : Entries) (key level : Value) (back : Entries) (texts : List String),
        merged pins.entries keywords = front ++ (key, level) :: back ∧
        (∀ entry ∈ front, Drivable entry.1) ∧ ¬ Drivable key ∧
        front.map drive? = texts.map some ∧
        (Fault.invalidPin key).message = "Invalid port " ++ key.text ++ " specified" ∧
        ∀ program : Program, program.isFinal = false → ∃ reached,
          (request "set_io" arguments).run program = (.error (.invalidPin key), reached) ∧
            program.Adds texts reached) ∧
    ∀ (others : Arguments) (further : Dictionary) (words : List (String × Value)),
      Given others further words →
      merged further.entries words = merged pins.entries keywords →
      request "set_io" others = request "set_io" arguments := by
  refine ⟨fun drivable => ?_, ?_, fun others further words otherGiven same => ?_⟩
  · have isDictionary := isDictionary_merged pins given.distinct
    obtain ⟨texts, lines, appends⟩ := exists_appends_levels given drivable
    refine ⟨nodup_of_drivable isDictionary drivable, texts, ?_, lines, appends⟩
    have lengths := congrArg List.length lines
    rw [List.length_map, List.length_map] at lengths
    exact lengths ▸ length_le_of_drivable isDictionary drivable
  · rintro ⟨entry, member, refused⟩
    obtain all | ⟨front, key, level, back, split, drivable, undrivable⟩ :=
      drivable_or_first (merged pins.entries keywords)
    · exact absurd (all entry member) refused
    · obtain ⟨texts, lines, fails⟩ := exists_adds_levels given split drivable undrivable
      exact ⟨front, key, level, back, texts, split, drivable, undrivable, lines, rfl, fails⟩
  · obtain ⟨statement, states, drafted⟩ := given.ofOperation_setIo
    obtain ⟨other, statesOther, draftedOther⟩ := otherGiven.ofOperation_setIo
    have requests := request_eq_of_draft states statesOther (by rw [drafted, draftedOther, same])
    exact requests

/-- A keyword drives a pin of the mapping high in its place, and the pin that is an input only is
refused behind the line of the pin before it. -/
theorem levels_of_pins_of_two :
    (∀ program : Program, program.isFinal = false →
      (request "set_io" ⟨[.dict [(.str "gp0", .str "lo"), (.str "gp1", .str "hi")]],
        [("gp0", .str "hi")]⟩).Appends program ["\tbsf\tGPIO, 0", "\tbsf\tGPIO, 1", ""]) ∧
    ∀ program : Program, program.isFinal = false → ∃ reached,
      (request "set_io" ⟨[.dict [(.str "gp1", .str "hi")]], [("gp3", .str "hi")]⟩).run program =
        (.error (.invalidPin (.str "gp3")), reached) ∧
      program.Adds ["\tbsf\tGPIO, 1"] reached := by
  constructor
  · let pins : Dictionary := ⟨[(.str "gp0", .str "lo"), (.str "gp1", .str "hi")],
      by simp [Entries.IsDictionary, Value.str_equals, isWord]⟩
    have given := given_dict pins [("gp0", .str "hi")] (by decide) (by decide)
    have merges : merged pins.entries [("gp0", .str "hi")] =
        [(.str "gp0", .str "hi"), (.str "gp1", .str "hi")] := by
      rfl
    obtain ⟨drives, _⟩ := levels_of_pins given
    rw [merges] at drives
    obtain ⟨_, texts, _, lines, appends⟩ := drives (by simp [Drivable])
    have texts_eq : texts = ["\tbsf\tGPIO, 0", "\tbsf\tGPIO, 1"] :=
      (List.map_inj_right fun _ _ => Option.some.inj).mp (lines.symm.trans (by decide +kernel))
    rw [texts_eq] at appends
    exact appends
  · let pins : Dictionary := ⟨[(.str "gp1", .str "hi")], List.pairwise_singleton _ _⟩
    have given := given_dict pins [("gp3", .str "hi")] (by decide) (by decide)
    have merges : merged pins.entries [("gp3", .str "hi")] =
        [(.str "gp1", .str "hi"), (.str "gp3", .str "hi")] := by
      rfl
    obtain ⟨_, refuses, _⟩ := levels_of_pins given
    rw [merges] at refuses
    obtain ⟨front, key, level, back, texts, split, _, undrivable, lines, _, fails⟩ :=
      refuses ⟨_, List.mem_cons_of_mem _ List.mem_cons_self, by simp [Drivable]⟩
    -- The first pin can be driven, so the key is the second one.
    cases front with
    | nil =>
        cases split
        exact absurd (.inr (.inl rfl)) undrivable
    | cons first front =>
        obtain ⟨isFirst, rest⟩ := List.cons.inj split
        cases front with
        | nil =>
            cases rest
            have texts_eq : texts = ["\tbsf\tGPIO, 1"] := by
              subst isFirst
              exact (List.map_inj_right fun _ _ => Option.some.inj).mp
                (lines.symm.trans (by decide +kernel))
            rw [texts_eq] at fails
            exact fails
        | cons second front =>
            have lengths := congrArg List.length rest
            simp at lengths

end Member

end PicAssembly
