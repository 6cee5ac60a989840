import PicAssembly.Proofs.Recording
import PicAssembly.Proofs.Rounding

/-!
# Delays

A delay of a whole number of delay units is given as the number nearest to it, which may lie on
either side, and its quotient by the delay unit, a number that is a little too small itself, is
rounded again.  So such a delay may take one call more if its number lies above, and one call fewer
if the number lies below and there are more than `2 ^ 52` units.
-/

namespace PicAssembly

open Binary64 (unit)

namespace Duration

/-- The number of seconds nearest to a count of delay units. -/
def ofUnits (count : Nat) : Binary64 :=
  .ofQuotient false (4 * count) 1000000

/-- The units of the number nearest to a count of delay units. -/
def nearest (count : Nat) : Nat :=
  Binary64.roundUnits (4 * count * unit) 1000000

theorem unit_eq : unit = 2 ^ 1074 := by
  decide +kernel

/-- There are many units in one, and all counts up to `2 ^ 53` have their units. -/
theorem unit_bounds : 2 ^ 72 ≤ unit ∧ 2 ^ 53 * unit < Binary64.overflow := by
  decide +kernel

theorem unit_pos : 0 < unit :=
  (Nat.two_pow_pos 72).trans_le unit_bounds.1

/-- The delay unit is a number that is a little too small. -/
theorem nearest_one_bounds :
    1000000 * nearest 1 ≤ 4 * unit ∧
      (64 * 2 ^ 53 - 27) * (4 * unit) ≤ 64 * 2 ^ 53 * (1000000 * nearest 1) := by
  decide +kernel

theorem nearest_one_pos : 0 < nearest 1 := by
  have below := nearest_one_bounds.2
  have positive := unit_pos
  omega

variable {count : Nat}

theorem isExact_mul_unit (small : count ≤ 2 ^ 53) : Binary64.IsExact (count * unit) := by
  rw [unit_eq]
  exact Binary64.isExact_mul_two_pow small 1074

theorem isFinite_of_le {units : Nat} (small : count ≤ 2 ^ 53) (bound : units ≤ count * unit) :
    units < Binary64.overflow :=
  (bound.trans (Nat.mul_le_mul_right unit small)).trans_lt unit_bounds.2

theorem nearest_le (small : count ≤ 2 ^ 53) : nearest count ≤ count * unit := by
  refine Binary64.roundUnits_le_of_le (by decide) (isExact_mul_unit small) ?_
  rw [mul_assoc, mul_comm 4]
  exact Nat.mul_le_mul_left _ (by decide)

theorem ofUnits_eq (small : count ≤ 2 ^ 53) : ofUnits count = .finite false (nearest count) :=
  Binary64.ofQuotient_of_isFinite (isFinite_of_le small (nearest_le small))

theorem delayUnit_eq : Device.delayUnit = .finite false (nearest 1) := by
  rw [← ofUnits_eq (by decide), ofUnits, Device.delayUnit]

theorem mul_nearest_one_bounds (count : Nat) :
    1000000 * (count * nearest 1) ≤ 4 * count * unit ∧
      (64 * 2 ^ 53 - 27) * (4 * count * unit) ≤ 64 * 2 ^ 53 * (1000000 * (count * nearest 1)) := by
  have wanted : 4 * count * unit = count * (4 * unit) := by ring
  rw [wanted, Nat.mul_left_comm, Nat.mul_left_comm _ count, Nat.mul_left_comm (64 * 2 ^ 53)]
  exact nearest_one_bounds.imp (Nat.mul_le_mul_left count) (Nat.mul_le_mul_left count)

/-- The numbers of delay units differ from the delay units themselves by less than a part in
`2 ^ 53`, and the delay unit itself is too small by less than half of that. -/
theorem quotient_bounds (positive : 0 < count) :
    64 * 2 ^ 53 * nearest count ≤ (64 * 2 ^ 53 + 92) * (count * nearest 1) ∧
      (2 ^ 53 - 1) * (count * nearest 1) ≤ 2 ^ 53 * nearest count := by
  have normal : 2 ^ 52 * 1000000 ≤ 4 * count * unit := by
    have large := unit_bounds.1
    nlinarith
  have error := Binary64.roundUnits_error (by decide) normal
  change 2 ^ 53 * (nearest count * 1000000) ≤ _ ∧ _ ≤ 2 ^ 53 * (nearest count * 1000000) at error
  obtain ⟨above, below⟩ := mul_nearest_one_bounds count
  generalize 4 * count * unit = wanted at error above below
  generalize count * nearest 1 = product at above below ⊢
  constructor <;> omega

/-- The units of the quotient of a nearest number by the delay unit. -/
def quotient (count : Nat) : Nat :=
  Binary64.roundUnits (nearest count * unit) (nearest 1)

/-- A quotient is not rounded to less than an exact count below it. -/
theorem le_quotient {exact : Nat} (isExact : Binary64.IsExact exact)
    (below : exact * nearest 1 ≤ nearest count * unit) : exact ≤ quotient count :=
  Binary64.le_roundUnits nearest_one_pos isExact below

theorem quotient_zero_le : quotient 0 ≤ 0 * unit := by
  refine Binary64.roundUnits_le_of_le nearest_one_pos (isExact_mul_unit (Nat.zero_le _)) ?_
  rw [Nat.zero_mul, Nat.zero_mul, Nat.le_zero.mp ((nearest_le (Nat.zero_le _)).trans
    (Nat.zero_mul unit).le), Nat.zero_mul]

theorem quotient_le_add_one (positive : 0 < count) (small : count < 2 ^ 53) :
    quotient count ≤ (count + 1) * unit := by
  have above := (quotient_bounds positive).1
  rcases Nat.le_total count (2 ^ 52) with few | many
  · have part := Nat.mul_le_mul_right (nearest 1) few
    have bound : nearest count ≤ (count + 1) * nearest 1 := by
      rw [Nat.add_mul]
      omega
    refine Binary64.roundUnits_le_of_le nearest_one_pos (isExact_mul_unit small) ?_
    calc
      nearest count * unit ≤ (count + 1) * nearest 1 * unit := Nat.mul_le_mul_right _ bound
      _ = (count + 1) * unit * nearest 1 := by ring
  · have part := Nat.mul_lt_mul_of_pos_right small nearest_one_pos
    have bound : 2 * nearest count < (2 * (count + 1) + 1) * nearest 1 := by
      have split : (2 * (count + 1) + 1) * nearest 1 = 2 * (count * nearest 1) + 3 * nearest 1 := by
        ring
      omega
    have spaced : unit ≤ Binary64.spacing ((count + 1) * unit) := by
      have large := Nat.mul_le_mul_right unit (many.trans count.le_succ)
      rw [unit_eq] at large ⊢
      exact Binary64.two_pow_le_spacing large
    refine Binary64.roundUnits_le nearest_one_pos (isExact_mul_unit small) ?_
    calc
      2 * (nearest count * unit) = 2 * nearest count * unit := by ring
      _ < (2 * (count + 1) + 1) * nearest 1 * unit :=
        Nat.mul_lt_mul_of_pos_right bound unit_pos
      _ = (2 * ((count + 1) * unit) + unit) * nearest 1 := by ring
      _ ≤ _ := Nat.mul_le_mul_right _ (Nat.add_le_add_left spaced _)

theorem le_quotient_add_one (positive : 0 < count) (small : count < 2 ^ 53) :
    (count - 1) * unit ≤ quotient count := by
  have below := (quotient_bounds positive).2
  have part := Nat.mul_le_mul_right (nearest 1) small.le
  have bound : (count - 1) * nearest 1 ≤ nearest count := by
    rw [Nat.sub_mul]
    omega
  refine le_quotient (isExact_mul_unit (by omega)) ?_
  calc
    (count - 1) * unit * nearest 1 = (count - 1) * nearest 1 * unit := by ring
    _ ≤ nearest count * unit := Nat.mul_le_mul_right _ bound

theorem mul_unit_lt_of_few (positive : 0 < count) (few : count ≤ 2 ^ 52) :
    count * unit < quotient count + unit := by
  have below := (quotient_bounds positive).2
  have part := Nat.mul_le_mul_right (nearest 1) few
  have bound : (2 * count - 1) * nearest 1 ≤ 2 * nearest count := by
    rw [Nat.sub_mul, Nat.mul_assoc]
    omega
  -- Half a delay unit below the count there is an exact number.
  obtain ⟨exponent, halves⟩ : ∃ exponent, unit = 2 * 2 ^ exponent :=
    ⟨1073, by rw [unit_eq, ← pow_succ']⟩
  have reached : (2 * count - 1) * 2 ^ exponent ≤ quotient count := by
    refine le_quotient (Binary64.isExact_mul_two_pow (by omega) exponent) ?_
    calc
      (2 * count - 1) * 2 ^ exponent * nearest 1 =
          (2 * count - 1) * nearest 1 * 2 ^ exponent := by ring
      _ ≤ 2 * nearest count * 2 ^ exponent := Nat.mul_le_mul_right _ bound
      _ = nearest count * unit := by rw [halves]; ring
  have positiveHalf := Nat.two_pow_pos exponent
  have whole : count * unit = 2 * count * 2 ^ exponent := by
    rw [halves]
    ring
  rw [Nat.sub_mul] at reached
  omega

theorem quotient_le_of_nearest_le (small : count < 2 ^ 53)
    (below : 1000000 * nearest count ≤ 4 * count * unit) : quotient count ≤ count * unit := by
  have bound : 64 * 2 ^ 53 * nearest count ≤ (64 * 2 ^ 53 + 28) * (count * nearest 1) := by
    have short := (mul_nearest_one_bounds count).2
    omega
  refine Binary64.roundUnits_le nearest_one_pos (isExact_mul_unit small.le) ?_
  have within := Nat.mul_lt_mul_of_pos_right (Binary64.lt_mul_spacing (count * unit))
    nearest_one_pos
  have scaled := Nat.mul_le_mul_right unit bound
  have product : (64 * 2 ^ 53 + 28) * (count * nearest 1) * unit =
      (64 * 2 ^ 53 + 28) * (count * unit * nearest 1) := by ring
  rw [product, Nat.mul_assoc (64 * 2 ^ 53)] at scaled
  rw [Nat.mul_assoc (2 ^ 53)] at within
  rw [Nat.add_mul, Nat.mul_assoc 2]
  omega

theorem le_quotient_of_le_nearest (small : count < 2 ^ 53)
    (above : 4 * count * unit ≤ 1000000 * nearest count) : count * unit ≤ quotient count := by
  refine le_quotient (isExact_mul_unit small.le) ?_
  have bound : count * nearest 1 ≤ nearest count := by
    have short := (mul_nearest_one_bounds count).1
    omega
  calc
    count * unit * nearest 1 = count * nearest 1 * unit := by ring
    _ ≤ nearest count * unit := Nat.mul_le_mul_right _ bound

/-- The least count of delay units that covers a count of units. -/
def covering (units : Nat) : Nat :=
  (units + (unit - 1)) / unit

theorem covering_le {units : Nat} (bound : units ≤ count * unit) : covering units ≤ count := by
  rw [covering, Nat.div_le_iff_le_mul_add_pred unit_pos, mul_comm]
  exact Nat.add_le_add_right bound _

theorem le_covering {units : Nat} (bound : count * unit < units + unit) :
    count ≤ covering units := by
  rw [covering, Nat.le_div_iff_mul_le unit_pos]
  have positive := unit_pos
  omega

theorem le_covering_of_le {units : Nat} (bound : count * unit ≤ units) : count ≤ covering units :=
  le_covering (bound.trans_lt (Nat.lt_add_of_pos_right unit_pos))

theorem delayUnits_float (number : Binary64) :
    delayUnits (.float number) = Duration.count (number.divide Device.delayUnit) := by
  generalize divided : number.divide Device.delayUnit = quotient
  change Duration.count (number.divide Device.delayUnit) = _
  rw [divided]

/-- A nearest number is covered by what its quotient is rounded up to. -/
theorem delayUnits_ofUnits (small : count < 2 ^ 53) :
    delayUnits (.float (ofUnits count)) = .ok (covering (quotient count)) := by
  have bound : quotient count ≤ (count + 1) * unit := by
    rcases Nat.eq_zero_or_pos count with rfl | positive
    · exact quotient_zero_le.trans (Nat.mul_le_mul_right unit (Nat.zero_le 1))
    · exact quotient_le_add_one positive small
  have divided : (ofUnits count).divide Device.delayUnit = .finite false (quotient count) := by
    rw [ofUnits_eq small.le, delayUnit_eq, Binary64.divide_finite nearest_one_pos]
    exact Binary64.ofQuotient_of_isFinite (isFinite_of_le small bound)
  rw [delayUnits_float, divided, Duration.count, Binary64.ceiling, if_neg Bool.false_ne_true,
    Int.toNat_natCast, covering]

end Duration

namespace Member

theorem ofOperation_delay (duration : Value) :
    Task.ofOperation .delay (.ofList [duration]) = .state (.delay duration) := rfl

/-- The lines of a delay of some calls. -/
def delayTexts (calls : Nat) : List String :=
  List.replicate calls "\tcall\tFour_microsecond_delay" ++ [""]

/-- A delay that can be counted appends the lines for its units. -/
theorem exists_run_of_counted {duration : Value} {calls : Nat}
    (counted : Duration.delayUnits duration = .ok calls) {program : Program}
    (isOpen : program.isFinal = false) :
    ∃ reached, (request "delay" (.ofList [duration])).run program = (.ok .nothing, reached) ∧
      program.Adds (delayTexts calls) reached := by
  have drafted : (Statement.delay duration).draft =
      .ofLines (List.replicate calls (.call Device.delaySubroutine) ++ [.blank]) := by
    rw [Statement.draft, counted]
  have call : (Line.call Device.delaySubroutine).text = "\tcall\tFour_microsecond_delay" := by
    decide +kernel
  have succeeds : (Statement.delay duration).fault? = none := by
    rw [Statement.fault?, drafted, Draft.fault?_ofLines]
  have adds := Program.Adds.record (Statement.delay duration).lines isOpen
  rw [Statement.lines, drafted, Draft.lines_ofLines, List.map_append, List.map_replicate,
    call] at adds
  refine ⟨_, run_statement (ofOperation_delay duration) succeeds isOpen, ?_⟩
  rw [Statement.lines, drafted, Draft.lines_ofLines]
  exact adds

/-- A delay of a nearest number appends the lines for its units. -/
theorem exists_run_delay {count : Nat} (small : count < 2 ^ 53) {program : Program}
    (isOpen : program.isFinal = false) :
    ∃ reached, (request "delay" (.ofList [.float (Duration.ofUnits count)])).run program =
        (.ok .nothing, reached) ∧
      program.Adds (delayTexts (Duration.covering (Duration.quotient count))) reached :=
  exists_run_of_counted (Duration.delayUnits_ofUnits small) isOpen

/-- A delay of a whole number of delay units, given as the nearest number, takes a call for each of
them, but it may take one more if the number lies above, and one fewer if it lies below and there
are more than `2 ^ 52` units. -/
theorem delay_of_whole_units (count : Nat) (small : count < 2 ^ 53) :
    ∃ units calls, Duration.ofUnits count = .finite false units ∧
      (∀ program : Program, program.isFinal = false → ∃ reached,
        (request "delay" (.ofList [.float (Duration.ofUnits count)])).run program =
            (.ok .nothing, reached) ∧
          program.Adds (delayTexts calls) reached) ∧
      calls ≤ count + 1 ∧ count ≤ calls + 1 ∧ (count ≤ 2 ^ 52 → count ≤ calls) ∧
      (1000000 * units ≤ 4 * count * unit → calls ≤ count) ∧
      (4 * count * unit ≤ 1000000 * units → count ≤ calls) := by
  refine ⟨Duration.nearest count, Duration.covering (Duration.quotient count),
    Duration.ofUnits_eq small.le, fun program isOpen => exists_run_delay small isOpen, ?_⟩
  rcases Nat.eq_zero_or_pos count with rfl | positive
  · rw [Nat.le_zero.mp (Duration.covering_le Duration.quotient_zero_le)]
    simp
  · refine ⟨Duration.covering_le (Duration.quotient_le_add_one positive small), ?_,
      fun few => Duration.le_covering (Duration.mul_unit_lt_of_few positive few),
      fun below => Duration.covering_le (Duration.quotient_le_of_nearest_le small below),
      fun above => ?_⟩
    · have less := Duration.le_covering_of_le (Duration.le_quotient_add_one positive small)
      omega
    · exact Duration.le_covering_of_le (Duration.le_quotient_of_le_nearest small above)

/-- The number nearest to an exact multiple, a sixteenth of a second, takes exactly its calls. -/
theorem delay_of_exact_units :
    15625 < 2 ^ 53 ∧
      ∃ reached, (request "delay" (.ofList [.float (Duration.ofUnits 15625)])).run .initial =
          (.ok .nothing, reached) ∧
        Program.initial.Adds (delayTexts 15625) reached := by
  obtain ⟨units, calls, eq, runs, -, -, -, below, above⟩ :=
    delay_of_whole_units 15625 (by decide)
  have exact : 1000000 * units = 4 * 15625 * unit := by
    rw [Duration.ofUnits_eq (by decide)] at eq
    rw [← (Binary64.finite.inj eq).2]
    decide +kernel
  have calls_eq : calls = 15625 := Nat.le_antisymm (below exact.le) (above exact.ge)
  subst calls_eq
  exact ⟨by decide, runs .initial rfl⟩

/-- Five delay units, given as the number nearest to them, take six calls. -/
theorem exists_delay_rounded_up :
    Binary64.ofText? "2e-05" = some (Duration.ofUnits 5) ∧
      Duration.ofUnits 5 = .finite false (Duration.nearest 5) ∧
      ∃ reached, (request "delay" (.ofList [.float (Duration.ofUnits 5)])).run .initial =
          (.ok .nothing, reached) ∧
        Program.initial.Adds (delayTexts 6) reached ∧
        ¬ Program.initial.Adds (delayTexts 5) reached := by
  obtain ⟨reached, run, adds⟩ :=
    @exists_run_delay 5 (by decide) .initial rfl
  have six : Duration.covering (Duration.quotient 5) = 6 := by decide +kernel
  rw [six] at adds
  refine ⟨by decide +kernel, Duration.ofUnits_eq (by decide), reached, run, adds, fun five => ?_⟩
  have same := congrArg List.length (adds.code.symm.trans five.code)
  rw [List.length_append, List.length_append] at same
  exact absurd (Nat.add_left_cancel same) (by decide)

end Member

end PicAssembly
