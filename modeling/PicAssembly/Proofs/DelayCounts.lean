import PicAssembly.Proofs.Delays
import PicAssembly.Value.Order

/-!
# Counts of delays

A duration is rounded to a number, and its quotient by the delay unit is rounded to a number again,
before it is rounded up.  All of these keep the order of durations, and none of them brings a
positive duration down to nothing, so longer delays take at least as many calls and only durations
that are not positive take none.
-/

namespace PicAssembly

open Binary64 (unit signed)

/-! ## Numbers of the format -/

namespace Binary64

/-- Whether the format has a number: finite ones have no more than fifty-three bits. -/
def IsRepresentable : Binary64 → Prop
  | finite _ units => IsExact units ∧ units < overflow
  | _ => True

theorem ofQuotient_of_overflow {numerator denominator : Nat}
    (large : overflow ≤ roundUnits (numerator * unit) denominator) (negative : Bool) :
    ofQuotient negative numerator denominator = infinite negative := by
  rw [ofQuotient]
  exact if_neg (Nat.not_lt_of_ge large)

theorem ofQuotient_cases (negative : Bool) (numerator denominator : Nat) :
    ofQuotient negative numerator denominator =
        finite negative (roundUnits (numerator * unit) denominator) ∨
      ofQuotient negative numerator denominator = infinite negative := by
  exact (Nat.lt_or_ge _ overflow).imp ofQuotient_of_isFinite fun large =>
    ofQuotient_of_overflow large negative

@[simp]
theorem signed_true (units : Nat) : signed true units = -(units : Int) := rfl

@[simp]
theorem signed_false (units : Nat) : signed false units = units := rfl

end Binary64

namespace Value

/-- Whether a value is one that the format has, if it is a number of the format. -/
def IsRepresentable : Value → Prop
  | float number => number.IsRepresentable
  | _ => True

/-- A value that is no number of the format unless the format has it. -/
def Representable :=
  { value : Value // value.IsRepresentable }

/-- Whether two values are numbers of which the first is at most the second, compared exactly. -/
def AtMost (less more : Value) : Prop :=
  ∃ left right ordering, less.number? = some left ∧ more.number? = some right ∧
    Binary64.order? left right = some ordering ∧ ordering.isLE = true

theorem number?_of_integer {value : Value} {number : Int}
    (isInteger : value.integer? = some number) :
    value.number? = some (.finite (number < 0) (number.natAbs * unit)) := by
  cases value <;> cases isInteger <;> rfl

theorem atMost_iff {less more : Value} {negative other : Bool} {units further : Nat}
    (left : less.number? = some (.finite negative units))
    (right : more.number? = some (.finite other further)) :
    less.AtMost more ↔ signed negative units ≤ signed other further := by
  rw [← Int.isLE_compare]
  constructor
  · rintro ⟨_, _, _, sameLeft, sameRight, compared, isLE⟩
    cases left.symm.trans sameLeft
    cases right.symm.trans sameRight
    cases compared
    exact isLE
  · intro isLE
    exact ⟨_, _, _, left, right, rfl, isLE⟩

end Value

namespace Duration

variable {duration : Value} {negative : Bool} {units : Nat}

/-! ## Reading a duration -/

/-- A duration whose quotient by the delay unit is a finite number. -/
def IsCountable (duration : Value) : Prop :=
  ∃ number negative units, seconds duration = .ok number ∧
    number.divide Device.delayUnit = .finite negative units

/-- A value that is refused as a duration, with the fault that says why. -/
inductive Refused : Value → Fault → Prop
  | noNumber {duration : Value} (isNone : duration.number? = none) :
      Refused duration (.notDivisible duration.typeName)
  | undefined : Refused (.float .nan) .undefinedCount
  | infinite (negative : Bool) : Refused (.float (.infinite negative)) .infiniteCount
  | tooLarge {duration : Value} {number : Int} {negative : Bool}
      (isInteger : duration.integer? = some number)
      (large : Binary64.ofInt number = .infinite negative) : Refused duration .integerTooLarge
  | overflow {duration : Value} {negative other : Bool} {units : Nat}
      (isFinite : seconds duration = .ok (.finite negative units))
      (large : (Binary64.finite negative units).divide Device.delayUnit = .infinite other) :
      Refused duration .infiniteCount

theorem delayUnits_of_seconds {number : Binary64} (read : seconds duration = .ok number) :
    delayUnits duration = count (number.divide Device.delayUnit) := by
  rw [delayUnits, read]
  rfl

theorem delayUnits_of_refused {fault : Fault} (refused : seconds duration = .error fault) :
    delayUnits duration = .error fault := by
  rw [delayUnits, refused]
  rfl

/-- Rounding stands for a variable here, so that nothing works it out. -/
theorem seconds_of_integer {rounded : Int → Binary64} (rounds : Binary64.ofInt = rounded)
    {number : Int} (isInteger : duration.integer? = some number) :
    seconds duration =
      match rounded number with
      | .infinite _ => .error .integerTooLarge
      | finite => .ok finite := by
  delta seconds
  rw [rounds]
  cases duration <;> cases isInteger <;> rfl

/-- An integer is read as the nearest number, unless it is too large. -/
theorem seconds_of_integer_cases {number : Int} (isInteger : duration.integer? = some number) :
    seconds duration =
        .ok (.finite (number < 0) (Binary64.roundUnits (number.natAbs * unit) 1)) ∨
      seconds duration = .error .integerTooLarge ∧
        Binary64.ofInt number = .infinite (number < 0) := by
  have read := seconds_of_integer rfl isInteger
  rcases Binary64.ofQuotient_cases (number < 0) number.natAbs 1 with finite | infinite
  · rw [Binary64.ofInt, finite] at read
    exact .inl read
  · rw [Binary64.ofInt, infinite] at read
    exact .inr ⟨read, infinite⟩

theorem divide_delayUnit (negative : Bool) (units : Nat) :
    (Binary64.finite negative units).divide Device.delayUnit =
      .ofQuotient negative units (nearest 1) := by
  rw [delayUnit_eq, Binary64.divide_finite nearest_one_pos, Bool.bne_false]

theorem infinite_divide_delayUnit (negative : Bool) :
    (Binary64.infinite negative).divide Device.delayUnit = .infinite negative := by
  rw [delayUnit_eq]
  generalize nearest 1 = units
  cases negative <;> rfl

/-! ## Counting -/

/-- The count of calls for a duration with a sign and units, which is rounded twice. -/
def calls (negative : Bool) (units : Nat) : Nat :=
  if negative then 0
  else covering (Binary64.roundUnits (Binary64.roundUnits units 1 * unit) (nearest 1))

@[simp]
theorem calls_true (units : Nat) : calls true units = 0 :=
  if_pos rfl

theorem calls_false (units : Nat) :
    calls false units =
      covering (Binary64.roundUnits (Binary64.roundUnits units 1 * unit) (nearest 1)) :=
  if_neg Bool.false_ne_true

theorem count_finite (negative : Bool) (units : Nat) :
    count (.finite negative units) = .ok (if negative then 0 else covering units) := by
  rw [count, Binary64.ceiling]
  cases negative with
  | true =>
      rw [if_pos rfl, if_pos rfl, Int.toNat_neg_natCast]
  | false =>
      rw [if_neg Bool.false_ne_true, if_neg Bool.false_ne_true, Int.toNat_natCast, covering]

theorem covering_pos (positive : 0 < units) : 0 < covering units :=
  le_covering (by omega)

theorem covering_mono {less more : Nat} (le : less ≤ more) : covering less ≤ covering more :=
  Nat.div_le_div_right (Nat.add_le_add_right le _)

theorem calls_zero (negative : Bool) : calls negative 0 = 0 := by
  cases negative with
  | true => exact calls_true 0
  | false =>
      have rounded : Binary64.roundUnits 0 1 * unit ≤ 0 * unit * nearest 1 := by
        rw [Binary64.roundUnits_of_isExact (Nat.dvd_zero _), Nat.zero_mul, Nat.zero_mul]
      have exactZero : Binary64.IsExact (0 * unit) := isExact_mul_unit (Nat.zero_le _)
      rw [calls_false]
      exact Nat.le_zero.mp (covering_le
        (Binary64.roundUnits_le_of_le nearest_one_pos exactZero rounded))

/-- A positive duration is rounded to a positive number, both times. -/
theorem calls_pos (positive : 0 < units) : 0 < calls false units := by
  have rounded : 1 ≤ Binary64.roundUnits units 1 :=
    Binary64.le_roundUnits Nat.one_pos Binary64.isExact_one (by omega)
  have divided : 1 * nearest 1 ≤ Binary64.roundUnits units 1 * unit := by
    have nearest_unit : nearest 1 ≤ 1 * unit := nearest_le (by decide)
    have scaled : 1 * unit ≤ Binary64.roundUnits units 1 * unit :=
      Nat.mul_le_mul_right unit rounded
    rw [Nat.one_mul]
    exact nearest_unit.trans scaled
  have reached := Binary64.le_roundUnits nearest_one_pos Binary64.isExact_one divided
  rw [calls_false]
  exact covering_pos reached

/-- Only a duration that is not positive takes no calls. -/
theorem calls_eq_zero_iff : calls negative units = 0 ↔ signed negative units ≤ 0 := by
  rcases Nat.eq_zero_or_pos units with rfl | positive
  · cases negative <;> simp [calls_zero]
  · cases negative with
    | true => simp
    | false =>
        have some := calls_pos positive
        simp [some.ne', positive.ne']

/-- Longer durations take at least as many calls. -/
theorem calls_mono {other : Bool} {further : Nat}
    (le : signed negative units ≤ signed other further) :
    calls negative units ≤ calls other further := by
  rcases Nat.eq_zero_or_pos (calls negative units) with none | some
  · rw [none]
    exact Nat.zero_le _
  · have positive : 0 < signed negative units :=
      not_le.mp fun notPositive => some.ne' (calls_eq_zero_iff.mpr notPositive)
    have further_pos := positive.trans_le le
    cases negative with
    | true => simp at some
    | false =>
        cases other with
        | true =>
            rw [Binary64.signed_true] at further_pos
            omega
        | false =>
            have rounded := Binary64.roundUnits_mono Nat.one_pos (Int.ofNat_le.mp le)
            rw [calls_false, calls_false]
            exact covering_mono (Binary64.roundUnits_mono nearest_one_pos
              (Nat.mul_le_mul_right unit rounded))

/-- A duration that can be counted is a number, and takes the calls of its units. -/
theorem exists_calls (isRepresentable : duration.IsRepresentable)
    (isCountable : IsCountable duration) :
    ∃ negative units, duration.number? = some (.finite negative units) ∧
      delayUnits duration = .ok (calls negative units) := by
  obtain ⟨number, sign, quotient, read, divided⟩ := isCountable
  have rounded {negative : Bool} {units : Nat}
      (isNumber : number = .finite negative (Binary64.roundUnits units 1)) :
      delayUnits duration = .ok (calls negative units) := by
    rw [isNumber, divide_delayUnit] at divided
    rw [delayUnits_of_seconds read, isNumber, divide_delayUnit]
    rcases Binary64.ofQuotient_cases negative (Binary64.roundUnits units 1) (nearest 1) with
      finite | infinite
    · rw [finite, count_finite, calls]
    · rw [infinite] at divided
      cases divided
  cases found : duration.integer? with
  | some integer =>
      refine ⟨_, _, Value.number?_of_integer found, rounded ?_⟩
      rcases seconds_of_integer_cases found with finite | ⟨tooLarge, _⟩
      · exact Except.ok.inj (read.symm.trans finite)
      · cases read.symm.trans tooLarge
  | none =>
      cases duration with
      | float held =>
          cases read
          cases number with
          | finite negative units =>
              have exact := Binary64.roundUnits_of_isExact isRepresentable.1
              exact ⟨negative, units, rfl, rounded (by rw [exact])⟩
          | nan => cases divided
          | infinite negative =>
              rw [infinite_divide_delayUnit] at divided
              cases divided
      | bool | int => cases found
      | null | str | list | tuple | dict | thing => cases read

/-- A duration that cannot be counted is refused. -/
theorem exists_refused (uncountable : ¬ IsCountable duration) :
    ∃ fault, Refused duration fault ∧ delayUnits duration = .error fault := by
  have overflows {negative : Bool} {units : Nat}
      (read : seconds duration = .ok (.finite negative units)) :
      ∃ fault, Refused duration fault ∧ delayUnits duration = .error fault := by
    rcases Binary64.ofQuotient_cases negative units (nearest 1) with finite | infinite
    · exact absurd ⟨_, _, _, read, (divide_delayUnit negative units).trans finite⟩ uncountable
    · have large := (divide_delayUnit negative units).trans infinite
      refine ⟨_, .overflow read large, ?_⟩
      rw [delayUnits_of_seconds read, large]
      rfl
  cases found : duration.integer? with
  | some integer =>
      rcases seconds_of_integer_cases found with finite | ⟨tooLarge, large⟩
      · exact overflows finite
      · exact ⟨_, .tooLarge found large, delayUnits_of_refused tooLarge⟩
  | none =>
      cases duration with
      | float number =>
          cases number with
          | finite negative units => exact overflows rfl
          | nan => exact ⟨_, .undefined, rfl⟩
          | infinite negative =>
              refine ⟨_, .infinite negative, ?_⟩
              rw [delayUnits_float, infinite_divide_delayUnit]
              rfl
      | bool | int => cases found
      | null | str | list | tuple | dict | thing => exact ⟨_, .noNumber rfl, rfl⟩

end Duration

namespace Member

open Duration (IsCountable)

variable {duration : Value} {calls : Nat}

/-- A delay that appends so many calls and a blank line to every open program. -/
def Waits (duration : Value) (calls : Nat) : Prop :=
  ∀ program : Program, program.isFinal = false → ∃ reached,
    (request "delay" (.ofList [duration])).run program = (.ok .nothing, reached) ∧
      program.Adds (delayTexts calls) reached

theorem waits_of_delayUnits (counted : Duration.delayUnits duration = .ok calls) :
    Waits duration calls :=
  fun _ isOpen => exists_run_of_counted counted isOpen

theorem Waits.eq {others : Nat} (left : Waits duration calls) (right : Waits duration others) :
    calls = others := by
  obtain ⟨reached, run, adds⟩ := left .initial rfl
  obtain ⟨again, runAgain, addsAgain⟩ := right .initial rfl
  cases run.symm.trans runAgain
  have same := congrArg List.length (adds.code.symm.trans addsAgain.code)
  simpa [delayTexts] using same

theorem run_delay_of_refused {fault : Fault}
    (refused : Duration.delayUnits duration = .error fault) (program : Program) :
    (request "delay" (.ofList [duration])).run program = (.error fault, program) := by
  have drafted : (Statement.delay duration).draft = [.error fault] := by
    rw [Statement.draft, refused]
  have runs := run_refused (ofOperation_delay duration) drafted program
  exact runs

theorem Waits.isCountable (waits : Waits duration calls) : IsCountable duration := by
  by_contra uncountable
  obtain ⟨fault, _, refused⟩ := Duration.exists_refused uncountable
  obtain ⟨reached, run, _⟩ := waits .initial rfl
  cases run.symm.trans (run_delay_of_refused refused .initial)

/-- A delay whose quotient by the delay unit is a finite number takes calls of the delay subroutine
on every open program, and none only if it is not positive; of two such delays the longer one takes
at least as many calls.  Every other value is refused, and then every program stays as it is. -/
theorem delays_in_order :
    (∀ duration : Value.Representable, IsCountable duration.val →
      ∃ calls, Waits duration.val calls ∧ (calls = 0 ↔ duration.val.AtMost (.int 0))) ∧
    (∀ (less more : Value.Representable) (fewer further : Nat),
      less.val.AtMost more.val → Waits less.val fewer → Waits more.val further →
        fewer ≤ further) ∧
    ∀ duration : Value, ¬ IsCountable duration →
      ∃ fault, Duration.Refused duration fault ∧ ∀ program : Program,
        (request "delay" (.ofList [duration])).run program = (.error fault, program) := by
  refine ⟨fun duration isCountable => ?_, ?_, fun duration uncountable => ?_⟩
  · obtain ⟨negative, units, exact, counted⟩ :=
      Duration.exists_calls duration.property isCountable
    refine ⟨_, waits_of_delayUnits counted, ?_⟩
    have zero : (Value.int 0).integer? = some 0 := rfl
    rw [Duration.calls_eq_zero_iff, Value.atMost_iff exact (Value.number?_of_integer zero)]
    simp
  · intro less more fewer further le leftWaits rightWaits
    obtain ⟨negative, units, exact, counted⟩ :=
      Duration.exists_calls less.property leftWaits.isCountable
    obtain ⟨other, others, further_exact, further_counted⟩ :=
      Duration.exists_calls more.property rightWaits.isCountable
    rw [leftWaits.eq (waits_of_delayUnits counted),
      rightWaits.eq (waits_of_delayUnits further_counted)]
    exact Duration.calls_mono ((Value.atMost_iff exact further_exact).mp le)
  · obtain ⟨fault, reason, refused⟩ := Duration.exists_refused uncountable
    exact ⟨fault, reason, run_delay_of_refused refused⟩

/-- The least positive number takes a call, one second, which is an integer, takes at least as many,
and a text is refused. -/
theorem delays_in_order_of_least :
    (∃ fewer further, Waits (.float (.finite false 1)) fewer ∧ Waits (.int 1) further ∧
      fewer ≠ 0 ∧ fewer ≤ further) ∧
    ∃ fault, Duration.Refused (.str "soon") fault ∧ ∀ program : Program,
      (request "delay" (.ofList [.str "soon"])).run program = (.error fault, program) := by
  obtain ⟨takes, ordered, refuses⟩ := delays_in_order
  have least : (Value.float (.finite false 1)).IsRepresentable :=
    ⟨Binary64.isExact_one, by decide +kernel⟩
  have second : (Value.int 1).IsRepresentable := trivial
  have leastCounts : IsCountable (.float (.finite false 1)) := by
    have finite : Binary64.roundUnits (1 * unit) (Duration.nearest 1) < Binary64.overflow := by
      decide +kernel
    exact ⟨_, _, _, rfl,
      (Duration.divide_delayUnit false 1).trans (Binary64.ofQuotient_of_isFinite finite)⟩
  have secondCounts : IsCountable (.int 1) := by
    have isOne : Binary64.ofInt 1 = .finite false unit := by decide +kernel
    have read := Duration.seconds_of_integer rfl (show (Value.int 1).integer? = some 1 from rfl)
    rw [isOne] at read
    have finite : Binary64.roundUnits (unit * unit) (Duration.nearest 1) < Binary64.overflow := by
      decide +kernel
    exact ⟨_, _, _, read,
      (Duration.divide_delayUnit false unit).trans (Binary64.ofQuotient_of_isFinite finite)⟩
  obtain ⟨fewer, leastWaits, none_iff⟩ := takes ⟨_, least⟩ leastCounts
  obtain ⟨further, secondWaits, _⟩ := takes ⟨_, second⟩ secondCounts
  have number : (Value.float (.finite false 1)).number? = some (.finite false 1) := rfl
  have isInteger : (Value.int 1).integer? = some 1 := rfl
  have zero : (Value.int 0).integer? = some 0 := rfl
  refine ⟨⟨fewer, further, leastWaits, secondWaits, fun none => ?_, ?_⟩, refuses _ ?_⟩
  · have notPositive := (Value.atMost_iff number (Value.number?_of_integer zero)).mp
      (none_iff.mp none)
    simp at notPositive
  · refine ordered ⟨_, least⟩ ⟨_, second⟩ _ _ ?_ leastWaits secondWaits
    rw [Value.atMost_iff number (Value.number?_of_integer isInteger)]
    decide +kernel
  · rintro ⟨_, _, _, read, _⟩
    cases read

end Member

end PicAssembly
