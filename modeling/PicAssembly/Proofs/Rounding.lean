import Mathlib.Tactic.Linarith
import Mathlib.Tactic.Ring
import PicAssembly.Number.Binary64

/-!
# Rounding to binary numbers

A count of units is exact if it is a multiple of the spacing around it.  Rounding a quotient never
passes an exact count on either side, and it reaches one that is nearer than half a spacing.
-/

namespace PicAssembly.Binary64

/-! ## Rounding to a whole number -/

variable {numerator denominator units : Nat}

theorem roundHalfEven_cases (numerator denominator : Nat) :
    roundHalfEven numerator denominator = numerator / denominator ∧
        2 * (numerator % denominator) ≤ denominator ∨
      roundHalfEven numerator denominator = numerator / denominator + 1 ∧
        denominator ≤ 2 * (numerator % denominator) := by
  rw [roundHalfEven]
  split
  · next below => exact .inl ⟨rfl, below.le⟩
  · next notBelow =>
      split
      · next above => exact .inr ⟨rfl, above.le⟩
      · next notAbove =>
          rcases Nat.mod_two_eq_zero_or_one (numerator / denominator) with even | odd
          · exact .inl ⟨by rw [even, Nat.add_zero], not_lt.mp notAbove⟩
          · exact .inr ⟨by rw [odd], not_lt.mp notBelow⟩

/-- A rounded quotient is at most half a whole number above the quotient. -/
theorem roundHalfEven_mul_le (numerator denominator : Nat) :
    2 * (roundHalfEven numerator denominator * denominator) ≤ 2 * numerator + denominator := by
  have division := Nat.div_add_mod' numerator denominator
  rcases roundHalfEven_cases numerator denominator with ⟨rounded, _⟩ | ⟨rounded, half⟩
  · rw [rounded]
    omega
  · rw [rounded, Nat.add_mul]
    omega

/-- A rounded quotient is at most half a whole number below the quotient. -/
theorem le_roundHalfEven_mul (positive : 0 < denominator) (numerator : Nat) :
    2 * numerator ≤ 2 * (roundHalfEven numerator denominator * denominator) + denominator := by
  have division := Nat.div_add_mod' numerator denominator
  rcases roundHalfEven_cases numerator denominator with ⟨rounded, half⟩ | ⟨rounded, _⟩
  · rw [rounded]
    omega
  · have rest := Nat.mod_lt numerator positive
    rw [rounded, Nat.add_mul]
    omega

/-- A whole number below a quotient is not above the rounded one. -/
theorem le_roundHalfEven (positive : 0 < denominator) (below : units * denominator ≤ numerator) :
    units ≤ roundHalfEven numerator denominator := by
  have quotient := (Nat.le_div_iff_mul_le positive).mpr below
  rcases roundHalfEven_cases numerator denominator with ⟨rounded, _⟩ | ⟨rounded, _⟩ <;>
    rw [rounded] <;> omega

/-- A quotient that is less than half above a whole number is not rounded to more. -/
theorem roundHalfEven_le (close : 2 * numerator < (2 * units + 1) * denominator) :
    roundHalfEven numerator denominator ≤ units := by
  have bound := roundHalfEven_mul_le numerator denominator
  by_contra above
  have product := Nat.mul_le_mul_right denominator (Nat.succ_le_of_lt (not_le.mp above))
  linarith

/-- A larger quotient is not rounded to less. -/
theorem roundHalfEven_mono {less more : Nat} (le : less ≤ more) (denominator : Nat) :
    roundHalfEven less denominator ≤ roundHalfEven more denominator := by
  rcases (Nat.div_le_div_right le : less / denominator ≤ more / denominator).lt_or_eq with
    lower | same
  · have below := roundHalfEven_cases less denominator
    have above := roundHalfEven_cases more denominator
    omega
  · have division := Nat.div_add_mod less denominator
    have others := Nat.div_add_mod more denominator
    rw [same] at division
    have rests : less % denominator ≤ more % denominator := by omega
    rw [roundHalfEven, roundHalfEven, same]
    split_ifs <;> omega

/-! ## The spacing of counts -/

theorem spacing_eq (units : Nat) : spacing units = 2 ^ (units.log2 - 52) := rfl

theorem spacing_pos (units : Nat) : 0 < spacing units :=
  Nat.two_pow_pos _

theorem log2_le_log2 {less more : Nat} (le : less ≤ more) : less.log2 ≤ more.log2 := by
  rcases Nat.eq_zero_or_pos less with rfl | positive
  · exact Nat.zero_le _
  · have below := (Nat.log2_self_le positive.ne').trans le
    exact (Nat.le_log2 (positive.trans_le le).ne').mpr below

theorem spacing_dvd_spacing {less more : Nat} (le : less ≤ more) :
    spacing less ∣ spacing more :=
  Nat.pow_dvd_pow 2 (Nat.sub_le_sub_right (log2_le_log2 le) 52)

theorem lt_mul_spacing (units : Nat) : units < 2 ^ 53 * spacing units := by
  have above : units < 2 ^ (units.log2 + 1) := Nat.lt_log2_self
  rw [spacing_eq, ← Nat.pow_add]
  exact above.trans_le (Nat.pow_le_pow_right Nat.two_pos (by omega))

theorem mul_spacing_le (coarse : 1 < spacing units) : 2 ^ 52 * spacing units ≤ units := by
  have large : 52 < units.log2 := by
    by_contra small
    rw [spacing_eq, Nat.sub_eq_zero_of_le (not_lt.mp small)] at coarse
    exact lt_irrefl _ coarse
  have nonzero : units ≠ 0 := by
    rintro rfl
    simp at large
  rw [spacing_eq, ← Nat.pow_add, Nat.add_sub_cancel' large.le]
  exact Nat.log2_self_le nonzero

theorem two_pow_le_spacing {exponent : Nat} (large : 2 ^ 52 * 2 ^ exponent ≤ units) :
    2 ^ exponent ≤ spacing units := by
  have nonzero : units ≠ 0 :=
    ((Nat.mul_pos (Nat.two_pow_pos 52) (Nat.two_pow_pos exponent)).trans_le large).ne'
  have logarithm : 52 + exponent ≤ units.log2 := by
    rwa [Nat.le_log2 nonzero, Nat.pow_add]
  exact Nat.pow_le_pow_right Nat.two_pos (by omega)

/-- A spacing is the one of smaller counts or at least twice as large. -/
theorem two_mul_spacing_le {less more : Nat} (le : less ≤ more)
    (differs : spacing less ≠ spacing more) : 2 * spacing less ≤ spacing more := by
  obtain ⟨factor, product⟩ := spacing_dvd_spacing le
  have positive := spacing_pos more
  rw [product] at positive differs ⊢
  rcases factor with _ | _ | factor
  · simp at positive
  · simp at differs
  · nlinarith

/-! ## Exact counts -/

/-- A count of units that a number can have. -/
def IsExact (units : Nat) : Prop :=
  spacing units ∣ units

/-- The next exact count has at most one bit more. -/
theorem add_spacing_le (isExact : IsExact units) :
    units + spacing units ≤ 2 ^ 53 * spacing units := by
  obtain ⟨count, product⟩ := isExact
  have few : count < 2 ^ 53 := by
    refine Nat.lt_of_mul_lt_mul_left (a := spacing units) ?_
    rw [← product, mul_comm]
    exact lt_mul_spacing units
  calc
    units + spacing units = spacing units * (count + 1) := by rw [mul_add, ← product, mul_one]
    _ ≤ spacing units * 2 ^ 53 := Nat.mul_le_mul_left _ few
    _ = 2 ^ 53 * spacing units := mul_comm _ _

/-- Up to fifty-three bits may stand before any number of zeros. -/
theorem isExact_mul_two_pow {count : Nat} (small : count ≤ 2 ^ 53) (exponent : Nat) :
    IsExact (count * 2 ^ exponent) := by
  rcases Nat.eq_zero_or_pos count with rfl | positive
  · rw [Nat.zero_mul]
    exact Nat.dvd_zero _
  have nonzero : count * 2 ^ exponent ≠ 0 := (Nat.mul_pos positive (Nat.two_pow_pos _)).ne'
  rw [IsExact, spacing_eq]
  rcases small.lt_or_eq with less | rfl
  · have logarithm : (count * 2 ^ exponent).log2 < 53 + exponent := by
      rw [Nat.log2_lt nonzero, Nat.pow_add]
      exact Nat.mul_lt_mul_of_pos_right less (Nat.two_pow_pos _)
    exact (Nat.pow_dvd_pow 2 (by omega)).trans (Nat.dvd_mul_left _ _)
  · rw [← Nat.pow_add, Nat.log2_two_pow]
    exact Nat.pow_dvd_pow 2 (by omega)

theorem isExact_one : IsExact 1 :=
  isExact_mul_two_pow (by decide : 1 ≤ 2 ^ 53) 0

/-- An exact count below a quotient is not above the rounded one. -/
theorem le_roundUnits (positive : 0 < denominator) (isExact : IsExact units)
    (below : units * denominator ≤ numerator) : units ≤ roundUnits numerator denominator := by
  have le := (Nat.le_div_iff_mul_le positive).mpr below
  rw [roundUnits]
  by_cases same : spacing units = spacing (numerator / denominator)
  · obtain ⟨multiple, product⟩ := isExact
    rw [same, mul_comm] at product
    rw [product] at below ⊢
    refine Nat.mul_le_mul_right _ (le_roundHalfEven ?_ ?_)
    · exact Nat.mul_pos positive (spacing_pos _)
    · rwa [mul_comm denominator, ← mul_assoc]
  · have double := two_mul_spacing_le le same
    have coarse := mul_spacing_le (show 1 < spacing (numerator / denominator) by
      have := spacing_pos units
      omega)
    have many : 2 ^ 52 ≤ roundHalfEven numerator
        (denominator * spacing (numerator / denominator)) := by
      refine le_roundHalfEven (Nat.mul_pos positive (spacing_pos _)) ?_
      calc
        2 ^ 52 * (denominator * spacing (numerator / denominator)) =
            2 ^ 52 * spacing (numerator / denominator) * denominator := by ring
        _ ≤ numerator := (Nat.le_div_iff_mul_le positive).mp coarse
    calc
      units ≤ 2 ^ 53 * spacing units := (lt_mul_spacing units).le
      _ ≤ 2 ^ 52 * spacing (numerator / denominator) := by omega
      _ ≤ _ := Nat.mul_le_mul_right _ many

/-- A quotient is rounded to at most fifty-three bits. -/
theorem roundUnits_le_mul_spacing (positive : 0 < denominator) (numerator : Nat) :
    roundUnits numerator denominator ≤ 2 ^ 53 * spacing (numerator / denominator) := by
  have quotient := lt_mul_spacing (numerator / denominator)
  rw [Nat.div_lt_iff_lt_mul positive] at quotient
  refine Nat.mul_le_mul_right _ (roundHalfEven_le ?_)
  generalize spacing (numerator / denominator) = step at quotient ⊢
  have scaled : 2 ^ 53 * step * denominator = 2 ^ 53 * (denominator * step) := by ring
  rw [scaled] at quotient
  rw [Nat.add_mul]
  omega

/-- A larger quotient is not rounded to less. -/
theorem roundUnits_mono (positive : 0 < denominator) {less more : Nat} (le : less ≤ more) :
    roundUnits less denominator ≤ roundUnits more denominator := by
  have quotients : less / denominator ≤ more / denominator := Nat.div_le_div_right le
  by_cases same : spacing (less / denominator) = spacing (more / denominator)
  · rw [roundUnits, roundUnits, same]
    exact Nat.mul_le_mul_right _ (roundHalfEven_mono le _)
  · have double := two_mul_spacing_le quotients same
    have coarse := mul_spacing_le (show 1 < spacing (more / denominator) by
      have := spacing_pos (less / denominator)
      omega)
    rw [Nat.le_div_iff_mul_le positive] at coarse
    calc
      roundUnits less denominator ≤ 2 ^ 53 * spacing (less / denominator) :=
        roundUnits_le_mul_spacing positive less
      _ ≤ 2 ^ 52 * spacing (more / denominator) := by omega
      _ ≤ roundUnits more denominator :=
        le_roundUnits positive (isExact_mul_two_pow (by decide) _) coarse

theorem roundUnits_le_of_dvd (multiple : spacing (numerator / denominator) ∣ units)
    (close : 2 * numerator < (2 * units + spacing (numerator / denominator)) * denominator) :
    roundUnits numerator denominator ≤ units := by
  obtain ⟨count, product⟩ := multiple
  rw [roundUnits, product, mul_comm _ count]
  refine Nat.mul_le_mul_right _ (roundHalfEven_le ?_)
  calc
    2 * numerator < (2 * units + spacing (numerator / denominator)) * denominator := close
    _ = (2 * count + 1) * (denominator * spacing (numerator / denominator)) := by
      rw [product]
      ring

/-- A quotient that is less than half a spacing above an exact count is not rounded to more. -/
theorem roundUnits_le (positive : 0 < denominator) (isExact : IsExact units)
    (close : 2 * numerator < (2 * units + spacing units) * denominator) :
    roundUnits numerator denominator ≤ units := by
  rcases Nat.le_total numerator (units * denominator) with below | above
  · have le : numerator / denominator ≤ units := Nat.div_le_of_le_mul (by rwa [mul_comm])
    refine roundUnits_le_of_dvd ((spacing_dvd_spacing le).trans isExact) ?_
    have spaced := Nat.mul_pos (spacing_pos (numerator / denominator)) positive
    linarith
  · have le := (Nat.le_div_iff_mul_le positive).mpr above
    -- The quotient lies in the same stretch of equal spacings as the count.
    have same : spacing units = spacing (numerator / denominator) := by
      by_contra differs
      have double := two_mul_spacing_le le differs
      have coarse := mul_spacing_le (show 1 < spacing (numerator / denominator) by
        have := spacing_pos units
        omega)
      have room := add_spacing_le isExact
      have beyond : numerator < (units + spacing units) * denominator := by
        nlinarith
      have short := (Nat.div_lt_iff_lt_mul positive).mpr beyond
      omega
    exact roundUnits_le_of_dvd (same ▸ isExact) (same ▸ close)

/-- A quotient that is at most an exact count is not rounded to more. -/
theorem roundUnits_le_of_le (positive : 0 < denominator) (isExact : IsExact units)
    (below : numerator ≤ units * denominator) : roundUnits numerator denominator ≤ units := by
  refine roundUnits_le positive isExact ?_
  have spaced := Nat.mul_pos (spacing_pos units) positive
  linarith

theorem roundUnits_of_isExact (isExact : IsExact units) : roundUnits units 1 = units :=
  Nat.le_antisymm (roundUnits_le_of_le Nat.one_pos isExact (Nat.mul_one units).ge)
    (le_roundUnits Nat.one_pos isExact (Nat.mul_one units).le)

/-- Rounding changes a quotient of at least fifty-two bits by no more than a part in `2 ^ 53`. -/
theorem roundUnits_error (positive : 0 < denominator)
    (normal : 2 ^ 52 * denominator ≤ numerator) :
    2 ^ 53 * (roundUnits numerator denominator * denominator) ≤ (2 ^ 53 + 1) * numerator ∧
      (2 ^ 53 - 1) * numerator ≤ 2 ^ 53 * (roundUnits numerator denominator * denominator) := by
  have large := (Nat.le_div_iff_mul_le positive).mpr normal
  rw [roundUnits]
  generalize step_eq : spacing (numerator / denominator) = step
  have spaced : 0 < step := step_eq ▸ spacing_pos _
  have coarse : 2 ^ 52 * step ≤ numerator / denominator := by
    rcases Nat.eq_or_lt_of_le (Nat.succ_le_of_lt spaced) with fine | coarse
    · rw [← fine]
      exact large
    · rw [← step_eq] at coarse ⊢
      exact mul_spacing_le coarse
  have part := (Nat.le_div_iff_mul_le positive).mp coarse
  have above := roundHalfEven_mul_le numerator (denominator * step)
  have below := le_roundHalfEven_mul (Nat.mul_pos positive spaced) numerator
  generalize roundHalfEven numerator (denominator * step) = rounded at above below ⊢
  have product : rounded * (denominator * step) = rounded * step * denominator := by ring
  have parts : 2 ^ 52 * step * denominator = 2 ^ 52 * (denominator * step) := by ring
  rw [product] at above below
  rw [parts] at part
  constructor
  · omega
  · omega

/-! ## Quotients -/

/-- Rounding stands for a variable here: nothing may work it out while the cases of a division are
gone through. -/
theorem divide_of_rounds {rounded : Bool → Nat → Nat → Binary64} (rounds : ofQuotient = rounded)
    (left right : Bool) (numerator less : Nat) :
    (finite left numerator).divide (finite right (less + 1)) =
      rounded (left != right) numerator (less + 1) := by
  delta divide
  rw [rounds]
  rfl

/-- A quotient of finite numbers is the rounded quotient of their units. -/
theorem divide_finite (positive : 0 < denominator) (left right : Bool) :
    (finite left numerator).divide (finite right denominator) =
      ofQuotient (left != right) numerator denominator := by
  obtain ⟨less, rfl⟩ := Nat.exists_eq_add_one.mpr positive
  exact divide_of_rounds rfl left right numerator less

theorem ofQuotient_of_isFinite {negative : Bool}
    (isFinite : roundUnits (numerator * unit) denominator < overflow) :
    ofQuotient negative numerator denominator =
      finite negative (roundUnits (numerator * unit) denominator) := by
  rw [ofQuotient]
  exact if_pos isFinite

end PicAssembly.Binary64
