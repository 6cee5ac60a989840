import Mathlib.Algebra.Group.Nat.Defs
import Mathlib.Logic.Function.Basic
import Mathlib.Tactic.SplitIfs
import PicAssembly.Formatting

/-!
# Integers read back from their literals

A literal has the sign of an integer and then digits that spell its absolute value, filled up with
zeros if there are too few of them, and with no zero in front otherwise.  The digits can be read
back, and no digit is a minus sign, so different integers have different literals.
-/

namespace PicAssembly.Literal

/-! ## Reading digits -/

/-- The digits of all bases up to sixteen, each in the place of its value. -/
def alphabet : List Char :=
  "0123456789abcdef".toList

/-- The value of a digit in a base. -/
def digit? (base : Nat) (char : Char) : Option Nat :=
  (alphabet.take base).idxOf? char

/-- The number that digits spell behind those of another number, the first one counting most. -/
def numberFrom? (base start : Nat) (digits : List Char) : Option Nat :=
  digits.foldlM (fun number char => (digit? base char).map (base * number + ·)) start

/-- The number that digits spell. -/
def number? (base : Nat) (digits : List Char) : Option Nat :=
  numberFrom? base 0 digits

/-- The sign in front of the digits of an integer. -/
def sign (value : Int) : List Char :=
  if value < 0 then ['-'] else []

variable {base width number : Nat} {digits : List Char}

theorem numberFrom?_cons (base start : Nat) (char : Char) (digits : List Char) :
    numberFrom? base start (char :: digits) =
      (digit? base char).bind fun digit => numberFrom? base (base * start + digit) digits := by
  rw [numberFrom?, List.foldlM_cons]
  cases digit? base char <;> rfl

theorem numberFrom?_append (base start : Nat) (front back : List Char) :
    numberFrom? base start (front ++ back) =
      (numberFrom? base start front).bind fun number => numberFrom? base number back := by
  rw [numberFrom?, List.foldlM_append]
  rfl

theorem digit?_digitChar {digit : Nat} (small : base ≤ 16) (less : digit < base) :
    digit? base digit.digitChar = some digit := by
  have settled : ∀ base ≤ 16, ∀ digit < base,
      digit? base (Nat.digitChar digit) = some digit := by
    decide +kernel
  exact settled base small digit less

theorem mem_of_digit? {char : Char} {digit : Nat} (reads : digit? base char = some digit) :
    char ∈ alphabet.take base := by
  by_contra missing
  rw [digit?, List.idxOf?_eq_none_iff.mpr missing] at reads
  cases reads

/-- What can be read as a number consists of digits. -/
theorem mem_of_numberFrom? {start : Nat} (reads : numberFrom? base start digits = some number) :
    ∀ char ∈ digits, char ∈ alphabet.take base := by
  induction digits generalizing start with
  | nil => simp
  | cons char digits induction =>
      rw [numberFrom?_cons] at reads
      obtain ⟨digit, first, rest⟩ := Option.bind_eq_some_iff.mp reads
      exact List.forall_mem_cons.mpr ⟨mem_of_digit? first, induction rest⟩

theorem minus_not_mem (reads : number? base digits = some number) : '-' ∉ digits := by
  intro member
  have inAlphabet := List.mem_of_mem_take (mem_of_numberFrom? reads _ member)
  revert inAlphabet
  decide

theorem number?_toDigits (isBase : 1 < base) (small : base ≤ 16) (number : Nat) :
    number? base (Nat.toDigits base number) = some number := by
  induction number using Nat.strongRecOn with
  | _ number induction =>
      rw [Nat.toDigits_eq_if isBase]
      split
      · next less => simp [number?, numberFrom?, digit?_digitChar small less]
      · next large =>
          have front := induction (number / base) (Nat.div_lt_self (by omega) isBase)
          have last := digit?_digitChar small (Nat.mod_lt number (by omega))
          rw [number?, numberFrom?_append]
          rw [number?] at front
          simp only [front, Option.bind_some, numberFrom?_cons, last]
          simp [numberFrom?, Nat.div_add_mod]

/-- Zeros in front make no difference. -/
theorem number?_replicate_append (isBase : 1 < base) (small : base ≤ 16) (count : Nat)
    (digits : List Char) :
    number? base (List.replicate count '0' ++ digits) = number? base digits := by
  have zero : digit? base '0' = some 0 := digit?_digitChar small (by omega : 0 < base)
  induction count with
  | zero => rfl
  | succ count induction =>
      rw [List.replicate_succ, List.cons_append, number?, numberFrom?_cons, zero, Option.bind_some]
      exact induction

/-! ## Writing digits -/

/-- The digits of a number, filled up with zeros to a width. -/
def padded (base width number : Nat) : List Char :=
  List.replicate (width - (Nat.toDigits base number).length) '0' ++ Nat.toDigits base number

/-- Digits that spell a number in a base and in at least some width. -/
structure Spells (base width number : Nat) (digits : List Char) : Prop where
  /-- Only digits of the base occur, those above nine as small letters. -/
  inBase : ∀ char ∈ digits, char ∈ alphabet.take base
  reads : number? base digits = some number
  wide : width ≤ digits.length
  exact : number < base ^ width → digits.length = width
  noLeadingZero : width < digits.length → digits.head? ≠ some '0'

theorem head?_toDigits_eq_zero_iff (isBase : 1 < base) (number : Nat) :
    (Nat.toDigits base number).head? = some '0' ↔ number = 0 := by
  constructor
  · induction number using Nat.strongRecOn with
    | _ number induction =>
        rw [Nat.toDigits_eq_if isBase]
        split
        · simp
        · next large =>
            intro leads
            have front : (Nat.toDigits base (number / base)).head? = some '0' := by
              rwa [List.head?_append, List.head?_eq_some_head Nat.toDigits_ne_nil, Option.some_or,
                ← List.head?_eq_some_head] at leads
            have quotient := induction _ (Nat.div_lt_self (by omega) isBase) front
            rcases Nat.div_eq_zero_iff.mp quotient with none | less <;> omega
  · rintro rfl
    rw [Nat.toDigits_zero]
    rfl

/-- Every number has a digit, so there is nothing to fill up in one column. -/
theorem padded_of_le_one (narrow : width ≤ 1) (number : Nat) :
    padded base width number = Nat.toDigits base number := by
  have positive : 0 < (Nat.toDigits base number).length := Nat.length_toDigits_pos
  have none : width - (Nat.toDigits base number).length = 0 := by omega
  rw [padded, none, List.replicate_zero, List.nil_append]

theorem spells_padded (isBase : 1 < base) (small : base ≤ 16) (positive : 0 < width)
    (number : Nat) : Spells base width number (padded base width number) := by
  have reads : number? base (padded base width number) = some number := by
    rw [padded, number?_replicate_append isBase small, number?_toDigits isBase small]
  have length : (padded base width number).length =
      width - (Nat.toDigits base number).length + (Nat.toDigits base number).length := by
    simp [padded]
  have fits := Nat.length_toDigits_le_iff (n := number) isBase positive
  refine
    { inBase := mem_of_numberFrom? reads
      reads := reads
      wide := by omega
      exact := fun less => ?_
      noLeadingZero := fun long leads => ?_ }
  · have short := fits.mpr less
    omega
  · have noZeros : width - (Nat.toDigits base number).length = 0 := by omega
    rw [padded, noZeros, List.replicate_zero, List.nil_append,
      head?_toDigits_eq_zero_iff isBase] at leads
    subst leads
    have single : (Nat.toDigits base 0).length = 1 := by
      rw [Nat.toDigits_zero, List.length_singleton]
    omega

theorem signedDigits_eq (base width : Nat) (value : Int) :
    signedDigits base width value =
      sign value ++ padded base (width - (sign value).length) value.natAbs := by
  simp only [signedDigits, padded, sign, List.append_assoc]

/-- Signed digits stand for one integer only. -/
theorem eq_of_signed {left right : Int} {leftDigits rightDigits : List Char}
    (leftReads : number? base leftDigits = some left.natAbs)
    (rightReads : number? base rightDigits = some right.natAbs)
    (same : sign left ++ leftDigits = sign right ++ rightDigits) : left = right := by
  have magnitudes (equal : leftDigits = rightDigits) : left.natAbs = right.natAbs := by
    rw [equal, rightReads] at leftReads
    exact (Option.some.inj leftReads).symm
  rw [sign, sign] at same
  -- With two different signs, one list of digits would start with a minus sign.
  split_ifs at same with leftNegative rightNegative rightNegative
  · have equal := magnitudes (List.append_cancel_left same)
    omega
  · rw [List.nil_append] at same
    exact absurd (same ▸ List.mem_cons_self) (minus_not_mem rightReads)
  · rw [List.nil_append] at same
    exact absurd (same ▸ List.mem_cons_self) (minus_not_mem leftReads)
  · have equal := magnitudes (List.append_cancel_left same)
    omega

/-! ## Literals -/

theorem toList_hexadecimal (value : Int) :
    (hexadecimal value).toList = '0' :: 'x' :: (sign value ++ Nat.toDigits 16 value.natAbs) := by
  rw [hexadecimal, String.toList_ofList, signedDigits_eq, Nat.zero_sub,
    padded_of_le_one (Nat.zero_le 1)]

theorem toList_binary (value : Int) :
    (binary value).toList =
      'b' :: '\'' ::
        (sign value ++ padded 2 (8 - (sign value).length) value.natAbs ++ ['\'']) := by
  rw [binary, String.toList_ofList, signedDigits_eq]

theorem length_sign_le (value : Int) : (sign value).length ≤ 1 := by
  rw [sign]
  split <;> simp

theorem spells_hexadecimal (value : Int) :
    Spells 16 1 value.natAbs (Nat.toDigits 16 value.natAbs) := by
  rw [← padded_of_le_one (Nat.le_refl 1)]
  exact spells_padded (by decide) (by decide) (by decide) _

theorem spells_binary (value : Int) :
    Spells 2 (8 - (sign value).length) value.natAbs
      (padded 2 (8 - (sign value).length) value.natAbs) := by
  have short := length_sign_le value
  exact spells_padded (by decide) (by decide) (by omega) _

theorem hexadecimal_injective : Function.Injective hexadecimal := by
  intro left right same
  have chars := congrArg String.toList same
  rw [toList_hexadecimal, toList_hexadecimal] at chars
  simp only [List.cons.injEq, true_and] at chars
  exact eq_of_signed (spells_hexadecimal left).reads (spells_hexadecimal right).reads chars

theorem binary_injective : Function.Injective binary := by
  intro left right same
  have chars := congrArg String.toList same
  rw [toList_binary, toList_binary] at chars
  simp only [List.cons.injEq, true_and] at chars
  have signed := List.append_cancel_right chars
  exact eq_of_signed (spells_binary left).reads (spells_binary right).reads signed

/-- Every integer is written in both bases with its sign and with digits that spell its absolute
value, in hexadecimal without padding and in binary with at least eight columns, the sign among
them; so no two integers have a literal in common. -/
theorem literals_spell_integers :
    (∀ value : Int, ∃ digits,
      Formatting.hexLiteral.apply [.int value] =
        .ok ("0x" ++ String.ofList (sign value ++ digits)) ∧
      Spells 16 1 value.natAbs digits ∧ (digits.head? = some '0' ↔ value = 0)) ∧
    (∀ value : Int, ∃ digits,
      Formatting.binaryLiteral.apply [.int value] =
        .ok ("b'" ++ String.ofList (sign value ++ digits) ++ "'") ∧
      Spells 2 (8 - (sign value).length) value.natAbs digits) ∧
    Function.Injective (fun value : Int => Formatting.hexLiteral.apply [.int value]) ∧
    Function.Injective (fun value : Int => Formatting.binaryLiteral.apply [.int value]) := by
  have hexadecimals (value : Int) :
      Formatting.hexLiteral.apply [.int value] = .ok (hexadecimal value) := rfl
  have binaries (value : Int) :
      Formatting.binaryLiteral.apply [.int value] = .ok (binary value) := rfl
  refine ⟨fun value => ⟨_, ?_, spells_hexadecimal value, ?_⟩,
    fun value => ⟨_, ?_, spells_binary value⟩, ?_, ?_⟩
  · rw [hexadecimals]
    apply congrArg Except.ok
    apply String.toList_injective
    simp [toList_hexadecimal]
  · rw [head?_toDigits_eq_zero_iff (by decide), Int.natAbs_eq_zero]
  · rw [binaries]
    apply congrArg Except.ok
    apply String.toList_injective
    simp [toList_binary]
  · intro left right same
    exact hexadecimal_injective (Except.ok.inj same)
  · intro left right same
    exact binary_injective (Except.ok.inj same)

end PicAssembly.Literal
