import PicAssembly.Proofs.EndMarker

/-!
# Capitals of capitals

A capital form starts with a character that is its own capital form.  For letters of runs this is
seen run by run: the capitals of a run lie between its first and its last one, and no other run has
letters there, unless all of its letters are odd where the capitals are even, or even where they
are odd.
-/

namespace PicAssembly.Capital

/-! ## Code points between two others -/

/-- Whether runs in order hold no code point from `low` to `high`; if the code points are all as
even as `low`, a run of which no letter is passes as well. -/
def passRuns (low high : Nat) (steady : Bool) : List Run → Bool
  | [] => true
  | run :: runs =>
      Nat.blt high run.first ||
        (Nat.blt run.last low || steady && run.stride % 2 == 0 && (low + run.first) % 2 == 1) &&
          passRuns low high steady runs

/-- Whether expansions in order are given for no code point from `low` to `high`. -/
def passExpansions (low high : Nat) : List (Nat × List Nat) → Bool
  | [] => true
  | entry :: entries =>
      Nat.blt high entry.1 || Nat.blt entry.1 low && passExpansions low high entries

variable {low high code : Nat}

theorem mod_two_of_contains {run : Run} (even : run.stride % 2 = 0)
    (contains : run.contains code = true) : code % 2 = run.first % 2 := by
  simp only [Run.contains, Bool.and_eq_true, decide_eq_true_eq, beq_iff_eq] at contains
  obtain ⟨⟨above, _⟩, multiple⟩ := contains
  have twice : 2 ∣ code - run.first :=
    Nat.dvd_trans (Nat.dvd_of_mod_eq_zero even) (Nat.dvd_of_mod_eq_zero multiple)
  omega

theorem single?_eq_none {steady : Bool} {runs : List Run} (above : low ≤ code)
    (below : code ≤ high) (parity : steady = true → code % 2 = low % 2)
    (pass : passRuns low high steady runs = true) : single? runs code = none := by
  induction runs with
  | nil => rfl
  | cons run runs induction =>
      simp only [passRuns, Nat.blt_eq, Bool.or_eq_true, Bool.and_eq_true, beq_iff_eq] at pass
      rw [single?]
      split
      · rfl
      · next reached =>
          obtain ⟨passes, rest⟩ := pass.resolve_left fun behind =>
            reached (Nat.lt_of_le_of_lt below behind)
          have excluded : ¬ run.contains code = true := by
            intro contains
            rcases passes with before | ⟨⟨isSteady, even⟩, odd⟩
            · simp only [Run.contains, Bool.and_eq_true, decide_eq_true_eq] at contains
              omega
            · have same := parity isSteady
              have letter := mod_two_of_contains even contains
              omega
          rw [if_neg excluded]
          exact induction rest

theorem expansion?_eq_none {entries : List (Nat × List Nat)} (above : low ≤ code)
    (below : code ≤ high) (pass : passExpansions low high entries = true) :
    expansion? entries code = none := by
  induction entries with
  | nil => rfl
  | cons entry entries induction =>
      simp only [passExpansions, Nat.blt_eq, Bool.or_eq_true, Bool.and_eq_true] at pass
      rw [expansion?]
      split
      · rfl
      · next reached =>
          obtain ⟨before, rest⟩ := pass.resolve_left fun behind =>
            reached (Nat.lt_of_le_of_lt below behind)
          rw [if_neg (Nat.ne_of_gt (Nat.lt_of_lt_of_le before above))]
          exact induction rest

/-! ## Capitals of the tables -/

namespace Run

/-- The last capital of a run. -/
def lastImage (run : Run) : Nat :=
  run.image + (run.last - run.first)

/-- Whether the capitals of a run are code points, and none of them has another capital form. -/
def isSettled (run : Run) : Bool :=
  (Nat.blt run.lastImage 0xD800 || Nat.blt 0xDFFF run.image && Nat.blt run.lastImage 0x110000) &&
    passExpansions run.image run.lastImage expansions &&
    passRuns run.image run.lastImage (run.stride % 2 == 0 || run.first == run.last) runs

end Run

theorem runs_settled : runs.all Run.isSettled = true := by
  decide +kernel

theorem exists_of_single? {capital : Nat} {runs : List Run}
    (found : single? runs code = some capital) :
    ∃ run ∈ runs, run.contains code = true ∧ capital = run.image + (code - run.first) := by
  induction runs with
  | nil => cases found
  | cons run runs induction =>
      rw [single?] at found
      split at found
      · cases found
      · split at found
        · next contains =>
            cases found
            exact ⟨run, List.mem_cons_self, contains, rfl⟩
        · obtain ⟨other, member, holds⟩ := induction found
          exact ⟨other, List.mem_cons_of_mem run member, holds⟩

/-- A code point of a character that is its own capital form. -/
structure IsCapital (code : Nat) : Prop where
  isValid : code.isValidChar
  codes : codes code = [code]

theorem isCapital_of_single? {capital : Nat} (found : single? runs code = some capital) :
    IsCapital capital := by
  obtain ⟨run, member, contains, rfl⟩ := exists_of_single? found
  have settled := List.all_eq_true.mp runs_settled run member
  have inside := contains
  simp only [Run.contains, Bool.and_eq_true, decide_eq_true_eq] at inside
  simp only [Run.isSettled, Nat.blt_eq, Bool.or_eq_true, Bool.and_eq_true] at settled
  obtain ⟨⟨valid, noExpansion⟩, noLetter⟩ := settled
  have above : run.image ≤ run.image + (code - run.first) := Nat.le_add_right _ _
  have below : run.image + (code - run.first) ≤ run.lastImage := by
    rw [Run.lastImage]
    omega
  constructor
  · rw [Nat.isValidChar]
    omega
  · rw [codes, expansion?_eq_none above below noExpansion,
      single?_eq_none above below (fun steady => ?_) noLetter]
    · rfl
    · rw [Bool.or_eq_true, beq_iff_eq, beq_iff_eq] at steady
      rcases steady with even | only
      · have letter := mod_two_of_contains even contains
        omega
      · omega

theorem expansions_settled : ∀ entry ∈ expansions, ∃ first ∈ entry.2.head?,
    first < 0xD800 ∧ codes first = [first] := by
  decide +kernel

/-- A capital form starts with a capital. -/
theorem isCapital_of_codes {first : Nat} {rest : List Nat} (isValid : code.isValidChar)
    (spelled : codes code = first :: rest) : IsCapital first := by
  cases expanded : expansion? expansions code with
  | some others =>
      obtain ⟨entry, member⟩ := mem_of_expansion? expanded
      obtain ⟨head, starts, small, same⟩ := expansions_settled _ member
      rw [codes, expanded] at spelled
      change others = first :: rest at spelled
      subst spelled
      cases starts
      exact ⟨.inl small, same⟩
  | none =>
      cases found : single? runs code with
      | some capital =>
          rw [codes, expanded, found] at spelled
          cases spelled
          exact isCapital_of_single? found
      | none =>
          have same : codes code = [code] := by
            rw [codes, expanded, found]
            rfl
          rw [same] at spelled
          cases spelled
          exact ⟨isValid, same⟩

/-! ## Characters -/

theorem toNat_ofNat (isValid : code.isValidChar) : (Char.ofNat code).toNat = code := by
  rw [Char.ofNat, dif_pos isValid]
  rfl

theorem exists_ofChar (char : Char) : ∃ first rest, ofChar char = first :: rest := by
  rw [ofChar]
  cases spelled : codes char.toNat with
  | nil => exact absurd spelled (codes_ne_nil _)
  | cons first rest => exact ⟨_, _, rfl⟩

/-- The first character of a capital form is its own capital form. -/
theorem ofChar_of_head {char first : Char} {rest : List Char}
    (spelled : ofChar char = first :: rest) : ofChar first = [first] := by
  rw [ofChar] at spelled
  obtain ⟨code, others, codes_eq, rfl, rfl⟩ := List.map_eq_cons_iff.mp spelled
  have isCapital := isCapital_of_codes char.valid codes_eq
  rw [ofChar, toNat_ofNat isCapital.isValid, isCapital.codes]
  rfl

end PicAssembly.Capital
