import PicAssembly.Signature

/-!
# Binding of positional arguments

Positional arguments bind to a signature exactly if their number is admitted, and then they stand in
the places of the first parameters.
-/

namespace PicAssembly

namespace Signature

variable {signature : Signature} {positional : List Value}

/-- Whether a callable takes a number of positional arguments. -/
def admits (signature : Signature) (count : Nat) : Bool :=
  signature.required.length ≤ count && (count ≤ signature.parameters.length || signature.takesRest)

/-- Positional arguments in the places of the parameters. -/
def placed (signature : Signature) (positional : List Value) : Bound :=
  let count := signature.parameters.length
  { slots := (positional.take count).map some ++ List.replicate (count - positional.length) none
    rest := positional.drop count
    extra := [] }

/-- The required parameters come first, so they lack a value only if there are too few. -/
theorem isEmpty_missing (required optional : List String) (positional : List Value) :
    ((required.zip ((positional.take (required ++ optional).length).map some ++
      List.replicate ((required ++ optional).length - positional.length) none)).filterMap
        fun (parameter, value) => if value.isNone then some parameter else none).isEmpty =
      decide (required.length ≤ positional.length) := by
  induction required generalizing positional with
  | nil => simp
  | cons parameter required induction =>
      cases positional with
      | nil => simp [List.replicate_succ]
      | cons value positional =>
          have inner := induction positional
          simp only [List.cons_append, List.length_cons, List.take_succ_cons, List.map_cons,
            Nat.add_sub_add_right, List.zip_cons_cons, List.filterMap_cons]
          simpa using inner

theorem missing_placed (signature : Signature) (positional : List Value) :
    (signature.missing (signature.placed positional)).isEmpty =
      decide (signature.required.length ≤ positional.length) :=
  isEmpty_missing signature.required signature.optional positional

theorem bind_ofList (signature : Signature) (positional : List Value) :
    signature.bind (.ofList positional) =
      if signature.parameters.length < positional.length && !signature.takesRest then
        .error (.tooManyArguments signature.callee
          (signature.withReceiver signature.required.length)
          (signature.withReceiver signature.parameters.length)
          (signature.withReceiver positional.length))
      else if (signature.missing (signature.placed positional)).isEmpty then
        .ok (signature.placed positional)
      else
        .error (.missingArguments signature.callee
          (signature.missing (signature.placed positional))) := by
  rfl

theorem enough_of_admits (admits : signature.admits positional.length = true) :
    signature.required.length ≤ positional.length := by
  simp only [Signature.admits, Bool.and_eq_true, decide_eq_true_eq] at admits
  exact admits.1

theorem noSurplus_of_admits (admits : signature.admits positional.length = true) :
    (decide (signature.parameters.length < positional.length) && !signature.takesRest) = false := by
  simp only [Signature.admits, Bool.and_eq_true, Bool.or_eq_true, decide_eq_true_eq] at admits
  rcases admits.2 with few | rest
  · have inside : ¬ signature.parameters.length < positional.length := by omega
    simp [inside]
  · simp [rest]

theorem bind_of_admits (admits : signature.admits positional.length = true) :
    signature.bind (.ofList positional) = .ok (signature.placed positional) := by
  rw [bind_ofList, noSurplus_of_admits admits, missing_placed]
  simp [enough_of_admits admits]

theorem bind_of_not_admits (refused : signature.admits positional.length = false) :
    ∃ fault, signature.bind (.ofList positional) = .error fault := by
  rw [bind_ofList, missing_placed]
  split
  · exact ⟨_, rfl⟩
  · next few =>
      split
      · next enough => simp_all [Signature.admits]
      · exact ⟨_, rfl⟩

/-! ## Keywords that name no parameter -/

/-- Keywords of which none names the receiver or a parameter. -/
def Spares (signature : Signature) (keywords : List (String × Value)) : Prop :=
  ∀ keyword ∈ keywords, signature.receiver ≠ some keyword.1 ∧ keyword.1 ∉ signature.parameters

variable {keywords : List (String × Value)}

theorem foldlM_bindKeyword_of_spares (takesKeywords : signature.takesKeywords = true)
    (spares : signature.Spares keywords) (bound : Bound) :
    keywords.foldlM signature.bindKeyword bound =
      .ok { bound with extra := bound.extra ++ keywords } := by
  induction keywords generalizing bound with
  | nil =>
      rw [List.append_nil]
      rfl
  | cons keyword keywords induction =>
      obtain ⟨noReceiver, noParameter⟩ := spares keyword List.mem_cons_self
      have surplus : signature.bindKeyword bound keyword =
          .ok { bound with extra := bound.extra ++ [keyword] } := by
        have absent : signature.parameters.idxOf? keyword.1 = none :=
          List.idxOf?_eq_none_iff.mpr noParameter
        rw [bindKeyword, if_neg (by simpa using noReceiver), absent]
        exact if_pos takesKeywords
      have rest := induction
        (fun other member => spares other (List.mem_cons_of_mem keyword member))
        { bound with extra := bound.extra ++ [keyword] }
      rw [List.foldlM_cons, surplus]
      change keywords.foldlM signature.bindKeyword
        { bound with extra := bound.extra ++ [keyword] } = _
      rw [rest, List.append_assoc, List.singleton_append]

/-- A keyword that names a parameter is bound in its turn among keywords that name none. -/
theorem foldlM_bindKeyword_around {front back : List (String × Value)} {keyword : String × Value}
    {bound taken : Bound} (takesKeywords : signature.takesKeywords = true)
    (before : signature.Spares front) (behind : signature.Spares back)
    (takes : signature.bindKeyword { bound with extra := bound.extra ++ front } keyword =
      .ok taken) :
    (front ++ keyword :: back).foldlM signature.bindKeyword bound =
      .ok { taken with extra := taken.extra ++ back } := by
  rw [List.foldlM_append, foldlM_bindKeyword_of_spares takesKeywords before]
  change (signature.bindKeyword { bound with extra := bound.extra ++ front } keyword >>= _) = _
  rw [takes]
  exact foldlM_bindKeyword_of_spares takesKeywords behind taken

/-- Enough positional arguments bind to what the keywords make of them, if nothing is missing. -/
theorem bind_of_foldlM {bound : Bound} (admits : signature.admits positional.length = true)
    (keyed : keywords.foldlM signature.bindKeyword (signature.placed positional) = .ok bound)
    (complete : (signature.missing bound).isEmpty = true) :
    signature.bind ⟨positional, keywords⟩ = .ok bound := by
  change (keywords.foldlM signature.bindKeyword (signature.placed positional) >>= fun bound =>
    if decide (signature.parameters.length < positional.length) && !signature.takesRest then _
    else if (signature.missing bound).isEmpty then pure bound else _) = _
  rw [keyed, noSurplus_of_admits admits]
  exact if_pos complete

/-- Such keywords are bound apart from the positional arguments. -/
theorem bind_of_spares (takesKeywords : signature.takesKeywords = true)
    (spares : signature.Spares keywords) (admits : signature.admits positional.length = true) :
    signature.bind ⟨positional, keywords⟩ =
      .ok { signature.placed positional with extra := keywords } := by
  have complete : (signature.missing (signature.placed positional)).isEmpty = true := by
    rw [missing_placed]
    exact decide_eq_true (enough_of_admits admits)
  exact bind_of_foldlM admits
    (foldlM_bindKeyword_of_spares takesKeywords spares (signature.placed positional)) complete

end Signature

end PicAssembly
