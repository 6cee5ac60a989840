import Mathlib.Data.Set.Card
import PicAssembly.Namespace

/-!
# Selecting a program

What names are bound to at last decides which program is selected.  Without a chosen name there has
to be exactly one program, counted by identity, so neither the order of the bindings nor further
names of a program nor other values make a difference.  With a chosen name nothing but its own
binding counts.
-/

namespace PicAssembly.Namespace

section Lookup

variable {Id : Type} {names : Namespace Id} {name other : String} {binding : Binding Id}

theorem lookup_cons_ite (name other : String) (binding : Binding Id) (names : Namespace Id) :
    List.lookup other ((name, binding) :: names) =
      if other = name then some binding else names.lookup other := by
  rw [List.lookup_cons]
  split
  · next same => rw [if_pos (eq_of_beq same)]
  · next differs => rw [if_neg (ne_of_beq_false differs)]

theorem lookup_bind (names : Namespace Id) (name other : String) (binding : Binding Id) :
    (names.bind name binding).lookup other =
      if other = name then some binding else names.lookup other := by
  induction names with
  | nil => exact lookup_cons_ite name other binding []
  | cons entry names induction =>
      obtain ⟨first, old⟩ := entry
      rw [bind]
      split
      · next isFirst =>
          subst isFirst
          rw [lookup_cons_ite, lookup_cons_ite]
          split <;> rfl
      · next differs =>
          rw [lookup_cons_ite, lookup_cons_ite, induction]
          split
          · next same => rw [if_neg (same ▸ differs)]
          · rfl

/-- The binding that is made last is the one that counts. -/
theorem lookup_ofList (bindings : List (String × Binding Id)) (name : String) :
    (ofList bindings).lookup name = bindings.reverse.lookup name := by
  rw [ofList]
  induction bindings using List.reverseRecOn with
  | nil => rfl
  | append_singleton bindings binding induction =>
      obtain ⟨last, held⟩ := binding
      rw [List.foldl_append, List.foldl_cons, List.foldl_nil, lookup_bind, induction,
        List.reverse_append, List.reverse_singleton, List.singleton_append, lookup_cons_ite]

/-- No name stands twice in a namespace. -/
abbrev IsDictionary (names : Namespace Id) : Prop :=
  (names.map Prod.fst).Nodup

theorem mem_names_bind :
    other ∈ (names.bind name binding).map Prod.fst ↔
      other = name ∨ other ∈ names.map Prod.fst := by
  induction names with
  | nil => simp [bind]
  | cons entry names induction =>
      obtain ⟨first, old⟩ := entry
      rw [bind]
      split
      · next isFirst => simp [isFirst]
      · rw [List.map_cons, List.mem_cons, induction, List.map_cons, List.mem_cons]
        exact or_left_comm

namespace IsDictionary

variable (isDictionary : names.IsDictionary)

include isDictionary

theorem bind (name : String) (binding : Binding Id) : (names.bind name binding).IsDictionary := by
  induction names with
  | nil => exact List.nodup_singleton name
  | cons entry names induction =>
      obtain ⟨first, old⟩ := entry
      obtain ⟨fresh, rest⟩ := List.nodup_cons.mp isDictionary
      rw [Namespace.bind]
      split
      · exact isDictionary
      · next differs =>
          refine List.nodup_cons.mpr ⟨fun member => ?_, induction rest⟩
          exact (mem_names_bind.mp member).elim differs fresh

theorem lookup_eq_some_iff : names.lookup name = some binding ↔ (name, binding) ∈ names := by
  induction names with
  | nil => simp
  | cons entry names induction =>
      obtain ⟨first, old⟩ := entry
      obtain ⟨fresh, rest⟩ := List.nodup_cons.mp isDictionary
      rw [lookup_cons_ite, List.mem_cons]
      split
      · next same =>
          subst same
          have absent : (name, binding) ∉ names :=
            fun member => fresh (List.mem_map.mpr ⟨_, member, rfl⟩)
          simp [absent, eq_comm]
      · next differs => simp [differs, induction rest]

/-- The order of a dictionary makes no difference to what is looked up. -/
theorem lookup_of_perm {reordered : Namespace Id} (permuted : reordered.Perm names)
    (name : String) : reordered.lookup name = names.lookup name := by
  have alsoDictionary : reordered.IsDictionary := (permuted.map Prod.fst).nodup_iff.mpr isDictionary
  refine Option.ext fun binding => ?_
  rw [alsoDictionary.lookup_eq_some_iff, isDictionary.lookup_eq_some_iff, permuted.mem_iff]

end IsDictionary

theorem isDictionary_ofList (bindings : List (String × Binding Id)) :
    (ofList bindings).IsDictionary := by
  rw [ofList]
  induction bindings using List.reverseRecOn with
  | nil => exact List.nodup_nil
  | append_singleton bindings binding induction =>
      rw [List.foldl_append]
      exact induction.bind _ _

end Lookup

section Programs

variable {Id : Type} [DecidableEq Id] {names left right : Namespace Id} {id : Id}

theorem nodup_distinct (ids : List Id) : (distinct ids).Nodup := by
  induction ids with
  | nil => exact List.nodup_nil
  | cons id ids induction =>
      refine List.nodup_cons.mpr ⟨fun member => ?_, induction.filter _⟩
      simp at member

theorem nodup_programs (names : Namespace Id) : names.programs.Nodup :=
  nodup_distinct _

theorem mem_programs : id ∈ names.programs ↔ ∃ name, (name, Binding.program id) ∈ names := by
  have program_iff : ∀ binding : Binding Id, program? binding = some id ↔ binding = .program id :=
    fun binding => by cases binding <;> simp [program?]
  simp [programs, program_iff]

theorem IsDictionary.mem_programs_iff (isDictionary : names.IsDictionary) :
    id ∈ names.programs ↔ ∃ name, names.lookup name = some (.program id) := by
  simp only [mem_programs, isDictionary.lookup_eq_some_iff]

theorem discover_eq_ok_iff : names.discover none = .ok id ↔ names.programs = [id] := by
  rw [discover.eq_def]
  dsimp only
  split
  · next only found => rw [found, Except.ok.injEq, List.singleton_inj]
  · next several => simpa using several id

theorem discover_eq_error (several : ∀ id, names.programs ≠ [id]) :
    names.discover none = .error (.programCount names.programs.length) := by
  rw [discover.eq_def]
  dsimp only
  split
  · next only found => exact absurd found (several only)
  · rfl

/-- Without a chosen name the outcome depends on the set of programs alone. -/
theorem discover_of_mem_programs (same : ∀ id, id ∈ left.programs ↔ id ∈ right.programs) :
    left.discover none = right.discover none := by
  have permuted : left.programs.Perm right.programs :=
    (List.perm_ext_iff_of_nodup (nodup_programs _) (nodup_programs _)).mpr same
  by_cases single : ∃ id, right.programs = [id]
  · obtain ⟨id, only⟩ := single
    rw [discover_eq_ok_iff.mpr only, discover_eq_ok_iff, ← List.perm_singleton, ← only]
    exact permuted
  · rw [discover_eq_error (not_exists.mp single), ← permuted.length_eq]
    refine discover_eq_error fun id only => single ⟨id, ?_⟩
    rw [← List.perm_singleton, ← only]
    exact permuted.symm

/-- The programs that names are bound to at last, where bindings are made one after another. -/
def finalPrograms (bindings : List (String × Binding Id)) : Set Id :=
  {id | ∃ name, bindings.reverse.lookup name = some (.program id)}

theorem mem_programs_ofList {bindings : List (String × Binding Id)} :
    id ∈ (ofList bindings).programs ↔ id ∈ finalPrograms bindings := by
  rw [(isDictionary_ofList bindings).mem_programs_iff]
  simp only [lookup_ofList]
  rfl

theorem programs_ofList_eq_singleton_iff {bindings : List (String × Binding Id)} :
    (ofList bindings).programs = [id] ↔ finalPrograms bindings = {id} := by
  rw [← List.perm_singleton,
    List.perm_ext_iff_of_nodup (nodup_programs _) (List.nodup_singleton _), Set.ext_iff]
  simp only [mem_programs_ofList, List.mem_singleton, Set.mem_singleton_iff]

theorem length_programs_ofList (bindings : List (String × Binding Id)) :
    (ofList bindings).programs.length = (finalPrograms bindings).ncard := by
  have members : ((ofList bindings).programs.toFinset : Set Id) = finalPrograms bindings := by
    ext id
    rw [List.coe_toFinset]
    exact mem_programs_ofList
  rw [← members, Set.ncard_coe_finset, List.toFinset_card_of_nodup (nodup_programs _)]

/-- A name that no program is bound to can be bound to something else without loss of a program. -/
theorem mem_programs_bind (isDictionary : names.IsDictionary) {name : String}
    {binding : Binding Id} (spare : ∀ other, names.lookup name ≠ some (.program other)) :
    id ∈ (names.bind name binding).programs ↔ binding = .program id ∨ id ∈ names.programs := by
  rw [(isDictionary.bind _ _).mem_programs_iff, isDictionary.mem_programs_iff]
  simp only [lookup_bind]
  constructor
  · rintro ⟨other, found⟩
    split at found
    · exact .inl (Option.some.inj found)
    · exact .inr ⟨other, found⟩
  · rintro (rfl | ⟨other, found⟩)
    · exact ⟨name, if_pos rfl⟩
    · refine ⟨other, ?_⟩
      rwa [if_neg]
      rintro rfl
      exact spare id found

theorem discover_name (names : Namespace Id) (name : String) :
    names.discover (some (.str name)) =
      match names.lookup name with
      | some (.program id) => .ok id
      | _ => .error (.notProgram (.str name)) :=
  rfl

theorem discover_name_eq_ok_iff {name : String} :
    names.discover (some (.str name)) = .ok id ↔ names.lookup name = some (.program id) := by
  rw [discover_name]
  split
  · next bound => simp [bound]
  · next other => exact ⟨nofun, fun bound => absurd bound (other id)⟩

theorem discover_name_eq_error {name : String}
    (other : ∀ id, names.lookup name ≠ some (.program id)) :
    names.discover (some (.str name)) = .error (.notProgram (.str name)) := by
  rw [discover_name]
  split
  · next id bound => exact absurd bound (other id)
  · rfl

/-- Leaving out names of other values loses no program. -/
theorem mem_programs_filter {keep : String × Binding Id → Bool}
    (keeps : ∀ name id, (name, .program id) ∈ names → keep (name, .program id)) :
    id ∈ programs (names.filter keep) ↔ id ∈ names.programs := by
  simp only [mem_programs, List.mem_filter]
  constructor
  · rintro ⟨name, member, _⟩
    exact ⟨name, member⟩
  · rintro ⟨name, member⟩
    exact ⟨name, member, keeps name id member⟩

/-- What is selected after bindings have been made one after another. -/
structure SelectsByPrograms (bindings : List (String × Binding Id)) : Prop where
  /-- A program is selected if it is the only one. -/
  only : ∀ id, (ofList bindings).discover none = .ok id ↔ finalPrograms bindings = {id}
  /-- Otherwise the refusal says how many programs there are. -/
  count : (∀ id, finalPrograms bindings ≠ {id}) →
    (ofList bindings).discover none = .error (.programCount (finalPrograms bindings).ncard)
  /-- Nothing but the set of programs counts. -/
  sameSet : ∀ others, finalPrograms others = finalPrograms bindings →
    (ofList others).discover none = (ofList bindings).discover none
  /-- The order of the names does not count, whether one is chosen or not. -/
  order : ∀ reordered : Namespace Id, reordered.Perm (ofList bindings) →
    ∀ chosen, reordered.discover chosen = (ofList bindings).discover chosen
  /-- A further name of a program does not count. -/
  furtherName : ∀ name id, id ∈ finalPrograms bindings →
    (∀ other, bindings.reverse.lookup name ≠ some (.program other)) →
    ((ofList bindings).bind name (.program id)).discover none = (ofList bindings).discover none
  /-- A name of another value does not count if it is added. -/
  furtherValue : ∀ name held, (∀ other, bindings.reverse.lookup name ≠ some (.program other)) →
    ((ofList bindings).bind name (.value held)).discover none = (ofList bindings).discover none
  /-- Names of other values do not count if they are left out. -/
  without : ∀ keep : String × Binding Id → Bool,
    (∀ name id, (name, .program id) ∈ ofList bindings → keep (name, .program id)) →
    Namespace.discover ((ofList bindings).filter keep) none = (ofList bindings).discover none
  /-- A chosen name selects the program that it is bound to. -/
  named : ∀ name id, (ofList bindings).discover (some (.str name)) = .ok id ↔
    bindings.reverse.lookup name = some (.program id)
  /-- A chosen name is refused if no program is bound to it. -/
  notNamed : ∀ name, (∀ id, bindings.reverse.lookup name ≠ some (.program id)) →
    (ofList bindings).discover (some (.str name)) = .error (.notProgram (.str name))
  /-- If a name is chosen, the other names do not count. -/
  alone : ∀ name others, List.lookup name others.reverse = bindings.reverse.lookup name →
    (ofList others).discover (some (.str name)) = (ofList bindings).discover (some (.str name))

/-- The programs that names are bound to at last decide what is selected if no name is chosen, and
the binding of the chosen name alone does if there is one. -/
theorem selects_by_programs (bindings : List (String × Binding Id)) :
    SelectsByPrograms bindings := by
  have dictionary := isDictionary_ofList bindings
  have spare {name : String} (none : ∀ id, bindings.reverse.lookup name ≠ some (.program id)) :
      ∀ id, (ofList bindings).lookup name ≠ some (.program id) := by
    rwa [lookup_ofList]
  constructor
  case only =>
    intro id
    rw [discover_eq_ok_iff, programs_ofList_eq_singleton_iff]
  case count =>
    intro several
    rw [← length_programs_ofList]
    refine discover_eq_error fun id only => several id ?_
    exact programs_ofList_eq_singleton_iff.mp only
  case sameSet =>
    intro others same
    refine discover_of_mem_programs fun id => ?_
    rw [mem_programs_ofList, mem_programs_ofList, same]
  case order =>
    intro reordered permuted chosen
    cases chosen with
    | none =>
        refine discover_of_mem_programs fun id => ?_
        simp only [mem_programs, permuted.mem_iff]
    | some chosen =>
        rw [discover, discover, Namespace.named.eq_def, Namespace.named.eq_def]
        simp only [dictionary.lookup_of_perm permuted]
  case furtherName =>
    intro name id bound none
    refine discover_of_mem_programs fun other => ?_
    rw [mem_programs_bind dictionary (spare none), or_iff_right_iff_imp]
    rintro ⟨⟩
    exact mem_programs_ofList.mpr bound
  case furtherValue =>
    intro name held none
    refine discover_of_mem_programs fun other => ?_
    rw [mem_programs_bind dictionary (spare none), or_iff_right nofun]
  case without =>
    intro keep keeps
    exact discover_of_mem_programs fun id => mem_programs_filter keeps
  case named =>
    intro name id
    rw [discover_name_eq_ok_iff, lookup_ofList]
  case notNamed =>
    intro name none
    exact discover_name_eq_error (spare none)
  case alone =>
    intro name others same
    rw [discover_name, discover_name, lookup_ofList, lookup_ofList, same]

/-- A name that is bound twice, an alias and a value: the one program is selected. -/
theorem selects_by_programs_of_alias :
    finalPrograms [("p", .program 1), ("q", .program 0), ("p", .value .null), ("r", .program 0)] =
      {0} ∧
    (ofList [("p", .program 1), ("q", .program 0), ("p", .value .null), ("r", .program 0)]).discover
      none = .ok 0 := by
  have found := (selects_by_programs
    [("p", .program 1), ("q", .program 0), ("p", .value .null), ("r", .program 0)]).only 0
  have selected : (ofList [("p", .program 1), ("q", .program 0), ("p", .value .null),
      ("r", .program 0)]).discover none = .ok 0 := by rfl
  exact ⟨found.mp selected, selected⟩

end Programs

end PicAssembly.Namespace
