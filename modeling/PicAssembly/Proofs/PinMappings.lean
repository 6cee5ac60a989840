import PicAssembly.Proofs.Rows

/-!
# Pin mappings

Pins that are given by keywords replace the pins of a mapping in their places, and further ones
follow in their order.  A mapping never holds a key twice, and neither does the merged one.
-/

namespace PicAssembly

/-! ## Dictionaries -/

namespace Entries

variable {entries : Entries} {key value : Value} {name : String}

/-- A key that is equal to none before it is set behind them. -/
theorem set_of_fresh (fresh : ∀ entry ∈ entries, entry.1.equals false key = false) :
    entries.set key value = entries ++ [(key, value)] := by
  induction entries with
  | nil => rfl
  | cons first rest induction =>
      obtain ⟨kept, old⟩ := first
      have differs : kept.equals false key = false := fresh _ List.mem_cons_self
      have others := induction fun entry member => fresh entry (List.mem_cons_of_mem _ member)
      rw [set] at others
      rw [set, setBy, if_neg (Bool.eq_false_iff.mp differs), others, List.cons_append]

theorem setAll_eq_append {additions : Entries}
    (isDictionary : (entries ++ additions).IsDictionary) :
    entries.setAll additions = entries ++ additions := by
  induction additions generalizing entries with
  | nil => exact (List.append_nil entries).symm
  | cons addition additions induction =>
      obtain ⟨_, _, across⟩ := List.pairwise_append.mp isDictionary
      have fresh : ∀ entry ∈ entries, entry.1.equals false addition.1 = false := fun entry member =>
        across entry member addition List.mem_cons_self
      have rest : (entries ++ [addition]).setAll additions =
          entries ++ [addition] ++ additions := by
        refine induction ?_
        rwa [List.append_assoc, List.singleton_append]
      rw [List.append_assoc, List.singleton_append] at rest
      rw [setAll, List.foldl_cons, set_of_fresh fresh]
      exact rest

theorem set_of_absent (absent : ∀ entry ∈ entries, Pins.isWord name entry.1 = false) :
    entries.set (.str name) value = entries ++ [(.str name, value)] :=
  set_of_fresh fun entry member => (Value.equals_str _ _ _).trans (absent entry member)

/-- A key that is set again gets its value in its old place. -/
theorem set_of_present (isDictionary : entries.IsDictionary)
    (present : ∃ entry ∈ entries, Pins.isWord name entry.1 = true) :
    entries.set (.str name) value =
      entries.map fun entry =>
        (entry.1, if Pins.isWord name entry.1 then value else entry.2) := by
  induction entries with
  | nil => simp at present
  | cons first rest induction =>
      obtain ⟨kept, old⟩ := first
      have others := (List.pairwise_cons.mp isDictionary).2
      rw [set, setBy, Value.equals_str, List.map_cons]
      split
      · next found =>
          have same : kept = .str name := Pins.isWord_iff.mp found
          subst same
          have absent := Pins.absent_of_isDictionary isDictionary
          have unchanged : ∀ entry ∈ rest,
              (entry.1, if Pins.isWord name entry.1 then value else entry.2) = entry := by
            intro entry member
            simp [absent entry member]
          rw [List.map_congr_left unchanged, List.map_id']
      · next other =>
          have later : ∃ entry ∈ rest, Pins.isWord name entry.1 = true := by
            simpa [other] using present
          have replaced := induction others later
          rw [set] at replaced
          simp [replaced]

end Entries

namespace Dictionary

/-- A dictionary is built by its own entries. -/
theorem ofPairs_entries (dictionary : Dictionary) : ofPairs dictionary.entries = dictionary := by
  have same : Entries.setAll [] dictionary.entries = dictionary.entries :=
    Entries.setAll_eq_append dictionary.isDictionary
  obtain ⟨entries, isDictionary⟩ := dictionary
  rw [ofPairs, setAll, mk.injEq]
  exact same

end Dictionary

/-! ## Merging -/

namespace Pins

variable {pins : Entries} {keywords : List (String × Value)}

/-- The value that keywords give to a key. -/
def keyword? (keywords : List (String × Value)) (key : Value) : Option Value :=
  (keywords.find? fun keyword => isWord keyword.1 key).map Prod.snd

/-- Whether pins have a name as a key. -/
def hasName (pins : Entries) (name : String) : Bool :=
  pins.any fun entry => isWord name entry.1

/-- Pins with the values that keywords give them, and behind them the keywords that are no key. -/
def merged (pins : Entries) (keywords : List (String × Value)) : Entries :=
  pins.map (fun entry => (entry.1, (keyword? keywords entry.1).getD entry.2)) ++
    (keywords.filter fun keyword => !hasName pins keyword.1).map
      fun keyword => (.str keyword.1, keyword.2)

theorem hasName_iff {name : String} :
    hasName pins name = true ↔ ∃ entry ∈ pins, isWord name entry.1 = true := by
  simp [hasName]

theorem keyword?_cons (name : String) (value : Value) (keywords : List (String × Value))
    (key : Value) :
    keyword? ((name, value) :: keywords) key =
      if isWord name key then some value else keyword? keywords key := by
  rw [keyword?, List.find?_cons]
  cases isWord name key <;> rfl

theorem keyword?_of_fresh {name : String} (fresh : name ∉ keywords.map Prod.fst) :
    keyword? keywords (.str name) = none := by
  rw [keyword?, Option.map_eq_none_iff, List.find?_eq_none]
  rintro keyword member isName
  exact fresh (List.mem_map.mpr ⟨keyword, member, (eq_of_beq isName).symm⟩)

/-- The entries that keywords stand for. -/
def entriesOf (keywords : List (String × Value)) : Entries :=
  keywords.map fun keyword => (.str keyword.1, keyword.2)

theorem merged_of_absent {name : String} (value : Value) (fresh : name ∉ keywords.map Prod.fst)
    (absent : hasName pins name = false) :
    merged (pins ++ [(.str name, value)]) keywords = merged pins ((name, value) :: keywords) := by
  have kept : ∀ entry ∈ pins,
      (entry.1, (keyword? keywords entry.1).getD entry.2) =
        (entry.1, (keyword? ((name, value) :: keywords) entry.1).getD entry.2) := by
    intro entry member
    have differs : ¬ isWord name entry.1 = true := List.any_eq_false.mp absent entry member
    rw [keyword?_cons, if_neg differs]
  have others : ∀ keyword ∈ keywords,
      (!hasName (pins ++ [(.str name, value)]) keyword.1) = !hasName pins keyword.1 := by
    intro keyword member
    have differs : isWord keyword.1 (.str name) = false :=
      beq_false_of_ne fun same => fresh (List.mem_map.mpr ⟨keyword, member, same.symm⟩)
    rw [hasName, List.any_append, List.any_cons, differs, List.any_nil, Bool.or_false,
      Bool.or_false, hasName]
  have further : ((name, value) :: keywords).filter (fun keyword => !hasName pins keyword.1) =
      (name, value) :: keywords.filter fun keyword => !hasName pins keyword.1 :=
    List.filter_cons_of_pos (by simp [absent])
  rw [merged, merged, further, List.map_append, List.map_congr_left kept, List.filter_congr others,
    List.map_cons, List.map_nil, keyword?_of_fresh fresh, List.append_assoc]
  rfl

theorem merged_of_present {name : String} (value : Value) (fresh : name ∉ keywords.map Prod.fst)
    (present : hasName pins name = true) :
    merged (pins.map fun entry => (entry.1, if isWord name entry.1 then value else entry.2))
      keywords = merged pins ((name, value) :: keywords) := by
  have replaced : ∀ entry ∈ pins,
      (entry.1, (keyword? keywords entry.1).getD
        (if isWord name entry.1 then value else entry.2)) =
        (entry.1, (keyword? ((name, value) :: keywords) entry.1).getD entry.2) := by
    intro entry member
    rw [keyword?_cons]
    split
    · next isName =>
        rw [isWord_iff.mp isName, keyword?_of_fresh fresh]
        rfl
    · rfl
  have further : ((name, value) :: keywords).filter (fun keyword => !hasName pins keyword.1) =
      keywords.filter fun keyword => !hasName pins keyword.1 :=
    List.filter_cons_of_neg (by simp [present])
  rw [merged, merged, further, List.map_map]
  simp only [hasName, Function.comp_def, List.any_map, List.map_congr_left replaced]

/-- Setting keywords in turn merges them into a mapping. -/
theorem setAll_eq_merged (isDictionary : pins.IsDictionary)
    (distinct : (keywords.map Prod.fst).Nodup) :
    pins.setAll (entriesOf keywords) = merged pins keywords := by
  induction keywords generalizing pins with
  | nil => simp [entriesOf, merged, keyword?, Entries.setAll]
  | cons keyword keywords induction =>
      obtain ⟨name, value⟩ := keyword
      obtain ⟨fresh, rest⟩ := List.nodup_cons.mp distinct
      have others := induction (isDictionary.set (.str name) value) rest
      rw [entriesOf, List.map_cons, Entries.setAll, List.foldl_cons]
      refine others.trans ?_
      cases present : hasName pins name with
      | true =>
          rw [Entries.set_of_present isDictionary (hasName_iff.mp present),
            merged_of_present value fresh present]
      | false =>
          rw [Entries.set_of_absent (by simpa [hasName] using present),
            merged_of_absent value fresh present]

theorem entries_merge (pins : Dictionary) (distinct : (keywords.map Prod.fst).Nodup) :
    (merge pins keywords).entries = merged pins.entries keywords :=
  setAll_eq_merged pins.isDictionary distinct

/-- Whether pins with keywords give a value to a name, where keywords come before pins. -/
def Binds (pins : Entries) (keywords : List (String × Value)) (name : String) (value : Value) :
    Prop :=
  (name, value) ∈ keywords ∨ name ∉ keywords.map Prod.fst ∧ (.str name, value) ∈ pins

theorem keyword?_str_eq_some (distinct : (keywords.map Prod.fst).Nodup) {name : String}
    {value : Value} : keyword? keywords (.str name) = some value ↔ (name, value) ∈ keywords := by
  induction keywords with
  | nil => simp [keyword?]
  | cons keyword keywords induction =>
      obtain ⟨first, given⟩ := keyword
      obtain ⟨fresh, rest⟩ := List.nodup_cons.mp distinct
      rw [keyword?_cons, List.mem_cons, Prod.mk.injEq]
      split
      · next isFirst =>
          have same : name = first := eq_of_beq isFirst
          subst same
          have absent : (name, value) ∉ keywords :=
            fun member => fresh (List.mem_map.mpr ⟨_, member, rfl⟩)
          simp [absent, eq_comm]
      · next isOther =>
          have differs : name ≠ first := fun same => isOther (same ▸ BEq.rfl)
          simp [differs, induction rest]

theorem keyword?_str_eq_none {name : String} :
    keyword? keywords (.str name) = none ↔ name ∉ keywords.map Prod.fst := by
  refine ⟨fun none member => ?_, keyword?_of_fresh⟩
  rw [keyword?, Option.map_eq_none_iff, List.find?_eq_none] at none
  obtain ⟨keyword, found, same⟩ := List.mem_map.mp member
  exact none keyword found (same ▸ isWord_iff.mpr rfl)

theorem mem_merged (distinct : (keywords.map Prod.fst).Nodup) {name : String} {value : Value} :
    (.str name, value) ∈ merged pins keywords ↔ Binds pins keywords name value := by
  have inPlace : (Value.str name, value) ∈
        pins.map (fun entry => (entry.1, (keyword? keywords entry.1).getD entry.2)) ↔
      ∃ old, (.str name, old) ∈ pins ∧ (keyword? keywords (.str name)).getD old = value := by
    simp only [List.mem_map, Prod.mk.injEq]
    constructor
    · rintro ⟨⟨key, old⟩, member, rfl, same⟩
      exact ⟨old, member, same⟩
    · rintro ⟨old, member, same⟩
      exact ⟨_, member, rfl, same⟩
  have behind : (Value.str name, value) ∈
        (keywords.filter fun keyword => !hasName pins keyword.1).map
          (fun keyword => (.str keyword.1, keyword.2)) ↔
      (name, value) ∈ keywords ∧ hasName pins name = false := by
    simp
  rw [merged, List.mem_append, inPlace, behind, Binds]
  cases given : keyword? keywords (.str name) with
  | none =>
      have fresh := keyword?_str_eq_none.mp given
      have absent : (name, value) ∉ keywords :=
        fun member => fresh (List.mem_map.mpr ⟨_, member, rfl⟩)
      simp [absent, fresh]
  | some replaced =>
      have member := (keyword?_str_eq_some distinct).mp given
      have known : name ∈ keywords.map Prod.fst := List.mem_map.mpr ⟨_, member, rfl⟩
      have only : (name, value) ∈ keywords ↔ replaced = value := by
        rw [← keyword?_str_eq_some distinct, given, Option.some.injEq]
      have found : (∃ old, (Value.str name, old) ∈ pins) ↔ hasName pins name = true := by
        simp [hasName, isWord_iff]
      simp only [only, Option.getD_some, exists_and_right, found]
      cases hasName pins name <;> simp [known]

theorem isDictionary_merged (pins : Dictionary) (distinct : (keywords.map Prod.fst).Nodup) :
    (merged pins.entries keywords).IsDictionary :=
  entries_merge pins distinct ▸ (merge pins keywords).isDictionary

/-! ## Calls with pins -/

/-- A call that gives a value for the pins in its place, by its name or not at all, next to
keywords. -/
inductive Gives : Arguments → Value → List (String × Value) → Prop
  | omitted (keywords : List (String × Value)) : Gives ⟨[], keywords⟩ .null keywords
  | placed (value : Value) (keywords : List (String × Value)) :
      Gives ⟨[value], keywords⟩ value keywords
  | named (value : Value) (front back : List (String × Value)) :
      Gives ⟨[], front ++ ("pins", value) :: back⟩ value (front ++ back)

/-- A call of an operation on pins with a mapping and keywords.  A keyword stands only once and is
no parameter of the operation. -/
structure Given (arguments : Arguments) (pins : Dictionary) (keywords : List (String × Value)) :
    Prop where
  reads : ∃ value, Gives arguments value keywords ∧ ofValue value = .ok pins
  distinct : (keywords.map Prod.fst).Nodup
  spares : ∀ keyword ∈ keywords, keyword.1 ≠ "self" ∧ keyword.1 ≠ "pins"

variable {arguments : Arguments} {operation : Operation} {keywords : List (String × Value)}

theorem spares_of_takesPins (takesPins : operation.takesPins = true)
    (spares : ∀ keyword ∈ keywords, keyword.1 ≠ "self" ∧ keyword.1 ≠ "pins") :
    operation.signature.Spares keywords := by
  intro keyword member
  obtain ⟨noReceiver, noParameter⟩ := spares keyword member
  cases operation <;> cases takesPins <;>
    simp [Operation.signature, Operation.parameters, Signature.parameters, Operation.takesPins,
      noReceiver.symm, noParameter]

/-- Operations on pins bind the pins and leave the other keywords. -/
theorem exists_bound_of_gives {value : Value} (gives : Gives arguments value keywords)
    (spares : ∀ keyword ∈ keywords, keyword.1 ≠ "self" ∧ keyword.1 ≠ "pins")
    (takesPins : operation.takesPins = true) :
    ∃ bound, operation.signature.bind arguments = .ok bound ∧ bound.slot 0 = value ∧
      bound.extra = keywords := by
  have takesKeywords : operation.signature.takesKeywords = true := takesPins
  cases gives with
  | omitted =>
      have admits : operation.signature.admits ([] : List Value).length = true :=
        Task.admits_of_takesPins takesPins (Nat.zero_le 1)
      refine ⟨_, Signature.bind_of_spares takesKeywords (spares_of_takesPins takesPins spares)
        admits, ?_, rfl⟩
      cases operation <;> cases takesPins <;> rfl
  | placed =>
      have admits : operation.signature.admits [value].length = true :=
        Task.admits_of_takesPins takesPins (Nat.le_refl 1)
      refine ⟨_, Signature.bind_of_spares takesKeywords (spares_of_takesPins takesPins spares)
        admits, ?_, rfl⟩
      cases operation <;> cases takesPins <;> rfl
  | named _ front back =>
      have admits : operation.signature.admits ([] : List Value).length = true :=
        Task.admits_of_takesPins takesPins (Nat.zero_le 1)
      have before : operation.signature.Spares front :=
        spares_of_takesPins takesPins fun keyword member =>
          spares keyword (List.mem_append_left back member)
      have behind : operation.signature.Spares back :=
        spares_of_takesPins takesPins fun keyword member =>
          spares keyword (List.mem_append_right front member)
      have named : operation.signature.bindKeyword
          { operation.signature.placed [] with extra := front } ("pins", value) =
          .ok ⟨[some value], [], front⟩ := by
        cases operation <;> cases takesPins <;> rfl
      have keyed := Signature.foldlM_bindKeyword_around takesKeywords before behind named
      refine ⟨_, Signature.bind_of_foldlM admits keyed ?_, rfl, rfl⟩
      cases operation <;> cases takesPins <;> rfl

theorem ofValue_dict (pins : Dictionary) : ofValue (.dict pins.entries) = .ok pins := by
  have built := pins.ofPairs_entries
  obtain ⟨entries, isDictionary⟩ := pins
  cases entries with
  | nil => rfl
  | cons entry entries => exact congrArg Except.ok built

theorem given_dict (pins : Dictionary) (keywords : List (String × Value))
    (distinct : (keywords.map Prod.fst).Nodup)
    (spares : ∀ keyword ∈ keywords, keyword.1 ≠ "self" ∧ keyword.1 ≠ "pins") :
    Given ⟨[.dict pins.entries], keywords⟩ pins keywords where
  reads := ⟨_, .placed _ _, ofValue_dict pins⟩
  distinct := distinct
  spares := spares

variable {pins : Dictionary}

/-- Pins that are a mapping do not make something of every name. -/
theorem callee?_of_ofValue {value : Value} (reads : ofValue value = .ok pins) :
    value.callee? = none := by
  cases calls : value.callee? with
  | none => rfl
  | some asked =>
      rw [ofValue_callee calls] at reads
      cases reads

/-- An operation on pins is stated with pins and keywords that are read as the merged mapping. -/
theorem Given.exists_state (given : Given arguments pins keywords) (operation : Operation)
    (takesPins : operation.takesPins = true)
    {statement : Value → List (String × Value) → Statement}
    (states : ∀ bound inner, Task.ofBound operation bound inner = Task.ofPins statement bound) :
    ∃ value, read value keywords = .ok (merge pins keywords) ∧
      Task.ofOperation operation arguments = .state (statement value keywords) := by
  obtain ⟨value, gives, reads⟩ := given.reads
  obtain ⟨bound, binds, slot, extra⟩ := exists_bound_of_gives gives given.spares takesPins
  refine ⟨value, ?_, ?_⟩
  · rw [read, reads]
    rfl
  · rw [Task.ofOperation, binds, Task.ofBinding, states, Task.ofPins, slot, extra,
      callee?_of_ofValue reads]

/-- Directions are drafted as the mask of the merged mapping. -/
theorem Given.ofOperation_configIo (given : Given arguments pins keywords) :
    ∃ statement, Task.ofOperation .configIo arguments = .state statement ∧
      statement.draft = .ofLines
        [ .instruction .movlw [CommandTable.mask (merged pins.entries keywords)],
          .instruction .tris ["GPIO"], .blank ] := by
  obtain ⟨value, reads, states⟩ := given.exists_state .configIo rfl fun _ _ => rfl
  refine ⟨_, states, ?_⟩
  rw [Statement.draft, reads]
  dsimp only
  rw [binary_directionMask, entries_merge pins given.distinct]

/-- Levels are drafted entry by entry, with a blank line behind them. -/
theorem Given.ofOperation_setIo (given : Given arguments pins keywords) :
    ∃ statement, Task.ofOperation .setIo arguments = .state statement ∧
      statement.draft = (merged pins.entries keywords).map level ++ [.ok .blank] := by
  obtain ⟨value, reads, states⟩ := given.exists_state .setIo rfl fun _ _ => rfl
  refine ⟨_, states, ?_⟩
  rw [Statement.draft, reads]
  dsimp only
  rw [entries_merge pins given.distinct]

end Pins

end PicAssembly
