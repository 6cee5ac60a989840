import PicAssembly.CommandLine.Run

/-!
# Paths of listings

Where a run writes to, told by the command line and the path of the script: the path that is given,
or else a path beside the script, whose name has the suffix of listings in the place of its own.
The two paths are the same exactly if the script has that suffix itself.
-/

namespace PicAssembly

/-- The name of the listing of a script.  What stands behind the last dot of the script's name gives
way to the suffix of listings; a name with nothing behind its last dot, nothing before it, or no dot
is extended. -/
inductive ListingName : String → String → Prop
  | replaced {stem extension : String} (stemmed : stem ≠ "") (extended : extension ≠ "")
      (single : '.' ∉ extension.toList) :
      ListingName (stem ++ "." ++ extension) (stem ++ ".asm")
  | appended {name : String}
      (plain : ∀ stem extension, stem ≠ "" → extension ≠ "" → '.' ∉ extension.toList →
        name ≠ stem ++ "." ++ extension) :
      ListingName name (name ++ ".asm")

namespace Path

/-! ## Suffixes of names -/

/-- What is left behind a first dot is what stands behind it. -/
theorem eq_takeWhile_append {reversed : List Char}
    (left : reversed.drop ((reversed.takeWhile (· != '.')).length + 1) ≠ []) :
    reversed = reversed.takeWhile (· != '.') ++
      '.' :: reversed.drop ((reversed.takeWhile (· != '.')).length + 1) := by
  induction reversed with
  | nil => exact absurd rfl left
  | cons char chars induction =>
      by_cases dot : char = '.'
      · subst dot
        rfl
      · have differs : (char != '.') = true := bne_iff_ne.mpr dot
        have whole : (char :: chars).takeWhile (· != '.') = char :: chars.takeWhile (· != '.') :=
          List.takeWhile_cons_of_pos differs
        rw [whole, List.length_cons, List.drop_succ_cons] at left ⊢
        rw [List.cons_append, ← induction left]

theorem takeWhile_reverse_append {extension : List Char} (single : '.' ∉ extension)
    (stem : List Char) :
    (stem ++ '.' :: extension).reverse.takeWhile (· != '.') = extension.reverse := by
  have undotted : ∀ char ∈ extension.reverse, (char != '.') = true := fun char member =>
    bne_iff_ne.mpr fun dot => single (dot ▸ List.mem_reverse.mp member)
  have reversed : (stem ++ '.' :: extension).reverse =
      extension.reverse ++ '.' :: stem.reverse := by
    simp
  rw [reversed, List.takeWhile_append_of_pos undotted]
  simp

theorem reverse_drop_reverse_append (stem extension : List Char) :
    ((stem ++ '.' :: extension).reverse.drop (extension.reverse.length + 1)).reverse = stem := by
  have reversed : (stem ++ '.' :: extension).reverse =
      extension.reverse ++ '.' :: stem.reverse := by
    simp
  rw [reversed, List.drop_append]
  simp

theorem replaceSuffix_append {stem extension : List Char} (stemmed : stem ≠ [])
    (extended : extension ≠ []) (single : '.' ∉ extension) (suffix : List Char) :
    replaceSuffix (stem ++ '.' :: extension) suffix = stem ++ suffix := by
  rw [replaceSuffix, takeWhile_reverse_append single, reverse_drop_reverse_append]
  simp [stemmed, extended]

/-- A name either has a suffix, which is replaced, or is extended. -/
theorem replaceSuffix_cases (name suffix : List Char) :
    (∃ stem extension, stem ≠ [] ∧ extension ≠ [] ∧ '.' ∉ extension ∧
      name = stem ++ '.' :: extension ∧ replaceSuffix name suffix = stem ++ suffix) ∨
    (∀ stem extension, stem ≠ [] → extension ≠ [] → '.' ∉ extension →
      name ≠ stem ++ '.' :: extension) ∧ replaceSuffix name suffix = name ++ suffix := by
  by_cases proper : (name.reverse.drop
      ((name.reverse.takeWhile (· != '.')).length + 1)).reverse = [] ∨
      name.reverse.takeWhile (· != '.') = []
  · refine .inr ⟨?_, ?_⟩
    · rintro stem extension stemmed extended single rfl
      rw [takeWhile_reverse_append single, reverse_drop_reverse_append] at proper
      simp [stemmed, extended] at proper
    · rw [replaceSuffix]
      simp only [← List.isEmpty_iff, ← Bool.or_eq_true] at proper
      exact if_pos proper
  · obtain ⟨stemmed, extended⟩ := not_or.mp proper
    have single : '.' ∉ (name.reverse.takeWhile (· != '.')).reverse := fun member => by
      have undotted := List.all_eq_true.mp List.all_takeWhile _ (List.mem_reverse.mp member)
      cases undotted
    have split := eq_takeWhile_append (mt List.reverse_eq_nil_iff.mpr stemmed)
    have name_eq : name = (name.reverse.drop
        ((name.reverse.takeWhile (· != '.')).length + 1)).reverse ++
          '.' :: (name.reverse.takeWhile (· != '.')).reverse := by
      have reversed := congrArg List.reverse split
      rwa [List.reverse_reverse, List.reverse_append, List.reverse_cons, List.append_assoc,
        List.singleton_append] at reversed
    have extended := mt List.reverse_eq_nil_iff.mp extended
    refine .inl ⟨_, _, stemmed, extended, single, name_eq, ?_⟩
    rw [replaceSuffix]
    simp only [← List.isEmpty_iff, ← Bool.or_eq_true] at proper
    exact if_neg proper

theorem toList_asm : ".asm".toList = '.' :: ['a', 's', 'm'] := by decide

theorem ofList_split (stem extension : List Char) :
    String.ofList (stem ++ '.' :: extension) =
      String.ofList stem ++ "." ++ String.ofList extension := by
  rw [← String.toList_inj]
  simp

theorem ofList_append_asm (stem : List Char) :
    String.ofList (stem ++ ".asm".toList) = String.ofList stem ++ ".asm" := by
  rw [← String.toList_inj]
  simp

/-- The name of a listing is that of its script with the suffix replaced. -/
theorem listingName_iff {name listing : String} :
    ListingName name listing ↔
      listing = String.ofList (replaceSuffix name.toList ".asm".toList) := by
  have proper {text : String} (named : text ≠ "") : text.toList ≠ [] := fun empty =>
    named (String.toList_inj.mp empty)
  constructor
  · rintro (⟨stemmed, extended, single⟩ | plain)
    · next stem extension =>
        have split : (stem ++ "." ++ extension).toList =
            stem.toList ++ '.' :: extension.toList := by
          simp
        rw [split, replaceSuffix_append (proper stemmed) (proper extended) single,
          ofList_append_asm, String.ofList_toList]
    · rcases replaceSuffix_cases name.toList ".asm".toList with
        ⟨stem, extension, stemmed, extended, single, split, _⟩ | ⟨_, lengthens⟩
      · have name_eq : name = String.ofList stem ++ "." ++ String.ofList extension := by
          rw [← ofList_split, ← split, String.ofList_toList]
        refine absurd name_eq (plain _ _ ?_ ?_ (by rwa [String.toList_ofList]))
        · exact fun empty => stemmed (by simpa using congrArg String.toList empty)
        · exact fun empty => extended (by simpa using congrArg String.toList empty)
      · rw [lengthens, ofList_append_asm, String.ofList_toList]
  · rintro rfl
    rcases replaceSuffix_cases name.toList ".asm".toList with
      ⟨stem, extension, stemmed, extended, single, split, replaces⟩ | ⟨plain, lengthens⟩
    · have name_eq : name = String.ofList stem ++ "." ++ String.ofList extension := by
        rw [← ofList_split, ← split, String.ofList_toList]
      rw [replaces, ofList_append_asm, name_eq]
      refine .replaced ?_ ?_ (by rwa [String.toList_ofList])
      · exact fun empty => stemmed (by simpa using congrArg String.toList empty)
      · exact fun empty => extended (by simpa using congrArg String.toList empty)
    · rw [lengthens, ofList_append_asm, String.ofList_toList]
      refine .appended fun stem extension stemmed extended single split => ?_
      exact plain stem.toList extension.toList (proper stemmed) (proper extended) single
        (by simp [split])

/-- Whether the name of a path ends in a suffix that it does not consist of. -/
def HasSuffix (path : Path) (suffix : String) : Prop :=
  ∃ stem, stem ≠ "" ∧ path.name = stem ++ suffix

theorem replaceSuffix_eq_self_iff {name extension : List Char} (extended : extension ≠ [])
    (single : '.' ∉ extension) :
    replaceSuffix name ('.' :: extension) = name ↔
      ∃ stem, stem ≠ [] ∧ name = stem ++ '.' :: extension := by
  constructor
  · intro same
    rcases replaceSuffix_cases name ('.' :: extension) with
      ⟨stem, _, stemmed, _, _, _, replaces⟩ | ⟨_, lengthens⟩
    · exact ⟨stem, stemmed, same.symm.trans replaces⟩
    · simp [lengthens] at same
  · rintro ⟨stem, stemmed, rfl⟩
    exact replaceSuffix_append stemmed extended single _

theorem replaceSuffix_name_eq_iff (path : Path) :
    String.ofList (replaceSuffix path.name.toList ".asm".toList) = path.name ↔
      path.HasSuffix ".asm" := by
  rw [← String.toList_inj, String.toList_ofList, toList_asm,
    replaceSuffix_eq_self_iff (by decide) (by decide)]
  constructor
  · rintro ⟨stem, stemmed, same⟩
    refine ⟨String.ofList stem, fun empty => stemmed ?_, ?_⟩
    · simpa using congrArg String.toList empty
    · rw [← String.toList_inj, same, String.toList_append, String.toList_ofList, toList_asm]
  · rintro ⟨stem, stemmed, same⟩
    refine ⟨stem.toList, fun empty => stemmed (String.toList_inj.mp empty), ?_⟩
    rw [same, String.toList_append, toList_asm]

/-- The path of a listing is that of its script exactly if the script has the suffix of listings. -/
theorem withSuffix_eq_self_iff (path : Path) :
    path.withSuffix ".asm" = path ↔ path.HasSuffix ".asm" := by
  obtain ⟨root, parts⟩ := path
  rw [← replaceSuffix_name_eq_iff, withSuffix, mk.injEq, name]
  dsimp only
  rcases List.eq_nil_or_concat parts with rfl | ⟨above, last, rfl⟩
  · simp [replaceSuffix]
  · simp

end Path

namespace CommandLine

/-- Where a run writes to: to the path that it is given, unless that is empty, and otherwise beside
its script. -/
inductive IsOutput (options : Options) (script : Path) : Path → Prop
  | given {output : String} (wanted : options.output = some output) (named : output ≠ "") :
      IsOutput options script (.ofString output)
  | beside {above : List String} {name listing : String}
      (byDefault : options.output.getD "" = "") (parts : script.parts = above ++ [name])
      (listed : ListingName name listing) :
      IsOutput options script ⟨script.root, above ++ [listing]⟩

variable {options : Options} {script : Path}

theorem outputPath_of_default (byDefault : options.output.getD "" = "") (script : Path) :
    outputPath options script = script.withSuffix ".asm" := by
  rw [outputPath]
  split
  · next output given =>
      rw [given] at byDefault
      rw [if_pos (by simpa using byDefault)]
  · rfl

/-- The path that a run writes to is told by its command line and the path of its script. -/
theorem isOutput_iff (options : Options) (below : script.parts ≠ []) (path : Path) :
    IsOutput options script path ↔ path = outputPath options script := by
  obtain ⟨above, last, parts⟩ := (List.eq_nil_or_concat script.parts).resolve_left below
  rw [List.concat_eq_append] at parts
  have name_eq : script.name = last := by simp [Path.name, parts]
  have above_eq : script.parts.dropLast = above := by simp [parts]
  constructor
  · rintro (⟨wanted, named⟩ | ⟨byDefault, split, listed⟩)
    · simp [outputPath, wanted, named]
    · next front name listing =>
        obtain ⟨rfl, last_eq⟩ := List.append_inj' (parts.symm.trans split) rfl
        cases last_eq
        rw [outputPath_of_default byDefault, Path.withSuffix, name_eq, above_eq,
          Path.listingName_iff.mp listed]
  · rintro rfl
    by_cases byDefault : options.output.getD "" = ""
    · rw [outputPath_of_default byDefault, Path.withSuffix, name_eq, above_eq]
      exact .beside byDefault parts (Path.listingName_iff.mpr rfl)
    · cases wanted : options.output with
      | none => simp [wanted] at byDefault
      | some output =>
          rw [wanted] at byDefault
          have named : output ≠ "" := byDefault
          simp only [outputPath, wanted, String.isEmpty_iff, named, if_false]
          exact .given wanted named

end CommandLine

end PicAssembly
