import PicAssembly.Value.Equality

/-!
# Dictionaries

A dictionary holds its entries in the order in which their keys were first set.  Keys that are
equal are one key, and setting a key again keeps its first place and its first spelling.
-/

namespace PicAssembly

/-- Dictionary entries in insertion order. -/
abbrev Entries := List (Value × Value)

namespace Entries

/-- Sets a key, in its old place if it has one and last otherwise; `shared` says that all undefined
numbers are one key. -/
def setBy (shared : Bool) (entries : Entries) (key value : Value) : Entries :=
  match entries with
  | [] => [(key, value)]
  | (first, old) :: rest =>
      if first.equals shared key then (first, value) :: rest
      else (first, old) :: setBy shared rest key value

/-- Sets a key, where each undefined number is a key of its own. -/
def set (entries : Entries) (key value : Value) : Entries :=
  entries.setBy false key value

/-- Sets several keys in turn. -/
def setAll (entries additions : Entries) : Entries :=
  additions.foldl (fun entries addition => entries.set addition.1 addition.2) entries

/-- The dictionary that the entries of one literal build; undefined numbers in it are one key. -/
def ofLiteral (pairs : List (Value × Value)) : Entries :=
  pairs.foldl (fun entries pair => entries.setBy true pair.1 pair.2) []

/-- Whether no entry has a key that is equal to one before it. -/
def IsDictionary (entries : Entries) : Prop :=
  entries.Pairwise fun entry later => entry.1.equals false later.1 = false

variable {entries : Entries} {key value : Value}

theorem key_of_mem_set {entry : Value × Value} (member : entry ∈ entries.set key value) :
    entry.1 = key ∨ ∃ other ∈ entries, other.1 = entry.1 := by
  induction entries with
  | nil =>
      cases List.mem_singleton.mp member
      exact .inl rfl
  | cons first rest induction =>
      obtain ⟨kept, old⟩ := first
      rw [set, setBy] at member
      split at member <;> rcases List.mem_cons.mp member with rfl | member
      · exact .inr ⟨_, List.mem_cons_self, rfl⟩
      · exact .inr ⟨entry, List.mem_cons_of_mem _ member, rfl⟩
      · exact .inr ⟨_, List.mem_cons_self, rfl⟩
      · refine (induction member).imp_right ?_
        rintro ⟨other, found, same⟩
        exact ⟨other, List.mem_cons_of_mem _ found, same⟩

namespace IsDictionary

theorem set (isDictionary : entries.IsDictionary) (key value : Value) :
    (entries.set key value).IsDictionary := by
  induction entries with
  | nil => exact List.pairwise_singleton _ _
  | cons first rest induction =>
      obtain ⟨kept, old⟩ := first
      obtain ⟨differs, others⟩ := List.pairwise_cons.mp isDictionary
      rw [Entries.set, setBy]
      split
      · exact List.pairwise_cons.mpr ⟨differs, others⟩
      · next fresh =>
          refine List.pairwise_cons.mpr ⟨fun entry member => ?_, induction others⟩
          rcases key_of_mem_set member with same | ⟨other, found, same⟩
          · exact same ▸ Bool.eq_false_iff.mpr fresh
          · exact same ▸ differs other found

theorem setAll (isDictionary : entries.IsDictionary) (additions : Entries) :
    (entries.setAll additions).IsDictionary := by
  induction additions generalizing entries with
  | nil => exact isDictionary
  | cons addition additions induction => exact induction (isDictionary.set _ _)

end IsDictionary

end Entries

/-- A dictionary: its entries, of which no two have the same key. -/
structure Dictionary where
  entries : Entries
  isDictionary : entries.IsDictionary

namespace Dictionary

/-- The dictionary without entries. -/
def empty : Dictionary :=
  ⟨[], List.Pairwise.nil⟩

/-- A dictionary with several keys set in turn. -/
def setAll (dictionary : Dictionary) (additions : Entries) : Dictionary :=
  ⟨dictionary.entries.setAll additions, dictionary.isDictionary.setAll additions⟩

/-- The dictionary that a sequence of pairs builds. -/
def ofPairs (pairs : List (Value × Value)) : Dictionary :=
  empty.setAll pairs

end Dictionary

end PicAssembly
