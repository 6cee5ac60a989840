import PicAssembly.FileTree

/-!
# Files of trees

Making directories touches no file, whether it succeeds or is refused on the way.  Writing a file
sets the content at one place and touches no other one, and the path that has been written to still
leads to that place.
-/

namespace PicAssembly.FileTree

variable {Content : Type} {tree after : FileTree Content} {directory : List String} {path : Path}
  {place : List String} {content : Content}

/-- Away from the root, what a file holds depends on the files alone, for no directory hides one. -/
theorem content?_eq_lookup (tree : FileTree Content) (below : place ≠ []) :
    tree.content? place = tree.files.lookup place := by
  rw [content?, node, if_neg (mt List.isEmpty_iff.mp below)]
  cases tree.files.lookup place with
  | some found => rfl
  | none =>
      dsimp only
      split
      · next found isFile =>
          split at isFile <;> cases isFile
      · rfl

theorem content?_of_files (same : after.files = tree.files) (place : List String) :
    after.content? place = tree.content? place := by
  by_cases root : place = []
  · rw [root]
    rfl
  · rw [content?_eq_lookup _ root, content?_eq_lookup _ root, same]

@[simp]
theorem files_addDirectory (tree : FileTree Content) (parts : List String) :
    (tree.addDirectory parts).files = tree.files := by
  rw [addDirectory]
  split <;> rfl

theorem files_of_made (made : tree.makeOne directory path = .made after) :
    after.files = tree.files := by
  rw [makeOne] at made
  split at made
  · cases made
  · cases made
  · cases made
  · split at made
    · cases made
      rfl
    · cases made
    · cases made
      exact files_addDirectory _ _

/-- The tree that making directories comes to, when they are all there or up to a refusal. -/
def reached : Except (Fault × FileTree Content) (FileTree Content) → FileTree Content
  | .ok tree => tree
  | .error (_, tree) => tree

theorem files_makeUpTo (tree : FileTree Content) (directory : List String) (path : Path)
    (count : Nat) : (reached (tree.makeUpTo directory path count)).files = tree.files := by
  induction count with
  | zero => rfl
  | succ count induction =>
      rw [makeUpTo]
      split
      · next made => exact files_of_made made
      · rfl
      · rcases above : tree.makeUpTo directory path count with ⟨fault, middle⟩ | middle <;>
          rw [above] at induction
        · exact induction
        · have same : middle.files = tree.files := induction
          dsimp only [bind, Except.bind]
          split
          · next made => exact (files_of_made made).trans same
          · exact same
          · exact same

theorem files_makeDirectories (tree : FileTree Content) (directory : List String) (path : Path) :
    (reached (tree.makeDirectories directory path)).files = tree.files := by
  rw [makeDirectories]
  split
  · rfl
  · exact files_makeUpTo _ _ _ _

theorem lookup_cons_of_ne {place other : List String} (differs : other ≠ place)
    (files : List (List String × Content)) (content : Content) :
    ((place, content) :: files).lookup other = files.lookup other := by
  rw [List.lookup_cons, beq_eq_false_iff_ne.mpr differs]

theorem lookup_setFile_self (files : List (List String × Content)) (place : List String)
    (content : Content) : (setFile files place content).lookup place = some content := by
  induction files with
  | nil => exact List.lookup_cons_self
  | cons file files induction =>
      obtain ⟨first, old⟩ := file
      rw [setFile]
      split
      · next same =>
          rw [same]
          exact List.lookup_cons_self
      · next differs => rwa [lookup_cons_of_ne (Ne.symm differs)]

theorem lookup_setFile_other {place other : List String} (differs : other ≠ place)
    (files : List (List String × Content)) (content : Content) :
    (setFile files place content).lookup other = files.lookup other := by
  induction files with
  | nil => exact lookup_cons_of_ne differs [] content
  | cons file files induction =>
      obtain ⟨first, old⟩ := file
      rw [setFile]
      split
      · next same =>
          rw [same, lookup_cons_of_ne differs, lookup_cons_of_ne differs]
      · rw [List.lookup_cons, List.lookup_cons, induction]

/-- A tree that differs from another one in the file at one place. -/
structure Writes (tree : FileTree Content) (place : List String) (content : Content)
    (after : FileTree Content) : Prop where
  written : after.content? place = some content
  others : ∀ other, other ≠ place → after.content? other = tree.content? other

theorem ne_root_of_absent (absent : tree.isDirectory place = false) : place ≠ [] := by
  rintro rfl
  cases absent

theorem writes_setFile (below : place ≠ []) (content : Content) :
    tree.Writes place content { tree with files := setFile tree.files place content } where
  written := by rw [content?_eq_lookup _ below, lookup_setFile_self]
  others other differs := by
    by_cases root : other = []
    · rw [root]
      rfl
    · rw [content?_eq_lookup _ root, content?_eq_lookup _ root, lookup_setFile_other differs]

/-- A walk leads through directories only, so it leads to the same place where they are kept. -/
theorem walk_of_directories
    (kept : ∀ place, tree.node place = .directory → after.node place = .directory)
    {parts start : List String} (walks : tree.walk start parts = .ok place) :
    after.walk start parts = .ok place := by
  induction parts generalizing start with
  | nil => exact walks
  | cons part parts induction =>
      rw [walk] at walks ⊢
      split at walks
      · next isDirectory =>
          rw [kept _ isDirectory]
          dsimp only at walks ⊢
          split at walks
          · cases walks
          · next fits =>
              rw [if_neg fits]
              exact induction walks
      · cases walks
      · cases walks

theorem node_setFile_of_directory {other : List String}
    (absent : tree.isDirectory place = false) (isDirectory : tree.node other = .directory) :
    node { tree with files := setFile tree.files place content } other = .directory := by
  have differs : other ≠ place := by
    rintro rfl
    simp [FileTree.isDirectory, isDirectory] at absent
  rw [node] at isDirectory ⊢
  rwa [lookup_setFile_other differs]

/-- A file that has been written is at the place that its path leads to, before and after. -/
theorem exists_of_write (wrote : tree.write directory path content = .ok after) :
    ∃ place, tree.locate directory path = .ok place ∧ after.locate directory path = .ok place ∧
      tree.Writes place content after := by
  rw [write] at wrote
  split at wrote
  · cases wrote
  · split at wrote
    · cases wrote
    · cases wrote
    · next place located =>
        split at wrote
        · cases wrote
        · next isDirectory =>
            have absent : tree.isDirectory place = false := by simpa using isDirectory
            cases wrote
            refine ⟨place, located, ?_, writes_setFile (ne_root_of_absent absent) content⟩
            rw [locate] at located ⊢
            split at located
            · cases located
            · next fits =>
                rw [if_neg fits]
                exact walk_of_directories
                  (fun _ => node_setFile_of_directory absent) located

end PicAssembly.FileTree
