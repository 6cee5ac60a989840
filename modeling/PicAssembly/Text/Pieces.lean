/-!
# Pieces of text

A text cut at every occurrence of a separator.  There is always one more piece than there are
separators, and joining the pieces gives the text back.
-/

namespace PicAssembly.Pieces

/-- A text with a character before its first piece. -/
def extend (first : Char) : List (List Char) → List (List Char)
  | [] => [[first]]
  | piece :: pieces => (first :: piece) :: pieces

/-- The pieces between the separators of a text. -/
def split (separator : Char) : List Char → List (List Char)
  | [] => [[]]
  | first :: rest =>
      if first = separator then [] :: split separator rest else extend first (split separator rest)

/-- Pieces with a separator between each two. -/
def join (separator : Char) : List (List Char) → List Char
  | [] => []
  | [piece] => piece
  | piece :: next :: pieces => piece ++ separator :: join separator (next :: pieces)

theorem split_ne_nil (separator : Char) (text : List Char) : split separator text ≠ [] := by
  cases text with
  | nil => simp [split]
  | cons first rest =>
      unfold split
      split
      · simp
      · cases split separator rest <;> simp [extend]

theorem join_extend (separator first : Char) (pieces : List (List Char)) (nonempty : pieces ≠ []) :
    join separator (extend first pieces) = first :: join separator pieces := by
  match pieces with
  | [] => exact absurd rfl nonempty
  | [piece] => rfl
  | piece :: next :: pieces => simp [extend, join]

/-- Joining the pieces of a text gives the text back. -/
theorem join_split (separator : Char) (text : List Char) :
    join separator (split separator text) = text := by
  induction text with
  | nil => rfl
  | cons first rest induction =>
      unfold split
      split
      · next equal =>
          have nonempty := split_ne_nil separator rest
          cases pieces : split separator rest with
          | nil => exact absurd pieces nonempty
          | cons piece more => rw [join, ← pieces, induction, equal]; rfl
      · rw [join_extend _ _ _ (split_ne_nil separator rest), induction]

end PicAssembly.Pieces
