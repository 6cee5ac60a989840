import PicAssembly.Text.Capital

/-!
# Labels

A label is an identifier with its first character in capital form, so a heading and every jump or
call to it agree however the identifier was capitalised.
-/

namespace PicAssembly

/-- The label of an identifier, character by character. -/
def labelChars : List Char → List Char
  | [] => []
  | first :: rest => Capital.ofChar first ++ rest

/-- The label of an identifier. -/
def label (identifier : String) : String :=
  String.ofList (labelChars identifier.toList)

@[simp]
theorem toList_label (identifier : String) :
    (label identifier).toList = labelChars identifier.toList := by
  simp [label]

end PicAssembly
