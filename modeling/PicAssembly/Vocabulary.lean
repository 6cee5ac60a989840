import PicAssembly.Device
import PicAssembly.Operation

/-!
# Vocabulary

The version of the language with the names of its operations.
-/

namespace PicAssembly.Vocabulary

/-- The version of the language. -/
def version : String := "1.0.0"

/-- The names of all operations in order. -/
def operations : List String :=
  Operation.all.map Operation.name

/-- The names of the operations that open scopes, in order. -/
def scopes : List String :=
  (Operation.all.filter Operation.isScoped).map Operation.name

end PicAssembly.Vocabulary
