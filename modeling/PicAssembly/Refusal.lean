import PicAssembly.Fault

/-!
# Refusals in words

Exceptions of the usual kinds with one message each, for refusals that are met in one place only.
-/

namespace PicAssembly.Refusal

/-- A fault about the types of arguments. -/
def type (message : String) : Fault :=
  .raised "TypeError" [.str message]

/-- A fault about the content of arguments. -/
def value (message : String) : Fault :=
  .raised "ValueError" [.str message]

/-- A fault about a call that does not fit its place. -/
def runtime (message : String) : Fault :=
  .raised "RuntimeError" [.str message]

end PicAssembly.Refusal
