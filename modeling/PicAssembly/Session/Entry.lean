import PicAssembly.Program.Member

/-!
# Entries

What is recorded about the steps of a session: how each of them ended and which lines came since the
one before.
-/

namespace PicAssembly

/-- What a step answers with, as it is shown. -/
inductive Answer where
  /-- A plain value. -/
  | value (value : Value)
  /-- A labelled block, by its label. -/
  | block (label : String)
  /-- A constants block. -/
  | constants
  /-- A program. -/
  | program
  /-- Anything else, by the name of its type. -/
  | other (typeName : String)
  /-- Lines of a program. -/
  | lines (lines : List Value)
  /-- The text of a program, which is meant to be read by lines. -/
  | source (text : String)
deriving Repr

namespace Answer

/-- The answer of a step that has none of its own. -/
def nothing : Answer :=
  value .null

/-- A scope as it is shown. -/
def ofScope : Scope → Answer
  | .block name _ => block (label name.text)
  | .constants _ => constants

/-- A reply as it is shown. -/
def ofReply : Reply → Answer
  | .value held => value held
  | .scope scope => ofScope scope
  | reply => other reply.typeName

/-- The answer of entering a scope: a labelled block gives the program, a constants block itself. -/
def ofEntered : Scope → Answer
  | .block .. => program
  | .constants _ => constants

end Answer

/-- What a session records about a step. -/
structure Entry where
  outcome : Except Fault Answer
  added : List Value
  size : Nat
  isFinal : Bool

namespace Entry

/-- The entry for an outcome, where so many lines of a listing have been recorded before. -/
def ofOutcome (outcome : Except Fault Answer) (listing : Listing) (recorded : Nat) : Entry :=
  { outcome
    added := (listing.lines.extract recorded listing.size).toList
    size := listing.size
    isFinal := listing.isClosed }

end Entry

/-- What a session comes to: its entries and the program at its end. -/
structure Transcript where
  entries : List Entry
  code : List Value
  isFinal : Bool

end PicAssembly
