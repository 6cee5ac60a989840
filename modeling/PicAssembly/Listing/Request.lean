import PicAssembly.Listing.Walk

/-!
# Requests to a listing

What callers may ask of a listing: to grow, to close, or to be read.
-/

namespace PicAssembly.Listing

/-- A request; the first four are calls and bind their arguments, and the fifth is a call with an
iterable that is no plain value. -/
inductive Request where
  | append (arguments : List Value)
  | extend (arguments : List Value)
  | close (arguments : List Value)
  | text (arguments : List Value)
  | extendBy (walk : Walk)
  | get (index : Value)
  | slice (start stop step : Value)
  | iterate
  | lines
  | isClosed
  | size
  | describe
deriving Repr

/-- The parameters of the calls. -/
def signature (name : String) (parameters : List String) : Signature :=
  .method ("LineBuffer." ++ name) parameters

/-- Appends by a call. -/
def callAppend (listing : Listing) (arguments : List Value) : Except Fault Listing := do
  let bound ← (signature "append" ["line"]).bind (.ofList arguments)
  listing.append (bound.slot 0)

/-- Extends by a call. -/
def callExtend (listing : Listing) (arguments : List Value) : Except Fault Unit × Listing :=
  match (signature "extend" ["lines"]).bind (.ofList arguments) with
  | .ok bound => listing.extend (bound.slot 0)
  | .error fault => (.error fault, listing)

/-- Closes by a call. -/
def callClose (listing : Listing) (arguments : List Value) : Except Fault Listing := do
  let _ ← (signature "close" []).bind (.ofList arguments)
  pure listing.close

/-- Reads the text by a call. -/
def callText (listing : Listing) (arguments : List Value) : Except Fault Value := do
  let _ ← (signature "text" []).bind (.ofList arguments)
  listing.text.map .str

/-- A change in one step, which has no answer of its own; a refused one has not been made. -/
def changed (listing : Listing) : Except Fault Listing → Except Fault Value × Listing
  | .ok after => (.ok .null, after)
  | .error fault => (.error fault, listing)

/-- A change in many steps, which has no answer of its own; a refused one has come as far as it
has. -/
def changedTo (outcome : Except Fault Unit × Listing) : Except Fault Value × Listing :=
  (outcome.1.map fun _ => .null, outcome.2)

/-- The answer to a request, and the listing after it. -/
def answer (listing : Listing) : Request → Except Fault Value × Listing
  | .append arguments => listing.changed (listing.callAppend arguments)
  | .extend arguments => changedTo (listing.callExtend arguments)
  | .extendBy walk => changedTo (listing.extendBy walk)
  | .close arguments => listing.changed (listing.callClose arguments)
  | .text arguments => (listing.callText arguments, listing)
  | .get index => (listing.getAt index, listing)
  | .slice start stop step => ((listing.sliceAt start stop step).map .list, listing)
  | .iterate | .lines => (.ok (.list listing.toList), listing)
  | .isClosed => (.ok (.bool listing.isClosed), listing)
  | .size => (.ok (.int listing.size), listing)
  | .describe => (.ok (.str listing.describe), listing)

end PicAssembly.Listing
