import PicAssembly.Signature

/-!
# Listings

A listing is an append-only sequence of lines.  Lines are kept in the order in which they came, and
once the listing is closed it takes no more.
-/

namespace PicAssembly

/-- An append-only sequence of lines. -/
structure Listing where
  lines : Array Value
  isClosed : Bool
deriving Repr

namespace Listing

/-- An open listing with the given lines. -/
def ofList (lines : List Value) : Listing :=
  { lines := lines.toArray, isClosed := false }

/-- The lines in order. -/
def toList (listing : Listing) : List Value :=
  listing.lines.toList

/-- The number of lines. -/
def size (listing : Listing) : Nat :=
  listing.lines.size

/-- The listing with more lines at its end. -/
def grow (listing : Listing) (lines : List Value) : Listing :=
  { listing with lines := listing.lines ++ lines }

/-- Appends one line, unless the listing is closed. -/
def append (listing : Listing) (line : Value) : Except Fault Listing :=
  if listing.isClosed then .error (.closed line) else .ok (listing.grow [line])

/-- The fault of appending lines one after another: a closed listing refuses the first of them. -/
def refusal? (listing : Listing) : List Value → Option Fault
  | [] => none
  | first :: _ => if listing.isClosed then some (.closed first) else none

/-- Closes the listing. -/
def close (listing : Listing) : Listing :=
  { listing with isClosed := true }

@[simp]
theorem toList_ofList (lines : List Value) : (ofList lines).toList = lines := by
  simp [ofList, toList]

@[simp]
theorem length_toList (listing : Listing) : listing.toList.length = listing.size := by
  simp [toList, size]

@[simp]
theorem toList_grow (listing : Listing) (lines : List Value) :
    (listing.grow lines).toList = listing.toList ++ lines := by
  simp [grow, toList]

@[simp]
theorem isClosed_grow (listing : Listing) (lines : List Value) :
    (listing.grow lines).isClosed = listing.isClosed := rfl

@[simp]
theorem grow_nil (listing : Listing) : listing.grow [] = listing := by
  simp [grow]

theorem grow_grow (listing : Listing) (front back : List Value) :
    (listing.grow front).grow back = listing.grow (front ++ back) := by
  have joined : listing.lines ++ front ++ back = listing.lines ++ (front ++ back) := by
    apply Array.ext'
    simp
  simp [grow, joined]

theorem append_open {listing : Listing} (isOpen : listing.isClosed = false) (line : Value) :
    listing.append line = .ok (listing.grow [line]) := by
  simp [append, isOpen]

theorem append_closed {listing : Listing} (isClosed : listing.isClosed = true) (line : Value) :
    listing.append line = .error (.closed line) := by
  simp [append, isClosed]

@[simp]
theorem toList_close (listing : Listing) : listing.close.toList = listing.toList := rfl

@[simp]
theorem isClosed_close (listing : Listing) : listing.close.isClosed = true := rfl

/-- Lines are refused exactly when there are some and the listing is closed. -/
theorem refusal?_eq_none_iff (listing : Listing) (lines : List Value) :
    listing.refusal? lines = none ↔ lines = [] ∨ listing.isClosed = false := by
  cases lines <;> simp [refusal?]

/-- The texts of lines that are all texts; the first other line is named by its place. -/
def texts (lines : List Value) (place : Nat) : Except Fault (List String) :=
  match lines with
  | [] => .ok []
  | .str line :: rest => (texts rest (place + 1)).map (line :: ·)
  | line :: _ => .error (.lineNotText place line.typeName)

/-- The lines as one text, separated by line breaks. -/
def text (listing : Listing) : Except Fault String :=
  (texts listing.toList 0).map ("\n".intercalate ·)

/-- The positions lie between the negative of this number and the number itself. -/
def positionLimit : Int := 9223372036854775808

/-- A position as it is reported, in a signed word of 32 bits. -/
def reported (position : Int) : Int :=
  position.bmod 4294967296

/-- The line at a position; a negative position counts from the end. -/
def get (listing : Listing) (index : Int) : Except Fault Value :=
  let position := if index < 0 then index + listing.size else index
  if index < -positionLimit ∨ positionLimit ≤ index then .error .positionTooLarge
  else
    match if position < 0 then none else listing.lines[position.toNat]? with
    | some line => .ok line
    | none => .error (.outOfRange (reported position))

/-- The line at the position that a value stands for. -/
def getAt (listing : Listing) (index : Value) : Except Fault Value :=
  match index.integer? with
  | some position => listing.get position
  | none => .error (.indexType index.typeName)

/-- A bound of a slice, brought between the two ends that its direction allows. -/
def clamp (size low high : Int) (bound : Int) : Int :=
  let position := if bound < 0 then bound + size else bound
  max low (min high position)

/-- The positions of a slice: every `step`-th from `start` until `stop` is reached or passed. -/
def positions (size : Nat) (start stop : Option Int) (step : Int) : List Nat :=
  let low : Int := if step < 0 then -1 else 0
  let high : Int := if step < 0 then (size : Int) - 1 else size
  let first := match start with
    | some bound => clamp size low high bound
    | none => if step < 0 then high else low
  let last := match stop with
    | some bound => clamp size low high bound
    | none => if step < 0 then low else high
  let distance := if step < 0 then first - last else last - first
  let count := (distance.toNat + (step.natAbs - 1)) / step.natAbs
  (List.range count).map fun (index : Nat) => (first + index * step).toNat

/-- The lines at the positions of a slice. -/
def slice (listing : Listing) (start stop step : Option Int) : Except Fault (List Value) :=
  if step = some 0 then .error .zeroStep
  else .ok ((positions listing.size start stop (step.getD 1)).filterMap (listing.lines[·]?))

/-- The bound that a value stands for; null leaves it open. -/
def bound (value : Value) : Except Fault (Option Int) :=
  match value, value.integer? with
  | .null, _ => .ok none
  | _, some position => .ok (some position)
  | _, none => .error .sliceType

/-- The lines of the slice that three values stand for; the step is looked at first. -/
def sliceAt (listing : Listing) (start stop step : Value) : Except Fault (List Value) := do
  let step ← bound step
  if step = some 0 then throw .zeroStep
  listing.slice (← bound start) (← bound stop) step

/-- A short description by the number of lines. -/
def describe (listing : Listing) : String :=
  "LineBuffer(" ++ toString listing.size ++ " lines)"

end Listing

end PicAssembly
