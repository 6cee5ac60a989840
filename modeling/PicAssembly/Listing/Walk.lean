import PicAssembly.Listing.Basic

/-!
# Walks

An iterable gives its items one after another, and between them it may do work of its own: it may
close the very listing that takes the items, or fail.  A listing is extended by appending each item
as it comes, so the items that came before a fault stay.  A value that can be walked through is a
walk that gives its items and ends.
-/

namespace PicAssembly

/-- What is met when an iterable is walked through. -/
inductive Walk where
  /-- There are no more items. -/
  | ended
  /-- The iterable fails. -/
  | failed (fault : Fault)
  /-- An item, and what is met behind it. -/
  | item (item : Value) (rest : Walk)
  /-- The iterable closes the listing that takes its items, and goes on. -/
  | closing (rest : Walk)
deriving Repr

namespace Walk

/-- The walk through finished items. -/
def ofItems : List Value → Walk
  | [] => ended
  | first :: rest => item first (ofItems rest)

/-- The walk through a value; what cannot be walked through fails at once. -/
def ofValue (value : Value) : Walk :=
  match value.elements? with
  | some items => ofItems items
  | none => failed (.notIterable value.typeName)

/-- All items of a walk, unless it fails. -/
def items : Walk → Except Fault (List Value)
  | ended => .ok []
  | failed fault => .error fault
  | item first rest => rest.items.map (first :: ·)
  | closing rest => rest.items

end Walk

namespace Listing

/-- The open listing of the items of a walk, all of which are met before there is a listing. -/
def ofWalk (walk : Walk) : Except Fault Listing :=
  walk.items.map ofList

/-- The open listing whose lines are met when a value is walked through. -/
def ofValue (lines : Value) : Except Fault Listing :=
  ofWalk (.ofValue lines)

/-- Appends the items of a walk as they come, up to the first fault; what has been appended before
it stays. -/
def extendBy (listing : Listing) : Walk → Except Fault Unit × Listing
  | .ended => (.ok (), listing)
  | .failed fault => (.error fault, listing)
  | .item first rest =>
      match listing.append first with
      | .ok after => after.extendBy rest
      | .error fault => (.error fault, listing)
  | .closing rest => listing.close.extendBy rest

/-- Appends the lines met when a value is walked through. -/
def extend (listing : Listing) (lines : Value) : Except Fault Unit × Listing :=
  listing.extendBy (.ofValue lines)

/-- Finished items are taken all together or not at all: the first one decides on the others. -/
theorem extendBy_ofItems (listing : Listing) (items : List Value) :
    listing.extendBy (.ofItems items) =
      match listing.refusal? items with
      | some fault => (.error fault, listing)
      | none => (.ok (), listing.grow items) := by
  induction items generalizing listing with
  | nil => simp [Walk.ofItems, extendBy, refusal?]
  | cons first rest induction =>
      cases state : listing.isClosed with
      | true => simp [Walk.ofItems, extendBy, append_closed state, refusal?, state]
      | false =>
          have accepted : (listing.grow [first]).refusal? rest = none :=
            (refusal?_eq_none_iff _ _).mpr (.inr state)
          simp only [Walk.ofItems, extendBy, append_open state]
          rw [induction, accepted]
          simp [refusal?, state, grow_grow]

end Listing

end PicAssembly
