import PicAssembly.Proofs.Building
import PicAssembly.Session.Run

/-!
# Histories of programs

Whatever is done with a program changes it in a few ways only: lines are recorded while it is open,
it is ended, its constants blocks are rearranged, or its listing is asked directly.  A history
strings such changes together and counts the ends among them.  Along every history the lines grow at
their end, and a program that is final stays as it is.
-/

namespace PicAssembly

/-- What may be done with a program: the names that its labelled blocks may have, and the requests
that may be made of its listing. -/
structure Allowance where
  name : Value → Prop
  request : Listing.Request → Prop

namespace Allowance

/-- Everything may be done. -/
def everything : Allowance :=
  ⟨fun _ => True, fun _ => True⟩

/-- The lines that operations and scopes record, where every heading is the label of a name. -/
def line (allowance : Allowance) : Line → Prop
  | .heading text => ∃ name, allowance.name name ∧ text = label name.text
  | .directive text => Line.directive text = Scope.constantsStart ∨ text = "endc"
  | _ => True

end Allowance

/-- A program that another one may become; `ends` counts how often it is ended on the way. -/
inductive History (allowance : Allowance) (before : Program) : Nat → Program → Prop
  | start : History allowance before 0 before
  | record {ends : Nat} {program : Program} (lines : List Line)
      (history : History allowance before ends program) (isOpen : program.isFinal = false)
      (allowed : ∀ line ∈ lines, allowance.line line) :
      History allowance before ends (program.record lines)
  | finish {ends : Nat} {program : Program}
      (history : History allowance before ends program) (isOpen : program.isFinal = false) :
      History allowance before (ends + 1) program.finished
  | rearrange {ends : Nat} {program after : Program}
      (history : History allowance before ends program)
      (unchanged : after.listing = program.listing) :
      History allowance before ends after
  | ask {ends : Nat} {program : Program} (request : Listing.Request)
      (history : History allowance before ends program) (allowed : allowance.request request) :
      History allowance before ends
        { program with listing := (program.listing.answer request).2 }

namespace Listing

/-- A listing grows when lines are only added to it, and none are when it is closed. -/
structure Grows (before after : Listing) : Prop where
  isPrefix : before.toList <+: after.toList
  closed : before.isClosed = true → after.isClosed = true ∧ after.toList = before.toList

namespace Grows

theorem refl (listing : Listing) : listing.Grows listing :=
  ⟨List.prefix_refl _, fun closed => ⟨closed, rfl⟩⟩

theorem trans {first second third : Listing} (front : first.Grows second)
    (back : second.Grows third) : first.Grows third := by
  refine ⟨front.isPrefix.trans back.isPrefix, fun closed => ?_⟩
  obtain ⟨secondClosed, secondLines⟩ := front.closed closed
  obtain ⟨thirdClosed, thirdLines⟩ := back.closed secondClosed
  exact ⟨thirdClosed, thirdLines.trans secondLines⟩

end Grows

theorem grows_grow {listing : Listing} (lines : List Value) (isOpen : listing.isClosed = false) :
    listing.Grows (listing.grow lines) := by
  refine ⟨?_, fun closed => ?_⟩
  · simp
  · simp [isOpen] at closed

theorem grows_close (listing : Listing) : listing.Grows listing.close :=
  ⟨List.prefix_refl _, fun _ => ⟨rfl, rfl⟩⟩

/-- A line that is taken is added at the end. -/
theorem grows_of_append {listing after : Listing} {line : Value}
    (taken : listing.append line = .ok after) : listing.Grows after := by
  cases state : listing.isClosed with
  | true =>
      rw [append_closed state] at taken
      cases taken
  | false =>
      rw [append_open state] at taken
      cases taken
      exact grows_grow [line] state

/-- However a walk goes on and ends, the listing that takes its items only grows. -/
theorem grows_extendBy (listing : Listing) (walk : Walk) :
    listing.Grows (listing.extendBy walk).2 := by
  induction walk generalizing listing with
  | ended | failed => exact .refl listing
  | item first rest induction =>
      rw [extendBy]
      cases taken : listing.append first with
      | ok after => exact (grows_of_append taken).trans (induction after)
      | error fault => exact .refl listing
  | closing rest induction => exact (grows_close listing).trans (induction listing.close)

theorem grows_changed {listing : Listing} {outcome : Except Fault Listing}
    (grows : ∀ after, outcome = .ok after → listing.Grows after) :
    listing.Grows (listing.changed outcome).2 := by
  cases outcome with
  | ok after => exact grows after rfl
  | error fault => exact .refl listing

/-- Whatever is asked of a listing, refused or not, it only grows. -/
theorem grows_answer (listing : Listing) (request : Request) :
    listing.Grows (listing.answer request).2 := by
  cases request with
  | append arguments =>
      apply grows_changed
      intro after appended
      rw [callAppend] at appended
      obtain ⟨bound, _, taken⟩ := exists_of_bind_ok appended
      exact grows_of_append taken
  | extend arguments =>
      change listing.Grows (listing.callExtend arguments).2
      rw [callExtend]
      split
      · exact listing.grows_extendBy _
      · exact .refl listing
  | extendBy walk => exact listing.grows_extendBy walk
  | close arguments =>
      apply grows_changed
      intro after closed
      rw [callClose] at closed
      obtain ⟨bound, _, taken⟩ := exists_of_bind_ok closed
      cases taken
      exact grows_close listing
  | text | get | slice | iterate | lines | isClosed | size | describe => exact .refl listing

end Listing

namespace History

variable {allowance : Allowance} {ends : Nat}

theorem trans {first second third : Program} {frontEnds backEnds : Nat}
    (front : History allowance first frontEnds second)
    (back : History allowance second backEnds third) :
    History allowance first (frontEnds + backEnds) third := by
  induction back with
  | start => exact front
  | record lines _ isOpen allowed induction => exact .record lines induction isOpen allowed
  | finish _ isOpen induction => exact .finish induction isOpen
  | rearrange _ unchanged induction => exact .rearrange induction unchanged
  | ask request _ allowed induction => exact .ask request induction allowed

/-- Along every history the listing only grows, and not at all once it is closed. -/
theorem grows {before after : Program} (history : History allowance before ends after) :
    before.listing.Grows after.listing := by
  induction history with
  | start => exact .refl _
  | record lines _ isOpen _ induction => exact induction.trans (Listing.grows_grow _ isOpen)
  | @finish _ program _ isOpen induction =>
      exact (induction.trans (Listing.grows_grow _ isOpen)).trans (Listing.grows_close _)
  | rearrange _ unchanged induction => exact unchanged ▸ induction
  | ask request _ _ induction => exact induction.trans (Listing.grows_answer _ request)

end History

end PicAssembly
