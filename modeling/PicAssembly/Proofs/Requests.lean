import PicAssembly.Proofs.Binding
import PicAssembly.Proofs.EndMarker

/-!
# Runs of requests

A listing that is asked for one thing after another.  A request is refused and changes nothing, or
it only reads, or the listing takes all the lines that the request offers, or it is closed.  So the
lines of a listing are those that it was made with and then those of the requests that it granted,
and what becomes of the next line is decided by one thing only, whether the listing has been closed.

All this holds as long as iterables give their items and end.  Of one that fails or closes the
listing while it is walked through, the items that it has given before stay.
-/

namespace PicAssembly

namespace Walk

/-- The items that come before a walk ends, fails or closes the listing. -/
def given : Walk → List Value
  | ended | failed _ | closing _ => []
  | item first rest => first :: rest.given

/-- Whether a walk gives its items and ends, and does nothing else. -/
def IsSteady (walk : Walk) : Prop :=
  ∃ items, walk = ofItems items

@[simp]
theorem given_ofItems (items : List Value) : (ofItems items).given = items := by
  induction items with
  | nil => rfl
  | cons first rest induction => simp [ofItems, given, induction]

theorem isSteady_ofItems (items : List Value) : (ofItems items).IsSteady :=
  ⟨items, rfl⟩

end Walk

namespace Listing

namespace Request

/-- The lines that a request offers: the line to append, or the items to extend by. -/
def offered : Request → List Value
  | append [line] => [line]
  | extend [value] => value.elements?.getD []
  | extendBy walk => walk.given
  | _ => []

/-- Whether the iterable that a request hands over is steady; values are. -/
def IsSteady : Request → Prop
  | extendBy walk => walk.IsSteady
  | _ => True

theorem offered_of_isReading {request : Request} (isReading : request.isReading = true) :
    request.offered = [] := by
  cases request with
  | append | extend | extendBy | close => cases isReading
  | text | get | slice | iterate | lines | isClosed | size | describe => rfl

theorem ne_close_of_isReading {request : Request} (isReading : request.isReading = true) :
    request ≠ .close [] := by
  rintro rfl
  cases isReading

end Request

/-! ## Walks -/

theorem extendBy_open {listing : Listing} (isOpen : listing.isClosed = false)
    (items : List Value) :
    listing.extendBy (.ofItems items) = (.ok (), listing.grow items) := by
  have accepted : listing.refusal? items = none :=
    (listing.refusal?_eq_none_iff _).mpr (.inr isOpen)
  rw [extendBy_ofItems, accepted]

theorem extendBy_closed {listing : Listing} (isClosed : listing.isClosed = true) (first : Value)
    (rest : List Value) :
    listing.extendBy (.ofItems (first :: rest)) = (.error (.closed first), listing) := by
  have refused : listing.refusal? (first :: rest) = some (.closed first) := by
    simp [refusal?, isClosed]
  rw [extendBy_ofItems, refused]

/-- A closed listing takes nothing, whatever a walk gives. -/
theorem toList_extendBy_closed {listing : Listing} (isClosed : listing.isClosed = true)
    (walk : Walk) : (listing.extendBy walk).2.toList = listing.toList := by
  induction walk generalizing listing with
  | ended | failed => rfl
  | item first rest => rw [extendBy, append_closed isClosed]
  | closing rest induction => exact induction rfl

/-- An open listing takes the items that come before a walk stops, whatever stops it. -/
theorem toList_extendBy_open {listing : Listing} (isOpen : listing.isClosed = false)
    (walk : Walk) : (listing.extendBy walk).2.toList = listing.toList ++ walk.given := by
  induction walk generalizing listing with
  | ended | failed => simp [extendBy, Walk.given]
  | item first rest induction =>
      have grown : (listing.grow [first]).isClosed = false := isOpen
      rw [extendBy, append_open isOpen]
      dsimp only
      rw [induction grown, toList_grow, Walk.given, List.append_assoc, List.singleton_append]
  | closing rest =>
      have closed : listing.close.isClosed = true := rfl
      rw [extendBy, toList_extendBy_closed closed, toList_close, Walk.given, List.append_nil]

/-! ## Single requests -/

theorem answer_single (listing : Listing) (line : Value) :
    listing.answer (.append [line]) = listing.changed (listing.append line) := rfl

theorem answer_append (listing : Listing) (line : Value) :
    listing.answer (.append [line]) = listing.answer (.extendBy (.ofItems [line])) := by
  rw [answer_single]
  change _ = changedTo (listing.extendBy (.ofItems [line]))
  cases state : listing.isClosed with
  | true =>
      rw [extendBy_closed state, append_closed state]
      rfl
  | false =>
      rw [extendBy_open state, append_open state]
      rfl

theorem answer_extend {lines : Value} {items : List Value} (listing : Listing)
    (iterable : lines.elements? = some items) :
    listing.answer (.extend [lines]) = listing.answer (.extendBy (.ofItems items)) := by
  change changedTo (listing.extendBy (.ofValue lines)) = changedTo (listing.extendBy _)
  rw [Walk.ofValue, iterable]

theorem answer_extend_of_none {lines : Value} (listing : Listing)
    (noItems : lines.elements? = none) :
    listing.answer (.extend [lines]) = (.error (.notIterable lines.typeName), listing) := by
  change changedTo (listing.extendBy (.ofValue lines)) = _
  rw [Walk.ofValue, noItems]
  rfl

/-- What can come of a request: it is refused, it only reads, its lines are taken, or the listing
is closed. -/
inductive Answered (listing : Listing) : Request → Except Fault Value × Listing → Prop
  | refused {request : Request} (noClose : request ≠ .close []) (fault : Fault) :
      Answered listing request (.error fault, listing)
  | read {request : Request} (isReading : request.isReading = true) (answer : Except Fault Value) :
      Answered listing request (answer, listing)
  | taken {request : Request} (noClose : request ≠ .close []) :
      Answered listing request (.ok .null, listing.grow request.offered)
  | closed : Answered listing (.close []) (.ok .null, listing.close)

/-- Lines are taken or refused together. -/
theorem answered_items {request : Request} (listing : Listing) (noClose : request ≠ .close []) :
    Answered listing request (listing.answer (.extendBy (.ofItems request.offered))) := by
  change Answered listing request (changedTo (listing.extendBy (.ofItems request.offered)))
  cases offers : request.offered with
  | nil =>
      have taken : Answered listing request (.ok .null, listing.grow request.offered) :=
        .taken noClose
      rwa [offers, grow_nil] at taken
  | cons line lines =>
      cases state : listing.isClosed with
      | true =>
          rw [extendBy_closed state]
          exact .refused noClose _
      | false =>
          rw [extendBy_open state, ← offers]
          exact .taken noClose

theorem admits_signature (name : String) (parameters : List String) (count : Nat) :
    (signature name parameters).admits count = true ↔ count = parameters.length := by
  simp only [signature, Signature.method, Signature.admits, Signature.parameters, List.append_nil,
    Bool.or_false, Bool.and_eq_true, decide_eq_true_eq]
  constructor
  · rintro ⟨enough, few⟩
    exact Nat.le_antisymm few (of_decide_eq_true enough)
  · rintro rfl
    exact ⟨decide_eq_true (Nat.le_refl _), Nat.le_refl _⟩

/-- A call with a wrong count of arguments is refused. -/
theorem exists_miscounted (name : String) (parameters : List String) {arguments : List Value}
    (miscounted : arguments.length ≠ parameters.length) :
    ∃ fault, (signature name parameters).bind (.ofList arguments) = .error fault := by
  apply Signature.bind_of_not_admits
  rw [← Bool.not_eq_true, admits_signature]
  exact miscounted

theorem answered_append (listing : Listing) (arguments : List Value) :
    Answered listing (.append arguments) (listing.answer (.append arguments)) := by
  by_cases count : arguments.length = 1
  · obtain ⟨line, rfl⟩ := List.length_eq_one_iff.mp count
    have noClose : Request.append [line] ≠ .close [] := by simp
    rw [answer_append]
    exact listing.answered_items noClose
  · obtain ⟨fault, fails⟩ := exists_miscounted "append" ["line"] count
    have refused : listing.answer (.append arguments) = (.error fault, listing) := by
      rw [answer, callAppend, fails]
      rfl
    rw [refused]
    exact .refused (by simp) fault

theorem answered_extend (listing : Listing) (arguments : List Value) :
    Answered listing (.extend arguments) (listing.answer (.extend arguments)) := by
  by_cases count : arguments.length = 1
  · obtain ⟨lines, rfl⟩ := List.length_eq_one_iff.mp count
    have noClose : Request.extend [lines] ≠ .close [] := by simp
    cases walked : lines.elements? with
    | none =>
        rw [answer_extend_of_none listing walked]
        exact .refused noClose _
    | some items =>
        have offers : (Request.extend [lines]).offered = items := by
          rw [Request.offered, walked, Option.getD_some]
        rw [answer_extend listing walked, ← offers]
        exact listing.answered_items noClose
  · obtain ⟨fault, fails⟩ := exists_miscounted "extend" ["lines"] count
    have refused : listing.answer (.extend arguments) = (.error fault, listing) := by
      rw [answer, callExtend, fails]
      rfl
    rw [refused]
    exact .refused (by simp) fault

theorem answered_close (listing : Listing) (arguments : List Value) :
    Answered listing (.close arguments) (listing.answer (.close arguments)) := by
  by_cases count : arguments.length = 0
  · obtain rfl := List.length_eq_zero_iff.mp count
    exact .closed
  · obtain ⟨fault, fails⟩ := exists_miscounted "close" [] count
    have refused : listing.answer (.close arguments) = (.error fault, listing) := by
      rw [answer, callClose, fails]
      rfl
    have noClose : Request.close arguments ≠ .close [] := by
      rintro ⟨⟩
      exact count rfl
    rw [refused]
    exact .refused noClose fault

theorem answered (listing : Listing) {request : Request} (isSteady : request.IsSteady) :
    Answered listing request (listing.answer request) := by
  cases request with
  | append arguments => exact listing.answered_append arguments
  | extend arguments => exact listing.answered_extend arguments
  | close arguments => exact listing.answered_close arguments
  | extendBy walk =>
      obtain ⟨items, rfl⟩ := isSteady
      have offers : (Request.extendBy (.ofItems items)).offered = items := Walk.given_ofItems items
      have noClose : Request.extendBy (.ofItems items) ≠ .close [] := by simp
      have taken := listing.answered_items noClose
      rwa [offers] at taken
  | text | get | slice | iterate | lines | isClosed | size | describe => exact .read rfl _

/-! ## Runs -/

/-- The listing after requests made one after another. -/
def after (listing : Listing) (requests : List Request) : Listing :=
  requests.foldl (fun reached request => (reached.answer request).2) listing

/-- The answers to requests made one after another. -/
def answers (listing : Listing) : List Request → List (Except Fault Value)
  | [] => []
  | request :: requests =>
      (listing.answer request).1 :: (listing.answer request).2.answers requests

/-- The lines that the granted ones among several requests offer. -/
def granted (listing : Listing) (requests : List Request) : List Value :=
  (requests.zip (listing.answers requests)).flatMap fun (request, answer) =>
    if answer.isOk then request.offered else []

@[simp]
theorem after_cons (listing : Listing) (request : Request) (requests : List Request) :
    listing.after (request :: requests) = (listing.answer request).2.after requests := rfl

theorem granted_cons (listing : Listing) (request : Request) (requests : List Request) :
    listing.granted (request :: requests) =
      (if (listing.answer request).1.isOk then request.offered else []) ++
        (listing.answer request).2.granted requests := rfl

theorem toList_answer (listing : Listing) {request : Request} (isSteady : request.IsSteady) :
    (listing.answer request).2.toList =
      listing.toList ++ if (listing.answer request).1.isOk then request.offered else [] := by
  have answered := listing.answered isSteady
  -- The cases are told from the answer and the listing after it as one pair.
  generalize listing.answer request = outcome at answered ⊢
  cases answered with
  | refused => simp [Except.isOk, Except.toBool]
  | read isReading => simp [Request.offered_of_isReading isReading]
  | taken => simp [Except.isOk, Except.toBool]
  | closed => simp [Request.offered]

theorem isClosed_answer (listing : Listing) {request : Request} (isSteady : request.IsSteady) :
    (listing.answer request).2.isClosed = true ↔
      listing.isClosed = true ∨ request = .close [] := by
  have answered := listing.answered isSteady
  generalize listing.answer request = outcome at answered ⊢
  cases answered with
  | refused noClose => simp [noClose]
  | read isReading => simp [Request.ne_close_of_isReading isReading]
  | taken noClose => simp [noClose]
  | closed => simp

theorem answer_of_error {listing : Listing} {request : Request} {fault : Fault}
    (isSteady : request.IsSteady) (refused : (listing.answer request).1 = .error fault) :
    (listing.answer request).2 = listing := by
  have answered := listing.answered isSteady
  generalize listing.answer request = outcome at answered refused ⊢
  cases answered with
  | refused | read => rfl
  | taken | closed => cases refused

/-- A run adds the lines of the granted requests and no others. -/
theorem toList_after (listing : Listing) {requests : List Request}
    (areSteady : ∀ request ∈ requests, request.IsSteady) :
    (listing.after requests).toList = listing.toList ++ listing.granted requests := by
  induction requests generalizing listing with
  | nil => simp [after, granted]
  | cons request requests induction =>
      obtain ⟨isSteady, areSteady⟩ := List.forall_mem_cons.mp areSteady
      rw [after_cons, induction _ areSteady, toList_answer listing isSteady, granted_cons,
        List.append_assoc]

/-- A run closes a listing exactly if it has a closing call. -/
theorem isClosed_after (listing : Listing) {requests : List Request}
    (areSteady : ∀ request ∈ requests, request.IsSteady) :
    (listing.after requests).isClosed = true ↔
      listing.isClosed = true ∨ .close [] ∈ requests := by
  induction requests generalizing listing with
  | nil => simp [after]
  | cons request requests induction =>
      obtain ⟨isSteady, areSteady⟩ := List.forall_mem_cons.mp areSteady
      rw [after_cons, induction _ areSteady, isClosed_answer listing isSteady, List.mem_cons,
        or_assoc, eq_comm (a := request)]

/-- What is read in a run makes no difference. -/
theorem after_withoutReading (listing : Listing) (requests : List Request) :
    listing.after (requests.filter fun request => !request.isReading) = listing.after requests := by
  induction requests generalizing listing with
  | nil => rfl
  | cons request requests induction =>
      cases isReading : request.isReading with
      | true =>
          rw [List.filter_cons_of_neg (by simp [isReading]), induction, after_cons,
            Request.answer_of_isReading isReading]
      | false =>
          rw [List.filter_cons_of_pos (by simp [isReading]), after_cons, after_cons, induction]

/-- Finished items leave the listing that single lines leave, appended by as many requests. -/
theorem answer_items_eq_after (listing : Listing) (items : List Value) :
    (listing.answer (.extendBy (.ofItems items))).2 =
      listing.after (items.map fun item => .append [item]) := by
  change (listing.extendBy (.ofItems items)).2 = _
  cases state : listing.isClosed with
  | true =>
      have refused (line : Value) : (listing.answer (.append [line])).2 = listing := by
        rw [answer_single, append_closed state]
        rfl
      have unchanged : listing.after (items.map fun item => .append [item]) = listing := by
        induction items with
        | nil => rfl
        | cons item items induction => rw [List.map_cons, after_cons, refused, induction]
      rw [unchanged]
      cases items with
      | nil => rfl
      | cons first rest => rw [extendBy_closed state]
  | false =>
      rw [extendBy_open state]
      induction items generalizing listing with
      | nil => simp [after]
      | cons item items induction =>
          have taken : (listing.answer (.append [item])).2 = listing.grow [item] := by
            rw [answer_single, append_open state]
            rfl
          rw [List.map_cons, after_cons, taken, ← induction (listing.grow [item]) state, grow_grow,
            List.singleton_append]

/-! ## Refusals -/

/-- Whether a request is refused for a reason of some kind. -/
def Refuses (listing : Listing) (request : Request) (kind : Fault.Kind) : Prop :=
  ∃ fault, (listing.answer request).1 = .error fault ∧ fault.kind = kind

/-- Finished items are refused if there are some and the listing is closed. -/
theorem refuses_items_iff (listing : Listing) (items : List Value) (kind : Fault.Kind) :
    listing.Refuses (.extendBy (.ofItems items)) kind ↔
      items ≠ [] ∧ listing.isClosed = true ∧ kind = .runtime := by
  change (∃ fault, (changedTo (listing.extendBy (.ofItems items))).1 = .error fault ∧ _) ↔ _
  cases items with
  | nil => simp [Walk.ofItems, extendBy, changedTo, Except.map]
  | cons first rest =>
      cases state : listing.isClosed with
      | true => simp [extendBy_closed state, changedTo, Except.map, Fault.kind, eq_comm]
      | false => simp [extendBy_open state, changedTo, Except.map]

theorem refuses_append_iff (listing : Listing) (line : Value) (kind : Fault.Kind) :
    listing.Refuses (.append [line]) kind ↔ listing.isClosed = true ∧ kind = .runtime := by
  have items := listing.refuses_items_iff [line] kind
  rw [Refuses, ← answer_append] at items
  rw [Refuses, items]
  simp

theorem refuses_extend_iff (listing : Listing) (lines : Value) (kind : Fault.Kind) :
    listing.Refuses (.extend [lines]) kind ↔
      lines.elements? = none ∧ kind = .type ∨
        (∃ first rest, lines.elements? = some (first :: rest)) ∧
          listing.isClosed = true ∧ kind = .runtime := by
  cases walked : lines.elements? with
  | none =>
      have answered := answer_extend_of_none listing walked
      constructor
      · rintro ⟨fault, refused, rfl⟩
        rw [answered] at refused
        cases refused
        exact .inl ⟨rfl, rfl⟩
      · rintro (⟨_, rfl⟩ | ⟨⟨_, _, impossible⟩, _⟩)
        · exact ⟨_, congrArg Prod.fst answered, rfl⟩
        · cases impossible
  | some items =>
      have byItems := listing.refuses_items_iff items kind
      rw [Refuses, ← answer_extend listing walked] at byItems
      rw [Refuses, byItems]
      simp [List.ne_nil_iff_exists_cons]

/-! ## Listings as logs -/

/-- A listing as a log of what it granted: it was made with some lines, and then it was asked for
one thing after another. -/
structure Logs (initial : List Value) (listing : Listing) (requests : List Request) : Prop where
  /-- The lines are those at the start and then those of the granted requests, in their order. -/
  lines : (listing.after requests).toList = initial ++ listing.granted requests
  shown : ∀ request ∈ [Request.lines, .iterate],
    ((listing.after requests).answer request).1 = .ok (.list (initial ++ listing.granted requests))
  /-- Reading makes no difference, wherever it stands in between. -/
  withoutReading :
    listing.after (requests.filter fun request => !request.isReading) = listing.after requests
  unchanged : ∀ request kind, request.IsSteady → (listing.after requests).Refuses request kind →
    ((listing.after requests).answer request).2 = listing.after requests
  /-- A line is refused exactly after the listing was closed. -/
  append : ∀ line kind, (listing.after requests).Refuses (.append [line]) kind ↔
    .close [] ∈ requests ∧ kind = .runtime
  /-- What cannot be walked through is refused as such, also by a closed listing. -/
  extend : ∀ lines kind, (listing.after requests).Refuses (.extend [lines]) kind ↔
    lines.elements? = none ∧ kind = .type ∨
      (∃ first rest, lines.elements? = some (first :: rest)) ∧
        .close [] ∈ requests ∧ kind = .runtime
  extendBy : ∀ items kind, (listing.after requests).Refuses (.extendBy (.ofItems items)) kind ↔
    items ≠ [] ∧ .close [] ∈ requests ∧ kind = .runtime
  oneByOne : ∀ items, ((listing.after requests).answer (.extendBy (.ofItems items))).2 =
    (listing.after requests).after (items.map fun item => .append [item])
  close : ∀ kind, ¬ (listing.after requests).Refuses (.close []) kind
  /-- Of an iterable that stops, fails or closes the listing, what it has given before stays. -/
  stopped : ∀ walk, ((listing.after requests).answer (.extendBy walk)).2.toList =
    (listing.after requests).toList ++
      if (listing.after requests).isClosed then [] else walk.given

end Listing

end PicAssembly
