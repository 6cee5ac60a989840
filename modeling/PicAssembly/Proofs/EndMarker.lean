import PicAssembly.Proofs.History

/-!
# The end marker

The text of the end marker is the text of no other line that operations and scopes record, as long
as no name of a labelled block starts with a tab.  Instructions and directives are told apart by
their words; a heading starts with the capital form of a character, and only a tab has a capital
form that starts with one.
-/

namespace PicAssembly

namespace Capital

/-- All capitals of the tables lie behind the tab. -/
theorem runs_above_tab : ∀ run ∈ runs, 9 < run.image := by
  decide +kernel

theorem expansions_above_tab : ∀ entry ∈ expansions, ∃ first ∈ entry.2.head?, 9 < first := by
  decide +kernel

theorem above_of_single? {bound code capital : Nat} {runs : List Run}
    (above : ∀ run ∈ runs, bound < run.image) (found : single? runs code = some capital) :
    bound < capital := by
  induction runs with
  | nil => cases found
  | cons run runs induction =>
      rw [single?] at found
      split at found
      · cases found
      · split at found
        · cases found
          have image := above run List.mem_cons_self
          omega
        · exact induction (fun other member => above other (List.mem_cons_of_mem _ member)) found

theorem mem_of_expansion? {code : Nat} {spelled : List Nat} {entries : List (Nat × List Nat)}
    (found : expansion? entries code = some spelled) : ∃ first, (first, spelled) ∈ entries := by
  induction entries with
  | nil => cases found
  | cons entry entries induction =>
      rw [expansion?] at found
      split at found
      · cases found
      · split at found
        · cases found
          exact ⟨entry.1, List.mem_cons_self⟩
        · obtain ⟨first, member⟩ := induction found
          exact ⟨first, List.mem_cons_of_mem _ member⟩

/-- A capital form starts with a tab only if it is the capital form of a tab. -/
theorem head?_codes {code first : Nat} (starts : (codes code).head? = some first) :
    first = code ∨ 9 < first := by
  rw [codes] at starts
  split at starts
  · next spelled found =>
      obtain ⟨entry, member⟩ := mem_of_expansion? found
      obtain ⟨other, head, above⟩ := expansions_above_tab _ member
      rw [starts] at head
      cases head
      exact .inr above
  · cases found : single? runs code with
    | none => simp_all
    | some capital =>
        rw [found] at starts
        cases starts
        exact .inr (above_of_single? runs_above_tab found)

theorem codes_ne_nil (code : Nat) : codes code ≠ [] := by
  rw [codes]
  split
  · next spelled found =>
      obtain ⟨entry, member⟩ := mem_of_expansion? found
      obtain ⟨first, head, _⟩ := expansions_above_tab _ member
      rintro rfl
      cases head
  · simp

/-- Every character but the null one has a single code point. -/
theorem eq_toNat_of_ofNat {code : Nat} {char : Char} (isChar : Char.ofNat code = char)
    (other : char ≠ '\x00') : code = char.toNat := by
  by_cases valid : code.isValidChar
  · rw [Char.ofNat, dif_pos valid] at isChar
    exact congrArg Char.toNat isChar
  · rw [Char.ofNat, dif_neg valid] at isChar
    exact absurd isChar.symm other

theorem eq_tab_of_head?_ofChar {char : Char} {rest : List Char}
    (starts : (ofChar char ++ rest).head? = some '\t') : char = '\t' := by
  rw [ofChar] at starts
  cases spelled : codes char.toNat with
  | nil => exact absurd spelled (codes_ne_nil _)
  | cons first others =>
      rw [spelled] at starts
      have isNine : first = 9 := eq_toNat_of_ofNat (Option.some.inj starts) (by decide)
      have head : (codes char.toNat).head? = some first := by rw [spelled]; rfl
      rcases head?_codes head with equal | above
      · rw [← Char.ofNat_toNat char, ← equal, isNine]
      · omega

end Capital

/-- Whether a text starts with a tab. -/
def startsWithTab (text : String) : Bool :=
  text.toList.head? == some '\t'

theorem startsWithTab_label {identifier : String} (starts : startsWithTab (label identifier)) :
    startsWithTab identifier := by
  rw [startsWithTab, toList_label] at starts
  rw [startsWithTab]
  cases chars : identifier.toList with
  | nil =>
      rw [chars] at starts
      exact starts
  | cons first rest =>
      rw [chars, labelChars] at starts
      rw [Capital.eq_tab_of_head?_ofChar (eq_of_beq starts)]
      rfl

namespace Line

/-- The text of the line that ends a program. -/
def endMarker : String := (directive "end").text

/-- The words of instructions start with other letters than the end marker. -/
theorem instruction_ne_endMarker (mnemonic : Mnemonic) (operands : List String) :
    (instruction mnemonic operands).text ≠ endMarker := by
  intro equal
  have letters := congrArg String.toList equal
  rw [text, statement] at letters
  split at letters <;> cases mnemonic <;>
    simp [indented, endMarker, text, Mnemonic.text, String.toList_append] at letters

theorem register_ne_endMarker (name : String) : (register name).text ≠ endMarker := by
  intro equal
  have letters := congrArg String.toList equal
  simp [indented, endMarker, text, String.toList_append] at letters

theorem startsWithTab_endMarker : startsWithTab endMarker := by
  decide

end Line

namespace Listing.Request

/-- Whether a request leaves every listing as it is. -/
def isReading : Request → Bool
  | append _ | extend _ | extendBy _ | close _ => false
  | _ => true

theorem answer_of_isReading {request : Request} (isReading : request.isReading = true)
    (listing : Listing) : (listing.answer request).2 = listing := by
  cases request with
  | append | extend | extendBy | close => cases isReading
  | text | get | slice | iterate | lines | isClosed | size | describe => rfl

end Listing.Request

namespace Allowance

/-- Whether lines of operations and scopes alone are recorded: nothing but reading is asked of the
listing directly, and the names of labelled blocks are as given. -/
def building (name : Value → Prop) : Allowance :=
  ⟨name, fun request => request.isReading = true⟩

/-- Whether the text of a name does not start with a tab. -/
def flush (name : Value) : Prop :=
  startsWithTab name.text = false

/-- No line but the last one of a program has the text of the end marker. -/
theorem text_ne_endMarker {line : Line} (allowed : (building flush).line line) :
    line.text ≠ Line.endMarker := by
  cases line with
  | blank => decide
  | heading text =>
      obtain ⟨name, isFlush, rfl⟩ := allowed
      intro equal
      change label name.text = Line.endMarker at equal
      have starts : startsWithTab name.text := by
        apply startsWithTab_label
        rw [equal]
        exact Line.startsWithTab_endMarker
      rw [isFlush] at starts
      cases starts
  | directive text =>
      rcases allowed with start | rfl
      · rw [start]
        decide +kernel
      · decide
  | instruction mnemonic operands => exact Line.instruction_ne_endMarker mnemonic operands
  | register name => exact Line.register_ne_endMarker name

end Allowance

end PicAssembly
