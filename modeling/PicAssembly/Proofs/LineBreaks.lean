import PicAssembly.Proofs.EndMarker
import PicAssembly.Text.Pieces
import PicAssembly.Value.Text

/-!
# Line breaks

A text is unbroken if it holds no line break.  Numbers are written without line breaks, quoting
escapes them, and a label has one only if its identifier does; so the text of a value is unbroken
unless the value is a text that is not.  Unbroken texts that are joined by line breaks can be split
again.
-/

namespace PicAssembly

/-- Whether a text holds no line break. -/
def Unbroken (text : String) : Prop :=
  '\n' ∉ text.toList

instance (text : String) : Decidable (Unbroken text) :=
  inferInstanceAs (Decidable ('\n' ∉ text.toList))

namespace Unbroken

@[simp]
theorem append_iff {front back : String} :
    Unbroken (front ++ back) ↔ Unbroken front ∧ Unbroken back := by
  simp [Unbroken]

@[simp]
theorem ofList_iff {chars : List Char} : Unbroken (String.ofList chars) ↔ '\n' ∉ chars := by
  simp [Unbroken]

theorem intercalate {separator : String} {parts : List String} (isUnbroken : Unbroken separator)
    (unbroken : ∀ part ∈ parts, Unbroken part) : Unbroken (separator.intercalate parts) := by
  induction parts with
  | nil => simp [Unbroken]
  | cons part parts induction =>
      cases parts with
      | nil => simpa using unbroken
      | cons next others =>
          have first := unbroken part List.mem_cons_self
          have rest := induction fun other member => unbroken other (List.mem_cons_of_mem _ member)
          rw [String.intercalate_cons_cons, append_iff, append_iff]
          exact ⟨⟨first, isUnbroken⟩, rest⟩

end Unbroken

/-! ## Numbers -/

theorem break_not_mem_toDigits {base : Nat} (isBase : 1 < base) (number : Nat) :
    '\n' ∉ Nat.toDigits base number := by
  induction number using Nat.strongRecOn with
  | _ number induction =>
      rw [Nat.toDigits_eq_if isBase]
      split
      · simp
      · next large =>
          have positive : 0 < number := by omega
          have smaller := induction (number / base) (Nat.div_lt_self positive isBase)
          simp [smaller]

theorem unbroken_nat (number : Nat) : Unbroken (toString number) := by
  rw [Nat.toString_eq_repr, Nat.repr_eq_ofList_toDigits, Unbroken.ofList_iff]
  exact break_not_mem_toDigits (by decide) number

theorem unbroken_int (number : Int) : Unbroken (toString number) := by
  cases number with
  | ofNat count => exact unbroken_nat count
  | negSucc count => exact Unbroken.append_iff.mpr ⟨by decide, unbroken_nat (count + 1)⟩

namespace Literal

theorem break_not_mem_signedDigits (base : Nat) (isBase : 1 < base) (width : Nat) (value : Int) :
    '\n' ∉ signedDigits base width value := by
  have digits := break_not_mem_toDigits isBase value.natAbs
  have sign : '\n' ∉ (if value < 0 then ['-'] else []) := by
    split <;> decide
  simp only [signedDigits, List.mem_append, not_or]
  exact ⟨⟨sign, by simp⟩, digits⟩

theorem unbroken_hexadecimal (value : Int) : Unbroken (hexadecimal value) := by
  have digits := break_not_mem_signedDigits 16 (by decide) 0 value
  rw [hexadecimal, Unbroken.ofList_iff]
  simp [digits]

theorem unbroken_binary (value : Int) : Unbroken (binary value) := by
  have digits := break_not_mem_signedDigits 2 (by decide) 8 value
  rw [binary, Unbroken.ofList_iff]
  simp [digits]

end Literal

namespace Decimal

theorem break_not_mem_exponentText (exponent : Int) : '\n' ∉ exponentText exponent := by
  have digits : '\n' ∉ digitsOf exponent.natAbs := break_not_mem_toDigits (by decide) _
  simp only [exponentText]
  split <;> split <;> simp [digits]

theorem break_not_mem_positional {digits : List Char} (unbroken : '\n' ∉ digits) (leading : Int) :
    '\n' ∉ positional digits leading := by
  simp only [positional]
  split
  · simp [unbroken]
  · have front : '\n' ∉ digits.take (leading.toNat + 1) := fun member =>
      unbroken (List.mem_of_mem_take member)
    have back : '\n' ∉ digits.drop (leading.toNat + 1) := fun member =>
      unbroken (List.mem_of_mem_drop member)
    split <;> simp [front, back]

theorem break_not_mem_scientific {digits : List Char} (unbroken : '\n' ∉ digits) (leading : Int) :
    '\n' ∉ scientific digits leading := by
  have exponent := break_not_mem_exponentText leading
  simp only [scientific]
  split <;> simp_all

theorem break_not_mem_text (number : Decimal) : '\n' ∉ number.text := by
  have digits : '\n' ∉ significant (digitsOf number.digits) := by
    intro member
    have kept := List.mem_reverse.mp member
    have inside := List.mem_reverse.mp ((List.dropWhile_sublist _).subset kept)
    exact break_not_mem_toDigits (by decide) _ inside
  rw [text]
  split
  · exact break_not_mem_positional digits _
  · exact break_not_mem_scientific digits _

end Decimal

theorem Binary64.unbroken_text (number : Binary64) : Unbroken number.text := by
  cases number with
  | nan => decide
  | infinite negative => cases negative <;> decide
  | finite negative units =>
      have digits : '\n' ∉ (if units = 0 then ['0', '.', '0'] else (shortest units).text) := by
        split
        · decide
        · exact Decimal.break_not_mem_text _
      rw [text, Unbroken.ofList_iff]
      split <;> simpa using digits

/-! ## Quoted texts and values -/

namespace Quoted

theorem mark_ne_break (chars : List Char) : mark chars ≠ '\n' := by
  rw [mark]
  split <;> decide

theorem break_not_mem_hexadecimal (width number : Nat) : '\n' ∉ hexadecimal width number := by
  have digits : '\n' ∉ Nat.toDigits 16 number := break_not_mem_toDigits (by decide) number
  simp [hexadecimal, digits]

/-- Every character is written without a line break, and so is a line break. -/
theorem break_not_mem_escaped {mark : Char} (other : mark ≠ '\n') (char : Char) :
    '\n' ∉ escaped mark char := by
  rw [escaped]
  split
  · next plain =>
      rcases plain with rfl | rfl
      · simpa using other.symm
      · decide
  · split
    · decide
    · next noBreak =>
        repeat' split
        any_goals decide
        · simpa using Ne.symm noBreak
        · rw [coded]
          split
          · simp [break_not_mem_hexadecimal]
          · split <;> simp [break_not_mem_hexadecimal]

theorem unbroken_quoted (text : String) : Unbroken (quoted text) := by
  have other := mark_ne_break text.toList
  simp only [quoted, Unbroken.ofList_iff, List.mem_cons, List.mem_append, List.mem_flatMap,
    List.not_mem_nil, or_false, not_or]
  refine ⟨other.symm, ?_, other.symm⟩
  rintro ⟨char, -, member⟩
  exact break_not_mem_escaped other char member

end Quoted

namespace Value

mutual

/-- Whether every thing in a value is written without a line break; plain values have none. -/
def IsLegible : Value → Prop
  | thing held => Unbroken held.literal
  | list items | tuple items => AreLegible items
  | dict entries => EntriesLegible entries
  | _ => True

/-- Whether several values are legible. -/
def AreLegible : List Value → Prop
  | [] => True
  | item :: items => item.IsLegible ∧ AreLegible items

/-- Whether the entries of a dictionary are legible. -/
def EntriesLegible : List (Value × Value) → Prop
  | [] => True
  | entry :: entries => EntryLegible entry ∧ EntriesLegible entries

/-- Whether the key and the value of an entry are legible. -/
def EntryLegible : Value × Value → Prop
  | (key, value) => key.IsLegible ∧ value.IsLegible

end

theorem unbroken_enclosed {opening closing : String} {parts : List String}
    (opens : Unbroken opening) (closes : Unbroken closing)
    (unbroken : ∀ part ∈ parts, Unbroken part) : Unbroken (enclosed opening closing parts) := by
  have comma : Unbroken ", " := by decide
  simp [enclosed, opens, closes, comma.intercalate unbroken]

mutual

/-- The written form of a value holds no line break, whatever texts there are in it. -/
theorem unbroken_literal : ∀ {value : Value}, value.IsLegible → Unbroken value.literal
  | null, _ => by decide
  | bool flag, _ => by cases flag <;> decide
  | int number, _ => unbroken_int number
  | float number, _ => number.unbroken_text
  | str text, _ => by
      rw [literal]
      exact Quoted.unbroken_quoted text
  | list items, legible => by
      rw [literal]
      exact unbroken_enclosed (by decide) (by decide) (unbroken_literals legible)
  | tuple [], _ => by decide
  | tuple [item], legible => by
      have inner : Unbroken item.literal := unbroken_literal legible.1
      have opens : Unbroken "(" := by decide
      have closes : Unbroken ",)" := by decide
      simp [literal, inner, opens, closes]
  | tuple (first :: second :: others), legible => by
      rw [literal]
      · exact unbroken_enclosed (by decide) (by decide) (unbroken_literals legible)
      · exact nofun
  | dict entries, legible => by
      rw [literal]
      exact unbroken_enclosed (by decide) (by decide) (unbroken_entryLiterals legible)
  | thing held, legible => by
      rw [literal]
      exact legible

theorem unbroken_literals : ∀ {items : List Value}, AreLegible items →
    ∀ part ∈ literals items, Unbroken part
  | [], _ => nofun
  | item :: items, legible => by
      intro part member
      rcases List.mem_cons.mp member with rfl | member
      · exact unbroken_literal legible.1
      · exact unbroken_literals legible.2 part member

theorem unbroken_entryLiterals : ∀ {entries : List (Value × Value)}, EntriesLegible entries →
    ∀ part ∈ entryLiterals entries, Unbroken part
  | [], _ => nofun
  | entry :: entries, legible => by
      intro part member
      rcases List.mem_cons.mp member with rfl | member
      · exact unbroken_entryLiteral legible.1
      · exact unbroken_entryLiterals legible.2 part member

theorem unbroken_entryLiteral : ∀ {entry : Value × Value}, EntryLegible entry →
    Unbroken (entryLiteral entry)
  | (key, value), legible => by
      have name : Unbroken key.literal := unbroken_literal legible.1
      have held : Unbroken value.literal := unbroken_literal legible.2
      have colon : Unbroken ": " := by decide
      simp [entryLiteral, name, held, colon]

end

/-- Whether a value is no text with a line break in it; what is not plain must be written without
line breaks. -/
def IsUnbroken : Value → Prop
  | str text => Unbroken text
  | thing held => Unbroken held.text
  | value => value.IsLegible

theorem IsUnbroken.text {value : Value} (isUnbroken : value.IsUnbroken) : Unbroken value.text := by
  cases value with
  | str text => exact isUnbroken
  | thing held => exact isUnbroken
  | null | bool | int | float | list | tuple | dict => exact unbroken_literal isUnbroken

end Value

/-! ## Labels and lines -/

namespace Capital

/-- All capitals of the tables lie behind the line break. -/
theorem runs_above_break : ∀ run ∈ runs, 10 < run.image := by
  decide +kernel

theorem expansions_above_break : ∀ entry ∈ expansions, ∀ code ∈ entry.2, 10 < code := by
  decide +kernel

theorem eq_or_above_of_mem_codes {code capital : Nat} (member : capital ∈ codes code) :
    capital = code ∨ 10 < capital := by
  rw [codes] at member
  split at member
  · next spelled found =>
      obtain ⟨entry, listed⟩ := mem_of_expansion? found
      exact .inr (expansions_above_break _ listed capital member)
  · rw [List.mem_singleton] at member
    cases found : single? runs code with
    | none => simp_all
    | some image =>
        rw [member, found]
        exact .inr (above_of_single? runs_above_break found)

/-- Only a line break has a capital form with a line break in it. -/
theorem eq_break_of_mem_ofChar {char : Char} (member : '\n' ∈ ofChar char) : char = '\n' := by
  obtain ⟨code, listed, isBreak⟩ := List.mem_map.mp member
  have isTen : code = 10 := eq_toNat_of_ofNat isBreak (by decide)
  rcases eq_or_above_of_mem_codes listed with equal | above
  · rw [← Char.ofNat_toNat char, ← equal, isTen]
  · omega

end Capital

theorem unbroken_label {identifier : String} (isUnbroken : Unbroken identifier) :
    Unbroken (label identifier) := by
  rw [Unbroken] at isUnbroken ⊢
  rw [toList_label]
  cases chars : identifier.toList with
  | nil => exact List.not_mem_nil
  | cons first rest =>
      rw [chars] at isUnbroken
      rw [labelChars, List.mem_append]
      rintro (capital | member)
      · exact isUnbroken (Capital.eq_break_of_mem_ofChar capital ▸ List.mem_cons_self)
      · exact isUnbroken (List.mem_cons_of_mem _ member)

namespace Line

theorem unbroken_mnemonic (mnemonic : Mnemonic) : Unbroken mnemonic.text := by
  cases mnemonic <;> decide

theorem unbroken_indented {word : String} (isUnbroken : Unbroken word) :
    Unbroken (indented word) :=
  Unbroken.append_iff.mpr ⟨by decide, isUnbroken⟩

/-- An instruction whose operands are unbroken is a single line. -/
theorem unbroken_instruction {mnemonic : Mnemonic} {operands : List String}
    (unbroken : ∀ operand ∈ operands, Unbroken operand) :
    Unbroken (instruction mnemonic operands).text := by
  have word := unbroken_indented (unbroken_mnemonic mnemonic)
  have comma : Unbroken ", " := by decide
  have tab : Unbroken "\t" := by decide
  rw [text, statement]
  split
  · exact word
  · simp [word, comma.intercalate unbroken, tab]

end Line

theorem Device.unbroken_header : ∀ line ∈ header, Unbroken line.text := by
  decide +kernel

namespace Statement

/-- The operands of a statement that are written as they are given. -/
def texts : Statement → List String
  | addTo _ text | call text | clearBit text _ | decrement text | decrementBy _ text
  | increment text | incrementBy _ text | jump text | set text _ | setBit text _
  | subtractFrom _ text | testCarry text => [text]
  | copy first second | subtractInto first second | test first _ second => [first, second]
  | configurePins .. | delay _ | drivePins .. | initClock | returnWith _ => []

theorem forms_unbroken_level (entry : Value × Value) :
    Draft.Forms (fun line => Unbroken line.text) (Pins.level entry) := by
  rw [Pins.level]
  cases Device.Pin.drivenOfKey? entry.1 with
  | none => exact Draft.forms_error _
  | some pin =>
      rw [Draft.forms_ok]
      refine Line.unbroken_instruction fun operand member => ?_
      simp only [List.mem_cons, List.not_mem_nil, or_false] at member
      rcases member with rfl | rfl
      · decide
      · exact unbroken_nat _

theorem forms_unbroken_literal {mnemonic : Mnemonic} {operands : List String} (value : Value)
    (unbroken : ∀ operand ∈ operands, Unbroken operand) :
    Draft.Forms (fun line => Unbroken line.text) (literal mnemonic operands value) := by
  refine forms_literal value fun number => Line.unbroken_instruction ?_
  rw [List.forall_mem_append, List.forall_mem_singleton]
  exact ⟨unbroken, Literal.unbroken_hexadecimal number⟩

theorem forms_unbroken {statement : Statement}
    (unbroken : ∀ text ∈ statement.texts, Unbroken text) :
    ∀ formed ∈ statement.draft, Draft.Forms (fun line => Unbroken line.text) formed := by
  have word : Unbroken "w" := by decide
  have file : Unbroken "f" := by decide
  have port : Unbroken "GPIO" := by decide
  have blank : Unbroken Line.blank.text := by decide
  cases statement with
  | configurePins pins keywords =>
      rw [draft]
      cases Pins.read pins keywords with
      | error fault => simp
      | ok merged => simp [blank, port, Line.unbroken_instruction, Literal.unbroken_binary]
  | delay duration =>
      have call : Unbroken (Line.call Device.delaySubroutine).text := by decide +kernel
      rw [draft]
      cases Duration.delayUnits duration with
      | error fault => simp
      | ok units =>
          rw [Draft.forall_forms_ofLines, List.forall_mem_append, List.forall_mem_singleton]
          refine ⟨fun line member => ?_, blank⟩
          rw [List.eq_of_mem_replicate member]
          exact call
  | drivePins pins keywords =>
      rw [draft]
      cases Pins.read pins keywords with
      | error fault => simp
      | ok merged =>
          rw [List.forall_mem_append, List.forall_mem_map, List.forall_mem_singleton]
          exact ⟨fun entry _ => forms_unbroken_level entry, Draft.forms_ok.mpr blank⟩
  | initClock | returnWith =>
      have clock : Unbroken "OSCCAL" := by decide
      simp [draft, blank, clock, Line.unbroken_instruction, forms_unbroken_literal,
        Literal.unbroken_binary]
  | _ =>
      simp only [texts, List.forall_mem_cons, List.not_mem_nil, false_implies, implies_true,
        and_true] at unbroken
      have status : Unbroken "STATUS" := by decide
      have carry : Unbroken "0" := by decide
      simp [draft, load, blank, word, file, status, carry, unbroken, Line.goto, Line.call,
        unbroken_label, Line.unbroken_instruction, forms_unbroken_literal]

/-- A statement consists of single lines if its operands are unbroken. -/
theorem unbroken_lines {statement : Statement}
    (unbroken : ∀ text ∈ statement.texts, Unbroken text) :
    ∀ line ∈ statement.lines, Unbroken line.text :=
  Draft.forall_lines (forms_unbroken unbroken)

end Statement

/-! ## Joined lines -/

namespace Pieces

variable {separator : Char} {piece : List Char}

theorem split_of_not_mem (whole : separator ∉ piece) : split separator piece = [piece] := by
  induction piece with
  | nil => rfl
  | cons first rest induction =>
      rw [List.mem_cons, not_or] at whole
      rw [split, if_neg (Ne.symm whole.1), induction whole.2]
      rfl

theorem split_append (whole : separator ∉ piece) (rest : List Char) :
    split separator (piece ++ separator :: rest) = piece :: split separator rest := by
  induction piece with
  | nil => rw [List.nil_append, split, if_pos rfl]
  | cons first others induction =>
      rw [List.mem_cons, not_or] at whole
      rw [List.cons_append, split, if_neg (Ne.symm whole.1), induction whole.2]
      rfl

/-- Pieces without the separator are found again in their join. -/
theorem split_join {pieces : List (List Char)} (nonempty : pieces ≠ [])
    (whole : ∀ piece ∈ pieces, separator ∉ piece) :
    split separator (join separator pieces) = pieces := by
  induction pieces with
  | nil => exact absurd rfl nonempty
  | cons piece pieces induction =>
      have first := whole piece List.mem_cons_self
      cases pieces with
      | nil => exact split_of_not_mem first
      | cons next others =>
          have rest := induction (List.cons_ne_nil _ _) fun other member =>
            whole other (List.mem_cons_of_mem _ member)
          rw [join, split_append first, rest]

theorem join_toList (separator : Char) (parts : List String) :
    join separator (parts.map String.toList) =
      ((String.singleton separator).intercalate parts).toList := by
  induction parts with
  | nil => rfl
  | cons part parts induction =>
      cases parts with
      | nil => simp [join]
      | cons next others =>
          rw [String.intercalate_cons_cons, String.toList_append, String.toList_append, ← induction]
          simp [join]

end Pieces

namespace Listing

theorem texts_map_str (lines : List String) (place : Nat) :
    texts (lines.map .str) place = .ok lines := by
  induction lines generalizing place with
  | nil => rfl
  | cons line lines induction =>
      rw [List.map_cons, texts, induction]
      rfl

/-- A listing has a text only if all its lines are texts. -/
theorem eq_map_of_texts {values : List Value} {place : Nat} {lines : List String}
    (written : texts values place = .ok lines) : values = lines.map .str := by
  induction values generalizing place lines with
  | nil =>
      cases written
      rfl
  | cons value values induction =>
      cases value with
      | str line =>
          rw [texts] at written
          rcases rest : texts values (place + 1) with fault | others <;> rw [rest] at written
          · cases written
          · cases written
            rw [List.map_cons, ← induction rest]
      | null | bool | int | float | list | tuple | dict | thing => cases written

theorem text_of_toList {listing : Listing} {lines : List String}
    (code : listing.toList = lines.map .str) : listing.text = .ok ("\n".intercalate lines) := by
  rw [text, code, texts_map_str]
  rfl

/-- The text of a listing of texts can be split at line breaks into the lines again, if each of them
is unbroken. -/
theorem exists_text_split {listing : Listing} {lines : List String} (nonempty : lines ≠ [])
    (code : listing.toList = lines.map .str) (unbroken : ∀ line ∈ lines, Unbroken line) :
    ∃ source, listing.text = .ok source ∧
      (Pieces.split '\n' source.toList).map String.ofList = lines := by
  refine ⟨"\n".intercalate lines, text_of_toList code, ?_⟩
  have joined := Pieces.join_toList '\n' lines
  have some : lines.map String.toList ≠ [] := by simpa using nonempty
  have whole : ∀ piece ∈ lines.map String.toList, '\n' ∉ piece := by
    simpa [Unbroken] using unbroken
  change (Pieces.split '\n' ((String.singleton '\n').intercalate lines).toList).map _ = _
  rw [← joined, Pieces.split_join some whole]
  simp

end Listing

end PicAssembly
