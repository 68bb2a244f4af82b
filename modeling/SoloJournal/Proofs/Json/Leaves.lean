import Mathlib.Data.List.TakeWhile
import SoloJournal.Json.Reader
import SoloJournal.Json.Render

/-!
# Reading back strings, numbers and words

What the reader does with the characters of a single token.  Each statement is
about the token in front of any characters, so that the statements about whole
values are put together from them.
-/

namespace SoloJournal

theorem hexValue?_hexDigit (digit : Nat) :
    hexValue? (Json.hexDigit digit) = some (digit % 16) := by
  have table : ∀ small, small < 16 →
      hexValue? (Nat.digitChar small) = some small := by
    decide
  exact table (digit % 16) (Nat.mod_lt digit (by decide))

namespace Json

namespace Reader

@[simp] theorem run_nil (reader : Reader) : reader.run [] = some reader :=
  rfl

theorem run_cons (reader : Reader) (char : Char) (chars : List Char) :
    reader.run (char :: chars) =
      (reader.step char).bind (fun next => next.run chars) :=
  rfl

/-! ## Blanks -/

theorem run_space {stack : List Frame} {expected : Expected} {blank : Char}
    (space : isSpace blank = true) (rest : List Char) :
    (expecting stack expected).run (blank :: rest) =
      (expecting stack expected).run rest := by
  simp [run_cons, step, stepBetween, expecting, space]

theorem run_spaces {stack : List Frame} {expected : Expected}
    {blanks : List Char} (spaces : ∀ blank, blank ∈ blanks → isSpace blank = true)
    (rest : List Char) :
    (expecting stack expected).run (blanks ++ rest) =
      (expecting stack expected).run rest := by
  induction blanks with
  | nil => rfl
  | cons blank blanks induction =>
      rw [List.cons_append, run_space (spaces blank List.mem_cons_self)]
      exact induction fun other member =>
        spaces other (List.mem_cons_of_mem blank member)

theorem run_lineStart (stack : List Frame) (expected : Expected)
    (layout : Layout) (depth : Nat) (rest : List Char) :
    (expecting stack expected).run (lineStart layout depth ++ rest) =
      (expecting stack expected).run rest := by
  apply run_spaces
  intro blank member
  cases layout with
  | compact => cases member
  | indented =>
      rcases List.mem_cons.mp member with newline | further
      · subst newline
        decide
      · rw [List.eq_of_mem_replicate further]
        decide

/-! ## Strings -/

/-- The reader within a string of which some characters have been read, the
latest first. -/
def within (stack : List Frame) (isName : Bool) (done : List Char) : Reader :=
  { stack, mode := .string isName { done, high := none, unpaired := false } .none }

/-- A control character is spelled with four digits, of which two are zero. -/
theorem run_unit (stack : List Frame) (isName : Bool) (done : List Char)
    {char : Char} (control : char.toNat < 0x20) (rest : List Char) :
    (within stack isName done).run
        (['\\', 'u', '0', '0', hexDigit (char.toNat / 16), hexDigit char.toNat]
          ++ rest) =
      (within stack isName (char :: done)).run rest := by
  have zero : hexValue? '0' = some 0 := by decide
  have high : char.toNat / 16 % 16 = char.toNat / 16 := by omega
  have value : char.toNat / 16 * 16 + char.toNat % 16 = char.toNat := by omega
  have low : ¬ 0xD800 ≤ char.toNat := by omega
  have lower : ¬ 0xDC00 ≤ char.toNat := by omega
  have same : StringPart.pushUnit char.toNat
      { done, high := none, unpaired := false } =
        { done := char :: done, high := none, unpaired := false } := by
    simp [StringPart.pushUnit, StringPart.push, low, lower]
  simp [within, run_cons, step, stepString, zero, hexValue?_hexDigit, high,
    value, same]

theorem run_escape (stack : List Frame) (isName : Bool) (done : List Char)
    (char : Char) (rest : List Char) :
    (within stack isName done).run (escape char ++ rest) =
      (within stack isName (char :: done)).run rest := by
  unfold escape
  split
  case isTrue quote => subst quote; rfl
  split
  case isTrue backslash => subst backslash; rfl
  split
  case isTrue newline => subst newline; rfl
  split
  case isTrue carriageReturn => subst carriageReturn; rfl
  split
  case isTrue tab => subst tab; rfl
  split
  case isTrue backspace => subst backspace; rfl
  split
  case isTrue formFeed => subst formFeed; rfl
  split
  case isTrue control => exact run_unit stack isName done control rest
  case isFalse notQuote notBackslash _ _ _ _ _ notControl =>
    simp [within, run_cons, step, stepString, StringPart.push, notQuote,
      notBackslash, notControl]

theorem run_escapes (stack : List Frame) (isName : Bool) (done chars : List Char)
    (rest : List Char) :
    (within stack isName done).run (chars.flatMap escape ++ rest) =
      (within stack isName (chars.reverse ++ done)).run rest := by
  induction chars generalizing done with
  | nil => rfl
  | cons char chars induction =>
      rw [List.flatMap_cons, List.append_assoc, run_escape, induction]
      simp

/-- The characters of a quoted text after the opening quote lead to the end of
the string with just that text. -/
theorem run_quoted (stack : List Frame) (isName : Bool) (text : String)
    (rest : List Char) :
    (within stack isName []).run (text.toList.flatMap escape ++ '"' :: rest) =
      (if isName then completeName (some text) stack
        else complete (.string text) stack).bind
          (fun reader => reader.run rest) := by
  rw [run_escapes, run_cons]
  cases isName <;>
    simp [within, step, stepString, closeString, StringPart.text?]

/-! ## Numbers -/

theorem isNumberChar_of_isDigit {char : Char} (digit : char.isDigit = true) :
    isNumberChar char = true := by
  simp [isNumberChar, digit]

theorem run_number (stack : List Frame) (literal : List Char)
    {chars : List Char} (digits : ∀ char, char ∈ chars → char.isDigit = true)
    (rest : List Char) :
    run { stack, mode := .number literal } (chars ++ rest) =
      run { stack, mode := .number (chars.reverse ++ literal) } rest := by
  induction chars generalizing literal with
  | nil => rfl
  | cons char chars induction =>
      have first := isNumberChar_of_isDigit (digits char List.mem_cons_self)
      have later : ∀ other, other ∈ chars → other.isDigit = true :=
        fun other member => digits other (List.mem_cons_of_mem char member)
      rw [List.cons_append, run_cons]
      simp only [step, first, if_true, Option.bind_some]
      rw [induction (char :: literal) later]
      simp

end Reader

theorem spanDigits_of_all {chars : List Char}
    (digits : ∀ char, char ∈ chars → char.isDigit = true) :
    spanDigits chars = (chars, []) := by
  have kept : chars.takeWhile Char.isDigit = chars :=
    List.takeWhile_eq_self_iff.mpr digits
  have dropped : chars.dropWhile Char.isDigit = [] :=
    List.dropWhile_eq_nil_iff.mpr digits
  rw [spanDigits, kept, dropped]

/-- Decimal digits begin with a zero only when they spell zero. -/
theorem eq_zero_of_toDigits {number : Nat} {more : List Char}
    (shape : Nat.toDigits 10 number = '0' :: more) :
    number = 0 ∧ more = [] := by
  induction number using Nat.strongRecOn generalizing more with
  | ind number induction =>
      rw [Nat.toDigits_eq_if (by decide)] at shape
      by_cases small : number < 10
      · rw [if_pos small] at shape
        obtain ⟨zero, none⟩ := List.cons.inj shape
        have table : ∀ digit, digit < 10 →
            Nat.digitChar digit = '0' → digit = 0 := by
          decide
        exact ⟨table number small zero, none.symm⟩
      · rw [if_neg small] at shape
        obtain ⟨first, others, front⟩ :=
          List.exists_cons_of_ne_nil (Nat.toDigits_ne_nil (n := number / 10) (b := 10))
        rw [front, List.cons_append] at shape
        obtain ⟨zero, -⟩ := List.cons.inj shape
        rw [zero] at front
        have tiny := (induction (number / 10) (by omega) front).1
        omega

private theorem isDigit_toDigits (number : Nat) (char : Char)
    (member : char ∈ Nat.toDigits 10 number) : char.isDigit = true :=
  Nat.isDigit_of_mem_toDigits (by decide) (by decide) member

theorem unsignedNumber?_toDigits {negative : Bool} {literal : List Char}
    {number : Nat} (signed : negative = true → number ≠ 0) :
    unsignedNumber? negative literal (Nat.toDigits 10 number) =
      (Decimal.intOf? literal).map Json.int := by
  have span := spanDigits_of_all (isDigit_toDigits number)
  unfold unsignedNumber?
  rw [span]
  cases shape : Nat.toDigits 10 number with
  | nil => exact absurd shape Nat.toDigits_ne_nil
  | cons first more =>
      have canonical : ¬ (first = '0' ∧ more ≠ []) := by
        rintro ⟨zero, others⟩
        subst zero
        exact others (eq_zero_of_toDigits shape).2
      have whole : ¬ (negative = true ∧ first = '0') := by
        rintro ⟨minus, zero⟩
        subst zero
        exact signed minus (eq_zero_of_toDigits shape).1
      simp [canonical, whole]

/-- The decimal text of an integer spells that integer. -/
theorem number?_ofInt (number : Int) :
    number? (Decimal.ofInt number) = some (.int number) := by
  have read := Decimal.intOf?_ofInt number
  cases number with
  | ofNat number =>
      have unsigned : number? (Nat.toDigits 10 number) =
          unsignedNumber? false (Nat.toDigits 10 number)
            (Nat.toDigits 10 number) := by
        unfold number?
        split
        case h_1 digits shape =>
          have digit : ('-' : Char).isDigit = true :=
            isDigit_toDigits number '-' (shape ▸ List.mem_cons_self)
          exact absurd digit (by decide)
        case h_2 => rfl
      show number? (Nat.toDigits 10 number) = _
      rw [unsigned, unsignedNumber?_toDigits (by simp)]
      exact congrArg (Option.map Json.int) read
  | negSucc number =>
      show unsignedNumber? true _ (Nat.toDigits 10 (number + 1)) = _
      rw [unsignedNumber?_toDigits (by simp)]
      exact congrArg (Option.map Json.int) read

/-- The decimal text of an integer is a minus sign or a digit, and digits. -/
theorem ofInt_eq_cons (number : Int) :
    ∃ first digits, Decimal.ofInt number = first :: digits ∧
      (first = '-' ∨ first.isDigit = true) ∧
      ∀ char, char ∈ digits → char.isDigit = true := by
  cases number with
  | ofNat number =>
      obtain ⟨first, digits, shape⟩ :=
        List.exists_cons_of_ne_nil (Nat.toDigits_ne_nil (n := number) (b := 10))
      have all : ∀ char, char ∈ first :: digits → char.isDigit = true :=
        fun char member => isDigit_toDigits number char (shape ▸ member)
      exact ⟨first, digits, shape, .inr (all first List.mem_cons_self),
        fun char member => all char (List.mem_cons_of_mem first member)⟩
  | negSucc number =>
      exact ⟨'-', Nat.toDigits 10 (number + 1), rfl, .inl rfl,
        isDigit_toDigits (number + 1)⟩

end Json

end SoloJournal
