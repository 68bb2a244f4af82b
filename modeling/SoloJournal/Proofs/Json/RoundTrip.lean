import SoloJournal.Proofs.Json.Leaves

/-!
# Reading back written values

A value made of texts, whole numbers, truth values, lists and records is read
back from its characters, in either layout.  The reader is followed through the
characters of one value in front of any others: it hands just that value to the
innermost open collection.
-/

namespace SoloJournal.Json

mutual

/-- A value without numbers that are kept by their spelling and without halves
of surrogate pairs. -/
def Plain : Json → Prop
  | .null => True
  | .bool _ => True
  | .int _ => True
  | .decimal _ => False
  | .string _ => True
  | .unpaired => False
  | .array items => PlainItems items
  | .object members => PlainMembers members

def PlainItems : List Json → Prop
  | [] => True
  | item :: items => item.Plain ∧ PlainItems items

def PlainMembers : List (Option String × Json) → Prop
  | [] => True
  | (name, value) :: members =>
      name.isSome ∧ value.Plain ∧ PlainMembers members

end

/-- Characters that end a number in front of them. -/
def EndsNumber (chars : List Char) : Prop :=
  ∃ next rest, chars = next :: rest ∧ isNumberChar next = false

/-- Where a value is expected, also as the first item of an array. -/
def ExpectsValue (expected : Expected) : Prop :=
  expected = .value ∨ expected = .valueOrClose

namespace Reader

/-- A reader that has been handed a value is between two tokens. -/
theorem complete_mode {value : Json} {stack : List Frame} {reader : Reader}
    (completed : complete value stack = some reader) :
    ∃ expected, reader = expecting reader.stack expected := by
  unfold complete at completed
  split at completed <;> cases completed <;> exact ⟨_, rfl⟩

/-- What is done with the character after a number or a word: the value is
handed on, and the character is read after it. -/
theorem bind_complete (value : Json) (stack : List Frame) (next : Char) :
    (do
      let reader ← complete value stack
      match reader.mode with
      | .between expected => stepBetween reader.stack expected next
      | _ => none) =
      (complete value stack).bind (fun reader => reader.step next) := by
  cases completed : complete value stack with
  | none => rfl
  | some reader =>
      obtain ⟨expected, shape⟩ := complete_mode completed
      rw [shape]
      rfl

/-- A value that ends with the character after it is handed on, and that
character is read after it. -/
theorem run_ended {reader : Reader} {value : Json} {stack : List Frame}
    {next : Char}
    (ended : reader.step next =
      (complete value stack).bind (fun reader => reader.step next))
    (rest : List Char) :
    reader.run (next :: rest) =
      (complete value stack).bind (fun reader => reader.run (next :: rest)) := by
  rw [run_cons, ended]
  cases complete value stack with
  | none => rfl
  | some reader => rfl

theorem step_begin {stack : List Frame} {expected : Expected}
    (expects : ExpectsValue expected) {char : Char}
    (notSpace : isSpace char = false) (notClose : char ≠ ']') :
    (expecting stack expected).step char = beginValue stack char := by
  rcases expects with value | valueOrClose
  · subst value
    simp [step, expecting, stepBetween, notSpace]
  · subst valueOrClose
    simp [step, expecting, stepBetween, notSpace, notClose]

/-! ## Words -/

theorem run_word (stack : List Frame) (word : List Char) (value : Json)
    (rest : List Char) :
    run { stack, mode := .word word value } (word ++ rest) =
      run { stack, mode := .word [] value } rest := by
  induction word with
  | nil => rfl
  | cons char word induction =>
      rw [List.cons_append, run_cons]
      simpa [step] using induction

theorem run_word_value {stack : List Frame} {expected : Expected}
    (expects : ExpectsValue expected) {first : Char} {word : List Char}
    {value : Json} (notSpace : isSpace first = false) (notClose : first ≠ ']')
    (begins : beginValue stack first = some { stack, mode := .word word value })
    {rest : List Char} (ends : EndsNumber rest) :
    (expecting stack expected).run (first :: (word ++ rest)) =
      (complete value stack).bind (fun reader => reader.run rest) := by
  obtain ⟨next, tail, rfl, -⟩ := ends
  have ended : step { stack, mode := .word [] value } next =
      (complete value stack).bind (fun reader => reader.step next) :=
    bind_complete value stack next
  rw [run_cons, step_begin expects notSpace notClose, begins, Option.bind_some,
    run_word, run_ended ended]

/-! ## Numbers -/

/-- What begins a number begins nothing else. -/
theorem ne_of_begins {char other : Char}
    (begins : char = '-' ∨ char.isDigit = true) (notMinus : other ≠ '-')
    (notDigit : other.isDigit = false) : char ≠ other := by
  rintro rfl
  rcases begins with minus | digit
  · exact notMinus minus
  · rw [notDigit] at digit
    cases digit

theorem beginValue_number (stack : List Frame) {char : Char}
    (begins : char = '-' ∨ char.isDigit = true) :
    beginValue stack char = some { stack, mode := .number [char] } := by
  have other : ∀ other : Char, other ≠ '-' → other.isDigit = false →
      char ≠ other := fun _ => ne_of_begins begins
  simp [beginValue, begins, other '"', other '[', other '{', other 't',
    other 'f', other 'n']

theorem step_number_end {stack : List Frame} {literal : List Char}
    {value : Json} {next : Char} (ended : isNumberChar next = false)
    (spelled : number? literal.reverse = some value) :
    step { stack, mode := .number literal } next =
      (complete value stack).bind (fun reader => reader.step next) := by
  refine Eq.trans ?_ (bind_complete value stack next)
  simp only [step]
  rw [if_neg (by simp [ended])]
  generalize number? literal.reverse = read at spelled ⊢
  subst spelled
  rfl

theorem run_int {stack : List Frame} {expected : Expected}
    (expects : ExpectsValue expected) (number : Int) {rest : List Char}
    (ends : EndsNumber rest) :
    (expecting stack expected).run (Decimal.ofInt number ++ rest) =
      (complete (.int number) stack).bind (fun reader => reader.run rest) := by
  obtain ⟨next, tail, rfl, ended⟩ := ends
  obtain ⟨first, digits, shape, begins, all⟩ := ofInt_eq_cons number
  have spelled : number? (digits.reverse ++ [first]).reverse =
      some (.int number) := by
    rw [List.reverse_append, List.reverse_reverse, List.reverse_singleton,
      List.singleton_append, ← shape]
    exact number?_ofInt number
  have notSpace : isSpace first = false := by
    have other : ∀ other : Char, other ≠ '-' → other.isDigit = false →
        first ≠ other := fun _ => ne_of_begins begins
    simp [isSpace, other ' ', other '\n', other '\t', other '\r']
  have notClose : first ≠ ']' := ne_of_begins begins (by decide) (by decide)
  rw [shape, List.cons_append, run_cons, step_begin expects notSpace notClose,
    beginValue_number stack begins, Option.bind_some, run_number _ _ all,
    run_ended (step_number_end ended spelled)]

/-! ## Strings -/

theorem run_string {stack : List Frame} {expected : Expected}
    (expects : ExpectsValue expected) (text : String) (rest : List Char) :
    (expecting stack expected).run (quoted text ++ rest) =
      (complete (.string text) stack).bind (fun reader => reader.run rest) := by
  have opened : (expecting stack expected).run (quoted text ++ rest) =
      (within stack false []).run
        (text.toList.flatMap escape ++ '"' :: rest) := by
    rw [quoted, List.cons_append, run_cons,
      step_begin expects (by decide) (by decide), List.append_assoc]
    rfl
  rw [opened, run_quoted]
  rfl

theorem run_name {stack : List Frame} {done : List (Option String × Json)}
    {expected : Expected}
    (expects : expected = .name ∨ expected = .nameOrClose) (layout : Layout)
    (name : String) (rest : List Char) :
    (expecting (.object done :: stack) expected).run
        (quoted name ++ (colon layout ++ rest)) =
      (expecting (.member done (some name) :: stack) .value).run rest := by
  have opened : ∀ after : List Char,
      (expecting (.object done :: stack) expected).run (quoted name ++ after) =
        (within (.object done :: stack) true []).run
          (name.toList.flatMap escape ++ '"' :: after) := by
    intro after
    rw [quoted, List.cons_append, List.append_assoc]
    rcases expects with rfl | rfl <;> rfl
  rw [opened, run_quoted]
  cases layout <;> rfl

/-! ## Items and members -/

theorem run_comma_items (stack : List Frame) (done : List Json)
    (rest : List Char) :
    (expecting (.array done :: stack) .next).run (',' :: rest) =
      (expecting (.array done :: stack) .value).run rest :=
  rfl

theorem run_comma_members (stack : List Frame)
    (done : List (Option String × Json)) (rest : List Char) :
    (expecting (.object done :: stack) .next).run (',' :: rest) =
      (expecting (.object done :: stack) .name).run rest :=
  rfl

theorem endsNumber_itemChars (layout : Layout) (depth : Nat)
    (items : List Json) (rest : List Char) :
    EndsNumber (itemChars layout depth false items ++ ']' :: rest) := by
  cases items with
  | nil => cases layout <;> exact ⟨_, _, rfl, by decide⟩
  | cons item items => exact ⟨',', _, rfl, by decide⟩

theorem endsNumber_memberChars (layout : Layout) (depth : Nat)
    (members : List (Option String × Json)) (rest : List Char) :
    EndsNumber (memberChars layout depth false members ++ '}' :: rest) := by
  cases members with
  | nil => cases layout <;> exact ⟨_, _, rfl, by decide⟩
  | cons member members => exact ⟨',', _, rfl, by decide⟩

mutual

/-- The characters of a value hand that value to the innermost open
collection. -/
theorem run_chars (layout : Layout) :
    ∀ (value : Json) (depth : Nat) {stack : List Frame} {expected : Expected}
      {rest : List Char}, value.Plain → ExpectsValue expected →
      EndsNumber rest →
      (expecting stack expected).run (chars layout depth value ++ rest) =
        (complete value stack).bind (fun reader => reader.run rest)
  | .null, depth, stack, expected, rest, plain, expects, ends =>
      run_word_value expects (by decide) (by decide) rfl ends
  | .bool true, depth, stack, expected, rest, plain, expects, ends =>
      run_word_value expects (by decide) (by decide) rfl ends
  | .bool false, depth, stack, expected, rest, plain, expects, ends =>
      run_word_value expects (by decide) (by decide) rfl ends
  | .int number, depth, stack, expected, rest, plain, expects, ends =>
      run_int expects number ends
  | .decimal literal, depth, stack, expected, rest, plain, expects, ends => by
      simp [Plain] at plain
  | .string text, depth, stack, expected, rest, plain, expects, ends =>
      run_string expects text rest
  | .unpaired, depth, stack, expected, rest, plain, expects, ends => by
      simp [Plain] at plain
  | .array [], depth, stack, expected, rest, plain, expects, ends => by
      rw [chars, itemChars, List.cons_append, run_cons,
        step_begin expects (by decide) (by decide)]
      rfl
  | .array (item :: items), depth, stack, expected, rest, plain, expects,
      ends => by
      obtain ⟨plainItem, plainItems⟩ : item.Plain ∧ PlainItems items := by
        simpa [Plain, PlainItems] using plain
      rw [chars, itemChars, List.cons_append, run_cons,
        step_begin expects (by decide) (by decide)]
      show (expecting (.array [] :: stack) .valueOrClose).run _ = _
      simp only [if_true, List.nil_append, List.append_assoc,
        List.singleton_append]
      rw [run_lineStart,
        run_chars layout item (depth + 1) plainItem (.inr rfl)
          (endsNumber_itemChars layout depth items rest)]
      exact run_itemChars layout items depth plainItems
  | .object [], depth, stack, expected, rest, plain, expects, ends => by
      rw [chars, memberChars, List.cons_append, run_cons,
        step_begin expects (by decide) (by decide)]
      rfl
  | .object ((name, value) :: members), depth, stack, expected, rest, plain,
      expects, ends => by
      obtain ⟨named, plainValue, plainMembers⟩ :
          name.isSome ∧ value.Plain ∧ PlainMembers members := by
        simpa [Plain, PlainMembers] using plain
      obtain ⟨name, rfl⟩ := Option.isSome_iff_exists.mp named
      rw [chars, memberChars, List.cons_append, run_cons,
        step_begin expects (by decide) (by decide)]
      show (expecting (.object [] :: stack) .nameOrClose).run _ = _
      simp only [if_true, List.nil_append, List.append_assoc,
        List.singleton_append, nameText]
      rw [run_lineStart, run_name (.inr rfl),
        run_chars layout value (depth + 1) plainValue (.inl rfl)
          (endsNumber_memberChars layout depth members rest)]
      exact run_memberChars layout members depth plainMembers

/-- The characters of the remaining items complete the array. -/
theorem run_itemChars (layout : Layout) :
    ∀ (items : List Json) (depth : Nat) {stack : List Frame}
      {done : List Json} {rest : List Char}, PlainItems items →
      (expecting (.array done :: stack) .next).run
          (itemChars layout depth false items ++ ']' :: rest) =
        (complete (.array (done.reverse ++ items)) stack).bind
          (fun reader => reader.run rest)
  | [], depth, stack, done, rest, plain => by
      rw [itemChars, if_neg (by decide), run_lineStart, List.append_nil]
      rfl
  | item :: items, depth, stack, done, rest, plain => by
      obtain ⟨plainItem, plainItems⟩ : item.Plain ∧ PlainItems items := by
        simpa [PlainItems] using plain
      rw [itemChars, if_neg (by decide)]
      simp only [List.append_assoc, List.cons_append, List.nil_append]
      rw [run_comma_items, run_lineStart,
        run_chars layout item (depth + 1) plainItem (.inl rfl)
          (endsNumber_itemChars layout depth items rest)]
      have remaining := @run_itemChars layout items depth stack (item :: done)
        rest plainItems
      rw [complete, Option.bind_some, remaining, List.reverse_cons,
        List.append_assoc]
      rfl

/-- The characters of the remaining members complete the object. -/
theorem run_memberChars (layout : Layout) :
    ∀ (members : List (Option String × Json)) (depth : Nat)
      {stack : List Frame} {done : List (Option String × Json)}
      {rest : List Char}, PlainMembers members →
      (expecting (.object done :: stack) .next).run
          (memberChars layout depth false members ++ '}' :: rest) =
        (complete (.object (done.reverse ++ members)) stack).bind
          (fun reader => reader.run rest)
  | [], depth, stack, done, rest, plain => by
      rw [memberChars, if_neg (by decide), run_lineStart, List.append_nil]
      rfl
  | (name, value) :: members, depth, stack, done, rest, plain => by
      obtain ⟨named, plainValue, plainMembers⟩ :
          name.isSome ∧ value.Plain ∧ PlainMembers members := by
        simpa [PlainMembers] using plain
      obtain ⟨name, rfl⟩ := Option.isSome_iff_exists.mp named
      rw [memberChars, if_neg (by decide)]
      simp only [List.append_assoc, List.cons_append, List.nil_append, nameText]
      rw [run_comma_members, run_lineStart, run_name (.inl rfl),
        run_chars layout value (depth + 1) plainValue (.inl rfl)
          (endsNumber_memberChars layout depth members rest)]
      have remaining := @run_memberChars layout members depth stack
        ((some name, value) :: done) rest plainMembers
      rw [complete, Option.bind_some, remaining, List.reverse_cons,
        List.append_assoc]
      rfl

end

/-! ## The end of the text -/

theorem run_append (reader : Reader) (front back : List Char) :
    reader.run (front ++ back) =
      (reader.run front).bind (fun next => next.run back) :=
  List.foldlM_append

theorem eq_of_complete_nothing {value other : Json} {stack : List Frame}
    (completed : complete value stack = some (expecting [] (.nothing other))) :
    value = other ∧ stack = [] := by
  cases stack with
  | nil =>
      cases completed
      exact ⟨rfl, rfl⟩
  | cons frame stack => cases frame <;> cases completed

theorem eq_of_handed_on {value other : Json} {stack : List Frame}
    (handed : (complete value stack).bind (fun reader => reader.step '\n') =
      some (expecting [] (.nothing other))) :
    value = other ∧ stack = [] := by
  obtain ⟨reader, completed, stepped⟩ := Option.bind_eq_some_iff.mp handed
  obtain ⟨expected, shape⟩ := complete_mode completed
  have blank : reader.step '\n' = some reader := by
    rw [shape]
    rfl
  rw [blank] at stepped
  exact eq_of_complete_nothing (completed.trans stepped)

/-- A line end after a text shows what the text itself spells. -/
theorem finish_of_step {reader : Reader} {value : Json}
    (stepped : reader.step '\n' = some (expecting [] (.nothing value))) :
    reader.finish = some value := by
  obtain ⟨stack, mode⟩ := reader
  cases mode with
  | between expected =>
      cases stepped
      rfl
  | string isName part escape =>
      cases escape <;> cases stepped
  | number literal =>
      obtain ⟨read, spelled, handed⟩ := Option.bind_eq_some_iff.mp stepped
      obtain ⟨rfl, rfl⟩ :=
        eq_of_handed_on ((bind_complete read stack '\n').symm.trans handed)
      exact spelled
  | word word read =>
      cases word with
      | nil =>
          obtain ⟨rfl, rfl⟩ :=
            eq_of_handed_on ((bind_complete read stack '\n').symm.trans stepped)
          rfl
      | cons next word =>
          simp only [step] at stepped
          split at stepped <;> cases stepped

end Reader

/-- A plain value is read back from its text in either layout. -/
theorem parse?_chars (layout : Layout) {value : Json} (plain : value.Plain) :
    parse? (String.ofList (chars layout 0 value)) = some value := by
  -- a number ends only with what follows it, so a line end is read as well
  have ran : Reader.start.run (chars layout 0 value ++ ['\n']) =
      some (Reader.expecting [] (.nothing value)) :=
    Reader.run_chars layout value 0 plain (.inl rfl) ⟨'\n', [], rfl, by decide⟩
  rw [Reader.run_append] at ran
  obtain ⟨reader, read, stepped⟩ := Option.bind_eq_some_iff.mp ran
  have ended : reader.step '\n' =
      some (Reader.expecting [] (.nothing value)) := by
    rw [Reader.run_cons] at stepped
    simpa using stepped
  rw [parse?, String.toList_ofList, read]
  exact Reader.finish_of_step ended

theorem parse?_compact {value : Json} (plain : value.Plain) :
    parse? value.compact = some value :=
  parse?_chars .compact plain

theorem parse?_indented {value : Json} (plain : value.Plain) :
    parse? value.indented = some value :=
  parse?_chars .indented plain

end SoloJournal.Json
