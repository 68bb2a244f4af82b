import SoloJournal.Proofs.Words
import SoloJournal.Terminal.Command

/-!
# The grammar of commands

A line that is not blank is a word with an argument after it.  The words of a
command, up to letter case, and what it takes as its argument, are the whole
grammar: `Command.parse` accepts what it allows and refuses everything else.
-/

namespace SoloJournal

namespace Decimal

variable {chars : List Char} {value : Int}

structure Digits (chars : List Char) (value : Nat) : Prop where
  ne_nil : chars ≠ []
  all : ∀ char ∈ chars, char.isDigit = true
  value_eq : value = Nat.ofDigitChars 10 chars 0

/-- Decimal digits with at most one sign before them. -/
inductive Numeral : List Char → Int → Prop where
  | unsigned {digits : List Char} {value : Nat} :
      Digits digits value → Numeral digits value
  | positive {digits : List Char} {value : Nat} :
      Digits digits value → Numeral ('+' :: digits) value
  | negative {digits : List Char} {value : Nat} :
      Digits digits value → Numeral ('-' :: digits) (-value)

theorem natOf?_eq_some_iff {value : Nat} :
    natOf? chars = some value ↔ Digits chars value := by
  unfold natOf?
  constructor
  · intro read
    split at read
    · cases read
    · rename_i nonempty
      split at read
      · rename_i all
        cases read
        exact ⟨by simpa using nonempty, List.all_eq_true.mp all, rfl⟩
      · cases read
  · rintro ⟨nonempty, all, rfl⟩
    rw [if_neg (by simpa using nonempty), if_pos (List.all_eq_true.mpr all)]

/-- A sign is no digit. -/
theorem Digits.ne_sign {value : Nat} (digits : Digits chars value) :
    ∃ first rest, chars = first :: rest ∧ first ≠ '-' ∧ first ≠ '+' := by
  obtain ⟨first, rest, rfl⟩ := List.exists_cons_of_ne_nil digits.ne_nil
  have digit := digits.all first List.mem_cons_self
  refine ⟨first, rest, rfl, ?_, ?_⟩
  · rintro rfl
    cases digit
  · rintro rfl
    cases digit

theorem Digits.positiveOf?_eq {value : Nat} (digits : Digits chars value) :
    positiveOf? chars = some value := by
  have read := natOf?_eq_some_iff.mpr digits
  obtain ⟨first, rest, rfl, -, noPlus⟩ := digits.ne_sign
  unfold positiveOf?
  simp [noPlus, read]

theorem Digits.intOf?_eq {value : Nat} (digits : Digits chars value) :
    intOf? chars = some (Int.ofNat value) := by
  have read := digits.positiveOf?_eq
  obtain ⟨first, rest, rfl, noMinus, -⟩ := digits.ne_sign
  unfold intOf?
  simp [noMinus, read]

theorem intOf?_eq_some_iff :
    intOf? chars = some value ↔ Numeral chars value := by
  constructor
  · intro read
    unfold intOf? at read
    split at read
    case h_1 digits =>
      obtain ⟨number, digits, rfl⟩ := Option.map_eq_some_iff.mp read
      exact .negative (natOf?_eq_some_iff.mp digits)
    case h_2 =>
      obtain ⟨number, positive, rfl⟩ := Option.map_eq_some_iff.mp read
      unfold positiveOf? at positive
      split at positive
      · exact .positive (natOf?_eq_some_iff.mp positive)
      · exact .unsigned (natOf?_eq_some_iff.mp positive)
  · rintro (digits | digits | digits)
    · exact digits.intOf?_eq
    · simp [intOf?, positiveOf?, natOf?_eq_some_iff.mpr digits]
    · simp [intOf?, natOf?_eq_some_iff.mpr digits]

theorem numeral_ofInt (number : Int) : Numeral (ofInt number) number :=
  intOf?_eq_some_iff.mp (intOf?_ofInt number)

theorem isBlank_of_isDigit {char : Char} (digit : char.isDigit = true) :
    Text.isBlank char = false := by
  simp only [Char.isDigit, Bool.and_eq_true, decide_eq_true_eq] at digit
  have low : 48 ≤ char.toNat := digit.1
  have high : char.toNat ≤ 57 := digit.2
  simp only [Text.isBlank, Bool.or_eq_false_iff, Bool.and_eq_false_iff,
    decide_eq_false_iff_not, beq_eq_false_iff_ne]
  omega

theorem Numeral.unbroken (numeral : Numeral chars value) :
    Text.Unbroken chars := by
  have plain : ∀ {digits : List Char} {value : Nat}, Digits digits value →
      Text.Unbroken digits :=
    fun digits char member => isBlank_of_isDigit (digits.all char member)
  rcases numeral with digits | digits | digits
  · exact plain digits
  · exact List.forall_mem_cons.mpr ⟨by decide, plain digits⟩
  · exact List.forall_mem_cons.mpr ⟨by decide, plain digits⟩

end Decimal

namespace Terminal.Command

open Text (AllBlank Trimmed Divides)

/-! ## Words and arguments -/

/-- The words for a command, the full one first. -/
def words : Command → List String
  | roll => ["roll", "r"]
  | draw => ["draw", "d"]
  | resolve => ["apply", "a", "confirm"]
  | tokens _ => ["tokens", "t"]
  | note _ => ["note", "n"]
  | journal => ["journal", "j"]
  | status => ["status", "s"]
  | history => ["history", "h"]
  | story => ["story"]
  | restart => ["new"]
  | help => ["help", "?"]
  | quit => ["quit", "exit", "q"]

/-- Whether a word is one of those for a command, letter case apart. -/
def Calls (command : Command) (word : List Char) : Prop :=
  ∃ known ∈ command.words,
    Text.sameIgnoringCase (String.ofList word) known = true

/-- What a command takes as its argument.  Most take anything and ignore it. -/
def Takes (argument : List Char) : Command → Prop
  | tokens delta => Decimal.Numeral argument delta.toInt
  | note text => argument ≠ [] ∧ text = String.ofList argument
  | _ => True

structure Spells (word argument : List Char) (command : Command) : Prop where
  calls : command.Calls word
  takes : Takes argument command

/-- Why a word with an argument is no command. -/
inductive Refuses (word argument : List Char) : CommandError → Prop where
  | unknown : (∀ command : Command, ¬ command.Calls word) →
      Refuses word argument (.unknown (String.ofList (Text.foldCase word)))
  | emptyNote {text : String} : (note text).Calls word → argument = [] →
      Refuses word argument .emptyNote
  | notANumber {delta : Int64} : (tokens delta).Calls word →
      (∀ other : Int64, ¬ Decimal.Numeral argument other.toInt) →
      Refuses word argument (.notANumber (String.ofList argument))

theorem foldCase_words (command : Command) :
    ∀ known ∈ command.words, Text.foldCase known.toList = known.toList := by
  cases command <;> simp only [words] <;> decide

theorem calls_iff {command : Command} {word : List Char} :
    command.Calls word ↔
      String.ofList (Text.foldCase word) ∈ command.words := by
  unfold Calls
  constructor
  · rintro ⟨known, member, same⟩
    rw [Text.sameIgnoringCase, beq_iff_eq, String.toList_ofList,
      foldCase_words command known member] at same
    rw [same, String.ofList_toList]
    exact member
  · intro member
    refine ⟨_, member, ?_⟩
    have folded := foldCase_words command _ member
    rw [String.toList_ofList] at folded
    rw [Text.sameIgnoringCase, beq_iff_eq, String.toList_ofList,
      String.toList_ofList, folded]

theorem delta?_eq_some_iff {argument : List Char} {delta : Int64} :
    delta? argument = some delta ↔ Decimal.Numeral argument delta.toInt := by
  rw [← Decimal.intOf?_eq_some_iff]
  unfold delta?
  cases Decimal.intOf? argument with
  | none => simp
  | some value =>
      have low := delta.le_toInt
      have high := delta.toInt_le
      simp only [Option.bind_eq_bind, Option.bind_some, Option.some.injEq]
      constructor
      · intro within
        split at within
        case isTrue range =>
          cases within
          rw [Int64.toInt_ofInt_of_le range.1
            (Int.lt_of_le_of_lt range.2 (by decide))]
        case isFalse => cases within
      · rintro rfl
        rw [if_pos ⟨low, high⟩, Int64.ofInt_toInt]

theorem delta?_eq_none_iff {argument : List Char} :
    delta? argument = none ↔
      ∀ delta : Int64, ¬ Decimal.Numeral argument delta.toInt := by
  rw [Option.eq_none_iff_forall_ne_some]
  exact forall_congr' fun delta => not_congr delta?_eq_some_iff

/-! ## Reading a word with its argument -/

variable {word argument : List Char} {command : Command}

theorem ofWord_of_spells (spells : Spells word argument command) :
    ofWord (String.ofList (Text.foldCase word)) argument = .ok command := by
  obtain ⟨calls, takes⟩ := spells
  have member := calls_iff.mp calls
  generalize String.ofList (Text.foldCase word) = spelled at member
  cases command with
  | tokens delta =>
      have read := delta?_eq_some_iff.mpr takes
      simp only [words, List.mem_cons, List.not_mem_nil, or_false] at member
      rcases member with rfl | rfl <;> simp only [ofWord, read]
  | note text =>
      obtain ⟨filled, rfl⟩ := takes
      have nonempty : argument.isEmpty = false := by simpa using filled
      simp only [words, List.mem_cons, List.not_mem_nil, or_false] at member
      rcases member with rfl | rfl <;>
        simp only [ofWord, nonempty, Bool.false_eq_true, if_false]
  | _ =>
      simp only [words, List.mem_cons, List.not_mem_nil, or_false] at member
      rcases member with rfl | rfl | rfl <;> rfl

/-- A word that calls no command is none of the words that are looked for. -/
theorem ofWord_of_uncalled (uncalled : ∀ command : Command, ¬ command.Calls word) :
    ofWord (String.ofList (Text.foldCase word)) argument =
      .error (.unknown (String.ofList (Text.foldCase word))) := by
  have absent : String.ofList (Text.foldCase word) ∉
      [roll, draw, resolve, tokens 0, note "", journal, status, history, story,
        restart, help, quit].flatMap words := by
    intro member
    obtain ⟨command, -, known⟩ := List.mem_flatMap.mp member
    exact uncalled command (calls_iff.mpr known)
  generalize String.ofList (Text.foldCase word) = spelled at absent
  simp only [List.flatMap_cons, List.flatMap_nil, words, List.append_nil,
    List.cons_append, List.nil_append, List.mem_cons, List.not_mem_nil,
    or_false, not_or] at absent
  unfold ofWord
  split <;> simp_all

theorem ofWord_of_refuses {error : CommandError}
    (refuses : Refuses word argument error) :
    ofWord (String.ofList (Text.foldCase word)) argument = .error error := by
  cases refuses with
  | unknown uncalled => exact ofWord_of_uncalled uncalled
  | emptyNote calls missing =>
      have member := calls_iff.mp calls
      generalize String.ofList (Text.foldCase word) = spelled at member
      simp only [words, List.mem_cons, List.not_mem_nil, or_false] at member
      rcases member with rfl | rfl <;> simp [ofWord, missing]
  | notANumber calls noNumeral =>
      have member := calls_iff.mp calls
      have unread := delta?_eq_none_iff.mpr noNumeral
      generalize String.ofList (Text.foldCase word) = spelled at member
      simp only [words, List.mem_cons, List.not_mem_nil, or_false] at member
      rcases member with rfl | rfl <;> simp only [ofWord, unread]

/-- Every word with an argument is a command or is refused. -/
theorem spells_or_refuses (word argument : List Char) :
    (∃ command, Spells word argument command) ∨
      ∃ error, Refuses word argument error := by
  by_cases called : ∃ command : Command, command.Calls word
  · obtain ⟨command, calls⟩ := called
    cases command with
    | tokens delta =>
        by_cases number : ∃ other : Int64, Decimal.Numeral argument other.toInt
        · obtain ⟨other, numeral⟩ := number
          exact .inl ⟨tokens other, calls, numeral⟩
        · exact .inr ⟨_, .notANumber calls (not_exists.mp number)⟩
    | note text =>
        by_cases missing : argument = []
        · exact .inr ⟨_, .emptyNote calls missing⟩
        · exact .inl ⟨note (String.ofList argument), calls, missing, rfl⟩
    | _ => exact .inl ⟨_, calls, trivial⟩
  · exact .inr ⟨_, .unknown (not_exists.mp called)⟩

theorem ofWord_eq_ok_iff :
    ofWord (String.ofList (Text.foldCase word)) argument = .ok command ↔
      Spells word argument command := by
  constructor
  · intro read
    rcases spells_or_refuses word argument with ⟨other, spells⟩ | ⟨error, refuses⟩
    · rw [ofWord_of_spells spells] at read
      cases read
      exact spells
    · rw [ofWord_of_refuses refuses] at read
      cases read
  · exact ofWord_of_spells

theorem ofWord_eq_error_iff {error : CommandError} :
    ofWord (String.ofList (Text.foldCase word)) argument = .error error ↔
      Refuses word argument error := by
  constructor
  · intro read
    rcases spells_or_refuses word argument with ⟨command, spells⟩ | ⟨other, refuses⟩
    · rw [ofWord_of_spells spells] at read
      cases read
    · rw [ofWord_of_refuses refuses] at read
      cases read
      exact refuses
  · exact ofWord_of_refuses

/-! ## Reading a line -/

variable {line : String}

theorem parse_of_blank (blank : AllBlank line.toList) :
    parse line = .ok none := by
  have nothing := Text.trimChars_eq_nil_iff.mpr blank
  simp [parse, nothing]

theorem parse_of_divides (divides : Divides line.toList word argument) :
    parse line =
      (ofWord (String.ofList (Text.foldCase word)) argument).map some := by
  obtain ⟨filled, rfl, rfl⟩ := Text.divides_iff.mp divides
  have nonempty : (Text.trimChars line.toList).isEmpty = false := by
    simpa using filled
  simp [parse, nonempty]

theorem blank_or_divides (line : String) :
    AllBlank line.toList ∨ ∃ word argument, Divides line.toList word argument := by
  by_cases blank : Text.trimChars line.toList = []
  · exact .inl (Text.trimChars_eq_nil_iff.mp blank)
  · exact .inr ⟨_, _, Text.divides_cutAtBlank blank⟩

theorem parse_eq_none_iff :
    parse line = .ok none ↔ AllBlank line.toList := by
  constructor
  · intro parsed
    rcases blank_or_divides line with blank | ⟨word, argument, divides⟩
    · exact blank
    · rw [parse_of_divides divides] at parsed
      cases read : ofWord (String.ofList (Text.foldCase word)) argument <;>
        simp [read, Except.map] at parsed
  · exact parse_of_blank

theorem parse_eq_some_iff :
    parse line = .ok (some command) ↔
      ∃ word argument, Divides line.toList word argument ∧
        Spells word argument command := by
  constructor
  · intro parsed
    rcases blank_or_divides line with blank | ⟨word, argument, divides⟩
    · rw [parse_of_blank blank] at parsed
      cases parsed
    · rw [parse_of_divides divides] at parsed
      refine ⟨word, argument, divides, ofWord_eq_ok_iff.mp ?_⟩
      cases read : ofWord (String.ofList (Text.foldCase word)) argument <;>
        simp_all [Except.map]
  · rintro ⟨word, argument, divides, spells⟩
    rw [parse_of_divides divides, ofWord_of_spells spells, Except.map]

theorem parse_eq_error_iff {error : CommandError} :
    parse line = .error error ↔
      ∃ word argument, Divides line.toList word argument ∧
        Refuses word argument error := by
  constructor
  · intro parsed
    rcases blank_or_divides line with blank | ⟨word, argument, divides⟩
    · rw [parse_of_blank blank] at parsed
      cases parsed
    · rw [parse_of_divides divides] at parsed
      refine ⟨word, argument, divides, ofWord_eq_error_iff.mp ?_⟩
      cases read : ofWord (String.ofList (Text.foldCase word)) argument <;>
        simp_all [Except.map]
  · rintro ⟨word, argument, divides, refuses⟩
    rw [parse_of_divides divides, ofWord_of_refuses refuses, Except.map]

/-- What a note says is neither empty nor surrounded by blanks. -/
theorem note_of_parse {text : String}
    (parsed : parse line = .ok (some (note text))) :
    text ≠ "" ∧ Trimmed text.toList := by
  obtain ⟨word, argument, divides, -, filled, rfl⟩ := parse_eq_some_iff.mp parsed
  rw [String.toList_ofList]
  exact ⟨by simpa using filled, divides.trimmed⟩

/-- A word with a trimmed argument behind one blank. -/
theorem parse_append_blank (word : String) {argument : String} (blank : Char)
    (calls : command.Calls word.toList) (takes : Takes argument.toList command)
    (nonempty : word ≠ "") (unbroken : Text.Unbroken word.toList)
    (isBlank : Text.isBlank blank = true) (trimmed : Trimmed argument.toList) :
    parse (word ++ String.singleton blank ++ argument) = .ok (some command) := by
  apply parse_eq_some_iff.mpr
  refine ⟨word.toList, argument.toList, ⟨⟨[], [blank], [], ?_, nofun, ?_, nofun,
    fun _ => List.cons_ne_nil _ _⟩, by simpa using nonempty, unbroken, trimmed⟩,
    calls, takes⟩
  · simp
  · exact List.forall_mem_singleton.mpr isBlank

/-- The grammar is exact.  A line without a command is a blank one; otherwise
it divides into a word and an argument, and is the command that these spell, or
an error that says why they spell none.  So every number and every trimmed text
can be typed, a note says nothing but trimmed texts, and neither blanks around
a line or between its parts nor the case of its word matter. -/
theorem grammar_exact :
    (∀ line : String,
      (parse line = .ok none ↔ AllBlank line.toList) ∧
        (∀ command, parse line = .ok (some command) ↔
          ∃ word argument, Divides line.toList word argument ∧
            Spells word argument command) ∧
        (∀ error, parse line = .error error ↔
          ∃ word argument, Divides line.toList word argument ∧
            Refuses word argument error) ∧
        ∀ text, parse line = .ok (some (note text)) →
          text ≠ "" ∧ Trimmed text.toList) ∧
      (∀ delta : Int64,
        parse ("tokens " ++ Decimal.intText delta.toInt) =
          .ok (some (tokens delta))) ∧
      (∀ text : String, text ≠ "" → Trimmed text.toList →
        parse ("note " ++ text) = .ok (some (note text))) ∧
      (∀ (line : String) (lead trail : List Char), AllBlank lead →
        AllBlank trail →
          parse (String.ofList (lead ++ line.toList ++ trail)) = parse line) ∧
      ∀ (line other : String) (word recased argument : List Char),
        Divides line.toList word argument →
          Divides other.toList recased argument →
            Text.foldCase word = Text.foldCase recased →
              parse line = parse other := by
  refine ⟨?_, ?_, ?_, ?_, ?_⟩
  · intro line
    exact ⟨parse_eq_none_iff, fun _ => parse_eq_some_iff,
      fun _ => parse_eq_error_iff, fun _ => note_of_parse⟩
  · intro delta
    have numeral := Decimal.numeral_ofInt delta.toInt
    rw [← String.toList_ofList (l := Decimal.ofInt delta.toInt)] at numeral
    exact parse_append_blank "tokens" ' '
      ⟨_, List.mem_cons_self, by decide⟩ numeral (by decide) (by decide) rfl
      numeral.unbroken.trimmed
  · intro text nonempty trimmed
    exact parse_append_blank "note" ' '
      ⟨_, List.mem_cons_self, by decide⟩
      ⟨by simpa using nonempty, String.ofList_toList.symm⟩
      (by decide) (by decide) rfl trimmed
  · intro line lead trail leads trails
    have same : Text.trimChars (lead ++ line.toList ++ trail) =
        Text.trimChars line.toList := Text.trimChars_blanks leads trails
    simp only [parse, String.toList_ofList, same]
  · intro line other word recased argument divides otherDivides sameWord
    rw [parse_of_divides divides, parse_of_divides otherDivides, sameWord]

/-- A note between wide blanks, its word in capitals. -/
theorem grammar_exact_howling :
    AllBlank ['\t', '\u3000'] ∧ Trimmed "the  wind\u00a0howls".toList ∧
      parse "\t\u3000NoTE  the  wind\u00a0howls\t\u3000" =
        .ok (some (note "the  wind\u00a0howls")) := by
  obtain ⟨-, -, noted, blanks, recased⟩ := grammar_exact
  have wide : AllBlank ['\t', '\u3000'] := by decide
  have trimmed : Trimmed "the  wind\u00a0howls".toList := by decide +kernel
  have plain := noted "the  wind\u00a0howls" (by decide) trimmed
  have capital := recased "NoTE  the  wind\u00a0howls"
    "note the  wind\u00a0howls" "NoTE".toList "note".toList
    "the  wind\u00a0howls".toList (Text.divides_iff.mpr (by decide))
    (Text.divides_iff.mpr (by decide)) (by decide)
  have around := blanks "NoTE  the  wind\u00a0howls" ['\t', '\u3000']
    ['\t', '\u3000'] wide wide
  exact ⟨wide, trimmed, around.trans (capital.trans plain)⟩

end Terminal.Command

end SoloJournal
