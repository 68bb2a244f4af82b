import Mathlib.Data.List.Forall2
import SoloJournal.Proofs.Words
import SoloJournal.Terminal.Lines

/-!
# Colour is only paint

A terminal sequence that sets a colour begins with an escape and ends with the
letter `m`.  `unpaint` deletes these sequences from a text; `Painted` says what
a text and the same text without its colours are put together from.  The lines
about a game are painted around texts that are already written out, so they are
the plain lines once the colours are deleted.
-/

namespace SoloJournal

/-- The texts that the lines about a view can show. -/
def GameView.texts (view : GameView) : List String :=
  [view.tokensName, view.stabilityName]
    ++ (view.pending.toList.flatMap fun pending =>
        [pending.prompt.title, pending.prompt.description])
    ++ view.message.toList

/-- The texts that the lines about a game can show before it is played. -/
def Summary.texts (summary : Summary) : List String :=
  [summary.title, summary.author, summary.tokensName, summary.stabilityName]
    ++ summary.subtitle.toList ++ summary.version.toList
    ++ summary.description.toList ++ summary.systems

namespace Terminal

/-- The character that begins a terminal sequence. -/
def escape : Char := '\x1b'

def isParameter (char : Char) : Bool :=
  char.isDigit || char == ';'

/-- What follows the colour sequence that stands at the front, if one does: an
escape, a bracket, digits and semicolons, and the letter `m`. -/
def afterColour? : List Char → Option (List Char)
  | first :: '[' :: rest =>
    if first = escape then
      match rest.dropWhile isParameter with
      | 'm' :: rest => some rest
      | _ => none
    else none
  | _ => none

theorem length_afterColour? {chars rest : List Char}
    (found : afterColour? chars = some rest) : rest.length < chars.length := by
  unfold afterColour? at found
  split at found
  case h_1 first after =>
    split at found
    · split at found
      case h_1 last same =>
        obtain rfl := Option.some.inj found
        have shorter := (List.dropWhile_suffix isParameter (l := after)).length_le
        rw [same] at shorter
        simp only [List.length_cons] at shorter ⊢
        omega
      case h_2 => cases found
    · cases found
  case h_2 => cases found

/-- Deletes every colour sequence and keeps every other character. -/
def unpaintChars (chars : List Char) : List Char :=
  match chars with
  | [] => []
  | char :: rest =>
    match _ : afterColour? (char :: rest) with
    | some after => unpaintChars after
    | none => char :: unpaintChars rest
termination_by chars.length
decreasing_by
  · exact length_afterColour? ‹_›
  · exact Nat.lt_succ_self rest.length

def unpaint (text : String) : String :=
  String.ofList (unpaintChars text.toList)

example : unpaint "\x1b[1;91mfallen\x1b[0m \x1b[K" = "fallen \x1b[K" := by cbv

/-- A text without terminal sequences. -/
def Plain (text : String) : Prop :=
  escape ∉ text.toList

instance : DecidablePred Plain :=
  fun text => inferInstanceAs (Decidable (escape ∉ text.toList))

/-- A text with colours beside the same text without them.  An escape stands
nowhere but at the front of a colour sequence. -/
inductive Painted : List Char → List Char → Prop where
  | nil : Painted [] []
  | char {char : Char} {painted plain : List Char} :
      char ≠ escape →
      Painted painted plain →
      Painted (char :: painted) (char :: plain)
  | colour {parameters painted plain : List Char} :
      parameters.all isParameter = true →
      Painted painted plain →
      Painted (escape :: '[' :: (parameters ++ 'm' :: painted)) plain

theorem unpaintChars_char {char : Char} {rest : List Char} (kept : char ≠ escape) :
    unpaintChars (char :: rest) = char :: unpaintChars rest := by
  have none : afterColour? (char :: rest) = none := by
    unfold afterColour?
    split
    case h_1 first after same =>
      obtain ⟨rfl, -⟩ := List.cons.inj same
      rw [if_neg kept]
    case h_2 => rfl
  rw [unpaintChars]
  split
  case h_1 after found => cases none.symm.trans found
  case h_2 => rfl

theorem unpaintChars_colour {parameters rest : List Char}
    (all : parameters.all isParameter = true) :
    unpaintChars (escape :: '[' :: (parameters ++ 'm' :: rest)) =
      unpaintChars rest := by
  have dropped : (parameters ++ 'm' :: rest).dropWhile isParameter = 'm' :: rest :=
    Text.dropWhile_of_stop (List.all_eq_true.mp all) (by simp [isParameter])
  have found : afterColour? (escape :: '[' :: (parameters ++ 'm' :: rest)) =
      some rest := by
    simp [afterColour?, dropped]
  rw [unpaintChars]
  split
  case h_1 after same => rw [Option.some.inj (found.symm.trans same)]
  case h_2 none => cases none.symm.trans found

namespace Painted

variable {painted plain others otherPlain : List Char}

theorem unpaintChars_eq (colours : Painted painted plain) :
    unpaintChars painted = plain := by
  induction colours with
  | nil => rw [unpaintChars]
  | char kept _ induction => rw [unpaintChars_char kept, induction]
  | colour all _ induction => rw [unpaintChars_colour all, induction]

theorem escape_not_mem (colours : Painted painted plain) : escape ∉ plain := by
  induction colours with
  | nil => exact List.not_mem_nil
  | char kept _ induction =>
      exact List.not_mem_cons_of_ne_of_not_mem kept.symm induction
  | colour _ _ induction => exact induction

theorem refl (chars : List Char) (plain : escape ∉ chars) : Painted chars chars := by
  induction chars with
  | nil => exact .nil
  | cons char chars induction =>
      have kept : char ≠ escape := Ne.symm (List.ne_of_not_mem_cons plain)
      exact .char kept (induction (List.not_mem_of_not_mem_cons plain))

theorem append (colours : Painted painted plain) (more : Painted others otherPlain) :
    Painted (painted ++ others) (plain ++ otherPlain) := by
  induction colours with
  | nil => exact more
  | char kept _ induction => exact .char kept induction
  | colour all _ induction =>
      rw [List.cons_append, List.cons_append, List.append_assoc, List.cons_append]
      exact .colour all induction

end Painted

/-! ## Plain texts -/

section Plain

variable {left right text : String}

@[simp] theorem plain_append : Plain (left ++ right) ↔ Plain left ∧ Plain right := by
  simp [Plain]

theorem escape_not_mem_toDigits (number : Nat) :
    escape ∉ Nat.toDigits 10 number := by
  intro member
  have digit := Nat.isDigit_of_mem_toDigits (by decide) (by decide) member
  exact absurd digit (by decide)

theorem escape_not_mem_ofInt (number : Int) : escape ∉ Decimal.ofInt number := by
  cases number with
  | ofNat number => exact escape_not_mem_toDigits number
  | negSucc number =>
      exact List.not_mem_cons_of_ne_of_not_mem (by decide)
        (escape_not_mem_toDigits (number + 1))

@[simp] theorem plain_count (number : Nat) : Plain (count number) := by
  simp [Plain, count, Decimal.natText, escape_not_mem_toDigits]

@[simp] theorem plain_intText (number : Int) : Plain (Decimal.intText number) := by
  simp [Plain, Decimal.intText, escape_not_mem_ofInt]

@[simp] theorem plain_signedText (number : Int) :
    Plain (Decimal.signedText number) := by
  unfold Decimal.signedText
  split
  · have sign : escape ≠ '+' := by decide
    simp [Plain, escape_not_mem_ofInt, sign]
  · exact plain_intText number

@[simp] theorem plain_label (card : Card) : Plain card.label := by
  have all : ∀ card ∈ Card.all, Plain card.label := by decide +kernel
  exact all card (Card.mem_all card)

theorem plain_trim (plain : Plain text) : Plain (Text.trim text) := by
  intro member
  rw [Text.trim, String.toList_ofList] at member
  obtain ⟨lead, trail, around, -, -⟩ := Text.exists_around text.toList
  apply plain
  rw [around]
  simp [member]

theorem plain_intercalate {parts : List String} (apart : Plain text)
    (plain : ∀ part ∈ parts, Plain part) : Plain (text.intercalate parts) := by
  induction parts with
  | nil => simp [Plain]
  | cons part parts induction =>
      obtain ⟨first, rest⟩ := List.forall_mem_cons.mp plain
      cases parts with
      | nil => simpa using first
      | cons next parts =>
          rw [String.intercalate_cons_cons, plain_append, plain_append]
          exact ⟨⟨first, apart⟩, induction rest⟩

end Plain

/-! ## Painted lines -/

/-- A line with colours beside the same line without them. -/
def PaintedLine (painted plain : String) : Prop :=
  Painted painted.toList plain.toList

namespace PaintedLine

variable {painted plain others otherPlain text : String}

theorem refl (plain : Plain text) : PaintedLine text text :=
  Painted.refl text.toList plain

theorem append (line : PaintedLine painted plain)
    (more : PaintedLine others otherPlain) :
    PaintedLine (painted ++ others) (plain ++ otherPlain) := by
  unfold PaintedLine
  rw [String.toList_append, String.toList_append]
  exact Painted.append line more

theorem unpaint_eq (line : PaintedLine painted plain) : unpaint painted = plain := by
  rw [unpaint, Painted.unpaintChars_eq line, String.ofList_toList]

end PaintedLine

/-- A colour sequence says nothing. -/
theorem painted_sequence (parameters : List Char)
    (all : parameters.all isParameter = true) :
    Painted (escape :: '[' :: (parameters ++ ['m'])) [] :=
  .colour all .nil

theorem paintedLine_opening (paint : Paint) : PaintedLine paint.opening "" := by
  cases paint with
  | green => exact painted_sequence ['9', '2'] rfl
  | blue => exact painted_sequence ['9', '4'] rfl
  | cyan => exact painted_sequence ['9', '6'] rfl
  | yellow => exact painted_sequence ['9', '3'] rfl
  | red => exact painted_sequence ['9', '1'] rfl
  | bold => exact painted_sequence ['1'] rfl

theorem paintedLine_closing : PaintedLine Paint.closing "" :=
  painted_sequence ['0'] rfl

namespace PaintedLine

variable {text : String}

theorem paint (paint : Paint) (plain : Plain text) :
    PaintedLine (Style.paint { color := true } paint text)
      (Style.plain.paint paint text) := by
  have line := ((paintedLine_opening paint).append (refl plain)).append
    paintedLine_closing
  rwa [String.empty_append, String.append_empty] at line

/-- A painted mark in front of a text. -/
theorem marked (paint : Paint) {mark : String} (plainMark : Plain mark)
    (plain : Plain text) :
    PaintedLine (Style.paint { color := true } paint mark ++ " " ++ text)
      (Style.plain.paint paint mark ++ " " ++ text) :=
  ((PaintedLine.paint paint plainMark).append (refl (by decide))).append (refl plain)

theorem success (plain : Plain text) :
    PaintedLine (Style.success { color := true } text) (Style.plain.success text) :=
  marked .green (by decide) plain

theorem error (plain : Plain text) :
    PaintedLine (Style.error { color := true } text) (Style.plain.error text) :=
  marked .red (by decide) plain

theorem warning (plain : Plain text) :
    PaintedLine (Style.warning { color := true } text) (Style.plain.warning text) :=
  marked .yellow (by decide) plain

theorem bullet (plain : Plain text) :
    PaintedLine (Style.bullet { color := true } text) (Style.plain.bullet text) :=
  (((refl (by decide)).append (.paint .cyan (by decide))).append
    (refl (by decide))).append (refl plain)

theorem bold (plain : Plain text) :
    PaintedLine (Style.bold { color := true } text) (Style.plain.bold text) :=
  .paint .bold plain

theorem band (band : Band) :
    PaintedLine (Style.band { color := true } band) (Style.plain.band band) := by
  cases band <;> exact .paint _ (by decide)

end PaintedLine

/-- Lines with colours beside the same lines without them. -/
abbrev PaintedLines : List String → List String → Prop :=
  List.Forall₂ PaintedLine

namespace PaintedLines

variable {painted plain others otherPlain : List String}

theorem refl {lines : List String} (plain : ∀ line ∈ lines, Plain line) :
    PaintedLines lines lines :=
  List.forall₂_same.mpr fun line member => .refl (plain line member)

theorem append (lines : PaintedLines painted plain)
    (more : PaintedLines others otherPlain) :
    PaintedLines (painted ++ others) (plain ++ otherPlain) :=
  List.rel_append lines more

theorem map_unpaint_eq (lines : PaintedLines painted plain) :
    painted.map unpaint = plain := by
  induction lines with
  | nil => rfl
  | cons line _ induction => rw [List.map_cons, line.unpaint_eq, induction]

theorem plain_of_mem (lines : PaintedLines painted plain) :
    ∀ line ∈ plain, Plain line := by
  induction lines with
  | nil => nofun
  | cons line _ induction =>
      exact List.forall_mem_cons.mpr ⟨Painted.escape_not_mem line, induction⟩

end PaintedLines

/-! ## The lines of a view -/

section View

theorem plain_turnLines (turn : Option TurnDie) :
    ∀ line ∈ turnLines turn, Plain line := by
  unfold turnLines
  split
  · split
    · simp +decide
    · nofun
  · nofun

theorem paintedLines_pending {pending : PendingView}
    (title : Plain pending.prompt.title)
    (description : Plain pending.prompt.description) :
    PaintedLines (pendingLines { color := true } pending)
      (pendingLines .plain pending) := by
  refine .cons (.bold ?_) (.cons (.refl ?_) (.cons (.refl ?_) .nil))
  all_goals simp +decide [title, description]

variable {view : GameView} (plain : ∀ text ∈ view.texts, Plain text)

include plain

theorem paintedLine_counters :
    PaintedLine (countersLine { color := true } view)
      (countersLine .plain view) := by
  have tokens : Plain view.tokensName := plain _ (by simp [GameView.texts])
  have stability : Plain view.stabilityName := plain _ (by simp [GameView.texts])
  refine (PaintedLine.append (.append ?_ (.band view.band)) ?_).append ?_
  all_goals apply PaintedLine.refl
  all_goals simp +decide [tokens, stability]

theorem paintedLines_hand :
    PaintedLines (handLines { color := true } view) (handLines .plain view) := by
  unfold handLines
  split
  case h_1 pending held _ =>
    have title : Plain pending.prompt.title :=
      plain _ (by simp [GameView.texts, held])
    have description : Plain pending.prompt.description :=
      plain _ (by simp [GameView.texts, held])
    exact paintedLines_pending title description
  case h_2 =>
    apply PaintedLines.refl
    split
    · decide
    · nofun

theorem paintedLines_message :
    PaintedLines (messageLines { color := true } view)
      (messageLines .plain view) := by
  unfold messageLines
  cases ended : view.message with
  | none => exact .nil
  | some message =>
      have words : Plain message := plain _ (by simp [GameView.texts, ended])
      refine .cons ?_ (PaintedLines.refl (by decide))
      split
      · exact .success words
      · exact .error words

theorem paintedLines_view :
    PaintedLines (viewLines { color := true } view) (viewLines .plain view) := by
  have counters := paintedLine_counters plain
  have turn := PaintedLines.refl (plain_turnLines view.turn)
  have hand := paintedLines_hand plain
  have message := paintedLines_message plain
  exact (PaintedLines.append (.cons counters turn) hand).append message

end View

/-! ## The lines of a summary -/

section Summary

theorem plain_labelled {label : String} {value : Option String}
    (plainLabel : Plain label) (plain : ∀ text ∈ value.toList, Plain text) :
    ∀ line ∈ labelled label value, Plain line := by
  cases value with
  | none => nofun
  | some text => simpa [labelled, plainLabel] using plain

variable {summary : Summary} (plain : ∀ text ∈ summary.texts, Plain text)

include plain

theorem paintedLines_summary :
    PaintedLines (summaryLines { color := true } summary)
      (summaryLines .plain summary) := by
  simp only [Summary.texts, List.forall_mem_append, List.forall_mem_cons] at plain
  obtain ⟨⟨⟨⟨⟨title, author, tokens, stability, -⟩, subtitle⟩, version⟩,
    description⟩, systems⟩ := plain
  have rule : Plain (String.ofList (List.replicate 60 '=')) := by decide
  unfold summaryLines
  -- The lines come in eight groups; only four of them are ever painted.
  refine PaintedLines.append (.append (.append (.append (.append (.append
    (.append ?title (.refl ?subtitle)) (.refl ?author)) (.refl ?version))
    (.refl ?description)) ?mechanics) ?systems) ?numbers
  case title =>
    refine .cons (.refl rule) (.cons (.bold ?_) .nil)
    simp +decide [title]
  case subtitle => exact plain_labelled (by decide) subtitle
  case author => simp +decide [author]
  case version => exact plain_labelled (by decide) version
  case description =>
    cases written : summary.description with
    | none => nofun
    | some text =>
        have trimmed : Plain (Text.trim text) :=
          plain_trim (description text (by simp [written]))
        simpa [trimmed] using by decide
  case mechanics =>
    refine .cons (.refl rule) (.cons (.refl ?_) (.cons (.bold ?_) .nil))
    all_goals decide
  case systems =>
    split
    · exact .nil
    · have joined : Plain (", ".intercalate summary.systems) :=
        plain_intercalate (by decide) systems
      refine .cons (.bullet ?_) .nil
      simp +decide [joined]
  case numbers =>
    refine .cons (.bullet ?_) (.cons (.bullet ?_) (.cons (.bullet ?_)
      (.cons (.refl ?_) (.cons ?_ .nil))))
    · simp +decide [tokens]
    · simp +decide [stability]
    · split <;> decide
    · decide
    · split
      · exact .success (by simp +decide)
      · exact .warning (by simp +decide)

end Summary

/-! ## Colour on and colour off -/

/-- With colour the lines are painted, and deleting the colours leaves the lines
without colour, in which there is none to delete. -/
structure OnlyPainted (lines : Style → List String) : Prop where
  colours : ∃ line ∈ lines { color := true }, ¬ Plain line
  unpainted : (lines { color := true }).map unpaint = lines .plain
  plain : ∀ line ∈ lines .plain, Plain line

theorem not_plain_paint (paint : Paint) (text : String) :
    ¬ Plain (Style.paint { color := true } paint text) := by
  have opens : ¬ Plain paint.opening := by
    cases paint <;> decide
  simp [Style.paint, opens]

/-- Colour is only paint: where no text of a view or of a summary holds a terminal
sequence, the lines with colour are those without it once the colours are
deleted. -/
theorem colour_only_paints :
    (∀ view : GameView, (∀ text ∈ view.texts, Plain text) →
      OnlyPainted fun style => viewLines style view) ∧
      ∀ summary : Summary, (∀ text ∈ summary.texts, Plain text) →
        OnlyPainted fun style => summaryLines style summary := by
  constructor
  · intro view plain
    have lines := paintedLines_view plain
    refine ⟨?_, lines.map_unpaint_eq, lines.plain_of_mem⟩
    refine ⟨countersLine { color := true } view, List.mem_cons_self, ?_⟩
    simp [countersLine, Style.band, not_plain_paint]
  · intro summary plain
    have lines := paintedLines_summary plain
    refine ⟨?_, lines.map_unpaint_eq, lines.plain_of_mem⟩
    refine ⟨Style.bold { color := true } ("Game: " ++ summary.title), ?_,
      not_plain_paint .bold _⟩
    simp [summaryLines]

/-- A card is in hand in the middle of a turn, and the tower is about to fall. -/
def stormView : GameView where
  tokensName := "Hope [1m"
  tokens := -3
  stabilityName := "Tower"
  stability := 2
  stabilityInitial := 10
  band := .critical
  deckRemaining := 17
  phase := .cardRevealed
  turn := some { number := 4, rolled := 5, remaining := 2 }
  pending := some {
    card := ⟨.spades, .king⟩
    prompt := {
      title := "The storm"
      description := "It rains."
      tokens := -1
      blocks := 2 } }
  history := []
  status := .active
  message := none

/-- The game is over and the author has words for it. -/
def drownedView : GameView :=
  { stormView with
    pending := none
    phase := .idle
    status := .towerFallen
    message := some "The lamp drowns." }

def lighthouse : Summary where
  title := "Lighthouse"
  subtitle := some "A game for one"
  author := "Anonymous"
  version := none
  description := some "  Keep the lamp lit.\nWrite.  "
  systems := ["Tower", "Tokens"]
  tokensName := "Hope"
  tokensInitial := -3
  stabilityName := "Tower"
  stabilityInitial := 10
  danger := 5
  critical := 2
  reshuffle := true
  cardsDefined := 51
  cardsExpected := 52

theorem colour_only_paints_storm :
    ((∀ text ∈ stormView.texts, Plain text) ∧
      OnlyPainted fun style => viewLines style stormView) ∧
      ((∀ text ∈ drownedView.texts, Plain text) ∧
        OnlyPainted fun style => viewLines style drownedView) ∧
      (∀ text ∈ lighthouse.texts, Plain text) ∧
        OnlyPainted fun style => summaryLines style lighthouse := by
  have storm : ∀ text ∈ stormView.texts, Plain text := by decide
  have drowned : ∀ text ∈ drownedView.texts, Plain text := by decide
  have summary : ∀ text ∈ lighthouse.texts, Plain text := by decide
  obtain ⟨views, summaries⟩ := colour_only_paints
  exact ⟨⟨storm, views stormView storm⟩, ⟨drowned, views drownedView drowned⟩,
    summary, summaries lighthouse summary⟩

end Terminal

end SoloJournal
