import SoloJournal.Proofs.Wire.Play
import SoloJournal.Save.SavedGame

/-!
# Taking back a saved game

The text of any saved game spells that saved game.  So what becomes of it is
decided by its version first and by its flaws then, and by nothing else.
-/

namespace SoloJournal.SavedGame

open Json (fields?_record plain_record)

/-- A saved game as it is written, but with any number of cards for its
history. -/
def written (history : List Card) (saved : SavedGame) : Json :=
  .record
    [("version", Wire.write saved.version), ("tokens", Wire.write saved.tokens),
      ("stability", Wire.write saved.stability), ("deck", Wire.write saved.deck),
      ("history", Wire.write history), ("pending", Wire.write saved.pending),
      ("status", Wire.write saved.status), ("journal", .string saved.journal),
      ("turn", Wire.write saved.turn),
      ("content_signature", .string saved.signature)]

theorem fields?_written (history : List Card) (saved : SavedGame) :
    (written history saved).fields?
        ["version", "tokens", "stability", "deck", "history", "pending",
          "status", "journal", "turn", "content_signature"] =
      some
        [some (Wire.write saved.version), some (Wire.write saved.tokens),
          some (Wire.write saved.stability), some (Wire.write saved.deck),
          some (Wire.write history), some (Wire.write saved.pending),
          some (Wire.write saved.status), some (Wire.write saved.journal),
          some (Wire.write saved.turn), some (Wire.write saved.signature)] :=
  fields?_record
    ["version", "tokens", "stability", "deck", "history", "pending",
      "status", "journal", "turn", "content_signature"]
    [Wire.write saved.version, Wire.write saved.tokens,
      Wire.write saved.stability, Wire.write saved.deck,
      Wire.write history, Wire.write saved.pending,
      Wire.write saved.status, Wire.write saved.journal,
      Wire.write saved.turn, Wire.write saved.signature]
    (by decide) rfl

/-- However many cards are listed as a history, the first ten are read. -/
theorem read_written (history : List Card) (saved : SavedGame) :
    Wire.read (written history saved) =
      some { saved with history := History.ofList history } := by
  have fields := fields?_written history saved
  have listed : Wire.withDefault History.empty (some (Wire.write history)) =
      some (History.ofList history) := by
    show (Wire.read (Wire.write history)).map History.ofList = _
    rw [LawfulWire.read_write, Option.map_some]
  simp [Wire.read, fields, listed]

theorem plain_written (history : List Card) (saved : SavedGame) :
    (written history saved).Plain := by
  have journal : (Json.string saved.journal).Plain :=
    LawfulWire.plain_write saved.journal
  have signature : (Json.string saved.signature).Plain :=
    LawfulWire.plain_write saved.signature
  refine plain_record ?_
  simp [journal, signature]

instance : LawfulWire SavedGame where
  read_write saved := by
    have read := read_written saved.history.cards saved
    rwa [History.ofList_cards] at read
  plain_write saved := plain_written saved.history.cards saved

/-- A text that lists any number of cards as the history of a saved game. -/
theorem read_indented (history : List Card) (saved : SavedGame) :
    (Json.parse? (written history saved).indented).bind Wire.read =
      some { saved with history := History.ofList history } := by
  rw [Json.parse?_indented (plain_written history saved)]
  exact read_written history saved

theorem read_toText (saved : SavedGame) :
    (Json.parse? saved.toText).bind Wire.read = some saved := by
  have read := read_indented saved.history.cards saved
  rwa [History.ofList_cards] at read

/-- A text that spells a saved game is taken back unless its version is another
one or the saved game has a flaw, in this order. -/
theorem ofText_of_read {text : String} {saved : SavedGame}
    (spelled : (Json.parse? text).bind Wire.read = some saved) :
    ofText text =
      if saved.version ≠ currentVersion then
        .error (.unsupportedVersion saved.version)
      else
        match saved.flaw? with
        | some flaw => .error flaw
        | none => .ok saved := by
  unfold ofText
  generalize ((Json.parse? text).bind Wire.read : Option SavedGame) = found
    at spelled ⊢
  subst spelled
  rfl

theorem ofText_toText (saved : SavedGame) :
    ofText saved.toText =
      if saved.version ≠ currentVersion then
        .error (.unsupportedVersion saved.version)
      else
        match saved.flaw? with
        | some flaw => .error flaw
        | none => .ok saved :=
  ofText_of_read (read_toText saved)

/-- What is taken back is what the text spells, and it is of the current
version and without a flaw. -/
theorem ofText_eq_ok_iff {text : String} {saved : SavedGame} :
    ofText text = .ok saved ↔
      (Json.parse? text).bind Wire.read = some saved ∧
        saved.version = currentVersion ∧ saved.flaw? = none := by
  cases spelled : ((Json.parse? text).bind Wire.read : Option SavedGame) with
  | none => simp [ofText, spelled]
  | some found =>
      rw [ofText_of_read spelled]
      by_cases current : found.version = currentVersion
      · cases flaw : found.flaw? with
        | none =>
            simp only [current, ne_eq, not_true_eq_false, if_false,
              Except.ok.injEq, Option.some.injEq]
            constructor
            · rintro rfl
              exact ⟨rfl, current, flaw⟩
            · exact And.left
        | some error =>
            simp only [current, ne_eq, not_true_eq_false, if_false, reduceCtorEq,
              Option.some.injEq, false_iff]
            rintro ⟨rfl, -, flawless⟩
            exact absurd (flaw.symm.trans flawless) (Option.some_ne_none error)
      · simp only [ne_eq, current, not_false_eq_true, if_true, reduceCtorEq,
          Option.some.injEq, false_iff]
        rintro ⟨rfl, same, -⟩
        exact current same

theorem ofText_toText_of_flawless {saved : SavedGame}
    (current : saved.version = currentVersion) (flawless : saved.flaw? = none) :
    ofText saved.toText = .ok saved :=
  ofText_eq_ok_iff.mpr ⟨read_toText saved, current, flawless⟩

theorem message_unsupportedVersion (found : UInt32) :
    (SaveError.unsupportedVersion found).message =
      "unsupported save version " ++ Decimal.natText found.toNat
        ++ " (expected 1)" := by
  have one : Decimal.natText currentVersion.toNat = "1" := by decide +kernel
  have tail : " (expected " ++ ("1" ++ ")") = " (expected 1)" := by
    decide +kernel
  calc
    (SaveError.unsupportedVersion found).message =
        "unsupported save version " ++ Decimal.natText found.toNat
          ++ " (expected " ++ Decimal.natText currentVersion.toNat ++ ")" := rfl
    _ = "unsupported save version " ++ Decimal.natText found.toNat
          ++ " (expected 1)" := by
      rw [one, String.append_assoc, String.append_assoc, tail]

/-- The text of any saved game is refused for another version than the first,
then for its flaw, and is otherwise taken back as it is.  Whatever the text that
is taken back, it gives a saved game of the first version, without a flaw and
with a history of at most ten cards, and the text of that saved game is taken
back as it is.  Where a text lists more cards as a history, the first ten
count. -/
theorem text_taken_back :
    (∀ saved : SavedGame,
      ofText saved.toText =
        if saved.version ≠ 1 then .error (.unsupportedVersion saved.version)
        else
          match saved.flaw? with
          | some flaw => .error flaw
          | none => .ok saved) ∧
      (∀ found : UInt32,
        (SaveError.unsupportedVersion found).message =
          "unsupported save version " ++ Decimal.natText found.toNat
            ++ " (expected 1)") ∧
      (∀ (text : String) (saved : SavedGame), ofText text = .ok saved →
        saved.version = 1 ∧ saved.flaw? = none ∧
          saved.history.cards.length ≤ 10 ∧
          ofText saved.toText = .ok saved) ∧
      ∀ (history : List Card) (saved : SavedGame),
        ofText (written history saved).indented =
          ofText (written (history.take 10) saved).indented := by
  refine ⟨ofText_toText, message_unsupportedVersion, ?_, ?_⟩
  · intro text saved taken
    obtain ⟨-, current, flawless⟩ := ofText_eq_ok_iff.mp taken
    exact ⟨current, flawless, saved.history.length_le,
      ofText_toText_of_flawless current flawless⟩
  · intro history saved
    have same : History.ofList history = History.ofList (history.take 10) := by
      ext1
      simp [History.ofList, History.limit, List.take_take]
    rw [ofText_of_read (read_indented history saved), same,
      ← ofText_of_read (read_indented (history.take 10) saved)]

/-- A saved game in the middle of its second turn. -/
def secondTurn : SavedGame where
  version := 1
  tokens := 5
  stability := 10
  deck := [⟨.spades, .ace⟩, ⟨.hearts, .two⟩]
  history := History.empty
  pending := some ⟨.clubs, .king⟩
  status := .active
  journal := "\"Rain\",\n I wrote."
  turn := some ⟨2, 4, 3⟩
  signature := ""

/-- Of a history of eleven cards ten are left, and they are kept from then
on. -/
theorem text_taken_back_cut :
    ∃ saved, ofText (written (Card.all.take 11) secondTurn).indented = .ok saved ∧
      saved.history.cards = Card.all.take 10 ∧
      ofText saved.toText = .ok saved := by
  obtain ⟨-, -, accepted, -⟩ := text_taken_back
  have taken : ofText (written (Card.all.take 11) secondTurn).indented =
      .ok { secondTurn with history := History.ofList (Card.all.take 11) } :=
    ofText_eq_ok_iff.mpr ⟨read_indented _ _, rfl, by decide⟩
  exact ⟨_, taken, rfl, (accepted _ _ taken).2.2.2⟩

end SoloJournal.SavedGame
