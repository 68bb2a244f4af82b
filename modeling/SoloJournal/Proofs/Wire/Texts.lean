import SoloJournal.Proofs.Wire.Play
import SoloJournal.Proofs.Wire.Rules

/-!
# Texts on the wire

Whatever has a wire form is given back by its text.  Only the counts of events
need a thought: they are natural numbers here, and a reader takes those that fit
into 64 bits.
-/

namespace SoloJournal

open Json (bind_fields?_record plain_record)

/-! ## Events -/

/-- A count that fits is read back. -/
theorem Wire.required_write_count {count : Nat} (fits : count < UInt64.size) :
    Wire.required (some (Wire.write count)) = some count :=
  if_pos fits

theorem Wire.plain_write_count (count : Nat) : (Wire.write count).Plain :=
  trivial

namespace Event

/-- The number of cards or of characters that an event counts. -/
def count? : Event → Option Nat
  | dealt deck | resumed deck _ | reshuffled deck => some deck
  | drawn _ remaining => some remaining
  | journalSaved chars => some chars
  | _ => none

/-- An event whose count fits into 64 bits. -/
def Countable (event : Event) : Prop :=
  ∀ count ∈ event.count?, count < UInt64.size

instance (event : Event) : Decidable event.Countable :=
  inferInstanceAs (Decidable (∀ count ∈ event.count?, count < UInt64.size))

/-- An event is made again from its name and what it tells. -/
theorem ofParts?_parts {event : Event} (countable : event.Countable) :
    ofParts? event.parts.1 event.parts.2 = some event := by
  cases event with
  | dealt deck | reshuffled deck =>
      have fits : deck < UInt64.size := countable deck rfl
      simp only [parts, ofParts?]
      apply (bind_fields?_record ["deck"] [Wire.write deck]
        (by decide) rfl _).trans
      simp [Wire.required_write_count fits]
  | resumed deck status =>
      have fits : deck < UInt64.size := countable deck rfl
      simp only [parts, ofParts?]
      apply (bind_fields?_record ["deck", "status"]
        [Wire.write deck, Wire.write status] (by decide) rfl _).trans
      simp [Wire.required_write_count fits]
  | turnRolled number roll =>
      simp only [parts, ofParts?]
      apply (bind_fields?_record ["number", "roll"]
        [Wire.write number, Wire.write roll] (by decide) rfl _).trans
      simp
  | turnEnded number =>
      simp only [parts, ofParts?]
      apply (bind_fields?_record ["number"] [Wire.write number]
        (by decide) rfl _).trans
      simp
  | drawn card remaining =>
      have fits : remaining < UInt64.size := countable remaining rfl
      simp only [parts, ofParts?]
      apply (bind_fields?_record ["card", "remaining"]
        [Wire.write card, Wire.write remaining] (by decide) rfl _).trans
      simp [Wire.required_write_count fits]
  | applied card tokens blocks =>
      simp only [parts, ofParts?]
      apply (bind_fields?_record ["card", "token_delta", "blocks"]
        [Wire.write card, Wire.write tokens, Wire.write blocks]
        (by decide) rfl _).trans
      simp
  | tokensChanged change | stabilityChanged change =>
      simp [parts, ofParts?]
  | pulled stability threshold rolls lost =>
      simp only [parts, ofParts?]
      apply (bind_fields?_record
        ["stability_before", "threshold", "rolls", "lost"]
        [Wire.write stability, Wire.write threshold, Wire.write rolls,
          Wire.write lost] (by decide) rfl _).trans
      simp
  | ended status =>
      simp only [parts, ofParts?]
      apply (bind_fields?_record ["status"] [Wire.write status]
        (by decide) rfl _).trans
      simp
  | journalSaved chars =>
      have fits : chars < UInt64.size := countable chars rfl
      simp only [parts, ofParts?]
      apply (bind_fields?_record ["chars"] [Wire.write chars]
        (by decide) rfl _).trans
      simp [Wire.required_write_count fits]

theorem read_write {event : Event} (countable : event.Countable) :
    Wire.read (Wire.write event) = some event :=
  ofParts?_parts countable

theorem plain_write (event : Event) : (Wire.write event).Plain := by
  have plain : event.parts.2.Plain := by
    cases event with
    | tokensChanged change | stabilityChanged change =>
        exact LawfulWire.plain_write change
    | _ =>
        apply plain_record
        simp [Wire.plain_write_count]
  exact ⟨rfl, plain, trivial⟩

end Event

/-! ## Texts -/

namespace Wire

variable {α : Type} [Wire α]

/-- A value that each of its two texts gives back. -/
def KeptByText (value : α) : Prop :=
  (Json.parse? (write value).compact).bind read = some value ∧
    (Json.parse? (write value).indented).bind read = some value

theorem keptByText_of_read {value : α} (plain : (write value).Plain)
    (readBack : read (write value) = some value) : KeptByText value := by
  unfold KeptByText
  rw [Json.parse?_compact plain, Json.parse?_indented plain]
  exact ⟨readBack, readBack⟩

theorem keptByText_of_lawful [LawfulWire α] (value : α) : KeptByText value :=
  keptByText_of_read (LawfulWire.plain_write value) (LawfulWire.read_write value)

/-- Rulebooks, prompts, cards, histories, turns, statuses, bands of danger,
ledgers and events are given back by their texts: with every number, with every
string whatever its characters, with absent values apart from those that are
there, and each under the name that it has on the wire. -/
theorem all_kept_by_text :
    (∀ rules : Rulebook, KeptByText rules) ∧
    (∀ prompt : Prompt, KeptByText prompt) ∧
    (∀ card : Card, KeptByText card) ∧
    (∀ history : History, KeptByText history) ∧
    (∀ turn : TurnDie, KeptByText turn) ∧
    (∀ status : Status, KeptByText status) ∧
    (∀ band : Band, KeptByText band) ∧
    (∀ ledger : Ledger, KeptByText ledger) ∧
    (∀ event : Event, event.Countable → KeptByText event) := by
  refine ⟨keptByText_of_lawful, keptByText_of_lawful, keptByText_of_lawful,
    keptByText_of_lawful, keptByText_of_lawful, keptByText_of_lawful,
    keptByText_of_lawful, keptByText_of_lawful, ?_⟩
  intro event countable
  exact keptByText_of_read event.plain_write (Event.read_write countable)

/-- The largest count, and a subtitle that is absent in one rulebook and empty
in another.  Endings and prompts have names of their own for what they hold. -/
theorem all_kept_by_text_largest :
    let ending : Ending := ⟨.stabilityZero, "It \"fell\".\n"⟩
    let prompt : Prompt := ⟨"Nuée", "", -3, 2⟩
    let rules : Rulebook :=
      { Rulebook.ofNumbers (-3) 10 .standard with
        endings := { win := [], lose := [ending] } }
    let subtitled : Rulebook :=
      { rules with game := { rules.game with subtitle := some "" } }
    let event : Event := .drawn ⟨.hearts, .ten⟩ 18446744073709551615
    ((write ending).compact =
        "\x7b\"type\":\"stability_zero\",\"message\":\"It \\\"fell\\\".\\n\"\x7d" ∧
      (write prompt).compact =
        "\x7b\"title\":\"Nuée\",\"description\":\"\",\"tokens\":-3,\"blocks\":2\x7d") ∧
      rules ≠ subtitled ∧ KeptByText rules ∧ KeptByText subtitled ∧
      KeptByText prompt ∧ event.Countable ∧ KeptByText event := by
  intro ending prompt rules subtitled event
  obtain ⟨rulebooks, prompts, -, -, -, -, -, -, events⟩ := all_kept_by_text
  have countable : event.Countable := by decide
  exact ⟨by decide +kernel, by decide, rulebooks rules, rulebooks subtitled,
    prompts prompt, countable, events event countable⟩

end Wire

end SoloJournal
