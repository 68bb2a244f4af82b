import Mathlib
import SoloJournal.Proofs.Wire.Rules
import SoloJournal.Rules.Signature

/-!
# What a signature covers

The bytes that are signed tell the rulebook and the prompt of every card apart
from any others.  A value on the wire is preceded by its length, so it can be
taken off whatever stands in front of.  A card without a prompt has a byte that
a length can begin with as well; but the byte seven places further on is part of
the next name, and for a length it would be the last of its eight bytes, which
is zero for any text that can be held.
-/

namespace SoloJournal

namespace Wire

theorem compact_write_inj {α : Type} [Wire α] [LawfulWire α] {left right : α}
    (same : (write left).compact = (write right).compact) : left = right := by
  have leftRead := Json.parse?_compact (LawfulWire.plain_write left)
  have rightRead := Json.parse?_compact (LawfulWire.plain_write right)
  have written : write left = write right :=
    Option.some.inj (leftRead.symm.trans (same ▸ rightRead))
  have read := LawfulWire.read_write left
  rw [written, LawfulWire.read_write] at read
  exact (Option.some.inj read).symm

end Wire

namespace Signature

theorem textBytes_inj {left right : String}
    (same : textBytes left = textBytes right) : left = right :=
  String.toByteArray_inj.mp (ByteArray.ext (Array.toList_inj.mp same))

theorem textBytes_ofList (chars : List Char) :
    textBytes (String.ofList chars) = chars.flatMap String.utf8EncodeChar := by
  unfold textBytes
  rw [String.toByteArray_ofList, List.utf8Encode]
  simp

theorem length_textBytes_ofList (chars : List Char) :
    (textBytes (String.ofList chars)).length =
      (chars.map Char.utf8Size).sum := by
  rw [textBytes_ofList, List.length_flatMap]
  simp

/-! ## Lengths -/

theorem length_lengthBytes (length : Nat) : (lengthBytes length).length = 8 := by
  simp [lengthBytes]

/-- Two numbers with the same lowest digits leave the same remainder. -/
theorem mod_pow_eq_of_places {base left right places : Nat}
    (same : ∀ place, place < places →
      left / base ^ place % base = right / base ^ place % base) :
    left % base ^ places = right % base ^ places := by
  induction places with
  | zero => simp [Nat.mod_one]
  | succ places induction =>
      have lower := induction fun place below =>
        same place (Nat.lt_succ_of_lt below)
      rw [Nat.mod_pow_succ, Nat.mod_pow_succ, lower,
        same places (Nat.lt_succ_self places)]

theorem lengthBytes_inj {left right : Nat} (leftFits : left < 256 ^ 8)
    (rightFits : right < 256 ^ 8)
    (same : lengthBytes left = lengthBytes right) : left = right := by
  have places : ∀ place, place < 8 →
      left / 256 ^ place % 256 = right / 256 ^ place % 256 := by
    intro place below
    have bytes := List.map_inj_left.mp same place (List.mem_range.mpr below)
    simpa using congrArg UInt8.toNat bytes
  have equal := mod_pow_eq_of_places places
  rwa [Nat.mod_eq_of_lt leftFits, Nat.mod_eq_of_lt rightFits] at equal

/-! ## Measured values -/

/-- The number of bytes of a value on the wire. -/
def encodedLength {α : Type} [Wire α] (value : α) : Nat :=
  (textBytes (Wire.write value).compact).length

section

variable {α : Type} [Wire α]

theorem encodedLength_eq (value : α) :
    encodedLength value =
      (((Wire.write value).chars .compact 0).map Char.utf8Size).sum :=
  length_textBytes_ofList _

theorem measured_eq (value : α) :
    measured value =
      lengthBytes (encodedLength value)
        ++ textBytes (Wire.write value).compact :=
  rfl

/-- A measured value can be taken off whatever it stands in front of. -/
theorem measured_append_inj [LawfulWire α] {left right : α}
    {leftRest rightRest : List UInt8}
    (leftFits : encodedLength left < 256 ^ 8)
    (rightFits : encodedLength right < 256 ^ 8)
    (same : measured left ++ leftRest = measured right ++ rightRest) :
    left = right ∧ leftRest = rightRest := by
  rw [measured_eq, measured_eq, List.append_assoc, List.append_assoc] at same
  obtain ⟨lengths, bodies⟩ := List.append_inj same (by
    rw [length_lengthBytes, length_lengthBytes])
  have measure : encodedLength left = encodedLength right :=
    lengthBytes_inj leftFits rightFits lengths
  obtain ⟨texts, rests⟩ := List.append_inj bodies measure
  exact ⟨Wire.compact_write_inj (textBytes_inj texts), rests⟩

/-- The last byte of a length is zero unless the length is enormous. -/
theorem getElem?_measured_seven {value : α} (rest : List UInt8)
    (small : encodedLength value < 256 ^ 7) :
    (measured value ++ rest)[7]? = some 0 := by
  have high : encodedLength value / 256 ^ 7 = 0 := Nat.div_eq_of_lt small
  have last : (lengthBytes (encodedLength value))[7]? =
      some (UInt8.ofNat (encodedLength value / 256 ^ 7)) := by
    simp [lengthBytes]
  rw [measured_eq, List.append_assoc, List.getElem?_append_left, last, high]
  · rfl
  · rw [length_lengthBytes]
    decide

end

/-! ## Cards -/

/-- What is signed of a card after its name. -/
def promptBytes : Option Prompt → List UInt8
  | some prompt => measured prompt
  | none => [0xff]

theorem cardBytes_eq (catalog : Catalog) (card : Card) :
    cardBytes catalog card =
      textBytes card.text ++ 0 :: promptBytes (catalog.prompt? card) := by
  unfold cardBytes
  cases catalog.prompt? card <;> rfl

/-- The names of cards are long enough to reach the last byte of a length, and
have no zero there. -/
theorem getElem?_text_six (card : Card) :
    ∃ byte, (textBytes card.text)[6]? = some byte ∧ byte ≠ 0 := by
  have table : Card.all.all (fun card =>
      (textBytes card.text)[6]?.any (fun byte => byte != 0)) = true := by
    decide +kernel
  have found := List.all_eq_true.mp table card (Card.mem_all card)
  obtain ⟨byte, at_six, differs⟩ := (Option.any_eq_true _ _).mp found
  exact ⟨byte, at_six, by simpa using differs⟩

/-- A card that has no prompt is not taken for one that has. -/
theorem missing_ne_measured {prompt : Prompt}
    (small : encodedLength prompt < 256 ^ 7) (catalog : Catalog)
    (cards : List Card) (rest : List UInt8) :
    promptBytes none ++ cards.flatMap (cardBytes catalog) ≠
      measured prompt ++ rest := by
  intro same
  -- both begin with the same byte, so the eighth byte has to decide
  have zero := getElem?_measured_seven rest small
  rw [← same] at zero
  cases cards with
  | nil => simp [promptBytes] at zero
  | cons card cards =>
      obtain ⟨byte, atSix, differs⟩ := getElem?_text_six card
      have within : 6 < (textBytes card.text).length :=
        (List.getElem?_eq_some_iff.mp atSix).1
      rw [List.flatMap_cons, cardBytes_eq, promptBytes, List.append_assoc,
        List.singleton_append, List.getElem?_cons_succ,
        List.getElem?_append_left within, atSix] at zero
      exact differs (Option.some.inj zero)

/-- Content whose parts are so short that the last byte of a length is always
zero. -/
structure Holdable (rules : Rulebook) (catalog : Catalog) : Prop where
  rules : encodedLength rules < 2 ^ 56
  prompts : ∀ card prompt, catalog.prompt? card = some prompt →
    encodedLength prompt < 2 ^ 56

section

variable {leftRules rightRules : Rulebook} {left right : Catalog}

theorem promptBytes_append_inj (leftHoldable : Holdable leftRules left)
    (rightHoldable : Holdable rightRules right) (card : Card)
    {cards : List Card}
    (same :
      promptBytes (left.prompt? card) ++ cards.flatMap (cardBytes left) =
        promptBytes (right.prompt? card) ++ cards.flatMap (cardBytes right)) :
    left.prompt? card = right.prompt? card ∧
      cards.flatMap (cardBytes left) = cards.flatMap (cardBytes right) := by
  have leftSmall := leftHoldable.prompts card
  have rightSmall := rightHoldable.prompts card
  cases leftPrompt : left.prompt? card with
  | none =>
      cases rightPrompt : right.prompt? card with
      | none =>
          rw [leftPrompt, rightPrompt] at same
          exact ⟨rfl, List.append_cancel_left same⟩
      | some prompt =>
          rw [leftPrompt, rightPrompt] at same
          exact absurd same
            (missing_ne_measured (rightSmall prompt rightPrompt) left cards _)
  | some prompt =>
      have small := leftSmall prompt leftPrompt
      cases rightPrompt : right.prompt? card with
      | none =>
          rw [leftPrompt, rightPrompt] at same
          exact absurd same.symm (missing_ne_measured small right cards _)
      | some other =>
          rw [leftPrompt, rightPrompt] at same
          obtain ⟨prompts, rests⟩ := measured_append_inj
            (Nat.lt_trans small (by decide))
            (Nat.lt_trans (rightSmall other rightPrompt) (by decide)) same
          exact ⟨congrArg some prompts, rests⟩

/-- The bytes of some cards tell the prompts of these cards. -/
theorem prompt?_eq_of_cardBytes (leftHoldable : Holdable leftRules left)
    (rightHoldable : Holdable rightRules right) {cards : List Card}
    (same : cards.flatMap (cardBytes left) = cards.flatMap (cardBytes right)) :
    ∀ card, card ∈ cards → left.prompt? card = right.prompt? card := by
  induction cards with
  | nil =>
      intro card member
      cases member
  | cons card cards induction =>
      rw [List.flatMap_cons, List.flatMap_cons, cardBytes_eq, cardBytes_eq,
        List.append_assoc, List.append_assoc, List.cons_append,
        List.cons_append] at same
      have bodies := (List.cons.inj (List.append_cancel_left same)).2
      obtain ⟨first, others⟩ :=
        promptBytes_append_inj leftHoldable rightHoldable card bodies
      intro other member
      rcases List.mem_cons.mp member with same | later
      · rw [same]
        exact first
      · exact induction others other later

theorem eq_of_stream (leftHoldable : Holdable leftRules left)
    (rightHoldable : Holdable rightRules right)
    (same : stream leftRules left = stream rightRules right) :
    leftRules = rightRules ∧
      ∀ card, left.prompt? card = right.prompt? card := by
  unfold stream at same
  rw [List.append_assoc, List.append_assoc] at same
  obtain ⟨rules, cards⟩ := measured_append_inj
    (Nat.lt_trans leftHoldable.rules (by decide))
    (Nat.lt_trans rightHoldable.rules (by decide))
    (List.append_cancel_left same)
  refine ⟨rules, ?_⟩
  intro card
  exact prompt?_eq_of_cardBytes leftHoldable rightHoldable cards card
    (Card.mem_all card)

end

/-- A list with one entry for each of its cards makes the same catalog in any
order. -/
theorem ofEntries_perm {entries others : List (Card × Prompt)}
    (reordered : entries.Perm others)
    (nodup : (entries.map Prod.fst).Nodup) :
    Catalog.ofEntries entries = Catalog.ofEntries others := by
  have lookup_iff : ∀ {list : List (Card × Prompt)},
      (list.map Prod.fst).Nodup → ∀ card prompt,
        list.reverse.lookup card = some prompt ↔ (card, prompt) ∈ list := by
    intro list nodup card prompt
    have reversed : (list.reverse.map Prod.fst).Nodup := by
      rw [List.map_reverse]
      exact List.nodup_reverse.mpr nodup
    constructor
    · intro found
      obtain ⟨front, back, same, -⟩ := List.lookup_eq_some_iff.mp found
      apply List.mem_reverse.mp
      rw [same]
      simp
    · intro member
      exact lookup_of_mem reversed (List.mem_reverse.mpr member)
  have otherNodup : (others.map Prod.fst).Nodup :=
    (reordered.map Prod.fst).nodup_iff.mp nodup
  ext card prompt
  show entries.reverse.lookup card = some prompt ↔
    others.reverse.lookup card = some prompt
  rw [lookup_iff nodup, lookup_iff otherNodup]
  exact reordered.mem_iff

/-- What is signed tells contents apart.  The signed bytes of two contents are
the same just when the rulebooks are the same and the catalogs agree on every
card, a prompt that is missing included.  So a signature depends on the rulebook
and on the catalog as a map, and not on the order of a catalog's entries. -/
theorem signed_bytes_tell_apart :
    (∀ (leftRules rightRules : Rulebook) (left right : Catalog),
      Holdable leftRules left → Holdable rightRules right →
        (stream leftRules left = stream rightRules right ↔
          leftRules = rightRules ∧
            ∀ card, card ∈ Card.all →
              left.prompt? card = right.prompt? card)) ∧
      (∀ (rules : Rulebook) (left right : Catalog),
        (∀ card, card ∈ Card.all → left.prompt? card = right.prompt? card) →
          ofContent rules left = ofContent rules right) ∧
      ∀ (rules : Rulebook) (entries others : List (Card × Prompt)),
        entries.Perm others → (entries.map Prod.fst).Nodup →
          ofContent rules (.ofEntries entries) =
            ofContent rules (.ofEntries others) := by
  have ofAgreeing : ∀ left right : Catalog,
      (∀ card, card ∈ Card.all → left.prompt? card = right.prompt? card) →
        left = right :=
    fun left right agree =>
      Catalog.ext fun card => agree card (Card.mem_all card)
  refine ⟨?_, ?_, ?_⟩
  · intro leftRules rightRules left right leftHoldable rightHoldable
    constructor
    · intro same
      obtain ⟨rules, prompts⟩ := eq_of_stream leftHoldable rightHoldable same
      exact ⟨rules, fun card _ => prompts card⟩
    · rintro ⟨rfl, agree⟩
      rw [ofAgreeing left right agree]
  · intro rules left right agree
    rw [ofAgreeing left right agree]
  · intro rules entries others reordered nodup
    rw [ofEntries_perm reordered nodup]

/-- A prompt of 255 bytes: its length begins with the byte that stands for a
missing prompt. -/
def longPrompt : Prompt where
  title := "".pushn 'x' 102
  description := "".pushn 'x' 102
  tokens := 0
  blocks := 0

/-- The prompt of one card is told from no prompt at all, and two prompts may be
entered in either order. -/
theorem signed_bytes_tell_apart_long :
    (measured longPrompt).head? = some 0xff ∧
      (let rules := Rulebook.ofNumbers 5 10 .standard
      let ace : Card := ⟨.spades, .ace⟩
      let king : Card := ⟨.spades, .king⟩
      stream rules (.ofEntries [(ace, longPrompt)]) ≠
          stream rules (.ofEntries []) ∧
        ofContent rules (.ofEntries [(ace, longPrompt), (king, longPrompt)]) =
          ofContent rules
            (.ofEntries [(king, longPrompt), (ace, longPrompt)])) := by
  obtain ⟨tellsApart, -, anyOrder⟩ := signed_bytes_tell_apart
  have length : encodedLength longPrompt = 255 := by
    rw [encodedLength_eq]
    decide +kernel
  have promptFits : encodedLength longPrompt < 2 ^ 56 := by
    rw [length]
    decide
  refine ⟨by rw [measured_eq, length]; rfl, ?_⟩
  intro rules ace king
  have rulesFit : encodedLength rules < 2 ^ 56 := by
    rw [encodedLength_eq]
    decide +kernel
  have one : Holdable rules (.ofEntries [(ace, longPrompt)]) := {
    rules := rulesFit
    prompts := by
      intro card prompt entered
      have found : [(ace, longPrompt)].lookup card = some prompt := entered
      obtain ⟨front, back, same, -⟩ := List.lookup_eq_some_iff.mp found
      have member : (card, prompt) ∈ [(ace, longPrompt)] := by
        rw [same]
        simp
      obtain ⟨-, rfl⟩ := Prod.mk.inj (List.mem_singleton.mp member)
      exact promptFits }
  have none : Holdable rules (.ofEntries []) := {
    rules := rulesFit
    prompts := by
      intro card prompt entered
      cases entered }
  constructor
  · intro same
    have agree := ((tellsApart rules rules _ _ one none).mp same).2 ace
      (Card.mem_all ace)
    cases agree
  · exact anyOrder rules _ _ (.swap _ _ _) (by decide)

end Signature

end SoloJournal
