import SoloJournal.Proofs.Resuming
import SoloJournal.Proofs.Signing

/-!
# One byte changes the signature

Taking a byte into a hash loses nothing: the byte is mixed in by an exclusive or
and the product with an odd number can be undone.  So two hashes that have once
become different stay different as long as the same bytes follow, and the digits
of a hash tell it from any other.
-/

namespace SoloJournal

/-! ## One place -/

/-- Two lists of the same length that differ at one place and at no other. -/
def DifferOnce {α : Type} (left right : List α) : Prop :=
  left.length = right.length ∧ ∃! place : Nat, left[place]? ≠ right[place]?

theorem differOnce_iff {α : Type} {left right : List α} :
    DifferOnce left right ↔
      ∃ front old new back, old ≠ new ∧ left = front ++ old :: back ∧
        right = front ++ new :: back := by
  constructor
  · rintro ⟨sameLength, place, differs, only⟩
    have elsewhere : ∀ other, other ≠ place → left[other]? = right[other]? :=
      fun other apart => by_contra fun unlike => apart (only other unlike)
    have within : place < left.length := by
      by_contra beyond
      have leftEnds := List.getElem?_eq_none (Nat.not_lt.mp beyond)
      have rightEnds := List.getElem?_eq_none
        (sameLength ▸ Nat.not_lt.mp beyond)
      exact differs (leftEnds.trans rightEnds.symm)
    have rightWithin : place < right.length := sameLength ▸ within
    refine ⟨left.take place, left[place], right[place], left.drop (place + 1),
      ?_, ?_, ?_⟩
    · simpa [within, rightWithin] using differs
    · simp
    · have fronts : left.take place = right.take place := by
        apply List.ext_getElem?
        intro other
        by_cases before : other < place
        · simpa [List.getElem?_take, before] using
            elsewhere other (Nat.ne_of_lt before)
        · simp [before]
      have backs : left.drop (place + 1) = right.drop (place + 1) := by
        apply List.ext_getElem?
        intro other
        rw [List.getElem?_drop, List.getElem?_drop]
        exact elsewhere _ (by omega)
      rw [fronts, backs, List.cons_getElem_drop_succ, List.take_append_drop]
  · rintro ⟨front, old, new, back, differs, rfl, rfl⟩
    refine ⟨by simp, front.length, by simpa using differs, ?_⟩
    intro other unlike
    by_contra apart
    apply unlike
    rcases Nat.lt_or_gt_of_ne apart with before | behind
    · rw [List.getElem?_append_left before, List.getElem?_append_left before]
    · obtain ⟨further, rfl⟩ := Nat.exists_eq_add_of_lt behind
      simp [List.getElem?_append_right, Nat.add_assoc]

namespace DifferOnce

variable {α : Type} {left right : List α}

/-- Putting the same around two lists does not change where they differ. -/
theorem within (once : DifferOnce left right) (front back : List α) :
    DifferOnce (front ++ left ++ back) (front ++ right ++ back) := by
  obtain ⟨before, old, new, after, differs, rfl, rfl⟩ := differOnce_iff.mp once
  exact differOnce_iff.mpr
    ⟨front ++ before, old, new, after ++ back, differs, by simp, by simp⟩

end DifferOnce

namespace Signature

/-! ## Hashes -/

/-- A product with the multiplier of the hash can be undone. -/
theorem mul_prime_inj {left right : UInt64}
    (same : left * 0x100000001b3 = right * 0x100000001b3) : left = right := by
  have unit : (0x100000001b3 : UInt64) * 0xce965057aff6957b = 1 := by decide
  have undone := congrArg (· * (0xce965057aff6957b : UInt64)) same
  simpa only [UInt64.mul_assoc, unit, UInt64.mul_one] using undone

theorem hashByte_inj {left right : UInt64} {byte : UInt8}
    (same : hashByte left byte = hashByte right byte) : left = right :=
  (UInt64.xor_left_inj _).mp (mul_prime_inj same)

theorem hashByte_byte_inj {hash : UInt64} {left right : UInt8}
    (same : hashByte hash left = hashByte hash right) : left = right :=
  UInt8.toUInt64_inj.mp ((UInt64.xor_right_inj _).mp (mul_prime_inj same))

/-- The same bytes keep different hashes apart. -/
theorem foldl_hashByte_inj {left right : UInt64} {bytes : List UInt8}
    (same : bytes.foldl hashByte left = bytes.foldl hashByte right) :
    left = right := by
  induction bytes generalizing left right with
  | nil => exact same
  | cons byte bytes induction => exact hashByte_inj (induction same)

theorem foldl_hashByte_ne (start : UInt64) {left right : List UInt8}
    (once : DifferOnce left right) :
    left.foldl hashByte start ≠ right.foldl hashByte start := by
  obtain ⟨front, old, new, back, differs, rfl, rfl⟩ := differOnce_iff.mp once
  rw [List.foldl_append, List.foldl_append, List.foldl_cons, List.foldl_cons]
  exact fun same => differs (hashByte_byte_inj (foldl_hashByte_inj same))

/-! ## Digits -/

theorem length_hexText (word : UInt64) : (hexText word).length = 16 := by
  simp [hexText]

/-- A decimal digit or one of the letters up to `f`, which are small. -/
def IsHexDigit (char : Char) : Prop :=
  ('0' ≤ char ∧ char ≤ '9') ∨ ('a' ≤ char ∧ char ≤ 'f')

theorem isHexDigit_hexDigit (digit : Nat) :
    IsHexDigit (Json.hexDigit digit) := by
  have table : ∀ small, small < 16 → IsHexDigit (Nat.digitChar small) := by
    unfold IsHexDigit
    decide
  exact table (digit % 16) (Nat.mod_lt digit (by decide))

theorem isHexDigit_of_mem_hexText {word : UInt64} {char : Char}
    (member : char ∈ (hexText word).toList) : IsHexDigit char := by
  rw [hexText, String.toList_ofList] at member
  obtain ⟨place, -, rfl⟩ := List.mem_map.mp member
  exact isHexDigit_hexDigit _

/-- No two words have the same digits. -/
theorem hexText_inj {left right : UInt64} (same : hexText left = hexText right) :
    left = right := by
  have digits := String.ofList_injective same
  have places : ∀ place, place < 16 →
      left.toNat / 16 ^ place % 16 = right.toNat / 16 ^ place % 16 := by
    intro place below
    have mirrored : 15 - (15 - place) = place := by omega
    have digit := List.map_inj_left.mp digits (15 - place)
      (List.mem_range.mpr (by omega))
    have values := congrArg hexValue? digit
    rw [hexValue?_hexDigit, hexValue?_hexDigit, mirrored] at values
    exact Option.some.inj values
  have equal := mod_pow_eq_of_places places
  have size : (16 : Nat) ^ 16 = 2 ^ 64 := by decide
  rw [size, Nat.mod_eq_of_lt left.toNat_lt,
    Nat.mod_eq_of_lt right.toNat_lt] at equal
  exact UInt64.toNat_inj.mp equal

theorem ofContent_ne {leftRules rightRules : Rulebook} {left right : Catalog}
    (once : DifferOnce (stream leftRules left) (stream rightRules right)) :
    ofContent leftRules left ≠ ofContent rightRules right :=
  fun same => foldl_hashByte_ne _ once (hexText_inj same)

end Signature

/-! ## Edits -/

/-- Two texts, of which one has a letter or a digit of the other replaced. -/
inductive Retouched : List Char → List Char → Prop where
  | replaced (front : List Char) (old new : Char) (back : List Char) :
      old ≠ new → old.isAlphanum = true → new.isAlphanum = true →
      Retouched (front ++ old :: back) (front ++ new :: back)

/-- Letters and digits take a single byte and are no control characters. -/
theorem toNat_of_isAlphanum {char : Char} (plain : char.isAlphanum = true) :
    0x30 ≤ char.toNat ∧ char.toNat < 0x80 := by
  simp only [Char.isAlphanum, Char.isAlpha, Char.isUpper, Char.isLower,
    Char.isDigit, Bool.or_eq_true, Bool.and_eq_true, decide_eq_true_eq,
    ge_iff_le, UInt32.le_iff_toNat_le] at plain
  have code : char.toNat = char.val.toNat := rfl
  simp at plain
  omega

theorem escape_of_isAlphanum {char : Char} (plain : char.isAlphanum = true) :
    Json.escape char = [char] := by
  have printed : ¬ char.toNat < 0x20 := by
    have above := (toNat_of_isAlphanum plain).1
    omega
  have differs : ∀ other : Char, other.isAlphanum = false → char ≠ other := by
    intro other special same
    rw [same, special] at plain
    exact Bool.false_ne_true plain
  simp [Json.escape, printed, differs]

namespace Retouched

variable {left right : List Char}

theorem within (retouched : Retouched left right) (front back : List Char) :
    Retouched (front ++ left ++ back) (front ++ right ++ back) := by
  cases retouched with
  | replaced before old new after differs plain plainNew =>
      simpa using Retouched.replaced (front ++ before) old new (after ++ back)
        differs plain plainNew

theorem quoted {left right : String}
    (retouched : Retouched left.toList right.toList) :
    Retouched (Json.quoted left) (Json.quoted right) := by
  unfold Json.quoted
  generalize left.toList = left at retouched
  generalize right.toList = right at retouched
  cases retouched with
  | replaced before old new after differs plain plainNew =>
      have around := Retouched.replaced ('"' :: before.flatMap Json.escape)
        old new (after.flatMap Json.escape ++ ['"']) differs plain plainNew
      simpa [escape_of_isAlphanum plain, escape_of_isAlphanum plainNew]
        using around

theorem differOnce (retouched : Retouched left right) :
    DifferOnce (Signature.textBytes (String.ofList left))
      (Signature.textBytes (String.ofList right)) := by
  have single : ∀ char : Char, char.isAlphanum = true →
      String.utf8EncodeChar char = [char.val.toUInt8] := by
    intro char plain
    have small := (toNat_of_isAlphanum plain).2
    exact String.utf8EncodeChar_eq_singleton
      (Char.utf8Size_eq_one_iff.mpr (Nat.le_of_lt_succ small))
  cases retouched with
  | replaced front old new back differs plain plainNew =>
      have bytes : old.val.toUInt8 ≠ new.val.toUInt8 := by
        intro same
        have small := (toNat_of_isAlphanum plain).2
        have smallNew := (toNat_of_isAlphanum plainNew).2
        have codes : old.toNat % 256 = new.toNat % 256 :=
          congrArg UInt8.toNat same
        exact differs (Char.toNat_inj.mp (by omega))
      refine differOnce_iff.mpr
        ⟨front.flatMap String.utf8EncodeChar, old.val.toUInt8, new.val.toUInt8,
          back.flatMap String.utf8EncodeChar, bytes, ?_, ?_⟩
      · rw [Signature.textBytes_ofList, List.flatMap_append, List.flatMap_cons,
          single old plain, List.singleton_append]
      · rw [Signature.textBytes_ofList, List.flatMap_append, List.flatMap_cons,
          single new plainNew, List.singleton_append]

end Retouched

namespace Json

/-- An item of an array stands between characters that do not depend on it. -/
theorem itemChars_around (layout : Layout) (depth : Nat) (first : Bool)
    (before after : List Json) :
    ∃ front back, ∀ value,
      itemChars layout depth first (before ++ value :: after) =
        front ++ chars layout (depth + 1) value ++ back := by
  induction before generalizing first with
  | nil =>
      refine ⟨(if first then [] else [',']) ++ lineStart layout (depth + 1),
        itemChars layout depth false after, fun value => ?_⟩
      rw [List.nil_append, itemChars]
  | cons item before induction =>
      obtain ⟨front, back, same⟩ := induction false
      refine ⟨(if first then [] else [',']) ++ lineStart layout (depth + 1)
        ++ chars layout (depth + 1) item ++ front, back, fun value => ?_⟩
      rw [List.cons_append, itemChars, same]
      simp only [List.append_assoc]

theorem memberChars_around (layout : Layout) (depth : Nat) (first : Bool)
    (name : Option String) (before after : List (Option String × Json)) :
    ∃ front back, ∀ value,
      memberChars layout depth first (before ++ (name, value) :: after) =
        front ++ chars layout (depth + 1) value ++ back := by
  induction before generalizing first with
  | nil =>
      refine ⟨(if first then [] else [',']) ++ lineStart layout (depth + 1)
        ++ nameText name ++ colon layout,
        memberChars layout depth false after, fun value => ?_⟩
      rw [List.nil_append, memberChars]
  | cons member before induction =>
      obtain ⟨front, back, same⟩ := induction false
      obtain ⟨other, content⟩ := member
      refine ⟨(if first then [] else [',']) ++ lineStart layout (depth + 1)
        ++ nameText other ++ colon layout ++ chars layout (depth + 1) content
        ++ front, back, fun value => ?_⟩
      rw [List.cons_append, memberChars, same]
      simp only [List.append_assoc]

/-- Two values, of which one has a letter of a string or a digit of a number of
the other replaced, however deep inside. -/
inductive Edited : Json → Json → Prop where
  | string {left right : String} :
      Retouched left.toList right.toList → Edited (.string left) (.string right)
  | int {left right : Int} :
      Retouched (Decimal.ofInt left) (Decimal.ofInt right) →
      Edited (.int left) (.int right)
  | item (before : List Json) {old new : Json} (after : List Json) :
      Edited old new →
      Edited (.array (before ++ old :: after)) (.array (before ++ new :: after))
  | member (before : List (Option String × Json)) (name : Option String)
      {old new : Json} (after : List (Option String × Json)) :
      Edited old new →
      Edited (.object (before ++ (name, old) :: after))
        (.object (before ++ (name, new) :: after))

/-- An edit inside a value is one in its text. -/
theorem Edited.retouched {left right : Json} (edited : Edited left right)
    (layout : Layout) (depth : Nat) :
    Retouched (chars layout depth left) (chars layout depth right) := by
  induction edited generalizing depth with
  | string retouched =>
      rw [chars, chars]
      exact retouched.quoted
  | int retouched =>
      rw [chars, chars]
      exact retouched
  | item before after edited induction =>
      obtain ⟨front, back, same⟩ :=
        itemChars_around layout depth true before after
      rw [chars, chars, same, same]
      simpa using (induction (depth + 1)).within ('[' :: front) (back ++ [']'])
  | member before name after edited induction =>
      obtain ⟨front, back, same⟩ :=
        memberChars_around layout depth true name before after
      rw [chars, chars, same, same]
      simpa using (induction (depth + 1)).within ('{' :: front) (back ++ ['}'])

end Json

namespace Catalog

/-- A catalog with another prompt for one card. -/
def revised (catalog : Catalog) (card : Card) (prompt : Prompt) : Catalog :=
  { prompt? := fun other =>
      if other = card then some prompt else catalog.prompt? other }

@[simp] theorem prompt?_revised (catalog : Catalog) (card : Card)
    (prompt : Prompt) :
    (catalog.revised card prompt).prompt? card = some prompt :=
  if_pos rfl

theorem prompt?_revised_of_ne (catalog : Catalog) {card other : Card}
    (prompt : Prompt) (apart : other ≠ card) :
    (catalog.revised card prompt).prompt? other = catalog.prompt? other :=
  if_neg apart

end Catalog

namespace Signature

/-- An edit of a rulebook or of the prompt of one card. -/
inductive Edit : Rulebook × Catalog → Rulebook × Catalog → Prop where
  | rules {old new : Rulebook} (catalog : Catalog) :
      Json.Edited (Wire.write old) (Wire.write new) →
      Edit (old, catalog) (new, catalog)
  | prompt (rules : Rulebook) {catalog : Catalog} {card : Card}
      {old new : Prompt} :
      catalog.prompt? card = some old →
      Json.Edited (Wire.write old) (Wire.write new) →
      Edit (rules, catalog) (rules, catalog.revised card new)

/-- An edited value has a text of the same length, so only one byte changes. -/
theorem measured_differOnce {α : Type} [Wire α] {old new : α}
    (edited : Json.Edited (Wire.write old) (Wire.write new)) :
    DifferOnce (measured old) (measured new) := by
  have once : DifferOnce (textBytes (Wire.write old).compact)
      (textBytes (Wire.write new).compact) :=
    (edited.retouched .compact 0).differOnce
  have sameLength : encodedLength old = encodedLength new := once.1
  rw [measured_eq, measured_eq, sameLength]
  simpa using once.within (lengthBytes (encodedLength new)) []

theorem cardBytes_differOnce {catalog : Catalog} {card : Card}
    {old new : Prompt} (held : catalog.prompt? card = some old)
    (edited : Json.Edited (Wire.write old) (Wire.write new)) :
    DifferOnce (cardBytes catalog card)
      (cardBytes (catalog.revised card new) card) := by
  have around :=
    (measured_differOnce edited).within (textBytes card.text ++ [0]) []
  rw [List.append_nil, List.append_nil, List.append_assoc,
    List.append_assoc] at around
  rw [cardBytes_eq, cardBytes_eq, held, Catalog.prompt?_revised]
  exact around

theorem flatMap_cardBytes_revised (catalog : Catalog) {card : Card}
    (prompt : Prompt) {cards : List Card} (absent : card ∉ cards) :
    cards.flatMap (cardBytes (catalog.revised card prompt)) =
      cards.flatMap (cardBytes catalog) := by
  apply List.flatMap_congr
  intro other member
  have apart : other ≠ card := fun same => absent (same ▸ member)
  rw [cardBytes_eq, cardBytes_eq,
    Catalog.prompt?_revised_of_ne catalog prompt apart]

theorem stream_differOnce {left right : Rulebook × Catalog}
    (edit : Edit left right) :
    DifferOnce (stream left.1 left.2) (stream right.1 right.2) := by
  cases edit with
  | rules catalog edited =>
      exact (measured_differOnce edited).within _ _
  | @prompt rules catalog card old new held edited =>
      obtain ⟨before, after, all⟩ := List.append_of_mem (Card.mem_all card)
      have nodup := Card.nodup_all
      rw [all] at nodup
      have absent := List.nodup_middle.mp nodup |> List.nodup_cons.mp |>.1
      rw [List.mem_append, not_or] at absent
      simp only [stream, all, List.flatMap_append, List.flatMap_cons,
        flatMap_cardBytes_revised catalog new absent.1,
        flatMap_cardBytes_revised catalog new absent.2]
      simpa using (cardBytes_differOnce held edited).within
        (textBytes "wretched-save-signature-v1" ++ measured rules
          ++ before.flatMap (cardBytes catalog))
        (after.flatMap (cardBytes catalog))

end Signature

namespace Prompt

theorem edited_title (prompt : Prompt) {title : String}
    (retouched : Retouched prompt.title.toList title.toList) :
    Json.Edited (Wire.write prompt)
      (Wire.write { prompt with title := title }) :=
  .member [] (some "title") _ (.string retouched)

theorem edited_tokens (prompt : Prompt) {tokens : Int64}
    (retouched : Retouched (Decimal.ofInt prompt.tokens.toInt)
      (Decimal.ofInt tokens.toInt)) :
    Json.Edited (Wire.write prompt)
      (Wire.write { prompt with tokens := tokens }) :=
  .member [(some "title", _), (some "description", _)] (some "tokens") _
    (.int retouched)

end Prompt

theorem Rulebook.edited_title (rules : Rulebook) {title : String}
    (retouched : Retouched rules.game.title.toList title.toList) :
    Json.Edited (Wire.write rules)
      (Wire.write { rules with game := { rules.game with title := title } }) :=
  .member [] (some "game") _ (.member [] (some "title") _ (.string retouched))

/-! ## Saved games -/

namespace Content

theorem signature_sign (rules : Rulebook) (catalog : Catalog) :
    (sign rules catalog).signature = Signature.ofContent rules catalog :=
  rfl

theorem signature_ne_empty (content : Content) : content.signature ≠ "" := by
  intro empty
  have sixteen := Signature.length_hexText
    (Signature.hashBytes (Signature.stream content.rules content.catalog))
  rw [content.signature_eq, Signature.ofContent] at empty
  rw [empty] at sixteen
  exact absurd sixteen (by decide)

end Content

namespace Game

variable {σ : Type}

/-- A game is not gone on with under another signature than its own. -/
theorem resume_saved_eq_error (game : Game σ) {other : Content}
    (differs : game.content.signature ≠ other.signature) (source : σ) :
    resume other game.saved source =
      .error (.otherContent game.content.signature other.signature) :=
  if_pos ⟨game.content.signature_ne_empty, differs⟩

end Game

namespace Signature

/-- Bytes that differ at one place have different hashes, whatever they are
taken into, and contents whose signed bytes differ at one place have different
signatures.  Such are two contents that differ in one letter or digit of what
an author wrote.  A signature is sixteen small hexadecimal digits, so every
saved game is signed and is not gone on with under another signature. -/
theorem one_byte_changes_signature {σ : Type} :
    (∀ (start : UInt64) (left right : List UInt8), DifferOnce left right →
      left.foldl hashByte start ≠ right.foldl hashByte start) ∧
    (∀ (leftRules rightRules : Rulebook) (left right : Catalog),
      DifferOnce (stream leftRules left) (stream rightRules right) →
      ofContent leftRules left ≠ ofContent rightRules right) ∧
    (∀ left right : Rulebook × Catalog, Edit left right →
      DifferOnce (stream left.1 left.2) (stream right.1 right.2) ∧
      ofContent left.1 left.2 ≠ ofContent right.1 right.2) ∧
    (∀ (rules : Rulebook) (catalog : Catalog),
      (ofContent rules catalog).length = 16 ∧
      ∀ char ∈ (ofContent rules catalog).toList, IsHexDigit char) ∧
    (∀ (game : Game σ) (other : Content) (source : σ),
      game.saved.signature ≠ "" ∧
      (game.content.signature ≠ other.signature →
        Game.resume other game.saved source =
          .error (.otherContent game.content.signature other.signature))) := by
  refine ⟨fun start left right => foldl_hashByte_ne start,
    fun leftRules rightRules left right => ofContent_ne, ?_, ?_, ?_⟩
  · intro left right edit
    have once := stream_differOnce edit
    exact ⟨once, ofContent_ne once⟩
  · intro rules catalog
    exact ⟨length_hexText _, fun char => isHexDigit_of_mem_hexText⟩
  · intro game other source
    exact ⟨game.content.signature_ne_empty,
      fun differs => game.resume_saved_eq_error differs source⟩

/-- A prompt with a name and an effect on the tokens. -/
def stormPrompt : Prompt where
  title := "Storm"
  description := ""
  tokens := 1
  blocks := 0

/-- A letter in the name of a game or of a card, or a digit of what a card adds
to the tokens, changes the signature, and a game is not gone on with. -/
theorem one_byte_changes_signature_storm :
    let rules := Rulebook.ofNumbers 5 10 .standard
    let renamed := { rules with game := { rules.game with title := "Entitled" } }
    let ace : Card := ⟨.spades, .ace⟩
    let catalog := Catalog.ofEntries [(ace, stormPrompt)]
    let stork := catalog.revised ace { stormPrompt with title := "Stork" }
    let richer := catalog.revised ace { stormPrompt with tokens := 2 }
    let game : Game Unit :=
      { content := .sign rules catalog, source := (), deck := .ofOrder Card.all
        ledger := rules.openingLedger, history := .empty, pending := none
        status := .active, journal := "", turn := none }
    hashBytes [1, 2, 3] ≠ hashBytes [1, 0, 3] ∧
      ofContent rules catalog ≠ ofContent renamed catalog ∧
      ofContent rules catalog ≠ ofContent rules stork ∧
      ofContent rules catalog ≠ ofContent rules richer ∧
      Game.resume (.sign rules richer) game.saved game.source =
        .error (.otherContent (ofContent rules catalog)
          (ofContent rules richer)) := by
  intro rules renamed ace catalog stork richer game
  obtain ⟨hashes, streams, edits, -, saves⟩ :=
    one_byte_changes_signature (σ := Unit)
  have once : DifferOnce ([1, 2, 3] : List UInt8) [1, 0, 3] :=
    differOnce_iff.mpr ⟨[1], 2, 0, [3], by decide, rfl, rfl⟩
  have held : catalog.prompt? ace = some stormPrompt := by decide
  have heading : Retouched "Untitled".toList "Entitled".toList :=
    .replaced [] 'U' 'E' "ntitled".toList (by decide) (by decide) (by decide)
  have renamedRules : Edit (rules, catalog) (renamed, catalog) :=
    .rules catalog (rules.edited_title heading)
  have renamedCard : Edit (rules, catalog) (rules, stork) :=
    .prompt rules held (stormPrompt.edited_title
      (.replaced "Stor".toList 'm' 'k' [] (by decide) (by decide) (by decide)))
  have digit : Edit (rules, catalog) (rules, richer) :=
    .prompt rules held (stormPrompt.edited_tokens
      (.replaced [] '1' '2' [] (by decide) (by decide) (by decide)))
  have moved := streams rules rules catalog richer (edits _ _ digit).1
  have refused := (saves game (.sign rules richer) game.source).2
  have begun : game.content = .sign rules catalog := rfl
  rw [begun, Content.signature_sign, Content.signature_sign] at refused
  exact ⟨hashes _ _ _ once, (edits _ _ renamedRules).2,
    (edits _ _ renamedCard).2, moved, refused moved⟩

end Signature

end SoloJournal
