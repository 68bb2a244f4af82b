import SoloJournal.Proofs.Authored

/-!
# The fields of a card

A card whose keys are texts is judged twice, by checks in the card's own words
and by the reading of its parts.  Both ask the same: the texts are there, and
the numbers are whole and within their bounds, where they are there at all.
-/

namespace SoloJournal.Authoring

variable {value held : Yaml.Value} {fields : List (String × Yaml.Value)}

/-! ## Records -/

/-- The entries of a mapping whose keys are texts. -/
def fieldEntries (fields : List (String × Yaml.Value)) : List Entry :=
  fields.map fun (name, held) => (.string name, held)

/-- A mapping, under any tags, whose keys are texts, no two of them the same. -/
structure IsRecord (value : Yaml.Value) (fields : List (String × Yaml.Value)) :
    Prop where
  untag_eq : value.untag = .mapping (fieldEntries fields)
  nodup : (fields.map Prod.fst).Nodup

theorem find?_fieldEntries (name : String) :
    ((fieldEntries fields).find? fun entry => entry.1.isText name).map Prod.snd =
      fields.lookup name := by
  induction fields with
  | nil => rfl
  | cons field fields induction =>
      obtain ⟨first, held⟩ := field
      by_cases same : first = name
      · subst same
        simp [fieldEntries, Yaml.Value.isText]
      · have apart : (name == first) = false := by simpa using Ne.symm same
        simpa [fieldEntries, Yaml.Value.isText, same, List.lookup_cons, apart]
          using induction

theorem fieldValue?_fieldEntries (name : String) :
    fieldValue? name (fieldEntries fields) = fields.lookup name := by
  rw [← find?_fieldEntries, fieldValue?, fieldEntries, List.find?_map,
    List.find?_map]
  rfl

theorem IsRecord.entries?_eq (record : IsRecord value fields) :
    value.entries? = some (fieldEntries fields) := by
  unfold Yaml.Value.entries?
  rw [record.untag_eq]

theorem IsRecord.isMapping (record : IsRecord value fields) :
    value.isMapping = true := by
  rw [Yaml.Value.isMapping, record.entries?_eq]
  rfl

theorem IsRecord.get?_eq (record : IsRecord value fields) (name : String) :
    value.get? name = fields.lookup name := by
  rw [← find?_fieldEntries, Yaml.Value.get?, record.entries?_eq]
  cases found : (fieldEntries fields).find? fun entry => entry.1.isText name <;>
    simp [found]

theorem lookup_of_mem_fields {name : String}
    (nodup : (fields.map Prod.fst).Nodup) (member : (name, held) ∈ fields) :
    fields.lookup name = some held := by
  apply lookup_eq_some_of_unique member
  intro other otherMember
  have same := List.inj_on_of_nodup_map nodup otherMember member rfl
  exact congrArg Prod.snd same

theorem checkEntries_cons {known : List Field} {seen : List String}
    {name : String} (unseen : name ∉ seen) :
    checkEntries known seen (fieldEntries ((name, held) :: fields)) =
      match known.find? fun field => field.name == name with
      | none => checkEntries known seen (fieldEntries fields)
      | some field => field.check held >>= fun _ =>
          checkEntries known (name :: seen) (fieldEntries fields) := by
  have once : seen.contains name = false := by simpa using unseen
  rw [fieldEntries, List.map_cons, checkEntries]
  simp only [readFieldName, Yaml.Value.untag]
  show (match known.find? fun field => field.name == name with
    | none => _
    | some field => _) = _
  cases known.find? fun field => field.name == name with
  | none => rfl
  | some field =>
      simp only [once]
      rfl

/-- The check of a record fails only where that of one of its fields does. -/
theorem checkEntries_error {known : List Field} {seen : List String}
    {mismatch : Mismatch} (nodup : (fields.map Prod.fst).Nodup)
    (fresh : ∀ field ∈ fields, field.1 ∉ seen)
    (fails : checkEntries known seen (fieldEntries fields) = .error mismatch) :
    ∃ name held field, (name, held) ∈ fields ∧
      known.find? (fun field => field.name == name) = some field ∧
        field.check held = .error mismatch := by
  -- no name comes twice, so none to come has been seen, and no check fails for it
  induction fields generalizing seen with
  | nil => cases fails
  | cons first fields induction =>
      obtain ⟨name, held⟩ := first
      obtain ⟨absent, nodup⟩ := List.nodup_cons.mp nodup
      obtain ⟨unseen, fresh⟩ := List.forall_mem_cons.mp fresh
      rw [checkEntries_cons unseen] at fails
      cases wanted : known.find? fun field => field.name == name with
      | none =>
          simp only [wanted] at fails
          obtain ⟨other, found, field, member, rest⟩ := induction nodup fresh fails
          exact ⟨other, found, field, List.mem_cons_of_mem _ member, rest⟩
      | some field =>
          simp only [wanted] at fails
          rcases bind_eq_error.mp fails with bad | ⟨done, -, fails⟩
          · exact ⟨name, held, field, List.mem_cons_self, wanted, bad⟩
          · have unused : ∀ field ∈ fields, field.1 ∉ name :: seen := by
              intro other member repeated
              rcases List.mem_cons.mp repeated with same | earlier
              · have named := List.mem_map_of_mem (f := Prod.fst) member
                rw [same] at named
                exact absent named
              · exact fresh other member earlier
            obtain ⟨other, found, field, member, rest⟩ :=
              induction nodup unused fails
            exact ⟨other, found, field, List.mem_cons_of_mem _ member, rest⟩

/-! ## Parts of a card -/

theorem map_eq_error {ε α β : Type} {convert : α → β} {outcome : Except ε α}
    {problem : ε} (fails : outcome.map convert = .error problem) :
    outcome = .error problem := by
  cases outcome <;> simp_all [Except.map]

/-- A whole number within bounds. -/
def Whole (low high : Int) (held : Yaml.Value) : Prop :=
  ∃ number, held.untag = .int number ∧ low ≤ number ∧ number ≤ high

theorem readText_eq_ok_iff {text : String} :
    readText held = .ok text ↔ held.untag = .string text := by
  unfold readText
  cases held.untag <;> simp

theorem readText_error {mismatch : Mismatch}
    (fails : readText held = .error mismatch) :
    ∃ found, mismatch = .wrongType found .text := by
  unfold readText at fails
  split at fails <;> cases fails
  exact ⟨_, rfl⟩

theorem readInt64_eq_ok_iff {number : Int64} :
    readInt64 held = .ok number ↔ held.untag = .int number.toInt := by
  have low := number.le_toInt
  have high := number.toInt_le
  unfold readInt64
  cases held.untag with
  | int written =>
      simp only [Yaml.Value.int.injEq]
      constructor
      · intro read
        split at read
        case isTrue range =>
          cases read
          rw [Int64.toInt_ofInt_of_le range.1
            (Int.lt_of_le_of_lt range.2 (by decide))]
        case isFalse => cases read
      · rintro rfl
        rw [if_pos ⟨low, high⟩, Int64.ofInt_toInt]
  | _ => simp

theorem readUInt32_eq_ok_iff {number : UInt32} :
    readUInt32 held = .ok number ↔ held.untag = .int number.toNat := by
  have high := number.toNat_lt
  unfold readUInt32
  cases held.untag with
  | int written =>
      simp only [Yaml.Value.int.injEq]
      constructor
      · intro read
        split at read
        case isTrue range =>
          cases read
          have small : written.toNat < UInt32.size := by omega
          rw [UInt32.toNat_ofNat_of_lt' small, Int.toNat_of_nonneg range.1]
        case isFalse => cases read
      · rintro rfl
        have small : (number.toNat : Int) < UInt32.size := by
          exact_mod_cast high
        rw [if_pos ⟨Int.natCast_nonneg _, small⟩, Int.toNat_natCast,
          UInt32.ofNat_toNat]
  | _ => simp

theorem isTokenCount_iff :
    isTokenCount held = true ↔
      Whole Int64.minValue.toInt Int64.maxValue.toInt held := by
  unfold isTokenCount Yaml.Value.int? Whole
  cases held.untag <;> simp

theorem isBlockCount_iff :
    isBlockCount held = true ↔ Whole 0 4294967295 held := by
  unfold isBlockCount Yaml.Value.int? Whole
  cases held.untag <;> simp [UInt32.size]
  omega

theorem exists_toInt_eq {number : Int} (low : Int64.minValue.toInt ≤ number)
    (high : number ≤ Int64.maxValue.toInt) :
    ∃ counted : Int64, counted.toInt = number :=
  ⟨.ofInt number,
    Int64.toInt_ofInt_of_le low (Int.lt_of_le_of_lt high (by decide))⟩

theorem exists_toNat_eq {number : Int} (low : 0 ≤ number)
    (high : number ≤ 4294967295) :
    ∃ counted : UInt32, (counted.toNat : Int) = number := by
  have small : number.toNat < UInt32.size := by
    have size : UInt32.size = 4294967296 := rfl
    omega
  refine ⟨.ofNat number.toNat, ?_⟩
  rw [UInt32.toNat_ofNat_of_lt' small, Int.toNat_of_nonneg low]

theorem readInt64_of_whole
    (whole : Whole Int64.minValue.toInt Int64.maxValue.toInt held) :
    ∃ number, readInt64 held = .ok number := by
  obtain ⟨_, written, low, high⟩ := whole
  obtain ⟨number, rfl⟩ := exists_toInt_eq low high
  exact ⟨number, readInt64_eq_ok_iff.mpr written⟩

theorem readUInt32_of_whole (whole : Whole 0 4294967295 held) :
    ∃ number, readUInt32 held = .ok number := by
  obtain ⟨_, written, low, high⟩ := whole
  obtain ⟨number, rfl⟩ := exists_toNat_eq low high
  exact ⟨number, readUInt32_eq_ok_iff.mpr written⟩

/-- A field that is there and holds a text. -/
def HasText (fields : List (String × Yaml.Value)) (name text : String) : Prop :=
  ∃ held, fields.lookup name = some held ∧ held.untag = .string text

/-- A field that holds a number, or is missing, which stands for zero. -/
structure HasNumber (fields : List (String × Yaml.Value)) (name : String)
    (number : Int) : Prop where
  written : ∀ held, fields.lookup name = some held → held.untag = .int number
  missing : fields.lookup name = none → number = 0

/-- A field that is missing or holds a whole number within bounds. -/
def MayCount (fields : List (String × Yaml.Value)) (name : String)
    (low high : Int) : Prop :=
  ∀ held, fields.lookup name = some held → Whole low high held

/-- Tokens are missing or a number of 64 bits with a sign. -/
def TokensRight (fields : List (String × Yaml.Value)) : Prop :=
  MayCount fields "tokens" Int64.minValue.toInt Int64.maxValue.toInt

/-- Blocks are missing or a number of 32 bits without a sign. -/
def BlocksRight (fields : List (String × Yaml.Value)) : Prop :=
  MayCount fields "blocks" 0 4294967295

theorem mayCount_iff {name : String} {low high : Int} (negative : low ≤ 0)
    (positive : 0 ≤ high) :
    MayCount fields name low high ↔
      ∃ number, HasNumber fields name number ∧ low ≤ number ∧ number ≤ high := by
  constructor
  · intro counts
    cases there : fields.lookup name with
    | none => exact ⟨0, ⟨by simp [there], fun _ => rfl⟩, negative, positive⟩
    | some held =>
        obtain ⟨number, written, range⟩ := counts held there
        refine ⟨number, ⟨?_, by simp [there]⟩, range⟩
        intro other same
        rw [there] at same
        cases same
        exact written
  · rintro ⟨number, hasNumber, range⟩ held there
    exact ⟨number, hasNumber.written held there, range⟩

theorem required_readText_iff {name text : String} :
    required name readText (fieldEntries fields) = .ok text ↔
      HasText fields name text := by
  unfold required HasText
  rw [fieldValue?_fieldEntries]
  cases fields.lookup name <;> simp [readText_eq_ok_iff]

/-- Reading a number that may be missing, given how a number is read. -/
theorem optional_eq_ok_iff {α : Type} {read : Reading α} {standard result : α}
    {name : String} {number : Int}
    (reads : ∀ held, read held = .ok result ↔ held.untag = .int number)
    (zero : standard = result ↔ number = 0) :
    optional name read standard (fieldEntries fields) = .ok result ↔
      HasNumber fields name number := by
  unfold optional
  rw [fieldValue?_fieldEntries]
  constructor
  · intro found
    constructor
    · intro held there
      simp only [there] at found
      exact (reads held).mp found
    · intro missing
      simp only [missing, Except.ok.injEq] at found
      exact zero.mp found
  · rintro ⟨written, missing⟩
    cases there : fields.lookup name with
    | none => exact congrArg _ (zero.mpr (missing there))
    | some held => exact (reads held).mpr (written held there)

theorem optional_readInt64_iff {name : String} {number : Int64} :
    optional name readInt64 0 (fieldEntries fields) = .ok number ↔
      HasNumber fields name number.toInt := by
  apply optional_eq_ok_iff (fun _ => readInt64_eq_ok_iff)
  rw [← Int64.toInt_inj, eq_comm]
  rfl

theorem optional_readUInt32_iff {name : String} {number : UInt32} :
    optional name readUInt32 0 (fieldEntries fields) = .ok number ↔
      HasNumber fields name number.toNat := by
  apply optional_eq_ok_iff (fun _ => readUInt32_eq_ok_iff)
  rw [← UInt32.toNat_inj, eq_comm, Int.natCast_eq_zero]
  rfl

/-! ## Prompts -/

/-- The prompt that fields describe. -/
structure Describes (fields : List (String × Yaml.Value)) (prompt : Prompt) :
    Prop where
  title : HasText fields "title" prompt.title
  description : HasText fields "description" prompt.description
  tokens : HasNumber fields "tokens" prompt.tokens.toInt
  blocks : HasNumber fields "blocks" prompt.blocks.toNat

/-- What the fields of a card have to be: two texts, and two numbers that may be
missing. -/
structure WellTyped (fields : List (String × Yaml.Value)) : Prop where
  title : ∃ text, HasText fields "title" text
  description : ∃ text, HasText fields "description" text
  tokens : TokensRight fields
  blocks : BlocksRight fields

theorem wellTyped_iff :
    WellTyped fields ↔ ∃ prompt, Describes fields prompt := by
  constructor
  · rintro ⟨⟨title, hasTitle⟩, ⟨description, hasDescription⟩, tokens, blocks⟩
    obtain ⟨tokens, hasTokens, low, high⟩ :=
      (mayCount_iff (by decide) (by decide)).mp tokens
    obtain ⟨blocks, hasBlocks, positive, small⟩ :=
      (mayCount_iff (by decide) (by decide)).mp blocks
    obtain ⟨tokens, rfl⟩ := exists_toInt_eq low high
    obtain ⟨blocks, rfl⟩ := exists_toNat_eq positive small
    exact ⟨⟨title, description, tokens, blocks⟩, hasTitle, hasDescription,
      hasTokens, hasBlocks⟩
  · rintro ⟨prompt, described⟩
    have blocksHigh := prompt.blocks.toNat_lt
    exact ⟨⟨_, described.title⟩, ⟨_, described.description⟩,
      (mayCount_iff (by decide) (by decide)).mpr
        ⟨_, described.tokens, prompt.tokens.le_toInt, prompt.tokens.toInt_le⟩,
      (mayCount_iff (by decide) (by decide)).mpr
        ⟨_, described.blocks, Int.natCast_nonneg _, by omega⟩⟩

/-- The fields of a prompt, in the order in which they are looked for. -/
def promptFields : List Field :=
  [.of "title" readText, .of "description" readText, .of "tokens" readInt64,
    .of "blocks" readUInt32]

theorem readEntries_record (record : IsRecord value fields) (name : String)
    (known : List Field) :
    readEntries name known value =
      (checkEntries known [] (fieldEntries fields)).map
        fun _ => fieldEntries fields := by
  unfold readEntries
  rw [record.untag_eq]

theorem readPrompt_eq_ok (record : IsRecord value fields) {prompt : Prompt} :
    readPrompt value = .ok prompt ↔
      checkEntries promptFields [] (fieldEntries fields) = .ok () ∧
        Describes fields prompt := by
  have entries := readEntries_record record "CardDef" promptFields
  constructor
  · intro read
    obtain ⟨written, checked, read⟩ := bind_eq_ok.mp read
    obtain ⟨title, hasTitle, read⟩ := bind_eq_ok.mp read
    obtain ⟨description, hasDescription, read⟩ := bind_eq_ok.mp read
    obtain ⟨tokens, hasTokens, read⟩ := bind_eq_ok.mp read
    obtain ⟨blocks, hasBlocks, ⟨⟩⟩ := bind_eq_ok.mp read
    have same := entries.symm.trans checked
    cases passed : checkEntries promptFields [] (fieldEntries fields) with
    | error mismatch =>
        rw [passed] at same
        cases same
    | ok done =>
        rw [passed] at same
        cases same
        exact ⟨rfl, required_readText_iff.mp hasTitle,
          required_readText_iff.mp hasDescription,
          optional_readInt64_iff.mp hasTokens,
          optional_readUInt32_iff.mp hasBlocks⟩
  · rintro ⟨passed, title, description, tokens, blocks⟩
    rw [passed] at entries
    exact bind_eq_ok.mpr ⟨_, entries,
      bind_eq_ok.mpr ⟨_, required_readText_iff.mpr title,
        bind_eq_ok.mpr ⟨_, required_readText_iff.mpr description,
          bind_eq_ok.mpr ⟨_, optional_readInt64_iff.mpr tokens,
            bind_eq_ok.mpr ⟨_, optional_readUInt32_iff.mpr blocks, rfl⟩⟩⟩⟩⟩

/-- Where the numbers are right, the check of the entries fails only at a text
that is none. -/
theorem checkEntries_promptFields_error {mismatch : Mismatch}
    (record : IsRecord value fields)
    (tokens : TokensRight fields)
    (blocks : BlocksRight fields)
    (fails : checkEntries promptFields [] (fieldEntries fields) =
      .error mismatch) :
    ∃ held, (fields.lookup "title" = some held ∨
        fields.lookup "description" = some held) ∧
      readText held = .error mismatch := by
  obtain ⟨name, held, field, member, found, bad⟩ :=
    checkEntries_error record.nodup (fun _ _ => List.not_mem_nil) fails
  have there := lookup_of_mem_fields record.nodup member
  have named : field.name = name := by simpa using List.find?_some found
  have known := List.mem_of_find?_eq_some found
  subst named
  simp only [promptFields, List.mem_cons, List.not_mem_nil, or_false] at known
  rcases known with rfl | rfl | rfl | rfl
  · exact ⟨held, .inl there, map_eq_error bad⟩
  · exact ⟨held, .inr there, map_eq_error bad⟩
  · obtain ⟨number, read⟩ := readInt64_of_whole (tokens held there)
    rw [map_eq_error bad] at read
    cases read
  · obtain ⟨number, read⟩ := readUInt32_of_whole (blocks held there)
    rw [map_eq_error bad] at read
    cases read

theorem readPrompt_eq_ok_iff (record : IsRecord value fields)
    {prompt : Prompt} : readPrompt value = .ok prompt ↔ Describes fields prompt := by
  rw [readPrompt_eq_ok record]
  constructor
  · exact And.right
  · intro described
    refine ⟨?_, described⟩
    have typed := wellTyped_iff.mpr ⟨prompt, described⟩
    cases passed : checkEntries promptFields [] (fieldEntries fields) with
    | ok done => rfl
    | error mismatch =>
        obtain ⟨held, there, bad⟩ := checkEntries_promptFields_error record
          typed.tokens typed.blocks passed
        have isText : ∃ text, held.untag = .string text := by
          rcases there with there | there
          · obtain ⟨other, same, written⟩ := described.title
            cases there.symm.trans same
            exact ⟨_, written⟩
          · obtain ⟨other, same, written⟩ := described.description
            cases there.symm.trans same
            exact ⟨_, written⟩
        obtain ⟨text, written⟩ := isText
        rw [readText_eq_ok_iff.mpr written] at bad
        cases bad

theorem required_readText_error {name : String} {mismatch : Mismatch}
    (present : fields.lookup name ≠ none)
    (fails : required name readText (fieldEntries fields) = .error mismatch) :
    ∃ found, mismatch = .wrongType found .text := by
  unfold required at fails
  rw [fieldValue?_fieldEntries] at fails
  cases there : fields.lookup name with
  | none => exact absurd there present
  | some held =>
      rw [there] at fails
      exact readText_error fails

theorem optional_ne_error {α : Type} {read : Reading α} {standard : α}
    {name : String} {mismatch : Mismatch}
    (reads : ∀ held, fields.lookup name = some held →
      ∃ result, read held = .ok result) :
    optional name read standard (fieldEntries fields) ≠ .error mismatch := by
  unfold optional
  rw [fieldValue?_fieldEntries]
  cases there : fields.lookup name with
  | none => exact nofun
  | some held =>
      obtain ⟨result, read⟩ := reads held there
      simp [read]

/-- Of a card with both texts and right numbers, the reading only objects to a
text that is none. -/
theorem readPrompt_error {mismatch : Mismatch} (record : IsRecord value fields)
    (title : fields.lookup "title" ≠ none)
    (description : fields.lookup "description" ≠ none)
    (tokens : TokensRight fields)
    (blocks : BlocksRight fields)
    (fails : readPrompt value = .error mismatch) :
    ∃ found, mismatch = .wrongType found .text := by
  have entries := readEntries_record record "CardDef" promptFields
  rcases bind_eq_error.mp fails with unchecked | ⟨written, checked, fails⟩
  · have bad := map_eq_error (entries.symm.trans unchecked)
    obtain ⟨held, -, bad⟩ :=
      checkEntries_promptFields_error record tokens blocks bad
    exact readText_error bad
  · have same : written = fieldEntries fields := by
      have passed := entries.symm.trans checked
      cases result : checkEntries promptFields [] (fieldEntries fields) <;>
        simp_all [Except.map]
    subst same
    rcases bind_eq_error.mp fails with bad | ⟨_, -, fails⟩
    · exact required_readText_error title bad
    rcases bind_eq_error.mp fails with bad | ⟨_, -, fails⟩
    · exact required_readText_error description bad
    rcases bind_eq_error.mp fails with bad | ⟨_, -, fails⟩
    · exact absurd bad (optional_ne_error fun held there =>
        readInt64_of_whole (tokens held there))
    rcases bind_eq_error.mp fails with bad | ⟨_, -, ⟨⟩⟩
    exact absurd bad (optional_ne_error fun held there =>
      readUInt32_of_whole (blocks held there))

/-! ## Cards -/

theorem cardProblems_eq (record : IsRecord value fields) :
    cardProblems value =
      ((["title", "description"].filter fun name =>
          (fields.lookup name).isNone).map .missingField)
        ++ (if (fields.lookup "tokens").all isTokenCount then []
          else [.tokensNotWhole])
        ++ (if (fields.lookup "blocks").all isBlockCount then []
          else [.blocksNotNatural]) := by
  unfold cardProblems
  simp only [record.get?_eq]

theorem all_isTokenCount_iff :
    (fields.lookup "tokens").all isTokenCount = true ↔ TokensRight fields := by
  rw [Option.all_eq_true]
  exact forall₂_congr fun _ _ => isTokenCount_iff

theorem all_isBlockCount_iff :
    (fields.lookup "blocks").all isBlockCount = true ↔ BlocksRight fields := by
  rw [Option.all_eq_true]
  exact forall₂_congr fun _ _ => isBlockCount_iff

theorem tokensNotWhole_mem_iff (record : IsRecord value fields) :
    .tokensNotWhole ∈ cardProblems value ↔ ¬ TokensRight fields := by
  rw [cardProblems_eq record, ← all_isTokenCount_iff]
  cases (fields.lookup "tokens").all isTokenCount <;> simp

theorem blocksNotNatural_mem_iff (record : IsRecord value fields) :
    .blocksNotNatural ∈ cardProblems value ↔ ¬ BlocksRight fields := by
  rw [cardProblems_eq record, ← all_isBlockCount_iff]
  cases (fields.lookup "blocks").all isBlockCount <;> simp

theorem mistyped_not_mem {mismatch : Mismatch} :
    .mistyped mismatch ∉ cardProblems value := by
  simp [cardProblems]

theorem cardProblems_eq_nil_iff (record : IsRecord value fields) :
    cardProblems value = [] ↔
      (fields.lookup "title" ≠ none ∧ fields.lookup "description" ≠ none) ∧
        TokensRight fields ∧ BlocksRight fields := by
  rw [cardProblems_eq record, ← all_isTokenCount_iff, ← all_isBlockCount_iff]
  simp [and_assoc]

theorem checkCard_eq_ok_iff (record : IsRecord value fields)
    {prompt : Prompt} :
    checkCard value = .ok prompt ↔ Describes fields prompt := by
  unfold checkCard
  simp only [checked_eq_ok, mapError_eq_ok, List.isEmpty_iff,
    readPrompt_eq_ok_iff record]
  constructor
  · exact fun read => read.2.2
  · intro described
    have typed := wellTyped_iff.mpr ⟨prompt, described⟩
    obtain ⟨title, titleThere, -⟩ := described.title
    obtain ⟨description, descriptionThere, -⟩ := described.description
    have noProblem : cardProblems value = [] := by
      apply (cardProblems_eq_nil_iff record).mpr
      refine ⟨?_, typed.tokens, typed.blocks⟩
      simp [titleThere, descriptionThere]
    exact ⟨record.isMapping, noProblem, described⟩

/-- A card is refused for what the checks find, or, where they find nothing, for
the first thing that the reading objects to. -/
theorem checkCard_eq_error (record : IsRecord value fields)
    {problems : List CardProblem} (refused : checkCard value = .error problems) :
    problems = cardProblems value ∨
      cardProblems value = [] ∧ ∃ mismatch,
        readPrompt value = .error mismatch ∧ problems = [.mistyped mismatch] := by
  unfold checkCard at refused
  simp only [checked_eq_error, mapError_eq_error, record.isMapping,
    List.isEmpty_iff] at refused
  rcases refused with ⟨⟨⟩, -⟩ | ⟨-, ⟨-, found⟩ | ⟨clean, mismatch, fails, same⟩⟩
  · exact .inl found.symm
  · exact .inr ⟨clean, mismatch, fails, same.symm⟩

/-- A card is read exactly.  It is accepted just when its texts are there and
its numbers are whole and within their bounds where they are there, and the
prompt then holds these values.  Otherwise something is reported: a wrong number
always in the card's own words, while the reading objects to nothing but a text
that is none. -/
theorem cards_read_exactly (record : IsRecord value fields) (card : Card) :
    ((∃ prompt, checkCard value = .ok prompt) ↔ WellTyped fields) ∧
      (∀ prompt, checkCard value = .ok prompt ↔ Describes fields prompt) ∧
      ∀ problems, checkCard value = .error problems →
        problems ≠ [] ∧
          (¬ TokensRight fields →
            .tokensNotWhole ∈ problems ∧
              "Card " ++ card.text ++ " has non-integer tokens" ∈
                problems.map (CardProblem.message card)) ∧
          (¬ BlocksRight fields →
            .blocksNotNatural ∈ problems ∧
              "Card " ++ card.text ++ " blocks must be a non-negative integer" ∈
                problems.map (CardProblem.message card)) ∧
          ∀ mismatch, .mistyped mismatch ∈ problems →
            TokensRight fields ∧ BlocksRight fields ∧
              ∃ found, mismatch = .wrongType found .text := by
  have accepted : ∀ prompt, checkCard value = .ok prompt ↔ Describes fields prompt :=
    fun _ => checkCard_eq_ok_iff record
  refine ⟨?_, accepted, ?_⟩
  · rw [wellTyped_iff]
    exact exists_congr accepted
  intro problems refused
  have nonempty : problems ≠ [] := by
    rintro rfl
    exact checkCard_ne_error_nil refused
  refine ⟨nonempty, ?_⟩
  rcases checkCard_eq_error record refused with
    rfl | ⟨clean, mismatch, fails, rfl⟩
  · refine ⟨?_, ?_, fun _ member => absurd member mistyped_not_mem⟩
    · intro wrong
      have member := (tokensNotWhole_mem_iff record).mpr wrong
      exact ⟨member, List.mem_map_of_mem (f := CardProblem.message card) member⟩
    · intro wrong
      have member := (blocksNotNatural_mem_iff record).mpr wrong
      exact ⟨member, List.mem_map_of_mem (f := CardProblem.message card) member⟩
  · obtain ⟨⟨title, description⟩, tokens, blocks⟩ :=
      (cardProblems_eq_nil_iff record).mp clean
    refine ⟨fun wrong => absurd tokens wrong, fun wrong => absurd blocks wrong, ?_⟩
    intro other member
    cases List.mem_singleton.mp member
    exact ⟨tokens, blocks,
      readPrompt_error record title description tokens blocks fails⟩

/-- The fields of a card with a tagged title and no tokens, in another order, and
one field more. -/
def toweringFields (blocks : Int) : List (String × Yaml.Value) :=
  [("blocks", .int blocks), ("title", .tagged "heading" (.string "Storm")),
    ("mood", .null), ("description", .string "It rains.")]

/-- The card of these fields, itself under a tag. -/
def toweringCard (blocks : Int) : Yaml.Value :=
  .tagged "card" (.mapping (fieldEntries (toweringFields blocks)))

theorem isRecord_toweringCard (blocks : Int) :
    IsRecord (toweringCard blocks) (toweringFields blocks) where
  untag_eq := rfl
  nodup := by
    show ["blocks", "title", "mood", "description"].Nodup
    decide

/-- With as many blocks as can be counted the card is read.  With one more it is
refused, and in its own words. -/
theorem cards_read_exactly_towering :
    checkCard (toweringCard 4294967295) =
        .ok ⟨"Storm", "It rains.", 0, 4294967295⟩ ∧
      ∃ problems, checkCard (toweringCard 4294967296) = .error problems ∧
        "Card K of diamonds blocks must be a non-negative integer" ∈
          problems.map (CardProblem.message ⟨.diamonds, .king⟩) := by
  have name : Card.text ⟨.diamonds, .king⟩ = "K of diamonds" := by decide
  constructor
  · refine ((cards_read_exactly (isRecord_toweringCard _)
      ⟨.diamonds, .king⟩).2.1 _).mpr ?_
    exact {
      title := ⟨.tagged "heading" (.string "Storm"), rfl, rfl⟩
      description := ⟨.string "It rains.", rfl, rfl⟩
      tokens := ⟨nofun, fun _ => rfl⟩
      blocks := ⟨by rintro _ ⟨⟩; rfl, nofun⟩ }
  · cases refused : checkCard (toweringCard 4294967296) with
    | ok prompt =>
        have accepted : checkCard (toweringCard 4294967296) ≠ .ok prompt := by
          intro read
          have typed := ((cards_read_exactly (isRecord_toweringCard _)
            ⟨.diamonds, .king⟩).1).mp ⟨prompt, read⟩
          obtain ⟨number, ⟨⟩, -, small⟩ := typed.blocks _ rfl
          exact absurd small (by decide)
        exact absurd refused accepted
    | error problems =>
        have reported := (cards_read_exactly (isRecord_toweringCard _)
          ⟨.diamonds, .king⟩).2.2 problems refused
        have wrong : ¬ BlocksRight (toweringFields 4294967296) := by
          intro counts
          obtain ⟨number, ⟨⟩, -, small⟩ := counts _ rfl
          exact absurd small (by decide)
        have mine := (reported.2.2.1 wrong).2
        rw [name] at mine
        exact ⟨problems, rfl, mine⟩

end SoloJournal.Authoring
