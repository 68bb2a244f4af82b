import Mathlib.Data.List.Nodup
import SoloJournal.Proofs.Json.RoundTrip
import SoloJournal.Wire.Basic

/-!
# Laws of wire forms

A wire form is lawful when whatever is written is read back, from a value that
a text can hold.  A record is read back once its fields have different names,
and an optional value once the value itself is never written as nothing.
-/

namespace SoloJournal

/-- A wire form that is read back as it was written. -/
class LawfulWire (α : Type) [Wire α] : Prop where
  read_write : ∀ value : α, Wire.read (Wire.write value) = some value
  plain_write : ∀ value : α, (Wire.write value).Plain

attribute [simp] LawfulWire.read_write LawfulWire.plain_write

/-- A wire form that cannot be mistaken for an absent value. -/
class PresentWire (α : Type) [Wire α] : Prop where
  write_ne_null : ∀ value : α, Wire.write value ≠ .null

/-- An entry is found by its key where no two keys are the same. -/
theorem lookup_of_mem {α β : Type} [DecidableEq α] {entries : List (α × β)}
    (nodup : (entries.map Prod.fst).Nodup) {entry : α × β}
    (held : entry ∈ entries) :
    entries.lookup entry.1 = some entry.2 := by
  obtain ⟨before, after, rfl⟩ := List.append_of_mem held
  refine List.lookup_eq_some_iff.mpr ⟨before, after, rfl, ?_⟩
  intro other earlier
  rw [List.map_append, List.nodup_append] at nodup
  have differs := nodup.2.2 other.1 (List.mem_map_of_mem earlier) entry.1
    List.mem_cons_self
  simpa using Ne.symm differs

namespace Json

theorem plainItems_iff {items : List Json} :
    PlainItems items ↔ ∀ item, item ∈ items → item.Plain := by
  induction items with
  | nil => simp [PlainItems]
  | cons item items induction => simp [PlainItems, induction]

theorem plain_record {members : List (String × Json)}
    (plain : ∀ member, member ∈ members → member.2.Plain) :
    (record members).Plain := by
  show PlainMembers (members.map _)
  induction members with
  | nil => trivial
  | cons member members induction =>
      refine ⟨rfl, plain member List.mem_cons_self, induction ?_⟩
      exact fun other later => plain other (List.mem_cons_of_mem member later)

/-- Members with different names are all taken note of. -/
theorem foldlM_noteField (names : List String)
    {members found : List (String × Json)}
    (known : ∀ member, member ∈ members → member.1 ∈ names)
    (nodup : ((members.reverse ++ found).map Prod.fst).Nodup) :
    (members.map (fun (name, value) => (some name, value))).foldlM
        (noteField names) found =
      some (members.reverse ++ found) := by
  induction members generalizing found with
  | nil => rfl
  | cons member members induction =>
      obtain ⟨name, value⟩ := member
      have named : name ∈ names := known (name, value) List.mem_cons_self
      rw [List.reverse_cons, List.append_assoc] at nodup ⊢
      have fresh : found.any (fun field => field.1 == name) = false := by
        have once : name ∉ found.map Prod.fst := by
          rw [List.map_append] at nodup
          exact (List.nodup_cons.mp nodup.of_append_right).1
        rw [List.any_eq_false]
        intro field held same
        rw [beq_iff_eq] at same
        exact once (same ▸ List.mem_map_of_mem held)
      have noted : noteField names found (some name, value) =
          some ((name, value) :: found) := by
        simp [noteField, named, fresh]
      rw [List.map_cons, List.foldlM_cons, noted]
      exact induction
        (fun other later => known other (List.mem_cons_of_mem _ later)) nodup

/-- The fields of a record come back in their order. -/
theorem fields?_record (names : List String) (values : List Json)
    (nodup : names.Nodup) (length_eq : names.length = values.length) :
    fields? names (record (names.zip values)) = some (values.map some) := by
  have namesEq : (names.zip values).map Prod.fst = names :=
    List.map_fst_zip (Nat.le_of_eq length_eq)
  have valuesEq : (names.zip values).map Prod.snd = values :=
    List.map_snd_zip (Nat.le_of_eq length_eq.symm)
  generalize names.zip values = members at namesEq valuesEq
  subst namesEq valuesEq
  have reversed : ((members.reverse ++ []).map Prod.fst).Nodup := by
    rw [List.append_nil, List.map_reverse]
    exact List.nodup_reverse.mpr nodup
  have noted := foldlM_noteField (members.map Prod.fst)
    (fun member held => List.mem_map_of_mem held) reversed
  rw [List.append_nil] at reversed noted
  rw [record, fields?, noted]
  simp only [Option.bind_eq_bind, Option.bind_some, Option.pure_def,
    Option.some.injEq, List.map_map]
  apply List.map_congr_left
  intro member held
  exact lookup_of_mem reversed (List.mem_reverse.mpr held)

/-- Reading a record begins with the values of its fields. -/
theorem bind_fields?_record {α : Type} (names : List String)
    (values : List Json) (nodup : names.Nodup)
    (length_eq : names.length = values.length)
    (next : List (Option Json) → Option α) :
    ((record (names.zip values)).fields? names).bind next =
      next (values.map some) := by
  rw [fields?_record names values nodup length_eq, Option.bind_some]

end Json

namespace Wire

/-- A value among choices with different names is found by its name. -/
theorem readName_key {α : Type} {key : α → String} {choices : List α}
    (distinct : ∀ left, left ∈ choices → ∀ right, right ∈ choices →
      key left = key right → left = right)
    {value : α} (held : value ∈ choices) :
    readName key choices (.string (key value)) = some value := by
  show choices.find? _ = some value
  induction choices with
  | nil => cases held
  | cons choice choices induction =>
      by_cases same : choice = value
      · simp [same]
      · have differs : (key choice == key value) = false := by
          simpa using fun keys =>
            same (distinct choice List.mem_cons_self value held keys)
        rw [List.find?_cons, differs]
        refine induction ?_ ((List.mem_cons.mp held).resolve_left (Ne.symm same))
        intro left leftHeld right rightHeld
        exact distinct left (List.mem_cons_of_mem choice leftHeld)
          right (List.mem_cons_of_mem choice rightHeld)

variable {α : Type} [Wire α] [LawfulWire α]

@[simp] theorem required_write (value : α) :
    required (some (write value)) = some value :=
  LawfulWire.read_write value

@[simp] theorem withDefault_write (default value : α) :
    withDefault default (some (write value)) = some value :=
  LawfulWire.read_write value

end Wire

namespace LawfulWire

instance : LawfulWire Bool where
  read_write _ := rfl
  plain_write _ := trivial

instance : LawfulWire String where
  read_write _ := rfl
  plain_write _ := trivial

instance : LawfulWire Int64 where
  read_write number := by
    have lower := Int64.minValue_le_toInt number
    have upper := Int64.toInt_le number
    simp only [Wire.write, Wire.read]
    rw [if_pos ⟨lower, upper⟩, Int64.ofInt_toInt]
  plain_write _ := trivial

instance : LawfulWire UInt32 where
  read_write number := by
    have small := UInt32.toNat_lt_size number
    simp [Wire.write, Wire.read, Wire.readBelow, small]
  plain_write _ := trivial

instance : LawfulWire UInt8 where
  read_write number := by
    have small := UInt8.toNat_lt_size number
    simp [Wire.write, Wire.read, Wire.readBelow, small]
  plain_write _ := trivial

instance {α : Type} [Wire α] [LawfulWire α] [PresentWire α] :
    LawfulWire (Option α) where
  read_write
    | none => rfl
    | some value => by
        have present := PresentWire.write_ne_null value
        have read := read_write value
        show (match Wire.write value with
          | .null => some none
          | json => (Wire.read json).map some) = some (some value)
        cases shape : Wire.write value with
        | null => exact absurd shape present
        | _ => simp [← shape, read]
  plain_write
    | none => trivial
    | some value => plain_write value

instance {α : Type} [Wire α] [LawfulWire α] : LawfulWire (List α) where
  read_write items := by
    show (items.map Wire.write).mapM Wire.read = some items
    induction items with
    | nil => rfl
    | cons item items induction =>
        rw [List.map_cons, List.mapM_cons, read_write, induction]
        rfl
  plain_write items := by
    refine Json.plainItems_iff.mpr fun written member => ?_
    obtain ⟨item, -, rfl⟩ := List.mem_map.mp member
    exact plain_write item

end LawfulWire

end SoloJournal
