import Mathlib.Data.List.DropRight
import SoloJournal.Text.Blank

/-!
# Words between blanks

What is left of a text without the blanks around it, and how a line divides
into its first word and an argument.  Both are said by what the text is put
together from, and then shown to be what trimming and cutting give.
-/

namespace SoloJournal.Text

variable {chars lead body trail line word gap argument : List Char}

def AllBlank (chars : List Char) : Prop :=
  ∀ char ∈ chars, isBlank char = true

instance : DecidablePred AllBlank :=
  fun chars => List.decidableBAll (fun char => isBlank char = true) chars

def Unbroken (chars : List Char) : Prop :=
  ∀ char ∈ chars, isBlank char = false

instance : DecidablePred Unbroken :=
  fun chars => List.decidableBAll (fun char => isBlank char = false) chars

/-- No blank at either end. -/
structure Trimmed (chars : List Char) : Prop where
  head : ∀ char ∈ chars.head?, isBlank char = false
  last : ∀ char ∈ chars.getLast?, isBlank char = false

theorem allBlank_append :
    AllBlank (lead ++ trail) ↔ AllBlank lead ∧ AllBlank trail :=
  List.forall_mem_append

theorem Unbroken.trimmed (unbroken : Unbroken chars) : Trimmed chars where
  head _ first := unbroken _ (List.mem_of_mem_head? first)
  last _ last := unbroken _ (List.mem_of_mem_getLast? last)

/-! ## Trimming -/

/-- Dropping stops at the first item that fails the test. -/
theorem dropWhile_of_stop {α : Type} {test : α → Bool} {front rest : List α}
    (passed : ∀ item ∈ front, test item = true)
    (stop : ∀ item ∈ rest.head?, test item = false) :
    (front ++ rest).dropWhile test = rest := by
  rw [List.dropWhile_append_of_pos passed]
  cases rest with
  | nil => rfl
  | cons item rest => simp [stop item rfl]

theorem trimChars_eq_rdropWhile (chars : List Char) :
    trimChars chars = (chars.dropWhile isBlank).rdropWhile isBlank :=
  rfl

theorem trimChars_eq_nil_iff : trimChars chars = [] ↔ AllBlank chars := by
  rw [trimChars_eq_rdropWhile, List.rdropWhile_eq_nil_iff]
  constructor
  · intro dropped
    rw [← List.takeWhile_append_dropWhile (p := isBlank) (l := chars)]
    exact allBlank_append.mpr ⟨fun _ => List.mem_takeWhile_imp, dropped⟩
  · intro all char member
    exact all char ((List.dropWhile_suffix isBlank).subset member)

/-- The blanks around a trimmed text are what trimming takes away. -/
theorem trimChars_around (leads : AllBlank lead) (trails : AllBlank trail)
    (trimmed : Trimmed body) : trimChars (lead ++ body ++ trail) = body := by
  by_cases empty : body = []
  · subst empty
    rw [List.append_nil]
    exact trimChars_eq_nil_iff.mpr (allBlank_append.mpr ⟨leads, trails⟩)
  · have begins : (lead ++ body ++ trail).dropWhile isBlank = body ++ trail := by
      rw [List.append_assoc]
      apply dropWhile_of_stop leads
      rw [List.head?_append_of_ne_nil body empty]
      exact trimmed.head
    have ends : (trail.reverse ++ body.reverse).dropWhile isBlank =
        body.reverse := by
      apply dropWhile_of_stop
      · intro char member
        exact trails char (List.mem_reverse.mp member)
      · rw [List.head?_reverse]
        exact trimmed.last
    rw [trimChars, begins, List.reverse_append, ends, List.reverse_reverse]

theorem trimmed_trimChars (chars : List Char) : Trimmed (trimChars chars) := by
  have starts : trimChars chars <+: chars.dropWhile isBlank :=
    List.rdropWhile_prefix isBlank _
  constructor
  · intro char first
    have left : char ∈ (chars.dropWhile isBlank).head? := by
      obtain ⟨rest, same⟩ := starts
      rw [← same, List.head?_append]
      simp [Option.mem_def.mp first]
    have stopped := List.head?_dropWhile_not isBlank chars
    rw [Option.mem_def.mp left] at stopped
    exact stopped
  · intro char last
    obtain ⟨filled, rfl⟩ := List.mem_getLast?_eq_getLast last
    exact Bool.eq_false_iff.mpr (List.rdropWhile_last_not isBlank _ filled)

theorem trimmed_iff : Trimmed chars ↔ trimChars chars = chars := by
  constructor
  · intro trimmed
    have around : trimChars ([] ++ chars ++ []) = chars :=
      trimChars_around nofun nofun trimmed
    rwa [List.nil_append, List.append_nil] at around
  · intro same
    rw [← same]
    exact trimmed_trimChars chars

instance : DecidablePred Trimmed :=
  fun _ => decidable_of_iff _ trimmed_iff.symm

theorem exists_around (chars : List Char) :
    ∃ lead trail, chars = lead ++ trimChars chars ++ trail ∧ AllBlank lead ∧
      AllBlank trail := by
  refine ⟨chars.takeWhile isBlank,
    (chars.dropWhile isBlank).rtakeWhile isBlank, ?_, ?_, ?_⟩
  · have ends : trimChars chars ++
        (chars.dropWhile isBlank).rtakeWhile isBlank =
          chars.dropWhile isBlank :=
      List.rdropWhile_append_rtakeWhile
    rw [List.append_assoc, ends, List.takeWhile_append_dropWhile]
  · exact fun _ => List.mem_takeWhile_imp
  · exact fun _ => List.mem_rtakeWhile_imp

theorem trimChars_blanks (leads : AllBlank lead) (trails : AllBlank trail) :
    trimChars (lead ++ chars ++ trail) = trimChars chars := by
  obtain ⟨front, back, same, fronts, backs⟩ := exists_around chars
  have whole : lead ++ chars ++ trail =
      (lead ++ front) ++ trimChars chars ++ (back ++ trail) := by
    conv_lhs => rw [same]
    simp only [List.append_assoc]
  rw [whole]
  exact trimChars_around (allBlank_append.mpr ⟨leads, fronts⟩)
    (allBlank_append.mpr ⟨backs, trails⟩) (trimmed_trimChars chars)

/-! ## A word and its argument -/

/-- A line is a word with an argument after it, and any blanks before, between
and after them.  There may be no argument; one that is there stands apart from
the word. -/
structure Divides (line word argument : List Char) : Prop where
  cut : ∃ lead gap trail, line = lead ++ word ++ gap ++ argument ++ trail ∧
    AllBlank lead ∧ AllBlank gap ∧ AllBlank trail ∧ (argument ≠ [] → gap ≠ [])
  word_ne_nil : word ≠ []
  unbroken : Unbroken word
  trimmed : Trimmed argument

theorem cutAtBlank_unbroken (unbroken : Unbroken word) :
    cutAtBlank word = (word, []) := by
  have all : ∀ char ∈ word, (!isBlank char) = true := by
    intro char member
    rw [unbroken char member]
    rfl
  rw [cutAtBlank, List.takeWhile_eq_self_iff.mpr all,
    List.dropWhile_eq_nil_iff.mpr all, List.drop_nil]

theorem cutAtBlank_append {blank : Char} {rest : List Char}
    (unbroken : Unbroken word) (isBlank : isBlank blank = true) :
    cutAtBlank (word ++ blank :: rest) = (word, rest) := by
  have all : ∀ char ∈ word, (!Text.isBlank char) = true := by
    intro char member
    rw [unbroken char member]
    rfl
  rw [cutAtBlank, List.takeWhile_append_of_pos all,
    List.dropWhile_append_of_pos all]
  simp [isBlank]

/-- Cutting a trimmed line and trimming what follows its first word gives the
word and the argument. -/
theorem cutAtBlank_of_divides (divides : Divides line word argument) :
    trimChars line ≠ [] ∧ (cutAtBlank (trimChars line)).1 = word ∧
      trimChars (cutAtBlank (trimChars line)).2 = argument := by
  obtain ⟨⟨lead, gap, trail, rfl, leads, gaps, trails, apart⟩, filled, unbroken,
    trimmed⟩ := divides
  by_cases missing : argument = []
  · have whole : trimChars (lead ++ word ++ gap ++ argument ++ trail) = word := by
      rw [missing, List.append_nil, List.append_assoc _ gap]
      exact trimChars_around leads (allBlank_append.mpr ⟨gaps, trails⟩)
        unbroken.trimmed
    rw [whole, cutAtBlank_unbroken unbroken, missing]
    exact ⟨filled, rfl, rfl⟩
  · have inner : Trimmed (word ++ gap ++ argument) := by
      constructor
      · rw [List.append_assoc, List.head?_append_of_ne_nil _ filled]
        exact unbroken.trimmed.head
      · rw [List.getLast?_append_of_ne_nil _ missing]
        exact trimmed.last
    have whole : trimChars (lead ++ word ++ gap ++ argument ++ trail) =
        word ++ gap ++ argument := by
      rw [← trimChars_around leads trails inner]
      simp only [List.append_assoc]
    obtain ⟨blank, gap, rfl⟩ := List.exists_cons_of_ne_nil (apart missing)
    have blanks := List.forall_mem_cons.mp gaps
    rw [whole, List.append_assoc, List.cons_append,
      cutAtBlank_append unbroken blanks.1]
    refine ⟨by simp, rfl, ?_⟩
    rw [← List.append_nil (gap ++ argument)]
    exact trimChars_around blanks.2 nofun trimmed

theorem divides_cutAtBlank (filled : trimChars line ≠ []) :
    Divides line (cutAtBlank (trimChars line)).1
      (trimChars (cutAtBlank (trimChars line)).2) := by
  obtain ⟨lead, trail, around, leads, trails⟩ := exists_around line
  have first := (trimmed_trimChars line).head
  generalize trimChars line = inner at *
  subst around
  have whole := List.takeWhile_append_dropWhile (p := fun char => !isBlank char)
    (l := inner)
  have unbroken : Unbroken (cutAtBlank inner).1 := by
    intro char member
    simpa using List.mem_takeWhile_imp member
  have begun : (cutAtBlank inner).1 ≠ [] := by
    obtain ⟨char, rest, rfl⟩ := List.exists_cons_of_ne_nil filled
    simp [cutAtBlank, first char rfl]
  refine ⟨?_, begun, unbroken, trimmed_trimChars _⟩
  have stopped := List.head?_dropWhile_not (fun char => !isBlank char) inner
  cases after : inner.dropWhile (fun char => !isBlank char) with
  | nil =>
      refine ⟨lead, [], trail, ?_, leads, nofun, trails, ?_⟩
      · rw [after, List.append_nil] at whole
        simp [cutAtBlank, whole, after, trimChars]
      · simp [cutAtBlank, after, trimChars]
  | cons blank rest =>
      rw [after] at stopped whole
      obtain ⟨front, back, same, fronts, backs⟩ := exists_around rest
      refine ⟨lead, blank :: front, back ++ trail, ?_, leads, ?_,
        allBlank_append.mpr ⟨backs, trails⟩, fun _ => List.cons_ne_nil _ _⟩
      · have argument : (cutAtBlank inner).2 = rest := by
          simp [cutAtBlank, after]
        rw [argument]
        conv_lhs => rw [← whole, same]
        simp [cutAtBlank]
      · exact List.forall_mem_cons.mpr ⟨by simpa using stopped, fronts⟩

theorem divides_iff :
    Divides line word argument ↔
      trimChars line ≠ [] ∧ (cutAtBlank (trimChars line)).1 = word ∧
        trimChars (cutAtBlank (trimChars line)).2 = argument := by
  constructor
  · exact cutAtBlank_of_divides
  · rintro ⟨filled, rfl, rfl⟩
    exact divides_cutAtBlank filled

end SoloJournal.Text
