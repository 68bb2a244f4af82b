import Mathlib.Data.List.DropRight
import SoloJournal.Proofs.Grammar
import SoloJournal.Terminal.Table

/-!
# Notes in a journal

A journal that is kept by notes is what it began with and the notes since then,
one to a line.  Cutting it into its lines gives the notes back, since a note is
neither empty nor ends in a blank, and no typed line holds a line feed.
-/

namespace SoloJournal

namespace Text

section Cutting

variable {symbol : Type} [DecidableEq symbol] {feed carriage : symbol}
  {line text rest : List symbol}

theorem cutLines_append (free : feed ∉ text) :
    cutLines feed carriage line (text ++ rest) =
      cutLines feed carriage (text.reverse ++ line) rest := by
  induction text generalizing line with
  | nil => rfl
  | cons next text induction =>
      obtain ⟨other, free⟩ := List.ne_and_not_mem_of_not_mem_cons free
      rw [List.cons_append, cutLines, if_neg (Ne.symm other), induction free,
        List.reverse_cons, List.append_assoc, List.singleton_append]

theorem endedLine_reverse (last : text.getLast? ≠ some carriage) :
    endedLine carriage text.reverse = text := by
  rw [← List.head?_reverse] at last
  cases reversed : text.reverse with
  | nil => exact (List.reverse_eq_nil_iff.mp reversed).symm
  | cons final earlier =>
      have other : final ≠ carriage := by simpa [reversed] using last
      rw [endedLine, if_neg other, ← reversed, List.reverse_reverse]

/-- Lines that are joined by line feeds are cut where they were joined. -/
theorem cutLines_intercalate {written : List (List symbol)}
    (plain : ∀ text ∈ written,
      text ≠ [] ∧ feed ∉ text ∧ text.getLast? ≠ some carriage) :
    cutLines feed carriage [] ([feed].intercalate written) = written := by
  induction written with
  | nil => rfl
  | cons text written induction =>
      obtain ⟨⟨nonempty, free, last⟩, plain⟩ := List.forall_mem_cons.mp plain
      -- no line feed ends the last line, which is why it must not be empty
      cases written with
      | nil =>
          rw [List.intercalate_singleton, ← List.append_nil text,
            cutLines_append free, cutLines]
          simp [nonempty]
      | cons next written =>
          rw [List.intercalate_cons_cons, List.append_assoc,
            cutLines_append free, List.append_nil, List.singleton_append,
            cutLines, if_pos rfl, endedLine_reverse last, induction plain]

end Cutting

/-- A text that takes one line: there is something in it, no line feed is, and
it ends in no blank. -/
def TakesLine (text : String) : Prop :=
  text ≠ "" ∧ '\n' ∉ text.toList ∧ Trimmed text.toList

theorem lines_intercalate {written : List String}
    (plain : ∀ text ∈ written, TakesLine text) :
    lines ("\n".intercalate written) = written := by
  have cut : cutLines '\n' '\r' [] (['\n'].intercalate
      (written.map String.toList)) = written.map String.toList := by
    apply cutLines_intercalate
    rintro _ listed
    obtain ⟨text, member, rfl⟩ := List.mem_map.mp listed
    obtain ⟨nonempty, free, trimmed⟩ := plain text member
    refine ⟨by simpa using nonempty, free, ?_⟩
    intro last
    exact absurd (trimmed.last _ last) (by decide)
  unfold lines
  rw [String.toList_intercalate]
  show (cutLines '\n' '\r' [] (['\n'].intercalate _)).map String.ofList = written
  rw [cut, List.map_map]
  simp [Function.comp_def]

end Text

namespace Terminal

open Table (withNote)

theorem isEmpty_intercalate {parts : List String}
    (filled : ∀ part ∈ parts, part ≠ "") :
    ("\n".intercalate parts).isEmpty = parts.isEmpty := by
  cases parts with
  | nil => rfl
  | cons part parts =>
      have first := filled part List.mem_cons_self
      rw [List.isEmpty_cons, Bool.eq_false_iff, ne_eq, String.isEmpty_iff,
        ← String.toList_eq_nil_iff, String.toList_intercalate]
      cases parts <;>
        simp [List.intercalate_singleton, List.intercalate_cons_cons, first]

theorem withNote_intercalate {parts : List String} {text : String}
    (filled : ∀ part ∈ parts, part ≠ "") :
    withNote ("\n".intercalate parts) text =
      "\n".intercalate (parts ++ [text]) := by
  rw [withNote, isEmpty_intercalate filled]
  cases parts with
  | nil => rfl
  | cons part parts =>
      rw [String.intercalate_append_of_ne_nil (List.cons_ne_nil _ _)
        (List.cons_ne_nil _ _)]
      rfl

/-- What a typed line notes takes one line. -/
theorem takesLine_of_parse {line text : String}
    (parsed : Command.parse line = .ok (some (.note text)))
    (free : '\n' ∉ line.toList) : Text.TakesLine text := by
  obtain ⟨nonempty, trimmed⟩ := Command.note_of_parse parsed
  obtain ⟨word, argument, divides, -, -, rfl⟩ :=
    Command.parse_eq_some_iff.mp parsed
  obtain ⟨lead, gap, trail, same, -⟩ := divides.cut
  refine ⟨nonempty, ?_, trimmed⟩
  intro broken
  rw [String.toList_ofList] at broken
  rw [same] at free
  simp [broken] at free

namespace Command

/-- The journal after a command, where it was some text before. -/
def journalAfter (journal : String) : Command → String
  | note text => withNote journal text
  | restart => ""
  | _ => journal

def note? : Command → Option String
  | note text => some text
  | _ => none

end Command

/-- The texts that were noted since the last new game. -/
def latestNotes (commands : List Command) : List String :=
  (commands.rtakeWhile (· ≠ .restart)).filterMap Command.note?

/-- What a journal that began with some text consists of after commands: this
text, unless it is empty or there was a new game since, and the notes. -/
def journalParts (start : String) (commands : List Command) : List String :=
  (if start = "" ∨ .restart ∈ commands then [] else [start])
    ++ latestNotes commands

variable {start : String} {commands : List Command} {command : Command}

theorem latestNotes_concat :
    latestNotes (commands ++ [command]) =
      if command = .restart then []
      else latestNotes commands ++ command.note?.toList := by
  unfold latestNotes
  rw [List.rtakeWhile_concat]
  by_cases renews : command = .restart
  · simp [renews]
  · simp only [renews, ne_eq, not_false_eq_true, decide_true, if_true,
      List.filterMap_append, if_false]
    cases noted : command.note? <;> simp [noted]

theorem journalParts_concat :
    journalParts start (commands ++ [command]) =
      if command = .restart then []
      else journalParts start commands ++ command.note?.toList := by
  unfold journalParts
  rw [latestNotes_concat]
  by_cases renews : command = .restart
  · simp [renews]
  · have same : Command.restart ∈ commands ++ [command] ↔
        Command.restart ∈ commands := by
      simp [Ne.symm renews]
    simp only [renews, same, if_false, List.append_assoc]

theorem note_of_latest {text : String}
    (latest : text ∈ latestNotes commands) : .note text ∈ commands := by
  obtain ⟨command, recent, same⟩ := List.mem_filterMap.mp latest
  have earlier := (List.rtakeWhile_suffix _ _).mem recent
  cases command <;> cases same
  exact earlier

/-- No part of a journal is empty, so none is lost where they are joined. -/
theorem part_ne_empty (noted : ∀ text, .note text ∈ commands → text ≠ "")
    {part : String} (member : part ∈ journalParts start commands) :
    part ≠ "" := by
  rcases List.mem_append.mp member with first | latest
  · split at first
    · cases first
    · rename_i begins
      rw [List.mem_singleton.mp first]
      exact fun empty => begins (.inl empty)
  · exact noted part (note_of_latest latest)

/-- A journal consists of its parts, each on lines of its own. -/
theorem journal_eq_parts
    (noted : ∀ text, .note text ∈ commands → text ≠ "") :
    commands.foldl Command.journalAfter start =
      "\n".intercalate (journalParts start commands) := by
  -- on the last command, since a new game forgets what was noted before it
  induction commands using List.reverseRecOn with
  | nil =>
      by_cases empty : start = "" <;>
        simp [journalParts, latestNotes, List.rtakeWhile, empty,
          String.intercalate_singleton]
  | append_singleton commands command induction =>
      have earlier : ∀ text, .note text ∈ commands → text ≠ "" :=
        fun text member => noted text (List.mem_append_left _ member)
      rw [List.foldl_append, induction earlier, journalParts_concat,
        List.foldl_cons, List.foldl_nil]
      cases command with
      | note text =>
          exact withNote_intercalate fun _ => part_ne_empty earlier
      | restart => rfl
      | _ => simp [Command.journalAfter, Command.note?]

end Terminal

end SoloJournal
