import Mathlib.Data.List.Perm.Basic
import SoloJournal.Proofs.Grammar
import SoloJournal.Terminal.Arguments

/-!
# Options in any order

The options of play are groups of one or two arguments.  Each sets a part of
what is asked for that no other sets, so that their order does not matter, and
the global options that stand between them, even within a group, are taken out
before they are read.  Read by its places, the list of arguments is never asked
for one behind its end.
-/

namespace SoloJournal.Terminal

/-! ## Groups of arguments -/

/-- An option of play as it is written. -/
inductive PlayOption where
  | gameDir (path : String)
  /-- The place of the save, after the long or the short name. -/
  | save (long : Bool) (path : String)
  | seed (number : UInt64)
  | fresh
  deriving DecidableEq

namespace PlayOption

/-- The arguments of an option. -/
def arguments : PlayOption → List String
  | gameDir path => [path]
  | save long path => [if long then "--save" else "-s", path]
  | seed number => ["--seed", Decimal.natText number.toNat]
  | fresh => ["--fresh"]

/-- What an option adds to what has been read. -/
def note (draft : PlayDraft) : PlayOption → PlayDraft
  | gameDir path => { draft with gameDir := some path }
  | save _ path => { draft with save := some path }
  | seed number => { draft with seed := some number }
  | fresh => { draft with fresh := true }

/-- A game directory that cannot be taken for an option. -/
def Plain : PlayOption → Prop
  | gameDir path => path.toList.head? ≠ some '-'
  | _ => True

end PlayOption

/-- All that is asked for, each option once. -/
def PlayOptions.written (long : Bool) (options : PlayOptions) :
    List PlayOption :=
  [.gameDir options.gameDir]
    ++ options.save.toList.map (.save long)
    ++ options.seed.toList.map .seed
    ++ if options.fresh then [.fresh] else []

theorem seed?_natText (seed : UInt64) :
    seed? (Decimal.natText seed.toNat) = some seed := by
  have digits := Decimal.natOf?_eq_some_iff.mp
    (Decimal.natOf?_toDigits seed.toNat)
  have small : seed.toNat < UInt64.size := seed.toNat_lt_size
  simp [seed?, Decimal.natText, digits.positiveOf?_eq, small]

theorem startsWith_dash_iff {text : String} :
    text.startsWith "-" = true ↔ text.toList.head? = some '-' := by
  rw [String.startsWith_string_iff]
  show ['-'] <+: text.toList ↔ _
  cases text.toList with
  | nil => simp
  | cons first rest => simp [List.cons_prefix_cons, eq_comm]

namespace PlayDraft

/-- What comes of the argument at the front, by the arguments after it. -/
theorem read_cons (draft : PlayDraft) (arg : String) (rest : List String) :
    draft.read (arg :: rest) =
      if arg = "--save" ∨ arg = "-s" then
        match rest with
        | path :: rest => read { draft with save := some path } rest
        | [] => .error .saveNeedsPath
      else if arg = "--seed" then
        match rest with
        | number :: rest =>
          match seed? number with
          | some seed => read { draft with seed := some seed } rest
          | none => .error (.invalidSeed number)
        | [] => .error .seedNeedsNumber
      else if arg = "--fresh" then read { draft with fresh := true } rest
      else if arg.startsWith "-" then .error (.unknownOption arg)
      else read { draft with gameDir := some arg } rest := by
  cases rest <;> rfl

end PlayDraft

namespace PlayOption

/-- An option is read off whatever it stands in front of. -/
theorem read_append (draft : PlayDraft) {option : PlayOption}
    (plain : option.Plain) (rest : List String) :
    draft.read (option.arguments ++ rest) = (note draft option).read rest := by
  cases option with
  | gameDir path =>
      have noOption : ¬ path.startsWith "-" = true :=
        mt startsWith_dash_iff.mp plain
      have other : ∀ name : String, name.startsWith "-" = true →
          path ≠ name := by
        rintro name dash rfl
        exact noOption dash
      have noSave := other "--save" (by decide +kernel)
      have noShort := other "-s" (by decide +kernel)
      have noSeed := other "--seed" (by decide +kernel)
      have noFresh := other "--fresh" (by decide +kernel)
      rw [arguments, List.singleton_append, PlayDraft.read_cons]
      simp [note, noOption, noSave, noShort, noSeed, noFresh]
  | save long path => cases long <;> simp [arguments, note, PlayDraft.read_cons]
  | seed number =>
      simp [arguments, note, PlayDraft.read_cons, seed?_natText]
  | fresh => simp [arguments, note, PlayDraft.read_cons]

theorem read_flatMap (draft : PlayDraft) {options : List PlayOption}
    (plain : ∀ option ∈ options, option.Plain) :
    draft.read (options.flatMap arguments) =
      .ok (options.foldl note draft) := by
  induction options generalizing draft with
  | nil => rfl
  | cons option options induction =>
      obtain ⟨first, others⟩ := List.forall_mem_cons.mp plain
      rw [List.flatMap_cons, read_append draft first, induction _ others]
      rfl

/-- Whether an option is one of those asked for. -/
def Asked (long : Bool) (options : PlayOptions) : PlayOption → Prop
  | gameDir path => path = options.gameDir
  | save name path => options.save = some path ∧ name = long
  | seed number => options.seed = some number
  | fresh => options.fresh = true

theorem mem_written_iff {long : Bool} {options : PlayOptions}
    {option : PlayOption} :
    option ∈ options.written long ↔ Asked long options option := by
  cases option <;> cases asked : options.fresh <;>
    simp [PlayOptions.written, Asked, asked, eq_comm]

/-- Two of the options asked for set different things, or they are the same
option. -/
theorem note_comm {long : Bool} {options : PlayOptions}
    {first second : PlayOption} (firstAsked : Asked long options first)
    (secondAsked : Asked long options second) (draft : PlayDraft) :
    note (note draft first) second = note (note draft second) first := by
  cases first <;> cases second <;> simp_all [Asked, note]

theorem foldl_note_written (long : Bool) (options : PlayOptions) :
    (options.written long).foldl note .empty =
      { gameDir := some options.gameDir, save := options.save
        seed := options.seed, fresh := options.fresh } := by
  obtain ⟨gameDir, save, seed, fresh⟩ := options
  cases save <;> cases seed <;> cases fresh <;> rfl

theorem plain_of_asked {long : Bool} {options : PlayOptions}
    (plain : options.gameDir.toList.head? ≠ some '-') {option : PlayOption}
    (asked : Asked long options option) : option.Plain := by
  cases option with
  | gameDir path => exact (asked : path = options.gameDir) ▸ plain
  | _ => trivial

/-- The options of play are read in whatever order they are written. -/
theorem readPlay_of_perm {long : Bool} {options : PlayOptions}
    (plain : options.gameDir.toList.head? ≠ some '-')
    {written : List PlayOption}
    (reordered : written.Perm (options.written long)) :
    Task.readPlay (written.flatMap arguments) = .ok options := by
  have asked : ∀ option ∈ written, Asked long options option :=
    fun option member => mem_written_iff.mp (reordered.mem_iff.mp member)
  have allPlain : ∀ option ∈ written, option.Plain :=
    fun option member => plain_of_asked plain (asked option member)
  have noted : written.foldl note .empty =
      (options.written long).foldl note .empty :=
    reordered.foldl_eq' (fun first firstHeld second secondHeld draft =>
      note_comm (asked first firstHeld) (asked second secondHeld) draft) _
  rw [Task.readPlay, read_flatMap _ allPlain, noted, foldl_note_written]
  rfl

end PlayOption

/-! ## Global options in between -/

/-- Arguments with global options put in between them anywhere. -/
inductive Interspersed : List String → List String → List String → Prop where
  | none : Interspersed [] [] []
  | argument {arg : String} {global args mixed : List String} :
      Interspersed global args mixed →
      Interspersed global (arg :: args) (arg :: mixed)
  | global {flag : String} {global args mixed : List String} :
      flag = "--no-color" ∨ flag = "--debug" →
      Interspersed global args mixed →
      Interspersed (flag :: global) args (flag :: mixed)

namespace Interspersed

variable {global args mixed : List String}

theorem isGlobalOption_iff {arg : String} :
    isGlobalOption arg = true ↔ arg = "--no-color" ∨ arg = "--debug" := by
  simp [isGlobalOption]

/-- Taking the global options out leaves the other arguments. -/
theorem filter_eq (interspersed : Interspersed global args mixed)
    (others : ∀ arg ∈ args, isGlobalOption arg = false) :
    mixed.filter (fun arg => !isGlobalOption arg) = args := by
  induction interspersed with
  | none => rfl
  | argument _ induction =>
      obtain ⟨first, others⟩ := List.forall_mem_cons.mp others
      rw [List.filter_cons_of_pos (by simp [first]), induction others]
  | global named _ induction =>
      have out := isGlobalOption_iff.mpr named
      rw [List.filter_cons_of_neg (by simp [out]), induction others]

/-- A global option is given when it has been put in. -/
theorem contains_eq (interspersed : Interspersed global args mixed)
    {flag : String} (absent : flag ∉ args) :
    mixed.contains flag = global.contains flag := by
  induction interspersed with
  | none => rfl
  | argument _ induction =>
      obtain ⟨other, later⟩ := not_or.mp (mt List.mem_cons.mpr absent)
      rw [List.contains_cons, induction later]
      simp [other]
  | global _ _ induction =>
      rw [List.contains_cons, List.contains_cons, induction absent]

end Interspersed

theorem isGlobalOption_of_plain {arg : String}
    (plain : arg.toList.head? ≠ some '-') : isGlobalOption arg = false := by
  refine Bool.eq_false_iff.mpr fun global => plain ?_
  rcases Interspersed.isGlobalOption_iff.mp global with rfl | rfl
  · decide +kernel
  · decide +kernel

/-- No argument of an option is a global option, unless the save is put at a
place with such a name. -/
theorem PlayOption.isGlobalOption_eq_false {option : PlayOption}
    (plain : option.Plain)
    (named : ∀ long path, option = .save long path →
      path ≠ "--no-color" ∧ path ≠ "--debug") :
    ∀ arg ∈ option.arguments, isGlobalOption arg = false := by
  cases option with
  | gameDir path => simpa [arguments] using isGlobalOption_of_plain plain
  | save long path =>
      have other : isGlobalOption path = false := by
        refine Bool.eq_false_iff.mpr (mt Interspersed.isGlobalOption_iff.mp ?_)
        exact not_or.mpr (named long path rfl)
      have name : isGlobalOption (if long then "--save" else "-s") = false := by
        cases long <;> decide +kernel
      simpa [arguments] using ⟨name, other⟩
  | seed number =>
      have name : isGlobalOption "--seed" = false := by decide +kernel
      have digits : isGlobalOption (Decimal.natText number.toNat) = false := by
        obtain ⟨first, rest, shape, noMinus, -⟩ :=
          (Decimal.natOf?_eq_some_iff.mp
            (Decimal.natOf?_toDigits number.toNat)).ne_sign
        refine isGlobalOption_of_plain ?_
        simpa [Decimal.natText, shape] using noMinus
      simpa [arguments] using ⟨name, digits⟩
  | fresh =>
      have name : isGlobalOption "--fresh" = false := by decide +kernel
      simpa [arguments] using name

/-! ## Reading by places -/

namespace PlayDraft

/-- What is done with the argument at a place: it is refused, or reading goes on
at a later place.  Nothing comes of it where there is no argument. -/
def passAt? (args : List String) (place : Nat) (draft : PlayDraft) :
    Option (Except UsageError (Nat × PlayDraft)) := do
  let arg ← args[place]?
  if arg = "--save" ∨ arg = "-s" then
    match args[place + 1]? with
    | some path => return .ok (place + 2, { draft with save := some path })
    | none => return .error .saveNeedsPath
  else if arg = "--seed" then
    match args[place + 1]? with
    | some number =>
      match seed? number with
      | some seed => return .ok (place + 2, { draft with seed := some seed })
      | none => return .error (.invalidSeed number)
    | none => return .error .seedNeedsNumber
  else if arg = "--fresh" then
    return .ok (place + 1, { draft with fresh := true })
  else if arg.startsWith "-" then return .error (.unknownOption arg)
  else return .ok (place + 1, { draft with gameDir := some arg })

/-- Goes on from a place as long as it is before the end, in at most so many
passes.  Nothing comes of it when they do not suffice, or when there is no
argument where one is wanted. -/
def readFrom? (args : List String) :
    Nat → Nat → PlayDraft → Option (Except UsageError PlayDraft)
  | 0, place, draft => if place < args.length then none else some (.ok draft)
  | passes + 1, place, draft =>
    if place < args.length then do
      match ← passAt? args place draft with
      | .ok (next, draft) => readFrom? args passes next draft
      | .error error => return .error error
    else some (.ok draft)

/-- What a pass over a place before the end has to come to. -/
inductive Passes (args : List String) (place : Nat) (draft : PlayDraft) :
    Option (Except UsageError (Nat × PlayDraft)) → Prop where
  | refused {error : UsageError} :
      draft.read (args.drop place) = .error error →
      Passes args place draft (some (.error error))
  | onward {next : Nat} {later : PlayDraft} :
      place < next →
      draft.read (args.drop place) = later.read (args.drop next) →
      Passes args place draft (some (.ok (next, later)))

theorem passes_passAt? {args : List String} {place : Nat} (draft : PlayDraft)
    (inside : place < args.length) :
    Passes args place draft (passAt? args place draft) := by
  have front : args.drop place = args[place] :: args.drop (place + 1) :=
    List.drop_eq_getElem_cons inside
  have second : args[place + 1]? = (args.drop (place + 1)).head? :=
    List.head?_drop.symm
  have rest : args.drop (place + 2) = (args.drop (place + 1)).tail := by
    rw [List.tail_drop]
  have reads := read_cons draft args[place] (args.drop (place + 1))
  rw [← front] at reads
  unfold passAt?
  rw [List.getElem?_eq_getElem inside, second]
  simp only [Option.bind_eq_bind, Option.bind_some]
  generalize args[place] = arg at reads
  generalize following : args.drop (place + 1) = others at reads rest
  by_cases isSave : arg = "--save" ∨ arg = "-s"
  · rw [if_pos isSave] at reads ⊢
    cases others with
    | nil => exact .refused reads
    | cons path others => exact .onward (by omega) (rest ▸ reads)
  rw [if_neg isSave] at reads ⊢
  by_cases isSeed : arg = "--seed"
  · rw [if_pos isSeed] at reads ⊢
    cases others with
    | nil => exact .refused reads
    | cons number others =>
        cases spelled : seed? number with
        | none =>
            simp only [spelled] at reads
            simpa [spelled] using Passes.refused reads
        | some seed =>
            simp only [spelled] at reads
            have next : args.drop (place + 2) = others := rest
            simpa [spelled] using
              Passes.onward (by omega : place < place + 2) (next ▸ reads)
  rw [if_neg isSeed] at reads ⊢
  by_cases isFresh : arg = "--fresh"
  · rw [if_pos isFresh] at reads ⊢
    exact .onward (by omega) (following ▸ reads)
  rw [if_neg isFresh] at reads ⊢
  by_cases dash : arg.startsWith "-" = true
  · rw [if_pos dash] at reads ⊢
    exact .refused reads
  · rw [if_neg dash] at reads ⊢
    exact .onward (by omega) (following ▸ reads)

/-- As many passes as there are arguments left are enough. -/
theorem readFrom?_eq {args : List String} {passes place : Nat}
    (enough : args.length ≤ place + passes) (draft : PlayDraft) :
    readFrom? args passes place draft =
      some (draft.read (args.drop place)) := by
  induction passes generalizing place draft with
  | zero =>
      have ended : args.length ≤ place := enough
      rw [readFrom?, if_neg (Nat.not_lt.mpr ended), List.drop_of_length_le ended]
      rfl
  | succ passes induction =>
      rw [readFrom?]
      split
      case isFalse ended =>
        rw [List.drop_of_length_le (Nat.not_lt.mp ended)]
        rfl
      case isTrue inside =>
        have pass := passes_passAt? draft inside
        generalize passAt? args place draft = result at pass
        cases pass with
        | refused reads => exact congrArg some reads.symm
        | onward further reads =>
            rw [reads]
            exact induction (by omega) _

/-- Reads the options of play by the places of the arguments, in no more passes
than there are arguments. -/
def readByPlace? (args : List String) : Option (Except UsageError PlayDraft) :=
  readFrom? args args.length 0 .empty

end PlayDraft

open PlayOption (readPlay_of_perm)

/-- Whatever is asked of play, its options can be written in any order, with
global options anywhere in between, and are read as just what is asked for,
together with just the global options that were put in.  And whatever the
arguments are, reading them by their places ends after no more passes than there
are arguments, never wants one that is not there, and gives the options that the
program reads. -/
theorem options_read_in_any_order :
    (∀ (long : Bool) (options : PlayOptions) (written : List PlayOption)
        (global args : List String),
      options.gameDir.toList.head? ≠ some '-' →
      (∀ path, options.save = some path →
        path ≠ "--no-color" ∧ path ≠ "--debug") →
      written.Perm (options.written long) →
      Interspersed global ("play" :: written.flatMap PlayOption.arguments)
        args →
        readArguments args =
          .ok ({ noColor := global.contains "--no-color"
                 debug := global.contains "--debug" },
            .play options)) ∧
      ∀ args : List String,
        PlayDraft.readByPlace? args = some (PlayDraft.empty.read args) := by
  constructor
  · intro long options written global args plain named reordered interspersed
    have others : ∀ arg ∈ "play" :: written.flatMap PlayOption.arguments,
        isGlobalOption arg = false := by
      refine List.forall_mem_cons.mpr ⟨by decide +kernel, ?_⟩
      intro arg member
      obtain ⟨option, held, within⟩ := List.mem_flatMap.mp member
      have asked : PlayOption.Asked long options option :=
        PlayOption.mem_written_iff.mp (reordered.mem_iff.mp held)
      refine PlayOption.isGlobalOption_eq_false
        (PlayOption.plain_of_asked plain asked) ?_ arg within
      rintro name path rfl
      exact named path asked.1
    have absent : ∀ flag, isGlobalOption flag = true →
        flag ∉ "play" :: written.flatMap PlayOption.arguments := by
      intro flag isGlobal held
      rw [others flag held] at isGlobal
      cases isGlobal
    rw [readArguments, interspersed.filter_eq others,
      interspersed.contains_eq (absent _ (by decide +kernel)),
      interspersed.contains_eq (absent _ (by decide +kernel)), Task.read,
      readPlay_of_perm plain reordered]
    rfl
  · intro args
    exact PlayDraft.readFrom?_eq (by omega) .empty

/-- The largest seed, and a save with the name of an option, are written before
the game directory, with global options before everything and within groups. -/
theorem options_read_in_any_order_mixed :
    let options : PlayOptions :=
      { gameDir := "games/lighthouse", save := some "--fresh"
        seed := some 18446744073709551615, fresh := true }
    let written : List PlayOption :=
      [.fresh, .seed 18446744073709551615, .save false "--fresh",
        .gameDir "games/lighthouse"]
    let global := ["--debug", "--no-color", "--debug"]
    let args := ["--debug", "play", "--fresh", "--seed", "--no-color",
      "18446744073709551615", "-s", "--debug", "--fresh", "games/lighthouse"]
    options.gameDir.toList.head? ≠ some '-' ∧
      ("--fresh" ≠ "--no-color" ∧ "--fresh" ≠ "--debug") ∧
      written.Perm (options.written false) ∧
      Interspersed global ("play" :: written.flatMap PlayOption.arguments)
        args ∧
      readArguments args =
        .ok ({ noColor := true, debug := true }, .play options) := by
  intro options written global args
  have plain : options.gameDir.toList.head? ≠ some '-' := by decide +kernel
  have named : "--fresh" ≠ "--no-color" ∧ "--fresh" ≠ "--debug" := by
    decide +kernel
  have reordered : written.Perm (options.written false) := by decide +kernel
  have spelled : written.flatMap PlayOption.arguments =
      ["--fresh", "--seed", "18446744073709551615", "-s", "--fresh",
        "games/lighthouse"] := by
    decide +kernel
  have interspersed : Interspersed global
      ("play" :: written.flatMap PlayOption.arguments) args := by
    rw [spelled]
    exact .global (.inr rfl) (.argument (.argument (.argument
      (.global (.inl rfl) (.argument (.argument (.global (.inr rfl)
        (.argument (.argument .none)))))))))
  have read := options_read_in_any_order.1 false options written global args
    plain (by rintro _ ⟨⟩; exact named) reordered interspersed
  exact ⟨plain, named, reordered, interspersed, read⟩

end SoloJournal.Terminal
