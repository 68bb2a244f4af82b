import SoloJournal.Proofs.Applying
import SoloJournal.Proofs.Loaded
import SoloJournal.Proofs.Standing

/-!
# The books of a deal

The books write down by what the tokens were changed and which blocks were lost
since the last deal.  A change that meets the floor of the tokens leaves none,
and whatever changes the tokens also checks the end of the game.  So in a game
that goes on no change has met the floor, and the tokens are what the books
come to.
-/

namespace SoloJournal

/-- What changed the counters since the last deal, the earliest first. -/
structure Books where
  credits : List Int64
  /-- The blocks that each pull lost. -/
  losses : List UInt32

namespace Books

def opened : Books := { credits := [], losses := [] }

/-- What credits come to from the first tokens on, as a whole number that is
held neither by a floor nor by a type. -/
def balance (content : Content) (credits : List Int64) : Int :=
  content.rules.mechanics.tokens.initial.toInt + (credits.map Int64.toInt).sum

/-- At no time do the credits come to more than tokens can be. -/
def Fits (content : Content) (credits : List Int64) : Prop :=
  ∀ earlier, earlier <+: credits →
    balance content earlier ≤ Int64.maxValue.toInt

def lossesOf (events : List Event) : List UInt32 :=
  (events.filterMap PullAt.ofEvent?).map (fun pulled => pulled.pull.lost)

theorem balance_concat (content : Content) (credits : List Int64)
    (delta : Int64) :
    balance content (credits ++ [delta]) =
      balance content credits + delta.toInt := by
  simp [balance, Int.add_assoc]

instance {content : Content} {credits : List Int64} :
    Decidable (Fits content credits) :=
  decidable_of_iff
    (∀ earlier ∈ credits.inits,
      balance content earlier ≤ Int64.maxValue.toInt)
    (forall_congr' fun _ => imp_congr_left (List.mem_inits _ _))

theorem Fits.earlier {content : Content} {credits : List Int64}
    {delta : Int64} (fits : Fits content (credits ++ [delta])) :
    Fits content credits := by
  intro earlier front
  exact fits earlier (front.trans (List.prefix_append credits [delta]))

/-- A credit that leaves tokens has not met the floor. -/
theorem toInt_credited {tokens delta : Int64}
    (left : 0 < (Ledger.creditedTokens tokens delta).toInt)
    (fits : tokens.toInt + delta.toInt ≤ Int64.maxValue.toInt) :
    (Ledger.creditedTokens tokens delta).toInt =
      tokens.toInt + delta.toInt := by
  have lowest : Int64.minValue.toInt ≤ 0 := by decide
  rw [Ledger.toInt_creditedTokens] at left ⊢
  omega

variable {σ : Type}

/-- What the books of a deal say of the counters of its game. -/
structure Balances (content : Content) (books : Books) (game : Game σ) :
    Prop where
  content_eq : game.content = content
  tokens_eq : game.status = .active → Fits content books.credits →
    game.ledger.tokens.toInt = balance content books.credits
  /-- At no time were more tokens taken than there were. -/
  solvent : game.status = .active → Fits content books.credits →
    ∀ earlier, earlier <+: books.credits → 0 ≤ balance content earlier
  stability_eq :
    game.ledger.stability.toNat + (books.losses.map UInt32.toNat).sum =
      content.rules.mechanics.stability.initial.toNat

variable {content : Content} {books : Books} {game after : Game σ}

theorem Balances.unchanged (balances : Balances content books game)
    (content_eq : after.content = game.content)
    (ledger_eq : after.ledger = game.ledger)
    (status_eq : after.status = game.status) :
    Balances content books after where
  content_eq := content_eq.trans balances.content_eq
  tokens_eq := by
    rw [ledger_eq, status_eq]
    exact balances.tokens_eq
  solvent := by
    rw [status_eq]
    exact balances.solvent
  stability_eq := by
    rw [ledger_eq]
    exact balances.stability_eq

/-- A credit of the tokens with the losses that come with it, after which a game
is active only when tokens are left. -/
structure Credits (game : Game σ) (delta : Int64) (losses : List UInt32)
    (after : Game σ) : Prop where
  active : game.status = .active
  tokens_eq : after.ledger.tokens =
    Ledger.creditedTokens game.ledger.tokens delta
  left : after.status = .active → 0 < after.ledger.tokens
  lost : (losses.map UInt32.toNat).sum + after.ledger.stability.toNat =
    game.ledger.stability.toNat

theorem Balances.credited (balances : Balances content books game)
    {delta : Int64} {losses : List UInt32}
    (credits : Credits game delta losses after)
    (content_eq : after.content = game.content) :
    Balances content
      ⟨books.credits ++ [delta], books.losses ++ losses⟩ after := by
  have tokens : after.status = .active →
      Fits content (books.credits ++ [delta]) →
        after.ledger.tokens.toInt =
          balance content (books.credits ++ [delta]) := by
    intro goesOn fits
    have before := balances.tokens_eq credits.active fits.earlier
    have whole := fits _ (List.prefix_refl _)
    -- the floor leaves no tokens, so a game that goes on did not meet it
    have left := Int64.lt_iff_toInt_lt.mp (credits.left goesOn)
    rw [credits.tokens_eq] at left ⊢
    rw [balance_concat, ← before] at whole ⊢
    exact toInt_credited left whole
  exact {
    content_eq := content_eq.trans balances.content_eq
    tokens_eq := tokens
    solvent := by
      intro goesOn fits earlier front
      rcases List.prefix_concat_iff.mp front with rfl | front
      · rw [← tokens goesOn fits]
        exact Int.le_of_lt (Int64.lt_iff_toInt_lt.mp (credits.left goesOn))
      · exact balances.solvent credits.active fits.earlier earlier front
    stability_eq := by
      have before := balances.stability_eq
      have lost := credits.lost
      rw [List.map_append, List.sum_append]
      omega }

theorem credits_adjusted {delta : Int64} {change : Change Int64}
    {ledger : Ledger} (active : game.status = .active)
    (changed : game.ledger.changeTokens delta = (change, ledger)) :
    Credits game delta
      (lossesOf ((if change.isReal then [.tokensChanged change] else [])
        ++ (Game.checkEnd { game with ledger }).1))
      (Game.checkEnd { game with ledger }).2 := by
  have unlost : lossesOf
      ((if change.isReal then [.tokensChanged change] else [])
        ++ (Game.checkEnd { game with ledger }).1) = [] := by
    rw [Change.events_isReal, Game.events_checkEnd (by exact active), lossesOf,
      List.filterMap_append, PullAt.ofEvent?_unless rfl,
      PullAt.ofEvent?_unless rfl]
    rfl
  rw [unlost, Game.checkEnd_of_active (by exact active)]
  cases changed
  exact {
    active
    tokens_eq := rfl
    left := Status.tokens_pos_of_judge
    lost := Nat.zero_add _ }

variable [RandomSource σ]

/-- What a move changes the tokens by, when it is accepted: what the prompt of
the applied card says, or what is asked for. -/
def creditsOf (game : Game σ) (move : Move) : List Int64 :=
  match move, (game.perform move).answer with
  | .adjustTokens delta, .ok _ => [delta]
  | .resolve, .ok (.resolved applied) =>
      ((game.content.catalog.prompt? applied.card).map Prompt.tokens).toList
  | _, _ => []

/-- The books after a move.  A new deal opens them anew. -/
def next (books : Books) (game : Game σ) (move : Move) : Books :=
  if move = .restart then opened
  else
    { credits := books.credits ++ creditsOf game move
      losses := books.losses ++ lossesOf (game.perform move).events }

def afterMoves (books : Books) (game : Game σ) : List Move → Books
  | [] => books
  | move :: moves =>
      (books.next game move).afterMoves (game.perform move).after moves

theorem credits_applyPrompt {card : Card} {prompt : Prompt}
    (active : game.status = .active) :
    Credits game prompt.tokens (lossesOf (game.applyPrompt card prompt).events)
      (game.applyPrompt card prompt).after := by
  obtain ⟨pulls, applies⟩ := @Game.applies_applyPrompt σ _ game card prompt active
  exact {
    active
    tokens_eq := by
      rw [← Int64.toInt_inj, Ledger.toInt_creditedTokens]
      exact applies.tokens_eq
    left := by
      rw [applies.status_eq]
      exact Status.tokens_pos_of_judge
    lost := by
      have fallen := applies.descends.sum_lost_add
      rw [lossesOf, applies.ofEvent?_events, List.map_map]
      exact fallen }

/-- A move that is no new deal leaves the counters and the status alone, or it
is a credit. -/
theorem credits_perform (game : Game σ) {move : Move}
    (goesOn : move ≠ .restart) :
    (creditsOf game move = [] ∧ lossesOf (game.perform move).events = [] ∧
        (game.perform move).after.ledger = game.ledger ∧
        (game.perform move).after.status = game.status) ∨
      ∃ delta, creditsOf game move = [delta] ∧
        Credits game delta (lossesOf (game.perform move).events)
          (game.perform move).after := by
  have performs := Game.performs_perform game move
  unfold creditsOf
  generalize game.perform move = outcome at performs
  cases performs with
  | refused =>
      left
      cases move with
      | restart => exact absurd rfl goesOn
      | _ => exact ⟨rfl, rfl, rfl, rfl⟩
  | rolled => exact .inl ⟨rfl, rfl, rfl, rfl⟩
  | drawn => exact .inl ⟨rfl, rfl, rfl, rfl⟩
  | drawnAnew => exact .inl ⟨rfl, rfl, rfl, rfl⟩
  | @resolved card prompt active hand known =>
      refine .inr ⟨prompt.tokens, ?_, credits_applyPrompt active⟩
      show ((game.content.catalog.prompt? card).map Prompt.tokens).toList = _
      rw [known]
      rfl
  | @adjusted delta change ledger active changed =>
      exact .inr ⟨delta, rfl, credits_adjusted active changed⟩
  | written => exact .inl ⟨rfl, rfl, rfl, rfl⟩
  | restarted => exact absurd rfl goesOn

theorem balances_start (solvent : 0 ≤ content.rules.mechanics.tokens.initial)
    (source : σ) : Balances content opened (Game.start content source) := by
  have tokens : (Game.start content source).ledger.tokens =
      content.rules.mechanics.tokens.initial :=
    Ledger.floor_of_nonneg solvent
  have nonneg := Int64.le_iff_toInt_le.mp solvent
  exact {
    content_eq := rfl
    tokens_eq := by
      intro active fits
      rw [tokens]
      simp [balance, opened]
    solvent := by
      intro active fits earlier front
      rw [List.prefix_nil.mp front]
      simpa [balance] using nonneg
    stability_eq := rfl }

theorem balances_next
    (solvent : 0 ≤ content.rules.mechanics.tokens.initial)
    (balances : Balances content books game) (move : Move) :
    Balances content (books.next game move) (game.perform move).after := by
  by_cases again : move = .restart
  · subst again
    have dealt := balances_start solvent game.source
    rw [← balances.content_eq] at dealt ⊢
    exact dealt
  have content_eq := Game.content_perform game move
  unfold next
  rw [if_neg again]
  rcases credits_perform game again with
    ⟨uncredited, unlost, ledger, status⟩ | ⟨delta, credited, credits⟩
  · rw [uncredited, unlost, List.append_nil, List.append_nil]
    exact balances.unchanged content_eq ledger status
  · rw [credited]
    exact balances.credited credits content_eq

theorem balances_afterMoves
    (solvent : 0 ≤ content.rules.mechanics.tokens.initial)
    (balances : Balances content books game) (moves : List Move) :
    Balances content (books.afterMoves game moves) (game.afterMoves moves) := by
  induction moves generalizing books game with
  | nil => exact balances
  | cons move moves induction =>
      exact induction (balances_next solvent balances move)

/-- The books are exact.  In every run of a new game that does not begin in
debt, as long as it is active and its tokens never come to more than they can
hold, the tokens are the first ones changed by every applied card and every
adjustment since the last deal: the floor has forgiven no debt, for there never
was one.  The stability is at all times the first one without the blocks that
the pulls since the last deal were told to lose. -/
theorem counters_exact
    (solvent : 0 ≤ content.rules.mechanics.tokens.initial) (source : σ)
    (moves : List Move) :
    let game := (Game.start content source).afterMoves moves
    let books := opened.afterMoves (Game.start content source) moves
    (game.status = .active → Fits content books.credits →
        game.ledger.tokens.toInt =
            content.rules.mechanics.tokens.initial.toInt
              + (books.credits.map Int64.toInt).sum ∧
          ∀ earlier, earlier <+: books.credits →
            0 ≤ balance content earlier) ∧
      game.ledger.stability.toNat + (books.losses.map UInt32.toNat).sum =
        content.rules.mechanics.stability.initial.toNat := by
  intro game books
  have balances : Balances content books game :=
    balances_afterMoves solvent (balances_start solvent source) moves
  constructor
  · intro active fits
    exact ⟨balances.tokens_eq active fits, balances.solvent active fits⟩
  · exact balances.stability_eq

/-- Two deals: in the second one nearly all tokens are given up, a draw is
refused, and the applied card costs a token and a block for each one on the
dice. -/
def secondDeal : List Move :=
  [.adjustTokens (-3), .restart, .adjustTokens 9, .adjustTokens (-12), .draw,
    .draw, .resolve]

/-- Only what was entered since the second deal counts: of five tokens one is
left, and of ten blocks eight. -/
theorem counters_exact_second_deal :
    let fresh := Game.start Content.practice (LaidOut.mk [1, 2, 6, 1])
    let game := fresh.afterMoves secondDeal
    let books := opened.afterMoves fresh secondDeal
    0 ≤ Content.practice.rules.mechanics.tokens.initial ∧
      game.status = .active ∧ Fits Content.practice books.credits ∧
      books.credits = [9, -12, -1] ∧ books.losses = [2] ∧
      game.ledger.tokens.toInt = 5 + (9 - 12 - 1) ∧
      game.ledger.stability.toNat = 10 - 2 := by
  intro fresh game books
  have solvent : 0 ≤ Content.practice.rules.mechanics.tokens.initial := by
    decide
  have active : game.status = .active := by decide +kernel
  have credits : books.credits = [9, -12, -1] := by decide +kernel
  have losses : books.losses = [2] := by decide +kernel
  have fits : Fits Content.practice books.credits := by
    rw [credits]
    decide +kernel
  obtain ⟨counted, stability⟩ :=
    counters_exact solvent (LaidOut.mk [1, 2, 6, 1]) secondDeal
  have tokens := (counted active fits).1
  have left := Nat.eq_sub_of_add_eq stability
  rw [credits] at tokens
  rw [losses] at left
  refine ⟨solvent, active, fits, credits, losses, ?_, ?_⟩
  · rw [tokens]
    decide
  · rw [left]
    decide

end Books

end SoloJournal
