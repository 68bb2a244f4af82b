import SoloJournal.Play.Tower

/-!
# The counters

Tokens never fall below zero, and pulling blocks leaves the tokens alone.
-/

namespace SoloJournal

namespace Ledger

theorem zero_le_floor (tokens : Int64) : 0 ≤ max tokens 0 := by
  show 0 ≤ if tokens ≤ 0 then 0 else tokens
  split
  · exact Int64.le_refl 0
  · exact Int64.le_of_lt (Int64.not_le.mp ‹_›)

theorem floor_of_nonneg {tokens : Int64} (nonneg : 0 ≤ tokens) :
    max tokens 0 = tokens := by
  show (if tokens ≤ 0 then 0 else tokens) = tokens
  split
  · exact (Int64.le_antisymm ‹_› nonneg).symm
  · rfl

theorem toInt_floor (tokens : Int64) :
    (max tokens 0).toInt = max 0 tokens.toInt := by
  show (if tokens ≤ 0 then 0 else tokens).toInt = max 0 tokens.toInt
  split
  case isTrue spent =>
    rw [Int64.le_iff_toInt_le, Int64.toInt_zero] at spent
    rw [Int64.toInt_zero]
    omega
  case isFalse left =>
    rw [Int64.le_iff_toInt_le, Int64.toInt_zero] at left
    omega

/-- A number too large or too small for its type is held at its nearest end. -/
theorem toInt_ofIntClamp (value : Int) :
    (Int64.ofIntClamp value).toInt =
      max Int64.minValue.toInt (min value Int64.maxValue.toInt) := by
  have ends : Int64.minValue.toInt ≤ Int64.maxValue.toInt := by decide
  by_cases low : Int64.minValue.toInt ≤ value
  · by_cases high : value ≤ Int64.maxValue.toInt
    · rw [Int64.toInt_ofIntClamp low high]
      omega
    · rw [Int64.ofIntClamp, dif_pos low, dif_neg high]
      omega
  · rw [Int64.ofIntClamp, dif_neg low]
    omega

/-- Tokens are credited as whole numbers, then held within their type, then
kept from falling below zero. -/
theorem toInt_creditedTokens (tokens delta : Int64) :
    (creditedTokens tokens delta).toInt =
      max 0 (max Int64.minValue.toInt
        (min (tokens.toInt + delta.toInt) Int64.maxValue.toInt)) := by
  rw [creditedTokens, toInt_floor, toInt_ofIntClamp]

theorem opening_tokens_nonneg (tokens : Int64) (stability : UInt32) :
    0 ≤ (opening tokens stability).tokens :=
  zero_le_floor tokens

theorem changeTokens_nonneg (ledger : Ledger) (delta : Int64) :
    0 ≤ (ledger.changeTokens delta).2.tokens :=
  zero_le_floor _

/-- A ledger without debt is the one that its counters open. -/
theorem opening_self {ledger : Ledger} (nonneg : 0 ≤ ledger.tokens) :
    opening ledger.tokens ledger.stability = ledger := by
  unfold opening
  rw [floor_of_nonneg nonneg]

end Ledger

theorem Tower.pullMany_tokens {source : Type} [RandomSource source]
    (thresholds : Thresholds) (count : Nat) (ledger : Ledger)
    (state : source) :
    (Tower.pullMany thresholds count ledger state).2.2.1.tokens =
      ledger.tokens := by
  induction count generalizing ledger state with
  | zero => rfl
  | succ count induction =>
      simp only [Tower.pullMany]
      split
      · rfl
      · exact induction _ _

end SoloJournal
