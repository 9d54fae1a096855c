import MarketBridge.Inspection.Arrival
import MarketBridge.Ledger.Entries
import MarketBridge.Payment.Agreement
import MarketBridge.Payment.Intent

/-!
# The shares of an inspection fee

The locked terms of a request are the ones that its fee and its fee payer had when the seller
confirmed.  The shares of the two parties are cents, and together they are the fee.
-/

namespace MarketBridge

open Relational

/-! ## Rounding -/

theorem roundMoney_half (n : ℤ) : roundMoney ((n : ℚ) / 100 / 2) = (((n + 1) / 2 : ℤ) : ℚ) / 100 := by
  have hlow : ((n + 1) / 2 : ℤ) * 2 ≤ n + 1 := by omega
  have hhigh : n + 1 < ((n + 1) / 2 : ℤ) * 2 + 2 := by omega
  have hlow : (((n + 1) / 2 : ℤ) : ℚ) * 2 ≤ n + 1 := by exact_mod_cast hlow
  have hhigh : (n : ℚ) + 1 < (((n + 1) / 2 : ℤ) : ℚ) * 2 + 2 := by exact_mod_cast hhigh
  have hfloor : ⌊(n : ℚ) / 100 / 2 * 100 + 1 / 2⌋ = (n + 1) / 2 := by
    rw [Int.floor_eq_iff]
    constructor
    · linarith
    · linarith
  unfold roundMoney
  rw [hfloor]

theorem halves_of_isCents {fee : ℚ} (hcents : IsCents fee) (hpos : 0 < fee) :
    0 < roundMoney (fee / 2) ∧ 0 ≤ fee - roundMoney (fee / 2) ∧
      roundMoney (fee - roundMoney (fee / 2)) = fee - roundMoney (fee / 2) ∧
      |roundMoney (fee / 2) - (fee - roundMoney (fee / 2))| ≤ 1 / 100 := by
  have hrest : IsCents (fee - roundMoney (fee / 2)) := hcents.sub (roundMoney_isCents _)
  refine ⟨?_, ?_, roundMoney_of_isCents hrest, ?_⟩
  all_goals
    obtain ⟨n, rfl⟩ := hcents
    rw [roundMoney_half]
    have hn : (0 : ℚ) < n := by linarith
    have hn : 0 < n := by exact_mod_cast hn
  · have hhalf : (0 : ℤ) < (n + 1) / 2 := by omega
    have hhalf : (0 : ℚ) < ((n + 1) / 2 : ℤ) := by exact_mod_cast hhalf
    linarith
  · have hhalf : (n + 1) / 2 ≤ n := by omega
    have hhalf : (((n + 1) / 2 : ℤ) : ℚ) ≤ n := by exact_mod_cast hhalf
    linarith
  · have hlow : n ≤ (n + 1) / 2 * 2 := by omega
    have hhigh : (n + 1) / 2 * 2 ≤ n + 1 := by omega
    have hlow : (n : ℚ) ≤ (((n + 1) / 2 : ℤ) : ℚ) * 2 := by exact_mod_cast hlow
    have hhigh : (((n + 1) / 2 : ℤ) : ℚ) * 2 ≤ n + 1 := by exact_mod_cast hhigh
    rw [abs_le]
    constructor
    · linarith
    · linarith

/-! ## Terms -/

namespace InspectionRequest

/-- The terms that a confirmation would lock if the fee were this one. -/
structure HasTerms (r : InspectionRequest) (fee : ℚ) : Prop where
  amount : r.lockedFee = some fee
  payer : r.lockedFeePayer = some r.feePayer
  buyer : r.lockedBuyerFeeAmount = buyerFeeAmount { r with fee := some fee }
  seller : r.lockedSellerFeeAmount = sellerFeeAmount { r with fee := some fee }

/-- Amounts are in cents, and what is locked are the terms of a positive fee. -/
structure TermsSound (r : InspectionRequest) : Prop where
  cents : forall fee, r.fee = some fee -> IsCents fee
  locked : r.feeTermsLockedAt.isSome = true ->
    exists fee, 0 < fee ∧ IsCents fee ∧ r.HasTerms fee

theorem TermsSound.sellerConfirmed {r : InspectionRequest} (h : r.TermsSound) {fee : ℚ}
    (hfee : r.fee = some fee) (hpos : 0 < fee) (env : Env) : (r.sellerConfirmed env).TermsSound where
  cents := h.cents
  locked := fun _ => by
    refine ⟨fee, hpos, h.cents fee hfee, hfee, rfl, ?_, ?_⟩
    · unfold InspectionRequest.sellerConfirmed buyerFeeAmount
      cases r.feePayer <;> simp [hfee]
    · unfold InspectionRequest.sellerConfirmed sellerFeeAmount
      cases r.feePayer <;> simp [hfee]

theorem TermsSound.agreed {r : InspectionRequest} (h : r.TermsSound) {fee : ℚ} (hcents : IsCents fee)
    (env : Env) (inspectorId : Id) : (r.agreed env inspectorId fee).TermsSound where
  cents := fun _ hfee => Option.some.inj hfee ▸ hcents
  locked := fun hlocked => by
    obtain ⟨locked, hpos, hcents, hterms⟩ := h.locked hlocked
    exact ⟨locked, hpos, hcents, hterms.amount, hterms.payer, hterms.buyer, hterms.seller⟩

theorem TermsSound.unassigned (r : InspectionRequest) : r.unassigned.TermsSound where
  cents := nofun
  locked := nofun

variable {r : InspectionRequest} {fee : ℚ}

theorem totalFee_isCents (h : r.TermsSound) (hfee : r.fee = some fee) (hpos : 0 < fee) :
    IsCents (r.totalFee fee) ∧ 0 < r.totalFee fee := by
  unfold totalFee lockedTerm
  split
  · rename_i hlocked
    obtain ⟨locked, hlockedPos, hcents, hterms⟩ := h.locked hlocked
    rw [hterms.amount]
    exact ⟨hcents, hlockedPos⟩
  · exact ⟨h.cents fee hfee, hpos⟩

theorem payerMode_eq (h : r.TermsSound) : r.payerMode = r.feePayer := by
  unfold payerMode lockedTerm
  split
  · rename_i hlocked
    obtain ⟨_, _, _, hterms⟩ := h.locked hlocked
    rw [hterms.payer]
    rfl
  · rfl

theorem buyerShare_eq (h : r.TermsSound) :
    r.buyerShare fee =
      match r.feePayer with
      | .seller => 0
      | .split => roundMoney (r.totalFee fee / 2)
      | .buyer => r.totalFee fee := by
  unfold buyerShare
  rw [r.payerMode_eq h]
  unfold totalFee lockedTerm
  split
  · rename_i hlocked
    obtain ⟨locked, _, _, hterms⟩ := h.locked hlocked
    rw [hterms.buyer, hterms.amount]
    unfold buyerFeeAmount
    cases r.feePayer <;> rfl
  · rfl

theorem sellerShare_eq (h : r.TermsSound) :
    r.sellerShare fee =
      match r.feePayer with
      | .buyer => 0
      | .split => roundMoney (r.totalFee fee - roundMoney (r.totalFee fee / 2))
      | .seller => r.totalFee fee := by
  unfold sellerShare
  rw [r.payerMode_eq h, buyerShare_eq h]
  unfold totalFee lockedTerm
  split
  · rename_i hlocked
    obtain ⟨locked, _, _, hterms⟩ := h.locked hlocked
    rw [hterms.seller, hterms.amount]
    unfold sellerFeeAmount
    cases r.feePayer <;> rfl
  · cases r.feePayer <;> rfl

theorem shares (h : r.TermsSound) (hfee : r.fee = some fee) (hpos : 0 < fee) :
    0 ≤ r.buyerShare fee ∧ 0 ≤ r.sellerShare fee ∧
      r.buyerShare fee + r.sellerShare fee = r.totalFee fee ∧
      (r.payerMode = .split -> |r.buyerShare fee - r.sellerShare fee| ≤ 1 / 100) ∧
      (r.payerMode ≠ .split -> r.buyerShare fee = 0 ∨ r.sellerShare fee = 0) := by
  obtain ⟨hcents, htotal⟩ := totalFee_isCents h hfee hpos
  obtain ⟨hhalf, hrest, hround, hdiffer⟩ := halves_of_isCents hcents htotal
  rw [buyerShare_eq h, sellerShare_eq h, payerMode_eq h]
  cases r.feePayer with
  | buyer => simp [htotal.le]
  | seller => simp [htotal.le]
  | split =>
      dsimp only
      rw [hround]
      exact ⟨hhalf.le, hrest, by ring, fun _ => hdiffer, fun hsplit => absurd rfl hsplit⟩

end InspectionRequest

end MarketBridge
