import MarketBridge.Refund.ExitInvariant
import MarketBridge.Refund.Provenance

/-!
# The refund operations keep the invariant

Each operation is a few writes of one refund and the status of its payment.
-/

namespace MarketBridge

open Relational

structure RefundWorld.Inv (w : RefundWorld) : Prop where
  submissions : SubmissionInv w.db.refunds w.submitted w.book
  payments : RefundedPayments w.db

/-! ## Single writes -/

def Payment.restoredStatus (p : Payment) : PaymentStatus :=
  if p.status = .refundPending then .paid else p.status

namespace RefundedPayments

variable {db : Db}

variable {r : PaymentRefund} {p : Payment}

theorem apart (h : RefundedPayments db) {j : Id} {r' : PaymentRefund}
    (hr : db.refunds.findUnique j = some r) (hprovider : r'.provider = r.provider)
    (hreference : r'.providerRefundId = r.providerRefundId) (k : Id) (q : PaymentRefund)
    (hq : db.refunds.findUnique k = some q) (hk : k ≠ j) :
    r'.sameProviderRefund q = false := by
  have hsame := h.distinct j k r q hr hq fun hjk => hk hjk.symm
  unfold PaymentRefund.sameProviderRefund at hsame ⊢
  rw [hprovider, hreference]
  exact hsame

/-- A refund is written and stays as open, completed or failed as it was. -/
theorem updateRefund (h : RefundedPayments db) {j : Id} {r : PaymentRefund}
    {f : PaymentRefund -> PaymentRefund} (hr : db.refunds.findUnique j = some r)
    (howner : (f r).paymentId = r.paymentId) (hamount : (f r).amount = r.amount)
    (hdistinct : forall k q, db.refunds.findUnique k = some q -> k ≠ j ->
      (f r).sameProviderRefund q = false)
    (hopen : (f r).status.isOpen = r.status.isOpen)
    (hfailed : r.status = .failed -> (f r).status = .failed)
    (hcompleted : (f r).status = .completed ↔ r.status = .completed) :
    RefundedPayments { db with refunds := db.refunds.update j f } := by
  obtain ⟨p, hp, -, -, -, hs, hdone⟩ := h.owned j r hr
  have hsame : db.payments.update r.paymentId (·.withStatus p.status) = db.payments := by
    rw [Table.update_eq_self_iff hp]
    rfl
  have hindexed : paymentConflict db r.paymentId (p.withStatus p.status) = false := by
    rw [paymentConflict_eq_false_iff]
    intro k q hq hk
    exact h.indexed r.paymentId k p q hp hq fun hik => hk hik.symm
  have hwritten := h.rewrite (f := f) (s := p.status) hr hp
    { owner := howner
      amount := hamount
      distinct := hdistinct
      indexed := hindexed
      status := hs
      failed := hfailed
      completed := fun hdone' => hdone (hcompleted.1 hdone')
      final := fun hs => hs
      pending := fun hpending => by
        cases ho : r.status.isOpen with
        | true =>
            exact Or.inl (hopen.trans ho)
        | false =>
            exact Or.inr ⟨hpending, rfl⟩
      refunded := fun hrefunded => by
        by_cases hr' : r.status = .completed
        · exact Or.inl (hcompleted.2 hr')
        · exact Or.inr ⟨hrefunded, hr'⟩ }
  exact hwritten.congr hsame.symm rfl

theorem fail (h : RefundedPayments db) {j : Id} (reason : Option String)
    (hr : db.refunds.findUnique j = some r) (hp : db.payments.findUnique r.paymentId = some p)
    (hdone : r.status ≠ .completed) :
    RefundedPayments (rewritten db j (·.fail reason) r.paymentId p.restoredStatus) := by
  obtain ⟨p', hp', -, -, -, hs, -⟩ := h.owned j r hr
  obtain rfl := Option.some.inj (hp.symm.trans hp')
  have hrestored : p.restoredStatus ≠ .refundPending := by
    unfold Payment.restoredStatus
    split
    · decide
    · assumption
  refine h.rewrite (f := (·.fail reason)) hr hp
    { owner := rfl
      amount := rfl
      distinct := fun k q => h.apart hr rfl rfl k q
      indexed := ?_
      status := ?_
      failed := fun _ => rfl
      completed := nofun
      final := ?_
      pending := fun hpending => absurd hpending hrestored
      refunded := ?_ }
  · unfold Payment.restoredStatus
    split
    · exact h.conflict_free hp (isRefunded_of_refund hr)
    · rw [paymentConflict_eq_false_iff]
      intro k q hq hk
      exact h.indexed r.paymentId k p q hp hq fun hik => hk hik.symm
  · unfold Payment.restoredStatus
    split
    · simp
    · exact hs
  · intro hrefunded
    unfold Payment.restoredStatus
    rw [if_neg (by rw [hrefunded]; decide)]
    exact hrefunded
  · intro hrefunded
    right
    refine ⟨?_, hdone⟩
    unfold Payment.restoredStatus at hrefunded
    split at hrefunded
    · cases hrefunded
    · exact hrefunded

theorem complete (h : RefundedPayments db) {j : Id} (now : Nat)
    (hr : db.refunds.findUnique j = some r) (hp : db.payments.findUnique r.paymentId = some p)
    (hopen : r.status.isOpen = true) :
    RefundedPayments (rewritten db j (·.complete now) r.paymentId .refunded) := by
  refine h.rewrite (f := (·.complete now)) hr hp
    { owner := rfl
      amount := rfl
      distinct := fun k q => h.apart hr rfl rfl k q
      indexed := h.indexed.inactive_conflict hp (by simp)
      status := by simp
      failed := ?_
      completed := fun _ => rfl
      final := fun _ => rfl
      pending := nofun
      refunded := fun _ => Or.inl rfl }
  intro hfailed
  rw [hfailed] at hopen
  cases hopen

theorem parent (h : RefundedPayments db) {i : Id} (hp : db.payments.findUnique i = some p)
    (hparent : p.isInstallmentParent = true) :
    RefundedPayments { db with payments := db.payments.update i (·.withStatus .refunded) } := by
  have hfree : ¬ IsRefunded db i := by
    rintro ⟨j, r, hr, rfl⟩
    obtain ⟨p', hp', hnot, -⟩ := h.owned j r hr
    obtain rfl := Option.some.inj (hp.symm.trans hp')
    rw [hparent] at hnot
    cases hnot
  have hother : forall k q', (db.payments.update i (·.withStatus .refunded)).findUnique k = some q' ->
      IsRefunded db k -> db.payments.findUnique k = some q' := by
    intro k q' hq' hk
    have hne : k ≠ i := by
      rintro rfl
      exact hfree hk
    rwa [Table.findUnique_update_ne hne] at hq'
  refine ⟨?_, h.older, ?_, ?_, ?_, ?_, h.distinct, ?_⟩
  · intro j r hr
    obtain ⟨q, hq, hrest⟩ := h.owned j r hr
    have hne : r.paymentId ≠ i := fun heq => hfree (heq ▸ isRefunded_of_refund hr)
    exact ⟨q, (Table.findUnique_update_ne hne).trans hq, hrest⟩
  · intro k q' hq' hs hk
    exact h.pending k q' (hother k q' hq' hk) hs hk
  · intro k q' hq' hs hk
    exact h.refunded k q' (hother k q' hq' hk) hs hk
  · apply h.indexed.update
    intro q hq
    exact h.indexed.inactive_conflict hq (by simp)
  · intro k l q q' t hq hq' hkl hk ht
    have hq := hother k q hq hk
    by_cases hl : l = i
    · subst hl
      rw [Table.findUnique_update_self, hp] at hq'
      obtain rfl := Option.some.inj hq'
      rcases ht with rfl | ⟨hrefunded, -⟩
      · -- A refunded payment holds no transport job.
        rw [Bool.eq_false_iff]
        intro hconflict
        obtain ⟨jobId, -, hholds⟩ := (Payment.sameActiveTransportJob_eq_true_iff _ _).1 hconflict
        simp [Payment.holdsTransportJob, Payment.withStatus] at hholds
      · exact absurd hrefunded hfree
    · rw [Table.findUnique_update_ne hl] at hq'
      exact h.restorable k l q q' t hq hq' hkl hk ht
  · intro k q' hq'
    rcases Table.of_findUnique_update hq' with ⟨-, q, hq, rfl⟩ | ⟨-, hq'⟩
    · exact h.cents k q hq
    · exact h.cents k q' hq'

/-- A refund of a received payment is created. -/
theorem request (h : RefundedPayments db) {i : Id} (hp : db.payments.findUnique i = some p)
    (hs : p.status = .paid) (hparent : p.isInstallmentParent = false) (hpos : 0 < p.amount)
    (hnone : forall j q, db.refunds.findUnique j = some q -> q.paymentId = i -> q.status = .failed)
    (howner : r.paymentId = i) (hamount : r.amount = p.amount) (hstatus : r.status = .requested)
    (hprovider : r.provider = none) :
    RefundedPayments { db with
      payments := db.payments.update i (·.withStatus .refundPending)
      refunds := db.refunds.create r } := by
  have hrefund : forall k q, (db.refunds.create r).findUnique k = some q ->
      k = db.refunds.size ∧ q = r ∨ k < db.refunds.size ∧ db.refunds.findUnique k = some q := by
    intro k q hq
    rw [Table.findUnique_create] at hq
    split at hq
    · next heq =>
        exact Or.inl ⟨heq, (Option.some.inj hq).symm⟩
    · exact Or.inr ⟨Table.lt_size_of_findUnique hq, hq⟩
  have hpayment : forall k q', (db.payments.update i (·.withStatus .refundPending)).findUnique k =
      some q' -> exists q, db.payments.findUnique k = some q ∧
        (k = i ∧ q = p ∧ q' = p.withStatus .refundPending ∨ k ≠ i ∧ q' = q) := by
    intro k q' hq'
    rw [Table.findUnique_update] at hq'
    by_cases hk : k = i
    · subst hk
      rw [if_pos rfl, hp] at hq'
      exact ⟨p, hp, Or.inl ⟨rfl, rfl, (Option.some.inj hq').symm⟩⟩
    · rw [if_neg hk] at hq'
      exact ⟨q', hq', Or.inr ⟨hk, rfl⟩⟩
  have hisRefunded : forall k, k ≠ i -> IsRefunded { db with
      payments := db.payments.update i (·.withStatus .refundPending)
      refunds := db.refunds.create r } k -> IsRefunded db k := by
    rintro k hk ⟨j, q, hq, rfl⟩
    rcases hrefund j q hq with ⟨-, rfl⟩ | ⟨-, hold⟩
    · exact absurd howner hk
    · exact ⟨j, q, hold, rfl⟩
  have hkept : forall k φ, k ≠ i -> (exists j, HasRefund db.refunds k φ j) ->
      exists j, HasRefund (db.refunds.create r) k φ j := by
    rintro k φ hk ⟨j, hj⟩
    refine ⟨j, (hasRefund_create k φ j).2 ?_⟩
    rw [if_neg ?_]
    · exact hj
    · rintro rfl
      obtain ⟨q, hq, -⟩ := hj
      simp at hq
  -- A payment that is received holds its job as `PAID` anyway.
  have hpaid : p.withStatus .paid = p := by
    rw [← hs]
    rfl
  refine ⟨?_, ?_, ?_, ?_, ?_, ?_, ?_, ?_⟩
  · intro j q hq
    rcases hrefund j q hq with ⟨-, rfl⟩ | ⟨-, hold⟩
    · refine ⟨p.withStatus .refundPending, ?_, hparent, hamount, hpos, by simp, ?_⟩
      · simp [howner, hp]
      · intro hdone
        rw [hstatus] at hdone
        cases hdone
    · obtain ⟨o, ho, hnot, ham, hpo, hso, hdone⟩ := h.owned j q hold
      by_cases hi : q.paymentId = i
      · have hop : o = p := by
          rw [hi] at ho
          exact Option.some.inj (ho.symm.trans hp)
        subst hop
        refine ⟨o.withStatus .refundPending, by simp [hi, hp], hnot, ham, hpo, by simp, ?_⟩
        intro hq'
        rw [hnone j q hold hi] at hq'
        cases hq'
      · exact ⟨o, (Table.findUnique_update_ne hi).trans ho, hnot, ham, hpo, hso, hdone⟩
  · intro j k q t hq ht hsame hlt
    rcases hrefund j q hq with ⟨rfl, rfl⟩ | ⟨-, hold⟩
    · rcases hrefund k t ht with ⟨rfl, -⟩ | ⟨hk, -⟩
      · exact absurd hlt (Nat.lt_irrefl _)
      · exact absurd hlt (Nat.lt_asymm hk)
    · rcases hrefund k t ht with ⟨-, rfl⟩ | ⟨-, hold'⟩
      · exact hnone j q hold (hsame.trans howner)
      · exact h.older j k q t hold hold' hsame hlt
  · intro k q' hq' hs' hk
    obtain ⟨q, hq, hcase⟩ := hpayment k q' hq'
    rcases hcase with ⟨rfl, -, -⟩ | ⟨hne, rfl⟩
    · refine ⟨db.refunds.size, (hasRefund_create k _ _).2 ?_⟩
      rw [if_pos rfl, hstatus]
      exact ⟨howner, rfl⟩
    · exact hkept k _ hne (h.pending k q' hq hs' (hisRefunded k hne hk))
  · intro k q' hq' hs' hk
    obtain ⟨q, hq, hcase⟩ := hpayment k q' hq'
    rcases hcase with ⟨-, -, rfl⟩ | ⟨hne, rfl⟩
    · cases hs'
    · exact hkept k _ hne (h.refunded k q' hq hs' (hisRefunded k hne hk))
  · apply h.indexed.update
    intro q hq
    exact h.indexed.inactive_conflict hq (by simp)
  · intro k l q' t' t hq' ht' hkl hk ht
    obtain ⟨q, hq, hcase⟩ := hpayment k q' hq'
    obtain ⟨o, ho, hcase'⟩ := hpayment l t' ht'
    -- Against the payment as it was: this one is either the received one or had a refund.
    have hagainst : forall u, (u = o ∨ IsRefunded db l ∧ u = o.withStatus .paid) ->
        (q.withStatus .paid).sameActiveTransportJob u = false := by
      intro u hu
      rcases hcase with ⟨rfl, rfl, -⟩ | ⟨hne, -⟩
      · by_cases hold : IsRefunded db k
        · exact h.restorable k l q o u hq ho hkl hold hu
        · rw [hpaid]
          rcases hu with rfl | ⟨hl, rfl⟩
          · have hsame := h.indexed k l q u hq ho hkl
            rw [Bool.or_eq_false_iff] at hsame
            exact hsame.2
          · rw [Payment.sameActiveTransportJob_comm]
            exact h.restorable l k o q q ho hq (fun heq => hkl heq.symm) hl (Or.inl rfl)
      · exact h.restorable k l q o u hq ho hkl (hisRefunded k hne hk) hu
    have hleft : q'.withStatus .paid = q.withStatus .paid := by
      rcases hcase with ⟨-, rfl, rfl⟩ | ⟨-, rfl⟩ <;> rfl
    rw [hleft]
    rcases hcase' with ⟨rfl, rfl, rfl⟩ | ⟨hne, rfl⟩
    · rcases ht with rfl | ⟨-, rfl⟩
      · rw [Bool.eq_false_iff]
        intro hconflict
        obtain ⟨jobId, -, hholds⟩ := (Payment.sameActiveTransportJob_eq_true_iff _ _).1 hconflict
        simp [Payment.holdsTransportJob, Payment.withStatus] at hholds
      · have hwith : (o.withStatus .refundPending).withStatus .paid = o := hpaid
        rw [hwith]
        exact hagainst o (Or.inl rfl)
    · refine hagainst t ?_
      rcases ht with rfl | ⟨hl, rfl⟩
      · exact Or.inl rfl
      · exact Or.inr ⟨hisRefunded l hne hl, rfl⟩
  · apply h.distinct.create sameProviderRefund_comm
    intro k q _
    simp [PaymentRefund.sameProviderRefund, hprovider]
  · intro k q' hq'
    obtain ⟨q, hq, hcase⟩ := hpayment k q' hq'
    have hsame : q'.amount = q.amount := by
      rcases hcase with ⟨-, rfl, rfl⟩ | ⟨-, rfl⟩ <;> rfl
    rw [hsame]
    exact h.cents k q hq

end RefundedPayments

/-! ## What the operations write -/

section Writes

variable {env : Env} {db : Db} {j : Id}

def SameRefunds (db' db : Db) : Prop :=
  db'.payments = db.payments ∧ db'.refunds = db.refunds

/-- A failure that passes its checks fails the refund and gives the payment back. -/
theorem failRefund_written (env : Env) (h : RefundedPayments db) (reason : Option String)
    (allowProcessing : Bool) :
    (SameRefunds (failRefund env j reason allowProcessing db).1 db ∧
      forall r, db.refunds.findUnique j = some r -> assertCanFail allowProcessing r ≠ .ok ()) ∨
    exists r p, db.refunds.findUnique j = some r ∧ db.payments.findUnique r.paymentId = some p ∧
      assertCanFail allowProcessing r = .ok () ∧
      SameRefunds (failRefund env j reason allowProcessing db).1
        (rewritten db j (·.fail reason) r.paymentId p.restoredStatus) := by
  unfold failRefund
  cases hr : db.refunds.findUnique j with
  | none =>
      exact Or.inl ⟨⟨rfl, rfl⟩, by simp⟩
  | some r =>
      dsimp only
      cases hcan : assertCanFail allowProcessing r with
      | error e =>
          refine Or.inl ⟨⟨rfl, rfl⟩, ?_⟩
          intro r' hr'
          obtain rfl := Option.some.inj hr'
          rw [hcan]
          exact fun hok => nomatch hok
      | ok _ =>
          obtain ⟨p, hp, -⟩ := h.owned j r hr
          refine Or.inr ⟨r, p, rfl, hp, hcan, ?_⟩
          dsimp only
          split
          · next e herror =>
              obtain ⟨q, hq, -, hconflict⟩ := movePayment_error herror
              obtain rfl := Option.some.inj (hp.symm.trans hq)
              have hfree := h.conflict_free hp (RefundedPayments.isRefunded_of_refund hr)
              change paymentConflict db _ _ = true at hconflict
              rw [hfree] at hconflict
              cases hconflict
          · next written moved hmove =>
              unfold SameRefunds
              rw [recordOrderEvent_payments, recordOrderEvent_refunds]
              rcases movePayment_cases hmove with ⟨-, rfl, hstay⟩ | ⟨-, q, hq, hs, -, rfl⟩
              · refine ⟨?_, rfl⟩
                show db.payments = db.payments.update _ _
                rw [eq_comm, Table.update_eq_self_iff hp, Payment.restoredStatus,
                  if_neg (hstay p hp)]
                rfl
              · obtain rfl := Option.some.inj (hp.symm.trans hq)
                rw [Payment.restoredStatus, if_pos hs]
                exact ⟨rfl, rfl⟩

/-- A finalization that succeeds completes the refund and refunds its payment. -/
theorem completeRefund_written {r : PaymentRefund} {db' : Db}
    (hr : db.refunds.findUnique j = some r) (hopen : r.status ≠ .completed)
    (h : completeRefund env j db = .ok db') :
    SameRefunds db' db ∨
      exists p marked, db.payments.findUnique r.paymentId = some p ∧ r.status.isOpen = true ∧
        canTransition p.status .refunded = true ∧
        markParentOfInstallment p
          (rewritten db j (·.complete env.now) r.paymentId .refunded) = .ok marked ∧
        SameRefunds db' marked := by
  unfold completeRefund at h
  simp only [hr, if_neg hopen] at h
  split at h
  · cases h
  · next hnot =>
      rw [Bool.not_eq_true', Bool.not_eq_false] at hnot
      split at h
      · cases h
      · next p hp =>
          simp only [bind_eq_ok, Prod.exists] at h
          obtain ⟨_, _, _, hassert, moved, claimed, hmove, h⟩ := h
          rcases moveRefund_cases hmove with ⟨rfl, rfl⟩ | ⟨rfl, r', hr', -, -, rfl⟩
          · obtain rfl := Except.ok.inj h
            exact Or.inl ⟨rfl, rfl⟩
          · simp only [if_true, bind_eq_ok] at h
            obtain ⟨written, hwrite, marked, hmark, h⟩ := h
            obtain ⟨p', hp', -, rfl⟩ := updatePayment_eq_ok_iff.1 hwrite
            obtain rfl := Except.ok.inj h
            refine Or.inr ⟨p, marked, hp, hnot, assertTransition_eq_ok_iff.1 hassert, hmark, ?_⟩
            unfold SameRefunds
            rw [recordOrderEvent_payments, recordOrderEvent_refunds]
            exact ⟨rfl, rfl⟩

theorem markParentOfInstallment_written {payment : Payment} {db' : Db}
    (h : markParentOfInstallment payment db = .ok db') :
    SameRefunds db' db ∨
      exists i p, db.payments.findUnique i = some p ∧ p.isInstallmentParent = true ∧
        SameRefunds db' { db with payments := db.payments.update i (·.withStatus .refunded) } := by
  unfold markParentOfInstallment markParentRefundedIfComplete at h
  split at h
  · obtain rfl := Except.ok.inj h
    exact Or.inl ⟨rfl, rfl⟩
  · next i _ =>
      split at h
      · obtain rfl := Except.ok.inj h
        exact Or.inl ⟨rfl, rfl⟩
      · next p hp =>
          dsimp only at h
          split at h
          · next hcomplete =>
              simp only [Bool.and_eq_true] at hcomplete
              obtain ⟨written, hwrite, h⟩ := bind_eq_ok.1 h
              obtain ⟨p', -, -, rfl⟩ := updatePayment_eq_ok_iff.1 hwrite
              refine Or.inr ⟨i, p, hp, hcomplete.1.1, ?_⟩
              split at h <;> obtain rfl := Except.ok.inj h <;> exact ⟨rfl, rfl⟩
          · obtain rfl := Except.ok.inj h
            exact Or.inl ⟨rfl, rfl⟩

end Writes

/-! ## Operations -/

namespace RefundWorld

variable {w : RefundWorld} {env : Env} {j : Id}

theorem Inv.congr (h : w.Inv) {db' : Db} (hsame : SameRefunds db' w.db) :
    Inv { w with db := db' } := by
  refine ⟨?_, h.payments.congr hsame.1 hsame.2⟩
  show SubmissionInv db'.refunds _ _
  rw [hsame.2]
  exact h.submissions

theorem Inv.failRefund (h : w.Inv) (env : Env) (reason : Option String) (allowProcessing : Bool)
    (hkept : forall refId, (j, refId) ∈ w.book.accepted -> w.book.verdict refId = some false) :
    Inv { w with db := (MarketBridge.failRefund env j reason allowProcessing w.db).1 } := by
  rcases failRefund_written env (j := j) h.payments reason allowProcessing with
    ⟨hsame, -⟩ | ⟨r, p, hr, hp, hcan, hsame⟩
  · exact h.congr hsame
  · have hwritten : Inv { w with
        db := rewritten w.db j (·.fail reason) r.paymentId p.restoredStatus } := by
      refine ⟨?_, h.payments.fail reason hr hp (not_completed_of_assertCanFail hcan)⟩
      apply h.submissions.update
      intro r' _ hfacts
      exact ⟨hfacts.reference, nofun, fun _ => hkept, nofun, nofun⟩
    exact hwritten.congr hsame

theorem Inv.finalizeRefund (h : w.Inv) {refId : String} (hmem : (j, refId) ∈ w.book.accepted)
    (hv : w.book.verdict refId = some true) {db' : Db}
    (hfinal : MarketBridge.finalizeRefund env j (some "refunded") w.db = .ok db') :
    Inv { w with db := db' } := by
  unfold MarketBridge.finalizeRefund at hfinal
  split at hfinal
  · cases hfinal
  · next r hr =>
      split at hfinal
      · obtain rfl := Except.ok.inj hfinal
        exact h
      · next hnew =>
          rw [if_neg (by simp)] at hfinal
          rcases completeRefund_written hr hnew hfinal with hsame | ⟨p, marked, hp, hopen, -, hmark, hsame⟩
          · exact h.congr hsame
          · have hwritten : Inv { w with
                db := rewritten w.db j (·.complete env.now) r.paymentId .refunded } := by
              refine ⟨?_, h.payments.complete env.now hr hp hopen⟩
              apply h.submissions.update
              intro r' _ hfacts
              exact ⟨hfacts.reference, nofun, nofun, fun _ => ⟨refId, hmem, hv⟩, nofun⟩
            have hmarked : Inv { w with db := marked } := by
              rcases markParentOfInstallment_written hmark with hsame' | ⟨i, q, hq, hparent, hsame'⟩
              · exact hwritten.congr hsame'
              · have hparented : Inv { w with db :=
                    { rewritten w.db j (·.complete env.now) r.paymentId .refunded with
                      payments := (rewritten w.db j (·.complete env.now) r.paymentId
                        .refunded).payments.update i (·.withStatus .refunded) } } :=
                  ⟨hwritten.submissions, hwritten.payments.parent hq hparent⟩
                exact hparented.congr hsame'
            exact hmarked.congr hsame

/-- A conditional write that keeps the status and the reference of a refund. -/
theorem Inv.moveRefund (h : w.Inv) {guard : PaymentRefundStatus -> Bool}
    {f : PaymentRefund -> PaymentRefund} {db' : Db} {moved : Bool}
    (hmove : MarketBridge.moveRefund j guard f w.db = .ok (db', moved))
    (hf : forall r, w.db.refunds.findUnique j = some r -> guard r.status = true ->
      (f r).paymentId = r.paymentId ∧ (f r).amount = r.amount ∧
        (f r).status = r.status ∧
        forall refId, (f r).providerRefundId = some refId ->
          truthy (some refId) = true ∧ (j, refId) ∈ w.book.accepted) :
    Inv { w with db := db' } := by
  rcases moveRefund_cases hmove with ⟨-, rfl⟩ | ⟨-, r, hr, hguard, hfree, rfl⟩
  · exact h
  · obtain ⟨howner, hamount, hstatus, hreference⟩ := hf r hr hguard
    refine ⟨?_, ?_⟩
    · apply h.submissions.update
      intro r' hr' hfacts
      obtain rfl := Option.some.inj (hr.symm.trans hr')
      refine ⟨hreference, ?_, ?_, ?_, ?_⟩
      · rw [hstatus]
        exact hfacts.requested
      · rw [hstatus]
        exact hfacts.failed
      · rw [hstatus]
        exact hfacts.completed
      · rw [hstatus]
        exact hfacts.live
    · refine h.payments.updateRefund hr howner hamount hfree ?_ ?_ ?_
      · rw [hstatus]
      · rw [hstatus]
        exact id
      · rw [hstatus]

theorem Inv.accepted_of_truthy (h : w.Inv) {r : PaymentRefund}
    (hr : w.db.refunds.findUnique j = some r) (htruthy : truthy r.providerRefundId = true) :
    exists refId, r.providerRefundId = some refId ∧ (j, refId) ∈ w.book.accepted := by
  cases hrefId : r.providerRefundId with
  | none =>
      rw [hrefId] at htruthy
      cases htruthy
  | some refId =>
      exact ⟨refId, rfl, ((h.submissions.rows j r hr).reference refId hrefId).2⟩

theorem ofText_report (book : ProviderBook) (refId : String) :
    RefundVerification.ofText (book.report refId) =
      match book.verdict refId with
      | some true => .refunded
      | some false => .reversed
      | none => .processing := by
  unfold ProviderBook.report
  cases book.verdict refId with
  | none =>
      decide
  | some returned =>
      cases returned <;> decide

theorem Inv.verify (h : w.Inv) (env : Env) (reached : Bool) :
    Inv { w with db := (verifyAndFinalizeRefund env j
      (w.book.answer reached (referenceOf w.db j)) w.db).1 } := by
  unfold verifyAndFinalizeRefund
  cases hr : w.db.refunds.findUnique j with
  | none =>
      exact h
  | some r =>
      dsimp only
      split
      · exact h
      · split
        · exact h
        · next hnot htruthy =>
            rw [Bool.not_eq_true', Bool.not_eq_false] at htruthy
            obtain ⟨refId, hrefId, hmem⟩ := h.accepted_of_truthy hr htruthy
            have hreference : referenceOf w.db j = some refId := by
              simp [referenceOf, hr, hrefId]
            rw [hreference]
            cases reached with
            | false =>
                exact h
            | true =>
                simp only [ProviderBook.answer, ofText_report]
                cases hv : w.book.verdict refId with
                | none =>
                    dsimp only
                    split
                    · exact h
                    · next hmove =>
                        refine h.moveRefund hmove ?_
                        intro r' hr' hopen
                        obtain rfl := Option.some.inj (hr.symm.trans hr')
                        refine ⟨rfl, rfl, ?_, ?_⟩
                        · -- A requested refund has no reference yet.
                          cases hs : r.status with
                          | processing =>
                              rfl
                          | requested =>
                              exact absurd (h.submissions.sent j refId hmem)
                                ((h.submissions.rows j r hr).requested hs)
                          | _ =>
                              rw [hs] at hopen
                              cases hopen
                        · exact (h.submissions.rows j r hr).reference
                | some returned =>
                    cases returned with
                    | true =>
                        dsimp only
                        split
                        · exact h
                        · next hfinal =>
                            exact h.finalizeRefund hmem hv hfinal
                    | false =>
                        refine h.failRefund _ _ true ?_
                        intro refId' hmem'
                        rw [h.submissions.once j refId' refId hmem' hmem]
                        exact hv

theorem Inv.unclear (h : w.Inv) {e : ApiError} (he : e.isRejection = false) :
    Inv { w with db := (refundSubmissionFailed env j e w.db).1 } := by
  unfold refundSubmissionFailed
  rw [if_neg (by rw [he]; decide)]
  split
  · exact h
  · next hmove =>
      refine h.moveRefund hmove fun r hr _ => ⟨rfl, rfl, rfl, ?_⟩
      exact (h.submissions.rows j r hr).reference

theorem Inv.rejected (h : w.Inv) {e : ApiError} (he : e.isRejection = true)
    (hnew : forall refId, (j, refId) ∉ w.book.accepted) :
    Inv { w with db := (refundSubmissionFailed env j e w.db).1 } := by
  have hfailed := h.failRefund env (j := j) (some e.message) true
    fun refId hmem => absurd hmem (hnew refId)
  unfold refundSubmissionFailed
  rw [if_pos he]
  split
  · next heq =>
      rw [heq] at hfailed
      exact hfailed
  · next heq =>
      rw [heq] at hfailed
      exact hfailed

theorem moveRefund_error {guard : PaymentRefundStatus -> Bool}
    {f : PaymentRefund -> PaymentRefund} {db : Db} {e : ApiError}
    (h : MarketBridge.moveRefund j guard f db = .error e) :
    e.isRejection = false := by
  unfold MarketBridge.moveRefund at h
  split at h
  · cases h
  · split at h
    · split at h
      · obtain rfl := Except.error.inj h
        rfl
      · cases h
    · cases h

theorem Inv.claim (h : w.Inv) {r : PaymentRefund} {provider : String}
    (hr : w.db.refunds.findUnique j = some r) (hs : r.status = .requested)
    (hfree : forall k q, w.db.refunds.findUnique k = some q -> k ≠ j ->
      (r.submit provider).sameProviderRefund q = false) (answer : SubmissionAnswer) :
    Inv
      { db := { w.db with refunds := w.db.refunds.update j (·.submit provider) }
        submitted := j :: w.submitted
        book := w.book.accept j answer } := by
  refine ⟨h.submissions.submit hr hs provider answer, ?_⟩
  refine h.payments.updateRefund hr rfl rfl hfree ?_ ?_ ?_
  · rw [hs]
    rfl
  · intro hfailed
    rw [hs] at hfailed
    cases hfailed
  · rw [hs]
    exact ⟨nofun, nofun⟩

/-- What `processRefund` leaves when the claim does not go through. -/
theorem process_unclaimed {answer : SubmissionAnswer} {reached : Bool}
    (h : forall claimed, claimForProcessing j w.db ≠ .ok (some claimed)) :
    w.process env j answer reached = w := by
  unfold RefundWorld.process processRefund
  cases hclaim : claimForProcessing j w.db with
  | error e =>
      rfl
  | ok claimed =>
      cases claimed with
      | none =>
          rfl
      | some claimed =>
          exact absurd hclaim (h claimed)

theorem Inv.process (h : w.Inv) (answer : SubmissionAnswer) (reached : Bool) :
    (w.process env j answer reached).Inv := by
  by_cases hclaims : exists claimed, claimForProcessing j w.db = .ok (some claimed)
  · obtain ⟨⟨claimed, provider⟩, hclaim⟩ := hclaims
    obtain ⟨r, p, hr, hs, -, -, hfree, rfl⟩ := claimForProcessing_eq_ok hclaim
    have hsent := h.claim hr hs hfree answer
    have hnew : forall refId, (j, refId) ∉ w.book.accepted := fun refId hmem =>
      (h.submissions.rows j r hr).requested hs (h.submissions.sent j refId hmem)
    have hbook : forall refId, (j, refId) ∈ (w.book.accept j answer).accepted ↔
        answer.reference = some refId := by
      intro refId
      rw [ProviderBook.mem_accept]
      constructor
      · rintro (hmem | ⟨-, hanswer⟩)
        · exact absurd hmem (hnew refId)
        · exact hanswer
      · intro hanswer
        exact Or.inr ⟨rfl, hanswer⟩
    simp only [RefundWorld.process, hclaim, processRefund]
    cases answer with
    | rejected e he =>
        refine hsent.rejected he ?_
        intro refId hmem
        cases (hbook refId).1 hmem
    | unclear accepted e he =>
        exact hsent.unclear he
    | success refId =>
        simp only [SubmissionAnswer.submission]
        cases hreference : refundReferenceOf (.ok (some refId)) with
        | error e =>
            refine hsent.unclear ?_
            unfold refundReferenceOf at hreference
            dsimp only at hreference
            split at hreference
            · cases hreference
            · obtain rfl := Except.error.inj hreference
              decide
        | ok refId' =>
            have htruthy := truthy_of_refundReferenceOf hreference
            have hsame : refId' = refId := by
              unfold refundReferenceOf jsOr at hreference
              by_cases hempty : refId = ""
              · simp [hempty] at hreference
              · simpa [hempty, eq_comm] using hreference
            subst hsame
            dsimp only
            split
            · next e hmove =>
                exact hsent.unclear (moveRefund_error hmove)
            · next hmove =>
                refine hsent.moveRefund hmove fun _ _ _ => ⟨rfl, rfl, rfl, ?_⟩
                intro refId hrefId
                obtain rfl := Option.some.inj hrefId
                exact ⟨htruthy, (hbook _).2 rfl⟩
            · next stored hmove =>
                have hstored : Inv
                    { db := stored
                      submitted := j :: w.submitted
                      book := w.book.accept j (.success refId') } := by
                  refine hsent.moveRefund hmove fun _ _ _ => ⟨rfl, rfl, rfl, ?_⟩
                  intro refId hrefId
                  obtain rfl := Option.some.inj hrefId
                  exact ⟨htruthy, (hbook _).2 rfl⟩
                have hverified := hstored.verify env (j := j) reached
                have hreference : referenceOf stored j = some refId' := by
                  rcases moveRefund_cases hmove with ⟨hfalse, -⟩ | ⟨-, q, hq, -, -, rfl⟩
                  · cases hfalse
                  · simp only [referenceOf, Table.findUnique_update_self] at hq ⊢
                    rw [hr]
                    rfl
                dsimp only at hverified
                rw [hreference] at hverified
                exact hverified
  · rw [process_unclaimed fun claimed hclaim => hclaims ⟨claimed, hclaim⟩]
    exact h

/-- A request finds a live refund of the payment, or creates one of a received payment. -/
theorem Inv.requestRefund (h : w.Inv) {i id : Id} {amount : Option JsNumber}
    {reason : Option String} {requestedById : Option Id} {db' : Db}
    (hrequest : MarketBridge.requestRefund env i amount reason requestedById w.db = .ok (db', id))
    (hparent : forall p, w.db.payments.findUnique i = some p -> p.isInstallmentParent = false)
    (hfull : forall p, w.db.payments.findUnique i = some p ->
      amount.getD (.finite p.amount) = .finite p.amount) :
    Inv { w with db := db' } := by
  obtain ⟨p, refundAmount, hp, hs, hamount, hcases⟩ := requestRefund_eq_ok hrequest
  rcases hcases with ⟨rfl, -⟩ | ⟨hnone, hretry, -, events, rfl⟩
  · exact h
  · have hfailed : forall j q, w.db.refunds.findUnique j = some q -> q.paymentId = i ->
        q.status = .failed := by
      intro j q hq howner
      cases hq' : q.status with
      | failed =>
          rfl
      | cancelled =>
          exact absurd hq' (h.submissions.rows j q hq).live
      | _ =>
          exact absurd ⟨q, hq, howner, by simp [hq']⟩ (newestRefund_eq_none hnone
            (φ := (· ∈ [PaymentRefundStatus.requested, .processing, .completed])) (by simp) j)
    have hpaid : p.status = .paid := by
      -- A payment under refund has a live refund or none at all.
      rcases List.mem_cons.1 hs with hpaid | hpending
      · exact hpaid
      · have hpending : p.status = .refundPending := by simpa using hpending
        exfalso
        have hsome := hretry hpending
        cases hold : newestRefund w.db i [.failed] with
        | none =>
            exact hsome hold
        | some e =>
            obtain ⟨hr, howner, -⟩ := newestRefund_eq_some hold
            obtain ⟨j, q, hq, hqowner, hopen⟩ :=
              h.payments.pending i p hp hpending ⟨e.1, e.2, hr, howner⟩
            rw [hfailed j q hq hqowner] at hopen
            cases hopen
    have hfullAmount : refundAmount = p.amount ∧ 0 < p.amount := by
      unfold fullRefundAmount at hamount
      rw [hfull p hp] at hamount
      split at hamount
      · cases hamount
      · next q heq =>
          obtain rfl := JsNumber.finite.inj heq
          split at hamount
          · next hpos =>
              exact ⟨(Option.some.inj hamount).symm, hpos.1⟩
          · cases hamount
    obtain ⟨rfl, hpos⟩ := hfullAmount
    have hcents : toDecimal p.amount = p.amount := by
      unfold toDecimal
      rw [if_pos hpos.le]
      exact roundMoney_of_isCents (h.payments.cents i p hp)
    refine Inv.congr (w := { w with db := { w.db with
      payments := w.db.payments.update i (·.withStatus .refundPending)
      refunds := w.db.refunds.create (newRefund i p p.amount reason requestedById) } }) ?_
      ⟨rfl, rfl⟩
    refine ⟨h.submissions.create rfl rfl, ?_⟩
    exact h.payments.request hp hpaid (hparent p hp) hpos hfailed rfl hcents rfl rfl

theorem retryRequest_eq_ok {id : Id} {actorId : Option Id} {note : Option String} {db db' : Db}
    (h : MarketBridge.retryRequest env j actorId note db = .ok (db', id)) :
    exists r reason, db.refunds.findUnique j = some r ∧ r.status = .failed ∧
      MarketBridge.requestRefund env r.paymentId (some (.finite r.amount)) reason actorId db =
        .ok (db', id) := by
  unfold MarketBridge.retryRequest at h
  split at h
  · cases h
  · next r hr =>
      obtain ⟨hs, h⟩ := guard_eq_ok.mp h
      exact ⟨r, _, hr, not_not.1 hs, h⟩

theorem Inv.retryRequest (h : w.Inv) {id : Id} {actorId : Option Id} {note : Option String}
    {db' : Db} (hretry : MarketBridge.retryRequest env j actorId note w.db = .ok (db', id)) :
    Inv { w with db := db' } := by
  obtain ⟨r, reason, hr, -, hrequest⟩ := retryRequest_eq_ok hretry
  obtain ⟨p, hp, hparent, hamount, -⟩ := h.payments.owned j r hr
  refine h.requestRefund hrequest ?_ ?_
  · intro q hq
    obtain rfl := Option.some.inj (hp.symm.trans hq)
    exact hparent
  · intro q hq
    obtain rfl := Option.some.inj (hp.symm.trans hq)
    simp [hamount]

theorem Inv.step (h : w.Inv) (a : Env × RefundOperation) : (w.step a).Inv := by
  obtain ⟨env, operation⟩ := a
  cases operation with
  | request i reason requestedById =>
      simp only [RefundWorld.step]
      split
      · exact h
      · next hparent =>
          split
          · next hrequest =>
              refine h.requestRefund hrequest ?_ fun _ _ => rfl
              intro p hp
              rw [hp, Option.any_some] at hparent
              exact Bool.eq_false_iff.2 hparent
          · exact h
  | process j answer reached =>
      exact h.process answer reached
  | verify j reached =>
      exact h.verify env reached
  | fail j reason =>
      -- A refund that may be failed by hand has not been accepted, or is failed already.
      rcases failRefund_written env (j := j) h.payments reason false with
        ⟨hsame, -⟩ | ⟨r, p, hr, -, hcan, -⟩
      · exact h.congr hsame
      · refine h.failRefund env reason false ?_
        intro refId hmem
        have hfacts := h.submissions.rows j r hr
        cases hs : r.status with
        | requested =>
            exact absurd (h.submissions.sent j refId hmem) (hfacts.requested hs)
        | failed =>
            exact hfacts.failed hs refId hmem
        | processing =>
            simp [assertCanFail, hs] at hcan
        | completed =>
            simp [assertCanFail, hs] at hcan
        | cancelled =>
            exact absurd hs hfacts.live
  | retry j actorId note answer reached =>
      simp only [RefundWorld.step]
      split
      · next hretry =>
          exact (h.retryRequest hretry).process answer reached
      · exact h
  | decide refId returned =>
      exact ⟨h.submissions.decide refId returned, h.payments⟩
  | elsewhere other =>
      exact ⟨h.submissions, h.payments.congr rfl rfl⟩

end RefundWorld

end MarketBridge
