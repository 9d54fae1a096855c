import MarketBridge.Payment.Conformance
import MarketBridge.Refund.Service

/-!
# Coupling of refunds and payments

The state of a refund is spread over the refund row and the status of its
payment.  A payment is `REFUND_PENDING` exactly while one of its refunds is
under way, and then it has exactly one.  The refund operations keep this; a
settlement of a payment under refund and the failure of a refund that is not the
live one break it.
-/

namespace MarketBridge

open Relational

/-- Refund `j` is a refund of payment `i` with a status in `φ`. -/
def HasRefund (refunds : Table PaymentRefund) (i : Id) (φ : PaymentRefundStatus -> Bool)
    (j : Id) : Prop :=
  exists r, refunds.findUnique j = some r ∧ r.paymentId = i ∧ φ r.status = true

/-- Refund `j` of payment `i` is `REQUESTED` or `PROCESSING`. -/
abbrev OpenRefund (refunds : Table PaymentRefund) (i j : Id) : Prop :=
  HasRefund refunds i PaymentRefundStatus.isOpen j

abbrev CompletedRefund (refunds : Table PaymentRefund) (i j : Id) : Prop :=
  HasRefund refunds i (· = .completed) j

/--
Every payment but an installment parent is `REFUND_PENDING` exactly when it has
exactly one open refund, and `REFUNDED` if a refund of it is completed.
-/
def RefundsCoupled (db : Db) : Prop :=
  forall i p, db.payments.findUnique i = some p -> p.isInstallmentParent = false ->
    (p.status = .refundPending ↔ ∃! j, OpenRefund db.refunds i j) ∧
      forall j, CompletedRefund db.refunds i j -> p.status = .refunded

def RefundsFinalizable (env : Env) (db : Db) : Prop :=
  forall j r p, db.refunds.findUnique j = some r -> r.status.isOpen = true ->
    db.payments.findUnique r.paymentId = some p -> p.isInstallmentParent = false ->
    ((related db.orders p.orderId).all fun order => order.status = .cancelled) = true ->
    exists db', finalizeRefund env j (some "refunded") db = .ok db' ∧
      CompletedRefund db'.refunds r.paymentId j ∧
      (db'.payments.findUnique r.paymentId).map (·.status) = some .refunded

/-! ## Steps -/

inductive RefundStep where
  | requestRefund (paymentId : Id) (amount : Option JsNumber) (reason : Option String)
      (requestedById : Option Id)
  | processRefund (refundId : Id) (answers : ProviderAnswers)
  | verifyAndFinalizeRefund (refundId : Id) (answer : Except ApiError String)
  | finalizeRefund (refundId : Id) (providerStatus : Option String)
  | failRefund (refundId : Id) (failureReason : Option String) (allowProcessing : Bool)
  | retryRefund (refundId : Id) (actorId : Option Id) (note : Option String)
      (answers : ProviderAnswers)
  | settlePaymentCore (args : SettleArgs) (hstatus : args.status ∈ notifiedStatuses)
  /-- Something else writes the other tables, such as a cancellation its order. -/
  | elsewhere (db : Db)

def RefundStep.step (db : Db) (a : Env × RefundStep) : Db :=
  match a.2 with
  | .requestRefund paymentId amount reason requestedById =>
      match MarketBridge.requestRefund a.1 paymentId amount reason requestedById db with
      | .ok (db, _) => db
      | .error _ => db
  | .processRefund refundId answers => (MarketBridge.processRefund a.1 refundId answers db).1
  | .verifyAndFinalizeRefund refundId answer =>
      (MarketBridge.verifyAndFinalizeRefund a.1 refundId answer db).1
  | .finalizeRefund refundId providerStatus =>
      commit (MarketBridge.finalizeRefund a.1 refundId providerStatus db) db
  | .failRefund refundId failureReason allowProcessing =>
      (MarketBridge.failRefund a.1 refundId failureReason allowProcessing db).1
  | .retryRefund refundId actorId note answers =>
      (MarketBridge.retryRefund a.1 refundId actorId note answers db).1
  | .settlePaymentCore args _ => commit (MarketBridge.settlePaymentCore a.1 args db) db
  | .elsewhere other => { other with payments := db.payments, refunds := db.refunds }

/-! ## The condition -/

/--
Failing the refund leaves it and its payment coupled: either it is the live
refund and the payment may become `PAID` again, or it is not, and the payment
may not.
-/
def FailureKeepsCoupling (db : Db) (refundId : Id) : Prop :=
  forall r p, db.refunds.findUnique refundId = some r ->
    db.payments.findUnique r.paymentId = some p -> p.isInstallmentParent = false ->
    p.status = .refundPending ->
    (r.status.isOpen = true ↔
      paymentConflict db r.paymentId (p.withStatus .paid) = false)

/-- The provider rejects the submission, or reverses the refund right after it. -/
def ProviderAnswers.fail (answers : ProviderAnswers) : Bool :=
  match refundReferenceOf answers.submission with
  | .error e => e.isRejection
  | .ok _ =>
      match answers.verification with
      | .error _ => false
      | .ok status => RefundVerification.ofText status = .reversed

def isSubmittable (db : Db) (payment : Payment) : Bool :=
  (providerForPayment payment).isSome && truthy payment.chapaTxRef &&
    ((related db.orders payment.orderId).all fun order =>
      order.status = .cancelled || isStalledInspectionRefund db payment)

/-- The step does not reach a write that separates a refund from its payment. -/
def RefundStep.keepsCoupling (db : Db) (a : Env × RefundStep) : Prop :=
  match a.2 with
  | .requestRefund _ _ _ _ => True
  | .finalizeRefund _ _ => True
  | .elsewhere _ => True
  | .failRefund refundId _ allowProcessing =>
      forall r, db.refunds.findUnique refundId = some r ->
        assertCanFail allowProcessing r = .ok () -> FailureKeepsCoupling db refundId
  | .verifyAndFinalizeRefund refundId answer =>
      forall r status, db.refunds.findUnique refundId = some r ->
        r.status ≠ .completed -> truthy r.providerRefundId = true ->
        answer = .ok status -> RefundVerification.ofText status = .reversed ->
        FailureKeepsCoupling db refundId
  | .processRefund refundId answers =>
      forall r p, db.refunds.findUnique refundId = some r -> r.status = .requested ->
        db.payments.findUnique r.paymentId = some p -> isSubmittable db p = true ->
        answers.fail = true -> FailureKeepsCoupling db refundId
  | .retryRefund refundId _ _ answers =>
      forall r p, db.refunds.findUnique refundId = some r -> r.status = .failed ->
        db.payments.findUnique r.paymentId = some p -> isSubmittable db p = true ->
        p.isInstallmentParent = false -> answers.fail = true ->
        paymentConflict db r.paymentId (p.withStatus .paid) = false
  | .settlePaymentCore args _ =>
      forall p, db.payments.findUnique args.paymentId = some p ->
        p.isInstallmentParent = false -> p.status = .refundPending ->
        settlementWrites args db p = false ∧
          (mismatchReason p args = none ∨ flagCommits args db p = false)

/-! ## The invariant -/

/-- The refunds of one payment and the status of that payment. -/
structure CoupledAt (refunds : Table PaymentRefund) (i : Id) (s : PaymentStatus) :
    Prop where
  pending : forall j, OpenRefund refunds i j -> s = .refundPending
  held : s = .refundPending -> exists j, OpenRefund refunds i j
  unique : forall j k, OpenRefund refunds i j -> OpenRefund refunds i k -> j = k
  completed : forall j, CompletedRefund refunds i j -> s = .refunded

structure RefundInv (db : Db) : Prop where
  coupled : forall i p, db.payments.findUnique i = some p ->
    p.isInstallmentParent = false -> CoupledAt db.refunds i p.status
  owned : forall j r, db.refunds.findUnique j = some r ->
    exists p, db.payments.findUnique r.paymentId = some p
  payments : PaymentsIndexed db.payments
  refunds : db.refunds.Unique PaymentRefund.sameProviderRefund

theorem RefundInv.refundsCoupled {db : Db} (h : RefundInv db) : RefundsCoupled db := by
  intro i p hp hparent
  have hc := h.coupled i p hp hparent
  refine ⟨⟨?_, ?_⟩, hc.completed⟩
  · intro hs
    obtain ⟨j, hj⟩ := hc.held hs
    exact ⟨j, hj, fun k hk => hc.unique k j hk hj⟩
  · rintro ⟨j, hj, -⟩
    exact hc.pending j hj

variable {refunds : Table PaymentRefund} {s : PaymentStatus} {r : PaymentRefund}
  {f : PaymentRefund -> PaymentRefund}

theorem CoupledAt.congr {refunds' : Table PaymentRefund} {i : Id} (h : CoupledAt refunds i s)
    (hopen : forall j, OpenRefund refunds' i j ↔ OpenRefund refunds i j)
    (hcompleted : forall j, CompletedRefund refunds' i j -> CompletedRefund refunds i j) :
    CoupledAt refunds' i s where
  pending j hj := h.pending j ((hopen j).1 hj)
  held hs :=
    have ⟨j, hj⟩ := h.held hs
    ⟨j, (hopen j).2 hj⟩
  unique j k hj hk := h.unique j k ((hopen j).1 hj) ((hopen k).1 hk)
  completed j hj := h.completed j (hcompleted j hj)

theorem hasRefund_update {j : Id} (hr : refunds.findUnique j = some r)
    (howner : (f r).paymentId = r.paymentId) (i : Id) (φ : PaymentRefundStatus -> Bool) (k : Id) :
    HasRefund (refunds.update j f) i φ k ↔
      if k = j then r.paymentId = i ∧ φ (f r).status = true
      else HasRefund refunds i φ k := by
  unfold HasRefund
  rw [Table.findUnique_update]
  by_cases hk : k = j
  · simp [hk, hr, howner]
  · simp [hk]

theorem hasRefund_create (i : Id) (φ : PaymentRefundStatus -> Bool) (k : Id) :
    HasRefund (refunds.create r) i φ k ↔
      if k = refunds.size then r.paymentId = i ∧ φ r.status = true
      else HasRefund refunds i φ k := by
  unfold HasRefund
  rw [Table.findUnique_create]
  by_cases hk : k = refunds.size <;> simp [hk]

theorem hasRefund_self {j : Id} (hr : refunds.findUnique j = some r)
    {φ : PaymentRefundStatus -> Bool} :
    HasRefund refunds r.paymentId φ j ↔ φ r.status = true := by
  unfold HasRefund
  simp [hr]

theorem sameProviderRefund_comm (r q : PaymentRefund) :
    r.sameProviderRefund q = q.sameProviderRefund r := by
  unfold PaymentRefund.sameProviderRefund
  rw [Bool.eq_iff_iff]
  simp only [Bool.and_eq_true, decide_eq_true_eq]
  constructor
  · rintro ⟨⟨⟨hp, ht⟩, hprovider⟩, hrefund⟩
    exact ⟨⟨⟨hprovider ▸ hp, hrefund ▸ ht⟩, hprovider.symm⟩, hrefund.symm⟩
  · rintro ⟨⟨⟨hp, ht⟩, hprovider⟩, hrefund⟩
    exact ⟨⟨⟨hprovider ▸ hp, hrefund ▸ ht⟩, hprovider.symm⟩, hrefund.symm⟩

namespace RefundInv

theorem congr {db db' : Db} (h : RefundInv db) (hpayments : db'.payments = db.payments)
    (hrefunds : db'.refunds = db.refunds) :
    RefundInv db' where
  coupled := by
    rw [hpayments, hrefunds]
    exact h.coupled
  owned := by
    rw [hpayments, hrefunds]
    exact h.owned
  payments := hpayments ▸ h.payments
  refunds := hrefunds ▸ h.refunds

/-- Writing one payment and refunds of that payment only. -/
theorem rewrite {db db' : Db} (h : RefundInv db) {i : Id} {p : Payment}
    {g : Payment -> Payment} (hp : db.payments.findUnique i = some p)
    (hparent : (g p).installmentCount = p.installmentCount)
    (hpayments : db'.payments = db.payments.update i g)
    (hindexed : PaymentsIndexed db'.payments)
    (hrefunds : db'.refunds.Unique PaymentRefund.sameProviderRefund)
    (howned : forall j r, db'.refunds.findUnique j = some r ->
      exists q, db.payments.findUnique r.paymentId = some q)
    (hothers : forall k φ j, k ≠ i ->
      (HasRefund db'.refunds k φ j ↔ HasRefund db.refunds k φ j))
    (hcoupled : p.isInstallmentParent = false -> CoupledAt db'.refunds i (g p).status) :
    RefundInv db' where
  coupled := by
    intro k q hq hq'
    rw [hpayments, Table.findUnique_update] at hq
    by_cases hk : k = i
    · rw [if_pos hk, hk, hp, Option.map_some, Option.some.injEq] at hq
      rw [hk, ← hq]
      apply hcoupled
      rw [← hq', ← hq]
      simp only [Payment.isInstallmentParent, hparent]
    · rw [if_neg hk] at hq
      exact (h.coupled k q hq hq').congr (fun j => hothers k _ j hk)
        fun j => (hothers k _ j hk).1
  owned := by
    intro j r hr
    obtain ⟨q, hq⟩ := howned j r hr
    rw [hpayments, Table.findUnique_update]
    by_cases hk : r.paymentId = i
    · exact ⟨g q, by rw [if_pos hk, hq, Option.map_some]⟩
    · exact ⟨q, by rw [if_neg hk, hq]⟩
  payments := hindexed
  refunds := hrefunds

/-- A write of one payment that keeps its coupling. -/
theorem writePayment {db db' : Db} (h : RefundInv db) {i : Id} {p : Payment}
    {g : Payment -> Payment} (hp : db.payments.findUnique i = some p)
    (hparent : (g p).installmentCount = p.installmentCount)
    (hconflict : paymentConflict db i (g p) = false)
    (hcoupled : p.isInstallmentParent = false -> CoupledAt db.refunds i (g p).status)
    (hpayments : db'.payments = db.payments.update i g)
    (hrefunds : db'.refunds = db.refunds) :
    RefundInv db' := by
  have hindexed : PaymentsIndexed db'.payments := by
    rw [hpayments]
    apply h.payments.update
    intro q hq
    rw [Option.some.inj (hq.symm.trans hp)]
    exact hconflict
  apply h.rewrite hp hparent hpayments hindexed
  · rw [hrefunds]
    exact h.refunds
  · rw [hrefunds]
    exact h.owned
  · intro k φ j _
    rw [hrefunds]
  · rw [hrefunds]
    exact hcoupled

/-- The refunds once refund `j` of payment `i` is written. -/
theorem updateRefund {db : Db} (h : RefundInv db) {j : Id} {r : PaymentRefund}
    {f : PaymentRefund -> PaymentRefund} (hr : db.refunds.findUnique j = some r)
    (howner : forall q, (f q).paymentId = q.paymentId)
    (hfree : forall k q, db.refunds.findUnique k = some q -> k ≠ j ->
      (f r).sameProviderRefund q = false) :
    (db.refunds.update j f).Unique PaymentRefund.sameProviderRefund ∧
      (forall k q, (db.refunds.update j f).findUnique k = some q ->
        exists p, db.payments.findUnique q.paymentId = some p) ∧
      forall k φ l, k ≠ r.paymentId ->
        (HasRefund (db.refunds.update j f) k φ l ↔ HasRefund db.refunds k φ l) := by
  refine ⟨?_, ?_, ?_⟩
  · apply h.refunds.update sameProviderRefund_comm
    intro q k s hq hs hk
    rw [Option.some.inj (hq.symm.trans hr)]
    exact hfree k s hs hk
  · intro k q hq
    rw [Table.findUnique_update] at hq
    by_cases hk : k = j
    · rw [if_pos hk] at hq
      obtain ⟨q', hq', rfl⟩ := Option.map_eq_some_iff.mp hq
      rw [howner]
      exact h.owned k q' hq'
    · rw [if_neg hk] at hq
      exact h.owned k q hq
  · intro k φ l hk
    rw [hasRefund_update hr (howner r)]
    by_cases hl : l = j
    · have hne : r.paymentId ≠ k := fun he => hk he.symm
      simp [hl, hne, HasRefund, hr]
    · simp [hl]

/-- A write of one refund and of its payment. -/
theorem writeBoth {db db' : Db} (h : RefundInv db) {j : Id} {r : PaymentRefund}
    {f : PaymentRefund -> PaymentRefund} {p : Payment} {g : Payment -> Payment}
    (hr : db.refunds.findUnique j = some r)
    (howner : forall q, (f q).paymentId = q.paymentId)
    (hfree : forall k q, db.refunds.findUnique k = some q -> k ≠ j ->
      (f r).sameProviderRefund q = false)
    (hp : db.payments.findUnique r.paymentId = some p)
    (hparent : (g p).installmentCount = p.installmentCount)
    (hconflict : paymentConflict db r.paymentId (g p) = false)
    (hcoupled : p.isInstallmentParent = false ->
      CoupledAt (db.refunds.update j f) r.paymentId (g p).status)
    (hpayments : db'.payments = db.payments.update r.paymentId g)
    (hrefunds : db'.refunds = db.refunds.update j f) :
    RefundInv db' := by
  obtain ⟨hunique, howned, hothers⟩ := h.updateRefund hr howner hfree
  have hindexed : PaymentsIndexed db'.payments := by
    rw [hpayments]
    apply h.payments.update
    intro q hq
    rw [Option.some.inj (hq.symm.trans hp)]
    exact hconflict
  rw [← hrefunds] at hunique howned hothers hcoupled
  exact h.rewrite hp hparent hpayments hindexed hunique howned hothers hcoupled

/-- A write of one refund alone. -/
theorem writeRefund {db db' : Db} (h : RefundInv db) {j : Id} {r : PaymentRefund}
    {f : PaymentRefund -> PaymentRefund} (hr : db.refunds.findUnique j = some r)
    (howner : forall q, (f q).paymentId = q.paymentId)
    (hfree : forall k q, db.refunds.findUnique k = some q -> k ≠ j ->
      (f r).sameProviderRefund q = false)
    (hcoupled : forall p, db.payments.findUnique r.paymentId = some p ->
      p.isInstallmentParent = false ->
      CoupledAt (db.refunds.update j f) r.paymentId p.status)
    (hpayments : db'.payments = db.payments)
    (hrefunds : db'.refunds = db.refunds.update j f) :
    RefundInv db' := by
  obtain ⟨hunique, howned, hothers⟩ := h.updateRefund hr howner hfree
  obtain ⟨p, hp⟩ := h.owned j r hr
  have hsame : db'.payments = db.payments.update r.paymentId id := by
    rw [hpayments, (Table.update_eq_self_iff hp id).2 rfl]
  rw [← hrefunds] at hunique howned hothers hcoupled
  exact h.rewrite hp rfl hsame (hpayments ▸ h.payments) hunique howned hothers
    (hcoupled p hp)

end RefundInv

theorem CoupledAt.keep {j : Id} (hr : refunds.findUnique j = some r)
    (howner : (f r).paymentId = r.paymentId) (hopen : (f r).status.isOpen = r.status.isOpen)
    (hcompleted : (f r).status = .completed -> r.status = .completed)
    (h : CoupledAt refunds r.paymentId s) :
    CoupledAt (refunds.update j f) r.paymentId s := by
  apply h.congr
  · intro k
    unfold OpenRefund
    rw [hasRefund_update hr howner]
    by_cases hk : k = j
    · simp [hk, HasRefund, hr, hopen]
    · simp [hk]
  · intro k hk
    unfold CompletedRefund at hk ⊢
    rw [hasRefund_update hr howner] at hk
    by_cases hkj : k = j
    · rw [if_pos hkj] at hk
      have hdone : r.status = .completed := hcompleted (by simpa using hk.2)
      exact ⟨r, hkj ▸ hr, rfl, by simp [hdone]⟩
    · rwa [if_neg hkj] at hk

theorem CoupledAt.close {j : Id} {s' : PaymentStatus} (hr : refunds.findUnique j = some r)
    (howner : (f r).paymentId = r.paymentId) (hlive : r.status.isOpen = true)
    (hclosed : (f r).status.isOpen = false) (hs' : s' ≠ .refundPending)
    (hcompleted : (f r).status = .completed -> s' = .refunded)
    (h : CoupledAt refunds r.paymentId s) :
    CoupledAt (refunds.update j f) r.paymentId s' := by
  have hself : OpenRefund refunds r.paymentId j := (hasRefund_self hr).2 hlive
  have hs : s = .refundPending := h.pending j hself
  have hnone : forall k, ¬ OpenRefund (refunds.update j f) r.paymentId k := by
    intro k hk
    unfold OpenRefund at hk
    rw [hasRefund_update hr howner] at hk
    by_cases hkj : k = j
    · rw [if_pos hkj, hclosed] at hk
      exact absurd hk.2 (by simp)
    · rw [if_neg hkj] at hk
      exact hkj (h.unique k j hk hself)
  refine ⟨?_, ?_, ?_, ?_⟩
  · intro k hk
    exact absurd hk (hnone k)
  · intro he
    exact absurd he hs'
  · intro k l hk
    exact absurd hk (hnone k)
  · intro k hk
    unfold CompletedRefund at hk
    rw [hasRefund_update hr howner] at hk
    by_cases hkj : k = j
    · rw [if_pos hkj] at hk
      exact hcompleted (by simpa using hk.2)
    · rw [if_neg hkj] at hk
      have hdone := h.completed k hk
      rw [hs] at hdone
      cases hdone

end MarketBridge
