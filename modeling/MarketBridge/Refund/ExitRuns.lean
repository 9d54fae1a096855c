import MarketBridge.Refund.ExitStuck

/-!
# Every refund has a way out, unless it is stuck

The ways out themselves: a paid out refund is verified, a requested one is sent,
and a failed one is retried.  Together with the stuck refunds they say exactly
when the money of a cancelled order goes back.
-/

namespace MarketBridge

open Relational

/-! ## Single operations that go through -/

section Operations

variable {db : Db} {j : Id} {r : PaymentRefund} {p : Payment}

theorem claimForProcessing_ok (hr : db.refunds.findUnique j = some r)
    (hs : r.status = .requested) (hp : db.payments.findUnique r.paymentId = some p)
    (hsubmittable : isSubmittable db p = true) (hreference : r.providerRefundId = none) :
    exists claimed, claimForProcessing j db = .ok (some claimed) := by
  unfold isSubmittable at hsubmittable
  rw [Bool.and_eq_true, Bool.and_eq_true, Option.isSome_iff_exists] at hsubmittable
  obtain ⟨⟨⟨provider, hprovider⟩, htruthy⟩, horder⟩ := hsubmittable
  have hcancelled : assertOrderCancelled "processing" p db = .ok () := by
    unfold assertOrderCancelled
    cases ho : related db.orders p.orderId with
    | none =>
        rfl
    | some order =>
        rw [ho, Option.all_some, Bool.or_eq_true, decide_eq_true_eq] at horder
        rcases horder with hs' | hstalled
        · simp [hs']
        · simp [hstalled]
  have hmove : moveRefund j (· = .requested) (·.submit provider) db =
      .ok ({ db with refunds := db.refunds.update j (·.submit provider) }, true) := by
    have hfree : (db.refunds.any fun k q =>
        k ≠ j && (r.submit provider).sameProviderRefund q) = false := by
      rw [Table.any_eq_false_iff]
      intro k q _
      simp [PaymentRefund.sameProviderRefund, PaymentRefund.submit, hreference]
    unfold moveRefund
    simpa [hr, hs] using hfree
  refine ⟨({ db with refunds := db.refunds.update j (·.submit provider) }, provider), ?_⟩
  unfold claimForProcessing
  simp [hr, hs, hp, hprovider, htruthy, hcancelled, hmove]

theorem requestRefund_creates {i : Id} (env : Env) (reason : Option String)
    (requestedById : Option Id) (hindexed : PaymentsIndexed db.payments)
    (hp : db.payments.findUnique i = some p) (hs : p.status = .paid) (hpos : 0 < p.amount)
    (hnone : newestRefund db i [.requested, .processing, .completed] = none) :
    exists db', requestRefund env i (some (.finite p.amount)) reason requestedById db =
      .ok (db', db.refunds.size) := by
  have hamount : fullRefundAmount p (some (.finite p.amount)) = some p.amount := by
    simp [fullRefundAmount, hpos]
  have hmove : movePayment i .paid .refundPending db =
      .ok ({ db with payments := db.payments.update i (·.withStatus .refundPending) }, true) := by
    have hwrite : updatePayment i (·.withStatus .refundPending) db =
        .ok { db with payments := db.payments.update i (·.withStatus .refundPending) } :=
      updatePayment_eq_ok_iff.2 ⟨p, hp, hindexed.inactive_conflict hp (by simp), rfl⟩
    unfold movePayment
    simp [hp, hs, hwrite]
  have hreset : resetForRetry i p db = .ok db := by
    simp [resetForRetry, hs]
  have htransition : assertTransition .paid .refundPending = .ok () := by
    rfl
  refine ⟨recordOrderEvent env p.orderId .paymentRefundRequested
    { db with
      payments := db.payments.update i (·.withStatus .refundPending)
      refunds := db.refunds.create (newRefund i p p.amount reason requestedById) }, ?_⟩
  unfold requestRefund
  simp [hp, hs, hamount, hnone, hreset, htransition, hmove]

end Operations

/-! ## Ways out -/

namespace RefundWorld

variable {w : RefundWorld} {env : Env} {i j : Id} {r : PaymentRefund} {p : Payment}

def noAnswer : SubmissionAnswer :=
  .unclear none timeoutError rfl

theorem offered_nil : Offered [] := by
  intro a ha
  cases ha

theorem offered_singleton {a : Env × RefundOperation} (ha : a.2.isOffered = true) :
    Offered [a] := by
  intro b hb
  obtain rfl := List.mem_singleton.1 hb
  exact ha

theorem ReachesSubmission.of_step {a : Env × RefundOperation} (ha : a.2.isOffered = true)
    (hsubmitted : (w.step a).submitted = w.submitted) (h : (w.step a).ReachesSubmission i) :
    w.ReachesSubmission i := by
  obtain ⟨as, j, r, hoffered, hj, hnew, hr, howner⟩ := h
  refine ⟨a :: as, j, r, ?_, hj, ?_, hr, howner⟩
  · intro b hb
    rcases List.mem_cons.1 hb with rfl | hb
    · exact ha
    · exact hoffered b hb
  · rw [← hsubmitted]
    exact hnew

theorem Inv.process_sends (h : w.Inv) (env : Env) (hr : w.db.refunds.findUnique j = some r)
    (hs : r.status = .requested) (hp : w.db.payments.findUnique r.paymentId = some p)
    (hsubmittable : isSubmittable w.db p = true) (answer : SubmissionAnswer) (reached : Bool) :
    j ∈ (w.process env j answer reached).submitted ∧ j ∉ w.submitted ∧
      exists r', (w.process env j answer reached).db.refunds.findUnique j = some r' ∧
        r'.paymentId = r.paymentId := by
  have hfacts := h.submissions.rows j r hr
  have hreference : r.providerRefundId = none := by
    cases hrefId : r.providerRefundId with
    | none =>
        rfl
    | some refId =>
        exact absurd (h.submissions.sent j refId (hfacts.reference refId hrefId).2)
          (hfacts.requested hs)
  obtain ⟨claimed, hclaim⟩ := claimForProcessing_ok hr hs hp hsubmittable hreference
  refine ⟨?_, hfacts.requested hs, ?_⟩
  · simp only [RefundWorld.process, hclaim]
    exact List.mem_cons_self
  · obtain ⟨r', hr', howner, -⟩ :=
      (w.process_touches env j answer reached).refunds.of_left hr
    exact ⟨r', hr', howner⟩

theorem Inv.reachesSubmission_of_requested (h : w.Inv)
    (hr : w.db.refunds.findUnique j = some r) (hs : r.status = .requested)
    (hp : w.db.payments.findUnique r.paymentId = some p)
    (hsubmittable : isSubmittable w.db p = true) :
    w.ReachesSubmission r.paymentId := by
  obtain ⟨hj, hnew, r', hr', howner⟩ :=
    h.process_sends env0 hr hs hp hsubmittable noAnswer false
  exact ⟨[(env0, .process j noAnswer false)], j, r', offered_singleton rfl, hj, hnew, hr', howner⟩

theorem Inv.reachesSubmission_of_failed (h : w.Inv) (hr : w.db.refunds.findUnique j = some r)
    (hfailed : forall k q, w.db.refunds.findUnique k = some q -> q.paymentId = r.paymentId ->
      q.status = .failed)
    (hp : w.db.payments.findUnique r.paymentId = some p) (hs : p.status = .paid)
    (hsubmittable : isSubmittable w.db p = true) :
    w.ReachesSubmission r.paymentId := by
  obtain ⟨p', hp', -, hamount, hpos, -⟩ := h.payments.owned j r hr
  obtain rfl := Option.some.inj (hp.symm.trans hp')
  have hnone : newestRefund w.db r.paymentId [.requested, .processing, .completed] = none := by
    cases hnewest : newestRefund w.db r.paymentId [.requested, .processing, .completed] with
    | none =>
        rfl
    | some e =>
        obtain ⟨hq, howner, hstatus⟩ := newestRefund_eq_some hnewest
        rw [hfailed e.1 e.2 hq howner] at hstatus
        simp at hstatus
  obtain ⟨db', hrequest⟩ := requestRefund_creates env0
    (jsOr none (jsOr r.reason (some "Retry after failed Chapa refund"))) none
    h.payments.indexed hp hs hpos hnone
  have hretry : MarketBridge.retryRequest env0 j none none w.db =
      .ok (db', w.db.refunds.size) := by
    unfold MarketBridge.retryRequest
    simp only [hr, hfailed j r hr rfl, hamount]
    exact hrequest
  have hinv := h.retryRequest hretry
  obtain ⟨q, refundAmount, hq, -, -, hcases⟩ := requestRefund_eq_ok hrequest
  obtain rfl := Option.some.inj (hp.symm.trans hq)
  rcases hcases with ⟨-, e, he⟩ | ⟨-, -, -, events, hdb⟩
  · rw [hnone] at he
    cases he
  · obtain ⟨hj, hnew, r', hr', howner⟩ := hinv.process_sends env0
      (j := w.db.refunds.size)
      (r := newRefund r.paymentId p refundAmount
        (jsOr none (jsOr r.reason (some "Retry after failed Chapa refund"))) none)
      (p := p.withStatus .refundPending) (by simp [hdb]) rfl
      (by simp [hdb, newRefund, hp]) (by rw [hdb]; exact hsubmittable) noAnswer false
    refine ⟨[(env0, .retry j none none noAnswer false)], w.db.refunds.size, r',
      offered_singleton rfl, ?_, hnew, ?_, howner⟩
    · simp only [run_cons, run_nil, RefundWorld.step, hretry]
      exact hj
    · simp only [run_cons, run_nil, RefundWorld.step, hretry]
      exact hr'

theorem Inv.reachesSubmission_of_reversed (h : w.Inv) {refId : String}
    (hr : w.db.refunds.findUnique j = some r) (hs : r.status = .processing)
    (hrefId : r.providerRefundId = some refId) (hv : w.book.verdict refId = some false)
    (hp : w.db.payments.findUnique r.paymentId = some p) (hnot : p.status ≠ .refunded)
    (hsubmittable : isSubmittable w.db p = true) :
    w.ReachesSubmission r.paymentId := by
  have htruthy := ((h.submissions.rows j r hr).reference refId hrefId).1
  have hreference : referenceOf w.db j = some refId := by
    simp [referenceOf, hr, hrefId]
  have hverify : (verifyAndFinalizeRefund env0 j
      (w.book.answer true (referenceOf w.db j)) w.db).1 =
        (MarketBridge.failRefund env0 j (some "Chapa reversed the refund after processing.") true w.db).1 := by
    unfold verifyAndFinalizeRefund
    simp only [hr, hs, hrefId, htruthy, hreference, ProviderBook.answer, ofText_report, hv]
    rfl
  have hinv := h.step (env0, .verify j true)
  refine ReachesSubmission.of_step (a := (env0, .verify j true)) rfl rfl ?_
  simp only [RefundWorld.step, hverify] at hinv ⊢
  rcases failRefund_written env0 (j := j) h.payments
      (some "Chapa reversed the refund after processing.") true with
    ⟨-, hrefuses⟩ | ⟨r', p', hr', hp', -, hsame⟩
  · refine absurd ?_ (hrefuses r hr)
    simp [assertCanFail, hs]
  · obtain rfl := Option.some.inj (hr.symm.trans hr')
    obtain rfl := Option.some.inj (hp.symm.trans hp')
    have hpaid : p.restoredStatus = .paid := by
      obtain ⟨q, hq, -, -, -, hstatus, -⟩ := h.payments.owned j r hr
      obtain rfl := Option.some.inj (hp.symm.trans hq)
      unfold Payment.restoredStatus
      split
      · rfl
      · next hne =>
          simpa [hne, hnot] using hstatus
    have hrow : (MarketBridge.failRefund env0 j (some "Chapa reversed the refund after processing.") true
        w.db).1.refunds.findUnique j =
          some (r.fail (some "Chapa reversed the refund after processing.")) := by
      rw [hsame.2]
      simp [rewritten, hr]
    have hframe := RefundFrame.failRefund env0 j
      (some "Chapa reversed the refund after processing.") true w.db
    refine hinv.reachesSubmission_of_failed (p := p.withStatus .paid)
      (r := r.fail (some "Chapa reversed the refund after processing.")) hrow ?_ ?_ rfl ?_
    · intro k q hq howner
      rw [hsame.2] at hq
      by_cases hk : k = j
      · subst hk
        simp only [rewritten, Table.findUnique_update_self, hr] at hq
        obtain rfl := Option.some.inj hq
        rfl
      · by_contra hlive
        refine hk (h.payments.eq_of_not_failed (r := q) ?_ hr howner hlive (by simp [hs]))
        exact (Table.findUnique_update_ne hk).symm.trans hq
    · rw [hsame.1, ← hpaid]
      simp [rewritten, PaymentRefund.fail, hp]
    · rw [isSubmittable_frame hframe]
      exact hsubmittable

/-! ## Exactly when there is a way out -/

theorem Inv.processing_of_returned (h : w.Inv) (hp : w.db.payments.findUnique i = some p)
    (hnot : p.status ≠ .refunded) (hreturned : w.MoneyReturned i) :
    exists refId j r, w.db.refunds.findUnique j = some r ∧ r.paymentId = i ∧
      r.status = .processing ∧ (j, refId) ∈ w.book.accepted ∧
      w.book.verdict refId = some true := by
  obtain ⟨refId, ⟨j, r, hr, rfl, hmem⟩, hv⟩ := hreturned
  have hfacts := h.submissions.rows j r hr
  refine ⟨refId, j, r, hr, rfl, ?_, hmem, hv⟩
  cases hs : r.status with
  | processing =>
      rfl
  | requested =>
      exact absurd (h.submissions.sent j refId hmem) (hfacts.requested hs)
  | failed =>
      rw [hfacts.failed hs refId hmem] at hv
      cases hv
  | completed =>
      obtain ⟨q, hq, -, -, -, -, hdone⟩ := h.payments.owned j r hr
      obtain rfl := Option.some.inj (hp.symm.trans hq)
      exact absurd (hdone hs) hnot
  | cancelled =>
      exact absurd hs hfacts.live

theorem stuck_of_not_referenced (hp : w.db.payments.findUnique i = some p)
    (hnot : p.status ≠ .refunded) (hreferenced : ¬ w.Referenced i) :
    Stuck i w := by
  simp only [Referenced, not_forall] at hreferenced
  obtain ⟨j, r, hr, howner, hs, hnone⟩ := hreferenced
  exact ⟨j, r, p, hr, howner, hs, hp, hnot, Or.inl (by simpa using hnone)⟩

/--
Returned money reaches the payment of a cancelled order exactly when the payment
is refunded already, or is under refund and has the reference to verify.
-/
theorem Inv.reachesRefunded_iff (h : w.Inv) (hp : w.db.payments.findUnique i = some p)
    (horder : ((related w.db.orders p.orderId).all fun order => order.status = .cancelled) = true)
    (hreturned : w.MoneyReturned i) :
    w.ReachesRefunded i ↔
      p.status = .refunded ∨ p.status = .refundPending ∧ w.Referenced i := by
  by_cases hdone : p.status = .refunded
  · refine iff_of_true ⟨[], offered_nil, ?_⟩ (Or.inl hdone)
    simp [hp, hdone]
  · obtain ⟨refId, j, r, hr, rfl, hs, hmem, hv⟩ := h.processing_of_returned hp hdone hreturned
    constructor
    · intro hreaches
      by_contra hnone
      simp only [not_or, not_and] at hnone
      by_cases hreferenced : w.Referenced r.paymentId
      · -- The payment went back to `PAID` while its refund was in processing.
        have hpaid : p.status = .paid := by
          obtain ⟨q, hq, -, -, -, hstatus, -⟩ := h.payments.owned j r hr
          obtain rfl := Option.some.inj (hp.symm.trans hq)
          have hpending : p.status ≠ .refundPending := fun hpending =>
            hnone.2 hpending hreferenced
          simpa [hdone, hpending] using hstatus
        obtain ⟨refId', hrefId⟩ := Option.isSome_iff_exists.1 (hreferenced j r hr rfl hs)
        have hsame := h.submissions.once j refId' refId
          ((h.submissions.rows j r hr).reference refId' hrefId).2 hmem
        subst hsame
        have hstuck : Stuck r.paymentId w :=
          ⟨j, r, p, hr, rfl, hs, hp, hdone, Or.inr ⟨hpaid, refId', hrefId, hv⟩⟩
        exact hstuck.not_reachesRefunded h hreaches
      · exact (stuck_of_not_referenced hp hdone hreferenced).not_reachesRefunded h hreaches
    · rintro (hrefunded | ⟨hpending, hreferenced⟩)
      · exact absurd hrefunded hdone
      · obtain ⟨refId', hrefId⟩ := Option.isSome_iff_exists.1 (hreferenced j r hr rfl hs)
        obtain ⟨htruthy, hmem'⟩ := (h.submissions.rows j r hr).reference refId' hrefId
        obtain rfl := h.submissions.once j refId' refId hmem' hmem
        obtain ⟨db', hfinal, -, hrefunded⟩ := finalizeRefund_completes h.payments.distinct
          h.payments.indexed hr (by simp [hs, PaymentRefundStatus.isOpen]) hp hpending horder env0
        have hreference : referenceOf w.db j = some refId' := by
          simp [referenceOf, hr, hrefId]
        refine ⟨[(env0, .verify j true)], offered_singleton rfl, ?_⟩
        have hverify : (verifyAndFinalizeRefund env0 j
            (w.book.answer true (referenceOf w.db j)) w.db).1 = db' := by
          unfold verifyAndFinalizeRefund
          simp only [hr, hs, hrefId, htruthy, hreference, ProviderBook.answer, ofText_report,
            hv, hfinal]
          rfl
        simp only [run_cons, run_nil, RefundWorld.step, hverify]
        exact hrefunded

/--
A payment whose money was kept reaches a new submission exactly when it can be
submitted at all and has no refund in processing without a reference.
-/
theorem Inv.reachesSubmission_iff (h : w.Inv) (hr : w.db.refunds.findUnique j = some r)
    (hp : w.db.payments.findUnique r.paymentId = some p) (hkept : w.MoneyKept r.paymentId) :
    w.ReachesSubmission r.paymentId ↔
      isSubmittable w.db p = true ∧ w.Referenced r.paymentId := by
  have hnotCompleted : forall k q, w.db.refunds.findUnique k = some q ->
      q.paymentId = r.paymentId -> q.status ≠ .completed := by
    intro k q hq howner hs
    obtain ⟨refId, hmem, hv⟩ := (h.submissions.rows k q hq).completed hs
    rw [hkept refId ⟨k, q, hq, howner, hmem⟩] at hv
    cases hv
  have hnot : p.status ≠ .refunded := by
    intro hs
    obtain ⟨k, q, hq, howner, hdone⟩ :=
      h.payments.refunded r.paymentId p hp hs (RefundedPayments.isRefunded_of_refund hr)
    exact hnotCompleted k q hq howner (by simpa using hdone)
  constructor
  · intro hreaches
    refine ⟨?_, ?_⟩
    · by_contra hsubmittable
      exact not_reachesSubmission_of_not_submittable h hp (Bool.eq_false_iff.2 hsubmittable)
        hreaches
    · by_contra hreferenced
      exact (stuck_of_not_referenced hp hnot hreferenced).not_reachesSubmission h hreaches
  · rintro ⟨hsubmittable, hreferenced⟩
    by_cases hlive : exists k q, w.db.refunds.findUnique k = some q ∧
        q.paymentId = r.paymentId ∧ q.status ≠ .failed
    · obtain ⟨k, q, hq, howner, hs⟩ := hlive
      rw [← howner] at hp ⊢
      cases hstatus : q.status with
      | requested =>
          exact h.reachesSubmission_of_requested hq hstatus hp hsubmittable
      | processing =>
          obtain ⟨refId, hrefId⟩ :=
            Option.isSome_iff_exists.1 (hreferenced k q hq howner hstatus)
          have hmem := ((h.submissions.rows k q hq).reference refId hrefId).2
          exact h.reachesSubmission_of_reversed hq hstatus hrefId
            (hkept refId ⟨k, q, hq, howner, hmem⟩) hp hnot hsubmittable
      | completed =>
          exact absurd hstatus (hnotCompleted k q hq howner)
      | failed =>
          exact absurd hstatus hs
      | cancelled =>
          exact absurd hstatus (h.submissions.rows k q hq).live
    · simp only [not_exists, not_and, not_not] at hlive
      have hpaid : p.status = .paid := by
        obtain ⟨q, hq, -, -, -, hstatus, -⟩ := h.payments.owned j r hr
        obtain rfl := Option.some.inj (hp.symm.trans hq)
        have hpending : p.status ≠ .refundPending := by
          intro hs
          obtain ⟨k, q, hq, howner, hopen⟩ := h.payments.pending r.paymentId p hp hs
            (RefundedPayments.isRefunded_of_refund hr)
          rw [hlive k q hq howner] at hopen
          cases hopen
        simpa [hnot, hpending] using hstatus
      exact h.reachesSubmission_of_failed hr (fun k q hq howner => hlive k q hq howner) hp hpaid
        hsubmittable

/-! ## Paying twice -/

/-- A step sends at most one refund, of a payment whose money was kept so far. -/
def SubmitsOnlyKept (w : RefundWorld) (a : Env × RefundOperation) : Prop :=
  (w.step a).submitted = w.submitted ∨
    exists k q, (w.step a).submitted = k :: w.submitted ∧
      (w.step a).db.refunds.findUnique k = some q ∧ w.MoneyKept q.paymentId

theorem Inv.moneyKept_of_requested (h : w.Inv) (hr : w.db.refunds.findUnique j = some r)
    (hs : r.status = .requested) :
    w.MoneyKept r.paymentId := by
  rintro refId ⟨k, q, hq, howner, hmem⟩
  have hne : k ≠ j := by
    rintro rfl
    exact (h.submissions.rows k r hr).requested hs (h.submissions.sent k refId hmem)
  refine (h.submissions.rows k q hq).failed ?_ refId hmem
  by_contra hlive
  exact hne (h.payments.eq_of_not_failed hq hr howner hlive (by simp [hs]))

theorem Inv.process_submitsOnlyKept (h : w.Inv) (env : Env) (j : Id) (answer : SubmissionAnswer) (reached : Bool) :
    (w.process env j answer reached).submitted = w.submitted ∨
      exists q, (w.process env j answer reached).submitted = j :: w.submitted ∧
        (w.process env j answer reached).db.refunds.findUnique j = some q ∧
        w.MoneyKept q.paymentId := by
  rcases w.process_submitted env j answer reached with hsame | ⟨r, p, hr, hs, -, -, hsubmitted, -⟩
  · exact Or.inl (by rw [hsame])
  · obtain ⟨q, hq, howner, -⟩ :=
      (w.process_touches env j answer reached).refunds.of_left hr
    refine Or.inr ⟨q, hsubmitted, hq, ?_⟩
    rw [howner]
    exact h.moneyKept_of_requested hr hs

theorem Inv.submitsOnlyKept (h : w.Inv) (a : Env × RefundOperation) : w.SubmitsOnlyKept a := by
  obtain ⟨env, operation⟩ := a
  cases operation with
  | process j answer reached =>
      rcases h.process_submitsOnlyKept env j answer reached with hsame | ⟨q, hsent⟩
      · exact Or.inl hsame
      · exact Or.inr ⟨j, q, hsent⟩
  | retry j actorId note answer reached =>
      cases hretry : MarketBridge.retryRequest env j actorId note w.db with
      | error e =>
          left
          simp only [RefundWorld.step, hretry]
      | ok next =>
          obtain ⟨db, id⟩ := next
          obtain ⟨r, reason, -, -, hrequest⟩ := retryRequest_eq_ok hretry
          obtain ⟨hadded, -⟩ := requestRefund_refundsAdded hrequest
          unfold SubmitsOnlyKept
          simp only [RefundWorld.step, hretry]
          rcases (h.retryRequest hretry).process_submitsOnlyKept env id
              answer reached with hsame | ⟨q, hsubmitted, hq, hkept⟩
          · exact Or.inl hsame
          · refine Or.inr ⟨id, q, hsubmitted, hq, ?_⟩
            rintro refId ⟨k, o, ho, howner, hmem⟩
            exact hkept refId ⟨k, o, hadded.refunds k o ho, howner, hmem⟩
  | request i reason requestedById =>
      left
      simp only [RefundWorld.step]
      split
      · rfl
      · split <;> rfl
  | _ =>
      exact Or.inl rfl

end RefundWorld

/-! ## Runs -/

/-- No refund was requested yet, and the columns of the payments are as the schema wants them. -/
structure NothingRefunded (db : Db) : Prop where
  refunds : db.refunds = .empty
  indexed : PaymentsIndexed db.payments
  cents : forall i p, db.payments.findUnique i = some p -> IsCents p.amount

namespace RefundWorld

theorem Inv.of_nothingRefunded {db : Db} (h : NothingRefunded db) : Inv { db := db } := by
  have hnone : forall {j r}, db.refunds.findUnique j = some r -> False := by
    intro j r hr
    rw [h.refunds, Table.findUnique_empty] at hr
    cases hr
  have hfresh : forall {i}, ¬ IsRefunded db i := by
    rintro i ⟨j, r, hr, -⟩
    exact hnone hr
  refine ⟨?_, ?_⟩
  · refine ⟨?_, ?_, ?_, ?_⟩
    · intro j r hr
      exact absurd hr hnone
    · intro j hj
      cases hj
    · intro j refId hmem
      cases hmem
    · intro j refId refId' hmem
      cases hmem
  · refine ⟨?_, ?_, ?_, ?_, h.indexed, ?_, ?_, h.cents⟩
    · intro j r hr
      exact absurd hr hnone
    · intro j k r q hr
      exact absurd hr hnone
    · intro i p _ _ hrefunded
      exact absurd hrefunded hfresh
    · intro i p _ _ hrefunded
      exact absurd hrefunded hfresh
    · intro i k p q q' _ _ _ hrefunded
      exact absurd hrefunded hfresh
    · intro j k r q hr
      exact absurd hr hnone

theorem Inv.of_run {db : Db} (h : NothingRefunded db) (as : List (Env × RefundOperation)) :
    (run RefundWorld.step { db := db } as).Inv := by
  have hstep : forall (w : RefundWorld) a, w.Inv -> (w.step a).Inv := fun _ a hw => hw.step a
  exact run_preserves hstep (of_nothingRefunded h) as

/--
In every state reached, the money of a cancelled order that the provider has
returned reaches its payment exactly if the payment is `REFUNDED`, or is
`REFUND_PENDING` and no refund of it is in processing without a reference; money
that it has not returned is asked for again exactly if the payment can be
submitted and no such refund stands in the way; and no step sends a refund of a
payment for which the provider has accepted one and not reversed it.
-/
theorem exits_of_run {db : Db} (hstart : NothingRefunded db)
    {as : List (Env × RefundOperation)} (hw : w = run step { db := db } as)
    (hr : w.db.refunds.findUnique j = some r)
    (hp : w.db.payments.findUnique r.paymentId = some p)
    (horder : ((related w.db.orders p.orderId).any fun order => order.status = .cancelled) =
      true) :
    (w.MoneyReturned r.paymentId ->
        (w.ReachesRefunded r.paymentId ↔
          p.status = .refunded ∨ p.status = .refundPending ∧ w.Referenced r.paymentId)) ∧
      (w.MoneyKept r.paymentId ->
        (w.ReachesSubmission r.paymentId ↔
          isSubmittable w.db p = true ∧ w.Referenced r.paymentId)) ∧
      forall a, w.SubmitsOnlyKept a := by
  have hinv : w.Inv := hw ▸ Inv.of_run hstart as
  have hall : ((related w.db.orders p.orderId).all fun order => order.status = .cancelled) =
      true := by
    cases ho : related w.db.orders p.orderId with
    | none =>
        rfl
    | some order =>
        rw [ho] at horder
        exact horder
  exact ⟨hinv.reachesRefunded_iff hp hall, hinv.reachesSubmission_iff hr hp,
    hinv.submitsOnlyKept⟩

end RefundWorld

/-! ## A lost answer -/

theorem cancelledOrderDb_nothingRefunded : NothingRefunded cancelledOrderDb := by
  refine ⟨rfl, cancelledOrderDb_beforeRefunds.indexed, ?_⟩
  intro i p hp
  have hi : i < 1 := Table.lt_size_of_findUnique hp
  obtain rfl : i = 0 := by omega
  obtain rfl := Option.some.inj hp
  exact ⟨50000, by norm_num [paidGoods]⟩

namespace RefundWorld

/-- The refund is accepted and its reference arrives; the provider returns the money later. -/
def answeredRefund : List (Env × RefundOperation) :=
  [(env0, .request 0 none none),
    (env0, .process 0 (.success "refund-1") false),
    (env0, .decide "refund-1" true)]

theorem exits_of_answeredRefund :
    (run step { db := cancelledOrderDb } answeredRefund).ReachesRefunded 0 := by
  generalize hw : run step { db := cancelledOrderDb } answeredRefund = w
  have hrefunds : w.db.refunds = Table.empty.create
      { paymentId := 0
        amount := 500
        status := .processing
        provider := some "CHAPA"
        providerRefundId := some "refund-1" } := by
    rw [← hw]
    decide +kernel
  have hpayments : w.db.payments = Table.empty.create (paidGoods.withStatus .refundPending) := by
    rw [← hw]
    decide +kernel
  have horders : w.db.orders = cancelledOrderDb.orders := by
    rw [← hw]
    decide +kernel
  have hbook : w.book = { accepted := [(0, "refund-1")], decided := [("refund-1", true)] } := by
    rw [← hw]
    decide +kernel
  have hr : w.db.refunds.findUnique 0 = some
      { paymentId := 0
        amount := 500
        status := .processing
        provider := some "CHAPA"
        providerRefundId := some "refund-1" } := by
    rw [hrefunds]
    rfl
  have hreturned : w.MoneyReturned 0 := by
    refine ⟨"refund-1", ⟨0, _, hr, rfl, ?_⟩, ?_⟩
    · rw [hbook]
      exact List.mem_cons_self
    · rw [hbook]
      rfl
  have hreferenced : w.Referenced 0 := by
    intro j r hr' _ _
    rw [hrefunds] at hr'
    have hj : j < 1 := Table.lt_size_of_findUnique hr'
    obtain rfl : j = 0 := by omega
    obtain rfl := Option.some.inj hr'
    rfl
  have hp : w.db.payments.findUnique 0 = some (paidGoods.withStatus .refundPending) := by
    rw [hpayments]
    rfl
  have horder : ((related w.db.orders (some 0)).any fun order => order.status = .cancelled) =
      true := by
    rw [horders]
    rfl
  have hexits := exits_of_run cancelledOrderDb_nothingRefunded hw.symm hr hp horder
  exact (hexits.1 hreturned).2 (Or.inr ⟨rfl, hreferenced⟩)

end RefundWorld

def RefundWorld.NoneStuck (w : RefundWorld) : Prop :=
  forall j r p, w.db.refunds.findUnique j = some r ->
    r.status ∈ [PaymentRefundStatus.requested, .processing, .failed] ->
    w.db.payments.findUnique r.paymentId = some p ->
    ((related w.db.orders p.orderId).any fun order => order.status = .cancelled) = true ->
    (w.MoneyReturned r.paymentId -> w.ReachesRefunded r.paymentId) ∧
      (w.MoneyKept r.paymentId -> w.ReachesSubmission r.paymentId)

namespace RefundWorld

/-- The refund is accepted, but its submission times out; the provider returns the money. -/
def unansweredRefund : List (Env × RefundOperation) :=
  [(env0, .request 0 none none),
    (env0, .process 0 (.unclear (some "refund-1") timeoutError rfl) false),
    (env0, .decide "refund-1" true)]

/-- Nobody learns the reference, and no offered operation goes on without it. -/
theorem unanswered_refund_stuck :
    NothingRefunded cancelledOrderDb ∧
      ¬ NoneStuck (run step { db := cancelledOrderDb } unansweredRefund) := by
  refine ⟨cancelledOrderDb_nothingRefunded, ?_⟩
  have hinv := Inv.of_run cancelledOrderDb_nothingRefunded unansweredRefund
  generalize hw : run step { db := cancelledOrderDb } unansweredRefund = w at hinv ⊢
  have hr : w.db.refunds.findUnique 0 = some
      { paymentId := 0
        amount := 500
        status := .processing
        provider := some "CHAPA"
        failureReason := some "Provider response uncertain: Chapa request timed out" } := by
    rw [← hw]
    decide +kernel
  have hp : w.db.payments.findUnique 0 = some (paidGoods.withStatus .refundPending) := by
    rw [← hw]
    decide +kernel
  have horder : ((related w.db.orders (some 0)).any fun order => order.status = .cancelled) =
      true := by
    rw [← hw]
    decide +kernel
  have hbook : w.book = { accepted := [(0, "refund-1")], decided := [("refund-1", true)] } := by
    rw [← hw]
    decide +kernel
  intro hclaim
  have hreaches := (hclaim 0 _ _ hr (by simp) hp horder).1
    ⟨"refund-1", ⟨0, _, hr, rfl, by rw [hbook]; exact List.mem_cons_self⟩, by rw [hbook]; rfl⟩
  have hstuck : Stuck 0 w := ⟨0, _, _, hr, rfl, rfl, hp, nofun, Or.inl rfl⟩
  exact hstuck.not_reachesRefunded hinv hreaches

end RefundWorld

end MarketBridge
