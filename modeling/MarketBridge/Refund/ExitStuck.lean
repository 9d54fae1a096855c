import MarketBridge.Refund.ExitFrame

/-!
# Refunds that no offered operation moves

A refund in processing without a reference, or one that was paid out while its
payment is `PAID`, stays as it is.  Nor can a payment be submitted that lacks an
adapter or the reference of its own transaction.
-/

namespace MarketBridge

open Relational

namespace RefundWorld

variable {w w' w0 : RefundWorld} {env : Env} {i j k : Id}

/-- Whatever was sent to the provider for payment `i` had been sent in `w0`. -/
def SendsNothing (w0 : RefundWorld) (i : Id) (w : RefundWorld) : Prop :=
  forall j r, j ∈ w.submitted -> w.db.refunds.findUnique j = some r -> r.paymentId = i ->
    j ∈ w0.submitted

/-- Payment `i` has a refund in processing that cannot go on. -/
def Stuck (i : Id) (w : RefundWorld) : Prop :=
  exists j r p, w.db.refunds.findUnique j = some r ∧ r.paymentId = i ∧ r.status = .processing ∧
    w.db.payments.findUnique i = some p ∧ p.status ≠ .refunded ∧
    (r.providerRefundId = none ∨ p.status = .paid ∧
      exists refId, r.providerRefundId = some refId ∧ w.book.verdict refId = some true)

/-! ## Nothing is sent -/

theorem SendsNothing.refl (w : RefundWorld) (i : Id) : SendsNothing w i w :=
  fun _ _ hj _ _ => hj

variable {db' : Db}

theorem SendsNothing.touches (h : SendsNothing w0 i w) (htouches : TouchesRefund k w.db db') :
    SendsNothing w0 i { w with db := db' } := by
  intro j r' hj hr' howner
  obtain ⟨r, hr, hsame, -⟩ := htouches.refunds.of_right hr'
  exact h j r hj hr (hsame.symm.trans howner)

theorem SendsNothing.process (h : SendsNothing w0 i w) {answer : SubmissionAnswer}
    {reached : Bool}
    (hother : forall r p, w.db.refunds.findUnique k = some r -> r.status = .requested ->
      w.db.payments.findUnique r.paymentId = some p -> isSubmittable w.db p = true ->
      r.paymentId ≠ i) :
    SendsNothing w0 i (w.process env k answer reached) := by
  have htouches := w.process_touches env k answer reached
  rcases w.process_submitted env k answer reached with
    hsame | ⟨r, p, hr, hs, hp, hsubmittable, hsubmitted, -⟩
  · rw [hsame]
    exact h
  · intro j r' hj hr' howner
    obtain ⟨q, hq, hsame, -⟩ := htouches.refunds.of_right hr'
    rw [hsubmitted] at hj
    rcases List.mem_cons.1 hj with rfl | hj
    · obtain rfl := Option.some.inj (hr.symm.trans hq)
      exact absurd (hsame.symm.trans howner) (hother r p hr hs hp hsubmittable)
    · exact h j q hj hq (hsame.symm.trans howner)

theorem SendsNothing.retryRequest (h : SendsNothing w0 i w) (hinv : w.Inv) {actorId : Option Id}
    {note : Option String} {id : Id}
    (hretry : MarketBridge.retryRequest env j actorId note w.db = .ok (db', id)) :
    SendsNothing w0 i { w with db := db' } := by
  obtain ⟨r, reason, -, -, hrequest⟩ := retryRequest_eq_ok hretry
  obtain ⟨p, refundAmount, -, -, -, hcases⟩ := requestRefund_eq_ok hrequest
  rcases hcases with ⟨rfl, -⟩ | ⟨-, -, -, events, rfl⟩
  · exact h
  · intro k r hk hr howner
    have hlt := hinv.submissions.known k hk
    simp only [Table.findUnique_create] at hr
    rw [if_neg (Nat.ne_of_lt hlt)] at hr
    exact h k r hk hr howner

/-! ## Stuck refunds stay stuck -/

/-- The refund itself is untouched, and its payment at most given back. -/
theorem Stuck.of_kept (hstuck : Stuck i w)
    (hrefunds : forall j r, w.db.refunds.findUnique j = some r -> r.paymentId = i ->
      r.status = .processing -> w'.db.refunds.findUnique j = some r)
    (hpayments : forall p, w.db.payments.findUnique i = some p ->
      exists s, w'.db.payments.findUnique i = some (p.withStatus s) ∧ (s = p.status ∨ s = .paid))
    (hbook : forall refId, w.book.verdict refId = some true ->
      w'.book.verdict refId = some true) :
    Stuck i w' := by
  obtain ⟨j, r, p, hr, howner, hs, hp, hnot, hcase⟩ := hstuck
  obtain ⟨s, hp', hs'⟩ := hpayments p hp
  refine ⟨j, r, p.withStatus s, hrefunds j r hr howner hs, howner, hs, hp', ?_, ?_⟩
  · rcases hs' with rfl | rfl
    · exact hnot
    · exact nofun
  · rcases hcase with hnone | ⟨hpaid, refId, hrefId, hv⟩
    · exact Or.inl hnone
    · refine Or.inr ⟨?_, refId, hrefId, hbook refId hv⟩
      rcases hs' with rfl | rfl
      · exact hpaid
      · rfl

theorem Stuck.congr (hstuck : Stuck i w) (hsame : SameRefunds db' w.db) :
    Stuck i { w with db := db' } := by
  refine hstuck.of_kept ?_ ?_ fun _ hv => hv
  · intro j r hr _ _
    rw [hsame.2]
    exact hr
  · intro p hp
    refine ⟨p.status, ?_, Or.inl rfl⟩
    rw [hsame.1]
    exact hp

theorem Stuck.touches (hstuck : Stuck i w) (hinv : w.Inv) (htouches : TouchesRefund k w.db w'.db)
    (hother : forall r, w.db.refunds.findUnique k = some r -> r.paymentId ≠ i)
    (hbook : forall refId, w.book.verdict refId = some true ->
      w'.book.verdict refId = some true) :
    Stuck i w' := by
  have hparent : forall p, w.db.payments.findUnique i = some p -> p.isInstallmentParent = false := by
    intro p hp
    obtain ⟨j, r, -, hr, rfl, -⟩ := hstuck
    obtain ⟨q, hq, hnot, -⟩ := hinv.payments.owned j r hr
    obtain rfl := Option.some.inj (hp.symm.trans hq)
    exact hnot
  refine hstuck.of_kept ?_ ?_ hbook
  · intro j r hr howner _
    obtain ⟨r', hr', -, hkept⟩ := htouches.refunds.of_left hr
    rw [hkept] at hr'
    · exact hr'
    · rintro rfl
      exact hother r hr howner
  · intro p hp
    obtain ⟨p', hp', -, hkept⟩ := htouches.payments.of_left hp
    rw [hkept (hparent p hp) hother] at hp'
    exact ⟨p.status, hp', Or.inl rfl⟩

theorem Stuck.failed_or_processing (hstuck : Stuck i w) (hinv : w.Inv) {r : PaymentRefund}
    (hr : w.db.refunds.findUnique k = some r) (howner : r.paymentId = i) :
    r.status = .failed ∨ r.status = .processing := by
  obtain ⟨j, q, p, hq, hqowner, hqs, -⟩ := hstuck
  by_cases hs : r.status = .failed
  · exact Or.inl hs
  · right
    have heq := hinv.payments.eq_of_not_failed hr hq (howner.trans hqowner.symm) hs (by simp [hqs])
    subst heq
    obtain rfl := Option.some.inj (hr.symm.trans hq)
    exact hqs

theorem Stuck.failRefund (hstuck : Stuck i w) (hinv : w.Inv) (reason : Option String)
    {allowProcessing : Bool}
    (hforced : forall r, w.db.refunds.findUnique k = some r -> r.paymentId = i ->
      r.status = .processing -> allowProcessing = false) :
    Stuck i { w with db := (MarketBridge.failRefund env k reason allowProcessing w.db).1 } := by
  rcases failRefund_written env (j := k) hinv.payments reason allowProcessing with
    ⟨hsame, -⟩ | ⟨r, p, hr, hp, hcan, hsame⟩
  · exact hstuck.congr hsame
  · by_cases howner : r.paymentId = i
    · have hwritten : Stuck i { w with
          db := rewritten w.db k (·.fail reason) r.paymentId p.restoredStatus } := by
        refine hstuck.of_kept ?_ ?_ fun _ hv => hv
        · intro j q hq hqowner hqs
          have hne : j ≠ k := by
            rintro rfl
            obtain rfl := Option.some.inj (hr.symm.trans hq)
            rw [hforced r hr howner hqs] at hcan
            simp [assertCanFail, hqs] at hcan
          exact (Table.findUnique_update_ne hne).trans hq
        · intro q hq
          rw [howner] at hp
          obtain rfl := Option.some.inj (hp.symm.trans hq)
          refine ⟨p.restoredStatus, by simp [rewritten, howner, hp], ?_⟩
          unfold Payment.restoredStatus
          split
          · exact Or.inr rfl
          · exact Or.inl rfl
      exact hwritten.congr hsame
    · refine hstuck.touches hinv (TouchesRefund.failRefund env k reason allowProcessing w.db)
        ?_ fun _ hv => hv
      intro r' hr'
      obtain rfl := Option.some.inj (hr.symm.trans hr')
      exact howner

theorem Stuck.process (hstuck : Stuck i w) (hinv : w.Inv) {answer : SubmissionAnswer}
    {reached : Bool} :
    Stuck i (w.process env k answer reached) ∧
      forall r p, w.db.refunds.findUnique k = some r -> r.status = .requested ->
        w.db.payments.findUnique r.paymentId = some p -> isSubmittable w.db p = true ->
        r.paymentId ≠ i := by
  have hother : forall r p, w.db.refunds.findUnique k = some r -> r.status = .requested ->
      w.db.payments.findUnique r.paymentId = some p -> isSubmittable w.db p = true ->
      r.paymentId ≠ i := by
    intro r p hr hs _ _ howner
    rcases hstuck.failed_or_processing hinv hr howner with hs' | hs' <;> rw [hs] at hs' <;> cases hs'
  refine ⟨?_, hother⟩
  have htouches := w.process_touches env k answer reached
  rcases w.process_submitted env k answer reached with
    hsame | ⟨r, p, hr, hs, hp, hsubmittable, hsubmitted, hbook⟩
  · rw [hsame]
    exact hstuck
  · refine hstuck.touches hinv htouches ?_ ?_
    · intro r' hr'
      obtain rfl := Option.some.inj (hr.symm.trans hr')
      exact hother r p hr hs hp hsubmittable
    · intro refId hv
      rw [hbook, ProviderBook.verdict_accept]
      exact hv

theorem Stuck.retryRequest (hstuck : Stuck i w) {actorId : Option Id} {note : Option String}
    {id : Id} (hretry : MarketBridge.retryRequest env k actorId note w.db = .ok (db', id)) :
    Stuck i { w with db := db' } := by
  obtain ⟨r, reason, -, -, hrequest⟩ := retryRequest_eq_ok hretry
  obtain ⟨p, refundAmount, -, -, -, hcases⟩ := requestRefund_eq_ok hrequest
  rcases hcases with ⟨rfl, -⟩ | ⟨hnone, -, -, events, rfl⟩
  · exact hstuck
  · have hother : r.paymentId ≠ i := by
      -- The stuck refund would have been found.
      obtain ⟨j, q, -, hq, hqowner, hqs, -⟩ := hstuck
      intro howner
      exact newestRefund_eq_none hnone (φ := (· = .processing)) (by simp) j
        ⟨q, hq, hqowner.trans howner.symm, by simp [hqs]⟩
    refine hstuck.of_kept ?_ ?_ fun _ hv => hv
    · intro j q hq _ _
      have hlt := Table.lt_size_of_findUnique hq
      simp only [Table.findUnique_create]
      rw [if_neg (Nat.ne_of_lt hlt)]
      exact hq
    · intro q hq
      refine ⟨q.status, ?_, Or.inl rfl⟩
      exact (Table.findUnique_update_ne hother.symm).trans hq

theorem Stuck.verify (hstuck : Stuck i w) (hinv : w.Inv) (reached : Bool) :
    Stuck i { w with db := (verifyAndFinalizeRefund env k
      (w.book.answer reached (referenceOf w.db k)) w.db).1 } := by
  have htouches := TouchesRefund.verifyAndFinalizeRefund env k
    (w.book.answer reached (referenceOf w.db k)) w.db
  by_cases hother : forall r, w.db.refunds.findUnique k = some r -> r.paymentId ≠ i
  · exact hstuck.touches hinv htouches hother fun _ hv => hv
  · simp only [not_forall, not_not] at hother
    obtain ⟨r, hr, howner⟩ := hother
    unfold verifyAndFinalizeRefund
    simp only [hr]
    split
    · exact hstuck
    · split
      · exact hstuck
      · next hnot htruthy =>
          rw [Bool.not_eq_true', Bool.not_eq_false] at htruthy
          obtain ⟨refId, hrefId, hmem⟩ := hinv.accepted_of_truthy hr htruthy
          have hreference : referenceOf w.db k = some refId := by
            simp [referenceOf, hr, hrefId]
          rw [hreference]
          cases reached with
          | false =>
              exact hstuck
          | true =>
              simp only [ProviderBook.answer, ofText_report]
              rcases hstuck.failed_or_processing hinv hr howner with hs | hs
              · -- A failed refund was not paid out, so it is failed once more.
                rw [(hinv.submissions.rows k r hr).failed hs refId hmem]
                refine hstuck.failRefund hinv _ ?_
                intro r' hr' _ hs'
                obtain rfl := Option.some.inj (hr.symm.trans hr')
                rw [hs] at hs'
                cases hs'
              · obtain ⟨j, q, p, hq, hqowner, hqs, hp, -, hcase⟩ := id hstuck
                have heq := hinv.payments.eq_of_not_failed hq hr (hqowner.trans howner.symm)
                  (by simp [hqs]) (by simp [hs])
                subst heq
                obtain rfl := Option.some.inj (hr.symm.trans hq)
                rcases hcase with hnone | ⟨hpaid, refId', hrefId', hv⟩
                · rw [hrefId] at hnone
                  cases hnone
                · obtain rfl := Option.some.inj (hrefId.symm.trans hrefId')
                  rw [hv]
                  dsimp only
                  split
                  · exact hstuck
                  · next db' hfinal =>
                      -- A payment that is `PAID` cannot become `REFUNDED`.
                      have hsame : SameRefunds db' w.db := by
                        simp only [MarketBridge.finalizeRefund, hr, hs] at hfinal
                        rcases completeRefund_written hr (by simp [hs]) hfinal with
                          hsame | ⟨p', marked, hp', -, htransition, -⟩
                        · exact hsame
                        · rw [howner] at hp'
                          obtain rfl := Option.some.inj (hp.symm.trans hp')
                          rw [hpaid] at htransition
                          exact absurd htransition (by decide)
                      exact hstuck.congr hsame

/-! ## Runs of offered operations -/

theorem Stuck.offered (hstuck : Stuck i w) (hinv : w.Inv) {as : List (Env × RefundOperation)}
    (hoffered : Offered as) :
    Stuck i (run step w as) ∧ SendsNothing w i (run step w as) := by
  have hrun : (run step w as).Inv ∧ Stuck i (run step w as) ∧
      SendsNothing w i (run step w as) := by
    refine run_offered (P := fun w' => w'.Inv ∧ Stuck i w' ∧ SendsNothing w i w')
      ?_ ?_ ?_ ?_ ⟨hinv, hstuck, .refl w i⟩ hoffered
    · rintro w' env j answer reached ⟨hinv', hstuck', hsends⟩
      obtain ⟨hkept, hother⟩ := hstuck'.process hinv'
      exact ⟨hinv'.process answer reached, hkept, hsends.process hother⟩
    · rintro w' env j reached ⟨hinv', hstuck', hsends⟩
      exact ⟨hinv'.verify env reached, hstuck'.verify hinv' reached,
        hsends.touches (TouchesRefund.verifyAndFinalizeRefund env j _ _)⟩
    · rintro w' env j reason ⟨hinv', hstuck', hsends⟩
      exact ⟨hinv'.step (env, .fail j reason), hstuck'.failRefund hinv' reason fun _ _ _ _ => rfl,
        hsends.touches (TouchesRefund.failRefund env j _ _ _)⟩
    · rintro w' env j actorId note db id ⟨hinv', hstuck', hsends⟩ hretry
      exact ⟨hinv'.retryRequest hretry, hstuck'.retryRequest hretry,
        hsends.retryRequest hinv' hretry⟩
  exact hrun.2

theorem Stuck.not_reachesRefunded (hstuck : Stuck i w) (hinv : w.Inv) :
    ¬ w.ReachesRefunded i := by
  rintro ⟨as, hoffered, hrefunded⟩
  obtain ⟨j, r, p, -, -, -, hp, hnot, -⟩ := (hstuck.offered hinv hoffered).1
  rw [hp] at hrefunded
  exact hnot (Option.some.inj hrefunded)

theorem Stuck.not_reachesSubmission (hstuck : Stuck i w) (hinv : w.Inv) :
    ¬ w.ReachesSubmission i := by
  rintro ⟨as, j, r, hoffered, hj, hnew, hr, howner⟩
  exact hnew ((hstuck.offered hinv hoffered).2 j r hj hr howner)

theorem isSubmittable_frame {db : Db} (h : RefundFrame db db') {p : Payment} {s : PaymentStatus} :
    isSubmittable db' (p.withStatus s) = isSubmittable db p := by
  obtain ⟨payments, refunds, obligations, events, rfl⟩ := h.others
  rfl

theorem not_reachesSubmission_of_not_submittable (hinv : w.Inv) {p : Payment}
    (hp : w.db.payments.findUnique i = some p) (hnot : isSubmittable w.db p = false) :
    ¬ w.ReachesSubmission i := by
  rintro ⟨as, j, r, hoffered, hj, hnew, hr, howner⟩
  have hother : forall {w' : RefundWorld}, RefundFrame w.db w'.db -> forall k q p',
      w'.db.refunds.findUnique k = some q -> q.status = .requested ->
      w'.db.payments.findUnique q.paymentId = some p' -> isSubmittable w'.db p' = true ->
      q.paymentId ≠ i := by
    intro w' hframe k q p' _ _ hp' hsubmittable heq
    rw [heq] at hp'
    obtain ⟨o, ho, hsame, -⟩ := hframe.payments i p' hp'
    obtain rfl := Option.some.inj (hp.symm.trans ho)
    rw [hsame, isSubmittable_frame hframe, hnot] at hsubmittable
    cases hsubmittable
  have hrun : (run step w as).Inv ∧ RefundFrame w.db (run step w as).db ∧
      SendsNothing w i (run step w as) := by
    refine run_offered (P := fun w' => w'.Inv ∧ RefundFrame w.db w'.db ∧ SendsNothing w i w')
      ?_ ?_ ?_ ?_ ⟨hinv, .refl w.db, .refl w i⟩ hoffered
    · rintro w' env k answer reached ⟨hinv', hframe, hsends⟩
      refine ⟨hinv'.process answer reached, hframe.trans ?_, hsends.process (hother hframe k)⟩
      unfold RefundWorld.process
      dsimp only
      split <;> exact RefundFrame.processRefund env k _ _
    · rintro w' env k reached ⟨hinv', hframe, hsends⟩
      exact ⟨hinv'.verify env reached, hframe.trans (RefundFrame.verifyAndFinalizeRefund env k _ _),
        hsends.touches (TouchesRefund.verifyAndFinalizeRefund env k _ _)⟩
    · rintro w' env k reason ⟨hinv', hframe, hsends⟩
      exact ⟨hinv'.step (env, .fail k reason), hframe.trans (RefundFrame.failRefund env k _ _ _),
        hsends.touches (TouchesRefund.failRefund env k _ _ _)⟩
    · rintro w' env k actorId note db id ⟨hinv', hframe, hsends⟩ hretry
      obtain ⟨q, reason, -, -, hrequest⟩ := retryRequest_eq_ok hretry
      exact ⟨hinv'.retryRequest hretry, hframe.trans (RefundFrame.requestRefund hrequest),
        hsends.retryRequest hinv' hretry⟩
  exact hnew (hrun.2.2 j r hj hr howner)

end RefundWorld

end MarketBridge
