import MarketBridge.Refund.ExitOperations

/-!
# What an operation on one refund leaves alone

An operation on refund `j` writes that refund, the payment it belongs to, and at
most the parent of an installment.  What the single operations keep is kept by
every sequence of offered operations.
-/

namespace MarketBridge

open Relational

/-! ## The frame of one refund -/

/-- How an operation on refund `j` may write the payment at `i`. -/
def TouchesPayment (refunds : Table PaymentRefund) (j i : Id) (p p' : Payment) : Prop :=
  p' = p.withStatus p'.status ∧
    (p.isInstallmentParent = false ->
      (forall r, refunds.findUnique j = some r -> r.paymentId ≠ i) -> p' = p)

/-- Refund `j` may change but for its owner, and of the payments only its own and parents. -/
structure TouchesRefund (j : Id) (db db' : Db) : Prop where
  refunds : db.refunds.Rel
    (fun k r r' => r'.paymentId = r.paymentId ∧ (k ≠ j -> r' = r)) db'.refunds
  payments : db.payments.Rel (TouchesPayment db.refunds j) db'.payments

namespace TouchesRefund

variable {j : Id} {db db' db'' : Db} {env : Env}

theorem refl (j : Id) (db : Db) : TouchesRefund j db db :=
  ⟨Table.Rel.refl (fun _ _ => ⟨rfl, fun _ => rfl⟩) _,
    Table.Rel.refl (fun _ _ => ⟨rfl, fun _ _ => rfl⟩) _⟩

/-- The owner of refund `j` is the same before and after. -/
theorem owner_ne (h : TouchesRefund j db db') {i : Id}
    (hother : forall r, db.refunds.findUnique j = some r -> r.paymentId ≠ i) (r' : PaymentRefund)
    (hr' : db'.refunds.findUnique j = some r') :
    r'.paymentId ≠ i := by
  obtain ⟨r, hr, howner, -⟩ := h.refunds.of_right hr'
  rw [howner]
  exact hother r hr

theorem trans (h : TouchesRefund j db db') (h' : TouchesRefund j db' db'') :
    TouchesRefund j db db'' := by
  refine ⟨?_, ?_⟩
  · apply Table.Rel.trans _ h.refunds h'.refunds
    intro k r r' r'' hr hr'
    exact ⟨hr'.1.trans hr.1, fun hk => (hr'.2 hk).trans (hr.2 hk)⟩
  · have hpayments : db'.payments.Rel (TouchesPayment db.refunds j) db''.payments :=
      h'.payments.mono fun i p p' hp => ⟨hp.1, fun hparent hother =>
        hp.2 hparent (h.owner_ne hother)⟩
    apply Table.Rel.trans _ h.payments hpayments
    intro i p p' p'' hp hp'
    refine ⟨?_, ?_⟩
    · rw [hp'.1, hp.1]
      rfl
    · intro hparent hother
      obtain rfl := hp.2 hparent hother
      exact hp'.2 hparent hother

theorem of_same (h : SameRefunds db' db) : TouchesRefund j db db' := by
  have hrefl := refl j db
  refine ⟨?_, ?_⟩
  · rw [h.2]
    exact hrefl.refunds
  · rw [h.1]
    exact hrefl.payments

variable {f : PaymentRefund -> PaymentRefund}

theorem updateRefund (hf : forall r, (f r).paymentId = r.paymentId) :
    TouchesRefund j db { db with refunds := db.refunds.update j f } :=
  ⟨Table.rel_update (fun _ _ => ⟨rfl, fun _ => rfl⟩)
      fun r _ => ⟨hf r, fun hj => absurd rfl hj⟩,
    (refl j db).payments⟩

theorem updateStatus {i : Id} {s : PaymentStatus}
    (howned : forall p, db.payments.findUnique i = some p -> p.isInstallmentParent = true ∨
      exists r, db.refunds.findUnique j = some r ∧ r.paymentId = i) :
    TouchesRefund j db { db with payments := db.payments.update i (·.withStatus s) } := by
  refine ⟨(refl j db).refunds, ?_⟩
  apply Table.rel_update fun _ _ => ⟨rfl, fun _ _ => rfl⟩
  intro p hp
  refine ⟨rfl, ?_⟩
  intro hparent hother
  rcases howned p hp with htrue | ⟨r, hr, hi⟩
  · rw [hparent] at htrue
    cases htrue
  · exact absurd hi (hother r hr)

theorem rewritten {r : PaymentRefund} {s : PaymentStatus} (hr : db.refunds.findUnique j = some r)
    (hf : forall r, (f r).paymentId = r.paymentId) :
    TouchesRefund j db (MarketBridge.rewritten db j f r.paymentId s) :=
  (updateStatus fun _ _ => Or.inr ⟨r, hr, rfl⟩).trans (updateRefund hf)

theorem moveRefund {guard : PaymentRefundStatus -> Bool} {moved : Bool}
    (hf : forall r, (f r).paymentId = r.paymentId)
    (h : MarketBridge.moveRefund j guard f db = .ok (db', moved)) :
    TouchesRefund j db db' := by
  rcases moveRefund_cases h with ⟨-, rfl⟩ | ⟨-, r, -, -, -, rfl⟩
  · exact refl j _
  · exact updateRefund hf

theorem failRefund (env : Env) (j : Id) (reason : Option String) (allowProcessing : Bool)
    (db : Db) :
    TouchesRefund j db (MarketBridge.failRefund env j reason allowProcessing db).1 := by
  unfold MarketBridge.failRefund
  cases hr : db.refunds.findUnique j with
  | none =>
      exact refl j db
  | some r =>
      dsimp only
      split
      · exact refl j db
      · have hfailed : TouchesRefund j db
            { db with refunds := db.refunds.update j (·.fail reason) } :=
          updateRefund fun _ => rfl
        split
        · exact hfailed
        · next written moved hmove =>
            have hevent : SameRefunds (recordOrderEvent env
                (paymentOrderId written r.paymentId) .paymentRefundFailed written) written :=
              ⟨recordOrderEvent_payments .., recordOrderEvent_refunds ..⟩
            refine (hfailed.trans ?_).trans (of_same hevent)
            rcases movePayment_cases hmove with ⟨-, rfl, -⟩ | ⟨-, p, -, -, -, rfl⟩
            · exact refl j _
            · exact updateStatus fun _ _ => Or.inr ⟨r.fail reason, by simp [hr], rfl⟩

theorem finalizeRefund {providerStatus : Option String}
    (h : MarketBridge.finalizeRefund env j providerStatus db = .ok db') :
    TouchesRefund j db db' := by
  unfold MarketBridge.finalizeRefund at h
  split at h
  · cases h
  · next r hr =>
      split at h
      · obtain rfl := Except.ok.inj h
        exact refl j _
      · next hnew =>
          split at h
          · cases h
          · rcases completeRefund_written hr hnew h with
              hsame | ⟨p, marked, -, -, -, hmark, hsame⟩
            · exact of_same hsame
            · refine TouchesRefund.trans ?_ (of_same hsame)
              have hwritten : TouchesRefund j db
                  (MarketBridge.rewritten db j (·.complete env.now) r.paymentId .refunded) :=
                rewritten hr fun _ => rfl
              rcases markParentOfInstallment_written hmark with
                hsame' | ⟨i, q, hq, hparent, hsame'⟩
              · exact hwritten.trans (of_same hsame')
              · refine (hwritten.trans (updateStatus (i := i) (s := .refunded) ?_)).trans
                  (of_same hsame')
                intro q' hq'
                obtain rfl := Option.some.inj (hq.symm.trans hq')
                exact Or.inl hparent

theorem verifyAndFinalizeRefund (env : Env) (j : Id) (answer : Except ApiError String)
    (db : Db) :
    TouchesRefund j db (MarketBridge.verifyAndFinalizeRefund env j answer db).1 := by
  unfold MarketBridge.verifyAndFinalizeRefund
  split
  · exact refl j db
  · split
    · exact refl j db
    · split
      · exact refl j db
      · split
        · exact refl j db
        · split
          · split
            · exact refl j db
            · next hfinal =>
                exact finalizeRefund hfinal
          · exact failRefund env j _ true db
          · split
            · exact refl j db
            · next hmove =>
                exact moveRefund (f := (·.stillProcessing)) (fun _ => rfl) hmove

theorem refundSubmissionFailed (env : Env) (j : Id) (e : ApiError) (db : Db) :
    TouchesRefund j db (MarketBridge.refundSubmissionFailed env j e db).1 := by
  have hfail := failRefund env j (some e.message) true db
  unfold MarketBridge.refundSubmissionFailed
  split
  · split
    · next heq =>
        rw [heq] at hfail
        exact hfail
    · next heq =>
        rw [heq] at hfail
        exact hfail
  · split
    · exact refl j db
    · next hmove =>
        exact moveRefund (f := (·.uncertain e)) (fun _ => rfl) hmove

theorem processRefund (env : Env) (j : Id) (answers : ProviderAnswers) (db : Db) :
    TouchesRefund j db (MarketBridge.processRefund env j answers db).1 := by
  unfold MarketBridge.processRefund
  split
  · exact refl j db
  · exact refl j db
  · next claimed provider hclaim =>
      obtain ⟨r, p, -, -, -, -, -, rfl⟩ := claimForProcessing_eq_ok hclaim
      have hsubmit : TouchesRefund j db
          { db with refunds := db.refunds.update j (·.submit provider) } :=
        updateRefund fun _ => rfl
      split
      · exact hsubmit.trans (refundSubmissionFailed env j _ _)
      · next refId _ =>
          split
          · exact hsubmit.trans (refundSubmissionFailed env j _ _)
          · next hmove =>
              exact hsubmit.trans (moveRefund (f := (·.accept provider refId)) (fun _ => rfl) hmove)
          · next hmove =>
              exact (hsubmit.trans
                (moveRefund (f := (·.accept provider refId)) (fun _ => rfl) hmove)).trans
                (verifyAndFinalizeRefund env j _ _)

end TouchesRefund

/-! ## Offered operations -/

namespace RefundWorld

variable {w : RefundWorld} {env : Env} {j : Id}

theorem process_touches (w : RefundWorld) (env : Env) (j : Id) (answer : SubmissionAnswer)
    (reached : Bool) :
    TouchesRefund j w.db (w.process env j answer reached).db := by
  unfold process
  dsimp only
  split <;> exact TouchesRefund.processRefund env j _ _

/-- What a submission leaves in the books, and from which refund it started. -/
theorem process_submitted (w : RefundWorld) (env : Env) (j : Id) (answer : SubmissionAnswer)
    (reached : Bool) :
    w.process env j answer reached = w ∨
      exists r p, w.db.refunds.findUnique j = some r ∧ r.status = .requested ∧
        w.db.payments.findUnique r.paymentId = some p ∧ isSubmittable w.db p = true ∧
        (w.process env j answer reached).submitted = j :: w.submitted ∧
        (w.process env j answer reached).book = w.book.accept j answer := by
  by_cases hclaims : exists claimed, claimForProcessing j w.db = .ok (some claimed)
  · obtain ⟨⟨claimed, provider⟩, hclaim⟩ := hclaims
    obtain ⟨r, p, hr, hs, hp, hsubmittable, -, -⟩ := claimForProcessing_eq_ok hclaim
    refine Or.inr ⟨r, p, hr, hs, hp, hsubmittable, ?_, ?_⟩
    · simp only [process, hclaim]
    · simp only [process, hclaim]
  · exact Or.inl (process_unclaimed fun claimed hclaim => hclaims ⟨claimed, hclaim⟩)

theorem run_offered {P : RefundWorld -> Prop}
    (hprocess : forall w env j answer reached, P w -> P (w.process env j answer reached))
    (hverify : forall w env j reached, P w -> P { w with
      db := (verifyAndFinalizeRefund env j (w.book.answer reached (referenceOf w.db j)) w.db).1 })
    (hfail : forall w env j reason, P w ->
      P { w with db := (failRefund env j reason false w.db).1 })
    (hretry : forall w env j actorId note db id, P w ->
      retryRequest env j actorId note w.db = .ok (db, id) -> P { w with db := db })
    {w : RefundWorld} (hw : P w) {as : List (Env × RefundOperation)} (hoffered : Offered as) :
    P (run step w as) := by
  induction as generalizing w with
  | nil =>
      exact hw
  | cons a as ih =>
      refine ih ?_ fun b hb => hoffered b (List.mem_cons_of_mem _ hb)
      have ha := hoffered a List.mem_cons_self
      obtain ⟨env, operation⟩ := a
      cases operation with
      | process j answer reached =>
          exact hprocess w env j answer reached hw
      | verify j reached =>
          exact hverify w env j reached hw
      | fail j reason =>
          exact hfail w env j reason hw
      | retry j actorId note answer reached =>
          simp only [step]
          split
          · next db id hrequest =>
              exact hprocess _ env id answer reached (hretry w env j actorId note db id hw hrequest)
          · exact hw
      | _ =>
          cases ha

end RefundWorld

end MarketBridge
