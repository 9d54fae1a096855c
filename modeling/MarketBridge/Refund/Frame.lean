import MarketBridge.Order.CancellationSpec

/-!
# What a refund operation leaves alone

A refund operation writes refunds, payment statuses, obligations and order
events.  Refunds stay with their payments, and a payment that becomes `PAID`
again has a refund.
-/

namespace MarketBridge

open Relational

def IsRefunded (db : Db) (paymentId : Id) : Prop :=
  exists j r, db.refunds.findUnique j = some r ∧ r.paymentId = paymentId

structure RefundFrame (db db' : Db) : Prop where
  others : exists payments refunds obligations events, db' = { db with
    payments := payments
    refunds := refunds
    obligations := obligations
    orderEvents := events }
  kept : forall paymentId, IsRefunded db paymentId -> IsRefunded db' paymentId
  payments : forall i p', db'.payments.findUnique i = some p' ->
    exists p, db.payments.findUnique i = some p ∧ p' = p.withStatus p'.status ∧
      (p'.status = .paid -> p.status = .paid ∨ IsRefunded db' i)

namespace RefundFrame

theorem refl (db : Db) : RefundFrame db db :=
  ⟨⟨_, _, _, _, rfl⟩, fun _ h => h, fun _ p h => ⟨p, h, rfl, Or.inl⟩⟩

variable {db db' : Db}

theorem trans {db'' : Db} (h : RefundFrame db db') (h' : RefundFrame db' db'') :
    RefundFrame db db'' := by
  refine ⟨?_, fun i hi => h'.kept i (h.kept i hi), ?_⟩
  · obtain ⟨payments, refunds, obligations, events, rfl⟩ := h.others
    obtain ⟨payments', refunds', obligations', events', rfl⟩ := h'.others
    exact ⟨_, _, _, _, rfl⟩
  · intro i p'' hp''
    obtain ⟨p', hp', hsame', hpaid'⟩ := h'.payments i p'' hp''
    obtain ⟨p, hp, hsame, hpaid⟩ := h.payments i p' hp'
    refine ⟨p, hp, ?_, ?_⟩
    · rw [hsame', hsame]
      rfl
    · intro hs
      cases hpaid' hs with
      | inl hs' =>
          exact (hpaid hs').imp_right (h'.kept i)
      | inr hrefunded =>
          exact Or.inr hrefunded

theorem recordOrderEvent (env : Env) (orderId : Option Id) (type : OrderEventType) (db : Db) :
    RefundFrame db (MarketBridge.recordOrderEvent env orderId type db) := by
  obtain ⟨events, h⟩ := recordOrderEvent_frame env orderId type db
  rw [h]
  exact ⟨⟨_, _, _, _, rfl⟩, fun _ h => h, fun _ p h => ⟨p, h, rfl, Or.inl⟩⟩

theorem updateStatus {i : Id} {s : PaymentStatus} (hs : s = .paid -> IsRefunded db i) :
    RefundFrame db { db with payments := db.payments.update i (·.withStatus s) } := by
  refine ⟨⟨_, _, _, _, rfl⟩, fun _ h => h, ?_⟩
  intro k p' hp'
  rw [Table.findUnique_update] at hp'
  by_cases hk : k = i
  · rw [if_pos hk] at hp'
    obtain ⟨p, hp, rfl⟩ := Option.map_eq_some_iff.mp hp'
    exact ⟨p, hp, rfl, fun hpaid => Or.inr (hk ▸ hs hpaid)⟩
  · rw [if_neg hk] at hp'
    exact ⟨p', hp', rfl, Or.inl⟩

theorem updateRefund {j : Id} {f : PaymentRefund -> PaymentRefund}
    (hf : forall r, (f r).paymentId = r.paymentId) :
    RefundFrame db { db with refunds := db.refunds.update j f } := by
  refine ⟨⟨_, _, _, _, rfl⟩, ?_, fun _ p h => ⟨p, h, rfl, Or.inl⟩⟩
  rintro i ⟨k, r, hr, howner⟩
  by_cases hk : k = j
  · subst hk
    exact ⟨k, f r, by simp [hr], (hf r).trans howner⟩
  · exact ⟨k, r, (Table.findUnique_update_ne hk).trans hr, howner⟩

theorem updatePayment {i : Id} {s : PaymentStatus} (hs : s = .paid -> IsRefunded db i)
    (h : MarketBridge.updatePayment i (·.withStatus s) db = .ok db') :
    RefundFrame db db' := by
  obtain ⟨p, -, -, rfl⟩ := updatePayment_eq_ok_iff.1 h
  exact updateStatus hs

theorem obligations (db : Db) (t : Table PaymentObligation) :
    RefundFrame db { db with obligations := t } :=
  ⟨⟨_, _, _, _, rfl⟩, fun _ h => h, fun _ p h => ⟨p, h, rfl, Or.inl⟩⟩

theorem movePayment {id : Id} {source target : PaymentStatus} {moved : Bool}
    (htarget : target = .paid -> IsRefunded db id)
    (h : MarketBridge.movePayment id source target db = .ok (db', moved)) :
    RefundFrame db db' := by
  rcases movePayment_cases h with ⟨-, rfl, -⟩ | ⟨-, p, -, -, -, rfl⟩
  · exact .refl _
  · exact updateStatus htarget

theorem moveRefund {id : Id} {guard : PaymentRefundStatus -> Bool}
    {f : PaymentRefund -> PaymentRefund} {moved : Bool}
    (hf : forall r, (f r).paymentId = r.paymentId)
    (h : MarketBridge.moveRefund id guard f db = .ok (db', moved)) :
    RefundFrame db db' := by
  rcases moveRefund_cases h with ⟨-, rfl⟩ | ⟨-, r, -, -, -, rfl⟩
  · exact .refl _
  · exact updateRefund hf

/-! ## Operations -/

theorem requestRefund {env : Env} {paymentId id : Id} {amount : Option JsNumber}
    {reason : Option String} {requestedById : Option Id}
    (h : MarketBridge.requestRefund env paymentId amount reason requestedById db = .ok (db', id)) :
    RefundFrame db db' := by
  obtain ⟨hadded, -, payments, refunds, events, hshape⟩ := requestRefund_refundsAdded h
  refine ⟨⟨_, _, _, _, hshape⟩, ?_, ?_⟩
  · rintro i ⟨j, r, hr, howner⟩
    exact ⟨j, r, hadded.refunds j r hr, howner⟩
  · intro i p' hp'
    rcases hadded.payments i with heq | ⟨p, s, hp, hs, hp''⟩
    · exact ⟨p', heq ▸ hp', rfl, Or.inl⟩
    · obtain rfl : p.withStatus s = p' := Option.some.inj (hp''.symm.trans hp')
      exact ⟨p, hp, rfl, fun hpaid => absurd hpaid hs⟩

theorem failRefund (env : Env) (refundId : Id) (failureReason : Option String)
    (allowProcessing : Bool) (db : Db) :
    RefundFrame db (MarketBridge.failRefund env refundId failureReason allowProcessing db).1 := by
  unfold MarketBridge.failRefund
  split
  · exact .refl _
  · rename_i refund hrefund
    split
    · exact .refl _
    · have hfailed : RefundFrame db
          { db with refunds := db.refunds.update refundId (·.fail failureReason) } :=
        updateRefund fun _ => rfl
      dsimp only
      split
      · exact hfailed
      · rename_i db' moved hmove
        have hpaid : IsRefunded
            { db with refunds := db.refunds.update refundId (·.fail failureReason) }
            refund.paymentId :=
          hfailed.kept _ ⟨refundId, refund, hrefund, rfl⟩
        exact (hfailed.trans (movePayment (fun _ => hpaid) hmove)).trans
          (recordOrderEvent env _ _ db')

theorem markParentOfInstallment {payment : Payment}
    (h : MarketBridge.markParentOfInstallment payment db = .ok db') :
    RefundFrame db db' := by
  unfold MarketBridge.markParentOfInstallment markParentRefundedIfComplete at h
  split at h
  · obtain rfl := Except.ok.inj h
    exact .refl _
  · split at h
    · obtain rfl := Except.ok.inj h
      exact .refl _
    · dsimp only at h
      split at h
      · rw [bind_eq_ok] at h
        obtain ⟨written, hwrite, h⟩ := h
        have hwritten := updatePayment (s := .refunded) (by simp) hwrite
        split at h
        · obtain rfl := Except.ok.inj h
          exact hwritten
        · obtain rfl := Except.ok.inj h
          exact hwritten.trans (obligations written _)
      · obtain rfl := Except.ok.inj h
        exact .refl _

theorem completeRefund {env : Env} {refundId : Id}
    (h : MarketBridge.completeRefund env refundId db = .ok db') :
    RefundFrame db db' := by
  unfold MarketBridge.completeRefund at h
  split at h
  · cases h
  · split at h
    · obtain rfl := Except.ok.inj h
      exact .refl _
    · split at h
      · cases h
      · split at h
        · cases h
        · simp only [bind_eq_ok] at h
          obtain ⟨_, -, _, -, ⟨claimedDb, claimed⟩, hmove, h⟩ := h
          have hclaim := moveRefund (f := (·.complete env.now)) (fun _ => rfl) hmove
          dsimp only at h
          split at h
          · simp only [bind_eq_ok] at h
            obtain ⟨written, hwrite, marked, hmark, h⟩ := h
            obtain rfl := Except.ok.inj h
            have hwritten := updatePayment (s := .refunded) (by simp) hwrite
            exact ((hclaim.trans hwritten).trans (markParentOfInstallment hmark)).trans
              (recordOrderEvent env _ _ marked)
          · obtain rfl := Except.ok.inj h
            exact hclaim

theorem finalizeRefund {env : Env} {refundId : Id} {providerStatus : Option String}
    (h : MarketBridge.finalizeRefund env refundId providerStatus db = .ok db') :
    RefundFrame db db' := by
  unfold MarketBridge.finalizeRefund at h
  split at h
  · cases h
  · split at h
    · obtain rfl := Except.ok.inj h
      exact .refl _
    · split at h
      · cases h
      · exact completeRefund h

theorem verifyAndFinalizeRefund (env : Env) (refundId : Id) (answer : Except ApiError String)
    (db : Db) :
    RefundFrame db (MarketBridge.verifyAndFinalizeRefund env refundId answer db).1 := by
  unfold MarketBridge.verifyAndFinalizeRefund
  split
  · exact .refl _
  · split
    · exact .refl _
    · split
      · exact .refl _
      · split
        · exact .refl _
        · split
          · split
            · exact .refl _
            · rename_i hfinal
              exact finalizeRefund hfinal
          · exact failRefund env refundId _ true db
          · split
            · exact .refl _
            · rename_i hmove
              exact moveRefund (f := (·.stillProcessing)) (fun _ => rfl) hmove

theorem refundSubmissionFailed (env : Env) (refundId : Id) (e : ApiError) (db : Db) :
    RefundFrame db (MarketBridge.refundSubmissionFailed env refundId e db).1 := by
  have hfail := failRefund env refundId (some e.message) true db
  unfold MarketBridge.refundSubmissionFailed
  split
  · split
    · rename_i hfailed
      rw [hfailed] at hfail
      exact hfail
    · rename_i hfailed
      rw [hfailed] at hfail
      exact hfail
  · split
    · exact .refl _
    · rename_i hmove
      exact moveRefund (f := (·.uncertain e)) (fun _ => rfl) hmove

theorem processRefund (env : Env) (refundId : Id) (answers : ProviderAnswers) (db : Db) :
    RefundFrame db (MarketBridge.processRefund env refundId answers db).1 := by
  unfold MarketBridge.processRefund
  split
  · exact .refl _
  · exact .refl _
  · rename_i claimed provider hclaim
    obtain ⟨r, p, -, -, -, -, -, rfl⟩ := claimForProcessing_eq_ok hclaim
    have hsubmit : RefundFrame db
        { db with refunds := db.refunds.update refundId (·.submit provider) } :=
      updateRefund fun _ => rfl
    split
    · exact hsubmit.trans (refundSubmissionFailed env refundId _ _)
    · rename_i refId _
      split
      · exact hsubmit.trans (refundSubmissionFailed env refundId _ _)
      · rename_i hmove
        exact hsubmit.trans
          (moveRefund (f := (·.accept provider refId)) (fun _ => rfl) hmove)
      · rename_i hmove
        exact (hsubmit.trans
          (moveRefund (f := (·.accept provider refId)) (fun _ => rfl) hmove)).trans
          (verifyAndFinalizeRefund env refundId _ _)

theorem retryRefund (env : Env) (refundId : Id) (actorId : Option Id) (note : Option String)
    (answers : ProviderAnswers) (db : Db) :
    RefundFrame db (MarketBridge.retryRefund env refundId actorId note answers db).1 := by
  unfold MarketBridge.retryRefund
  split
  · exact .refl _
  · split
    · exact .refl _
    · split
      · exact .refl _
      · rename_i hrequest
        exact (requestRefund hrequest).trans (processRefund env _ answers _)

end RefundFrame

end MarketBridge
