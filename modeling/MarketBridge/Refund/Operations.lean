import MarketBridge.Payment.SettlementSpec
import MarketBridge.Refund.Coupling

/-!
# The refund operations

Each refund operation, under its condition, keeps the refunds coupled to their
payments, whatever the provider answers.
-/

namespace MarketBridge

open Relational

/-! ## Conditional writes -/

variable {id refundId paymentId : Id} {db db' : Db} {moved : Bool} {env : Env}
  {reason : Option String}

theorem moveRefund_cases {guard : PaymentRefundStatus -> Bool}
    {f : PaymentRefund -> PaymentRefund} (h : moveRefund id guard f db = .ok (db', moved)) :
    (moved = false ∧ db' = db) ∨
      (moved = true ∧ exists r, db.refunds.findUnique id = some r ∧ guard r.status = true ∧
        (forall k q, db.refunds.findUnique k = some q -> k ≠ id ->
          (f r).sameProviderRefund q = false) ∧
        db' = { db with refunds := db.refunds.update id f }) := by
  unfold moveRefund at h
  cases hr : db.refunds.findUnique id with
  | none =>
      simp only [hr, Except.ok.injEq, Prod.mk.injEq] at h
      exact Or.inl ⟨h.2.symm, h.1.symm⟩
  | some r =>
      simp only [hr] at h
      by_cases hg : guard r.status = true
      · rw [if_pos hg] at h
        obtain ⟨hfree, h⟩ := guard_eq_ok.mp h
        rw [Bool.not_eq_true, Table.any_eq_false_iff] at hfree
        simp only [Except.ok.injEq, Prod.mk.injEq] at h
        refine Or.inr ⟨h.2.symm, r, rfl, hg, ?_, h.1.symm⟩
        intro k q hq hk
        simpa [hk] using hfree k q hq
      · rw [if_neg hg] at h
        simp only [Except.ok.injEq, Prod.mk.injEq] at h
        exact Or.inl ⟨h.2.symm, h.1.symm⟩

theorem movePayment_cases {source target : PaymentStatus}
    (h : movePayment id source target db = .ok (db', moved)) :
    (moved = false ∧ db' = db ∧
      forall p, db.payments.findUnique id = some p -> p.status ≠ source) ∨
      (moved = true ∧ exists p, db.payments.findUnique id = some p ∧ p.status = source ∧
        paymentConflict db id (p.withStatus target) = false ∧
        db' = { db with payments := db.payments.update id (·.withStatus target) }) := by
  unfold movePayment at h
  cases hp : db.payments.findUnique id with
  | none =>
      simp only [hp, Except.ok.injEq, Prod.mk.injEq] at h
      exact Or.inl ⟨h.2.symm, h.1.symm, by simp⟩
  | some p =>
      simp only [hp] at h
      by_cases hs : p.status = source
      · rw [if_pos hs, bind_eq_ok] at h
        obtain ⟨written, hw, hrest⟩ := h
        obtain ⟨q, hq, hconflict, rfl⟩ := updatePayment_eq_ok_iff.1 hw
        have hqp : p = q := Option.some.inj (hp.symm.trans hq)
        simp only [Except.ok.injEq, Prod.mk.injEq] at hrest
        exact Or.inr ⟨hrest.2.symm, p, rfl, hs, hqp ▸ hconflict, hrest.1.symm⟩
      · rw [if_neg hs] at h
        simp only [Except.ok.injEq, Prod.mk.injEq] at h
        refine Or.inl ⟨h.2.symm, h.1.symm, ?_⟩
        intro q hq
        rwa [← Option.some.inj hq]

theorem movePayment_error {source target : PaymentStatus} {e : ApiError}
    (h : movePayment id source target db = .error e) :
    exists p, db.payments.findUnique id = some p ∧ p.status = source ∧
      paymentConflict db id (p.withStatus target) = true := by
  unfold movePayment at h
  cases hp : db.payments.findUnique id with
  | none =>
      simp [hp] at h
  | some p =>
      simp only [hp] at h
      by_cases hs : p.status = source
      · rw [if_pos hs] at h
        refine ⟨p, rfl, hs, ?_⟩
        by_contra hconflict
        have hwrite : updatePayment id (·.withStatus target) db =
            .ok { db with payments := db.payments.update id (·.withStatus target) } :=
          updatePayment_eq_ok_iff.2 ⟨p, hp, by simpa using hconflict, rfl⟩
        rw [hwrite, ok_bind] at h
        cases h
      · rw [if_neg hs] at h
        cases h

namespace RefundInv

theorem free {db : Db} (h : RefundInv db) {j : Id} {r r' : PaymentRefund}
    (hr : db.refunds.findUnique j = some r) (hprovider : r'.provider = r.provider)
    (hreference : r'.providerRefundId = r.providerRefundId) (k : Id) (q : PaymentRefund)
    (hq : db.refunds.findUnique k = some q) (hk : k ≠ j) :
    r'.sameProviderRefund q = false := by
  have hsame := h.refunds j k r q hr hq fun hjk => hk hjk.symm
  unfold PaymentRefund.sameProviderRefund at hsame ⊢
  rw [hprovider, hreference]
  exact hsame

end RefundInv

/-! ## Failing -/

theorem not_completed_of_assertCanFail {allowProcessing : Bool} {r : PaymentRefund}
    (h : assertCanFail allowProcessing r = .ok ()) :
    r.status ≠ .completed := by
  intro hs
  simp [assertCanFail, hs] at h

theorem RefundInv.failRefund {env : Env} {refundId : Id} {reason : Option String}
    {allowProcessing : Bool} {db : Db} (h : RefundInv db)
    (hsafe : forall r, db.refunds.findUnique refundId = some r ->
      assertCanFail allowProcessing r = .ok () -> FailureKeepsCoupling db refundId) :
    RefundInv (MarketBridge.failRefund env refundId reason allowProcessing db).1 := by
  unfold MarketBridge.failRefund
  cases hr : db.refunds.findUnique refundId with
  | none =>
      exact h
  | some r =>
      dsimp only
      cases hcan : assertCanFail allowProcessing r with
      | error e =>
          exact h
      | ok _ =>
          have hdone := not_completed_of_assertCanFail hcan
          have hsafe := hsafe r hr hcan
          obtain ⟨p, hp⟩ := h.owned refundId r hr
          have hfree : forall k q, db.refunds.findUnique k = some q -> k ≠ refundId ->
              (r.fail reason).sameProviderRefund q = false :=
            fun k q => h.free hr rfl rfl k q
          -- The refund alone is failed where its payment stays as it is.
          have halone (hclosed : p.isInstallmentParent = false -> r.status.isOpen = false) :
              RefundInv { db with refunds := db.refunds.update refundId (·.fail reason) } := by
            refine h.writeRefund (f := (·.fail reason)) hr (fun _ => rfl) hfree ?_ rfl rfl
            intro q hq hparent
            have hqp : p = q := Option.some.inj (hp.symm.trans hq)
            subst hqp
            refine (h.coupled _ p hp hparent).keep hr rfl ?_ ?_
            · rw [hclosed hparent]
              rfl
            · intro hs
              cases hs
          dsimp only
          split
          · rename_i e herror
            obtain ⟨q, hq, hs, hconflict⟩ := movePayment_error herror
            have hqp : p = q := Option.some.inj (hp.symm.trans hq)
            subst hqp
            apply halone
            intro hparent
            have hiff := hsafe r p hr hp hparent hs
            change paymentConflict db _ _ = true at hconflict
            rw [hconflict] at hiff
            simpa using hiff
          · rename_i written moved hmove
            refine @RefundInv.congr written _ ?_ (by simp) (by simp)
            cases movePayment_cases hmove with
            | inl hstay =>
                obtain ⟨-, rfl, hs⟩ := hstay
                apply halone
                intro hparent
                by_contra hopen
                refine hs p hp ((h.coupled _ p hp hparent).pending refundId ?_)
                exact (hasRefund_self hr).2 (by simpa using hopen)
            | inr hmoved =>
                obtain ⟨-, q, hq, hs, hconflict, rfl⟩ := hmoved
                have hqp : p = q := Option.some.inj (hp.symm.trans hq)
                subst hqp
                change paymentConflict db _ _ = false at hconflict
                refine h.writeBoth (f := (·.fail reason)) (g := (·.withStatus .paid)) hr
                  (fun _ => rfl) hfree hp rfl hconflict ?_ rfl rfl
                intro hparent
                have hopen : r.status.isOpen = true :=
                  (hsafe r p hr hp hparent hs).2 hconflict
                refine (h.coupled _ p hp hparent).close hr rfl hopen rfl ?_ ?_
                · intro he
                  cases he
                · intro he
                  cases he

/-! ## Completing -/

theorem RefundInv.markParentRefundedIfComplete {parentPaymentId : Id} (h : RefundInv db)
    (hmark : MarketBridge.markParentRefundedIfComplete parentPaymentId db = .ok db') :
    RefundInv db' := by
  unfold MarketBridge.markParentRefundedIfComplete at hmark
  cases hp : db.payments.findUnique parentPaymentId with
  | none =>
      simp only [hp, Except.ok.injEq] at hmark
      exact hmark ▸ h
  | some parent =>
      simp only [hp] at hmark
      split at hmark
      · rename_i hcomplete
        simp only [Bool.and_eq_true] at hcomplete
        rw [bind_eq_ok] at hmark
        obtain ⟨written, hw, hrest⟩ := hmark
        obtain ⟨q, hq, hconflict, rfl⟩ := updatePayment_eq_ok_iff.1 hw
        have hqp : parent = q := Option.some.inj (hp.symm.trans hq)
        subst hqp
        have hwritten : RefundInv { db with
            payments := db.payments.update parentPaymentId (·.withStatus .refunded) } := by
          refine h.writePayment (g := (·.withStatus .refunded)) hp rfl hconflict ?_ rfl rfl
          intro hparent
          rw [hparent] at hcomplete
          exact absurd hcomplete.1.1 (by simp)
        split at hrest <;> cases hrest
        · exact hwritten
        · exact hwritten.congr rfl rfl
      · simp only [Except.ok.injEq] at hmark
        exact hmark ▸ h

theorem RefundInv.completeRefund (h : RefundInv db)
    (hcomplete : MarketBridge.completeRefund env refundId db = .ok db') :
    RefundInv db' := by
  unfold MarketBridge.completeRefund at hcomplete
  cases hr : db.refunds.findUnique refundId with
  | none =>
      simp [hr] at hcomplete
  | some r =>
      simp only [hr] at hcomplete
      split at hcomplete
      · simp only [Except.ok.injEq] at hcomplete
        exact hcomplete ▸ h
      · obtain ⟨hopen, hcomplete⟩ := guard_eq_ok.mp hcomplete
        rw [Bool.not_eq_true', Bool.not_eq_false] at hopen
        cases hp : db.payments.findUnique r.paymentId with
        | none =>
            simp [hp] at hcomplete
        | some p =>
            simp only [hp, bind_eq_ok, Prod.exists] at hcomplete
            obtain ⟨_, _, _, _, moved, claimed, hmove, hrest⟩ := hcomplete
            cases moveRefund_cases hmove with
            | inl hstay =>
                obtain ⟨rfl, rfl⟩ := hstay
                simp only [Bool.false_eq_true, if_false, Except.ok.injEq] at hrest
                exact hrest ▸ h
            | inr hmoved =>
                obtain ⟨rfl, q, hq, -, hfree, rfl⟩ := hmoved
                have hqr : r = q := Option.some.inj (hr.symm.trans hq)
                subst hqr
                simp only [if_true, bind_eq_ok] at hrest
                obtain ⟨written, hw, final, hmark, hevent⟩ := hrest
                obtain ⟨q, hq, hconflict, rfl⟩ := updatePayment_eq_ok_iff.1 hw
                have hqp : p = q := Option.some.inj (hp.symm.trans hq)
                subst hqp
                have hwritten : RefundInv { db with
                    refunds := db.refunds.update refundId (·.complete env.now)
                    payments := db.payments.update r.paymentId
                      (·.withStatus .refunded) } := by
                  refine h.writeBoth (f := (·.complete env.now)) (g := (·.withStatus .refunded))
                    hr (fun _ => rfl) hfree hp rfl hconflict ?_ rfl rfl
                  intro hparent
                  refine (h.coupled _ p hp hparent).close hr rfl hopen rfl ?_ ?_
                  · intro he
                    cases he
                  · intro _
                    rfl
                cases hevent
                refine @RefundInv.congr final _ ?_ (by simp) (by simp)
                unfold markParentOfInstallment at hmark
                split at hmark
                · cases hmark
                  exact hwritten
                · exact hwritten.markParentRefundedIfComplete hmark

theorem RefundInv.finalizeRefund {providerStatus : Option String} (h : RefundInv db)
    (hfinal : MarketBridge.finalizeRefund env refundId providerStatus db = .ok db') :
    RefundInv db' := by
  unfold MarketBridge.finalizeRefund at hfinal
  split at hfinal
  · cases hfinal
  · split at hfinal
    · simp only [Except.ok.injEq] at hfinal
      exact hfinal ▸ h
    · split at hfinal
      · cases hfinal
      · exact h.completeRefund hfinal

/-! ## Verifying and submitting -/

/-- A conditional write that neither opens nor closes the refund. -/
theorem RefundInv.moveRefund {id : Id} {guard : PaymentRefundStatus -> Bool}
    {f : PaymentRefund -> PaymentRefund} {db db' : Db} {moved : Bool} (h : RefundInv db)
    (hmove : MarketBridge.moveRefund id guard f db = .ok (db', moved))
    (howner : forall r, (f r).paymentId = r.paymentId)
    (hopen : forall r, guard r.status = true -> (f r).status.isOpen = r.status.isOpen)
    (hcompleted : forall r, guard r.status = true -> (f r).status = .completed ->
      r.status = .completed) :
    RefundInv db' := by
  cases moveRefund_cases hmove with
  | inl hstay =>
      rw [hstay.2]
      exact h
  | inr hmoved =>
      obtain ⟨-, r, hr, hg, hfree, rfl⟩ := hmoved
      refine h.writeRefund hr howner hfree ?_ rfl rfl
      intro p hp hparent
      exact (h.coupled _ p hp hparent).keep hr (howner r) (hopen r hg) (hcompleted r hg)

theorem RefundInv.verifyAndFinalizeRefund {env : Env} {refundId : Id}
    {answer : Except ApiError String} {db : Db} (h : RefundInv db)
    (hsafe : forall r status, db.refunds.findUnique refundId = some r ->
      r.status ≠ .completed -> truthy r.providerRefundId = true ->
      answer = .ok status -> RefundVerification.ofText status = .reversed ->
      FailureKeepsCoupling db refundId) :
    RefundInv (MarketBridge.verifyAndFinalizeRefund env refundId answer db).1 := by
  unfold MarketBridge.verifyAndFinalizeRefund
  cases hr : db.refunds.findUnique refundId with
  | none =>
      exact h
  | some r =>
      dsimp only
      split
      · exact h
      · rename_i hdone
        split
        · exact h
        · rename_i href
          cases hanswer : answer with
          | error e =>
              exact h
          | ok status =>
              dsimp only
              split
              · split
                · exact h
                · rename_i hfinal
                  exact h.finalizeRefund hfinal
              · rename_i hreversed
                apply h.failRefund
                intro _ _ _
                exact hsafe r status hr hdone (by simpa using href) hanswer hreversed
              · split
                · exact h
                · rename_i hmove
                  apply h.moveRefund hmove (fun _ => rfl)
                  · intro q hq
                    rw [hq]
                    rfl
                  · intro q _ hq
                    cases hq

/-- What the claim for a submission has found and written. -/
theorem claimForProcessing_eq_ok {provider : String}
    (h : claimForProcessing refundId db = .ok (some (db', provider))) :
    exists r p, db.refunds.findUnique refundId = some r ∧ r.status = .requested ∧
      db.payments.findUnique r.paymentId = some p ∧ isSubmittable db p = true ∧
      (forall k q, db.refunds.findUnique k = some q -> k ≠ refundId ->
        (r.submit provider).sameProviderRefund q = false) ∧
      db' = { db with refunds := db.refunds.update refundId (·.submit provider) } := by
  unfold claimForProcessing at h
  cases hr : db.refunds.findUnique refundId with
  | none =>
      simp [hr] at h
  | some r =>
      simp only [hr] at h
      split at h
      · cases h
      · obtain ⟨hrequested, h⟩ := guard_eq_ok.mp h
        rw [ne_eq, not_not] at hrequested
        cases hp : db.payments.findUnique r.paymentId with
        | none =>
            simp [hp] at h
        | some p =>
            simp only [hp] at h
            cases hprovider : providerForPayment p with
            | none =>
                simp [hprovider] at h
            | some adapter =>
                simp only [hprovider] at h
                obtain ⟨href, h⟩ := guard_eq_ok.mp h
                simp only [bind_eq_ok, Prod.exists] at h
                obtain ⟨_, horder, moved, claimed, hmove, hrest⟩ := h
                cases moveRefund_cases hmove with
                | inl hstay =>
                    rw [hstay.1] at hrest
                    cases hrest
                | inr hmoved =>
                    obtain ⟨rfl, q, hq, -, hfree, rfl⟩ := hmoved
                    have hqr : r = q := Option.some.inj (hr.symm.trans hq)
                    subst hqr
                    cases hrest
                    refine ⟨r, p, rfl, hrequested, hp, ?_, hfree, rfl⟩
                    have hcancelled : ((related db.orders p.orderId).all fun order =>
                        order.status = .cancelled || isStalledInspectionRefund db p) =
                          true := by
                      unfold assertOrderCancelled at horder
                      cases ho : related db.orders p.orderId with
                      | none =>
                          rfl
                      | some order =>
                          simp only [ho] at horder
                          obtain ⟨hno, horder⟩ := guard_eq_ok.mp horder
                          simp only [ne_eq, not_and_or, not_not,
                            Bool.not_eq_false] at hno
                          simpa using hno
                    simp [isSubmittable, hprovider, hcancelled]
                    simpa using href

theorem FailureKeepsCoupling.congr {r r' : PaymentRefund} (h : FailureKeepsCoupling db refundId)
    (hpayments : db'.payments = db.payments) (hr : db.refunds.findUnique refundId = some r)
    (hr' : db'.refunds.findUnique refundId = some r') (howner : r'.paymentId = r.paymentId)
    (hopen : r'.status.isOpen = r.status.isOpen) :
    FailureKeepsCoupling db' refundId := by
  intro q p hq hp hparent hs
  have hqr : r' = q := Option.some.inj (hr'.symm.trans hq)
  subst hqr
  rw [hpayments, howner] at hp
  rw [hopen, howner, paymentConflict_congr hpayments]
  exact h r p hr hp hparent hs

theorem RefundInv.refundSubmissionFailed {e : ApiError} (h : RefundInv db)
    (hsafe : e.isRejection = true -> FailureKeepsCoupling db refundId) :
    RefundInv (MarketBridge.refundSubmissionFailed env refundId e db).1 := by
  unfold MarketBridge.refundSubmissionFailed
  split
  · rename_i hrejected
    have hfailed : RefundInv (MarketBridge.failRefund env refundId (some e.message) true db).1 :=
      h.failRefund fun _ _ _ => hsafe hrejected
    split <;> rename_i heq <;> rw [heq] at hfailed <;> exact hfailed
  · split
    · exact h
    · rename_i hmove
      exact h.moveRefund hmove (fun _ => rfl) (fun _ _ => rfl) fun _ _ hq => hq

theorem truthy_of_refundReferenceOf {answer : Except ApiError (Option String)}
    {refId : String} (h : refundReferenceOf answer = .ok refId) :
    truthy (some refId) = true := by
  unfold refundReferenceOf at h
  split at h
  · cases h
  · split at h
    · rename_i hrefId
      cases h
      unfold jsOr at hrefId
      split at hrefId
      · cases hrefId
      · split at hrefId
        · cases hrefId
        · rename_i hne
          cases hrefId
          simpa [truthy] using hne
    · cases h

theorem RefundInv.processRefund {env : Env} {refundId : Id} {answers : ProviderAnswers}
    {db : Db} (h : RefundInv db)
    (hsafe : forall r p, db.refunds.findUnique refundId = some r -> r.status = .requested ->
      db.payments.findUnique r.paymentId = some p -> isSubmittable db p = true ->
      answers.fail = true -> FailureKeepsCoupling db refundId) :
    RefundInv (MarketBridge.processRefund env refundId answers db).1 := by
  unfold MarketBridge.processRefund
  split
  · exact h
  · exact h
  · rename_i claimed provider hclaim
    obtain ⟨r, p, hr, hrequested, hp, hsubmit, hfree, rfl⟩ := claimForProcessing_eq_ok hclaim
    have hsafe := hsafe r p hr hrequested hp hsubmit
    -- The claimed refund is still open, so the condition carries over to it.
    have hclaimed : RefundInv
        { db with refunds := db.refunds.update refundId (·.submit provider) } := by
      refine h.writeRefund (f := (·.submit provider)) hr (fun _ => rfl) hfree ?_ rfl rfl
      intro q hq hparent
      refine (h.coupled _ q hq hparent).keep hr rfl ?_ ?_
      · rw [hrequested]
        rfl
      · intro hs
        cases hs
    have hread : (db.refunds.update refundId (·.submit provider)).findUnique refundId =
        some (r.submit provider) := by
      simp [hr]
    have hcarry (hfail : answers.fail = true) : FailureKeepsCoupling
        { db with refunds := db.refunds.update refundId (·.submit provider) } refundId := by
      refine (hsafe hfail).congr rfl hr hread rfl ?_
      rw [hrequested]
      rfl
    split
    · rename_i e hsubmission
      apply hclaimed.refundSubmissionFailed
      intro hrejected
      apply hcarry
      simp [ProviderAnswers.fail, hsubmission, hrejected]
    · rename_i refId hsubmission
      split
      · rename_i e hconflict
        apply hclaimed.refundSubmissionFailed
        intro hrejected
        unfold MarketBridge.moveRefund at hconflict
        simp only [hread] at hconflict
        split at hconflict
        · split at hconflict
          · cases hconflict
            cases hrejected
          · cases hconflict
        · cases hconflict
      · rename_i accepted hmove
        exact hclaimed.moveRefund hmove (fun _ => rfl) (fun _ _ => rfl) fun _ _ hq => hq
      · rename_i accepted hmove
        have haccepted := hclaimed.moveRefund hmove (fun _ => rfl) (fun _ _ => rfl)
          fun _ _ hq => hq
        apply haccepted.verifyAndFinalizeRefund
        intro _ status _ _ _ hverification hreversed
        have hfail : answers.fail = true := by
          simp [ProviderAnswers.fail, hsubmission, hverification, hreversed]
        cases moveRefund_cases hmove with
        | inl hstay =>
            cases hstay.1
        | inr hmoved =>
            obtain ⟨-, q, hq, -, -, rfl⟩ := hmoved
            have hqr : r.submit provider = q := Option.some.inj (hread.symm.trans hq)
            subst hqr
            exact @FailureKeepsCoupling.congr _ _ _ _ ((r.submit provider).accept provider refId)
              (hcarry hfail) rfl hread (by simp [hr]) rfl rfl

/-! ## Requesting -/

theorem newestRefund_eq_none {statuses : List PaymentRefundStatus}
    (h : newestRefund db paymentId statuses = none) {φ : PaymentRefundStatus -> Bool}
    (hφ : forall s, φ s = true -> s ∈ statuses) (j : Id) :
    ¬ HasRefund db.refunds paymentId φ j := by
  rintro ⟨r, hr, howner, hs⟩
  unfold newestRefund at h
  rw [List.getLast?_eq_none_iff] at h
  have hmem : (j, r) ∈ db.refunds.findMany fun _ q =>
      q.paymentId = paymentId && q.status ∈ statuses :=
    Table.mem_findMany.2 ⟨hr, by simp [howner, hφ r.status hs]⟩
  rw [h] at hmem
  cases hmem

theorem newestRefund_eq_some {statuses : List PaymentRefundStatus} {e : Id × PaymentRefund}
    (h : newestRefund db paymentId statuses = some e) :
    db.refunds.findUnique e.1 = some e.2 ∧ e.2.paymentId = paymentId ∧
      e.2.status ∈ statuses := by
  have hmem := Table.mem_findMany.1 (List.mem_of_getLast? h)
  simpa using hmem

/-- The database once a new refund of the payment is requested. -/
structure RequestedRefund (db : Db) (paymentId : Id) (db' : Db) : Prop where
  none_open : forall j, ¬ OpenRefund db.refunds paymentId j
  none_completed : forall j, ¬ CompletedRefund db.refunds paymentId j
  writes : exists r events, r.paymentId = paymentId ∧ r.status = .requested ∧
    r.provider = none ∧
    db' = { db with
      payments := db.payments.update paymentId (·.withStatus .refundPending)
      refunds := db.refunds.create r
      orderEvents := events }

theorem resetForRetry_eq_ok {p : Payment} (h : resetForRetry paymentId p db = .ok db') :
    (p.status ≠ .refundPending ∧ db' = db) ∨
      (p.status = .refundPending ∧ newestRefund db paymentId [.failed] ≠ none ∧
        db' = { db with payments := db.payments.update paymentId (·.withStatus .paid) }) := by
  unfold resetForRetry at h
  split at h
  · next hpending =>
      split at h
      · cases h
      · next hfailed =>
          simp only [bind_eq_ok, Prod.exists] at h
          obtain ⟨moved, reset, hmove, h⟩ := h
          split at h
          · next hreset =>
              obtain rfl := Except.ok.inj h
              rcases movePayment_cases hmove with ⟨hfalse, -⟩ | ⟨-, p', -, -, -, hwrite⟩
              · rw [hfalse] at hreset
                cases hreset
              · refine Or.inr ⟨hpending, ?_, hwrite⟩
                rw [hfailed]
                exact Option.some_ne_none _
          · cases h
  · next hpending =>
      exact Or.inl ⟨hpending, (Except.ok.inj h).symm⟩

/-- A request either finds a refund that is not failed, or creates one. -/
theorem requestRefund_eq_ok {amount : Option JsNumber} {requestedById : Option Id}
    (h : requestRefund env paymentId amount reason requestedById db = .ok (db', id)) :
    exists p refundAmount, db.payments.findUnique paymentId = some p ∧
      p.status ∈ [PaymentStatus.paid, .refundPending] ∧
      fullRefundAmount p amount = some refundAmount ∧
      ((db' = db ∧ exists r,
          newestRefund db paymentId [.requested, .processing, .completed] = some (id, r)) ∨
        (newestRefund db paymentId [.requested, .processing, .completed] = none ∧
          (p.status = .refundPending -> newestRefund db paymentId [.failed] ≠ none) ∧
          id = db.refunds.size ∧ exists events, db' = { db with
            payments := db.payments.update paymentId (·.withStatus .refundPending)
            refunds := db.refunds.create
              (newRefund paymentId p refundAmount reason requestedById)
            orderEvents := events })) := by
  unfold requestRefund at h
  cases hp : db.payments.findUnique paymentId with
  | none =>
      simp [hp] at h
  | some p =>
      simp only [hp] at h
      split at h
      · next hs =>
          split at h
          · cases h
          · next refundAmount hamount =>
              refine ⟨p, refundAmount, rfl, hs, hamount, ?_⟩
              cases hexisting : newestRefund db paymentId
                  [.requested, .processing, .completed] with
              | some existing =>
                  simp only [hexisting, Except.ok.injEq, Prod.mk.injEq] at h
                  exact Or.inl ⟨h.1.symm, existing.2, h.2 ▸ rfl⟩
              | none =>
                  right
                  simp only [hexisting, bind_eq_ok, Prod.exists] at h
                  obtain ⟨reset, hreset, _, _, claimed, moved, hclaim, hrest⟩ := h
                  have hretry := resetForRetry_eq_ok hreset
                  have hresetRefunds : reset.refunds = db.refunds := by
                    rcases hretry with ⟨-, rfl⟩ | ⟨-, -, rfl⟩ <;> rfl
                  rcases movePayment_cases hclaim with ⟨rfl, rfl, -⟩ | ⟨rfl, q, -, -, -, rfl⟩
                  · have hstill : newestRefund claimed paymentId
                        [.requested, .processing, .completed] = none := by
                      unfold newestRefund at hexisting ⊢
                      rw [hresetRefunds]
                      exact hexisting
                    simp [hstill] at hrest
                  · simp only [if_true, Except.ok.injEq, Prod.mk.injEq] at hrest
                    refine ⟨rfl, ?_, by rw [← hrest.2, hresetRefunds], ?_⟩
                    · intro hpending
                      rcases hretry with ⟨hne, -⟩ | ⟨-, hfailed, -⟩
                      · exact absurd hpending hne
                      · exact hfailed
                    · obtain ⟨events, hevents⟩ := recordOrderEvent_frame env p.orderId
                        .paymentRefundRequested
                        { reset with
                          payments := reset.payments.update paymentId (·.withStatus .refundPending)
                          refunds := reset.refunds.create
                            (newRefund paymentId p refundAmount reason requestedById) }
                      refine ⟨events, ?_⟩
                      rw [← hrest.1, hevents]
                      -- A reset for a retry is undone by the claim that follows it.
                      rcases hretry with ⟨-, rfl⟩ | ⟨-, -, rfl⟩
                      · rfl
                      · rw [Table.update_update]
                        rfl
      · cases h

theorem requestRefund_cases {amount : Option JsNumber} {requestedById : Option Id}
    (h : requestRefund env paymentId amount reason requestedById db = .ok (db', id)) :
    exists p, db.payments.findUnique paymentId = some p ∧
      ((db' = db ∧ exists r, db.refunds.findUnique id = some r ∧ r.paymentId = paymentId) ∨
        (id = db.refunds.size ∧ RequestedRefund db paymentId db')) := by
  obtain ⟨p, refundAmount, hp, -, -, hcases⟩ := requestRefund_eq_ok h
  refine ⟨p, hp, ?_⟩
  rcases hcases with ⟨hdb, r, hexisting⟩ | ⟨hnone, -, hid, events, hdb⟩
  · obtain ⟨hr, howner, -⟩ := newestRefund_eq_some hexisting
    exact Or.inl ⟨hdb, r, hr, howner⟩
  · refine Or.inr ⟨hid, ?_, ?_, ?_⟩
    · apply newestRefund_eq_none hnone
      intro s hs
      cases s <;> simp_all [PaymentRefundStatus.isOpen]
    · apply newestRefund_eq_none hnone
      intro s hs
      cases s <;> simp_all
    · exact ⟨_, events, rfl, rfl, rfl, hdb⟩

theorem RefundInv.requestedRefund {p : Payment} (h : RefundInv db)
    (hp : db.payments.findUnique paymentId = some p)
    (hrequested : RequestedRefund db paymentId db') :
    RefundInv db' := by
  obtain ⟨hopen, hcompleted, r, events, howner, hstatus, hprovider, rfl⟩ := hrequested
  have hconflict : paymentConflict db paymentId (p.withStatus .refundPending) = false :=
    h.payments.inactive_conflict hp (by simp)
  refine h.rewrite (g := (·.withStatus .refundPending)) hp rfl rfl ?_ ?_ ?_ ?_ ?_
  · apply h.payments.update
    intro q hq
    rw [Option.some.inj (hq.symm.trans hp)]
    exact hconflict
  · apply h.refunds.create sameProviderRefund_comm
    intro k q _
    simp [PaymentRefund.sameProviderRefund, hprovider]
  · intro k q hq
    rw [Table.findUnique_create] at hq
    split at hq
    · cases hq
      exact ⟨p, howner ▸ hp⟩
    · exact h.owned k q hq
  · intro k φ l hk
    have hne : paymentId ≠ k := fun he => hk he.symm
    rw [hasRefund_create]
    by_cases hl : l = db.refunds.size
    · rw [if_pos hl, howner]
      simp [hne, hl, HasRefund]
    · rw [if_neg hl]
  · intro _
    have hlive : forall j, OpenRefund (db.refunds.create r) paymentId j ↔
        j = db.refunds.size := by
      intro j
      unfold OpenRefund
      rw [hasRefund_create]
      by_cases hj : j = db.refunds.size
      · simp [hj, howner, hstatus, PaymentRefundStatus.isOpen]
      · simp [hj, hopen j]
    refine ⟨fun _ _ => rfl, fun _ => ⟨_, (hlive _).2 rfl⟩, ?_, ?_⟩
    · intro j k hj hk
      rw [(hlive j).1 hj, (hlive k).1 hk]
    · intro j hj
      unfold CompletedRefund at hj
      rw [hasRefund_create] at hj
      split at hj
      · simp [hstatus] at hj
      · exact absurd hj (hcompleted j)

theorem RefundInv.retryRefund {env : Env} {refundId : Id} {actorId : Option Id}
    {note : Option String} {answers : ProviderAnswers} {db : Db} (h : RefundInv db)
    (hsafe : forall r p, db.refunds.findUnique refundId = some r -> r.status = .failed ->
      db.payments.findUnique r.paymentId = some p -> isSubmittable db p = true ->
      p.isInstallmentParent = false -> answers.fail = true ->
      paymentConflict db r.paymentId (p.withStatus .paid) = false) :
    RefundInv (MarketBridge.retryRefund env refundId actorId note answers db).1 := by
  unfold MarketBridge.retryRefund
  cases hr : db.refunds.findUnique refundId with
  | none =>
      exact h
  | some r =>
      dsimp only
      split
      · exact h
      · rename_i hfailed
        rw [ne_eq, not_not] at hfailed
        split
        · exact h
        · rename_i requested id hrequest
          obtain ⟨p, hp, hcases⟩ := requestRefund_cases hrequest
          have hsafe := hsafe r p hr hfailed hp
          cases hcases with
          | inl hexisting =>
              obtain ⟨rfl, live, hlive, howner⟩ := hexisting
              apply h.processRefund
              intro q p' hq hrequested hp' hsubmit hfail q' p'' hq' hp'' hparent hs
              have hql : q = live := Option.some.inj (hq.symm.trans hlive)
              have hqq : q = q' := Option.some.inj (hq.symm.trans hq')
              subst hqq
              rw [hql, howner] at hp' hp'' ⊢
              have hpp' : p = p' := Option.some.inj (hp.symm.trans hp')
              have hpp'' : p = p'' := Option.some.inj (hp.symm.trans hp'')
              subst hpp' hpp''
              rw [hsafe hsubmit hparent hfail, ← hql, hrequested]
              decide
          | inr hnew =>
              obtain ⟨rfl, hnew⟩ := hnew
              apply (h.requestedRefund hp hnew).processRefund
              obtain ⟨-, -, live, events, howner, hstatus, -, rfl⟩ := hnew
              intro q p' hq hrequested hp' hsubmit hfail q' p'' hq' hp'' hparent hs
              have hlive : (db.refunds.create live).findUnique db.refunds.size = some live :=
                Table.findUnique_create_self _ _
              have hql : q = live := Option.some.inj (hq.symm.trans hlive)
              have hqq : q = q' := Option.some.inj (hq.symm.trans hq')
              subst hqq hql
              rw [howner] at hp' hp'' ⊢
              have hread : (db.payments.update r.paymentId (·.withStatus .refundPending)).findUnique
                  r.paymentId = some (p.withStatus .refundPending) := by
                simp [hp]
              have hpp' : p.withStatus .refundPending = p' :=
                Option.some.inj (hread.symm.trans hp')
              have hpp'' : p.withStatus .refundPending = p'' :=
                Option.some.inj (hread.symm.trans hp'')
              subst hpp' hpp''
              have hfree : paymentConflict db r.paymentId (p.withStatus .paid) = false :=
                hsafe hsubmit hparent hfail
              have hfree' := paymentConflict_update db r.paymentId (·.withStatus .refundPending)
                (p.withStatus .paid)
              rw [hfree] at hfree'
              constructor
              · intro _
                exact hfree'
              · intro _
                rw [hrequested]
                rfl

end MarketBridge
