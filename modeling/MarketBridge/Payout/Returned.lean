import MarketBridge.Market.Money

/-!
# Payouts of returned money

A payment whose money is being returned should have no payout that can still be
released.  Only the cancellation of an order closes the payouts of the payments
that it refunds; a refund request and a `REFUNDED` notification leave them alone.
-/

namespace MarketBridge

open Relational

def PaymentStatus.isReturning (s : PaymentStatus) : Bool :=
  s ∈ [PaymentStatus.refundPending, .refunded]

/-- Every payout of the payment is `CANCELLED` or `PAID_OUT`. -/
def NoOpenPayout (db : Db) (i : Id) : Prop :=
  forall k payout, db.payouts.findUnique k = some payout -> payout.paymentId = i ->
    payout.status.isFinal = true

def ReturnedWithoutPayout (db : Db) : Prop :=
  forall i p, db.payments.findUnique i = some p -> p.status.isReturning = true ->
    NoOpenPayout db i

/--
Of the payments whose money is returned after a step, each payout is `CANCELLED`,
or was `PAID_OUT` before the step already.
-/
def ReturnedWithoutRelease (db db' : Db) : Prop :=
  forall i p k payout, db'.payments.findUnique i = some p -> p.status.isReturning = true ->
    db'.payouts.findUnique k = some payout -> payout.paymentId = i ->
    payout.status = .cancelled ∨
      (payout.status = .paidOut ∧ db.payouts.findUnique k = some payout)

theorem isFinal_cases {s : PayoutStatus} (h : s.isFinal = true) :
    s = .cancelled ∨ s = .paidOut := by
  cases s <;> first | exact Or.inl rfl | exact Or.inr rfl | cases h

theorem ReturnedWithoutRelease.closed {db db' : Db} (h : ReturnedWithoutRelease db db') :
    ReturnedWithoutPayout db' := by
  intro i p hp hreturning k payout hk howner
  rcases h i p k payout hp hreturning hk howner with hstatus | ⟨hstatus, -⟩
  · rw [hstatus]
    rfl
  · rw [hstatus]
    rfl

section Steps

variable {env : Env} {args : SettleArgs} {db db' : Db}

/-- Returned payments had no open payout before, and their payouts are the same rows. -/
theorem ReturnedWithoutRelease.of_same
    (hclosed : forall i p, db'.payments.findUnique i = some p -> p.status.isReturning = true ->
      NoOpenPayout db i)
    (hsame : forall i p k payout, db'.payments.findUnique i = some p ->
      p.status.isReturning = true -> db'.payouts.findUnique k = some payout ->
      payout.paymentId = i -> db.payouts.findUnique k = some payout) :
    ReturnedWithoutRelease db db' := by
  intro i p k payout hp hreturning hk howner
  have hbefore := hsame i p k payout hp hreturning hk howner
  have hfinal := hclosed i p hp hreturning k payout hbefore howner
  exact (isFinal_cases hfinal).imp_right fun hpaidOut => ⟨hpaidOut, hbefore⟩

theorem ReturnedWithoutRelease.of_eq (h : ReturnedWithoutPayout db)
    (hpayments : db'.payments = db.payments) (hpayouts : db'.payouts = db.payouts) :
    ReturnedWithoutRelease db db' := by
  apply ReturnedWithoutRelease.of_same
  · intro i p hp hreturning
    rw [hpayments] at hp
    exact h i p hp hreturning
  · intro i p k payout _ _ hk _
    rw [hpayouts] at hk
    exact hk

theorem ReturnedWithoutRelease.of_kept (h : ReturnedWithoutPayout db) (hkept : MoneyKept db db') :
    ReturnedWithoutRelease db db' := by
  apply ReturnedWithoutRelease.of_same
  · intro i p hp hreturning
    rw [hkept.payments] at hp
    exact h i p hp hreturning
  · intro i p k payout' hp hreturning hk howner
    rw [hkept.payments] at hp
    rcases hkept.payouts k payout' hk with ⟨payout, hbefore, hmove⟩ | ⟨q, hq, hpaid⟩
    · have hfinal := h i p hp hreturning k payout hbefore (hmove.1.symm.trans howner)
      rw [hmove.2 hfinal]
      exact hbefore
    · rw [howner, hp, Option.some.injEq] at hq
      rw [hq, hpaid] at hreturning
      cases hreturning

/-! ## Refunds and cancellations -/

/-- The payouts of the payments that a cancellation refunds are among those it cancels. -/
def CancelsPayouts (record : OrderRecord) (db : Db) : Prop :=
  forall i p k payout, db.payments.findUnique i = some p -> p.status = .paid ->
    (i ∈ cancellationRefunds record db ∧ ¬ HasBlockingRefund db i ∨
      p.orderId = some record.id ∧ p.isInstallmentParent = true) ->
    db.payouts.findUnique k = some payout -> payout.paymentId = i ->
    payout.status.isFinal = false ->
    selectsForOrderCancel db record.id (earnedInspections db record.id) payout = true

variable {call : RefundCall} {i : Id} {p : Payment}

theorem RefundEdge.into_returning {s s' : PaymentStatus} (h : RefundEdge db call i s s') :
    s.isReturning = true ∨ s = .paid ∧ call.Starts db i := by
  cases h with
  | started _ hstarts =>
      exact Or.inr ⟨rfl, hstarts⟩
  | givenBack =>
      exact Or.inl rfl
  | completed =>
      exact Or.inl rfl

theorem RefundCall.starts_of_returning {p' : Payment} (hmoved : Moved (RefundEdge db call) i p p')
    (hafter : p'.status.isReturning = true) (hbefore : p.status.isReturning = false) :
    p.status = .paid ∧ call.Starts db i := by
  obtain ⟨-, hpath⟩ := hmoved
  rcases Relation.ReflTransGen.cases_head hpath with hsame | ⟨s, hedge, -⟩
  · rw [← hsame, hbefore] at hafter
    cases hafter
  · rcases hedge.into_returning with hreturning | hstarted
    · rw [hbefore] at hreturning
      cases hreturning
    · exact hstarted

theorem CancelEdge.refunds_of_returning {record : OrderRecord} {p' : Payment}
    (hp : db.payments.findUnique i = some p) (hmoved : Moved (CancelEdge record db) i p p')
    (hafter : p'.status.isReturning = true) (hbefore : p.status.isReturning = false) :
    p.status = .paid ∧
      (i ∈ cancellationRefunds record db ∧ ¬ HasBlockingRefund db i ∨
        p.orderId = some record.id ∧ p.isInstallmentParent = true) := by
  obtain ⟨-, hpath⟩ := hmoved
  rcases Relation.ReflTransGen.cases_head hpath with hsame | ⟨s, hedge, hrest⟩
  · rw [← hsame, hbefore] at hafter
    cases hafter
  · generalize hsource : p.status = source at hedge hbefore
    cases hedge with
    | refunded _ hmem hfree =>
        exact ⟨rfl, Or.inl ⟨hmem, hfree⟩⟩
    | held _ q hq horder hparent =>
        rw [hp, Option.some.injEq] at hq
        subst hq
        exact ⟨rfl, Or.inr ⟨horder, hparent⟩⟩
    | closed =>
        -- No edge leads out of `FAILED`.
        generalize p'.status = target at hrest hafter
        rcases Relation.ReflTransGen.cases_head hrest with hsame | ⟨t, hfailed, -⟩
        · rw [← hsame] at hafter
          cases hafter
        · cases hfailed

theorem MoneyCancelled.returned {record : OrderRecord} (h : ReturnedWithoutPayout db)
    (hcancels : CancelsPayouts record db) (hcancelled : MoneyCancelled record db db') :
    ReturnedWithoutRelease db db' := by
  intro i p' k payout' hp' hreturning hk howner
  obtain ⟨p, hp, hmoved⟩ := Table.Rel.of_right hcancelled.payments hp'
  rw [hcancelled.payouts, Table.findUnique_updateMany] at hk
  obtain ⟨payout, hpayout, hwritten⟩ := Option.map_eq_some_iff.mp hk
  by_cases hselected :
      selectsForOrderCancel db record.id (earnedInspections db record.id) payout = true
  · rw [if_pos hselected] at hwritten
    left
    rw [← hwritten]
  · rw [if_neg hselected] at hwritten
    subst hwritten
    have hfinal : payout.status.isFinal = true := by
      by_cases hbefore : p.status.isReturning = true
      · exact h i p hp hbefore k payout hpayout howner
      · rw [Bool.not_eq_true] at hbefore
        obtain ⟨hpaid, hrefunded⟩ :=
          CancelEdge.refunds_of_returning hp hmoved hreturning hbefore
        by_contra hopen
        rw [Bool.not_eq_true] at hopen
        exact hselected (hcancels i p k payout hp hpaid hrefunded hpayout howner hopen)
    exact (isFinal_cases hfinal).imp_right fun hpaidOut => ⟨hpaidOut, hpayout⟩

/-! ## Settlements -/

def PayoutsFor (i : Id) (payouts payouts' : Table Payout) : Prop :=
  forall k payout, payouts'.findUnique k = some payout ->
    payouts.findUnique k = some payout ∨ payout.paymentId = i

theorem PayoutsFor.refl (i : Id) (payouts : Table Payout) : PayoutsFor i payouts payouts :=
  fun _ _ hk => Or.inl hk

theorem PayoutsFor.trans {t u v : Table Payout} (h : PayoutsFor i t u) (h' : PayoutsFor i u v) :
    PayoutsFor i t v := by
  intro k payout hk
  rcases h' k payout hk with hbefore | howner
  · exact h k payout hbefore
  · exact Or.inr howner

theorem GainedHold.payoutsFor {payouts payouts' : Table Payout}
    (h : GainedHold i payouts payouts') :
    PayoutsFor i payouts payouts' := by
  rcases h with rfl | ⟨hold, -, howner, rfl⟩
  · exact .refl i _
  · intro k payout hk
    rw [Table.findUnique_create] at hk
    split at hk
    · exact Or.inr (Option.some.inj hk ▸ howner)
    · exact Or.inl hk

theorem PaidEffects.payoutsFor {r : PaymentRecord} (h : PaidEffects env r db db') :
    PayoutsFor r.id db.payouts db'.payouts := by
  have hrecorded : forall db, PayoutsFor r.id db.payouts (recordPaid env r db).payouts := by
    intro db
    obtain ⟨payouts, purchases, ads, entries, hgained, hframe⟩ := recordPaid_frame env r db
    rw [hframe]
    exact hgained.payoutsFor
  cases h with
  | underDispute data =>
      obtain ⟨entries, hentries⟩ := writeLedgerPaid_frame r db
      obtain ⟨events, hissue⟩ := withIssue_frame env data (writeLedgerPaid r db)
      rw [hissue, hentries]
      exact .refl _ _
  | confirmed orderId order committed listings offers payouts _ _ _ _ _ _ hgained =>
      exact PayoutsFor.trans hgained.payoutsFor (hrecorded _)
  | afterCancellation order data =>
      obtain ⟨events, hissue⟩ := withIssue_frame env data db
      have hrest := hrecorded (withIssue env data db)
      rw [hissue] at hrest ⊢
      exact hrest
  | transportAccepted jobId truckId quoteId job quote trucks =>
      exact hrecorded _
  | inspectionAccepted requestId inspectorId request =>
      exact hrecorded _
  | recorded =>
      exact hrecorded db

/-- What a settlement does to the payments and to the payouts. -/
inductive SettlementPays (args : SettleArgs) (db : Db) (p : Payment) (db' : Db) : Prop where
  | kept (hpayments : db'.payments = db.payments) (hpayouts : db'.payouts = db.payouts)
  | flagged (hpayments : db'.payments = db.payments.update args.paymentId (·.flagged args))
      (hpayouts : db'.payouts = db.payouts)
  | written (hwrites : settlementWrites args db p = true)
      (hpayments : db'.payments = db.payments.update args.paymentId (·.afterSettlement args))
      (hpayouts : db'.payouts = db.payouts)
  | received (hpaid : args.status = .paid)
      (hpayments : db'.payments = db.payments.update args.paymentId (·.afterSettlement args))
      (hpayouts : PayoutsFor args.paymentId db.payouts db'.payouts)

theorem settlePaymentCore_pays (hp : db.payments.findUnique args.paymentId = some p)
    (h : settlePaymentCore env args db = .ok db') :
    SettlementPays args db p db' := by
  cases settlePaymentCore_exit hp h with
  | flagged reason =>
      obtain ⟨events, hissue⟩ := withIssue_frame env
        (issueData (paymentRecord db args.paymentId p) args reason) db
      unfold flaggedDb
      rw [hissue]
      dsimp only
      split
      · exact .flagged rfl rfl
      · exact .kept rfl rfl
  | replayed =>
      exact .kept rfl rfl
  | ignored =>
      obtain ⟨events, hevents⟩ := withEvent_frame args (paymentRecord db args.paymentId p) db
      rw [hevents]
      exact .kept rfl rfl
  | written written _ hwrites hwritten heffects =>
      have hpayments := (applyEffects_frame heffects).payments
      obtain ⟨events, rfl⟩ := hwritten.shape
      rcases applyEffects_cases heffects with ⟨hpaid, hreceived⟩ | ⟨-, rfl⟩ | ⟨-, -, rfl⟩
      · exact .received hpaid hpayments hreceived.payoutsFor
      · refine .written hwrites hpayments ?_
        obtain ⟨purchases, entries, hframe⟩ := applyRefunded_frame
          (paymentRecord db args.paymentId p) _
        rw [hframe]
      · exact .written hwrites hpayments rfl

def ReturnsWithoutPayout (db : Db) (args : SettleArgs) : Prop :=
  forall p, db.payments.findUnique args.paymentId = some p ->
    settlementWrites args db p = true -> args.status.isReturning = true ->
    p.status.isReturning = false -> NoOpenPayout db args.paymentId

theorem findUnique_payments_other {j : Id} {f : Payment -> Payment}
    (hpayments : db'.payments = db.payments.update j f) (hij : i ≠ j) :
    db'.payments.findUnique i = db.payments.findUnique i := by
  rw [hpayments]
  exact Table.findUnique_update_ne hij

theorem ReturnedWithoutPayout.settlePaymentCore (h : ReturnedWithoutPayout db)
    (hreturns : ReturnsWithoutPayout db args)
    (hok : MarketBridge.settlePaymentCore env args db = .ok db') :
    ReturnedWithoutRelease db db' := by
  cases hp : db.payments.findUnique args.paymentId with
  | none =>
      simp [MarketBridge.settlePaymentCore, hp] at hok
  | some p =>
      have hwritten : forall (f : Payment -> Payment) (q : Payment) (i : Id),
          db'.payments = db.payments.update args.paymentId f ->
          db'.payments.findUnique i = some q -> q.status.isReturning = true ->
          (i = args.paymentId -> q = f p) ∧
            (i ≠ args.paymentId -> NoOpenPayout db i) := by
        intro f q i hpayments hq hreturning
        refine ⟨?_, ?_⟩
        · intro hi
          rw [hpayments, hi, Table.findUnique_update_self, hp, Option.map_some,
            Option.some.injEq] at hq
          exact hq.symm
        · intro hi
          rw [findUnique_payments_other hpayments hi] at hq
          exact h i q hq hreturning
      cases settlePaymentCore_pays hp hok with
      | kept hpayments hpayouts =>
          exact .of_eq h hpayments hpayouts
      | flagged hpayments hpayouts =>
          apply ReturnedWithoutRelease.of_same
          · intro i q hq hreturning
            obtain ⟨hself, hother⟩ := hwritten _ q i hpayments hq hreturning
            by_cases hi : i = args.paymentId
            · rw [hself hi] at hreturning
              cases hreturning
            · exact hother hi
          · intro i q k payout _ _ hk _
            rw [hpayouts] at hk
            exact hk
      | written hwrites hpayments hpayouts =>
          apply ReturnedWithoutRelease.of_same
          · intro i q hq hreturning
            obtain ⟨hself, hother⟩ := hwritten _ q i hpayments hq hreturning
            by_cases hi : i = args.paymentId
            · rw [hself hi] at hreturning
              subst hi
              by_cases hbefore : p.status.isReturning = true
              · exact h args.paymentId p hp hbefore
              · exact hreturns p hp hwrites hreturning (Bool.not_eq_true _ ▸ hbefore)
            · exact hother hi
          · intro i q k payout _ _ hk _
            rw [hpayouts] at hk
            exact hk
      | received hpaid hpayments hpayouts =>
          have hnot : forall q i, db'.payments.findUnique i = some q ->
              q.status.isReturning = true -> i ≠ args.paymentId := by
            intro q i hq hreturning hi
            rw [(hwritten _ q i hpayments hq hreturning).1 hi] at hreturning
            have hstatus : (p.afterSettlement args).status = args.status := rfl
            rw [hstatus, hpaid] at hreturning
            cases hreturning
          apply ReturnedWithoutRelease.of_same
          · intro i q hq hreturning
            exact (hwritten _ q i hpayments hq hreturning).2 (hnot q i hq hreturning)
          · intro i q k payout hq hreturning hk howner
            rcases hpayouts k payout hk with hbefore | hnew
            · exact hbefore
            · exact absurd (howner.symm.trans hnew) (hnot q i hq hreturning)

def KeepsReturned (db db' : Db) : Prop :=
  forall i q, db'.payments.findUnique i = some q -> q.status.isReturning = true ->
    db.payments.findUnique i = some q ∧
      forall k payout, db'.payouts.findUnique k = some payout -> payout.paymentId = i ->
        db.payouts.findUnique k = some payout

theorem KeepsReturned.of_eq (hpayments : db'.payments = db.payments)
    (hpayouts : db'.payouts = db.payouts) :
    KeepsReturned db db' := by
  intro i q hq _
  rw [hpayments] at hq
  refine ⟨hq, ?_⟩
  intro k payout hk _
  rw [hpayouts] at hk
  exact hk

theorem keepsReturned_update {f : Payment -> Payment}
    (hstatus : forall p, (f p).status.isReturning = false)
    (hpayments : db'.payments = db.payments.update i f)
    (hpayouts : PayoutsFor i db.payouts db'.payouts) :
    KeepsReturned db db' := by
  intro j q hq hreturning
  have hj : j ≠ i := by
    intro hj
    rw [hpayments, hj, Table.findUnique_update_self] at hq
    obtain ⟨p, -, rfl⟩ := Option.map_eq_some_iff.mp hq
    rw [hstatus p] at hreturning
    cases hreturning
  refine ⟨(findUnique_payments_other hpayments hj).symm.trans hq, ?_⟩
  intro k payout hk howner
  rcases hpayouts k payout hk with hbefore | hnew
  · exact hbefore
  · exact absurd (howner.symm.trans hnew) hj

theorem ReturnedWithoutRelease.tail {db'' : Db} (h : ReturnedWithoutRelease db db')
    (hkeeps : KeepsReturned db' db'') :
    ReturnedWithoutRelease db db'' := by
  intro i q k payout hq hreturning hk howner
  obtain ⟨hq', hsame⟩ := hkeeps i q hq hreturning
  exact h i q k payout hq' hreturning (hsame k payout hk howner) howner

theorem KeepsReturned.release (h : ReturnedWithoutPayout db) (hkeeps : KeepsReturned db db') :
    ReturnedWithoutRelease db db' :=
  (ReturnedWithoutRelease.of_eq h rfl rfl).tail hkeeps

theorem reconcileInventory_keepsReturned
    (hok : reconcileInventory env args db = .ok db') :
    KeepsReturned db db' := by
  obtain ⟨p, payments, events, issues, -, rfl | ⟨-, rfl⟩, rfl⟩ := reconcileInventory_eq_ok hok
  · exact .of_eq rfl rfl
  · exact keepsReturned_update (fun _ => rfl) rfl (.refl _ _)

theorem finalizeInstallmentPlan_keepsReturned {parentPaymentId : Id}
    (hok : finalizeInstallmentPlan env parentPaymentId db = .ok db') :
    KeepsReturned db db' := by
  unfold finalizeInstallmentPlan at hok
  split at hok
  · obtain rfl := Except.ok.inj hok
    exact .of_eq rfl rfl
  · next parent hparent =>
      split at hok
      · obtain rfl := Except.ok.inj hok
        exact .of_eq rfl rfl
      · split at hok
        · obtain rfl := Except.ok.inj hok
          exact .of_eq rfl rfl
        · split at hok
          · have hp : db.payments.findUnique (planNotice parentPaymentId parent).paymentId =
                some parent := hparent
            cases settlePaymentCore_pays hp hok with
            | kept hpayments hpayouts =>
                exact .of_eq hpayments hpayouts
            | flagged hpayments hpayouts =>
                refine keepsReturned_update (fun _ => rfl) hpayments ?_
                rw [hpayouts]
                exact .refl _ _
            | written _ hpayments hpayouts =>
                refine keepsReturned_update (fun _ => rfl) hpayments ?_
                rw [hpayouts]
                exact .refl _ _
            | received _ hpayments hpayouts =>
                exact keepsReturned_update (fun _ => rfl) hpayments hpayouts
          · obtain rfl := Except.ok.inj hok
            exact .of_eq rfl rfl

theorem ReturnedWithoutPayout.settleOrReconcile (h : ReturnedWithoutPayout db)
    (hreturns : ReturnsWithoutPayout db args)
    (hok : MarketBridge.settleOrReconcile env args db = .ok db') :
    ReturnedWithoutRelease db db' := by
  unfold MarketBridge.settleOrReconcile at hok
  split at hok
  · next hsettle =>
      obtain rfl := Except.ok.inj hok
      exact h.settlePaymentCore hreturns hsettle
  · split at hok
    · split at hok
      · next hreconcile =>
          obtain rfl := Except.ok.inj hok
          exact (reconcileInventory_keepsReturned hreconcile).release h
      · cases hok
    · cases hok

theorem ReturnedWithoutPayout.settlePayment (h : ReturnedWithoutPayout db)
    (hreturns : ReturnsWithoutPayout db args)
    (hok : MarketBridge.settlePayment env args db = .ok db') :
    ReturnedWithoutRelease db db' := by
  have hbidders : forall paymentId settled, ReturnedWithoutRelease db settled ->
      ReturnedWithoutRelease db (releaseBiddersAfter paymentId settled) := by
    intro paymentId settled hsettled
    obtain ⟨offers, hframe⟩ := releaseBiddersAfter_frame paymentId settled
    rw [hframe]
    exact hsettled.tail (.of_eq rfl rfl)
  unfold MarketBridge.settlePayment at hok
  rw [bind_eq_ok] at hok
  obtain ⟨settled, hsettle, hrest⟩ := hok
  have hsettled := h.settleOrReconcile hreturns hsettle
  split at hrest
  · obtain rfl := Except.ok.inj hrest
    exact hbidders _ _ hsettled
  · next parentPaymentId _ =>
      obtain rfl := Except.ok.inj hrest
      apply hbidders
      exact commit_preserves (P := ReturnedWithoutRelease db) hsettled fun _ hfinal =>
        hsettled.tail (finalizeInstallmentPlan_keepsReturned hfinal)

/-! ## Runs -/

/-- What a step has to meet for the payouts of returned money to be closed. -/
def MarketStep.ClosesPayouts (db : Db) (a : Env × MarketStep) : Prop :=
  match a.2 with
  | .refund call => forall i p, call.Starts db i -> db.payments.findUnique i = some p ->
      p.status = .paid -> NoOpenPayout db i
  | .settlePayment args => ReturnsWithoutPayout db args
  | .cancelOrder load orderId _ _ _ => forall record, loadOrder load db orderId = some record ->
      CancelsPayouts record db
  | .resolveDispute _ disputeId .cancelOrder _ => forall dispute record,
      db.disputes.findUnique disputeId = some dispute ->
      includeOrder db dispute.orderId = some record -> CancelsPayouts record db
  | _ => True

theorem MovesPayment.refundEdge {s s' : PaymentStatus} (h : MovesPayment db (.refund call) i s s') :
    RefundEdge db call i s s' := by
  cases h with
  | refund _ _ _ _ hedge =>
      exact hedge

theorem MovesPayment.refund_of_returning {a : MarketStep} {p' : Payment}
    (hcalls : forall record, ¬ CancelsOrder db a record)
    (hmoved : Moved (MovesPayment db a) i p p') (hafter : p'.status.isReturning = true)
    (hbefore : p.status.isReturning = false) :
    exists call, a = .refund call := by
  obtain ⟨-, hpath⟩ := hmoved
  generalize p'.status = target at hpath hafter
  rcases Relation.ReflTransGen.cases_tail hpath with hsame | ⟨s, -, hedge⟩
  · rw [hsame, hbefore] at hafter
    cases hafter
  · cases hedge with
    | started =>
        cases hafter
    | abandoned =>
        cases hafter
    | refund call =>
        exact ⟨call, rfl⟩
    | cancelled load orderId actorId reason role record _ _ _ hload =>
        exact absurd (.cancelled load orderId actorId reason role record hload) (hcalls record)
    | resolved adminId disputeId resolution dispute record _ _ _ hdispute hload =>
        exact absurd (.resolved adminId disputeId resolution dispute record hdispute hload)
          (hcalls record)

theorem ReturnedWithoutPayout.step {a : Env × MarketStep} (h : ReturnedWithoutPayout db)
    (hcloses : MarketStep.ClosesPayouts db a) :
    ReturnedWithoutRelease db (MarketStep.step db a) := by
  obtain ⟨env, a⟩ := a
  have heffect := MarketStep.money env db a
  generalize MarketStep.step db (env, a) = db' at heffect
  cases heffect with
  | kept _ _ hkept =>
      exact .of_kept h hkept
  | created payment =>
      apply ReturnedWithoutRelease.of_same
      · intro i p hp hreturning
        change (db.payments.create payment.asCreated).findUnique i = some p at hp
        rw [Table.findUnique_create] at hp
        split at hp
        · rw [← Option.some.inj hp] at hreturning
          cases hreturning
        · exact h i p hp hreturning
      · intro i p k payout _ _ hk _
        exact hk
  | moved _ _ hpayments _ hpayouts hcalls =>
      apply ReturnedWithoutRelease.of_same
      · intro i p' hp' hreturning
        obtain ⟨p, hp, hmoved⟩ := Table.Rel.of_right hpayments hp'
        by_cases hbefore : p.status.isReturning = true
        · exact h i p hp hbefore
        · rw [Bool.not_eq_true] at hbefore
          obtain ⟨call, rfl⟩ := MovesPayment.refund_of_returning hcalls hmoved hreturning hbefore
          obtain ⟨hpaid, hstarts⟩ := RefundCall.starts_of_returning
            (hmoved.mono fun _ _ => MovesPayment.refundEdge) hreturning hbefore
          exact hcloses i p hstarts hp hpaid
      · intro i p k payout _ _ hk _
        rw [hpayouts] at hk
        exact hk
  | cancelled _ record _ hcancels hcancelled =>
      cases hcancels with
      | cancelled load orderId actorId reason role _ hload =>
          exact MoneyCancelled.returned h (hcloses record hload) hcancelled
      | resolved adminId disputeId resolution dispute _ hdispute hload =>
          exact MoneyCancelled.returned h (hcloses dispute record hdispute hload) hcancelled
  | settled args _ hok =>
      exact h.settlePayment hcloses hok
  | elsewhere other _ hpayments hledger hpayouts =>
      exact .of_eq h hpayments hpayouts

/--
In a run whose steps meet the condition, the payouts of returned money are always
`CANCELLED`, or `PAID_OUT` since before the step that returned it.
-/
theorem returned_money_not_released {as : List (Env × MarketStep)}
    (hstart : ReturnedWithoutPayout db)
    (hmeets : RunMeets MarketStep.step MarketStep.ClosesPayouts db as) :
    ReturnedWithoutPayout (run MarketStep.step db as) ∧
      RunMeets MarketStep.step (fun db a => ReturnedWithoutRelease db (MarketStep.step db a))
        db as := by
  have hstep : forall db a, ReturnedWithoutPayout db -> MarketStep.ClosesPayouts db a ->
      ReturnedWithoutPayout (MarketStep.step db a) :=
    fun _ _ hdb hcloses => (hdb.step hcloses).closed
  refine ⟨run_invariant hstep hstart hmeets, ?_⟩
  exact RunMeets.imp_of_invariant ReturnedWithoutPayout hstep
    (fun _ _ hdb hcloses => hdb.step hcloses) hstart hmeets

end Steps

/-! ## An inspection paid, refunded and paid out -/

section RefundedInspection

def orderedInspection : Payment :=
  { orderId := some 0
    inspectionRequestId := some 0
    type := .inspector
    amount := 100
    status := .processing
    provider := some "CHAPA"
    chapaTxRef := some "tx-1" }

def orderedInspectionDb : Db :=
  { listings := Table.empty.create
      { sellerId := 2
        quantity := 10
        availableQuantity := 10
        askingPrice := 100 }
    orders := Table.empty.create
      { listingId := 0
        buyerId := 1
        sellerId := 2
        finalPrice := 100
        quantity := 1
        status := .pendingPayment }
    inspectionRequests := Table.empty.create
      { orderId := some 0
        inspectorId := some 3
        status := .requested }
    payments := Table.empty.create orderedInspection }

def inspectionNotice (status : PaymentStatus) (eventId : String) : MarketStep :=
  .settlePayment
    { paymentId := 0
      status := status
      eventId := some eventId
      amount := some (.finite 100) }

/-- The fee is paid, the order is cancelled, and the refund of the fee is completed. -/
def inspectionCancelled : List (Env × MarketStep) :=
  [(env0, inspectionNotice .paid "paid-1"),
    (env0, .cancelOrder .included 0 (some 9) none .admin),
    (env0, .refund (.process 0
      { submission := .ok (some "refund-1")
        verification := .ok "refunded" }))]

theorem orderedInspectionDb_returnedWithoutPayout :
    ReturnedWithoutPayout orderedInspectionDb := by
  intro i p _ _ k payout hk
  have hnone : orderedInspectionDb.payouts.findUnique k = none := Table.findUnique_empty k
  rw [hnone] at hk
  cases hk

theorem inspectionCancelled_closed :
    ReturnedWithoutPayout (run MarketStep.step orderedInspectionDb inspectionCancelled) := by
  refine (@returned_money_not_released _ inspectionCancelled
    orderedInspectionDb_returnedWithoutPayout ⟨?_, ?_, ?_, trivial⟩).1
  · intro p _ _ hreturning
    cases hreturning
  · generalize hdb : MarketStep.step orderedInspectionDb
      (env0, inspectionNotice .paid "paid-1") = db
    intro record hload i p k payout _ _ _ hk _ _
    have hsize : db.payouts.size = 1 := by
      rw [← hdb]
      decide +kernel
    have hhold : (db.payouts.findUnique k).all (fun payout =>
        selectsForOrderCancel db 0 (earnedInspections db 0) payout) = true := by
      have hk₁ := Table.lt_size_of_findUnique hk
      rw [hsize] at hk₁
      obtain rfl : k = 0 := Nat.lt_one_iff.mp hk₁
      rw [← hdb]
      decide +kernel
    obtain ⟨_, hloaded⟩ := loadOrder_eq_some hload
    rw [hloaded.id]
    rw [hk] at hhold
    exact hhold
  · intro i p hstarts
    cases hstarts

/-- The fee is paid and reported as refunded; the report is accepted and paid for. -/
def inspectionPaidOut : List (Env × MarketStep) :=
  [(env0, inspectionNotice .paid "paid-1"),
    (env0, inspectionNotice .refunded "refunded-1"),
    (env0, .payout (.releaseInspectorPayoutsForRequest 5 0)),
    (env0, .payout (.markPaidOut 0 9 none))]

/-- The refunded fee is paid out to the inspector after its refund. -/
theorem inspectionPaidOut_released :
    ReturnedWithoutPayout orderedInspectionDb ∧
      ¬ RunMeets MarketStep.step
        (fun db a => ReturnedWithoutRelease db (MarketStep.step db a))
        orderedInspectionDb inspectionPaidOut := by
  refine ⟨orderedInspectionDb_returnedWithoutPayout, ?_⟩
  rintro ⟨-, -, -, hlast, -⟩
  generalize hdb' : MarketStep.step _ (env0, .payout (.markPaidOut 0 9 none)) = db' at hlast
  generalize hdb : MarketStep.step _ (env0, .payout (.releaseInspectorPayoutsForRequest 5 0)) = db
    at hdb' hlast
  have hpayment : db'.payments.findUnique 0 =
      some { orderedInspection with status := .refunded } := by
    rw [← hdb', ← hdb]
    decide +kernel
  have hbefore : (db.payouts.findUnique 0).map (·.status) = some .released := by
    rw [← hdb]
    decide +kernel
  have hafter : (db'.payouts.findUnique 0).map (fun payout => (payout.status, payout.paymentId)) =
      some (.paidOut, 0) := by
    rw [← hdb', ← hdb]
    decide +kernel
  obtain ⟨payout, hpayout, hwritten⟩ := Option.map_eq_some_iff.mp hafter
  rw [Prod.mk.injEq] at hwritten
  rcases hlast 0 _ 0 payout hpayment rfl hpayout hwritten.2 with hcancelled | ⟨hpaidOut, hsame⟩
  · rw [hcancelled] at hwritten
    cases hwritten.1
  · rw [hsame, Option.map_some, Option.some.injEq, hpaidOut] at hbefore
    cases hbefore

end RefundedInspection

end MarketBridge
