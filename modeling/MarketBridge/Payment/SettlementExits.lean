import MarketBridge.Payment.SettlementEffects

/-!
# The exits of a settlement

Every committed settlement leaves through one of four exits: the notification
is flagged, it is a replay, a guard ignores it, or it is written together with
its business effects.
-/

namespace MarketBridge

open Relational

/-! ## Tables that no business effect writes -/

structure EffectsFrame (db db' : Db) : Prop where
  payments : db'.payments = db.payments
  refunds : db'.refunds = db.refunds
  paymentEvents : db'.paymentEvents = db.paymentEvents
  obligations : db'.obligations = db.obligations
  disputes : db'.disputes = db.disputes

theorem EffectsFrame.refl (db : Db) : EffectsFrame db db :=
  ⟨rfl, rfl, rfl, rfl, rfl⟩

variable {db db' written : Db} {env : Env} {r : PaymentRecord} {args : SettleArgs} {p : Payment}

theorem EffectsFrame.trans {db'' : Db} (h : EffectsFrame db db') (h' : EffectsFrame db' db'') :
    EffectsFrame db db'' :=
  ⟨h'.payments.trans h.payments, h'.refunds.trans h.refunds,
    h'.paymentEvents.trans h.paymentEvents, h'.obligations.trans h.obligations,
    h'.disputes.trans h.disputes⟩

theorem recordPaid_effectsFrame (env : Env) (r : PaymentRecord) (db : Db) :
    EffectsFrame db (recordPaid env r db) := by
  obtain ⟨payouts, purchases, ads, entries, _, h⟩ := recordPaid_frame env r db
  rw [h]
  exact ⟨rfl, rfl, rfl, rfl, rfl⟩

theorem withIssue_effectsFrame (env : Env) (data : ReconciliationData) (db : Db) :
    EffectsFrame db (withIssue env data db) := by
  obtain ⟨events, h⟩ := withIssue_frame env data db
  rw [h]
  exact ⟨rfl, rfl, rfl, rfl, rfl⟩

theorem PaidEffects.frame (h : PaidEffects env r db db') :
    EffectsFrame db db' := by
  cases h with
  | underDispute data =>
      obtain ⟨entries, hentries⟩ := writeLedgerPaid_frame r db
      rw [hentries]
      refine EffectsFrame.trans ?_ (withIssue_effectsFrame env data _)
      exact ⟨rfl, rfl, rfl, rfl, rfl⟩
  | confirmed orderId order committed listings offers payouts =>
      refine EffectsFrame.trans ?_ (recordPaid_effectsFrame env r _)
      exact ⟨rfl, rfl, rfl, rfl, rfl⟩
  | afterCancellation order data =>
      exact (withIssue_effectsFrame env data db).trans (recordPaid_effectsFrame env r _)
  | transportAccepted jobId truckId quoteId job quote trucks =>
      refine EffectsFrame.trans ?_ (recordPaid_effectsFrame env r _)
      exact ⟨rfl, rfl, rfl, rfl, rfl⟩
  | inspectionAccepted requestId inspectorId request =>
      refine EffectsFrame.trans ?_ (recordPaid_effectsFrame env r _)
      exact ⟨rfl, rfl, rfl, rfl, rfl⟩
  | recorded =>
      exact recordPaid_effectsFrame env r db

theorem applyRefunded_frame (r : PaymentRecord) (db : Db) :
    exists purchases entries, applyRefunded r db =
      { db with digitalPurchases := purchases, ledgerEntries := entries } := by
  unfold applyRefunded writeLedgerRefunded
  obtain ⟨purchases, hpurchases⟩ := setPurchaseStatus_frame r .refunded db
  rw [hpurchases]
  obtain ⟨entries, hentries⟩ := createLedgerEntryOnce_frame
    { paymentId := r.id
      type := .refund
      amount := -r.row.amount
      currency := r.row.currency }
    { db with digitalPurchases := purchases }
  exact ⟨purchases, entries, hentries⟩

theorem applyEffects_cases (h : applyEffects env args r db = .ok db') :
    (args.status = .paid ∧ PaidEffects env r db db') ∨
      (args.status = .refunded ∧ db' = applyRefunded r db) ∨
      (args.status ≠ .paid ∧ args.status ≠ .refunded ∧ db' = db) := by
  unfold applyEffects at h
  cases hstatus : args.status <;> simp only [hstatus, Except.ok.injEq] at h
  case paid =>
    exact Or.inl ⟨rfl, applyPaid_effects h⟩
  case refunded =>
    exact Or.inr (Or.inl ⟨rfl, h.symm⟩)
  all_goals
    exact Or.inr (Or.inr ⟨by simp, by simp, h.symm⟩)

theorem applyEffects_frame (h : applyEffects env args r db = .ok db') :
    EffectsFrame db db' := by
  rcases applyEffects_cases h with ⟨_, hpaid⟩ | ⟨_, rfl⟩ | ⟨_, _, rfl⟩
  · exact hpaid.frame
  · obtain ⟨purchases, entries, hframe⟩ := applyRefunded_frame r db
    rw [hframe]
    exact ⟨rfl, rfl, rfl, rfl, rfl⟩
  · exact .refl _

/-! ## Exits -/

def flagCommits (args : SettleArgs) (db : Db) (p : Payment) : Bool :=
  storableAmount args.amount &&
    (!canTransition p.status .reconciliationRequired ||
      !paymentConflict db args.paymentId (p.flagged args))

def flaggedDb (env : Env) (args : SettleArgs) (db : Db) (p : Payment)
    (reason : ReconciliationReason) : Db :=
  let db' := withIssue env (issueData (paymentRecord db args.paymentId p) args reason) db
  if canTransition p.status .reconciliationRequired then
    { db' with payments := db.payments.update args.paymentId (·.flagged args) }
  else
    db'

def settlementWrites (args : SettleArgs) (db : Db) (p : Payment) : Bool :=
  mismatchReason p args = none && eventIsNew args db &&
    !ignoresNotification p.status args.status &&
    !paymentConflict db args.paymentId (p.settled args) &&
    (args.status ≠ .paid ||
      paidCommittable args (paymentRecord db args.paymentId p) db)

/-- The database between the payment write and the business effects. -/
structure WrittenDb (args : SettleArgs) (db : Db) (p : Payment) (written : Db) :
    Prop where
  shape : exists events, written = { db with
    paymentEvents :=
      (withEvent args (paymentRecord db args.paymentId p) db).paymentEvents
    payments := db.payments.update args.paymentId (·.afterSettlement args)
    obligations := settledObligations args p db
    orderEvents := events }

inductive SettlementExit (env : Env) (args : SettleArgs) (db : Db) (p : Payment) :
    Db -> Prop where
  | flagged (reason : ReconciliationReason)
      (hreason : mismatchReason p args = some reason)
      (hcommits : flagCommits args db p = true) :
      SettlementExit env args db p (flaggedDb env args db p reason)
  | replayed (hmismatch : mismatchReason p args = none)
      (hseen : eventIsNew args db = false) :
      SettlementExit env args db p db
  | ignored (hmismatch : mismatchReason p args = none)
      (hnew : eventIsNew args db = true)
      (hignored : ignoresNotification p.status args.status = true) :
      SettlementExit env args db p
        (withEvent args (paymentRecord db args.paymentId p) db)
  | written (written db' : Db)
      (hwrites : settlementWrites args db p = true)
      (hwritten : WrittenDb args db p written)
      (heffects : applyEffects env args (paymentRecord db args.paymentId p) written =
        .ok db') :
      SettlementExit env args db p db'

theorem flagMismatch_eq_ok_iff {reason : ReconciliationReason}
    (hp : db.payments.findUnique args.paymentId = some p) :
    flagMismatch env args (paymentRecord db args.paymentId p) reason db = .ok db' ↔
      flagCommits args db p = true ∧ db' = flaggedDb env args db p reason := by
  unfold flagMismatch createReconciliationIssue flagCommits flaggedDb
  have hdata : (issueData (paymentRecord db args.paymentId p) args reason).observedAmount =
      args.amount := rfl
  rw [hdata]
  cases hstorable : storableAmount args.amount with
  | false =>
      simp
  | true =>
      have hpayments := withIssue_payments env
        (issueData (paymentRecord db args.paymentId p) args reason) db
      by_cases hcan : canTransition p.status .reconciliationRequired = true
      · simp only [if_true, ok_bind, paymentRecord, hcan, updatePayment_eq_ok_iff,
          Bool.true_and, Bool.not_true, Bool.false_or, Bool.not_eq_true']
        rw [← paymentRecord, hpayments]
        constructor
        · rintro ⟨q, hq, hconflict, rfl⟩
          obtain rfl : p = q := by simpa [hp] using hq
          rw [paymentConflict_congr hpayments] at hconflict
          exact ⟨hconflict, rfl⟩
        · rintro ⟨hconflict, rfl⟩
          rw [← paymentConflict_congr hpayments] at hconflict
          exact ⟨p, hp, hconflict, rfl⟩
      · simp only [if_true, ok_bind, paymentRecord, hcan]
        simp [eq_comm]

theorem paidCommittable_written (hwritten : WrittenDb args db p written) (r : PaymentRecord) :
    paidCommittable args r written = paidCommittable args r db := by
  obtain ⟨events, rfl⟩ := hwritten.shape
  rfl

theorem record_current (db : Db) (id : Id) (p : Payment) :
    (paymentRecord db id p).order = related db.orders (paymentRecord db id p).row.orderId :=
  rfl

theorem record_current_written (hwritten : WrittenDb args db p written) (id : Id) :
    (paymentRecord db id p).order =
      related written.orders (paymentRecord db id p).row.orderId := by
  obtain ⟨events, rfl⟩ := hwritten.shape
  rfl

theorem writtenDb_of_writeSettlement
    {env : Env} {args : SettleArgs} {db written : Db} {p : Payment}
    (hp : db.payments.findUnique args.paymentId = some p)
    (h : writeSettlement env args (paymentRecord db args.paymentId p)
      (withEvent args (paymentRecord db args.paymentId p) db) = .ok written) :
    paymentConflict db args.paymentId (p.settled args) = false ∧
      WrittenDb args db p written := by
  obtain ⟨events, hevents⟩ := withEvent_frame args (paymentRecord db args.paymentId p) db
  have hp' : (withEvent args (paymentRecord db args.paymentId p) db).payments.findUnique
      args.paymentId = some p := by
    rw [hevents]
    exact hp
  obtain ⟨hconflict, orderEvents, rfl⟩ := writeSettlement_eq_ok hp' h
  have hsame : (withEvent args (paymentRecord db args.paymentId p) db).payments =
      db.payments := by
    rw [hevents]
  constructor
  · rw [paymentConflict_congr hsame] at hconflict
    exact hconflict
  · refine ⟨orderEvents, ?_⟩
    rw [hevents]
    rfl

theorem settlePaymentCore_exit (hp : db.payments.findUnique args.paymentId = some p)
    (h : settlePaymentCore env args db = .ok db') :
    SettlementExit env args db p db' := by
  unfold settlePaymentCore at h
  simp only [hp] at h
  cases hmismatch : mismatchReason p args with
  | some reason =>
      simp only [hmismatch] at h
      obtain ⟨hcommits, rfl⟩ := (flagMismatch_eq_ok_iff hp).mp h
      exact .flagged reason hmismatch hcommits
  | none =>
      simp only [hmismatch] at h
      rw [bind_eq_ok] at h
      obtain ⟨registered, hregister, h⟩ := h
      cases registered with
      | none =>
          obtain rfl : db = db' := by simpa using h
          rcases registerEvent_cases args (paymentRecord db args.paymentId p) db with
            ⟨_, heq⟩ | ⟨hseen, _⟩ | ⟨_, heq⟩
          · simp [heq] at hregister
          · exact .replayed hmismatch hseen
          · simp [heq] at hregister
      | some registered =>
          obtain ⟨hnew, rfl⟩ := registerEvent_eq_some hregister
          unfold processNotification at h
          cases hignored : ignoresNotification p.status args.status with
          | true =>
              simp only [paymentRecord, hignored, if_true, Except.ok.injEq] at h
              subst h
              exact .ignored hmismatch hnew hignored
          | false =>
              simp only [paymentRecord, hignored, Bool.false_eq_true, if_false] at h
              rw [← paymentRecord, bind_eq_ok] at h
              obtain ⟨written, hwrite, heffects⟩ := h
              obtain ⟨hconflict, hwritten⟩ := writtenDb_of_writeSettlement hp hwrite
              refine .written written db' ?_ hwritten heffects
              unfold settlementWrites
              simp only [hmismatch, hnew, hignored, hconflict, decide_true,
                Bool.not_false, Bool.and_self, Bool.true_and, Bool.or_eq_true,
                decide_eq_true_eq]
              by_cases hpaid : args.status = .paid
              · right
                rw [← paidCommittable_written hwritten]
                simp only [applyEffects, hpaid] at heffects
                exact (applyPaid_isOk_iff (record_current_written hwritten _)).mp
                  ⟨db', heffects⟩
              · exact Or.inl hpaid

/-- The written exit is taken whenever `settlementWrites` holds. -/
theorem settlePaymentCore_of_writes (env : Env)
    (hp : db.payments.findUnique args.paymentId = some p)
    (hwrites : settlementWrites args db p = true) :
    exists written db', WrittenDb args db p written ∧
      applyEffects env args (paymentRecord db args.paymentId p) written = .ok db' ∧
      settlePaymentCore env args db = .ok db' := by
  unfold settlementWrites at hwrites
  simp only [Bool.and_eq_true, Bool.or_eq_true, decide_eq_true_eq, Bool.not_eq_true']
    at hwrites
  obtain ⟨⟨⟨⟨hmismatch, hnew⟩, hignored⟩, hconflict⟩, heffects⟩ := hwrites
  obtain ⟨events, hevents⟩ := withEvent_frame args (paymentRecord db args.paymentId p) db
  have hwrite : exists written,
      writeSettlement env args (paymentRecord db args.paymentId p)
        (withEvent args (paymentRecord db args.paymentId p) db) = .ok written := by
    apply (writeSettlement_isOk_iff _).mpr
    · have hsame : (withEvent args (paymentRecord db args.paymentId p) db).payments =
          db.payments := by
        rw [hevents]
      rw [paymentConflict_congr hsame]
      exact hconflict
    · rw [hevents]
      exact hp
  obtain ⟨written, hwrite⟩ := hwrite
  obtain ⟨_, hwritten⟩ := writtenDb_of_writeSettlement hp hwrite
  have heffects' : exists db',
      applyEffects env args (paymentRecord db args.paymentId p) written = .ok db' := by
    unfold applyEffects
    cases hstatus : args.status
    case paid =>
      apply (applyPaid_isOk_iff (record_current_written hwritten _)).mpr
      rw [paidCommittable_written hwritten]
      simpa [hstatus] using heffects
    all_goals
      exact ⟨_, rfl⟩
  obtain ⟨db', heffects'⟩ := heffects'
  refine ⟨written, db', hwritten, heffects', ?_⟩
  have hregister : registerEvent args (paymentRecord db args.paymentId p) db =
      .ok (some (withEvent args (paymentRecord db args.paymentId p) db)) := by
    rcases registerEvent_cases args (paymentRecord db args.paymentId p) db with
      ⟨_, heq⟩ | ⟨hseen, _⟩ | ⟨hseen, _⟩
    · exact heq
    · simp [hnew] at hseen
    · simp [hnew] at hseen
  unfold settlePaymentCore
  simp only [hp, hmismatch, hregister, ok_bind]
  unfold processNotification
  simp only [paymentRecord, hignored, Bool.false_eq_true, if_false]
  rw [← paymentRecord, hwrite, ok_bind]
  exact heffects'

/-! ## The payment table -/

/-- The only payment a settlement writes is the notified one, in one of two ways. -/
theorem settlePaymentCore_payments (env : Env)
    (hp : db.payments.findUnique args.paymentId = some p) :
    (settlementWrites args db p = true ∧
        (commit (settlePaymentCore env args db) db).payments =
          db.payments.update args.paymentId (·.afterSettlement args)) ∨
      (settlementWrites args db p = false ∧
        (commit (settlePaymentCore env args db) db).payments = db.payments) ∨
      (settlementWrites args db p = false ∧ mismatchReason p args ≠ none ∧
        canTransition p.status .reconciliationRequired = true ∧
        (commit (settlePaymentCore env args db) db).payments =
          db.payments.update args.paymentId (·.flagged args)) := by
  cases hwrites : settlementWrites args db p with
  | true =>
      obtain ⟨written, db', hwritten, heffects, hsettle⟩ :=
        settlePaymentCore_of_writes env hp hwrites
      left
      refine ⟨rfl, ?_⟩
      rw [hsettle, commit_ok, (applyEffects_frame heffects).payments]
      obtain ⟨events, rfl⟩ := hwritten.shape
      rfl
  | false =>
      right
      cases hsettle : settlePaymentCore env args db with
      | error e =>
          exact Or.inl ⟨rfl, rfl⟩
      | ok db' =>
          rw [commit_ok]
          cases settlePaymentCore_exit hp hsettle with
          | flagged reason hreason hcommits =>
              unfold flaggedDb
              by_cases hcan : canTransition p.status .reconciliationRequired = true
              · right
                exact ⟨rfl, by simp [hreason], hcan, by simp [hcan]⟩
              · left
                exact ⟨rfl, by simp [hcan]⟩
          | replayed =>
              exact Or.inl ⟨rfl, rfl⟩
          | ignored =>
              obtain ⟨events, hevents⟩ :=
                withEvent_frame args (paymentRecord db args.paymentId p) db
              rw [hevents]
              exact Or.inl ⟨rfl, rfl⟩
          | written written db' hwrites' =>
              simp [hwrites] at hwrites'

theorem commit_settlePaymentCore_of_not_found (env : Env)
    (hp : db.payments.findUnique args.paymentId = none) :
    commit (settlePaymentCore env args db) db = db := by
  simp [settlePaymentCore, hp]

end MarketBridge
