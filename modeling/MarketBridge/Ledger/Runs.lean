import MarketBridge.Ledger.Booking
import MarketBridge.Market.Money

/-!
# Refunds in the ledger

A settlement with `REFUNDED` books the refund that it reports.  The completion of
a refund sets the same status without an entry, so the ledger reflects the
refunds of a run as long as no refund is completed that way.
-/

namespace MarketBridge

open Relational

/-! ## What a settlement books -/

def settlementEntries (args : SettleArgs) (r : PaymentRecord) : List PaymentLedgerEntry :=
  match args.status with
  | .paid => paidLedgerEntries r
  | .refunded => [refundEntry r]
  | _ => []

theorem recordPaid_ledger (env : Env) (r : PaymentRecord) (db : Db) :
    (recordPaid env r db).ledgerEntries =
      Table.createEachOnce entryKey db.ledgerEntries (paidLedgerEntries r) := by
  obtain ⟨payouts, -, hholds⟩ := holdServicePayout_frame env r db
  unfold recordPaid
  rw [writeLedgerPaid_ledger, hholds]
  obtain ⟨purchases, hpurchases⟩ := completePurchase_frame r { db with payouts := payouts }
  rw [hpurchases]
  obtain ⟨ads, hads⟩ := payAdvertisement_frame env r
    { db with payouts := payouts, digitalPurchases := purchases }
  rw [hads]

theorem PaidEffects.ledger {env : Env} {r : PaymentRecord} {db db' : Db}
    (h : PaidEffects env r db db') :
    db'.ledgerEntries = Table.createEachOnce entryKey db.ledgerEntries (paidLedgerEntries r) := by
  cases h with
  | underDispute data =>
      obtain ⟨events, hissue⟩ := withIssue_frame env data (writeLedgerPaid r db)
      rw [hissue]
      exact writeLedgerPaid_ledger r db
  | confirmed orderId order committed listings offers payouts =>
      exact recordPaid_ledger env r _
  | afterCancellation order data =>
      obtain ⟨events, hissue⟩ := withIssue_frame env data db
      rw [recordPaid_ledger, hissue]
  | transportAccepted jobId truckId quoteId job quote trucks =>
      exact recordPaid_ledger env r _
  | inspectionAccepted requestId inspectorId request =>
      exact recordPaid_ledger env r _
  | recorded =>
      exact recordPaid_ledger env r db

theorem applyRefunded_ledger (r : PaymentRecord) (db : Db) :
    (applyRefunded r db).ledgerEntries =
      Table.createEachOnce entryKey db.ledgerEntries [refundEntry r] := by
  obtain ⟨purchases, hpurchases⟩ := setPurchaseStatus_frame r .refunded db
  unfold applyRefunded
  rw [writeLedgerRefunded_ledger, hpurchases]

/-- What a settlement does to the payments and to the ledger. -/
inductive SettlementBooks (args : SettleArgs) (db : Db) (p : Payment) (db' : Db) : Prop where
  | kept (hpayments : db'.payments = db.payments)
      (hledger : db'.ledgerEntries = db.ledgerEntries)
  | flagged (hcan : canTransition p.status .reconciliationRequired = true)
      (hpayments : db'.payments = db.payments.update args.paymentId (·.flagged args))
      (hledger : db'.ledgerEntries = db.ledgerEntries)
  | written (hwrites : settlementWrites args db p = true)
      (hpayments : db'.payments = db.payments.update args.paymentId (·.afterSettlement args))
      (hledger : db'.ledgerEntries = Table.createEachOnce entryKey db.ledgerEntries
        (settlementEntries args (paymentRecord db args.paymentId p)))

theorem settlePaymentCore_books {env : Env} {args : SettleArgs} {db db' : Db} {p : Payment}
    (hp : db.payments.findUnique args.paymentId = some p)
    (h : settlePaymentCore env args db = .ok db') :
    SettlementBooks args db p db' := by
  cases settlePaymentCore_exit hp h with
  | flagged reason =>
      obtain ⟨events, hissue⟩ := withIssue_frame env
        (issueData (paymentRecord db args.paymentId p) args reason) db
      unfold flaggedDb
      rw [hissue]
      dsimp only
      split
      · next hcan =>
          exact .flagged hcan rfl rfl
      · exact .kept rfl rfl
  | replayed =>
      exact .kept rfl rfl
  | ignored =>
      obtain ⟨events, hevents⟩ := withEvent_frame args (paymentRecord db args.paymentId p) db
      rw [hevents]
      exact .kept rfl rfl
  | written written _ hwrites hwritten heffects =>
      have hpayments := (applyEffects_frame heffects).payments
      obtain ⟨events, rfl⟩ := hwritten.shape
      refine .written hwrites hpayments ?_
      unfold settlementEntries
      rcases applyEffects_cases heffects with ⟨hstatus, hpaid⟩ | ⟨hstatus, rfl⟩ |
        ⟨hnot, hnot', rfl⟩
      · rw [hstatus]
        exact hpaid.ledger
      · rw [hstatus]
        exact applyRefunded_ledger _ _
      · cases hstatus : args.status with
        | paid =>
            exact absurd hstatus hnot
        | refunded =>
            exact absurd hstatus hnot'
        | pending =>
            rfl
        | processing =>
            rfl
        | failed =>
            rfl
        | refundPending =>
            rfl
        | reconciliationRequired =>
            rfl

/-! ## When a settlement keeps the ledger sound -/

/-- The receipt of the payment is booked, and its plan is not refunded on the other level. -/
structure RefundBalances (db : Db) (i : Id) (p : Payment) : Prop where
  booked : p.parentPaymentId = none ->
    exists k e, db.ledgerEntries.findUnique k = some e ∧ e.paymentId = i ∧ e.type ≠ .refund
  children : p.parentPaymentId = none -> forall j c, db.payments.findUnique j = some c ->
    c.parentPaymentId = some i -> c.status ≠ .refunded
  parent : forall k q, db.payments.findUnique k = some q -> p.parentPaymentId = some k ->
    q.status ≠ .refunded

/-- A received digital payment has its product, and a new refund is balanced. -/
def SettlesIntoLedger (db : Db) (args : SettleArgs) : Prop :=
  forall p, db.payments.findUnique args.paymentId = some p ->
    settlementWrites args db p = true ->
    (args.status = .paid -> p.type = .digital ->
      (related db.digitalProducts p.digitalProductId).isSome = true) ∧
    (args.status = .refunded -> p.status ≠ .refunded -> RefundBalances db args.paymentId p)

abbrev LedgerIsSound (db : Db) : Prop :=
  LedgerSound db.payments db.ledgerEntries

section Settlement

variable {env : Env} {args : SettleArgs} {db db' : Db}

theorem LedgerSound.of_eq (h : LedgerIsSound db) (hpayments : db'.payments = db.payments)
    (hledger : db'.ledgerEntries = db.ledgerEntries) :
    LedgerIsSound db' := by
  unfold LedgerIsSound
  rw [hpayments, hledger]
  exact h

/-- A write of one payment that neither makes it `REFUNDED` nor ends that. -/
theorem LedgerSound.update (h : LedgerIsSound db) {i : Id} {f : Payment -> Payment}
    (hkeeps : forall p, db.payments.findUnique i = some p -> KeepsRefunded p (f p))
    (hpayments : db'.payments = db.payments.update i f)
    (hledger : db'.ledgerEntries = db.ledgerEntries) :
    LedgerIsSound db' := by
  unfold LedgerIsSound
  rw [hpayments, hledger]
  exact h.moved (Table.rel_update (fun _ => KeepsRefunded.refl) hkeeps)

theorem keepsRefunded_flagged {p : Payment}
    (hcan : canTransition p.status .reconciliationRequired = true) (args : SettleArgs) :
    KeepsRefunded p (p.flagged args) := by
  refine ⟨rfl, ?_⟩
  refine iff_of_false (fun hrefunded => by cases hrefunded) ?_
  intro hrefunded
  rw [hrefunded] at hcan
  have hsame := eq_of_canTransition_refunded hcan
  cases hsame

theorem settlementWrites_not_ignored {p : Payment} (h : settlementWrites args db p = true) :
    ignoresNotification p.status args.status = false := by
  unfold settlementWrites at h
  simp only [Bool.and_eq_true, Bool.not_eq_true'] at h
  exact h.1.1.2

theorem refunded_of_settlementWrites {p : Payment} (h : settlementWrites args db p = true)
    (hrefunded : p.status = .refunded) :
    args.status = .refunded := by
  have hnot := settlementWrites_not_ignored h
  unfold ignoresNotification at hnot
  rw [hrefunded] at hnot
  by_contra hne
  simp [hne] at hnot

theorem LedgerSound.settlePaymentCore (h : LedgerIsSound db)
    (hsettles : SettlesIntoLedger db args)
    (hok : MarketBridge.settlePaymentCore env args db = .ok db') :
    LedgerIsSound db' := by
  cases hp : db.payments.findUnique args.paymentId with
  | none =>
      simp [MarketBridge.settlePaymentCore, hp] at hok
  | some p =>
      cases settlePaymentCore_books hp hok with
      | kept hpayments hledger =>
          exact h.of_eq hpayments hledger
      | flagged hcan hpayments hledger =>
          apply h.update _ hpayments hledger
          intro q hq
          rw [hp, Option.some.injEq] at hq
          subst hq
          exact keepsRefunded_flagged hcan args
      | written hwrites hpayments hledger =>
          obtain ⟨hproduct, hbalances⟩ := hsettles p hp hwrites
          have hcore : (p.afterSettlement args).core = p.core := rfl
          by_cases hnew : args.status = .refunded ∧ p.status ≠ .refunded
          · -- The notification makes the payment `REFUNDED`.
            have hbalanced := hbalances hnew.1 hnew.2
            have hentries : settlementEntries args (paymentRecord db args.paymentId p) =
                [MarketBridge.refundEntry (paymentRecord db args.paymentId p)] := by
              unfold settlementEntries
              rw [hnew.1]
            unfold LedgerIsSound
            rw [hpayments, hledger, hentries]
            refine LedgerSound.refunded (r := paymentRecord db args.paymentId p) h hp hnew.2
              hcore hnew.1 ?_ ?_ ?_
            · intro hroot hnone
              obtain ⟨k, e, he, howner, hreceipt⟩ := hbalanced.booked hroot
              exact hreceipt (hnone k e he howner)
            · intro j c hc hroot hof
              exact hbalanced.children hroot j c hc hof
            · intro k q hq _ hof
              exact hbalanced.parent k q hq hof
          · have hkeeps : KeepsRefunded p (p.afterSettlement args) := by
              refine ⟨hcore, ?_⟩
              constructor
              · intro hafter
                by_contra hbefore
                exact hnew ⟨hafter, hbefore⟩
              · intro hbefore
                exact refunded_of_settlementWrites hwrites hbefore
            have hmoved : LedgerSound db'.payments db.ledgerEntries := by
              rw [hpayments]
              apply h.moved
              apply Table.rel_update (fun _ => KeepsRefunded.refl)
              intro q hq
              rw [hp, Option.some.injEq] at hq
              subst hq
              exact hkeeps
            have hread : db'.payments.findUnique args.paymentId =
                some (p.afterSettlement args) := by
              rw [hpayments, Table.findUnique_update_self, hp]
              rfl
            unfold LedgerIsSound
            rw [hledger]
            unfold settlementEntries
            cases hstatus : args.status with
            | paid =>
                exact hmoved.received (r := paymentRecord db args.paymentId p) hread hcore
                  (hproduct hstatus)
            | refunded =>
                have hrefunded : p.status = .refunded := by
                  by_contra hbefore
                  exact hnew ⟨hstatus, hbefore⟩
                have hrecorded := h.recorded args.paymentId p hp hrefunded
                have hsame : Table.createEachOnce entryKey db.ledgerEntries
                    [MarketBridge.refundEntry (paymentRecord db args.paymentId p)] = db.ledgerEntries := by
                  apply Table.createEachOnce_of_holds
                  intro e he
                  rw [List.mem_singleton] at he
                  rw [he]
                  exact hrecorded
                rw [hsame]
                exact hmoved
            | pending =>
                exact hmoved
            | processing =>
                exact hmoved
            | failed =>
                exact hmoved
            | refundPending =>
                exact hmoved
            | reconciliationRequired =>
                exact hmoved

theorem LedgerSound.reconcileInventory (h : LedgerIsSound db)
    (hok : MarketBridge.reconcileInventory env args db = .ok db') :
    LedgerIsSound db' := by
  obtain ⟨p, payments, events, issues, hp, rfl | ⟨htransition, rfl⟩, rfl⟩ :=
    reconcileInventory_eq_ok hok
  · exact h.of_eq rfl rfl
  · have hcan := assertTransition_eq_ok_iff.mp htransition
    refine h.update ?_ rfl rfl
    intro q hq
    obtain rfl := Option.some.inj (hp.symm.trans hq)
    exact keepsRefunded_flagged hcan args

theorem LedgerSound.settleOrReconcile (h : LedgerIsSound db) (hsettles : SettlesIntoLedger db args)
    (hok : MarketBridge.settleOrReconcile env args db = .ok db') :
    LedgerIsSound db' := by
  unfold MarketBridge.settleOrReconcile at hok
  split at hok
  · next hsettle =>
      obtain rfl := Except.ok.inj hok
      exact h.settlePaymentCore hsettles hsettle
  · split at hok
    · split at hok
      · next hreconcile =>
          obtain rfl := Except.ok.inj hok
          exact h.reconcileInventory hreconcile
      · cases hok
    · cases hok

theorem LedgerSound.finalizeInstallmentPlan (h : LedgerIsSound db) {parentPaymentId : Id}
    (hok : MarketBridge.finalizeInstallmentPlan env parentPaymentId db = .ok db') :
    LedgerIsSound db' := by
  unfold MarketBridge.finalizeInstallmentPlan at hok
  split at hok
  · obtain rfl := Except.ok.inj hok
    exact h
  · next parent hparent =>
      split at hok
      · obtain rfl := Except.ok.inj hok
        exact h
      · next hplan =>
          split at hok
          · obtain rfl := Except.ok.inj hok
            exact h
          · split at hok
            · refine h.settlePaymentCore ?_ hok
              intro p hp _
              have hp' : db.payments.findUnique parentPaymentId = some p := hp
              rw [hparent, Option.some.injEq] at hp'
              subst hp'
              refine ⟨?_, ?_⟩
              · intro _ hdigital
                have hgoods := (h.formed parentPaymentId parent hparent).plan
                  (Bool.eq_true_of_not_eq_false hplan)
                rw [hgoods] at hdigital
                cases hdigital
              · intro hstatus
                cases hstatus
            · obtain rfl := Except.ok.inj hok
              exact h

theorem LedgerSound.settlePayment (h : LedgerIsSound db) (hsettles : SettlesIntoLedger db args)
    (hok : MarketBridge.settlePayment env args db = .ok db') :
    LedgerIsSound db' := by
  have hrelease : forall paymentId db, LedgerIsSound db ->
      LedgerIsSound (releaseBiddersAfter paymentId db) := by
    intro paymentId db hdb
    obtain ⟨offers, hframe⟩ := releaseBiddersAfter_frame paymentId db
    rw [hframe]
    exact hdb.of_eq rfl rfl
  unfold MarketBridge.settlePayment at hok
  rw [bind_eq_ok] at hok
  obtain ⟨settled, hsettle, hrest⟩ := hok
  have hsettled := h.settleOrReconcile hsettles hsettle
  split at hrest
  · obtain rfl := Except.ok.inj hrest
    exact hrelease _ _ hsettled
  · next parentPaymentId _ =>
      obtain rfl := Except.ok.inj hrest
      apply hrelease
      exact commit_preserves (P := LedgerIsSound) hsettled fun _ hfinal =>
        hsettled.finalizeInstallmentPlan hfinal

end Settlement

/-! ## Steps -/

def MarketStep.BooksRefunds (db : Db) (a : Env × MarketStep) : Prop :=
  match a.2 with
  | .checkout (.createPayment payment) => payment.asCreated.WellFormed
  | .settlePayment args => SettlesIntoLedger db args
  | .refund call => ¬ call.Completes db
  | .elsewhere other => other.ledgerEntries = db.ledgerEntries
  | _ => True

/-- No edge of the step touches `REFUNDED` unless a refund is completed. -/
theorem MovesPayment.not_refunded {db : Db} {a : Env × MarketStep} {i : Id}
    {s s' : PaymentStatus} (hbooks : MarketStep.BooksRefunds db a)
    (h : MovesPayment db a.2 i s s') :
    s ≠ .refunded ∧ s' ≠ .refunded := by
  obtain ⟨env, a⟩ := a
  cases h with
  | started =>
      exact ⟨by decide, by decide⟩
  | abandoned =>
      exact ⟨by decide, by decide⟩
  | refund call _ _ _ hedge =>
      cases hedge with
      | started =>
          exact ⟨by decide, by decide⟩
      | givenBack =>
          exact ⟨by decide, by decide⟩
      | completed _ hcompletes =>
          exact absurd hcompletes hbooks
  | cancelled _ _ _ _ _ _ _ _ _ _ hedge =>
      cases hedge <;> exact ⟨by decide, by decide⟩
  | resolved _ _ _ _ _ _ _ _ _ _ hedge =>
      cases hedge <;> exact ⟨by decide, by decide⟩

theorem LedgerSound.step {db : Db} {a : Env × MarketStep} (h : LedgerIsSound db)
    (hbooks : MarketStep.BooksRefunds db a) :
    LedgerIsSound (MarketStep.step db a) := by
  obtain ⟨env, a⟩ := a
  have heffect := MarketStep.money env db a
  generalize MarketStep.step db (env, a) = db' at heffect
  have hmoves : forall db', PaymentsMoved (MovesPayment db a) db db' ->
      db'.ledgerEntries = db.ledgerEntries -> LedgerIsSound db' := by
    intro db' hmoved hledger
    unfold LedgerIsSound
    rw [hledger]
    apply h.moved
    apply Table.Rel.mono hmoved
    intro i p p' hpath
    exact hpath.keepsRefunded fun s s' hedge => hedge.not_refunded hbooks
  cases heffect with
  | kept _ _ hkept =>
      exact h.of_eq hkept.payments hkept.ledgerEntries
  | created payment =>
      have hformed : payment.asCreated.WellFormed := hbooks
      exact h.create hformed (by intro hrefunded; cases hrefunded)
  | moved _ _ hpayments hledger =>
      exact hmoves db' hpayments hledger
  | cancelled _ record _ hcancels hcancelled =>
      exact hmoves db' (hcancelled.moved hcancels) hcancelled.ledgerEntries
  | settled args _ hok =>
      exact h.settlePayment hbooks hok
  | elsewhere other _ hpayments hledger =>
      have hkept : other.ledgerEntries = db.ledgerEntries := hbooks
      exact h.of_eq hpayments (hledger.trans hkept)

/-! ## The ledger of refunded payments -/

/-- The `REFUND` entries of a payment. -/
def refundEntriesOf (db : Db) (i : Id) : List (Id × PaymentLedgerEntry) :=
  db.ledgerEntries.findMany fun _ e => e.paymentId = i && e.type = .refund

def inPlan (db : Db) (i j : Id) : Bool :=
  j = i || (db.payments.findUnique j).any fun c => c.parentPaymentId = some i

def planTotal (db : Db) (i : Id) : ℚ :=
  db.ledgerEntries.sumOf fun _ e => if inPlan db i e.paymentId = true then e.amount else 0

def planRefunds (db : Db) (i : Id) : ℚ :=
  refundsOf db.ledgerEntries (inPlan db i)

/-- The installments that are `REFUNDED`, in total. -/
def refundedInstallments (db : Db) (i : Id) : ℚ :=
  refundedOf db.payments fun j =>
    (db.payments.findUnique j).any fun c => c.parentPaymentId = some i

/--
The ledger reflects the refunds: a refunded payment that is not the parent of a
plan has one `REFUND` entry, of minus its amount; earnings, commission and
refunds of a refunded payment with its installments sum to zero; and the refunds
of a plan that is refunded, as a whole or installment by installment, sum to
minus the amount of the plan.
-/
structure LedgerReflectsRefunds (db : Db) : Prop where
  entry : forall i p, db.payments.findUnique i = some p -> p.status = .refunded ->
    p.isInstallmentParent = false ->
    exists k e, refundEntriesOf db i = [(k, e)] ∧ e.amount = -p.amount
  balanced : forall i p, db.payments.findUnique i = some p -> p.status = .refunded ->
    p.parentPaymentId = none -> planTotal db i = 0
  plan : forall i p, db.payments.findUnique i = some p -> p.isInstallmentParent = true ->
    (p.status = .refunded ∨ refundedInstallments db i = p.amount) ->
    planRefunds db i = -p.amount

section Reflects

variable {db : Db} {i : Id} {p : Payment}

theorem LedgerSound.refunds_single (h : LedgerIsSound db)
    (hp : db.payments.findUnique i = some p) (hstatus : p.status = .refunded) {S : Id -> Bool}
    (hself : S i = true)
    (honly : forall j q, db.payments.findUnique j = some q -> q.status = .refunded ->
      S j = true -> j = i) :
    refundsOf db.ledgerEntries S = -p.amount := by
  have hsame : refundedOf db.payments S = refundedOf db.payments (fun j => j == i) := by
    apply Table.sumOf_congr
    intro j q hq
    by_cases hj : j = i
    · subst hj
      simp [hself]
    · have hnot : ¬ (q.status = .refunded ∧ S j = true) := fun hboth =>
        hj (honly j q hq hboth.1 hboth.2)
      simp [hj, hnot]
  have hsingle : refundedOf db.payments (fun j => j == i) = p.amount := by
    unfold refundedOf
    rw [Table.sumOf_eq_single hp (w := fun j q =>
      if q.status = .refunded ∧ (j == i) = true then q.amount else 0)]
    · simp [hstatus]
    · intro j q hj
      simp [hj]
  rw [h.total S, hsame, hsingle]

theorem LedgerSound.refunded_inPlan (h : LedgerIsSound db)
    (hp : db.payments.findUnique i = some p) (hstatus : p.status = .refunded)
    (hroot : p.parentPaymentId = none) {j : Id} {q : Payment}
    (hq : db.payments.findUnique j = some q) (hqstatus : q.status = .refunded)
    (hplan : inPlan db i j = true) :
    j = i := by
  unfold inPlan at hplan
  rw [hq] at hplan
  simp only [Option.any_some, Bool.or_eq_true, decide_eq_true_eq] at hplan
  rcases hplan with hsame | hof
  · exact hsame
  · exact absurd hqstatus (h.exclusive i j p q hp hq hroot hof hstatus)

theorem LedgerSound.entry (h : LedgerIsSound db) (hp : db.payments.findUnique i = some p)
    (hstatus : p.status = .refunded) :
    exists k e, refundEntriesOf db i = [(k, e)] ∧ e.amount = -p.amount := by
  obtain ⟨k, e, he, hkey⟩ := Table.holdsKey_iff.mp (h.recorded i p hp hstatus)
  have howner : e.paymentId = i := congrArg Prod.fst hkey
  have hrefund : e.type = .refund := congrArg Prod.snd hkey
  obtain ⟨q, hq, -, hamount⟩ := h.refundEntry k e he hrefund
  rw [howner, hp, Option.some.injEq] at hq
  subst hq
  refine ⟨k, e, ?_, hamount⟩
  apply h.keyed.findMany_eq_singleton he
  · simp [howner, hrefund]
  · intro j s hs hselected
    simp only [Bool.and_eq_true, decide_eq_true_eq] at hselected
    show (s.paymentId, s.type) = (e.paymentId, e.type)
    rw [hselected.1, hselected.2, howner, hrefund]

theorem LedgerSound.balanced (h : LedgerIsSound db) (hp : db.payments.findUnique i = some p)
    (hstatus : p.status = .refunded) (hroot : p.parentPaymentId = none) :
    planTotal db i = 0 := by
  have hself : inPlan db i i = true := by
    simp [inPlan]
  have hrefunds : refundsOf db.ledgerEntries (inPlan db i) = -p.amount :=
    h.refunds_single hp hstatus hself fun j q hq hqstatus hplan =>
      h.refunded_inPlan hp hstatus hroot hq hqstatus hplan
  have hbooked : Booked db.ledgerEntries i p := by
    rcases h.booked i p hp with hnone | hbooked
    · exact absurd hnone (h.earned i p hp hstatus hroot)
    · exact hbooked
  have hsplit : planTotal db i =
      receiptsOf db.ledgerEntries i + refundsOf db.ledgerEntries (inPlan db i) := by
    unfold planTotal receiptsOf refundsOf
    rw [← Table.sumOf_add]
    apply Table.sumOf_congr
    intro k e he
    by_cases hrefund : e.type = .refund
    · simp [hrefund]
    · have hplan : inPlan db i e.paymentId = true ↔ e.paymentId = i := by
        constructor
        · intro hplan
          obtain ⟨q, hq, htype⟩ := h.receiptEntry k e he hrefund
          unfold inPlan at hplan
          rw [hq] at hplan
          simp only [Option.any_some, Bool.or_eq_true, decide_eq_true_eq] at hplan
          rcases hplan with hsame | hof
          · exact hsame
          · exact absurd ((h.formed _ q hq).installment (by rw [hof]; rfl)) htype
        · intro hsame
          rw [hsame]
          exact hself
      simp [hrefund, hplan]
  rw [hsplit, hbooked.total, hrefunds]
  ring

theorem LedgerSound.plan (h : LedgerIsSound db) (hp : db.payments.findUnique i = some p)
    (hparent : p.isInstallmentParent = true)
    (hrefunded : p.status = .refunded ∨ refundedInstallments db i = p.amount) :
    planRefunds db i = -p.amount := by
  have hroot : p.parentPaymentId = none := by
    have hformed := h.formed i p hp
    cases hof : p.parentPaymentId with
    | none =>
        rfl
    | some k =>
        have hgoods := hformed.plan hparent
        rw [hformed.installment (by rw [hof]; rfl)] at hgoods
        cases hgoods
  have hself : inPlan db i i = true := by
    simp [inPlan]
  unfold planRefunds
  by_cases hstatus : p.status = .refunded
  · exact h.refunds_single hp hstatus hself fun j q hq hqstatus hplan =>
      h.refunded_inPlan hp hstatus hroot hq hqstatus hplan
  · rcases hrefunded with hyes | hinstallments
    · exact absurd hyes hstatus
    · rw [h.total, ← hinstallments]
      congr 1
      apply Table.sumOf_congr
      intro j q hq
      by_cases hj : j = i
      · subst hj
        rw [hp, Option.some.injEq] at hq
        subst hq
        simp [hstatus]
      · simp [inPlan, hj]

theorem LedgerSound.reflects (h : LedgerIsSound db) : LedgerReflectsRefunds db :=
  ⟨fun _ _ hp hstatus _ => h.entry hp hstatus,
    fun _ _ hp hstatus hroot => h.balanced hp hstatus hroot,
    fun _ _ hp hparent hrefunded => h.plan hp hparent hrefunded⟩

end Reflects

/-! ## Runs -/

/-- Nothing is booked and nothing is refunded yet. -/
structure BeforeLedger (db : Db) : Prop where
  ledger : db.ledgerEntries = Table.empty
  formed : forall i p, db.payments.findUnique i = some p -> p.WellFormed
  unrefunded : forall i p, db.payments.findUnique i = some p -> p.status ≠ .refunded

theorem BeforeLedger.sound {db : Db} (h : BeforeLedger db) : LedgerIsSound db := by
  have hnone : forall k, db.ledgerEntries.findUnique k = none := by
    intro k
    rw [h.ledger, Table.findUnique_empty]
  unfold LedgerIsSound
  refine ⟨?_, h.formed, ?_, ?_, ?_, ?_, ?_, ?_, ?_⟩
  · rw [h.ledger]
    exact Table.keyed_empty
  · intro k e he
    rw [hnone] at he
    cases he
  · intro k e he
    rw [hnone] at he
    cases he
  · intro i p hp hstatus
    exact absurd hstatus (h.unrefunded i p hp)
  · intro i p hp
    left
    intro k e he
    rw [hnone] at he
    cases he
  · intro i p hp hstatus
    exact absurd hstatus (h.unrefunded i p hp)
  · intro i j p c hp hc hroot hof hstatus
    exact absurd hstatus (h.unrefunded i p hp)
  · intro S
    have hrefunds : refundsOf db.ledgerEntries S = 0 := by
      unfold refundsOf
      rw [h.ledger, Table.sumOf_empty]
    have hzero : db.payments.sumOf (fun _ _ => (0 : ℚ)) = 0 := Table.sumOf_zero _
    have hrefunded : refundedOf db.payments S = 0 := by
      rw [← hzero]
      apply Table.sumOf_congr
      intro i p hp
      rw [if_neg (fun hboth => h.unrefunded i p hp hboth.1)]
    rw [hrefunds, hrefunded, neg_zero]

theorem ledger_reflects_refunds {db : Db} {as : List (Env × MarketStep)}
    (hstart : BeforeLedger db) (hmeets : RunMeets MarketStep.step MarketStep.BooksRefunds db as) :
    LedgerReflectsRefunds (run MarketStep.step db as) := by
  have hsound : LedgerIsSound (run MarketStep.step db as) :=
    @run_invariant _ _ _ _ LedgerIsSound (fun _ _ hdb hbooks => hdb.step hbooks) _ _
      hstart.sound hmeets
  exact hsound.reflects

/-- A goods payment at the provider, with a commission of five percent. -/
def checkedOutGoods : Payment :=
  { orderId := some 0
    type := .marketplace
    amount := 100
    status := .processing
    provider := some "CHAPA"
    chapaTxRef := some "tx-1"
    commissionAmount := some 5
    netAmount := some 95 }

def checkedOutDb : Db :=
  { listings := Table.empty.create
      { sellerId := 2
        quantity := 10
        availableQuantity := 10
        askingPrice := 100 }
    orders := Table.empty.create
      { listingId := 0
        buyerId := 1
        sellerId := 2
        finalPrice := 100
        quantity := 1
        status := .pendingPayment }
    payments := Table.empty.create checkedOutGoods }

theorem checkedOutGoods_wellFormed : checkedOutGoods.WellFormed := by
  have hcommission : ledgerCommission checkedOutGoods = 5 := by
    show roundMoney 5 = 5
    exact roundMoney_of_isCents ⟨500, by norm_num⟩
  refine ⟨⟨⟨10000, by norm_num [checkedOutGoods]⟩, ?_, ?_⟩, ?_, ?_⟩
  · rw [hcommission]
    norm_num
  · rw [hcommission]
    norm_num [checkedOutGoods]
  · intro hplan
    cases hplan
  · intro hof
    cases hof

theorem checkedOutDb_beforeLedger : BeforeLedger checkedOutDb := by
  have hrow : forall i p, checkedOutDb.payments.findUnique i = some p -> p = checkedOutGoods := by
    intro i p hp
    have hi : i < 1 := Table.lt_size_of_findUnique hp
    obtain rfl : i = 0 := Nat.lt_one_iff.mp hi
    exact (Option.some.inj hp).symm
  refine ⟨rfl, ?_, ?_⟩
  · intro i p hp
    rw [hrow i p hp]
    exact checkedOutGoods_wellFormed
  · intro i p hp
    rw [hrow i p hp]
    decide

def goodsNotice (status : PaymentStatus) (eventId : String) : MarketStep :=
  .settlePayment
    { paymentId := 0
      status := status
      eventId := some eventId
      amount := some (.finite 100) }

def refundNotified : List (Env × MarketStep) :=
  [(env0, goodsNotice .paid "paid-1"), (env0, goodsNotice .refunded "refunded-1")]

theorem refundNotified_reflected :
    LedgerReflectsRefunds (run MarketStep.step checkedOutDb refundNotified) := by
  refine ledger_reflects_refunds checkedOutDb_beforeLedger ⟨?_, ?_, trivial⟩
  · intro p hp _
    obtain rfl : checkedOutGoods = p := Option.some.inj hp
    refine ⟨?_, ?_⟩
    · intro _ hdigital
      cases hdigital
    · intro hstatus
      cases hstatus
  · generalize hdb : MarketStep.step checkedOutDb (env0, goodsNotice .paid "paid-1") = db
    have hpayments : db.payments =
        Table.empty.create { checkedOutGoods with status := .paid } := by
      rw [← hdb]
      decide +kernel
    have hentry : db.ledgerEntries.findUnique 0 = some
        { paymentId := 0
          userId := some 2
          type := .sellerEarning
          amount := 95
          currency := "ETB" } := by
      rw [← hdb]
      decide +kernel
    have hrow : forall i p, db.payments.findUnique i = some p ->
        p = { checkedOutGoods with status := .paid } := by
      intro i p hp
      rw [hpayments] at hp
      have hi : i < 1 := Table.lt_size_of_findUnique hp
      obtain rfl : i = 0 := Nat.lt_one_iff.mp hi
      exact (Option.some.inj hp).symm
    intro p hp _
    have hp' := hrow _ p hp
    subst hp'
    refine ⟨?_, ?_⟩
    · intro hstatus
      cases hstatus
    · intro _ _
      refine ⟨?_, ?_, ?_⟩
      · intro _
        exact ⟨0, _, hentry, rfl, by decide⟩
      · intro _ j c hc hof
        rw [hrow j c hc] at hof
        cases hof
      · intro k q _ hof
        cases hof

def refundCompleted : List (Env × MarketStep) :=
  [(env0, goodsNotice .paid "paid-1"),
    (env0, .cancelOrder .included 0 (some 9) none .admin),
    (env0, .refund (.process 0
      { submission := .ok (some "refund-1")
        verification := .ok "refunded" }))]

/-- The payment is `REFUNDED`, and the ledger still holds what was received for it. -/
theorem refundCompleted_not_reflected :
    BeforeLedger checkedOutDb ∧
      ¬ LedgerReflectsRefunds (run MarketStep.step checkedOutDb refundCompleted) := by
  refine ⟨checkedOutDb_beforeLedger, ?_⟩
  intro h
  generalize hdb : run MarketStep.step checkedOutDb refundCompleted = db at h
  have hpayment : db.payments.findUnique 0 =
      some { checkedOutGoods with status := .refunded } := by
    rw [← hdb]
    decide +kernel
  have hentries : refundEntriesOf db 0 = [] := by
    rw [← hdb]
    decide +kernel
  obtain ⟨k, e, hone, -⟩ := h.entry 0 _ hpayment rfl rfl
  rw [hentries] at hone
  cases hone

end MarketBridge
