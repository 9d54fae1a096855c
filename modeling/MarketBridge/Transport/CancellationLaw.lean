import MarketBridge.Payment.ObligationSync
import MarketBridge.Order.CancellationRefunds
import MarketBridge.Transport.Cancellation

/-!
# What a cancelled transport keeps

Six operations cancel a transport job, and each unwinds a different part of the
money that hangs on it.  For each of them the condition is stated under which
nothing is left behind.
-/

namespace MarketBridge

open Relational

/-! ## The law -/

def IsPaidFee (db : Db) (jobId i : Id) (p : Payment) : Prop :=
  db.payments.findUnique i = some p ∧ isTransportPaymentOf jobId p = true ∧ p.status = .paid

/-- Nothing of the money of a cancelled job is left. -/
structure KeepsNoMoney (jobId orderId : Id) (db db' : Db) : Prop where
  refunded : forall i p, IsPaidFee db jobId i p -> UnderRefund db' i
  payouts : forall i p, IsPaidFee db jobId i p -> forall k payout,
    db'.payouts.findUnique k = some payout -> payout.paymentId = i ->
    payout.payeeRole = .transporter -> payout.status ∈ [PayoutStatus.cancelled, .paidOut]
  obligations : ¬ HasOpenObligation db' orderId .transport
  quotes : db'.transportQuotes.All fun _ quote => quote.transportJobId = jobId ->
    quote.status ∉ [TransportQuoteStatus.selected, .countered, .accepted]

def CancelsCleanly (env : Env) (path : TransportCancelPath) (jobId : Id) (job : TransportJob)
    (db : Db) : Prop :=
  exists db', path.exec env jobId job db = .ok db' ∧ KeepsNoMoney jobId job.orderId db db'

/-! ## The conditions -/

def NoPaidFee (db : Db) (jobId : Id) : Prop :=
  forall i p, ¬ IsPaidFee db jobId i p

def NoQuote (db : Db) (jobId : Id) (statuses : List TransportQuoteStatus) : Prop :=
  db.transportQuotes.All fun _ quote => quote.transportJobId = jobId -> quote.status ∉ statuses

/-- The money of an order can be unwound as its cancellation expects it. -/
structure IsUnwindable (record : OrderRecord) (jobId : Id) (db : Db) : Prop where
  quantity : record.inferredCommitted = true -> 0 < record.quantity
  amounts : forall i p, db.payments.findUnique i = some p -> IsRefundedBy record db p ->
    0 < p.amount
  fees : forall i p, IsPaidFee db jobId i p ->
    if p.orderId = some record.id ∧ p.isInstallmentParent = true then
      ∃! j, OpenRefund db.refunds i j
    else
      ¬ HasBlockingRefund db i
  payouts : forall i p, IsPaidFee db jobId i p -> forall k payout,
    db.payouts.findUnique k = some payout -> payout.paymentId = i ->
    payout.payeeRole = .transporter ->
    payout.orderId = some record.id ∨ payout.status ∈ [PayoutStatus.cancelled, .paidOut]

/-- When each of the operations unwinds all that hangs on the job. -/
def TransportCancelPath.Suffices (jobId : Id) (job : TransportJob) (order : Order) (db : Db) :
    TransportCancelPath -> Prop
  | .route _ _ =>
      NoPaidFee db jobId ∧
        ((transportStillAgreed job).isSome = true ->
          transportFeeIsPaid (markTransportCancelled jobId db) job.orderId order = true) ∧
        NoQuote db jobId [.selected, .countered, .accepted]
  | .disputeService _ _ _ => False
  | .preparationExpiry => NoPaidFee db jobId ∧ ¬ HasOpenObligation db job.orderId .transport
  | .loadingExpiry => ¬ HasOpenObligation db job.orderId .transport
  | .workflowExpiry =>
      NoPaidFee db jobId ∧ ¬ HasOpenObligation db job.orderId .transport ∧
        NoQuote db jobId [.accepted]
  | .orderCancellation load _ _ _ =>
      forall record, loadOrder load db job.orderId = some record -> IsUnwindable record jobId db

/-! ## Payments that no path touches -/

theorem KeepsNoMoney.noPaidFee {jobId orderId : Id} {db db' : Db}
    (hpayments : db'.payments = db.payments) (h : KeepsNoMoney jobId orderId db db') :
    NoPaidFee db jobId := by
  intro i p hpaid
  obtain ⟨q, hq, hs⟩ := (h.refunded i p hpaid).pending
  rw [hpayments, hpaid.1, Option.some.injEq] at hq
  rw [← hq, hpaid.2.2] at hs
  cases hs

theorem NoPaidFee.keepsNoMoney_iff {jobId orderId : Id} {db db' : Db}
    (h : NoPaidFee db jobId) :
    KeepsNoMoney jobId orderId db db' ↔
      ¬ HasOpenObligation db' orderId .transport ∧
        NoQuote db' jobId [.selected, .countered, .accepted] := by
  constructor
  · intro hkeeps
    exact ⟨hkeeps.obligations, hkeeps.quotes⟩
  · rintro ⟨hobligations, hquotes⟩
    exact ⟨fun i p hpaid => absurd hpaid (h i p), fun i p hpaid => absurd hpaid (h i p),
      hobligations, hquotes⟩

/-! ## Deadlines -/

theorem noQuote_updateMany_iff {db db' : Db} {jobId : Id}
    {expires : Id -> TransportQuote -> Bool} {statuses left : List TransportQuoteStatus}
    {s : TransportQuoteStatus}
    (hquotes : db'.transportQuotes = db.transportQuotes.updateMany expires ({ · with status := s }))
    (hs : s ∉ statuses)
    (hleft : forall i quote, db.transportQuotes.findUnique i = some quote ->
      quote.transportJobId = jobId ->
      (quote.status ∈ left ↔ quote.status ∈ statuses ∧ expires i quote = false)) :
    NoQuote db' jobId statuses ↔ NoQuote db jobId left := by
  unfold NoQuote
  rw [hquotes]
  constructor
  · intro hnone i quote hquote hjob hstatus
    obtain ⟨hmem, hkept⟩ := (hleft i quote hquote hjob).mp hstatus
    have hafter : (db.transportQuotes.updateMany expires ({ · with status := s })).findUnique i =
        some quote := by
      rw [Table.findUnique_updateMany, hquote, Option.map_some, if_neg (by simp [hkept])]
    exact hnone i quote hafter hjob hmem
  · intro hnone i quote hquote hjob hstatus
    rw [Table.findUnique_updateMany] at hquote
    obtain ⟨before, hbefore, rfl⟩ := Option.map_eq_some_iff.mp hquote
    by_cases hexpires : expires i before = true
    · rw [if_pos hexpires] at hstatus
      exact hs hstatus
    · rw [if_neg hexpires] at hjob hstatus
      rw [Bool.not_eq_true] at hexpires
      exact hnone i before hbefore hjob
        ((hleft i before hbefore hjob).mpr ⟨hstatus, hexpires⟩)

/-- What an expiry does to the tables of the law. -/
structure JobExpired (statuses : List TransportQuoteStatus) (jobId : Id) (db db' : Db) : Prop where
  payments : db'.payments = db.payments
  obligations : db'.obligations = db.obligations
  quotes : db'.transportQuotes = db.transportQuotes.updateMany
    (fun _ quote => quote.transportJobId = jobId && quote.status ∈ statuses)
    ({ · with status := .expired })

theorem expireTransportJob_expired (env : Env) (event : OrderEventType)
    (statuses : List TransportQuoteStatus) (write : TransportJob -> TransportJob) (jobId : Id)
    (job : TransportJob) (db : Db) :
    JobExpired statuses jobId db (expireTransportJob env event statuses write jobId job db) := by
  unfold expireTransportJob
  obtain ⟨events, hevents⟩ := recordOrderEvent_frame env (some job.orderId) event
    (releaseTruck job.truckId { db with
      transportJobs := db.transportJobs.update jobId write
      transportQuotes := db.transportQuotes.updateMany
        (fun _ quote => quote.transportJobId = jobId && quote.status ∈ statuses)
        ({ · with status := .expired }) })
  rw [hevents]
  exact ⟨rfl, rfl, rfl⟩

theorem JobExpired.keepsNoMoney_iff {statuses left : List TransportQuoteStatus}
    {jobId orderId : Id} {db db' : Db} (h : JobExpired statuses jobId db db')
    (hleft : forall s, s ∈ left ↔
      s ∈ [TransportQuoteStatus.selected, .countered, .accepted] ∧ s ∉ statuses) :
    KeepsNoMoney jobId orderId db db' ↔
      NoPaidFee db jobId ∧ ¬ HasOpenObligation db orderId .transport ∧ NoQuote db jobId left := by
  have hobligations : HasOpenObligation db' orderId .transport ↔
      HasOpenObligation db orderId .transport := by
    unfold HasOpenObligation
    rw [h.obligations]
  have hquotes : NoQuote db' jobId [.selected, .countered, .accepted] ↔ NoQuote db jobId left := by
    apply noQuote_updateMany_iff h.quotes (by decide)
    intro i quote _ hjob
    rw [hleft]
    simp [hjob]
  constructor
  · intro hkeeps
    have hnone := hkeeps.noPaidFee h.payments
    rw [hnone.keepsNoMoney_iff, hobligations, hquotes] at hkeeps
    exact ⟨hnone, hkeeps⟩
  · rintro ⟨hnone, hrest⟩
    rw [hnone.keepsNoMoney_iff, hobligations, hquotes]
    exact hrest

theorem preparationExpiry_cleanly_iff {env : Env} {jobId : Id} {job : TransportJob} {db : Db}
    (hdue : preparationIsDue env.now job = true) :
    KeepsNoMoney jobId job.orderId db (expireSellerPreparation env jobId job db) ↔
      NoPaidFee db jobId ∧ ¬ HasOpenObligation db job.orderId .transport := by
  unfold expireSellerPreparation
  rw [if_pos hdue, @JobExpired.keepsNoMoney_iff _ [] _ _ _ _
    (expireTransportJob_expired _ _ _ _ _ _ _) (by intro s; cases s <;> simp)]
  simp [NoQuote, Table.All]

theorem loadingIsDue_noPaidFee {now : Nat} {jobId : Id} {job : TransportJob} {db : Db}
    (hdue : loadingIsDue now jobId job db = true) :
    NoPaidFee db jobId := by
  rintro i p ⟨hp, hfee, hpaid⟩
  unfold loadingIsDue at hdue
  rw [Bool.and_eq_true, Bool.not_eq_true'] at hdue
  unfold hasTransportPayment at hdue
  have hother : (isTransportPaymentOf jobId p &&
      decide (p.status ∈ [PaymentStatus.paid, .processing])) = false :=
    Table.any_eq_false_iff.mp hdue.2 i p hp
  rw [hfee, hpaid] at hother
  cases hother

theorem loadingExpiry_cleanly_iff {env : Env} {jobId : Id} {job : TransportJob} {db : Db}
    (hdue : loadingIsDue env.now jobId job db = true) :
    KeepsNoMoney jobId job.orderId db (expireBuyerLoading env jobId job db) ↔
      ¬ HasOpenObligation db job.orderId .transport := by
  unfold expireBuyerLoading
  rw [if_pos hdue, @JobExpired.keepsNoMoney_iff _ [] _ _ _ _
    (expireTransportJob_expired _ _ _ _ _ _ _) (by intro s; cases s <;> simp)]
  simp [NoQuote, Table.All, loadingIsDue_noPaidFee hdue]

theorem workflowExpiry_cleanly_iff {env : Env} {jobId : Id} {job : TransportJob} {db : Db}
    (hdue : workflowIsDue env.now job = true) :
    KeepsNoMoney jobId job.orderId db (expireTransportWorkflow env jobId job db) ↔
      NoPaidFee db jobId ∧ ¬ HasOpenObligation db job.orderId .transport ∧
        NoQuote db jobId [.accepted] := by
  unfold expireTransportWorkflow
  rw [if_pos hdue, @JobExpired.keepsNoMoney_iff _ [.accepted] _ _ _ _
    (expireTransportJob_expired _ _ _ _ _ _ _) (by intro s; cases s <;> simp)]

/-! ## The route -/

theorem LinksOnly.payment {db db' : Db} (h : LinksOnly db db') {i : Id} {p : Payment}
    (hp : db.payments.findUnique i = some p) :
    exists q, db'.payments.findUnique i = some q ∧ q.unlinked = p.unlinked := by
  have hsame := h.payments i
  rw [hp, Option.map_some, Option.map_eq_some_iff] at hsame
  exact hsame

theorem LinksOnly.refundServicePayments_iff {db db' : Db} (h : LinksOnly db db') (jobId : Id) :
    refundServicePayments (isTransportPaymentOf jobId) db' = .ok () ↔ NoPaidFee db jobId := by
  have hread : refundServicePayments (isTransportPaymentOf jobId) db' = .ok () ↔
      db'.payments.any (fun _ p => isTransportPaymentOf jobId p && p.status = .paid) = false := by
    unfold refundServicePayments
    split
    · next hany => simp [hany]
    · next hany => simp [hany]
  have hfields : forall p q : Payment, q.unlinked = p.unlinked ->
      q.status = p.status ∧ isTransportPaymentOf jobId q = isTransportPaymentOf jobId p := by
    intro p q heq
    have hstatus : q.unlinked.status = p.unlinked.status := by rw [heq]
    have hfee : isTransportPaymentOf jobId q.unlinked = isTransportPaymentOf jobId p.unlinked := by
      rw [heq]
    exact ⟨hstatus, hfee⟩
  rw [hread, Table.any_eq_false_iff]
  constructor
  · rintro hall i p ⟨hp, hfee, hpaid⟩
    obtain ⟨q, hq, hsame⟩ := h.payment hp
    obtain ⟨hstatus, hsameFee⟩ := hfields p q hsame
    have hnot : (isTransportPaymentOf jobId q && decide (q.status = .paid)) = false := hall i q hq
    rw [hsameFee, hfee, hstatus, hpaid] at hnot
    cases hnot
  · intro hnone i q hq
    have hbefore := h.payments i
    rw [hq, Option.map_some] at hbefore
    obtain ⟨p, hp, hsame⟩ := Option.map_eq_some_iff.mp hbefore.symm
    obtain ⟨hstatus, hsameFee⟩ := hfields p q hsame.symm
    by_contra hpaid
    rw [Bool.not_eq_false, Bool.and_eq_true, decide_eq_true_eq] at hpaid
    exact hnone i p ⟨hp, by rw [← hsameFee]; exact hpaid.1, by rw [← hstatus]; exact hpaid.2⟩

theorem transportJobOf_marked {db : Db} {orderId jobId : Id} {job : TransportJob}
    (hjob : transportJobOf db orderId = some (jobId, job)) :
    transportJobOf (markTransportCancelled jobId db) orderId =
      some (jobId, { job with status := .cancelled }) := by
  have hupdate := @Table.findFirst_update _ db.transportJobs jobId
    ({ · with status := .cancelled }) (fun _ row => decide (row.orderId = orderId)) fun _ => rfl
  unfold transportJobOf at hjob ⊢
  unfold markTransportCancelled
  rw [hjob, Option.map_some, if_pos rfl] at hupdate
  exact hupdate

/-- What the route does to the tables of the law. -/
structure JobCancelled (jobId orderId : Id) (db db' : Db) : Prop where
  obligations : db'.obligations =
    (syncOrderPaymentObligations orderId (markTransportCancelled jobId db)).obligations
  quotes : db'.transportQuotes = db.transportQuotes.updateMany (isWaitingQuote db jobId)
    ({ · with status := .withdrawn })

theorem cancelTransportJob_cases (env : Env) (jobId : Id) (job : TransportJob) (db : Db) :
    (NoPaidFee db jobId ∧ exists db', cancelTransportJob env jobId job db = .ok db' ∧
        JobCancelled jobId job.orderId db db') ∨
      (¬ NoPaidFee db jobId ∧ exists e, cancelTransportJob env jobId job db = .error e) := by
  have hlinks := syncOrderPaymentObligations_linksOnly job.orderId (markTransportCancelled jobId db)
  have hrefunds : refundServicePayments (isTransportPaymentOf jobId)
      (syncOrderPaymentObligations job.orderId (markTransportCancelled jobId db)) = .ok () ↔
        NoPaidFee db jobId :=
    hlinks.refundServicePayments_iff jobId
  obtain ⟨payments, obligations, hframe⟩ := hlinks.frame
  have hquotes :
      (syncOrderPaymentObligations job.orderId (markTransportCancelled jobId db)).transportQuotes =
        db.transportQuotes := by
    rw [hframe]
    rfl
  obtain ⟨events, hevents⟩ := recordOrderEvent_frame env (some job.orderId) .transportStatusChanged
    (syncOrderPaymentObligations job.orderId (markTransportCancelled jobId db))
  have hsame : refundServicePayments (isTransportPaymentOf jobId)
      (releaseTruck job.truckId (recordOrderEvent env (some job.orderId) .transportStatusChanged
        (syncOrderPaymentObligations job.orderId (markTransportCancelled jobId db)))) =
      refundServicePayments (isTransportPaymentOf jobId)
        (syncOrderPaymentObligations job.orderId (markTransportCancelled jobId db)) := by
    rw [hevents]
    rfl
  unfold cancelTransportJob
  simp only [hsame]
  by_cases hnone : NoPaidFee db jobId
  · left
    rw [hrefunds.mpr hnone, ok_bind]
    refine ⟨hnone, _, rfl, ?_, ?_⟩
    · rw [hevents]
      rfl
    · rw [hevents]
      unfold releaseWaitingTransporters releaseTruck isWaitingQuote
      simp only [hquotes]
  · right
    refine ⟨hnone, ?_⟩
    cases hresult : refundServicePayments (isTransportPaymentOf jobId)
        (syncOrderPaymentObligations job.orderId (markTransportCancelled jobId db)) with
    | ok u =>
        exact absurd (hrefunds.mp hresult) hnone
    | error e =>
        exact ⟨e, rfl⟩

/-- What the route leaves behind once its guards pass. -/
theorem route_cleanly_iff {env : Env} {jobId : Id} {job : TransportJob} {order : Order}
    {db : Db} (hobligations : ObligationsIndexed db)
    (hjob : transportJobOf db job.orderId = some (jobId, job))
    (horder : db.orders.findUnique job.orderId = some order) :
    (exists db', cancelTransportJob env jobId job db = .ok db' ∧
        KeepsNoMoney jobId job.orderId db db') ↔
      NoPaidFee db jobId ∧
        ((transportStillAgreed job).isSome = true ->
          transportFeeIsPaid (markTransportCancelled jobId db) job.orderId order = true) ∧
        NoQuote db jobId [.selected, .countered, .accepted] := by
  have hsync := @sync_transport_open_iff (markTransportCancelled jobId db) job.orderId order
    hobligations horder
  have hagreed : transportIsAgreed (markTransportCancelled jobId db) job.orderId =
      (transportStillAgreed job).isSome := by
    unfold transportIsAgreed
    rw [transportJobOf_marked hjob]
    rfl
  rcases cancelTransportJob_cases env jobId job db with
    ⟨hnone, db', hok, hcancelled⟩ | ⟨hpaid, e, herror⟩
  · have hopen : HasOpenObligation db' job.orderId .transport ↔
        (transportStillAgreed job).isSome = true ∧
          transportFeeIsPaid (markTransportCancelled jobId db) job.orderId order = false := by
      rw [← hagreed, ← hsync]
      unfold HasOpenObligation
      rw [hcancelled.obligations]
    have hquotes : NoQuote db' jobId [.selected, .countered, .accepted] ↔
        NoQuote db jobId [.selected, .countered, .accepted] := by
      apply noQuote_updateMany_iff hcancelled.quotes (by decide)
      intro i quote _ _
      unfold isWaitingQuote
      cases quote.status <;> simp
    have hlaw : KeepsNoMoney jobId job.orderId db db' ↔
        ((transportStillAgreed job).isSome = true ->
          transportFeeIsPaid (markTransportCancelled jobId db) job.orderId order = true) ∧
        NoQuote db jobId [.selected, .countered, .accepted] := by
      rw [hnone.keepsNoMoney_iff, hquotes, hopen, not_and, Bool.not_eq_false]
    constructor
    · rintro ⟨result, hresult, hkeeps⟩
      rw [hok, Except.ok.injEq] at hresult
      rw [← hresult] at hkeeps
      exact ⟨hnone, hlaw.mp hkeeps⟩
    · rintro ⟨-, hrest⟩
      exact ⟨db', hok, hlaw.mpr hrest⟩
  · constructor
    · rintro ⟨db', hok, -⟩
      rw [herror] at hok
      cases hok
    · rintro ⟨hnone, -⟩
      exact absurd hnone hpaid

theorem resolveDispute_asDeclared (env : Env) (adminId disputeId : Id)
    (resolutionType : ResolutionType) (resolution : String) (db : Db) :
    exists e, resolveDispute env.asDeclared adminId disputeId resolutionType resolution db =
      .error e := by
  cases hresult : resolveDispute env.asDeclared adminId disputeId resolutionType resolution db with
  | error e =>
      exact ⟨e, rfl⟩
  | ok db' =>
      unfold resolveDispute at hresult
      split at hresult
      · cases hresult
      · split at hresult
        · cases hresult
        · split at hresult
          · cases hresult
          · replace hresult := (guard_eq_ok.mp hresult).2
            rw [bind_eq_ok] at hresult
            obtain ⟨applied, -, hclose⟩ := hresult
            unfold closeDispute Env.asDeclared at hclose
            cases hclose

end MarketBridge
