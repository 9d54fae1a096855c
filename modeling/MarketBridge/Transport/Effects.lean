import MarketBridge.Order.CancellationRefunds
import MarketBridge.Transport.Quotes

/-!
# Effects on the transport tables

What settlements, expiries and cancellations do to jobs, quotes, trucks and
loading reports, one statement for each operation.
-/

namespace MarketBridge

open Relational

/-- The tables of the transport are as before. -/
structure SameTransport (db db' : Db) : Prop where
  transportJobs : db'.transportJobs = db.transportJobs
  transportQuotes : db'.transportQuotes = db.transportQuotes
  trucks : db'.trucks = db.trucks
  loadingReports : db'.loadingReports = db.loadingReports

section Same

variable {db db' db'' : Db}

theorem SameTransport.refl (db : Db) : SameTransport db db :=
  ⟨rfl, rfl, rfl, rfl⟩

theorem SameTransport.trans (h : SameTransport db db') (h' : SameTransport db' db'') :
    SameTransport db db'' :=
  ⟨h'.transportJobs.trans h.transportJobs, h'.transportQuotes.trans h.transportQuotes,
    h'.trucks.trans h.trucks, h'.loadingReports.trans h.loadingReports⟩

theorem recordOrderEvent_sameTransport (env : Env) (orderId : Option Id) (type : OrderEventType)
    (db : Db) : SameTransport db (recordOrderEvent env orderId type db) := by
  obtain ⟨events, hframe⟩ := recordOrderEvent_frame env orderId type db
  rw [hframe]
  exact ⟨rfl, rfl, rfl, rfl⟩

theorem syncOrderPaymentObligations_sameTransport (orderId : Id) (db : Db) :
    SameTransport db (syncOrderPaymentObligations orderId db) := by
  obtain ⟨payments, obligations, hframe⟩ := (syncOrderPaymentObligations_linksOnly orderId db).frame
  rw [hframe]
  exact ⟨rfl, rfl, rfl, rfl⟩

end Same

/-! ## Settlements -/

section Settlement

variable {env : Env} {args : SettleArgs} {r : PaymentRecord} {db db' : Db}

theorem transportCommitment_hired {jobId truckId quoteId : Id} {job : TransportJob}
    {quote : TransportQuote}
    (h : transportCommitment r = some (jobId, job, truckId, quoteId, quote)) :
    r.row.type = .transport ∧ r.row.transportJobId = some jobId ∧ r.transportJob = some job ∧
      job.truckId = some truckId ∧ isHired r = true := by
  unfold transportCommitment at h
  split at h
  · next htype =>
      split at h
      · next hjobId hjob _ _ =>
          split at h
          · next htruck =>
              split at h
              · next hhired =>
                  simp only [Option.some.injEq, Prod.mk.injEq] at h
                  obtain ⟨rfl, rfl, rfl, -, -⟩ := h
                  exact ⟨htype, hjobId, hjob, htruck, hhired⟩
              · cases h
          · cases h
      · cases h
  · cases h

theorem claimTruck_trucks {jobId truckId : Id} {jobStatus : TransportStatus}
    (h : claimTruck jobId truckId jobStatus db = .ok db') :
    truckClaimable jobId truckId jobStatus db = true ∧
      db' = { db with trucks := db.trucks.update truckId ({ · with availability := .busy }) } := by
  unfold claimTruck at h
  unfold truckClaimable
  split at h
  · split at h <;> cases h
  · next truck htruck =>
      rw [htruck, Option.any_some]
      split at h
      · next havailable =>
          obtain rfl := Except.ok.inj h
          exact ⟨by simp [havailable], rfl⟩
      · next hbusy =>
          split at h
          · cases h
          · next hstatus =>
              split at h
              · cases h
              · next hfree =>
                  obtain rfl := Except.ok.inj h
                  refine ⟨by simp_all, ?_⟩
                  have hsame : db.trucks.update truckId ({ · with availability := .busy }) =
                      db.trucks := by
                    rw [Table.update_eq_self_iff htruck, ← hbusy]
                  rw [hsame]
      · cases h

/-- The writes of a received payment that commits the transport of its job. -/
structure TransportCommitted (env : Env) (jobId truckId quoteId : Id) (db db' : Db) : Prop where
  transportJobs : db'.transportJobs =
    db.transportJobs.update jobId ({ · with status := .accepted })
  transportQuotes : db'.transportQuotes = db.transportQuotes.update quoteId
    ({ · with expiresAt := some (siteDeadline env) })
  trucks : db'.trucks = db.trucks.update truckId ({ · with availability := .busy })
  loadingReports : db'.loadingReports = db.loadingReports

/-- The guards under which a received payment commits the transport of its job. -/
structure MayCommit (r : PaymentRecord) (jobId truckId quoteId : Id) (job : TransportJob)
    (quote : TransportQuote) (db : Db) : Prop where
  commitment : transportCommitment r = some (jobId, job, truckId, quoteId, quote)
  undisputed : receivedUnderDispute r = false
  status : job.status ∈ [TransportStatus.requested, .quoted, .accepted]
  aligned : transportAligned r.row jobId job quote = true
  claimable : truckClaimable jobId truckId job.status db = true

theorem recordPaid_sameTransport (env : Env) (r : PaymentRecord) (db : Db) :
    SameTransport db (recordPaid env r db) := by
  obtain ⟨payouts, purchases, ads, entries, -, hframe⟩ := recordPaid_frame env r db
  rw [hframe]
  exact ⟨rfl, rfl, rfl, rfl⟩

theorem withIssue_sameTransport (env : Env) (data : ReconciliationData) (db : Db) :
    SameTransport db (withIssue env data db) := by
  obtain ⟨events, hframe⟩ := withIssue_frame env data db
  rw [hframe]
  exact ⟨rfl, rfl, rfl, rfl⟩

theorem PaidEffects.sameTransport (h : PaidEffects env r db db')
    (hnot : transportCommitment r = none ∨ receivedUnderDispute r = true) :
    SameTransport db db' := by
  cases h with
  | underDispute data =>
      obtain ⟨entries, hentries⟩ := writeLedgerPaid_frame r db
      rw [hentries]
      refine SameTransport.trans ?_ (withIssue_sameTransport env data _)
      exact ⟨rfl, rfl, rfl, rfl⟩
  | afterCancellation order data =>
      exact (withIssue_sameTransport env data db).trans (recordPaid_sameTransport env r _)
  | transportAccepted _ _ _ _ _ _ hdispute hcommitment =>
      rcases hnot with hnone | hdisputed
      · rw [hnone] at hcommitment
        cases hcommitment
      · rw [hdisputed] at hdispute
        cases hdispute
  | _ =>
      refine SameTransport.trans ?_ (recordPaid_sameTransport env r _)
      exact ⟨rfl, rfl, rfl, rfl⟩

theorem applyPaid_transport (h : applyPaid env args r db = .ok db') :
    (transportCommitment r = none ∨ receivedUnderDispute r = true) ∧ SameTransport db db' ∨
      exists jobId job truckId quoteId quote, MayCommit r jobId truckId quoteId job quote db ∧
        TransportCommitted env jobId truckId quoteId db db' := by
  cases hcommitment : transportCommitment r with
  | none =>
      exact Or.inl ⟨Or.inl rfl, (applyPaid_effects h).sameTransport (Or.inl hcommitment)⟩
  | some c =>
      cases hdispute : receivedUnderDispute r with
      | true =>
          exact Or.inl ⟨Or.inr rfl, (applyPaid_effects h).sameTransport (Or.inr hdispute)⟩
      | false =>
          right
          obtain ⟨goods, transport, inspection, hgoods, htransport, hinspection, rfl⟩ :=
            applyPaid_stages hdispute h
          obtain ⟨jobId, job, truckId, quoteId, quote⟩ := c
          obtain ⟨htype, -⟩ := transportCommitment_hired hcommitment
          rw [settleGoods_of_ne env args (by simp [htype])] at hgoods
          obtain rfl := Except.ok.inj hgoods
          rw [commitInspection_of_none (inspectionCommitment_of_ne (by simp [htype]))] at hinspection
          obtain rfl := Except.ok.inj hinspection
          unfold commitTransport at htransport
          simp only [hcommitment] at htransport
          split at htransport
          · cases htransport
          · next hstatus =>
              split at htransport
              · next haligned =>
                  obtain ⟨claimed, hclaim, hwrite⟩ := bind_eq_ok.1 htransport
                  obtain ⟨hclaimable, rfl⟩ := claimTruck_trucks hclaim
                  obtain rfl := Except.ok.inj hwrite
                  have hrecorded := recordPaid_sameTransport env r (acceptTransport env jobId
                    quoteId job { db with
                      trucks := db.trucks.update truckId ({ · with availability := .busy }) })
                  exact ⟨jobId, job, truckId, quoteId, quote,
                    ⟨hcommitment, hdispute, not_not.1 hstatus, haligned, hclaimable⟩,
                    ⟨hrecorded.transportJobs, hrecorded.transportQuotes, hrecorded.trucks,
                      hrecorded.loadingReports⟩⟩
              · cases htransport

/-- A settlement writes no transport unless it commits that of its payment. -/
theorem settlePaymentCore_transport {p : Payment}
    (hp : db.payments.findUnique args.paymentId = some p)
    (h : settlePaymentCore env args db = .ok db') :
    SameTransport db db' ∧
        (args.status = .paid -> settlementWrites args db p = true ->
          transportCommitment (paymentRecord db args.paymentId p) = none ∨
            receivedUnderDispute (paymentRecord db args.paymentId p) = true) ∨
      args.status = .paid ∧ settlementWrites args db p = true ∧
        exists jobId job truckId quoteId quote,
          MayCommit (paymentRecord db args.paymentId p) jobId truckId quoteId job quote db ∧
          TransportCommitted env jobId truckId quoteId db db' := by
  cases settlePaymentCore_exit hp h with
  | flagged reason hreason =>
      have hissue := withIssue_sameTransport env
        (issueData (paymentRecord db args.paymentId p) args reason) db
      refine Or.inl ⟨?_, fun _ hwrites => ?_⟩
      · unfold flaggedDb
        dsimp only
        split
        · exact ⟨hissue.transportJobs, hissue.transportQuotes, hissue.trucks,
            hissue.loadingReports⟩
        · exact hissue
      · simp [settlementWrites, hreason] at hwrites
  | replayed _ hseen =>
      refine Or.inl ⟨.refl db, fun _ hwrites => ?_⟩
      simp [settlementWrites, hseen] at hwrites
  | ignored _ _ hignored =>
      obtain ⟨events, hevents⟩ := withEvent_frame args (paymentRecord db args.paymentId p) db
      refine Or.inl ⟨?_, fun _ hwrites => ?_⟩
      · rw [hevents]
        exact ⟨rfl, rfl, rfl, rfl⟩
      · simp [settlementWrites, hignored] at hwrites
  | written written _ hwrites hwritten heffects =>
      obtain ⟨events, rfl⟩ := hwritten.shape
      cases hstatus : args.status with
      | paid =>
          simp only [applyEffects, hstatus] at heffects
          rcases applyPaid_transport heffects with
            ⟨hnot, hsame⟩ | ⟨jobId, job, truckId, quoteId, quote, hmay, hcommitted⟩
          · exact Or.inl ⟨⟨hsame.transportJobs, hsame.transportQuotes, hsame.trucks,
              hsame.loadingReports⟩, fun _ _ => hnot⟩
          · exact Or.inr ⟨rfl, hwrites, jobId, job, truckId, quoteId, quote,
              ⟨hmay.commitment, hmay.undisputed, hmay.status, hmay.aligned, hmay.claimable⟩,
              ⟨hcommitted.transportJobs, hcommitted.transportQuotes, hcommitted.trucks,
                hcommitted.loadingReports⟩⟩
      | refunded =>
          simp only [applyEffects, hstatus] at heffects
          obtain rfl := Except.ok.inj heffects
          obtain ⟨purchases, entries, hframe⟩ := applyRefunded_frame
            (paymentRecord db args.paymentId p) _
          rw [hframe]
          exact Or.inl ⟨⟨rfl, rfl, rfl, rfl⟩, fun hpaid => by cases hpaid⟩
      | _ =>
          simp only [applyEffects, hstatus] at heffects
          obtain rfl := Except.ok.inj heffects
          exact Or.inl ⟨⟨rfl, rfl, rfl, rfl⟩, fun hpaid => by cases hpaid⟩

end Settlement

/-! ## Expiries and cancellations -/

theorem expireTransportJob_transport (env : Env) (event : OrderEventType)
    (statuses : List TransportQuoteStatus) (write : TransportJob -> TransportJob) (jobId : Id)
    (job : TransportJob) (db : Db) :
    SameTransport (releaseTruck job.truckId { db with
        transportJobs := db.transportJobs.update jobId write
        transportQuotes := db.transportQuotes.updateMany
          (fun _ quote => quote.transportJobId = jobId && quote.status ∈ statuses)
          ({ · with status := .expired }) })
      (expireTransportJob env event statuses write jobId job db) :=
  recordOrderEvent_sameTransport env (some job.orderId) event _

section OrderCancellation

variable {env : Env} {order : OrderRecord} {actorId : Option Id} {reason : Option String}
  {role : CancelledByRole} {db db' : Db}

theorem cancelOrderInTransaction_transport
    (h : cancelOrderInTransaction env order actorId reason role db = .ok db') :
    SameTransport (cancelTransport order db) db' := by
  obtain ⟨-, -, -, restored, refunded, hrestore, hrefunds, rfl⟩ :=
    cancelOrderInTransaction_eq_ok_iff.mp h
  obtain ⟨-, -, payments, refunds, events, hrequests⟩ := requestRefunds_refundsAdded hrefunds
  obtain ⟨offers, listings, -, hwinner⟩ := releaseWinner_frame env order refunded
  obtain ⟨listings', orders', hrestored, -⟩ := restoreGoods_eq_ok hrestore
  obtain ⟨events', hclosed⟩ := recordOrderEvent_frame env (some order.id) .orderCancelled
    { db with
      orders := (db.orders.update order.id ({ · with status := .cancelled })).update order.id
        ({ · with
          buyerDecisionDueAt := none
          cancelledWith := some (earnedInspections { db with
            orders := db.orders.update order.id ({ · with status := .cancelled }) } order.id) })
      obligations := db.obligations.updateMany
        (fun _ obligation => obligation.orderId = order.id && obligation.status = .open)
        ({ · with status := .cancelled }) }
  have htransport : SameTransport db restored := by
    rw [hrestored]
    unfold closedOrder closeOrder
    dsimp only
    rw [hclosed]
    exact ⟨rfl, rfl, rfl, rfl⟩
  have hcancel : SameTransport (cancelTransport order db) (cancelTransport order restored) := by
    unfold cancelTransport
    split
    · exact htransport
    · split
      · exact htransport
      · exact ⟨by simp only [htransport.transportJobs], by simp only [htransport.transportQuotes],
          by simp only [htransport.trucks], htransport.loadingReports⟩
  refine hcancel.trans ?_
  rw [hwinner, hrequests]
  unfold servicesClosed
  simp only [cancelPayoutsForOrder_eq, closeInstallmentPlans, cancelInspections]
  exact ⟨rfl, rfl, rfl, rfl⟩

end OrderCancellation

/-! ## Agreements -/

section Agreements

variable {env : Env} {db : Db}

theorem releaseAgreement_transportJobs (env : Env) (r : LoadedQuote) (fresh : TransportQuote)
    (db : Db) :
    (releaseAgreement env r fresh db).transportJobs =
      db.transportJobs.update fresh.transportJobId fun job =>
        if r.isAcceptedRelease then job.released r.isProviderRelease
        else { job with acceptedReleaseCount := job.acceptedReleaseCount + 1 } := by
  unfold releaseAgreement
  dsimp only
  rw [(recordOrderEvent_sameTransport env _ _ _).transportJobs]
  split
  · rw [(recordOrderEvent_sameTransport env _ _ _).transportJobs]
    rfl
  · rfl

variable {adminId requestId : Id}

theorem approveRecovery_transportJobs :
    (commit (approveRecovery env adminId requestId (fun _ db => .ok db) db) db).transportJobs =
      match recoveredJob db requestId with
      | none => db.transportJobs
      | some e => db.transportJobs.update e.1 TransportJob.recovered := by
  unfold approveRecovery recoveredJob
  cases hrequest : db.recoveryRequests.findUnique requestId with
  | none =>
      rfl
  | some request =>
      simp only
      by_cases hpending : request.status = .pending
      · by_cases hclosed : ((db.orders.findUnique request.orderId).any fun order =>
            order.status ∈ [OrderStatus.cancelled, .completed]) = true
        · simp only [hpending, hclosed, ne_eq, not_true_eq_false, if_false, if_true,
            Bool.not_true, Bool.false_eq_true, and_false, commit_error]
        · rw [Bool.not_eq_true] at hclosed
          by_cases htransport : request.type = .transport
          · simp only [hpending, hclosed, htransport, ne_eq, not_true_eq_false, if_false, if_true,
              Bool.not_false, Bool.false_eq_true, and_self]
            unfold recoverTransport
            cases hjob : transportJobOf db request.orderId with
            | none =>
                simp only [ok_bind, commit_ok, Option.filter_none]
                rw [(recordOrderEvent_sameTransport env _ _ _).transportJobs]
            | some e =>
                obtain ⟨jobId, job⟩ := e
                cases hpayment : hasTransportPayment db jobId [.pending, .processing, .paid] with
                | true =>
                    simp only [hpayment, if_true, error_bind, commit_error, Option.filter_some,
                      Bool.not_true, Bool.false_eq_true, if_false]
                | false =>
                    simp only [hpayment, Bool.false_eq_true, if_false, ok_bind, commit_ok,
                      Option.filter_some, Bool.not_false, if_true]
                    rw [(recordOrderEvent_sameTransport env _ _ _).transportJobs]
                    rfl
          · simp only [hpending, hclosed, htransport, ne_eq, not_true_eq_false, if_false,
              Bool.false_eq_true, false_and, and_false, ok_bind, commit_ok]
            rw [(recordOrderEvent_sameTransport env _ _ _).transportJobs]
      · simp only [hpending, ne_eq, not_false_eq_true, if_true, false_and, if_false, commit_error]

end Agreements

end MarketBridge
