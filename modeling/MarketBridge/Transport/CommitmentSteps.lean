import MarketBridge.Market.Money
import MarketBridge.Transport.Commitment

/-!
# What each operation does to the commitment of trucks

One lemma for each operation: under its condition it keeps the trucks with the
jobs that are committed to them.
-/

namespace MarketBridge

open Relational

/-! ## Frames -/

section Frames

variable {db db' : Db}

theorem Payment.FeeKept.of_eq (h : db'.payments = db.payments) :
    db.payments.Rel (Payment.FeeKept fun _ _ => false) db'.payments := by
  rw [h]
  exact .refl (Payment.FeeKept.refl _) _

theorem LinksOnly.feeKept (h : LinksOnly db db') :
    db.payments.Rel (Payment.FeeKept fun _ _ => false) db'.payments := by
  intro i
  have hi := h.payments i
  cases hp : db.payments.findUnique i with
  | none =>
      rw [hp, Option.map_none, Option.map_eq_none_iff] at hi
      rw [hi]
      exact .none
  | some p =>
      rw [hp, Option.map_some] at hi
      obtain ⟨p', hp', hsame⟩ := Option.map_eq_some_iff.1 hi
      have hcore : p'.unlinked.core = p.unlinked.core := congrArg Payment.core hsame
      have hstatus : p'.unlinked.status = p.unlinked.status := congrArg Payment.status hsame
      rw [hp']
      exact .some ⟨hcore, fun h => hstatus.symm.trans h, fun h _ => hstatus.trans h⟩

theorem Payment.Yields.feeKept {taken : Id -> Payment -> Bool} {back : Id -> Prop}
    (h : db.payments.Rel (Payment.Yields taken back) db'.payments) :
    db.payments.Rel (Payment.FeeKept taken) db'.payments :=
  h.mono fun _ _ _ hyields => ⟨hyields.core, hyields.received, hyields.kept⟩

theorem quotes_updateMany_kept {select : Id -> TransportQuote -> Bool} {s : TransportQuoteStatus}
    (hs : s.isLive = false) (quotes : Table TransportQuote) :
    quotes.Rel TransportQuote.Kept (quotes.updateMany select ({ · with status := s })) := by
  refine Table.rel_updateMany TransportQuote.Kept.refl fun i quote _ _ => ⟨rfl, fun hlive => ?_⟩
  rw [show ({ quote with status := s } : TransportQuote).status = s from rfl, hs] at hlive
  cases hlive

theorem releaseTruck_none (db : Db) : (releaseTruck none db).trucks = db.trucks := by
  unfold releaseTruck
  rw [Table.updateMany_eq_self_iff]
  intro i truck _ hselected
  simp at hselected

theorem committedTruck_ended {k : Id} {f : TransportJob -> TransportJob}
    (hjobs : db'.transportJobs = db.transportJobs.update k f)
    (hf : forall job, db.transportJobs.findUnique k = some job -> (f job).status.isActive = false) :
    committedTruck db' k = none := by
  refine committedTruck_of_inactive fun row hrow => ?_
  rw [hjobs, Table.findUnique_update_self] at hrow
  obtain ⟨job, hjob, rfl⟩ := Option.map_eq_some_iff.1 hrow
  exact hf job hjob

end Frames

section Operations

variable {env : Env} {db db' : Db}

/-! ## Expiries -/

theorem expireTransportJob_keepsTrucks {event : OrderEventType}
    {statuses : List TransportQuoteStatus} {write : TransportJob -> TransportJob} {jobId : Id}
    {job : TransportJob} (hlawful : (truckHoldings db).Lawful)
    (hjob : db.transportJobs.findUnique jobId = some job)
    (hwrite : forall row, (write row).orderId = row.orderId ∧ (write row).method = row.method ∧
      (write row).status = .cancelled)
    (halone : namesBusyTruck db jobId job.truckId = false) :
    KeepsTrucks db (expireTransportJob env event statuses write jobId job db) := by
  obtain ⟨hjobs, hquotes, htrucks, -⟩ :=
    expireTransportJob_transport env event statuses write jobId job db
  have hcancelled : forall row, (write row).status.isActive = false := by
    intro row
    rw [(hwrite row).2.2]
    rfl
  refine .ends hlawful hjob hjobs ⟨(hwrite job).1, (hwrite job).2.1, fun h => ?_⟩ htrucks ?_
    (Payment.FeeKept.of_eq ?_) (fun _ _ _ _ _ => rfl)
    (committedTruck_ended hjobs fun row _ => hcancelled row) halone
  · rw [(hwrite job).2.2] at h
    simp at h
  · rw [hquotes]
    exact quotes_updateMany_kept rfl _
  · unfold expireTransportJob
    rw [recordOrderEvent_payments]
    rfl

/-! ## Status changes -/

variable {jobId adminId orderId paymentId : Id} {r : CheckedStatusRequest} {loaded : LoadedQuote}

theorem finishStatusChange_transport (h : finishStatusChange r db = .ok db') :
    db'.transportJobs = db.transportJobs ∧ db'.transportQuotes = db.transportQuotes ∧
      db'.payments = db.payments ∧
      db'.trucks = if r.next ∈ [TransportStatus.delivered, .cancelled] then
        (releaseTruck r.job.truckId db).trucks else db.trucks := by
  unfold finishStatusChange at h
  cases hnext : r.next with
  | inTransit =>
      rw [hnext] at h
      obtain ⟨orders, hfollow⟩ := followGoods_eq_ok departurePath_isPath r.job.orderId db
      obtain rfl := Except.ok.inj (hfollow.symm.trans h)
      exact ⟨rfl, rfl, rfl, rfl⟩
  | delivered =>
      rw [hnext] at h
      obtain ⟨orders, hfollow⟩ := followGoods_eq_ok deliveryPath_isPath r.job.orderId db
      simp only [hfollow, ok_bind] at h
      obtain rfl := Except.ok.inj h
      exact ⟨rfl, rfl, rfl, rfl⟩
  | cancelled =>
      rw [hnext] at h
      obtain ⟨_, -, hwrite⟩ := bind_eq_ok.1 h
      obtain rfl := Except.ok.inj hwrite
      exact ⟨rfl, rfl, rfl, rfl⟩
  | _ =>
      rw [hnext] at h
      obtain rfl := Except.ok.inj h
      exact ⟨rfl, rfl, rfl, rfl⟩

theorem commitStatusRequest_transport (h : commitStatusRequest env r db = .ok db') :
    db'.transportJobs = db.transportJobs.update r.jobId (r.write env) ∧
      db.transportQuotes.Rel TransportQuote.Kept db'.transportQuotes ∧
      db.payments.Rel (Payment.FeeKept fun _ _ => false) db'.payments ∧
      db'.trucks = if r.next ∈ [TransportStatus.delivered, .cancelled] then
        (releaseTruck r.job.truckId db).trucks else db.trucks := by
  unfold commitStatusRequest at h
  obtain ⟨changed, hchange, hwrite⟩ := bind_eq_ok.1 h
  have hquiet : changed.transportJobs = db.transportJobs.update r.jobId (r.write env) ∧
      changed.transportQuotes = db.transportQuotes ∧
      db.payments.Rel (Payment.FeeKept fun _ _ => false) changed.payments ∧
      changed.trucks = if r.next ∈ [TransportStatus.delivered, .cancelled] then
        (releaseTruck r.job.truckId db).trucks else db.trucks := by
    have hcommits : r.commits db = true := by
      by_contra hnot
      rw [Bool.not_eq_true] at hnot
      obtain ⟨e, herror⟩ := commitStatusRequest_error env hnot
      unfold commitStatusRequest at herror
      rw [hchange] at herror
      cases herror
    obtain ⟨hopen, hrow, -⟩ := commits_eq_true_iff.1 hcommits
    rw [changeTransportStatus_eq hopen hrow] at hchange
    obtain ⟨hjobs, hquotes, hpayments, htrucks⟩ := finishStatusChange_transport hchange
    have hlinks := syncOrderPaymentObligations_linksOnly r.job.orderId { db with
      transportJobs := db.transportJobs.update r.jobId (r.write env) }
    obtain ⟨payments, obligations, hframe⟩ := hlinks.frame
    obtain ⟨events, hevents⟩ := recordOrderEvent_frame env (some r.job.orderId)
      .transportStatusChanged (syncOrderPaymentObligations r.job.orderId { db with
        transportJobs := db.transportJobs.update r.jobId (r.write env) })
    have hwritten : r.written env db = { syncOrderPaymentObligations r.job.orderId { db with
        transportJobs := db.transportJobs.update r.jobId (r.write env) } with
      orderEvents := events } := hevents
    rw [hwritten] at hjobs hquotes hpayments htrucks
    refine ⟨hjobs.trans ?_, hquotes.trans ?_, hpayments ▸ hlinks.feeKept, htrucks.trans ?_⟩
    · rw [hframe]
    · rw [hframe]
    · rw [hframe]
      rfl
  obtain ⟨hjobs, hquotes, hpayments, htrucks⟩ := hquiet
  obtain rfl := Except.ok.inj hwrite
  split
  · next hends =>
      refine ⟨hjobs, ?_, hpayments, htrucks.trans (if_pos hends)⟩
      rw [← hquotes]
      exact quotes_updateMany_kept rfl _
  · next hgoes =>
      refine ⟨hjobs, ?_, hpayments, htrucks.trans (if_neg hgoes)⟩
      rw [hquotes]
      exact .refl TransportQuote.Kept.refl _

theorem checkStatusRequest_eq_ok {r : StatusRequest} {checked : CheckedStatusRequest}
    (h : checkStatusRequest env r db = .ok checked) :
    db.transportJobs.findUnique r.jobId = some checked.job ∧ checked.toStatusRequest = r := by
  unfold checkStatusRequest at h
  split at h
  · cases h
  · next job hjob =>
      split at h
      · cases h
      · obtain ⟨_, -, h⟩ := bind_eq_ok.1 h
        split at h
        · obtain ⟨_, -, h⟩ := bind_eq_ok.1 h
          obtain rfl := Except.ok.inj h
          exact ⟨hjob, rfl⟩
        · cases h

theorem CheckedStatusRequest.goes_on (hnext : r.next ∉ [TransportStatus.delivered, .cancelled])
    (hwaits : r.job.status ∈ [TransportStatus.requested, .quoted] -> r.job.truckId = none) :
    (r.next.isActive = r.job.status.isActive ∨ r.job.truckId = none) ∧
      (r.next ∈ [TransportStatus.requested, .quoted] ->
        r.job.status ∈ [TransportStatus.requested, .quoted]) := by
  have hallowed := r.allowed
  revert hnext hwaits hallowed
  generalize r.job.status = s
  generalize r.next = t
  cases s <;> cases t <;>
    simp [TransportStatus.validTransitions, TransportStatus.isActive]

theorem changeStatusByRoute_keepsTrucks {r : StatusRequest} {job : TransportJob}
    (hlawful : (truckHoldings db).Lawful) (hdb : TransportConsistent db)
    (hjob : db.transportJobs.findUnique r.jobId = some job)
    (halone : r.next ∈ [TransportStatus.delivered, .cancelled] ->
      namesBusyTruck db r.jobId job.truckId = false)
    (h : changeStatusByRoute env r db = .ok db') :
    KeepsTrucks db db' := by
  unfold changeStatusByRoute at h
  obtain ⟨checked, hcheck, hcommit⟩ := bind_eq_ok.1 h
  obtain ⟨hrow, rfl⟩ := checkStatusRequest_eq_ok hcheck
  obtain rfl := Option.some.inj (hjob.symm.trans hrow)
  obtain ⟨hjobs, hquotes, hpayments, htrucks⟩ := commitStatusRequest_transport hcommit
  by_cases hends : checked.next ∈ [TransportStatus.delivered, .cancelled]
  · rw [if_pos hends] at htrucks
    refine .ends hlawful hjob hjobs ⟨rfl, rfl, fun hwaits => ?_⟩ htrucks hquotes hpayments
      (fun _ _ _ _ _ => rfl) (committedTruck_ended hjobs fun row _ => ?_) (halone hends)
    · exfalso
      change checked.next ∈ _ at hwaits
      revert hends hwaits
      generalize checked.next = t
      cases t <;> decide
    · change checked.next.isActive = false
      revert hends
      generalize checked.next = t
      cases t <;> decide
  · rw [if_neg hends] at htrucks
    obtain ⟨hactive, hwaiting⟩ := checked.goes_on hends (hdb.waiting _ _ hjob)
    have hwritten : db'.transportJobs.findUnique checked.jobId =
        some (checked.write env checked.job) := by
      rw [hjobs, Table.findUnique_update_self, hjob, Option.map_some]
    refine .update hlawful hjobs (fun row hrow => ?_) htrucks hquotes hpayments
      (fun _ _ _ _ _ => rfl) (Or.inl ?_)
    · obtain rfl := Option.some.inj (hjob.symm.trans hrow)
      exact ⟨rfl, rfl, fun hwaits => Or.inr ⟨hwaiting hwaits, rfl⟩⟩
    · unfold committedTruck isCommitted
      rw [hjob, hwritten, Option.bind_some, Option.bind_some,
        hasTransportPayment_kept hpayments fun _ _ _ => rfl]
      change (if (checked.next.isActive && _) = true then checked.job.truckId else none) = _
      rcases hactive with hsame | hnone
      · rw [hsame]
        rfl
      · rw [hnone]
        split <;> split <;> rfl

/-! ## Agreements -/

theorem unpaid_of_none {statuses : List PaymentStatus} (hpaid : .paid ∈ statuses)
    (h : hasTransportPayment db jobId statuses = false) :
    hasTransportPayment db jobId [.paid] = false := by
  unfold hasTransportPayment at h ⊢
  rw [Table.any_eq_false_iff] at h ⊢
  intro i p hp
  have hrow := h i p hp
  by_cases hstatus : p.status = .paid
  · simpa [hstatus, hpaid] using hrow
  · simp [hstatus]

theorem findLeafQuote_eq_some {quoteId : Id} {quote : TransportQuote}
    (h : findLeafQuote db quoteId = some quote) :
    db.transportQuotes.findUnique quoteId = some quote := by
  unfold findLeafQuote at h
  split at h
  · cases h
  · exact h

theorem loadTransportQuoteForNegotiation_eq_ok {r : QuoteRequest}
    (h : loadTransportQuoteForNegotiation r db = .ok loaded) :
    db.transportQuotes.findUnique r.quoteId = some loaded.quote ∧
      loaded.quote.transportJobId = r.jobId ∧ loaded.toQuoteRequest = r := by
  unfold loadTransportQuoteForNegotiation at h
  split at h
  · cases h
  · next quote hquote =>
      split at h
      · cases h
      · next hjob =>
          split at h
          · cases h
          · dsimp only at h
            simp only [guard_eq_ok] at h
            obtain ⟨-, -, h⟩ := h
            obtain rfl := Except.ok.inj h
            exact ⟨hquote, not_not.1 hjob, rfl⟩

theorem checkAccept_eq_ok {r : QuoteRequest} (h : checkAccept env r db = .ok loaded) :
    loadTransportQuoteForNegotiation r db = .ok loaded := by
  unfold checkAccept at h
  obtain ⟨loaded', hload, h⟩ := bind_eq_ok.1 h
  simp only [guard_eq_ok] at h
  obtain ⟨-, -, -, h⟩ := h
  obtain rfl := Except.ok.inj h
  exact hload

theorem checkRelease_eq_ok {r : ReleaseRequest} {updatedAt : Nat}
    (h : checkRelease env r updatedAt db = .ok loaded) :
    loadTransportQuoteForNegotiation r.toQuoteRequest db = .ok loaded := by
  unfold checkRelease at h
  obtain ⟨loaded', hload, h⟩ := bind_eq_ok.1 h
  simp only [guard_eq_ok] at h
  obtain ⟨-, -, -, h⟩ := h
  split at h
  · obtain ⟨_, -, h⟩ := bind_eq_ok.1 h
    obtain ⟨_, -, h⟩ := bind_eq_ok.1 h
    obtain rfl := Except.ok.inj h
    exact hload
  · obtain rfl := Except.ok.inj h
    exact hload

theorem committedTruck_unpaid {jobId : Id}
    (hhired : forall job, db.transportJobs.findUnique jobId = some job ->
      job.method = .hireTransporter)
    (hunpaid : hasTransportPayment db jobId [.paid] = false) :
    committedTruck db jobId = none := by
  unfold committedTruck isCommitted
  cases hjob : db.transportJobs.findUnique jobId with
  | none =>
      rfl
  | some job =>
      rw [Option.bind_some, hunpaid, hhired job hjob]
      simp

/-- The job of a live quote is for hire, also once it has been written. -/
theorem TransportConsistent.hired_of_quote (hdb : TransportConsistent db) {i : Id}
    {quote : TransportQuote} (hquote : db.transportQuotes.findUnique i = some quote)
    (hlive : quote.status.isLive = true) {f : TransportJob -> TransportJob}
    (hjobs : db'.transportJobs = db.transportJobs.update quote.transportJobId f)
    (hf : forall job, (f job).method = job.method) :
    (forall job, db.transportJobs.findUnique quote.transportJobId = some job ->
        job.method = .hireTransporter) ∧
      forall job, db'.transportJobs.findUnique quote.transportJobId = some job ->
        job.method = .hireTransporter := by
  obtain ⟨job, hjob, hmethod⟩ := hdb.hired i quote hquote hlive
  constructor
  · intro row hrow
    obtain rfl := Option.some.inj (hjob.symm.trans hrow)
    exact hmethod
  · intro row hrow
    rw [hjobs, Table.findUnique_update_self, hjob, Option.map_some] at hrow
    obtain rfl := Option.some.inj hrow
    exact (hf job).trans hmethod

theorem acceptQuote_keepsTrucks {r : QuoteRequest} (hlawful : (truckHoldings db).Lawful)
    (hdb : TransportConsistent db) (hcheck : checkAccept env r db = .ok loaded)
    (h : acceptQuote env loaded db = .ok db') :
    KeepsTrucks db db' := by
  obtain ⟨hrow, hof, rfl⟩ := loadTransportQuoteForNegotiation_eq_ok (checkAccept_eq_ok hcheck)
  obtain ⟨fresh, job, hlocked, hleaf, hstatus, hjob, hopen, rfl⟩ := acceptQuote_eq_ok h
  obtain rfl := Option.some.inj (hrow.symm.trans (findLeafQuote_eq_some hleaf))
  have hlive : loaded.quote.status.isLive = true := by
    revert hstatus
    generalize loaded.quote.status = s
    cases s <;> decide
  have hlinks := syncOrderPaymentObligations_linksOnly job.orderId
    (agreeOnQuote env loaded.quoteId loaded.quote loaded.quote.finalAmount db)
  have hsame := syncOrderPaymentObligations_sameTransport job.orderId
    (agreeOnQuote env loaded.quoteId loaded.quote loaded.quote.finalAmount db)
  have hpayments := hlinks.feeKept
  obtain ⟨hhired, hhired'⟩ := hdb.hired_of_quote hrow hlive hsame.transportJobs fun _ => rfl
  have hunpaid : hasTransportPayment db loaded.quote.transportJobId [.paid] = false := by
    rw [hof]
    exact unpaid_of_none (by decide) hlocked
  refine .update hlawful hsame.transportJobs (fun row _ => ⟨rfl, rfl, fun hwaits => ?_⟩)
    hsame.trucks ?_ hpayments (fun _ _ _ _ _ => rfl) (Or.inl ?_)
  · simp at hwaits
  · rw [hsame.transportQuotes]
    have haccepted : db.transportQuotes.Rel TransportQuote.Kept
        (db.transportQuotes.update loaded.quoteId ({ · with
          status := .accepted
          amount := loaded.quote.finalAmount
          expiresAt := none })) := by
      refine Table.rel_update TransportQuote.Kept.refl fun quote hquote => ⟨rfl, fun _ => ?_⟩
      obtain rfl := Option.some.inj (hrow.symm.trans hquote)
      exact hlive
    exact haccepted.trans (fun _ _ _ _ => .trans) (quotes_updateMany_kept rfl _)
  · rw [committedTruck_unpaid hhired hunpaid]
    refine committedTruck_unpaid hhired' ?_
    exact (hasTransportPayment_kept hpayments fun _ _ _ => rfl).trans hunpaid

theorem releaseAgreement_frame (env : Env) (r : LoadedQuote) (fresh : TransportQuote) (db : Db) :
    (releaseAgreement env r fresh db).trucks = db.trucks ∧
      (releaseAgreement env r fresh db).payments = db.payments ∧
      db.transportQuotes.Rel TransportQuote.Kept
        (releaseAgreement env r fresh db).transportQuotes := by
  have hquotes : db.transportQuotes.Rel TransportQuote.Kept
      (withdrawThread r.quoteId fresh db).transportQuotes := by
    have hquote : db.transportQuotes.Rel TransportQuote.Kept
        (db.transportQuotes.update r.quoteId ({ · with status := .withdrawn })) :=
      quotes_updateMany_kept rfl _
    exact hquote.trans (fun _ _ _ _ => .trans) (quotes_updateMany_kept rfl _)
  unfold releaseAgreement
  dsimp only
  rw [(recordOrderEvent_sameTransport env _ _ _).trucks,
    (recordOrderEvent_sameTransport env _ _ _).transportQuotes, recordOrderEvent_payments]
  split
  · rw [(recordOrderEvent_sameTransport env _ _ _).trucks,
      (recordOrderEvent_sameTransport env _ _ _).transportQuotes, recordOrderEvent_payments]
    exact ⟨rfl, rfl, hquotes⟩
  · exact ⟨rfl, rfl, hquotes⟩

theorem releaseQuote_keepsTrucks {r : ReleaseRequest} {updatedAt : Nat} {reads : ReleaseReads}
    (hlawful : (truckHoldings db).Lawful) (hdb : TransportConsistent db)
    (hcheck : checkRelease env r updatedAt db = .ok loaded)
    (h : releaseQuote env loaded reads db = .ok db') :
    KeepsTrucks db db' := by
  obtain ⟨hrow, -, hrequest⟩ :=
    loadTransportQuoteForNegotiation_eq_ok (checkRelease_eq_ok hcheck)
  rcases releaseQuote_eq_ok h with rfl | ⟨fresh, hleaf, hlocked, -, rfl⟩
  · exact .refl hlawful
  · have hfresh := findLeafQuote_eq_some hleaf
    rw [show loaded.quoteId = r.quoteId from congrArg QuoteRequest.quoteId hrequest] at hfresh
    obtain rfl := Option.some.inj (hrow.symm.trans hfresh)
    have hjobs := releaseAgreement_transportJobs env loaded loaded.quote db
    obtain ⟨htrucks, hpayments, hquotes⟩ := releaseAgreement_frame env loaded loaded.quote db
    have hfees := Payment.FeeKept.of_eq hpayments
    refine .update hlawful hjobs (fun row _ => ?_) htrucks hquotes hfees (fun _ _ _ _ _ => rfl)
      (Or.inl ?_)
    · split
      · exact ⟨rfl, rfl, fun _ => Or.inl rfl⟩
      · exact ⟨rfl, rfl, fun hwaits => Or.inr ⟨hwaits, rfl⟩⟩
    · cases haccepted : loaded.isAcceptedRelease with
      | true =>
          have hlive : loaded.quote.status.isLive = true := by
            rw [of_decide_eq_true haccepted]
            rfl
          simp only [haccepted, if_true] at hjobs
          obtain ⟨hhired, hhired'⟩ := hdb.hired_of_quote hrow hlive hjobs fun _ => rfl
          have hunpaid := unpaid_of_none (by decide) hlocked
          rw [committedTruck_unpaid hhired hunpaid]
          exact committedTruck_unpaid hhired'
            ((hasTransportPayment_kept hfees fun _ _ _ => rfl).trans hunpaid)
      | false =>
          simp only [haccepted, Bool.false_eq_true, if_false] at hjobs
          cases hjob : db.transportJobs.findUnique loaded.quote.transportJobId with
          | none =>
              rw [Table.update_eq_self_of_findUnique_eq_none hjob] at hjobs
              unfold committedTruck
              rw [hjobs, hjob]
              rfl
          | some job =>
              have hcounted := congrArg (fun t => t.findUnique loaded.quote.transportJobId) hjobs
              rw [Table.findUnique_update_self, hjob, Option.map_some] at hcounted
              exact committedTruck_of_row hjob hcounted rfl rfl rfl
                (hasTransportPayment_kept hfees fun _ _ _ => rfl)

/-! ## Recovery -/

theorem approveRecovery_frame {requestId : Id}
    (h : approveRecovery env adminId requestId (fun _ db => .ok db) db = .ok db') :
    db'.trucks = db.trucks ∧ db'.payments = db.payments ∧
      db.transportQuotes.Rel TransportQuote.Kept db'.transportQuotes := by
  have hquiet : forall (orderId : Id) (recovered : Db),
      recoverTransport orderId db = .ok recovered ->
        recovered.trucks = db.trucks ∧ recovered.payments = db.payments ∧
          db.transportQuotes.Rel TransportQuote.Kept recovered.transportQuotes := by
    intro orderId recovered hrecover
    unfold recoverTransport at hrecover
    split at hrecover
    · obtain rfl := Except.ok.inj hrecover
      exact ⟨rfl, rfl, .refl TransportQuote.Kept.refl _⟩
    · split at hrecover
      · cases hrecover
      · obtain rfl := Except.ok.inj hrecover
        exact ⟨rfl, rfl, quotes_updateMany_kept rfl _⟩
  unfold approveRecovery at h
  split at h
  · cases h
  · next request hrequest =>
      simp only [guard_eq_ok] at h
      obtain ⟨-, -, h⟩ := h
      have hrecovered : exists recovered : Db,
          recovered.trucks = db.trucks ∧ recovered.payments = db.payments ∧
          db.transportQuotes.Rel TransportQuote.Kept recovered.transportQuotes ∧
          db' = recordOrderEvent env (some request.orderId) .workflowRecoveryApproved
            { recovered with
              recoveryRequests := recovered.recoveryRequests.update requestId ({ · with
                status := .approved
                approvedById := some adminId
                formReleasedAt := some env.now }) } := by
        split at h
        · obtain ⟨recovered, hrecover, hwrite⟩ := bind_eq_ok.1 h
          obtain ⟨htrucks, hpayments, hquotes⟩ := hquiet request.orderId recovered hrecover
          exact ⟨recovered, htrucks, hpayments, hquotes, (Except.ok.inj hwrite).symm⟩
        · obtain ⟨recovered, hrecover, hwrite⟩ := bind_eq_ok.1 h
          obtain rfl := Except.ok.inj hrecover
          exact ⟨_, rfl, rfl, .refl TransportQuote.Kept.refl _, (Except.ok.inj hwrite).symm⟩
      obtain ⟨recovered, htrucks, hpayments, hquotes, rfl⟩ := hrecovered
      rw [(recordOrderEvent_sameTransport env _ _ _).trucks,
        (recordOrderEvent_sameTransport env _ _ _).transportQuotes, recordOrderEvent_payments]
      exact ⟨htrucks, hpayments, hquotes⟩

theorem approveRecovery_keepsTrucks {requestId : Id} (hlawful : (truckHoldings db).Lawful)
    (hfree : (recoveredJob db requestId).all fun job => !holdsBusyTruck db job.1)
    (h : approveRecovery env adminId requestId (fun _ db => .ok db) db = .ok db') :
    KeepsTrucks db db' := by
  obtain ⟨htrucks, hpayments, hquotes⟩ := approveRecovery_frame h
  have hjobs := @approveRecovery_transportJobs env db adminId requestId
  rw [h, commit_ok] at hjobs
  cases hrecovered : recoveredJob db requestId with
  | none =>
      rw [hrecovered] at hjobs
      exact .same hlawful hjobs htrucks hquotes (Payment.FeeKept.of_eq hpayments)
        fun _ _ _ _ => rfl
  | some e =>
      rw [hrecovered] at hjobs hfree
      rw [Option.all_some, Bool.not_eq_true'] at hfree
      exact .update hlawful hjobs (fun row _ => ⟨rfl, rfl, fun _ => Or.inl rfl⟩) htrucks hquotes
        (Payment.FeeKept.of_eq hpayments) (fun _ _ _ _ _ => rfl)
        (Or.inr ⟨committedTruck_ended hjobs fun _ _ => rfl, hfree⟩)

/-! ## Order cancellations -/

/-- The cancellation of the order leaves no truck without its job or with another one. -/
def cancelsTruckWell (load : OrderLoad) (db : Db) (orderId : Id) : Bool :=
  (transportJobOf db orderId).all fun job =>
    job.2.status ∈ [TransportStatus.delivered, .cancelled] ||
      match load with
      | .included => !namesBusyTruck db job.1 job.2.truckId
      | .selected => !holdsBusyTruck db job.1

theorem TransportConsistent.not_reclaimed (hdb : TransportConsistent db) {load : OrderLoad}
    {order : Order} {record : OrderRecord} (hloaded : IsLoaded load db orderId order record)
    {j i : Id} {p : Payment} (hj : forall job, transportJobOf db orderId = some job -> j ≠ job.1)
    (hfee : IsPaidFee db j i p) :
    isReclaimed record db i p = false := by
  obtain ⟨hp, hof, -⟩ := hfee
  simp only [isTransportPaymentOf, Bool.and_eq_true, decide_eq_true_eq] at hof
  obtain ⟨job, hjob, horder⟩ := hdb.owned i p hp hof.2 j hof.1
  have hother : p.orderId ≠ some record.id := by
    intro hsame
    have hmine : job.orderId = orderId :=
      (Option.some.inj (horder.symm.trans hsame)).trans hloaded.id
    cases hfound : transportJobOf db orderId with
    | none =>
        have hnone := Table.findFirst_eq_none_iff.1 hfound j job hjob
        simp [hmine] at hnone
    | some e =>
        obtain ⟨hrow, hsel⟩ := Table.findFirst_eq_some hfound
        refine hj e hfound (hdb.perOrder j e.1 job e.2 hjob hrow ?_)
        rw [hmine, of_decide_eq_true hsel]
  by_contra hreclaimed
  rw [Bool.not_eq_false] at hreclaimed
  simp only [isReclaimed, Bool.or_eq_true, Bool.and_eq_true, decide_eq_true_eq] at hreclaimed
  rcases hreclaimed with hmem | ⟨hsame, -⟩
  · obtain ⟨q, hq, -, ⟨hsame, -⟩ | ⟨⟨row, hrow, hrefund⟩, -⟩⟩ := mem_cancellationRefunds.1 hmem
    · obtain rfl := Option.some.inj (hp.symm.trans hq)
      exact hother hsame
    · obtain rfl := Option.some.inj (hp.symm.trans hq)
      rw [hloaded.transportJob] at hrow
      obtain ⟨e, he, rfl⟩ := Option.map_eq_some_iff.1 hrow
      exact hj e he (Option.some.inj (hof.1.symm.trans hrefund))
  · exact hother hsame

theorem cancelLoadedOrder_keepsTrucks {load : OrderLoad} {actorId : Option Id}
    {reason : Option String} {role : CancelledByRole} (hlawful : (truckHoldings db).Lawful)
    (hdb : TransportConsistent db) (hwell : cancelsTruckWell load db orderId = true)
    (h : cancelLoadedOrder env load orderId actorId reason role db = .ok db') :
    KeepsTrucks db db' := by
  unfold cancelLoadedOrder at h
  split at h
  · cases h
  · next record hrecord =>
      obtain ⟨order, hloaded⟩ := loadOrder_eq_some hrecord
      obtain ⟨hjobs, hquotes, htrucks, -⟩ := cancelOrderInTransaction_transport h
      have hpayments := Payment.Yields.feeKept (cancelOrder_yields h)
      have hothers := fun j i p => hdb.not_reclaimed (j := j) (i := i) (p := p) hloaded
      unfold cancelTransport at hjobs hquotes htrucks
      rw [hloaded.transportJob] at hjobs hquotes htrucks
      unfold cancelsTruckWell at hwell
      cases hfound : transportJobOf db orderId with
      | none =>
          rw [hfound, Option.map_none] at hjobs hquotes htrucks
          refine .same hlawful hjobs htrucks (hquotes ▸ .refl TransportQuote.Kept.refl _)
            hpayments fun j i p => hothers j i p fun job hjob => ?_
          rw [hfound] at hjob
          cases hjob
      | some e =>
          obtain ⟨jobId, job⟩ := e
          have hrest : forall j i p, j ≠ jobId -> IsPaidFee db j i p ->
              isReclaimed record db i p = false := by
            refine fun j i p hj => hothers j i p fun e he => ?_
            rw [hfound] at he
            obtain rfl := Option.some.inj he
            exact hj
          have hrow := (Table.findFirst_eq_some hfound).1
          rw [hfound, Option.all_some] at hwell
          rw [hfound] at hjobs hquotes htrucks
          simp only [Option.map_some] at hjobs hquotes htrucks
          by_cases hover : job.status ∈ [TransportStatus.delivered, .cancelled]
          · simp only [hover, if_true] at hjobs hquotes htrucks
            refine .update (k := jobId) (f := id) hlawful ?_ (fun _ _ => .refl _ _) htrucks
              (hquotes ▸ .refl TransportQuote.Kept.refl _) hpayments hrest (Or.inl ?_)
            · rw [hjobs, eq_comm, Table.update_eq_self_iff hrow]
              rfl
            · have hidle : job.status.isActive = false := by
                revert hover
                generalize job.status = s
                cases s <;> decide
              have hnone : forall rows : Db, rows.transportJobs = db.transportJobs ->
                  committedTruck rows jobId = none := by
                intro rows hsame
                refine committedTruck_of_inactive fun row hfind => ?_
                rw [hsame] at hfind
                obtain rfl := Option.some.inj (hrow.symm.trans hfind)
                exact hidle
              rw [hnone db' hjobs, hnone db rfl]
          · simp only [hover, if_false] at hjobs hquotes htrucks
            simp only [hover, decide_false, Bool.false_or] at hwell
            have hended : committedTruck db' jobId = none :=
              committedTruck_ended hjobs fun _ _ => rfl
            have hcancelled : TransportJob.Kept jobId job
                { job with status := .cancelled, workflowDueAt := none } :=
              ⟨rfl, rfl, fun hwaits => by simp at hwaits⟩
            have hrejected : db.transportQuotes.Rel TransportQuote.Kept db'.transportQuotes := by
              rw [hquotes]
              exact quotes_updateMany_kept rfl _
            cases load with
            | included =>
                rw [Bool.not_eq_true'] at hwell
                exact .ends hlawful hrow hjobs hcancelled htrucks hrejected hpayments hrest hended
                  hwell
            | selected =>
                rw [Bool.not_eq_true'] at hwell
                refine .update hlawful hjobs (fun row hfind => ?_)
                  (htrucks.trans (releaseTruck_none db)) hrejected hpayments hrest
                  (Or.inr ⟨hended, hwell⟩)
                obtain rfl := Option.some.inj (hrow.symm.trans hfind)
                exact hcancelled

/-! ## Disputes -/

theorem hasTransportPayment_of_paid {p : Payment} (hp : db.payments.findUnique paymentId = some p)
    (hpaid : p.status = .paid) (htype : p.type = .transport)
    (hjob : p.transportJobId = some jobId) :
    hasTransportPayment db jobId [.paid] = true := by
  unfold hasTransportPayment
  rw [Table.any_eq_true_iff]
  exact ⟨paymentId, p, hp, by simp [hpaid, htype, hjob]⟩

/-- The truck of a received fee is claimed already, so a replay writes no job and no truck. -/
theorem replayTransport_transport (env : Env) {p : Payment} {replayed : Db}
    (hlawful : (truckHoldings db).Lawful) (hdb : TransportConsistent db)
    (hp : db.payments.findUnique paymentId = some p) (hpaid : p.status = .paid)
    (hsame : SameTransport db replayed) :
    (replayTransport env (paymentRecord db paymentId p) replayed).transportJobs =
        db.transportJobs ∧
      (replayTransport env (paymentRecord db paymentId p) replayed).trucks = db.trucks ∧
      db.transportQuotes.Rel TransportQuote.Kept
        (replayTransport env (paymentRecord db paymentId p) replayed).transportQuotes := by
  unfold replayTransport
  split
  · next jobId job quoteId quote htype hjobId hjob _ _ =>
      split
      · next hreplays =>
          simp only [Bool.and_eq_true, decide_eq_true_eq, quoteAligned] at hreplays
          obtain ⟨⟨hhired, hstatus⟩, ⟨-, htruck⟩, -⟩ := hreplays
          change related db.transportJobs p.transportJobId = some job at hjob
          rw [show p.transportJobId = some jobId from hjobId, related_some] at hjob
          have haccepted : job.status = .accepted := by
            by_contra hnot
            have hwaits : job.status ∈ [TransportStatus.requested, .quoted] := by
              revert hstatus hnot
              generalize job.status = s
              cases s <;> decide
            rw [hdb.waiting jobId job hjob hwaits] at htruck
            cases htruck
          have hheld : committedTruck db jobId = some quote.truckId := by
            refine committedTruck_eq_some.2 ⟨job, hjob, ?_, htruck.symm⟩
            unfold isCommitted
            rw [haccepted, hasTransportPayment_of_paid hp hpaid htype hjobId]
            simp [TransportStatus.isActive]
          have htrucks : (db.trucks.updateMany
              (fun i truck => some i = job.truckId && truck.availability = .available)
              ({ · with availability := .busy })) = db.trucks := by
            rw [Table.updateMany_eq_self_iff]
            intro i truck hrow hselected
            simp only [Bool.and_eq_true, decide_eq_true_eq] at hselected
            rw [← htruck, Option.some.injEq] at hselected
            refine absurd ?_ (hlawful.occupied jobId quote.truckId hheld)
            change hasAvailability db quote.truckId _ = true
            unfold hasAvailability
            rw [← hselected.1, hrow, Option.any_some, hselected.2]
            rfl
          refine ⟨?_, ?_, ?_⟩
          · change replayed.transportJobs.update jobId ({ · with status := .accepted }) = _
            rw [hsame.transportJobs, Table.update_eq_self_iff hjob, ← haccepted]
          · change replayed.trucks.updateMany _ _ = _
            rw [hsame.trucks]
            exact htrucks
          · change db.transportQuotes.Rel _ (replayed.transportQuotes.update quoteId _)
            rw [hsame.transportQuotes]
            exact Table.rel_update TransportQuote.Kept.refl fun _ _ => ⟨rfl, id⟩
      · rw [hsame.transportJobs, hsame.trucks, hsame.transportQuotes]
        exact ⟨rfl, rfl, .refl TransportQuote.Kept.refl _⟩
  · rw [hsame.transportJobs, hsame.trucks, hsame.transportQuotes]
    exact ⟨rfl, rfl, .refl TransportQuote.Kept.refl _⟩

theorem replayGoods_sameTransport {r : PaymentRecord} (h : replayGoods env r db = .ok db') :
    SameTransport db db' := by
  unfold replayGoods at h
  split at h
  · obtain ⟨moved, hmove, hhold⟩ := bind_eq_ok.1 h
    obtain rfl := Except.ok.inj hhold
    have hmoved : SameTransport db moved := by
      unfold confirmWaitingOrder at hmove
      split at hmove
      · obtain ⟨committed, hcommit, htransition⟩ := bind_eq_ok.1 hmove
        obtain ⟨_, _, _, -, rfl⟩ := commitGoods_eq_ok hcommit
        obtain ⟨-, -, rfl⟩ := transitionOrderStatus_eq_ok_iff.1 htransition
        exact ⟨rfl, rfl, rfl, rfl⟩
      · obtain rfl := Except.ok.inj hmove
        exact .refl db
    refine hmoved.trans ?_
    obtain ⟨payouts, -, hhold⟩ := createPayoutHold_frame env _ _ _ r.id r.row moved
    rw [hhold]
    exact ⟨rfl, rfl, rfl, rfl⟩
  · obtain rfl := Except.ok.inj h
    exact .refl db

theorem replayDisputedPaidPayment_keepsTrucks (hlawful : (truckHoldings db).Lawful)
    (hdb : TransportConsistent db) (h : replayDisputedPaidPayment env paymentId db = .ok db') :
    KeepsTrucks db db' := by
  have hmoney := (replayDisputedPaidPayment_moneyKept h).payments
  unfold replayDisputedPaidPayment at h
  split at h
  · obtain rfl := Except.ok.inj h
    exact .refl hlawful
  · next p hp =>
      dsimp only at h
      split at h
      · next hpaid =>
          obtain ⟨replayed, hgoods, hrest⟩ := bind_eq_ok.1 h
          obtain rfl := Except.ok.inj hrest
          obtain ⟨hjobs, htrucks, hquotes⟩ := replayTransport_transport env hlawful hdb
            hp hpaid.1 (replayGoods_sameTransport hgoods)
          have hheld : SameTransport
              (replayTransport env (paymentRecord db paymentId p) replayed)
              (holdInspectionPayout env (paymentRecord db paymentId p)
                (replayInspection (paymentRecord db paymentId p)
                  (holdTransportPayout env (paymentRecord db paymentId p)
                    (replayTransport env (paymentRecord db paymentId p) replayed)))) := by
            obtain ⟨_, -, htransport⟩ := holdTransportPayout_frame env
              (paymentRecord db paymentId p)
              (replayTransport env (paymentRecord db paymentId p) replayed)
            rw [htransport]
            obtain ⟨_, -, hinspection⟩ := holdInspectionPayout_frame env
              (paymentRecord db paymentId p) (replayInspection (paymentRecord db paymentId p)
                { replayTransport env (paymentRecord db paymentId p) replayed with
                  payouts := _ })
            rw [hinspection]
            unfold replayInspection
            split
            · exact ⟨rfl, rfl, rfl, rfl⟩
            · split <;> exact ⟨rfl, rfl, rfl, rfl⟩
          exact .same hlawful (hheld.transportJobs.trans hjobs) (hheld.trucks.trans htrucks)
            (hheld.transportQuotes ▸ hquotes) (Payment.FeeKept.of_eq hmoney) fun _ _ _ _ => rfl
      · obtain rfl := Except.ok.inj h
        exact .refl hlawful

def cancelsServiceWell (dispute : Dispute) (db : Db) : Bool :=
  affectedService db dispute ≠ .transport ||
    (transportJobOf db dispute.orderId).all fun job => !holdsBusyTruck db job.1

theorem cancelTransportService_keepsTrucks (hlawful : (truckHoldings db).Lawful)
    (hfree : (transportJobOf db orderId).all fun job => !holdsBusyTruck db job.1)
    (h : cancelTransportService orderId db = .ok db') :
    KeepsTrucks db db' := by
  unfold cancelTransportService at h
  split at h
  · obtain rfl := Except.ok.inj h
    exact .refl hlawful
  · next jobId job hjob =>
      split at h
      · obtain rfl := Except.ok.inj h
        exact .refl hlawful
      · obtain ⟨_, -, hwrite⟩ := bind_eq_ok.1 h
        obtain rfl := Except.ok.inj hwrite
        rw [hjob, Option.all_some, Bool.not_eq_true'] at hfree
        refine .update (k := jobId) hlawful rfl (fun row _ => ⟨rfl, rfl, fun _ => Or.inl rfl⟩) rfl
          (quotes_updateMany_kept rfl _) (Payment.FeeKept.of_eq rfl) (fun _ _ _ _ _ => rfl)
          (Or.inr ⟨committedTruck_ended rfl fun _ _ => rfl, hfree⟩)

theorem cancelService_keepsTrucks {dispute : Dispute} (hlawful : (truckHoldings db).Lawful)
    (hwell : cancelsServiceWell dispute db = true) (h : cancelService dispute db = .ok db') :
    KeepsTrucks db db' := by
  unfold cancelService at h
  cases hservice : affectedService db dispute with
  | inspection =>
      simp only [hservice] at h
      have hquiet : SameTransport db db' ∧ db'.payments = db.payments := by
        unfold cancelInspectionServices at h
        refine foldlM_preserves (P := fun s => SameTransport db s ∧ s.payments = db.payments)
          ?_ ⟨.refl db, rfl⟩ h
        rintro s _ s' ⟨hsame, hpayments⟩ hcancel
        obtain ⟨_, _, rfl⟩ := refundServicePayments_frame hcancel
        exact ⟨⟨hsame.transportJobs, hsame.transportQuotes, hsame.trucks,
          hsame.loadingReports⟩, hpayments⟩
      obtain ⟨hsame, hpayments⟩ := hquiet
      exact .same hlawful hsame.transportJobs hsame.trucks
        (hsame.transportQuotes ▸ .refl TransportQuote.Kept.refl _)
        (Payment.FeeKept.of_eq hpayments) fun _ _ _ _ => rfl
  | transport =>
      simp only [hservice] at h
      refine cancelTransportService_keepsTrucks hlawful ?_ h
      unfold cancelsServiceWell at hwell
      rw [hservice] at hwell
      simpa using hwell
  | goods =>
      simp only [hservice] at h
      obtain rfl := Except.ok.inj h
      exact .refl hlawful

theorem restoreOrder_keepsTrucks {dispute : Dispute} (hlawful : (truckHoldings db).Lawful)
    (hdb : TransportConsistent db) (h : restoreOrder env dispute db = .ok db') :
    KeepsTrucks db db' := by
  unfold restoreOrder at h
  obtain ⟨restored, hmove, hreplay⟩ := bind_eq_ok.1 h
  obtain ⟨-, -, rfl⟩ := transitionOrderStatus_eq_ok_iff.1 hmove
  refine foldlM_preserves (P := KeepsTrucks db) (fun s _ s' hs hstep => hs.trans
    (replayDisputedPaidPayment_keepsTrucks hs.holdings.lawful (hs.kept.consistent hdb) hstep))
    ?_ hreplay
  rw [resumeAfterDispute_eq]
  exact .same hlawful rfl rfl (.refl TransportQuote.Kept.refl _) (Payment.FeeKept.of_eq rfl)
    fun _ _ _ _ => rfl

/-- The decision on the dispute leaves no truck without its job or with another one. -/
def resolvesWell (db : Db) (disputeId : Id) (resolutionType : ResolutionType) : Bool :=
  (db.disputes.findUnique disputeId).all fun dispute =>
    match resolutionType with
    | .cancelOrder => cancelsTruckWell .included db dispute.orderId
    | .cancelService => cancelsServiceWell dispute db
    | .dismissed => true

theorem resolveDispute_keepsTrucks {disputeId : Id} {resolutionType : ResolutionType}
    {resolution : String} (hlawful : (truckHoldings db).Lawful) (hdb : TransportConsistent db)
    (hwell : resolvesWell db disputeId resolutionType = true)
    (h : resolveDispute env adminId disputeId resolutionType resolution db = .ok db') :
    KeepsTrucks db db' := by
  obtain ⟨dispute, resolved, hresolvable, happly, -, rfl⟩ := resolveDispute_eq_ok h
  have hresolved : KeepsTrucks db resolved := by
    unfold resolvesWell at hwell
    rw [hresolvable.found, Option.all_some] at hwell
    unfold applyResolution at happly
    cases resolutionType with
    | cancelOrder =>
        exact cancelLoadedOrder_keepsTrucks hlawful hdb hwell happly
    | dismissed =>
        exact restoreOrder_keepsTrucks hlawful hdb happly
    | cancelService =>
        simp only at happly
        split at happly
        · cases happly
        · obtain ⟨served, hservice, hrestore⟩ := bind_eq_ok.1 happly
          have hserved := cancelService_keepsTrucks hlawful hwell hservice
          exact hserved.trans (restoreOrder_keepsTrucks hserved.holdings.lawful
            (hserved.kept.consistent hdb) hrestore)
  exact hresolved.trans (.same hresolved.holdings.lawful rfl rfl
    (.refl TransportQuote.Kept.refl _) (Payment.FeeKept.of_eq rfl) fun _ _ _ _ => rfl)

end Operations

end MarketBridge
