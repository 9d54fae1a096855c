import MarketBridge.Transport.CommitmentSteps
import MarketBridge.Transport.OpenSettlement

/-!
# Settlements and the commitment of trucks

A settlement of a transport fee commits its job when the fee becomes received and
ends the commitment when the fee is received no longer.  This file says when the
truck follows, for a settlement in one piece and for one whose statements come
between those of others.
-/

namespace MarketBridge

open Relational

/-! ## The truck of a fee -/

def isPaidBeside (db : Db) (paymentId jobId : Id) : Bool :=
  db.payments.any fun i q => i ≠ paymentId && isTransportPaymentOf jobId q && q.status = .paid

def truckOfFee (db : Db) (paymentId : Id) (p : Payment) : Option (Id × Id) :=
  if p.type = .transport then
    p.transportJobId.bind fun jobId => (db.transportJobs.findUnique jobId).bind fun job =>
      if job.status.isActive && job.method = .hireTransporter && !isPaidBeside db paymentId jobId
      then job.truckId.map fun truckId => (jobId, truckId)
      else none
  else
    none

section Fees

variable {db db' : Db} {paymentId jobId truckId : Id} {p : Payment} {f : Payment -> Payment}

theorem hasTransportPayment_split (hp : db.payments.findUnique paymentId = some p) :
    hasTransportPayment db jobId [.paid] =
      (isPaidBeside db paymentId jobId || isTransportPaymentOf jobId p && p.status = .paid) := by
  unfold hasTransportPayment isPaidBeside
  rw [Bool.eq_iff_iff, Bool.or_eq_true, Table.any_eq_true_iff, Table.any_eq_true_iff]
  simp only [List.mem_singleton, Bool.and_eq_true, decide_eq_true_eq, isTransportPaymentOf]
  constructor
  · rintro ⟨i, q, hq, hof, hpaid⟩
    by_cases hi : i = paymentId
    · subst hi
      obtain rfl := Option.some.inj (hp.symm.trans hq)
      exact Or.inr ⟨hof, hpaid⟩
    · exact Or.inl ⟨i, q, hq, ⟨hi, hof⟩, hpaid⟩
  · rintro (⟨i, q, hq, ⟨-, hof⟩, hpaid⟩ | ⟨hof, hpaid⟩)
    · exact ⟨i, q, hq, hof, hpaid⟩
    · exact ⟨paymentId, p, hp, hof, hpaid⟩

theorem isPaidBeside_update (hpayments : db'.payments = db.payments.update paymentId f) :
    isPaidBeside db' paymentId jobId = isPaidBeside db paymentId jobId := by
  unfold isPaidBeside
  rw [hpayments, Bool.eq_iff_iff, Table.any_eq_true_iff, Table.any_eq_true_iff]
  simp only [Bool.and_eq_true, decide_eq_true_eq]
  constructor
  · rintro ⟨i, q, hq, ⟨hi, hof⟩, hpaid⟩
    rw [Table.findUnique_update_ne hi] at hq
    exact ⟨i, q, hq, ⟨hi, hof⟩, hpaid⟩
  · rintro ⟨i, q, hq, ⟨hi, hof⟩, hpaid⟩
    refine ⟨i, q, ?_, ⟨hi, hof⟩, hpaid⟩
    rw [Table.findUnique_update_ne hi]
    exact hq

theorem truckOfFee_eq_some (h : truckOfFee db paymentId p = some (jobId, truckId)) :
    isTransportPaymentOf jobId p = true ∧
      exists job, db.transportJobs.findUnique jobId = some job ∧ job.status.isActive = true ∧
        job.method = .hireTransporter ∧ isPaidBeside db paymentId jobId = false ∧
        job.truckId = some truckId := by
  unfold truckOfFee at h
  split at h
  · next htype =>
      rw [Option.bind_eq_some_iff] at h
      obtain ⟨jobId', hjobId, h⟩ := h
      rw [Option.bind_eq_some_iff] at h
      obtain ⟨job, hjob, h⟩ := h
      split at h
      · next hcond =>
          rw [Option.map_eq_some_iff] at h
          obtain ⟨truckId', htruck, hpair⟩ := h
          obtain ⟨rfl, rfl⟩ := Prod.mk.inj hpair
          simp only [Bool.and_eq_true, decide_eq_true_eq, Bool.not_eq_true'] at hcond
          exact ⟨by simp [isTransportPaymentOf, hjobId, htype], job, hjob, hcond.1.1, hcond.1.2,
            hcond.2, htruck⟩
      · cases h
  · cases h

theorem committedTruck_of_fee (hp : db.payments.findUnique paymentId = some p)
    (h : truckOfFee db paymentId p = some (jobId, truckId)) :
    committedTruck db jobId = if p.status = .paid then some truckId else none := by
  obtain ⟨hof, job, hjob, hactive, hmethod, hbeside, htruck⟩ := truckOfFee_eq_some h
  unfold committedTruck isCommitted
  rw [hjob, Option.bind_some, hasTransportPayment_split hp, hactive, hmethod, hbeside, hof]
  by_cases hpaid : p.status = .paid
  · simp [hpaid, htruck]
  · simp [hpaid]

theorem committedTruck_beside (jobId : Id) (hp : db.payments.findUnique paymentId = some p)
    (hjobs : db'.transportJobs = db.transportJobs)
    (hpayments : db'.payments = db.payments.update paymentId f) (hcore : (f p).core = p.core)
    (hother : forall truckId, truckOfFee db paymentId p ≠ some (jobId, truckId)) :
    committedTruck db' jobId = committedTruck db jobId := by
  have hp' : db'.payments.findUnique paymentId = some (f p) := by
    rw [hpayments, Table.findUnique_update_self, hp, Option.map_some]
  have hof : isTransportPaymentOf jobId (f p) = isTransportPaymentOf jobId p := by
    unfold isTransportPaymentOf
    rw [Payment.core_transportJobId hcore, Payment.core_type hcore]
  unfold committedTruck isCommitted
  rw [hjobs, hasTransportPayment_split hp, hasTransportPayment_split hp',
    isPaidBeside_update hpayments, hof]
  cases hjob : db.transportJobs.findUnique jobId with
  | none =>
      rfl
  | some job =>
      rw [Option.bind_some, Option.bind_some]
      cases hmine : isTransportPaymentOf jobId p with
      | false =>
          simp only [Bool.false_and]
      | true =>
          -- whatever keeps the fee from deciding also settles the commitment
          unfold truckOfFee at hother
          simp only [isTransportPaymentOf, Bool.and_eq_true, decide_eq_true_eq] at hmine
          simp only [hmine, if_true, Option.bind_some, hjob] at hother
          cases htruck : job.truckId with
          | none =>
              split <;> split <;> rfl
          | some truckId =>
              cases hactive : job.status.isActive with
              | false =>
                  simp only [Bool.false_and]
              | true =>
                  cases hmethod : job.method with
                  | ownTruck =>
                      simp
                  | hireTransporter =>
                      cases hbeside : isPaidBeside db paymentId jobId with
                      | true =>
                          simp
                      | false =>
                          refine absurd ?_ (hother truckId)
                          simp [hactive, hmethod, hbeside, htruck]

theorem truckOfFee_update (hjobs : db'.transportJobs = db.transportJobs)
    (hpayments : db'.payments = db.payments.update paymentId f) (hcore : (f p).core = p.core) :
    truckOfFee db' paymentId (f p) = truckOfFee db paymentId p := by
  unfold truckOfFee
  rw [Payment.core_type hcore, Payment.core_transportJobId hcore, hjobs]
  simp only [isPaidBeside_update hpayments]

/-- The write of a payment that changes no job and no truck. -/
theorem keepsTrucks_of_payment (hlawful : (truckHoldings db).Lawful)
    (hp : db.payments.findUnique paymentId = some p)
    (hjobs : db'.transportJobs = db.transportJobs) (htrucks : db'.trucks = db.trucks)
    (hquotes : db'.transportQuotes = db.transportQuotes)
    (hpayments : db'.payments = db.payments.update paymentId f) (hcore : (f p).core = p.core)
    (hgains : forall jobId truckId, truckOfFee db paymentId p = some (jobId, truckId) ->
      p.status ≠ .paid -> (f p).status = .paid -> couldHold db jobId truckId = true)
    (hloses : forall jobId truckId, truckOfFee db paymentId p = some (jobId, truckId) ->
      p.status = .paid -> (f p).status ≠ .paid -> hasAvailability db truckId .busy = false) :
    KeepsTrucks db db' := by
  have hp' : db'.payments.findUnique paymentId = some (f p) := by
    rw [hpayments, Table.findUnique_update_self, hp, Option.map_some]
  have hbeside := fun jobId => committedTruck_beside jobId hp hjobs hpayments hcore
  have havail : forall r a, (hasAvailability db' r a = true ↔ hasAvailability db r a = true) := by
    intro r a
    rw [hasAvailability_congr htrucks]
  refine ⟨⟨hjobs ▸ .refl TransportJob.Kept.refl _, hquotes ▸ .refl TransportQuote.Kept.refl _,
    hpayments ▸ Table.rel_update Payment.SameCore.refl fun q hq => ?_⟩, ?_⟩
  · obtain rfl := Option.some.inj (hp.symm.trans hq)
    exact hcore
  · cases hfee : truckOfFee db paymentId p with
    | none =>
        refine hlawful.same (funext fun j => hbeside j fun truckId h => ?_) (fun r => havail r _)
          fun r => havail r _
        rw [hfee] at h
        cases h
    | some held =>
        obtain ⟨jobId, truckId⟩ := held
        have hbefore := committedTruck_of_fee hp hfee
        have hafter := committedTruck_of_fee hp'
          ((truckOfFee_update hjobs hpayments hcore).trans hfee)
        have hothers : forall j, j ≠ jobId -> committedTruck db' j = committedTruck db j := by
          intro j hj
          refine hbeside j fun truckId' h => hj ?_
          rw [hfee] at h
          exact (Prod.mk.inj (Option.some.inj h)).1.symm
        by_cases hreceived : (f p).status = .paid
        · rw [if_pos hreceived] at hafter
          by_cases hpaid : p.status = .paid
          · rw [if_pos hpaid] at hbefore
            refine hlawful.same (funext fun j => ?_) (fun r => havail r _) fun r => havail r _
            by_cases hj : j = jobId
            · subst hj
              exact hafter.trans hbefore.symm
            · exact hothers j hj
          · rw [if_neg hpaid] at hbefore
            have hcould := hgains jobId truckId hfee hpaid hreceived
            unfold couldHold at hcould
            rw [Bool.and_eq_true, Bool.not_eq_true', Bool.not_eq_true'] at hcould
            refine hlawful.hold (k := jobId) (q := truckId) hafter hothers (Or.inl hbefore)
              (isHeldElsewhere_eq_false.1 hcould.2) ?_ (fun r => havail r _) fun r => havail r _
            intro hfree
            rw [show hasAvailability db truckId .available = true from hfree] at hcould
            cases hcould.1
        · rw [if_neg hreceived] at hafter
          refine hlawful.drop (fun r => havail r _) (fun r => havail r _) fun j => ?_
          by_cases hj : j = jobId
          · subst hj
            refine Or.inr ⟨hafter, fun r hr hbusy => ?_⟩
            change committedTruck db j = some r at hr
            rw [hbefore] at hr
            split at hr
            · next hpaid =>
                obtain rfl := Option.some.inj hr
                have hinuse : hasAvailability db truckId .busy = true := hbusy
                rw [hloses j truckId hfee hpaid hreceived] at hinuse
                cases hinuse
            · cases hr
          · exact Or.inl (hothers j hj)

end Fees

/-! ## What a settlement comes to -/

namespace OpenSettlement

/-- The status that the settlement writes on its payment, if it writes one. -/
def nextStatus (s : OpenSettlement) (db : Db) : Option PaymentStatus :=
  if mismatchReason s.record.row s.args ≠ none then
    if canTransition s.record.row.status .reconciliationRequired then
      some .reconciliationRequired
    else
      none
  else if eventIsNew s.args db &&
      !ignoresNotification s.record.row.status s.args.status then
    some s.args.status
  else
    none

/-- The commit of the settlement writes no transport, or claims the truck of its quote. -/
inductive Outcome (env : Env) (s : OpenSettlement) (db : Db) : Db -> Prop where
  | unchanged (db' : Db) (hsame : SameTransport db db')
      (hpayments : db'.payments = db.payments) :
      Outcome env s db db'
  | written (db' : Db) (next : PaymentStatus) (f : Payment -> Payment)
      (hnext : s.nextStatus db = some next) (hclaims : next = .paid -> s.commitment = none)
      (hsame : SameTransport db db')
      (hpayments : db'.payments = db.payments.update s.record.id f)
      (hf : forall p, (f p).core = p.core ∧ (f p).status = next) :
      Outcome env s db db'
  | claimed (db' : Db) (jobId quoteId : Id) (quote : TransportQuote) (read : TransportJob)
      (written claimed : Db) (f : Payment -> Payment)
      (hnext : s.nextStatus db = some .paid) (hcommitment : s.commitment = some (jobId, quoteId, quote))
      (hsame : SameTransport db written)
      (hclaim : s.stage.claim s.record jobId quote written = .ok (read, claimed))
      (hcommitted : SameTransport (acceptTransport env jobId quoteId read claimed) db')
      (hpayments : db'.payments = db.payments.update s.record.id f)
      (hf : forall p, (f p).core = p.core ∧ (f p).status = .paid) :
      Outcome env s db db'

section Commit

variable {env : Env} {s : OpenSettlement} {db db' : Db}

variable {args : SettleArgs} {r : PaymentRecord}

theorem writeSettlement_transport (h : writeSettlement env args r db = .ok db') :
    SameTransport db db' ∧ exists f : Payment -> Payment,
      db'.payments = db.payments.update r.id f ∧
        forall p, (f p).core = p.core ∧ (f p).status = args.status := by
  unfold writeSettlement at h
  obtain ⟨written, hwrite, hrest⟩ := bind_eq_ok.1 h
  obtain ⟨p, hp, -, rfl⟩ := updatePayment_eq_ok_iff.mp hwrite
  obtain rfl := Except.ok.inj hrest
  obtain ⟨events, hevents⟩ := recordOrderEvent_frame env r.row.orderId .paymentStatusChanged
    (settleObligation args r { db with payments := db.payments.update r.id (·.settled args) })
  rw [hevents]
  refine ⟨⟨rfl, rfl, rfl, rfl⟩, ?_⟩
  unfold settleObligation
  dsimp only
  split
  · refine ⟨fun p => { p.settled args with obligationId := none }, ?_, fun p => ⟨rfl, rfl⟩⟩
    rw [Table.update_update]
  · exact ⟨(·.settled args), rfl, fun p => ⟨rfl, rfl⟩⟩

theorem flagMismatch_transport {reason : ReconciliationReason}
    (h : flagMismatch env args r reason db = .ok db') :
    SameTransport db db' ∧
      if canTransition r.row.status .reconciliationRequired then
        db'.payments = db.payments.update r.id (·.flagged args)
      else
        db'.payments = db.payments := by
  unfold flagMismatch at h
  obtain ⟨issued, hissue, hflag⟩ := bind_eq_ok.1 h
  obtain ⟨-, rfl⟩ := createReconciliationIssue_eq_ok_iff.1 hissue
  have hsame := withIssue_sameTransport env (issueData r args reason) db
  split at hflag
  · next hcan =>
      obtain ⟨p, -, -, rfl⟩ := updatePayment_eq_ok_iff.1 hflag
      rw [if_pos hcan]
      refine ⟨⟨hsame.transportJobs, hsame.transportQuotes, hsame.trucks, hsame.loadingReports⟩, ?_⟩
      rw [withIssue_payments]
  · next hcannot =>
      obtain rfl := Except.ok.inj hflag
      rw [if_neg hcannot]
      exact ⟨hsame, withIssue_payments env _ db⟩

theorem recordPaid_payments (env : Env) (r : PaymentRecord) (db : Db) :
    (recordPaid env r db).payments = db.payments := by
  obtain ⟨payouts, purchases, ads, entries, -, hframe⟩ := recordPaid_frame env r db
  rw [hframe]

theorem applyEffects_unpaid (hstatus : args.status ≠ .paid)
    (h : MarketBridge.applyEffects env args r db = .ok db') :
    SameTransport db db' ∧ db'.payments = db.payments := by
  unfold MarketBridge.applyEffects at h
  split at h
  · next hpaid => exact absurd hpaid hstatus
  · obtain rfl := Except.ok.inj h
    obtain ⟨purchases, entries, hframe⟩ := applyRefunded_frame r db
    rw [hframe]
    exact ⟨⟨rfl, rfl, rfl, rfl⟩, rfl⟩
  · obtain rfl := Except.ok.inj h
    exact ⟨.refl db, rfl⟩

theorem applyPaid_outcome (h : s.applyPaid env db = .ok db') :
    s.commitment = none ∧ SameTransport db db' ∧ db'.payments = db.payments ∨
      exists jobId quoteId quote read claimed, s.commitment = some (jobId, quoteId, quote) ∧
        s.stage.claim s.record jobId quote db = .ok (read, claimed) ∧
        db' = recordPaid env s.record (acceptTransport env jobId quoteId read claimed) := by
  unfold OpenSettlement.applyPaid at h
  split at h
  · next hdispute =>
      obtain ⟨-, rfl⟩ := createReconciliationIssue_eq_ok_iff.1 h
      obtain ⟨entries, hentries⟩ := writeLedgerPaid_frame s.record db
      left
      refine ⟨by unfold commitment; rw [if_pos hdispute], ?_, ?_⟩
      · refine SameTransport.trans ?_ (withIssue_sameTransport env _ _)
        rw [hentries]
        exact ⟨rfl, rfl, rfl, rfl⟩
      · rw [withIssue_payments, hentries]
  · split at h
    · next hnone =>
        obtain rfl := Except.ok.inj h
        exact Or.inl ⟨hnone, recordPaid_sameTransport env s.record db,
          recordPaid_payments env s.record db⟩
    · next jobId quoteId quote hcommitment =>
        obtain ⟨⟨read, claimed⟩, hclaim, hwrite⟩ := bind_eq_ok.1 h
        exact Or.inr ⟨jobId, quoteId, quote, read, claimed, hcommitment, hclaim,
          (Except.ok.inj hwrite).symm⟩

theorem claim_payments {jobId : Id} {quote : TransportQuote} {stage : ClaimStage}
    {read : TransportJob} {claimed : Db} (h : stage.claim r jobId quote db = .ok (read, claimed)) :
    claimed = db ∨ claimed = setAvailability quote.truckId .busy db := by
  unfold ClaimStage.claim at h
  split at h
  · obtain ⟨job, -, h⟩ := bind_eq_ok.1 h
    obtain ⟨db', hclaim, h⟩ := bind_eq_ok.1 h
    obtain ⟨-, rfl⟩ := Prod.mk.inj (Except.ok.inj h)
    exact Or.inr (claimTruck_trucks hclaim).2
  · obtain ⟨db', hclaim, h⟩ := bind_eq_ok.1 h
    obtain ⟨-, rfl⟩ := Prod.mk.inj (Except.ok.inj h)
    exact Or.inr (claimTruck_trucks hclaim).2
  · obtain ⟨-, rfl⟩ := Prod.mk.inj (Except.ok.inj h)
    exact Or.inr rfl
  · obtain ⟨_, -, h⟩ := bind_eq_ok.1 h
    obtain ⟨-, rfl⟩ := Prod.mk.inj (Except.ok.inj h)
    exact Or.inl rfl
  · obtain ⟨-, rfl⟩ := Prod.mk.inj (Except.ok.inj h)
    exact Or.inl rfl

theorem commit_outcome (h : s.commit env db = .ok db') : Outcome env s db db' := by
  unfold OpenSettlement.commit at h
  split at h
  · next reason hreason =>
      obtain ⟨hsame, hpayments⟩ := flagMismatch_transport h
      have hmismatch : mismatchReason s.record.row s.args ≠ none := by
        rw [hreason]
        exact Option.some_ne_none reason
      split at hpayments
      · next hcan =>
          refine .written db' .reconciliationRequired (·.flagged s.args) ?_ (fun hpaid => by cases hpaid)
            hsame hpayments fun p => ⟨rfl, rfl⟩
          unfold nextStatus
          rw [if_pos hmismatch, if_pos hcan]
      · exact .unchanged db' hsame hpayments
  · next hmatch =>
      obtain ⟨registered, hregister, h⟩ := bind_eq_ok.1 h
      split at h
      · obtain rfl := Except.ok.inj h
        exact .unchanged _ (.refl _) rfl
      · next registered' =>
          obtain ⟨hnew, rfl⟩ := registerEvent_eq_some hregister
          obtain ⟨events, hevents⟩ := withEvent_frame s.args s.record db
          rw [hevents] at h
          split at h
          · obtain rfl := Except.ok.inj h
            exact .unchanged _ ⟨rfl, rfl, rfl, rfl⟩ rfl
          · next hignored =>
              have hnext : s.nextStatus db = some s.args.status := by
                rw [Bool.not_eq_true] at hignored
                unfold nextStatus
                rw [if_neg (not_not.2 hmatch), hnew, hignored]
                rfl
              obtain ⟨written, hwrite, heffects⟩ := bind_eq_ok.1 h
              obtain ⟨hwritten, f, hpayments, hf⟩ := writeSettlement_transport hwrite
              have hquiet : SameTransport db written :=
                ⟨hwritten.transportJobs, hwritten.transportQuotes, hwritten.trucks,
                  hwritten.loadingReports⟩
              unfold OpenSettlement.applyEffects at heffects
              split at heffects
              · next hpaid =>
                  rw [hpaid] at hnext hf
                  rcases applyPaid_outcome heffects with
                    ⟨hnone, hsame, hkept⟩ | ⟨jobId, quoteId, quote, read, claimed, hcommitment,
                      hclaim, rfl⟩
                  · exact .written db' .paid f hnext (fun _ => hnone) (hquiet.trans hsame)
                      (hkept.trans hpayments) hf
                  · refine .claimed _ jobId quoteId quote read written claimed f hnext hcommitment
                      hquiet hclaim (recordPaid_sameTransport env s.record _) ?_ hf
                    rw [recordPaid_payments]
                    rcases claim_payments hclaim with rfl | rfl
                    · exact hpayments
                    · exact hpayments
              · next hunpaid =>
                  obtain ⟨hsame, hkept⟩ := applyEffects_unpaid hunpaid heffects
                  exact .written db' s.args.status f hnext (fun hpaid => absurd hpaid hunpaid)
                    (hquiet.trans hsame) (hkept.trans hpayments) hf

end Commit

/-! ## When the truck follows -/

/-- The payment that was read is in the table, with what it is for. -/
structure InFlight (s : OpenSettlement) (db : Db) : Prop where
  id : s.record.id = s.args.paymentId
  type : s.record.row.type = .transport
  found : exists p, db.payments.findUnique s.record.id = some p ∧ p.core = s.record.row.core

/--
The truck that the job names at the commit is the one that was read, and it has been
neither taken nor freed since then; any other one could be held without a claim.
-/
def claimsWell (s : OpenSettlement) (db : Db) : Bool :=
  s.commitment.all fun c =>
    (db.transportJobs.findUnique c.1).all fun job => job.truckId.all fun truckId =>
      match s.stage with
      | .opened => true
      | .readJob _ => truckId = c.2.2.truckId || couldHold db c.1 truckId
      | .sawAvailable _ =>
          if truckId = c.2.2.truckId then !isHeldElsewhere db c.1 truckId
          else couldHold db c.1 truckId
      | .sawBusy _ =>
          if truckId = c.2.2.truckId then !hasAvailability db truckId .available
          else couldHold db c.1 truckId
      | .foundAlone _ => couldHold db c.1 truckId

/--
A fee that is received without a claim finds a truck that could be held, and a fee
that is taken back leaves no busy truck behind.
-/
def paysWell (s : OpenSettlement) (next : PaymentStatus) (db : Db) : Bool :=
  (db.payments.findUnique s.record.id).all fun p =>
    (truckOfFee db s.record.id p).all fun held =>
      if next = .paid then couldHold db held.1 held.2
      else p.status ≠ .paid || !hasAvailability db held.2 .busy

def settlesWell (s : OpenSettlement) (db : Db) : Bool :=
  (s.nextStatus db).all fun next =>
    if next = .paid ∧ s.commitment.isSome then s.claimsWell db else s.paysWell next db

end OpenSettlement

/-- The step leaves the trucks lawful, returns what was given up and changes no payment's purpose. -/
structure FollowsTrucks (db db' : Db) : Prop where
  consistent : TransportConsistent db'
  payments : forall i p, db.payments.findUnique i = some p ->
    exists p', db'.payments.findUnique i = some p' ∧ p'.core = p.core
  lawful : (truckHoldings db').Lawful
  returned : (truckHoldings db).Returned (truckHoldings db')

section Follows

variable {env : Env} {s : OpenSettlement} {db db' written claimed : Db}

theorem TransportKept.follows (h : TransportKept db db') (hdb : TransportConsistent db)
    (hlawful : (truckHoldings db').Lawful)
    (hreturned : (truckHoldings db).Returned (truckHoldings db')) :
    FollowsTrucks db db' :=
  ⟨h.consistent hdb, fun _ _ hp => h.payments.of_left hp, hlawful, hreturned⟩

theorem KeepsTrucks.follows (h : KeepsTrucks db db') (hdb : TransportConsistent db) :
    FollowsTrucks db db' :=
  h.kept.follows hdb h.holdings.lawful h.holdings.returned

theorem FollowsTrucks.refl (hdb : TransportConsistent db) (hlawful : (truckHoldings db).Lawful) :
    FollowsTrucks db db :=
  (KeepsTrucks.refl hlawful).follows hdb

variable {jobId truckId : Id} {quote : TransportQuote}

theorem isHeldElsewhere_of_unused (h : truckInUseElsewhere db jobId truckId = false) :
    isHeldElsewhere db jobId truckId = false := by
  refine isHeldElsewhere_eq_false.2 fun j hj hheld => ?_
  obtain ⟨job, hjob, hcommitted, htruck⟩ := committedTruck_eq_some.1 hheld
  unfold truckInUseElsewhere at h
  rw [Table.any_eq_false_iff] at h
  have hrow := h j job hjob
  unfold isCommitted at hcommitted
  rw [Bool.and_eq_true] at hcommitted
  have hactive : job.status ∈ [TransportStatus.accepted, .pickup, .inTransit] :=
    of_decide_eq_true hcommitted.1
  simp [hj, htruck, hactive] at hrow

theorem isHeldElsewhere_of_claimable {status : TransportStatus}
    (hlawful : (truckHoldings db).Lawful) (h : truckClaimable jobId truckId status db = true) :
    isHeldElsewhere db jobId truckId = false := by
  refine isHeldElsewhere_eq_false.2 fun j hj hheld => ?_
  unfold truckClaimable at h
  rw [Option.any_eq_true] at h
  obtain ⟨truck, htruck, hclaim⟩ := h
  simp only [Bool.or_eq_true, Bool.and_eq_true, decide_eq_true_eq, Bool.not_eq_true'] at hclaim
  rcases hclaim with havailable | ⟨-, halone⟩
  · refine hlawful.occupied j truckId hheld ?_
    change hasAvailability db truckId _ = true
    unfold hasAvailability
    rw [htruck, Option.any_some, havailable]
    rfl
  · exact isHeldElsewhere_eq_false.1 (isHeldElsewhere_of_unused halone) j hj hheld

theorem available_of_claimed {r : PaymentRecord} {stage : ClaimStage} {read : TransportJob}
    (hsame : SameTransport db written)
    (hclaim : stage.claim r jobId quote written = .ok (read, claimed))
    (h : hasAvailability claimed truckId .available = true) :
    hasAvailability db truckId .available = true := by
  rw [← hasAvailability_congr hsame.trucks]
  rcases OpenSettlement.claim_payments hclaim with rfl | rfl
  · exact h
  · rw [hasAvailability_setAvailability] at h
    split at h
    · simp at h
    · exact h

theorem couldHold_eq_true :
    couldHold db jobId truckId = true ↔
      hasAvailability db truckId .available = false ∧ isHeldElsewhere db jobId truckId = false := by
  unfold couldHold
  rw [Bool.and_eq_true, Bool.not_eq_true', Bool.not_eq_true']

theorem claimTruck_follows {status : TransportStatus} (hlawful : (truckHoldings db).Lawful)
    (hsame : SameTransport db written)
    (hclaim : claimTruck jobId truckId status written = .ok claimed) :
    isHeldElsewhere db jobId truckId = false ∧
      hasAvailability claimed truckId .available = false := by
  obtain ⟨hclaimable, rfl⟩ := claimTruck_trucks hclaim
  unfold truckClaimable truckInUseElsewhere at hclaimable
  rw [hsame.trucks, hsame.transportJobs] at hclaimable
  refine ⟨isHeldElsewhere_of_claimable hlawful hclaimable, ?_⟩
  change hasAvailability (setAvailability truckId .busy written) truckId _ = false
  rw [hasAvailability_setAvailability, if_pos rfl]
  simp

/-- The truck that the job names at the commit is free of other jobs and off the market. -/
theorem OpenSettlement.claim_follows {quoteId : Id} {job read : TransportJob}
    (hlawful : (truckHoldings db).Lawful) (hsame : SameTransport db written)
    (hcommitment : s.commitment = some (jobId, quoteId, quote))
    (hclaim : s.stage.claim s.record jobId quote written = .ok (read, claimed))
    (hjob : db.transportJobs.findUnique jobId = some job) (htruck : job.truckId = some truckId)
    (hwell : s.claimsWell db = true) :
    isHeldElsewhere db jobId truckId = false ∧
      hasAvailability claimed truckId .available = false := by
  have hcould : couldHold db jobId truckId = true ->
      isHeldElsewhere db jobId truckId = false ∧
        hasAvailability claimed truckId .available = false := by
    intro hcould
    obtain ⟨hnotfree, halone⟩ := couldHold_eq_true.1 hcould
    refine ⟨halone, ?_⟩
    by_contra hfree
    rw [Bool.not_eq_false] at hfree
    rw [available_of_claimed hsame hclaim hfree] at hnotfree
    cases hnotfree
  unfold OpenSettlement.claimsWell at hwell
  rw [hcommitment, Option.all_some] at hwell
  dsimp only at hwell
  rw [hjob, Option.all_some, htruck, Option.all_some] at hwell
  unfold ClaimStage.claim at hclaim
  cases hstage : s.stage with
  | opened =>
      simp only [hstage] at hclaim
      obtain ⟨row, hreread, hclaim⟩ := bind_eq_ok.1 hclaim
      obtain ⟨db', htake, hclaim⟩ := bind_eq_ok.1 hclaim
      obtain ⟨-, rfl⟩ := Prod.mk.inj (Except.ok.inj hclaim)
      have hquote : quote.truckId = truckId := by
        unfold ClaimStage.rereadJob at hreread
        rw [hsame.transportJobs, hjob] at hreread
        dsimp only at hreread
        split at hreread
        · cases hreread
        · split at hreread
          · next haligned =>
              unfold transportAligned at haligned
              simp only [Bool.and_eq_true, decide_eq_true_eq] at haligned
              exact Option.some.inj (haligned.1.1.1.2.trans htruck)
          · cases hreread
      exact hquote ▸ claimTruck_follows hlawful hsame htake
  | readJob row =>
      simp only [hstage, Bool.or_eq_true, decide_eq_true_eq] at hclaim hwell
      obtain ⟨db', htake, hclaim⟩ := bind_eq_ok.1 hclaim
      obtain ⟨-, rfl⟩ := Prod.mk.inj (Except.ok.inj hclaim)
      rcases hwell with rfl | hheld
      · exact claimTruck_follows hlawful hsame htake
      · exact hcould hheld
  | sawAvailable row =>
      simp only [hstage] at hclaim hwell
      obtain ⟨-, rfl⟩ := Prod.mk.inj (Except.ok.inj hclaim)
      split at hwell
      · next hquote =>
          refine ⟨by simpa using hwell, ?_⟩
          rw [hasAvailability_setAvailability, if_pos hquote]
          simp
      · exact hcould hwell
  | sawBusy row =>
      simp only [hstage] at hclaim hwell
      obtain ⟨_, hsearch, hclaim⟩ := bind_eq_ok.1 hclaim
      split at hwell
      · next hquote =>
          unfold ClaimStage.searchConflict truckInUseElsewhere at hsearch
          rw [hsame.transportJobs] at hsearch
          split at hsearch
          · cases hsearch
          · next hunused =>
              refine hcould (couldHold_eq_true.2 ⟨by simpa using hwell, ?_⟩)
              rw [hquote]
              exact isHeldElsewhere_of_unused (Bool.not_eq_true _ ▸ hunused)
      · exact hcould hwell
  | foundAlone row =>
      simp only [hstage] at hwell
      exact hcould hwell

theorem committedTruck_of_claim {paymentId : Id} {p : Payment} {job : TransportJob}
    {f : Payment -> Payment} (hp : db.payments.findUnique paymentId = some p)
    (hof : isTransportPaymentOf jobId p = true)
    (hjob : db.transportJobs.findUnique jobId = some job)
    (hjobs : db'.transportJobs = db.transportJobs.update jobId ({ · with status := .accepted }))
    (hpayments : db'.payments = db.payments.update paymentId f)
    (hf : (f p).core = p.core ∧ (f p).status = .paid) :
    committedTruck db' jobId = job.truckId ∧
      forall j, j ≠ jobId -> committedTruck db' j = committedTruck db j := by
  have hp' : db'.payments.findUnique paymentId = some (f p) := by
    rw [hpayments, Table.findUnique_update_self, hp, Option.map_some]
  have hkind : forall j, isTransportPaymentOf j (f p) = isTransportPaymentOf j p := by
    intro j
    unfold isTransportPaymentOf
    rw [Payment.core_transportJobId hf.1, Payment.core_type hf.1]
  constructor
  · have hpaid : hasTransportPayment db' jobId [.paid] = true := by
      rw [hasTransportPayment_split hp', hkind, hof, hf.2]
      simp
    unfold committedTruck isCommitted
    rw [hjobs, Table.findUnique_update_self, hjob, Option.map_some, Option.bind_some, hpaid]
    simp [TransportStatus.isActive]
  · intro j hj
    refine committedTruck_update_ne hjobs hj ?_
    have hother : isTransportPaymentOf j p = false := by
      unfold isTransportPaymentOf at hof ⊢
      simp only [Bool.and_eq_true, decide_eq_true_eq] at hof
      simp [hof.1, Ne.symm hj]
    rw [hasTransportPayment_split hp', hasTransportPayment_split hp,
      isPaidBeside_update hpayments, hkind, hother, Bool.false_and, Bool.false_and]

theorem OpenSettlement.commitment_eq_some {quoteId : Id}
    (h : s.commitment = some (jobId, quoteId, quote)) :
    s.record.row.type = .transport ∧ s.record.row.transportJobId = some jobId := by
  unfold OpenSettlement.commitment at h
  split at h
  · cases h
  · obtain ⟨⟨jobId', job, truckId, quoteId', quote'⟩, hcommitment, hpair⟩ :=
      Option.map_eq_some_iff.1 h
    obtain ⟨htype, hjobId, -⟩ := transportCommitment_hired hcommitment
    simp only [Prod.mk.injEq] at hpair
    obtain ⟨rfl, -, -⟩ := hpair
    exact ⟨htype, hjobId⟩

theorem OpenSettlement.commit_follows (hlawful : (truckHoldings db).Lawful)
    (hdb : TransportConsistent db) (hflight : s.InFlight db) (hwell : s.settlesWell db = true)
    (h : s.commit env db = .ok db') :
    FollowsTrucks db db' := by
  obtain ⟨p, hp, hpcore⟩ := hflight.found
  cases commit_outcome h with
  | unchanged hsame hpayments =>
      exact (KeepsTrucks.same hlawful hsame.transportJobs hsame.trucks
        (hsame.transportQuotes ▸ .refl TransportQuote.Kept.refl _) (Payment.FeeKept.of_eq hpayments)
        fun _ _ _ _ => rfl).follows hdb
  | written next f hnext hclaims hsame hpayments hf =>
      unfold OpenSettlement.settlesWell at hwell
      rw [hnext, Option.all_some, if_neg (fun hboth => by simp [hclaims hboth.1] at hboth)] at hwell
      unfold OpenSettlement.paysWell at hwell
      rw [hp, Option.all_some] at hwell
      refine (keepsTrucks_of_payment hlawful hp hsame.transportJobs hsame.trucks
        hsame.transportQuotes hpayments (hf p).1 (fun jobId truckId hfee _ hpaid => ?_)
        fun jobId truckId hfee hpaid hunpaid => ?_).follows hdb
      · rw [hfee, Option.all_some, if_pos ((hf p).2.symm.trans hpaid)] at hwell
        exact hwell
      · rw [(hf p).2] at hunpaid
        rw [hfee, Option.all_some, if_neg hunpaid] at hwell
        simpa [hpaid] using hwell
  | claimed jobId quoteId quote read written claimed f hnext hcommitment hsame hclaim hcommitted
      hpayments hf =>
      unfold OpenSettlement.settlesWell at hwell
      rw [hnext, Option.all_some, if_pos ⟨rfl, by rw [hcommitment]; rfl⟩] at hwell
      obtain ⟨htype, hjobId⟩ := commitment_eq_some hcommitment
      have hptype : p.type = .transport := (Payment.core_type hpcore).trans htype
      have hpjob : p.transportJobId = some jobId :=
        (Payment.core_transportJobId hpcore).trans hjobId
      obtain ⟨job, hjob, -⟩ := hdb.owned _ p hp hptype jobId hpjob
      have htables : claimed.transportJobs = db.transportJobs ∧
          claimed.transportQuotes = db.transportQuotes := by
        rcases claim_payments hclaim with rfl | rfl
        · exact ⟨hsame.transportJobs, hsame.transportQuotes⟩
        · exact ⟨hsame.transportJobs, hsame.transportQuotes⟩
      have hjobs : db'.transportJobs =
          db.transportJobs.update jobId ({ · with status := .accepted }) := by
        rw [hcommitted.transportJobs, ← htables.1]
        rfl
      have hquotes : db.transportQuotes.Rel TransportQuote.Kept db'.transportQuotes := by
        rw [hcommitted.transportQuotes, ← htables.2]
        exact Table.rel_update TransportQuote.Kept.refl fun _ _ => ⟨rfl, id⟩
      have htrucks : db'.trucks = claimed.trucks := hcommitted.trucks
      have hfree : forall r, hasAvailability db' r .available = true ->
          hasAvailability db r .available = true := by
        intro r hr
        rw [hasAvailability_congr htrucks] at hr
        exact available_of_claimed hsame hclaim hr
      obtain ⟨hheld, hothers⟩ := committedTruck_of_claim hp
        (by simp [isTransportPaymentOf, hptype, hpjob]) hjob hjobs hpayments (hf p)
      have hkept : TransportKept db db' := by
        refine ⟨hjobs ▸ Table.rel_update TransportJob.Kept.refl fun row _ =>
          ⟨rfl, rfl, fun hwaits => ?_⟩, hquotes,
          hpayments ▸ Table.rel_update Payment.SameCore.refl fun q _ => (hf q).1⟩
        simp at hwaits
      cases htruck : job.truckId with
      | none =>
          have hbefore : committedTruck db jobId = none := by
            cases hheldBefore : committedTruck db jobId with
            | none =>
                rfl
            | some truckId =>
                obtain ⟨row, hrow, -, hnames⟩ := committedTruck_eq_some.1 hheldBefore
                obtain rfl := Option.some.inj (hjob.symm.trans hrow)
                rw [htruck] at hnames
                cases hnames
          have hsameHolders : (truckHoldings db').held = (truckHoldings db).held := by
            funext j
            by_cases hj : j = jobId
            · subst hj
              exact (hheld.trans htruck).trans hbefore.symm
            · exact hothers j hj
          exact hkept.follows hdb (hlawful.mono hsameHolders hfree)
            (.of_held fun i r hi => ⟨i, hsameHolders ▸ hi⟩)
      | some truckId =>
          obtain ⟨halone, hnotfree⟩ :=
            claim_follows hlawful hsame hcommitment hclaim hjob htruck hwell
          have hgain : (truckHoldings db').held jobId = some truckId := hheld.trans htruck
          have hbefore : committedTruck db jobId = none ∨
              committedTruck db jobId = some truckId := by
            unfold committedTruck
            rw [hjob, Option.bind_some, htruck]
            split
            · exact Or.inr rfl
            · exact Or.inl rfl
          refine hkept.follows hdb (hlawful.gain hgain hothers (isHeldElsewhere_eq_false.1 halone)
            (fun hr => ?_) fun r _ => hfree r) (.of_held fun i r hi => ⟨i, ?_⟩)
          · have hoffer : hasAvailability db' truckId .available = true := hr
            rw [hasAvailability_congr htrucks, hnotfree] at hoffer
            cases hoffer
          · exact Holdings.held_gain (s := truckHoldings db) hgain hothers hbefore hi

end Follows

end MarketBridge
