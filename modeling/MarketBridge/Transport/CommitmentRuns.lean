import Mathlib.Tactic.IntervalCases
import MarketBridge.Transport.CommitmentAssignments

/-!
# Runs on the trucks

Every operation that writes jobs, quotes, trucks or transport fees, in any order,
with settlements whose statements come between the others.  The trucks follow the
jobs that are committed to them as long as no step frees a truck that another job
holds, drops a job without its truck, or claims a truck on a read that is out of
date.
-/

namespace MarketBridge

open Relational

/-- The operations that run in one piece. -/
inductive TruckCall where
  | createTransportJob (request : TransportRequest)
  | submitQuote (canBid : Except ApiError Unit) (quote : QuoteSubmission)
  | acceptQuote (request : QuoteRequest)
  | releaseQuote (request : ReleaseRequest) (updatedAt : Nat) (reads : ReleaseReads)
  | changeStatus (request : StatusRequest)
  | createPayment (data : CreatePaymentData)
  | startCheckout (paymentId : Id)
  | settlePayment (args : SettleArgs)
  | resolveDispute (adminId disputeId : Id) (resolutionType : ResolutionType)
      (resolution : String)
  | expireWorkflow (jobId : Id)
  | expirePreparation (jobId : Id)
  | expireLoading (jobId : Id)
  | cancelOrder (load : OrderLoad) (orderId : Id) (actorId : Option Id)
      (reason : Option String) (role : CancelledByRole)
  | approveRecovery (adminId requestId : Id)
  | updateAvailability (caller : Caller) (truckId : Id) (requested : TruckAvailability)

namespace TruckCall

def onJob (jobId : Id) (write : TransportJob -> Db -> Db) : Tx := fun db =>
  match db.transportJobs.findUnique jobId with
  | none => .ok db
  | some job => .ok (write job db)

def exec (env : Env) : TruckCall -> Tx
  | createTransportJob request => MarketBridge.createTransportJob env request
  | submitQuote canBid quote => MarketBridge.submitQuote canBid quote
  | acceptQuote request => fun db => do
      let loaded ← checkAccept env request db
      MarketBridge.acceptQuote env loaded db
  | releaseQuote request updatedAt reads => fun db => do
      let loaded ← checkRelease env request updatedAt db
      MarketBridge.releaseQuote env loaded reads db
  | changeStatus request => changeStatusByRoute env request
  | createPayment data => fun db =>
      if data.isForJob db then (MarketBridge.createPayment env data db).map Prod.fst else .ok db
  | startCheckout paymentId => fun db => .ok ((CheckoutCall.start paymentId).exec db)
  | settlePayment args => settlePaymentCore env args
  | resolveDispute adminId disputeId resolutionType resolution =>
      MarketBridge.resolveDispute env adminId disputeId resolutionType resolution
  | expireWorkflow jobId => onJob jobId (expireTransportWorkflow env jobId)
  | expirePreparation jobId => onJob jobId (expireSellerPreparation env jobId)
  | expireLoading jobId => onJob jobId (expireBuyerLoading env jobId)
  | cancelOrder load orderId actorId reason role =>
      cancelLoadedOrder env load orderId actorId reason role
  | approveRecovery adminId requestId =>
      MarketBridge.approveRecovery env adminId requestId fun _ db => .ok db
  | updateAvailability caller truckId requested =>
      MarketBridge.updateAvailability caller truckId requested

/-- The end of a job that is due frees no truck that is busy for another one. -/
def expiresWell (jobId : Id) (due : TransportJob -> Bool) (db : Db) : Bool :=
  (db.transportJobs.findUnique jobId).all fun job =>
    !due job || !namesBusyTruck db jobId job.truckId

/-- What the operation must find, if it goes through. -/
def finds (env : Env) (db : Db) : TruckCall -> Bool
  | changeStatus request =>
      request.next ∉ [TransportStatus.delivered, .cancelled] ||
        (db.transportJobs.findUnique request.jobId).all fun job =>
          !namesBusyTruck db request.jobId job.truckId
  | settlePayment args =>
      (db.payments.findUnique args.paymentId).all fun p =>
        (OpenSettlement.opened args p db).settlesWell db
  | resolveDispute _ disputeId resolutionType _ => resolvesWell db disputeId resolutionType
  | expireWorkflow jobId => expiresWell jobId (workflowIsDue env.now) db
  | expirePreparation jobId => expiresWell jobId (preparationIsDue env.now) db
  | expireLoading jobId => expiresWell jobId (loadingIsDue env.now jobId · db) db
  | cancelOrder load orderId _ _ _ => cancelsTruckWell load db orderId
  | approveRecovery _ requestId =>
      (recoveredJob db requestId).all fun job => !holdsBusyTruck db job.1
  | _ => true

end TruckCall

/-- The database and the settlements of transport fees between two statements. -/
structure TruckWorld where
  db : Db
  settlements : List OpenSettlement := []
deriving DecidableEq, Repr

inductive TruckStep where
  | call (operation : TruckCall)
  | openSettlement (args : SettleArgs)
  /-- A settlement issues its next read. -/
  | advance (i : Nat)
  /-- A settlement issues what is left and commits. -/
  | commit (i : Nat)
  /-- Something else writes the other tables. -/
  | elsewhere (other : Db)

namespace TruckWorld

def openSettlement (w : TruckWorld) (args : SettleArgs) : TruckWorld :=
  match w.db.payments.findUnique args.paymentId with
  | none => w
  | some p =>
      if p.type = .transport then
        { w with settlements := w.settlements ++ [.opened args p w.db] }
      else
        w

def step (w : TruckWorld) (a : Env × TruckStep) : TruckWorld :=
  match a.2 with
  | .call operation => { w with db := commit (operation.exec a.1 w.db) w.db }
  | .openSettlement args => w.openSettlement args
  | .advance i =>
      match w.settlements[i]? with
      | none => w
      | some s =>
          match s.advance w.db with
          | .error _ => { w with settlements := w.settlements.eraseIdx i }
          | .ok s' => { w with settlements := w.settlements.set i s' }
  | .commit i =>
      match w.settlements[i]? with
      | none => w
      | some s =>
          { db := Relational.commit (s.commit a.1 w.db) w.db
            settlements := w.settlements.eraseIdx i }
  | .elsewhere other =>
      { w with db := { other with
          transportJobs := w.db.transportJobs
          transportQuotes := w.db.transportQuotes
          trucks := w.db.trucks
          payments := w.db.payments } }

end TruckWorld

def TruckStep.meets (w : TruckWorld) (a : Env × TruckStep) : Bool :=
  match a.2 with
  | .call operation => !(operation.exec a.1 w.db).isOk || operation.finds a.1 w.db
  | .commit i =>
      (w.settlements[i]?).all fun s => !(s.commit a.1 w.db).isOk || s.settlesWell w.db
  | _ => true

/--
After the step no truck has two jobs that are committed to it and none of these
trucks is on offer, and a busy truck whose last job the step ended is on offer.
-/
structure KeepsTruckLaw (w : TruckWorld) (a : Env × TruckStep) : Prop where
  lawful : (truckHoldings (w.step a).db).Lawful
  returned : (truckHoldings w.db).Returned (truckHoldings (w.step a).db)

/-! ## One operation -/

section Calls

variable {env : Env} {db db' : Db}

theorem onJob_follows {jobId : Id} {write : TransportJob -> Db -> Db}
    (hlawful : (truckHoldings db).Lawful) (hdb : TransportConsistent db)
    (hwrite : forall job, db.transportJobs.findUnique jobId = some job ->
      KeepsTrucks db (write job db))
    (h : TruckCall.onJob jobId write db = .ok db') :
    FollowsTrucks db db' := by
  unfold TruckCall.onJob at h
  split at h
  · obtain rfl := Except.ok.inj h
    exact .refl hdb hlawful
  · next job hjob =>
      obtain rfl := Except.ok.inj h
      exact (hwrite job hjob).follows hdb

theorem unshared_of_expiresWell {jobId : Id} {due : TransportJob -> Bool} {job : TransportJob}
    (hjob : db.transportJobs.findUnique jobId = some job) (hdue : due job = true)
    (h : TruckCall.expiresWell jobId due db = true) :
    namesBusyTruck db jobId job.truckId = false := by
  unfold TruckCall.expiresWell at h
  rw [hjob, Option.all_some, hdue] at h
  simpa using h

theorem startCheckout_follows {paymentId : Id} (hlawful : (truckHoldings db).Lawful)
    (hdb : TransportConsistent db) :
    FollowsTrucks db ((CheckoutCall.start paymentId).exec db) := by
  have hpayments : db.payments.Rel (Payment.FeeKept fun _ _ => false)
      ((CheckoutCall.start paymentId).exec db).payments := by
    refine Table.rel_updateMany (Payment.FeeKept.refl _) fun i p _ hselected =>
      ⟨rfl, fun hpaid => ?_, fun hpaid => ?_⟩
    · cases hpaid
    · simp [hpaid] at hselected
  have hkeeps : KeepsTrucks db ((CheckoutCall.start paymentId).exec db) :=
    .same hlawful rfl rfl (.refl TransportQuote.Kept.refl _) hpayments fun _ _ _ _ => rfl
  exact hkeeps.follows hdb

theorem truckOfFee_of_ne {paymentId : Id} {p : Payment} (htype : p.type ≠ .transport) :
    truckOfFee db paymentId p = none := by
  unfold truckOfFee
  rw [if_neg htype]

theorem settlePaymentCore_follows {args : SettleArgs} (hlawful : (truckHoldings db).Lawful)
    (hdb : TransportConsistent db)
    (hwell : (db.payments.findUnique args.paymentId).all fun p =>
      (OpenSettlement.opened args p db).settlesWell db)
    (h : settlePaymentCore env args db = .ok db') :
    FollowsTrucks db db' := by
  cases hp : db.payments.findUnique args.paymentId with
  | none =>
      simp [settlePaymentCore, hp] at h
  | some p =>
      by_cases htype : p.type = .transport
      · rw [hp, Option.all_some] at hwell
        rw [← OpenSettlement.commit_opened env hp htype] at h
        exact OpenSettlement.commit_follows hlawful hdb ⟨rfl, htype, p, hp, rfl⟩ hwell h
      · have hnofee := @truckOfFee_of_ne db args.paymentId p htype
        have hsame : SameTransport db db' := by
          rcases settlePaymentCore_transport hp h with
            ⟨hsame, -⟩ | ⟨-, -, jobId, job, truckId, quoteId, quote, hmay, -⟩
          · exact hsame
          · exact absurd (transportCommitment_hired hmay.commitment).1 htype
        have hpayments := settlePaymentCore_payments env hp
        rw [h, commit_ok] at hpayments
        have hkeeps : forall f : Payment -> Payment, (f p).core = p.core ->
            db'.payments = db.payments.update args.paymentId f -> KeepsTrucks db db' := by
          intro f hcore hwritten
          refine keepsTrucks_of_payment hlawful hp hsame.transportJobs hsame.trucks
            hsame.transportQuotes hwritten hcore (fun jobId truckId hfee => ?_)
            fun jobId truckId hfee => ?_
          · rw [hnofee] at hfee
            cases hfee
          · rw [hnofee] at hfee
            cases hfee
        rcases hpayments with ⟨-, hwritten⟩ | ⟨-, hkept⟩ | ⟨-, -, -, hflagged⟩
        · exact (hkeeps (·.afterSettlement args) rfl hwritten).follows hdb
        · exact (KeepsTrucks.same hlawful hsame.transportJobs hsame.trucks
            (hsame.transportQuotes ▸ .refl TransportQuote.Kept.refl _)
            (Payment.FeeKept.of_eq hkept) fun _ _ _ _ => rfl).follows hdb
        · exact (hkeeps (·.flagged args) rfl hflagged).follows hdb

theorem TruckCall.exec_follows {call : TruckCall} (hlawful : (truckHoldings db).Lawful)
    (hdb : TransportConsistent db) (hfinds : call.finds env db = true)
    (h : call.exec env db = .ok db') :
    FollowsTrucks db db' := by
  cases call with
  | createTransportJob request =>
      exact createTransportJob_follows hlawful hdb h
  | submitQuote canBid quote =>
      exact submitQuote_follows hlawful hdb h
  | acceptQuote request =>
      obtain ⟨loaded, hcheck, haccept⟩ := bind_eq_ok.1 h
      exact (acceptQuote_keepsTrucks hlawful hdb hcheck haccept).follows hdb
  | releaseQuote request updatedAt reads =>
      obtain ⟨loaded, hcheck, hrelease⟩ := bind_eq_ok.1 h
      exact (releaseQuote_keepsTrucks hlawful hdb hcheck hrelease).follows hdb
  | changeStatus request =>
      cases hjob : db.transportJobs.findUnique request.jobId with
      | none =>
          simp only [TruckCall.exec] at h
          unfold changeStatusByRoute checkStatusRequest at h
          simp [hjob] at h
      | some job =>
          refine (changeStatusByRoute_keepsTrucks hlawful hdb hjob (fun hends => ?_) h).follows hdb
          simp only [TruckCall.finds, hjob, Option.all_some] at hfinds
          simpa [hends] using hfinds
  | createPayment data =>
      simp only [TruckCall.exec] at h
      split at h
      · next hjob =>
          cases hcreate : MarketBridge.createPayment env data db with
          | error e =>
              rw [hcreate] at h
              cases h
          | ok e =>
              obtain ⟨created, id⟩ := e
              rw [hcreate] at h
              obtain rfl := Except.ok.inj h
              exact createPayment_follows hlawful hdb hjob hcreate
      · obtain rfl := Except.ok.inj h
        exact .refl hdb hlawful
  | startCheckout paymentId =>
      obtain rfl := Except.ok.inj h
      exact startCheckout_follows hlawful hdb
  | settlePayment args =>
      exact settlePaymentCore_follows hlawful hdb hfinds h
  | resolveDispute adminId disputeId resolutionType resolution =>
      exact (resolveDispute_keepsTrucks hlawful hdb hfinds h).follows hdb
  | expireWorkflow jobId =>
      refine onJob_follows hlawful hdb (fun job hjob => ?_) h
      unfold expireTransportWorkflow
      split
      · next hdue =>
          exact expireTransportJob_keepsTrucks hlawful hjob (fun _ => ⟨rfl, rfl, rfl⟩)
            (unshared_of_expiresWell hjob hdue hfinds)
      · exact .refl hlawful
  | expirePreparation jobId =>
      refine onJob_follows hlawful hdb (fun job hjob => ?_) h
      unfold expireSellerPreparation
      split
      · next hdue =>
          exact expireTransportJob_keepsTrucks hlawful hjob (fun _ => ⟨rfl, rfl, rfl⟩)
            (unshared_of_expiresWell hjob hdue hfinds)
      · exact .refl hlawful
  | expireLoading jobId =>
      refine onJob_follows hlawful hdb (fun job hjob => ?_) h
      unfold expireBuyerLoading
      split
      · next hdue =>
          exact expireTransportJob_keepsTrucks hlawful hjob (fun _ => ⟨rfl, rfl, rfl⟩)
            (unshared_of_expiresWell hjob hdue hfinds)
      · exact .refl hlawful
  | cancelOrder load orderId actorId reason role =>
      exact (cancelLoadedOrder_keepsTrucks hlawful hdb hfinds h).follows hdb
  | approveRecovery adminId requestId =>
      exact (approveRecovery_keepsTrucks hlawful hfinds h).follows hdb
  | updateAvailability caller truckId requested =>
      exact updateAvailability_follows hlawful hdb h

end Calls

/-! ## Runs -/

/-- What a run keeps: the law, the rows together, and every open settlement with its payment. -/
structure TruckInv (w : TruckWorld) : Prop where
  consistent : TransportConsistent w.db
  lawful : (truckHoldings w.db).Lawful
  inFlight : forall s, s ∈ w.settlements -> s.InFlight w.db

section Runs

variable {w : TruckWorld} {db' : Db}

theorem OpenSettlement.InFlight.follows {s : OpenSettlement} (h : s.InFlight w.db)
    (hfollows : FollowsTrucks w.db db') :
    s.InFlight db' := by
  obtain ⟨p, hp, hcore⟩ := h.found
  obtain ⟨p', hp', hcore'⟩ := hfollows.payments _ p hp
  exact ⟨h.id, h.type, p', hp', hcore'.trans hcore⟩

theorem OpenSettlement.advance_inFlight {s s' : OpenSettlement} {db : Db} (h : s.InFlight db)
    (hadvance : s.advance w.db = .ok s') :
    s'.InFlight db := by
  unfold OpenSettlement.advance at hadvance
  split at hadvance
  · obtain rfl := Except.ok.inj hadvance
    exact h
  · split at hadvance
    · obtain rfl := Except.ok.inj hadvance
      exact h
    · next jobId quoteId quote _ =>
        cases hstage : s.stage.advance s.record jobId quote w.db with
        | error e =>
            rw [hstage] at hadvance
            cases hadvance
        | ok stage =>
            rw [hstage] at hadvance
            obtain rfl := Except.ok.inj hadvance
            exact ⟨h.id, h.type, h.found⟩

theorem TruckInv.step (h : TruckInv w) (a : Env × TruckStep)
    (hmeets : TruckStep.meets w a = true) :
    TruckInv (w.step a) ∧ KeepsTruckLaw w a := by
  obtain ⟨env, action⟩ := a
  have hdone : forall db' settlements, w.step (env, action) = ⟨db', settlements⟩ ->
      FollowsTrucks w.db db' -> (forall s, s ∈ settlements -> s.InFlight w.db) ->
      TruckInv (w.step (env, action)) ∧ KeepsTruckLaw w (env, action) := by
    intro db' settlements hstep hfollows hopen
    refine ⟨?_, ?_, ?_⟩
    · rw [hstep]
      exact ⟨hfollows.consistent, hfollows.lawful,
        fun s hs => (hopen s hs).follows hfollows⟩
    · rw [hstep]
      exact hfollows.lawful
    · rw [hstep]
      exact hfollows.returned
  have hrefl : FollowsTrucks w.db w.db := .refl h.consistent h.lawful
  cases action with
  | call operation =>
      simp only [TruckStep.meets] at hmeets
      cases hexec : operation.exec env w.db with
      | error e =>
          exact hdone w.db w.settlements (by simp only [TruckWorld.step, hexec, commit_error])
            hrefl h.inFlight
      | ok db' =>
          rw [hexec] at hmeets
          exact hdone db' w.settlements (by simp only [TruckWorld.step, hexec, commit_ok])
            (operation.exec_follows h.lawful h.consistent hmeets hexec) h.inFlight
  | openSettlement args =>
      have hopened : exists settlements, w.openSettlement args = ⟨w.db, settlements⟩ ∧
          forall s, s ∈ settlements -> s.InFlight w.db := by
        unfold TruckWorld.openSettlement
        split
        · exact ⟨w.settlements, rfl, h.inFlight⟩
        · next p hp =>
            split
            · next htype =>
                refine ⟨_, rfl, fun s hs => ?_⟩
                rcases List.mem_append.1 hs with hold | hnew
                · exact h.inFlight s hold
                · obtain rfl := List.mem_singleton.1 hnew
                  exact ⟨rfl, htype, p, hp, rfl⟩
            · exact ⟨w.settlements, rfl, h.inFlight⟩
      obtain ⟨settlements, hstep, hopen⟩ := hopened
      exact hdone w.db settlements hstep hrefl hopen
  | advance i =>
      have hadvanced : exists settlements, w.step (env, .advance i) = ⟨w.db, settlements⟩ ∧
          forall s, s ∈ settlements -> s.InFlight w.db := by
        simp only [TruckWorld.step]
        split
        · exact ⟨w.settlements, rfl, h.inFlight⟩
        · next s hs =>
            split
            · exact ⟨_, rfl, fun t ht => h.inFlight t (List.mem_of_mem_eraseIdx ht)⟩
            · next s' hadvance =>
                refine ⟨_, rfl, fun t ht => ?_⟩
                rcases List.mem_or_eq_of_mem_set ht with hold | rfl
                · exact h.inFlight t hold
                · exact OpenSettlement.advance_inFlight
                    (h.inFlight s (List.mem_of_getElem? hs)) hadvance
      obtain ⟨settlements, hstep, hopen⟩ := hadvanced
      exact hdone w.db settlements hstep hrefl hopen
  | commit i =>
      cases hs : w.settlements[i]? with
      | none =>
          exact hdone w.db w.settlements (by simp only [TruckWorld.step, hs]) hrefl h.inFlight
      | some s =>
          have hopen : forall t, t ∈ w.settlements.eraseIdx i -> t.InFlight w.db :=
            fun t ht => h.inFlight t (List.mem_of_mem_eraseIdx ht)
          simp only [TruckStep.meets, hs, Option.all_some] at hmeets
          cases hcommit : s.commit env w.db with
          | error e =>
              exact hdone w.db _ (by simp only [TruckWorld.step, hs, hcommit, commit_error])
                hrefl hopen
          | ok db' =>
              rw [hcommit] at hmeets
              exact hdone db' _ (by simp only [TruckWorld.step, hs, hcommit, commit_ok])
                (s.commit_follows h.lawful h.consistent (h.inFlight s (List.mem_of_getElem? hs))
                  hmeets hcommit) hopen
  | elsewhere other =>
      have hkeeps : KeepsTrucks w.db (w.step (env, .elsewhere other)).db :=
        .same h.lawful rfl rfl (.refl TransportQuote.Kept.refl _) (Payment.FeeKept.of_eq rfl)
          fun _ _ _ _ => rfl
      exact hdone _ w.settlements rfl (hkeeps.follows h.consistent) h.inFlight

end Runs

/-- Along every run whose steps find what they must, the trucks follow the jobs. -/
theorem TruckWorld.truckLaw_of_run {w : TruckWorld} {as : List (Env × TruckStep)}
    (hdb : TransportConsistent w.db) (hlawful : (truckHoldings w.db).Lawful)
    (hopen : forall s, s ∈ w.settlements -> s.InFlight w.db)
    (h : RunMeets step (fun w a => TruckStep.meets w a = true) w as) :
    RunMeets step KeepsTruckLaw w as :=
  h.imp_of_invariant TruckInv (fun _ a hinv hmeets => (hinv.step a hmeets).1)
    (fun _ a hinv hmeets => (hinv.step a hmeets).2) ⟨hdb, hlawful, hopen⟩

/-! ## Two jobs on one truck, and one that starts again -/

def loadingOrder (buyerId : Id) : Order :=
  { listingId := 0
    buyerId := buyerId
    sellerId := 2
    finalPrice := 500
    quantity := 1
    status := .transportArranged }

/-- A job that is agreed with the owner of truck 0 and has a fee to be paid. -/
def agreedJob (orderId : Id) : TransportJob :=
  { orderId := orderId
    method := .hireTransporter
    truckOwnerId := some 5
    truckId := some 0
    agreedAmount := some 10
    status := .accepted
    arrangingParty := .buyer
    sellerPreparationDueAt := some 0 }

def agreedQuote (jobId : Id) : TransportQuote :=
  { transportJobId := jobId
    truckOwnerId := 5
    truckId := 0
    amount := 10
    status := .accepted }

def dueFee (orderId jobId quoteId : Id) : Payment :=
  { orderId := some orderId
    createdById := some 1
    transportJobId := some jobId
    transportQuoteId := some quoteId
    type := .transport
    amount := 10 }

def ownJob : TransportJob :=
  { orderId := 2
    method := .ownTruck
    truckOwnerId := some 2
    truckId := some 1
    status := .accepted
    arrangingParty := .seller }

/-- Two agreed jobs name one truck, and a third job has claimed the other truck. -/
def sharedTruckDb : Db :=
  { orders := ((Table.empty.create (loadingOrder 1)).create (loadingOrder 3)).create
      (loadingOrder 4)
    trucks := (Table.empty.create { ownerId := 5 }).create
      { ownerId := 2
        availability := .busy }
    transportJobs := ((Table.empty.create (agreedJob 0)).create (agreedJob 1)).create ownJob
    transportQuotes := (Table.empty.create (agreedQuote 0)).create (agreedQuote 1)
    payments := (Table.empty.create (dueFee 0 0 0)).create (dueFee 1 1 1)
    recoveryRequests := Table.empty.create
      { orderId := 2
        type := .transport } }

def payFee (paymentId : Id) : SettleArgs :=
  { paymentId := paymentId
    status := .paid
    amount := some (.finite 10) }

/-- The second job is not prepared in time after the first one has been paid. -/
def expiryBesidePaid : List (Env × TruckStep) :=
  [(env0, .call (.settlePayment (payFee 0))), (env0, .call (.expirePreparation 1))]

/-- Both fees are settled, and both settlements read the truck before either commits. -/
def settlementRace : List (Env × TruckStep) :=
  [(env0, .openSettlement (payFee 0)), (env0, .openSettlement (payFee 1)),
    (env0, .advance 0), (env0, .advance 0), (env0, .advance 1), (env0, .advance 1),
    (env0, .commit 0), (env0, .commit 0)]

def ownTruckRecovery : List (Env × TruckStep) :=
  [(env0, .call (.approveRecovery 9 0))]

def TruckWorld.heldBy (w : TruckWorld) : List (Option Id) :=
  [committedTruck w.db 0, committedTruck w.db 1, committedTruck w.db 2]

def TruckWorld.availabilityOf (w : TruckWorld) (truckId : Id) : Option TruckAvailability :=
  (w.db.trucks.findUnique truckId).map (·.availability)

section SharedTruck

variable {i : Id} {job : TransportJob}

theorem sharedTruckDb_job (h : sharedTruckDb.transportJobs.findUnique i = some job) :
    i = 0 ∧ job = agreedJob 0 ∨ i = 1 ∧ job = agreedJob 1 ∨ i = 2 ∧ job = ownJob := by
  have hi : i < 3 := Table.lt_size_of_findUnique h
  interval_cases i
  · exact Or.inl ⟨rfl, (Option.some.inj h).symm⟩
  · exact Or.inr (Or.inl ⟨rfl, (Option.some.inj h).symm⟩)
  · exact Or.inr (Or.inr ⟨rfl, (Option.some.inj h).symm⟩)

theorem sharedTruckDb_consistent : TransportConsistent sharedTruckDb where
  perOrder i j a b hi hj horder := by
    rcases sharedTruckDb_job hi with ⟨rfl, rfl⟩ | ⟨rfl, rfl⟩ | ⟨rfl, rfl⟩ <;>
      rcases sharedTruckDb_job hj with ⟨rfl, rfl⟩ | ⟨rfl, rfl⟩ | ⟨rfl, rfl⟩ <;>
      first | rfl | exact absurd horder (by decide)
  waiting i row hi hwaits := by
    rcases sharedTruckDb_job hi with ⟨-, rfl⟩ | ⟨-, rfl⟩ | ⟨-, rfl⟩ <;>
      exact absurd hwaits (by decide)
  hired i quote hi _ := by
    have hlt : i < 2 := Table.lt_size_of_findUnique hi
    interval_cases i
    · obtain rfl := Option.some.inj hi
      exact ⟨agreedJob 0, rfl, rfl⟩
    · obtain rfl := Option.some.inj hi
      exact ⟨agreedJob 1, rfl, rfl⟩
  owned i p hi _ jobId hjobId := by
    have hlt : i < 2 := Table.lt_size_of_findUnique hi
    interval_cases i
    · obtain rfl := Option.some.inj hi
      obtain rfl := Option.some.inj hjobId
      exact ⟨agreedJob 0, rfl, rfl⟩
    · obtain rfl := Option.some.inj hi
      obtain rfl := Option.some.inj hjobId
      exact ⟨agreedJob 1, rfl, rfl⟩

theorem sharedTruckDb_lawful : (truckHoldings sharedTruckDb).Lawful := by
  have hheld : forall i r, committedTruck sharedTruckDb i = some r -> i = 2 ∧ r = 1 := by
    intro i r hi
    obtain ⟨job, hjob, hcommitted, htruck⟩ := committedTruck_eq_some.1 hi
    rcases sharedTruckDb_job hjob with ⟨rfl, rfl⟩ | ⟨rfl, rfl⟩ | ⟨rfl, rfl⟩
    · exact absurd hcommitted (by decide +kernel)
    · exact absurd hcommitted (by decide +kernel)
    · exact ⟨rfl, (Option.some.inj htruck).symm⟩
  refine ⟨fun i j r hi hj => ?_, fun i r hi hfree => ?_⟩
  · exact (hheld i r hi).1.trans (hheld j r hj).1.symm
  · obtain ⟨-, rfl⟩ := hheld i r hi
    have hoffer : hasAvailability sharedTruckDb 1 .available = true := hfree
    exact absurd hoffer (by decide)

end SharedTruck

/-- A paid job that ends frees the truck, and the settlement of the other fee claims it. -/
def truckHandover : List (Env × TruckStep) :=
  [(env0, .call (.settlePayment (payFee 0))), (env0, .call (.expirePreparation 0)),
    (env0, .openSettlement (payFee 1)), (env0, .advance 0), (env0, .advance 0), (env0, .commit 0)]

theorem truckHandover_keeps_law :
    RunMeets TruckWorld.step KeepsTruckLaw ⟨sharedTruckDb, []⟩ truckHandover ∧
      (run TruckWorld.step ⟨sharedTruckDb, []⟩ truckHandover).heldBy = [none, some 0, some 1] :=
  ⟨TruckWorld.truckLaw_of_run sharedTruckDb_consistent sharedTruckDb_lawful
    (fun _ hs => absurd hs (List.not_mem_nil)) (by decide +kernel), by decide +kernel⟩

/--
An unpaid job that ends frees the truck of a paid one; two settlements claim one
truck; a job that starts again leaves its truck busy.
-/
theorem trucks_shared_and_stranded :
    (run TruckWorld.step ⟨sharedTruckDb, []⟩ expiryBesidePaid).heldBy = [some 0, none, some 1] ∧
    (run TruckWorld.step ⟨sharedTruckDb, []⟩ expiryBesidePaid).availabilityOf 0 =
      some .available ∧
    (run TruckWorld.step ⟨sharedTruckDb, []⟩ settlementRace).heldBy =
      [some 0, some 0, some 1] ∧
    (run TruckWorld.step ⟨sharedTruckDb, []⟩ ownTruckRecovery).heldBy = [none, none, none] ∧
    (run TruckWorld.step ⟨sharedTruckDb, []⟩ ownTruckRecovery).availabilityOf 1 = some .busy ∧
    ¬ RunMeets TruckWorld.step KeepsTruckLaw ⟨sharedTruckDb, []⟩ expiryBesidePaid ∧
    ¬ RunMeets TruckWorld.step KeepsTruckLaw ⟨sharedTruckDb, []⟩ settlementRace ∧
    ¬ RunMeets TruckWorld.step KeepsTruckLaw ⟨sharedTruckDb, []⟩ ownTruckRecovery := by
  refine ⟨by decide +kernel, by decide +kernel, by decide +kernel, by decide +kernel,
    by decide +kernel, fun h => ?_, fun h => ?_, fun h => ?_⟩
  · have hlawful := h.2.1.lawful
    have hheld : committedTruck (run TruckWorld.step ⟨sharedTruckDb, []⟩ expiryBesidePaid).db 0 =
        some 0 := by decide +kernel
    have hfree : hasAvailability (run TruckWorld.step ⟨sharedTruckDb, []⟩ expiryBesidePaid).db 0
        .available = true := by decide +kernel
    exact hlawful.occupied 0 0 hheld hfree
  · have hlawful := h.2.2.2.2.2.2.2.1.lawful
    have hfirst : committedTruck (run TruckWorld.step ⟨sharedTruckDb, []⟩ settlementRace).db 0 =
        some 0 := by decide +kernel
    have hsecond : committedTruck (run TruckWorld.step ⟨sharedTruckDb, []⟩ settlementRace).db 1 =
        some 0 := by decide +kernel
    exact absurd (hlawful.exclusive 0 1 0 hfirst hsecond) (by decide)
  · have hreturned := h.1.returned
    have hheld : committedTruck sharedTruckDb 2 = some 1 := by decide +kernel
    have hbusy : hasAvailability sharedTruckDb 1 .busy = true := by decide +kernel
    have hidle : forall i, committedTruck
        (run TruckWorld.step ⟨sharedTruckDb, []⟩ ownTruckRecovery).db i ≠ some 1 := by
      intro i hi
      obtain ⟨job, hjob, -⟩ := committedTruck_eq_some.1 hi
      have hlt : i < 3 := Table.lt_size_of_findUnique hjob
      revert hi
      interval_cases i <;> decide +kernel
    have hfree : hasAvailability
        (run TruckWorld.step ⟨sharedTruckDb, []⟩ ownTruckRecovery).db 1 .available = true :=
      hreturned 2 1 hheld hbusy hidle
    exact absurd hfree (by decide +kernel)

end MarketBridge
