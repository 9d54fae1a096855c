import MarketBridge.Transport.Effects

/-!
# The settlement of a transport fee, statement by statement

`settlePaymentCore` reads the payment, reads its job again, reads the truck of the
job and looks for another job on that truck.  Under `READ COMMITTED` every one of
these reads sees what is committed by then; the writes come last, at the commit.
-/

namespace MarketBridge

open Relational

/-- How far a settlement has come with the truck of its job. -/
inductive ClaimStage where
  | opened
  /-- The job, read again, is open and agrees with the quote. -/
  | readJob (job : TransportJob)
  | sawAvailable (job : TransportJob)
  | sawBusy (job : TransportJob)
  /-- No other job was using the busy truck. -/
  | foundAlone (job : TransportJob)
deriving DecidableEq, Repr

namespace ClaimStage

/-- The second read of the job. -/
def rereadJob (r : PaymentRecord) (jobId : Id) (quote : TransportQuote) (db : Db) :
    Except ApiError TransportJob :=
  match db.transportJobs.findUnique jobId with
  | none =>
      .error (conflictError "Transport job is no longer available for payment commitment")
  | some job =>
      if job.status ∉ [TransportStatus.requested, .quoted, .accepted] then
        .error (conflictError "Transport job is no longer available for payment commitment")
      else if transportAligned r.row jobId job quote then
        .ok job
      else
        .error (conflictError "Transport payment is no longer aligned with its accepted quote")

def readTruck (truckId : Id) (job : TransportJob) (db : Db) : Except ApiError ClaimStage :=
  match db.trucks.findUnique truckId with
  | none => .error (conflictError "The selected truck no longer exists")
  | some truck =>
      match truck.availability with
      | .available => .ok (.sawAvailable job)
      | .busy => .ok (.sawBusy job)
      | .offline => .error (conflictError "The selected truck is no longer available")

def searchConflict (jobId truckId : Id) (db : Db) : Except ApiError Unit :=
  if truckInUseElsewhere db jobId truckId then
    .error (conflictError "The selected truck is committed to another active transport job")
  else
    .ok ()

/--
The next read.  The truck of an aligned quote is the truck of the job; the truck of
a job that is not accepted is claimed by a conditional write, which is not a read.
-/
def advance (r : PaymentRecord) (jobId : Id) (quote : TransportQuote) (db : Db) :
    ClaimStage -> Except ApiError ClaimStage
  | .opened => (rereadJob r jobId quote db).map .readJob
  | .readJob job =>
      if job.status = .accepted then readTruck quote.truckId job db else .ok (.readJob job)
  | .sawBusy job => do
      searchConflict jobId quote.truckId db
      .ok (.foundAlone job)
  | stage => .ok stage

/-- The reads that are left and the claim, with the job as it was read. -/
def claim (r : PaymentRecord) (jobId : Id) (quote : TransportQuote) (db : Db) :
    ClaimStage -> Except ApiError (TransportJob × Db)
  | .opened => do
      let job ← rereadJob r jobId quote db
      let db ← claimTruck jobId quote.truckId job.status db
      .ok (job, db)
  | .readJob job => do
      let db ← claimTruck jobId quote.truckId job.status db
      .ok (job, db)
  | .sawAvailable job => .ok (job, setAvailability quote.truckId .busy db)
  | .sawBusy job => do
      searchConflict jobId quote.truckId db
      .ok (job, db)
  | .foundAlone job => .ok (job, db)

end ClaimStage

/-- A settlement of a transport fee between two of its statements. -/
structure OpenSettlement where
  args : SettleArgs
  record : PaymentRecord
  stage : ClaimStage := .opened
deriving DecidableEq, Repr

namespace OpenSettlement

def opened (args : SettleArgs) (p : Payment) (db : Db) : OpenSettlement :=
  { args := args
    record := paymentRecord db args.paymentId p }

/-- The job, the quote and the row of the quote whose truck the settlement claims. -/
def commitment (s : OpenSettlement) : Option (Id × Id × TransportQuote) :=
  if receivedUnderDispute s.record then
    none
  else
    (transportCommitment s.record).map fun c => (c.1, c.2.2.2.1, c.2.2.2.2)

/-- The settlement reads on, if it is one that claims a truck. -/
def advance (s : OpenSettlement) (db : Db) : Except ApiError OpenSettlement :=
  if s.args.status ≠ .paid ∨ mismatchReason s.record.row s.args ≠ none ∨
      ignoresNotification s.record.row.status s.args.status = true then
    .ok s
  else
    match s.commitment with
    | none => .ok s
    | some (jobId, _, quote) =>
        (s.stage.advance s.record jobId quote db).map fun stage => { s with stage := stage }

/-- The effects of a received fee. -/
def applyPaid (env : Env) (s : OpenSettlement) : Tx := fun db =>
  if receivedUnderDispute s.record then
    createReconciliationIssue env
      (issueData s.record s.args .paymentReceivedWhileOrderDisputed)
      (writeLedgerPaid s.record db)
  else
    match s.commitment with
    | none => .ok (recordPaid env s.record db)
    | some (jobId, quoteId, quote) => do
        let claimed ← s.stage.claim s.record jobId quote db
        .ok (recordPaid env s.record (acceptTransport env jobId quoteId claimed.1 claimed.2))

def applyEffects (env : Env) (s : OpenSettlement) : Tx := fun db =>
  if s.args.status = .paid then s.applyPaid env db
  else MarketBridge.applyEffects env s.args s.record db

/-- What is left of the settlement. -/
def commit (env : Env) (s : OpenSettlement) : Tx := fun db =>
  match mismatchReason s.record.row s.args with
  | some reason => flagMismatch env s.args s.record reason db
  | none => do
      match ← registerEvent s.args s.record db with
      | none => .ok db
      | some db =>
          if ignoresNotification s.record.row.status s.args.status then
            .ok db
          else do
            let db ← writeSettlement env s.args s.record db
            s.applyEffects env db

end OpenSettlement

/-! ## In one piece -/

section Alone

variable {env : Env} {args : SettleArgs} {db written : Db} {p : Payment}

/-- With nothing in between, the claim is the one of `settlePaymentCore`. -/
theorem applyPaid_opened (htype : p.type = .transport)
    (hjobs : written.transportJobs = db.transportJobs) :
    (OpenSettlement.opened args p db).applyPaid env written =
      MarketBridge.applyPaid env args (paymentRecord db args.paymentId p) written := by
  unfold OpenSettlement.applyPaid MarketBridge.applyPaid OpenSettlement.opened
  dsimp only
  by_cases hdispute : receivedUnderDispute (paymentRecord db args.paymentId p) = true
  · rw [if_pos hdispute, if_pos hdispute]
  · rw [if_neg hdispute, if_neg hdispute]
    have hgoods : settleGoods env args (paymentRecord db args.paymentId p) written =
        .ok written := by
      unfold settleGoods
      rw [show (paymentRecord db args.paymentId p).row.type = .transport from htype]
    have hinspection : forall s : Db,
        commitInspection (paymentRecord db args.paymentId p) s = .ok s := by
      intro s
      unfold commitInspection inspectionCommitment
      rw [show (paymentRecord db args.paymentId p).row.type = .transport from htype]
      rfl
    rw [hgoods, ok_bind]
    simp only [hinspection]
    unfold OpenSettlement.commitment commitTransport
    dsimp only
    rw [if_neg hdispute]
    cases hcommitment : transportCommitment (paymentRecord db args.paymentId p) with
    | none =>
        rfl
    | some c =>
        obtain ⟨jobId, job, truckId, quoteId, quote⟩ := c
        obtain ⟨-, hjobId, hjob, htruck, -⟩ := transportCommitment_hired hcommitment
        have hrow : written.transportJobs.findUnique jobId = some job := by
          have hrelated : related db.transportJobs p.transportJobId = some job := hjob
          rw [show p.transportJobId = some jobId from hjobId, related_some] at hrelated
          rw [hjobs, hrelated]
        simp only [Option.map_some, ClaimStage.claim, ClaimStage.rereadJob, hrow]
        by_cases hstatus : job.status ∉ [TransportStatus.requested, .quoted, .accepted]
        · simp only [if_pos hstatus, error_bind]
        · simp only [if_neg hstatus]
          by_cases haligned : transportAligned (paymentRecord db args.paymentId p).row jobId job
              quote = true
          · have hsame : quote.truckId = truckId := by
              have halign := haligned
              unfold transportAligned at halign
              simp only [Bool.and_eq_true, decide_eq_true_eq] at halign
              exact Option.some.inj (halign.1.1.1.2.trans htruck)
            simp only [if_pos haligned, ok_bind, hsame]
            cases claimTruck jobId truckId job.status written <;> rfl
          · simp only [if_neg haligned, error_bind]

theorem OpenSettlement.commit_opened (env : Env)
    (hp : db.payments.findUnique args.paymentId = some p) (htype : p.type = .transport) :
    (opened args p db).commit env db = settlePaymentCore env args db := by
  unfold OpenSettlement.commit OpenSettlement.opened settlePaymentCore
  rw [hp]
  dsimp only
  have hrow : (paymentRecord db args.paymentId p).row = p := rfl
  simp only [hrow]
  cases hmismatch : mismatchReason p args with
  | some reason =>
      rfl
  | none =>
      dsimp only
      rcases registerEvent_cases args (paymentRecord db args.paymentId p) db with
        ⟨-, hregister⟩ | ⟨-, hregister⟩ | ⟨-, hregister⟩
      · rw [hregister, ok_bind, ok_bind]
        dsimp only
        unfold processNotification
        simp only [hrow]
        by_cases hignored : ignoresNotification p.status args.status = true
        · rw [if_pos hignored, if_pos hignored]
        · rw [if_neg hignored, if_neg hignored]
          cases hwrite : writeSettlement env args (paymentRecord db args.paymentId p)
            (withEvent args (paymentRecord db args.paymentId p) db) with
          | error e =>
              rfl
          | ok written =>
              rw [ok_bind, ok_bind]
              have hjobs : written.transportJobs = db.transportJobs := by
                obtain ⟨events, hevents⟩ :=
                  withEvent_frame args (paymentRecord db args.paymentId p) db
                rw [hevents] at hwrite
                obtain ⟨-, _, rfl⟩ := writeSettlement_eq_ok (by exact hp) hwrite
                rfl
              unfold OpenSettlement.applyEffects
              dsimp only
              split
              · next hpaid =>
                  rw [show MarketBridge.applyEffects env args (paymentRecord db args.paymentId p)
                    written = MarketBridge.applyPaid env args (paymentRecord db args.paymentId p)
                      written by simp only [MarketBridge.applyEffects, hpaid]]
                  exact applyPaid_opened htype hjobs
              · rfl
      · rw [hregister, ok_bind, ok_bind]
      · rw [hregister, error_bind, error_bind]

end Alone

end MarketBridge
