import MarketBridge.Order.Unwinding
import MarketBridge.Transport.Effects

/-!
# Concurrent requests on the status of transport jobs

A request is a read outside its transaction and the transaction itself.  Between
the two, transactions of other requests come in any order.  The status of a job
keeps to its state machine exactly as long as no status change is written over
a row that has moved on, and no job that runs or has arrived is recovered.
-/

namespace MarketBridge

open Relational

/-! ## Interleavings -/

inductive JobRequest where
  | changeStatus (request : StatusRequest)
  | acceptQuote (request : QuoteRequest)
  | releaseQuote (request : ReleaseRequest) (updatedAt : Nat)
deriving DecidableEq, Repr

/-- A request between its checks and its transaction, with what it has read. -/
inductive CheckedRequest where
  | changeStatus (request : CheckedStatusRequest)
  | acceptQuote (request : LoadedQuote)
  | releaseQuote (request : LoadedQuote)
deriving DecidableEq, Repr

def JobRequest.check (env : Env) (db : Db) : JobRequest -> Except ApiError CheckedRequest
  | .changeStatus request => (checkStatusRequest env request db).map .changeStatus
  | .acceptQuote request => (checkAccept env request db).map .acceptQuote
  | .releaseQuote request updatedAt => (checkRelease env request updatedAt db).map .releaseQuote

def CheckedRequest.exec (env : Env) (reads : ReleaseReads) : CheckedRequest -> Tx
  | .changeStatus request => commitStatusRequest env request
  | .acceptQuote request => MarketBridge.acceptQuote env request
  | .releaseQuote request => MarketBridge.releaseQuote env request reads

/-- The database and the requests that are between their read and their transaction. -/
structure JobWorld where
  db : Db
  checked : List CheckedRequest := []
deriving DecidableEq, Repr

inductive JobStep where
  | check (request : JobRequest)
  | commit (i : Nat) (reads : ReleaseReads)
  /-- The transaction of a settlement that commits transport. -/
  | settlePayment (args : SettleArgs)
  | expireWorkflow (jobId : Id)
  | expirePreparation (jobId : Id)
  | expireLoading (jobId : Id)
  /-- The order of the job is cancelled because one of its own deadlines is over. -/
  | expireOrder (load : OrderLoad) (orderId : Id) (reason : Option String)
  | approveRecovery (adminId requestId : Id)
  | createJob (job : TransportJob)
  /-- A confirmation or another write that leaves the status as it is. -/
  | editJob (jobId : Id) (job : TransportJob)
  /-- Something else writes the other tables. -/
  | elsewhere (other : Db)

namespace JobWorld

def apply (w : JobWorld) (tx : Tx) : JobWorld :=
  { w with db := commit (tx w.db) w.db }

def onJob (w : JobWorld) (jobId : Id) (write : TransportJob -> Db -> Db) : JobWorld :=
  match w.db.transportJobs.findUnique jobId with
  | none => w
  | some job => { w with db := write job w.db }

def step (w : JobWorld) (a : Env × JobStep) : JobWorld :=
  match a.2 with
  | .check request =>
      match request.check a.1 w.db with
      | .error _ => w
      | .ok checked => { w with checked := w.checked ++ [checked] }
  | .commit i reads =>
      match w.checked[i]? with
      | none => w
      | some request => { w.apply (request.exec a.1 reads) with checked := w.checked.eraseIdx i }
  | .settlePayment args => w.apply (settlePaymentCore a.1 args)
  | .expireWorkflow jobId => w.onJob jobId (expireTransportWorkflow a.1 jobId)
  | .expirePreparation jobId => w.onJob jobId (expireSellerPreparation a.1 jobId)
  | .expireLoading jobId => w.onJob jobId (expireBuyerLoading a.1 jobId)
  | .expireOrder load orderId reason =>
      w.apply (cancelLoadedOrder a.1 load orderId none reason .system)
  | .approveRecovery adminId requestId =>
      w.apply (MarketBridge.approveRecovery a.1 adminId requestId fun _ db => .ok db)
  | .createJob job =>
      { w with db := { w.db with transportJobs := w.db.transportJobs.create job } }
  | .editJob jobId job =>
      { w with db := { w.db with
          transportJobs := w.db.transportJobs.update jobId
            fun row => { job with status := row.status } } }
  | .elsewhere other =>
      { w with db := { other with transportJobs := w.db.transportJobs } }

end JobWorld

/-! ## The state machine -/

/-- The moves that the request may make beside those of `validTransitions`. -/
def CheckedRequest.hasMove (db : Db) (jobId : Id) (s t : TransportStatus) : CheckedRequest -> Bool
  | .changeStatus _ => false
  | .acceptQuote _ => s = .quoted && t = .accepted
  | .releaseQuote request =>
      request.isAcceptedRelease && s = .accepted && t = .quoted &&
        !hasTransportPayment db jobId lockingStatuses

/--
The moves of a job: those of `validTransitions`, the acceptance of a quote, the
release of an agreement before its payment and the recreation of a cancelled job.
-/
def JobStep.hasMove (w : JobWorld) (a : JobStep) (jobId : Id) (s t : TransportStatus) : Bool :=
  t ∈ s.validTransitions ||
    match a with
    | .commit i _ => (w.checked[i]?).any (CheckedRequest.hasMove w.db jobId s t)
    | .approveRecovery _ _ => s = .cancelled && t = .requested
    | _ => false

/-- Out of `DELIVERED`, back from a pickup to the start, or from a cancellation to a pickup. -/
def isBackward (s t : TransportStatus) : Bool :=
  s = .delivered && t ≠ .delivered || s = .cancelled && t = .pickup ||
    s.isInMotion && t = .requested

def MovesBy (moves : Id -> TransportStatus -> TransportStatus -> Bool) (db db' : Db) : Prop :=
  forall jobId job job', db.transportJobs.findUnique jobId = some job ->
    db'.transportJobs.findUnique jobId = some job' ->
      job'.status = job.status ∨ moves jobId job.status job'.status = true

/-- The step keeps every job to its state machine, and so moves none backward. -/
structure KeepsStateMachine (w : JobWorld) (a : Env × JobStep) : Prop where
  moves : MovesBy (a.2.hasMove w) w.db (w.step a).db
  forward : MovesBy (fun _ s t => !isBackward s t) w.db (w.step a).db

theorem JobStep.hasMove_forward {w : JobWorld} {a : JobStep} {jobId : Id} {s t : TransportStatus}
    (h : a.hasMove w jobId s t = true) :
    isBackward s t = false := by
  unfold JobStep.hasMove at h
  rw [Bool.or_eq_true, decide_eq_true_eq] at h
  rcases h with hedge | hreserved
  · revert hedge
    cases s <;> cases t <;> decide
  · split at hreserved
    · rw [Option.any_eq_true] at hreserved
      obtain ⟨request, -, hmove⟩ := hreserved
      cases request with
      | changeStatus =>
          cases hmove
      | acceptQuote =>
          simp only [CheckedRequest.hasMove, Bool.and_eq_true, decide_eq_true_eq] at hmove
          obtain ⟨rfl, rfl⟩ := hmove
          rfl
      | releaseQuote =>
          simp only [CheckedRequest.hasMove, Bool.and_eq_true, decide_eq_true_eq] at hmove
          obtain ⟨⟨⟨-, rfl⟩, rfl⟩, -⟩ := hmove
          rfl
    · simp only [Bool.and_eq_true, decide_eq_true_eq] at hreserved
      obtain ⟨rfl, rfl⟩ := hreserved
      rfl
    · cases hreserved

section Moves

variable {moves : Id -> TransportStatus -> TransportStatus -> Bool} {db db' : Db}

theorem MovesBy.of_eq (h : db'.transportJobs = db.transportJobs) : MovesBy moves db db' := by
  intro jobId job job' hjob hjob'
  rw [h, hjob] at hjob'
  obtain rfl := Option.some.inj hjob'
  exact Or.inl rfl

theorem movesBy_update_iff {k : Id} {job : TransportJob} {f : TransportJob -> TransportJob}
    (hjob : db.transportJobs.findUnique k = some job)
    (h : db'.transportJobs = db.transportJobs.update k f) :
    MovesBy moves db db' ↔ (f job).status = job.status ∨ moves k job.status (f job).status = true := by
  constructor
  · intro hmoves
    refine hmoves k job (f job) hjob ?_
    rw [h, Table.findUnique_update_self, hjob, Option.map_some]
  · intro hmove i row row' hrow hrow'
    rw [h, Table.findUnique_update] at hrow'
    split at hrow'
    · next hi =>
        subst hi
        obtain rfl := Option.some.inj (hjob.symm.trans hrow)
        rw [hjob, Option.map_some] at hrow'
        obtain rfl := Option.some.inj hrow'
        exact hmove
    · rw [hrow] at hrow'
      obtain rfl := Option.some.inj hrow'
      exact Or.inl rfl

theorem MovesBy.update {k : Id} {f : TransportJob -> TransportJob}
    (h : db'.transportJobs = db.transportJobs.update k f)
    (hmove : forall job, db.transportJobs.findUnique k = some job ->
      (f job).status = job.status ∨ moves k job.status (f job).status = true) :
    MovesBy moves db db' := by
  cases hjob : db.transportJobs.findUnique k with
  | none =>
      rw [Table.update_eq_self_of_findUnique_eq_none hjob] at h
      exact .of_eq h
  | some job =>
      exact (movesBy_update_iff hjob h).2 (hmove job hjob)

end Moves

/-! ## One step -/

section Steps

variable {env : Env} {moves : Id -> TransportStatus -> TransportStatus -> Bool} {db db' : Db}

theorem settlePaymentCore_moves {args : SettleArgs}
    (h : settlePaymentCore env args db = .ok db')
    (hmoves : forall jobId s, .accepted ∈ TransportStatus.validTransitions s ->
      moves jobId s .accepted = true) :
    MovesBy moves db db' := by
  cases hp : db.payments.findUnique args.paymentId with
  | none =>
      simp [settlePaymentCore, hp] at h
  | some p =>
      rcases settlePaymentCore_transport hp h with
        ⟨hsame, -⟩ | ⟨-, -, jobId, job, truckId, quoteId, quote, hmay, hcommitted⟩
      · exact .of_eq hsame.transportJobs
      · refine .update hcommitted.transportJobs fun row hrow => ?_
        have hjob : related db.transportJobs p.transportJobId = some job :=
          (transportCommitment_hired hmay.commitment).2.2.1
        rw [show p.transportJobId = some jobId from
          (transportCommitment_hired hmay.commitment).2.1, related_some, hrow] at hjob
        obtain rfl := Option.some.inj hjob
        have hstatus := hmay.status
        cases hs : row.status with
        | accepted =>
            exact Or.inl rfl
        | requested =>
            exact Or.inr (hmoves jobId _ (by decide))
        | quoted =>
            exact Or.inr (hmoves jobId _ (by decide))
        | _ =>
            rw [hs] at hstatus
            simp at hstatus

theorem expireTransportJob_moves {event : OrderEventType} {statuses : List TransportQuoteStatus}
    {write : TransportJob -> TransportJob} {jobId : Id} {job : TransportJob}
    (hjob : db.transportJobs.findUnique jobId = some job)
    (hmove : moves jobId job.status (write job).status = true) :
    MovesBy moves db (expireTransportJob env event statuses write jobId job db) := by
  have hwrite := (expireTransportJob_transport env event statuses write jobId job db).transportJobs
  exact (movesBy_update_iff hjob hwrite).2 (Or.inr hmove)

theorem assertCancellable_still {order : OrderRecord} {role : CancelledByRole}
    {job : LoadedTransportJob} (h : assertCancellable order role = .ok ()) (hrole : role ≠ .admin)
    (hjob : order.transportJob = some job) :
    job.status ∉ [TransportStatus.pickup, .inTransit, .delivered] := by
  unfold assertCancellable at h
  simp only [guard_eq_ok] at h
  obtain ⟨-, hmotion, h⟩ := h
  rw [hjob, Option.any_some, decide_eq_true_eq] at hmotion
  exact fun hstatus => hmotion ⟨hrole, hstatus⟩

theorem cancelLoadedOrder_moves {load : OrderLoad} {orderId : Id} {reason : Option String}
    (h : cancelLoadedOrder env load orderId none reason .system db = .ok db')
    (hmoves : forall jobId s, .cancelled ∈ TransportStatus.validTransitions s ->
      moves jobId s .cancelled = true) :
    MovesBy moves db db' := by
  unfold cancelLoadedOrder at h
  split at h
  · cases h
  · next record hrecord =>
      obtain ⟨order, hloaded⟩ := loadOrder_eq_some hrecord
      obtain ⟨hassert, -⟩ := cancelOrderInTransaction_eq_ok_iff.mp h
      have hjobs := (cancelOrderInTransaction_transport h).transportJobs
      unfold cancelTransport at hjobs
      rw [hloaded.transportJob] at hjobs
      cases hjob : transportJobOf db orderId with
      | none =>
          rw [hjob] at hjobs
          exact .of_eq hjobs
      | some e =>
          obtain ⟨jobId, job⟩ := e
          rw [hjob] at hjobs
          simp only [Option.map_some] at hjobs
          split at hjobs
          · exact .of_eq hjobs
          · next hactive =>
              obtain ⟨hfind, -⟩ := Table.findFirst_eq_some hjob
              refine (movesBy_update_iff hfind hjobs).2 (Or.inr (hmoves jobId job.status ?_))
              have hrow : record.transportJob =
                  some ⟨jobId, job.status, load.truck job⟩ := by
                rw [hloaded.transportJob, hjob]
                rfl
              have hstill : job.status ∉ [TransportStatus.pickup, .inTransit, .delivered] :=
                assertCancellable_still hassert (by decide) hrow
              revert hactive hstill
              generalize job.status = s
              cases s <;> decide

theorem acceptQuote_moves {r : LoadedQuote} (h : acceptQuote env r db = .ok db')
    (hmoves : forall jobId s, s ∈ [TransportStatus.requested, .quoted] ->
      moves jobId s .accepted = true) :
    MovesBy moves db db' := by
  obtain ⟨fresh, job, -, -, -, hjob, hstatus, rfl⟩ := acceptQuote_eq_ok h
  have hwrite := (syncOrderPaymentObligations_sameTransport job.orderId
    (agreeOnQuote env r.quoteId fresh r.quote.finalAmount db)).transportJobs
  exact (movesBy_update_iff hjob hwrite).2 (Or.inr (hmoves _ _ hstatus))

theorem releaseQuote_moves {r : LoadedQuote} {reads : ReleaseReads}
    (h : releaseQuote env r reads db = .ok db')
    (hmoves : forall jobId, r.isAcceptedRelease = true ->
      hasTransportPayment db jobId lockingStatuses = false ->
        moves jobId .accepted .quoted = true) :
    MovesBy moves db db' := by
  rcases releaseQuote_eq_ok h with rfl | ⟨fresh, -, hunpaid, hactive, rfl⟩
  · exact .of_eq rfl
  · refine .update (releaseAgreement_transportJobs env r fresh db) fun job hjob => ?_
    split
    · next haccepted =>
        obtain ⟨job', hjob', hstatus, -⟩ := assertAgreementActive_eq_ok (hactive haccepted)
        obtain rfl := Option.some.inj (hjob.symm.trans hjob')
        rw [hstatus]
        exact Or.inr (hmoves _ haccepted hunpaid)
    · exact Or.inl rfl

end Steps

/-! ## What a step must find -/

/--
The row of a status change has the new status already or an edge to it, as the row
that was read had; a job that starts again was requested only, or is cancelled.
-/
def JobStep.finds (w : JobWorld) : JobStep -> Bool
  | .commit i _ =>
      (w.checked[i]?).all fun request =>
        match request with
        | .changeStatus r => !r.commits w.db || (w.db.transportJobs.findUnique r.jobId).all fun job =>
            r.next = job.status || r.next ∈ job.status.validTransitions
        | _ => true
  | .approveRecovery _ requestId =>
      (recoveredJob w.db requestId).all fun job =>
        job.2.status ∈ [TransportStatus.requested, .cancelled]
  | _ => true

/-! ## Runs -/

section Runs

variable {env : Env} {w : JobWorld}

theorem KeepsStateMachine.of_moves {a : Env × JobStep}
    (h : MovesBy (a.2.hasMove w) w.db (w.step a).db) :
    KeepsStateMachine w a := by
  refine ⟨h, fun jobId job job' hjob hjob' => ?_⟩
  rcases h jobId job job' hjob hjob' with hsame | hmove
  · exact Or.inl hsame
  · right
    simp only [JobStep.hasMove_forward hmove, Bool.not_false]

theorem hasMove_of_edge (a : JobStep) (jobId : Id) {s t : TransportStatus}
    (h : t ∈ s.validTransitions) :
    a.hasMove w jobId s t = true := by
  unfold JobStep.hasMove
  rw [decide_eq_true h, Bool.true_or]

theorem MovesBy.commit {moves : Id -> TransportStatus -> TransportStatus -> Bool} {db : Db}
    {tx : Tx} (h : forall db', tx db = .ok db' -> MovesBy moves db db') :
    MovesBy moves db (commit (tx db) db) := by
  cases hok : tx db with
  | error e =>
      exact .of_eq rfl
  | ok db' =>
      exact h db' hok

theorem changeStatus_hasMove_iff {i : Nat} {reads : ReleaseReads} {r : CheckedStatusRequest}
    (hrequest : w.checked[i]? = some (.changeStatus r)) (jobId : Id) (s t : TransportStatus) :
    (JobStep.commit i reads).hasMove w jobId s t = true ↔ t ∈ s.validTransitions := by
  unfold JobStep.hasMove
  simp only [hrequest, Option.any_some, CheckedRequest.hasMove, Bool.or_false, decide_eq_true_eq]

theorem onJob_moves {moves : Id -> TransportStatus -> TransportStatus -> Bool} {jobId : Id}
    {write : TransportJob -> Db -> Db}
    (h : forall job, w.db.transportJobs.findUnique jobId = some job ->
      MovesBy moves w.db (write job w.db)) :
    MovesBy moves w.db (w.onJob jobId write).db := by
  unfold JobWorld.onJob
  split
  · exact .of_eq rfl
  · next job hjob =>
      exact h job hjob

theorem commit_keeps_iff (env : Env) (i : Nat) (reads : ReleaseReads) :
    KeepsStateMachine w (env, .commit i reads) ↔ (JobStep.commit i reads).finds w = true := by
  cases hrequest : w.checked[i]? with
  | none =>
      have hstep : w.step (env, .commit i reads) = w := by
        simp only [JobWorld.step, hrequest]
      refine iff_of_true (.of_moves (.of_eq (by rw [hstep]))) ?_
      simp only [JobStep.finds, hrequest, Option.all_none]
  | some request =>
      have hstep : (w.step (env, .commit i reads)).db =
          commit (request.exec env reads w.db) w.db := by
        simp only [JobWorld.step, hrequest]
        rfl
      cases request with
      | changeStatus r =>
          cases hcommits : r.commits w.db with
          | false =>
              obtain ⟨e, herror⟩ := commitStatusRequest_error env hcommits
              refine iff_of_true (.of_moves (.of_eq ?_)) ?_
              · rw [hstep]
                simp only [CheckedRequest.exec, herror, commit_error]
              · simp only [JobStep.finds, hrequest, Option.all_some, hcommits, Bool.not_false,
                  Bool.true_or]
          | true =>
              obtain ⟨db', hok, hjobs⟩ := commitStatusRequest_eq_ok env hcommits
              obtain ⟨job, hjob⟩ := Option.isSome_iff_exists.1 (commits_eq_true_iff.1 hcommits).2.1
              simp only [CheckedRequest.exec, hok, commit_ok] at hstep
              have hiff : MovesBy ((JobStep.commit i reads).hasMove w) w.db db' ↔
                  r.next = job.status ∨ r.next ∈ job.status.validTransitions :=
                (movesBy_update_iff hjob hjobs).trans
                  (or_congr Iff.rfl (changeStatus_hasMove_iff hrequest _ _ _))
              simp only [JobStep.finds, hrequest, hcommits, hjob, Bool.not_true, Bool.false_or,
                Option.all_some, Bool.or_eq_true, decide_eq_true_eq]
              constructor
              · intro hkeeps
                have hmoves := hkeeps.moves
                rw [hstep] at hmoves
                exact hiff.1 hmoves
              · intro hfinds
                refine .of_moves ?_
                rw [hstep]
                exact hiff.2 hfinds
      | acceptQuote r =>
          refine iff_of_true (.of_moves ?_) (by simp only [JobStep.finds, hrequest, Option.all_some])
          rw [hstep]
          refine .commit fun db' hok => acceptQuote_moves hok fun jobId s hs => ?_
          refine hasMove_of_edge _ _ ?_
          revert hs
          cases s <;> decide
      | releaseQuote r =>
          refine iff_of_true (.of_moves ?_) (by simp only [JobStep.finds, hrequest, Option.all_some])
          rw [hstep]
          refine .commit fun db' hok => releaseQuote_moves hok fun jobId haccepted hunpaid => ?_
          unfold JobStep.hasMove
          simp [hrequest, CheckedRequest.hasMove, haccepted, hunpaid]

theorem approveRecovery_keeps_iff (env : Env) (adminId requestId : Id) :
    KeepsStateMachine w (env, .approveRecovery adminId requestId) ↔
      (JobStep.approveRecovery adminId requestId).finds w = true := by
  have hjobs : (w.step (env, .approveRecovery adminId requestId)).db.transportJobs = _ :=
    approveRecovery_transportJobs
  cases hrecovered : recoveredJob w.db requestId with
  | none =>
      rw [hrecovered] at hjobs
      refine iff_of_true (.of_moves (.of_eq hjobs)) ?_
      simp only [JobStep.finds, hrecovered, Option.all_none]
  | some e =>
      obtain ⟨jobId, job⟩ := e
      rw [hrecovered] at hjobs
      have hjob : w.db.transportJobs.findUnique jobId = some job := by
        unfold recoveredJob at hrecovered
        split at hrecovered
        · cases hrecovered
        · split at hrecovered
          · exact (Table.findFirst_eq_some (Option.eq_some_of_filter_eq_some hrecovered)).1
          · cases hrecovered
      have hiff : MovesBy ((JobStep.approveRecovery adminId requestId).hasMove w) w.db
          (w.step (env, .approveRecovery adminId requestId)).db ↔
            job.status ∈ [TransportStatus.requested, .cancelled] := by
        rw [movesBy_update_iff hjob hjobs]
        change .requested = job.status ∨ (decide (.requested ∈ job.status.validTransitions) ||
          (decide (job.status = .cancelled) && true)) = true ↔ _
        generalize job.status = s
        cases s <;> decide
      simp only [JobStep.finds, hrecovered, Option.all_some, decide_eq_true_eq]
      exact ⟨fun hkeeps => hiff.1 hkeeps.moves, fun hfinds => .of_moves (hiff.2 hfinds)⟩

theorem keeps_iff_finds (a : Env × JobStep) :
    KeepsStateMachine w a ↔ a.2.finds w = true := by
  obtain ⟨env, call⟩ := a
  cases call with
  | commit i reads =>
      exact commit_keeps_iff env i reads
  | approveRecovery adminId requestId =>
      exact approveRecovery_keeps_iff env adminId requestId
  | check request =>
      refine iff_of_true (.of_moves (.of_eq ?_)) rfl
      simp only [JobWorld.step]
      split <;> rfl
  | settlePayment args =>
      refine iff_of_true (.of_moves (.commit fun db' hok => settlePaymentCore_moves hok ?_)) rfl
      exact fun jobId s hedge => hasMove_of_edge _ _ hedge
  | expireOrder load orderId reason =>
      refine iff_of_true (.of_moves (.commit fun db' hok => cancelLoadedOrder_moves hok ?_)) rfl
      exact fun jobId s hedge => hasMove_of_edge _ _ hedge
  | expireWorkflow jobId =>
      refine iff_of_true (.of_moves (onJob_moves fun job hjob => ?_)) rfl
      unfold expireTransportWorkflow
      split
      · next hdue =>
          refine expireTransportJob_moves hjob (hasMove_of_edge _ _ ?_)
          unfold workflowIsDue at hdue
          simp only [Bool.and_eq_true, decide_eq_true_eq] at hdue
          revert hdue
          generalize job.status = s
          cases s <;> simp [TransportStatus.validTransitions]
      · exact .of_eq rfl
  | expirePreparation jobId =>
      refine iff_of_true (.of_moves (onJob_moves fun job hjob => ?_)) rfl
      unfold expireSellerPreparation
      split
      · next hdue =>
          refine expireTransportJob_moves hjob (hasMove_of_edge _ _ ?_)
          unfold preparationIsDue at hdue
          simp only [Bool.and_eq_true, decide_eq_true_eq] at hdue
          rw [hdue.1.1]
          simp [TransportStatus.validTransitions]
      · exact .of_eq rfl
  | expireLoading jobId =>
      refine iff_of_true (.of_moves (onJob_moves fun job hjob => ?_)) rfl
      unfold expireBuyerLoading
      split
      · next hdue =>
          refine expireTransportJob_moves hjob (hasMove_of_edge _ _ ?_)
          unfold loadingIsDue at hdue
          simp only [Bool.and_eq_true, decide_eq_true_eq] at hdue
          rw [hdue.1.1.1.1]
          simp [TransportStatus.validTransitions]
      · exact .of_eq rfl
  | createJob job =>
      refine iff_of_true (.of_moves fun jobId row row' hrow hrow' => ?_) rfl
      have hkept : (w.db.transportJobs.create job).findUnique jobId = some row' := hrow'
      rw [Table.findUnique_create, if_neg (Table.lt_size_of_findUnique hrow).ne, hrow] at hkept
      obtain rfl := Option.some.inj hkept
      exact Or.inl rfl
  | editJob jobId job =>
      exact iff_of_true (.of_moves (.update rfl fun row _ => Or.inl rfl)) rfl
  | elsewhere other =>
      exact iff_of_true (.of_moves (.of_eq rfl)) rfl

end Runs

/-- The seller carries the paid goods in a truck of his own. -/
def ownTruckJob : TransportJob :=
  { orderId := 0
    method := .ownTruck
    truckOwnerId := some 2
    truckId := some 0
    status := .accepted
    arrangingParty := .seller
    sellerPickupConfirmedAt := some 1
    buyerLoadingConfirmedAt := some 3
    truckArrivedAt := some 2 }

/-- The job with the order and its payment; an admin is asked to recover the transport. -/
def ownTruckDb : Db :=
  { orders := Table.empty.create
      { listingId := 0
        buyerId := 1
        sellerId := 2
        finalPrice := 100
        quantity := 1
        status := .transportArranged }
    listings := Table.empty.create
      { sellerId := 2
        category := .product
        quantity := 1
        availableQuantity := 0
        askingPrice := 100 }
    payments := Table.empty.create
      { orderId := some 0
        type := .marketplace
        amount := 100
        status := .paid }
    trucks := Table.empty.create
      { ownerId := 2
        availability := .busy }
    transportJobs := Table.empty.create ownTruckJob
    loadingReports := Table.empty.create
      { transportJobId := 0
        submittedById := 2
        buyerReviewStatus := .accepted }
    transportEvidence := (Table.empty.create
      { transportJobId := 0
        type := .loading }).create
      { transportJobId := 0
        type := .delivery }
    recoveryRequests := Table.empty.create
      { orderId := 0
        type := .transport } }

def statusStep (next : TransportStatus) : Env × JobStep :=
  (env0, .check (.changeStatus
    { caller := { userId := 2 }
      jobId := 0
      next := next }))

def commitStep (i : Nat) : Env × JobStep :=
  (env0, .commit i {})

def pickupRace : List (Env × JobStep) :=
  [statusStep .pickup, statusStep .cancelled, commitStep 1, commitStep 0]

def lateRecovery : List (Env × JobStep) :=
  [statusStep .pickup, commitStep 0, statusStep .inTransit, commitStep 0, statusStep .delivered,
    commitStep 0, (env0, .approveRecovery 9 0)]

def JobWorld.statusOf (w : JobWorld) (jobId : Id) : Option TransportStatus :=
  (w.db.transportJobs.findUnique jobId).map (·.status)

end MarketBridge
