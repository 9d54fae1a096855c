import MarketBridge.Provider.StandingMoves

/-!
# Strikes

The strikes of a provider are not stored: they are counted in the audit log, by actor and
action.  A history of faults is kept beside the log, to which the count is compared; the
count is right as long as no recent fault was a no-show, which no counted event records.
-/

namespace MarketBridge

open Relational

/-! ## The transaction of a fault -/

def ProviderStanding.settled (now : Nat) (r : ProviderStanding) : ProviderStanding :=
  match r.due now with
  | some .suspensionEnded => { r with status := .rejoinPending }
  | some .probationEnded =>
      { r with
        status := .good
        probationUntil := none }
  | none => r

def ProviderStanding.settledEvents (now : Nat) (r : ProviderStanding) : List AuditEvent :=
  match r.due now with
  | some .probationEnded =>
      [{ action := "PROVIDER_PROBATION_COMPLETED"
         resourceType := "ProviderStanding"
         createdAt := now }]
  | _ => []

theorem settled_userId (now : Nat) (r : ProviderStanding) :
    (r.settled now).userId = r.userId := by
  unfold ProviderStanding.settled
  split <;> rfl

theorem settled_suspendedAt (now : Nat) (r : ProviderStanding) :
    (r.settled now).suspendedAt = r.suspendedAt := by
  unfold ProviderStanding.settled
  split <;> rfl

theorem settleTimers_runFrom {start s : StandingStore} {now : Nat} {r : ProviderStanding}
    (hr : s.row = some r) (next : ProviderStanding -> StandingTxn) :
    (settleTimers now r next).runFrom start s =
      (next (r.settled now)).runFrom start
        { row := some (r.settled now)
          entries := s.entries ++ r.settledEvents now } := by
  unfold settleTimers ProviderStanding.settled ProviderStanding.settledEvents
  cases hdue : r.due now with
  | none =>
      dsimp only
      rw [List.append_nil, ← hr]
  | some timer =>
      cases timer with
      | suspensionEnded =>
          dsimp only
          rw [RowTxn.runFrom_update _ _ _ hr, List.append_nil]
      | probationEnded =>
          dsimp only
          rw [RowTxn.runFrom_update _ _ _ hr, RowTxn.runFrom_log]

/-- The row after a suspension. -/
def ProviderStanding.suspended (now : Nat) (reason : String) (r : ProviderStanding) :
    ProviderStanding :=
  { r with
    status := .suspended
    suspensionCount := r.suspensionCount + 1
    suspendedAt := some now
    suspendedUntil :=
      (suspensionDaysFor (r.suspensionCount + 1)).map fun length => now + length * dayMs
    probationUntil := none
    lastReason := some reason
    appealMessage := none
    appealedAt := none }

theorem suspend_runFrom {start s : StandingStore} {now : Nat} {reason : String}
    {r : ProviderStanding} (hr : s.row = some r) (next : ProviderStanding -> StandingTxn) :
    (suspend now r reason next).runFrom start s =
      (next (r.suspended now reason)).runFrom start
        { row := some (r.suspended now reason)
          entries := s.entries ++
            [{ action := "PROVIDER_SUSPENDED"
               resourceType := "ProviderStanding"
               createdAt := now }] } := by
  unfold suspend
  rw [RowTxn.runFrom_update _ _ _ hr, RowTxn.runFrom_log]
  rfl

def cancelledStanding (c : CancellationCall) (s : StandingStore) : ProviderStanding :=
  (s.row.getD { userId := c.userId }).settled c.times.settled

def cancelledEvents (c : CancellationCall) (s : StandingStore) : List AuditEvent :=
  s.entries ++ (s.row.getD { userId := c.userId }).settledEvents c.times.settled

def cancelledStrikes (c : CancellationCall) (s : StandingStore) : Nat :=
  (cancelledEvents c s).countP (isStrike c.times.counted (cancelledStanding c s))

def cancelledOut (configured : Option Int) (c : CancellationCall) (s : StandingStore) : Bool :=
  (cancelledStanding c s).status = .probation ||
    cancelledStrikes c s >= providerFlagThreshold configured

def cancelledReason (c : CancellationCall) (s : StandingStore) : String :=
  if (cancelledStanding c s).status = .probation then
    "Cancelled an accepted agreement while on probation (" ++ c.reason ++ ")"
  else
    toString (cancelledStrikes c s) ++ " cancellations of accepted agreements within 30 days (" ++
      c.reason ++ ")"

def cancelledStore (configured : Option Int) (c : CancellationCall) (s : StandingStore) :
    StandingStore :=
  if cancelledOut configured c s then
    { row := some ((cancelledStanding c s).suspended c.times.suspended (cancelledReason c s))
      entries := cancelledEvents c s ++
        [{ action := "PROVIDER_SUSPENDED"
           resourceType := "ProviderStanding"
           createdAt := c.times.suspended }] }
  else
    { row := some (cancelledStanding c s)
      entries := cancelledEvents c s }

def cancelledOutcome (configured : Option Int) (c : CancellationCall) (s : StandingStore) :
    CancellationOutcome where
  status := if cancelledOut configured c s then .suspended else (cancelledStanding c s).status
  strikes := cancelledStrikes c s
  threshold := providerFlagThreshold configured
  action :=
    if cancelledOut configured c s then
      .suspended
    else if cancelledStrikes c s + 1 = providerFlagThreshold configured then
      .warned
    else
      .ratingHit
  «until» :=
    if cancelledOut configured c s then
      ((cancelledStanding c s).suspended c.times.suspended (cancelledReason c s)).suspendedUntil
    else
      none

theorem applyProviderCancellation_runFrom (configured : Option Int) (c : CancellationCall)
    (next : CancellationOutcome -> StandingTxn) (start s : StandingStore) :
    (applyProviderCancellation configured c next).runFrom start s =
      (next (cancelledOutcome configured c s)).runFrom start (cancelledStore configured c s) := by
  unfold applyProviderCancellation
  rw [RowTxn.runFrom_upsert, settleTimers_runFrom rfl, RowTxn.runFrom_update _ _ _ rfl]
  unfold strikesSinceLastSuspension
  rw [RowTxn.runFrom_count]
  unfold cancelledOutcome cancelledStore
  by_cases h : cancelledOut configured c s = true
  · have hif : forall t u : StandingTxn,
        (if cancelledOut configured c s = true then t else u) = t := fun _ _ => if_pos h
    simp only [h, if_true]
    refine (congrArg (fun t => RowTxn.runFrom start t _) (hif _ _)).trans ?_
    rw [suspend_runFrom rfl]
    rfl
  · have hif : forall t u : StandingTxn,
        (if cancelledOut configured c s = true then t else u) = u := fun _ _ => if_neg h
    simp only [h]
    exact congrArg (fun t => RowTxn.runFrom start t _) (hif _ _)

/-! ## Histories -/

/-- What has happened to an agreement: a release by the provider or a no-show, and when. -/
structure FaultRecord where
  noShow : Bool
  time : Nat
deriving DecidableEq, Repr

def ProviderFault.isNoShow : ProviderFault -> Bool
  | noShow _ => true
  | _ => false

def ProviderFault.record (kind : ProviderFault) (recordedAt : Nat) : FaultRecord where
  noShow := kind.isNoShow
  time := recordedAt

/-- The standing of a provider, with the faults and the last suspension kept beside it. -/
structure StrikeHistory where
  providerId : Id
  store : StandingStore
  faults : List FaultRecord := []
  lastSuspension : Option Nat := none

inductive HistoryStep where
  | fault (kind : ProviderFault) (reason : String) (times : CancellationTimes) (recordedAt : Nat)
  /-- The gate, the timers, or a way back. -/
  | request (r : { r : StandingRequest // r.isFault = false })
  /-- Any other audit event. -/
  | audit (e : AuditEvent)

def FaultRecord.recent (last : Option Nat) (now : Nat) (f : FaultRecord) : Bool :=
  (f.time : Int) > (now : Int) - (30 * dayMs : Nat) && last.all fun t => f.time > t

namespace StrikeHistory

variable (configured : Option Int)

def call (h : StrikeHistory) (reason : String) (times : CancellationTimes) : CancellationCall where
  userId := h.providerId
  reason := reason
  times := times

def faultResult (h : StrikeHistory) (kind : ProviderFault) (reason : String)
    (times : CancellationTimes) (recordedAt : Nat) :
    StandingStore × RowOutcome StandingError StandingResult :=
  (recordFault configured kind (h.call reason times) recordedAt).alone h.store

def saysSuspended : RowOutcome StandingError StandingResult -> Bool
  | .answered (.outcome o) => o.action = .suspended
  | _ => false

def step (h : StrikeHistory) : HistoryStep -> StrikeHistory
  | .fault kind reason times recordedAt =>
      let result := h.faultResult configured kind reason times recordedAt
      { h with
        store := result.1
        faults := h.faults ++ [kind.record recordedAt]
        lastSuspension :=
          if saysSuspended result.2 then some times.suspended else h.lastSuspension }
  | .request r => { h with store := ((r.1.txn configured).alone h.store).1 }
  | .audit e =>
      -- Only the releases record their actions.
      if e.action ∈ providerReleaseActions then
        h
      else
        { h with store := { h.store with entries := h.store.entries ++ [e] } }

def recentFaults (h : StrikeHistory) (kind : ProviderFault) (times : CancellationTimes)
    (recordedAt : Nat) : List FaultRecord :=
  (h.faults ++ [kind.record recordedAt]).filter
    (FaultRecord.recent h.lastSuspension times.counted)

def onProbation (h : StrikeHistory) (times : CancellationTimes) : Bool :=
  h.store.row.any fun r => (r.settled times.settled).status = .probation

def dueForSuspension (h : StrikeHistory) (kind : ProviderFault) (times : CancellationTimes)
    (recordedAt : Nat) : Bool :=
  (h.recentFaults kind times recordedAt).length >= providerFlagThreshold configured ||
    h.onProbation times

/-- Every recent fault counts, and the penalty is the one for their number. -/
def CountsEvery (h : StrikeHistory) : HistoryStep -> Prop
  | .fault kind reason times recordedAt =>
      exists o store,
        h.faultResult configured kind reason times recordedAt = (store, .answered (.outcome o)) ∧
          o.strikes = (h.recentFaults kind times recordedAt).length ∧
          (o.action = .suspended ↔ h.dueForSuspension configured kind times recordedAt = true) ∧
          (o.action = .suspended -> store.row.any fun r => r.status = .suspended) ∧
          (o.action = .warned ↔
            h.dueForSuspension configured kind times recordedAt = false ∧
              (h.recentFaults kind times recordedAt).length + 1 =
                providerFlagThreshold configured)
  | _ => True

def WithoutNoShow (h : StrikeHistory) : HistoryStep -> Prop
  | .fault kind _ times recordedAt =>
      forall f, f ∈ h.recentFaults kind times recordedAt -> f.noShow = false
  | _ => True

/-- Nobody has done anything yet. -/
structure IsFresh (h : StrikeHistory) : Prop where
  row : h.store.row = none
  entries : forall e, e ∈ h.store.entries -> e.action ∉ providerReleaseActions
  faults : h.faults = []
  lastSuspension : h.lastSuspension = none

end StrikeHistory

/-! ## The count -/

/-- An audit event of a release by a provider, later than `since`. -/
def releasedSince (providerId : Id) (since : Int) (e : AuditEvent) : Bool :=
  e.actorId = some providerId && e.action ∈ providerReleaseActions && (e.createdAt : Int) > since

def strikesSince (now : Nat) (suspendedAt : Option Nat) : Int :=
  match suspendedAt with
  | some t => if (t : Int) > (now : Int) - (30 * dayMs : Nat) then t
      else (now : Int) - (30 * dayMs : Nat)
  | none => (now : Int) - (30 * dayMs : Nat)

theorem isStrike_eq (now : Nat) (r : ProviderStanding) :
    isStrike now r = releasedSince r.userId (strikesSince now r.suspendedAt) := by
  funext e
  rfl

theorem recent_iff {last : Option Nat} {now : Nat} {f : FaultRecord} :
    f.recent last now = true ↔ (f.time : Int) > strikesSince now last := by
  unfold FaultRecord.recent strikesSince
  cases last with
  | none => simp
  | some t =>
      simp only [Option.all_some, Bool.and_eq_true, decide_eq_true_eq]
      split
      · omega
      · omega

namespace StrikeHistory

/-- The log and the row agree with what has happened. -/
structure Tracks (h : StrikeHistory) : Prop where
  releases : forall since, h.store.entries.countP (releasedSince h.providerId since) =
    h.faults.countP fun f => !f.noShow && ((f.time : Int) > since : Bool)
  row : forall r, h.store.row = some r ->
    r.userId = h.providerId ∧ r.suspendedAt = h.lastSuspension
  noRow : h.store.row = none -> h.lastSuspension = none

theorem Tracks.of_fresh {h : StrikeHistory} (hfresh : h.IsFresh) : h.Tracks where
  releases := by
    intro since
    rw [hfresh.faults, List.countP_nil, List.countP_eq_zero]
    intro e he hreleased
    unfold releasedSince at hreleased
    simp only [Bool.and_eq_true, decide_eq_true_eq] at hreleased
    exact hfresh.entries e he hreleased.1.2
  row := by
    intro r hr
    rw [hfresh.row] at hr
    cases hr
  noRow := fun _ => hfresh.lastSuspension

end StrikeHistory

/-! ## Requests that are no faults -/

/-- A request that leaves the owner and the last suspension of a standing, and no strike. -/
structure StandingQuiet (t : StandingTxn) : Prop where
  within : t.Within (fun r r' => r'.userId = r.userId ∧ r'.suspendedAt = r.suspendedAt)
    fun e => e.action ∉ providerReleaseActions

section

theorem fail_quiet (e : StandingError) : StandingQuiet (.fail e) :=
  ⟨trivial⟩

theorem done_quiet (result : StandingResult) : StandingQuiet (.done result) :=
  ⟨trivial⟩

theorem read_quiet {next : Option ProviderStanding -> StandingTxn}
    (h : forall o, StandingQuiet (next o)) : StandingQuiet (.read next) :=
  ⟨fun o => (h o).within⟩

theorem log_quiet {actorId : Option Id} {action resourceType : String} {createdAt : Nat}
    {next : StandingTxn} (haction : action ∉ providerReleaseActions) (h : StandingQuiet next) :
    StandingQuiet
      (.log
        { actorId := actorId
          action := action
          resourceType := resourceType
          createdAt := createdAt }
        next) :=
  ⟨⟨haction, h.within⟩⟩

theorem update_quiet {seen : ProviderStanding} {data : ProviderStanding -> ProviderStanding}
    {next : ProviderStanding -> StandingTxn}
    (hdata : forall r, (data r).userId = r.userId ∧ (data r).suspendedAt = r.suspendedAt)
    (h : forall r, StandingQuiet (next r)) :
    StandingQuiet (.update seen data next) :=
  ⟨fun r => ⟨hdata r, (h (data r)).within⟩⟩

theorem ite_quiet {p : Prop} [Decidable p] {t u : StandingTxn} (ht : StandingQuiet t)
    (hu : StandingQuiet u) :
    StandingQuiet (if p then t else u) := by
  split
  · exact ht
  · exact hu

theorem settleTimers_quiet {now : Nat} {standing : ProviderStanding}
    {next : ProviderStanding -> StandingTxn} (hnext : forall r, StandingQuiet (next r)) :
    StandingQuiet (settleTimers now standing next) := by
  unfold settleTimers
  split
  · exact update_quiet (fun _ => ⟨rfl, rfl⟩) hnext
  · exact update_quiet (fun _ => ⟨rfl, rfl⟩) fun r => log_quiet (by decide) (hnext r)
  · exact hnext standing

theorem appeal_quiet (userId : Id) (now : Nat) (message : String) :
    StandingQuiet (appeal userId now message) := by
  unfold appeal
  refine ite_quiet (fail_quiet _) (read_quiet fun standing => ?_)
  cases standing with
  | none => exact fail_quiet _
  | some standing =>
      exact ite_quiet (fail_quiet _) (ite_quiet (fail_quiet _)
        (update_quiet (fun _ => ⟨rfl, rfl⟩) fun r => log_quiet (by decide) (done_quiet _)))

theorem StandingRequest.txn_quiet (configured : Option Int) {req : StandingRequest}
    (hreq : req.isFault = false) :
    StandingQuiet (req.txn configured) := by
  cases req with
  | fault kind c recordedAt => cases hreq
  | gate now =>
      refine read_quiet fun existing => ?_
      cases existing with
      | none => exact done_quiet _
      | some existing =>
          exact settleTimers_quiet fun r =>
            ite_quiet (done_quiet _) (ite_quiet (done_quiet _) (done_quiet _))
  | summary userId settled counted =>
      refine read_quiet fun standing => ?_
      cases standing with
      | none => exact done_quiet _
      | some standing =>
          exact settleTimers_quiet fun r => ⟨fun strikes => (done_quiet _).within⟩
  | sweep now settled =>
      refine read_quiet fun standing => ?_
      cases standing with
      | none => exact done_quiet _
      | some standing =>
          exact ite_quiet (settleTimers_quiet fun r => done_quiet _) (done_quiet _)
  | rejoin userId settled rejoined =>
      refine read_quiet fun existing => ?_
      cases existing with
      | none => exact fail_quiet _
      | some existing =>
          exact settleTimers_quiet fun r => ite_quiet (fail_quiet _)
            (update_quiet (fun _ => ⟨rfl, rfl⟩) fun r => log_quiet (by decide) (done_quiet _))
  | appeal userId now message => exact appeal_quiet userId now message
  | reinstate adminId now target =>
      refine ite_quiet (fail_quiet _) (read_quiet fun standing => ?_)
      cases standing with
      | none => exact fail_quiet _
      | some standing =>
          exact ite_quiet (fail_quiet _)
            (update_quiet (fun _ => ⟨rfl, rfl⟩) fun r => log_quiet (by decide) (done_quiet _))

end

namespace StrikeHistory

variable {configured : Option Int} {h : StrikeHistory}

theorem countP_releasedSince_append {es fs : List AuditEvent} {providerId : Id} {since : Int}
    (hfs : forall e, e ∈ fs -> e.action ∉ providerReleaseActions) :
    (es ++ fs).countP (releasedSince providerId since) =
      es.countP (releasedSince providerId since) := by
  have hzero : fs.countP (releasedSince providerId since) = 0 := by
    rw [List.countP_eq_zero]
    intro e he hreleased
    unfold releasedSince at hreleased
    simp only [Bool.and_eq_true, decide_eq_true_eq] at hreleased
    exact hfs e he hreleased.1.2
  rw [List.countP_append, hzero, Nat.add_zero]

theorem Tracks.request (ht : h.Tracks) {r : StandingRequest} (hr : r.isFault = false) :
    Tracks { h with store := ((r.txn configured).alone h.store).1 } := by
  have hmoved := (r.txn_quiet configured hr).within.runFrom (fun _ => ⟨rfl, rfl⟩)
    (fun _ _ _ h h' => ⟨h'.1.trans h.1, h'.2.trans h.2⟩) (.refl (fun _ => ⟨rfl, rfl⟩) h.store)
  constructor
  · intro since
    obtain ⟨es, hes, hall⟩ := hmoved.entries
    have hentries : ((r.txn configured).alone h.store).1.entries = h.store.entries ++ es := hes
    dsimp only
    rw [hentries, countP_releasedSince_append hall]
    exact ht.releases since
  · intro q hq
    obtain ⟨r₀, hr₀, huser, hsuspended⟩ := hmoved.row q hq
    obtain ⟨huser₀, hsuspended₀⟩ := ht.row r₀ hr₀
    exact ⟨huser.trans huser₀, hsuspended.trans hsuspended₀⟩
  · intro hnone
    exact ht.noRow (hmoved.noRow hnone)

theorem Tracks.audit (ht : h.Tracks) (e : AuditEvent) :
    (h.step configured (.audit e)).Tracks := by
  unfold step
  dsimp only
  split
  · exact ht
  · rename_i haction
    constructor
    · intro since
      dsimp only
      rw [countP_releasedSince_append]
      · exact ht.releases since
      · intro e' he'
        rw [List.mem_singleton.1 he']
        exact haction
    · exact ht.row
    · exact ht.noRow

/-! ## Faults -/

/-- The audit event of a release, which its transaction records first. -/
def releaseEvents (providerId : Id) (recordedAt : Nat) : ProviderFault -> List AuditEvent
  | .transportRelease =>
      [{ actorId := some providerId
         action := "TRANSPORT_ACCEPTED_RELEASED_BY_PROVIDER"
         resourceType := "TransportQuote"
         createdAt := recordedAt }]
  | .inspectionRelease =>
      [{ actorId := some providerId
         action := "INSPECTION_ACCEPTED_RELEASED_BY_PROVIDER"
         resourceType := "InspectionQuote"
         createdAt := recordedAt }]
  | .noShow _ => []

def noShowEvents (recordedAt : Nat) : ProviderFault -> List AuditEvent
  | .noShow actorId =>
      [{ actorId := actorId
         action := "INSPECTION_INSPECTOR_NO_SHOW"
         resourceType := "InspectionRequest"
         createdAt := recordedAt }]
  | _ => []

def recorded (h : StrikeHistory) (kind : ProviderFault) (recordedAt : Nat) : StandingStore :=
  { h.store with entries := h.store.entries ++ releaseEvents h.providerId recordedAt kind }

theorem faultResult_eq (h : StrikeHistory) (kind : ProviderFault) (reason : String)
    (times : CancellationTimes) (recordedAt : Nat) :
    exists text, h.faultResult configured kind reason times recordedAt =
      ({ row := (cancelledStore configured (h.call text times) (h.recorded kind recordedAt)).row
         entries :=
          (cancelledStore configured (h.call text times) (h.recorded kind recordedAt)).entries ++
            noShowEvents recordedAt kind },
        .answered (.outcome
          (cancelledOutcome configured (h.call text times) (h.recorded kind recordedAt)))) := by
  unfold faultResult RowTxn.alone recordFault
  cases kind with
  | transportRelease =>
      refine ⟨reason, ?_⟩
      dsimp only
      rw [RowTxn.runFrom_log, applyProviderCancellation_runFrom, RowTxn.runFrom_done]
      unfold noShowEvents
      rw [List.append_nil]
      rfl
  | inspectionRelease =>
      refine ⟨reason, ?_⟩
      dsimp only
      rw [RowTxn.runFrom_log, applyProviderCancellation_runFrom, RowTxn.runFrom_done]
      unfold noShowEvents
      rw [List.append_nil]
      rfl
  | noShow actorId =>
      refine ⟨"NO_SHOW", ?_⟩
      dsimp only
      rw [applyProviderCancellation_runFrom, RowTxn.runFrom_log, RowTxn.runFrom_done]
      unfold recorded releaseEvents
      rw [List.append_nil]
      rfl

theorem settledEvents_quiet (now : Nat) (r : ProviderStanding) :
    forall e, e ∈ r.settledEvents now -> e.action ∉ providerReleaseActions := by
  intro e he
  unfold ProviderStanding.settledEvents at he
  split at he
  · rw [List.mem_singleton.1 he]
    show "PROVIDER_PROBATION_COMPLETED" ∉ providerReleaseActions
    decide
  · cases he

theorem noShowEvents_quiet (recordedAt : Nat) (kind : ProviderFault) :
    forall e, e ∈ noShowEvents recordedAt kind -> e.action ∉ providerReleaseActions := by
  intro e he
  unfold noShowEvents at he
  split at he
  · rw [List.mem_singleton.1 he]
    show "INSPECTION_INSPECTOR_NO_SHOW" ∉ providerReleaseActions
    decide
  · cases he

theorem Tracks.cancelledStanding (ht : h.Tracks) (text : String) (kind : ProviderFault)
    (times : CancellationTimes) (recordedAt : Nat) :
    (cancelledStanding (h.call text times) (h.recorded kind recordedAt)).userId = h.providerId ∧
      (MarketBridge.cancelledStanding (h.call text times) (h.recorded kind recordedAt)).suspendedAt =
        h.lastSuspension := by
  unfold MarketBridge.cancelledStanding
  rw [settled_userId, settled_suspendedAt]
  have hrow : (h.recorded kind recordedAt).row = h.store.row := rfl
  rw [hrow]
  cases hstore : h.store.row with
  | none => exact ⟨rfl, (ht.noRow hstore).symm⟩
  | some r => exact ht.row r hstore

theorem Tracks.recorded (ht : h.Tracks) (kind : ProviderFault) (recordedAt : Nat) (since : Int) :
    (h.recorded kind recordedAt).entries.countP (releasedSince h.providerId since) =
      (h.faults ++ [kind.record recordedAt]).countP
        fun f => !f.noShow && ((f.time : Int) > since : Bool) := by
  unfold StrikeHistory.recorded
  dsimp only
  rw [List.countP_append, List.countP_append, ht.releases]
  congr 1
  cases kind with
  | transportRelease =>
      unfold releaseEvents ProviderFault.record releasedSince
      simp [List.countP_cons, providerReleaseActions, ProviderFault.isNoShow]
  | inspectionRelease =>
      unfold releaseEvents ProviderFault.record releasedSince
      simp [List.countP_cons, providerReleaseActions, ProviderFault.isNoShow]
  | noShow actorId =>
      unfold releaseEvents ProviderFault.record
      simp [ProviderFault.isNoShow]

theorem Tracks.strikes (ht : h.Tracks) (text : String) (kind : ProviderFault)
    (times : CancellationTimes) (recordedAt : Nat) :
    cancelledStrikes (h.call text times) (h.recorded kind recordedAt) =
      (h.recentFaults kind times recordedAt).countP fun f => !f.noShow := by
  obtain ⟨huser, hsuspended⟩ := ht.cancelledStanding text kind times recordedAt
  unfold cancelledStrikes cancelledEvents
  rw [isStrike_eq, huser, hsuspended,
    countP_releasedSince_append (settledEvents_quiet _ _), ht.recorded]
  unfold recentFaults
  rw [List.countP_filter]
  apply List.countP_congr
  intro f _
  have hrecent : f.recent h.lastSuspension times.counted = true ↔
      (f.time : Int) > strikesSince times.counted h.lastSuspension :=
    recent_iff
  rw [Bool.and_eq_true, Bool.and_eq_true, hrecent, decide_eq_true_iff]
  exact Iff.rfl

theorem cancelledOut_iff (text : String) (kind : ProviderFault) (times : CancellationTimes)
    (recordedAt : Nat) :
    cancelledOut configured (h.call text times) (h.recorded kind recordedAt) = true ↔
      h.onProbation times = true ∨
        cancelledStrikes (h.call text times) (h.recorded kind recordedAt) >=
          providerFlagThreshold configured := by
  unfold cancelledOut onProbation cancelledStanding
  have hrow : (h.recorded kind recordedAt).row = h.store.row := rfl
  rw [Bool.or_eq_true, decide_eq_true_iff, decide_eq_true_iff, hrow]
  cases hstore : h.store.row with
  | none =>
      simp only [Option.getD_none, Option.any_none, Bool.false_eq_true]
      have hgood : (ProviderStanding.settled (h.call text times).times.settled
          { userId := (h.call text times).userId }).status = .good := rfl
      rw [hgood]
      simp
  | some r =>
      simp only [Option.getD_some, Option.any_some, decide_eq_true_eq]
      exact Iff.rfl

theorem cancelledOutcome_suspended (c : CancellationCall) (s : StandingStore) :
    (cancelledOutcome configured c s).action = .suspended ↔
      cancelledOut configured c s = true := by
  unfold cancelledOutcome
  by_cases hout : cancelledOut configured c s = true
  · simp [hout]
  · simp only [hout]
    split
    · contradiction
    · split <;> simp

theorem cancelledOutcome_warned (c : CancellationCall) (s : StandingStore) :
    (cancelledOutcome configured c s).action = .warned ↔
      cancelledOut configured c s = false ∧
        cancelledStrikes c s + 1 = providerFlagThreshold configured := by
  unfold cancelledOutcome
  by_cases hout : cancelledOut configured c s = true
  · simp [hout]
  · have hfalse := Bool.eq_false_iff.2 hout
    simp only [hfalse, Bool.false_eq_true, if_false, true_and]
    split
    · simp [*]
    · simp [*]

theorem cancelledStore_row (c : CancellationCall) (s : StandingStore) :
    (cancelledStore configured c s).row =
      some (if cancelledOut configured c s then
        (cancelledStanding c s).suspended c.times.suspended (cancelledReason c s)
      else
        cancelledStanding c s) := by
  unfold cancelledStore
  split <;> rfl

theorem cancelledStore_entries (c : CancellationCall) (s : StandingStore) :
    exists es, (cancelledStore configured c s).entries = s.entries ++ es ∧
      forall e, e ∈ es -> e.action ∉ providerReleaseActions := by
  have hsettled := settledEvents_quiet c.times.settled (s.row.getD { userId := c.userId })
  unfold cancelledStore cancelledEvents
  split
  · refine ⟨_, List.append_assoc _ _ _, ?_⟩
    intro e he
    rcases List.mem_append.1 he with hold | hnew
    · exact hsettled e hold
    · rw [List.mem_singleton.1 hnew]
      show "PROVIDER_SUSPENDED" ∉ providerReleaseActions
      decide
  · exact ⟨_, rfl, hsettled⟩

theorem Tracks.fault (ht : h.Tracks) (kind : ProviderFault) (reason : String)
    (times : CancellationTimes) (recordedAt : Nat) :
    (h.step configured (.fault kind reason times recordedAt)).Tracks := by
  obtain ⟨text, hresult⟩ := @faultResult_eq configured h kind reason times recordedAt
  obtain ⟨es, hes, hall⟩ := @cancelledStore_entries configured
    (h.call text times) (h.recorded kind recordedAt)
  obtain ⟨huser, hsuspended⟩ := ht.cancelledStanding text kind times recordedAt
  unfold step
  dsimp only
  rw [hresult]
  constructor
  · intro since
    dsimp only
    rw [hes, List.append_assoc, countP_releasedSince_append, ht.recorded]
    intro e he
    rcases List.mem_append.1 he with hstore | hnoShow
    · exact hall e hstore
    · exact noShowEvents_quiet recordedAt kind e hnoShow
  · intro r hr
    dsimp only at hr
    rw [cancelledStore_row] at hr
    have htold := @cancelledOutcome_suspended configured (h.call text times)
      (h.recorded kind recordedAt)
    unfold saysSuspended
    dsimp only
    by_cases hout : cancelledOut configured (h.call text times) (h.recorded kind recordedAt) = true
    · rw [if_pos hout] at hr
      obtain rfl := Option.some.inj hr
      rw [if_pos (decide_eq_true (htold.2 hout))]
      exact ⟨huser, rfl⟩
    · rw [if_neg hout] at hr
      obtain rfl := Option.some.inj hr
      rw [if_neg fun hyes => hout (htold.1 (of_decide_eq_true hyes))]
      exact ⟨huser, hsuspended⟩
  · intro hnone
    dsimp only at hnone
    rw [cancelledStore_row] at hnone
    cases hnone

theorem Tracks.step (ht : h.Tracks) (a : HistoryStep) : (h.step configured a).Tracks := by
  cases a with
  | fault kind reason times recordedAt => exact ht.fault kind reason times recordedAt
  | request r => exact ht.request r.2
  | audit e => exact ht.audit e

theorem Tracks.countsEvery_iff (ht : h.Tracks) (a : HistoryStep) :
    h.CountsEvery configured a ↔ h.WithoutNoShow a := by
  cases a with
  | request r => exact Iff.rfl
  | audit e => exact Iff.rfl
  | fault kind reason times recordedAt =>
      obtain ⟨text, hresult⟩ := @faultResult_eq configured h kind reason times
        recordedAt
      have hstrikes := ht.strikes text kind times recordedAt
      have hout := @cancelledOut_iff configured h text kind times recordedAt
      have hall : (h.recentFaults kind times recordedAt).countP (fun f => !f.noShow) =
          (h.recentFaults kind times recordedAt).length ↔
            h.WithoutNoShow (.fault kind reason times recordedAt) := by
        rw [List.countP_eq_length]
        unfold WithoutNoShow
        simp only [Bool.not_eq_true']
      constructor
      · rintro ⟨o, store, heq, hcount, -⟩
        rw [hresult] at heq
        have houtcome := StandingResult.outcome.inj
          (RowOutcome.answered.inj (Prod.mk.inj heq).2)
        rw [← houtcome] at hcount
        exact hall.1 (hstrikes.symm.trans hcount)
      · intro hquiet
        have hcount := hstrikes.trans (hall.2 hquiet)
        have hdue : cancelledOut configured (h.call text times) (h.recorded kind recordedAt) =
            h.dueForSuspension configured kind times recordedAt := by
          rw [Bool.eq_iff_iff, hout, hcount]
          unfold dueForSuspension
          rw [Bool.or_eq_true, decide_eq_true_iff]
          exact Or.comm
        refine ⟨_, _, hresult, hcount, ?_, ?_, ?_⟩
        · rw [cancelledOutcome_suspended, hdue]
        · intro haction
          rw [cancelledStore_row, if_pos ((cancelledOutcome_suspended _ _).1 haction)]
          rfl
        · rw [cancelledOutcome_warned, hdue, hcount]

/-- In every history, a fault is counted right exactly when no recent fault was a no-show. -/
theorem countsEvery_iff_of_run (hfresh : h.IsFresh) (as : List HistoryStep) :
    RunMeets (step configured)
      (fun h a => h.CountsEvery configured a ↔ h.WithoutNoShow a) h as :=
  runMeets_of_invariant Tracks (fun _ a ht => ht.step a) (fun _ a ht => ht.countsEvery_iff a)
    (.of_fresh hfresh) as

/-! ## Three no-shows -/

def newProvider : StrikeHistory where
  providerId := 5
  store := {}

theorem newProvider_isFresh : newProvider.IsFresh where
  row := rfl
  entries := by
    intro e he
    cases he
  faults := rfl
  lastSuspension := rfl

def faultOn (kind : ProviderFault) (day : Nat) : HistoryStep :=
  .fault kind "SCHEDULE_CONFLICT"
    { settled := day * dayMs + 1
      counted := day * dayMs + 2
      suspended := day * dayMs + 3 }
    (day * dayMs)

theorem threeFaults_countsEvery_iff :
    RunMeets (step none) (fun h a => h.CountsEvery none a ↔ h.WithoutNoShow a) newProvider
      [faultOn .transportRelease 1, faultOn .inspectionRelease 2, faultOn (.noShow none) 3] :=
  countsEvery_iff_of_run newProvider_isFresh _

/-- The third no-show in three days neither counts as a third strike nor suspends. -/
theorem noShows_uncounted :
    newProvider.IsFresh ∧
      ¬ RunMeets (step none) (CountsEvery none) newProvider
        [faultOn (.noShow none) 1, faultOn (.noShow none) 2, faultOn (.noShow (some 1)) 3] := by
  refine ⟨newProvider_isFresh, fun hrun => ?_⟩
  obtain ⟨o, store, hresult, hcount, -⟩ := hrun.2.2.1
  have hanswer : (faultResult none (run (step none) newProvider
      [faultOn (.noShow none) 1, faultOn (.noShow none) 2]) (.noShow (some 1)) "SCHEDULE_CONFLICT"
        { settled := 3 * dayMs + 1
          counted := 3 * dayMs + 2
          suspended := 3 * dayMs + 3 } (3 * dayMs)).2 =
      .answered (.outcome
        { status := .good
          strikes := 0
          threshold := 3 }) := by
    decide +kernel
  have hfaults : (recentFaults (run (step none) newProvider
      [faultOn (.noShow none) 1, faultOn (.noShow none) 2]) (.noShow (some 1))
        { settled := 3 * dayMs + 1
          counted := 3 * dayMs + 2
          suspended := 3 * dayMs + 3 } (3 * dayMs)).length = 3 := by
    decide +kernel
  have hsame := (congrArg Prod.snd hresult).symm.trans hanswer
  have hstrikes := congrArg CancellationOutcome.strikes
    (StandingResult.outcome.inj (RowOutcome.answered.inj hsame))
  rw [hcount] at hstrikes
  exact absurd (hfaults.symm.trans hstrikes) (by decide)

end StrikeHistory

end MarketBridge
