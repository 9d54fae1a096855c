import MarketBridge.Provider.Standing

/-!
# Moves of a provider's standing

The operations on one provider beside each other.  An operation decides on the row that it
has read and writes the row by its key; where the row has not moved in between, the status
follows its state machine and the gate lets exactly the providers in standing through.
-/

namespace MarketBridge

open Relational

inductive StandingRequest where
  | fault (kind : ProviderFault) (c : CancellationCall) (recordedAt : Nat)
  | gate (now : Nat)
  | summary (userId : Id) (settled counted : Nat)
  | sweep (now settled : Nat)
  | rejoin (userId : Id) (settled rejoined : Nat)
  | appeal (userId : Id) (now : Nat) (message : String)
  | reinstate (adminId : Id) (now : Nat) (target : ProviderStandingStatus)

namespace StandingRequest

def txn (configured : Option Int) : StandingRequest -> StandingTxn
  | fault kind c recordedAt => recordFault configured kind c recordedAt
  | gate now => assertProviderCanBid now
  | summary userId settled counted => getStandingSummary configured userId settled counted
  | sweep now settled => sweepProviderStandings now settled
  | rejoin userId settled rejoined => MarketBridge.rejoin userId settled rejoined
  | appeal userId now message => MarketBridge.appeal userId now message
  | reinstate adminId now target => adminReinstate adminId now target

def clock : StandingRequest -> Nat
  | fault _ c _ => c.times.settled
  | gate now => now
  | summary _ settled _ => settled
  | sweep _ settled => settled
  | rejoin _ settled _ => settled
  | appeal _ now _ => now
  | reinstate _ now _ => now

def isFault : StandingRequest -> Bool
  | fault _ _ _ => true
  | _ => false

def isRejoin : StandingRequest -> Bool
  | rejoin _ _ _ => true
  | _ => false

def isReinstate : StandingRequest -> Bool
  | reinstate _ _ _ => true
  | _ => false

end StandingRequest

/-! ## The state machine -/

def ProviderStanding.position (r : ProviderStanding) :
    ProviderStandingStatus × Nat × Option Nat × Option Nat :=
  (r.status, r.suspensionCount, r.suspendedUntil, r.probationUntil)

/-- A write of a request to the row `r`, which becomes `r'`. -/
inductive StandingMove (suspendable : ProviderStandingStatus -> Bool) (req : StandingRequest)
    (r r' : ProviderStanding) : Prop where
  | kept (h : r'.position = r.position)
  | suspended (hreq : req.isFault = true) (hfrom : suspendable r.status = true)
      (hstatus : r'.status = .suspended) (hcount : r'.suspensionCount = r.suspensionCount + 1)
  | ended (t : Nat) (hfrom : r.status = .suspended) (ht : r.suspendedUntil = some t)
      (hdue : t <= req.clock) (hstatus : r'.status = .rejoinPending)
      (hcount : r'.suspensionCount = r.suspensionCount)
  | rejoined (hreq : req.isRejoin = true) (hfrom : r.status = .rejoinPending)
      (hstatus : r'.status = .probation) (hcount : r'.suspensionCount = r.suspensionCount)
  | completed (t : Nat) (hfrom : r.status = .probation) (ht : r.probationUntil = some t)
      (hdue : t <= req.clock) (hstatus : r'.status = .good)
      (hcount : r'.suspensionCount = r.suspensionCount)
  | reinstated (hreq : req.isReinstate = true)
      (hfrom : r.status = .suspended ∨ r.status = .rejoinPending)
      (hstatus : r'.status = .probation ∨ r'.status = .good)
      (hcount : r'.suspensionCount = r.suspensionCount)

/-- A provider who may bid: none of his timers is due, and he is in standing. -/
def ProviderStanding.inStanding (now : Nat) (r : ProviderStanding) : Bool :=
  (r.due now).isNone && (r.status = .good || r.status = .probation)

def GateLaw (req : StandingRequest) (result : StandingResult) : Prop :=
  forall now standing verdict, req = .gate now -> result = .gate standing verdict ->
    (verdict = .ok () ↔ forall r, standing = some r -> r.inStanding now = true)

/-! ## Servers -/

abbrev StandingServer :=
  RowServer StandingRequest ProviderStanding AuditEvent StandingError StandingResult

inductive StandingStep where
  | request (r : StandingRequest)
  | advance (k : Nat)
  | rollback (k : Nat)

namespace StandingServer

def step (configured : Option Int) (s : StandingServer) : StandingStep -> StandingServer
  | .request r => s.submit r (r.txn configured)
  | .advance k => s.advance k
  | .rollback k => s.rollback k

/-- The next write meets the row, and the next verdict the provider, as they were seen. -/
def Current (s : StandingServer) : StandingStep -> Prop
  | .advance k =>
      (match s.writes k with
        | some (_, seen, r, _) => seen.position = r.position
        | none => True) ∧
      match s.answers k with
      | some (_, .gate standing _, row) =>
          standing.map ProviderStanding.position = row.map ProviderStanding.position
      | _ => True
  | _ => True

instance (s : StandingServer) (a : StandingStep) : Decidable (s.Current a) := by
  unfold Current
  split
  · refine @instDecidableAnd _ _ ?_ ?_
    · split <;> infer_instance
    · split <;> infer_instance
  · infer_instance

/-- The next write is a move of the state machine, and the next verdict right. -/
def MovesAlong (suspendable : ProviderStandingStatus -> Bool) (s : StandingServer) :
    StandingStep -> Prop
  | .advance k =>
      (forall req seen r r', s.writes k = some (req, seen, r, r') ->
        StandingMove suspendable req r r') ∧
        forall now standing verdict row,
          s.answers k = some (.gate now, .gate standing verdict, row) ->
          (verdict = .ok () ↔ forall r, row = some r -> r.inStanding now = true)
  | _ => True

end StandingServer

/-! ## Transactions -/

section

variable {req : StandingRequest} {agree : ProviderStanding -> ProviderStanding -> Prop}

/-- Writes and answers of a request that follow the state machine. -/
structure StandingLawful (req : StandingRequest) (t : StandingTxn) : Prop where
  lawful : t.Lawful (fun seen r => seen.position = r.position)
    (StandingMove (fun _ => true) req) (GateLaw req)

variable {now : Nat} {r standing : ProviderStanding} {next : ProviderStanding -> StandingTxn}

theorem due_of_position {seen : ProviderStanding} (h : seen.position = r.position)
    : seen.due now = r.due now := by
  obtain ⟨hstatus, hrest⟩ := Prod.mk.inj h
  obtain ⟨-, hrest⟩ := Prod.mk.inj hrest
  obtain ⟨huntil, hprobation⟩ := Prod.mk.inj hrest
  unfold ProviderStanding.due
  rw [hstatus, huntil, hprobation]

theorem due_eq_suspensionEnded (h : r.due now = some .suspensionEnded) :
    r.status = .suspended ∧ exists t, r.suspendedUntil = some t ∧ t <= now := by
  unfold ProviderStanding.due at h
  split at h
  · rename_i hdue
    obtain ⟨hstatus, htimer⟩ := Bool.and_eq_true_iff.1 hdue
    obtain ⟨t, ht, hle⟩ := (Option.any_eq_true _ _).1 htimer
    exact ⟨of_decide_eq_true hstatus, t, ht, of_decide_eq_true hle⟩
  · split at h
    · cases h
    · cases h

theorem due_eq_probationEnded (h : r.due now = some .probationEnded) :
    r.status = .probation ∧ exists t, r.probationUntil = some t ∧ t <= now := by
  unfold ProviderStanding.due at h
  split at h
  · cases h
  · split at h
    · rename_i hdue
      obtain ⟨hstatus, htimer⟩ := Bool.and_eq_true_iff.1 hdue
      obtain ⟨t, ht, hle⟩ := (Option.any_eq_true _ _).1 htimer
      exact ⟨of_decide_eq_true hstatus, t, ht, of_decide_eq_true hle⟩
    · cases h

theorem fail_lawful (e : StandingError) : StandingLawful req (.fail e) :=
  ⟨trivial⟩

theorem done_lawful {result : StandingResult}
    (h : forall standing verdict, result ≠ .gate standing verdict) :
    StandingLawful req (.done result) := by
  refine ⟨fun now standing verdict _ heq => ?_⟩
  exact absurd heq (h standing verdict)

theorem read_lawful {next : Option ProviderStanding -> StandingTxn}
    (h : forall o, StandingLawful req (next o)) : StandingLawful req (.read next) :=
  ⟨fun o => (h o).lawful⟩

theorem log_lawful {e : AuditEvent} {next : StandingTxn} (h : StandingLawful req next) :
    StandingLawful req (.log e next) :=
  ⟨h.lawful⟩

theorem update_lawful {seen : ProviderStanding} {data : ProviderStanding -> ProviderStanding}
    {next : ProviderStanding -> StandingTxn}
    (h : forall r, seen.position = r.position ->
      StandingMove (fun _ => true) req r (data r) ∧ StandingLawful req (next (data r))) :
    StandingLawful req (.update seen data next) :=
  ⟨fun r hr => ⟨(h r hr).1, (h r hr).2.lawful⟩⟩

theorem ite_lawful {p : Prop} [Decidable p] {t u : StandingTxn}
    (ht : p -> StandingLawful req t) (hu : ¬ p -> StandingLawful req u) :
    StandingLawful req (if p then t else u) := by
  split
  · exact ht ‹_›
  · exact hu ‹_›

theorem settleTimers_lawful (hclock : now = req.clock)
    (hnext : forall r, r.due now = none -> StandingLawful req (next r)) :
    StandingLawful req (settleTimers now standing next) := by
  unfold settleTimers
  split
  · rename_i hdue
    refine update_lawful fun r hr => ?_
    rw [due_of_position hr] at hdue
    obtain ⟨hstatus, t, ht, hle⟩ := due_eq_suspensionEnded hdue
    exact ⟨.ended t hstatus ht (hclock ▸ hle) rfl rfl, hnext _ rfl⟩
  · rename_i hdue
    refine update_lawful fun r hr => ?_
    rw [due_of_position hr] at hdue
    obtain ⟨hstatus, t, ht, hle⟩ := due_eq_probationEnded hdue
    exact ⟨.completed t hstatus ht (hclock ▸ hle) rfl rfl, log_lawful (hnext _ rfl)⟩
  · rename_i hdue
    exact hnext standing hdue

theorem suspend_lawful {reason : String} (hreq : req.isFault = true)
    (hnext : forall r, StandingLawful req (next r)) :
    StandingLawful req (suspend now standing reason next) := by
  refine update_lawful fun r hr => ?_
  have hcount : standing.suspensionCount = r.suspensionCount :=
    (Prod.mk.inj (Prod.mk.inj hr).2).1
  exact ⟨.suspended hreq rfl rfl (congrArg (· + 1) hcount), log_lawful (hnext _)⟩

theorem applyProviderCancellation_lawful {configured : Option Int} {c : CancellationCall}
    {next : CancellationOutcome -> StandingTxn} (hreq : req.isFault = true)
    (hclock : c.times.settled = req.clock) (hnext : forall o, StandingLawful req (next o)) :
    StandingLawful req (applyProviderCancellation configured c next) := by
  refine ⟨fun standing => (settleTimers_lawful hclock fun standing _ => ?_).lawful⟩
  refine update_lawful fun r _ => ⟨.kept rfl, ⟨fun strikes => ?_⟩⟩
  refine (ite_lawful (fun _ => ?_) fun _ => hnext _).lawful
  exact suspend_lawful hreq fun _ => hnext _

theorem gate_lawful {verdict : Except StandingError Unit} (hdue : standing.due now = none)
    (h : verdict = .ok () ↔ standing.status = .good ∨ standing.status = .probation) :
    StandingLawful (.gate now) (.done (.gate (some standing) verdict)) := by
  refine ⟨fun now' standing' verdict' hreq hresult => ?_⟩
  obtain rfl := StandingRequest.gate.inj hreq
  obtain ⟨rfl, rfl⟩ := StandingResult.gate.inj hresult
  rw [h]
  constructor
  · intro hstatus r hr
    obtain rfl := Option.some.inj hr
    unfold ProviderStanding.inStanding
    rw [hdue]
    simpa using hstatus
  · intro hall
    have hin := hall standing rfl
    unfold ProviderStanding.inStanding at hin
    obtain ⟨-, hstatus⟩ := Bool.and_eq_true_iff.1 hin
    simpa using hstatus

theorem recordFault_lawful (configured : Option Int) (kind : ProviderFault)
    (c : CancellationCall) (recordedAt : Nat) :
    StandingLawful (.fault kind c recordedAt) (recordFault configured kind c recordedAt) := by
  have hdone : forall o : CancellationOutcome,
      StandingLawful (.fault kind c recordedAt) (.done (.outcome o)) := fun o =>
    done_lawful fun standing verdict heq => by cases heq
  unfold recordFault
  cases kind with
  | transportRelease => exact log_lawful (applyProviderCancellation_lawful rfl rfl hdone)
  | inspectionRelease => exact log_lawful (applyProviderCancellation_lawful rfl rfl hdone)
  | noShow actorId =>
      exact applyProviderCancellation_lawful rfl rfl fun o => log_lawful (hdone o)

theorem appeal_lawful (userId : Id) (now : Nat) (message : String) :
    StandingLawful (.appeal userId now message) (appeal userId now message) := by
  unfold appeal
  refine ite_lawful (fun _ => fail_lawful _) fun _ => read_lawful fun standing => ?_
  cases standing with
  | none => exact fail_lawful _
  | some standing =>
      refine ite_lawful (fun _ => fail_lawful _) fun _ => ite_lawful (fun _ => fail_lawful _) fun _ => ?_
      refine update_lawful fun r _ => ⟨.kept rfl, log_lawful (done_lawful ?_)⟩
      exact fun standing verdict heq => by cases heq

theorem adminReinstate_lawful (adminId : Id) (now : Nat) (target : ProviderStandingStatus) :
    StandingLawful (.reinstate adminId now target) (adminReinstate adminId now target) := by
  unfold adminReinstate
  refine ite_lawful (fun _ => fail_lawful _) fun htarget => read_lawful fun standing => ?_
  cases standing with
  | none => exact fail_lawful _
  | some standing =>
      refine ite_lawful (fun _ => fail_lawful _) fun hstatus => update_lawful fun r hr => ?_
      have hsame : standing.status = r.status := (Prod.mk.inj hr).1
      refine ⟨.reinstated rfl ?_ ?_ rfl,
        log_lawful (done_lawful fun standing verdict heq => by cases heq)⟩
      · rw [← hsame]
        by_cases hsuspended : standing.status = .suspended
        · exact Or.inl hsuspended
        · simp [hsuspended] at hstatus
          exact Or.inr hstatus
      · by_cases hprobation : target = .probation
        · exact Or.inl hprobation
        · simp [hprobation] at htarget
          exact Or.inr htarget

theorem assertProviderCanBid_lawful (now : Nat) :
    StandingLawful (.gate now) (assertProviderCanBid now) := by
  unfold assertProviderCanBid
  refine read_lawful fun existing => ?_
  cases existing with
  | none =>
      refine ⟨fun now' standing verdict hreq hresult => ?_⟩
      obtain ⟨rfl, rfl⟩ := StandingResult.gate.inj hresult
      exact ⟨fun _ r hr => (by cases hr), fun _ => rfl⟩
  | some existing =>
      refine settleTimers_lawful rfl fun standing hdue => ite_lawful (fun hstatus => ?_)
        fun hsuspended => ite_lawful (fun hstatus => ?_) fun hpending => ?_
      · exact gate_lawful hdue (by simp [hstatus])
      · exact gate_lawful hdue (by simp [hstatus])
      · refine gate_lawful hdue ?_
        cases hstatus : standing.status with
        | good => simp
        | probation => simp
        | suspended => exact absurd hstatus hsuspended
        | rejoinPending => exact absurd hstatus hpending

theorem getStandingSummary_lawful (configured : Option Int) (userId : Id) (settled counted : Nat) :
    StandingLawful (.summary userId settled counted)
      (getStandingSummary configured userId settled counted) := by
  unfold getStandingSummary
  refine read_lawful fun standing => ?_
  cases standing with
  | none => exact done_lawful fun standing verdict heq => by cases heq
  | some standing =>
      refine settleTimers_lawful rfl fun standing _ => ⟨fun strikes => (?_ : StandingLawful _ _).lawful⟩
      exact done_lawful fun standing verdict heq => by cases heq

theorem sweepProviderStandings_lawful (now settled : Nat) :
    StandingLawful (.sweep now settled) (sweepProviderStandings now settled) := by
  have hdone : forall n, StandingLawful (.sweep now settled) (.done (.swept n)) := fun n =>
    done_lawful fun standing verdict heq => by cases heq
  unfold sweepProviderStandings
  refine read_lawful fun standing => ?_
  cases standing with
  | none => exact hdone 0
  | some standing =>
      exact ite_lawful (fun _ => settleTimers_lawful rfl fun _ _ => hdone 1) fun _ => hdone 0

theorem rejoin_lawful (userId : Id) (settled rejoined : Nat) :
    StandingLawful (.rejoin userId settled rejoined) (rejoin userId settled rejoined) := by
  unfold rejoin
  refine read_lawful fun existing => ?_
  cases existing with
  | none => exact fail_lawful _
  | some existing =>
      refine settleTimers_lawful rfl fun standing _ => ite_lawful (fun _ => fail_lawful _)
        fun hstatus => update_lawful fun r hr => ?_
      have hpending : r.status = .rejoinPending :=
        (Prod.mk.inj hr).1.symm.trans (not_not.1 hstatus)
      exact ⟨.rejoined rfl hpending rfl rfl,
        log_lawful (done_lawful fun standing verdict heq => by cases heq)⟩

theorem StandingRequest.txn_lawful (configured : Option Int) (req : StandingRequest) :
    StandingLawful req (req.txn configured) := by
  cases req with
  | fault kind c recordedAt => exact recordFault_lawful configured kind c recordedAt
  | gate now => exact assertProviderCanBid_lawful now
  | summary userId settled counted => exact getStandingSummary_lawful _ userId settled counted
  | sweep now settled => exact sweepProviderStandings_lawful now settled
  | rejoin userId settled rejoined => exact rejoin_lawful userId settled rejoined
  | appeal userId now message => exact appeal_lawful userId now message
  | reinstate adminId now target => exact adminReinstate_lawful adminId now target

end

/-! ## Runs -/

namespace StandingServer

variable {configured : Option Int} {s : StandingServer}

abbrev Inv (s : StandingServer) : Prop :=
  RowServer.Lawful (fun seen r => seen.position = r.position)
    (StandingMove fun _ => true) GateLaw s

theorem inStanding_of_position {now : Nat} {r r' : ProviderStanding}
    (h : r.position = r'.position) : r.inStanding now = r'.inStanding now := by
  have hstatus : r.status = r'.status := (Prod.mk.inj h).1
  unfold ProviderStanding.inStanding
  rw [due_of_position h, hstatus]

theorem Inv.step (h : s.Inv) {a : StandingStep} (hcurrent : s.Current a) :
    (s.step configured a).Inv ∧ s.MovesAlong (fun _ => true) a := by
  cases a with
  | request r => exact ⟨RowServer.Lawful.submit h (r.txn_lawful configured).lawful, trivial⟩
  | rollback k => exact ⟨RowServer.Lawful.rollback h k, trivial⟩
  | advance k =>
      obtain ⟨hwrites, hanswers⟩ := hcurrent
      obtain ⟨hafter, hmoves, hgate⟩ := RowServer.Lawful.advance h (k := k)
        fun req seen r r' hw => by
          rw [hw] at hwrites
          exact hwrites
      refine ⟨hafter, hmoves, ?_⟩
      intro now standing verdict row ha
      have hsame : standing.map ProviderStanding.position =
          row.map ProviderStanding.position := by
        rw [ha] at hanswers
        exact hanswers
      rw [hgate _ _ _ ha now standing verdict rfl rfl]
      cases standing with
      | none =>
          obtain rfl : row = none := by simpa using hsame.symm
          exact Iff.rfl
      | some r =>
          obtain ⟨r', rfl, hposition⟩ := Option.map_eq_some_iff.1 hsame.symm
          constructor
          · intro hall q hq
            rw [← Option.some.inj hq, inStanding_of_position hposition]
            exact hall r rfl
          · intro hall q hq
            rw [← Option.some.inj hq, ← inStanding_of_position hposition]
            exact hall r' rfl

def served (k : Nat) (r : StandingRequest) : List StandingStep :=
  .request r :: List.replicate 10 (.advance k)

/-- Provider 5 releases an accepted transport agreement on a day. -/
def released (day : Nat) : StandingRequest :=
  .fault .transportRelease
    { userId := 5
      reason := "PRICE_NOT_VIABLE"
      times :=
        { settled := day * dayMs + 1
          counted := day * dayMs + 2
          suspended := day * dayMs + 3 } }
    (day * dayMs)

def noProvider : StandingServer where
  store := {}

/-- Three releases suspend the provider for three days; he rejoins, and is clean for a month. -/
def rehabilitated : List StandingStep :=
  served 0 (released 1) ++ served 1 (released 2) ++ served 2 (released 3) ++
    served 3 (.gate (7 * dayMs)) ++ served 4 (.rejoin 5 (8 * dayMs) (8 * dayMs)) ++
    served 5 (.gate (40 * dayMs))

def isRegular (status : ProviderStandingStatus) : Bool :=
  status = .good || status = .probation

/-- The next write of transaction `k`: when its timers are settled, and the move. -/
def nextMove (s : StandingServer) (k : Nat) :
    Option (Nat × ProviderStandingStatus × Option Nat × ProviderStandingStatus) :=
  (s.writes k).map fun w =>
    (w.1.clock, w.2.2.1.status, w.2.2.1.suspendedUntil, w.2.2.2.status)

theorem not_movesAlong_of_waiting {k clock : Nat} {ends : Option Nat}
    (h : s.nextMove k = some (clock, .rejoinPending, ends, .suspended)) :
    ¬ s.MovesAlong isRegular (.advance k) := by
  intro hmoves
  obtain ⟨⟨req, seen, r, r'⟩, hw, hmove⟩ := Option.map_eq_some_iff.1 h
  obtain ⟨-, hrest⟩ := Prod.mk.inj hmove
  obtain ⟨hfrom, hrest⟩ := Prod.mk.inj hrest
  have hto : r'.status = .suspended := (Prod.mk.inj hrest).2
  have hstatus : r.status = .rejoinPending := hfrom
  cases hmoves.1 req seen r r' hw with
  | kept h =>
      have hsame : r'.status = r.status := (Prod.mk.inj h).1
      rw [hto, hstatus] at hsame
      cases hsame
  | suspended hreq hregular _ _ =>
      rw [hstatus] at hregular
      cases hregular
  | ended t hsuspended _ _ _ _ =>
      rw [hstatus] at hsuspended
      cases hsuspended
  | rejoined _ _ hprobation _ =>
      rw [hto] at hprobation
      cases hprobation
  | completed t hprobation _ _ _ _ =>
      rw [hstatus] at hprobation
      cases hprobation
  | reinstated _ _ hends _ =>
      rw [hto] at hends
      rcases hends with hends | hends <;> cases hends

theorem not_movesAlong_of_early {suspendable : ProviderStandingStatus -> Bool} {k clock t : Nat}
    (h : s.nextMove k = some (clock, .suspended, some t, .rejoinPending)) (hearly : clock < t) :
    ¬ s.MovesAlong suspendable (.advance k) := by
  intro hmoves
  obtain ⟨⟨req, seen, r, r'⟩, hw, hmove⟩ := Option.map_eq_some_iff.1 h
  obtain ⟨hclock, hrest⟩ := Prod.mk.inj hmove
  obtain ⟨hfrom, hrest⟩ := Prod.mk.inj hrest
  obtain ⟨huntil, hto⟩ := Prod.mk.inj hrest
  have hstatus : r.status = .suspended := hfrom
  have hpending : r'.status = .rejoinPending := hto
  cases hmoves.1 req seen r r' hw with
  | kept h =>
      have hsame : r'.status = r.status := (Prod.mk.inj h).1
      rw [hstatus, hpending] at hsame
      cases hsame
  | suspended _ _ hsuspended _ =>
      rw [hpending] at hsuspended
      cases hsuspended
  | ended t' _ ht hdue _ _ =>
      have hsame : r.suspendedUntil = some t := huntil
      obtain rfl : t' = t := Option.some.inj (ht.symm.trans hsame)
      have hreq : req.clock = clock := hclock
      omega
  | rejoined _ hfrom' _ _ =>
      rw [hstatus] at hfrom'
      cases hfrom'
  | completed t' hfrom' _ _ _ _ =>
      rw [hstatus] at hfrom'
      cases hfrom'
  | reinstated _ _ hends _ =>
      rw [hpending] at hends
      rcases hends with hends | hends <;> cases hends

/-- Three releases, the end of the suspension, and three more before the provider rejoins. -/
def cancelsWhileWaiting : List StandingStep :=
  served 0 (released 1) ++ served 1 (released 2) ++ served 2 (released 3) ++
    served 3 (.gate (7 * dayMs)) ++ served 4 (released 8) ++ served 5 (released 9) ++
    .request (released 10) :: List.replicate 4 (.advance 6)

/-- The gate reads the suspension that has ended, and writes after the next one has begun. -/
def gateWithOldRow : List StandingStep :=
  served 0 (released 1) ++ served 1 (released 2) ++ served 2 (released 3) ++
    [.request (.gate (7 * dayMs)), .advance 3] ++ served 4 (.rejoin 5 (7 * dayMs) (7 * dayMs)) ++
    served 5 (released 8)

end StandingServer

end MarketBridge
