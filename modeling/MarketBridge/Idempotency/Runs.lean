import MarketBridge.Idempotency.Middleware

/-!
# Runs of the idempotency middleware

As long as no takeover hits a run that is not settled, a record has one run to settle it,
and a completed record is never written again.
-/

namespace MarketBridge

open JsonText Relational

/-! ## Responses -/

theorem HttpRequest.Same.symm {r r' : HttpRequest} (h : r.Same r') : r'.Same r :=
  ⟨h.method.symm, h.target.symm, h.body.symm⟩

theorem HttpRequest.Same.refl (r : HttpRequest) : r.Same r :=
  ⟨rfl, rfl, rfl⟩

theorem replay_stored {answer : HandlerAnswer} (hsucceeded : answer.succeeded = true)
    (hreplayable : IdempotencyServer.isReplayable answer = true) (r : IdempotencyRecord) :
    { r with
      status := .completed
      statusCode := some answer.statusCode
      response := answer.answer.captured }.replay = answer.response := by
  have hcode : answer.statusCode ≠ 0 := by
    simp only [HandlerAnswer.succeeded, Bool.and_eq_true, decide_eq_true_eq] at hsucceeded
    omega
  have hbody : ResponseBody.json (replayedValue answer.answer.captured) = answer.answer.body := by
    unfold IdempotencyServer.isReplayable at hreplayable
    rw [hsucceeded] at hreplayable
    cases hanswer : answer.answer with
    | send text =>
        rw [hanswer] at hreplayable
        cases hreplayable
    | json value =>
        rw [hanswer] at hreplayable
        cases value with
        | none => cases hreplayable
        | some value =>
            cases value <;> first | rfl | cases hreplayable
  unfold IdempotencyRecord.replay HandlerAnswer.response
  simp only [Option.getD_some, if_neg hcode, hbody]

theorem KeyedPhase.owns_ne_none {phase : KeyedPhase} (h : phase.isRunning = true) : phase.owns ≠ none := by
  cases phase with
  | running recordId since => exact Option.some_ne_none recordId
  | _ => cases h

theorem IdempotencyRecord.receive_eq_takingOver {r : IdempotencyRecord} {requestHash : String}
    {now now' : Nat} {recordId : Id}
    (h : r.receive requestHash now = .takingOver now' recordId) :
    r.requestHash = requestHash ∧ r.id = recordId := by
  unfold IdempotencyRecord.receive at h
  split at h
  · cases h
  · rename_i hequal
    split at h
    · cases h
    · split at h
      · cases h
      · exact ⟨not_not.1 hequal, (KeyedPhase.takingOver.inj h).2⟩

namespace IdempotencyServer

variable {sha256 : String -> String} {ttlMs : Nat} {s s' : IdempotencyServer}

/-! ## The invariant -/

def ToldOf (run : StoredRun) (q : KeyedRequest) : KeyedPhase -> Prop
  | .creating _ => True
  | .reading _ => True
  | .answered response =>
      (q.http.Same run.http -> response = run.response) ∧
        (¬ q.http.Same run.http -> response.statusCode = 409)
  | _ => False

/-- The record is completed with the response of the run. -/
structure Keeps (sha256 : String -> String) (s : IdempotencyServer) (run : StoredRun) : Prop where
  record : exists r, s.record = some r ∧ r.status = .completed ∧
    r.requestHash = requestFingerprint sha256 run.http ∧ r.replay = run.response
  before : run.before ≤ s.requests.length
  request : exists q, q ∈ s.requests ∧ q.http = run.http

structure Inv (sha256 : String -> String) (s : IdempotencyServer) : Prop where
  /-- The record of a run is in progress and belongs to its request. -/
  owner : forall (k : Nat) (q : KeyedRequest) recordId, s.requests[k]? = some q -> q.phase.owns = some recordId ->
    exists r, s.record = some r ∧ r.id = recordId ∧ r.status = .processing ∧
      r.requestHash = requestFingerprint sha256 q.http
  single : forall (i j : Nat) (q q' : KeyedRequest), s.requests[i]? = some q -> s.requests[j]? = some q' ->
    q.phase.owns ≠ none -> q'.phase.owns ≠ none -> i = j
  ids : forall r, s.record = some r -> r.id < s.nextId
  taking : forall q now recordId, q ∈ s.requests -> q.phase = .takingOver now recordId ->
    recordId < s.nextId ∧ forall r, s.record = some r -> r.id = recordId ->
      r.requestHash = requestFingerprint sha256 q.http
  replayable : forall q recordId answer, q ∈ s.requests -> q.phase = .storing recordId answer ->
    isReplayable answer = true
  finite : forall q, q ∈ s.requests -> isFinite q.http.body = true
  distinct : forall q q', q ∈ s.requests -> q' ∈ s.requests ->
    requestFingerprint sha256 q.http = requestFingerprint sha256 q'.http -> q.http.Same q'.http
  stored : forall run, run ∈ s.stored -> s.Keeps sha256 run
  later : forall run k q, s.IsLater run k q -> ToldOf run q q.phase

namespace Inv

theorem of_fresh (h : s.IsFresh) : Inv sha256 s := by
  have hnone : forall q, q ∉ s.requests := by
    rw [h.requests]
    exact fun q => List.not_mem_nil
  have hlookup : forall (k : Nat) (q : KeyedRequest), s.requests[k]? ≠ some q :=
    fun k q hq => hnone q (List.mem_of_getElem? hq)
  refine ⟨fun k q _ hq => absurd hq (hlookup k q), fun i _ q _ hq => absurd hq (hlookup i q),
    fun r hr => ?_, fun q _ _ hq => absurd hq (hnone q), fun q _ _ hq => absurd hq (hnone q),
    fun q hq => absurd hq (hnone q), fun q _ hq => absurd hq (hnone q), fun run hrun => ?_,
    fun run k q hlater => absurd hlater.2.2 (hlookup k q)⟩
  · rw [h.record] at hr
    cases hr
  · rw [h.stored] at hrun
    cases hrun

theorem stored_eq_nil (h : Inv sha256 s) (hrecord : forall r, s.record = some r ->
    r.status = .processing) :
    s.stored = [] := by
  cases hstored : s.stored with
  | nil => rfl
  | cons run rest =>
      obtain ⟨r, hr, hcompleted, -⟩ := (h.stored run (hstored ▸ List.mem_cons_self ..)).record
      rw [hrecord r hr] at hcompleted
      cases hcompleted

theorem owns_eq_none (h : Inv sha256 s) (hstored : s.stored ≠ []) {k : Nat} {q : KeyedRequest}
    (hq : s.requests[k]? = some q) :
    q.phase.owns = none := by
  cases howns : q.phase.owns with
  | none => rfl
  | some recordId =>
      obtain ⟨r, hr, -, hprocessing, -⟩ := h.owner k q recordId hq howns
      refine absurd (h.stored_eq_nil fun r' hr' => ?_) hstored
      rw [hr] at hr'
      rw [← Option.some.inj hr']
      exact hprocessing

theorem oneRun (h : Inv sha256 s) : s.OneRun := by
  rintro i j ⟨q, hq, hrunning⟩ ⟨q', hq', hrunning'⟩
  exact h.single i j q q' hq hq' (KeyedPhase.owns_ne_none hrunning) (KeyedPhase.owns_ne_none hrunning')

end Inv

/-! ## One request moves -/

/-- The next server has the request `k` in another phase. -/
structure Moved (s s' : IdempotencyServer) (k : Nat) (q : KeyedRequest) (phase : KeyedPhase) : Prop where
  found : s.requests[k]? = some q
  requests : s'.requests = s.requests.set k { q with phase := phase }

namespace Moved

variable {k : Nat} {q : KeyedRequest} {phase : KeyedPhase}

theorem self (h : Moved s s' k q phase) : s'.requests[k]? = some { q with phase := phase } := by
  obtain ⟨hk, -⟩ := List.getElem?_eq_some_iff.1 h.found
  rw [h.requests, List.getElem?_set_self hk]

theorem other (h : Moved s s' k q phase) {j : Nat} (hj : j ≠ k) :
    s'.requests[j]? = s.requests[j]? := by
  rw [h.requests, List.getElem?_set_ne (Ne.symm hj)]

variable {q' : KeyedRequest}

theorem cases (h : Moved s s' k q phase) {j : Nat} (hq' : s'.requests[j]? = some q') :
    (j = k ∧ q' = { q with phase := phase }) ∨ (j ≠ k ∧ s.requests[j]? = some q') := by
  by_cases hj : j = k
  · subst hj
    exact Or.inl ⟨rfl, Option.some.inj (hq'.symm.trans h.self)⟩
  · exact Or.inr ⟨hj, (h.other hj).symm.trans hq'⟩

theorem mem (h : Moved s s' k q phase) (hq' : q' ∈ s'.requests) :
    q' = { q with phase := phase } ∨ q' ∈ s.requests := by
  obtain ⟨j, hj⟩ := List.mem_iff_getElem?.1 hq'
  rcases h.cases hj with ⟨-, hself⟩ | ⟨-, hold⟩
  · exact Or.inl hself
  · exact Or.inr (List.mem_of_getElem? hold)

theorem http (h : Moved s s' k q phase) (hq' : q' ∈ s'.requests) :
    exists before, before ∈ s.requests ∧ before.http = q'.http := by
  rcases h.mem hq' with rfl | hold
  · exact ⟨q, List.mem_of_getElem? h.found, rfl⟩
  · exact ⟨q', hold, rfl⟩

theorem kept (h : Moved s s' k q phase) {before : KeyedRequest} (hbefore : before ∈ s.requests) :
    exists q', q' ∈ s'.requests ∧ q'.http = before.http := by
  obtain ⟨j, hj⟩ := List.mem_iff_getElem?.1 hbefore
  by_cases hjk : j = k
  · subst hjk
    obtain rfl := Option.some.inj (hj.symm.trans h.found)
    exact ⟨_, List.mem_of_getElem? h.self, rfl⟩
  · exact ⟨before, List.mem_of_getElem? ((h.other hjk).trans hj), rfl⟩

theorem length (h : Moved s s' k q phase) : s'.requests.length = s.requests.length := by
  rw [h.requests, List.length_set]

end Moved

/-! ## Statements -/

namespace Inv

variable {k : Nat} {q : KeyedRequest} {phase : KeyedPhase}

/--
The invariant after a request has moved: what its new phase and the record of the next
server have to satisfy, given that the log is kept or the record was in progress.
-/
theorem moved (h : Inv sha256 s) (hmoved : Moved s s' k q phase)
    (hids : s.nextId ≤ s'.nextId)
    (hid : forall r, s'.record = some r -> r.id < s'.nextId)
    (howner : forall recordId, phase.owns = some recordId ->
      exists r, s'.record = some r ∧ r.id = recordId ∧ r.status = .processing ∧
        r.requestHash = requestFingerprint sha256 q.http)
    (hothers : forall (j : Nat) (q' : KeyedRequest), j ≠ k -> s.requests[j]? = some q' -> q'.phase.owns ≠ none ->
      s'.record = s.record ∧ phase.owns = none)
    (htaking : forall q' now recordId, q' ∈ s.requests -> q'.phase = .takingOver now recordId ->
      forall r, s'.record = some r -> r.id = recordId ->
        r.requestHash = requestFingerprint sha256 q'.http)
    (hself : forall now recordId, phase = .takingOver now recordId ->
      recordId < s'.nextId ∧ forall r, s'.record = some r -> r.id = recordId ->
        r.requestHash = requestFingerprint sha256 q.http)
    (hreplayable : forall recordId answer, phase = .storing recordId answer ->
      isReplayable answer = true)
    (hstored : forall run, run ∈ s'.stored -> s'.Keeps sha256 run)
    (hlater : forall run, run ∈ s'.stored -> run.before ≤ k -> ToldOf run q phase)
    (hold : forall run, run ∈ s'.stored -> run ∈ s.stored ∨ run.before = s.requests.length) :
    Inv sha256 s' := by
  refine ⟨?_, ?_, hid, ?_, ?_, ?_, ?_, hstored, ?_⟩
  · intro j q' recordId hq' howns
    rcases hmoved.cases hq' with ⟨-, rfl⟩ | ⟨hj, hq'⟩
    · exact howner recordId howns
    · have hsame := (hothers j q' hj hq' (by rw [howns]; nofun)).1
      obtain ⟨r, hr, hfacts⟩ := h.owner j q' recordId hq' howns
      exact ⟨r, hsame.trans hr, hfacts⟩
  · intro i j q₁ q₂ h₁ h₂ howns₁ howns₂
    rcases hmoved.cases h₁ with ⟨hi, rfl⟩ | ⟨hi, h₁⟩
    · rcases hmoved.cases h₂ with ⟨hj, -⟩ | ⟨hj, h₂⟩
      · exact hi.trans hj.symm
      · exact absurd (hothers j q₂ hj h₂ howns₂).2 howns₁
    · rcases hmoved.cases h₂ with ⟨hj, rfl⟩ | ⟨hj, h₂⟩
      · exact absurd (hothers i q₁ hi h₁ howns₁).2 howns₂
      · exact h.single i j q₁ q₂ h₁ h₂ howns₁ howns₂
  · intro q' now recordId hq' hphase
    rcases hmoved.mem hq' with rfl | hq'
    · exact hself now recordId hphase
    · exact ⟨Nat.lt_of_lt_of_le (h.taking q' now recordId hq' hphase).1 hids,
        htaking q' now recordId hq' hphase⟩
  · intro q' recordId answer hq' hphase
    rcases hmoved.mem hq' with rfl | hq'
    · exact hreplayable recordId answer hphase
    · exact h.replayable q' recordId answer hq' hphase
  · intro q' hq'
    obtain ⟨before, hbefore, hhttp⟩ := hmoved.http hq'
    exact hhttp ▸ h.finite before hbefore
  · intro q₁ q₂ h₁ h₂ hhash
    obtain ⟨before₁, hbefore₁, hhttp₁⟩ := hmoved.http h₁
    obtain ⟨before₂, hbefore₂, hhttp₂⟩ := hmoved.http h₂
    rw [← hhttp₁, ← hhttp₂] at hhash ⊢
    exact h.distinct before₁ before₂ hbefore₁ hbefore₂ hhash
  · rintro run j q' ⟨hrun, hbefore, hq'⟩
    rcases hmoved.cases hq' with ⟨rfl, rfl⟩ | ⟨-, hq'⟩
    · exact hlater run hrun hbefore
    · rcases hold run hrun with hrun | hlength
      · exact h.later run j q' ⟨hrun, hbefore, hq'⟩
      · obtain ⟨hj, -⟩ := List.getElem?_eq_some_iff.1 hq'
        omega

/-- The request moves and nothing else changes. -/
theorem rephased (h : Inv sha256 s) (hmoved : Moved s s' k q phase) (hids : s.nextId ≤ s'.nextId)
    (hrecord : s'.record = s.record) (hlog : s'.stored = s.stored)
    (howns : phase.owns = none ∨ phase.owns = q.phase.owns)
    (hself : forall now recordId, phase = .takingOver now recordId ->
      recordId < s.nextId ∧ forall r, s.record = some r -> r.id = recordId ->
        r.requestHash = requestFingerprint sha256 q.http)
    (hreplayable : forall recordId answer, phase = .storing recordId answer ->
      isReplayable answer = true)
    (hlater : forall run, s.IsLater run k q -> ToldOf run q phase) :
    Inv sha256 s' := by
  refine h.moved hmoved hids ?_ ?_ ?_ ?_ ?_ hreplayable ?_ ?_ ?_
  · intro r hr
    rw [hrecord] at hr
    exact Nat.lt_of_lt_of_le (h.ids r hr) hids
  · intro recordId hphase
    rcases howns with hnone | hsame
    · rw [hnone] at hphase
      cases hphase
    · rw [hrecord]
      exact h.owner k q recordId hmoved.found (hsame ▸ hphase)
  · intro j q' hj hq' howns'
    refine ⟨hrecord, ?_⟩
    rcases howns with hnone | hsame
    · exact hnone
    · rw [hsame]
      by_contra howned
      exact hj (h.single j k q' q hq' hmoved.found howns' howned)
  · intro q' now recordId hq' hphase
    rw [hrecord]
    exact (h.taking q' now recordId hq' hphase).2
  · intro now recordId hphase
    rw [hrecord]
    exact ⟨Nat.lt_of_lt_of_le (hself now recordId hphase).1 hids, (hself now recordId hphase).2⟩
  · intro run hrun
    obtain ⟨hkept, hbefore, before, hmem, hhttp⟩ := h.stored run (hlog ▸ hrun)
    obtain ⟨q', hq', hsame⟩ := hmoved.kept hmem
    exact ⟨hrecord ▸ hkept, hmoved.length ▸ hbefore, q', hq', hsame.trans hhttp⟩
  · exact fun run hrun hbefore => hlater run ⟨hlog ▸ hrun, hbefore, hmoved.found⟩
  · exact fun run hrun => Or.inl (hlog ▸ hrun)

/-- Nobody had a record to settle, and nothing had been stored: a new run starts. -/
theorem started (h : Inv sha256 s) (hmoved : Moved s s' k q phase) (hids : s.nextId ≤ s'.nextId)
    (hid : forall r, s'.record = some r -> r.id < s'.nextId)
    {recordId : Id} {since : Nat} (hphase : phase = .running recordId since)
    (howner : exists r, s'.record = some r ∧ r.id = recordId ∧ r.status = .processing ∧
      r.requestHash = requestFingerprint sha256 q.http)
    (hfree : forall (j : Nat) (q' : KeyedRequest), s.requests[j]? = some q' -> q'.phase.owns = none)
    (htaking : forall q' now recordId, q' ∈ s.requests -> q'.phase = .takingOver now recordId ->
      forall r, s'.record = some r -> r.id = recordId ->
        r.requestHash = requestFingerprint sha256 q'.http)
    (hlog : s'.stored = []) :
    Inv sha256 s' := by
  subst hphase
  refine h.moved hmoved hids hid ?_ ?_ htaking nofun nofun ?_ ?_ ?_
  · intro id hid
    obtain rfl := Option.some.inj hid
    exact howner
  · exact fun j q' _ hq' howns => absurd (hfree j q' hq') howns
  · intro run hrun
    rw [hlog] at hrun
    cases hrun
  · intro run hrun
    rw [hlog] at hrun
    cases hrun
  · intro run hrun
    rw [hlog] at hrun
    cases hrun

theorem settled (h : Inv sha256 s) {recordId : Id} {answer : HandlerAnswer}
    (hq : q.phase = .storing recordId answer) (hmoved : Moved s s' k q (.answered answer.response))
    (hids : s.nextId ≤ s'.nextId) (hrecord : s'.record = persist recordId answer s.record)
    (hlog : s'.stored = s.stored ++ s.newlyStored q) :
    Inv sha256 s' := by
  obtain ⟨r, hr, hid, hprocessing, hhash⟩ :=
    h.owner k q recordId hmoved.found (by rw [hq]; rfl)
  have hnothing : s.stored = [] := by
    refine h.stored_eq_nil fun r' hr' => ?_
    rw [hr] at hr'
    rw [← Option.some.inj hr']
    exact hprocessing
  have hreplayable := h.replayable q recordId answer (List.mem_of_getElem? hmoved.found) hq
  have honly : forall (j : Nat) (q' : KeyedRequest), j ≠ k -> s.requests[j]? = some q' ->
      q'.phase.owns = none := by
    intro j q' hj hq'
    by_contra howns
    exact hj (h.single j k q' q hq' hmoved.found howns (by rw [hq]; exact Option.some_ne_none _))
  cases hsucceeded : answer.succeeded with
  | true =>
      have hafter : s'.record = some { r with
          status := .completed
          statusCode := some answer.statusCode
          response := answer.answer.captured } := by
        rw [hrecord, hr, persist, if_pos hsucceeded, Option.map_some, if_pos hid]
      have hstored : s'.stored = [{ http := q.http
                                    response := answer.response
                                    before := s.requests.length }] := by
        rw [hlog, hnothing, newlyStored, hq, hr]
        simp [hsucceeded, hid]
      refine h.moved hmoved hids ?_ nofun ?_ ?_ nofun nofun ?_ ?_ ?_
      · intro r' hr'
        rw [hafter] at hr'
        rw [← Option.some.inj hr']
        exact Nat.lt_of_lt_of_le (h.ids r hr) hids
      · exact fun j q' hj hq' howns => absurd (honly j q' hj hq') howns
      · intro q' now id hq' hphase r' hr' hid'
        rw [hafter] at hr'
        rw [← Option.some.inj hr'] at hid' ⊢
        exact (h.taking q' now id hq' hphase).2 r hr hid'
      · intro run hrun
        rw [hstored] at hrun
        obtain rfl := List.mem_singleton.1 hrun
        refine ⟨⟨_, hafter, rfl, hhash, replay_stored hsucceeded hreplayable r⟩, ?_, ?_⟩
        · exact Nat.le_of_eq hmoved.length.symm
        · exact hmoved.kept (List.mem_of_getElem? hmoved.found)
      · intro run hrun hbefore
        rw [hstored] at hrun
        obtain rfl := List.mem_singleton.1 hrun
        obtain ⟨hk, -⟩ := List.getElem?_eq_some_iff.1 hmoved.found
        exact absurd hbefore (Nat.not_le_of_lt hk)
      · intro run hrun
        rw [hstored] at hrun
        obtain rfl := List.mem_singleton.1 hrun
        exact Or.inr rfl
  | false =>
      have hafter : s'.record = none := by
        rw [hrecord, hr, persist, hsucceeded]
        simp [Option.filter, hid]
      have hstored : s'.stored = [] := by
        rw [hlog, hnothing, newlyStored, hq]
        simp [hsucceeded]
      have hrun : forall run, run ∉ s'.stored := by
        rw [hstored]
        exact fun run => List.not_mem_nil
      have hnorecord : forall r', s'.record ≠ some r' := by
        rw [hafter]
        nofun
      exact h.moved hmoved hids (fun r' hr' => absurd hr' (hnorecord r')) nofun
        (fun j q' hj hq' howns => absurd (honly j q' hj hq') howns)
        (fun _ _ _ _ _ r' hr' => absurd hr' (hnorecord r')) nofun nofun
        (fun run hmem => absurd hmem (hrun run)) (fun run hmem => absurd hmem (hrun run))
        fun run hmem => absurd hmem (hrun run)

theorem received (h : Inv sha256 s) {r : IdempotencyRecord} (hr : s.record = some r)
    {run : StoredRun} (hrun : run ∈ s.stored) (hq : q ∈ s.requests) (now : Nat) :
    ToldOf run q (r.receive (requestFingerprint sha256 q.http) now) := by
  obtain ⟨⟨r', hr', hcompleted, hhash, hreplay⟩, -, before, hbefore, hhttp⟩ := h.stored run hrun
  obtain rfl := Option.some.inj (hr.symm.trans hr')
  unfold IdempotencyRecord.receive
  split
  · rename_i hdifferent
    refine ⟨fun hsame => absurd ?_ hdifferent, fun _ => rfl⟩
    rw [hhash]
    exact requestFingerprint_of_same sha256 hsame.symm
  · rename_i hequal
    refine ⟨fun _ => hreplay, fun hdifferent => absurd ?_ hdifferent⟩
    have hfingerprint : requestFingerprint sha256 q.http = requestFingerprint sha256 before.http := by
      rw [hhttp, ← hhash]
      exact (not_not.1 hequal).symm
    have hsame := h.distinct q before hq hbefore hfingerprint
    rwa [hhttp] at hsame

end Inv

/-! ## The next statement of a request -/

/-- The next statement writes this record and leaves the request in this phase. -/
structure Advances (s s' : IdempotencyServer) (k : Nat) (q : KeyedRequest)
    (record : Option IdempotencyRecord) (phase : KeyedPhase) : Prop where
  moved : Moved s s' k q phase
  nextId : s'.nextId = s.nextId + 1
  record : s'.record = record
  stored : s'.stored = s.stored ++ s.newlyStored q

theorem advances_of_statement {k : Nat} {q : KeyedRequest} {record : Option IdempotencyRecord}
    {phase : KeyedPhase} (hq : s.requests[k]? = some q)
    (hstatement : s.statement sha256 ttlMs q = (record, phase)) :
    Advances s (s.advance sha256 ttlMs k) k q record phase := by
  have hadvance : s.advance sha256 ttlMs k =
      { s with
        nextId := s.nextId + 1
        record := record
        requests := s.requests.set k { q with phase := phase }
        stored := s.stored ++ s.newlyStored q } := by
    unfold advance
    rw [hq]
    simp only [hstatement]
  rw [hadvance]
  exact ⟨⟨hq, rfl⟩, rfl, rfl, rfl⟩

namespace Inv

variable {k : Nat} {q : KeyedRequest}

/-- While a request creates the record or reads it, nothing is stored by its statement. -/
theorem advanced (h : Inv sha256 s) {record : Option IdempotencyRecord} {phase : KeyedPhase}
    (hadvances : Advances s s' k q record phase) (hrecord : record = s.record)
    (hnothing : s.newlyStored q = [])
    (howns : phase.owns = none ∨ phase.owns = q.phase.owns)
    (hself : forall now recordId, phase = .takingOver now recordId ->
      recordId < s.nextId ∧ forall r, s.record = some r -> r.id = recordId ->
        r.requestHash = requestFingerprint sha256 q.http)
    (hreplayable : forall recordId answer, phase = .storing recordId answer ->
      isReplayable answer = true)
    (hlater : forall run, s.IsLater run k q -> ToldOf run q phase) :
    Inv sha256 s' := by
  have hids : s.nextId ≤ s'.nextId := by
    rw [hadvances.nextId]
    exact Nat.le_succ s.nextId
  have hlog : s'.stored = s.stored := by
    rw [hadvances.stored, hnothing, List.append_nil]
  exact h.rephased hadvances.moved hids (hadvances.record.trans hrecord) hlog howns hself hreplayable
    hlater

theorem record_ne_none (h : Inv sha256 s) {run : StoredRun} (hrun : run ∈ s.stored) :
    s.record ≠ none := by
  obtain ⟨r, hr, -⟩ := (h.stored run hrun).record
  rw [hr]
  exact Option.some_ne_none r

theorem advance_creating (h : Inv sha256 s) (hq : s.requests[k]? = some q) {now : Nat}
    (hphase : q.phase = .creating now) :
    Inv sha256 (s.advance sha256 ttlMs k) := by
  have hnothing : s.newlyStored q = [] := by
    rw [newlyStored, hphase]
  cases hrecord : s.record with
  | some r =>
      have hadvances : Advances s (s.advance sha256 ttlMs k) k q (some r) (.reading now) :=
        advances_of_statement hq (by simp only [statement, hphase, hrecord])
      exact h.advanced hadvances hrecord.symm hnothing (Or.inl rfl) nofun nofun fun _ _ => trivial
  | none =>
      have hadvances : Advances s (s.advance sha256 ttlMs k) k q
          (some
            { id := s.nextId
              requestHash := requestFingerprint sha256 q.http
              expiresAt := now + ttlMs })
          (.running s.nextId s.now) :=
        advances_of_statement hq (by simp only [statement, hphase, hrecord])
      have hlog : s.stored = [] :=
        h.stored_eq_nil fun r hr => by rw [hrecord] at hr; cases hr
      refine h.started hadvances.moved ?_ ?_ rfl ⟨_, hadvances.record, rfl, rfl, rfl⟩ ?_ ?_ ?_
      · rw [hadvances.nextId]
        exact Nat.le_succ s.nextId
      · intro r hr
        rw [hadvances.record] at hr
        rw [← Option.some.inj hr, hadvances.nextId]
        exact Nat.lt_succ_self s.nextId
      · intro j q' hq'
        cases howns : q'.phase.owns with
        | none => rfl
        | some recordId =>
            obtain ⟨r, hr, -⟩ := h.owner j q' recordId hq' howns
            rw [hrecord] at hr
            cases hr
      · intro q' now' recordId hq' hphase' r hr hid
        rw [hadvances.record] at hr
        rw [← Option.some.inj hr] at hid
        exact absurd hid (Nat.ne_of_gt (h.taking q' now' recordId hq' hphase').1)
      · rw [hadvances.stored, hnothing, hlog, List.append_nil]

theorem advance_reading (h : Inv sha256 s) (hq : s.requests[k]? = some q) {now : Nat}
    (hphase : q.phase = .reading now) :
    Inv sha256 (s.advance sha256 ttlMs k) := by
  have hnothing : s.newlyStored q = [] := by
    rw [newlyStored, hphase]
  cases hrecord : s.record with
  | none =>
      have hadvances : Advances s (s.advance sha256 ttlMs k) k q none
          (.answered (errorResponse "Request is already being processed. Please retry.")) :=
        advances_of_statement hq (by simp only [statement, hphase, hrecord])
      exact h.advanced hadvances hrecord.symm hnothing (Or.inl rfl) nofun nofun
        fun run hlater => absurd hrecord (h.record_ne_none hlater.1)
  | some r =>
      have hadvances : Advances s (s.advance sha256 ttlMs k) k q (some r)
          (r.receive (requestFingerprint sha256 q.http) now) :=
        advances_of_statement hq (by simp only [statement, hphase, hrecord])
      have hreceived : (r.receive (requestFingerprint sha256 q.http) now).owns = none := by
        unfold IdempotencyRecord.receive
        repeat' split
        all_goals rfl
      refine h.advanced hadvances hrecord.symm hnothing (Or.inl hreceived) ?_ ?_ ?_
      · intro now' recordId htaking
        obtain ⟨hhash, rfl⟩ := r.receive_eq_takingOver htaking
        refine ⟨h.ids r hrecord, fun r' hr' _ => ?_⟩
        rw [hrecord] at hr'
        rw [← Option.some.inj hr']
        exact hhash
      · intro recordId answer hstoring
        rw [hstoring] at hreceived
        cases hreceived
      · exact fun run hlater => h.received hrecord hlater.1 (List.mem_of_getElem? hq) now

theorem advance_takingOver (h : Inv sha256 s) (hq : s.requests[k]? = some q) {now : Nat}
    {recordId : Id} (hphase : q.phase = .takingOver now recordId)
    (hok : s.isUndisturbed sha256 (.advance k) = true) :
    Inv sha256 (s.advance sha256 ttlMs k) := by
  have hnothing : s.newlyStored q = [] := by
    rw [newlyStored, hphase]
  have hearlier : forall run, ¬ s.IsLater run k q := by
    intro run hlater
    have htold := h.later run k q hlater
    rwa [hphase] at htold
  cases hrecord : s.record with
  | none =>
      have hadvances : Advances s (s.advance sha256 ttlMs k) k q none
          (.answered (errorResponse
            "Request is already being processed. Please retry shortly.")) :=
        advances_of_statement hq (by simp only [statement, hphase, hrecord])
      exact h.advanced hadvances hrecord.symm hnothing (Or.inl rfl) nofun nofun
        fun run hlater => absurd hlater (hearlier run)
  | some r =>
      cases htaken : r.isTaken now recordId with
      | false =>
          have hadvances : Advances s (s.advance sha256 ttlMs k) k q (some r)
              (.answered (errorResponse
                "Request is already being processed. Please retry shortly.")) :=
            advances_of_statement hq (by simp [statement, hphase, hrecord, htaken])
          exact h.advanced hadvances hrecord.symm hnothing (Or.inl rfl) nofun nofun
            fun run hlater => absurd hlater (hearlier run)
      | true =>
          have hadvances : Advances s (s.advance sha256 ttlMs k) k q
              (some { r with expiresAt := now + ttlMs }) (.running recordId s.now) :=
            advances_of_statement hq (by simp [statement, hphase, hrecord, htaken])
          obtain ⟨hid, hprocessing⟩ : r.id = recordId ∧ r.status = .processing := by
            simp only [IdempotencyRecord.isTaken, Bool.and_eq_true, decide_eq_true_eq] at htaken
            exact htaken.1
          have hlog : s.stored = [] := by
            refine h.stored_eq_nil fun r' hr' => ?_
            rw [hrecord] at hr'
            rw [← Option.some.inj hr']
            exact hprocessing
          have hsettled : s.isSettled recordId = true := by
            simpa [isUndisturbed, hq, hphase, hrecord, htaken] using hok
          have htaking := h.taking q now recordId (List.mem_of_getElem? hq) hphase
          refine h.started hadvances.moved ?_ ?_ rfl
            ⟨_, hadvances.record, hid, hprocessing, htaking.2 r hrecord hid⟩ ?_ ?_ ?_
          · rw [hadvances.nextId]
            exact Nat.le_succ s.nextId
          · intro r' hr'
            rw [hadvances.record] at hr'
            rw [← Option.some.inj hr', hadvances.nextId]
            exact Nat.lt_succ_of_lt (h.ids r hrecord)
          · intro j q' hq'
            cases howns : q'.phase.owns with
            | none => rfl
            | some id =>
                -- the run that is left would have this record to settle
                obtain ⟨r', hr', hid', -⟩ := h.owner j q' id hq' howns
                rw [hrecord] at hr'
                rw [← Option.some.inj hr', hid] at hid'
                have hall := List.all_eq_true.1 hsettled q' (List.mem_of_getElem? hq')
                rw [howns, ← hid'] at hall
                simp at hall
          · intro q' now' id hq' hphase' r' hr' hid'
            rw [hadvances.record] at hr'
            rw [← Option.some.inj hr'] at hid' ⊢
            exact (h.taking q' now' id hq' hphase').2 r hrecord hid'
          · rw [hadvances.stored, hnothing, hlog, List.append_nil]

theorem advance (h : Inv sha256 s) (hok : s.isUndisturbed sha256 (.advance k) = true) :
    Inv sha256 (s.advance sha256 ttlMs k) := by
  cases hq : s.requests[k]? with
  | none =>
      unfold IdempotencyServer.advance
      rw [hq]
      exact h
  | some q =>
      cases hphase : q.phase with
      | creating now => exact h.advance_creating hq hphase
      | reading now => exact h.advance_reading hq hphase
      | takingOver now recordId => exact h.advance_takingOver hq hphase hok
      | running recordId since =>
          have hadvances : Advances s (s.advance sha256 ttlMs k) k q s.record
              (.running recordId since) :=
            advances_of_statement hq (by simp only [statement, hphase])
          refine h.advanced hadvances rfl (by rw [newlyStored, hphase]) (Or.inr ?_) nofun nofun
            fun run hlater => ?_
          · rw [hphase]
          · have htold := h.later run k q hlater
            rwa [hphase] at htold
      | storing recordId answer =>
          have hadvances : Advances s (s.advance sha256 ttlMs k) k q
              (persist recordId answer s.record) (.answered answer.response) :=
            advances_of_statement hq (by simp only [statement, hphase])
          refine h.settled hphase hadvances.moved ?_ hadvances.record hadvances.stored
          rw [hadvances.nextId]
          exact Nat.le_succ s.nextId
      | answered response =>
          have hadvances : Advances s (s.advance sha256 ttlMs k) k q s.record
              (.answered response) :=
            advances_of_statement hq (by simp only [statement, hphase])
          refine h.advanced hadvances rfl (by rw [newlyStored, hphase]) (Or.inl rfl) nofun nofun
            fun run hlater => ?_
          have htold := h.later run k q hlater
          rwa [hphase] at htold

/-! ## The other steps -/

theorem answer (h : Inv sha256 s) (answer : HandlerAnswer) (hreplayable : isReplayable answer = true) :
    Inv sha256 (s.answer k answer) := by
  unfold IdempotencyServer.answer
  cases hq : s.requests[k]? with
  | none => exact h
  | some q =>
      cases hphase : q.phase with
      | running recordId since =>
          have hmoved : Moved s
              { s with requests := s.requests.set k { q with phase := .storing recordId answer } } k q
              (.storing recordId answer) :=
            ⟨hq, rfl⟩
          simp only [hphase]
          refine h.rephased hmoved (Nat.le_refl _) rfl rfl (Or.inr ?_) nofun ?_ fun run hlater => ?_
          · rw [hphase]
            rfl
          · intro id answer' hstoring
            obtain ⟨-, rfl⟩ := KeyedPhase.storing.inj hstoring
            exact hreplayable
          · have htold := h.later run k q hlater
            rw [hphase] at htold
            exact htold.elim
      | creating now => simpa only [hphase] using h
      | reading now => simpa only [hphase] using h
      | takingOver now id => simpa only [hphase] using h
      | storing id answer => simpa only [hphase] using h
      | answered response => simpa only [hphase] using h

theorem tick (h : Inv sha256 s) (duration : Nat) :
    Inv sha256 { s with now := s.now + duration } :=
  ⟨h.owner, h.single, h.ids, h.taking, h.replayable, h.finite, h.distinct,
    fun run hrun =>
      let hkeeps := h.stored run hrun
      ⟨hkeeps.record, hkeeps.before, hkeeps.request⟩,
    fun run k q hlater => h.later run k q hlater⟩

theorem arrive (h : Inv sha256 s) {http : HttpRequest}
    (hok : s.isUndisturbed sha256 (.arrive http) = true) :
    Inv sha256
      { s with
        requests := s.requests ++
          [{ http := http
             phase := .creating s.now }] } := by
  simp only [isUndisturbed, Bool.and_eq_true, List.all_eq_true, Bool.or_eq_true,
    decide_eq_true_eq] at hok
  obtain ⟨hfinite, hhash⟩ := hok
  have hsame : forall q, q ∈ s.requests ->
      requestFingerprint sha256 q.http = requestFingerprint sha256 http -> q.http.Same http := by
    intro q hq hequal
    rcases hhash q hq with hdifferent | htext
    · exact absurd hequal hdifferent
    · exact same_of_fingerprintText (h.finite q hq) hfinite htext
  have hcases : forall (j : Nat) (q : KeyedRequest),
      (s.requests ++ [{ http := http
                        phase := .creating s.now }])[j]? = some q ->
      s.requests[j]? = some q ∨ q.http = http ∧ q.phase = .creating s.now := by
    intro j q hq
    rw [List.getElem?_append] at hq
    split at hq
    · exact Or.inl hq
    · have hmem := List.mem_of_getElem? hq
      rw [List.mem_singleton.1 hmem]
      exact Or.inr ⟨rfl, rfl⟩
  have hmem : forall q, q ∈ s.requests ++ [{ http := http
                                             phase := .creating s.now }] ->
      q ∈ s.requests ∨ q.http = http ∧ q.phase = .creating s.now := by
    intro q hq
    rcases List.mem_append.1 hq with hq | hq
    · exact Or.inl hq
    · rw [List.mem_singleton.1 hq]
      exact Or.inr ⟨rfl, rfl⟩
  refine ⟨?_, ?_, h.ids, ?_, ?_, ?_, ?_, ?_, ?_⟩
  · intro j q recordId hq howns
    rcases hcases j q hq with hq | ⟨-, hphase⟩
    · exact h.owner j q recordId hq howns
    · rw [hphase] at howns
      cases howns
  · intro i j q q' hq hq' howns howns'
    rcases hcases i q hq with hq | ⟨-, hphase⟩
    · rcases hcases j q' hq' with hq' | ⟨-, hphase'⟩
      · exact h.single i j q q' hq hq' howns howns'
      · rw [hphase'] at howns'
        exact absurd rfl howns'
    · rw [hphase] at howns
      exact absurd rfl howns
  · intro q now recordId hq htaking
    rcases hmem q hq with hq | ⟨-, hphase⟩
    · exact h.taking q now recordId hq htaking
    · rw [hphase] at htaking
      cases htaking
  · intro q recordId answer hq hstoring
    rcases hmem q hq with hq | ⟨-, hphase⟩
    · exact h.replayable q recordId answer hq hstoring
    · rw [hphase] at hstoring
      cases hstoring
  · intro q hq
    rcases hmem q hq with hq | ⟨hhttp, -⟩
    · exact h.finite q hq
    · rw [hhttp]
      exact hfinite
  · intro q q' hq hq' hequal
    rcases hmem q hq with hq | ⟨hhttp, -⟩
    · rcases hmem q' hq' with hq' | ⟨hhttp', -⟩
      · exact h.distinct q q' hq hq' hequal
      · rw [hhttp'] at hequal ⊢
        exact hsame q hq hequal
    · rw [hhttp] at hequal ⊢
      rcases hmem q' hq' with hq' | ⟨hhttp', -⟩
      · exact (hsame q' hq' hequal.symm).symm
      · rw [hhttp']
        exact HttpRequest.Same.refl http
  · intro run hrun
    obtain ⟨hrecord, hbefore, q, hq, hhttp⟩ := h.stored run hrun
    refine ⟨hrecord, ?_, q, List.mem_append_left _ hq, hhttp⟩
    rw [List.length_append]
    exact Nat.le_add_right_of_le hbefore
  · rintro run j q ⟨hrun, hbefore, hq⟩
    rcases hcases j q hq with hq | ⟨-, hphase⟩
    · exact h.later run j q ⟨hrun, hbefore, hq⟩
    · rw [hphase]
      trivial

theorem step (h : Inv sha256 s) (a : IdempotencyStep) (hok : s.isUndisturbed sha256 a = true) :
    Inv sha256 (s.step sha256 ttlMs a) := by
  cases a with
  | arrive http => exact h.arrive hok
  | advance k => exact h.advance hok
  | answer k a => exact h.answer a hok
  | tick duration => exact h.tick duration

end Inv

end IdempotencyServer

end MarketBridge
