import MarketBridge.Inspection.ArrivalRuns

/-!
# The handshake code under overlapping check-ins

A call of `checkIn` reads the request first.  It then locks the order, if there is one,
judges its code against what it has read, and writes at its end.  Other calls go on in
between.  No call waits for a lock here, so the runs of the code are among these.
-/

namespace MarketBridge

open Relational

/-! ## Calls -/

/-- A call of `checkIn`: the clock, the user and what he sends. -/
structure CheckInCall where
  now : Nat
  userId : Id
  body : CheckIn
deriving DecidableEq, Repr

/-- What `checkIn` returns. -/
inductive CheckInResult where
  | wrongCode (attemptsLeft : Nat)
  | checkedIn (confirmed : Bool)
deriving DecidableEq, Repr

/-- How far a call has come. -/
inductive CheckInPhase where
  | called
  /-- `loadRequest` has read the request, with the salt of a generation. -/
  | loaded (found : ArrivalSession) (generation : Nat) (request : InspectionRequest)
  /-- The order is locked, and the code is compared. -/
  | judged (verdict : ArrivalSession.CodeVerdict) (found : ArrivalSession)
      (request : InspectionRequest)
  | ended (result : Except ApiError CheckInResult)

/-- A wrong code has been compared, and the failed attempt is not recorded yet. -/
def CheckInPhase.isFailing : CheckInPhase -> Bool
  | .judged .wrong _ _ => true
  | _ => false

def ArrivalSession.countFailedAttempt (env : Env) (s : ArrivalSession) : ArrivalSession :=
  if s.arrivalCodeFailedAttempts < env.arrivalCodeMaxAttempts then
    { s with arrivalCodeFailedAttempts := s.arrivalCodeFailedAttempts + 1 }
  else
    s

namespace CheckInCall

def envOf (env : Env) (c : CheckInCall) : Env :=
  { env with now := c.now }

def judge (codeOf : ArrivalCode) (env : Env) (c : CheckInCall) (request : InspectionRequest)
    (found locked : ArrivalSession) : Except ApiError ArrivalSession.CodeVerdict := do
  let read := { found with db := locked.db }
  read.assertMayCheckIn (c.envOf env) c.userId request
  found.judgeCode codeOf (c.envOf env) c.userId c.body.code

/-- The writes of the call, which become visible together. -/
def finish (env : Env) (c : CheckInCall) (request : InspectionRequest)
    (verdict : ArrivalSession.CodeVerdict) (s : ArrivalSession) : ArrivalSession :=
  match verdict with
  | .wrong => s.countFailedAttempt env
  | .verified =>
      let s := s.writeCheckIn (c.envOf env) c.userId true
      (s.applyArrivalConfirmed (c.envOf env) request).getD s
  | .none =>
      (s.writeCheckIn (c.envOf env) c.userId false).recordEvent (c.envOf env) request.orderId
        .inspectionArrivalCheckedIn

/-- The answer of a call that has found `found`. -/
def result (env : Env) (found : ArrivalSession) : ArrivalSession.CodeVerdict -> CheckInResult
  | .wrong =>
      .wrongCode (env.arrivalCodeMaxAttempts - (found.arrivalCodeFailedAttempts + 1))
  | .verified => .checkedIn true
  | .none => .checkedIn false

end CheckInCall

/-! ## Servers -/

/-- The session of a request, with the calls on it and what has been done with its codes. -/
structure HandshakeServer where
  session : ArrivalSession
  /-- How often the salt has been replaced. -/
  generation : Nat := 0
  /-- The generations of the salts that wrong codes have been compared with. -/
  wrongCodes : List Nat := []
  calls : List (CheckInCall × CheckInPhase) := []

inductive HandshakeStep where
  | call (c : CheckInCall)
  | advance (k : Nat)
  /-- The other operations on the request; `salt` is what they replace the salt with. -/
  | elsewhere (other : ArrivalSession) (salt : Option (Option String))

namespace HandshakeServer

def setPhase (s : HandshakeServer) (k : Nat) (c : CheckInCall) (phase : CheckInPhase) :
    HandshakeServer :=
  { s with calls := s.calls.set k (c, phase) }

/-- Call `k` issues its next statement. -/
def advance (codeOf : ArrivalCode) (env : Env) (s : HandshakeServer) (k : Nat) : HandshakeServer :=
  match s.calls[k]? with
  | none => s
  | some (c, phase) =>
      match phase with
      | .called =>
          match c.body.validate with
          | .error e => s.setPhase k c (.ended (.error e))
          | .ok _ =>
              match s.session.request with
              | none =>
                  s.setPhase k c (.ended (.error (httpError 404 "Inspection request not found")))
              | some request => s.setPhase k c (.loaded s.session s.generation request)
      | .loaded found generation request =>
          match c.judge codeOf env request found s.session with
          | .error e => s.setPhase k c (.ended (.error e))
          | .ok verdict =>
              { s with
                wrongCodes :=
                  if verdict = ArrivalSession.CodeVerdict.wrong then generation :: s.wrongCodes
                  else s.wrongCodes }.setPhase k c (.judged verdict found request)
      | .judged verdict found request =>
          { s with session := c.finish env request verdict s.session }.setPhase k c
            (.ended (.ok (CheckInCall.result env found verdict)))
      | .ended _ => s

/-- The salt and the counter are replaced together, or not at all. -/
def replace (s : HandshakeServer) (other : ArrivalSession) (salt : Option (Option String)) :
    HandshakeServer :=
  match salt with
  | none =>
      { s with
        session := { other with
          arrivalCodeSalt := s.session.arrivalCodeSalt
          arrivalCodeFailedAttempts := s.session.arrivalCodeFailedAttempts } }
  | some salt =>
      { s with
        session := { other with
          arrivalCodeSalt := salt
          arrivalCodeFailedAttempts := 0 }
        generation := s.generation + 1 }

def step (codeOf : ArrivalCode) (env : Env) (s : HandshakeServer) :
    HandshakeStep -> HandshakeServer
  | .call c => { s with calls := s.calls ++ [(c, .called)] }
  | .advance k => s.advance codeOf env k
  | .elsewhere other salt => s.replace other salt

/-- What the step returns to the caller of `checkIn`. -/
def answer (env : Env) (s : HandshakeServer) : HandshakeStep -> Option CheckInResult
  | .advance k =>
      match s.calls[k]? with
      | some (_, .judged verdict found _) => some (CheckInCall.result env found verdict)
      | _ => none
  | _ => none

/-! ## Statements -/

/-- The code cannot be guessed beyond the limit. -/
structure GuardsCode (codeOf : ArrivalCode) (env : Env) (s : HandshakeServer)
    (a : HandshakeStep) : Prop where
  /-- No salt is compared with more wrong codes than the limit allows. -/
  bounded : forall generation,
    (s.step codeOf env a).wrongCodes.count generation ≤ env.arrivalCodeMaxAttempts
  /-- A wrong code leaves its failed attempt, and nothing else. -/
  recorded : forall attemptsLeft, s.answer env a = some (.wrongCode attemptsLeft) ->
    (s.step codeOf env a).session = { s.session with
      arrivalCodeFailedAttempts := s.session.arrivalCodeFailedAttempts + 1 }
  /-- After the limit no code confirms the arrival. -/
  closed : s.answer env a = some (.checkedIn true) ->
    s.wrongCodes.count s.generation < env.arrivalCodeMaxAttempts ∧
      s.session.arrivalCodeFailedAttempts < env.arrivalCodeMaxAttempts

def failing (s : HandshakeServer) : Nat :=
  s.calls.countP (·.2.isFailing)

def isUnlocked (env : Env) (s : HandshakeServer) : Bool :=
  s.session.arrivalCodeFailedAttempts + s.failing < env.arrivalCodeMaxAttempts

/--
A wrong code meets the salt that is still there, and neither it nor a code that confirms
has been overtaken by the limit since the request was read.
-/
def seesLimit (codeOf : ArrivalCode) (env : Env) (s : HandshakeServer) :
    HandshakeStep -> Bool
  | .advance k =>
      match s.calls[k]? with
      | some (c, .loaded found generation request) =>
          match c.judge codeOf env request found s.session with
          | .ok .wrong => generation = s.generation && s.isUnlocked env
          | _ => true
      | some (_, .judged .verified _ _) => s.isUnlocked env
      | _ => true
  | _ => true

/-- Nobody is checking in, and the counter is within the limit. -/
structure IsIdle (env : Env) (s : HandshakeServer) : Prop where
  calls : s.calls = []
  wrongCodes : s.wrongCodes = []
  attempts : s.session.arrivalCodeFailedAttempts ≤ env.arrivalCodeMaxAttempts

end HandshakeServer

/-! ## Writes -/

namespace ArrivalSession

/-- The salt and its counter stay. -/
structure KeepsCode (s s' : ArrivalSession) : Prop where
  salt : s'.arrivalCodeSalt = s.arrivalCodeSalt
  attempts : s'.arrivalCodeFailedAttempts = s.arrivalCodeFailedAttempts

variable {env : Env} {s s' : ArrivalSession}

theorem syncAndRecord_keepsCode (s : ArrivalSession) (env : Env) (orderId : Option Id)
    (type : OrderEventType) :
    KeepsCode s (s.syncAndRecord env orderId type) := by
  cases orderId with
  | none => exact ⟨rfl, rfl⟩
  | some orderId => exact ⟨rfl, rfl⟩

theorem applyArrivalConfirmed_keepsCode {request : InspectionRequest}
    (h : s.applyArrivalConfirmed env request = some s') :
    KeepsCode s s' := by
  unfold applyArrivalConfirmed at h
  split at h
  · obtain rfl := Option.some.inj h
    obtain ⟨hsalt, hattempts⟩ := syncAndRecord_keepsCode (s.setRequest (·.onSite env)) env
      request.orderId .inspectionInspectorArrived
    exact ⟨hsalt, hattempts⟩
  · cases h

theorem getD_applyArrivalConfirmed_keepsCode (env : Env) (request : InspectionRequest)
    (s : ArrivalSession) :
    KeepsCode s ((s.applyArrivalConfirmed env request).getD s) := by
  cases h : s.applyArrivalConfirmed env request with
  | none => exact ⟨rfl, rfl⟩
  | some s' => exact applyArrivalConfirmed_keepsCode h

end ArrivalSession

namespace HandshakeServer

/-! ## Steps of a call -/

variable {codeOf : ArrivalCode} {env : Env} {s : HandshakeServer} {k : Nat}

/-- Everything that a step of call `k` does. -/
inductive AdvanceOf (codeOf : ArrivalCode) (env : Env) (s : HandshakeServer) (k : Nat) :
    HandshakeServer -> Prop where
  | idle (h : s.answer env (.advance k) = none) : AdvanceOf codeOf env s k s
  | moved (c : CheckInCall) (phase phase' : CheckInPhase) (h : s.calls[k]? = some (c, phase))
      (hanswer : s.answer env (.advance k) = none) (hbefore : phase.isFailing = false)
      (hafter : phase'.isFailing = false) : AdvanceOf codeOf env s k (s.setPhase k c phase')
  | compared (c : CheckInCall) (found : ArrivalSession) (generation : Nat)
      (request : InspectionRequest) (h : s.calls[k]? = some (c, .loaded found generation request))
      (hjudge : c.judge codeOf env request found s.session = .ok .wrong) :
      AdvanceOf codeOf env s k
        ({ s with wrongCodes := generation :: s.wrongCodes }.setPhase k c
          (.judged .wrong found request))
  | finished (c : CheckInCall) (verdict : ArrivalSession.CodeVerdict) (found : ArrivalSession)
      (request : InspectionRequest) (h : s.calls[k]? = some (c, .judged verdict found request)) :
      AdvanceOf codeOf env s k
        ({ s with session := c.finish env request verdict s.session }.setPhase k c
          (.ended (.ok (CheckInCall.result env found verdict))))

theorem advance_of (codeOf : ArrivalCode) (env : Env) (s : HandshakeServer) (k : Nat) :
    AdvanceOf codeOf env s k (s.advance codeOf env k) := by
  unfold advance
  cases hk : s.calls[k]? with
  | none =>
      exact .idle (by simp [answer, hk])
  | some e =>
      obtain ⟨c, phase⟩ := e
      cases phase with
      | called =>
          have hanswer : s.answer env (.advance k) = none := by simp [answer, hk]
          dsimp only
          split
          · exact .moved c _ _ hk hanswer rfl rfl
          · split
            · exact .moved c _ _ hk hanswer rfl rfl
            · exact .moved c _ _ hk hanswer rfl rfl
      | loaded found generation request =>
          have hanswer : s.answer env (.advance k) = none := by simp [answer, hk]
          dsimp only
          cases hjudge : c.judge codeOf env request found s.session with
          | error e =>
              exact .moved c _ _ hk hanswer rfl rfl
          | ok verdict =>
              cases verdict with
              | none => exact .moved c _ _ hk hanswer rfl rfl
              | verified => exact .moved c _ _ hk hanswer rfl rfl
              | wrong => exact .compared c found generation request hk hjudge
      | judged verdict found request =>
          exact .finished c verdict found request hk
      | ended result =>
          exact .idle (by simp [answer, hk])

variable {c : CheckInCall} {a : HandshakeStep}

theorem failing_setPhase {phase : CheckInPhase} (h : s.calls[k]? = some (c, phase))
    (phase' : CheckInPhase) :
    (s.setPhase k c phase').failing + phase.isFailing.toNat =
      s.failing + phase'.isFailing.toNat := by
  obtain ⟨hlt, hget⟩ := List.getElem?_eq_some_iff.1 h
  have hpos : phase.isFailing = true -> 0 < s.failing := by
    intro hfailing
    exact List.countP_pos_iff.2 ⟨(c, phase), List.mem_of_getElem? h, hfailing⟩
  unfold failing setPhase at *
  rw [List.countP_set hlt, hget]
  dsimp only
  cases hbefore : phase.isFailing <;> cases hafter : phase'.isFailing <;> simp_all

theorem countFailedAttempt_of_lt {s : ArrivalSession}
    (h : s.arrivalCodeFailedAttempts < env.arrivalCodeMaxAttempts) :
    s.countFailedAttempt env =
      { s with arrivalCodeFailedAttempts := s.arrivalCodeFailedAttempts + 1 } := by
  unfold ArrivalSession.countFailedAttempt
  rw [if_pos h]

/-! ## The limit -/

theorem finish_attempts {request : InspectionRequest} {verdict : ArrivalSession.CodeVerdict}
    (h : verdict ≠ .wrong) (s : ArrivalSession) :
    (c.finish env request verdict s).arrivalCodeFailedAttempts = s.arrivalCodeFailedAttempts := by
  cases verdict with
  | none => rfl
  | verified =>
      exact (ArrivalSession.getD_applyArrivalConfirmed_keepsCode _ _ _).attempts
  | wrong => exact absurd rfl h

/-- The wrong codes of a salt are counted, or still to be counted, up to the limit. -/
structure Inv (env : Env) (s : HandshakeServer) : Prop where
  attempts : s.session.arrivalCodeFailedAttempts + s.failing ≤ env.arrivalCodeMaxAttempts
  counted : s.wrongCodes.count s.generation ≤ s.session.arrivalCodeFailedAttempts + s.failing
  bounded : forall generation,
    s.wrongCodes.count generation ≤ env.arrivalCodeMaxAttempts
  past : forall generation, generation ∈ s.wrongCodes -> generation ≤ s.generation

theorem Inv.of_idle (h : s.IsIdle env) : s.Inv env := by
  obtain ⟨hcalls, hwrong, hattempts⟩ := h
  have hfailing : s.failing = 0 := by
    unfold failing
    rw [hcalls]
    rfl
  refine ⟨by omega, ?_, ?_, ?_⟩
  · rw [hwrong]
    exact Nat.zero_le _
  · intro generation
    rw [hwrong]
    exact Nat.zero_le _
  · intro generation hmem
    rw [hwrong] at hmem
    cases hmem

theorem Inv.same (h : s.Inv env) {s' : HandshakeServer}
    (hattempts : s'.session.arrivalCodeFailedAttempts = s.session.arrivalCodeFailedAttempts)
    (hgeneration : s'.generation = s.generation) (hwrong : s'.wrongCodes = s.wrongCodes)
    (hfailing : s'.failing = s.failing) :
    s'.Inv env := by
  obtain ⟨hopen, hcounted, hbounded, hpast⟩ := h
  refine ⟨?_, ?_, ?_, ?_⟩
  · rw [hattempts, hfailing]
    exact hopen
  · rw [hattempts, hfailing, hgeneration, hwrong]
    exact hcounted
  · rw [hwrong]
    exact hbounded
  · rw [hwrong, hgeneration]
    exact hpast

theorem Inv.call (h : s.Inv env) (c : CheckInCall) :
    (s.step codeOf env (.call c)).Inv env := by
  refine h.same rfl rfl rfl ?_
  unfold failing step
  rw [List.countP_append]
  rfl

theorem Inv.replace (h : s.Inv env) (other : ArrivalSession) (salt : Option (Option String)) :
    (s.replace other salt).Inv env := by
  cases salt with
  | none =>
      exact h.same rfl rfl rfl rfl
  | some salt =>
      have hnew : s.wrongCodes.count (s.generation + 1) = 0 := by
        apply List.count_eq_zero_of_not_mem
        intro hmem
        have hle := h.past _ hmem
        omega
      have hfailing : (s.replace other (some salt)).failing = s.failing := rfl
      refine ⟨?_, ?_, h.bounded, ?_⟩
      · change 0 + s.failing ≤ _
        have hopen := h.attempts
        omega
      · change s.wrongCodes.count (s.generation + 1) ≤ 0 + s.failing
        omega
      · intro generation hmem
        exact Nat.le_succ_of_le (h.past generation hmem)

theorem Inv.advance (h : s.Inv env) (hsees : s.seesLimit codeOf env (.advance k) = true)
    {s' : HandshakeServer} (hstep : AdvanceOf codeOf env s k s') :
    s'.Inv env := by
  cases hstep with
  | idle hanswer =>
      exact h
  | moved c phase phase' hk hanswer hbefore hafter =>
      have hfailing := failing_setPhase hk phase'
      rw [hbefore, hafter] at hfailing
      exact h.same rfl rfl rfl hfailing
  | compared c found generation request hk hjudge =>
      have hfailing : (s.setPhase k c (.judged .wrong found request)).failing = s.failing + 1 :=
        failing_setPhase hk _
      simp only [seesLimit, hk, hjudge, isUnlocked, Bool.and_eq_true, decide_eq_true_eq] at hsees
      obtain ⟨rfl, hlimit⟩ := hsees
      have hcounted := h.counted
      refine ⟨?_, ?_, ?_, ?_⟩
      · change s.session.arrivalCodeFailedAttempts +
          (s.setPhase k c (.judged .wrong found request)).failing ≤ _
        rw [hfailing]
        exact hlimit
      · change (s.generation :: s.wrongCodes).count s.generation ≤
          s.session.arrivalCodeFailedAttempts +
            (s.setPhase k c (.judged .wrong found request)).failing
        rw [hfailing, List.count_cons_self]
        exact Nat.succ_le_succ hcounted
      · intro generation
        change (s.generation :: s.wrongCodes).count generation ≤ _
        by_cases hcurrent : generation = s.generation
        · rw [hcurrent, List.count_cons_self]
          omega
        · rw [List.count_cons_of_ne (Ne.symm hcurrent)]
          exact h.bounded generation
      · intro generation hmem
        rcases List.mem_cons.1 hmem with rfl | hold
        · exact Nat.le_refl _
        · exact h.past generation hold
  | finished c verdict found request hk =>
      have hfailing := failing_setPhase hk
        (.ended (.ok (CheckInCall.result env found verdict)))
      by_cases hverdict : verdict = .wrong
      · subst hverdict
        have hless : (s.setPhase k c (.ended (.ok (CheckInCall.result env found .wrong)))).failing +
            1 = s.failing := hfailing
        have hopen := h.attempts
        have hlimit : s.session.arrivalCodeFailedAttempts < env.arrivalCodeMaxAttempts := by
          omega
        have hattempts : (c.finish env request .wrong s.session).arrivalCodeFailedAttempts =
            s.session.arrivalCodeFailedAttempts + 1 := by
          change (s.session.countFailedAttempt env).arrivalCodeFailedAttempts = _
          rw [countFailedAttempt_of_lt hlimit]
        have htotal : (c.finish env request .wrong s.session).arrivalCodeFailedAttempts +
            (s.setPhase k c (.ended (.ok (CheckInCall.result env found .wrong)))).failing =
              s.session.arrivalCodeFailedAttempts + s.failing := by
          omega
        exact ⟨htotal.trans_le hopen, h.counted.trans_eq htotal.symm, h.bounded, h.past⟩
      · have hbefore : (CheckInPhase.judged verdict found request).isFailing = false := by
          cases verdict with
          | wrong => exact absurd rfl hverdict
          | none => rfl
          | verified => rfl
        rw [hbefore] at hfailing
        exact h.same (finish_attempts hverdict s.session) rfl rfl hfailing

theorem Inv.step (h : s.Inv env) (hsees : s.seesLimit codeOf env a = true) :
    (s.step codeOf env a).Inv env := by
  cases a with
  | call c => exact h.call c
  | advance k => exact h.advance hsees (advance_of codeOf env s k)
  | elsewhere other salt => exact h.replace other salt

theorem answer_eq_some {result : CheckInResult} (h : s.answer env a = some result) :
    exists k c verdict found request, a = .advance k ∧
      s.calls[k]? = some (c, .judged verdict found request) ∧
      CheckInCall.result env found verdict = result := by
  cases a with
  | call c => cases h
  | elsewhere other salt => cases h
  | advance k =>
      unfold answer at h
      dsimp only at h
      split at h
      · rename_i c verdict found request hk
        exact ⟨k, c, verdict, found, request, rfl, hk, Option.some.inj h⟩
      · cases h

theorem step_judged {verdict : ArrivalSession.CodeVerdict} {found : ArrivalSession}
    {request : InspectionRequest} (hk : s.calls[k]? = some (c, .judged verdict found request)) :
    (s.step codeOf env (.advance k)).session = c.finish env request verdict s.session := by
  unfold step advance
  dsimp only
  rw [hk]
  rfl

theorem Inv.guardsCode (h : s.Inv env) (hsees : s.seesLimit codeOf env a = true) :
    s.GuardsCode codeOf env a := by
  refine ⟨(h.step hsees).bounded, ?_, ?_⟩
  · intro attemptsLeft hanswer
    obtain ⟨k, c, verdict, found, request, rfl, hk, hresult⟩ := answer_eq_some hanswer
    cases verdict with
    | none => cases hresult
    | verified => cases hresult
    | wrong =>
        have hpos : 0 < s.failing :=
          List.countP_pos_iff.2 ⟨(c, .judged .wrong found request), List.mem_of_getElem? hk, rfl⟩
        have hopen := h.attempts
        rw [step_judged hk]
        exact countFailedAttempt_of_lt (by omega)
  · intro hanswer
    obtain ⟨k, c, verdict, found, request, rfl, hk, hresult⟩ := answer_eq_some hanswer
    cases verdict with
    | none => cases hresult
    | wrong => cases hresult
    | verified =>
        simp only [seesLimit, hk, isUnlocked, decide_eq_true_eq] at hsees
        have hcounted := h.counted
        omega

/-- The seller has confirmed the inspector and has a code for him. -/
def confirmedSession : ArrivalSession :=
  { ArrivalSession.requestedSession with
    db :=
      { ArrivalSession.requestedSession.db with
        inspectionRequests := Table.empty.create
          { orderId := some 0
            status := .accepted
            inspectorId := some 5
            fee := some 10
            sellerConfirmedAt := some 2 } }
    arrivalCodeSalt := some "salt" }

def guess (code : String) : CheckInCall :=
  { now := 3
    userId := 5
    body := { code := some code } }

def overlapping (codes : List String) : List HandshakeStep :=
  codes.map (fun code => .call (guess code)) ++
    (List.range codes.length).map .advance ++
      (List.range codes.length).flatMap fun k => [.advance k, .advance k]

def inTurn (codes : List String) : List HandshakeStep :=
  codes.zipIdx.flatMap fun e => [.call (guess e.1), .advance e.2, .advance e.2, .advance e.2]

def wrongGuesses : List String :=
  ["0000", "0001", "0002", "0003", "0004"]

theorem confirmedSession_isIdle : IsIdle env0 { session := confirmedSession } :=
  ⟨rfl, rfl, Nat.zero_le _⟩

end HandshakeServer

end MarketBridge
