import MarketBridge.Auth.RefreshStages

/-!
# Concurrent rotations

Sign-ins, rotations and revocations in flight, statement by statement.  A revocation
that waits for a rotation does not see the session that the rotation creates; where no
revocation overlooks a session in this way, reuse of a token ends its family.
-/

namespace MarketBridge

open Relational

abbrev RefreshServer :=
  LockServer SessionRequest SessionKey (Except RotationRefusal Unit) RefreshSessions

inductive SessionStep where
  | request (r : SessionRequest)
  | advance (k : Nat)
  | rollback (k : Nat)

namespace RefreshServer

section

variable (hashRefreshToken : String -> String)

def step (s : RefreshServer) : SessionStep -> RefreshServer
  | .request r => s.submit r (r.txn hashRefreshToken)
  | .advance k => s.advance k
  | .rollback k => s.rollback k

end

/-- Nothing has been asked yet. -/
structure IsFresh (s : RefreshServer) : Prop where
  families : Families s.state
  txns : s.txns = []

/-- A statement of a rotation that writes has found every row that it selects by then. -/
def SeesFamily (s : RefreshServer) : SessionStep -> Prop
  | .advance k =>
      match s.txns[k]? with
      | some (.rotate _, a) => a.FindsAll (s.blocked k) s.state
      | _ => True
  | _ => True

instance (s : RefreshServer) (a : SessionStep) : Decidable (s.SeesFamily a) := by
  unfold SeesFamily
  split
  · split <;> infer_instance
  · infer_instance

/-- Rotation `k` has committed and answered. -/
def Answered (s : RefreshServer) (k : Nat) (c : RotateCall)
    (result : Except RotationRefusal Unit) : Prop :=
  s.txns[k]? = some (SessionRequest.rotate c, LockRun.committed result)

/-- The promise about refresh tokens. -/
structure Sound (s : RefreshServer) : Prop where
  /-- One session of a family is good for an exchange. -/
  one : forall now i j r q, s.state.findUnique i = some r -> s.state.findUnique j = some q ->
    r.familyId = q.familyId -> r.Usable now -> q.Usable now -> i = j
  /-- A refresh token is exchanged once. -/
  once : forall i j c d, Answered s i c (.ok ()) -> Answered s j d (.ok ()) ->
    c.refreshToken = d.refreshToken -> i = j
  /-- Reported reuse has ended the family. -/
  ended : forall k c e, Answered s k c (.error e) -> e ≠ .notFound ->
    forall now i j r q, s.state.findUnique i = some r -> r.id = c.session ->
      s.state.findUnique j = some q -> q.familyId = r.familyId -> ¬ q.Usable now

end RefreshServer


/-! ## Steps -/

namespace RefreshServer

variable {hashRefreshToken : String -> String} {sees : Prop} {s : RefreshServer}

/-- What holds along a run. -/
structure Inv (hashRefreshToken : String -> String) (sees : Prop) (s : RefreshServer) : Prop where
  families : Families s.state
  exclusive : LockServer.Exclusive s
  stages : forall (k : Nat) (req : SessionRequest) (a : RefreshRun), s.txns[k]? = some (req, a) ->
    Stage hashRefreshToken sees s.state req a
  once : forall i j c d, Answered s i c (.ok ()) -> Answered s j d (.ok ()) ->
    c.refreshToken = d.refreshToken -> i = j

theorem Inv.of_fresh (h : s.IsFresh) : Inv hashRefreshToken sees s where
  families := h.families
  exclusive := by
    intro i j e f he
    rw [h.txns] at he
    simp at he
  stages := by
    intro k req a hk
    rw [h.txns] at hk
    simp at hk
  once := by
    intro i j c d hi
    unfold Answered at hi
    rw [h.txns] at hi
    simp at hi

theorem Inv.submit (h : Inv hashRefreshToken sees s) (req : SessionRequest) :
    Inv hashRefreshToken sees (s.submit req (req.txn hashRefreshToken)) where
  families := h.families
  exclusive := h.exclusive.submit req _
  stages := by
    intro k req' a hk
    rcases LockServer.getElem?_submit hk with hk | heq
    · exact h.stages k req' a hk
    · obtain ⟨rfl, rfl⟩ := Prod.mk.inj heq
      exact Stage.start s.state req'
  once := by
    intro i j c d hi hj
    have hold : forall k c, Answered (s.submit req (req.txn hashRefreshToken)) k c (.ok ()) ->
        Answered s k c (.ok ()) := by
      intro k c hk
      rcases LockServer.getElem?_submit hk with hk | heq
      · exact hk
      · cases (Prod.mk.inj heq).2
    exact h.once i j c d (hold i c hi) (hold j d hj)

theorem Inv.rollback (h : Inv hashRefreshToken sees s) (k : Nat) :
    Inv hashRefreshToken sees (s.rollback k) where
  families := h.families
  exclusive := h.exclusive.rollback k
  stages := by
    intro i req a hi
    rcases LockServer.getElem?_rollback hi with hi | ⟨b, -, haborted⟩
    · exact h.stages i req a hi
    · obtain rfl : a = .aborted := haborted
      exact .aborted req
  once := by
    intro i j c d hi hj
    have hold : forall i c, Answered (s.rollback k) i c (.ok ()) -> Answered s i c (.ok ()) := by
      intro i c hi
      rcases LockServer.getElem?_rollback hi with hi | ⟨b, -, haborted⟩
      · exact hi
      · cases haborted
    exact h.once i j c d (hold i c hi) (hold j d hj)

theorem Inv.not_exchanged (h : Inv hashRefreshToken sees s) {k j : Nat} {c d : RotateCall}
    {own : RefreshSessions -> RefreshSessions} {held : List SessionKey}
    {found : Option (List SessionKey)}
    (hk : s.txns[k]? = some (.rotate c, .running own held found (.commit (.ok ()))))
    (hj : Answered s j d (.ok ())) :
    c.refreshToken ≠ d.refreshToken := by
  intro htoken
  obtain ⟨i, r, hr, hhash, hlive⟩ := (h.stages k _ _ hk).exchange
  obtain ⟨i', q, hq, hhash', hrotated⟩ := (h.stages j _ _ hj).exchanged
  have hi : i = i' := h.families.hashes i i' r q hr hq (by rw [hhash, hhash', htoken])
  subst hi
  obtain rfl := Option.some.inj (hr.symm.trans hq)
  rw [(RefreshSession.live_iff.1 hlive).1] at hrotated
  cases hrotated

theorem Inv.advance (h : Inv hashRefreshToken sees s) (k : Nat)
    (hsees : sees -> s.SeesFamily (.advance k)) :
    Inv hashRefreshToken sees (s.advance k) := by
  cases hk : s.txns[k]? with
  | none =>
      have hsame : s.advance k = s := by
        unfold LockServer.advance
        rw [hk]
      rw [hsame]
      exact h
  | some e =>
      obtain ⟨req, a⟩ := e
      have hstep : StageStep hashRefreshToken sees s.state req a.held
          (a.advance (s.blocked k) s.state) := by
        refine (h.stages k req a hk).advance h.families fun hs c hreq => ?_
        subst hreq
        have hfinds := hsees hs
        unfold SeesFamily at hfinds
        dsimp only at hfinds
        rw [hk] at hfinds
        exact hfinds
      have hstate : (s.advance k).state = (a.advance (s.blocked k) s.state).1 := by
        unfold LockServer.advance
        rw [hk]
      -- The transactions that have just answered, and those that had answered before.
      have hanswer : forall i c, Answered (s.advance k) i c (.ok ()) ->
          Answered s i c (.ok ()) ∨ i = k ∧ exists own held found,
            s.txns[k]? = some (.rotate c, .running own held found (.commit (.ok ()))) := by
        intro i c hi
        rcases LockServer.getElem?_advance hi with ⟨-, hold⟩ | ⟨rfl, b, hb, hcommitted⟩
        · exact Or.inl hold
        · rcases LockRun.advance_eq_committed hcommitted.symm with rfl | ⟨own, held, found, rfl⟩
          · exact Or.inl hb
          · exact Or.inr ⟨rfl, own, held, found, hb⟩
      refine ⟨?_, h.exclusive.advance k, ?_, ?_⟩
      · rw [hstate]
        exact hstep.families
      · intro i req' b hi
        rw [hstate]
        rcases LockServer.getElem?_advance hi with ⟨hik, hold⟩ | ⟨rfl, a', ha', hb⟩
        · refine (h.stages i req' b hold).publish hstep.publishes fun x hx => ?_
          exact h.exclusive k i (req, a) (req', b) hk hold (fun heq => hik heq.symm) x hx
        · obtain ⟨rfl, rfl⟩ := Prod.mk.inj (Option.some.inj (hk.symm.trans ha'))
          obtain rfl : b = (a.advance (s.blocked i) s.state).2 := hb
          exact hstep.stage
      · intro i j c d hi hj htoken
        rcases hanswer i c hi with hi' | ⟨rfl, own, held, found, hi'⟩
        · rcases hanswer j d hj with hj' | ⟨rfl, own, held, found, hj'⟩
          · exact h.once i j c d hi' hj' htoken
          · exact absurd htoken.symm (h.not_exchanged hj' hi')
        · rcases hanswer j d hj with hj' | ⟨rfl, own', held', found', hj'⟩
          · exact absurd htoken (h.not_exchanged hi' hj')
          · rfl

theorem Inv.step (h : Inv hashRefreshToken sees s) (a : SessionStep)
    (hsees : sees -> s.SeesFamily a) :
    Inv hashRefreshToken sees (s.step hashRefreshToken a) := by
  cases a with
  | request r => exact h.submit r
  | advance k => exact h.advance k hsees
  | rollback k => exact h.rollback k

theorem Inv.sound (h : Inv hashRefreshToken True s) : s.Sound where
  one := by
    intro now i j r q hr hq hfamily hlive hlive'
    exact h.families.one i j r q hr hq hfamily hlive.live hlive'.live
  once := h.once
  ended := by
    intro k c e hk he now i j r q hr hid hq hfamily husable
    have hstage := h.stages k _ _ hk
    cases hstage with
    | reported c e current hcurrent hknown hclosed =>
        obtain ⟨i', p, hp, hidentity⟩ := hknown
        have hi : i = i' := h.families.ids i i' r p hr hp
          (hid.trans (hcurrent.symm.trans (RefreshSession.id_of_identity hidentity).symm))
        subst hi
        obtain rfl := Option.some.inj (hr.symm.trans hp)
        have hin : inFamily current.familyId q = true := by
          unfold inFamily
          rw [hfamily, RefreshSession.family_of_identity hidentity, husable.2.1]
          simp
        cases hclosed trivial j q hq hin
    | missing c => exact he rfl
    | answered req result hreq => cases hreq

/-- Where every rotation sees its family, the promise about refresh tokens is kept. -/
theorem sound_of_run {as : List SessionStep} (hfresh : s.IsFresh)
    (hrun : RunMeets (step hashRefreshToken) SeesFamily s as) :
    RunMeets (step hashRefreshToken) (fun s a => (s.step hashRefreshToken a).Sound) s as :=
  hrun.imp_of_invariant (Inv hashRefreshToken True) (fun _ a h ha => h.step a fun _ => ha)
    (fun _ a h ha => (h.step a fun _ => ha).sound) (.of_fresh hfresh)

/-- Whatever is overlooked, a family has one session that is good for an exchange, and a
token is exchanged once. -/
theorem exchangedOnce_of_run {as : List SessionStep} (hfresh : s.IsFresh) :
    (forall now i j r q, (run (step hashRefreshToken) s as).state.findUnique i = some r ->
      (run (step hashRefreshToken) s as).state.findUnique j = some q ->
      r.familyId = q.familyId -> r.Usable now -> q.Usable now -> i = j) ∧
      forall i j c d, Answered (run (step hashRefreshToken) s as) i c (.ok ()) ->
        Answered (run (step hashRefreshToken) s as) j d (.ok ()) ->
        c.refreshToken = d.refreshToken -> i = j := by
  have hinv : Inv hashRefreshToken False (run (step hashRefreshToken) s as) :=
    run_preserves (fun _ a h => h.step a False.elim) (.of_fresh hfresh) as
  refine ⟨?_, hinv.once⟩
  intro now i j r q hr hq hfamily hlive hlive'
  exact hinv.families.one i j r q hr hq hfamily hlive.live hlive'.live

/-! ## A replay beside a rotation -/

/-- A rotation that has reported reuse, and a session of its family that is still usable. -/
def survives (s : RefreshServer) (k : Nat) (now : Nat) : Bool :=
  match s.txns[k]? with
  | some (.rotate c, .committed (.error e)) =>
      e ≠ .notFound && s.state.any fun _ r => r.id = c.session &&
        s.state.any fun _ q => q.familyId = r.familyId && decide (q.Usable now)
  | _ => false

theorem Sound.survives (h : s.Sound) (k now : Nat) : s.survives k now = false := by
  rw [Bool.eq_false_iff]
  intro hsurvives
  unfold RefreshServer.survives at hsurvives
  split at hsurvives
  · rename_i c e hk
    obtain ⟨he, hany⟩ := Bool.and_eq_true_iff.1 hsurvives
    obtain ⟨i, r, hr, hrest⟩ := Table.any_eq_true_iff.1 hany
    obtain ⟨hid, hany'⟩ := Bool.and_eq_true_iff.1 hrest
    obtain ⟨j, q, hq, hrest'⟩ := Table.any_eq_true_iff.1 hany'
    obtain ⟨hfamily, husable⟩ := Bool.and_eq_true_iff.1 hrest'
    exact h.ended k c e hk (of_decide_eq_true he) now i j r q hr (of_decide_eq_true hid) hq
      (of_decide_eq_true hfamily) (of_decide_eq_true husable)
  · cases hsurvives

def emptyServer : RefreshServer where
  state := Table.empty

theorem emptyServer_isFresh : emptyServer.IsFresh :=
  ⟨families_empty, rfl⟩

/-- Request `k` goes on `n` times. -/
def advances (k n : Nat) : List SessionStep :=
  List.replicate n (.advance k)

/-- A sign-in, and the rotation of its token. -/
def signedInAndRotated : List SessionStep :=
  [.request (.issue
    { userId := 7
      sessionId := 1
      refreshToken := "first"
      expiresAt := 100 })] ++ advances 0 3 ++
  [.request (.rotate
    { now := 1
      session := 1
      refreshToken := "first"
      nextRefreshToken := "second"
      nextExpiresAt := 100
      nextSessionId := 2 })] ++ advances 1 6

/-- The next rotation of the client, and a replay of the first token. -/
def rotatedAndReplayed : List SessionStep :=
  [.request (.rotate
    { now := 2
      session := 2
      refreshToken := "second"
      nextRefreshToken := "third"
      nextExpiresAt := 100
      nextSessionId := 3 }),
  .request (.rotate
    { now := 2
      session := 1
      refreshToken := "first"
      nextRefreshToken := "stolen"
      nextExpiresAt := 100
      nextSessionId := 4 })]

def replayedAfterwards : List SessionStep :=
  signedInAndRotated ++ rotatedAndReplayed ++ advances 2 6 ++ advances 3 4

theorem replayedAfterwards_sound :
    RunMeets (step id) (fun s a => (s.step id a).Sound) emptyServer replayedAfterwards :=
  sound_of_run emptyServer_isFresh (by decide +kernel)

/-- The replay waits for the row that the rotation has claimed, and misses the next one. -/
def replayedMeanwhile : List SessionStep :=
  signedInAndRotated ++ rotatedAndReplayed ++ advances 2 3 ++ advances 3 2 ++ advances 2 3 ++
    advances 3 1

/-- The replay is not exchanged for a session of its own. -/
theorem replayedMeanwhile_exchangedOnce :
    ¬ exists c d, Answered (run (step id) emptyServer replayedMeanwhile) 1 c (.ok ()) ∧
      Answered (run (step id) emptyServer replayedMeanwhile) 3 d (.ok ()) ∧
      c.refreshToken = d.refreshToken := by
  rintro ⟨c, d, hc, hd, htoken⟩
  cases (exchangedOnce_of_run emptyServer_isFresh).2 1 3 c d hc hd htoken

/-- The session that the rotation creates outlives the report of reuse. -/
theorem reuse_survived :
    emptyServer.IsFresh ∧
      ¬ RunMeets (step id) (fun s a => (s.step id a).Sound) emptyServer
        (replayedMeanwhile ++ [.advance 3]) := by
  refine ⟨emptyServer_isFresh, fun hrun => ?_⟩
  have hsound := (runMeets_append.1 hrun).2.1
  have hsurvives : survives (step id (run (step id) emptyServer replayedMeanwhile)
      (.advance 3)) 3 3 = true := by
    decide +kernel
  rw [hsound.survives] at hsurvives
  cases hsurvives

end RefreshServer

end MarketBridge
