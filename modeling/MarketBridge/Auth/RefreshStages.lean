import MarketBridge.Auth.RefreshFamilies

/-!
# Where a request on sessions stands

The points that a sign-in, a rotation or a revocation passes, statement by statement,
and what each of them relies on.  A step takes a request from one of them to the next,
and the steps of the others leave it where it is.
-/

namespace MarketBridge

open Relational

abbrev RefreshRun := LockRun SessionKey (Except RotationRefusal Unit) RefreshSessions

/-! ## Points -/

section

-- Whether the revocations of the rotations see their families.
variable (hashRefreshToken : String -> String) (sees : Prop)

def SignInCall.created (c : SignInCall) : RefreshSession :=
  { id := c.sessionId
    userId := c.userId
    familyId := c.sessionId
    tokenHash := hashRefreshToken c.refreshToken
    expiresAt := c.expiresAt
    userAgent := c.userAgent
    ipAddress := c.ipAddress }

def RefreshSession.keys (r : RefreshSession) : List SessionKey :=
  [.session r.id, .token r.tokenHash]

def SessionRequest.isOther : SessionRequest -> Bool
  | .rotate _ => false
  | _ => true

def Claimed (t : RefreshSessions) (current : RefreshSession) : Prop :=
  exists i r, t.findUnique i = some r ∧ r.identity = current.identity ∧ r.live = true

/-- The points that a request passes, with what it relies on there. -/
inductive Stage (t : RefreshSessions) : SessionRequest -> RefreshRun -> Prop where
  | reading (c : RotateCall) :
      Stage t (.rotate c) (.running id [] none (rotateRefreshSession hashRefreshToken c))
  | unknown (c : RotateCall) :
      Stage t (.rotate c) (.running id [] none (.commit (.error .notFound)))
  | refusing (c : RotateCall) (current : RefreshSession) (e : RotationRefusal)
      (found : Option (List SessionKey)) (hid : current.id = c.session) (he : e ≠ .notFound)
      (hknown : Knows t current) :
      Stage t (.rotate c) (.running id [] found (refuseReuse c.now current.familyId e))
  | refused (c : RotateCall) (current : RefreshSession) (e : RotationRefusal)
      (kept : List SessionKey) (hid : current.id = c.session) (he : e ≠ .notFound)
      (hknown : Knows t current) (hcovers : sees -> Covers t current.familyId kept) :
      Stage t (.rotate c)
        (.running (writeSessions (.revoke c.now "refresh-token-reuse") kept) kept none
          (.commit (.error e)))
  | claiming (c : RotateCall) (current : RefreshSession) (found : Option (List SessionKey))
      (hid : current.id = c.session) (hhash : current.tokenHash = hashRefreshToken c.refreshToken)
      (hknown : Knows t current)
      (hfound : forall x, found = some x -> x = [] ∨ x = [.session current.id]) :
      Stage t (.rotate c) (.running id [] found (claimAndCreate hashRefreshToken c current))
  | claimed (c : RotateCall) (current : RefreshSession) (found : Option (List SessionKey))
      (hhash : current.tokenHash = hashRefreshToken c.refreshToken) (hlive : Claimed t current)
      (hfound : forall x, found = some x -> x = (c.next hashRefreshToken current).keys) :
      Stage t (.rotate c)
        (.running (writeSessions (.claim c.now) [.session current.id]) [.session current.id] found
          (createSession (c.next hashRefreshToken current) (.commit (.ok ()))))
  | rotated (c : RotateCall) (current : RefreshSession)
      (hhash : current.tokenHash = hashRefreshToken c.refreshToken) (hlive : Claimed t current)
      (hfresh : Fresh t (c.next hashRefreshToken current)) :
      Stage t (.rotate c)
        (.running
          (fun t => (writeSessions (.claim c.now) [.session current.id] t).create
            (c.next hashRefreshToken current))
          (.session current.id :: (c.next hashRefreshToken current).keys) none
          (.commit (.ok ())))
  | signingIn (c : SignInCall) (found : Option (List SessionKey))
      (hfound : forall x, found = some x -> x = (c.created hashRefreshToken).keys) :
      Stage t (.issue c)
        (.running id [] found (createSession (c.created hashRefreshToken) (.commit (.ok ()))))
  | signedIn (c : SignInCall) (hfresh : Fresh t (c.created hashRefreshToken)) :
      Stage t (.issue c)
        (.running (fun t => t.create (c.created hashRefreshToken))
          (c.created hashRefreshToken).keys none (.commit (.ok ())))
  | revoking (req : SessionRequest) (p : RefreshSession -> Bool) (now : Nat) (reason : String)
      (found : Option (List SessionKey)) (hreq : req.isOther = true) :
      Stage t req
        (.running id [] found (updateSessions p (.revoke now reason) fun _ => .commit (.ok ())))
  | revoked (req : SessionRequest) (now : Nat) (reason : String) (kept : List SessionKey)
      (hreq : req.isOther = true) :
      Stage t req
        (.running (writeSessions (.revoke now reason) kept) kept none (.commit (.ok ())))
  | succeeded (c : RotateCall)
      (h : exists i r, t.findUnique i = some r ∧ r.tokenHash = hashRefreshToken c.refreshToken ∧
        r.rotatedAt.isSome = true) :
      Stage t (.rotate c) (.committed (.ok ()))
  | reported (c : RotateCall) (e : RotationRefusal) (current : RefreshSession)
      (hid : current.id = c.session) (hknown : Knows t current)
      (hclosed : sees -> Covers t current.familyId []) :
      Stage t (.rotate c) (.committed (.error e))
  | missing (c : RotateCall) : Stage t (.rotate c) (.committed (.error .notFound))
  | answered (req : SessionRequest) (result : Except RotationRefusal Unit)
      (hreq : req.isOther = true) :
      Stage t req (.committed result)
  | aborted (req : SessionRequest) : Stage t req .aborted

end

/-! ## Steps of the others -/

section

variable {hashRefreshToken : String -> String} {sees : Prop} {held : List SessionKey}
  {t t' : RefreshSessions} {current : RefreshSession}

theorem Knows.inFamily (h : Knows t current) :
    exists i q, t.findUnique i = some q ∧ q.familyId = current.familyId := by
  obtain ⟨i, q, hq, hidentity⟩ := h
  exact ⟨i, q, hq, RefreshSession.family_of_identity hidentity⟩

theorem Claimed.publish (h : Claimed t current) (hstep : Publishes held t t')
    (hfree : SessionKey.session current.id ∉ held) :
    Claimed t' current := by
  obtain ⟨i, r, hr, hidentity, hlive⟩ := h
  obtain ⟨r', hr', -, hheld | rfl⟩ := hstep.kept i r hr
  · rw [RefreshSession.id_of_identity hidentity] at hheld
    exact absurd hheld hfree
  · exact ⟨i, r', hr', hidentity, hlive⟩

theorem Stage.publish {req : SessionRequest} {a : RefreshRun}
    (h : Stage hashRefreshToken sees t req a) (hstep : Publishes held t t')
    (hdisjoint : forall x, x ∈ held -> x ∉ a.held) :
    Stage hashRefreshToken sees t' req a := by
  cases h with
  | reading c => exact .reading c
  | unknown c => exact .unknown c
  | refusing c current e found hid he hknown =>
      exact .refusing c current e found hid he (hknown.publish hstep)
  | refused c current e kept hid he hknown hcovers =>
      exact .refused c current e kept hid he (hknown.publish hstep)
        fun hsees => (hcovers hsees).publish hknown.inFamily hstep hdisjoint
  | claiming c current found hid hhash hknown hfound =>
      exact .claiming c current found hid hhash (hknown.publish hstep) hfound
  | claimed c current found hhash hlive hfound =>
      have hfree : SessionKey.session current.id ∉ held := fun hmem =>
        hdisjoint _ hmem (List.mem_singleton.2 rfl)
      exact .claimed c current found hhash (hlive.publish hstep hfree) hfound
  | rotated c current hhash hlive hfresh =>
      have hfree : SessionKey.session current.id ∉ held := fun hmem =>
        hdisjoint _ hmem List.mem_cons_self
      have hid : SessionKey.session (c.next hashRefreshToken current).id ∉ held := fun hmem =>
        hdisjoint _ hmem (List.mem_cons_of_mem _ List.mem_cons_self)
      have hkey : SessionKey.token (c.next hashRefreshToken current).tokenHash ∉ held :=
        fun hmem => hdisjoint _ hmem
          (List.mem_cons_of_mem _ (List.mem_cons_of_mem _ List.mem_cons_self))
      exact .rotated c current hhash (hlive.publish hstep hfree) (hfresh.publish hstep hid hkey)
  | signingIn c found hfound => exact .signingIn c found hfound
  | signedIn c hfresh =>
      have hid : SessionKey.session (c.created hashRefreshToken).id ∉ held := fun hmem =>
        hdisjoint _ hmem List.mem_cons_self
      have hkey : SessionKey.token (c.created hashRefreshToken).tokenHash ∉ held :=
        fun hmem => hdisjoint _ hmem (List.mem_cons_of_mem _ List.mem_cons_self)
      exact .signedIn c (hfresh.publish hstep hid hkey)
  | revoking req p now reason found hreq => exact .revoking req p now reason found hreq
  | revoked req now reason kept hreq => exact .revoked req now reason kept hreq
  | succeeded c hfound =>
      obtain ⟨i, r, hr, hhash, hrotated⟩ := hfound
      obtain ⟨r', hr', hevolves, -⟩ := hstep.kept i r hr
      exact .succeeded c ⟨i, r', hr',
        (RefreshSession.hash_of_identity hevolves.identity).trans hhash,
        hevolves.rotated hrotated⟩
  | reported c e current hid hknown hclosed =>
      exact .reported c e current hid (hknown.publish hstep)
        fun hsees => (hclosed hsees).publish hknown.inFamily hstep fun _ _ => List.not_mem_nil
  | missing c => exact .missing c
  | answered req result hreq => exact .answered req result hreq
  | aborted req => exact .aborted req

end

/-! ## Statements -/

section

variable {t : RefreshSessions} {current : RefreshSession}

theorem mem_sessionKeys {p : RefreshSession -> Bool} {x : SessionKey} :
    x ∈ sessionKeys p t ↔
      exists i r, t.findUnique i = some r ∧ p r = true ∧ x = .session r.id := by
  unfold sessionKeys
  rw [List.mem_map]
  constructor
  · rintro ⟨⟨i, r⟩, hmem, rfl⟩
    obtain ⟨hr, hp⟩ := Table.mem_findMany.1 hmem
    exact ⟨i, r, hr, hp, rfl⟩
  · rintro ⟨i, r, hr, hp, rfl⟩
    exact ⟨(i, r), Table.mem_findMany.2 ⟨hr, hp⟩, rfl⟩

theorem writeSessions_nil (f : RefreshSession -> RefreshSession) : writeSessions f [] = id := by
  funext t
  unfold writeSessions
  rw [id_eq, Table.updateMany_eq_self_iff]
  intro i r hr hmem
  simp at hmem

variable {r : RefreshSession}

theorem claimable_iff :
    claimable current r = true ↔
      r.id = current.id ∧ r.tokenHash = current.tokenHash ∧ r.live = true := by
  unfold claimable
  rw [RefreshSession.live_iff]
  simp only [Bool.and_eq_true, decide_eq_true_eq, Option.isNone_iff_eq_none]
  constructor
  · rintro ⟨⟨⟨hid, hhash⟩, hrevoked⟩, hrotated⟩
    exact ⟨hid, hhash, hrotated, hrevoked⟩
  · rintro ⟨hid, hhash, hrotated, hrevoked⟩
    exact ⟨⟨⟨hid, hhash⟩, hrevoked⟩, hrotated⟩

theorem Families.sessionKeys_claimable (h : Families t) (current : RefreshSession) :
    sessionKeys (claimable current) t = [] ∨
      sessionKeys (claimable current) t = [.session current.id] := by
  unfold sessionKeys
  cases hrows : t.findMany fun _ r => claimable current r with
  | nil => exact Or.inl rfl
  | cons e es =>
      obtain ⟨i, r⟩ := e
      have hmem : (i, r) ∈ t.findMany fun _ r => claimable current r := by
        rw [hrows]
        exact List.mem_cons_self
      obtain ⟨hr, hclaimable⟩ := Table.mem_findMany.1 hmem
      have hid := (claimable_iff.1 hclaimable).1
      have hsingle := h.ids.findMany_eq_singleton (p := fun _ r => claimable current r) hr
        hclaimable fun j q _ hq => (claimable_iff.1 hq).1.trans hid.symm
      rw [← hrows, hsingle]
      exact Or.inr (congrArg (fun x => [SessionKey.session x]) hid)

theorem Families.claimed (h : Families t) (hknown : Knows t current)
    (hmem : SessionKey.session current.id ∈ sessionKeys (claimable current) t) :
    Claimed t current := by
  obtain ⟨i, r, hr, hclaimable, -⟩ := mem_sessionKeys.1 hmem
  obtain ⟨hid, -, hlive⟩ := claimable_iff.1 hclaimable
  obtain ⟨j, q, hq, hidentity⟩ := hknown
  have hij : i = j := h.ids i j r q hr hq
    (hid.trans (RefreshSession.id_of_identity hidentity).symm)
  subst hij
  obtain rfl := Option.some.inj (hr.symm.trans hq)
  exact ⟨i, r, hr, hidentity, hlive⟩

theorem findSession_eq_some {id : Id} (h : findSession t id = some current) :
    Knows t current ∧ current.id = id := by
  obtain ⟨⟨i, r⟩, hfind, rfl⟩ := Option.map_eq_some_iff.1 h
  obtain ⟨hr, hid⟩ := Table.findFirst_eq_some hfind
  exact ⟨⟨i, r, hr, rfl⟩, of_decide_eq_true hid⟩

theorem fresh_of_allowed (h : (!t.any fun _ q => q.id = r.id || q.tokenHash = r.tokenHash) = true) :
    Fresh t r := by
  intro i q hq
  have hnone := Table.any_eq_false_iff.1 ((Bool.not_eq_true' _).mp h) i q hq
  obtain ⟨hid, hhash⟩ := Bool.or_eq_false_iff.1 hnone
  exact ⟨of_decide_eq_false hid, of_decide_eq_false hhash⟩

theorem Fresh.of_writeSessions {f : RefreshSession -> RefreshSession} {kept : List SessionKey}
    (h : Fresh (writeSessions f kept t) r) (hf : forall r : RefreshSession, r.Evolves (f r)) :
    Fresh t r := by
  intro i q hq
  have hpublishes : Publishes kept t (writeSessions f kept t) :=
    Publishes.writeSessions hf fun _ hx => hx
  obtain ⟨q', hq', hevolves, -⟩ := hpublishes.kept i q hq
  rw [← RefreshSession.id_of_identity hevolves.identity,
    ← RefreshSession.hash_of_identity hevolves.identity]
  exact h i q' hq'

theorem Fresh.writeSessions {f : RefreshSession -> RefreshSession} {kept : List SessionKey}
    (h : Fresh t r) (hf : forall r : RefreshSession, r.Evolves (f r)) :
    Fresh (writeSessions f kept t) r := by
  intro i q hq
  unfold MarketBridge.writeSessions at hq
  rw [Table.findUnique_updateMany] at hq
  obtain ⟨p, hp, rfl⟩ := Option.map_eq_some_iff.1 hq
  split
  · rw [RefreshSession.id_of_identity (hf p).identity,
      RefreshSession.hash_of_identity (hf p).identity]
    exact h i p hp
  · exact h i p hp

end

/-! ## Commits -/

section

variable {hashRefreshToken : String -> String} {sees : Prop} {t : RefreshSessions}
  {current : RefreshSession} {c : RotateCall}

theorem Covers.revoke {familyId : Id} {kept : List SessionKey} (h : Covers t familyId kept)
    (now : Nat) (reason : String) :
    Covers (writeSessions (.revoke now reason) kept t) familyId [] := by
  intro i r' hr' hfamily
  unfold writeSessions at hr'
  rw [Table.findUnique_updateMany] at hr'
  obtain ⟨r, hr, rfl⟩ := Option.map_eq_some_iff.1 hr'
  split at hfamily
  · cases (Bool.and_eq_true_iff.1 hfamily).2
  · rename_i hfree
    exact absurd (decide_eq_true (h i r hr hfamily)) hfree

theorem Claimed.dead (h : Claimed t current) (hf : Families t) (now : Nat) :
    (writeSessions (.claim now) [.session current.id] t).All fun _ q =>
      q.familyId = current.familyId -> q.live = false := by
  obtain ⟨i, r, hr, hidentity, hlive⟩ := h
  intro j q' hq' hfamily
  unfold writeSessions at hq'
  rw [Table.findUnique_updateMany] at hq'
  obtain ⟨q, hq, rfl⟩ := Option.map_eq_some_iff.1 hq'
  split at hfamily
  · rename_i hmem
    rw [if_pos hmem]
    rfl
  · rename_i hfree
    rw [if_neg hfree, Bool.eq_false_iff]
    intro hqlive
    have hij : j = i := hf.one j i q r hq hr
      (hfamily.trans (RefreshSession.family_of_identity hidentity).symm) hqlive hlive
    subst hij
    obtain rfl := Option.some.inj (hq.symm.trans hr)
    rw [RefreshSession.id_of_identity hidentity] at hfree
    exact hfree (decide_eq_true (List.mem_singleton.2 rfl))

theorem Claimed.rotate (h : Claimed t current) (hf : Families t)
    (hfresh : Fresh t (c.next hashRefreshToken current)) :
    Families ((writeSessions (.claim c.now) [.session current.id] t).create
      (c.next hashRefreshToken current)) := by
  have hevolves := RefreshSession.claim_evolves c.now
  have hclaimed : Families (writeSessions (.claim c.now) [.session current.id] t) :=
    hf.updateMany _ hevolves
  refine hclaimed.create (hfresh.writeSessions hevolves) (Or.inr ?_) (h.dead hf c.now)
  obtain ⟨i, r, hr, hidentity, -⟩ := h
  have hpublishes : Publishes [.session current.id] t
      (writeSessions (.claim c.now) [.session current.id] t) :=
    Publishes.writeSessions hevolves fun _ hx => hx
  obtain ⟨r', hr', hevolves', -⟩ := hpublishes.kept i r hr
  obtain ⟨j, q, hq, hfounder⟩ := hclaimed.founded i r' hr'
  have hfamily : r.familyId = current.familyId := RefreshSession.family_of_identity hidentity
  exact ⟨j, q, hq, hfounder.trans
    ((RefreshSession.family_of_identity hevolves'.identity).trans hfamily)⟩

variable {held : List SessionKey} {found : Option (List SessionKey)}

theorem Claimed.founded (h : Claimed t current) (hheld : SessionKey.session current.id ∈ held) :
    Founded held t current.familyId := by
  obtain ⟨i, r, hr, hidentity, hlive⟩ := h
  refine Or.inl ⟨i, r, hr, RefreshSession.family_of_identity hidentity, hlive, ?_⟩
  rw [RefreshSession.id_of_identity hidentity]
  exact hheld

theorem Fresh.unfounded {c : SignInCall} (h : Fresh t (c.created hashRefreshToken))
    (hf : Families t) :
    t.All fun _ r => r.familyId ≠ (c.created hashRefreshToken).familyId := by
  intro i r hr heq
  obtain ⟨j, q, hq, hid⟩ := hf.founded i r hr
  exact (h j q hq).1 (hid.trans heq)

/-- What a request does when it goes on. -/
structure StageStep (hash : String -> String) (sees : Prop) (t : RefreshSessions)
    (req : SessionRequest) (held : List SessionKey) (s' : RefreshSessions × RefreshRun) :
    Prop where
  stage : Stage hash sees s'.1 req s'.2
  families : Families s'.1
  publishes : Publishes held t s'.1

theorem StageStep.silent {req : SessionRequest} {a : RefreshRun} (hf : Families t)
    (h : Stage hashRefreshToken sees t req a) :
    StageStep hashRefreshToken sees t req held (t, a) :=
  ⟨h, hf, .refl held t⟩

variable {blocked : List SessionKey -> Bool}

theorem rotateRefreshSession_advance :
    (LockRun.running id [] none (rotateRefreshSession hashRefreshToken c)).advance blocked t =
      (t, .running id [] none
        (match findSession t c.session with
        | none => .commit (.error .notFound)
        | some current =>
            if current.revokedAt.isSome || current.rotatedAt.isSome ||
                current.expiresAt <= c.now then
              refuseReuse c.now current.familyId .reusedOrExpired
            else if current.tokenHash ≠ hashRefreshToken c.refreshToken then
              refuseReuse c.now current.familyId .reuseDetected
            else
              claimAndCreate hashRefreshToken c current)) :=
  rfl

theorem StageStep.reading (hf : Families t) :
    StageStep hashRefreshToken sees t (.rotate c) held
      ((LockRun.running id [] none (rotateRefreshSession hashRefreshToken c)).advance blocked
        t) := by
  rw [rotateRefreshSession_advance]
  split
  · exact .silent hf (.unknown c)
  · rename_i current hfind
    obtain ⟨hknown, hid⟩ := findSession_eq_some hfind
    split
    · exact .silent hf (.refusing c current _ none hid (by decide) hknown)
    · split
      · exact .silent hf (.refusing c current _ none hid (by decide) hknown)
      · rename_i hhash
        exact .silent hf (.claiming c current none hid (not_not.1 hhash) hknown
          fun _ hx => by cases hx)

theorem StageStep.refusing {e : RotationRefusal} {found : Option (List SessionKey)}
    {held : List SessionKey} (hf : Families t) (hid : current.id = c.session)
    (he : e ≠ .notFound) (hknown : Knows t current)
    (hsees : sees ->
      (LockRun.running id [] found (refuseReuse c.now current.familyId e)).FindsAll blocked t) :
    StageStep hashRefreshToken sees t (.rotate c) held
      ((LockRun.running id [] found (refuseReuse c.now current.familyId e)).advance blocked
        t) := by
  cases found with
  | none => exact .silent hf (.refusing c current e _ hid he hknown)
  | some found =>
      unfold refuseReuse updateSessions LockRun.advance
      dsimp only
      split
      · exact .silent hf (.refusing c current e _ hid he hknown)
      · rename_i hblocked
        have hcovers : sees -> Covers t current.familyId
            (found.filter fun x => x ∈ sessionKeys (inFamily current.familyId) t) := by
          intro hs i r hr hfamily
          have hmem : SessionKey.session r.id ∈ sessionKeys (inFamily current.familyId) t :=
            mem_sessionKeys.2 ⟨i, r, hr, hfamily, rfl⟩
          have hfound := hsees hs (Bool.eq_false_iff.2 hblocked) _ hmem
          exact List.mem_filter.2 ⟨hfound, decide_eq_true hmem⟩
        exact .silent hf (.refused c current e _ hid he hknown hcovers)

theorem StageStep.claiming (hf : Families t) (hid : current.id = c.session)
    (hhash : current.tokenHash = hashRefreshToken c.refreshToken) (hknown : Knows t current)
    (hfound : forall x, found = some x -> x = [] ∨ x = [.session current.id]) :
    StageStep hashRefreshToken sees t (.rotate c) held
      ((LockRun.running id [] found (claimAndCreate hashRefreshToken c current)).advance blocked
        t) := by
  cases found with
  | none =>
      have hfinds := hf.sessionKeys_claimable current
      exact .silent hf (.claiming c current _ hid hhash hknown fun x hx => by
        rw [← Option.some.inj hx]
        exact hfinds)
  | some found =>
      unfold claimAndCreate updateSessions LockRun.advance
      dsimp only
      split
      · exact .silent hf (.claiming c current _ hid hhash hknown hfound)
      · have hnone : StageStep hashRefreshToken sees t (.rotate c) held
            (t, .running (writeSessions (.claim c.now) [] ∘ id) [] none
              (refuseReuse c.now current.familyId .concurrentReuse)) := by
          rw [writeSessions_nil]
          exact .silent hf (.refusing c current _ none hid (by decide) hknown)
        rcases hfound found rfl with rfl | rfl
        · exact hnone
        · by_cases hmem : SessionKey.session current.id ∈ sessionKeys (claimable current) t
          · have hkept : [SessionKey.session current.id].filter
                (fun x => x ∈ sessionKeys (claimable current) (id t)) =
                  [.session current.id] := by
              simp [hmem]
            rw [hkept]
            exact .silent hf (.claimed c current none hhash (hf.claimed hknown hmem)
              fun _ hx => by cases hx)
          · have hkept : [SessionKey.session current.id].filter
                (fun x => x ∈ sessionKeys (claimable current) (id t)) = [] := by
              simp [hmem]
            rw [hkept]
            exact hnone

theorem StageStep.creating (hf : Families t)
    (hhash : current.tokenHash = hashRefreshToken c.refreshToken) (hlive : Claimed t current)
    (hfound : forall x, found = some x -> x = (c.next hashRefreshToken current).keys) :
    StageStep hashRefreshToken sees t (.rotate c) held
      ((LockRun.running (writeSessions (.claim c.now) [.session current.id])
        [.session current.id] found
        (createSession (c.next hashRefreshToken current) (.commit (.ok ())))).advance blocked
          t) := by
  cases found with
  | none =>
      exact .silent hf (.claimed c current _ hhash hlive fun x hx => (Option.some.inj hx).symm)
  | some found =>
      obtain rfl := hfound found rfl
      unfold createSession LockRun.advance
      dsimp only
      split
      · exact .silent hf (.claimed c current _ hhash hlive hfound)
      · split
        · rename_i hallowed
          have hkept : (c.next hashRefreshToken current).keys.filter (fun x =>
              x ∈ [SessionKey.session (c.next hashRefreshToken current).id,
                .token (c.next hashRefreshToken current).tokenHash]) =
              (c.next hashRefreshToken current).keys :=
            List.filter_eq_self.2 fun x hx => decide_eq_true hx
          rw [hkept]
          have hfresh := (fresh_of_allowed hallowed).of_writeSessions
            (RefreshSession.claim_evolves c.now)
          exact .silent hf (.rotated c current hhash hlive hfresh)
        · exact .silent hf (.aborted _)

theorem Stage.advance {req : SessionRequest} {a : RefreshRun} (hf : Families t)
    (h : Stage hashRefreshToken sees t req a)
    (hsees : sees -> forall c, req = .rotate c -> a.FindsAll blocked t) :
    StageStep hashRefreshToken sees t req a.held (a.advance blocked t) := by
  cases h with
  | reading c => exact .reading hf
  | unknown c => exact .silent hf (.missing c)
  | refusing c current e found hid he hknown =>
      exact .refusing hf hid he hknown fun hs => hsees hs c rfl
  | refused c current e kept hid he hknown hcovers =>
      have hevolves := RefreshSession.revoke_evolves c.now "refresh-token-reuse"
      have hpublishes : Publishes kept t
          (writeSessions (.revoke c.now "refresh-token-reuse") kept t) :=
        .writeSessions hevolves fun _ hx => hx
      exact {
        stage := .reported c e current hid (hknown.publish hpublishes) fun hs =>
          (hcovers hs).revoke c.now "refresh-token-reuse"
        families := hf.updateMany _ hevolves
        publishes := hpublishes }
  | claiming c current found hid hhash hknown hfound =>
      exact .claiming hf hid hhash hknown hfound
  | claimed c current found hhash hlive hfound => exact .creating hf hhash hlive hfound
  | rotated c current hhash hlive hfresh =>
      have hevolves := RefreshSession.claim_evolves c.now
      have hmem : SessionKey.session current.id ∈
          SessionKey.session current.id :: (c.next hashRefreshToken current).keys :=
        List.mem_cons_self
      have hclaim : Publishes
          (SessionKey.session current.id :: (c.next hashRefreshToken current).keys) t
          (writeSessions (.claim c.now) [.session current.id] t) :=
        .writeSessions hevolves fun x hx => by
          rw [List.mem_singleton.1 hx]
          exact hmem
      have hpublishes := hclaim.create (r := c.next hashRefreshToken current)
        (List.mem_cons_of_mem _ List.mem_cons_self)
        (List.mem_cons_of_mem _ (List.mem_cons_of_mem _ List.mem_cons_self))
        (hlive.founded hmem)
      refine ⟨.succeeded c ?_, hlive.rotate hf hfresh, hpublishes⟩
      obtain ⟨i, r, hr, hidentity, -⟩ := hlive
      have hread : (writeSessions (.claim c.now) [.session current.id] t).findUnique i =
          some (r.claim c.now) := by
        unfold writeSessions
        rw [Table.findUnique_updateMany, hr]
        simp [RefreshSession.id_of_identity hidentity]
      exact ⟨i, r.claim c.now, Table.findUnique_create_of_some hread,
        (RefreshSession.hash_of_identity hidentity).trans hhash, rfl⟩
  | signingIn c found hfound =>
      cases found with
      | none => exact .silent hf (.signingIn c _ fun x hx => (Option.some.inj hx).symm)
      | some found =>
          obtain rfl := hfound found rfl
          unfold createSession LockRun.advance
          dsimp only
          split
          · exact .silent hf (.signingIn c _ hfound)
          · split
            · rename_i hallowed
              have hkept : (c.created hashRefreshToken).keys.filter (fun x =>
                  x ∈ [SessionKey.session (c.created hashRefreshToken).id,
                    .token (c.created hashRefreshToken).tokenHash]) =
                  (c.created hashRefreshToken).keys :=
                List.filter_eq_self.2 fun x hx => decide_eq_true hx
              rw [hkept]
              exact .silent hf (.signedIn c (fresh_of_allowed hallowed))
            · exact .silent hf (.aborted _)
  | signedIn c hfresh =>
      have hnone := hfresh.unfounded hf
      have hpublishes := (Publishes.refl (c.created hashRefreshToken).keys t).create
        (r := c.created hashRefreshToken) List.mem_cons_self
        (List.mem_cons_of_mem _ List.mem_cons_self) (Or.inr hnone)
      exact {
        stage := .answered _ _ rfl
        families := hf.create hfresh (Or.inl rfl) fun i q hq heq => absurd heq (hnone i q hq)
        publishes := hpublishes }
  | revoking req p now reason found hreq =>
      cases found with
      | none => exact .silent hf (.revoking req p now reason _ hreq)
      | some found =>
          unfold updateSessions LockRun.advance
          dsimp only
          split
          · exact .silent hf (.revoking req p now reason _ hreq)
          · exact .silent hf (.revoked req now reason _ hreq)
  | revoked req now reason kept hreq =>
      have hevolves := RefreshSession.revoke_evolves now reason
      exact {
        stage := .answered req _ hreq
        families := hf.updateMany _ hevolves
        publishes := .writeSessions hevolves fun _ hx => hx }
  | succeeded c hfound => exact .silent hf (.succeeded c hfound)
  | reported c e current hid hknown hclosed =>
      exact .silent hf (.reported c e current hid hknown hclosed)
  | missing c => exact .silent hf (.missing c)
  | answered req result hreq => exact .silent hf (.answered req result hreq)
  | aborted req => exact .silent hf (.aborted req)

theorem Stage.start (t : RefreshSessions) (req : SessionRequest) :
    Stage hashRefreshToken sees t req (.running id [] none (req.txn hashRefreshToken)) := by
  cases req with
  | issue c => exact .signingIn c none fun _ hx => by cases hx
  | rotate c => exact .reading c
  | revokeSession now id reason => exact .revoking _ _ now reason none rfl
  | revokeAllSessions now userId reason => exact .revoking _ _ now reason none rfl
  | revokeFamily now familyId reason => exact .revoking _ _ now reason none rfl

theorem Stage.exchange {t : RefreshSessions} {c : RotateCall}
    {own : RefreshSessions -> RefreshSessions}
    (h : Stage hashRefreshToken sees t (.rotate c) (.running own held found (.commit (.ok ())))) :
    exists i r, t.findUnique i = some r ∧ r.tokenHash = hashRefreshToken c.refreshToken ∧
      r.live = true := by
  cases h with
  | rotated c current hhash hlive hfresh =>
      obtain ⟨i, r, hr, hidentity, hlive⟩ := hlive
      exact ⟨i, r, hr, (RefreshSession.hash_of_identity hidentity).trans hhash, hlive⟩
  | revoked req now reason kept hreq => cases hreq

theorem Stage.exchanged {t : RefreshSessions} {c : RotateCall}
    (h : Stage hashRefreshToken sees t (.rotate c) (.committed (.ok ()))) :
    exists i r, t.findUnique i = some r ∧ r.tokenHash = hashRefreshToken c.refreshToken ∧
      r.rotatedAt.isSome = true := by
  cases h with
  | succeeded c h => exact h
  | answered req result hreq => cases hreq

end

end MarketBridge
