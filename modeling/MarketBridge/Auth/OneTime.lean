import MarketBridge.Relational.Transaction
import MarketBridge.Auth.Credentials

/-!
# One-time credentials stay used

As long as a write finds what its check has read, a code is taken once and a token changes
the password once.  A reset ends the tokens of its user only if there was no other usable
one, and the sessions only if none is opened before its answer.
-/

namespace MarketBridge

open Relational

/-! ## What is promised -/

def CredentialEvent.Allows : CredentialEvent -> CredentialEvent -> Prop
  | .accepted userId salt, .accepted userId' salt' => userId = userId' -> salt ≠ salt'
  | .regenerated userId first, .accepted userId' salt => userId = userId' -> first ≤ salt
  | .changed token _, .changed token' _ => token ≠ token'
  | .reset userId tokens _, .changed token userId' => userId = userId' -> tokens ≤ token
  | _, _ => True

instance : DecidableRel CredentialEvent.Allows := fun e e' => by
  unfold CredentialEvent.Allows
  split <;> infer_instance

namespace CredentialServer

structure OneTime (s : CredentialServer) : Prop where
  ordered : s.journal.Pairwise CredentialEvent.Allows
  usedUp : forall userId salt user h, .accepted userId salt ∈ s.journal ->
    s.users.findUnique userId = some user -> h ∈ user.mfaBackupCodes -> h.salt ≠ salt
  ended : forall userId tokens sessions i r, .reset userId tokens sessions ∈ s.journal ->
    s.sessions.findUnique i = some r -> r.userId = userId -> i < sessions ->
      r.revokedAt.isSome = true
  verified : forall userId stored checked, .enabled userId stored checked ∈ s.journal ->
    stored = checked

/-! ## Orderly steps -/

def isResetting (s : CredentialServer) (userId : Id) : Bool :=
  s.requests.any fun p =>
    match p with
    | .revoking userId' => userId' = userId
    | .revoked userId' => userId' = userId
    | _ => false

def hasRevoked (s : CredentialServer) (userId : Id) : Bool :=
  s.requests.any fun p =>
    match p with
    | .revoked userId' => userId' = userId
    | _ => false

/--
The next statement finds what the request has read: the codes, the secret, or a token that is
usable as the only one of its user.  No token is issued during a reset, and no session is
opened after its revocation.
-/
def findsAsRead (s : CredentialServer) : CredentialPhase -> Bool
  | .spending userId seen _ _ =>
      (s.users.findUnique userId).map (·.mfaBackupCodes) = some seen
  | .openingSession session _ => !s.hasRevoked session.userId
  | .enabling userId verified _ => (s.users.findUnique userId).bind (·.mfaSecret) = verified
  | .issuingToken userId _ _ => !s.isResetting userId
  | .changing token userId _ =>
      ((s.tokens.findUnique token).any fun t => t.isUsable s.now) &&
        !s.tokens.any fun i t => i ≠ token && t.userId = userId && t.isUsable s.now
  | _ => true

def isOrderly (s : CredentialServer) : CredentialStep -> Bool
  | .advance k => s.requests[k]?.all s.findsAsRead
  | .session (.openOther session) => !s.hasRevoked session.userId
  | _ => true

/-- Nothing has been asked yet, and the codes of a user have salts of their own. -/
structure IsFresh (s : CredentialServer) : Prop where
  requests : s.requests = []
  journal : s.journal = []
  codes : s.users.All fun _ user =>
    (user.mfaBackupCodes.map (·.salt)).Nodup ∧ forall h, h ∈ user.mfaBackupCodes -> h.salt < s.nextSalt

variable {s s' : CredentialServer} {crypto : Cryptography}

/-! ## What a statement keeps -/

/-- Codes are fresh or were stored, tokens stay used, sessions stay revoked. -/
structure Keeps (s s' : CredentialServer) : Prop where
  now : s.now ≤ s'.now
  nextSalt : s.nextSalt ≤ s'.nextSalt
  codes : forall userId user' h, s'.users.findUnique userId = some user' ->
    h ∈ user'.mfaBackupCodes -> s.nextSalt ≤ h.salt ∨
      exists user, s.users.findUnique userId = some user ∧ h ∈ user.mfaBackupCodes
  tokens : s.tokens.size ≤ s'.tokens.size ∧
    forall i t', s'.tokens.findUnique i = some t' ->
      (exists t, s.tokens.findUnique i = some t ∧ t.userId = t'.userId ∧
        (t.usedAt.isSome = true -> t'.usedAt.isSome = true) ∧ t.expiresAt = t'.expiresAt) ∨
      s.tokens.size ≤ i ∧ s.isResetting t'.userId = false
  sessions : s.sessions.size ≤ s'.sessions.size ∧
    forall i r', s'.sessions.findUnique i = some r' ->
      (exists r, s.sessions.findUnique i = some r ∧ r.userId = r'.userId ∧
        (r.revokedAt.isSome = true -> r'.revokedAt.isSome = true)) ∨
      s.sessions.size ≤ i ∧ s.hasRevoked r'.userId = false

/-- The codes of the user have salts from `first` on. -/
def CodesFrom (s : CredentialServer) (userId : Id) (first : Nat) : Prop :=
  first ≤ s.nextSalt ∧
    forall user h, s.users.findUnique userId = some user -> h ∈ user.mfaBackupCodes -> first ≤ h.salt

def Unstored (s : CredentialServer) (userId : Id) (salt : Nat) : Prop :=
  salt < s.nextSalt ∧
    forall user h, s.users.findUnique userId = some user -> h ∈ user.mfaBackupCodes -> h.salt ≠ salt

def Used (s : CredentialServer) (token : Nat) : Prop :=
  token < s.tokens.size ∧
    forall t, s.tokens.findUnique token = some t -> t.usedAt.isSome = true

/-- None of the first `n` tokens is usable by the user. -/
def TokensSpent (s : CredentialServer) (userId : Id) (n : Nat) : Prop :=
  n ≤ s.tokens.size ∧
    forall i t, i < n -> s.tokens.findUnique i = some t -> t.userId = userId ->
      t.isUsable s.now = false

def SessionsEnded (s : CredentialServer) (userId : Id) (n : Nat) : Prop :=
  n ≤ s.sessions.size ∧
    forall i r, i < n -> s.sessions.findUnique i = some r -> r.userId = userId ->
      r.revokedAt.isSome = true

theorem isUsable_mono {t t' : PasswordResetToken} {now now' : Nat} (hnow : now ≤ now')
    (hused : t.usedAt.isSome = true -> t'.usedAt.isSome = true) (hexpires : t.expiresAt = t'.expiresAt)
    (h : t.isUsable now = false) : t'.isUsable now' = false := by
  unfold PasswordResetToken.isUsable at h ⊢
  rw [Bool.and_eq_false_iff, Option.isNone_eq_false_iff, decide_eq_false_iff_not] at h ⊢
  rcases h with hspent | hexpired
  · exact Or.inl (hused hspent)
  · exact Or.inr (by omega)

namespace Keeps

theorem refl (s : CredentialServer) : Keeps s s where
  now := Nat.le_refl _
  nextSalt := Nat.le_refl _
  codes := fun _ user _ huser hh => Or.inr ⟨user, huser, hh⟩
  tokens := ⟨Nat.le_refl _, fun _ t ht => Or.inl ⟨t, ht, rfl, id, rfl⟩⟩
  sessions := ⟨Nat.le_refl _, fun _ r hr => Or.inl ⟨r, hr, rfl, id⟩⟩

variable {userId : Id}

theorem codesFrom (h : Keeps s s') {first : Nat} (hfrom : s.CodesFrom userId first) :
    s'.CodesFrom userId first := by
  refine ⟨Nat.le_trans hfrom.1 h.nextSalt, fun user' c huser' hc => ?_⟩
  rcases h.codes userId user' c huser' hc with hfresh | ⟨user, huser, hc⟩
  · exact Nat.le_trans hfrom.1 hfresh
  · exact hfrom.2 user c huser hc

theorem unstored (h : Keeps s s') {salt : Nat} (hun : s.Unstored userId salt) :
    s'.Unstored userId salt := by
  refine ⟨Nat.lt_of_lt_of_le hun.1 h.nextSalt, fun user' c huser' hc => ?_⟩
  rcases h.codes userId user' c huser' hc with hfresh | ⟨user, huser, hc⟩
  · have hlt := hun.1
    omega
  · exact hun.2 user c huser hc

theorem used (h : Keeps s s') {token : Nat} (hused : s.Used token) : s'.Used token := by
  refine ⟨Nat.lt_of_lt_of_le hused.1 h.tokens.1, fun t' ht' => ?_⟩
  rcases h.tokens.2 token t' ht' with ⟨t, ht, -, hstays, -⟩ | ⟨hnew, -⟩
  · exact hstays (hused.2 t ht)
  · exact absurd hused.1 (Nat.not_lt.2 hnew)

theorem tokensSpent (h : Keeps s s') {n : Nat} (hspent : s.TokensSpent userId n) :
    s'.TokensSpent userId n := by
  refine ⟨Nat.le_trans hspent.1 h.tokens.1, fun i t' hi ht' huser => ?_⟩
  rcases h.tokens.2 i t' ht' with ⟨t, ht, hsame, hstays, hexpires⟩ | ⟨hnew, -⟩
  · exact isUsable_mono h.now hstays hexpires (hspent.2 i t hi ht (hsame.trans huser))
  · have hle := hspent.1
    omega

theorem allTokensSpent (h : Keeps s s') (hresetting : s.isResetting userId = true)
    (hspent : s.TokensSpent userId s.tokens.size) :
    s'.TokensSpent userId s'.tokens.size := by
  refine ⟨Nat.le_refl _, fun i t' _ ht' huser => ?_⟩
  rcases h.tokens.2 i t' ht' with ⟨t, ht, hsame, hstays, hexpires⟩ | ⟨-, hfree⟩
  · exact isUsable_mono h.now hstays hexpires
      (hspent.2 i t (Table.lt_size_of_findUnique ht) ht (hsame.trans huser))
  · rw [huser, hresetting] at hfree
    cases hfree

theorem sessionsEnded (h : Keeps s s') {n : Nat} (hended : s.SessionsEnded userId n)
    : s'.SessionsEnded userId n := by
  refine ⟨Nat.le_trans hended.1 h.sessions.1, fun i r' hi hr' huser => ?_⟩
  rcases h.sessions.2 i r' hr' with ⟨r, hr, hsame, hstays⟩ | ⟨hnew, -⟩
  · exact hstays (hended.2 i r hi hr (hsame.trans huser))
  · have hle := hended.1
    omega

theorem allSessionsEnded (h : Keeps s s') (hrevoked : s.hasRevoked userId = true)
    (hended : s.SessionsEnded userId s.sessions.size) :
    s'.SessionsEnded userId s'.sessions.size := by
  refine ⟨Nat.le_refl _, fun i r' _ hr' huser => ?_⟩
  rcases h.sessions.2 i r' hr' with ⟨r, hr, hsame, hstays⟩ | ⟨-, hfree⟩
  · exact hstays (hended.2 i r (Table.lt_size_of_findUnique hr) hr (hsame.trans huser))
  · rw [huser, hrevoked] at hfree
    cases hfree

end Keeps

/-! ## The invariant -/

def EventSound (s : CredentialServer) : CredentialEvent -> Prop
  | .accepted userId salt => s.Unstored userId salt
  | .regenerated userId first => s.CodesFrom userId first
  | .enabled _ stored verified => stored = verified
  | .changed token _ => s.Used token
  | .reset userId tokens sessions =>
      s.TokensSpent userId tokens ∧ s.SessionsEnded userId sessions

def PhaseSound (s : CredentialServer) : CredentialPhase -> Prop
  | .regenerated userId first _ => s.CodesFrom userId first
  | .changing token userId _ =>
      token < s.tokens.size ∧ forall t, s.tokens.findUnique token = some t -> t.userId = userId
  | .revoking userId => s.TokensSpent userId s.tokens.size
  | .revoked userId =>
      s.TokensSpent userId s.tokens.size ∧ s.SessionsEnded userId s.sessions.size
  | _ => True

def CodesSound (s : CredentialServer) : Prop :=
  s.users.All fun _ user =>
    (user.mfaBackupCodes.map (·.salt)).Nodup ∧ forall h, h ∈ user.mfaBackupCodes -> h.salt < s.nextSalt

structure Inv (s : CredentialServer) : Prop where
  codes : s.CodesSound
  ordered : s.journal.Pairwise CredentialEvent.Allows
  events : forall e, e ∈ s.journal -> s.EventSound e
  phases : forall p, p ∈ s.requests -> s.PhaseSound p

theorem EventSound.keep (hkeeps : Keeps s s') {e : CredentialEvent} (h : s.EventSound e) :
    s'.EventSound e := by
  cases e with
  | accepted userId salt => exact hkeeps.unstored h
  | regenerated userId first => exact hkeeps.codesFrom h
  | enabled userId stored verified => exact h
  | changed token userId => exact hkeeps.used h
  | reset userId tokens sessions => exact ⟨hkeeps.tokensSpent h.1, hkeeps.sessionsEnded h.2⟩

theorem isResetting_revoking {userId : Id} (h : .revoking userId ∈ s.requests) :
    s.isResetting userId = true :=
  List.any_eq_true.2 ⟨_, h, decide_eq_true rfl⟩

theorem isResetting_revoked {userId : Id} (h : .revoked userId ∈ s.requests) :
    s.isResetting userId = true :=
  List.any_eq_true.2 ⟨_, h, decide_eq_true rfl⟩

theorem hasRevoked_revoked {userId : Id} (h : .revoked userId ∈ s.requests) :
    s.hasRevoked userId = true :=
  List.any_eq_true.2 ⟨_, h, decide_eq_true rfl⟩

theorem PhaseSound.keep (hkeeps : Keeps s s') {p : CredentialPhase} (hp : p ∈ s.requests)
    (h : s.PhaseSound p) : s'.PhaseSound p := by
  cases p with
  | regenerated userId first codes => exact hkeeps.codesFrom h
  | changing token userId password =>
      refine ⟨Nat.lt_of_lt_of_le h.1 hkeeps.tokens.1, fun t' ht' => ?_⟩
      rcases hkeeps.tokens.2 token t' ht' with ⟨t, ht, hsame, -⟩ | ⟨hnew, -⟩
      · exact hsame ▸ h.2 t ht
      · exact absurd h.1 (Nat.not_lt.2 hnew)
  | revoking userId => exact hkeeps.allTokensSpent (isResetting_revoking hp) h
  | revoked userId =>
      exact ⟨hkeeps.allTokensSpent (isResetting_revoked hp) h.1,
        hkeeps.allSessionsEnded (hasRevoked_revoked hp) h.2⟩
  | _ => exact trivial

end CredentialServer

end MarketBridge
