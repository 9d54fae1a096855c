import MarketBridge.Relational.Keyed
import MarketBridge.Relational.RowLocks
import MarketBridge.Schema.Rows

/-!
# Refresh sessions

A refresh session stands for one refresh token, of which only the hash is stored.  The
sessions that follow each other by rotation form a family, named after the session of
the sign-in.  The functions are transactions whose statements wait for row locks.
-/

namespace MarketBridge

open Relational

structure RefreshSession where
  id : Id
  userId : Id
  familyId : Id
  tokenHash : String
  expiresAt : Nat
  lastUsedAt : Option Nat := none
  rotatedAt : Option Nat := none
  revokedAt : Option Nat := none
  revokedReason : Option String := none
  userAgent : Option String := none
  ipAddress : Option String := none
deriving DecidableEq, Repr

/-- What is locked: the row of a session, or its entry in the index on token hashes. -/
inductive SessionKey where
  | session (id : Id)
  | token (hash : String)
deriving DecidableEq, Repr

/-- Why a rotation is refused. -/
inductive RotationRefusal where
  | notFound
  | reusedOrExpired
  | reuseDetected
  | concurrentReuse
deriving DecidableEq, Repr

def RotationRefusal.reason : RotationRefusal -> String
  | notFound => "not-found"
  | reusedOrExpired => "reused-or-expired"
  | reuseDetected => "reuse-detected"
  | concurrentReuse => "concurrent-reuse"

abbrev RefreshSessions := Table RefreshSession

abbrev SessionTxn := LockTxn SessionKey (Except RotationRefusal Unit) RefreshSessions

namespace RefreshSession

def live (r : RefreshSession) : Bool :=
  r.rotatedAt.isNone && r.revokedAt.isNone

def Usable (r : RefreshSession) (now : Nat) : Prop :=
  r.rotatedAt = none ∧ r.revokedAt = none ∧ now < r.expiresAt

instance (r : RefreshSession) (now : Nat) : Decidable (r.Usable now) := by
  unfold Usable
  infer_instance

def revoke (now : Nat) (reason : String) (r : RefreshSession) : RefreshSession :=
  { r with
    revokedAt := some now
    revokedReason := some reason }

def claim (now : Nat) (r : RefreshSession) : RefreshSession :=
  { r with
    rotatedAt := some now
    lastUsedAt := some now }

end RefreshSession

/-! ## Statements -/

def findSession (t : RefreshSessions) (id : Id) : Option RefreshSession :=
  (t.findFirst fun _ r => r.id = id).map Prod.snd

def sessionKeys (p : RefreshSession -> Bool) (t : RefreshSessions) : List SessionKey :=
  (t.findMany fun _ r => p r).map fun e => .session e.2.id

def writeSessions (f : RefreshSession -> RefreshSession) (kept : List SessionKey)
    (t : RefreshSessions) : RefreshSessions :=
  t.updateMany (fun _ r => SessionKey.session r.id ∈ kept) f

def updateSessions (p : RefreshSession -> Bool) (f : RefreshSession -> RefreshSession)
    (next : Nat -> SessionTxn) : SessionTxn :=
  .write (sessionKeys p) (fun _ => true) (writeSessions f) fun kept => next kept.length

def createSession (r : RefreshSession) (next : SessionTxn) : SessionTxn :=
  .write (fun _ => [.session r.id, .token r.tokenHash])
    (fun t => !t.any fun _ q => q.id = r.id || q.tokenHash = r.tokenHash)
    (fun _ t => t.create r) fun _ => next

/-! ## Functions -/

section

-- SHA-256, as a hexadecimal string.
variable (hashRefreshToken : String -> String)

structure CreateSessionCall where
  userId : Id
  sessionId : Id
  familyId : Id
  refreshToken : String
  userAgent : Option String := none
  ipAddress : Option String := none
  expiresAt : Nat

def createRefreshSession (c : CreateSessionCall) : SessionTxn :=
  createSession
    { id := c.sessionId
      userId := c.userId
      familyId := c.familyId
      tokenHash := hashRefreshToken c.refreshToken
      expiresAt := c.expiresAt
      userAgent := c.userAgent
      ipAddress := c.ipAddress }
    (.commit (.ok ()))

structure SignInCall where
  userId : Id
  sessionId : Id
  refreshToken : String
  userAgent : Option String := none
  ipAddress : Option String := none
  expiresAt : Nat

/-- A sign-in names no family, so that the session founds its own. -/
def issueSession (c : SignInCall) : SessionTxn :=
  createRefreshSession hashRefreshToken
    { userId := c.userId
      sessionId := c.sessionId
      familyId := c.sessionId
      refreshToken := c.refreshToken
      userAgent := c.userAgent
      ipAddress := c.ipAddress
      expiresAt := c.expiresAt }

def inFamily (familyId : Id) (r : RefreshSession) : Bool :=
  r.familyId = familyId && r.revokedAt.isNone

def revokeSession (now : Nat) (sessionId : Id) (reason : String) : SessionTxn :=
  updateSessions (fun r => r.id = sessionId && r.revokedAt.isNone) (.revoke now reason)
    fun _ => .commit (.ok ())

def revokeAllSessions (now : Nat) (userId : Id) (reason : String) : SessionTxn :=
  updateSessions (fun r => r.userId = userId && r.revokedAt.isNone) (.revoke now reason)
    fun _ => .commit (.ok ())

def revokeFamily (now : Nat) (familyId : Id) (reason : String) : SessionTxn :=
  updateSessions (inFamily familyId) (.revoke now reason) fun _ => .commit (.ok ())

/-- A rotation; `now` is read before the transaction. -/
structure RotateCall where
  now : Nat
  session : Id
  refreshToken : String
  nextRefreshToken : String
  nextExpiresAt : Nat
  nextSessionId : Id
deriving DecidableEq, Repr

def refuseReuse (now : Nat) (familyId : Id) (e : RotationRefusal) : SessionTxn :=
  updateSessions (inFamily familyId) (.revoke now "refresh-token-reuse")
    fun _ => .commit (.error e)

/-- The session that follows `current`. -/
def RotateCall.next (c : RotateCall) (current : RefreshSession) : RefreshSession :=
  { id := c.nextSessionId
    userId := current.userId
    familyId := current.familyId
    tokenHash := hashRefreshToken c.nextRefreshToken
    expiresAt := c.nextExpiresAt
    userAgent := current.userAgent
    ipAddress := current.ipAddress }

/-- What a claim of `current` selects. -/
def claimable (current r : RefreshSession) : Bool :=
  r.id = current.id && r.tokenHash = current.tokenHash && r.revokedAt.isNone &&
    r.rotatedAt.isNone

def claimAndCreate (c : RotateCall) (current : RefreshSession) : SessionTxn :=
  updateSessions (claimable current) (.claim c.now) fun count =>
    if count ≠ 1 then
      refuseReuse c.now current.familyId .concurrentReuse
    else
      createSession (c.next hashRefreshToken current) (.commit (.ok ()))

def rotateRefreshSession (c : RotateCall) : SessionTxn :=
  .read fun t =>
    match findSession t c.session with
    | none => .commit (.error .notFound)
    | some current =>
        if current.revokedAt.isSome || current.rotatedAt.isSome || current.expiresAt <= c.now then
          refuseReuse c.now current.familyId .reusedOrExpired
        else if current.tokenHash ≠ hashRefreshToken c.refreshToken then
          refuseReuse c.now current.familyId .reuseDetected
        else
          claimAndCreate hashRefreshToken c current

/-! ## Requests -/

/-- Everything that is asked of the sessions. -/
inductive SessionRequest where
  | issue (c : SignInCall)
  | rotate (c : RotateCall)
  | revokeSession (now : Nat) (sessionId : Id) (reason : String)
  | revokeAllSessions (now : Nat) (userId : Id) (reason : String)
  | revokeFamily (now : Nat) (familyId : Id) (reason : String)

def SessionRequest.txn : SessionRequest -> SessionTxn
  | issue c => issueSession hashRefreshToken c
  | rotate c => rotateRefreshSession hashRefreshToken c
  | revokeSession now id reason => MarketBridge.revokeSession now id reason
  | revokeAllSessions now userId reason => MarketBridge.revokeAllSessions now userId reason
  | revokeFamily now familyId reason => MarketBridge.revokeFamily now familyId reason

end

end MarketBridge
