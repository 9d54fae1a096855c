import MarketBridge.Auth.RefreshSession

/-!
# One-time credentials

Backup codes are a column of the user, which is read, spliced in memory and written back
whole; a reset token is a row of its own.  Between two of its statements a request is in a
phase, with what it has read, and the statements of all requests come in any order.
-/

namespace MarketBridge

open Relational

/-- What `bcrypt.hash` stores of a backup code.  The salts are fresh: they are numbered. -/
structure BackupCodeHash where
  salt : Nat
  digest : String
deriving DecidableEq, Repr

structure CredentialUser where
  email : String
  passwordHash : String
  /-- `accountStatus` is `SUSPENDED`. -/
  isSuspended : Bool := false
  mfaEnabled : Bool := false
  mfaSecret : Option String := none
  mfaBackupCodes : List BackupCodeHash := []
deriving DecidableEq, Repr

structure PasswordResetToken where
  userId : Id
  tokenHash : String
  expiresAt : Nat
  usedAt : Option Nat := none
  requestedIp : Option String := none
deriving DecidableEq, Repr

/-- `!record.usedAt && record.expiresAt > now`. -/
def PasswordResetToken.isUsable (t : PasswordResetToken) (now : Nat) : Bool :=
  t.usedAt.isNone && now < t.expiresAt

def RESET_TOKEN_TTL_MS : Nat := 30 * 60 * 1000

/-- The functions of `otplib`, `bcryptjs` and `crypto`. -/
structure Cryptography where
  /-- `authenticator.check` with the secret, at a time; an error is `false`. -/
  check : Nat -> String -> String -> Bool
  /-- The digest of a text under a salt. -/
  digest : Nat -> String -> String
  hashPassword : String -> String
  comparePassword : String -> String -> Bool
  /-- SHA-256, as a hexadecimal string. -/
  hashToken : String -> String
  toUpperCase : String -> String

/-! ## `mfaService` -/

section

variable (crypto : Cryptography)

def verifyTotp (now : Nat) (secret : Option String) (code : String) : Bool :=
  secret.any fun secret => secret ≠ "" && code ≠ "" && crypto.check now secret (trimText code)

/-- The hashes of fresh codes; `salt` is the first salt that is not in use. -/
def hashBackupCodes (salt : Nat) (codes : List String) : List BackupCodeHash :=
  codes.mapIdx fun i code => { salt := salt + i, digest := crypto.digest (salt + i) code }

/-- `bcrypt.compare`. -/
def compareBackupCode (candidate : String) (h : BackupCodeHash) : Bool :=
  crypto.digest h.salt candidate = h.digest

def findMatchingBackupCodeIndex (hashedCodes : List BackupCodeHash) (code : String) :
    Option Nat :=
  if crypto.toUpperCase (trimText code) = "" then
    none
  else
    hashedCodes.findIdx? (compareBackupCode crypto (crypto.toUpperCase (trimText code)))

end

/-! ## Requests -/

/-- A call that is authenticated, with the secret or the codes that it draws. -/
inductive MfaCall where
  | setup (secret : String)
  | verifySetup (code password : String) (backupCodes : List String)
  | disable (password code : String)
  | regenerate (password code : String) (backupCodes : List String)
deriving DecidableEq, Repr

/-- A request, with the ids and tokens that it draws. -/
inductive CredentialRequest where
  /-- The user of the challenge token, unless it is invalid. -/
  | verifyLogin (challenge : Option Id) (code : String) (session : SignInCall)
  | mfa (sessionId : Id) (call : MfaCall)
  | forgotPassword (email rawToken : String) (requestedIp : Option String)
  | resetPassword (rawToken password : String)

inductive CredentialAnswer where
  | refused (statusCode : Nat) (error : String) (code : Option String)
  | signedIn (usedBackupCode : Bool)
  | secret (secret : String)
  | codes (message : String) (backupCodes : List String)
  | message (text : String)
deriving DecidableEq, Repr

/-- Where a request is: what it has read, and which statement is next. -/
inductive CredentialPhase where
  | verifyingLogin (userId : Id) (code : String) (session : SignInCall)
  | spending (userId : Id) (seen : List BackupCodeHash) (index : Nat) (session : SignInCall)
  | openingSession (session : SignInCall) (usedBackupCode : Bool)
  | authenticating (sessionId : Id) (call : MfaCall)
  | loading (userId : Id) (call : MfaCall)
  | settingUp (userId : Id) (secret : String)
  | enabling (userId : Id) (verified : Option String) (backupCodes : List String)
  | disabling (userId : Id)
  | regenerating (userId : Id) (backupCodes : List String)
  /-- The new codes are stored, the first of them with this salt. -/
  | regenerated (userId : Id) (salt : Nat) (backupCodes : List String)
  | requestingReset (email rawToken : String) (requestedIp : Option String)
  | issuingToken (userId : Id) (rawToken : String) (requestedIp : Option String)
  | consuming (rawToken password : String)
  /-- The token is checked; the writes of the transaction become visible together. -/
  | changing (token : Nat) (userId : Id) (password : String)
  | revoking (userId : Id)
  | revoked (userId : Id)
  | answered (answer : CredentialAnswer)

/-- What a reader of the history can tell. -/
inductive CredentialEvent where
  /-- A login has taken the backup code with this salt. -/
  | accepted (userId : Id) (salt : Nat)
  /-- A regeneration has answered; its codes have the salts from this one on. -/
  | regenerated (userId : Id) (salt : Nat)
  /-- MFA is enabled with this secret, after a code of `verified` was checked. -/
  | enabled (userId : Id) (stored verified : Option String)
  /-- A token has changed the password. -/
  | changed (token : Nat) (userId : Id)
  /-- A reset has answered; so many tokens and sessions were there. -/
  | reset (userId : Id) (tokens sessions : Nat)
deriving DecidableEq, Repr

structure CredentialServer where
  now : Nat := 0
  nextSalt : Nat := 0
  users : Table CredentialUser := Table.empty
  tokens : Table PasswordResetToken := Table.empty
  sessions : RefreshSessions := Table.empty
  requests : List CredentialPhase := []
  journal : List CredentialEvent := []

namespace CredentialPhase

def refused (statusCode : Nat) (error : String) (code : Option String) : CredentialPhase :=
  answered (.refused statusCode error code)

def failed (error : String) : CredentialPhase :=
  refused 500 error none

def invalid : CredentialPhase :=
  refused 400 "Validation failed" none

end CredentialPhase

/-- `isString().trim().isLength(\x7b min: 4, max: 12 \x7d)`. -/
def isMfaCode (code : String) : Bool :=
  4 ≤ (trimText code).length && (trimText code).length ≤ 12

def MfaCall.isValid : MfaCall -> Bool
  | setup _ => true
  | verifySetup code password _ => isMfaCode code && password ≠ ""
  | disable password code => password ≠ "" && isMfaCode code
  | regenerate password code _ => password ≠ "" && isMfaCode code

/-- The checks that need no statement. -/
def CredentialRequest.start : CredentialRequest -> CredentialPhase
  | verifyLogin challenge code session =>
      if isMfaCode code then
        match challenge with
        | some userId => .verifyingLogin userId code session
        | none =>
            .refused 401 "This login attempt has expired. Please log in again."
              (some "MFA_CHALLENGE_EXPIRED")
      else
        .invalid
  | mfa sessionId call => .authenticating sessionId call
  | forgotPassword email rawToken requestedIp => .requestingReset email rawToken requestedIp
  | resetPassword rawToken password =>
      if rawToken ≠ "" && 8 ≤ password.length && password.length ≤ 128 then
        .consuming rawToken password
      else
        .invalid

namespace CredentialServer

section

variable (crypto : Cryptography)

/-! ## `POST /mfa/verify-login` -/

def suspended : CredentialPhase :=
  .refused 403 "This account has been suspended. Contact support for assistance." none

/-- The code is checked against the user that the request has read. -/
def verifyLogin (s : CredentialServer) (userId : Id) (code : String) (session : SignInCall) :
    CredentialPhase :=
  match s.users.findUnique userId with
  | none => .refused 401 "Invalid login attempt" none
  | some user =>
      if !user.mfaEnabled then
        .refused 401 "Invalid login attempt" none
      else if user.isSuspended then
        suspended
      else if verifyTotp crypto s.now user.mfaSecret code then
        .openingSession { session with userId := userId } false
      else
        match findMatchingBackupCodeIndex crypto user.mfaBackupCodes code with
        | none => .refused 401 "Invalid authentication code" (some "INVALID_MFA_CODE")
        | some index => .spending userId user.mfaBackupCodes index { session with userId := userId }

def openSession (s : CredentialServer) (session : RefreshSession) : Option RefreshSessions :=
  if s.sessions.any fun _ q => q.id = session.id || q.tokenHash = session.tokenHash then
    none
  else
    some (s.sessions.create session)

/-- The row that `issueSession` inserts. -/
def sessionOf (session : SignInCall) : RefreshSession :=
  { id := session.sessionId
    userId := session.userId
    familyId := session.sessionId
    tokenHash := crypto.hashToken session.refreshToken
    expiresAt := session.expiresAt
    userAgent := session.userAgent
    ipAddress := session.ipAddress }

/-! ## Authenticated calls -/

/-- `authenticate`: the session of the access token, which names its user. -/
def authenticate (s : CredentialServer) (sessionId : Id) (call : MfaCall) : CredentialPhase :=
  match findSession s.sessions sessionId with
  | none =>
      .refused 401 "Your session has been signed out. Please log in again." (some "SESSION_REVOKED")
  | some session =>
      if session.revokedAt.isSome then
        .refused 401 "Your session has been signed out. Please log in again."
          (some "SESSION_REVOKED")
      else
        .loading session.userId call

def setup (user : CredentialUser) (userId : Id) (secret : String) : CredentialPhase :=
  if user.mfaEnabled then
    .refused 409 "MFA is already enabled on this account. Disable it first to re-enroll." none
  else
    .settingUp userId secret

def verifySetup (now : Nat) (user : CredentialUser) (userId : Id) (code password : String)
    (backupCodes : List String) : CredentialPhase :=
  if user.mfaEnabled then
    .refused 409 "MFA is already enabled on this account." none
  else if !truthy user.mfaSecret then
    .refused 400 "No MFA setup in progress. Call /auth/mfa/setup first." none
  else if !crypto.comparePassword password user.passwordHash then
    .refused 401 "Incorrect password" none
  else if !verifyTotp crypto now user.mfaSecret code then
    .refused 400 "That code did not match. Check the time on your device and try again."
      (some "INVALID_MFA_CODE")
  else
    .enabling userId user.mfaSecret backupCodes

def disable (now : Nat) (user : CredentialUser) (userId : Id) (password code : String) :
    CredentialPhase :=
  if !user.mfaEnabled then
    .refused 400 "MFA is not enabled on this account." none
  else if !crypto.comparePassword password user.passwordHash then
    .refused 401 "Incorrect password" none
  else if !verifyTotp crypto now user.mfaSecret code &&
      (findMatchingBackupCodeIndex crypto user.mfaBackupCodes code).isNone then
    .refused 401 "Invalid authentication code" (some "INVALID_MFA_CODE")
  else
    .disabling userId

def regenerate (now : Nat) (user : CredentialUser) (userId : Id) (password code : String)
    (backupCodes : List String) : CredentialPhase :=
  if !user.mfaEnabled then
    .refused 400 "MFA is not enabled on this account." none
  else if !crypto.comparePassword password user.passwordHash then
    .refused 401 "Incorrect password" none
  else if !verifyTotp crypto now user.mfaSecret code then
    .refused 401 "Invalid authentication code" (some "INVALID_MFA_CODE")
  else
    .regenerating userId backupCodes

/-- The handler of the call, with the user that `authenticate` has loaded. -/
def handle (now : Nat) (user : CredentialUser) (userId : Id) : MfaCall -> CredentialPhase
  | .setup secret => setup user userId secret
  | .verifySetup code password backupCodes =>
      verifySetup crypto now user userId code password backupCodes
  | .disable password code => disable crypto now user userId password code
  | .regenerate password code backupCodes =>
      regenerate crypto now user userId password code backupCodes

def load (s : CredentialServer) (userId : Id) (call : MfaCall) : CredentialPhase :=
  match s.users.findUnique userId with
  | none => .refused 401 "Invalid or expired token" (some "INVALID_TOKEN")
  | some user =>
      if user.isSuspended then
        .refused 403 "This account has been suspended. Contact support for assistance."
          (some "ACCOUNT_SUSPENDED")
      else if call.isValid then
        handle crypto s.now user userId call
      else
        .invalid

/-! ## Password recovery -/

def resetRequested : CredentialPhase :=
  .answered (.message "If that email is registered, a password reset link has been sent.")

def requestReset (s : CredentialServer) (email rawToken : String) (requestedIp : Option String) :
    CredentialPhase :=
  match s.users.findFirst fun _ u => u.email = email with
  | none => resetRequested
  | some (userId, user) =>
      if user.isSuspended then resetRequested else .issuingToken userId rawToken requestedIp

/-- `consumeResetToken`: the token is looked up by its hash. -/
def consumeResetToken (s : CredentialServer) (rawToken password : String) : CredentialPhase :=
  match s.tokens.findFirst fun _ t => t.tokenHash = crypto.hashToken rawToken with
  | none =>
      .refused 400 "This reset link is invalid or has expired. Request a new one."
        (some "INVALID_RESET_TOKEN")
  | some (token, record) =>
      if record.isUsable s.now then
        .changing token record.userId password
      else
        .refused 400 "This reset link is invalid or has expired. Request a new one."
          (some "INVALID_RESET_TOKEN")

/-! ## Statements -/

/-- What a statement leaves: the tables, the next phase, and what it adds to the history. -/
structure Outcome where
  server : CredentialServer
  phase : CredentialPhase
  event : Option CredentialEvent := none

def setCodes (s : CredentialServer) (userId : Id) (codes : List BackupCodeHash) :
    CredentialServer :=
  { s with users := s.users.update userId ({ · with mfaBackupCodes := codes }) }

/-- The next statement of a request in this phase, or its answer. -/
def perform (s : CredentialServer) : CredentialPhase -> Outcome
  | .verifyingLogin userId code session =>
      { server := s, phase := s.verifyLogin crypto userId code session }
  | .spending userId seen index session =>
      { server := s.setCodes userId (seen.eraseIdx index)
        phase := .openingSession session true
        event := seen[index]?.map fun h => .accepted userId h.salt }
  | .openingSession session usedBackupCode =>
      match s.openSession (sessionOf crypto session) with
      | none => { server := s, phase := .failed "Login failed" }
      | some sessions =>
          { server := { s with sessions := sessions }
            phase := .answered (.signedIn usedBackupCode) }
  | .authenticating sessionId call => { server := s, phase := s.authenticate sessionId call }
  | .loading userId call => { server := s, phase := s.load crypto userId call }
  | .settingUp userId secret =>
      { server :=
          { s with users := s.users.update userId ({ · with mfaSecret := some secret }) }
        phase := .answered (.secret secret) }
  | .enabling userId verified backupCodes =>
      { server :=
          { s with
            nextSalt := s.nextSalt + backupCodes.length
            users := s.users.update userId
              ({ · with
                mfaEnabled := true
                mfaBackupCodes := hashBackupCodes crypto s.nextSalt backupCodes }) }
        phase := .answered (.codes "MFA is now enabled on your account." backupCodes)
        event := some
          (.enabled userId ((s.users.findUnique userId).bind (·.mfaSecret)) verified) }
  | .disabling userId =>
      { server :=
          { s with
            users := s.users.update userId
              ({ · with mfaEnabled := false, mfaSecret := none, mfaBackupCodes := [] }) }
        phase := .answered (.message "MFA has been disabled on your account.") }
  | .regenerating userId backupCodes =>
      { server :=
          { s.setCodes userId (hashBackupCodes crypto s.nextSalt backupCodes) with
            nextSalt := s.nextSalt + backupCodes.length }
        phase := .regenerated userId s.nextSalt backupCodes }
  | .regenerated userId salt backupCodes =>
      { server := s
        phase := .answered
          (.codes "New backup codes generated. Previous codes no longer work." backupCodes)
        event := some (.regenerated userId salt) }
  | .requestingReset email rawToken requestedIp =>
      { server := s, phase := s.requestReset email rawToken requestedIp }
  | .issuingToken userId rawToken requestedIp =>
      if s.tokens.any fun _ t => t.tokenHash = crypto.hashToken rawToken then
        { server := s, phase := .failed "Could not process password reset request" }
      else
        { server :=
            { s with
              tokens := s.tokens.create
                { userId := userId
                  tokenHash := crypto.hashToken rawToken
                  expiresAt := s.now + RESET_TOKEN_TTL_MS
                  requestedIp := requestedIp } }
          phase := resetRequested }
  | .consuming rawToken password =>
      { server := s, phase := s.consumeResetToken crypto rawToken password }
  | .changing token userId password =>
      -- marked by its id alone: whatever has become of the token since it was checked
      { server :=
          { s with
            tokens := s.tokens.update token ({ · with usedAt := some s.now })
            users := s.users.update userId
              ({ · with passwordHash := crypto.hashPassword password }) }
        phase := .revoking userId
        event := some (.changed token userId) }
  | .revoking userId =>
      { server :=
          { s with
            sessions := s.sessions.updateMany (fun _ r => r.userId = userId && r.revokedAt.isNone)
              (.revoke s.now "password-reset") }
        phase := .revoked userId }
  | .revoked userId =>
      { server := s
        phase := .answered (.message "Your password has been reset. Please log in again.")
        event := some (.reset userId s.tokens.size s.sessions.size) }
  | .answered answer => { server := s, phase := .answered answer }

def submit (s : CredentialServer) (request : CredentialRequest) : CredentialServer :=
  { s with requests := s.requests ++ [request.start] }

/-- The next statement of request `k`. -/
def advance (s : CredentialServer) (k : Nat) : CredentialServer :=
  match s.requests[k]? with
  | none => s
  | some phase =>
      let outcome := s.perform crypto phase
      { outcome.server with
        requests := s.requests.set k outcome.phase
        journal := s.journal ++ outcome.event.toList }

/-! ## Steps -/

/-- What other routes do to the sessions: sign-ins, rotations, sign-outs. -/
inductive SessionChange where
  | openOther (session : RefreshSession)
  | claim (sessionId : Id)
  | revoke (sessionId : Id)
  | revokeFamily (familyId : Id)
  | revokeAll (userId : Id)

def changeSessions (s : CredentialServer) : SessionChange -> RefreshSessions
  | .openOther session => (s.openSession session).getD s.sessions
  | .claim sessionId => s.sessions.updateMany (fun _ r => r.id = sessionId) (.claim s.now)
  | .revoke sessionId =>
      s.sessions.updateMany (fun _ r => r.id = sessionId && r.revokedAt.isNone)
        (.revoke s.now "logout")
  | .revokeFamily familyId => s.sessions.updateMany (fun _ r => inFamily familyId r)
        (.revoke s.now "refresh-token-reuse")
  | .revokeAll userId =>
      s.sessions.updateMany (fun _ r => r.userId = userId && r.revokedAt.isNone)
        (.revoke s.now "logout-all")

end

inductive CredentialStep where
  | submit (request : CredentialRequest)
  | advance (k : Nat)
  | register (email passwordHash : String)
  /-- A login hashes the password anew. -/
  | rehash (userId : Id) (passwordHash : String)
  | setSuspended (userId : Id) (isSuspended : Bool)
  | session (change : SessionChange)
  | tick (duration : Nat)

def step (crypto : Cryptography) (s : CredentialServer) : CredentialStep -> CredentialServer
  | .submit request => s.submit request
  | .advance k => s.advance crypto k
  | .register email passwordHash =>
      { s with users := s.users.create { email := email, passwordHash := passwordHash } }
  | .rehash userId passwordHash =>
      { s with users := s.users.update userId ({ · with passwordHash := passwordHash }) }
  | .setSuspended userId isSuspended =>
      { s with users := s.users.update userId ({ · with isSuspended := isSuspended }) }
  | .session change => { s with sessions := s.changeSessions change }
  | .tick duration => { s with now := s.now + duration }

end CredentialServer

end MarketBridge
