import MarketBridge.Idempotency.Fingerprint
import MarketBridge.Relational.Transaction
import MarketBridge.Schema.Rows

/-!
# The idempotency middleware

All requests here have one user, one scope and one key, so there is at most one record.
A request reads the clock, tries to create the record, looks at the one that is there and
may take over an expired one; then its handler runs, answers, and the record is completed
or deleted in a statement of its own.  Every statement is a step.
-/

namespace MarketBridge

open JsonText

/-! ## Responses -/

/-- What a client receives as a body. -/
inductive ResponseBody where
  | empty
  | text (text : String)
  | json (value : Json)

structure Response where
  statusCode : Nat
  body : ResponseBody

/--
How a handler answers.  `res.send` hands objects, arrays and booleans to `res.json`, so only
strings and nothing at all are left.
-/
inductive Answer where
  | json (value : Option Json)
  | send (text : Option String)

def Answer.body : Answer -> ResponseBody
  | .json none => .empty
  | .json (some value) => .json value
  | .send none => .empty
  | .send (some text) => .text text

/-- What `persist` is given. -/
def Answer.captured : Answer -> Option Json
  | .json value => value
  | .send text => text.map .string

structure HandlerAnswer where
  statusCode : Nat
  answer : Answer

def HandlerAnswer.response (a : HandlerAnswer) : Response :=
  { statusCode := a.statusCode
    body := a.answer.body }

/-- `statusCode >= 200 && statusCode < 400`. -/
def HandlerAnswer.succeeded (a : HandlerAnswer) : Bool :=
  200 ≤ a.statusCode && a.statusCode < 400

def errorResponse (message : String) : Response :=
  { statusCode := 409
    body := .json (.object [("error", .string message)]) }

/-! ## Records and requests -/

inductive RecordStatus where
  | processing
  | completed
deriving DecidableEq, Repr

/-- A row of `IdempotencyRequest`. -/
structure IdempotencyRecord where
  id : Id
  requestHash : String
  status : RecordStatus := .processing
  statusCode : Option Nat := none
  response : Option Json := none
  expiresAt : Nat

/-- `record.response ?? {}`. -/
def replayedValue : Option Json -> Json
  | none => .object []
  | some .null => .object []
  | some value => value

/-- `res.status(record.statusCode || 200).json(record.response ?? {})`. -/
def IdempotencyRecord.replay (r : IdempotencyRecord) : Response :=
  { statusCode := if r.statusCode.getD 0 = 0 then 200 else r.statusCode.getD 0
    body := .json (replayedValue r.response) }

/-- Where a request is; `now` is the time that it has read. -/
inductive KeyedPhase where
  | creating (now : Nat)
  | reading (now : Nat)
  | takingOver (now : Nat) (recordId : Id)
  | running (recordId : Id) (since : Nat)
  /-- The client has the answer, and the record does not. -/
  | storing (recordId : Id) (answer : HandlerAnswer)
  | answered (response : Response)

def KeyedPhase.isRunning : KeyedPhase -> Bool
  | .running _ _ => true
  | _ => false

def KeyedPhase.owns : KeyedPhase -> Option Id
  | .running recordId _ => some recordId
  | .storing recordId _ => some recordId
  | _ => none

def KeyedPhase.response : KeyedPhase -> Option Response
  | .storing _ answer => some answer.response
  | .answered response => some response
  | _ => none

structure KeyedRequest where
  http : HttpRequest
  phase : KeyedPhase

/-- A run that succeeded and was stored, and how many requests had arrived by then. -/
structure StoredRun where
  http : HttpRequest
  response : Response
  before : Nat

structure IdempotencyServer where
  now : Nat := 0
  nextId : Id := 0
  record : Option IdempotencyRecord := none
  requests : List KeyedRequest := []
  /-- The log of the stored runs. -/
  stored : List StoredRun := []

/-! ## Statements -/

inductive IdempotencyStep where
  | arrive (http : HttpRequest)
  /-- The next statement of a request. -/
  | advance (k : Nat)
  /-- The handler of a request answers. -/
  | answer (k : Nat) (answer : HandlerAnswer)
  | tick (duration : Nat)

/-- What a request that has found a record does. -/
def IdempotencyRecord.receive (r : IdempotencyRecord) (requestHash : String) (now : Nat) : KeyedPhase :=
  if r.requestHash ≠ requestHash then
    .answered (errorResponse "Idempotency-Key was already used for a different request")
  else if r.status = .completed then
    .answered r.replay
  else if now < r.expiresAt then
    .answered (errorResponse "Request is already being processed. Please retry shortly.")
  else
    .takingOver now r.id

def IdempotencyRecord.isTaken (r : IdempotencyRecord) (now : Nat) (recordId : Id) : Bool :=
  r.id = recordId && r.status = .processing && r.expiresAt ≤ now

/-- `persist`: the record is completed, or deleted after an error. -/
def persist (recordId : Id) (answer : HandlerAnswer) (record : Option IdempotencyRecord) :
    Option IdempotencyRecord :=
  if answer.succeeded then
    record.map fun r =>
      if r.id = recordId then
        { r with
          status := .completed
          statusCode := some answer.statusCode
          response := answer.answer.captured }
      else
        r
  else
    record.filter fun r => r.id ≠ recordId

namespace IdempotencyServer

section Statements

variable (sha256 : String -> String) (ttlMs : Nat)

/-- The next statement of a request, with its record. -/
def statement (s : IdempotencyServer) (q : KeyedRequest) : Option IdempotencyRecord × KeyedPhase :=
  match q.phase with
  | .creating now =>
      match s.record with
      | none =>
          (some
            { id := s.nextId
              requestHash := requestFingerprint sha256 q.http
              expiresAt := now + ttlMs },
            .running s.nextId s.now)
      | some r => (some r, .reading now)
  | .reading now =>
      match s.record with
      | none =>
          (none,
            .answered (errorResponse "Request is already being processed. Please retry."))
      | some r => (some r, r.receive (requestFingerprint sha256 q.http) now)
  | .takingOver now recordId =>
      match s.record with
      | none =>
          (none,
            .answered (errorResponse "Request is already being processed. Please retry shortly."))
      | some r =>
          if r.isTaken now recordId then
            (some { r with expiresAt := now + ttlMs }, .running recordId s.now)
          else
            (some r,
              .answered (errorResponse "Request is already being processed. Please retry shortly."))
  | .running recordId since => (s.record, .running recordId since)
  | .storing recordId answer =>
      (persist recordId answer s.record, .answered answer.response)
  | .answered response => (s.record, .answered response)

/-- The run that the next statement of a request stores. -/
def newlyStored (s : IdempotencyServer) (q : KeyedRequest) : List StoredRun :=
  match q.phase with
  | .storing recordId answer =>
      if answer.succeeded && s.record.any fun r => r.id = recordId then
        [{ http := q.http
           response := answer.response
           before := s.requests.length }]
      else
        []
  | _ => []

def advance (s : IdempotencyServer) (k : Nat) : IdempotencyServer :=
  match s.requests[k]? with
  | none => s
  | some q =>
      { s with
        nextId := s.nextId + 1
        record := (s.statement sha256 ttlMs q).1
        requests := s.requests.set k { q with phase := (s.statement sha256 ttlMs q).2 }
        stored := s.stored ++ s.newlyStored q }

def answer (s : IdempotencyServer) (k : Nat) (answer : HandlerAnswer) : IdempotencyServer :=
  match s.requests[k]? with
  | none => s
  | some q =>
      match q.phase with
      | .running recordId _ =>
          { s with requests := s.requests.set k { q with phase := .storing recordId answer } }
      | _ => s

def step (s : IdempotencyServer) : IdempotencyStep -> IdempotencyServer
  | .arrive http =>
      { s with
        requests := s.requests ++
          [{ http := http
             phase := .creating s.now }] }
  | .advance k => s.advance sha256 ttlMs k
  | .answer k answer => s.answer k answer
  | .tick duration => { s with now := s.now + duration }

end Statements

/-! ## The promise -/

def IsRunning (s : IdempotencyServer) (k : Nat) : Prop :=
  exists q, s.requests[k]? = some q ∧ q.phase.isRunning = true

def OneRun (s : IdempotencyServer) : Prop :=
  forall i j, s.IsRunning i -> s.IsRunning j -> i = j

def IsLater (s : IdempotencyServer) (run : StoredRun) (k : Nat) (q : KeyedRequest) : Prop :=
  run ∈ s.stored ∧ run.before ≤ k ∧ s.requests[k]? = some q

/--
What the middleware promises of a step: one run at most afterwards, no new run once one has
been stored, and every later request is told the same response, or refused; two statements
are enough for that.
-/
structure Promise (sha256 : String -> String) (ttlMs : Nat) (s : IdempotencyServer)
    (a : IdempotencyStep) : Prop where
  oneRun : (s.step sha256 ttlMs a).OneRun
  noNewRun : s.stored ≠ [] -> forall k, (s.step sha256 ttlMs a).IsRunning k -> s.IsRunning k
  replayed : forall run k q response, (s.step sha256 ttlMs a).IsLater run k q ->
    q.phase.response = some response -> q.http.Same run.http -> response = run.response
  refused : forall run k q response, (s.step sha256 ttlMs a).IsLater run k q ->
    q.phase.response = some response -> ¬ q.http.Same run.http -> response.statusCode = 409
  read : forall run k q now, s.IsLater run k q -> a = .advance k -> q.phase = .creating now ->
    (s.step sha256 ttlMs a).requests[k]? = some { q with phase := .reading now }
  told : forall run k q now, s.IsLater run k q -> a = .advance k -> q.phase = .reading now ->
    exists response, (s.step sha256 ttlMs a).requests[k]? =
      some { q with phase := .answered response }

/-- Every handler that is at work has been for `ttlMs` at most. -/
def Prompt (sha256 : String -> String) (ttlMs : Nat) (s : IdempotencyServer) (a : IdempotencyStep) :
    Prop :=
  forall q, q ∈ (s.step sha256 ttlMs a).requests -> forall recordId since,
    q.phase = .running recordId since -> (s.step sha256 ttlMs a).now ≤ since + ttlMs

/-! ## Undisturbed steps -/

def isReplayable (a : HandlerAnswer) : Bool :=
  !a.succeeded ||
    match a.answer with
    | .json (some .null) => false
    | .json (some _) => true
    | _ => false

def isSettled (s : IdempotencyServer) (recordId : Id) : Bool :=
  s.requests.all fun q => q.phase.owns ≠ some recordId

/--
A takeover that succeeds finds the run before it settled, a success is an answer that can be
replayed, and the numbers of a body are finite and its hash is not that of another text.
-/
def isUndisturbed (sha256 : String -> String) (s : IdempotencyServer) : IdempotencyStep -> Bool
  | .arrive http =>
      isFinite http.body && s.requests.all fun q =>
        requestFingerprint sha256 q.http ≠ requestFingerprint sha256 http ||
          q.http.fingerprintText = http.fingerprintText
  | .advance k =>
      s.requests[k]?.all fun q =>
        match q.phase with
        | .takingOver now recordId =>
            s.record.all fun r => !r.isTaken now recordId || s.isSettled recordId
        | _ => true
  | .answer _ answer => isReplayable answer
  | .tick _ => true

/-- No request has arrived yet, and there is no record. -/
structure IsFresh (s : IdempotencyServer) : Prop where
  record : s.record = none
  requests : s.requests = []
  stored : s.stored = []

end IdempotencyServer

end MarketBridge
