import MarketBridge.Relational.Rely
import MarketBridge.Payment.PaidOnce
import MarketBridge.Payment.Repeat
import MarketBridge.Refund.Operations

/-!
# Campaigns

The writers of the status of an advertisement: its creation, the settlement of its
payment, an admin, the cancellation, the Telegram publication, the broadcast route and
the maintenance jobs.  What a request reads before its transaction may be old when it
writes.  A statement outside of a transaction is one step, and so is a transaction.
-/

namespace MarketBridge

open Relational

/-! ## Statuses -/

def AdType.isReviewRequired (type : AdType) : Bool :=
  type ∈ [AdType.banner, .telegramPromotion]

namespace AdStatus

/-- `TERMINAL_STATUSES`. -/
def isTerminal (s : AdStatus) : Bool :=
  s ∈ [AdStatus.rejected, .expired, .cancelled]

/-- The statuses of `activeStatusWhere`. -/
def isActive (s : AdStatus) : Bool :=
  s ∈ [AdStatus.active, .published, .scheduled]

/-- The statuses that `expireAdvertisements` ends. -/
def isUp (s : AdStatus) : Bool :=
  s ∈ [AdStatus.active, .published, .scheduled, .approved]

end AdStatus

/-! ## Writes -/

def Advertisement.moved (env : Env) (status : AdStatus) (ad : Advertisement) : Advertisement :=
  { ad with
    status := status
    publishedAt := if status = .published then some env.now else ad.publishedAt }

/-- The write of `PATCH /ads/:id/status`; the reason has gone through `safeText`. -/
def changeStatus (env : Env) (adId : Id) (status : AdStatus) (rejectionReason : Option String)
    (db : Db) : Db :=
  { db with
    advertisements := db.advertisements.update adId fun ad =>
      { ad.moved env status with
        rejectionReason := if status = .rejected then rejectionReason else ad.rejectionReason } }

def publishTelegram (env : Env) (adId : Id) (postReference : Option String) (db : Db) : Db :=
  { db with
    advertisements := db.advertisements.update adId fun ad =>
      { ad.moved env .published with telegramPostReference := postReference } }

/-- What `PATCH /ads/:id/cancel` has read before its transaction. -/
structure LoadedCancellation where
  adId : Id
  userId : Id
  /-- The reason has gone through `safeText`. -/
  reason : Option String := none
  rejectionReason : Option String := none
  payments : List (Id × Payment) := []
deriving DecidableEq, Repr

namespace LoadedCancellation

def withStatus (c : LoadedCancellation) (status : PaymentStatus) : List (Id × Payment) :=
  c.payments.filter fun p => p.2.status = status

def failPending (c : LoadedCancellation) : Tx := fun db =>
  (c.withStatus .pending).foldlM (fun db p => updatePayment p.1 (·.withStatus .failed) db) db

def refundPaid (env : Env) (c : LoadedCancellation) : Tx := fun db =>
  (c.withStatus .paid).foldlM
    (fun db p => do
      let (db, _) ← requestRefund env p.1 (some (.finite p.2.amount))
        (jsOr c.reason (some "Advertisement cancelled")) (some c.userId) db
      .ok db)
    db

def cancelled (c : LoadedCancellation) (ad : Advertisement) : Advertisement :=
  { ad with
    status := .cancelled
    rejectionReason := jsOr c.reason c.rejectionReason }

/-- The transaction of `PATCH /ads/:id/cancel`. -/
def cancel (env : Env) (c : LoadedCancellation) : Tx := fun db => do
  let db ← c.failPending
    { db with advertisements := db.advertisements.update c.adId c.cancelled }
  c.refundPaid env db

end LoadedCancellation

/-- A campaign of the broadcast route, by its id or by its reference. -/
inductive CampaignKey where
  | id (adId : Id)
  | reference (campaignReference : String)
deriving DecidableEq, Repr

def CampaignKey.names (key : CampaignKey) (adId : Id) (ad : Advertisement) : Bool :=
  match key with
  | .id i => adId = i
  | .reference text => ad.campaignReference = text

/-- The write of `POST /growth/telegram-promo` once the post was sent. -/
def broadcast (key : CampaignKey) (db : Db) : Db :=
  { db with
    advertisements := db.advertisements.updateMany key.names ({ · with status := .published }) }

/-- `expireAdvertisements`. -/
def expireAdvertisements (env : Env) (db : Db) : Db :=
  { db with
    advertisements := db.advertisements.updateMany
      (fun _ ad => ad.status.isUp && decide (ad.endDate ≤ env.now))
      ({ · with status := .expired }) }

/-- `activateScheduledAdvertisements`. -/
def activateScheduledAdvertisements (env : Env) (db : Db) : Db :=
  { db with
    advertisements := db.advertisements.updateMany
      (fun _ ad => ad.status = .scheduled && decide (ad.startDate ≤ env.now) &&
        decide (env.now < ad.endDate))
      (Advertisement.moved env .published) }

/-- The row that `POST /ads` creates. -/
def createAdvertisement (ad : Advertisement) (db : Db) : Db :=
  { db with
    advertisements := db.advertisements.create
      { ad with
        status := .pendingPayment
        amountPaid := none
        publishedAt := none
        rejectionReason := none
        telegramPostReference := none } }

/-! ## Requests -/

/-- What a write is about. -/
inductive CampaignWrite where
  | payment (write : PaymentWrite)
  | changeStatus (env : Env) (adId : Id) (requested status : AdStatus)
      (rejectionReason : Option String)
  | cancel (env : Env) (loaded : LoadedCancellation)
  | publishTelegram (env : Env) (adId : Id) (postReference : Option String)

abbrev CampaignRequest :=
  Request CampaignWrite ApiError Db

def paymentsOfCampaign (db : Db) (adId : Id) : List (Id × Payment) :=
  db.payments.findMany fun _ p => p.advertisementId = some adId

/-- The checks of `PATCH /ads/:id/status`, and the status to be written. -/
def checkStatusChange (env : Env) (requested : AdStatus) (ad : Advertisement) (paid : Bool) :
    Except ApiError AdStatus :=
  if requested ∉ [AdStatus.approved, .scheduled, .published, .rejected, .expired] then
    .error (httpError 400 "Validation failed")
  else if requested ∈ [AdStatus.approved, .scheduled, .published] ∧ paid = false then
    .error (httpError 400 "Campaign must be paid before approval/publication")
  else if requested = .published ∧ (env.now < ad.startDate ∨ ad.endDate < env.now) then
    .error (httpError 400 "Campaign dates do not allow publication")
  else if requested = .approved ∧ ad.type.isReviewRequired = false then
    .error (httpError 400 "This campaign type does not require manual approval")
  else if requested = .approved then
    .ok (ad.statusAfterApproval env)
  else
    .ok requested

/-- `PATCH /ads/:id/status`. -/
def statusRequest (env : Env) (caller : Caller) (adId : Id) (requested : AdStatus)
    (rejectionReason : Option String) : CampaignRequest :=
  if caller.isAdmin then
    .read fun db =>
      match db.advertisements.findUnique adId with
      | none => .done
      | some ad =>
          let paid := (paymentsOfCampaign db adId).any fun p => p.2.status = .paid
          match checkStatusChange env requested ad paid with
          | .error _ => .done
          | .ok status =>
              .statement (.changeStatus env adId requested status rejectionReason)
                (changeStatus env adId status rejectionReason) fun _ => .done
  else
    .done

/-- The checks of `PATCH /ads/:id/cancel`. -/
def checkCancellation (caller : Caller) (ad : Advertisement) : Except ApiError Unit :=
  if ad.advertiserId ≠ caller.userId ∧ caller.isAdmin = false then
    .error (httpError 403 "Not authorized to cancel this campaign")
  else if ad.status.isTerminal then
    .error (httpError 400 ("Campaign is already " ++ ad.status.lowerText ++
      " and cannot be cancelled"))
  else if caller.isAdmin = false ∧ ad.status ≠ .pendingPayment then
    .error (httpError 400 ("You can only cancel a campaign before it has been paid for. " ++
      "Contact MarketBridge support about a paid campaign."))
  else
    .ok ()

/-- `PATCH /ads/:id/cancel`. -/
def cancelRequest (env : Env) (caller : Caller) (adId : Id) (reason : Option String) :
    CampaignRequest :=
  .read fun db =>
    match db.advertisements.findUnique adId with
    | none => .done
    | some ad =>
        match checkCancellation caller ad with
        | .error _ => .done
        | .ok _ =>
            let loaded : LoadedCancellation :=
              { adId := adId
                userId := caller.userId
                reason := reason
                rejectionReason := ad.rejectionReason
                payments := paymentsOfCampaign db adId }
            .attempt (.cancel env loaded) (loaded.cancel env) fun _ => .done

def Payment.isForCampaign (adId : Id) (p : Payment) : Bool :=
  p.type = .advertising && p.advertisementId = some adId

/-- `PATCH /ads/:id/telegram-publication`. -/
def telegramRequest (env : Env) (caller : Caller) (adId : Id) (postReference : Option String) :
    CampaignRequest :=
  if caller.isAdmin then
    .read fun db =>
      match db.advertisements.findUnique adId with
      | none => .done
      | some ad =>
          if ad.type ≠ .telegramPromotion ∨ ad.status ∉ [AdStatus.approved, .scheduled] then
            .done
          else
            .read fun db =>
              if (db.payments.any fun _ p => p.isForCampaign adId && p.status = .paid) = false ∨
                  env.now < ad.startDate ∨ ad.endDate < env.now then
                .done
              else
                .statement (.publishTelegram env adId postReference)
                  (publishTelegram env adId postReference) fun _ => .done
  else
    .done

def PaymentRequest.forCampaigns (r : PaymentRequest) : CampaignRequest :=
  r.atOnce.relabel .payment

/-! ## Sessions -/

/-- The server, and the campaigns that an admin has approved. -/
structure CampaignSession where
  server : Server CampaignWrite ApiError Db
  approved : List Id := []

inductive CampaignStep where
  | create (ad : Advertisement)
  | post (caller : Caller) (body : PaymentBody)
  | initializePayment (caller : Caller) (paymentId : Id)
  | settle (args : SettleArgs)
  | finalizePlan (paymentId : Id)
  | createChildren (paymentId : Id)
  | changeStatus (caller : Caller) (adId : Id) (requested : AdStatus)
      (rejectionReason : Option String)
  | cancel (caller : Caller) (adId : Id) (reason : Option String)
  | publishTelegram (caller : Caller) (adId : Id) (postReference : Option String)
  /-- The next statement or transaction of a request. -/
  | advance (k : Nat)
  /-- The provider opens the checkout of a request, or refuses. -/
  | answer (k : Nat) (opened : Bool)
  | broadcast (key : CampaignKey)
  | expire
  | activate
  /-- Something else writes the other tables. -/
  | elsewhere (other : Db)

namespace CampaignSession

def db (s : CampaignSession) : Db :=
  s.server.state

def submit (s : CampaignSession) (r : CampaignRequest) : CampaignSession :=
  { s with server := s.server.submit r }

def setDb (s : CampaignSession) (db : Db) : CampaignSession :=
  { s with server := { s.server with state := db } }

def approvals : Option CampaignWrite -> List Id
  | some (.changeStatus _ adId .approved _ _) => [adId]
  | _ => []

def step (origins : Id -> InspectionOrigin) (s : CampaignSession) (a : Env × CampaignStep) :
    CampaignSession :=
  match a.2 with
  | .create ad => s.setDb (createAdvertisement ad s.db)
  | .post caller body => s.submit (body.request origins a.1 caller).forCampaigns
  | .initializePayment caller paymentId =>
      s.submit (initializeRequest a.1 caller paymentId).forCampaigns
  | .settle args => s.submit (settleRequest a.1 args).forCampaigns
  | .finalizePlan paymentId => s.submit (finalizeRequest a.1 paymentId).forCampaigns
  | .createChildren paymentId => s.submit (childrenRequest paymentId).forCampaigns
  | .changeStatus caller adId requested rejectionReason =>
      s.submit (statusRequest a.1 caller adId requested rejectionReason)
  | .cancel caller adId reason => s.submit (cancelRequest a.1 caller adId reason)
  | .publishTelegram caller adId postReference =>
      s.submit (telegramRequest a.1 caller adId postReference)
  | .advance k =>
      { server := s.server.advance k
        approved := s.approved ++ approvals (s.server.publishes k) }
  | .answer k opened => { s with server := s.server.answer k opened }
  | .broadcast key => s.setDb (MarketBridge.broadcast key s.db)
  | .expire => s.setDb (expireAdvertisements a.1 s.db)
  | .activate => s.setDb (activateScheduledAdvertisements a.1 s.db)
  | .elsewhere other =>
      s.setDb { other with
        advertisements := s.db.advertisements
        payments := s.db.payments
        refunds := s.db.refunds }

end CampaignSession

end MarketBridge
