import MarketBridge.Dispute.Service
import MarketBridge.Offer.Actions

/-!
# The market as one transition system

Every operation that writes listings, offers, orders, payments, refunds,
payouts or disputes is a step.  Steps come in any order, each with its own clock
and settings, and each is one transaction.
-/

namespace MarketBridge

open Relational

/-! ## Groups of operations -/

inductive ListingCall where
  /-- A new listing has everything it lists available. -/
  | create (listing : Listing)
  /-- Bidding is reopened, or the listing is withdrawn or expires. -/
  | setStatus (listingId : Id) (status : ListingStatus)
deriving DecidableEq, Repr

def ListingCall.exec (db : Db) : ListingCall -> Db
  | .create listing =>
      { db with
        listings := db.listings.create
          { listing with availableQuantity := listing.quantity } }
  | .setStatus listingId status => setListingStatus listingId status db

inductive CheckoutCall where
  /-- `createPayment`: only goods payments are split into installments. -/
  | createPayment (payment : Payment)
  /-- The intent is claimed before the provider is contacted. -/
  | start (paymentId : Id)
  /-- The provider could not be reached. -/
  | abandon (paymentId : Id)
deriving DecidableEq, Repr

def Payment.asCreated (p : Payment) : Payment :=
  { p with
    status := .pending
    installmentCount := if p.type = .marketplace then p.installmentCount else none }

def CheckoutCall.exec (db : Db) : CheckoutCall -> Db
  | .createPayment payment => { db with payments := db.payments.create payment.asCreated }
  | .start paymentId =>
      { db with
        payments := db.payments.updateMany (fun i p => i == paymentId && p.status = .pending)
          (·.withStatus .processing) }
  | .abandon paymentId =>
      { db with
        payments := db.payments.updateMany (fun i p => i == paymentId && p.status = .processing)
          (·.withStatus .pending) }

inductive RefundCall where
  | request (paymentId : Id) (amount : Option JsNumber) (reason : Option String)
      (requestedById : Option Id)
  | process (refundId : Id) (answers : ProviderAnswers)
  | verifyAndFinalize (refundId : Id) (answer : Except ApiError String)
  | finalize (refundId : Id) (providerStatus : Option String)
  | fail (refundId : Id) (failureReason : Option String) (allowProcessing : Bool)
  | retry (refundId : Id) (actorId : Option Id) (note : Option String)
      (answers : ProviderAnswers)

def RefundCall.exec (env : Env) (db : Db) : RefundCall -> Db
  | .request paymentId amount reason requestedById =>
      match requestRefund env paymentId amount reason requestedById db with
      | .ok (db, _) => db
      | .error _ => db
  | .process refundId answers => (processRefund env refundId answers db).1
  | .verifyAndFinalize refundId answer => (verifyAndFinalizeRefund env refundId answer db).1
  | .finalize refundId providerStatus => commit (finalizeRefund env refundId providerStatus db) db
  | .fail refundId failureReason allowProcessing =>
      (failRefund env refundId failureReason allowProcessing db).1
  | .retry refundId actorId note answers => (retryRefund env refundId actorId note answers db).1

inductive PayoutCall where
  | releaseDuePayouts (updatedAt : UpdatedAt) (now : Nat)
  | releaseInspectorPayoutsForRequest (now : Nat) (inspectionRequestId : Id)
  | markPaidOut (payoutId actorId : Id) (payoutReference : Option String)

def PayoutCall.exec (env : Env) (db : Db) : PayoutCall -> Db
  | .releaseDuePayouts updatedAt now => MarketBridge.releaseDuePayouts env updatedAt now db
  | .releaseInspectorPayoutsForRequest now inspectionRequestId =>
      { db with
        payouts := MarketBridge.releaseInspectorPayoutsForRequest now inspectionRequestId db }
  | .markPaidOut payoutId actorId payoutReference =>
      commit (MarketBridge.markPaidOut env payoutId actorId payoutReference db) db

/-- The moves that the transport routes make on the order of a job. -/
inductive ShippingLeg where
  | arranged
  | departed
  | arrived
  | delivered
deriving DecidableEq, Repr

namespace ShippingLeg

def source : ShippingLeg -> OrderStatus
  | arranged => .confirmed
  | departed => .transportArranged
  | arrived => .inTransit
  | delivered => .transportArranged

def target : ShippingLeg -> OrderStatus
  | arranged => .transportArranged
  | departed => .inTransit
  | arrived => .delivered
  | delivered => .delivered

end ShippingLeg

/-! ## Steps -/

inductive MarketStep where
  | listing (call : ListingCall)
  | createOffer (userId listingId : Id) (amount quantity : Option JsNumber)
  | respondToOffer (caller : OfferCaller) (updatedAt : Nat) (offerId : Id) (action : OfferAction)
  | expireOffers
  | checkout (call : CheckoutCall)
  | settlePayment (args : SettleArgs)
  | refund (call : RefundCall)
  | resolveReconciliation (reconciliationId : Id) (status : PaymentReconciliationStatus)
      (actorId : Id) (note : Option String)
  | shipOrder (orderId : Id) (leg : ShippingLeg)
  | confirmReceipt (userId orderId : Id)
  | cancelOrder (load : OrderLoad) (orderId : Id) (actorId : Option Id) (reason : Option String)
      (role : CancelledByRole)
  | raiseDispute (userId : Id) (request : DisputeRequest)
  | resolveDispute (adminId disputeId : Id) (resolutionType : ResolutionType)
      (resolution : String)
  | payout (call : PayoutCall)
  /-- Something else writes the tables of transport, inspections and digital goods. -/
  | elsewhere (other : Db)

namespace MarketStep

def step (db : Db) (a : Env × MarketStep) : Db :=
  match a.2 with
  | listing call => call.exec db
  | createOffer userId listingId amount quantity =>
      commit (MarketBridge.createOffer a.1 userId listingId amount quantity db) db
  | respondToOffer caller updatedAt offerId action =>
      (MarketBridge.respondToOffer a.1 caller updatedAt offerId action db).1
  | expireOffers => MarketBridge.expireOffers a.1 db
  | checkout call => call.exec db
  | settlePayment args => commit (MarketBridge.settlePayment a.1 args db) db
  | refund call => call.exec a.1 db
  | resolveReconciliation reconciliationId status actorId note =>
      commit (MarketBridge.resolveReconciliation a.1 reconciliationId status actorId note db) db
  | shipOrder orderId leg => commit (transitionOrderStatus orderId leg.source leg.target db) db
  | confirmReceipt userId orderId =>
      commit (MarketBridge.confirmReceipt a.1 userId orderId db) db
  | cancelOrder load orderId actorId reason role =>
      commit (cancelLoadedOrder a.1 load orderId actorId reason role db) db
  | raiseDispute userId request => commit (MarketBridge.raiseDispute a.1 userId request db) db
  | resolveDispute adminId disputeId resolutionType resolution =>
      commit (MarketBridge.resolveDispute a.1 adminId disputeId resolutionType resolution db) db
  | payout call => call.exec a.1 db
  | elsewhere other =>
      { other with
        payments := db.payments
        refunds := db.refunds
        reconciliations := db.reconciliations
        payouts := db.payouts
        orders := db.orders
        listings := db.listings
        offers := db.offers
        disputes := db.disputes }

end MarketStep

end MarketBridge
