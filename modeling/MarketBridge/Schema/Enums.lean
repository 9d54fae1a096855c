import Mathlib.Data.Rat.Floor

/-!
# Schema enumerations

The enumerations of the Prisma schema, the scalar conventions of the services
(JavaScript truthiness, money tolerance and rounding) and the error value that
an operation raises.
-/

namespace MarketBridge

inductive PaymentStatus where
  | pending
  | processing
  | paid
  | failed
  | refunded
  | refundPending
  | reconciliationRequired
deriving DecidableEq, Repr

inductive PaymentType where
  | marketplace
  | transport
  | inspector
  | advertising
  | digital
  | marketplaceInstallment
deriving DecidableEq, Repr

inductive PaymentRefundStatus where
  | requested
  | processing
  | completed
  | failed
  | cancelled
deriving DecidableEq, Repr

inductive PaymentReconciliationStatus where
  | open
  | resolved
  | dismissed
deriving DecidableEq, Repr

/-- The `reason` texts under which the services open a reconciliation row. -/
inductive ReconciliationReason where
  | providerAmountMissing
  | providerAmountMismatch
  | providerCurrencyMismatch
  | paymentReceivedWhileOrderDisputed
  | paymentReceivedForCancelledOrder
  | insufficientInventoryAfterProviderPayment
deriving DecidableEq, Repr

inductive PaymentLedgerEntryType where
  | sellerEarning
  | transporterEarning
  | inspectorEarning
  | platformCommission
  | platformRevenue
  | refund
deriving DecidableEq, Repr

inductive PaymentObligationStatus where
  | open
  | paid
  | cancelled
deriving DecidableEq, Repr

inductive PayoutPayeeRole where
  | seller
  | transporter
  | inspector
deriving DecidableEq, Repr

inductive PayoutStatus where
  | held
  | onHoldDispute
  | released
  | paidOut
  | cancelled
deriving DecidableEq, Repr

inductive OrderStatus where
  | pendingPayment
  | confirmed
  | transportArranged
  | inTransit
  | delivered
  | completed
  | disputed
  | cancelled
deriving DecidableEq, Repr

inductive ListingCategory where
  | agricultural
  | product
  | digital
deriving DecidableEq, Repr

inductive ListingStatus where
  | draft
  | active
  | underNegotiation
  | sold
  | cancelled
  | expired
deriving DecidableEq, Repr

inductive OfferStatus where
  | pending
  | selected
  | countered
  | provisional
  | accepted
  | rejected
  | withdrawn
  | expired
deriving DecidableEq, Repr

inductive OfferCounterParty where
  | buyer
  | seller
deriving DecidableEq, Repr

inductive InspectionStatus where
  | requested
  | accepted
  | inProgress
  | completed
  | cancelled
  | stalled
deriving DecidableEq, Repr

inductive InspectionMode where
  | sellerRequested
  | buyerRequested
  | joint
deriving DecidableEq, Repr

inductive InspectionFeePayer where
  | buyer
  | seller
  | split
deriving DecidableEq, Repr

inductive InspectionQuoteStatus where
  | pending
  | selected
  | countered
  | accepted
  | rejected
  | withdrawn
  | expired
deriving DecidableEq, Repr

inductive InspectionArrivalStatus where
  | pendingSeller
  | confirmed
  | autoConfirmed
  | disputed
  | resolvedArrived
  | resolvedNoShow
deriving DecidableEq, Repr

inductive BuyerDecision where
  | buy
  | cancel
deriving DecidableEq, Repr

inductive PriceReviewStatus where
  | pending
  | countered
  | accepted
  | rejected
deriving DecidableEq, Repr

inductive PriceReviewReason where
  | marketPriceRise
  | marketPriceFall
  | qualityOrQuantityChange
  | freshnessOrDamage
  | otherInspectionFinding
  | buyerWantsCancellation
deriving DecidableEq, Repr

inductive BuyerReportReviewStatus where
  | pending
  | accepted
  | declined
deriving DecidableEq, Repr

inductive ArrangingParty where
  | seller
  | buyer
  | joint
deriving DecidableEq, Repr

inductive TransportMethod where
  | ownTruck
  | hireTransporter
deriving DecidableEq, Repr

inductive TransportStatus where
  | requested
  | accepted
  | quoted
  | pickup
  | inTransit
  | delivered
  | cancelled
deriving DecidableEq, Repr

inductive TransportQuoteStatus where
  | pending
  | selected
  | countered
  | accepted
  | rejected
  | withdrawn
  | expired
deriving DecidableEq, Repr

inductive QuoteCounterParty where
  | requester
  | provider
deriving DecidableEq, Repr

inductive TransportEvidenceType where
  | pickup
  | loading
  | delivery
  | incident
deriving DecidableEq, Repr

inductive RecoveryRequestType where
  | inspection
  | transport
  | offer
deriving DecidableEq, Repr

inductive RecoveryRequestStatus where
  | pending
  | approved
  | rejected
deriving DecidableEq, Repr

inductive TruckAvailability where
  | available
  | busy
  | offline
deriving DecidableEq, Repr

inductive DigitalPurchaseStatus where
  | pending
  | completed
  | refunded
  | cancelled
deriving DecidableEq, Repr

inductive AdType where
  | featuredListing
  | topOfCategory
  | sponsoredSearch
  | banner
  | telegramPromotion
deriving DecidableEq, Repr

inductive AdStatus where
  | pending
  | active
  | pendingPayment
  | paidPendingReview
  | approved
  | scheduled
  | published
  | expired
  | rejected
  | cancelled
deriving DecidableEq, Repr

inductive DisputeStatus where
  | open
  | underReview
  | resolved
  | rejected
deriving DecidableEq, Repr

/-- The `OrderEvent.type` texts written by the modelled operations. -/
inductive OrderEventType where
  | orderCreated
  | orderCancelled
  | buyerDecisionMade
  | receiptConfirmed
  | paymentStatusChanged
  | paymentReconciliationRequired
  | paymentReconciliationResolved
  | paymentRefundRequested
  | paymentRefunded
  | paymentRefundFailed
  | transportStatusChanged
  | transportWorkflowExpired
  | buyerDecisionDeadlineExpired
  | sellerPreparationDeadlineExpired
  | buyerLoadingDeadlineExpired
  | inspectionWorkflowExpired
  | inspectionAgreementClosed
  | priceReviewAccept
  | priceReviewAcceptCancellation
  | priceReviewCounter
  | priceReviewReject
  | transportSellerPickupConfirmed
  | transportLoadingConfirmedByBuyer
  | transportCoordinationClosed
  | providerAgreementReleased
  | requesterAgreementReleased
  | workflowRecoveryApproved
  | transportLoadingReportSubmitted
  | transportTruckArrived
  | transportCreated
  | inspectionAccepted
  | inspectionInspectorArrived
  | inspectionArrivalCheckedIn
  | inspectionArrivalDisputed
  | inspectionArrivalResolved
  | inspectionNoShow
  | inspectionPaymentComplete
  | inspectionStarted
deriving DecidableEq, Repr

/-- The error a service throws: message, HTTP status and machine code. -/
structure ApiError where
  message : String
  status : Option Nat := none
  code : Option String := none
deriving DecidableEq, Repr

/-! ## JavaScript conventions -/

/-- `a || b` on nullable strings: the empty string is falsy. -/
def jsOr (a b : Option String) : Option String :=
  match a with
  | none => b
  | some s => if s = "" then b else some s

def truthy (a : Option String) : Bool :=
  match a with
  | none => false
  | some s => s ≠ ""

/-- A number read with `Number(x)`; everything that is no number is one value. -/
inductive JsNumber where
  | finite (value : ℚ)
  | notFinite
deriving DecidableEq, Repr

/-- `String(s).toUpperCase()`, as the characters it consists of. -/
def upper (s : String) : List Char :=
  s.toList.map Char.toUpper

/-- `text.includes(part)` on an upper-cased text. -/
def includesText (text : List Char) (part : String) : Bool :=
  text.tails.any fun rest => part.toList.isPrefixOf rest

/-- `\s`. -/
def isSpace (c : Char) : Bool :=
  c.toNat ∈ [0x09, 0x0A, 0x0B, 0x0C, 0x0D, 0x20, 0xA0, 0x1680, 0x2028, 0x2029, 0x202F, 0x205F,
    0x3000, 0xFEFF] ||
    0x2000 ≤ c.toNat && c.toNat ≤ 0x200A

/-- `text.trim()`. -/
def trimText (text : String) : String :=
  String.ofList ((text.toList.dropWhile isSpace).reverse.dropWhile isSpace).reverse

/-! ## Money -/

/-- `moneyEqual(a, b)`, where `b` may fail to be a number. -/
def moneyEqual (a : ℚ) (b : JsNumber) : Bool :=
  match b with
  | .finite q => |a - q| < 1 / 100
  | .notFinite => false

/-- `Math.round(value * 100) / 100`. -/
def roundMoney (value : ℚ) : ℚ :=
  (⌊value * 100 + 1 / 2⌋ : ℚ) / 100

/-- Rounding of a `Decimal(18, 2)` column: half away from zero. -/
def toDecimal (value : ℚ) : ℚ :=
  if 0 ≤ value then roundMoney value else -roundMoney (-value)

theorem moneyEqual_self (a : ℚ) :
    moneyEqual a (.finite a) = true := by
  simp [moneyEqual]

end MarketBridge
