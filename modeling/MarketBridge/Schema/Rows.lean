import MarketBridge.Relational.Transaction
import MarketBridge.Schema.Enums

/-!
# Database rows

One structure per Prisma model, with the columns that the modelled services
read or write, and the database that holds their tables.  Amounts and
quantities are exact rationals and instants are milliseconds.
-/

namespace MarketBridge

open Relational

abbrev Id := Nat

structure Payment where
  orderId : Option Id := none
  createdById : Option Id := none
  digitalProductId : Option Id := none
  advertisementId : Option Id := none
  inspectionRequestId : Option Id := none
  transportJobId : Option Id := none
  transportQuoteId : Option Id := none
  obligationId : Option Id := none
  installmentCount : Option Nat := none
  installmentSequence : Option Nat := none
  parentPaymentId : Option Id := none
  type : PaymentType
  amount : ℚ
  currency : String := "ETB"
  method : Option String := none
  status : PaymentStatus := .pending
  reference : Option String := none
  provider : Option String := none
  chapaTxRef : Option String := none
  providerTransactionId : Option String := none
  commissionAmount : Option ℚ := none
  netAmount : Option ℚ := none
  idempotencyKey : Option String := none
  commissionRate : Option ℚ := none
deriving DecidableEq, Repr

structure PaymentRefund where
  paymentId : Id
  requestedById : Option Id := none
  amount : ℚ
  currency : String := "ETB"
  reason : Option String := none
  status : PaymentRefundStatus := .requested
  provider : Option String := none
  providerRefundId : Option String := none
  failureReason : Option String := none
  completedAt : Option Nat := none
deriving DecidableEq, Repr

structure PaymentEvent where
  paymentId : Id
  provider : String
  eventId : String
  status : PaymentStatus
deriving DecidableEq, Repr

structure PaymentReconciliation where
  paymentId : Id
  provider : String
  observedStatus : Option PaymentStatus := none
  expectedAmount : ℚ
  observedAmount : Option ℚ := none
  expectedCurrency : String
  observedCurrency : Option String := none
  reason : ReconciliationReason
  status : PaymentReconciliationStatus := .open
  resolvedById : Option Id := none
  resolvedAt : Option Nat := none
  resolutionNote : Option String := none
deriving DecidableEq, Repr

structure PaymentLedgerEntry where
  paymentId : Id
  userId : Option Id := none
  type : PaymentLedgerEntryType
  amount : ℚ
  currency : String
deriving DecidableEq, Repr

/-- The stable business key of an obligation, the text of `obligationKey`. -/
inductive ObligationKey where
  /-- `ORDER:<order>:<type>`. -/
  | ofType (orderId : Id) (type : PaymentType)
  /-- `ORDER:<order>:INSPECTOR:<request>`. -/
  | inspection (orderId inspectionRequestId : Id)
  /-- `ORDER:<order>:INSPECTOR:<request>:<role>`, a share of a split fee. -/
  | inspectionShare (orderId inspectionRequestId : Id) (role : OfferCounterParty)
deriving DecidableEq, Repr

namespace ObligationKey

def orderId : ObligationKey -> Id
  | ofType orderId _ => orderId
  | inspection orderId _ => orderId
  | inspectionShare orderId _ _ => orderId

def type : ObligationKey -> PaymentType
  | ofType _ type => type
  | _ => .inspector

end ObligationKey

/-- What an order owes; the key names the order and the type of the row. -/
structure PaymentObligation where
  orderId : Id
  type : PaymentType
  status : PaymentObligationStatus := .open
  obligationKey : ObligationKey := .ofType orderId type
  inspectionRequestId : Option Id := none
  transportJobId : Option Id := none
  payerId : Id := 0
  beneficiaryId : Option Id := none
  amount : ℚ := 0
  currency : String := "ETB"
  keyed : obligationKey.orderId = orderId ∧ obligationKey.type = type := by exact ⟨rfl, rfl⟩
deriving DecidableEq, Repr

structure Payout where
  orderId : Option Id := none
  payeeRole : PayoutPayeeRole
  payeeId : Id
  paymentId : Id
  amount : ℚ
  currency : String := "ETB"
  status : PayoutStatus := .held
  releaseAt : Nat
  releasedAt : Option Nat := none
  paidOutAt : Option Nat := none
  paidOutById : Option Id := none
  payoutReference : Option String := none
deriving DecidableEq, Repr

/--
An order.  `goodsCommitted` and `cancelledWith` are history variables and no
columns, and no operation reads them: `goodsCommitted` is set by the settlement that commits the
goods of the order and cleared by the cancellation that gives them back, and
`cancelledWith` holds the inspections completed when the order was cancelled.
-/
structure Order where
  listingId : Id
  buyerId : Id
  sellerId : Id
  finalPrice : ℚ
  quantity : ℚ
  status : OrderStatus := .pendingPayment
  agreedOfferId : Option Id := none
  buyerDecisionDueAt : Option Nat := none
  paymentDueAt : Option Nat := none
  goodsCommitted : Bool := false
  cancelledWith : Option (List Id) := none
  buyerDecision : Option BuyerDecision := none
  buyerReviewedReportAt : Option Nat := none
deriving DecidableEq, Repr

structure Listing where
  sellerId : Id
  category : ListingCategory := .agricultural
  quantity : ℚ
  availableQuantity : ℚ
  askingPrice : ℚ
  minAcceptablePrice : Option ℚ := none
  status : ListingStatus := .active
  inspectionRequired : Bool := false
  pickupWindowEnd : Option Nat := none
  pickupWindowStart : Option Nat := none
  createdByInspectorId : Option Id := none
deriving DecidableEq, Repr

structure Offer where
  listingId : Id
  buyerId : Id
  sellerId : Id
  amount : ℚ
  quantity : Option ℚ := none
  parentOfferId : Option Id := none
  expiresAt : Option Nat := none
  negotiationDeadlineAt : Option Nat := none
  status : OfferStatus := .pending
  counterAmount : Option ℚ := none
  counteredBy : Option OfferCounterParty := none
  createdAt : Nat := 0
deriving DecidableEq, Repr

structure TransportJob where
  orderId : Id
  method : TransportMethod
  truckOwnerId : Option Id := none
  truckId : Option Id := none
  agreedAmount : Option ℚ := none
  status : TransportStatus := .requested
  workflowDueAt : Option Nat := none
  arrangingParty : ArrangingParty := .joint
  sellerPickupConfirmedAt : Option Nat := none
  sellerPreparationDueAt : Option Nat := none
  buyerLoadingConfirmedAt : Option Nat := none
  buyerLoadingDueAt : Option Nat := none
  truckArrivedAt : Option Nat := none
  pickupConfirmedAt : Option Nat := none
  deliveredConfirmedAt : Option Nat := none
  incidentNotes : Option String := none
  acceptedReleaseCount : Nat := 0
deriving DecidableEq, Repr

structure TransportQuote where
  transportJobId : Id
  truckOwnerId : Id
  truckId : Id
  amount : ℚ
  status : TransportQuoteStatus := .pending
  expiresAt : Option Nat := none
  parentQuoteId : Option Id := none
  counterAmount : Option ℚ := none
  counteredBy : Option QuoteCounterParty := none
  message : Option String := none
deriving DecidableEq, Repr

structure Truck where
  ownerId : Id
  availability : TruckAvailability := .available
deriving DecidableEq, Repr

structure InspectionRequest where
  orderId : Option Id := none
  inspectorId : Option Id := none
  status : InspectionStatus := .requested
  completedAt : Option Nat := none
  reportAcceptedAt : Option Nat := none
  mode : InspectionMode := .buyerRequested
  sellerConfirmedAt : Option Nat := none
  inspectorOnSiteConfirmedAt : Option Nat := none
  fee : Option ℚ := none
  feePayer : InspectionFeePayer := .buyer
  feeTermsLockedAt : Option Nat := none
  lockedFee : Option ℚ := none
  lockedFeePayer : Option InspectionFeePayer := none
  lockedBuyerFeeAmount : Option ℚ := none
  lockedSellerFeeAmount : Option ℚ := none
  workflowDueAt : Option Nat := none
deriving DecidableEq, Repr

structure InspectionQuote where
  inspectionRequestId : Id
  inspectorId : Id
  amount : ℚ
  status : InspectionQuoteStatus := .pending
  expiresAt : Option Nat := none
  parentQuoteId : Option Id := none
  counterAmount : Option ℚ := none
  counteredBy : Option QuoteCounterParty := none
  message : Option String := none
deriving DecidableEq, Repr

structure DigitalProduct where
  sellerId : Id
  price : ℚ := 0
  status : ListingStatus := .active
deriving DecidableEq, Repr

structure DigitalPurchase where
  productId : Id
  buyerId : Id
  paymentId : Id
  status : DigitalPurchaseStatus := .pending
deriving DecidableEq, Repr

structure Advertisement where
  type : AdType
  status : AdStatus := .pendingPayment
  startDate : Nat
  advertiserId : Id := 0
  priceQuoted : ℚ := 0
  amountPaid : Option ℚ := none
  publishedAt : Option Nat := none
  endDate : Nat := startDate
  campaignReference : String := ""
  rejectionReason : Option String := none
  telegramPostReference : Option String := none
deriving DecidableEq, Repr

structure Dispute where
  orderId : Id
  raisedById : Id
  againstId : Id
  disputeType : String
  status : DisputeStatus := .open
  resolution : Option String := none
  previousOrderStatus : Option OrderStatus := none
deriving DecidableEq, Repr

structure PriceReview where
  orderId : Id
  proposedById : Id
  proposedPrice : ℚ
  reasonCode : PriceReviewReason
  status : PriceReviewStatus := .pending
  parentId : Option Id := none
deriving DecidableEq, Repr

structure InspectionReport where
  requestId : Id
deriving DecidableEq, Repr

structure TransportLoadingReport where
  transportJobId : Id
  submittedById : Id
  buyerReviewStatus : BuyerReportReviewStatus := .pending
  buyerReviewedAt : Option Nat := none
  buyerReviewedById : Option Id := none
deriving DecidableEq, Repr

structure TransportEvidence where
  transportJobId : Id
  type : TransportEvidenceType
deriving DecidableEq, Repr

structure RecoveryRequest where
  orderId : Id
  type : RecoveryRequestType
  status : RecoveryRequestStatus := .pending
  approvedById : Option Id := none
  formReleasedAt : Option Nat := none
deriving DecidableEq, Repr

structure OrderEvent where
  orderId : Id
  type : OrderEventType
  createdAt : Nat
deriving DecidableEq, Repr

structure Db where
  payments : Table Payment := .empty
  refunds : Table PaymentRefund := .empty
  paymentEvents : Table PaymentEvent := .empty
  reconciliations : Table PaymentReconciliation := .empty
  ledgerEntries : Table PaymentLedgerEntry := .empty
  obligations : Table PaymentObligation := .empty
  payouts : Table Payout := .empty
  orders : Table Order := .empty
  listings : Table Listing := .empty
  offers : Table Offer := .empty
  transportJobs : Table TransportJob := .empty
  transportQuotes : Table TransportQuote := .empty
  trucks : Table Truck := .empty
  inspectionRequests : Table InspectionRequest := .empty
  inspectionQuotes : Table InspectionQuote := .empty
  digitalProducts : Table DigitalProduct := .empty
  digitalPurchases : Table DigitalPurchase := .empty
  advertisements : Table Advertisement := .empty
  disputes : Table Dispute := .empty
  orderEvents : Table OrderEvent := .empty
  priceReviews : Table PriceReview := .empty
  inspectionReports : Table InspectionReport := .empty
  loadingReports : Table TransportLoadingReport := .empty
  transportEvidence : Table TransportEvidence := .empty
  recoveryRequests : Table RecoveryRequest := .empty
deriving DecidableEq, Repr

/-- The commission percentages that `commissionRateFor` reads, by payment type. -/
structure CommissionRates where
  marketplace : ℚ := 0
  transport : ℚ := 0
  inspector : ℚ := 0
  advertising : ℚ := 0
  digital : ℚ := 0
deriving DecidableEq, Repr

/-- What a service reads from outside the database: the clock and its settings. -/
structure Env where
  /-- `Date.now()`. -/
  now : Nat
  /-- `SELLER_PAYOUT_HOLD_DAYS` in milliseconds. -/
  payoutHoldMs : Nat := 3 * 24 * 60 * 60 * 1000
  /-- `INSPECTION_REPORT_REVIEW_HOURS` in milliseconds. -/
  reportReviewMs : Nat := 48 * 60 * 60 * 1000
  /-- `ORDER_PAYMENT_TIMEOUT_HOURS` in milliseconds. -/
  paymentTimeoutMs : Nat := 48 * 60 * 60 * 1000
  /-- `INSPECTION_WORKFLOW_TIMEOUT_HOURS` in milliseconds. -/
  inspectionWorkflowMs : Nat := 48 * 60 * 60 * 1000
  /-- `OFFER_RELEASE_AFTER_HOURS` in milliseconds. -/
  releaseAfterMs : Nat := 72 * 60 * 60 * 1000
  /-- `OFFER_PROVISIONAL_RELEASE_AFTER_HOURS` in milliseconds. -/
  provisionalReleaseAfterMs : Nat := 24 * 60 * 60 * 1000
  /-- `INSPECTOR_FEE_FREEZE_ON_REPORT_DISPUTE`. -/
  freezeInspectorFeeOnReportDispute : Bool := true
  /-- The generated client knows `Dispute.resolutionType` and `resolutionAppliedAt`,
  which the resolution writes and the schema does not declare. -/
  hasResolutionColumns : Bool := false
  /-- `MARKETPLACE_COMMISSION_RATE` and its siblings. -/
  commissionRates : CommissionRates := {}
  /-- `SELLER_TRANSPORT_PREPARATION_TIMEOUT_HOURS` in milliseconds. -/
  sellerPreparationMs : Nat := 24 * 60 * 60 * 1000
  /-- `LOADING_APPROVAL_TIMEOUT_HOURS` in milliseconds. -/
  loadingApprovalMs : Nat := 24 * 60 * 60 * 1000
  /-- `TRANSPORT_WORKFLOW_TIMEOUT_HOURS` in milliseconds. -/
  transportWorkflowMs : Nat := 48 * 60 * 60 * 1000
  /-- `TRANSPORT_RELEASE_AFTER_HOURS` in milliseconds. -/
  transportReleaseAfterMs : Nat := 72 * 60 * 60 * 1000
  /-- `RELEASE_AFTER_ACCEPT_HOURS` in milliseconds. -/
  releaseAfterAcceptMs : Nat := 24 * 60 * 60 * 1000
  /-- `INSPECTION_RELEASE_AFTER_HOURS` in milliseconds. -/
  inspectionReleaseAfterMs : Nat := 72 * 60 * 60 * 1000
  /-- `INSPECTION_SELLER_CONFIRM_HOURS` in milliseconds. -/
  sellerConfirmationMs : Nat := 24 * 60 * 60 * 1000
  /-- `INSPECTION_PAYMENT_HOURS` in milliseconds. -/
  inspectionPaymentMs : Nat := 24 * 60 * 60 * 1000
  /-- `INSPECTION_START_TIMEOUT_HOURS` in milliseconds. -/
  inspectionStartMs : Nat := 24 * 60 * 60 * 1000
  /-- `INSPECTION_COMPLETION_TIMEOUT_HOURS` in milliseconds. -/
  inspectionCompletionMs : Nat := 24 * 60 * 60 * 1000
  /-- `INSPECTION_ARRIVAL_WINDOW_HOURS` in milliseconds. -/
  arrivalWindowMs : Nat := 72 * 60 * 60 * 1000
  /-- `INSPECTION_ARRIVAL_DISPUTE_WINDOW_HOURS` in milliseconds. -/
  arrivalDisputeWindowMs : Nat := 2 * 60 * 60 * 1000
  /-- `INSPECTION_ARRIVAL_CODE_MAX_ATTEMPTS`. -/
  arrivalCodeMaxAttempts : Nat := 5
  /-- `INSPECTION_ARRIVAL_LATE_GRACE_MINUTES` in milliseconds. -/
  arrivalLateGraceMs : Nat := 60 * 60 * 1000
  /-- `INSPECTION_ARRIVAL_LATE_FALLBACK_HOURS` in milliseconds. -/
  arrivalLateFallbackMs : Nat := 24 * 60 * 60 * 1000
deriving DecidableEq, Repr

def env0 : Env :=
  { now := 0 }

abbrev Tx := Db -> Except ApiError Db

def related {ρ : Type} (t : Table ρ) (key : Option Id) : Option ρ :=
  key.bind t.findUnique

@[simp] theorem related_none {ρ : Type} (t : Table ρ) :
    related t none = none :=
  rfl

@[simp] theorem related_some {ρ : Type} (t : Table ρ) (i : Id) :
    related t (some i) = t.findUnique i :=
  rfl

end MarketBridge
