import MarketBridge.Order.Record
import MarketBridge.Payment.StateMachine

/-!
# Payment obligations

`paymentObligationService.js`: what the parties of an order owe.  Obligations
have stable keys, so a synchronisation reopens the row of a key instead of
creating a second one.
-/

namespace MarketBridge

open Relational

/-! ## What is owed -/

def goodsPaymentUnlocked (job : Option TransportJob) : Bool :=
  job.any fun job =>
    match job.method with
    | .hireTransporter => job.buyerLoadingConfirmedAt.isSome
    | .ownTruck => job.sellerPickupConfirmedAt.isSome

/-- An entry of `desired`. -/
structure DesiredObligation where
  obligationKey : ObligationKey
  type : PaymentType
  payerId : Id
  beneficiaryId : Option Id
  amount : ℚ
  inspectionRequestId : Option Id := none
  transportJobId : Option Id := none
  keyed : obligationKey.type = type := by rfl
deriving DecidableEq, Repr

namespace InspectionRequest

def lockedTerm {α : Type} (r : InspectionRequest) (column : Option α) : Option α :=
  if r.feeTermsLockedAt.isSome then column else none

def totalFee (r : InspectionRequest) (fee : ℚ) : ℚ :=
  (r.lockedTerm r.lockedFee).getD fee

def payerMode (r : InspectionRequest) : InspectionFeePayer :=
  (r.lockedTerm r.lockedFeePayer).getD r.feePayer

def buyerShare (r : InspectionRequest) (fee : ℚ) : ℚ :=
  (r.lockedTerm r.lockedBuyerFeeAmount).getD
    (match r.payerMode with
    | .seller => 0
    | .split => roundMoney (r.totalFee fee / 2)
    | .buyer => r.totalFee fee)

def sellerShare (r : InspectionRequest) (fee : ℚ) : ℚ :=
  (r.lockedTerm r.lockedSellerFeeAmount).getD
    (match r.payerMode with
    | .buyer => 0
    | .split => roundMoney (r.totalFee fee - r.buyerShare fee)
    | .seller => r.totalFee fee)

end InspectionRequest

/-- `addInspection`: one share of an inspection fee, if there is anything to pay. -/
def inspectionObligation (orderId requestId inspectorId : Id) (mode : InspectionFeePayer)
    (role : OfferCounterParty) (payerId : Id) (amount : ℚ) : List DesiredObligation :=
  if 0 < amount then
    [{ obligationKey := if mode = .split then .inspectionShare orderId requestId role
         else .inspection orderId requestId
       type := .inspector
       payerId := payerId
       beneficiaryId := some inspectorId
       amount := amount
       inspectionRequestId := some requestId
       keyed := by split <;> rfl }]
  else
    []

/-- The fee of a confirmed inspection, split between the parties as agreed. -/
def inspectionObligations (orderId : Id) (order : Order) (requestId : Id)
    (r : InspectionRequest) : List DesiredObligation :=
  match r.sellerConfirmedAt, r.fee, r.inspectorId with
  | some _, some fee, some inspectorId =>
      if 0 < fee then
        inspectionObligation orderId requestId inspectorId r.payerMode .buyer order.buyerId
            (r.buyerShare fee) ++
          inspectionObligation orderId requestId inspectorId r.payerMode .seller order.sellerId
            (r.sellerShare fee)
      else
        []
  | _, _, _ => []

/-- The hired transport has an owner and a fee, whatever the status of its job. -/
def transportStillAgreed (job : TransportJob) : Option (Id × ℚ) :=
  match job.method, job.agreedAmount, job.truckOwnerId with
  | .hireTransporter, some amount, some owner =>
      if 0 < amount then some (owner, amount) else none
  | _, _, _ => none

def goodsObligation (orderId : Id) (order : Order) (job : Option TransportJob) :
    List DesiredObligation :=
  if goodsPaymentUnlocked job then
    [{ obligationKey := .ofType orderId .marketplace
       type := .marketplace
       payerId := order.buyerId
       beneficiaryId := some order.sellerId
       amount := order.finalPrice }]
  else
    []

def transportObligation (orderId : Id) (order : Order) (job : Option (Id × TransportJob)) :
    List DesiredObligation :=
  match job with
  | none => []
  | some (jobId, job) =>
      match transportStillAgreed job with
      | none => []
      | some (owner, amount) =>
          [{ obligationKey := .ofType orderId .transport
             type := .transport
             payerId := order.buyerId
             beneficiaryId := some owner
             amount := amount
             transportJobId := some jobId }]

/-- The list `desired`. -/
def desiredObligations (db : Db) (orderId : Id) (order : Order) : List DesiredObligation :=
  let job := transportJobOf db orderId
  goodsObligation orderId order (job.map Prod.snd) ++
    ((liveInspections db orderId).flatMap fun e =>
      inspectionObligations orderId order e.1 e.2) ++
    transportObligation orderId order job

/-! ## Synchronisation -/

def obligationByKey (db : Db) (key : ObligationKey) : Option (Id × PaymentObligation) :=
  db.obligations.findFirst fun _ b => b.obligationKey = key

/-- The `payment` relation of an obligation: `Payment.obligationId` is unique. -/
def obligationPayment (db : Db) (obligationId : Id) : Option (Id × Payment) :=
  db.payments.findFirst fun _ p => p.obligationId = some obligationId

def Payment.isPendingOrPaid (p : Payment) : Bool :=
  p.status ∈ [PaymentStatus.pending, .paid]

/-- The payment attempt that settles a desired obligation. -/
def matchingPayment (db : Db) (orderId : Id) (item : DesiredObligation) :
    Option (Id × Payment) :=
  if item.type = .inspector then
    db.payments.findFirst fun _ p =>
      p.inspectionRequestId = item.inspectionRequestId && p.type = .inspector &&
        p.createdById = some item.payerId && p.isPendingOrPaid
  else
    db.payments.findFirst fun _ p =>
      p.orderId = some orderId && p.type = item.type && p.isPendingOrPaid &&
        (item.type ≠ .transport || p.transportJobId = item.transportJobId)

def isPaidPayment (payment : Option (Id × Payment)) : Bool :=
  payment.any fun e => e.2.status = .paid

/-- The row of the key once a synchronisation has written it. -/
def PaymentObligation.synced (b : PaymentObligation) (item : DesiredObligation)
    (status : PaymentObligationStatus) : PaymentObligation :=
  if hkey : b.obligationKey = item.obligationKey then
    { b with
      type := item.type
      payerId := item.payerId
      beneficiaryId := item.beneficiaryId
      amount := item.amount
      currency := "ETB"
      inspectionRequestId := item.inspectionRequestId
      transportJobId := item.transportJobId
      status := status
      keyed := ⟨b.keyed.1, hkey ▸ item.keyed⟩ }
  else
    b

/-- The row that is created for a key that has none. -/
def DesiredObligation.row (item : DesiredObligation) (status : PaymentObligationStatus) :
    PaymentObligation :=
  { orderId := item.obligationKey.orderId
    type := item.type
    status := status
    obligationKey := item.obligationKey
    inspectionRequestId := item.inspectionRequestId
    transportJobId := item.transportJobId
    payerId := item.payerId
    beneficiaryId := item.beneficiaryId
    amount := item.amount
    keyed := ⟨rfl, item.keyed⟩ }

def upsertObligation (item : DesiredObligation) (status : PaymentObligationStatus)
    (db : Db) : Id × Db :=
  match obligationByKey db item.obligationKey with
  | some (o, _) =>
      (o, { db with obligations := db.obligations.update o (·.synced item status) })
  | none =>
      (db.obligations.size,
        { db with obligations := db.obligations.create (item.row status) })

/-- An obligation without a payment takes over the attempt that was made for it. -/
def linkPayment (payment : Option (Id × Payment)) (obligationId : Id) (db : Db) : Db :=
  match payment with
  | none => db
  | some (paymentId, _) =>
      if (obligationPayment db obligationId).isSome then
        db
      else
        { db with
          payments := db.payments.update paymentId
            ({ · with obligationId := some obligationId }) }

/-- One pass of the loop over `desired`; `loaded` is the state the order was loaded in. -/
def syncObligation (loaded : Db) (orderId : Id) (item : DesiredObligation) (db : Db) : Db :=
  let linked := (obligationByKey db item.obligationKey).bind fun e => obligationPayment db e.1
  let payment := matchingPayment loaded orderId item
  let status := if isPaidPayment payment || isPaidPayment linked then
      PaymentObligationStatus.paid
    else
      .open
  let written := upsertObligation item status db
  linkPayment payment written.1 written.2

/-- Cancel the open obligations that satisfy `p`. -/
def retireObligations (p : PaymentObligation -> Bool) (db : Db) : Db :=
  { db with
    obligations := db.obligations.updateMany (fun _ b => b.status = .open && p b)
      ({ · with status := .cancelled }) }

def isUnconfirmedFee (loaded : Db) (orderId : Id) (b : PaymentObligation) : Bool :=
  b.orderId = orderId && b.type = .inspector &&
    b.inspectionRequestId.any fun requestId =>
      (liveInspections loaded orderId).any fun e =>
        e.1 = requestId && e.2.sellerConfirmedAt.isNone

/-- What a synchronisation retires at its end. -/
def isRetired (loaded : Db) (orderId : Id) (desired : List DesiredObligation)
    (b : PaymentObligation) : Bool :=
  let job := transportJobOf loaded orderId
  b.orderId = orderId &&
    match b.type with
    | .marketplace =>
        !goodsPaymentUnlocked (job.map Prod.snd) &&
          b.obligationKey = .ofType orderId .marketplace
    | .transport => (job.bind fun e => transportStillAgreed e.2).isNone
    | .inspector => b.obligationKey ∉ desired.map (·.obligationKey)
    | _ => false

/-- `syncOrderPaymentObligations`. -/
def syncOrderPaymentObligations (orderId : Id) (db : Db) : Db :=
  match db.orders.findUnique orderId with
  | none => db
  | some order =>
      let desired := desiredObligations db orderId order
      retireObligations (isRetired db orderId desired)
        (desired.foldl (fun s item => syncObligation db orderId item s)
          (retireObligations (isUnconfirmedFee db orderId) db))

/-- `findPaymentObligation`. -/
def findPaymentObligation (db : Db) (orderId : Id) (type : PaymentType)
    (inspectionRequestId payerId : Option Id) : Option (Id × PaymentObligation) :=
  if type = .inspector then
    let byPayer := match payerId with
      | none => none
      | some payer =>
          db.obligations.findFirst fun _ b =>
            b.orderId = orderId && b.type = PaymentType.inspector &&
              b.inspectionRequestId = inspectionRequestId && b.payerId = payer
    byPayer.or (inspectionRequestId.bind fun requestId =>
      obligationByKey db (.inspection orderId requestId))
  else
    obligationByKey db (.ofType orderId type)

end MarketBridge
