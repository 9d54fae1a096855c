import MarketBridge.Order.Lifecycle
import MarketBridge.Sms.Accounts

/-!
# Listings posted and edited in the app

`POST /listings` and `PATCH /listings/:id`.  The region, the coordinates, the dates of the harvest
and the media are columns of their own that nothing else here reads; they and their checks are
left out.  Times are milliseconds since the earliest date there is.
-/

namespace MarketBridge

open Relational

/-! ## Bodies -/

/-- A field that a body may leave out, or empty with `null` (and, where it is a number, `''`). -/
inductive BodyField (α : Type) where
  | missing
  | empty
  | given (value : α)
deriving DecidableEq, Repr

def BodyField.toOption {α : Type} : BodyField α -> Option α
  | .given value => some value
  | _ => none

/-- A date in a body. -/
inductive DateField where
  | missing
  /-- `null` or `''`. -/
  | empty
  /-- `0` or `false`, which is a date but no truth. -/
  | zero
  /-- Anything else, with the time that it reads as. -/
  | given (time : Option Nat)
deriving DecidableEq, Repr

/-- `new Date(0)`. -/
def epochMs : Nat := 8640000000000000

namespace DateField

/-- `parseDate`. -/
def parseDate : DateField -> Option Nat
  | missing => none
  | empty => none
  | zero => some epochMs
  | given time => time

def isTruthy : DateField -> Bool
  | given _ => true
  | _ => false

/-- The value is neither `undefined`, `null` nor `''`. -/
def isPresent : DateField -> Bool
  | missing => false
  | empty => false
  | _ => true

end DateField

def storedDate : Option Nat -> DateField
  | none => .empty
  | some time => .given (some time)

def DateField.orStored (field : DateField) (stored : Option Nat) : DateField :=
  if field = .missing then storedDate stored else field

structure PostBody where
  sellerId : Option Id := none
  category : Option ListingCategory := none
  title : Option String := none
  cropType : Option String := none
  quantity : JsNumber
  unit : String
  askingPrice : JsNumber
  minAcceptablePrice : Option JsNumber := none
  location : String
  pickupWindowStart : DateField := .missing
  pickupWindowEnd : DateField := .missing
  description : Option String := none
  /-- The value is `true` and not only true as a text. -/
  inspectionRequired : Bool := false
deriving DecidableEq, Repr

/-- Numbers are what `Number(value)` makes of them. -/
structure PatchBody where
  askingPrice : Option JsNumber := none
  minAcceptablePrice : BodyField JsNumber := .missing
  quantity : Option JsNumber := none
  status : Option ListingStatus := none
  pickupWindowStart : DateField := .missing
  pickupWindowEnd : DateField := .missing
  description : BodyField String := .missing
  inspectionRequired : Option Bool := none
deriving DecidableEq, Repr

/-! ## Checks of both -/

def JsNumber.isPositive : JsNumber -> Bool
  | .finite q => 0 < q
  | .notFinite => false

def JsNumber.value : JsNumber -> ℚ
  | .finite q => q
  | .notFinite => 0

/-- `a > b`, where a number that is not finite is larger than nothing. -/
def JsNumber.exceeds (a b : JsNumber) : Bool :=
  match a, b with
  | .finite a, .finite b => b < a
  | _, _ => false

/-- `validatePrices`. -/
def validatePrices (askingPrice : JsNumber) (minAcceptablePrice : Option JsNumber) :
    Option String :=
  if askingPrice.isPositive = false then
    some "askingPrice must be greater than 0"
  else
    match minAcceptablePrice with
    | none => none
    | some minimum =>
        if minimum.isPositive = false then
          some "minAcceptablePrice must be greater than 0"
        else if minimum.exceeds askingPrice then
          some "minAcceptablePrice cannot be greater than askingPrice"
        else
          none

/-- `validatePickupWindow`, where a missing value is the stored one. -/
def ListingCategory.validatePickupWindow (category : ListingCategory) (now : Nat)
    (pickupWindowStart pickupWindowEnd : DateField) (existingStart existingEnd : Option Nat) :
    Option String :=
  if category ≠ .agricultural then
    if pickupWindowStart.isTruthy || pickupWindowEnd.isTruthy then
      some "pickupWindowStart and pickupWindowEnd are only allowed for agricultural listings"
    else
      none
  else
    let startValue := pickupWindowStart.orStored existingStart
    let endValue := pickupWindowEnd.orStored existingEnd
    if startValue.isPresent ≠ endValue.isPresent then
      some "pickupWindowStart and pickupWindowEnd must be provided together"
    else if startValue.isPresent = false then
      none
    else
      match startValue.parseDate, endValue.parseDate with
      | some startTime, some endTime =>
          if endTime ≤ startTime then
            some "pickupWindowEnd must be later than pickupWindowStart"
          else if endTime ≤ now then
            some "pickupWindowEnd must be in the future"
          else
            none
      | _, _ => some "pickupWindowStart and pickupWindowEnd must be valid dates"

def overflowsPrice (price : ℚ) : Bool :=
  10 ^ 16 ≤ toDecimal price

def refuse (message : Option String) : Except ApiError Unit :=
  match message with
  | none => .ok ()
  | some message => .error (httpError 400 message)

section

variable (findContactInfo : String -> Option String)

/-! ## Posting -/

/-- The message of the first request validator that fails. -/
def postProblem (body : PostBody) : Option String :=
  if body.quantity.isPositive = false then
    some "Invalid value"
  else if body.unit = "" then
    some "Invalid value"
  else if body.askingPrice.isPositive = false then
    some ("askingPrice is the price PER UNIT (e.g. ETB per kg or per quintal), not the total, " ++
      "and must be greater than 0")
  else if body.location = "" then
    some "Invalid value"
  else if (body.minAcceptablePrice.map JsNumber.isPositive).getD true = false then
    some "Invalid value"
  else
    match body.description.map trimText with
    | none => none
    | some description =>
        if 5000 < description.length then
          some "description must be 5000 characters or fewer"
        else if (findContactInfo description).isSome then
          some ("For your protection, keep contact details off MarketBridge. Phone numbers, " ++
            "emails, links and chat-app handles are not allowed - negotiate and message here.")
        else
          none

/-- Who may list produce for whom. -/
def checkProduceSeller (caller : SmsUser) (category : ListingCategory) (sellerId : Option Id) :
    Except ApiError Unit :=
  if category ≠ .agricultural then
    .ok ()
  else
    match sellerId with
    | none => .error (httpError 400 "sellerId is required for agricultural listings")
    | some sellerId =>
        if .inspector ∈ caller.roles ∧ .seller ∉ caller.roles ∧ sellerId = caller.id then
          .error (httpError 403
            "Inspectors cannot list produce as themselves; sellerId must be the farmer.")
        else if .inspector ∉ caller.roles ∧ sellerId ≠ caller.id then
          .error (httpError 403 "You can only create agricultural listings under your own account")
        else
          .ok ()

/-- The fields that one category needs and the other does not allow. -/
def categoryProblem (category : ListingCategory) (title cropType : Option String) :
    Option String :=
  if category = .agricultural then
    if cropType.getD "" = "" then some "cropType is required for agricultural listings" else none
  else if title.getD "" = "" then
    some "title is required for product listings"
  else if cropType.getD "" ≠ "" then
    some "cropType is only allowed for agricultural listings"
  else
    none

/-- The row that `POST /listings` creates. -/
def PostBody.row (caller : SmsUser) (sellerId : Id) (category : ListingCategory)
    (body : PostBody) : ProduceListing :=
  { sellerId := sellerId
    category := category
    title := jsOr (body.title.map trimText) none
    cropType := if category = .agricultural then body.cropType.map trimText else none
    description := body.description.map trimText
    quantity := body.quantity.value
    availableQuantity := body.quantity.value
    unit := trimText body.unit
    askingPrice := toDecimal body.askingPrice.value
    minAcceptablePrice := body.minAcceptablePrice.map fun minimum => toDecimal minimum.value
    location := trimText body.location
    pickupWindowStart :=
      if category = .agricultural ∧ body.pickupWindowStart.isTruthy then
        body.pickupWindowStart.parseDate
      else
        none
    pickupWindowEnd :=
      if category = .agricultural ∧ body.pickupWindowEnd.isTruthy then
        body.pickupWindowEnd.parseDate
      else
        none
    status := .active
    inspectionRequired := category = .agricultural || body.inspectionRequired
    createdByInspectorId := if .inspector ∈ caller.roles then some caller.id else none }

def findUser (users : List SmsUser) (id : Id) : Option SmsUser :=
  users.find? fun u => u.id = id

/-- The account that the listing is for. -/
def checkSeller (users : List SmsUser) (caller : SmsUser) (category : ListingCategory)
    (sellerId : Id) : Except ApiError Unit :=
  match findUser users sellerId with
  | none => .error (httpError 404 "Seller account not found")
  | some seller =>
      if category = .agricultural ∧ .seller ∉ seller.roles ∧
          ¬ (.inspector ∈ caller.roles ∧ sellerId ≠ caller.id) then
        .error (httpError 400 "The agricultural seller account is not enabled for selling")
      else
        .ok ()

def PostBody.seller (caller : SmsUser) (category : ListingCategory) (body : PostBody) : Id :=
  if category = .agricultural then body.sellerId.getD 0 else caller.id

def windowNotGiven (category : ListingCategory) (body : PostBody) : Option String :=
  if category = .agricultural ∧ body.pickupWindowEnd.isTruthy = false then
    some "Agricultural listings require pickupWindowStart and pickupWindowEnd."
  else
    none

/-- The checks of `POST /listings`. -/
def checkPost (s : SmsServer) (caller : SmsUser) (category : ListingCategory) (body : PostBody) :
    Except ApiError Unit := do
  refuse (postProblem findContactInfo body)
  checkProduceSeller caller category body.sellerId
  refuse (categoryProblem category (body.title.map trimText) (body.cropType.map trimText))
  refuse (validatePrices body.askingPrice body.minAcceptablePrice)
  refuse (category.validatePickupWindow s.now body.pickupWindowStart body.pickupWindowEnd none none)
  refuse (windowNotGiven category body)
  checkSeller s.users caller category (body.seller caller category)

/-- The database refuses an id that exists and a price that does not fit. -/
def createFails (s : SmsServer) (newId : String) (body : PostBody) : Bool :=
  newId ∈ s.listings.map Prod.fst || overflowsPrice body.askingPrice.value ||
    body.minAcceptablePrice.any fun minimum => overflowsPrice minimum.value

/-- `POST /listings`; `newId` is the id that the database makes up. -/
def createListing (s : SmsServer) (caller : SmsUser) (newId : String) (body : PostBody) :
    Except ApiError SmsServer := do
  let category := body.category.getD .agricultural
  checkPost findContactInfo s caller category body
  if createFails s newId body then
    .error (httpError 500 "Could not create listing")
  else
    .ok { s with
      listings := (newId, body.row caller (body.seller caller category) category) :: s.listings }

/-! ## Editing -/

/-- What an edit writes: the columns that are given, as absolute values. -/
structure ListingWrite where
  askingPrice : Option ℚ := none
  minAcceptablePrice : Option (Option ℚ) := none
  /-- The quantity and the available quantity. -/
  quantities : Option (ℚ × ℚ) := none
  status : Option ListingStatus := none
  inspectionRequired : Option Bool := none
  pickupWindowStart : Option (Option Nat) := none
  pickupWindowEnd : Option (Option Nat) := none
  description : Option (Option String) := none
deriving DecidableEq, Repr

def ListingWrite.onListing (w : ListingWrite) (listing : Listing) : Listing :=
  { listing with
    askingPrice := w.askingPrice.getD listing.askingPrice
    minAcceptablePrice := w.minAcceptablePrice.getD listing.minAcceptablePrice
    quantity := (w.quantities.map Prod.fst).getD listing.quantity
    availableQuantity := (w.quantities.map Prod.snd).getD listing.availableQuantity
    status := w.status.getD listing.status
    inspectionRequired := w.inspectionRequired.getD listing.inspectionRequired
    pickupWindowStart := w.pickupWindowStart.getD listing.pickupWindowStart
    pickupWindowEnd := w.pickupWindowEnd.getD listing.pickupWindowEnd }

def ListingWrite.onRow (w : ListingWrite) (row : ProduceListing) : ProduceListing :=
  { row with
    toListing := w.onListing row.toListing
    description := w.description.getD row.description }

/-- The units of a text that `length` counts. -/
def utf16Length (text : String) : Nat :=
  (text.toList.map fun c => if c.toNat < 0x10000 then 1 else 2).sum

def descriptionProblem (description : BodyField String) : Option String :=
  match description with
  | .given text =>
      if 5000 < utf16Length (trimText text) then
        some "description must be 5000 characters or fewer"
      else if (findContactInfo text).isSome then
        some "Listing description cannot contain contact information"
      else
        none
  | _ => none

def priceText (price : ℚ) : String :=
  let cents := ⌊price * 100⌋.toNat
  if cents % 100 = 0 then
    toString (cents / 100)
  else if cents % 10 = 0 then
    toString (cents / 100) ++ "." ++ toString (cents / 10 % 10)
  else
    toString (cents / 100) ++ "." ++ toString (cents / 10 % 10) ++ toString (cents % 10)

/-- `effectiveMinimum > effectiveAskingPrice`: two stored prices are compared as texts. -/
def minimumExceeds (listing : Listing) (body : PatchBody) : Bool :=
  match body.minAcceptablePrice, listing.minAcceptablePrice, body.askingPrice with
  | .given minimum, _, some askingPrice => minimum.exceeds askingPrice
  | .given minimum, _, none => minimum.exceeds (.finite listing.askingPrice)
  | .missing, some minimum, some askingPrice => (JsNumber.finite minimum).exceeds askingPrice
  | .missing, some minimum, none => priceText listing.askingPrice < priceText minimum
  | _, _, _ => false

def patchPriceProblem (listing : Listing) (body : PatchBody) : Option String :=
  if (body.askingPrice.map JsNumber.isPositive).getD true = false then
    some "askingPrice must be greater than 0"
  else if (body.quantity.map JsNumber.isPositive).getD true = false then
    some "quantity must be greater than 0"
  else if (body.minAcceptablePrice.toOption.map JsNumber.isPositive).getD true = false then
    some "minAcceptablePrice must be greater than 0"
  else if minimumExceeds listing body then
    some "minAcceptablePrice cannot be greater than askingPrice"
  else
    none

def Listing.allocated (listing : Listing) : ℚ :=
  max (listing.quantity - listing.availableQuantity) 0

/-- The quantity and the available quantity that an edit writes. -/
def editQuantities (numberText : ℚ -> String) (listing : Listing) (quantity : Option JsNumber) :
    Except ApiError (Option (ℚ × ℚ)) :=
  match quantity with
  | none => .ok none
  | some requested =>
      if requested.value + 1 / 10 ^ 9 < listing.allocated then
        .error (httpError 409 ("quantity cannot be lower than already allocated quantity (" ++
          numberText listing.allocated ++ ")"))
      else if listing.status = .sold ∧ listing.category = .agricultural ∧
          listing.quantity < requested.value then
        .error (httpError 400 ("A sold agricultural listing cannot be increased in place; " ++
          "create a new listing for additional produce"))
      else
        .ok (some (requested.value, requested.value - listing.allocated))

def DateField.column : DateField -> Option (Option Nat)
  | .missing => none
  | .empty => some none
  | .zero => some (some epochMs)
  | .given time => some time

def windowMissing (listing : Listing) (body : PatchBody) : Option String :=
  let effectiveStart := body.pickupWindowStart.orStored listing.pickupWindowStart
  let effectiveEnd := body.pickupWindowEnd.orStored listing.pickupWindowEnd
  if listing.category = .agricultural ∧
      (effectiveStart.isTruthy && effectiveEnd.isTruthy) = false then
    some "Agricultural listings must have both pickupWindowStart and pickupWindowEnd."
  else
    none

def statusProblem (status : Option ListingStatus) : Option String :=
  if status = some .expired then some "Invalid listing status" else none

def updateFails (body : PatchBody) : Bool :=
  body.askingPrice.any (fun price => overflowsPrice price.value) ||
    body.minAcceptablePrice.toOption.any fun minimum => overflowsPrice minimum.value

def BodyField.column {α β : Type} (f : α -> β) : BodyField α -> Option (Option β)
  | .missing => none
  | .empty => some none
  | .given value => some (some (f value))

/-- What an edit that has passed its checks writes. -/
def PatchBody.write (listing : Listing) (body : PatchBody) (quantities : Option (ℚ × ℚ)) :
    ListingWrite :=
  { askingPrice := body.askingPrice.map fun price => toDecimal price.value
    minAcceptablePrice := body.minAcceptablePrice.column fun minimum => toDecimal minimum.value
    quantities := quantities
    status := body.status
    inspectionRequired :=
      if listing.category = .agricultural then none else body.inspectionRequired
    pickupWindowStart := body.pickupWindowStart.column
    pickupWindowEnd := body.pickupWindowEnd.column
    description := body.description.column id }

/-- The checks of `PATCH /listings/:id`, and what it writes. -/
def editListingData (numberText : ℚ -> String) (now : Nat) (listing : Listing)
    (body : PatchBody) : Except ApiError ListingWrite := do
  refuse (descriptionProblem findContactInfo body.description)
  refuse (patchPriceProblem listing body)
  let quantities ← editQuantities numberText listing body.quantity
  refuse (listing.category.validatePickupWindow now body.pickupWindowStart body.pickupWindowEnd
    listing.pickupWindowStart listing.pickupWindowEnd)
  refuse (windowMissing listing body)
  refuse (statusProblem body.status)
  if updateFails body then
    .error (httpError 500 "Could not update listing")
  else
    .ok (body.write listing quantities)

/-- `PATCH /listings/:id`. -/
def patchListing (numberText : ℚ -> String) (s : SmsServer) (caller : SmsUser)
    (listingId : String) (body : PatchBody) : Except ApiError SmsServer :=
  match s.listings.find? fun e => e.1 = listingId with
  | none => .error (httpError 404 "Listing not found")
  | some (_, row) =>
      if row.sellerId ≠ caller.id ∧ .admin ∉ caller.roles then
        .error (httpError 403 "Only the farmer/seller retains price and listing authority")
      else do
        let w ← editListingData findContactInfo numberText s.now row.toListing body
        .ok { s with listings := setListing s.listings listingId (w.onRow row) }

end

end MarketBridge
