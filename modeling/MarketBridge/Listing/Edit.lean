import MarketBridge.Listing.Policy

/-!
# An edit with all its fields

`PATCH /listings/:id` with every field that it reads: the checks in their order, the columns that
are written, and the rules that an edit obeys when it is accepted.  The audit event of an edit that
names the window is left out.
-/

namespace MarketBridge

open Relational

/-! ## Bodies and rows -/

/-- The name of a place in a body. -/
inductive PlaceField where
  | missing
  /-- `null`, `0` or `false`. -/
  | falsy
  | text (value : String)
  /-- Any other value, which the database client refuses. -/
  | other
deriving DecidableEq, Repr

/-- A list of media in a body; an entry that is no text is `none`. -/
inductive MediaField where
  | missing
  | notArray
  | array (entries : List (Option String))
deriving DecidableEq, Repr

/-- Every field of a body that the route reads. -/
structure ListingEdit extends PatchBody where
  /-- The description is neither `null` nor a text. -/
  otherDescription : Bool := false
  /-- The status is given, and no listing can have it. -/
  otherStatus : Bool := false
  region : BodyField String := .missing
  zone : PlaceField := .missing
  woreda : PlaceField := .missing
  kebele : PlaceField := .missing
  latitude : BodyField JsNumber := .missing
  longitude : BodyField JsNumber := .missing
  harvestedDate : DateField := .missing
  readinessDate : DateField := .missing
  photos : MediaField := .missing
  videos : MediaField := .missing
deriving DecidableEq, Repr

/-- A row of `Listing` with all the columns that the route writes. -/
structure StoredListing extends ProduceListing where
  region : Option String := none
  zone : Option String := none
  woreda : Option String := none
  kebele : Option String := none
  latitude : Option ℚ := none
  longitude : Option ℚ := none
  harvestedDate : Option Nat := none
  readinessDate : Option Nat := none
  photos : List String := []
  videos : List String := []
deriving DecidableEq, Repr

structure ListingDesk where
  now : Nat := 0
  listings : Table StoredListing
deriving DecidableEq, Repr

/-! ## Checks -/

/-- `REGION_VALUES`. -/
def regionValues : List String :=
  ["TIGRAY", "AFAR", "AMHARA", "OROMIA", "SOMALI", "BENISHANGUL_GUMUZ", "GAMBELA", "HARARI",
    "SIDAMA", "SOUTH_ETHIOPIA", "SOUTH_WEST_ETHIOPIA_PEOPLES", "CENTRAL_ETHIOPIA", "ADDIS_ABABA",
    "DIRE_DAWA"]

/-- A value that is no text is no region, whichever other text stands for it. -/
def regionProblem : BodyField String -> Option String
  | .given region =>
      if region ∉ regionValues then
        some ("Invalid region. Must be one of: " ++ ", ".intercalate regionValues)
      else
        none
  | _ => none

def JsNumber.isWithin (bound : Nat) : JsNumber -> Bool
  | .finite q => -bound ≤ q && q ≤ bound
  | .notFinite => false

def coordinateProblem (name : String) (bound : Nat) : BodyField JsNumber -> Option String
  | .given x =>
      if x.isWithin bound = false then
        some (name ++ " must be between -" ++ toString bound ++ " and " ++ toString bound)
      else
        none
  | _ => none

def harvestedDateProblem (category : ListingCategory) (field : DateField) : Option String :=
  if field.isPresent = false then
    none
  else if category ≠ .agricultural then
    some "harvestedDate is only allowed for agricultural listings"
  else if field.parseDate = none then
    some "harvestedDate must be a valid date"
  else
    none

def readinessDateProblem (field : DateField) : Option String :=
  if field.isPresent = true ∧ field.parseDate = none then
    some "readinessDate must be a valid date"
  else
    none

def DateField.effective (field : DateField) (stored : Option Nat) : Option Nat :=
  if field = .missing then stored else field.parseDate

/-- The dates are compared only when the body names one of them. -/
def dateOrderProblem (listing : StoredListing) (body : ListingEdit) : Option String :=
  if body.harvestedDate = .missing ∧ body.readinessDate = .missing then
    none
  else
    match body.harvestedDate.effective listing.harvestedDate,
        body.readinessDate.effective listing.readinessDate with
    | some harvested, some readiness =>
        if readiness < harvested then
          some (if body.harvestedDate ≠ .missing then
            "harvestedDate cannot be later than readinessDate"
          else
            "readinessDate cannot be earlier than harvestedDate")
        else
          none
    | _, _ => none

def mediaProblem (name : String) (field : MediaField) : Option String :=
  if field = .notArray then some (name ++ " must be an array") else none

section

variable (findContactInfo : String -> Option String)

def ListingEdit.descriptionProblem (body : ListingEdit) : Option String :=
  if body.otherDescription = true then
    some "description must be 5000 characters or fewer"
  else
    MarketBridge.descriptionProblem findContactInfo body.description

def ListingEdit.statusProblem (body : ListingEdit) : Option String :=
  if body.otherStatus = true then
    some "Invalid listing status"
  else
    MarketBridge.statusProblem body.status

end

/-! ## Columns -/

def PlaceField.column : PlaceField -> Option (Option String)
  | .falsy => some none
  | .text value => some (jsOr (some value) none)
  | _ => none

/-- `sanitizedPhotos` and `sanitizedVideos`. -/
def MediaField.column : MediaField -> Option (List String)
  | .array entries =>
      some (((entries.filterMap id).filter fun entry => trimText entry ≠ "").take 10)
  | _ => none

def ListingEdit.texts (body : ListingEdit) : List String :=
  body.description.toOption.toList ++
    [body.zone, body.woreda, body.kebele].filterMap (fun place => place.column.bind id) ++
    body.photos.column.getD [] ++ body.videos.column.getD []

def ListingEdit.dates (body : ListingEdit) : List Nat :=
  [body.harvestedDate, body.readinessDate, body.pickupWindowStart,
    body.pickupWindowEnd].filterMap DateField.parseDate

/-- The update fails: of a price, of a place, of a text with a zero in it or of a date. -/
def ListingEdit.updateFails (storesDate : Nat -> Bool) (body : ListingEdit) : Bool :=
  MarketBridge.updateFails body.toPatchBody ||
    [body.zone, body.woreda, body.kebele].contains .other ||
    (body.texts.any fun text => text.toList.contains (Char.ofNat 0)) ||
    !body.dates.all storesDate

/-- The row after an edit. -/
def ListingEdit.edited (listing : StoredListing) (body : ListingEdit)
    (quantities : Option (ℚ × ℚ)) : StoredListing :=
  { listing with
    toProduceListing :=
      (body.toPatchBody.write listing.toListing quantities).onRow listing.toProduceListing
    region := (body.region.column id).getD listing.region
    zone := body.zone.column.getD listing.zone
    woreda := body.woreda.column.getD listing.woreda
    kebele := body.kebele.column.getD listing.kebele
    latitude := (body.latitude.column JsNumber.value).getD listing.latitude
    longitude := (body.longitude.column JsNumber.value).getD listing.longitude
    harvestedDate := body.harvestedDate.column.getD listing.harvestedDate
    readinessDate := body.readinessDate.column.getD listing.readinessDate
    photos := body.photos.column.getD listing.photos
    videos := body.videos.column.getD listing.videos }

section

variable (findContactInfo : String -> Option String) (numberText : ℚ -> String)
  (storesDate : Nat -> Bool)

/-- The checks of `PATCH /listings/:id`, and the row that it leaves. -/
def editStoredListing (now : Nat) (listing : StoredListing) (body : ListingEdit) :
    Except ApiError StoredListing := do
  refuse (body.descriptionProblem findContactInfo)
  refuse (regionProblem body.region)
  refuse (coordinateProblem "latitude" 90 body.latitude)
  refuse (coordinateProblem "longitude" 180 body.longitude)
  refuse (patchPriceProblem listing.toListing body.toPatchBody)
  let quantities ← editQuantities numberText listing.toListing body.quantity
  refuse (harvestedDateProblem listing.category body.harvestedDate)
  refuse (readinessDateProblem body.readinessDate)
  refuse (dateOrderProblem listing body)
  refuse (listing.category.validatePickupWindow now body.pickupWindowStart body.pickupWindowEnd
    listing.pickupWindowStart listing.pickupWindowEnd)
  refuse (windowMissing listing.toListing body.toPatchBody)
  refuse body.statusProblem
  refuse (mediaProblem "photos" body.photos)
  refuse (mediaProblem "videos" body.videos)
  if body.updateFails storesDate then
    .error (httpError 500 "Could not update listing")
  else
    .ok (body.edited listing quantities)

/-- `PATCH /listings/:id`. -/
def ListingDesk.patch (s : ListingDesk) (caller : SmsUser) (listingId : Id) (body : ListingEdit) :
    Except ApiError ListingDesk :=
  match s.listings.findUnique listingId with
  | none => .error (httpError 404 "Listing not found")
  | some listing =>
      if listing.sellerId ≠ caller.id ∧ .admin ∉ caller.roles then
        .error (httpError 403 "Only the farmer/seller retains price and listing authority")
      else do
        let updated ← editStoredListing findContactInfo numberText storesDate s.now listing body
        .ok { s with listings := s.listings.update listingId fun _ => updated }

end

/-! ## The rules -/

def PatchBody.effectiveAskingPrice (listing : Listing) (body : PatchBody) : ℚ :=
  (body.askingPrice.map JsNumber.value).getD listing.askingPrice

def PatchBody.effectiveMinimum (listing : Listing) (body : PatchBody) : Option ℚ :=
  (body.minAcceptablePrice.column JsNumber.value).getD listing.minAcceptablePrice

def PatchBody.quantities (listing : Listing) (body : PatchBody) : Option (ℚ × ℚ) :=
  body.quantity.map fun requested => (requested.value, requested.value - listing.allocated)

def PatchBody.windowStands (now : Nat) (listing : Listing) (body : PatchBody) : Prop :=
  (body.pickupWindowStart.orStored listing.pickupWindowStart).isTruthy = true ∧
    (body.pickupWindowEnd.orStored listing.pickupWindowEnd).isTruthy = true ∧
    exists startTime endTime,
      (body.pickupWindowStart.orStored listing.pickupWindowStart).parseDate = some startTime ∧
      (body.pickupWindowEnd.orStored listing.pickupWindowEnd).parseDate = some endTime ∧
      startTime < endTime ∧ now < endTime

/-- What an edit obeys, of the values that it gives and the stored ones that it leaves. -/
structure EditRules (findContactInfo : String -> Option String) (storesDate : Nat -> Bool)
    (now : Nat) (listing : StoredListing) (body : ListingEdit) : Prop where
  description : body.otherDescription = false ∧ forall text, body.description = .given text ->
    utf16Length (trimText text) ≤ 5000 ∧ findContactInfo text = none
  region : forall region, body.region = .given region -> region ∈ regionValues
  latitude : forall x, body.latitude = .given x -> x.isWithin 90 = true
  longitude : forall x, body.longitude = .given x -> x.isWithin 180 = true
  askingPrice : forall price, body.askingPrice = some price -> price.isPositive = true
  minAcceptablePrice : forall minimum, body.minAcceptablePrice = .given minimum ->
    minimum.isPositive = true
  priceOrder : forall minimum, body.effectiveMinimum listing.toListing = some minimum ->
    minimum ≤ body.effectiveAskingPrice listing.toListing
  quantity : forall quantity, body.quantity = some quantity -> quantity.isPositive = true ∧
    listing.allocated ≤ quantity.value + 1 / 10 ^ 9 ∧
    (listing.status = .sold -> listing.category = .agricultural ->
      quantity.value ≤ listing.quantity)
  harvestedDate : body.harvestedDate.isPresent = true ->
    listing.category = .agricultural ∧ body.harvestedDate.parseDate.isSome = true
  readinessDate : body.readinessDate.isPresent = true -> body.readinessDate.parseDate.isSome = true
  dateOrder : ¬ (body.harvestedDate = .missing ∧ body.readinessDate = .missing) ->
    forall harvested readiness,
      body.harvestedDate.effective listing.harvestedDate = some harvested ->
      body.readinessDate.effective listing.readinessDate = some readiness -> harvested ≤ readiness
  window : listing.category = .agricultural -> body.windowStands now listing.toListing
  noWindow : listing.category ≠ .agricultural ->
    body.pickupWindowStart.isTruthy = false ∧ body.pickupWindowEnd.isTruthy = false
  status : body.otherStatus = false ∧ body.status ≠ some .expired
  media : body.photos ≠ .notArray ∧ body.videos ≠ .notArray
  stored : body.updateFails storesDate = false

/-- Two stored prices that the edit leaves compare as texts like they do as numbers: 90 and 100 do
not. -/
def comparesStoredPrices (listing : Listing) (body : PatchBody) : Prop :=
  body.askingPrice = none -> body.minAcceptablePrice = .missing ->
    forall minimum, listing.minAcceptablePrice = some minimum ->
      (priceText listing.askingPrice < priceText minimum ↔ listing.askingPrice < minimum)

/-- The row keeps what the edit does not name. -/
structure KeepsUnnamed (body : ListingEdit) (row row' : StoredListing) : Prop where
  sellerId : row'.sellerId = row.sellerId
  category : row'.category = row.category
  title : row'.title = row.title
  cropType : row'.cropType = row.cropType
  unit : row'.unit = row.unit
  location : row'.location = row.location
  createdByInspectorId : row'.createdByInspectorId = row.createdByInspectorId
  askingPrice : body.askingPrice = none -> row'.askingPrice = row.askingPrice
  minAcceptablePrice : body.minAcceptablePrice = .missing ->
    row'.minAcceptablePrice = row.minAcceptablePrice
  quantity : body.quantity = none ->
    row'.quantity = row.quantity ∧ row'.availableQuantity = row.availableQuantity
  status : body.status = none -> row'.status = row.status
  inspectionRequired : body.inspectionRequired = none ->
    row'.inspectionRequired = row.inspectionRequired
  pickupWindowStart : body.pickupWindowStart = .missing ->
    row'.pickupWindowStart = row.pickupWindowStart
  pickupWindowEnd : body.pickupWindowEnd = .missing -> row'.pickupWindowEnd = row.pickupWindowEnd
  description : body.description = .missing -> row'.description = row.description
  region : body.region = .missing -> row'.region = row.region
  zone : body.zone = .missing -> row'.zone = row.zone
  woreda : body.woreda = .missing -> row'.woreda = row.woreda
  kebele : body.kebele = .missing -> row'.kebele = row.kebele
  latitude : body.latitude = .missing -> row'.latitude = row.latitude
  longitude : body.longitude = .missing -> row'.longitude = row.longitude
  harvestedDate : body.harvestedDate = .missing -> row'.harvestedDate = row.harvestedDate
  readinessDate : body.readinessDate = .missing -> row'.readinessDate = row.readinessDate
  photos : body.photos = .missing -> row'.photos = row.photos
  videos : body.videos = .missing -> row'.videos = row.videos

/-! ## Checks that pass -/

section

variable {findContactInfo : String -> Option String} {numberText : ℚ -> String}
  {storesDate : Nat -> Bool} {now : Nat} {listing : StoredListing} {body : ListingEdit}

theorem ListingEdit.descriptionProblem_eq_none :
    body.descriptionProblem findContactInfo = none ↔ body.otherDescription = false ∧
      forall text, body.description = .given text ->
        utf16Length (trimText text) ≤ 5000 ∧ findContactInfo text = none := by
  rw [descriptionProblem, message_eq_none, MarketBridge.descriptionProblem_eq_none,
    Bool.not_eq_true]

theorem regionProblem_eq_none {field : BodyField String} :
    regionProblem field = none ↔ forall region, field = .given region -> region ∈ regionValues := by
  cases field <;> simp [regionProblem]

theorem coordinateProblem_eq_none {name : String} {bound : Nat} {field : BodyField JsNumber} :
    coordinateProblem name bound field = none ↔
      forall x, field = .given x -> x.isWithin bound = true := by
  cases field <;> simp [coordinateProblem]

theorem harvestedDateProblem_eq_none {category : ListingCategory} {field : DateField} :
    harvestedDateProblem category field = none ↔ (field.isPresent = true ->
      category = .agricultural ∧ field.parseDate.isSome = true) := by
  unfold harvestedDateProblem
  by_cases hproduce : category = .agricultural <;> cases field.isPresent <;>
    simp [hproduce, Option.isSome_iff_ne_none]

theorem readinessDateProblem_eq_none {field : DateField} :
    readinessDateProblem field = none ↔
      (field.isPresent = true -> field.parseDate.isSome = true) := by
  simp [readinessDateProblem, Option.isSome_iff_ne_none]

theorem dateOrderProblem_eq_none :
    dateOrderProblem listing body = none ↔
      (¬ (body.harvestedDate = .missing ∧ body.readinessDate = .missing) ->
        forall harvested readiness,
          body.harvestedDate.effective listing.harvestedDate = some harvested ->
          body.readinessDate.effective listing.readinessDate = some readiness ->
          harvested ≤ readiness) := by
  unfold dateOrderProblem
  by_cases hneither : body.harvestedDate = .missing ∧ body.readinessDate = .missing
  · simp [hneither]
  · rw [if_neg hneither]
    cases body.harvestedDate.effective listing.harvestedDate <;>
      cases body.readinessDate.effective listing.readinessDate <;>
      simp [hneither]

theorem ListingEdit.statusProblem_eq_none :
    body.statusProblem = none ↔ body.otherStatus = false ∧ body.status ≠ some .expired := by
  simp [statusProblem, MarketBridge.statusProblem, message_eq_none]

theorem mediaProblem_eq_none {name : String} {field : MediaField} :
    mediaProblem name field = none ↔ field ≠ .notArray := by
  simp [mediaProblem]

/-- The window that is checked is there, and products have none. -/
theorem windowChecks_eq_none :
    listing.category.validatePickupWindow now body.pickupWindowStart body.pickupWindowEnd
          listing.pickupWindowStart listing.pickupWindowEnd = none ∧
        windowMissing listing.toListing body.toPatchBody = none ↔
      (listing.category = .agricultural -> body.windowStands now listing.toListing) ∧
      (listing.category ≠ .agricultural ->
        body.pickupWindowStart.isTruthy = false ∧ body.pickupWindowEnd.isTruthy = false) := by
  rw [windowMissing_eq_none]
  by_cases hproduce : listing.category = .agricultural
  · simp only [hproduce, forall_const, ne_eq, not_true_eq_false, false_imp_iff, and_true]
    constructor
    · rintro ⟨hwindow, hstart, hend⟩
      exact ⟨hstart, hend, ((ListingCategory.validatePickupWindow_eq_none
        (DateField.isPresent_of_isTruthy hend)).mp hwindow).2⟩
    · rintro ⟨hstart, hend, htimes⟩
      exact ⟨(ListingCategory.validatePickupWindow_eq_none
        (DateField.isPresent_of_isTruthy hend)).mpr
          ⟨DateField.isPresent_of_isTruthy hstart, htimes⟩, hstart, hend⟩
  · simp [hproduce, ListingCategory.validatePickupWindow]

theorem JsNumber.exceeds_eq_false {a b : JsNumber} (ha : a.isPositive = true)
    (hb : b.isPositive = true) : a.exceeds b = false ↔ a.value ≤ b.value := by
  cases a with
  | finite q =>
      cases b with
      | finite r => simp [exceeds, value]
      | notFinite => cases hb
  | notFinite => cases ha

/-- Where prices are positive, the minimum is compared with the price as numbers are. -/
theorem minimumExceeds_eq_false {listing : Listing} {body : PatchBody}
    (h : comparesStoredPrices listing body)
    (hasking : forall price, body.askingPrice = some price -> price.isPositive = true)
    (hminimum : forall minimum, body.minAcceptablePrice = .given minimum ->
      minimum.isPositive = true) :
    minimumExceeds listing body = false ↔
      forall minimum, body.effectiveMinimum listing = some minimum ->
        minimum ≤ body.effectiveAskingPrice listing := by
  unfold minimumExceeds PatchBody.effectiveMinimum PatchBody.effectiveAskingPrice
  cases hgiven : body.minAcceptablePrice with
  | missing =>
      cases hstored : listing.minAcceptablePrice with
      | none => simp [BodyField.column]
      | some minimum =>
          cases hprice : body.askingPrice with
          | none => simp [BodyField.column, h hprice hgiven minimum hstored]
          | some price =>
              cases price with
              | finite q => simp [BodyField.column, JsNumber.exceeds, JsNumber.value]
              | notFinite => exact absurd (hasking _ hprice) (by decide)
  | empty => simp [BodyField.column]
  | given minimum =>
      cases hprice : body.askingPrice with
      | none =>
          cases minimum with
          | finite q => simp [BodyField.column, JsNumber.exceeds, JsNumber.value]
          | notFinite => exact absurd (hminimum _ hgiven) (by decide)
      | some price =>
          simp [BodyField.column,
            JsNumber.exceeds_eq_false (hminimum minimum hgiven) (hasking price hprice)]

theorem editStoredListing_eq_ok {updated : StoredListing}
    (hprices : comparesStoredPrices listing.toListing body.toPatchBody) :
    editStoredListing findContactInfo numberText storesDate now listing body = .ok updated ↔
      EditRules findContactInfo storesDate now listing body ∧
        updated = body.edited listing (body.quantities listing.toListing) := by
  unfold editStoredListing
  simp only [bind_eq_ok, refuse_eq_ok, exists_const, guard_eq_ok, editQuantities_eq_ok,
    ListingEdit.descriptionProblem_eq_none, regionProblem_eq_none, coordinateProblem_eq_none,
    patchPriceProblem_eq_none, harvestedDateProblem_eq_none, readinessDateProblem_eq_none,
    dateOrderProblem_eq_none, ListingEdit.statusProblem_eq_none, mediaProblem_eq_none,
    Bool.not_eq_true, Except.ok.injEq]
  constructor
  · rintro ⟨hdescription, hregion, hlatitude, hlongitude,
      ⟨hasking, hquantity, hminimum, hexceeds⟩, quantities, ⟨hallocated, rfl⟩, hharvested,
      hreadiness, horder, hwindow, hmissing, hstatus, hphotos, hvideos, hstored, rfl⟩
    obtain ⟨hproduce, hproduct⟩ := windowChecks_eq_none.mp ⟨hwindow, hmissing⟩
    exact ⟨
      { description := hdescription
        region := hregion
        latitude := hlatitude
        longitude := hlongitude
        askingPrice := hasking
        minAcceptablePrice := hminimum
        priceOrder := (minimumExceeds_eq_false hprices hasking hminimum).mp hexceeds
        quantity := fun requested hsome =>
          ⟨hquantity requested hsome, hallocated requested hsome⟩
        harvestedDate := hharvested
        readinessDate := hreadiness
        dateOrder := horder
        window := hproduce
        noWindow := hproduct
        status := hstatus
        media := ⟨hphotos, hvideos⟩
        stored := hstored }, rfl⟩
  · rintro ⟨h, rfl⟩
    have hwindow := windowChecks_eq_none.mpr ⟨h.window, h.noWindow⟩
    have hexceeds := (minimumExceeds_eq_false hprices h.askingPrice h.minAcceptablePrice).mpr
      h.priceOrder
    exact ⟨h.description, h.region, h.latitude, h.longitude,
      ⟨h.askingPrice, fun requested hsome => (h.quantity requested hsome).1,
        h.minAcceptablePrice, hexceeds⟩,
      _, ⟨fun requested hsome => (h.quantity requested hsome).2, rfl⟩, h.harvestedDate,
      h.readinessDate, h.dateOrder, hwindow.1, hwindow.2, h.status, h.media.1, h.media.2,
      h.stored, rfl⟩

theorem ListingEdit.edited_keepsUnnamed (listing : StoredListing) (body : ListingEdit) :
    KeepsUnnamed body listing (body.edited listing (body.quantities listing.toListing)) := by
  constructor <;> intros <;>
    simp_all [edited, PatchBody.quantities, ListingWrite.onRow, ListingWrite.onListing,
      PatchBody.write, BodyField.column, PlaceField.column, DateField.column, MediaField.column]

end

/-! ## Edits -/

/-- Wheat of which 60 of 100 is left, with a window. -/
def wheatListing : StoredListing :=
  { sellerId := 0
    category := .agricultural
    cropType := some "WHEAT"
    quantity := 100
    availableQuantity := 60
    unit := "KG"
    askingPrice := 25
    minAcceptablePrice := some 20
    location := "Debre Zeit"
    pickupWindowStart := some 8650000000000000
    pickupWindowEnd := some 8700000000000000
    status := .active
    inspectionRequired := true }

def listingDesk (listing : StoredListing) : ListingDesk :=
  { now := 8640000000001000
    listings := ⟨[listing]⟩ }

/-- What the columns of a row have to say of each other. -/
structure RowRules (now : Nat) (row : StoredListing) : Prop where
  askingPrice : 0 < row.askingPrice
  minAcceptablePrice : forall minimum, row.minAcceptablePrice = some minimum ->
    0 < minimum ∧ minimum ≤ row.askingPrice
  quantity : 0 ≤ row.availableQuantity ∧ row.availableQuantity ≤ row.quantity
  dateOrder : forall harvested readiness, row.harvestedDate = some harvested ->
    row.readinessDate = some readiness -> harvested ≤ readiness
  window : row.category = .agricultural -> exists startTime endTime,
    row.pickupWindowStart = some startTime ∧ row.pickupWindowEnd = some endTime ∧
    startTime < endTime ∧ now < endTime

end MarketBridge
