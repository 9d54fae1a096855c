import MarketBridge.Ledger.Entries
import MarketBridge.Listing.Posting

/-!
# One policy for every channel

What a published produce listing has to say, and the requests that can make or change one: two
routes of the app and two commands by text message.
-/

namespace MarketBridge

open Relational

/-- The policy for a published produce listing, whose window was checked at the given time. -/
structure ListingPolicy (findContactInfo : String -> Option String) (checkedAt : Nat)
    (row : ProduceListing) : Prop where
  cropType : exists cropType, row.cropType = some cropType ∧ cropType ≠ ""
  window : exists startTime endTime, row.pickupWindowStart = some startTime ∧
    row.pickupWindowEnd = some endTime ∧ startTime < endTime ∧ checkedAt < endTime
  inspection : row.inspectionRequired = true
  quantity : 0 < row.availableQuantity ∧ row.availableQuantity ≤ row.quantity
  askingPrice : 0 < row.askingPrice
  minAcceptablePrice : forall minimum, row.minAcceptablePrice = some minimum ->
    0 < minimum ∧ minimum ≤ row.askingPrice
  contact : forall description, row.description = some description ->
    findContactInfo description = none

/-! ## Requests -/

inductive ListingRequest where
  | post (caller : SmsUser) (newId : String) (body : PostBody)
  | patch (caller : SmsUser) (listingId : String) (body : PatchBody)
  | message (sender text newId : String)
  | tick (duration : Nat)

/-- The server, with the history of when a listing was last activated or its window edited. -/
structure ListingBoard where
  server : SmsServer := {}
  checkedAt : String -> Nat := fun _ => 0

def findListing (s : SmsServer) (id : String) : Option ProduceListing :=
  (s.listings.find? fun e => e.1 = id).map Prod.snd

/-- The request, once it is answered, has activated the listing or edited its window. -/
def ListingRequest.touches (before after : SmsServer) (id : String) : ListingRequest -> Bool
  | .patch _ listingId body =>
      id = listingId && (body.status = some .active || body.pickupWindowStart ≠ .missing ||
        body.pickupWindowEnd ≠ .missing)
  | _ => findListing before id ≠ findListing after id

def JsNumber.roundsToNothing (price : JsNumber) : Bool :=
  price.isPositive && toDecimal price.value = 0

def ProduceListing.isPublishable (row : ProduceListing) : Bool :=
  row.inspectionRequired && 0 < row.askingPrice && row.minAcceptablePrice.all (0 < ·)

def PatchBody.priced (body : PatchBody) (row : ProduceListing) : ProduceListing :=
  { row with
    askingPrice := (body.askingPrice.map fun price => toDecimal price.value).getD row.askingPrice
    minAcceptablePrice :=
      (body.minAcceptablePrice.column fun minimum => toDecimal minimum.value).getD
        row.minAcceptablePrice }

section

variable (toUpperCase : String -> String) (findContactInfo : String -> Option String)
  (numberText : ℚ -> String) (pickupWindowMs : Nat)

def ListingRequest.answer (s : SmsServer) : ListingRequest -> Except ApiError SmsServer
  | .post caller newId body => createListing findContactInfo s caller newId body
  | .patch caller listingId body => patchListing findContactInfo numberText s caller listingId body
  | .message sender text newId =>
      .ok (s.step toUpperCase pickupWindowMs (.inbound sender text newId))
  | .tick duration => .ok { s with now := s.now + duration }

def ListingBoard.step (b : ListingBoard) (req : ListingRequest) : ListingBoard :=
  match req.answer toUpperCase findContactInfo numberText pickupWindowMs b.server with
  | .error _ => b
  | .ok after =>
      { server := after
        checkedAt := fun id =>
          if req.touches b.server after id then b.server.now else b.checkedAt id }

def ListingBoard.Complies (b : ListingBoard) : Prop :=
  forall e, e ∈ b.server.listings -> e.2.status = .active -> e.2.category = .agricultural ->
    ListingPolicy findContactInfo (b.checkedAt e.1) e.2

/-- The draft that a message publishes. -/
def SmsServer.messagedDraft (s : SmsServer) (sender text : String) :
    Option (String × ProduceListing) :=
  (s.account sender).bind fun u =>
    let code := toUpperCase ((words text).tail.headD "")
    if toUpperCase ((words text).headD "") = "ACTIVATE" ∧ code ≠ "" then
      (draftsOf s.listings u.id).find? fun e => shortCode toUpperCase e.1 = code
    else
      none

/--
Produce that is published requires an inspection, its prices are not rounded to nothing, and a
window does not start at a bare zero.
-/
def ListingRequest.keepsPolicy (s : SmsServer) : ListingRequest -> Bool
  | .post _ _ body =>
      body.category.getD .agricultural ≠ .agricultural ||
        !body.askingPrice.roundsToNothing &&
          !body.minAcceptablePrice.any JsNumber.roundsToNothing &&
          body.pickupWindowStart ≠ .zero
  | .patch _ listingId body =>
      (findListing s listingId).all fun row =>
        row.category ≠ .agricultural || body.status.getD row.status ≠ .active ||
          (body.priced row).isPublishable
  | .message sender text _ =>
      (s.messagedDraft toUpperCase sender text).all fun e => e.2.isPublishable
  | .tick _ => true

end

/-! ## Rounded prices -/

theorem toDecimal_of_pos {a : ℚ} (h : 0 ≤ a) : toDecimal a = roundMoney a :=
  if_pos h

theorem toDecimal_mono {a b : ℚ} (ha : 0 ≤ a) (h : a ≤ b) : toDecimal a ≤ toDecimal b := by
  rw [toDecimal_of_pos ha, toDecimal_of_pos (ha.trans h)]
  exact roundMoney_mono h

theorem toDecimal_nonneg {a : ℚ} (ha : 0 ≤ a) : 0 ≤ toDecimal a := by
  rw [toDecimal_of_pos ha, ← roundMoney_zero]
  exact roundMoney_mono ha

theorem toDecimal_toDecimal {a : ℚ} (ha : 0 ≤ a) : toDecimal (toDecimal a) = toDecimal a := by
  rw [toDecimal_of_pos (toDecimal_nonneg ha), toDecimal_of_pos ha]
  exact roundMoney_of_isCents (roundMoney_isCents a)

theorem JsNumber.isPositive_eq_true {a : JsNumber} (h : a.isPositive = true) :
    0 < a.value := by
  cases a with
  | finite q => exact of_decide_eq_true h
  | notFinite => cases h

theorem JsNumber.le_value {a : ℚ} {b : JsNumber} (hb : b.isPositive = true)
    (h : (JsNumber.finite a).exceeds b = false) : a ≤ b.value := by
  cases b with
  | finite r => exact not_lt.mp (of_decide_eq_false h)
  | notFinite => cases hb

theorem JsNumber.value_le {a b : JsNumber} (ha : a.isPositive = true)
    (hb : b.isPositive = true) (h : a.exceeds b = false) : a.value ≤ b.value := by
  cases a with
  | finite q => exact le_value hb h
  | notFinite => cases ha

theorem JsNumber.value_le_rational {a : JsNumber} {b : ℚ} (ha : a.isPositive = true)
    (h : a.exceeds (.finite b) = false) : a.value ≤ b := by
  cases a with
  | finite q => exact not_lt.mp (of_decide_eq_false h)
  | notFinite => cases ha

/-! ## Checks that have passed -/

theorem refuse_eq_ok {message : Option String} {u : Unit} :
    refuse message = .ok u ↔ message = none := by
  cases message with
  | none => exact iff_of_true rfl rfl
  | some message => exact iff_of_false (fun h => by cases h) (fun h => by cases h)

theorem message_eq_none {c : Prop} [Decidable c] {message : String} {rest : Option String} :
    (if c then some message else rest) = none ↔ ¬ c ∧ rest = none := by
  by_cases h : c <;> simp [h]

theorem validatePrices_eq_none {askingPrice : JsNumber} {minAcceptablePrice : Option JsNumber}
    (h : validatePrices askingPrice minAcceptablePrice = none) :
    askingPrice.isPositive = true ∧ forall minimum, minAcceptablePrice = some minimum ->
      minimum.isPositive = true ∧ minimum.exceeds askingPrice = false := by
  unfold validatePrices at h
  split at h
  · cases h
  · next hasking =>
      refine ⟨Bool.not_eq_false _ ▸ hasking, ?_⟩
      rintro minimum rfl
      dsimp only at h
      split at h
      · cases h
      · next hminimum =>
          split at h
          · cases h
          · next hexceeds =>
              exact ⟨Bool.not_eq_false _ ▸ hminimum, Bool.eq_false_iff.mpr hexceeds⟩

/-- The window of produce that has been checked, given or stored. -/
theorem ListingCategory.validatePickupWindow_eq_none {now : Nat}
    {pickupWindowStart pickupWindowEnd : DateField} {existingStart existingEnd : Option Nat}
    (hpresent : (pickupWindowEnd.orStored existingEnd).isPresent = true) :
    ListingCategory.validatePickupWindow .agricultural now pickupWindowStart pickupWindowEnd
        existingStart existingEnd = none ↔
      (pickupWindowStart.orStored existingStart).isPresent = true ∧ exists startTime endTime,
        (pickupWindowStart.orStored existingStart).parseDate = some startTime ∧
        (pickupWindowEnd.orStored existingEnd).parseDate = some endTime ∧
        startTime < endTime ∧ now < endTime := by
  unfold ListingCategory.validatePickupWindow
  rw [if_neg (not_not.mpr rfl)]
  generalize pickupWindowStart.orStored existingStart = startValue
  generalize pickupWindowEnd.orStored existingEnd = endValue at hpresent ⊢
  simp only [message_eq_none, hpresent, ne_eq, not_not]
  refine and_congr_right fun hstart => ?_
  rw [hstart]
  cases startValue.parseDate <;> cases endValue.parseDate <;> simp [message_eq_none]

/-! ## What is posted -/

section

variable {toUpperCase : String -> String} {findContactInfo : String -> Option String}
  {numberText : ℚ -> String} {pickupWindowMs : Nat} {s s' : SmsServer}

theorem postProblem_eq_none {body : PostBody} (h : postProblem findContactInfo body = none) :
    body.quantity.isPositive = true ∧ forall description, body.description = some description ->
      findContactInfo (trimText description) = none := by
  unfold postProblem at h
  repeat' split at h
  all_goals try cases h
  · next hquantity _ _ _ _ _ hnone =>
      refine ⟨Bool.not_eq_false _ ▸ hquantity, ?_⟩
      rintro description hsome
      rw [hsome] at hnone
      cases hnone
  · next hquantity _ _ _ _ _ text htext _ hclean =>
      refine ⟨Bool.not_eq_false _ ▸ hquantity, ?_⟩
      rintro description hsome
      rw [hsome, Option.map_some, Option.some.injEq] at htext
      rw [htext]
      exact Option.not_isSome_iff_eq_none.mp hclean

/-- What the checks of a post have established. -/
structure PostChecked (findContactInfo : String -> Option String) (now : Nat)
    (category : ListingCategory) (body : PostBody) : Prop where
  quantity : body.quantity.isPositive = true
  contact : forall description, body.description = some description ->
    findContactInfo (trimText description) = none
  cropType : category = .agricultural -> (body.cropType.map trimText).getD "" ≠ ""
  askingPrice : body.askingPrice.isPositive = true
  minAcceptablePrice : forall minimum, body.minAcceptablePrice = some minimum ->
    minimum.isPositive = true ∧ minimum.exceeds body.askingPrice = false
  window : category = .agricultural -> body.pickupWindowEnd.isTruthy = true ∧
    body.pickupWindowStart.isPresent = true ∧ exists startTime endTime,
      body.pickupWindowStart.parseDate = some startTime ∧
      body.pickupWindowEnd.parseDate = some endTime ∧ startTime < endTime ∧ now < endTime

theorem DateField.orStored_none (field : DateField) :
    (field.orStored none).isPresent = field.isPresent ∧
      (field.orStored none).parseDate = field.parseDate := by
  cases field <;> exact ⟨rfl, rfl⟩

variable {body : PatchBody} {caller : SmsUser} {row : ProduceListing} {now checkedAt : Nat}
  {b : ListingBoard} {field : DateField} {listing : Listing} {quantities : Option (ℚ × ℚ)}
  {text newId sender : String} {after : SmsServer} {touches : String -> Bool}

theorem checkPost_eq_ok {category : ListingCategory} {body : PostBody} {u : Unit}
    (h : checkPost findContactInfo s caller category body = .ok u) :
    PostChecked findContactInfo s.now category body := by
  unfold checkPost at h
  simp only [bind_eq_ok, refuse_eq_ok] at h
  obtain ⟨_, hproblem, _, -, _, hcategory, _, hprices, _, hwindow, _, hend, -⟩ := h
  obtain ⟨hquantity, hcontact⟩ := postProblem_eq_none hproblem
  obtain ⟨hasking, hminimum⟩ := validatePrices_eq_none hprices
  refine ⟨hquantity, hcontact, ?_, hasking, hminimum, ?_⟩
  · rintro rfl hempty
    unfold categoryProblem at hcategory
    rw [if_pos rfl, if_pos hempty] at hcategory
    cases hcategory
  · rintro rfl
    have htruthy : body.pickupWindowEnd.isTruthy = true := by
      unfold windowNotGiven at hend
      split at hend
      · cases hend
      · next hnot => exact Bool.not_eq_false _ ▸ fun hfalse => hnot ⟨rfl, hfalse⟩
    have hpresent : (body.pickupWindowEnd.orStored none).isPresent = true := by
      rw [(DateField.orStored_none _).1]
      revert htruthy
      cases body.pickupWindowEnd <;> simp [DateField.isTruthy, DateField.isPresent]
    obtain ⟨hstart, startTime, endTime, hstartTime, hendTime, hlater, hfuture⟩ :=
      (ListingCategory.validatePickupWindow_eq_none hpresent).mp hwindow
    rw [(DateField.orStored_none _).1] at hstart
    rw [(DateField.orStored_none _).2] at hstartTime hendTime
    exact ⟨htruthy, hstart, startTime, endTime, hstartTime, hendTime, hlater, hfuture⟩

/-! ## What a listing keeps -/

/-- The policy but for the prices, which may be rounded to nothing while it is not published. -/
structure PostedSound (findContactInfo : String -> Option String) (checkedAt : Nat)
    (row : ProduceListing) : Prop where
  cropType : exists cropType, row.cropType = some cropType ∧ cropType ≠ ""
  window : exists startTime endTime, row.pickupWindowStart = some startTime ∧
    row.pickupWindowEnd = some endTime ∧ startTime < endTime ∧ checkedAt < endTime
  quantity : 0 < row.quantity ∧ row.availableQuantity = row.quantity
  askingPrice : 0 ≤ row.askingPrice ∧ toDecimal row.askingPrice = row.askingPrice
  minAcceptablePrice : forall minimum, row.minAcceptablePrice = some minimum ->
    0 ≤ minimum ∧ toDecimal minimum = minimum ∧ minimum ≤ row.askingPrice
  contact : forall description, row.description = some description ->
    findContactInfo description = none

/-- What is known of a row of produce. -/
structure ProduceSound (findContactInfo : String -> Option String) (checkedAt : Nat)
    (row : ProduceListing) : Prop where
  posted : row.inspectionRequired = true -> PostedSound findContactInfo checkedAt row
  published : row.status = .active -> row.isPublishable = true

structure BoardSound (findContactInfo : String -> Option String) (b : ListingBoard) : Prop where
  ids : (b.server.listings.map Prod.fst).Nodup
  past : forall id, b.checkedAt id ≤ b.server.now
  rows : forall e, e ∈ b.server.listings -> e.2.category = .agricultural ->
    ProduceSound findContactInfo (b.checkedAt e.1) e.2

theorem isPublishable_iff :
    row.isPublishable = true ↔ row.inspectionRequired = true ∧ 0 < row.askingPrice ∧
      forall minimum, row.minAcceptablePrice = some minimum -> 0 < minimum := by
  unfold ProduceListing.isPublishable
  rw [Bool.and_eq_true, Bool.and_eq_true, decide_eq_true_iff, and_assoc]
  cases row.minAcceptablePrice <;> simp

theorem ProduceSound.policy (h : ProduceSound findContactInfo checkedAt row)
    (hactive : row.status = .active) :
    ListingPolicy findContactInfo checkedAt row := by
  obtain ⟨hinspection, hasking, hminimum⟩ := isPublishable_iff.mp (h.published hactive)
  have hposted := h.posted hinspection
  exact
    { cropType := hposted.cropType
      window := hposted.window
      inspection := hinspection
      quantity := ⟨hposted.quantity.2.symm ▸ hposted.quantity.1, hposted.quantity.2.le⟩
      askingPrice := hasking
      minAcceptablePrice := fun minimum hsome =>
        ⟨hminimum minimum hsome, (hposted.minAcceptablePrice minimum hsome).2.2⟩
      contact := hposted.contact }

theorem BoardSound.complies (h : BoardSound findContactInfo b) :
    b.Complies findContactInfo :=
  fun e he hactive hproduce => (h.rows e he hproduce).policy hactive

theorem findListing_of_mem (hids : (s.listings.map Prod.fst).Nodup)
    {e : String × ProduceListing} (he : e ∈ s.listings) :
    findListing s e.1 = some e.2 := by
  have hfound : (s.listings.find? fun f => f.1 = e.1).isSome = true :=
    List.find?_isSome.mpr ⟨e, he, decide_eq_true rfl⟩
  obtain ⟨f, hf⟩ := Option.isSome_iff_exists.mp hfound
  have hmatches := List.find?_some hf
  have hid : f.1 = e.1 := of_decide_eq_true hmatches
  rw [findListing, hf, List.inj_on_of_nodup_map hids (List.mem_of_find?_eq_some hf) he hid]
  rfl

/-! ## A post -/

theorem toDecimal_pos {price : JsNumber} (hpositive : price.isPositive = true)
    (h : price.roundsToNothing = false) : 0 < toDecimal price.value := by
  refine lt_of_le_of_ne (toDecimal_nonneg (JsNumber.isPositive_eq_true hpositive).le) ?_
  intro hzero
  rw [JsNumber.roundsToNothing, hpositive, ← hzero] at h
  exact absurd h (by decide)

theorem DateField.parseDate_of_isTruthy (h : field.isTruthy = true) :
    field = .given field.parseDate := by
  cases field <;> first | rfl | cases h

/-- A listing that is posted as produce keeps the policy. -/
theorem PostChecked.row_sound {now : Nat} {body : PostBody} (caller : SmsUser) (sellerId : Id)
    (h : PostChecked findContactInfo now .agricultural body)
    (hasking : body.askingPrice.roundsToNothing = false)
    (hminimum : forall minimum, body.minAcceptablePrice = some minimum ->
      minimum.roundsToNothing = false)
    (hstart : body.pickupWindowStart ≠ .zero) :
    ProduceSound findContactInfo now (body.row caller sellerId .agricultural) := by
  obtain ⟨hend, hpresent, startTime, endTime, hstartTime, hendTime, hlater, hfuture⟩ :=
    h.window rfl
  have htruthy : body.pickupWindowStart.isTruthy = true := by
    cases hfield : body.pickupWindowStart with
    | missing => exact absurd (hfield ▸ hpresent) (by decide)
    | empty => exact absurd (hfield ▸ hpresent) (by decide)
    | zero => exact absurd hfield hstart
    | given time => rfl
  have hprices : forall minimum, body.minAcceptablePrice = some minimum ->
      0 < toDecimal minimum.value ∧ toDecimal minimum.value ≤ toDecimal body.askingPrice.value := by
    intro minimum hsome
    obtain ⟨hpositive, hexceeds⟩ := h.minAcceptablePrice minimum hsome
    exact ⟨toDecimal_pos hpositive (hminimum minimum hsome),
      toDecimal_mono (JsNumber.isPositive_eq_true hpositive).le
        (JsNumber.value_le hpositive h.askingPrice hexceeds)⟩
  have hask : 0 < toDecimal body.askingPrice.value := toDecimal_pos h.askingPrice hasking
  refine ⟨fun _ => ?_, fun _ => isPublishable_iff.mpr ⟨rfl, hask, ?_⟩⟩
  · constructor
    case cropType =>
      have hcrop := h.cropType rfl
      cases hfield : body.cropType with
      | none => exact absurd (by rw [hfield]; rfl) hcrop
      | some cropType =>
          rw [hfield] at hcrop
          exact ⟨trimText cropType, by simp [PostBody.row, hfield], hcrop⟩
    case window =>
      exact ⟨startTime, endTime, by simp [PostBody.row, htruthy, hstartTime],
        by simp [PostBody.row, hend, hendTime], hlater, hfuture⟩
    case quantity =>
      exact ⟨JsNumber.isPositive_eq_true h.quantity, rfl⟩
    case askingPrice =>
      exact ⟨hask.le, toDecimal_toDecimal (JsNumber.isPositive_eq_true h.askingPrice).le⟩
    case minAcceptablePrice =>
      intro minimum hsome
      obtain ⟨given, hgiven, rfl⟩ := Option.map_eq_some_iff.mp hsome
      have hpositive := (h.minAcceptablePrice given hgiven).1
      exact ⟨(hprices given hgiven).1.le,
        toDecimal_toDecimal (JsNumber.isPositive_eq_true hpositive).le, (hprices given hgiven).2⟩
    case contact =>
      intro description hsome
      obtain ⟨given, hgiven, rfl⟩ := Option.map_eq_some_iff.mp hsome
      exact h.contact given hgiven
  · intro minimum hsome
    obtain ⟨given, hgiven, rfl⟩ := Option.map_eq_some_iff.mp hsome
    exact (hprices given hgiven).1

/-! ## An edit -/

/-- What the checks of an edit of produce have established. -/
structure EditChecked (findContactInfo : String -> Option String) (now : Nat) (listing : Listing)
    (body : PatchBody) (quantities : Option (ℚ × ℚ)) : Prop where
  contact : forall description, body.description = .given description ->
    findContactInfo description = none
  askingPrice : forall price, body.askingPrice = some price -> price.isPositive = true
  quantity : forall quantity, body.quantity = some quantity -> quantity.isPositive = true
  minAcceptablePrice : forall minimum, body.minAcceptablePrice = .given minimum ->
    minimum.isPositive = true
  exceeds : minimumExceeds listing body = false
  quantities : quantities = body.quantity.map fun quantity =>
    (quantity.value, quantity.value - listing.allocated)
  window : (body.pickupWindowStart.orStored listing.pickupWindowStart).isTruthy = true ∧
    (body.pickupWindowEnd.orStored listing.pickupWindowEnd).isTruthy = true ∧
    exists startTime endTime,
      (body.pickupWindowStart.orStored listing.pickupWindowStart).parseDate = some startTime ∧
      (body.pickupWindowEnd.orStored listing.pickupWindowEnd).parseDate = some endTime ∧
      startTime < endTime ∧ now < endTime

theorem descriptionProblem_eq_none {description : BodyField String} :
    descriptionProblem findContactInfo description = none ↔
      forall text, description = .given text ->
        utf16Length (trimText text) ≤ 5000 ∧ findContactInfo text = none := by
  cases description <;> simp [descriptionProblem, message_eq_none]

theorem patchPriceProblem_eq_none :
    patchPriceProblem listing body = none ↔
      (forall price, body.askingPrice = some price -> price.isPositive = true) ∧
      (forall quantity, body.quantity = some quantity -> quantity.isPositive = true) ∧
      (forall minimum, body.minAcceptablePrice = .given minimum -> minimum.isPositive = true) ∧
      minimumExceeds listing body = false := by
  unfold patchPriceProblem
  simp only [message_eq_none]
  cases body.askingPrice <;> cases body.quantity <;> cases body.minAcceptablePrice <;>
    simp [BodyField.toOption]

theorem editQuantities_eq_ok {quantity : Option JsNumber} :
    editQuantities numberText listing quantity = .ok quantities ↔
      (forall requested, quantity = some requested ->
        listing.allocated ≤ requested.value + 1 / 10 ^ 9 ∧
        (listing.status = .sold -> listing.category = .agricultural ->
          requested.value ≤ listing.quantity)) ∧
      quantities = quantity.map fun requested =>
        (requested.value, requested.value - listing.allocated) := by
  cases quantity with
  | none => simp [editQuantities, eq_comm]
  | some requested =>
      simp only [editQuantities, guard_eq_ok, not_lt, not_and, and_assoc, Option.some.injEq,
        forall_eq', Option.map_some, Except.ok.injEq]
      rw [eq_comm (a := quantities)]

theorem windowMissing_eq_none :
    windowMissing listing body = none ↔ (listing.category = .agricultural ->
      (body.pickupWindowStart.orStored listing.pickupWindowStart).isTruthy = true ∧
      (body.pickupWindowEnd.orStored listing.pickupWindowEnd).isTruthy = true) := by
  simp [windowMissing]

theorem DateField.isPresent_of_isTruthy (h : field.isTruthy = true) :
    field.isPresent = true := by
  cases field <;> first | rfl | cases h

theorem editListingData_eq_ok {w : ListingWrite} (hproduce : listing.category = .agricultural)
    (h : editListingData findContactInfo numberText now listing body = .ok w) :
    exists quantities, w = body.write listing quantities ∧
      EditChecked findContactInfo now listing body quantities := by
  unfold editListingData at h
  simp only [bind_eq_ok, refuse_eq_ok] at h
  obtain ⟨_, hdescription, _, hprices, quantities, hquantities, _, hwindow, _, hmissing, _, -, h⟩ :=
    h
  replace h := (guard_eq_ok.mp h).2
  obtain rfl := Except.ok.inj h
  obtain ⟨hasking, hquantity, hminimum, hexceeds⟩ := patchPriceProblem_eq_none.mp hprices
  rw [hproduce] at hwindow
  obtain ⟨hstart, hend⟩ := windowMissing_eq_none.mp hmissing hproduce
  have htimes := ((ListingCategory.validatePickupWindow_eq_none
    (DateField.isPresent_of_isTruthy hend)).mp hwindow).2
  exact ⟨quantities, rfl,
    { contact := fun description hgiven =>
        (descriptionProblem_eq_none.mp hdescription description hgiven).2
      askingPrice := hasking
      quantity := hquantity
      minAcceptablePrice := hminimum
      exceeds := hexceeds
      quantities := (editQuantities_eq_ok.mp hquantities).2
      window := ⟨hstart, hend, htimes⟩ }⟩

theorem DateField.column_getD {stored : Option Nat} (h : (field.orStored stored).isTruthy = true) :
    field.column.getD stored = (field.orStored stored).parseDate := by
  unfold orStored at h ⊢
  split
  · next hmissing =>
      subst hmissing
      cases stored <;> rfl
  · next hgiven =>
      rw [if_neg hgiven] at h
      rw [parseDate_of_isTruthy h]
      rfl

theorem write_minAcceptablePrice {minimum : ℚ}
    (h : ((body.write listing quantities).onListing listing).minAcceptablePrice = some minimum) :
    (exists given, body.minAcceptablePrice = .given given ∧ minimum = toDecimal given.value) ∨
      body.minAcceptablePrice = .missing ∧ listing.minAcceptablePrice = some minimum := by
  simp only [ListingWrite.onListing, PatchBody.write] at h
  cases hfield : body.minAcceptablePrice with
  | missing =>
      rw [hfield] at h
      exact Or.inr ⟨rfl, h⟩
  | empty =>
      rw [hfield] at h
      cases h
  | given value =>
      rw [hfield] at h
      exact Or.inl ⟨value, rfl, (Option.some.inj h).symm⟩

namespace EditChecked

variable {now checkedAt : Nat} {row : ProduceListing} {body : PatchBody}
  {quantities : Option (ℚ × ℚ)}

theorem askingPrice_sound (h : EditChecked findContactInfo now row.toListing body quantities)
    (hrow : PostedSound findContactInfo checkedAt row) :
    0 ≤ ((body.write row.toListing quantities).onListing row.toListing).askingPrice ∧
      toDecimal ((body.write row.toListing quantities).onListing row.toListing).askingPrice =
        ((body.write row.toListing quantities).onListing row.toListing).askingPrice := by
  simp only [ListingWrite.onListing, PatchBody.write]
  cases hfield : body.askingPrice with
  | none => exact hrow.askingPrice
  | some price =>
      have hpositive := JsNumber.isPositive_eq_true (h.askingPrice price hfield)
      exact ⟨toDecimal_nonneg hpositive.le, toDecimal_toDecimal hpositive.le⟩

theorem minimum_le (h : EditChecked findContactInfo now row.toListing body quantities)
    (hrow : PostedSound findContactInfo checkedAt row) {minimum : ℚ}
    (hminimum : ((body.write row.toListing quantities).onListing
      row.toListing).minAcceptablePrice = some minimum) :
    minimum ≤ ((body.write row.toListing quantities).onListing row.toListing).askingPrice := by
  have hexceeds := h.exceeds
  unfold minimumExceeds at hexceeds
  rcases write_minAcceptablePrice hminimum with ⟨given, hgiven, rfl⟩ | ⟨hkept, hstored⟩
  · have hpositive := h.minAcceptablePrice given hgiven
    rw [hgiven] at hexceeds
    simp only [ListingWrite.onListing, PatchBody.write]
    cases hfield : body.askingPrice with
    | none =>
        rw [hfield] at hexceeds
        have hrounded := toDecimal_mono (JsNumber.isPositive_eq_true hpositive).le
          (JsNumber.value_le_rational hpositive hexceeds)
        exact hrounded.trans hrow.askingPrice.2.le
    | some price =>
        rw [hfield] at hexceeds
        exact toDecimal_mono (JsNumber.isPositive_eq_true hpositive).le
          (JsNumber.value_le hpositive (h.askingPrice price hfield) hexceeds)
  · rw [hkept, hstored] at hexceeds
    obtain ⟨hnonneg, hfixed, hle⟩ := hrow.minAcceptablePrice minimum hstored
    simp only [ListingWrite.onListing, PatchBody.write]
    cases hfield : body.askingPrice with
    | none => exact hle
    | some price =>
        rw [hfield] at hexceeds
        have hpositive := h.askingPrice price hfield
        exact hfixed ▸ toDecimal_mono hnonneg (JsNumber.le_value hpositive hexceeds)

theorem minAcceptablePrice_sound
    (h : EditChecked findContactInfo now row.toListing body quantities)
    (hrow : PostedSound findContactInfo checkedAt row) {minimum : ℚ}
    (hminimum : ((body.write row.toListing quantities).onListing
      row.toListing).minAcceptablePrice = some minimum) :
    0 ≤ minimum ∧ toDecimal minimum = minimum := by
  rcases write_minAcceptablePrice hminimum with ⟨given, hgiven, rfl⟩ | ⟨-, hstored⟩
  · have hpositive := JsNumber.isPositive_eq_true (h.minAcceptablePrice given hgiven)
    exact ⟨toDecimal_nonneg hpositive.le, toDecimal_toDecimal hpositive.le⟩
  · obtain ⟨hnonneg, hfixed, -⟩ := hrow.minAcceptablePrice minimum hstored
    exact ⟨hnonneg, hfixed⟩

theorem quantity_sound (h : EditChecked findContactInfo now row.toListing body quantities)
    (hrow : 0 < row.quantity ∧ row.availableQuantity = row.quantity) :
    0 < ((body.write row.toListing quantities).onListing row.toListing).quantity ∧
      ((body.write row.toListing quantities).onListing row.toListing).availableQuantity =
        ((body.write row.toListing quantities).onListing row.toListing).quantity := by
  have hallocated : row.allocated = 0 := by
    rw [Listing.allocated, hrow.2, sub_self, max_self]
  simp only [ListingWrite.onListing, PatchBody.write, h.quantities, hallocated, sub_zero]
  cases hfield : body.quantity with
  | none => exact hrow
  | some quantity => exact ⟨JsNumber.isPositive_eq_true (h.quantity quantity hfield), rfl⟩

theorem posted_sound (h : EditChecked findContactInfo now row.toListing body quantities)
    (hrow : PostedSound findContactInfo checkedAt row) :
    PostedSound findContactInfo now ((body.write row.toListing quantities).onRow row) := by
  obtain ⟨hstart, hend, startTime, endTime, hstartTime, hendTime, hlater, hfuture⟩ := h.window
  constructor
  case cropType => exact hrow.cropType
  case window =>
    exact ⟨startTime, endTime, (DateField.column_getD hstart).trans hstartTime,
      (DateField.column_getD hend).trans hendTime, hlater, hfuture⟩
  case quantity => exact h.quantity_sound hrow.quantity
  case askingPrice => exact h.askingPrice_sound hrow
  case minAcceptablePrice =>
    intro minimum hminimum
    obtain ⟨hnonneg, hfixed⟩ := h.minAcceptablePrice_sound hrow hminimum
    exact ⟨hnonneg, hfixed, h.minimum_le hrow hminimum⟩
  case contact =>
    intro description hdescription
    cases hfield : body.description with
    | missing =>
        refine hrow.contact description ?_
        simpa [ListingWrite.onRow, PatchBody.write, hfield, BodyField.column] using hdescription
    | empty =>
        simp [ListingWrite.onRow, PatchBody.write, hfield, BodyField.column] at hdescription
    | given text =>
        refine h.contact description ?_
        simpa [ListingWrite.onRow, PatchBody.write, hfield, BodyField.column] using hdescription

end EditChecked

theorem PostedSound.earlier {earlier : Nat} (h : PostedSound findContactInfo checkedAt row)
    (hle : earlier ≤ checkedAt) :
    PostedSound findContactInfo earlier row := by
  obtain ⟨startTime, endTime, hstart, hend, hlater, hfuture⟩ := h.window
  exact
    { h with
      window := ⟨startTime, endTime, hstart, hend, hlater, hle.trans_lt hfuture⟩ }

theorem isPublishable_onRow (hproduce : row.category = .agricultural) :
    ((body.write row.toListing quantities).onRow row).isPublishable =
      (body.priced row).isPublishable := by
  simp only [ProduceListing.isPublishable, ListingWrite.onRow, ListingWrite.onListing,
    PatchBody.write, PatchBody.priced, if_pos hproduce, Option.getD_none]
  rfl

theorem ProduceSound.edited {w : ListingWrite} (h : ProduceSound findContactInfo checkedAt row)
    (hproduce : row.category = .agricultural)
    (hedit : editListingData findContactInfo numberText now row.toListing body = .ok w)
    (hok : body.status.getD row.status = .active -> (body.priced row).isPublishable = true) :
    ProduceSound findContactInfo now (w.onRow row) := by
  obtain ⟨quantities, rfl, hchecked⟩ := editListingData_eq_ok hproduce hedit
  have hinspection : ((body.write row.toListing quantities).onRow row).inspectionRequired =
      row.inspectionRequired := by
    simp only [ListingWrite.onRow, ListingWrite.onListing, PatchBody.write, if_pos hproduce,
      Option.getD_none]
  refine ⟨fun hrequired => ?_, fun hactive => ?_⟩
  · rw [hinspection] at hrequired
    exact hchecked.posted_sound (h.posted hrequired)
  · rw [isPublishable_onRow hproduce]
    exact hok hactive

/-! ## A message -/

theorem messagedDraft_eq_some {id : String}
    (h : s.messagedDraft toUpperCase sender text = some (id, row)) :
    (id, row) ∈ s.listings ∧ row.status = .draft := by
  obtain ⟨u, -, hdraft⟩ := Option.bind_eq_some_iff.mp h
  dsimp only at hdraft
  split at hdraft
  · have hmem := List.mem_of_mem_take (List.mem_of_find?_eq_some hdraft)
    obtain ⟨hrow, hisDraft⟩ := List.mem_filter.mp hmem
    simp only [ProduceListing.isDraftOf, Bool.and_eq_true, decide_eq_true_eq] at hisDraft
    exact ⟨hrow, hisDraft.1.2⟩
  · cases hdraft

theorem activation_step {u : SmsUser}
    (hactivate : toUpperCase ((words text).headD "") = "ACTIVATE")
    (haccount : s.account sender = some u) :
    s.step toUpperCase pickupWindowMs (.inbound sender text newId) =
      (handleActivateCommand toUpperCase pickupWindowMs s u (words text).tail).2 := by
  obtain ⟨phone, hphone, huser⟩ := Option.bind_eq_some_iff.mp haccount
  have hlist : toUpperCase ((words text).headD "") ≠ "LIST" := by
    rw [hactivate]
    decide
  unfold SmsServer.step handleInboundSms
  simp only [hphone, huser, if_neg hlist, if_pos hactivate]
  rfl

/-- A message that does not save a draft publishes the one that it names, or nothing. -/
theorem message_cases (sender text newId : String) :
    s.step toUpperCase pickupWindowMs (.inbound sender text newId) = s ∨
      (exists u, SmsServer.Saves toUpperCase pickupWindowMs s u newId
        (s.step toUpperCase pickupWindowMs (.inbound sender text newId))) ∨
      exists id row, s.messagedDraft toUpperCase sender text = some (id, row) ∧
        s.step toUpperCase pickupWindowMs (.inbound sender text newId) =
          { s with listings := setListing s.listings id (row.activated pickupWindowMs s.now) } := by
  rcases SmsServer.inbound_cases sender text newId with hsame | ⟨u, haccount, hcommand⟩
  · exact Or.inl hsame
  · rcases hcommand with ⟨-, hsaves⟩ | ⟨hactivate, -⟩
    · exact Or.inr (Or.inl ⟨u, hsaves⟩)
    · rw [activation_step hactivate haccount, SmsServer.messagedDraft, haccount,
        Option.bind_some]
      unfold handleActivateCommand
      dsimp only
      split
      · exact Or.inl rfl
      · next hcode =>
          rw [if_pos ⟨hactivate, hcode⟩]
          split
          · exact Or.inl rfl
          · next id row hfound => exact Or.inr (Or.inr ⟨id, row, hfound, rfl⟩)

/-! ## Steps -/

/-- A board whose server has other rows, all of them known to be sound. -/
theorem BoardSound.of_rows {b : ListingBoard} {after : SmsServer} {touches : String -> Bool}
    (h : BoardSound findContactInfo b) (hids : (after.listings.map Prod.fst).Nodup)
    (hnow : b.server.now ≤ after.now)
    (hrows : forall e, e ∈ after.listings -> e.2.category = .agricultural ->
      ProduceSound findContactInfo b.server.now e.2 ∨ e ∈ b.server.listings ∧ touches e.1 = false) :
    BoardSound findContactInfo
      { server := after
        checkedAt := fun id => if touches id then b.server.now else b.checkedAt id } := by
  have hpast : forall id, (if touches id then b.server.now else b.checkedAt id) ≤ b.server.now := by
    intro id
    split
    · exact le_rfl
    · exact h.past id
  refine ⟨hids, fun id => (hpast id).trans hnow, ?_⟩
  intro e he hproduce
  rcases hrows e he hproduce with hsound | ⟨hold, huntouched⟩
  · exact ⟨fun hrequired => (hsound.posted hrequired).earlier (hpast e.1), hsound.published⟩
  · have hrow := h.rows e hold hproduce
    dsimp only
    rw [huntouched]
    exact hrow

theorem findListing_cons_of_ne {id : String} (hne : id ≠ newId) (s' : SmsServer)
    (h : s'.listings = (newId, row) :: s.listings) :
    findListing s' id = findListing s id := by
  rw [findListing, h, List.find?_cons_of_neg (by simpa using hne.symm)]
  rfl

/-- A row that is added. -/
theorem BoardSound.cons (h : BoardSound findContactInfo b)
    (hnew : newId ∉ b.server.listings.map Prod.fst)
    (hlistings : after.listings = (newId, row) :: b.server.listings)
    (hnow : after.now = b.server.now)
    (htouches : forall id, findListing b.server id = findListing after id -> touches id = false)
    (hrow : row.category = .agricultural -> ProduceSound findContactInfo b.server.now row) :
    BoardSound findContactInfo
      { server := after
        checkedAt := fun id => if touches id then b.server.now else b.checkedAt id } := by
  refine h.of_rows ?_ hnow.ge ?_
  · rw [hlistings]
    exact List.nodup_cons.mpr ⟨hnew, h.ids⟩
  · intro e he hproduce
    rw [hlistings] at he
    rcases List.mem_cons.mp he with rfl | hold
    · exact Or.inl (hrow hproduce)
    · have hne : e.1 ≠ newId := fun heq => hnew (heq ▸ List.mem_map_of_mem hold)
      exact Or.inr ⟨hold, htouches _ (findListing_cons_of_ne hne after hlistings).symm⟩

/-- A row that is written. -/
theorem BoardSound.set {b : ListingBoard} {after : SmsServer} {touches : String -> Bool}
    {id : String} {row : ProduceListing} (h : BoardSound findContactInfo b)
    (hlistings : after.listings = setListing b.server.listings id row)
    (hnow : after.now = b.server.now)
    (htouches : forall other, other ≠ id ->
      findListing b.server other = findListing after other -> touches other = false)
    (hrow : row.category = .agricultural -> ProduceSound findContactInfo b.server.now row) :
    BoardSound findContactInfo
      { server := after
        checkedAt := fun id => if touches id then b.server.now else b.checkedAt id } := by
  have hkeys : after.listings.map Prod.fst = b.server.listings.map Prod.fst := by
    rw [hlistings]
    exact map_updateKey Prod.fst id (fun _ => (id, row)) (fun _ _ => rfl) b.server.listings
  have hids : (after.listings.map Prod.fst).Nodup := hkeys.symm ▸ h.ids
  refine h.of_rows hids hnow.ge ?_
  intro e he hproduce
  have hmem := he
  rw [hlistings] at hmem
  rcases mem_updateKey.mp hmem with ⟨hold, hne⟩ | ⟨_, _, _, rfl⟩
  · refine Or.inr ⟨hold, htouches e.1 hne ?_⟩
    rw [findListing_of_mem h.ids hold, findListing_of_mem hids he]
  · exact Or.inl (hrow hproduce)

theorem BoardSound.tick (h : BoardSound findContactInfo b) (duration : Nat)
    (htouches : forall id, touches id = false) :
    BoardSound findContactInfo
      { server := { b.server with now := b.server.now + duration }
        checkedAt := fun id => if touches id then b.server.now else b.checkedAt id } :=
  h.of_rows h.ids (Nat.le_add_right _ _) fun e he _ => Or.inr ⟨he, htouches e.1⟩

theorem createListing_sound {body : PostBody} (h : BoardSound findContactInfo b)
    (hok : ListingRequest.keepsPolicy toUpperCase b.server (.post caller newId body) = true)
    (htouches : forall id, findListing b.server id = findListing after id -> touches id = false)
    (hafter : createListing findContactInfo b.server caller newId body = .ok after) :
    BoardSound findContactInfo
      { server := after
        checkedAt := fun id => if touches id then b.server.now else b.checkedAt id } := by
  unfold createListing at hafter
  simp only [bind_eq_ok] at hafter
  obtain ⟨_, hcheck, hafter⟩ := hafter
  obtain ⟨hfits, hafter⟩ := guard_eq_ok.mp hafter
  obtain rfl := Except.ok.inj hafter
  have hnew : newId ∉ b.server.listings.map Prod.fst := by
    intro hmem
    exact hfits (by simp only [createFails, hmem, decide_true, Bool.true_or])
  refine h.cons hnew rfl rfl htouches ?_
  intro (hproduce : body.category.getD .agricultural = .agricultural)
  have hchecked := checkPost_eq_ok hcheck
  rw [hproduce] at hchecked ⊢
  simp only [ListingRequest.keepsPolicy, hproduce, ne_eq, not_true_eq_false, decide_false,
    Bool.false_or, Bool.and_eq_true, Bool.not_eq_true', Option.any_eq_false,
    decide_eq_true_eq] at hok
  exact hchecked.row_sound caller _ hok.1.1 (fun minimum hsome => hok.1.2 minimum hsome) hok.2

theorem patchListing_eq_ok {listingId : String}
    (h : patchListing findContactInfo numberText s caller listingId body = .ok s') :
    exists row w, (listingId, row) ∈ s.listings ∧ findListing s listingId = some row ∧
      editListingData findContactInfo numberText s.now row.toListing body = .ok w ∧
      s' = { s with listings := setListing s.listings listingId (w.onRow row) } := by
  unfold patchListing at h
  split at h
  · cases h
  · next key row hfound =>
      split at h
      · cases h
      · obtain ⟨w, hedit, hafter⟩ := bind_eq_ok.mp h
        have hmatches := List.find?_some hfound
        obtain rfl : key = listingId := of_decide_eq_true hmatches
        refine ⟨row, w, List.mem_of_find?_eq_some hfound, ?_, hedit, (Except.ok.inj hafter).symm⟩
        rw [findListing, hfound]
        rfl

theorem patchListing_sound {listingId : String} (h : BoardSound findContactInfo b)
    (hok : ListingRequest.keepsPolicy toUpperCase b.server (.patch caller listingId body) = true)
    (htouches : forall id, id ≠ listingId -> touches id = false)
    (hafter : patchListing findContactInfo numberText b.server caller listingId body = .ok after) :
    BoardSound findContactInfo
      { server := after
        checkedAt := fun id => if touches id then b.server.now else b.checkedAt id } := by
  obtain ⟨row, w, hmem, hfound, hedit, rfl⟩ := patchListing_eq_ok hafter
  refine h.set rfl rfl (fun id hne _ => htouches id hne) ?_
  intro (hproduce : row.category = .agricultural)
  have hrow : ProduceSound findContactInfo (b.checkedAt listingId) row := h.rows _ hmem hproduce
  refine hrow.edited hproduce hedit ?_
  intro hactive
  simpa [ListingRequest.keepsPolicy, hfound, hproduce, hactive] using hok

/-- A draft that `ACTIVATE` publishes. -/
theorem ProduceSound.activated (h : ProduceSound findContactInfo checkedAt row)
    (hpositive : 0 < pickupWindowMs) (hok : row.isPublishable = true) :
    ProduceSound findContactInfo now (row.activated pickupWindowMs now) := by
  have hposted := h.posted (isPublishable_iff.mp hok).1
  obtain ⟨startTime, endTime, hstart, hend, hlater, -⟩ := hposted.window
  unfold ProduceListing.activated
  split
  · refine ⟨fun _ => ?_, fun _ => hok⟩
    exact
      { hposted with
        window := ⟨now, now + pickupWindowMs, rfl, rfl, Nat.lt_add_of_pos_right hpositive,
          Nat.lt_add_of_pos_right hpositive⟩ }
  · next hfuture =>
      rw [hend, Option.getD_some, not_le] at hfuture
      refine ⟨fun _ => ?_, fun _ => hok⟩
      exact
        { hposted with
          window := ⟨startTime, endTime, hstart, hend, hlater, hfuture⟩ }

theorem message_sound {b : ListingBoard} {sender text newId : String} {touches : String -> Bool}
    (hpositive : 0 < pickupWindowMs) (h : BoardSound findContactInfo b)
    (hok : ListingRequest.keepsPolicy toUpperCase b.server (.message sender text newId) = true)
    (htouches : forall id, findListing b.server id =
      findListing (b.server.step toUpperCase pickupWindowMs (.inbound sender text newId)) id ->
      touches id = false) :
    BoardSound findContactInfo
      { server := b.server.step toUpperCase pickupWindowMs (.inbound sender text newId)
        checkedAt := fun id => if touches id then b.server.now else b.checkedAt id } := by
  rcases message_cases sender text newId with
    hsame | ⟨u, command, hnew, hsaved⟩ | ⟨id, row, hdraft, hpublished⟩
  · rw [hsame] at htouches ⊢
    exact h.of_rows h.ids le_rfl fun e he _ => Or.inr ⟨he, htouches e.1 rfl⟩
  · refine h.cons hnew (congrArg SmsServer.listings hsaved) ?_ htouches ?_
    · rw [hsaved]
    · intro _
      refine ⟨fun hrequired => ?_, fun hactive => ?_⟩
      · cases hrequired
      · cases hactive
  · refine h.set (congrArg SmsServer.listings hpublished) ?_ (fun other _ => htouches other) ?_
    · rw [hpublished]
    · intro hproduce
      have hcategory : (row.activated pickupWindowMs b.server.now).category = row.category := by
        unfold ProduceListing.activated
        split <;> rfl
      have hrow := h.rows _ (messagedDraft_eq_some hdraft).1 (hcategory.symm.trans hproduce)
      refine ProduceSound.activated hrow hpositive ?_
      simpa only [ListingRequest.keepsPolicy, hdraft, Option.all_some] using hok

theorem BoardSound.step (hpositive : 0 < pickupWindowMs) (h : BoardSound findContactInfo b)
    (req : ListingRequest) (hok : req.keepsPolicy toUpperCase b.server = true) :
    BoardSound findContactInfo
      (b.step toUpperCase findContactInfo numberText pickupWindowMs req) := by
  unfold ListingBoard.step
  split
  · exact h
  · next after hafter =>
      cases req with
      | post caller newId body =>
          exact createListing_sound h hok (fun id hsame => decide_eq_false (not_not.mpr hsame))
            hafter
      | patch caller listingId body =>
          refine patchListing_sound h hok (fun id hne => ?_) hafter
          rw [ListingRequest.touches, decide_eq_false hne, Bool.false_and]
      | message sender text newId =>
          obtain rfl := Except.ok.inj hafter
          exact message_sound hpositive h hok
            (fun id hsame => decide_eq_false (not_not.mpr hsame))
      | tick duration =>
          obtain rfl := Except.ok.inj hafter
          exact h.tick duration fun id => decide_eq_false (not_not.mpr rfl)

end

theorem boardSound_empty (findContactInfo : String -> Option String) (users : List SmsUser)
    (now : Nat) :
    BoardSound findContactInfo
      { server :=
          { users := users
            now := now } } :=
  ⟨List.nodup_nil, fun _ => Nat.zero_le now, fun _ he => absurd he List.not_mem_nil⟩

/-! ## Runs -/

def farmer : SmsUser :=
  { id := 0
    phone := some "0911 22 33 44"
    roles := [.seller] }

/-- A post of wheat with a window from one time to another. -/
def wheatPost (askingPrice : ℚ) (pickupWindowStart : DateField) : PostBody :=
  { sellerId := some 0
    cropType := some "WHEAT"
    quantity := .finite 500
    unit := "KG"
    askingPrice := .finite askingPrice
    location := "Debre Zeit"
    pickupWindowStart := pickupWindowStart
    pickupWindowEnd := .given (some 8700000000000000) }

/-- Wheat is posted, its price changed, withdrawn and activated by a message. -/
def wheatEdited : List ListingRequest :=
  [.post farmer "7d1e0c52-58f4-4f4b-9c7e-0b6a523f9a21"
      (wheatPost 25 (.given (some 8650000000000000))),
    .patch farmer "7d1e0c52-58f4-4f4b-9c7e-0b6a523f9a21"
      { askingPrice := some (.finite 30)
        quantity := some (.finite 400)
        status := some .draft },
    .tick 60000, .message "+251911223344" "activate 3f9a21" ""]

def farmerBoard (reqs : List ListingRequest) : ListingBoard :=
  run (ListingBoard.step SmsServer.toUpperLetters (fun _ => none) (fun _ => "") 2592000000)
    { server :=
        { users := [farmer]
          now := 8640000000001000 } } reqs

def wheatMessaged : List ListingRequest :=
  [.message "+251911223344" "list wheat 500 kg 25 Debre Zeit"
      "7d1e0c52-58f4-4f4b-9c7e-0b6a523f9a21",
    .message "+251911223344" "activate 3f9a21" ""]

theorem not_complies {findContactInfo : String -> Option String} {b : ListingBoard}
    (h : exists e, e ∈ b.server.listings ∧ e.2.status = .active ∧
      e.2.category = .agricultural ∧
      (e.2.isPublishable = false ∨ e.2.pickupWindowStart = none)) :
    ¬ b.Complies findContactInfo := by
  obtain ⟨e, he, hactive, hproduce, hbad⟩ := h
  intro hcomplies
  have hpolicy := hcomplies e he hactive hproduce
  rcases hbad with hunpublishable | hstart
  · have hpublishable := isPublishable_iff.mpr ⟨hpolicy.inspection, hpolicy.askingPrice,
      fun minimum hsome => (hpolicy.minAcceptablePrice minimum hsome).1⟩
    rw [hunpublishable] at hpublishable
    cases hpublishable
  · obtain ⟨startTime, _, hsome, -⟩ := hpolicy.window
    rw [hstart] at hsome
    cases hsome

end MarketBridge
