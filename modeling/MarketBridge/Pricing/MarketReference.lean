import MarketBridge.Ledger.Entries
import MarketBridge.Listing.Browse
import MarketBridge.Ranking.Median
import MarketBridge.Relational.KeyedList

/-!
# Market price references

What comparable goods were sold for, or are offered for, as a reference for a price: the
median of the unit prices of enough rows, of the first level that has enough.  The market
trends report another median of sold goods.
-/

namespace MarketBridge

open Ranking

/-! ## Rows -/

/-- The environment of the service. -/
structure MarketConfig where
  minSampleSize : Nat := 3
  windowDays : Nat := 60
  positive : 0 < minSampleSize := by decide

/-- A listing as its reference depends on it. -/
structure PricedListing where
  category : ListingCategory := .agricultural
  region : Option Region := none
  unit : Option String := none
  quantity : Option ℚ := none
deriving DecidableEq, Repr

/-- An order that is delivered or completed, with what is read of its listing. -/
structure CompletedOrder where
  id : Id
  finalPrice : ℚ
  quantity : ℚ
  createdAt : Nat
  listingId : Id
  location : Option String := none
  region : Option Region := none
  cropType : Option String := none
  unit : Option String := none
deriving DecidableEq, Repr

/-- Another listing that is on offer; its asking price is a price per unit. -/
structure ActiveListing where
  id : Id
  askingPrice : ℚ
  quantity : ℚ
  createdAt : Nat
  location : Option String := none
  region : Option Region := none
deriving DecidableEq, Repr

/-- A row of a sample. -/
structure MarketRow where
  orderId : Option Id
  listingId : Id
  unitPrice : ℚ
  totalPrice : ℚ
  quantity : ℚ
  createdAt : Nat
  location : Option String
  region : Option Region
deriving DecidableEq, Repr

inductive MarketSource where
  | recentCompletedOrders
  | activeComparableListings
deriving DecidableEq, Repr

inductive MarketScope where
  | region
  | nationwide
deriving DecidableEq, Repr

/-- The region of a listing, or `'All regions'`. -/
inductive MarketLocation where
  | region (region : Region)
  | allRegions
deriving DecidableEq, Repr

structure MarketReference where
  unitPrice : ℚ
  totalPrice : ℚ
  source : MarketSource
  scope : MarketScope
  windowDays : Option Nat
  observedAt : Nat
  location : MarketLocation
  unit : Option String
  sampleSize : Nat
  minUnitPrice : ℚ
  maxUnitPrice : ℚ
  samples : List MarketRow
  calculationVersion : String := "market-price-v2"
deriving DecidableEq, Repr

/-! ## Samples -/

def finitePositive (value : Option ℚ) : Option ℚ :=
  value.filter (0 < ·)

theorem finitePositive_of_pos {value : ℚ} (h : 0 < value) :
    finitePositive (some value) = some value :=
  Option.filter_some_pos (decide_eq_true h)

theorem finitePositive_of_not_pos {value : ℚ} (h : ¬0 < value) :
    finitePositive (some value) = none :=
  Option.filter_some_neg (by simpa using h)

def CompletedOrder.pricePerUnit (order : CompletedOrder) : ℚ :=
  order.finalPrice / order.quantity

def comparableRow (order : CompletedOrder) : Option MarketRow :=
  match finitePositive (some order.quantity), finitePositive (some order.finalPrice) with
  | some quantity, some total =>
      some
        { orderId := some order.id
          listingId := order.listingId
          unitPrice := roundMoney (total / quantity)
          totalPrice := roundMoney total
          quantity := quantity
          createdAt := order.createdAt
          location := order.location
          region := order.region }
  | _, _ => none

def comparableRows (orders : List CompletedOrder) : List MarketRow :=
  orders.filterMap comparableRow

def activeRow (listing : ActiveListing) : Option MarketRow :=
  let unitPrice := roundMoney ((finitePositive (some listing.askingPrice)).getD 0)
  match finitePositive (some listing.quantity) with
  | none => none
  | some quantity =>
      if unitPrice = 0 then
        none
      else
        some
          { orderId := none
            listingId := listing.id
            unitPrice := unitPrice
            totalPrice := roundMoney (unitPrice * quantity)
            quantity := quantity
            createdAt := listing.createdAt
            location := listing.location
            region := listing.region }

def activeRows (listings : List ActiveListing) : List MarketRow :=
  listings.filterMap activeRow

/-! ## References -/

def median (values : List ℚ) : Option ℚ :=
  let sorted := ascending values
  if sorted.length = 0 then
    none
  else
    let middle := sorted.length / 2
    some
      (if sorted.length % 2 = 1 then sorted.getD middle 0
      else (sorted.getD (middle - 1) 0 + sorted.getD middle 0) / 2)

def buildReference (config : MarketConfig) (now : Nat) (rows : List MarketRow)
    (listing : PricedListing) (source : MarketSource) (targetQuantity : Option ℚ)
    (scope : MarketScope) (location : MarketLocation) : Option MarketReference :=
  let prices := rows.map (·.unitPrice)
  match median prices with
  | none => none
  | some middle =>
      let unitPrice := roundMoney middle
      let quantity :=
        ((finitePositive targetQuantity).or (finitePositive listing.quantity)).getD 1
      some
        { unitPrice := unitPrice
          totalPrice := roundMoney (unitPrice * quantity)
          source := source
          scope := scope
          windowDays :=
            if source = .recentCompletedOrders then some config.windowDays else none
          observedAt := now
          location := location
          unit := listing.unit
          sampleSize := prices.length
          minUnitPrice := roundMoney (prices.min?.getD 0)
          maxUnitPrice := roundMoney (prices.max?.getD 0)
          samples := rows }

/-- What the queries of a reference find. -/
structure Comparables where
  /-- Completed sales in the region of the listing. -/
  regional : List CompletedOrder
  /-- Completed sales anywhere. -/
  national : List CompletedOrder
  active : List ActiveListing
deriving DecidableEq, Repr

def getMarketPriceReference (config : MarketConfig) (now : Nat) (listing : PricedListing)
    (quantity : Option ℚ) (c : Comparables) : Option MarketReference :=
  let nationwide :=
    let national := comparableRows c.national
    if config.minSampleSize ≤ national.length then
      buildReference config now national listing .recentCompletedOrders quantity .nationwide
        .allRegions
    else
      let active := activeRows c.active
      if config.minSampleSize ≤ active.length then
        buildReference config now active listing .activeComparableListings quantity .nationwide
          .allRegions
      else
        none
  if listing.category ∉ [ListingCategory.agricultural, .product] then
    none
  else
    match listing.region with
    | none => nationwide
    | some region =>
        let regional := comparableRows c.regional
        if config.minSampleSize ≤ regional.length then
          buildReference config now regional listing .recentCompletedOrders quantity .region
            (.region region)
        else
          nationwide

/-! ## Trends -/

def Region.name : Region -> String
  | .tigray => "TIGRAY"
  | .afar => "AFAR"
  | .amhara => "AMHARA"
  | .oromia => "OROMIA"
  | .somali => "SOMALI"
  | .benishangulGumuz => "BENISHANGUL_GUMUZ"
  | .gambela => "GAMBELA"
  | .harari => "HARARI"
  | .sidama => "SIDAMA"
  | .southEthiopia => "SOUTH_ETHIOPIA"
  | .southWestEthiopiaPeoples => "SOUTH_WEST_ETHIOPIA_PEOPLES"
  | .centralEthiopia => "CENTRAL_ETHIOPIA"
  | .addisAbaba => "ADDIS_ABABA"
  | .direDawa => "DIRE_DAWA"

structure TrendGroup where
  key : String
  cropType : String
  region : Option Region
  unit : Option String
  prices : List ℚ
  latestSaleAt : Nat
deriving DecidableEq, Repr

structure Trend where
  cropType : String
  region : Option Region
  unit : Option String
  sampleSize : Nat
  averagePricePerUnit : ℚ
  medianPricePerUnit : ℚ
  minPricePerUnit : ℚ
  maxPricePerUnit : ℚ
  latestSaleAt : Nat
deriving DecidableEq, Repr

/-- `(cropType || 'UNSPECIFIED').trim()`. -/
def CompletedOrder.crop (order : CompletedOrder) : String :=
  trimText ((order.cropType.filter (· ≠ "")).getD "UNSPECIFIED")

def CompletedOrder.trendKey (lowerCase : String -> String) (order : CompletedOrder) : String :=
  let region := (order.region.map Region.name).getD "ANY"
  lowerCase order.crop ++ "|" ++ region ++ "|" ++ order.unit.getD ""

/-- The order joins its group, or begins one. -/
def joinGroup (lowerCase : String -> String) (groups : List TrendGroup) (order : CompletedOrder) :
    List TrendGroup :=
  if 0 < order.quantity then
    let key := order.trendKey lowerCase
    let groups :=
      if key ∈ groups.map (·.key) then
        groups
      else
        groups ++
          [{ key := key
             cropType := order.crop
             region := order.region
             unit := order.unit
             prices := []
             latestSaleAt := order.createdAt }]
    Relational.updateKey (·.key) key (fun group =>
      { group with
        prices := group.prices ++ [order.pricePerUnit]
        latestSaleAt := max group.latestSaleAt order.createdAt }) groups
  else
    groups

def trendGroups (lowerCase : String -> String) (orders : List CompletedOrder) :
    List TrendGroup :=
  orders.foldl (joinGroup lowerCase) []

def TrendGroup.trend (group : TrendGroup) : Trend :=
  let sorted := ascending group.prices
  { cropType := group.cropType
    region := group.region
    unit := group.unit
    sampleSize := sorted.length
    averagePricePerUnit := roundMoney (sorted.sum / sorted.length)
    medianPricePerUnit := sorted.getD (sorted.length / 2) 0
    minPricePerUnit := sorted.getD 0 0
    maxPricePerUnit := sorted.getD (sorted.length - 1) 0
    latestSaleAt := group.latestSaleAt }

/-- `GET /listings/market-trends`, of the orders that it finds. -/
def marketTrends (lowerCase : String -> String) (orders : List CompletedOrder) : List Trend :=
  sorted (byKey fun trend => -(trend.sampleSize : ℚ))
    ((trendGroups lowerCase orders).map TrendGroup.trend)

/-! ## The prices of a group -/

def pricesOfKey (lowerCase : String -> String) (orders : List CompletedOrder) (key : String) :
    List ℚ :=
  (orders.filter fun order => 0 < order.quantity ∧ order.trendKey lowerCase = key).map
    (·.pricePerUnit)

/-- The groups hold the prices of the orders that are scanned. -/
structure PricesGrouped (lowerCase : String -> String) (orders : List CompletedOrder)
    (groups : List TrendGroup) : Prop where
  nodup : (groups.map (·.key)).Nodup
  prices : forall group, group ∈ groups -> group.prices = pricesOfKey lowerCase orders group.key
  covered : forall order, order ∈ orders -> 0 < order.quantity ->
    order.trendKey lowerCase ∈ groups.map (·.key)

variable {lowerCase : String -> String} {orders : List CompletedOrder} {groups : List TrendGroup}

theorem pricesOfKey_append_self {order : CompletedOrder} (hquantity : 0 < order.quantity) :
    pricesOfKey lowerCase (orders ++ [order]) (order.trendKey lowerCase) =
      pricesOfKey lowerCase orders (order.trendKey lowerCase) ++ [order.pricePerUnit] := by
  unfold pricesOfKey
  rw [List.filter_append, List.map_append, List.filter_cons_of_pos (by simp [hquantity])]
  rfl

theorem pricesOfKey_append_other {order : CompletedOrder} {key : String}
    (h : ¬(0 < order.quantity ∧ order.trendKey lowerCase = key)) :
    pricesOfKey lowerCase (orders ++ [order]) key = pricesOfKey lowerCase orders key := by
  unfold pricesOfKey
  rw [List.filter_append, List.filter_cons_of_neg (by simpa using h), List.filter_nil,
    List.append_nil]

theorem PricesGrouped.pricesOfKey_eq_nil (h : PricesGrouped lowerCase orders groups)
    {key : String} (hkey : key ∉ groups.map (·.key)) : pricesOfKey lowerCase orders key = [] := by
  unfold pricesOfKey
  rw [List.map_eq_nil_iff, List.filter_eq_nil_iff]
  intro order horder hsame
  obtain ⟨hquantity, rfl⟩ := of_decide_eq_true hsame
  exact hkey (h.covered order horder hquantity)

theorem PricesGrouped.join (h : PricesGrouped lowerCase orders groups) (order : CompletedOrder) :
    PricesGrouped lowerCase (orders ++ [order]) (joinGroup lowerCase groups order) := by
  unfold joinGroup
  dsimp only
  split
  · rename_i hquantity
    -- the group of the key is there, or it begins without prices
    generalize hbegun : (if order.trendKey lowerCase ∈ groups.map (·.key) then groups else _) = begun
    have hbegin : (begun.map (·.key)).Nodup ∧ order.trendKey lowerCase ∈ begun.map (·.key) ∧
        (forall group, group ∈ begun ->
          group.prices = pricesOfKey lowerCase orders group.key) ∧
        forall key, key ∈ groups.map (·.key) -> key ∈ begun.map (·.key) := by
      split at hbegun
      · rename_i hkey
        subst hbegun
        exact ⟨h.nodup, hkey, h.prices, fun _ hmem => hmem⟩
      · rename_i hkey
        subst hbegun
        rw [List.map_append]
        refine ⟨?_, by simp, fun group hgroup => ?_, fun key hmem => List.mem_append_left _ hmem⟩
        · exact List.nodup_append.2 ⟨h.nodup, List.nodup_singleton _, fun a ha b hb => by
            rw [List.mem_singleton.1 hb]
            rintro rfl
            exact hkey ha⟩
        · rcases List.mem_append.1 hgroup with hmem | hmem
          · exact h.prices group hmem
          · rw [List.mem_singleton.1 hmem]
            exact (h.pricesOfKey_eq_nil hkey).symm
    obtain ⟨hnodup, hkey, hprices, hkept⟩ := hbegin
    have hkeys := Relational.map_updateKey TrendGroup.key (order.trendKey lowerCase)
      (fun group : TrendGroup =>
        { group with
          prices := group.prices ++ [order.pricePerUnit]
          latestSaleAt := max group.latestSaleAt order.createdAt }) (fun _ hk => hk) begun
    refine ⟨by rwa [hkeys], fun group hgroup => ?_, fun other hother hpositive => ?_⟩
    · rcases Relational.mem_updateKey.1 hgroup with ⟨hmem, hne⟩ | ⟨group, hmem, hk, rfl⟩
      · rw [pricesOfKey_append_other fun hsame => hne hsame.2.symm]
        exact hprices group hmem
      · dsimp only
        rw [hk, pricesOfKey_append_self hquantity, ← hk, hprices group hmem]
    · rw [hkeys]
      rcases List.mem_append.1 hother with hmem | hmem
      · exact hkept _ (h.covered other hmem hpositive)
      · rw [List.mem_singleton.1 hmem]
        exact hkey
  · rename_i hquantity
    refine ⟨h.nodup, fun group hgroup => ?_, fun other hother hpositive => ?_⟩
    · rw [pricesOfKey_append_other fun hsame => hquantity hsame.1]
      exact h.prices group hgroup
    · rcases List.mem_append.1 hother with hmem | hmem
      · exact h.covered other hmem hpositive
      · exact absurd (List.mem_singleton.1 hmem ▸ hpositive) hquantity

theorem PricesGrouped.foldl (h : PricesGrouped lowerCase orders groups)
    (more : List CompletedOrder) :
    PricesGrouped lowerCase (orders ++ more) (more.foldl (joinGroup lowerCase) groups) := by
  induction more generalizing orders groups with
  | nil => rwa [List.append_nil]
  | cons order more ih =>
      rw [List.append_cons]
      exact ih (h.join order)

theorem trendGroups_grouped (lowerCase : String -> String) (orders : List CompletedOrder) :
    PricesGrouped lowerCase orders (trendGroups lowerCase orders) :=
  have hempty : PricesGrouped lowerCase [] [] :=
    { nodup := List.nodup_nil
      prices := fun _ h => by cases h
      covered := fun _ h => by cases h }
  hempty.foldl orders

end MarketBridge
