import MarketBridge.Payment.InspectionFees
import MarketBridge.Pricing.MarketReference

/-!
# What a reference says of its sample

A reference is the median of the first level that has enough rows.  It lies between the
extremes, follows every price and no order or scale.  The trends take the upper of two
middle prices and not their mean, so the two medians agree where the middle prices do.
-/

namespace MarketBridge

open Ranking

/-! ## Levels -/

/-- A level of preference: its rows, and their prices before they are rounded. -/
structure MarketLevel where
  rows : List MarketRow
  prices : List ℚ
  source : MarketSource
  scope : MarketScope
  location : MarketLocation
deriving DecidableEq, Repr

def CompletedOrder.isValid (order : CompletedOrder) : Bool :=
  0 < order.quantity && 0 < order.finalPrice

def ActiveListing.isValid (listing : ActiveListing) : Bool :=
  0 < listing.quantity && roundMoney listing.askingPrice ≠ 0 && 0 < listing.askingPrice

def ordersLevel (orders : List CompletedOrder) (scope : MarketScope)
    (location : MarketLocation) : MarketLevel where
  rows := comparableRows orders
  prices := (orders.filter (·.isValid)).map (·.pricePerUnit)
  source := .recentCompletedOrders
  scope := scope
  location := location

def activeLevel (listings : List ActiveListing) : MarketLevel where
  rows := activeRows listings
  prices := (listings.filter (·.isValid)).map (·.askingPrice)
  source := .activeComparableListings
  scope := .nationwide
  location := .allRegions

def levels (listing : PricedListing) (c : Comparables) : List MarketLevel :=
  if listing.category ∉ [ListingCategory.agricultural, .product] then
    []
  else
    (listing.region.toList.map fun region => ordersLevel c.regional .region (.region region)) ++
      [ordersLevel c.national .nationwide .allRegions, activeLevel c.active]

def chosenLevel (config : MarketConfig) (listing : PricedListing) (c : Comparables) :
    Option MarketLevel :=
  (levels listing c).find? fun l => config.minSampleSize ≤ l.rows.length

def middlesMeet (prices : List ℚ) : Bool :=
  roundMoney (upperMiddle prices) - roundMoney (lowerMiddle prices) ≤ 1 / 100

/-! ## Changes of the comparables -/

def CompletedOrder.RaisedTo (order order' : CompletedOrder) : Prop :=
  order' = { order with finalPrice := order'.finalPrice } ∧
    (order' = order ∨ order.isValid = true ∧ order.finalPrice ≤ order'.finalPrice)

def ActiveListing.RaisedTo (listing listing' : ActiveListing) : Prop :=
  listing' = { listing with askingPrice := listing'.askingPrice } ∧
    (listing' = listing ∨ listing.isValid = true ∧ listing.askingPrice ≤ listing'.askingPrice)

def CompletedOrder.scaled (factor : ℚ) (order : CompletedOrder) : CompletedOrder :=
  { order with
    finalPrice := factor * order.finalPrice
    quantity := factor * order.quantity }

namespace Comparables

structure Reordered (c c' : Comparables) : Prop where
  regional : c.regional.Perm c'.regional
  national : c.national.Perm c'.national
  active : c.active.Perm c'.active

structure RaisedTo (c c' : Comparables) : Prop where
  regional : List.Forall₂ CompletedOrder.RaisedTo c.regional c'.regional
  national : List.Forall₂ CompletedOrder.RaisedTo c.national c'.national
  active : List.Forall₂ ActiveListing.RaisedTo c.active c'.active

def scaled (factor : ℚ) (c : Comparables) : Comparables :=
  { c with
    regional := c.regional.map (·.scaled factor)
    national := c.national.map (·.scaled factor) }

end Comparables

/-! ## Statement -/

/-- A reference is an honest summary of what was found. -/
structure HonestReference (config : MarketConfig) (now : Nat) (listing : PricedListing)
    (quantity : Option ℚ) (c : Comparables) : Prop where
  null_iff : getMarketPriceReference config now listing quantity c = none ↔
    forall l, l ∈ levels listing c -> l.rows.length < config.minSampleSize
  bounds : forall r, getMarketPriceReference config now listing quantity c = some r ->
    r.minUnitPrice ≤ r.unitPrice ∧ r.unitPrice ≤ r.maxUnitPrice
  order : forall c', c.Reordered c' ->
    exists samples, getMarketPriceReference config now listing quantity c' =
      (getMarketPriceReference config now listing quantity c).map
        ({ · with samples := samples }) ∧
      forall r, getMarketPriceReference config now listing quantity c = some r ->
        samples.Perm r.samples
  raising : forall c', c.RaisedTo c' ->
    forall r, getMarketPriceReference config now listing quantity c = some r ->
      exists r', getMarketPriceReference config now listing quantity c' = some r' ∧
        r.unitPrice ≤ r'.unitPrice
  scaling : forall factor : ℚ, 0 < factor ->
    (getMarketPriceReference config now listing quantity (c.scaled factor)).map (·.unitPrice) =
      (getMarketPriceReference config now listing quantity c).map (·.unitPrice)
  trends : forall l, chosenLevel config listing c = some l ->
    forall r, getMarketPriceReference config now listing quantity c = some r ->
      forall lowerCase orders, forall group, group ∈ trendGroups lowerCase orders ->
        (pricesOfKey lowerCase orders group.key).Perm l.prices ->
          r.unitPrice = roundMoney group.trend.medianPricePerUnit

/-! ## Rows and prices -/

theorem comparableRow_eq (order : CompletedOrder) :
    (comparableRow order).map (·.unitPrice) =
      if order.isValid then some (roundMoney order.pricePerUnit) else none := by
  unfold comparableRow CompletedOrder.isValid CompletedOrder.pricePerUnit
  by_cases hquantity : 0 < order.quantity
  · rw [finitePositive_of_pos hquantity]
    by_cases htotal : 0 < order.finalPrice
    · rw [finitePositive_of_pos htotal]
      simp [hquantity, htotal]
    · rw [finitePositive_of_not_pos htotal]
      simp [htotal]
  · rw [finitePositive_of_not_pos hquantity]
    simp [hquantity]

theorem activeRow_eq (listing : ActiveListing) :
    (activeRow listing).map (·.unitPrice) =
      if listing.isValid then some (roundMoney listing.askingPrice) else none := by
  unfold activeRow ActiveListing.isValid
  by_cases hquantity : 0 < listing.quantity
  · rw [finitePositive_of_pos hquantity]
    by_cases hprice : 0 < listing.askingPrice
    · rw [finitePositive_of_pos hprice]
      by_cases hzero : roundMoney listing.askingPrice = 0
      · simp [hzero]
      · simp [hquantity, hprice, hzero]
    · rw [finitePositive_of_not_pos hprice]
      simp [hprice, roundMoney_zero]
  · rw [finitePositive_of_not_pos hquantity]
    simp [hquantity]

theorem map_filterMap_eq {α : Type} {row : α -> Option MarketRow} {valid : α -> Bool}
    {price : α -> ℚ}
    (h : forall a, (row a).map (·.unitPrice) = if valid a then some (roundMoney (price a)) else none)
    (items : List α) :
    (items.filterMap row).map (·.unitPrice) =
      ((items.filter valid).map price).map roundMoney := by
  induction items with
  | nil => rfl
  | cons a items ih =>
      have ha := h a
      cases hvalid : valid a with
      | true =>
          rw [hvalid, if_pos rfl] at ha
          obtain ⟨r, hr, hprice⟩ := Option.map_eq_some_iff.1 ha
          rw [List.filterMap_cons_some hr, List.filter_cons_of_pos hvalid, List.map_cons,
            List.map_cons, List.map_cons, ih, hprice]
      | false =>
          rw [hvalid, if_neg (by decide)] at ha
          rw [List.filterMap_cons_none (Option.map_eq_none_iff.1 ha),
            List.filter_cons_of_neg (by simp [hvalid]), ih]

variable {listing : PricedListing} {c c' : Comparables} {l : MarketLevel} {xs ys prices : List ℚ}
  {config : MarketConfig} {now : Nat} {quantity : Option ℚ}

theorem level_prices :
    forall l, l ∈ levels listing c -> l.rows.map (·.unitPrice) = l.prices.map roundMoney := by
  intro l hl
  unfold levels at hl
  split at hl
  · cases hl
  · simp only [List.mem_append, List.mem_map, List.mem_cons, List.not_mem_nil, or_false] at hl
    rcases hl with ⟨region, -, rfl⟩ | rfl | rfl
    · exact map_filterMap_eq comparableRow_eq c.regional
    · exact map_filterMap_eq comparableRow_eq c.national
    · exact map_filterMap_eq activeRow_eq c.active

theorem level_rows_length (hl : l ∈ levels listing c) : l.rows.length = l.prices.length := by
  have hlength := congrArg List.length (level_prices l hl)
  rwa [List.length_map, List.length_map] at hlength

/-! ## The reference of a level -/

def midPrice (prices : List ℚ) : ℚ :=
  (lowerMiddle prices + upperMiddle prices) / 2

theorem median_eq (hprices : prices ≠ []) :
    median prices = some (midPrice prices) := by
  have hlength := List.length_pos_iff.2 hprices
  unfold median midPrice
  dsimp only
  rw [length_ascending, if_neg (by omega)]
  split
  · rename_i hodd
    have hupper : (ascending prices).getD (prices.length / 2) 0 = upperMiddle prices := rfl
    rw [hupper, lowerMiddle_eq_upperMiddle hodd]
    congr 1
    ring
  · have hmiddle : prices.length / 2 - 1 = (prices.length - 1) / 2 := by omega
    rw [hmiddle]
    rfl

namespace MarketLevel

def reference (config : MarketConfig) (now : Nat) (listing : PricedListing)
    (quantity : Option ℚ) (l : MarketLevel) : Option MarketReference :=
  buildReference config now l.rows listing l.source quantity l.scope l.location

def unitPrices (l : MarketLevel) : List ℚ :=
  l.rows.map (·.unitPrice)

theorem reference_eq (config : MarketConfig) (now : Nat) (listing : PricedListing)
    (quantity : Option ℚ) {l : MarketLevel} (hrows : l.rows ≠ []) :
    exists r, l.reference config now listing quantity = some r ∧
      r.unitPrice = roundMoney (midPrice l.unitPrices) ∧
      r.minUnitPrice = roundMoney (l.unitPrices.min?.getD 0) ∧
      r.maxUnitPrice = roundMoney (l.unitPrices.max?.getD 0) := by
  unfold reference buildReference
  dsimp only
  rw [median_eq (by simpa using hrows)]
  exact ⟨_, rfl, rfl, rfl, rfl⟩

end MarketLevel

theorem find?_cons_bind {α β : Type} {p : α -> Prop} [DecidablePred p] (f : α -> Option β) (a : α)
    (items : List α) :
    ((a :: items).find? fun x => p x).bind f =
      if p a then f a else (items.find? fun x => p x).bind f := by
  rw [List.find?_cons]
  by_cases ha : p a
  · rw [decide_eq_true ha, if_pos ha]
    rfl
  · rw [decide_eq_false ha, if_neg ha]

theorem getMarketPriceReference_eq (config : MarketConfig) (now : Nat) (listing : PricedListing)
    (quantity : Option ℚ) (c : Comparables) :
    getMarketPriceReference config now listing quantity c =
      (chosenLevel config listing c).bind (·.reference config now listing quantity) := by
  unfold getMarketPriceReference chosenLevel levels
  dsimp only
  split
  · rfl
  · cases listing.region with
    | none =>
        rw [Option.toList_none, List.map_nil, List.nil_append, find?_cons_bind, find?_cons_bind]
        rfl
    | some region =>
        rw [Option.toList_some, List.map_cons, List.map_nil, List.cons_append, List.nil_append,
          find?_cons_bind, find?_cons_bind, find?_cons_bind]
        rfl

theorem chosenLevel_spec (h : chosenLevel config listing c = some l) :
    l ∈ levels listing c ∧ l.rows ≠ [] := by
  refine ⟨List.mem_of_find?_eq_some h, ?_⟩
  unfold chosenLevel at h
  have henough := List.find?_some h
  rw [decide_eq_true_eq] at henough
  have hpositive := config.positive
  exact List.length_pos_iff.1 (by omega)

theorem getMarketPriceReference_eq_none_iff :
    getMarketPriceReference config now listing quantity c = none ↔
      forall l, l ∈ levels listing c -> l.rows.length < config.minSampleSize := by
  rw [getMarketPriceReference_eq]
  constructor
  · intro hnone l hl
    by_contra henough
    cases hchosen : chosenLevel config listing c with
    | none =>
        unfold chosenLevel at hchosen
        have hfew := List.find?_eq_none.1 hchosen l hl
        rw [decide_eq_true_eq] at hfew
        exact hfew (not_lt.1 henough)
    | some l' =>
        obtain ⟨r, hr, -⟩ := MarketLevel.reference_eq config now listing quantity
          (chosenLevel_spec hchosen).2
        rw [hchosen, Option.bind_some, hr] at hnone
        cases hnone
  · intro hfew
    have hnone : chosenLevel config listing c = none := by
      unfold chosenLevel
      rw [List.find?_eq_none]
      intro l hl
      rw [decide_eq_true_eq, not_le]
      exact hfew l hl
    rw [hnone]
    rfl

theorem getMarketPriceReference_eq_some {r : MarketReference}
    (h : getMarketPriceReference config now listing quantity c = some r) :
    exists l, chosenLevel config listing c = some l ∧
      r.unitPrice = roundMoney (midPrice l.unitPrices) ∧
      r.minUnitPrice = roundMoney (l.unitPrices.min?.getD 0) ∧
      r.maxUnitPrice = roundMoney (l.unitPrices.max?.getD 0) := by
  rw [getMarketPriceReference_eq] at h
  obtain ⟨l, hchosen, hreference⟩ := Option.bind_eq_some_iff.1 h
  obtain ⟨r', hr', hprices⟩ := MarketLevel.reference_eq config now listing quantity
          (chosenLevel_spec hchosen).2
  obtain rfl : r' = r := Option.some.inj (hr'.symm.trans hreference)
  exact ⟨l, hchosen, hprices⟩

/-! ## Bounds -/

theorem min?_getD_le {x : ℚ} (hx : x ∈ xs) : xs.min?.getD 0 ≤ x := by
  cases hmin : xs.min? with
  | none =>
      rw [List.min?_eq_none_iff.1 hmin] at hx
      cases hx
  | some a => exact (List.min?_eq_some_iff.1 hmin).2 x hx

theorem le_max?_getD {x : ℚ} (hx : x ∈ xs) : x ≤ xs.max?.getD 0 := by
  cases hmax : xs.max? with
  | none =>
      rw [List.max?_eq_none_iff.1 hmax] at hx
      cases hx
  | some a => exact (List.max?_eq_some_iff.1 hmax).2 x hx

theorem midPrice_bounds (hprices : prices ≠ []) :
    prices.min?.getD 0 ≤ midPrice prices ∧ midPrice prices ≤ prices.max?.getD 0 := by
  have hlow := min?_getD_le (lowerMiddle_mem hprices)
  have hhigh := le_max?_getD (upperMiddle_mem hprices)
  have hmiddle := lowerMiddle_le_upperMiddle prices
  unfold midPrice
  constructor <;> linarith

/-! ## Related comparables -/

theorem find?_forall₂ {α : Type} {R : α -> α -> Prop} {p : α -> Bool} {xs ys : List α}
    (h : List.Forall₂ R xs ys) (hp : forall x y, R x y -> p x = p y) :
    Option.Rel R (xs.find? p) (ys.find? p) := by
  induction h with
  | nil => exact .none
  | @cons x y xs ys hxy _ ih =>
      rw [List.find?_cons, List.find?_cons, hp x y hxy]
      cases p y with
      | true => exact .some hxy
      | false => exact ih

/-- Comparables that are related at every level choose related levels. -/
theorem chosenLevel_rel {R : MarketLevel -> MarketLevel -> Prop}
    (hlength : forall l l', R l l' -> l.rows.length = l'.rows.length) {c c' : Comparables}
    (hregional : forall scope location,
      R (ordersLevel c.regional scope location) (ordersLevel c'.regional scope location))
    (hnational : R (ordersLevel c.national .nationwide .allRegions)
      (ordersLevel c'.national .nationwide .allRegions))
    (hactive : R (activeLevel c.active) (activeLevel c'.active)) (config : MarketConfig)
    (listing : PricedListing) :
    Option.Rel R (chosenLevel config listing c) (chosenLevel config listing c') := by
  refine find?_forall₂ ?_ fun l l' h => by rw [hlength l l' h]
  unfold levels
  split
  · exact .nil
  · refine List.rel_append ?_ (.cons hnational (.cons hactive .nil))
    cases listing.region with
    | none => exact .nil
    | some region => exact .cons (hregional _ _) .nil

/-! ## The order of the rows -/

theorem min?_of_perm (h : xs.Perm ys) : xs.min? = ys.min? := by
  ext a
  rw [List.min?_eq_some_iff, List.min?_eq_some_iff]
  simp only [h.mem_iff]

theorem max?_of_perm (h : xs.Perm ys) : xs.max? = ys.max? := by
  ext a
  rw [List.max?_eq_some_iff, List.max?_eq_some_iff]
  simp only [h.mem_iff]

theorem median_of_perm (h : xs.Perm ys) : median xs = median ys := by
  unfold median
  rw [ascending_of_perm h]

theorem buildReference_of_perm {rows rows' : List MarketRow} (h : rows.Perm rows')
    (config : MarketConfig) (now : Nat) (listing : PricedListing) (source : MarketSource)
    (quantity : Option ℚ) (scope : MarketScope) (location : MarketLocation) :
    buildReference config now rows' listing source quantity scope location =
      (buildReference config now rows listing source quantity scope location).map
        ({ · with samples := rows' }) := by
  have hprices : (rows.map (·.unitPrice)).Perm (rows'.map (·.unitPrice)) := h.map _
  unfold buildReference
  dsimp only
  rw [median_of_perm hprices, min?_of_perm hprices, max?_of_perm hprices, hprices.length_eq]
  cases median (rows'.map (·.unitPrice)) with
  | none => rfl
  | some middle => rfl

theorem reference_of_reordered (h : c.Reordered c') (config : MarketConfig) (now : Nat)
    (listing : PricedListing) (quantity : Option ℚ) :
    exists samples, getMarketPriceReference config now listing quantity c' =
      (getMarketPriceReference config now listing quantity c).map
        ({ · with samples := samples }) ∧
      forall r, getMarketPriceReference config now listing quantity c = some r ->
        samples.Perm r.samples := by
  have hrel : Option.Rel (fun l l' : MarketLevel => l.rows.Perm l'.rows ∧
        l' = { l with
          rows := l'.rows
          prices := l'.prices })
      (chosenLevel config listing c) (chosenLevel config listing c') :=
    chosenLevel_rel (fun l l' h => h.1.length_eq)
      (fun scope location => ⟨h.regional.filterMap comparableRow, rfl⟩)
      ⟨h.national.filterMap comparableRow, rfl⟩ ⟨h.active.filterMap activeRow, rfl⟩ config listing
  rw [getMarketPriceReference_eq, getMarketPriceReference_eq]
  cases hchosen : chosenLevel config listing c with
  | none =>
      rw [hchosen] at hrel
      generalize chosenLevel config listing c' = chosen' at hrel
      cases hrel with
      | none => exact ⟨[], rfl, fun r hr => by cases hr⟩
  | some l =>
      rw [hchosen] at hrel
      generalize chosenLevel config listing c' = chosen' at hrel
      cases hrel with
      | @some _ l' hl =>
          obtain ⟨hrows, hsame⟩ := hl
          refine ⟨l'.rows, ?_, fun r hr => ?_⟩
          · rw [Option.bind_some, Option.bind_some, hsame]
            exact buildReference_of_perm hrows config now listing l.source quantity l.scope
              l.location
          · rw [Option.bind_some] at hr
            unfold MarketLevel.reference buildReference at hr
            dsimp only at hr
            split at hr
            · cases hr
            · obtain rfl := Option.some.inj hr
              exact hrows.symm

/-! ## Raised prices -/

theorem forall₂_filter_prices {α : Type} {R : α -> α -> Prop} {valid : α -> Bool}
    {price : α -> ℚ} (h : forall a b, R a b -> valid a = valid b ∧ (valid a = true -> price a ≤ price b))
    {xs ys : List α} (hxs : List.Forall₂ R xs ys) :
    List.Forall₂ (· ≤ ·) ((xs.filter valid).map price) ((ys.filter valid).map price) := by
  induction hxs with
  | nil => exact .nil
  | @cons a b xs ys hab _ ih =>
      obtain ⟨hvalid, hprice⟩ := h a b hab
      cases ha : valid a with
      | true =>
          rw [List.filter_cons_of_pos ha, List.filter_cons_of_pos (hvalid ▸ ha)]
          exact .cons (hprice ha) ih
      | false =>
          rw [List.filter_cons_of_neg (by simp [ha]), List.filter_cons_of_neg (by simp [← hvalid, ha])]
          exact ih

theorem CompletedOrder.RaisedTo.price {order order' : CompletedOrder} (h : order.RaisedTo order') :
    order.isValid = order'.isValid ∧
      (order.isValid = true -> order.pricePerUnit ≤ order'.pricePerUnit) := by
  obtain ⟨hsame, rfl | ⟨hvalid, hraised⟩⟩ := h
  · exact ⟨rfl, fun _ => le_rfl⟩
  · rw [hsame]
    unfold isValid pricePerUnit at *
    rw [Bool.and_eq_true, decide_eq_true_eq, decide_eq_true_eq] at hvalid
    obtain ⟨hquantity, htotal⟩ := hvalid
    dsimp only
    refine ⟨?_, fun _ => div_le_div_of_nonneg_right hraised hquantity.le⟩
    rw [decide_eq_true htotal, decide_eq_true (lt_of_lt_of_le htotal hraised)]

theorem ActiveListing.RaisedTo.price {listing listing' : ActiveListing}
    (h : listing.RaisedTo listing') :
    listing.isValid = listing'.isValid ∧
      (listing.isValid = true -> listing.askingPrice ≤ listing'.askingPrice) := by
  obtain ⟨hsame, rfl | ⟨hvalid, hraised⟩⟩ := h
  · exact ⟨rfl, fun _ => le_rfl⟩
  · rw [hsame]
    refine ⟨?_, fun _ => hraised⟩
    unfold isValid at *
    rw [Bool.and_eq_true, Bool.and_eq_true, decide_eq_true_eq, decide_eq_true_eq,
      decide_eq_true_eq] at hvalid
    obtain ⟨⟨hquantity, hnonzero⟩, hprice⟩ := hvalid
    have hpositive : 0 < roundMoney listing.askingPrice := by
      refine lt_of_le_of_ne ?_ (Ne.symm hnonzero)
      rw [← roundMoney_zero]
      exact roundMoney_mono hprice.le
    have hnonzero' : roundMoney listing'.askingPrice ≠ 0 :=
      ne_of_gt (lt_of_lt_of_le hpositive (roundMoney_mono hraised))
    dsimp only
    rw [decide_eq_true hnonzero, decide_eq_true hnonzero', decide_eq_true hprice,
      decide_eq_true (lt_of_lt_of_le hprice hraised)]

theorem forall₂_roundMoney (h : List.Forall₂ (· ≤ ·) xs ys) :
    List.Forall₂ (· ≤ ·) (xs.map roundMoney) (ys.map roundMoney) := by
  rw [List.forall₂_map_left_iff, List.forall₂_map_right_iff]
  exact h.imp fun _ _ => roundMoney_mono

theorem reference_of_raised (h : c.RaisedTo c') {r : MarketReference}
    (hr : getMarketPriceReference config now listing quantity c = some r) :
    exists r', getMarketPriceReference config now listing quantity c' = some r' ∧
      r.unitPrice ≤ r'.unitPrice := by
  have horders : forall {orders orders' : List CompletedOrder},
      List.Forall₂ CompletedOrder.RaisedTo orders orders' -> forall scope location,
      List.Forall₂ (· ≤ ·) (ordersLevel orders scope location).unitPrices
        (ordersLevel orders' scope location).unitPrices := by
    intro orders orders' hraised scope location
    unfold MarketLevel.unitPrices ordersLevel comparableRows
    rw [map_filterMap_eq comparableRow_eq, map_filterMap_eq comparableRow_eq]
    exact forall₂_roundMoney (@forall₂_filter_prices CompletedOrder CompletedOrder.RaisedTo
      CompletedOrder.isValid CompletedOrder.pricePerUnit (fun _ _ h => h.price) _ _ hraised)
  have hactive : List.Forall₂ (· ≤ ·) (activeLevel c.active).unitPrices
      (activeLevel c'.active).unitPrices := by
    unfold MarketLevel.unitPrices activeLevel activeRows
    rw [map_filterMap_eq activeRow_eq, map_filterMap_eq activeRow_eq]
    exact forall₂_roundMoney (@forall₂_filter_prices ActiveListing ActiveListing.RaisedTo
      ActiveListing.isValid ActiveListing.askingPrice (fun _ _ h => h.price) _ _ h.active)
  have hrel : Option.Rel
      (fun l l' : MarketLevel => List.Forall₂ (· ≤ ·) l.unitPrices l'.unitPrices)
      (chosenLevel config listing c) (chosenLevel config listing c') :=
    chosenLevel_rel (fun l l' h => by simpa [MarketLevel.unitPrices] using h.length_eq)
      (horders h.regional) (horders h.national _ _) hactive config listing
  obtain ⟨l, hchosen, hprice, -⟩ := getMarketPriceReference_eq_some hr
  rw [hchosen] at hrel
  generalize hchosen' : chosenLevel config listing c' = chosen' at hrel
  cases hrel with
  | @some _ l' hle =>
      obtain ⟨r', hr', hprice', -⟩ := MarketLevel.reference_eq config now listing quantity
        (chosenLevel_spec hchosen').2
      refine ⟨r', ?_, ?_⟩
      · rw [getMarketPriceReference_eq, hchosen', Option.bind_some, hr']
      · rw [hprice, hprice']
        refine roundMoney_mono ?_
        have hlower := lowerMiddle_mono hle
        have hupper := upperMiddle_mono hle
        unfold midPrice
        linarith

/-! ## Scaled orders -/

theorem scaled_prices {factor : ℚ} (hfactor : 0 < factor) (orders : List CompletedOrder) :
    ((orders.map (·.scaled factor)).filter (·.isValid)).map (·.pricePerUnit) =
      (orders.filter (·.isValid)).map (·.pricePerUnit) := by
  have hvalid : forall order : CompletedOrder, (order.scaled factor).isValid = order.isValid := by
    intro order
    unfold CompletedOrder.isValid CompletedOrder.scaled
    dsimp only
    rw [decide_eq_decide.2 (mul_pos_iff_of_pos_left hfactor),
      decide_eq_decide.2 (mul_pos_iff_of_pos_left hfactor)]
  have hprice : forall order : CompletedOrder,
      (order.scaled factor).pricePerUnit = order.pricePerUnit := fun order =>
    mul_div_mul_left _ _ (ne_of_gt hfactor)
  rw [List.filter_map, List.map_map]
  simp only [Function.comp_def, hvalid, hprice]

theorem reference_of_scaled {factor : ℚ} (hfactor : 0 < factor) (config : MarketConfig)
    (now : Nat) (listing : PricedListing) (quantity : Option ℚ) (c : Comparables) :
    (getMarketPriceReference config now listing quantity (c.scaled factor)).map (·.unitPrice) =
      (getMarketPriceReference config now listing quantity c).map (·.unitPrice) := by
  have horders : forall orders scope location,
      (ordersLevel orders scope location).unitPrices =
        (ordersLevel (orders.map (·.scaled factor)) scope location).unitPrices := by
    intro orders scope location
    unfold MarketLevel.unitPrices ordersLevel comparableRows
    rw [map_filterMap_eq comparableRow_eq, map_filterMap_eq comparableRow_eq,
      scaled_prices hfactor]
  have hrel : Option.Rel (fun l l' : MarketLevel => l.unitPrices = l'.unitPrices)
      (chosenLevel config listing c) (chosenLevel config listing (c.scaled factor)) :=
    @chosenLevel_rel (fun l l' => l.unitPrices = l'.unitPrices)
      (fun l l' h => by simpa [MarketLevel.unitPrices] using congrArg List.length h) c
      (c.scaled factor) (horders c.regional) (horders c.national _ _) rfl config listing
  rw [getMarketPriceReference_eq, getMarketPriceReference_eq]
  generalize hchosen : chosenLevel config listing c = chosen at hrel
  generalize hchosen' : chosenLevel config listing (c.scaled factor) = chosen' at hrel
  cases hrel with
  | none => rfl
  | @some l l' hprices =>
      obtain ⟨r, hr, hprice, -⟩ := MarketLevel.reference_eq config now listing quantity
        (chosenLevel_spec hchosen).2
      obtain ⟨r', hr', hprice', -⟩ := MarketLevel.reference_eq config now listing quantity
        (chosenLevel_spec hchosen').2
      rw [Option.bind_some, Option.bind_some, hr, hr', Option.map_some, Option.map_some, hprice,
        hprice', hprices]

/-! ## The other median -/

theorem roundMoney_mean_eq_iff {a b : ℚ} (ha : IsCents a) (hb : IsCents b) (hab : a ≤ b) :
    roundMoney ((a + b) / 2) = b ↔ b - a ≤ 1 / 100 := by
  obtain ⟨m, rfl⟩ := ha
  obtain ⟨n, rfl⟩ := hb
  have hmn : m ≤ n := by
    have hcast : (m : ℚ) ≤ n := by linarith
    exact_mod_cast hcast
  have hsum : ((m : ℚ) / 100 + n / 100) / 2 = ((m + n : ℤ) : ℚ) / 100 / 2 := by
    push_cast
    ring
  rw [hsum, roundMoney_half, div_left_inj' (by norm_num), Int.cast_inj]
  have hgap : (n : ℚ) / 100 - m / 100 ≤ 1 / 100 ↔ n - m ≤ 1 := by
    rw [← sub_div, div_le_div_iff_of_pos_right (by norm_num)]
    exact_mod_cast Iff.rfl
  rw [hgap]
  omega

theorem medians_agree_iff (hprices : prices ≠ []) :
    roundMoney (midPrice (prices.map roundMoney)) = roundMoney (upperMiddle prices) ↔
      middlesMeet prices = true := by
  unfold midPrice middlesMeet
  rw [lowerMiddle_map (fun _ _ => roundMoney_mono) hprices,
    upperMiddle_map (fun _ _ => roundMoney_mono) hprices, decide_eq_true_eq]
  exact roundMoney_mean_eq_iff (roundMoney_isCents _) (roundMoney_isCents _)
    (roundMoney_mono (lowerMiddle_le_upperMiddle prices))

theorem TrendGroup.median_of_perm {group : TrendGroup} (h : group.prices.Perm prices) :
    group.trend.medianPricePerUnit = upperMiddle prices := by
  rw [← upperMiddle_of_perm h]
  unfold TrendGroup.trend upperMiddle
  dsimp only
  rw [length_ascending]

theorem exists_trendGroup (hprices : prices ≠ []) (lowerCase : String -> String) :
    exists orders group, group ∈ trendGroups lowerCase orders ∧
      pricesOfKey lowerCase orders group.key = prices := by
  let sale : ℚ -> CompletedOrder := fun price =>
    { id := 0
      finalPrice := price
      quantity := 1
      createdAt := 0
      listingId := 0 }
  have hgrouped := trendGroups_grouped lowerCase (prices.map sale)
  obtain ⟨price, hprice⟩ := List.exists_mem_of_ne_nil prices hprices
  obtain ⟨group, hgroup, hkey⟩ := List.mem_map.1
    (hgrouped.covered (sale price) (List.mem_map_of_mem hprice) one_pos)
  refine ⟨prices.map sale, group, hgroup, ?_⟩
  unfold pricesOfKey
  rw [List.filter_eq_self.2 ?_, List.map_map]
  · refine (List.map_congr_left fun other _ => ?_).trans (List.map_id prices)
    exact div_one other
  · intro order horder
    obtain ⟨other, -, rfl⟩ := List.mem_map.1 horder
    exact decide_eq_true ⟨one_pos, hkey.symm⟩

theorem chosenLevel_prices (h : chosenLevel config listing c = some l) :
    l.unitPrices = l.prices.map roundMoney ∧ l.prices ≠ [] := by
  obtain ⟨hl, hrows⟩ := chosenLevel_spec h
  have hlength := level_rows_length hl
  have hpositive := List.length_pos_iff.2 hrows
  exact ⟨level_prices l hl, List.length_pos_iff.1 (by omega)⟩

theorem HonestReference.middlesMeet (h : HonestReference config now listing quantity c)
    (hchosen : chosenLevel config listing c = some l) :
    middlesMeet l.prices = true := by
  obtain ⟨hprices, hnonempty⟩ := chosenLevel_prices hchosen
  obtain ⟨r, hr, hprice, -⟩ := MarketLevel.reference_eq config now listing quantity
    (chosenLevel_spec hchosen).2
  have href : getMarketPriceReference config now listing quantity c = some r := by
    rw [getMarketPriceReference_eq, hchosen, Option.bind_some, hr]
  obtain ⟨orders, group, hgroup, hsame⟩ := exists_trendGroup hnonempty id
  have hagree := h.trends l hchosen r href id orders group hgroup (hsame ▸ List.Perm.refl _)
  have hgroup_prices := ((trendGroups_grouped id orders).prices group hgroup).trans hsame
  rw [TrendGroup.median_of_perm (List.Perm.of_eq hgroup_prices), hprice, hprices] at hagree
  exact (medians_agree_iff hnonempty).1 hagree

def fourSales : List CompletedOrder :=
  [10, 20, 30, 40].map fun price =>
    { id := 0
      finalPrice := price
      quantity := 1
      createdAt := 0
      listingId := 0 }

end MarketBridge
