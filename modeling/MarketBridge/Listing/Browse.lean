import MarketBridge.Advertising.Campaign
import MarketBridge.Sms.Inbound

/-!
# Browsing

`GET /listings`: the filters of a query, the campaigns that boost a listing, and a page of the
result.  The columns of a listing that no filter reads, and the names and pictures that the answer
adds, are left out.
-/

namespace MarketBridge

/-! ## Rows -/

inductive Region where
  | tigray
  | afar
  | amhara
  | oromia
  | somali
  | benishangulGumuz
  | gambela
  | harari
  | sidama
  | southEthiopia
  | southWestEthiopiaPeoples
  | centralEthiopia
  | addisAbaba
  | direDawa
deriving DecidableEq, Repr

/-- A row of `Listing` with the columns that a query reads. -/
structure BrowseRow extends ProduceListing where
  id : String
  region : Option Region := none
  readinessDate : Option Nat := none
  createdAt : Nat
deriving DecidableEq, Repr

/-- A row of `Advertisement` with the listing that it is for. -/
structure CampaignRow extends Advertisement where
  id : String
  listingId : Option String := none
deriving DecidableEq, Repr

/-! ## Queries -/

/-- What `Number` makes of a text. -/
inductive ParsedNumber where
  | nan
  | infinite (negative : Bool)
  | finite (value : ℚ)
deriving DecidableEq, Repr

/-- The query of a browse: a filter that is empty is not given. -/
structure BrowseQuery where
  cropType : Option String := none
  title : Option String := none
  location : Option String := none
  region : Option Region := none
  category : Option ListingCategory := none
  sellerId : Option Id := none
  status : Option ListingStatus := none
  minQuantity : Option ℚ := none
  maxQuantity : Option ℚ := none
  minPrice : Option ℚ := none
  maxPrice : Option ℚ := none
  readyBy : Option Nat := none
  readyAfter : Option Nat := none
  page : ParsedNumber := .finite 1
  limit : ParsedNumber := .finite 20
deriving DecidableEq, Repr

/-- `Math.max(Number(text) || fallback, 1)`. -/
def ParsedNumber.atLeastOne (fallback : ℚ) : ParsedNumber -> ParsedNumber
  | .nan => .finite (max fallback 1)
  | .infinite true => .finite 1
  | .infinite false => .infinite false
  | .finite value => .finite (max (if value = 0 then fallback else value) 1)

/-- `Math.min(value, 50)`. -/
def ParsedNumber.atMostFifty : ParsedNumber -> ℚ
  | .finite value => min value 50
  | _ => 50

/-- A range of a column, as the database is asked for it. -/
structure RangeFilter (α : Type) where
  gte : Option α := none
  lte : Option α := none
deriving DecidableEq, Repr

/-- The filter object of a query; a key that is spread twice is that of the last. -/
structure BrowseWhere where
  cropType : Option String
  title : Option String
  location : Option String
  region : Option Region
  category : Option ListingCategory
  sellerId : Option Id
  availableQuantity : Option (RangeFilter ℚ)
  askingPrice : Option (RangeFilter ℚ)
  readinessDate : Option (RangeFilter Nat)
  status : ListingStatus
deriving DecidableEq, Repr

/-- `...(min && { key: { gte } }), ...(max && { key: { lte } })`. -/
def spreadRange {α : Type} (min max : Option α) : Option (RangeFilter α) :=
  match max with
  | some max => some { lte := some max }
  | none => min.map fun min => { gte := some min }

namespace BrowseQuery

def toWhere (q : BrowseQuery) : BrowseWhere where
  cropType := q.cropType.filter (· ≠ "")
  title := q.title.filter (· ≠ "")
  location := q.location.filter (· ≠ "")
  region := q.region
  category := q.category
  sellerId := q.sellerId
  availableQuantity := spreadRange q.minQuantity q.maxQuantity
  askingPrice := spreadRange q.minPrice q.maxPrice
  readinessDate :=
    if q.readyBy.isSome || q.readyAfter.isSome then
      some
        { gte := q.readyAfter
          lte := q.readyBy }
    else
      none
  status := q.status.getD .active

def hasSearch (q : BrowseQuery) : Bool :=
  q.toWhere.cropType.isSome || q.toWhere.title.isSome || q.toWhere.location.isSome ||
    q.region.isSome || q.minPrice.isSome || q.maxPrice.isSome || q.minQuantity.isSome ||
    q.maxQuantity.isSome || q.readyBy.isSome || q.readyAfter.isSome

def pageNumber (q : BrowseQuery) : ParsedNumber :=
  q.page.atLeastOne 1

/-- `take`. -/
def pageSize (q : BrowseQuery) : ℚ :=
  (q.limit.atLeastOne 20).atMostFifty

end BrowseQuery

/-! ## Matching -/

def RangeFilter.matches {α : Type} [LE α] [DecidableLE α] (range : RangeFilter α) (value : α) :
    Bool :=
  range.gte.all (fun bound => bound ≤ value) && range.lte.all fun bound => value ≤ bound

section

-- `contains` of the database, which does not look at the case.
variable (contains : String -> String -> Bool)

def matchesText (filter text : Option String) : Bool :=
  filter.all fun part => text.any fun text => contains text part

def BrowseWhere.matches (w : BrowseWhere) (row : BrowseRow) : Bool :=
  matchesText contains w.cropType row.cropType &&
    matchesText contains w.title row.title &&
    matchesText contains w.location (some row.location) &&
    w.region.all (fun region => row.region = some region) &&
    w.category.all (fun category => row.category = category) &&
    w.sellerId.all (fun sellerId => row.sellerId = sellerId) &&
    w.availableQuantity.all (fun range => range.matches row.availableQuantity) &&
    w.askingPrice.all (fun range => range.matches row.askingPrice) &&
    w.readinessDate.all (fun range => row.readinessDate.any range.matches) &&
    row.status = w.status

/-! ## Campaigns -/

/-- The window of `activeStatusWhere`. -/
def CampaignRow.isLive (ad : CampaignRow) (now : Nat) : Bool :=
  ad.status.isActive && ad.startDate ≤ now && now ≤ ad.endDate

def AdType.boosts (type : AdType) : Bool :=
  type ∈ [AdType.featuredListing, .sponsoredSearch, .topOfCategory]

def AdType.boostScore : AdType -> Nat
  | .featuredListing => 500
  | .topOfCategory => 1000
  | .sponsoredSearch => 300
  | _ => 0

/-- `activeAds`. -/
def activeAds (rows : List BrowseRow) (ads : List CampaignRow) (now : Nat) (q : BrowseQuery) :
    List CampaignRow :=
  ads.filter fun ad =>
    ad.isLive now && ad.type.boosts &&
      rows.any fun row => ad.listingId = some row.id && q.toWhere.matches contains row

def CampaignRow.isSkipped (ad : CampaignRow) (q : BrowseQuery) : Bool :=
  ad.type = .topOfCategory && q.category.isNone || ad.type = .sponsoredSearch && !q.hasSearch

def boostingAds (rows : List BrowseRow) (ads : List CampaignRow) (now : Nat) (q : BrowseQuery) :
    List CampaignRow :=
  (activeAds contains rows ads now q).filter fun ad => !ad.isSkipped q

/-- The keys of `boostRank`. -/
def boostedIds (rows : List BrowseRow) (ads : List CampaignRow) (now : Nat) (q : BrowseQuery) :
    List String :=
  ((boostingAds contains rows ads now q).filterMap (·.listingId)).dedup

/-- `boostRank`. -/
def boostRank (rows : List BrowseRow) (ads : List CampaignRow) (now : Nat) (q : BrowseQuery)
    (id : String) : Nat :=
  (((boostingAds contains rows ads now q).filter fun ad => ad.listingId = some id).map
    fun ad => ad.type.boostScore).sum

/-- `boostAdId`: the first of the campaigns with the highest score. -/
def boostAdId (rows : List BrowseRow) (ads : List CampaignRow) (now : Nat) (q : BrowseQuery)
    (id : String) : Option String :=
  ((boostingAds contains rows ads now q).filter fun ad => ad.listingId = some id).foldl
    (fun best ad =>
      match best with
      | none => some ad
      | some old => if old.type.boostScore < ad.type.boostScore then some ad else some old)
    none |>.map (·.id)

/-! ## Pages -/

structure BrowseItem where
  row : BrowseRow
  sponsored : Bool
  sponsoredAdId : Option String := none
deriving DecidableEq, Repr

structure BrowsePage where
  listings : List BrowseItem
  total : Nat
  page : ℚ
  limit : Nat
  totalPages : Nat
deriving DecidableEq, Repr

/-- `orderBy: { createdAt: 'desc' }`. -/
def newestFirst (rows : List BrowseRow) : List BrowseRow :=
  rows.mergeSort fun a b => b.createdAt ≤ a.createdAt

/-- The first page, where listings are boosted. -/
def boostedPage (rows : List BrowseRow) (ads : List CampaignRow) (now : Nat) (q : BrowseQuery)
    (take : Nat) : List BrowseItem :=
  let found := rows.filter (q.toWhere.matches contains)
  let boosted := boostedIds contains rows ads now q
  let boostedListings :=
    ((newestFirst (found.filter fun row => row.id ∈ boosted)).take take).mergeSort fun a b =>
      boostRank contains rows ads now q b.id ≤ boostRank contains rows ads now q a.id
  let normalListings :=
    (newestFirst (found.filter fun row => row.id ∉ boosted)).take (take - boostedListings.length)
  boostedListings.map
      (fun row =>
        { row := row
          sponsored := true
          sponsoredAdId := boostAdId contains rows ads now q row.id }) ++
    normalListings.map fun row =>
      { row := row
        sponsored := false }

def normalPage (rows : List BrowseRow) (ads : List CampaignRow) (now : Nat) (q : BrowseQuery)
    (pageSkip take : Nat) : List BrowseItem :=
  let found := rows.filter (q.toWhere.matches contains)
  let boosted := boostedIds contains rows ads now q
  let normal := newestFirst (found.filter fun row => row.id ∉ boosted)
  ((normal.drop pageSkip).take take).map fun row =>
    { row := row
      sponsored := false }

/-- `GET /listings`; the database takes whole numbers of rows only. -/
def browseListings (rows : List BrowseRow) (ads : List CampaignRow) (now : Nat)
    (q : BrowseQuery) : Except ApiError BrowsePage :=
  match q.pageNumber with
  | .finite pageNumber =>
      let take := q.pageSize
      let boosted := boostedIds contains rows ads now q
      let pageSkip := max ((pageNumber - 1) * take - boosted.length) 0
      let isBoosted := pageNumber = 1 ∧ boosted ≠ []
      if take.den = 1 ∧ (isBoosted ∨ pageSkip.den = 1) then
        let total := rows.countP (q.toWhere.matches contains)
        .ok
          { listings :=
              if isBoosted then
                boostedPage contains rows ads now q take.num.toNat
              else
                normalPage contains rows ads now q pageSkip.num.toNat take.num.toNat
            total := total
            page := pageNumber
            limit := take.num.toNat
            totalPages := ⌈(total : ℚ) / take⌉.toNat }
      else
        .error (httpError 500 "Could not load listings")
  | _ => .error (httpError 500 "Could not load listings")

end

end MarketBridge
