import MarketBridge.Listing.Browse
import MarketBridge.Relational.Paging
import Mathlib.Data.List.Infix
import Mathlib.Data.List.Perm.Basic

/-!
# The pages of a browse

Put together, the pages are the listings that satisfy the filters, as long as no filter is lost and
the boosted listings fit on the first page.
-/

namespace MarketBridge

open Relational

/-! ## What is asked for -/

section

variable (contains : String -> String -> Bool)

/-- The listing satisfies every filter of the query. -/
def BrowseQuery.admits (q : BrowseQuery) (row : BrowseRow) : Bool :=
  matchesText contains (q.cropType.filter (· ≠ "")) row.cropType &&
    matchesText contains (q.title.filter (· ≠ "")) row.title &&
    matchesText contains (q.location.filter (· ≠ "")) (some row.location) &&
    q.region.all (fun region => row.region = some region) &&
    q.category.all (fun category => row.category = category) &&
    q.sellerId.all (fun sellerId => row.sellerId = sellerId) &&
    q.minQuantity.all (· ≤ row.availableQuantity) &&
    q.maxQuantity.all (row.availableQuantity ≤ ·) &&
    q.minPrice.all (· ≤ row.askingPrice) &&
    q.maxPrice.all (row.askingPrice ≤ ·) &&
    q.readyAfter.all (fun time => row.readinessDate.any (time ≤ ·)) &&
    q.readyBy.all (fun time => row.readinessDate.any (· ≤ time)) &&
    row.status = q.status.getD .active

def BrowseQuery.onPage (q : BrowseQuery) (page : Nat) : BrowseQuery :=
  { q with page := .finite page }

/-- The pages of a query, one answer after the other, hold what is asked for. -/
structure BrowsesExactly (rows : List BrowseRow) (ads : List CampaignRow) (now : Nat)
    (q : BrowseQuery) (pages : List BrowsePage) : Prop where
  first : exists answer, browseListings contains rows ads now (q.onPage 1) = .ok answer ∧
    answer.total = rows.countP (q.admits contains) ∧ answer.totalPages = pages.length
  page : forall i answer, pages[i]? = some answer ->
    browseListings contains rows ads now (q.onPage (i + 1)) = .ok answer ∧
      answer.listings.length ≤ answer.limit ∧
      forall limit, q.limit = .finite limit -> 1 ≤ limit -> (answer.limit : ℚ) ≤ limit
  rows : (pages.flatMap fun answer => answer.listings.map (·.row)).Perm
    (rows.filter (q.admits contains))

def BrowseQuery.keepsMinimum (q : BrowseQuery) (row : BrowseRow) : Bool :=
  q.minQuantity.all (· ≤ row.availableQuantity) && q.minPrice.all (· ≤ row.askingPrice)

theorem BrowseQuery.admits_eq (q : BrowseQuery) (row : BrowseRow) :
    q.admits contains row = (q.toWhere.matches contains row && q.keepsMinimum row) := by
  have hrange : forall (min max : Option ℚ) (value : ℚ),
      (min.all (· ≤ value) && max.all (value ≤ ·)) =
        ((spreadRange min max).all (fun range => range.matches value) && min.all (· ≤ value)) := by
    intro min max value
    cases min <;> cases max <;> simp [spreadRange, RangeFilter.matches, Bool.and_comm]
  have hready : (q.readyAfter.all (fun time => row.readinessDate.any (time ≤ ·)) &&
      q.readyBy.all (fun time => row.readinessDate.any (· ≤ time))) =
        q.toWhere.readinessDate.all (fun range => row.readinessDate.any range.matches) := by
    cases hby : q.readyBy <;> cases hafter : q.readyAfter <;> cases hdate : row.readinessDate <;>
      simp [BrowseQuery.toWhere, RangeFilter.matches, hby, hafter]
  have hquantity := hrange q.minQuantity q.maxQuantity row.availableQuantity
  have hprice := hrange q.minPrice q.maxPrice row.askingPrice
  rw [Bool.eq_iff_iff, Bool.and_eq_true, Bool.and_eq_true] at hquantity hprice
  rw [Bool.eq_iff_iff, Bool.and_eq_true] at hready
  rw [Bool.eq_iff_iff]
  unfold BrowseQuery.admits BrowseWhere.matches BrowseQuery.keepsMinimum
  simp only [Bool.and_eq_true]
  unfold BrowseQuery.toWhere at hready ⊢
  dsimp only at hready ⊢
  tauto

/-! ## Sizes -/

theorem BrowseQuery.pageSize_pos (q : BrowseQuery) : 1 ≤ q.pageSize := by
  unfold pageSize
  cases q.limit with
  | nan => norm_num [ParsedNumber.atLeastOne, ParsedNumber.atMostFifty]
  | infinite negative =>
      cases negative <;> norm_num [ParsedNumber.atLeastOne, ParsedNumber.atMostFifty]
  | finite value => exact le_min (le_max_right _ _) (by norm_num)

theorem BrowseQuery.pageSize_le {q : BrowseQuery} {limit : ℚ} (h : q.limit = .finite limit)
    (hlimit : 1 ≤ limit) : q.pageSize ≤ limit := by
  have hne : limit ≠ 0 := by linarith
  unfold pageSize
  rw [h, ParsedNumber.atLeastOne, if_neg hne]
  exact (min_le_left _ _).trans (max_le le_rfl hlimit)

theorem pageNumber_onPage (q : BrowseQuery) (i : Nat) :
    (q.onPage (i + 1)).pageNumber = .finite (i + 1) := by
  have hpositive : (0 : ℚ) ≤ i := Nat.cast_nonneg i
  have hne : (i : ℚ) + 1 ≠ 0 := by linarith
  unfold BrowseQuery.pageNumber BrowseQuery.onPage ParsedNumber.atLeastOne
  dsimp only
  rw [Nat.cast_succ, if_neg hne, max_eq_left (by linarith)]

theorem whole_eq {value : ℚ} (hwhole : value.den = 1) (hpositive : 0 ≤ value) :
    ((value.num.toNat : Nat) : ℚ) = value := by
  have hnum : 0 ≤ value.num := Rat.num_nonneg.mpr hpositive
  have hcast : ((value.num.toNat : ℤ) : ℚ) = (value.num : ℚ) := by
    rw [Int.toNat_of_nonneg hnum]
  rw [← Rat.coe_int_num_of_den_eq_one hwhole]
  exact_mod_cast hcast

theorem skip_eq (skip boosted : Nat) :
    max ((skip : ℚ) - boosted) 0 = ((skip - boosted : Nat) : ℚ) := by
  rcases le_total boosted skip with hle | hle
  · rw [Nat.cast_sub hle, max_eq_left]
    exact sub_nonneg.mpr (by exact_mod_cast hle)
  · rw [Nat.sub_eq_zero_of_le hle, Nat.cast_zero, max_eq_right]
    exact sub_nonpos.mpr (by exact_mod_cast hle)

/-! ## Boosted listings -/

section

variable {contains} {rows : List BrowseRow} {ads : List CampaignRow} {now : Nat} {q : BrowseQuery}

abbrev found (contains : String -> String -> Bool) (rows : List BrowseRow) (q : BrowseQuery) :
    List BrowseRow :=
  rows.filter (q.toWhere.matches contains)

theorem mem_boostedIds {id : String} (h : id ∈ boostedIds contains rows ads now q) :
    exists row, row ∈ found contains rows q ∧ row.id = id := by
  obtain ⟨ad, had, hid⟩ := List.mem_filterMap.mp (List.mem_dedup.mp h)
  have hactive := (List.mem_filter.mp (List.mem_filter.mp had).1).2
  rw [Bool.and_eq_true, List.any_eq_true] at hactive
  obtain ⟨row, hrow, hmatches⟩ := hactive.2
  rw [Bool.and_eq_true, decide_eq_true_iff, hid] at hmatches
  exact ⟨row, List.mem_filter.mpr ⟨hrow, hmatches.2⟩, (Option.some.inj hmatches.1).symm⟩

theorem length_boosted (hids : (rows.map (·.id)).Nodup) :
    ((found contains rows q).filter fun row => row.id ∈ boostedIds contains rows ads now q).length =
      (boostedIds contains rows ads now q).length := by
  have hnodup : (((found contains rows q).filter fun row =>
      row.id ∈ boostedIds contains rows ads now q).map (·.id)).Nodup :=
    hids.sublist ((List.filter_sublist.trans List.filter_sublist).map _)
  have hperm : (((found contains rows q).filter fun row =>
      row.id ∈ boostedIds contains rows ads now q).map (·.id)).Perm
        (boostedIds contains rows ads now q) := by
    refine (List.perm_ext_iff_of_nodup hnodup (List.nodup_dedup _)).mpr fun id => ?_
    constructor
    · intro hid
      obtain ⟨row, hrow, rfl⟩ := List.mem_map.mp hid
      exact of_decide_eq_true (List.mem_filter.mp hrow).2
    · intro hid
      obtain ⟨row, hrow, rfl⟩ := mem_boostedIds hid
      exact List.mem_map.mpr ⟨row, List.mem_filter.mpr ⟨hrow, decide_eq_true hid⟩, rfl⟩
  rw [← hperm.length_eq, List.length_map]

theorem newestFirst_perm (rows : List BrowseRow) : (newestFirst rows).Perm rows :=
  List.mergeSort_perm rows _

def boostedRows (contains : String -> String -> Bool) (rows : List BrowseRow)
    (ads : List CampaignRow) (now : Nat) (q : BrowseQuery) (take : Nat) : List BrowseRow :=
  ((newestFirst ((found contains rows q).filter fun row =>
    row.id ∈ boostedIds contains rows ads now q)).take take).mergeSort fun a b =>
      boostRank contains rows ads now q b.id ≤ boostRank contains rows ads now q a.id

def normalRows (contains : String -> String -> Bool) (rows : List BrowseRow)
    (ads : List CampaignRow) (now : Nat) (q : BrowseQuery) : List BrowseRow :=
  newestFirst ((found contains rows q).filter fun row =>
    row.id ∉ boostedIds contains rows ads now q)

theorem length_boostedRows (hids : (rows.map (·.id)).Nodup) (take : Nat) :
    (boostedRows contains rows ads now q take).length =
      min take (boostedIds contains rows ads now q).length := by
  rw [boostedRows, List.length_mergeSort, List.length_take,
    (newestFirst_perm _).length_eq, length_boosted hids]

variable {take : Nat}

theorem boosted_normal_perm (hids : (rows.map (·.id)).Nodup)
    (h : (boostedIds contains rows ads now q).length ≤ take) :
    (boostedRows contains rows ads now q take ++ normalRows contains rows ads now q).Perm
      (found contains rows q) := by
  have hboosted : (boostedRows contains rows ads now q take).Perm
      ((found contains rows q).filter fun row => row.id ∈ boostedIds contains rows ads now q) := by
    refine (List.mergeSort_perm _ _).trans ?_
    rw [List.take_of_length_le]
    · exact newestFirst_perm _
    · rw [(newestFirst_perm _).length_eq, length_boosted hids]
      exact h
  have hsplit := List.filter_append_perm
    (fun row : BrowseRow => decide (row.id ∈ boostedIds contains rows ads now q))
    (found contains rows q)
  refine (hboosted.append (newestFirst_perm _)).trans ?_
  simpa only [decide_not] using hsplit

/-! ## Answers -/

/-- The listings of page `i + 1`. -/
def pageRows (contains : String -> String -> Bool) (rows : List BrowseRow)
    (ads : List CampaignRow) (now : Nat) (q : BrowseQuery) (take i : Nat) : List BrowseRow :=
  if i = 0 ∧ boostedIds contains rows ads now q ≠ [] then
    boostedRows contains rows ads now q take ++
      (normalRows contains rows ads now q).take
        (take - (boostedRows contains rows ads now q take).length)
  else
    ((normalRows contains rows ads now q).drop
      (i * take - (boostedIds contains rows ads now q).length)).take take

/-- What the answer to page `i + 1` says. -/
structure AnswersPage (contains : String -> String -> Bool) (rows : List BrowseRow)
    (ads : List CampaignRow) (now : Nat) (q : BrowseQuery) (take i : Nat) (answer : BrowsePage) :
    Prop where
  shown : answer.listings.map (·.row) = pageRows contains rows ads now q take i
  total : answer.total = (found contains rows q).length
  limit : answer.limit = take
  totalPages : answer.totalPages = ⌈((found contains rows q).length : ℚ) / take⌉.toNat

theorem map_row_boostedPage (take : Nat) (i : Nat) :
    (boostedPage contains rows ads now (q.onPage i) take).map (·.row) =
      boostedRows contains rows ads now q take ++
        (normalRows contains rows ads now q).take
          (take - (boostedRows contains rows ads now q take).length) := by
  unfold boostedPage
  dsimp only
  rw [List.map_append, List.map_map, List.map_map]
  exact congrArg₂ (· ++ ·) (List.map_id _) (List.map_id _)

theorem map_row_normalPage (pageSkip take i : Nat) :
    (normalPage contains rows ads now (q.onPage i) pageSkip take).map (·.row) =
      ((normalRows contains rows ads now q).drop pageSkip).take take := by
  unfold normalPage
  dsimp only
  rw [List.map_map]
  exact List.map_id _

variable (contains rows ads now) in
theorem browse_onPage (htake : q.pageSize = take) (i : Nat) :
    exists answer, browseListings contains rows ads now (q.onPage (i + 1)) = .ok answer ∧
      AnswersPage contains rows ads now q take i answer := by
  have hpageSize : (q.onPage (i + 1)).pageSize = take := htake
  have hskip : max (((i : ℚ) + 1 - 1) * take -
      (boostedIds contains rows ads now (q.onPage (i + 1))).length) 0 =
        ((i * take - (boostedIds contains rows ads now q).length : Nat) : ℚ) := by
    rw [add_sub_cancel_right, ← Nat.cast_mul]
    exact skip_eq _ _
  have hfirst : (i : ℚ) + 1 = 1 ↔ i = 0 := by
    rw [add_eq_right]
    exact Nat.cast_eq_zero
  unfold browseListings
  rw [pageNumber_onPage]
  dsimp only
  rw [hpageSize, hskip, if_pos ⟨Rat.den_natCast take, Or.inr (Rat.den_natCast _)⟩]
  simp only [Rat.num_natCast, Int.toNat_natCast]
  refine ⟨_, rfl, ?_, ?_, rfl, ?_⟩
  · dsimp only
    unfold pageRows
    by_cases hboosted : i = 0 ∧ boostedIds contains rows ads now q ≠ []
    · rw [if_pos hboosted, if_pos ⟨hfirst.mpr hboosted.1, hboosted.2⟩]
      exact map_row_boostedPage take (i + 1)
    · rw [if_neg hboosted, if_neg fun h => hboosted ⟨hfirst.mp h.1, h.2⟩]
      exact map_row_normalPage _ take (i + 1)
  · exact List.countP_eq_length_filter
  · dsimp only
    rw [List.countP_eq_length_filter]
    rfl

theorem whole_of_answered {page : Nat} {answer : BrowsePage}
    (h : browseListings contains rows ads now (q.onPage page) = .ok answer) :
    exists take : Nat, q.pageSize = take := by
  unfold browseListings at h
  split at h
  · dsimp only at h
    split at h
    · next hwhole =>
        have hpositive : 0 ≤ q.pageSize := zero_le_one.trans q.pageSize_pos
        exact ⟨q.pageSize.num.toNat, (whole_eq hwhole.1 hpositive).symm⟩
    · cases h
  · cases h

/-! ## Pages put together -/

theorem pageRows_eq_page (hids : (rows.map (·.id)).Nodup)
    (h : (boostedIds contains rows ads now q).length ≤ take) (i : Nat) :
    pageRows contains rows ads now q take i =
      page take i (boostedRows contains rows ads now q take ++
        normalRows contains rows ads now q) := by
  have hlength : (boostedRows contains rows ads now q take).length =
      (boostedIds contains rows ads now q).length := by
    rw [length_boostedRows hids, min_eq_right h]
  have hfits := hlength.le.trans h
  unfold pageRows
  cases i with
  | zero =>
      rw [page_zero_append hfits]
      by_cases hboosted : boostedIds contains rows ads now q = []
      · have hnone : boostedRows contains rows ads now q take = [] := by
          rw [← List.length_eq_zero_iff, hlength, hboosted]
          rfl
        rw [if_neg fun hne => hne.2 hboosted, hnone, Nat.zero_mul, Nat.zero_sub, List.drop_zero,
          List.nil_append, List.length_nil, Nat.sub_zero]
      · rw [if_pos ⟨rfl, hboosted⟩]
  | succ i =>
      rw [if_neg fun h => absurd h.1 (Nat.succ_ne_zero i), page_succ_append hfits, hlength]

theorem length_pageRows_le (hids : (rows.map (·.id)).Nodup) (take i : Nat) :
    (pageRows contains rows ads now q take i).length ≤ take := by
  unfold pageRows
  split
  · rw [List.length_append, List.length_take, length_boostedRows hids]
    omega
  · exact List.length_take_le take _

theorem countP_boosted_pageRows (take i : Nat) :
    (pageRows contains rows ads now q take (i + 1)).countP
      (fun row => row.id ∈ boostedIds contains rows ads now q) = 0 := by
  rw [List.countP_eq_zero]
  intro row hrow
  rw [pageRows, if_neg fun h => absurd h.1 (Nat.succ_ne_zero i)] at hrow
  have hnormal := List.mem_of_mem_drop (List.mem_of_mem_take hrow)
  have hmem := (newestFirst_perm _).mem_iff.mp hnormal
  simpa only [decide_not, Bool.not_eq_true', decide_eq_false_iff_not, decide_eq_true_eq]
    using (List.mem_filter.mp hmem).2

theorem keepsMinimum_of_count
    (h : (found contains rows q).length = rows.countP (q.admits contains)) {row : BrowseRow}
    (hrow : row ∈ found contains rows q) : q.keepsMinimum row = true := by
  have hadmits : rows.filter (q.admits contains) =
      (found contains rows q).filter q.keepsMinimum := by
    rw [List.filter_filter]
    refine List.filter_congr fun row _ => ?_
    rw [q.admits_eq contains row, Bool.and_comm]
  rw [List.countP_eq_length_filter, hadmits] at h
  exact List.length_filter_eq_length_iff.mp h.symm row hrow

theorem admits_of_keepsMinimum
    (h : forall row, row ∈ found contains rows q -> q.keepsMinimum row = true) :
    rows.filter (q.admits contains) = found contains rows q := by
  refine List.filter_congr fun row hrow => ?_
  rw [q.admits_eq contains row]
  cases hmatches : q.toWhere.matches contains row with
  | false => rfl
  | true => exact h row (List.mem_filter.mpr ⟨hrow, hmatches⟩)

theorem browsesExactly_of_fits (hids : (rows.map (·.id)).Nodup) (htake : q.pageSize = take)
    (hboosted : (boostedIds contains rows ads now q).length ≤ take)
    (hminimum : forall row, row ∈ found contains rows q -> q.keepsMinimum row = true) :
    exists pages, BrowsesExactly contains rows ads now q pages := by
  have hpositive : (0 : ℚ) < take := htake ▸ zero_lt_one.trans_le q.pageSize_pos
  choose answer hanswer hpage using browse_onPage contains rows ads now htake
  have hadmits := admits_of_keepsMinimum hminimum
  have hperm := boosted_normal_perm hids hboosted
  refine ⟨(List.range ⌈((found contains rows q).length : ℚ) / take⌉.toNat).map answer,
    ⟨answer 0, hanswer 0, ?_, ?_⟩, ?_, ?_⟩
  · rw [(hpage 0).total, List.countP_eq_length_filter, hadmits]
  · rw [(hpage 0).totalPages, List.length_map, List.length_range]
  · intro i shown hshown
    rw [List.getElem?_map, Option.map_eq_some_iff] at hshown
    obtain ⟨j, hj, rfl⟩ := hshown
    obtain ⟨-, rfl⟩ := List.getElem?_eq_some_iff.mp hj
    rw [List.getElem_range]
    refine ⟨hanswer i, ?_, ?_⟩
    · rw [← List.length_map (f := BrowseItem.row), (hpage i).shown, (hpage i).limit]
      exact length_pageRows_le hids take i
    · intro limit hlimit hone
      rw [(hpage i).limit, ← htake]
      exact BrowseQuery.pageSize_le hlimit hone
  · rw [hadmits, List.flatMap_map]
    have hpages : forall i, (answer i).listings.map (·.row) =
        page take i (boostedRows contains rows ads now q take ++
          normalRows contains rows ads now q) :=
      fun i => (hpage i).shown.trans (pageRows_eq_page hids hboosted i)
    simp only [hpages]
    rw [flatMap_page_of_le]
    · exact hperm
    · rw [hperm.length_eq]
      rw [Int.ceil_toNat]
      have hceil := Nat.le_ceil (((found contains rows q).length : ℚ) / take)
      rw [div_le_iff₀ hpositive] at hceil
      exact_mod_cast hceil

theorem boosted_fit (hids : (rows.map (·.id)).Nodup) (htake : q.pageSize = take)
    {pages : List BrowsePage} (h : BrowsesExactly contains rows ads now q pages)
    (hminimum : forall row, row ∈ found contains rows q -> q.keepsMinimum row = true) :
    (boostedIds contains rows ads now q).length ≤ take := by
  have hshown : forall i answer, pages[i]? = some answer ->
      answer.listings.map (·.row) = pageRows contains rows ads now q take i := by
    intro i answer hi
    obtain ⟨other, hother, hpage⟩ := browse_onPage contains rows ads now htake i
    obtain rfl := Except.ok.inj ((h.page i answer hi).1.symm.trans hother)
    exact hpage.shown
  have hcount := h.rows.countP_eq fun row => row.id ∈ boostedIds contains rows ads now q
  rw [admits_of_keepsMinimum hminimum, List.countP_eq_length_filter (l := found contains rows q),
    length_boosted hids] at hcount
  rw [← hcount]
  cases pages with
  | nil => exact Nat.zero_le take
  | cons answer pages =>
      have hothers : forall other, other ∈ pages ->
          (other.listings.map (·.row)).countP
            (fun row => row.id ∈ boostedIds contains rows ads now q) = 0 := by
        intro other hmem
        obtain ⟨i, hi⟩ := List.mem_iff_getElem?.mp hmem
        rw [hshown (i + 1) other hi]
        exact countP_boosted_pageRows take i
      have hrest : (pages.flatMap fun answer => answer.listings.map (·.row)).countP
          (fun row => row.id ∈ boostedIds contains rows ads now q) = 0 := by
        rw [List.countP_flatMap]
        exact List.sum_eq_zero fun n hn => by
          obtain ⟨other, hmem, rfl⟩ := List.mem_map.mp hn
          exact hothers other hmem
      rw [List.flatMap_cons, List.countP_append, hrest, Nat.add_zero, hshown 0 answer rfl]
      exact List.countP_le_length.trans (length_pageRows_le hids take 0)

end

end

/-! ## A market of wheat -/

def containsLetters (text part : String) : Bool :=
  upper part <:+: upper text

/-- A listing of wheat by its id, with its quantity. -/
def wheatRow (id : String) (quantity : ℚ) (createdAt : Nat) : BrowseRow :=
  { id := id
    createdAt := createdAt
    sellerId := 0
    cropType := some "WHEAT"
    quantity := quantity
    availableQuantity := quantity
    unit := "KG"
    askingPrice := 25
    location := "Debre Zeit" }

def featured (listingId : String) : CampaignRow :=
  { id := listingId
    listingId := some listingId
    type := .featuredListing
    status := .published
    startDate := 0
    endDate := 100 }

def wheatRows : List BrowseRow :=
  [wheatRow "a" 5 1, wheatRow "b" 150 2, wheatRow "c" 500 3]

end MarketBridge
