import Mathlib.Data.List.Infix
import MarketBridge.Ledger.Entries
import MarketBridge.Transport.Matching

/-!
# The best trucks

The matching returns the best of the trucks that it looks at.  These are the best of all as
long as few trucks are worse than others, since it looks at a hundred.
-/

namespace MarketBridge

open Ranking

/-! ## Statement -/

def scoreOf (lowerCase : String -> String) (jobs : List RouteJob) (area : Option String)
    (requiredCapacity : Option ℚ) (truck : FleetTruck) : ℚ :=
  (rankTruck lowerCase area requiredCapacity
    (findRouteOpportunities lowerCase [truck.ownerId] area jobs) truck).matchScore

def allowedCount (limit : Option ℚ) : Nat :=
  (sliceStop limit).toNat

/-- The operating area is not blank, and it equals, contains or is contained in the area. -/
def InArea (lowerCase : String -> String) (area : Option String) (truck : FleetTruck) : Prop :=
  let truckArea := lowerCase (trimText truck.operatingArea)
  truckArea ≠ "" ∧ exists requested, normalizeLocation lowerCase area = some requested ∧
    (truckArea = requested ∨ includesLocation truckArea requested = true ∨
      includesLocation requested truckArea = true)

/-- The matching returns the best trucks, and credits them with what they have. -/
structure BestTrucks (lowerCase : String -> String) (trucks : List FleetTruck)
    (jobs : List RouteJob) (area : Option String) (requiredCapacity limit : Option ℚ) : Prop where
  eligible : forall r, r ∈ matchTrucks lowerCase trucks jobs area requiredCapacity limit ->
    r.truck ∈ trucks ∧ r.truck.isEligible requiredCapacity = true
  distinct :
    ((matchTrucks lowerCase trucks jobs area requiredCapacity limit).map (·.truck.id)).Nodup
  ordered : (matchTrucks lowerCase trucks jobs area requiredCapacity limit).Pairwise
    fun a b => b.matchScore ≤ a.matchScore
  scored : forall r, r ∈ matchTrucks lowerCase trucks jobs area requiredCapacity limit ->
    r.matchScore = scoreOf lowerCase jobs area requiredCapacity r.truck
  length : (matchTrucks lowerCase trucks jobs area requiredCapacity limit).length =
    min (allowedCount limit) (trucks.filter (·.isEligible requiredCapacity)).length
  best : IsBest (scoreOf lowerCase jobs area requiredCapacity)
    (trucks.filter (·.isEligible requiredCapacity))
    ((matchTrucks lowerCase trucks jobs area requiredCapacity limit).map (·.truck))
  inArea : forall truck, truck ∈ findTrucks requiredCapacity trucks ->
    0 < areaPoints lowerCase area truck -> InArea lowerCase area truck
  backhaul : forall r, r ∈ matchTrucks lowerCase trucks jobs area requiredCapacity limit ->
    Credited lowerCase area jobs r.truck.ownerId r.routeMatch

/-- The fleets, areas and limits for which a hundred trucks are enough. -/
structure Matchable (lowerCase : String -> String) (trucks : List FleetTruck)
    (jobs : List RouteJob) (area : Option String) (requiredCapacity limit : Option ℚ) : Prop where
  /-- At most 100 trucks are eligible, or few of them are worse than another one. -/
  few : FewWorse (scoreOf lowerCase jobs area requiredCapacity) 100 (allowedCount limit)
    (trucks.filter (·.isEligible requiredCapacity))
  /-- The limit is not negative, or it cuts everything off. -/
  cutOff : sliceStop limit < 0 ->
    min 100 (trucks.filter (·.isEligible requiredCapacity)).length ≤ (sliceStop limit).natAbs
  /-- No area is asked for, or no eligible truck has a blank operating area. -/
  notBlank : ((normalizeLocation lowerCase area).filter (· ≠ "")).isSome = true ->
    forall truck, truck ∈ trucks -> truck.isEligible requiredCapacity = true ->
      lowerCase (trimText truck.operatingArea) ≠ ""

/-! ## Scores -/

variable {truck : FleetTruck} {jobs : List RouteJob} {lowerCase : String -> String}
  {area : Option String}

theorem rankTruck_matchScore_congr (lowerCase : String -> String) (area : Option String)
    (requiredCapacity : Option ℚ) {found found' : Id -> Option RouteOpportunity}
    (h : (found truck.ownerId).map (·.matchKind) = (found' truck.ownerId).map (·.matchKind)) :
    (rankTruck lowerCase area requiredCapacity found truck).matchScore =
      (rankTruck lowerCase area requiredCapacity found' truck).matchScore := by
  have hpoints : routePoints (found truck.ownerId) = routePoints (found' truck.ownerId) := by
    unfold routePoints
    rw [h]
  unfold rankTruck
  dsimp only
  rw [hpoints]

theorem rankTruck_matchScore (lowerCase : String -> String) (jobs : List RouteJob)
    (area : Option String) (requiredCapacity : Option ℚ) {owners : List Id}
    (howner : truck.ownerId ∈ owners) :
    (rankTruck lowerCase area requiredCapacity
      (findRouteOpportunities lowerCase owners area jobs) truck).matchScore =
      scoreOf lowerCase jobs area requiredCapacity truck := by
  refine rankTruck_matchScore_congr lowerCase area requiredCapacity ?_
  exact (findRouteOpportunities_credited lowerCase area jobs howner).matchKind_eq
    (findRouteOpportunities_credited lowerCase area jobs (by simp)) fun _ => Iff.rfl

theorem scoreOf_of_perm (lowerCase : String -> String) {jobs' : List RouteJob}
    (h : jobs.Perm jobs') (area : Option String) (requiredCapacity : Option ℚ) :
    scoreOf lowerCase jobs area requiredCapacity =
      scoreOf lowerCase jobs' area requiredCapacity := by
  funext truck
  refine rankTruck_matchScore_congr lowerCase area requiredCapacity ?_
  exact (findRouteOpportunities_credited lowerCase area jobs (by simp)).matchKind_eq
    (findRouteOpportunities_credited lowerCase area jobs' (by simp)) fun _ => h.mem_iff

/-! ## The trucks that are returned -/

theorem sliceFront_map {α β : Type} (f : α -> β) (items : List α) (stop : Int) :
    sliceFront (items.map f) stop = (sliceFront items stop).map f := by
  unfold sliceFront
  split
  · rw [List.length_map, List.map_take]
  · rw [List.map_take]

theorem sliceFront_sublist {α : Type} (items : List α) (stop : Int) :
    (sliceFront items stop).Sublist items := by
  unfold sliceFront
  split
  · exact List.take_sublist _ _
  · exact List.take_sublist _ _

def chosenTrucks (lowerCase : String -> String) (trucks : List FleetTruck) (jobs : List RouteJob)
    (area : Option String) (requiredCapacity limit : Option ℚ) : List FleetTruck :=
  sliceFront (sorted (byScore (scoreOf lowerCase jobs area requiredCapacity))
    (findTrucks requiredCapacity trucks)) (sliceStop limit)

section

variable (lowerCase : String -> String) (trucks : List FleetTruck) (jobs : List RouteJob)
  (area : Option String) (requiredCapacity limit : Option ℚ)

theorem matchTrucks_eq :
    matchTrucks lowerCase trucks jobs area requiredCapacity limit =
      (chosenTrucks lowerCase trucks jobs area requiredCapacity limit).map
        (rankTruck lowerCase area requiredCapacity (findRouteOpportunities lowerCase
          ((findTrucks requiredCapacity trucks).map (·.ownerId)) area jobs)) := by
  unfold matchTrucks chosenTrucks
  dsimp only
  rw [sorted_byScore_map fun truck htruck =>
    rankTruck_matchScore lowerCase jobs area requiredCapacity (List.mem_map_of_mem htruck),
    sliceFront_map]

theorem map_truck_matchTrucks :
    (matchTrucks lowerCase trucks jobs area requiredCapacity limit).map (·.truck) =
      chosenTrucks lowerCase trucks jobs area requiredCapacity limit := by
  rw [matchTrucks_eq, List.map_map]
  exact List.map_id _

theorem chosenTrucks_sublist :
    (chosenTrucks lowerCase trucks jobs area requiredCapacity limit).Sublist
      (sorted (byScore (scoreOf lowerCase jobs area requiredCapacity))
        (findTrucks requiredCapacity trucks)) :=
  sliceFront_sublist _ _

variable {lowerCase trucks jobs area requiredCapacity limit}

variable {truck : FleetTruck}

theorem mem_findTrucks_of_mem_chosenTrucks
    (h : truck ∈ chosenTrucks lowerCase trucks jobs area requiredCapacity limit) :
    truck ∈ findTrucks requiredCapacity trucks :=
  mem_sorted.1 ((chosenTrucks_sublist ..).subset h)

theorem mem_of_mem_findTrucks (h : truck ∈ findTrucks requiredCapacity trucks) :
    truck ∈ trucks ∧ truck.isEligible requiredCapacity = true :=
  List.mem_filter.1 (List.mem_of_mem_take h)

theorem chosenTrucks_eq_bestOfPrefix (h : ¬sliceStop limit < 0) :
    chosenTrucks lowerCase trucks jobs area requiredCapacity limit =
      bestOfPrefix (scoreOf lowerCase jobs area requiredCapacity) 100 (allowedCount limit)
        (trucks.filter (·.isEligible requiredCapacity)) :=
  if_neg h

theorem length_chosenTrucks_of_neg (h : sliceStop limit < 0) :
    (chosenTrucks lowerCase trucks jobs area requiredCapacity limit).length =
      min 100 (trucks.filter (·.isEligible requiredCapacity)).length -
        (sliceStop limit).natAbs := by
  unfold chosenTrucks sliceFront
  rw [if_pos h, List.length_take, length_sorted]
  unfold findTrucks
  rw [List.length_take]
  omega

theorem sliceStop_le (limit : Option ℚ) : sliceStop limit ≤ 50 := by
  unfold sliceStop truncate
  generalize (limit.filter (· ≠ 0)).getD 20 = value
  have hle : min value 50 ≤ ((50 : ℤ) : ℚ) := by
    push_cast
    exact min_le_right _ _
  split
  · exact_mod_cast (Int.floor_le _).trans hle
  · exact Int.ceil_le.2 hle

theorem areaPoints_pos_iff :
    0 < areaPoints lowerCase area truck ↔
      exists requested, (normalizeLocation lowerCase area).filter (· ≠ "") = some requested ∧
        (lowerCase (trimText truck.operatingArea) = requested ∨
          includesLocation (lowerCase (trimText truck.operatingArea)) requested = true ∨
          includesLocation requested (lowerCase (trimText truck.operatingArea)) = true) := by
  unfold areaPoints
  dsimp only
  cases hrequested : (normalizeLocation lowerCase area).filter (· ≠ "") with
  | none => simp
  | some requested =>
      dsimp only
      split
      · rename_i hexact
        simp [hexact]
      · rename_i hne
        split
        · rename_i hincludes
          rw [Bool.or_eq_true] at hincludes
          simp [hincludes]
        · rename_i hneither
          rw [Bool.or_eq_true] at hneither
          simp [hne, not_or.1 hneither]

theorem includesLocation_empty (text : String) : includesLocation text "" = true := by
  unfold includesLocation includesText
  rw [List.any_eq_true]
  exact ⟨text.toList, (List.mem_tails _ _).2 (List.suffix_refl _), rfl⟩

end

/-! ## Fleets for which a hundred trucks are enough -/

theorem Matchable.bestTrucks {trucks trucks' : List FleetTruck}
    {requiredCapacity limit : Option ℚ}
    (h : Matchable lowerCase trucks jobs area requiredCapacity limit)
    (hids : (trucks.map (·.id)).Nodup) (hperm : trucks.Perm trucks') :
    BestTrucks lowerCase trucks' jobs area requiredCapacity limit := by
  have hperm_eligible := hperm.filter (·.isEligible requiredCapacity)
  have hfound : forall r, r ∈ matchTrucks lowerCase trucks' jobs area requiredCapacity limit ->
      exists truck, truck ∈ findTrucks requiredCapacity trucks' ∧
        r = rankTruck lowerCase area requiredCapacity (findRouteOpportunities lowerCase
          ((findTrucks requiredCapacity trucks').map (·.ownerId)) area jobs) truck := by
    intro r hr
    rw [matchTrucks_eq] at hr
    obtain ⟨truck, htruck, rfl⟩ := List.mem_map.1 hr
    exact ⟨truck, mem_findTrucks_of_mem_chosenTrucks htruck, rfl⟩
  have hscored : forall r, r ∈ matchTrucks lowerCase trucks' jobs area requiredCapacity limit ->
      r.matchScore = scoreOf lowerCase jobs area requiredCapacity r.truck := by
    intro r hr
    obtain ⟨truck, htruck, rfl⟩ := hfound r hr
    exact rankTruck_matchScore lowerCase jobs area requiredCapacity (List.mem_map_of_mem htruck)
  refine ⟨?_, ?_, ?_, hscored, ?_, ?_, ?_, ?_⟩
  · intro r hr
    obtain ⟨truck, htruck, rfl⟩ := hfound r hr
    exact mem_of_mem_findTrucks htruck
  · have hsublist : (((sorted (byScore (scoreOf lowerCase jobs area requiredCapacity))
        (findTrucks requiredCapacity trucks')).map (·.id))).Nodup := by
      rw [((sorted_perm _ _).map _).nodup_iff]
      refine ((hperm.map (·.id)).nodup_iff.1 hids).sublist (List.Sublist.map _ ?_)
      exact (List.take_sublist _ _).trans List.filter_sublist
    have hids' : (matchTrucks lowerCase trucks' jobs area requiredCapacity limit).map
        (·.truck.id) = (chosenTrucks lowerCase trucks' jobs area requiredCapacity limit).map
        (·.id) := by
      rw [← map_truck_matchTrucks, List.map_map]
      rfl
    rw [hids']
    exact hsublist.sublist ((chosenTrucks_sublist ..).map _)
  · have hchosen : (chosenTrucks lowerCase trucks' jobs area requiredCapacity limit).Pairwise
        fun a b => scoreOf lowerCase jobs area requiredCapacity b ≤
          scoreOf lowerCase jobs area requiredCapacity a :=
      ((sorted_pairwise (byScore_isComparator _) _).sublist (chosenTrucks_sublist ..)).imp
        byScore_le_iff.1
    rw [← map_truck_matchTrucks, List.pairwise_map] at hchosen
    refine hchosen.imp_of_mem fun {a b} ha hb hle => ?_
    rwa [hscored a ha, hscored b hb]
  · have hlength := congrArg List.length
      (map_truck_matchTrucks lowerCase trucks' jobs area requiredCapacity limit)
    rw [List.length_map] at hlength
    rw [hlength]
    by_cases hneg : sliceStop limit < 0
    · have hcut := h.cutOff hneg
      rw [hperm_eligible.length_eq] at hcut
      have hnone : allowedCount limit = 0 := Int.toNat_of_nonpos hneg.le
      rw [length_chosenTrucks_of_neg hneg, hnone]
      omega
    · have hle := sliceStop_le limit
      have hcount : allowedCount limit ≤ 50 := by
        unfold allowedCount
        omega
      rw [chosenTrucks_eq_bestOfPrefix hneg, length_bestOfPrefix]
      omega
  · rw [map_truck_matchTrucks]
    by_cases hneg : sliceStop limit < 0
    · have hlength := @length_chosenTrucks_of_neg lowerCase trucks' jobs area requiredCapacity
        limit hneg
      have hcut := h.cutOff hneg
      rw [hperm_eligible.length_eq] at hcut
      have hempty : chosenTrucks lowerCase trucks' jobs area requiredCapacity limit = [] :=
        List.length_eq_zero_iff.1 (by omega)
      rw [hempty]
      exact fun _ _ _ _ hmem => by cases hmem
    · rw [chosenTrucks_eq_bestOfPrefix hneg]
      exact isBest_of_fewWorse h.few hperm_eligible
  · intro truck htruck hpoints
    obtain ⟨hmem, heligible⟩ := mem_of_mem_findTrucks htruck
    obtain ⟨requested, hrequested, hnear⟩ := areaPoints_pos_iff.1 hpoints
    have hblank := h.notBlank (by rw [hrequested]; rfl) truck (hperm.mem_iff.2 hmem) heligible
    exact ⟨hblank, requested, (Option.filter_eq_some_iff.1 hrequested).1, hnear⟩
  · intro r hr
    obtain ⟨truck, htruck, rfl⟩ := hfound r hr
    exact findRouteOpportunities_credited lowerCase area jobs (List.mem_map_of_mem htruck)

/-! ## Other fleets -/

theorem exists_perm_filter {α : Type} {p : α -> Bool} {items chosen : List α}
    (h : (items.filter p).Perm chosen) :
    exists items', items.Perm items' ∧ items'.filter p = chosen := by
  refine ⟨chosen ++ items.filter fun a => !p a, ?_, ?_⟩
  · exact (List.filter_append_perm p items).symm.trans (h.append_right _)
  · rw [List.filter_append, List.filter_eq_self.2 fun a ha =>
      (List.mem_filter.1 (h.mem_iff.2 ha)).2, List.filter_eq_nil_iff.2 ?_, List.append_nil]
    intro a ha hp
    have hnot := (List.mem_filter.1 ha).2
    rw [hp] at hnot
    cases hnot

theorem areaPoints_pos_of_blank
    (harea : ((normalizeLocation lowerCase area).filter (· ≠ "")).isSome = true)
    (hblank : lowerCase (trimText truck.operatingArea) = "") :
    0 < areaPoints lowerCase area truck := by
  obtain ⟨requested, hrequested⟩ := Option.isSome_iff_exists.1 harea
  refine areaPoints_pos_iff.2 ⟨requested, hrequested, Or.inr (Or.inr ?_)⟩
  rw [hblank]
  exact includesLocation_empty requested

/-- What the best trucks in every order say about the fleet. -/
theorem matchable_of_bestTrucks {lowerCase : String -> String} {trucks : List FleetTruck}
    {jobs : List RouteJob} {area : Option String} {requiredCapacity limit : Option ℚ}
    (hids : (trucks.map (·.id)).Nodup)
    (h : forall trucks', trucks.Perm trucks' ->
      BestTrucks lowerCase trucks' jobs area requiredCapacity limit) :
    Matchable lowerCase trucks jobs area requiredCapacity limit where
  few := by
    by_cases hneg : sliceStop limit < 0
    · intro _ hpos
      have hnone : allowedCount limit = 0 := Int.toNat_of_nonpos hneg.le
      omega
    · have hnodup : (trucks.filter (·.isEligible requiredCapacity)).Nodup :=
        hids.of_map.sublist List.filter_sublist
      have hle := sliceStop_le limit
      refine fewWorse_of_isBest hnodup (by unfold allowedCount; omega) fun chosen hchosen => ?_
      obtain ⟨trucks', hperm, rfl⟩ := exists_perm_filter hchosen
      have hbest := (h trucks' hperm).best
      rwa [map_truck_matchTrucks, chosenTrucks_eq_bestOfPrefix hneg] at hbest
  cutOff := by
    intro hneg
    have hlength := (h trucks (List.Perm.refl _)).length
    rw [← @List.length_map _ _ _ RankedTruck.truck, map_truck_matchTrucks,
      length_chosenTrucks_of_neg hneg, show allowedCount limit = 0 from Int.toNat_of_nonpos hneg.le]
      at hlength
    omega
  notBlank := by
    intro harea truck htruck heligible hblank
    have hfirst := h (truck :: trucks.erase truck) (List.perm_cons_erase htruck)
    refine (hfirst.inArea truck ?_ (areaPoints_pos_of_blank harea hblank)).1 hblank
    unfold findTrucks
    rw [List.filter_cons_of_pos heligible]
    exact List.mem_cons_self ..

/--
The matching returns the best trucks, in every order of the trucks and the jobs, if and only
if at most a hundred trucks are eligible or few of them are worse than others, the limit is
not negative or cuts everything off, and no eligible truck has a blank operating area where
an area is asked for.
-/
theorem bestTrucks_iff (lowerCase : String -> String) (fleet : Fleet) (jobs : List RouteJob)
    (area : Option String) (requiredCapacity limit : Option ℚ) :
    (forall trucks' jobs', fleet.trucks.Perm trucks' -> jobs.Perm jobs' ->
        BestTrucks lowerCase trucks' jobs' area requiredCapacity limit) ↔
      Matchable lowerCase fleet.trucks jobs area requiredCapacity limit := by
  constructor
  · intro h
    exact matchable_of_bestTrucks fleet.ids fun trucks' hperm =>
      h trucks' jobs hperm (List.Perm.refl _)
  · intro h trucks' jobs' hperm hjobs
    have hmatchable : Matchable lowerCase fleet.trucks jobs' area requiredCapacity limit :=
      { few := scoreOf_of_perm lowerCase hjobs area requiredCapacity ▸ h.few
        cutOff := h.cutOff
        notBlank := h.notBlank }
    exact hmatchable.bestTrucks fleet.ids hperm

def unplacedFleet : Fleet where
  trucks :=
    [{ id := 1
       ownerId := 2
       operatingArea := ""
       capacity := 10 }]
  ids := by decide

/-- A truck without an operating area gets points for any area. -/
theorem unplaced_not_best :
    ¬forall trucks' jobs', unplacedFleet.trucks.Perm trucks' ->
      (([] : List RouteJob)).Perm jobs' ->
        BestTrucks (fun text => String.ofList (text.toList.map Char.toLower)) trucks' jobs'
          (some "Adama") (some 0) (some 20) := by
  intro h
  have hinArea := (h _ _ (List.Perm.refl _) (List.Perm.refl _)).inArea
    { id := 1
      ownerId := 2
      operatingArea := ""
      capacity := 10 } (by decide +kernel) (by decide +kernel)
  exact hinArea.1 (by decide +kernel)

end MarketBridge
