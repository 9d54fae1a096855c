import MarketBridge.Ranking.Best
import MarketBridge.Schema.Enums
import MarketBridge.Schema.Rows

/-!
# Matching trucks

The trucks on offer that are suggested for a pickup, the best ones first: by the area they
operate in, by jobs that take their owners to the pickup, and by rating and verification.
-/

namespace MarketBridge

open Ranking

/-! ## Rows -/

inductive VerificationStatus where
  | unverified
  | pending
  | verified
  | rejected
deriving DecidableEq, Repr

/-- A truck as the matching reads it, with what it includes of its owner. -/
structure FleetTruck where
  id : Id
  ownerId : Id
  operatingArea : String
  capacity : ℚ
  availability : TruckAvailability := .available
  verificationStatus : VerificationStatus := .unverified
  rating : ℚ := 0
  ownerVerificationStatus : VerificationStatus := .unverified
deriving DecidableEq, Repr

/-- The trucks of the table. -/
structure Fleet where
  trucks : List FleetTruck
  ids : (trucks.map (·.id)).Nodup

/-- A transport job as the matching reads it. -/
structure RouteJob where
  id : Id
  truckOwnerId : Option Id
  destination : String
  status : TransportStatus
deriving DecidableEq, Repr

inductive MatchKind where
  | exactMatch
  | partialMatch
deriving DecidableEq, Repr

structure RouteOpportunity where
  jobId : Id
  destination : String
  status : TransportStatus
  matchKind : MatchKind
deriving DecidableEq, Repr

structure RankedTruck where
  truck : FleetTruck
  matchScore : ℚ
  routeMatch : Option RouteOpportunity
deriving DecidableEq, Repr

/-! ## Locations -/

/-- `ACTIVE_ROUTE_STATUSES`. -/
def activeRouteStatuses : List TransportStatus :=
  [.accepted, .pickup, .inTransit]

/-- `a.includes(b)`. -/
def includesLocation (a b : String) : Bool :=
  includesText a.toList b

/-- The text in lower case, without blanks around it; `lowerCase` is `toLowerCase`. -/
def normalizeLocation (lowerCase : String -> String) (value : Option String) : Option String :=
  (value.filter (· ≠ "")).map fun text => lowerCase (trimText text)

def locationsMatch (a b : Option String) : Option MatchKind :=
  match a.filter (· ≠ ""), b.filter (· ≠ "") with
  | some a, some b =>
      if a = b then
        some .exactMatch
      else if includesLocation a b || includesLocation b a then
        some .partialMatch
      else
        none
  | _, _ => none

/-! ## Backhauls -/

/-- The best opportunity of an owner is kept. -/
def joinOpportunity (lowerCase : String -> String) (pickup : Option String)
    (byOwner : Id -> Option RouteOpportunity) (job : RouteJob) : Id -> Option RouteOpportunity :=
  match locationsMatch (normalizeLocation lowerCase (some job.destination)) pickup,
    job.truckOwnerId with
  | some matchKind, some owner =>
      let opportunity : RouteOpportunity :=
        { jobId := job.id
          destination := job.destination
          status := job.status
          matchKind := matchKind }
      match byOwner owner with
      | none => Function.update byOwner owner (some opportunity)
      | some existing =>
          if matchKind = .exactMatch ∧ existing.matchKind ≠ .exactMatch then
            Function.update byOwner owner (some opportunity)
          else
            byOwner
  | _, _ => byOwner

def findRouteOpportunities (lowerCase : String -> String) (truckOwnerIds : List Id)
    (pickupArea : Option String) (jobs : List RouteJob) : Id -> Option RouteOpportunity :=
  let normalizedPickup := normalizeLocation lowerCase pickupArea
  if (normalizedPickup.filter (· ≠ "")).isNone || truckOwnerIds.isEmpty then
    fun _ => none
  else
    let activeJobs := jobs.filter fun job =>
      job.truckOwnerId ∈ truckOwnerIds.map some ∧ job.status ∈ activeRouteStatuses
    activeJobs.foldl (joinOpportunity lowerCase normalizedPickup) fun _ => none

/-! ## Scores -/

/-- `Number(requiredCapacity) || 0`; no capacity stands for a text that is not a number. -/
def leastCapacity (requiredCapacity : Option ℚ) : ℚ :=
  requiredCapacity.getD 0

def FleetTruck.isEligible (requiredCapacity : Option ℚ) (truck : FleetTruck) : Bool :=
  truck.availability = .available && leastCapacity requiredCapacity ≤ truck.capacity

/-- The points for the operating area. -/
def areaPoints (lowerCase : String -> String) (area : Option String) (truck : FleetTruck) : ℚ :=
  let truckArea := lowerCase (trimText truck.operatingArea)
  match (normalizeLocation lowerCase area).filter (· ≠ "") with
  | none => 0
  | some normalizedArea =>
      if truckArea = normalizedArea then
        50
      else if includesLocation truckArea normalizedArea ||
          includesLocation normalizedArea truckArea then
        25
      else
        0

def routePoints (routeMatch : Option RouteOpportunity) : ℚ :=
  match routeMatch.map RouteOpportunity.matchKind with
  | some .exactMatch => 60
  | some .partialMatch => 35
  | none => 0

def rankTruck (lowerCase : String -> String) (area : Option String)
    (requiredCapacity : Option ℚ) (routeOpportunities : Id -> Option RouteOpportunity)
    (truck : FleetTruck) : RankedTruck :=
  let routeMatch := routeOpportunities truck.ownerId
  let enough := match requiredCapacity with
    | none => false
    | some capacity => decide (capacity ≤ truck.capacity)
  let score := areaPoints lowerCase area truck + routePoints routeMatch + min 15 truck.rating * 3 +
    (if truck.verificationStatus = .verified then 10 else 0) +
    (if truck.ownerVerificationStatus = .verified then 5 else 0) +
    if enough then 5 else 0
  { truck := truck
    matchScore := roundMoney score
    routeMatch := routeMatch }

/-! ## The matching -/

def truncate (value : ℚ) : Int :=
  if 0 ≤ value then ⌊value⌋ else ⌈value⌉

/-- `Math.min(Number(limit) || 20, 50)`; no limit stands for a text that is not a number. -/
def sliceStop (limit : Option ℚ) : Int :=
  truncate (min ((limit.filter (· ≠ 0)).getD 20) 50)

/-- `items.slice(0, stop)`. -/
def sliceFront {α : Type} (items : List α) (stop : Int) : List α :=
  if stop < 0 then items.take (items.length - stop.natAbs) else items.take stop.toNat

def findTrucks (requiredCapacity : Option ℚ) (trucks : List FleetTruck) : List FleetTruck :=
  (trucks.filter (·.isEligible requiredCapacity)).take 100

def matchTrucks (lowerCase : String -> String) (trucks : List FleetTruck) (jobs : List RouteJob)
    (area : Option String) (requiredCapacity limit : Option ℚ) : List RankedTruck :=
  let found := findTrucks requiredCapacity trucks
  let routeOpportunities :=
    findRouteOpportunities lowerCase (found.map (·.ownerId)) area jobs
  let ranked := sorted (byScore (·.matchScore))
    (found.map (rankTruck lowerCase area requiredCapacity routeOpportunities))
  sliceFront ranked (sliceStop limit)

/-! ## The credit of an owner -/

/-- A committed job takes an owner to the pickup. -/
structure RouteJob.Takes (lowerCase : String -> String) (pickupArea : Option String) (owner : Id)
    (job : RouteJob) (matchKind : MatchKind) : Prop where
  owner : job.truckOwnerId = some owner
  committed : job.status ∈ activeRouteStatuses
  near : locationsMatch (normalizeLocation lowerCase (some job.destination))
    (normalizeLocation lowerCase pickupArea) = some matchKind

/-- What an owner is credited with, exact destinations before partial ones. -/
structure Credited (lowerCase : String -> String) (pickupArea : Option String)
    (jobs : List RouteJob) (owner : Id) (credit : Option RouteOpportunity) : Prop where
  none_iff : credit = none ↔
    forall job, job ∈ jobs -> forall matchKind,
      ¬job.Takes lowerCase pickupArea owner matchKind
  source : forall opportunity, credit = some opportunity ->
    exists job, job ∈ jobs ∧ job.Takes lowerCase pickupArea owner opportunity.matchKind ∧
      opportunity.jobId = job.id ∧ opportunity.destination = job.destination ∧
      opportunity.status = job.status
  preferred : forall opportunity, credit = some opportunity -> forall job, job ∈ jobs ->
    job.Takes lowerCase pickupArea owner .exactMatch -> opportunity.matchKind = .exactMatch

namespace Credited

variable {lowerCase : String -> String} {pickupArea : Option String} {jobs jobs' : List RouteJob}
  {owner : Id} {credit credit' : Option RouteOpportunity}

theorem matchKind_eq (h : Credited lowerCase pickupArea jobs owner credit)
    (h' : Credited lowerCase pickupArea jobs' owner credit')
    (hmem : forall job, job ∈ jobs ↔ job ∈ jobs') :
    credit.map (·.matchKind) = credit'.map (·.matchKind) := by
  cases hcredit : credit with
  | none =>
      have hnone : credit' = none :=
        h'.none_iff.2 fun job hjob => h.none_iff.1 hcredit job ((hmem job).2 hjob)
      rw [hnone]
  | some opportunity =>
      obtain ⟨job, hjob, htakes, -⟩ := h.source opportunity hcredit
      cases hcredit' : credit' with
      | none => exact absurd htakes (h'.none_iff.1 hcredit' job ((hmem job).1 hjob) _)
      | some opportunity' =>
          obtain ⟨job', hjob', htakes', -⟩ := h'.source opportunity' hcredit'
          rw [Option.map_some, Option.map_some]
          congr 1
          cases hkind : opportunity.matchKind with
          | exactMatch =>
              rw [hkind] at htakes
              exact (h'.preferred opportunity' hcredit' job ((hmem job).1 hjob) htakes).symm
          | partialMatch =>
              cases hkind' : opportunity'.matchKind with
              | exactMatch =>
                  rw [hkind'] at htakes'
                  have hexact := h.preferred opportunity hcredit job' ((hmem job').2 hjob') htakes'
                  rw [hkind] at hexact
                  cases hexact
              | partialMatch => rfl

variable {job : RouteJob}

theorem append_other (h : Credited lowerCase pickupArea jobs owner credit)
    (hother : forall matchKind, ¬job.Takes lowerCase pickupArea owner matchKind) :
    Credited lowerCase pickupArea (jobs ++ [job]) owner credit where
  none_iff := by
    rw [h.none_iff]
    constructor
    · intro hnone other hmem
      rcases List.mem_append.1 hmem with hmem | hmem
      · exact hnone other hmem
      · rw [List.mem_singleton.1 hmem]
        exact hother
    · intro hnone other hmem
      exact hnone other (List.mem_append_left _ hmem)
  source := by
    intro opportunity hcredit
    obtain ⟨source, hmem, hsource⟩ := h.source opportunity hcredit
    exact ⟨source, List.mem_append_left _ hmem, hsource⟩
  preferred := by
    intro opportunity hcredit other hmem htakes
    rcases List.mem_append.1 hmem with hmem | hmem
    · exact h.preferred opportunity hcredit other hmem htakes
    · rw [List.mem_singleton.1 hmem] at htakes
      exact absurd htakes (hother _)

theorem append_takes (h : Credited lowerCase pickupArea jobs owner credit) {matchKind : MatchKind}
    (htakes : job.Takes lowerCase pickupArea owner matchKind)
    (hworse : forall opportunity, credit = some opportunity -> matchKind = .exactMatch) :
    Credited lowerCase pickupArea (jobs ++ [job]) owner
      (some
        { jobId := job.id
          destination := job.destination
          status := job.status
          matchKind := matchKind }) where
  none_iff := by
    refine ⟨fun hnone => (by cases hnone), fun hnone => ?_⟩
    exact absurd htakes (hnone job (by simp) matchKind)
  source := by
    intro opportunity hcredit
    obtain rfl := Option.some.inj hcredit
    exact ⟨job, by simp, htakes, rfl, rfl, rfl⟩
  preferred := by
    intro opportunity hcredit other hmem hexact
    obtain rfl := Option.some.inj hcredit
    rcases List.mem_append.1 hmem with hmem | hmem
    · cases hbefore : credit with
      | none => exact absurd hexact (h.none_iff.1 hbefore other hmem _)
      | some before => exact hworse before hbefore
    · rw [List.mem_singleton.1 hmem] at hexact
      exact Option.some.inj (htakes.near.symm.trans hexact.near)

theorem append_kept {opportunity : RouteOpportunity}
    (h : Credited lowerCase pickupArea jobs owner (some opportunity)) {matchKind : MatchKind}
    (htakes : job.Takes lowerCase pickupArea owner matchKind)
    (hkept : ¬(matchKind = .exactMatch ∧ opportunity.matchKind ≠ .exactMatch)) :
    Credited lowerCase pickupArea (jobs ++ [job]) owner (some opportunity) where
  none_iff := by
    refine ⟨fun hnone => (by cases hnone), fun hnone => ?_⟩
    exact absurd htakes (hnone job (by simp) matchKind)
  source := by
    intro opportunity' hcredit
    obtain ⟨source, hmem, hsource⟩ := h.source opportunity' hcredit
    exact ⟨source, List.mem_append_left _ hmem, hsource⟩
  preferred := by
    intro opportunity' hcredit other hmem hexact
    rcases List.mem_append.1 hmem with hmem | hmem
    · exact h.preferred opportunity' hcredit other hmem hexact
    · rw [List.mem_singleton.1 hmem] at hexact
      obtain rfl := Option.some.inj hcredit
      obtain rfl := Option.some.inj (htakes.near.symm.trans hexact.near)
      by_contra hne
      exact hkept ⟨rfl, hne⟩

end Credited

/-! ## The scan of the jobs -/

theorem joinOpportunity_credited {lowerCase : String -> String} {pickupArea : Option String}
    {jobs : List RouteJob} {byOwner : Id -> Option RouteOpportunity}
    (h : forall owner, Credited lowerCase pickupArea jobs owner (byOwner owner)) {job : RouteJob}
    (hcommitted : job.status ∈ activeRouteStatuses) (owner : Id) :
    Credited lowerCase pickupArea (jobs ++ [job]) owner
      (joinOpportunity lowerCase (normalizeLocation lowerCase pickupArea) byOwner job owner) := by
  unfold joinOpportunity
  cases hnear : locationsMatch (normalizeLocation lowerCase (some job.destination))
      (normalizeLocation lowerCase pickupArea) with
  | none =>
      refine (h owner).append_other fun matchKind htakes => ?_
      have hsome := htakes.near
      rw [hnear] at hsome
      cases hsome
  | some matchKind =>
      cases hjoined : job.truckOwnerId with
      | none =>
          refine (h owner).append_other fun matchKind htakes => ?_
          have hsome := htakes.owner
          rw [hjoined] at hsome
          cases hsome
      | some joined =>
          dsimp only
          by_cases howner : owner = joined
          · subst howner
            have htakes : job.Takes lowerCase pickupArea owner matchKind :=
              ⟨hjoined, hcommitted, hnear⟩
            have hbefore := h owner
            cases hexisting : byOwner owner with
            | none =>
                rw [hexisting] at hbefore
                dsimp only
                rw [Function.update_self]
                exact hbefore.append_takes htakes fun _ hsome => by cases hsome
            | some existing =>
                rw [hexisting] at hbefore
                dsimp only
                by_cases hbetter : matchKind = .exactMatch ∧ existing.matchKind ≠ .exactMatch
                · rw [if_pos hbetter, Function.update_self]
                  exact hbefore.append_takes htakes fun _ _ => hbetter.1
                · rw [if_neg hbetter, hexisting]
                  exact hbefore.append_kept htakes hbetter
          · have hother : forall matchKind', ¬job.Takes lowerCase pickupArea owner matchKind' :=
              fun _ htakes => howner (Option.some.inj (htakes.owner.symm.trans hjoined))
            have hbefore := (h owner).append_other hother
            cases byOwner joined with
            | none =>
                dsimp only
                rwa [Function.update_of_ne howner]
            | some existing =>
                dsimp only
                by_cases hbetter : matchKind = .exactMatch ∧ existing.matchKind ≠ .exactMatch
                · rwa [if_pos hbetter, Function.update_of_ne howner]
                · rwa [if_neg hbetter]

theorem foldl_credited {lowerCase : String -> String} {pickupArea : Option String}
    {jobs : List RouteJob} {byOwner : Id -> Option RouteOpportunity}
    (h : forall owner, Credited lowerCase pickupArea jobs owner (byOwner owner))
    (more : List RouteJob) (hcommitted : forall job, job ∈ more -> job.status ∈ activeRouteStatuses)
    (owner : Id) :
    Credited lowerCase pickupArea (jobs ++ more) owner
      (more.foldl (joinOpportunity lowerCase (normalizeLocation lowerCase pickupArea)) byOwner
        owner) := by
  induction more generalizing jobs byOwner with
  | nil =>
      rw [List.append_nil]
      exact h owner
  | cons job more ih =>
      rw [List.append_cons]
      exact ih (joinOpportunity_credited h (hcommitted job (List.mem_cons_self ..)))
        fun other hother => hcommitted other (List.mem_cons_of_mem job hother)

theorem findRouteOpportunities_credited (lowerCase : String -> String) {truckOwnerIds : List Id}
    (pickupArea : Option String) (jobs : List RouteJob) {owner : Id}
    (howner : owner ∈ truckOwnerIds) :
    Credited lowerCase pickupArea jobs owner
      (findRouteOpportunities lowerCase truckOwnerIds pickupArea jobs owner) := by
  unfold findRouteOpportunities
  dsimp only
  split
  · rename_i hnowhere
    have hempty : truckOwnerIds.isEmpty = false := by
      cases truckOwnerIds with
      | nil => cases howner
      | cons first rest => rfl
    rw [hempty, Bool.or_false, Option.isNone_iff_eq_none] at hnowhere
    have hnever : forall job : RouteJob, forall matchKind,
        ¬job.Takes lowerCase pickupArea owner matchKind := by
      intro job matchKind htakes
      have hnear := htakes.near
      unfold locationsMatch at hnear
      rw [hnowhere] at hnear
      split at hnear
      · rename_i hsome
        cases hsome
      · cases hnear
    exact
      { none_iff := ⟨fun _ job _ => hnever job, fun _ => rfl⟩
        source := fun _ hsome => by cases hsome
        preferred := fun _ hsome => by cases hsome }
  · have hstart : forall other, Credited lowerCase pickupArea [] other none := fun other =>
      { none_iff := ⟨fun _ _ hmem => (by cases hmem), fun _ => rfl⟩
        source := fun _ hsome => by cases hsome
        preferred := fun _ hsome => by cases hsome }
    have hscan := foldl_credited hstart (jobs.filter fun job =>
      job.truckOwnerId ∈ truckOwnerIds.map some ∧ job.status ∈ activeRouteStatuses)
      (fun job hjob => (of_decide_eq_true (List.mem_filter.1 hjob).2).2) owner
    rw [List.nil_append] at hscan
    have hkept : forall job, job ∈ jobs -> forall matchKind,
        job.Takes lowerCase pickupArea owner matchKind ->
          job ∈ jobs.filter fun job =>
            job.truckOwnerId ∈ truckOwnerIds.map some ∧ job.status ∈ activeRouteStatuses := by
      intro job hjob matchKind htakes
      refine List.mem_filter.2 ⟨hjob, decide_eq_true ⟨?_, htakes.committed⟩⟩
      rw [htakes.owner]
      exact List.mem_map_of_mem howner
    refine ⟨?_, ?_, ?_⟩
    · rw [hscan.none_iff]
      constructor
      · intro hnone job hjob matchKind htakes
        exact hnone job (hkept job hjob matchKind htakes) matchKind htakes
      · intro hnone job hjob
        exact hnone job (List.mem_filter.1 hjob).1
    · intro opportunity hcredit
      obtain ⟨job, hjob, hsource⟩ := hscan.source opportunity hcredit
      exact ⟨job, (List.mem_filter.1 hjob).1, hsource⟩
    · intro opportunity hcredit job hjob htakes
      exact hscan.preferred opportunity hcredit job (hkept job hjob _ htakes) htakes

end MarketBridge
