import MarketBridge.Listing.Browse

/-!
# Live campaigns

The public feed, the events of a campaign, the browse of listings and the status that is displayed
each have their own notion of a live campaign, and two jobs rewrite the status at the ends of its
window.
-/

namespace MarketBridge

open Relational

/-! ## Notions -/

/-- `GET /ads/active`. -/
def activeFeed (ads : List CampaignRow) (now : Nat) : List CampaignRow :=
  ads.filter fun ad => ad.isLive now

/-- The check of `POST /ads/:id/events`. -/
def CampaignRow.acceptsEvent (ad : CampaignRow) (now : Nat) : Bool :=
  !(!ad.status.isActive || now < ad.startDate || ad.endDate < now)

/-- The status of `withComputedStatus`. -/
def CampaignRow.computedStatus (ad : CampaignRow) (now : Nat) : AdStatus :=
  if ad.status.isUp && ad.endDate < now then
    .expired
  else if ad.status = .scheduled && ad.startDate ≤ now then
    .published
  else
    ad.status

/-- The campaign is for a listing that the query finds, and of a type that counts for it. -/
def CampaignRow.promotes (contains : String -> String -> Bool) (rows : List BrowseRow)
    (q : BrowseQuery) (ad : CampaignRow) : Bool :=
  ad.type.boosts && !ad.isSkipped q &&
    rows.any fun row => ad.listingId = some row.id && q.toWhere.matches contains row

/-! ## Jobs -/

inductive AdJob where
  | expire
  | activate
deriving DecidableEq, Repr

namespace AdJob

def run (env : Env) (db : Db) : AdJob -> Db
  | expire => expireAdvertisements env db
  | activate => activateScheduledAdvertisements env db

/-- What a job makes of one row. -/
def row (env : Env) (ad : Advertisement) : AdJob -> Advertisement
  | expire =>
      if ad.status.isUp && decide (ad.endDate ≤ env.now) then
        { ad with status := .expired }
      else
        ad
  | activate =>
      if ad.status = .scheduled && decide (ad.startDate ≤ env.now) &&
          decide (env.now < ad.endDate) then
        ad.moved env .published
      else
        ad

theorem findUnique_run (env : Env) (db : Db) (job : AdJob) (adId : Id) :
    (job.run env db).advertisements.findUnique adId =
      (db.advertisements.findUnique adId).map fun ad => job.row env ad := by
  cases job with
  | expire => exact Table.findUnique_updateMany _ _ _ _
  | activate => exact Table.findUnique_updateMany _ _ _ _

end AdJob

def CampaignRow.afterJobs (env : Env) (ad : CampaignRow) (jobs : List AdJob) : CampaignRow :=
  { ad with toAdvertisement := jobs.foldl (fun row job => job.row env row) ad.toAdvertisement }

/-! ## One notion -/

/-- Every place takes the campaign as live exactly where the public feed shows it. -/
structure LiveAlike (ads : List CampaignRow) (now : Nat) (ad : CampaignRow) : Prop where
  events : ad.acceptsEvent now = true ↔ ad ∈ activeFeed ads now
  boosts : forall contains rows q, ad.promotes contains rows q = true ->
    (ad ∈ boostingAds contains rows ads now q ↔ ad ∈ activeFeed ads now)
  displayed : ad.computedStatus now = .active ∨ ad.computedStatus now = .published ↔
    ad ∈ activeFeed ads now

/-- The campaign is live alike everywhere, and jobs that run at the time do not change it. -/
structure LiveThroughJobs (env : Env) (ads : List CampaignRow) (ad : CampaignRow) : Prop where
  now : LiveAlike ads env.now ad
  after : forall jobs,
    LiveAlike (ads.map fun other => other.afterJobs env jobs) env.now (ad.afterJobs env jobs) ∧
      (ad.afterJobs env jobs ∈ activeFeed (ads.map fun other => other.afterJobs env jobs) env.now ↔
        ad ∈ activeFeed ads env.now)

/-- The campaign is displayed as running although its window has not opened. -/
def CampaignRow.runsEarly (ad : CampaignRow) (now : Nat) : Bool :=
  ad.status ∈ [AdStatus.active, .published] && now < ad.startDate && now ≤ ad.endDate

def CampaignRow.endsNow (ad : CampaignRow) (now : Nat) : Bool :=
  ad.isLive now && ad.endDate = now

section

variable {env : Env} {ads : List CampaignRow} {ad : CampaignRow} {now : Nat}

theorem mem_activeFeed (h : ad ∈ ads) : ad ∈ activeFeed ads now ↔ ad.isLive now = true := by
  rw [activeFeed, List.mem_filter]
  exact and_iff_right h

theorem acceptsEvent_eq (ad : CampaignRow) (now : Nat) : ad.acceptsEvent now = ad.isLive now := by
  rw [Bool.eq_iff_iff, CampaignRow.acceptsEvent, CampaignRow.isLive]
  simp only [Bool.not_eq_true', Bool.or_eq_false_iff, Bool.not_eq_false', decide_eq_false_iff_not,
    Bool.and_eq_true, decide_eq_true_eq, not_lt]

theorem mem_boostingAds {contains : String -> String -> Bool} {rows : List BrowseRow}
    {q : BrowseQuery} (h : ad ∈ ads) (hpromotes : ad.promotes contains rows q = true) :
    ad ∈ boostingAds contains rows ads now q ↔ ad.isLive now = true := by
  unfold CampaignRow.promotes at hpromotes
  rw [Bool.and_eq_true, Bool.and_eq_true] at hpromotes
  obtain ⟨⟨htype, hskipped⟩, hlisting⟩ := hpromotes
  rw [boostingAds, activeAds, List.mem_filter, List.mem_filter, Bool.and_eq_true, Bool.and_eq_true]
  constructor
  · rintro ⟨⟨-, ⟨hlive, -⟩, -⟩, -⟩
    exact hlive
  · intro hlive
    exact ⟨⟨h, ⟨hlive, htype⟩, hlisting⟩, hskipped⟩

theorem displayed_iff (ad : CampaignRow) (now : Nat) :
    (ad.computedStatus now = .active ∨ ad.computedStatus now = .published) ↔
      ad.isLive now = true ∨ ad.runsEarly now = true := by
  unfold CampaignRow.computedStatus CampaignRow.isLive CampaignRow.runsEarly
  rcases lt_or_ge ad.endDate now with hend | hend
  · have hnot : ¬ now ≤ ad.endDate := Nat.not_le.mpr hend
    cases ad.status <;> simp [AdStatus.isUp, AdStatus.isActive, hend, hnot]
  · have hnot : ¬ ad.endDate < now := Nat.not_lt.mpr hend
    rcases lt_or_ge now ad.startDate with hstart | hstart
    · have hclosed : ¬ ad.startDate ≤ now := Nat.not_le.mpr hstart
      cases ad.status <;>
        simp [AdStatus.isUp, AdStatus.isActive, hend, hnot, hstart, hclosed]
    · have hopen : ¬ now < ad.startDate := Nat.not_lt.mpr hstart
      cases ad.status <;>
        simp [AdStatus.isUp, AdStatus.isActive, hend, hnot, hstart, hopen]

theorem not_live_of_runsEarly (h : ad.runsEarly now = true) : ad.isLive now = false := by
  unfold CampaignRow.runsEarly at h
  rw [Bool.and_eq_true, Bool.and_eq_true, decide_eq_true_eq, decide_eq_true_eq] at h
  unfold CampaignRow.isLive
  rw [decide_eq_false (Nat.not_le.mpr h.1.2), Bool.and_false, Bool.false_and]

theorem liveAlike_iff (h : ad ∈ ads) :
    LiveAlike ads now ad ↔ ad.runsEarly now = false := by
  constructor
  · intro halike
    by_contra hearly
    rw [Bool.not_eq_false] at hearly
    have hlive := (mem_activeFeed h).mp
      (halike.displayed.mp ((displayed_iff ad now).mpr (Or.inr hearly)))
    rw [not_live_of_runsEarly hearly] at hlive
    cases hlive
  · intro hearly
    refine ⟨?_, fun contains rows q hpromotes => ?_, ?_⟩
    · rw [acceptsEvent_eq, mem_activeFeed h]
    · rw [mem_boostingAds h hpromotes, mem_activeFeed h]
    · rw [displayed_iff, hearly, mem_activeFeed h]
      simp

/-! ## The jobs -/

theorem row_cases (env : Env) (job : AdJob) (row : Advertisement) :
    job.row env row = row ∨
      row.endDate ≤ env.now ∧ job.row env row = { row with status := .expired } ∨
      row.status = .scheduled ∧ row.startDate ≤ env.now ∧
        job.row env row = row.moved env .published := by
  cases job with
  | expire =>
      by_cases hdue : (row.status.isUp && decide (row.endDate ≤ env.now)) = true
      · have hend := (Bool.and_eq_true_iff.mp hdue).2
        exact Or.inr (Or.inl ⟨of_decide_eq_true hend, if_pos hdue⟩)
      · exact Or.inl (if_neg hdue)
  | activate =>
      by_cases hdue : (row.status = .scheduled && decide (row.startDate ≤ env.now) &&
          decide (env.now < row.endDate)) = true
      · have hopen := Bool.and_eq_true_iff.mp (Bool.and_eq_true_iff.mp hdue).1
        exact Or.inr (Or.inr
          ⟨of_decide_eq_true hopen.1, of_decide_eq_true hopen.2, if_pos hdue⟩)
      · exact Or.inl (if_neg hdue)

theorem row_runsEarly (job : AdJob) (h : ad.runsEarly env.now = false) :
    ({ ad with toAdvertisement := job.row env ad.toAdvertisement } : CampaignRow).runsEarly
      env.now = false := by
  rcases row_cases env job ad.toAdvertisement with hsame | ⟨-, hended⟩ | ⟨-, hstart, hmoved⟩
  · rw [hsame]
    exact h
  · rw [hended]
    rfl
  · have hopen : ¬ env.now < ad.startDate := Nat.not_lt.mpr hstart
    rw [hmoved]
    simp [CampaignRow.runsEarly, Advertisement.moved, hopen]

theorem row_isLive (job : AdJob) (h : ad.endsNow env.now = false) :
    ({ ad with toAdvertisement := job.row env ad.toAdvertisement } : CampaignRow).isLive
      env.now = ad.isLive env.now := by
  rcases row_cases env job ad.toAdvertisement with hsame | ⟨hend, hended⟩ | ⟨hscheduled, -, hmoved⟩
  · rw [hsame]
  · have hexpired : ad.isLive env.now = false := by
      by_contra hlive
      rw [Bool.not_eq_false] at hlive
      have hwindow := hlive
      unfold CampaignRow.isLive at hwindow
      rw [Bool.and_eq_true, decide_eq_true_eq] at hwindow
      have hends : ad.endDate = env.now := Nat.le_antisymm hend hwindow.2
      rw [CampaignRow.endsNow, hlive, hends] at h
      simp at h
    rw [hended, hexpired]
    rfl
  · rw [hmoved]
    simp [CampaignRow.isLive, Advertisement.moved, AdStatus.isActive, hscheduled]

theorem row_endDate (job : AdJob) (row : Advertisement) :
    (job.row env row).endDate = row.endDate := by
  rcases row_cases env job row with hsame | ⟨-, hended⟩ | ⟨-, -, hmoved⟩
  · rw [hsame]
  · rw [hended]
  · rw [hmoved]
    rfl

theorem row_endsNow (job : AdJob) (h : ad.endsNow env.now = false) :
    ({ ad with toAdvertisement := job.row env ad.toAdvertisement } : CampaignRow).endsNow
      env.now = false := by
  rw [CampaignRow.endsNow, row_isLive job h, row_endDate]
  exact h

theorem afterJobs_alike (jobs : List AdJob) (hearly : ad.runsEarly env.now = false)
    (hends : ad.endsNow env.now = false) :
    (ad.afterJobs env jobs).runsEarly env.now = false ∧
      (ad.afterJobs env jobs).isLive env.now = ad.isLive env.now := by
  induction jobs generalizing ad with
  | nil => exact ⟨hearly, rfl⟩
  | cons job jobs ih =>
      obtain ⟨hafter, hlive⟩ := ih (row_runsEarly job hearly) (row_endsNow job hends)
      exact ⟨hafter, hlive.trans (row_isLive job hends)⟩

end

/-- When every notion of a live campaign is the same and stays so when the jobs run. -/
theorem liveThroughJobs_iff (env : Env) (ads : List CampaignRow) (ad : CampaignRow)
    (h : ad ∈ ads) :
    LiveThroughJobs env ads ad ↔
      ad.runsEarly env.now = false ∧ ad.endsNow env.now = false := by
  have hmem : forall jobs, ad.afterJobs env jobs ∈ ads.map fun other => other.afterJobs env jobs :=
    fun jobs => List.mem_map_of_mem h
  constructor
  · intro hsame
    refine ⟨(liveAlike_iff h).mp hsame.now, ?_⟩
    by_contra hends
    rw [Bool.not_eq_false, CampaignRow.endsNow, Bool.and_eq_true, decide_eq_true_eq] at hends
    obtain ⟨hlive, hend⟩ := hends
    have hkept := ((hsame.after [.expire]).2.trans (mem_activeFeed h)).mpr hlive
    rw [mem_activeFeed (hmem _)] at hkept
    have hup : ad.status.isUp = true := by
      unfold CampaignRow.isLive at hlive
      rw [Bool.and_eq_true, Bool.and_eq_true] at hlive
      revert hlive
      cases ad.status <;> simp [AdStatus.isUp, AdStatus.isActive]
    have hexpired : (ad.afterJobs env [.expire]).status = .expired := by
      simp [CampaignRow.afterJobs, AdJob.row, hup, hend]
    rw [CampaignRow.isLive, hexpired] at hkept
    cases hkept
  · rintro ⟨hearly, hends⟩
    refine ⟨(liveAlike_iff h).mpr hearly, fun jobs => ?_⟩
    obtain ⟨hafter, hlive⟩ := afterJobs_alike jobs hearly hends
    refine ⟨(liveAlike_iff (hmem jobs)).mpr hafter, ?_⟩
    rw [mem_activeFeed (hmem jobs), mem_activeFeed h, hlive]

/-! ## A featured listing -/

def featuredFrom (startDate endDate : Nat) : CampaignRow :=
  { id := "wheat"
    listingId := some "wheat"
    type := .featuredListing
    status := .published
    startDate := startDate
    endDate := endDate }

theorem featured_liveThroughJobs :
    LiveThroughJobs { now := 50 } [featuredFrom 0 100] (featuredFrom 0 100) :=
  (liveThroughJobs_iff { now := 50 } [featuredFrom 0 100] (featuredFrom 0 100)
    List.mem_cons_self).mpr (by decide)

/-- The last instant of a campaign, and a campaign that is published before it starts. -/
theorem live_differs :
    ¬ LiveThroughJobs { now := 100 } [featuredFrom 0 100] (featuredFrom 0 100) ∧
      ¬ LiveThroughJobs { now := 50 } [featuredFrom 60 100] (featuredFrom 60 100) := by
  refine ⟨fun h => ?_, fun h => ?_⟩
  · have hkept := (h.after [.expire]).2
    revert hkept
    decide
  · have hdisplayed := h.now.displayed
    revert hdisplayed
    decide

end MarketBridge
