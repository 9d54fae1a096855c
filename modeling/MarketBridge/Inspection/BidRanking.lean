import MarketBridge.Schema.Rows
import MarketBridge.Ranking.Comparator

/-!
# Ranking the bids of an inspection

The requester sees the bids of a status together, those of reliable inspectors first, then
the cheaper ones, then the earlier ones.  Scores are exact; only their rounding is as in the
code.
-/

namespace MarketBridge

open Ranking

/-! ## Reliability -/

/-- The counters of an inspector. -/
structure InspectorReliability where
  noShows : Nat := 0
  lateArrivals : Nat := 0
  onTimeArrivals : Nat := 0
  reportsSubmitted : Nat := 0
  totalReportMinutes : Nat := 0
deriving DecidableEq, Repr

namespace InspectorReliability

def arrivals (stats : InspectorReliability) : Nat :=
  stats.onTimeArrivals + stats.lateArrivals + stats.noShows

def attendance (stats : InspectorReliability) : ℚ :=
  (stats.onTimeArrivals + 1 / 2 * stats.lateArrivals + 27 / 10) / (stats.arrivals + 3)

def avgHours (stats : InspectorReliability) : ℚ :=
  stats.totalReportMinutes / stats.reportsSubmitted / 60

/-- Target hours over average hours, clamped, where reports have been timed. -/
def speed (stats : InspectorReliability) (targetReportHours : ℚ) : ℚ :=
  if 0 < stats.reportsSubmitted ∧ 0 < stats.totalReportMinutes then
    min 1 (max (1 / 2) (targetReportHours / stats.avgHours))
  else
    9 / 10

/-- `reliabilityScore` before it is rounded. -/
def exactScore (stats : InspectorReliability) (targetReportHours : ℚ := 24) : ℚ :=
  100 * (7 / 10 * stats.attendance + 3 / 10 * stats.speed targetReportHours)

/-- `Math.round`. -/
def roundToInt (x : ℚ) : ℤ :=
  ⌊x + 1 / 2⌋

def reliabilityScore (stats : InspectorReliability) (targetReportHours : ℚ := 24) : ℤ :=
  roundToInt (stats.exactScore targetReportHours)

end InspectorReliability

inductive ReliabilityTier where
  | new
  | highlyReliable
  | reliable
  | needsImprovement
deriving DecidableEq, Repr

structure ReliabilitySummary where
  score : ℤ
  tier : ReliabilityTier
  noShows : Nat
  lateArrivals : Nat
  onTimeArrivals : Nat
  reportsSubmitted : Nat
  avgReportHours : Option ℚ
deriving DecidableEq, Repr

/-- An inspector without a row has the counters of a new one. -/
def reliabilitySummary (row : Option InspectorReliability) : ReliabilitySummary :=
  let stats := row.getD {}
  let score := stats.reliabilityScore
  { score := score
    tier :=
      if stats.arrivals + stats.reportsSubmitted < 3 then .new
      else if 85 ≤ score then .highlyReliable
      else if score < 70 then .needsImprovement
      else .reliable
    noShows := stats.noShows
    lateArrivals := stats.lateArrivals
    onTimeArrivals := stats.onTimeArrivals
    reportsSubmitted := stats.reportsSubmitted
    avgReportHours :=
      if 0 < stats.reportsSubmitted ∧ 0 < stats.totalReportMinutes then
        some (InspectorReliability.roundToInt (stats.avgHours * 10) / 10)
      else
        none }

/-! ## Bids -/

/-- A quote as the comparison reads it; times are milliseconds. -/
structure Bid where
  id : Id
  inspectorId : Id
  status : InspectionQuoteStatus
  amount : Option ℚ
  createdAt : Option ℤ
  reliability : Option ReliabilitySummary := none
deriving DecidableEq, Repr

namespace Bid

/-- `reliability?.score ?? 0`. -/
def score (q : Bid) : ℚ :=
  ((q.reliability.map (·.score)).getD 0 : ℤ)

def fee (q : Bid) : ℚ :=
  q.amount.getD 0

def time (q : Bid) : ℚ :=
  (q.createdAt.getD 0 : ℤ)

def isPending (q : Bid) : Bool :=
  q.status = .pending

end Bid

def compareBids : Comparator Bid := fun a b =>
  let byScore := b.score - a.score
  if byScore ≠ 0 then byScore
  else
    let byFee := a.fee - b.fee
    if byFee ≠ 0 then byFee else a.time - b.time

/-! ## The list of a request -/

structure RankedBid where
  bid : Bid
  rank : Option Nat
deriving DecidableEq, Repr

def withReliability (statsOf : Id -> Option InspectorReliability) (q : Bid) : Bid :=
  { q with reliability := some (reliabilitySummary (statsOf q.inspectorId)) }

def statusesOf (quotes : List Bid) : List InspectionQuoteStatus :=
  quotes.foldl (fun seen q => if q.status ∈ seen then seen else seen ++ [q.status]) []

def statusRank (quotes : List Bid) (status : InspectionQuoteStatus) : Nat :=
  (statusesOf quotes).idxOf status

def compareRanked (quotes : List Bid) : Comparator Bid :=
  thenBy (byKey fun q => statusRank quotes q.status) compareBids

/-- Only pending bids are numbered. -/
def numbered (pendingRank : Nat) : List Bid -> List RankedBid
  | [] => []
  | q :: quotes =>
      if q.isPending then
        { bid := q
          rank := some (pendingRank + 1) } :: numbered (pendingRank + 1) quotes
      else
        { bid := q
          rank := none } :: numbered pendingRank quotes

/-- `GET /inspections/:id/quotes`, of the quotes in the order that the database gives them. -/
def rankQuotes (statsOf : Id -> Option InspectorReliability) (quotes : List Bid) :
    List RankedBid :=
  numbered 0 (sorted (compareRanked quotes) (quotes.map (withReliability statsOf)))

/-! ## Statements -/

/-- What a score of the counters has to do. -/
structure IsScore (score : InspectorReliability -> ℚ) : Prop where
  bounds : forall stats, 0 ≤ score stats ∧ score stats ≤ 100
  late : forall stats : InspectorReliability, 0 < stats.noShows ->
    score stats ≤ score { stats with
      noShows := stats.noShows - 1
      lateArrivals := stats.lateArrivals + 1 }
  onTime : forall stats : InspectorReliability, 0 < stats.lateArrivals ->
    score stats ≤ score { stats with
      lateArrivals := stats.lateArrivals - 1
      onTimeArrivals := stats.onTimeArrivals + 1 }

def SlowsWith (score : InspectorReliability -> ℚ) (stats : InspectorReliability) : Prop :=
  forall more : Nat,
    score { stats with totalReportMinutes := stats.totalReportMinutes + more } ≤ score stats

/-- Report time has been recorded, or there is no report that it could belong to. -/
def InspectorReliability.isTimed (stats : InspectorReliability) : Bool :=
  stats.reportsSubmitted = 0 || 0 < stats.totalReportMinutes

def Grouped {α : Type} (xs : List α) : Prop :=
  forall before between after a, xs = before ++ a :: (between ++ a :: after) ->
    forall b, b ∈ between -> b = a

/-- The list that the requester is shown of his quotes. -/
structure IsRanking (quotes : List Bid) (ranked : List RankedBid) : Prop where
  perm : (ranked.map (·.bid)).Perm quotes
  grouped : Grouped (ranked.map (·.bid.status))
  ranks : (ranked.filter (·.bid.isPending)).map (·.rank) =
    (List.range (ranked.filter (·.bid.isPending)).length).map fun k => some (k + 1)
  unranked : forall r, r ∈ ranked -> r.bid.isPending = false -> r.rank = none
  ordered : ranked.Pairwise fun a b =>
    a.bid.status = b.bid.status -> compareBids a.bid b.bid ≤ 0

/-! ## Scores -/

namespace InspectorReliability

variable (stats : InspectorReliability)

theorem attendance_bounds : 0 ≤ stats.attendance ∧ stats.attendance ≤ 1 := by
  have hlate : (0 : ℚ) ≤ stats.lateArrivals := Nat.cast_nonneg _
  have honTime : (0 : ℚ) ≤ stats.onTimeArrivals := Nat.cast_nonneg _
  have hnoShows : (0 : ℚ) ≤ stats.noShows := Nat.cast_nonneg _
  unfold attendance arrivals
  push_cast
  refine ⟨by positivity, ?_⟩
  rw [div_le_one (by positivity)]
  linarith

theorem speed_bounds (targetReportHours : ℚ) :
    1 / 2 ≤ stats.speed targetReportHours ∧ stats.speed targetReportHours ≤ 1 := by
  unfold speed
  split
  · exact ⟨le_min (by norm_num) (le_max_left _ _), min_le_left _ _⟩
  · norm_num

variable {stats : InspectorReliability}

theorem speed_antitone (htimed : stats.isTimed = true) (more : Nat) :
    speed { stats with totalReportMinutes := stats.totalReportMinutes + more } 24 ≤
      stats.speed 24 := by
  unfold isTimed at htimed
  rw [Bool.or_eq_true, decide_eq_true_eq, decide_eq_true_eq] at htimed
  unfold speed
  dsimp only
  rcases htimed with hnone | htimed
  · rw [if_neg (by omega), if_neg (by omega)]
  · by_cases hreports : 0 < stats.reportsSubmitted
    · rw [if_pos ⟨hreports, by omega⟩, if_pos ⟨hreports, htimed⟩]
      refine min_le_min le_rfl (max_le_max le_rfl ?_)
      have hreports' : (0 : ℚ) < stats.reportsSubmitted := Nat.cast_pos.2 hreports
      have htimed' : (0 : ℚ) < stats.totalReportMinutes := Nat.cast_pos.2 htimed
      unfold avgHours
      dsimp only
      gcongr
      exact Nat.le_add_right _ _
    · rw [if_neg (by omega), if_neg (by omega)]

theorem exactScore_mono {stats' : InspectorReliability}
    (hreports : stats'.reportsSubmitted = stats.reportsSubmitted)
    (htotal : stats'.totalReportMinutes = stats.totalReportMinutes)
    (hattendance : stats.attendance ≤ stats'.attendance) :
    stats.exactScore ≤ stats'.exactScore := by
  have hspeed : stats'.speed 24 = stats.speed 24 := by
    unfold speed avgHours
    rw [hreports, htotal]
  unfold exactScore
  rw [hspeed]
  linarith

theorem exactScore_isScore : IsScore fun stats => stats.exactScore where
  bounds stats := by
    obtain ⟨hattendance, hattendance'⟩ := stats.attendance_bounds
    obtain ⟨hspeed, hspeed'⟩ := stats.speed_bounds 24
    unfold exactScore
    constructor <;> linarith
  late stats hnoShows := by
    refine exactScore_mono rfl rfl ?_
    unfold attendance arrivals
    have harrivals : stats.onTimeArrivals + (stats.lateArrivals + 1) + (stats.noShows - 1) =
        stats.onTimeArrivals + stats.lateArrivals + stats.noShows := by omega
    dsimp only
    rw [harrivals]
    gcongr
    exact Nat.le_succ _
  onTime stats hlate := by
    refine exactScore_mono rfl rfl ?_
    unfold attendance arrivals
    have harrivals : stats.onTimeArrivals + 1 + (stats.lateArrivals - 1) + stats.noShows =
        stats.onTimeArrivals + stats.lateArrivals + stats.noShows := by omega
    have hlate' : ((stats.lateArrivals - 1 : Nat) : ℚ) = stats.lateArrivals - 1 :=
      Nat.cast_pred hlate
    dsimp only
    rw [harrivals, hlate']
    gcongr ?_ / _
    push_cast
    linarith

theorem exactScore_slowsWith (htimed : stats.isTimed = true) :
    SlowsWith (fun stats => stats.exactScore) stats := by
  intro more
  have hspeed := speed_antitone htimed more
  have hattendance : attendance
      { stats with totalReportMinutes := stats.totalReportMinutes + more } = stats.attendance := rfl
  unfold exactScore
  dsimp only
  rw [hattendance]
  linarith

end InspectorReliability

/-! ## The comparison -/

theorem compareBids_eq :
    compareBids =
      thenBy (byKey fun q => -q.score) (thenBy (byKey Bid.fee) (byKey Bid.time)) := by
  funext a b
  have hscore : -a.score - -b.score = b.score - a.score := by ring
  unfold compareBids thenBy byKey
  dsimp only
  rw [hscore]
  by_cases hzero : b.score - a.score = 0
  · rw [if_neg (not_not.2 hzero), if_pos hzero]
    by_cases hzero' : a.fee - b.fee = 0
    · rw [if_neg (not_not.2 hzero'), if_pos hzero']
    · rw [if_pos hzero', if_neg hzero']
  · rw [if_pos hzero, if_neg hzero]

theorem compareBids_isComparator : IsComparator compareBids := by
  rw [compareBids_eq]
  exact thenBy_isComparator (byKey_isComparator _)
    (thenBy_isComparator (byKey_isComparator _) (byKey_isComparator _))

theorem compareRanked_isComparator (quotes : List Bid) : IsComparator (compareRanked quotes) :=
  thenBy_isComparator (byKey_isComparator _) compareBids_isComparator

/-! ## The statuses -/

theorem mem_foldl_statuses {quotes : List Bid} {seen : List InspectionQuoteStatus}
    {status : InspectionQuoteStatus}
    (h : status ∈ seen ∨ exists q, q ∈ quotes ∧ q.status = status) :
    status ∈
      quotes.foldl (fun seen q => if q.status ∈ seen then seen else seen ++ [q.status]) seen := by
  induction quotes generalizing seen with
  | nil =>
      obtain hseen | ⟨q, hq, -⟩ := h
      · exact hseen
      · cases hq
  | cons first quotes ih =>
      refine ih ?_
      obtain hseen | ⟨q, hq, hstatus⟩ := h
      · left
        dsimp only
        split
        · exact hseen
        · exact List.mem_append_left _ hseen
      · obtain rfl | hq := List.mem_cons.1 hq
        · left
          rw [← hstatus]
          dsimp only
          split
          · assumption
          · exact List.mem_append_right _ (List.mem_singleton_self _)
        · exact Or.inr ⟨q, hq, hstatus⟩

theorem statusRank_inj {quotes : List Bid} {q : Bid} (hq : q ∈ quotes)
    {status : InspectionQuoteStatus} (h : statusRank quotes q.status = statusRank quotes status) :
    q.status = status :=
  (List.idxOf_inj (mem_foldl_statuses (Or.inr ⟨q, hq, rfl⟩))).1 h

/-! ## Numbering -/

theorem numbered_map_bid (pendingRank : Nat) (quotes : List Bid) :
    (numbered pendingRank quotes).map (·.bid) = quotes := by
  induction quotes generalizing pendingRank with
  | nil => rfl
  | cons q quotes ih =>
      rw [numbered]
      split
      · rw [List.map_cons, ih]
      · rw [List.map_cons, ih]

theorem numbered_unranked (pendingRank : Nat) (quotes : List Bid) :
    forall r, r ∈ numbered pendingRank quotes -> r.bid.isPending = false -> r.rank = none := by
  induction quotes generalizing pendingRank with
  | nil => exact fun r hr => absurd hr List.not_mem_nil
  | cons q quotes ih =>
      rw [numbered]
      split
      · rename_i hpending
        rw [List.forall_mem_cons]
        refine ⟨fun hother => ?_, ih (pendingRank + 1)⟩
        rw [hpending] at hother
        cases hother
      · rw [List.forall_mem_cons]
        exact ⟨fun _ => rfl, ih pendingRank⟩

theorem numbered_ranks (pendingRank : Nat) (quotes : List Bid) :
    ((numbered pendingRank quotes).filter (·.bid.isPending)).map (·.rank) =
      (List.range ((numbered pendingRank quotes).filter (·.bid.isPending)).length).map
        fun k => some (pendingRank + k + 1) := by
  induction quotes generalizing pendingRank with
  | nil => rfl
  | cons q quotes ih =>
      rw [numbered]
      split
      · rename_i hpending
        rw [List.filter_cons_of_pos (by exact hpending), List.map_cons, ih, List.length_cons,
          List.range_succ_eq_map, List.map_cons, List.map_map]
        refine congrArg _ (List.map_congr_left fun k _ => ?_)
        exact congrArg some (by omega)
      · rename_i hother
        rw [List.filter_cons_of_neg (by exact hother), ih]

/-! ## The order -/

theorem grouped_of_pairwise {α : Type} {rank : α -> ℚ} {xs : List α}
    (h : xs.Pairwise fun a b => rank a ≤ rank b)
    (hinj : forall a, a ∈ xs -> forall b, b ∈ xs -> rank a = rank b -> a = b) :
    Grouped xs := by
  rintro before between after a rfl b hb
  have hinner : (a :: (between ++ a :: after)).Pairwise fun a b => rank a ≤ rank b :=
    (List.pairwise_append.1 h).2.1
  obtain ⟨hfirst, hrest⟩ := List.pairwise_cons.1 hinner
  have hab : rank a ≤ rank b := hfirst b (List.mem_append_left _ hb)
  have hba : rank b ≤ rank a :=
    (List.pairwise_append.1 hrest).2.2 b hb a (List.mem_cons_self ..)
  exact hinj b (by simp [hb]) a (by simp) (le_antisymm hba hab)

theorem rankQuotes_isRanking (statsOf : Id -> Option InspectorReliability) (quotes : List Bid) :
    IsRanking (quotes.map (withReliability statsOf)) (rankQuotes statsOf quotes) := by
  have hbids : (rankQuotes statsOf quotes).map (·.bid) =
      sorted (compareRanked quotes) (quotes.map (withReliability statsOf)) :=
    numbered_map_bid 0 _
  have hsorted : ((rankQuotes statsOf quotes).map (·.bid)).Pairwise fun a b =>
      compareRanked quotes a b ≤ 0 := by
    rw [hbids]
    exact sorted_pairwise (compareRanked_isComparator quotes) _
  rw [List.pairwise_map] at hsorted
  have hstatus : forall r, r ∈ rankQuotes statsOf quotes ->
      exists q, q ∈ quotes ∧ q.status = r.bid.status := by
    intro r hr
    have hbid := List.mem_map_of_mem (f := (·.bid)) hr
    rw [hbids, mem_sorted] at hbid
    obtain ⟨q, hq, heq⟩ := List.mem_map.1 hbid
    have hsame : (withReliability statsOf q).status = r.bid.status := congrArg Bid.status heq
    exact ⟨q, hq, hsame⟩
  refine ⟨hbids ▸ sorted_perm _ _, ?_, ?_, numbered_unranked 0 _, ?_⟩
  · refine @grouped_of_pairwise _ (fun status => (statusRank quotes status : ℚ)) _ ?_ ?_
    · rw [List.pairwise_map]
      refine hsorted.imp fun {a b} hle => ?_
      rcases thenBy_le_iff.1 hle with hlt | ⟨heq, -⟩
      · exact (sub_neg.1 hlt).le
      · exact (sub_eq_zero.1 heq).le
    · simp only [List.forall_mem_map]
      intro r hr r' hr' heq
      obtain ⟨q, hq, hqr⟩ := hstatus r hr
      rw [← hqr] at heq ⊢
      exact statusRank_inj hq (Nat.cast_injective heq)
  · rw [show rankQuotes statsOf quotes = numbered 0 _ from rfl, numbered_ranks]
    simp only [Nat.zero_add]
  · refine hsorted.imp fun {a b} hle hsame => ?_
    rcases thenBy_le_iff.1 hle with hlt | ⟨-, hle⟩
    · unfold byKey at hlt
      dsimp only at hlt
      rw [hsame, sub_self] at hlt
      exact absurd hlt (lt_irrefl 0)
    · exact hle

/--
Scores are bounded and follow the attendance; they fall with the report time, once some is
recorded; and the bids are put in the order of a total preorder.
-/
theorem bidRanking_sound :
    (IsScore fun stats => stats.exactScore) ∧
    (forall stats : InspectorReliability, stats.isTimed = true ->
      SlowsWith (fun stats => stats.exactScore) stats) ∧
    IsComparator compareBids ∧
    forall statsOf quotes,
      IsRanking (quotes.map (withReliability statsOf)) (rankQuotes statsOf quotes) :=
  ⟨InspectorReliability.exactScore_isScore,
    fun _ => InspectorReliability.exactScore_slowsWith, compareBids_isComparator,
    rankQuotes_isRanking⟩

/-- A second hour makes one report slower, not faster. -/
theorem second_hour_lowers :
    SlowsWith (fun stats => stats.exactScore) { reportsSubmitted := 1, totalReportMinutes := 60 } :=
  bidRanking_sound.2.1 { reportsSubmitted := 1, totalReportMinutes := 60 } (by decide)

/-- One report without a time scores 90, one of an hour scores 93. -/
theorem first_report_time_raises :
    ¬ forall stats : InspectorReliability, SlowsWith (fun stats => stats.exactScore) stats := by
  intro h
  have hraised := h { reportsSubmitted := 1 } 60
  norm_num [InspectorReliability.exactScore, InspectorReliability.attendance,
    InspectorReliability.arrivals, InspectorReliability.speed,
    InspectorReliability.avgHours] at hraised

end MarketBridge
