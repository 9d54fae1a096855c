import MarketBridge.Inspection.VisitWindow

/-!
# The earliest common interval

The agreed window is a common interval of the parties that starts first, as long as times
are times of day: a slot may be stored with hours up to 99.
-/

namespace MarketBridge

open Ranking Text

/-! ## Common intervals -/

def moment (d : Day) (minute : Nat) : ℕ ×ₗ ℕ :=
  toLex (d.number, minute)

namespace InspectionAvailability

/-- The slots of a seller and an inspector have a time in common. -/
structure Meets (s i : InspectionAvailability) : Prop where
  seller : s.party = .seller
  inspector : i.party = .inspector
  date : s.date = i.date
  nonempty : max s.start i.start < min s.stop i.stop

instance (s i : InspectionAvailability) : Decidable (s.Meets i) :=
  decidable_of_iff (s.party = .seller ∧ i.party = .inspector ∧ s.date = i.date ∧
      max s.start i.start < min s.stop i.stop)
    ⟨fun h => ⟨h.1, h.2.1, h.2.2.1, h.2.2.2⟩, fun h => ⟨h.1, h.2, h.3, h.4⟩⟩

theorem Meets.start_lt {s i : InspectionAvailability} (h : s.Meets i) :
    max s.start i.start < 6040 := by
  have hnonempty := h.nonempty
  have hbound := s.stop_lt
  omega

def meeting (s i : InspectionAvailability) : ℕ ×ₗ ℕ :=
  moment s.date (max s.start i.start)

/-- An interval of a day lies inside the slot. -/
structure Covers (a : InspectionAvailability) (d : Day) (start stop : Nat) : Prop where
  date : a.date = d
  start_le : a.start ≤ start
  le_stop : stop ≤ a.stop

end InspectionAvailability

/-- The window is printed for a nonempty interval of a day. -/
structure VisitWindow.Spans (window : VisitWindow) (d : Day) (start stop : Nat) : Prop where
  date : window.date = isoDate d
  startTime : window.startTime = hhmm start
  endTime : window.endTime = hhmm stop
  nonempty : start < stop
  bound : stop < 6040

/-! ## Statement -/

/-- The window is the earliest one that the parties have in common. -/
structure AgreedWindow (slots : List InspectionAvailability) : Prop where
  null_iff : scheduledWindow slots = none ↔
    forall s i, s ∈ slots -> i ∈ slots -> ¬s.Meets i
  inside : forall window, scheduledWindow slots = some window ->
    exists d start stop, window.Spans d start stop ∧
      (exists s, s ∈ slots ∧ s.party = .seller ∧ s.Covers d start stop) ∧
      exists i, i ∈ slots ∧ i.party = .inspector ∧ i.Covers d start stop
  earliest : forall window d start stop, scheduledWindow slots = some window ->
    window.Spans d start stop -> forall s i, s ∈ slots -> i ∈ slots -> s.Meets i ->
      moment d start ≤ s.meeting i
  order : forall slots', slots.Perm slots' ->
    (scheduledWindow slots').map (fun window => (window.date, window.startTime)) =
      (scheduledWindow slots).map fun window => (window.date, window.startTime)
  adding : forall slot slots', (slot :: slots).Perm slots' ->
    forall window d start stop, scheduledWindow slots = some window ->
      window.Spans d start stop ->
        exists window' d' start' stop', scheduledWindow slots' = some window' ∧
          window'.Spans d' start' stop' ∧ moment d' start' ≤ moment d start
  instant : forall window, scheduledWindow slots = some window ->
    (windowEnd window).isSome = true

def IsEarliest (slots : List InspectionAvailability) (s i : InspectionAvailability) : Prop :=
  forall s' i', s' ∈ slots -> i' ∈ slots -> s'.Meets i' -> s.meeting i ≤ s'.meeting i'

/--
Every common interval that starts first ends by 24:00, and it starts before 10:00 or no slot
of its day reaches beyond 100:00.
-/
def ClockTimes (slots : List InspectionAvailability) : Prop :=
  forall s i, s ∈ slots -> i ∈ slots -> s.Meets i -> IsEarliest slots s i ->
    min s.stop i.stop ≤ 1440 ∧
      (max s.start i.start < 600 ∨
        forall slot, slot ∈ slots -> slot.date = s.date -> slot.stop ≤ 6000)

/-! ## Candidates -/

def meetingWindow (s i : InspectionAvailability) : VisitWindow where
  date := isoDate s.date
  startTime := hhmm (max s.start i.start)
  endTime := hhmm (min s.stop i.stop)

variable {i s : InspectionAvailability} {slots slots' : List InspectionAvailability}

theorem meetingWindow_spans (h : s.Meets i) :
    (meetingWindow s i).Spans s.date (max s.start i.start) (min s.stop i.stop) :=
  ⟨rfl, rfl, rfl, h.nonempty, (min_le_left _ _).trans_lt s.stop_lt⟩

theorem candidate_eq (hs : s.party = .seller) (hi : i.party = .inspector) :
    candidate s i = if s.Meets i then some (meetingWindow s i) else none := by
  unfold candidate
  dsimp only
  by_cases hdate : s.date = i.date
  · rw [if_neg (by rw [hdate]; exact not_not.2 rfl)]
    have hstart :
        max (Int.ofNat s.start) (Int.ofNat i.start) = Int.ofNat (max s.start i.start) := by
      simp only [Int.ofNat_eq_natCast]
      omega
    have hstop : min (Int.ofNat s.stop) (Int.ofNat i.stop) = Int.ofNat (min s.stop i.stop) := by
      simp only [Int.ofNat_eq_natCast]
      omega
    simp only [s.minutes_startTime, i.minutes_startTime, s.minutes_endTime, i.minutes_endTime,
      Option.map_some, Option.getD_some, hstart, hstop]
    by_cases hlt : max s.start i.start < min s.stop i.stop
    · have hkept : ¬(Int.ofNat (max s.start i.start) < 0 ∨
          Int.ofNat (min s.stop i.stop) ≤ Int.ofNat (max s.start i.start)) := by
        simp only [Int.ofNat_eq_natCast]
        omega
      rw [if_neg hkept, if_pos ⟨hs, hi, hdate, hlt⟩]
      rfl
    · have hskipped : Int.ofNat (min s.stop i.stop) ≤ Int.ofNat (max s.start i.start) := by
        simp only [Int.ofNat_eq_natCast]
        omega
      rw [if_pos (Or.inr hskipped), if_neg fun h => hlt h.nonempty]
  · rw [if_pos fun h => hdate (isoDate_inj h), if_neg fun h => hdate h.date]

def candidates (slots : List InspectionAvailability) : List VisitWindow :=
  (slots.filter (·.party = .seller)).flatMap fun s =>
    (slots.filter (·.party = .inspector)).filterMap (candidate s)

theorem foldl_consider (s : InspectionAvailability) (inspectors : List InspectionAvailability)
    (best : Option VisitWindow) :
    inspectors.foldl (consider s) best =
      (inspectors.filterMap (candidate s)).foldl (keepLeast VisitWindow.startText) best := by
  induction inspectors generalizing best with
  | nil => rfl
  | cons i inspectors ih =>
      rw [List.foldl_cons, ih]
      unfold consider
      cases hi : candidate s i with
      | none => rw [List.filterMap_cons_none hi]
      | some window => rw [List.filterMap_cons_some hi, List.foldl_cons]

theorem scheduledWindow_eq (slots : List InspectionAvailability) :
    scheduledWindow slots = firstLeast VisitWindow.startText (candidates slots) := by
  unfold scheduledWindow firstLeast candidates
  dsimp only
  rw [List.foldl_flatMap]
  simp only [foldl_consider]

theorem mem_candidates {window : VisitWindow} :
    window ∈ candidates slots ↔
      exists s i, s ∈ slots ∧ i ∈ slots ∧ s.Meets i ∧ window = meetingWindow s i := by
  unfold candidates
  simp only [List.mem_flatMap, List.mem_filterMap, List.mem_filter, decide_eq_true_eq]
  constructor
  · rintro ⟨s, ⟨hs, hseller⟩, i, ⟨hi, hinspector⟩, hwindow⟩
    rw [candidate_eq hseller hinspector] at hwindow
    split at hwindow
    · rename_i hmeets
      exact ⟨s, i, hs, hi, hmeets, (Option.some.inj hwindow).symm⟩
    · cases hwindow
  · rintro ⟨s, i, hs, hi, hmeets, rfl⟩
    refine ⟨s, ⟨hs, hmeets.seller⟩, i, ⟨hi, hmeets.inspector⟩, ?_⟩
    rw [candidate_eq hmeets.seller hmeets.inspector, if_pos hmeets]

/-! ## Printed order -/

def printed (d : Day) (minute : Nat) : ℕ ×ₗ ℕ :=
  toLex (d.number, printedRank minute)

theorem printedRank_inj {m n : Nat} (hm : m < 6040) (hn : n < 6040)
    (h : printedRank m = printedRank n) : m = n := by
  unfold printedRank at h
  split_ifs at h <;> omega

theorem le_of_printedRank_le {m n : Nat} (hn : n < 1440) (hm : n < 600 ∨ m < 6000)
    (h : printedRank m ≤ printedRank n) : m ≤ n := by
  unfold printedRank at h
  split_ifs at h <;> omega

namespace VisitWindow.Spans

variable {window window' : VisitWindow} {d d' : Day} {start start' stop stop' : Nat}

theorem startText_lt_iff (h : window.Spans d start stop) (h' : window'.Spans d' start' stop') :
    window.startText < window'.startText ↔ printed d start < printed d' start' := by
  have hstart : start < 6060 := by have := h.nonempty; have := h.bound; omega
  have hstart' : start' < 6060 := by have := h'.nonempty; have := h'.bound; omega
  have hsame : (isoDate d).toList = (isoDate d').toList ↔ d.number = d'.number := by
    constructor
    · intro hdates
      rw [isoDate_inj (String.toList_injective hdates)]
    · intro hnumbers
      rw [Day.number_inj hnumbers]
  unfold VisitWindow.startText printed
  rw [h.date, h'.date, h.startTime, h'.startTime, String.lt_iff_toList_lt, Prod.Lex.toLex_lt_toLex]
  simp only [String.toList_append, List.append_assoc]
  rw [append_lt_append_iff ((length_isoDate d).trans (length_isoDate d').symm),
    append_lt_append_iff rfl, isoDate_lt_iff, hsame, hhmm_lt_iff hstart hstart']
  simp only [lt_irrefl, false_or, true_and]

theorem startText_le_iff (h : window.Spans d start stop) (h' : window'.Spans d' start' stop') :
    window.startText ≤ window'.startText ↔ printed d start ≤ printed d' start' := by
  rw [← not_lt, ← not_lt, h'.startText_lt_iff h]

theorem unique (h : window.Spans d start stop) (h' : window.Spans d' start' stop') :
    d = d' ∧ start = start' ∧ stop = stop' := by
  have hbound := h.bound
  have hbound' := h'.bound
  have hlt := h.nonempty
  have hlt' := h'.nonempty
  exact ⟨isoDate_inj (h.date.symm.trans h'.date),
    hhmm_inj (by omega) (by omega) (h.startTime.symm.trans h'.startTime),
    hhmm_inj (by omega) (by omega) (h.endTime.symm.trans h'.endTime)⟩

theorem windowEnd_isSome_iff (h : window.Spans d start stop) :
    (windowEnd window).isSome = true ↔ stop ≤ 1440 := by
  have hbound := h.bound
  unfold windowEnd
  rw [h.date, h.endTime, readDay_isoDate, readTimeOfDay_hhmm (by omega)]
  split_ifs with hstop
  · simp [hstop]
  · simp [hstop]

end VisitWindow.Spans

/-! ## The result of a scan -/

theorem scheduledWindow_eq_none_iff :
    scheduledWindow slots = none ↔ forall s i, s ∈ slots -> i ∈ slots -> ¬s.Meets i := by
  rw [scheduledWindow_eq, firstLeast_eq_none_iff, List.eq_nil_iff_forall_not_mem]
  constructor
  · intro h s i hs hi hmeets
    exact h (meetingWindow s i) (mem_candidates.2 ⟨s, i, hs, hi, hmeets, rfl⟩)
  · intro h window hwindow
    obtain ⟨s, i, hs, hi, hmeets, -⟩ := mem_candidates.1 hwindow
    exact h s i hs hi hmeets

def IsPrintedFirst (slots : List InspectionAvailability) (s i : InspectionAvailability) : Prop :=
  forall s' i', s' ∈ slots -> i' ∈ slots -> s'.Meets i' ->
    printed s.date (max s.start i.start) ≤ printed s'.date (max s'.start i'.start)

theorem scheduledWindow_eq_some {window : VisitWindow} (h : scheduledWindow slots = some window) :
    exists s i, s ∈ slots ∧ i ∈ slots ∧ s.Meets i ∧ window = meetingWindow s i ∧
      IsPrintedFirst slots s i := by
  rw [scheduledWindow_eq] at h
  obtain ⟨hmem, hleast⟩ := firstLeast_spec h
  obtain ⟨s, i, hs, hi, hmeets, rfl⟩ := mem_candidates.1 hmem
  refine ⟨s, i, hs, hi, hmeets, rfl, fun s' i' hs' hi' hmeets' => ?_⟩
  rw [← (meetingWindow_spans hmeets).startText_le_iff (meetingWindow_spans hmeets')]
  exact hleast _ (mem_candidates.2 ⟨s', i', hs', hi', hmeets', rfl⟩)

theorem exists_perm_scheduledWindow (hs : s ∈ slots) (hi : i ∈ slots) (hmeets : s.Meets i)
    (hfirst : IsPrintedFirst slots s i) :
    exists slots', slots.Perm slots' ∧ scheduledWindow slots' = some (meetingWindow s i) := by
  have hne : i ≠ s := by
    rintro rfl
    have hparty := hmeets.seller.symm.trans hmeets.inspector
    cases hparty
  have hi' : i ∈ slots.erase s := (List.mem_erase_of_ne hne).2 hi
  have hperm : slots.Perm (s :: i :: (slots.erase s).erase i) :=
    (List.perm_cons_erase hs).trans ((List.perm_cons_erase hi').cons s)
  refine ⟨_, hperm, ?_⟩
  have hcandidate : candidate s i = some (meetingWindow s i) := by
    rw [candidate_eq hmeets.seller hmeets.inspector, if_pos hmeets]
  have hscan : exists windows, candidates (s :: i :: (slots.erase s).erase i) =
      meetingWindow s i :: windows := by
    unfold candidates
    simp only [List.filter_cons, hmeets.seller, hmeets.inspector, decide_true, if_true,
      reduceCtorEq, decide_false, Bool.false_eq_true, if_false, List.flatMap_cons]
    rw [List.filterMap_cons_some hcandidate, List.cons_append]
    exact ⟨_, rfl⟩
  obtain ⟨windows, hwindows⟩ := hscan
  rw [scheduledWindow_eq, hwindows]
  refine firstLeast_cons fun window hwindow => ?_
  obtain ⟨s', i', hs', hi', hmeets', rfl⟩ :=
    mem_candidates.1 (hwindows ▸ List.mem_cons_of_mem _ hwindow)
  rw [(meetingWindow_spans hmeets).startText_le_iff (meetingWindow_spans hmeets')]
  exact hfirst s' i' (hperm.mem_iff.2 hs') (hperm.mem_iff.2 hi') hmeets'

theorem scheduledWindow_start_of_perm (h : slots.Perm slots') :
    (scheduledWindow slots').map (fun window => (window.date, window.startTime)) =
      (scheduledWindow slots).map fun window => (window.date, window.startTime) := by
  cases hwindow : scheduledWindow slots with
  | none =>
      have hnone : scheduledWindow slots' = none := by
        rw [scheduledWindow_eq_none_iff] at hwindow ⊢
        exact fun s i hs hi => hwindow s i (h.mem_iff.2 hs) (h.mem_iff.2 hi)
      rw [hnone]
  | some window =>
      obtain ⟨s, i, hs, hi, hmeets, rfl, hfirst⟩ := scheduledWindow_eq_some hwindow
      cases hwindow' : scheduledWindow slots' with
      | none =>
          exact absurd hmeets (scheduledWindow_eq_none_iff.1 hwindow' s i (h.mem_iff.1 hs)
            (h.mem_iff.1 hi))
      | some window' =>
          obtain ⟨s', i', hs', hi', hmeets', rfl, hfirst'⟩ := scheduledWindow_eq_some hwindow'
          have hle := hfirst s' i' (h.mem_iff.2 hs') (h.mem_iff.2 hi') hmeets'
          have hge := hfirst' s i (h.mem_iff.1 hs) (h.mem_iff.1 hi) hmeets
          have hsame := toLex.injective (le_antisymm hle hge)
          rw [Prod.mk.injEq] at hsame
          have hstart := printedRank_inj (hmeets.start_lt) (hmeets'.start_lt) hsame.2
          simp only [Option.map_some, meetingWindow, hstart, Day.number_inj hsame.1]

/-! ## Times of day -/

theorem meeting_le_iff {s' i' : InspectionAvailability} :
    s.meeting i ≤ s'.meeting i' ↔ s.date.number < s'.date.number ∨
      s.date.number = s'.date.number ∧ max s.start i.start ≤ max s'.start i'.start :=
  Prod.Lex.toLex_le_toLex

theorem printed_le_iff {d d' : Day} {m n : Nat} :
    printed d m ≤ printed d' n ↔
      d.number < d'.number ∨ d.number = d'.number ∧ printedRank m ≤ printedRank n :=
  Prod.Lex.toLex_le_toLex

theorem exists_isEarliest (hs : s ∈ slots) (hi : i ∈ slots) (hmeets : s.Meets i) :
    exists s' i', s' ∈ slots ∧ i' ∈ slots ∧ s'.Meets i' ∧ IsEarliest slots s' i' := by
  let pairs := (slots.product slots).filter fun pair => pair.1.Meets pair.2
  have hmem : forall s i, (s, i) ∈ pairs ↔ (s ∈ slots ∧ i ∈ slots) ∧ s.Meets i := fun s i => by
    rw [List.mem_filter, List.pair_mem_product, decide_eq_true_eq]
  cases hleast : firstLeast (fun pair : InspectionAvailability × InspectionAvailability =>
      pair.1.meeting pair.2) pairs with
  | none =>
      have hpair := (hmem s i).2 ⟨⟨hs, hi⟩, hmeets⟩
      rw [firstLeast_eq_none_iff.1 hleast] at hpair
      cases hpair
  | some pair =>
      obtain ⟨hpair, hfirst⟩ := firstLeast_spec hleast
      obtain ⟨⟨hs', hi'⟩, hmeets'⟩ := (hmem pair.1 pair.2).1 hpair
      exact ⟨pair.1, pair.2, hs', hi', hmeets', fun s'' i'' hs'' hi'' hmeets'' =>
        hfirst (s'', i'') ((hmem s'' i'').2 ⟨⟨hs'', hi''⟩, hmeets''⟩)⟩

theorem IsPrintedFirst.isEarliest (hclock : ClockTimes slots) (hs : s ∈ slots) (hi : i ∈ slots)
    (hmeets : s.Meets i) (hfirst : IsPrintedFirst slots s i) : IsEarliest slots s i := by
  obtain ⟨s₀, i₀, hs₀, hi₀, hmeets₀, hearliest⟩ := exists_isEarliest hs hi hmeets
  obtain ⟨hstop, hlate⟩ := hclock s₀ i₀ hs₀ hi₀ hmeets₀ hearliest
  have hle : s.meeting i ≤ s₀.meeting i₀ := by
    have hge := meeting_le_iff.1 (hearliest s i hs hi hmeets)
    rw [meeting_le_iff]
    rcases printed_le_iff.1 (hfirst s₀ i₀ hs₀ hi₀ hmeets₀) with hlt | ⟨hdate, hrank⟩
    · exact Or.inl hlt
    · refine Or.inr ⟨hdate, le_of_printedRank_le ?_ ?_ hrank⟩
      · exact lt_of_lt_of_le hmeets₀.nonempty hstop
      · refine hlate.imp_right fun hday => ?_
        have hs_stop := hday s hs (Day.number_inj hdate)
        have hnonempty := hmeets.nonempty
        omega
  exact fun s' i' hs' hi' hmeets' => hle.trans (hearliest s' i' hs' hi' hmeets')

theorem ClockTimes.perm (h : slots.Perm slots') (hclock : ClockTimes slots)
    : ClockTimes slots' := by
  intro s i hs hi hmeets hearliest
  obtain ⟨hstop, hlate⟩ := hclock s i (h.mem_iff.2 hs) (h.mem_iff.2 hi) hmeets
    fun s' i' hs' hi' => hearliest s' i' (h.mem_iff.1 hs') (h.mem_iff.1 hi')
  exact ⟨hstop, hlate.imp_right fun hday slot hslot => hday slot (h.mem_iff.2 hslot)⟩

theorem adding_slot {slot : InspectionAvailability} (hclock : ClockTimes slots)
    (hperm : (slot :: slots).Perm slots') (hs : s ∈ slots) (hi : i ∈ slots) (hmeets : s.Meets i)
    (hearliest : IsEarliest slots s i) {s' i' : InspectionAvailability} (hs' : s' ∈ slots')
    (hi' : i' ∈ slots') (hmeets' : s'.Meets i') (hfirst : IsPrintedFirst slots' s' i') :
    s'.meeting i' ≤ s.meeting i := by
  obtain ⟨hstop, hlate⟩ := hclock s i hs hi hmeets hearliest
  have hkept : forall a, a ∈ slots -> a ∈ slots' := fun a ha =>
    hperm.mem_iff.1 (List.mem_cons_of_mem slot ha)
  rw [meeting_le_iff]
  rcases printed_le_iff.1 (hfirst s i (hkept s hs) (hkept i hi) hmeets) with hlt | ⟨hdate, hrank⟩
  · exact Or.inl hlt
  · refine Or.inr ⟨hdate, le_of_printedRank_le ?_ ?_ hrank⟩
    · exact lt_of_lt_of_le hmeets.nonempty hstop
    · refine hlate.imp_right fun hday => ?_
      have hnonempty := hmeets'.nonempty
      -- one of the two slots was there before, as one party adds the new one
      have hold : s' ∈ slots ∨ i' ∈ slots := by
        rcases List.mem_cons.1 (hperm.mem_iff.2 hs') with rfl | hmem
        · rcases List.mem_cons.1 (hperm.mem_iff.2 hi') with rfl | hmem
          · have hparty := hmeets'.seller.symm.trans hmeets'.inspector
            cases hparty
          · exact Or.inr hmem
        · exact Or.inl hmem
      rcases hold with hmem | hmem
      · have hbound := hday s' hmem (Day.number_inj hdate)
        omega
      · have hbound := hday i' hmem (hmeets'.date.symm.trans (Day.number_inj hdate))
        omega

theorem ClockTimes.agreedWindow (hclock : ClockTimes slots) : AgreedWindow slots where
  null_iff := scheduledWindow_eq_none_iff
  inside := by
    intro window hwindow
    obtain ⟨s, i, hs, hi, hmeets, rfl, -⟩ := scheduledWindow_eq_some hwindow
    refine ⟨_, _, _, meetingWindow_spans hmeets, ⟨s, hs, hmeets.seller, rfl, ?_, ?_⟩,
      ⟨i, hi, hmeets.inspector, hmeets.date.symm, ?_, ?_⟩⟩
    · exact le_max_left _ _
    · exact min_le_left _ _
    · exact le_max_right _ _
    · exact min_le_right _ _
  earliest := by
    intro window d start stop hwindow hspans s' i' hs' hi' hmeets'
    obtain ⟨s, i, hs, hi, hmeets, rfl, hfirst⟩ := scheduledWindow_eq_some hwindow
    obtain ⟨rfl, rfl, -⟩ := hspans.unique (meetingWindow_spans hmeets)
    exact hfirst.isEarliest hclock hs hi hmeets s' i' hs' hi' hmeets'
  order := fun slots' hperm => scheduledWindow_start_of_perm hperm
  adding := by
    intro slot slots' hperm window d start stop hwindow hspans
    obtain ⟨s, i, hs, hi, hmeets, rfl, hfirst⟩ := scheduledWindow_eq_some hwindow
    obtain ⟨rfl, rfl, -⟩ := hspans.unique (meetingWindow_spans hmeets)
    have hearliest := hfirst.isEarliest hclock hs hi hmeets
    cases hwindow' : scheduledWindow slots' with
    | none =>
        exact absurd hmeets (scheduledWindow_eq_none_iff.1 hwindow' s i
          (hperm.mem_iff.1 (List.mem_cons_of_mem _ hs))
          (hperm.mem_iff.1 (List.mem_cons_of_mem _ hi)))
    | some window' =>
        obtain ⟨s', i', hs', hi', hmeets', rfl, hfirst'⟩ := scheduledWindow_eq_some hwindow'
        exact ⟨_, _, _, _, rfl, meetingWindow_spans hmeets',
          adding_slot hclock hperm hs hi hmeets hearliest hs' hi' hmeets' hfirst'⟩
  instant := by
    intro window hwindow
    obtain ⟨s, i, hs, hi, hmeets, rfl, hfirst⟩ := scheduledWindow_eq_some hwindow
    rw [(meetingWindow_spans hmeets).windowEnd_isSome_iff]
    exact (hclock s i hs hi hmeets (hfirst.isEarliest hclock hs hi hmeets)).1

/-! ## Later times -/

theorem AgreedWindow.isPrintedFirst (h : AgreedWindow slots) (hs : s ∈ slots) (hi : i ∈ slots)
    (hmeets : s.Meets i) (hearliest : IsEarliest slots s i) : IsPrintedFirst slots s i := by
  cases hwindow : scheduledWindow slots with
  | none => exact absurd hmeets (h.null_iff.1 hwindow s i hs hi)
  | some window =>
      obtain ⟨s', i', hs', hi', hmeets', rfl, hfirst⟩ := scheduledWindow_eq_some hwindow
      have hle : s'.meeting i' ≤ s.meeting i :=
        h.earliest _ _ _ _ hwindow (meetingWindow_spans hmeets') s i hs hi hmeets
      have hsame := toLex.injective (le_antisymm hle (hearliest s' i' hs' hi' hmeets'))
      rw [Prod.mk.injEq] at hsame
      obtain ⟨hdate, hstart⟩ := hsame
      unfold IsPrintedFirst at hfirst ⊢
      rwa [Day.number_inj hdate, hstart] at hfirst

def lateSlot (party : VisitParty) (date : Day) : InspectionAvailability where
  party := party
  date := date
  startTime := "99:60"
  endTime := "99:99"
  startTime_matches := by decide
  endTime_matches := by decide
  before := by decide

theorem lateSlot_start (party : VisitParty) (date : Day) : (lateSlot party date).start = 6000 := by
  have hminutes : minutes "99:60" = some 6000 := by decide +kernel
  unfold InspectionAvailability.start lateSlot
  rw [hminutes, Option.getD_some]

theorem lateSlot_stop (party : VisitParty) (date : Day) : (lateSlot party date).stop = 6039 := by
  have hminutes : minutes "99:99" = some 6039 := by decide +kernel
  unfold InspectionAvailability.stop lateSlot
  rw [hminutes, Option.getD_some]

theorem exists_late_meeting (slot : InspectionAvailability) (hlate : 6000 < slot.stop) :
    exists party s i, s ∈ [lateSlot party slot.date, slot] ∧ i ∈ [lateSlot party slot.date, slot] ∧
      s.Meets i ∧ s.date = slot.date ∧ 6000 ≤ max s.start i.start := by
  have hlt := slot.start_lt_of_late hlate
  have hstop := slot.stop_lt
  cases hparty : slot.party with
  | seller =>
      refine ⟨.inspector, slot, lateSlot .inspector slot.date, by simp, by simp,
        ⟨hparty, rfl, rfl, ?_⟩, rfl, ?_⟩
      · rw [lateSlot_start, lateSlot_stop]
        omega
      · rw [lateSlot_start]
        omega
  | inspector =>
      refine ⟨.seller, lateSlot .seller slot.date, slot, by simp, by simp,
        ⟨rfl, hparty, rfl, ?_⟩, rfl, ?_⟩
      · rw [lateSlot_start, lateSlot_stop]
        omega
      · rw [lateSlot_start]
        omega

theorem AgreedWindow.stop_le (h : AgreedWindow slots) (hs : s ∈ slots) (hi : i ∈ slots)
    (hmeets : s.Meets i) (hearliest : IsEarliest slots s i) (hstop : min s.stop i.stop ≤ 1440)
    (hstart : 600 ≤ max s.start i.start) {slot : InspectionAvailability} (hslot : slot ∈ slots)
    (hdate : slot.date = s.date) : slot.stop ≤ 6000 := by
  by_contra hlate
  rw [not_le] at hlate
  have hday : max s.start i.start < 1440 := lt_of_lt_of_le hmeets.nonempty hstop
  obtain ⟨party, s₁, i₁, hs₁, hi₁, hmeets₁, hdate₁, hstart₁⟩ := exists_late_meeting slot hlate
  have hadded : forall a, a ∈ [lateSlot party slot.date, slot] ->
      a ∈ lateSlot party slot.date :: slots := by
    intro a ha
    rcases List.mem_cons.1 ha with rfl | ha
    · exact List.mem_cons_self ..
    · rw [List.mem_singleton.1 ha]
      exact List.mem_cons_of_mem _ hslot
  cases hwindow : scheduledWindow slots with
  | none => exact h.null_iff.1 hwindow s i hs hi hmeets
  | some window =>
      obtain ⟨s₀, i₀, hs₀, hi₀, hmeets₀, rfl, -⟩ := scheduledWindow_eq_some hwindow
      have hle₀ : s₀.meeting i₀ ≤ s.meeting i :=
        h.earliest _ _ _ _ hwindow (meetingWindow_spans hmeets₀) s i hs hi hmeets
      obtain ⟨window', d', start', stop', hwindow', hspans', hle'⟩ :=
        h.adding _ _ (List.Perm.refl _) _ _ _ _ hwindow (meetingWindow_spans hmeets₀)
      obtain ⟨s', i', hs', hi', hmeets', rfl, hfirst⟩ := scheduledWindow_eq_some hwindow'
      obtain ⟨rfl, rfl, -⟩ := hspans'.unique (meetingWindow_spans hmeets')
      have hle : s'.meeting i' ≤ s.meeting i := hle'.trans hle₀
      -- the late window is printed before 10:00, so one before 10:00 or a late one is found
      have hprinted := printed_le_iff.1 (hfirst s₁ i₁ (hadded s₁ hs₁) (hadded i₁ hi₁) hmeets₁)
      rw [hdate₁, hdate] at hprinted
      have hrank : printedRank (max s₁.start i₁.start) < 640 := by
        have hbound := hmeets₁.start_lt
        unfold printedRank
        split_ifs <;> omega
      rw [meeting_le_iff] at hle
      by_cases hold : s' ∈ slots ∧ i' ∈ slots
      · have hge := meeting_le_iff.1 (hearliest s' i' hold.1 hold.2 hmeets')
        have hrank' : 660 ≤ printedRank (max s'.start i'.start) := by
          unfold printedRank
          split_ifs <;> omega
        omega
      · have hnew : s' = lateSlot party slot.date ∨ i' = lateSlot party slot.date := by
          by_contra hneither
          rw [not_or] at hneither
          exact hold ⟨(List.mem_cons.1 hs').resolve_left hneither.1,
            (List.mem_cons.1 hi').resolve_left hneither.2⟩
        have hlate' : s'.date = s.date ∧ 6000 ≤ max s'.start i'.start := by
          rcases hnew with rfl | rfl
          · exact ⟨hdate, by rw [lateSlot_start]; exact le_max_left _ _⟩
          · exact ⟨hmeets'.date.trans hdate, by rw [lateSlot_start]; exact le_max_right _ _⟩
        rw [hlate'.1] at hle
        omega

/--
Whatever order the slots come in, the agreed window is the earliest one if and only if every
common interval that starts first ends by 24:00, and starts before 10:00 or has no slot on
its day that reaches beyond 100:00.
-/
theorem agreedWindow_iff (slots : List InspectionAvailability) :
    (forall slots', slots.Perm slots' -> AgreedWindow slots') ↔ ClockTimes slots := by
  constructor
  · intro h s i hs hi hmeets hearliest
    have hagreed := h slots (List.Perm.refl slots)
    have hfirst := hagreed.isPrintedFirst hs hi hmeets hearliest
    obtain ⟨slots', hperm, hwindow⟩ := exists_perm_scheduledWindow hs hi hmeets hfirst
    have hstop : min s.stop i.stop ≤ 1440 :=
      (meetingWindow_spans hmeets).windowEnd_isSome_iff.1 ((h slots' hperm).instant _ hwindow)
    refine ⟨hstop, ?_⟩
    rcases Nat.lt_or_ge (max s.start i.start) 600 with hstart | hstart
    · exact Or.inl hstart
    · exact Or.inr fun slot hslot hdate =>
        hagreed.stop_le hs hi hmeets hearliest hstop hstart hslot hdate
  · intro hclock slots' hperm
    exact (hclock.perm hperm).agreedWindow

def overnightSlot (party : VisitParty) : InspectionAvailability where
  party := party
  date := ⟨2026, 5, 1, by decide⟩
  startTime := "10:00"
  endTime := "25:00"
  startTime_matches := by decide
  endTime_matches := by decide
  before := by decide

/-- The window from 10:00 to 25:00 has no end. -/
theorem overnight_not_agreed :
    ¬forall slots', [overnightSlot .seller, overnightSlot .inspector].Perm slots' ->
      AgreedWindow slots' := by
  intro h
  have hwindow : scheduledWindow [overnightSlot .seller, overnightSlot .inspector] =
      some
        { date := "2026-05-01"
          startTime := "10:00"
          endTime := "25:00" } := by
    decide +kernel
  have hinstant := (h _ (List.Perm.refl _)).instant _ hwindow
  revert hinstant
  decide +kernel

end MarketBridge
