import Mathlib.Data.Prod.Lex
import MarketBridge.Ranking.Least
import MarketBridge.Text.Decimals

/-!
# The agreed visit window

The seller and the inspector of an inspection say when they are available, and the visit is
agreed for the earliest interval that they have in common.  Days and times are texts, and
which interval is the earliest is decided by comparing texts.
-/

namespace MarketBridge

open Ranking Text

/-! ## Days and times -/

def daysInMonth (year month : Nat) : Nat :=
  if month = 2 then
    if year % 4 = 0 ∧ (year % 100 ≠ 0 ∨ year % 400 = 0) then 29 else 28
  else if month ∈ [4, 6, 9, 11] then
    30
  else
    31

def isDay (year month day : Nat) : Bool :=
  year < 10000 && 1 ≤ month && month ≤ 12 && 1 ≤ day && day ≤ daysInMonth year month

/-- A day of the calendar; its year has four digits, as a date column admits. -/
@[ext] structure Day where
  year : Nat
  month : Nat
  day : Nat
  valid : isDay year month day = true
deriving DecidableEq, Repr

namespace Day

theorem bounds (d : Day) :
    d.year < 10000 ∧ 1 ≤ d.month ∧ d.month ≤ 12 ∧ 1 ≤ d.day ∧ d.day ≤ 31 := by
  have hvalid := d.valid
  simp only [isDay, Bool.and_eq_true, decide_eq_true_eq] at hvalid
  obtain ⟨⟨⟨⟨hyear, hmonth⟩, hmonth'⟩, hday⟩, hday'⟩ := hvalid
  refine ⟨hyear, hmonth, hmonth', hday, hday'.trans ?_⟩
  unfold daysInMonth
  split
  · split <;> decide
  · split <;> decide

def number (d : Day) : Nat :=
  (d.year * 100 + d.month) * 100 + d.day

theorem number_inj {d d' : Day} (h : d.number = d'.number) : d = d' := by
  have hd := d.bounds
  have hd' := d'.bounds
  unfold number at h
  cases d with
  | mk year month day valid =>
      cases d' with
      | mk year' month' day' valid' =>
          dsimp only at h hd hd'
          obtain rfl : year = year' := by omega
          obtain rfl : month = month' := by omega
          obtain rfl : day = day' := by omega
          rfl

end Day

def isoDate (d : Day) : String :=
  padStart 4 (toString d.year) ++ "-" ++ padStart 2 (toString d.month) ++ "-" ++
    padStart 2 (toString d.day)

/-- `/^\d{2}:\d{2}$/`. -/
def isHhmm (text : String) : Bool :=
  match text.toList with
  | [a, b, ':', c, d] => [a, b, c, d].all Char.isDigit
  | _ => false

/-- The minutes of `/^(\d{1,2}):(\d{2})$/`. -/
def minutes (text : String) : Option Nat :=
  match text.toList with
  | [a, b, ':', c, d] =>
      if [a, b, c, d].all Char.isDigit then
        some (readDecimals [a, b] * 60 + readDecimals [c, d])
      else
        none
  | [b, ':', c, d] =>
      if [b, c, d].all Char.isDigit then
        some (readDecimals [b] * 60 + readDecimals [c, d])
      else
        none
  | _ => none

def hhmm (totalMinutes : Nat) : String :=
  padStart 2 (toString (totalMinutes / 60)) ++ ":" ++ padStart 2 (toString (totalMinutes % 60))

/-! ## Availability -/

/-- Who adds a slot. -/
inductive VisitParty where
  | seller
  | inspector
deriving DecidableEq, Repr

/-- A slot that the route has admitted. -/
structure InspectionAvailability where
  party : VisitParty
  date : Day
  startTime : String
  endTime : String
  startTime_matches : isHhmm startTime = true
  endTime_matches : isHhmm endTime = true
  before : startTime < endTime
deriving DecidableEq, Repr

/-- `POST /:id/coordination/availability`, of a party and a valid date. -/
def addAvailability (party : VisitParty) (date : Day) (startTime endTime : String) :
    Except String InspectionAvailability :=
  if hstart : isHhmm startTime = true then
    if hend : isHhmm endTime = true then
      if hbefore : startTime < endTime then
        .ok
          { party := party
            date := date
            startTime := startTime
            endTime := endTime
            startTime_matches := hstart
            endTime_matches := hend
            before := hbefore }
      else
        .error "startTime must be before endTime"
    else
      .error "endTime must be HH:MM"
  else
    .error "startTime must be HH:MM"

/-- Hours beyond 24 are admitted. -/
example : (addAvailability .seller ⟨2026, 5, 1, by decide⟩ "10:00" "25:00").isOk = true := by
  decide +kernel

/-! ## Windows -/

structure VisitWindow where
  date : String
  startTime : String
  endTime : String
deriving DecidableEq, Repr

def VisitWindow.startText (window : VisitWindow) : String :=
  window.date ++ "T" ++ window.startTime

/-- The window of two slots, if they have one in common. -/
def candidate (s i : InspectionAvailability) : Option VisitWindow :=
  let date := isoDate s.date
  if date ≠ isoDate i.date then
    none
  else
    let minutesOf (text : String) : Int := ((minutes text).map Int.ofNat).getD (-1)
    let start := max (minutesOf s.startTime) (minutesOf i.startTime)
    let stop := min (minutesOf s.endTime) (minutesOf i.endTime)
    if start < 0 ∨ stop ≤ start then
      none
    else
      some
        { date := date
          startTime := hhmm start.toNat
          endTime := hhmm stop.toNat }

def consider (s : InspectionAvailability) (best : Option VisitWindow)
    (i : InspectionAvailability) : Option VisitWindow :=
  match candidate s i with
  | none => best
  | some window => keepLeast VisitWindow.startText best window

def scheduledWindow (availability : List InspectionAvailability) : Option VisitWindow :=
  let sellers := availability.filter (·.party = .seller)
  let inspectors := availability.filter (·.party = .inspector)
  sellers.foldl (fun best s => inspectors.foldl (consider s) best) none

/-- A moment of a day, in Ethiopian time. -/
structure LocalInstant where
  date : Day
  minute : Nat
deriving DecidableEq, Repr

/-- The day of `YYYY-MM-DD`. -/
def readDay (text : String) : Option Day :=
  match text.toList with
  | [a, b, c, d, '-', e, f, '-', g, h] =>
      if [a, b, c, d, e, f, g, h].all Char.isDigit then
        if hvalid : isDay (readDecimals [a, b, c, d]) (readDecimals [e, f])
            (readDecimals [g, h]) = true then
          some ⟨_, _, _, hvalid⟩
        else
          none
      else
        none
  | _ => none

/-- The time of day of `HH:MM`, at most 24:00. -/
def readTimeOfDay (text : String) : Option Nat :=
  match text.toList with
  | [a, b, ':', c, d] =>
      let hour := readDecimals [a, b]
      let minute := readDecimals [c, d]
      if [a, b, c, d].all Char.isDigit ∧ minute < 60 ∧ (hour < 24 ∨ hour = 24 ∧ minute = 0) then
        some (hour * 60 + minute)
      else
        none
  | _ => none

/-- The instant of `${date}T${endTime}:00+03:00`, if it is one. -/
def windowEnd (window : VisitWindow) : Option LocalInstant :=
  match readDay window.date, readTimeOfDay window.endTime with
  | some date, some minute => some ⟨date, minute⟩
  | _, _ => none

/-! ## Printed days -/

theorem toList_isoDate (d : Day) :
    (isoDate d).toList =
      decimals 4 d.year ++ '-' :: (decimals 2 d.month ++ '-' :: decimals 2 d.day) := by
  have hd := d.bounds
  unfold isoDate
  simp only [String.toList_append]
  rw [toList_padStart (by decide) (by omega), toList_padStart (by decide) (by omega),
    toList_padStart (by decide) (by omega), List.append_assoc, List.append_assoc]
  simp

theorem length_isoDate (d : Day) : (isoDate d).toList.length = 10 := by
  rw [toList_isoDate]
  simp

theorem isoDate_lt_iff {d d' : Day} :
    (isoDate d).toList < (isoDate d').toList ↔ d.number < d'.number := by
  have hd := d.bounds
  have hd' := d'.bounds
  rw [toList_isoDate, toList_isoDate, append_lt_append_iff (by simp), List.cons_lt_cons_iff,
    append_lt_append_iff (by simp), List.cons_lt_cons_iff,
    @decimals_lt_iff 4 d.year d'.year (by omega) (by omega),
    @decimals_lt_iff 2 d.month d'.month (by omega) (by omega),
    @decimals_lt_iff 2 d.day d'.day (by omega) (by omega),
    @decimals_inj_iff 4 d.year d'.year (by omega) (by omega),
    @decimals_inj_iff 2 d.month d'.month (by omega) (by omega)]
  simp only [lt_irrefl, true_and, false_or]
  unfold Day.number
  omega

theorem isoDate_inj {d d' : Day} (h : isoDate d = isoDate d') : d = d' := by
  have hlt := @isoDate_lt_iff d d'
  have hgt := @isoDate_lt_iff d' d
  rw [h] at hlt hgt
  have hirrefl : ¬(isoDate d').toList < (isoDate d').toList := lt_irrefl _
  exact Day.number_inj (by have := hlt.not.1 hirrefl; have := hgt.not.1 hirrefl; omega)

theorem readDay_isoDate (d : Day) : readDay (isoDate d) = some d := by
  have hd := d.bounds
  obtain ⟨a, b, c, e, hyear, hyears, hread⟩ := exists_decimals_four hd.1
  obtain ⟨f, g, hmonth, hf, hg, hreadMonth⟩ := @exists_decimals_two d.month (by omega)
  obtain ⟨h, i, hday, hh, hi, hreadDay⟩ := @exists_decimals_two d.day (by omega)
  have hdigits : [a, b, c, e, f, g, h, i].all Char.isDigit = true := by
    simp only [List.all_cons, List.all_nil, Bool.and_true, Bool.and_eq_true] at hyears ⊢
    exact ⟨hyears.1, hyears.2.1, hyears.2.2.1, hyears.2.2.2, hf, hg, hh, hi⟩
  have hvalid : isDay (readDecimals [a, b, c, e]) (readDecimals [f, g]) (readDecimals [h, i]) =
      true := by
    rw [hread, hreadMonth, hreadDay]
    exact d.valid
  unfold readDay
  rw [toList_isoDate, hyear, hmonth, hday]
  simp only [List.cons_append, List.nil_append]
  rw [if_pos hdigits, dif_pos hvalid]
  exact congrArg some (Day.ext hread hreadMonth hreadDay)

/-! ## Printed times -/

variable {n : Nat} {text : String}

theorem toList_hhmm (hn : n < 6000) :
    (hhmm n).toList = decimals 2 (n / 60) ++ ':' :: decimals 2 (n % 60) := by
  unfold hhmm
  simp only [String.toList_append]
  have hcolon : ":".toList = [':'] := by decide
  rw [toList_padStart (by decide) (by omega), toList_padStart (by decide) (by omega),
    List.append_assoc, hcolon, List.singleton_append]

theorem toList_hhmm_late (hn : 6000 ≤ n) (hn' : n < 6060) :
    (hhmm n).toList = decimals 2 10 ++ '0' :: ':' :: decimals 2 (n - 6000) := by
  unfold hhmm
  rw [show n / 60 = 100 by omega, show n % 60 = n - 6000 by omega]
  simp only [String.toList_append]
  have hhour : (padStart 2 (toString 100)).toList = decimals 2 10 ++ ['0'] := by decide
  have hcolon : ":".toList = [':'] := by decide
  rw [@toList_padStart 2 (n - 6000) (by decide) (by omega), hhour, hcolon, List.append_assoc,
    List.append_assoc, List.singleton_append, List.singleton_append]

/-- Where a time stands among the printed ones: `100:` comes before `10:`. -/
def printedRank (n : Nat) : Nat :=
  if n < 600 then n else if n < 6000 then n + 60 else n - 5400

theorem hhmm_lt_iff {m : Nat} (hm : m < 6060) (hn : n < 6060) :
    (hhmm m).toList < (hhmm n).toList ↔ printedRank m < printedRank n := by
  rcases Nat.lt_or_ge m 6000 with hm' | hm' <;> rcases Nat.lt_or_ge n 6000 with hn' | hn'
  · rw [toList_hhmm hm', toList_hhmm hn', append_lt_append_iff (by simp), List.cons_lt_cons_iff,
      @decimals_lt_iff 2 (m / 60) (n / 60) (by omega) (by omega),
      @decimals_lt_iff 2 (m % 60) (n % 60) (by omega) (by omega),
      @decimals_inj_iff 2 (m / 60) (n / 60) (by omega) (by omega)]
    simp only [lt_irrefl, true_and, false_or]
    unfold printedRank
    split_ifs <;> omega
  · rw [toList_hhmm hm', toList_hhmm_late hn' hn, append_lt_append_iff (by simp),
      List.cons_lt_cons_iff, @decimals_lt_iff 2 (m / 60) 10 (by omega) (by omega),
      @decimals_inj_iff 2 (m / 60) 10 (by omega) (by omega)]
    have hcolon : ¬ ':' < '0' ∧ ¬ ':' = '0' := by decide
    simp only [hcolon.1, hcolon.2, false_and, or_false, and_false]
    unfold printedRank
    split_ifs <;> omega
  · rw [toList_hhmm_late hm' hm, toList_hhmm hn', append_lt_append_iff (by simp),
      List.cons_lt_cons_iff, @decimals_lt_iff 2 10 (n / 60) (by omega) (by omega),
      @decimals_inj_iff 2 10 (n / 60) (by omega) (by omega)]
    have hzero : '0' < ':' := by decide
    simp only [hzero, true_or, and_true]
    unfold printedRank
    split_ifs <;> omega
  · rw [toList_hhmm_late hm' hm, toList_hhmm_late hn' hn, append_lt_append_iff rfl,
      List.cons_lt_cons_iff, List.cons_lt_cons_iff,
      @decimals_lt_iff 2 (m - 6000) (n - 6000) (by omega) (by omega)]
    simp only [lt_irrefl, true_and, false_or]
    unfold printedRank
    split_ifs <;> omega

theorem hhmm_inj {m : Nat} (hm : m < 6060) (hn : n < 6060) (h : hhmm m = hhmm n) : m = n := by
  have hlt := hhmm_lt_iff hm hn
  have hgt := hhmm_lt_iff hn hm
  rw [h] at hlt hgt
  have hirrefl : ¬(hhmm n).toList < (hhmm n).toList := lt_irrefl _
  have hle := hlt.not.1 hirrefl
  have hge := hgt.not.1 hirrefl
  unfold printedRank at hle hge
  split_ifs at hle hge <;> omega

theorem readTimeOfDay_eq {hour minute : Nat} (hhour : hour < 100) (hminute : minute < 100)
    (htext : text.toList = decimals 2 hour ++ ':' :: decimals 2 minute) :
    readTimeOfDay text =
      if minute < 60 ∧ (hour < 24 ∨ hour = 24 ∧ minute = 0) then some (hour * 60 + minute)
      else none := by
  obtain ⟨a, b, hab, ha, hb, hread⟩ := exists_decimals_two hhour
  obtain ⟨c, d, hcd, hc, hd, hread'⟩ := exists_decimals_two hminute
  have hdigits : [a, b, c, d].all Char.isDigit = true := by simp [ha, hb, hc, hd]
  unfold readTimeOfDay
  rw [htext, hab, hcd]
  simp only [List.cons_append, List.nil_append, hread, hread', hdigits, true_and]

theorem minutes_eq {hour minute : Nat} (hhour : hour < 100) (hminute : minute < 100)
    (htext : text.toList = decimals 2 hour ++ ':' :: decimals 2 minute) :
    minutes text = some (hour * 60 + minute) := by
  obtain ⟨a, b, hab, ha, hb, hread⟩ := exists_decimals_two hhour
  obtain ⟨c, d, hcd, hc, hd, hread'⟩ := exists_decimals_two hminute
  have hdigits : [a, b, c, d].all Char.isDigit = true := by simp [ha, hb, hc, hd]
  unfold minutes
  rw [htext, hab, hcd]
  simp only [List.cons_append, List.nil_append, hread, hread', hdigits, if_true]

theorem readTimeOfDay_hhmm (hn : n < 6060) :
    readTimeOfDay (hhmm n) = if n ≤ 1440 then some n else none := by
  rcases Nat.lt_or_ge n 6000 with hn' | hn'
  · rw [readTimeOfDay_eq (by omega) (by omega) (toList_hhmm hn')]
    by_cases hday : n ≤ 1440
    · rw [if_pos hday, if_pos ⟨by omega, by omega⟩]
      congr 1
      omega
    · rw [if_neg hday, if_neg fun h => by omega]
  · unfold readTimeOfDay
    rw [toList_hhmm_late hn' hn, if_neg (by omega)]
    rfl

/-! ## The times of a slot -/

theorem exists_of_isHhmm (h : isHhmm text = true) :
    exists hour minute, hour < 100 ∧ minute < 100 ∧
      text.toList = decimals 2 hour ++ ':' :: decimals 2 minute := by
  unfold isHhmm at h
  split at h
  · rename_i a b c d htext
    simp only [List.all_cons, List.all_nil, Bool.and_true, Bool.and_eq_true] at h
    obtain ⟨ha, hb, hc, hd⟩ := h
    have hhour := @decimals_readDecimals [a, b] (by simp [ha, hb])
    have hminute := @decimals_readDecimals [c, d] (by simp [hc, hd])
    exact ⟨readDecimals [a, b], readDecimals [c, d], hhour.1, hminute.1, by
      rw [htext, show decimals 2 (readDecimals [a, b]) = [a, b] from hhour.2,
        show decimals 2 (readDecimals [c, d]) = [c, d] from hminute.2]
      rfl⟩
  · cases h

namespace InspectionAvailability

def start (a : InspectionAvailability) : Nat :=
  (minutes a.startTime).getD 0

def stop (a : InspectionAvailability) : Nat :=
  (minutes a.endTime).getD 0

theorem minutes_startTime (a : InspectionAvailability) : minutes a.startTime = some a.start := by
  obtain ⟨hour, minute, hhour, hminute, htext⟩ := exists_of_isHhmm a.startTime_matches
  unfold start
  rw [minutes_eq hhour hminute htext]
  rfl

theorem minutes_endTime (a : InspectionAvailability) : minutes a.endTime = some a.stop := by
  obtain ⟨hour, minute, hhour, hminute, htext⟩ := exists_of_isHhmm a.endTime_matches
  unfold stop
  rw [minutes_eq hhour hminute htext]
  rfl

theorem stop_lt (a : InspectionAvailability) : a.stop < 6040 := by
  obtain ⟨hour, minute, hhour, hminute, htext⟩ := exists_of_isHhmm a.endTime_matches
  unfold stop
  rw [minutes_eq hhour hminute htext, Option.getD_some]
  omega

theorem start_lt_of_late (a : InspectionAvailability) (h : 6000 < a.stop) : a.start < a.stop := by
  obtain ⟨hour, minute, hhour, hminute, htext⟩ := exists_of_isHhmm a.startTime_matches
  obtain ⟨hour', minute', hhour', hminute', htext'⟩ := exists_of_isHhmm a.endTime_matches
  have hbefore := String.lt_iff_toList_lt.1 a.before
  rw [htext, htext', append_lt_append_iff (by simp), List.cons_lt_cons_iff,
    @decimals_lt_iff 2 hour hour' hhour hhour', @decimals_lt_iff 2 minute minute' hminute hminute',
    @decimals_inj_iff 2 hour hour' hhour hhour'] at hbefore
  simp only [lt_irrefl, true_and, false_or] at hbefore
  unfold start stop at *
  rw [minutes_eq hhour' hminute' htext', Option.getD_some] at h ⊢
  rw [minutes_eq hhour hminute htext, Option.getD_some]
  omega

end InspectionAvailability

end MarketBridge
