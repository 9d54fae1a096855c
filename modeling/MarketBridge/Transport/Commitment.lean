import MarketBridge.Payment.AgreementRuns
import MarketBridge.Relational.Holding
import MarketBridge.Transport.Assignment

/-!
# The commitment of trucks

A job is committed to its truck while it is under way and either uses an own truck
or has a received fee.  Jobs meet only in the rows of the trucks, so the trucks are
read as resources that the jobs hold.
-/

namespace MarketBridge

open Relational

/-! ## Trucks as resources -/

def isCommitted (db : Db) (jobId : Id) (job : TransportJob) : Bool :=
  job.status.isActive && (job.method = .ownTruck || hasTransportPayment db jobId [.paid])

def committedTruck (db : Db) (jobId : Id) : Option Id :=
  (db.transportJobs.findUnique jobId).bind fun job =>
    if isCommitted db jobId job then job.truckId else none

def hasAvailability (db : Db) (truckId : Id) (a : TruckAvailability) : Bool :=
  (db.trucks.findUnique truckId).any (·.availability = a)

def truckHoldings (db : Db) : Holdings Id Id where
  held := committedTruck db
  free truckId := hasAvailability db truckId .available = true
  busy truckId := hasAvailability db truckId .busy = true

def isHeldElsewhere (db : Db) (jobId truckId : Id) : Bool :=
  db.transportJobs.any fun j _ => j ≠ jobId && committedTruck db j = some truckId

/-- The job may become committed to the truck without a write on the truck. -/
def couldHold (db : Db) (jobId truckId : Id) : Bool :=
  !hasAvailability db truckId .available && !isHeldElsewhere db jobId truckId

def namesBusyTruck (db : Db) (jobId : Id) (truckId : Option Id) : Bool :=
  truckId.any fun truckId => hasAvailability db truckId .busy && isHeldElsewhere db jobId truckId

def holdsBusyTruck (db : Db) (jobId : Id) : Bool :=
  (committedTruck db jobId).any fun truckId => hasAvailability db truckId .busy

section Readings

variable {db db' : Db} {jobId truckId : Id}

theorem committedTruck_eq_some :
    committedTruck db jobId = some truckId ↔
      exists job, db.transportJobs.findUnique jobId = some job ∧
        isCommitted db jobId job = true ∧ job.truckId = some truckId := by
  unfold committedTruck
  rw [Option.bind_eq_some_iff]
  constructor
  · rintro ⟨job, hjob, htruck⟩
    split at htruck
    · next hcommitted => exact ⟨job, hjob, hcommitted, htruck⟩
    · cases htruck
  · rintro ⟨job, hjob, hcommitted, htruck⟩
    exact ⟨job, hjob, by rw [if_pos hcommitted, htruck]⟩

theorem isHeldElsewhere_eq_false :
    isHeldElsewhere db jobId truckId = false ↔
      forall j, j ≠ jobId -> committedTruck db j ≠ some truckId := by
  unfold isHeldElsewhere
  rw [Table.any_eq_false_iff]
  constructor
  · intro h j hj hheld
    obtain ⟨job, hjob, -⟩ := committedTruck_eq_some.1 hheld
    have hrow := h j job hjob
    simp [hj, hheld] at hrow
  · intro h j job _
    by_cases hj : j = jobId
    · simp [hj]
    · simp [hj, h j hj]

theorem committedTruck_of_row {job job' : TransportJob}
    (hjob : db.transportJobs.findUnique jobId = some job)
    (hjob' : db'.transportJobs.findUnique jobId = some job')
    (hstatus : job'.status = job.status) (hmethod : job'.method = job.method)
    (htruck : job'.truckId = job.truckId)
    (hpaid : hasTransportPayment db' jobId [.paid] = hasTransportPayment db jobId [.paid]) :
    committedTruck db' jobId = committedTruck db jobId := by
  unfold committedTruck isCommitted
  rw [hjob, hjob', Option.bind_some, Option.bind_some, hstatus, hmethod, htruck, hpaid]

theorem committedTruck_of_inactive
    (h : forall job, db.transportJobs.findUnique jobId = some job -> job.status.isActive = false) :
    committedTruck db jobId = none := by
  unfold committedTruck isCommitted
  cases hjob : db.transportJobs.findUnique jobId with
  | none =>
      rfl
  | some job =>
      rw [Option.bind_some, h job hjob, Bool.false_and]
      rfl

theorem hasAvailability_congr (h : db'.trucks = db.trucks) (a : TruckAvailability) :
    hasAvailability db' truckId a = hasAvailability db truckId a := by
  unfold hasAvailability
  rw [h]

theorem hasAvailability_releaseTruck (freed : Option Id) (a : TruckAvailability) :
    hasAvailability (releaseTruck freed db) truckId a =
      if freed = some truckId ∧ hasAvailability db truckId .busy = true then
        decide (a = .available)
      else
        hasAvailability db truckId a := by
  unfold hasAvailability releaseTruck
  rw [Table.findUnique_updateMany]
  cases htruck : db.trucks.findUnique truckId with
  | none =>
      simp
  | some truck =>
      simp only [Option.map_some, Option.any_some, Bool.and_eq_true, decide_eq_true_eq]
      by_cases hfreed : some truckId = freed
      · by_cases hbusy : truck.availability = .busy
        · rw [if_pos ⟨hfreed, hbusy⟩, if_pos ⟨hfreed.symm, hbusy⟩]
          simp only [eq_comm]
        · rw [if_neg (fun h => hbusy h.2), if_neg (fun h => hbusy h.2)]
      · rw [if_neg (fun h => hfreed h.1), if_neg (fun h => hfreed h.1.symm)]

theorem hasAvailability_setAvailability {q : Id} {a b : TruckAvailability} :
    hasAvailability (setAvailability q b db) truckId a =
      if truckId = q then (db.trucks.findUnique truckId).isSome && a = b
      else hasAvailability db truckId a := by
  unfold hasAvailability setAvailability
  by_cases hq : truckId = q
  · subst hq
    rw [if_pos rfl, Table.findUnique_update_self]
    cases db.trucks.findUnique truckId with
    | none => rfl
    | some truck => simp [eq_comm]
  · rw [if_neg hq, Table.findUnique_update_ne hq]

end Readings

/-! ## What every operation keeps -/

/-- The payment is for what it was for, and is received only if it was. -/
structure Payment.FeeKept (taken : Id -> Payment -> Bool) (i : Id) (p p' : Payment) : Prop where
  core : p'.core = p.core
  received : p'.status = .paid -> p.status = .paid
  kept : p.status = .paid -> taken i p = false -> p'.status = .paid

def Payment.SameCore (_ : Id) (p p' : Payment) : Prop :=
  p'.core = p.core

/-- A job that waits for bids has given up its truck. -/
structure TransportJob.Kept (_ : Id) (job job' : TransportJob) : Prop where
  orderId : job'.orderId = job.orderId
  method : job'.method = job.method
  waiting : job'.status ∈ [TransportStatus.requested, .quoted] ->
    job'.truckId = none ∨
      job.status ∈ [TransportStatus.requested, .quoted] ∧ job'.truckId = job.truckId

/-- A quote stays with its job and does not come to life again. -/
structure TransportQuote.Kept (_ : Id) (quote quote' : TransportQuote) : Prop where
  transportJobId : quote'.transportJobId = quote.transportJobId
  live : quote'.status.isLive = true -> quote.status.isLive = true

structure TransportKept (db db' : Db) : Prop where
  jobs : db.transportJobs.Rel TransportJob.Kept db'.transportJobs
  quotes : db.transportQuotes.Rel TransportQuote.Kept db'.transportQuotes
  payments : db.payments.Rel Payment.SameCore db'.payments

/-- What ties jobs, quotes and fees together. -/
structure TransportConsistent (db : Db) : Prop where
  perOrder : forall i j job job', db.transportJobs.findUnique i = some job ->
    db.transportJobs.findUnique j = some job' -> job.orderId = job'.orderId -> i = j
  waiting : db.transportJobs.All fun _ job =>
    job.status ∈ [TransportStatus.requested, .quoted] -> job.truckId = none
  hired : db.transportQuotes.All fun _ quote => quote.status.isLive = true ->
    exists job, db.transportJobs.findUnique quote.transportJobId = some job ∧
      job.method = .hireTransporter
  owned : db.payments.All fun _ p => p.type = .transport ->
    forall jobId, p.transportJobId = some jobId ->
      exists job, db.transportJobs.findUnique jobId = some job ∧ p.orderId = some job.orderId

section Kept

theorem TransportJob.Kept.refl (i : Id) (job : TransportJob) : Kept i job job :=
  ⟨rfl, rfl, fun h => Or.inr ⟨h, rfl⟩⟩

theorem TransportJob.Kept.trans {i : Id} {a b c : TransportJob} (h : Kept i a b)
    (h' : Kept i b c) : Kept i a c := by
  refine ⟨h'.orderId.trans h.orderId, h'.method.trans h.method, fun hc => ?_⟩
  rcases h'.waiting hc with hnone | ⟨hb, hsame⟩
  · exact Or.inl hnone
  · rcases h.waiting hb with hnone | ⟨ha, hsame'⟩
    · exact Or.inl (hsame.trans hnone)
    · exact Or.inr ⟨ha, hsame.trans hsame'⟩

theorem TransportQuote.Kept.refl (i : Id) (quote : TransportQuote) : Kept i quote quote :=
  ⟨rfl, id⟩

theorem TransportQuote.Kept.trans {i : Id} {a b c : TransportQuote} (h : Kept i a b)
    (h' : Kept i b c) : Kept i a c :=
  ⟨h'.transportJobId.trans h.transportJobId, fun hc => h.live (h'.live hc)⟩

theorem Payment.SameCore.refl (i : Id) (p : Payment) : p.SameCore i p :=
  rfl

theorem Payment.SameCore.trans {i : Id} {p q r : Payment} (h : p.SameCore i q)
    (h' : q.SameCore i r) : p.SameCore i r :=
  Eq.trans h' h

theorem Payment.core_transportJobId {p p' : Payment} (h : p'.core = p.core) :
    p'.transportJobId = p.transportJobId := by
  have hsame : p'.core.transportJobId = p.core.transportJobId :=
    congrArg Payment.transportJobId h
  exact hsame

theorem Payment.core_orderId {p p' : Payment} (h : p'.core = p.core) : p'.orderId = p.orderId := by
  have hsame : p'.core.orderId = p.core.orderId := congrArg Payment.orderId h
  exact hsame

theorem Payment.FeeKept.refl (taken : Id -> Payment -> Bool) (i : Id) (p : Payment) :
    p.FeeKept taken i p :=
  ⟨rfl, id, fun h _ => h⟩

variable {db db' db'' : Db}

theorem TransportKept.refl (db : Db) : TransportKept db db :=
  ⟨.refl TransportJob.Kept.refl _, .refl TransportQuote.Kept.refl _,
    .refl Payment.SameCore.refl _⟩

theorem TransportKept.trans (h : TransportKept db db') (h' : TransportKept db' db'') :
    TransportKept db db'' :=
  ⟨h.jobs.trans (fun _ _ _ _ => .trans) h'.jobs, h.quotes.trans (fun _ _ _ _ => .trans) h'.quotes,
    h.payments.trans (fun _ _ _ _ => .trans) h'.payments⟩

theorem TransportKept.consistent (h : TransportKept db db') (hdb : TransportConsistent db) :
    TransportConsistent db' where
  perOrder i j job job' hi hj horder := by
    obtain ⟨a, ha, hkept⟩ := h.jobs.of_right hi
    obtain ⟨b, hb, hkept'⟩ := h.jobs.of_right hj
    rw [hkept.orderId, hkept'.orderId] at horder
    exact hdb.perOrder i j a b ha hb horder
  waiting i job hi hwaits := by
    obtain ⟨a, ha, hkept⟩ := h.jobs.of_right hi
    rcases hkept.waiting hwaits with hnone | ⟨hbefore, hsame⟩
    · exact hnone
    · exact hsame.trans (hdb.waiting i a ha hbefore)
  hired i quote hi hlive := by
    obtain ⟨q, hq, hkept⟩ := h.quotes.of_right hi
    obtain ⟨job, hjob, hmethod⟩ := hdb.hired i q hq (hkept.live hlive)
    obtain ⟨job', hjob', hkept'⟩ := h.jobs.of_left hjob
    exact ⟨job', hkept.transportJobId ▸ hjob', hkept'.method.trans hmethod⟩
  owned i p hi htype jobId hjobId := by
    obtain ⟨q, hq, hcore⟩ := h.payments.of_right hi
    have hjobId' : q.transportJobId = some jobId :=
      (Payment.core_transportJobId hcore).symm.trans hjobId
    have horder : p.orderId = q.orderId := Payment.core_orderId hcore
    obtain ⟨job, hjob, hown⟩ := hdb.owned i q hq ((Payment.core_type hcore).symm.trans htype)
      jobId hjobId'
    obtain ⟨job', hjob', hkept'⟩ := h.jobs.of_left hjob
    exact ⟨job', hjob', horder.trans (hown.trans (congrArg some hkept'.orderId.symm))⟩

theorem hasTransportPayment_kept {taken : Id -> Payment -> Bool} {jobId : Id}
    (h : db.payments.Rel (Payment.FeeKept taken) db'.payments)
    (hnot : forall i p, IsPaidFee db jobId i p -> taken i p = false) :
    hasTransportPayment db' jobId [.paid] = hasTransportPayment db jobId [.paid] := by
  have hfor : forall p p' : Payment, p'.core = p.core ->
      p'.transportJobId = p.transportJobId ∧ p'.type = p.type := fun p p' hcore =>
    ⟨Payment.core_transportJobId hcore, Payment.core_type hcore⟩
  unfold hasTransportPayment
  rw [Bool.eq_iff_iff, Table.any_eq_true_iff, Table.any_eq_true_iff]
  simp only [List.mem_singleton, Bool.and_eq_true, decide_eq_true_eq]
  constructor
  · rintro ⟨i, p', hp', ⟨hjob, htype⟩, hpaid⟩
    obtain ⟨p, hp, hkept⟩ := h.of_right hp'
    obtain ⟨hjob', htype'⟩ := hfor p p' hkept.core
    exact ⟨i, p, hp, ⟨hjob'.symm.trans hjob, htype'.symm.trans htype⟩, hkept.received hpaid⟩
  · rintro ⟨i, p, hp, ⟨hjob, htype⟩, hpaid⟩
    obtain ⟨p', hp', hkept⟩ := h.of_left hp
    obtain ⟨hjob', htype'⟩ := hfor p p' hkept.core
    have hfee : IsPaidFee db jobId i p := ⟨hp, by simp [isTransportPaymentOf, hjob, htype], hpaid⟩
    exact ⟨i, p', hp', ⟨hjob'.trans hjob, htype'.trans htype⟩, hkept.kept hpaid (hnot i p hfee)⟩

end Kept

/-! ## Steps -/

/-- The operation keeps the rows together and the trucks with their jobs. -/
structure KeepsTrucks (db db' : Db) : Prop where
  kept : TransportKept db db'
  holdings : (truckHoldings db).Keeps (truckHoldings db')

section Steps

variable {db db' db'' : Db} {taken : Id -> Payment -> Bool} {k : Id} {job : TransportJob}
  {f : TransportJob -> TransportJob}

theorem KeepsTrucks.refl (hlawful : (truckHoldings db).Lawful) : KeepsTrucks db db :=
  ⟨.refl db, .refl hlawful⟩

theorem KeepsTrucks.trans (h : KeepsTrucks db db') (h' : KeepsTrucks db' db'') :
    KeepsTrucks db db'' :=
  ⟨h.kept.trans h'.kept, h.holdings.trans h'.holdings⟩

theorem Payment.FeeKept.rel_core (h : db.payments.Rel (Payment.FeeKept taken) db'.payments) :
    db.payments.Rel Payment.SameCore db'.payments :=
  h.mono fun _ _ _ hkept => hkept.core

/-- The rows of the jobs other than `k` are read as before. -/
theorem committedTruck_update_ne {j : Id}
    (hjobs : db'.transportJobs = db.transportJobs.update k f) (hj : j ≠ k)
    (hpaid : hasTransportPayment db' j [.paid] = hasTransportPayment db j [.paid]) :
    committedTruck db' j = committedTruck db j := by
  unfold committedTruck isCommitted
  rw [hjobs, Table.findUnique_update_ne hj, hpaid]

theorem KeepsTrucks.same (hlawful : (truckHoldings db).Lawful)
    (hjobs : db'.transportJobs = db.transportJobs) (htrucks : db'.trucks = db.trucks)
    (hquotes : db.transportQuotes.Rel TransportQuote.Kept db'.transportQuotes)
    (hpayments : db.payments.Rel (Payment.FeeKept taken) db'.payments)
    (hnot : forall j i p, IsPaidFee db j i p -> taken i p = false) :
    KeepsTrucks db db' := by
  refine ⟨⟨hjobs ▸ .refl TransportJob.Kept.refl _, hquotes, Payment.FeeKept.rel_core hpayments⟩,
    hlawful.same ?_ (fun r => ?_) fun r => ?_⟩
  · funext j
    change committedTruck db' j = committedTruck db j
    unfold committedTruck isCommitted
    rw [hjobs, hasTransportPayment_kept hpayments (hnot j)]
  · change hasAvailability db' r _ = true ↔ hasAvailability db r _ = true
    rw [hasAvailability_congr htrucks]
  · change hasAvailability db' r _ = true ↔ hasAvailability db r _ = true
    rw [hasAvailability_congr htrucks]

/-- A write of one job that keeps its truck, or gives up one that is not in use. -/
theorem KeepsTrucks.update (hlawful : (truckHoldings db).Lawful)
    (hjobs : db'.transportJobs = db.transportJobs.update k f)
    (hf : forall job, db.transportJobs.findUnique k = some job -> TransportJob.Kept k job (f job))
    (htrucks : db'.trucks = db.trucks)
    (hquotes : db.transportQuotes.Rel TransportQuote.Kept db'.transportQuotes)
    (hpayments : db.payments.Rel (Payment.FeeKept taken) db'.payments)
    (hnot : forall j i p, j ≠ k -> IsPaidFee db j i p -> taken i p = false)
    (hheld : committedTruck db' k = committedTruck db k ∨
      committedTruck db' k = none ∧ holdsBusyTruck db k = false) :
    KeepsTrucks db db' := by
  refine ⟨⟨hjobs ▸ Table.rel_update TransportJob.Kept.refl hf, hquotes,
    Payment.FeeKept.rel_core hpayments⟩, hlawful.drop (fun r => ?_) (fun r => ?_) fun j => ?_⟩
  · change hasAvailability db' r _ = true ↔ hasAvailability db r _ = true
    rw [hasAvailability_congr htrucks]
  · change hasAvailability db' r _ = true ↔ hasAvailability db r _ = true
    rw [hasAvailability_congr htrucks]
  · by_cases hj : j = k
    · subst hj
      rcases hheld with hsame | ⟨hnone, hfree⟩
      · exact Or.inl hsame
      · refine Or.inr ⟨hnone, fun r hr hbusy => ?_⟩
        unfold holdsBusyTruck at hfree
        rw [show committedTruck db j = some r from hr, Option.any_some] at hfree
        rw [show hasAvailability db r .busy = true from hbusy] at hfree
        cases hfree
    · exact Or.inl (committedTruck_update_ne hjobs hj
        (hasTransportPayment_kept hpayments fun i p => hnot j i p hj))

/-- The end of a job that frees the truck of its row. -/
theorem KeepsTrucks.ends (hlawful : (truckHoldings db).Lawful)
    (hjob : db.transportJobs.findUnique k = some job)
    (hjobs : db'.transportJobs = db.transportJobs.update k f)
    (hf : TransportJob.Kept k job (f job))
    (htrucks : db'.trucks = (releaseTruck job.truckId db).trucks)
    (hquotes : db.transportQuotes.Rel TransportQuote.Kept db'.transportQuotes)
    (hpayments : db.payments.Rel (Payment.FeeKept taken) db'.payments)
    (hnot : forall j i p, j ≠ k -> IsPaidFee db j i p -> taken i p = false)
    (hidle : committedTruck db' k = none)
    (halone : namesBusyTruck db k job.truckId = false) :
    KeepsTrucks db db' := by
  have hrows : forall row, db.transportJobs.findUnique k = some row ->
      TransportJob.Kept k row (f row) := by
    intro row hrow
    obtain rfl := Option.some.inj (hjob.symm.trans hrow)
    exact hf
  have havail : forall r a, hasAvailability db' r a =
      if job.truckId = some r ∧ hasAvailability db r .busy = true then decide (a = .available)
      else hasAvailability db r a := by
    intro r a
    rw [hasAvailability_congr htrucks, hasAvailability_releaseTruck]
  refine ⟨⟨hjobs ▸ Table.rel_update TransportJob.Kept.refl hrows, hquotes,
    Payment.FeeKept.rel_core hpayments⟩,
    hlawful.release (k := k) (q := job.truckId) hidle (fun j hj => ?_) (fun r hr => ?_)
      (fun j r hj hr hq hbusy => ?_) (fun r => ?_) fun r => ?_⟩
  · exact committedTruck_update_ne hjobs hj
      (hasTransportPayment_kept hpayments fun i p => hnot j i p hj)
  · obtain ⟨row, hrow, -, htruck⟩ := committedTruck_eq_some.1 hr
    obtain rfl := Option.some.inj (hjob.symm.trans hrow)
    exact htruck
  · unfold namesBusyTruck at halone
    rw [hq, Option.any_some, show hasAvailability db r .busy = true from hbusy,
      Bool.true_and] at halone
    exact isHeldElsewhere_eq_false.1 halone j hj hr
  · change hasAvailability db' r _ = true ↔ hasAvailability db r _ = true ∨
      job.truckId = some r ∧ hasAvailability db r _ = true
    rw [havail]
    by_cases hfreed : job.truckId = some r ∧ hasAvailability db r .busy = true
    · simp [hfreed]
    · rw [if_neg hfreed]
      exact ⟨Or.inl, fun h => h.resolve_right hfreed⟩
  · change hasAvailability db' r _ = true ↔ hasAvailability db r _ = true ∧ job.truckId ≠ some r
    rw [havail]
    by_cases hfreed : job.truckId = some r ∧ hasAvailability db r .busy = true
    · simp [hfreed]
    · rw [if_neg hfreed]
      exact ⟨fun h => ⟨h, fun hq => hfreed ⟨hq, h⟩⟩, And.left⟩

end Steps

end MarketBridge
