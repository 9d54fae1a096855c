import MarketBridge.Transport.CommitmentSettlements

/-!
# New jobs, bids and payments, and the owner's truck

The operations that create rows, or that make a cancelled job anew.  None of them
can break the commitment of the trucks: an own truck is claimed only while it is on
offer, and an owner cannot offer a truck that an active job names.
-/

namespace MarketBridge

open Relational

/-! ## New jobs -/

/-- The job of an order that had none but a cancelled one is in place. -/
structure Placed (job : TransportJob) (k : Id) (db db' : Db) : Prop where
  row : exists due, db'.transportJobs.findUnique k = some { job with workflowDueAt := due }
  others : forall j, j ≠ k -> db'.transportJobs.findUnique j = db.transportJobs.findUnique j
  before : forall row, db.transportJobs.findUnique k = some row ->
    row.status = .cancelled ∧ row.orderId = job.orderId
  single : forall j row, db.transportJobs.findUnique j = some row ->
    row.orderId = job.orderId -> j = k
  quotes : db'.transportQuotes.All fun i quote => quote.status.isLive = true ->
    db.transportQuotes.findUnique i = some quote ∧ quote.transportJobId ≠ k
  payments : db'.payments = db.payments
  trucks : db'.trucks = db.trucks

section Placing

variable {env : Env} {db db' : Db} {job : TransportJob} {k truckId : Id}

theorem hasLiveJob_eq_false {orderId : Id} {row : TransportJob} (h : hasLiveJob db orderId = false)
    (hrow : transportJobOf db orderId = some (k, row)) :
    row.status = .cancelled := by
  unfold hasLiveJob at h
  rw [hrow, Option.any_some] at h
  simpa using h

theorem placeJob_placed (job : TransportJob) (hdb : TransportConsistent db)
    (hdead : hasLiveJob db job.orderId = false) :
    exists k, Placed job k db (placeJob job.orderId job db) := by
  unfold placeJob
  cases hfound : transportJobOf db job.orderId with
  | none =>
      have hnone := Table.findFirst_eq_none_iff.1 hfound
      refine ⟨db.transportJobs.size,
        ⟨⟨job.workflowDueAt, Table.findUnique_create_self _ _⟩, fun j hj => ?_, fun row hrow => ?_,
          fun j row hrow horder => ?_, fun i quote hquote hlive => ⟨hquote, ?_⟩, rfl, rfl⟩⟩
      · change (db.transportJobs.create job).findUnique j = _
        rw [Table.findUnique_create, if_neg hj]
      · rw [Table.findUnique_size] at hrow
        cases hrow
      · have hother := hnone j row hrow
        simp [horder] at hother
      · obtain ⟨row, hrow, -⟩ := hdb.hired i quote hquote hlive
        exact (Table.lt_size_of_findUnique hrow).ne
  | some e =>
      obtain ⟨k, row⟩ := e
      obtain ⟨hrow, horder⟩ := Table.findFirst_eq_some hfound
      rw [decide_eq_true_eq] at horder
      refine ⟨k, ⟨⟨row.workflowDueAt, ?_⟩, fun j hj => Table.findUnique_update_ne hj,
        fun row' hrow' => ?_, fun j row' hrow' horder' =>
          hdb.perOrder j k row' row hrow' hrow (horder'.trans horder.symm),
        fun i quote hquote hlive => ?_, rfl, rfl⟩⟩
      · change (db.transportJobs.update k _).findUnique k = _
        rw [Table.findUnique_update_self, hrow, Option.map_some]
      · obtain rfl := Option.some.inj (hrow.symm.trans hrow')
        exact ⟨hasLiveJob_eq_false hdead hfound, horder⟩
      · change (db.transportQuotes.updateMany _ _).findUnique i = some quote at hquote
        rw [Table.findUnique_updateMany] at hquote
        obtain ⟨quote', hquote', rfl⟩ := Option.map_eq_some_iff.1 hquote
        by_cases hof : quote'.transportJobId = k
        · simp [hof, TransportQuoteStatus.isLive] at hlive
        · simp only [hof, decide_false, Bool.false_eq_true, if_false]
          exact ⟨hquote', hof⟩

theorem Placed.consistent (h : Placed job k db db') (hdb : TransportConsistent db)
    (hwaits : job.status ∈ [TransportStatus.requested, .quoted] -> job.truckId = none) :
    TransportConsistent db' := by
  obtain ⟨due, hrow⟩ := h.row
  have hread : forall j row, db'.transportJobs.findUnique j = some row ->
      j = k ∧ row = { job with workflowDueAt := due } ∨
        j ≠ k ∧ db.transportJobs.findUnique j = some row := by
    intro j row hj
    by_cases hjk : j = k
    · subst hjk
      exact Or.inl ⟨rfl, Option.some.inj (hj.symm.trans hrow)⟩
    · exact Or.inr ⟨hjk, (h.others j hjk) ▸ hj⟩
  refine ⟨fun i j a b hi hj horder => ?_, fun i row hi hstatus => ?_, fun i quote hi hlive => ?_,
    fun i p hi htype jobId hjobId => ?_⟩
  · rcases hread i a hi with ⟨rfl, rfl⟩ | ⟨-, ha⟩
    · rcases hread j b hj with ⟨rfl, -⟩ | ⟨-, hb⟩
      · rfl
      · exact (h.single j b hb horder.symm).symm
    · rcases hread j b hj with ⟨rfl, rfl⟩ | ⟨-, hb⟩
      · exact h.single i a ha horder
      · exact hdb.perOrder i j a b ha hb horder
  · rcases hread i row hi with ⟨-, rfl⟩ | ⟨-, ha⟩
    · exact hwaits hstatus
    · exact hdb.waiting i row ha hstatus
  · obtain ⟨hquote, hother⟩ := h.quotes i quote hi hlive
    obtain ⟨row, hjob, hmethod⟩ := hdb.hired i quote hquote hlive
    exact ⟨row, (h.others _ hother).trans hjob, hmethod⟩
  · rw [h.payments] at hi
    obtain ⟨row, hjob, hown⟩ := hdb.owned i p hi htype jobId hjobId
    by_cases hjk : jobId = k
    · subst hjk
      exact ⟨_, hrow, hown.trans (congrArg some (h.before row hjob).2)⟩
    · exact ⟨row, (h.others jobId hjk).trans hjob, hown⟩

theorem Placed.idle (h : Placed job k db db') : committedTruck db k = none := by
  refine committedTruck_of_inactive fun row hrow => ?_
  rw [(h.before row hrow).1]
  rfl

theorem Placed.held (h : Placed job k db db') {j : Id} (hj : j ≠ k) :
    committedTruck db' j = committedTruck db j := by
  unfold committedTruck isCommitted hasTransportPayment
  rw [h.others j hj, h.payments]

theorem Placed.follows_waiting (h : Placed job k db db') (hlawful : (truckHoldings db).Lawful)
    (hdb : TransportConsistent db) (hstatus : job.status = .requested)
    (htruck : job.truckId = none) :
    FollowsTrucks db db' := by
  obtain ⟨due, hrow⟩ := h.row
  have hidle : committedTruck db' k = none := by
    refine committedTruck_of_inactive fun row hfound => ?_
    obtain rfl := Option.some.inj (hrow.symm.trans hfound)
    change job.status.isActive = false
    rw [hstatus]
    rfl
  have hheld : (truckHoldings db').held = (truckHoldings db).held := by
    funext j
    by_cases hj : j = k
    · subst hj
      exact hidle.trans h.idle.symm
    · exact h.held hj
  refine ⟨h.consistent hdb fun _ => htruck, fun i p hp => ⟨p, h.payments ▸ hp, rfl⟩,
    hlawful.mono hheld fun r hr => ?_, .of_held fun i r hi => ⟨i, hheld ▸ hi⟩⟩
  have hfree : hasAvailability db' r .available = true := hr
  rw [hasAvailability_congr h.trucks] at hfree
  exact hfree

theorem Placed.follows_own (h : Placed job k (setAvailability truckId .busy db) db')
    (hlawful : (truckHoldings db).Lawful) (hdb : TransportConsistent db)
    (hstatus : job.status = .accepted) (hmethod : job.method = .ownTruck)
    (htruck : job.truckId = some truckId)
    (hfree : hasAvailability db truckId .available = true) :
    FollowsTrucks db db' := by
  obtain ⟨due, hrow⟩ := h.row
  have hconsistent : TransportConsistent (setAvailability truckId .busy db) := by
    exact ⟨hdb.perOrder, hdb.waiting, hdb.hired, hdb.owned⟩
  have hheld : (truckHoldings db').held k = some truckId := by
    refine committedTruck_eq_some.2 ⟨_, hrow, ?_, htruck⟩
    unfold isCommitted
    rw [hstatus, hmethod]
    rfl
  have hothers : forall j, j ≠ k -> (truckHoldings db').held j = (truckHoldings db).held j :=
    fun j hj => h.held hj
  have hidle : (truckHoldings db).held k = none := h.idle
  have havail : forall r, hasAvailability db' r .available =
      hasAvailability (setAvailability truckId .busy db) r .available :=
    fun r => hasAvailability_congr h.trucks _
  refine ⟨h.consistent hconsistent fun hwaits => ?_, fun i p hp => ⟨p, h.payments ▸ hp, rfl⟩,
    hlawful.gain hheld hothers (fun i _ hi => hlawful.occupied i truckId hi hfree) (fun hr => ?_)
      fun r hrq hr => ?_,
    .of_held fun i r hi => ⟨i, Holdings.held_gain (s := truckHoldings db) hheld hothers
      (Or.inl hidle) hi⟩⟩
  · rw [hstatus] at hwaits
    simp at hwaits
  · have hoffer : hasAvailability db' truckId .available = true := hr
    rw [havail, hasAvailability_setAvailability, if_pos rfl] at hoffer
    simp at hoffer
  · have hoffer : hasAvailability db' r .available = true := hr
    rw [havail, hasAvailability_setAvailability, if_neg hrq] at hoffer
    exact hoffer

theorem assertStillNeedsJob_eq_ok {orderId : Id} (h : assertStillNeedsJob orderId db = .ok ()) :
    hasLiveJob db orderId = false := by
  unfold assertStillNeedsJob at h
  split at h
  · cases h
  · obtain ⟨_, -, h⟩ := bind_eq_ok.1 h
    split at h
    · cases h
    · next hdead => exact Bool.not_eq_true _ ▸ hdead

theorem claimAvailableTruck_eq_ok (h : claimAvailableTruck truckId db = .ok db') :
    hasAvailability db truckId .available = true ∧ db' = setAvailability truckId .busy db := by
  unfold claimAvailableTruck at h
  split at h
  · next hfree => exact ⟨hfree, (Except.ok.inj h).symm⟩
  · cases h

theorem FollowsTrucks.arrangeOrder {orderId : Id} (h : FollowsTrucks db db') :
    FollowsTrucks db (arrangeOrder orderId db') :=
  ⟨⟨h.consistent.perOrder, h.consistent.waiting, h.consistent.hired, h.consistent.owned⟩,
    h.payments, h.lawful, h.returned⟩

theorem createTransportJob_follows {r : TransportRequest} (hlawful : (truckHoldings db).Lawful)
    (hdb : TransportConsistent db) (h : createTransportJob env r db = .ok db') :
    FollowsTrucks db db' := by
  unfold createTransportJob at h
  split at h
  · cases h
  · obtain ⟨_, -, h⟩ := bind_eq_ok.1 h
    split at h
    · unfold requestTransport at h
      obtain ⟨_, hneeds, h⟩ := bind_eq_ok.1 h
      obtain rfl := Except.ok.inj h
      obtain ⟨k, hplaced⟩ := placeJob_placed r.job hdb (assertStillNeedsJob_eq_ok hneeds)
      exact (hplaced.follows_waiting hlawful hdb rfl rfl).arrangeOrder
    · cases h
    · next truckId hmethod _ =>
        unfold assignOwnTruck at h
        obtain ⟨_, hneeds, h⟩ := bind_eq_ok.1 h
        split at h
        · cases h
        · next truck htruck =>
            replace h := (guard_eq_ok.mp h).2
            obtain ⟨claimed, hclaim, h⟩ := bind_eq_ok.1 h
            obtain rfl := Except.ok.inj h
            obtain ⟨hfree, rfl⟩ := claimAvailableTruck_eq_ok hclaim
            have hdead : hasLiveJob (setAvailability truckId .busy db) r.orderId = false :=
              assertStillNeedsJob_eq_ok hneeds
            have hconsistent : TransportConsistent (setAvailability truckId .busy db) :=
              ⟨hdb.perOrder, hdb.waiting, hdb.hired, hdb.owned⟩
            obtain ⟨k, hplaced⟩ := placeJob_placed (r.ownJob env truckId truck)
              hconsistent hdead
            exact (hplaced.follows_own hlawful hdb rfl hmethod rfl hfree).arrangeOrder

end Placing

/-! ## The owner's own changes -/

section Availability

variable {db db' : Db} {caller : Caller} {truckId : Id} {requested : TruckAvailability}

theorem updateAvailability_follows (hlawful : (truckHoldings db).Lawful)
    (hdb : TransportConsistent db) (h : updateAvailability caller truckId requested db = .ok db') :
    FollowsTrucks db db' := by
  unfold updateAvailability at h
  split at h
  · cases h
  · simp only [guard_eq_ok] at h
    obtain ⟨-, hunused, h⟩ := h
    obtain rfl := Except.ok.inj h
    refine ⟨⟨hdb.perOrder, hdb.waiting, hdb.hired, hdb.owned⟩, fun i p hp => ⟨p, hp, rfl⟩,
      ⟨hlawful.exclusive, fun i r hi hr => ?_⟩, .of_held fun i r hi => ⟨i, hi⟩⟩
    have hoffer : hasAvailability (setAvailability truckId requested db) r .available =
      true := hr
    rw [hasAvailability_setAvailability] at hoffer
    split at hoffer
    · next hr =>
        subst hr
        simp only [Bool.and_eq_true, decide_eq_true_eq] at hoffer
        refine hunused ⟨hoffer.2.symm, ?_⟩
        obtain ⟨job, hjob, hcommitted, hnames⟩ := committedTruck_eq_some.1 hi
        unfold isCommitted at hcommitted
        rw [Bool.and_eq_true] at hcommitted
        unfold hasActiveJob
        rw [Table.any_eq_true_iff]
        exact ⟨i, job, hjob, by simp [hnames, hcommitted.1]⟩
    · exact hlawful.occupied i r hi hoffer

end Availability

/-! ## Bids and payments -/

section Rows

variable {env : Env} {db db' : Db}

theorem assertTakesBids_eq_ok {job : TransportJob} {canBid : Except ApiError Unit}
    (h : assertTakesBids job db canBid = .ok ()) :
    job.method = .hireTransporter := by
  unfold assertTakesBids at h
  split at h
  · cases h
  · obtain ⟨_, -, h⟩ := bind_eq_ok.1 h
    split at h
    · cases h
    · next hmethod => exact not_not.1 hmethod

theorem submitQuote_follows {canBid : Except ApiError Unit} {q : QuoteSubmission}
    (hlawful : (truckHoldings db).Lawful) (hdb : TransportConsistent db)
    (h : submitQuote canBid q db = .ok db') :
    FollowsTrucks db db' := by
  unfold submitQuote at h
  split at h
  · cases h
  · next job hjob =>
      obtain ⟨_, htakes, h⟩ := bind_eq_ok.1 h
      obtain ⟨truckId, -, h⟩ := bind_eq_ok.1 h
      obtain ⟨_, -, h⟩ := bind_eq_ok.1 h
      obtain ⟨_, -, h⟩ := bind_eq_ok.1 h
      obtain rfl := Except.ok.inj h
      have hopened : KeepsTrucks db { db with
          transportJobs := if job.status = .requested then
            db.transportJobs.update q.jobId ({ · with status := .quoted }) else
            db.transportJobs } := by
        by_cases hrequested : job.status = .requested
        · refine .update (k := q.jobId) hlawful (if_pos hrequested) (fun row hrow => ?_) rfl
            (.refl TransportQuote.Kept.refl _) (Payment.FeeKept.of_eq rfl) (fun _ _ _ _ _ => rfl)
            (Or.inl ?_)
          · obtain rfl := Option.some.inj (hjob.symm.trans hrow)
            exact ⟨rfl, rfl, fun _ => Or.inr ⟨by simp [hrequested], rfl⟩⟩
          · rw [committedTruck_ended (if_pos hrequested) fun _ _ => rfl]
            refine (committedTruck_of_inactive fun row hrow => ?_).symm
            obtain rfl := Option.some.inj (hjob.symm.trans hrow)
            rw [hrequested]
            rfl
        · simp only [if_neg hrequested]
          exact .refl hlawful
      have hopen := hopened.kept.consistent hdb
      refine ⟨⟨hopen.perOrder, hopen.waiting, fun i quote hquote hlive => ?_, hopen.owned⟩,
        fun i p hp => ⟨p, hp, rfl⟩, hopened.holdings.lawful, hopened.holdings.returned⟩
      change (db.transportQuotes.create _).findUnique i = some quote at hquote
      rcases Table.of_findUnique_create hquote with ⟨-, rfl⟩ | ⟨-, hquote⟩
      · obtain ⟨row, hrow, hkept⟩ := hopened.kept.jobs.of_left hjob
        exact ⟨row, hrow, hkept.method.trans (assertTakesBids_eq_ok htakes)⟩
      · exact hopen.hired i quote hquote hlive

def CreatePaymentData.isForJob (data : CreatePaymentData) (db : Db) : Bool :=
  data.type ≠ .transport || data.transportJobId.all fun jobId =>
    (db.transportJobs.findUnique jobId).any fun job => data.orderId = some job.orderId

theorem committedTruck_create {row : Payment} (hrow : row.status = .pending) :
    committedTruck { db with payments := db.payments.create row } = committedTruck db := by
  have hpaid : forall j, hasTransportPayment { db with payments := db.payments.create row } j
      [.paid] = hasTransportPayment db j [.paid] := by
    intro j
    unfold hasTransportPayment
    rw [Bool.eq_iff_iff, Table.any_eq_true_iff, Table.any_eq_true_iff]
    constructor
    · rintro ⟨i, p, hp, hfee⟩
      rcases Table.of_findUnique_create hp with ⟨-, rfl⟩ | ⟨-, hp⟩
      · simp [hrow] at hfee
      · exact ⟨i, p, hp, hfee⟩
    · rintro ⟨i, p, hp, hfee⟩
      refine ⟨i, p, ?_, hfee⟩
      rw [Table.findUnique_create, if_neg (Table.lt_size_of_findUnique hp).ne]
      exact hp
  funext j
  unfold committedTruck isCommitted
  simp only [hpaid]

theorem createPayment_follows {data : CreatePaymentData} {id : Id}
    (hlawful : (truckHoldings db).Lawful) (hdb : TransportConsistent db)
    (hjob : data.isForJob db = true) (h : createPayment env data db = .ok (db', id)) :
    FollowsTrucks db db' := by
  have hrow := createPayment_row h
  split at hrow
  · obtain ⟨amount, o, hintent, -, rfl⟩ := hrow
    have hsynced : KeepsTrucks db (syncedFor data db) := by
      unfold syncedFor
      split
      · exact .refl hlawful
      · next orderId _ =>
          have hsame := syncOrderPaymentObligations_sameTransport orderId db
          exact .same hlawful hsame.transportJobs hsame.trucks
            (hsame.transportQuotes ▸ .refl TransportQuote.Kept.refl _)
            (syncOrderPaymentObligations_linksOnly orderId db).feeKept fun _ _ _ _ => rfl
    have hconsistent := hsynced.kept.consistent hdb
    have hheld : committedTruck { syncedFor data db with
        payments := (syncedFor data db).payments.create (data.row env amount o) } =
          committedTruck (syncedFor data db) := committedTruck_create hintent.pending
    refine ⟨⟨hconsistent.perOrder, hconsistent.waiting, hconsistent.hired,
      fun i p hp htype jobId hjobId => ?_⟩, fun i p hp => ?_,
      hsynced.holdings.lawful.mono hheld fun _ hr => hr, ?_⟩
    · change ((syncedFor data db).payments.create _).findUnique i = some p at hp
      rcases Table.of_findUnique_create hp with ⟨-, rfl⟩ | ⟨-, hp⟩
      · unfold CreatePaymentData.isForJob at hjob
        rw [show data.type = .transport from htype, show data.transportJobId = some jobId from hjobId,
          Option.all_some] at hjob
        simp only [ne_eq, not_true_eq_false, decide_false, Bool.false_or, Option.any_eq_true,
          decide_eq_true_eq] at hjob
        obtain ⟨job, hfound, horder⟩ := hjob
        obtain ⟨job', hjob', hkept⟩ := hsynced.kept.jobs.of_left hfound
        exact ⟨job', hjob', horder.trans (congrArg some hkept.orderId.symm)⟩
      · exact hconsistent.owned i p hp htype jobId hjobId
    · obtain ⟨p', hp', hcore⟩ := hsynced.kept.payments.of_left hp
      refine ⟨p', ?_, hcore⟩
      change ((syncedFor data db).payments.create _).findUnique i = some p'
      rw [Table.findUnique_create, if_neg (Table.lt_size_of_findUnique hp').ne]
      exact hp'
    · intro i r hi hbusy hidle
      refine hsynced.holdings.returned i r hi hbusy fun j hj => hidle j ?_
      exact (congrFun hheld j).trans hj
  · obtain rfl := hrow
    exact .refl hdb hlawful

end Rows

end MarketBridge
