import MarketBridge.Order.CancellationSpec

/-!
# Refund requests in a loop

What a list of refund requests does to each payment: a received payment without
a refund comes under refund, one whose refund is already there keeps its status,
and no request fails as long as every amount is positive.
-/

namespace MarketBridge

open Relational

def PaymentRefundStatus.blocksRequest (s : PaymentRefundStatus) : Bool :=
  s ∈ [PaymentRefundStatus.requested, .processing, .completed]

def HasBlockingRefund (db : Db) (i : Id) : Prop :=
  exists j, HasRefund db.refunds i PaymentRefundStatus.blocksRequest j

/-- The payment is received, and no refund stands in the way of a new one. -/
structure AwaitsRefund (db : Db) (i : Id) : Prop where
  paid : exists p, db.payments.findUnique i = some p ∧ p.status = .paid
  free : ¬ HasBlockingRefund db i

/-- The payment is `REFUND_PENDING` with exactly one open refund. -/
structure UnderRefund (db : Db) (i : Id) : Prop where
  pending : exists p, db.payments.findUnique i = some p ∧ p.status = .refundPending
  one : ∃! j, OpenRefund db.refunds i j

/-- The payment is `PAID` although a refund of it is open or completed. -/
structure IsStuck (db : Db) (i : Id) : Prop where
  paid : exists p, db.payments.findUnique i = some p ∧ p.status = .paid
  blocked : HasBlockingRefund db i

def IsDue (db : Db) (i : Id) : Prop :=
  exists p, db.payments.findUnique i = some p ∧ 0 < p.amount ∧
    (p.status = .paid ∨ p.status = .refundPending ∧ HasBlockingRefund db i)

theorem UnderRefund.blocked {db : Db} {i : Id} (h : UnderRefund db i) :
    HasBlockingRefund db i := by
  obtain ⟨j, ⟨r, hr, howner, hopen⟩, -⟩ := h.one
  refine ⟨j, r, hr, howner, ?_⟩
  cases hs : r.status <;> simp_all [PaymentRefundStatus.isOpen, PaymentRefundStatus.blocksRequest]

theorem newestRefund_eq_none_iff (db : Db) (i : Id) :
    newestRefund db i [.requested, .processing, .completed] = none ↔
      ¬ HasBlockingRefund db i := by
  constructor
  · rintro hnone ⟨j, hj⟩
    exact newestRefund_eq_none hnone (fun _ hs => of_decide_eq_true hs) j hj
  · intro hfree
    cases hnewest : newestRefund db i [.requested, .processing, .completed] with
    | none =>
        rfl
    | some e =>
        obtain ⟨hr, howner, hs⟩ := newestRefund_eq_some hnewest
        exact absurd ⟨e.1, e.2, hr, howner, decide_eq_true hs⟩ hfree

/-! ## One request -/

def RefundCreated (db : Db) (i : Id) (db' : Db) : Prop :=
  exists r events, r.paymentId = i ∧ r.status = .requested ∧
    db' = { db with
      payments := db.payments.update i (·.withStatus .refundPending)
      refunds := db.refunds.create r
      orderEvents := events }

theorem requestRefund_of_blocked {env : Env} {reason : Option String} {actorId : Option Id}
    {db : Db} {i : Id} {p : Payment} (hp : db.payments.findUnique i = some p)
    (hs : p.status ∈ [PaymentStatus.paid, .refundPending]) (hpos : 0 < p.amount)
    (hblocked : HasBlockingRefund db i) :
    exists j, requestRefund env i none reason actorId db = .ok (db, j) := by
  have hamount : fullRefundAmount p none = some p.amount := by
    simp [fullRefundAmount, hpos]
  cases hnewest : newestRefund db i [.requested, .processing, .completed] with
  | none =>
      exact absurd hblocked ((newestRefund_eq_none_iff db i).mp hnewest)
  | some e =>
      refine ⟨e.1, ?_⟩
      unfold requestRefund
      simp only [hp, if_pos hs, hamount, hnewest]

theorem requestRefund_of_free {env : Env} {reason : Option String} {actorId : Option Id}
    {db : Db} {i : Id} {p : Payment} (hindexed : PaymentsIndexed db.payments)
    (hp : db.payments.findUnique i = some p) (hs : p.status = .paid) (hpos : 0 < p.amount)
    (hfree : ¬ HasBlockingRefund db i) :
    exists db' j, requestRefund env i none reason actorId db = .ok (db', j) ∧
      RefundCreated db i db' := by
  have hmem : p.status ∈ [PaymentStatus.paid, .refundPending] := by simp [hs]
  have hamount : fullRefundAmount p none = some p.amount := by
    simp [fullRefundAmount, hpos]
  have hnewest := (newestRefund_eq_none_iff db i).mpr hfree
  have hconflict := hindexed.inactive_conflict hp (s := .refundPending) (by simp)
  have hwrite : updatePayment i (·.withStatus .refundPending) db =
      .ok { db with payments := db.payments.update i (·.withStatus .refundPending) } :=
    updatePayment_eq_ok_iff.mpr ⟨p, hp, hconflict, rfl⟩
  have hmove : movePayment i .paid .refundPending db =
      .ok ({ db with payments := db.payments.update i (·.withStatus .refundPending) }, true) := by
    unfold movePayment
    simp only [hp, if_pos hs, hwrite]
    rfl
  have hreset : resetForRetry i p db = .ok db := by
    unfold resetForRetry
    rw [if_neg (by rw [hs]; decide)]
  obtain ⟨events, hevents⟩ := recordOrderEvent_frame env p.orderId .paymentRefundRequested
    { db with
      payments := db.payments.update i (·.withStatus .refundPending)
      refunds := db.refunds.create (newRefund i p p.amount reason actorId) }
  refine ⟨_, db.refunds.size, ?_, newRefund i p p.amount reason actorId, events, rfl, rfl, rfl⟩
  unfold requestRefund
  simp only [hp, if_pos hmem, hamount, hnewest, hreset, hmove, assertTransition_eq_ok_iff.mpr
    (show canTransition .paid .refundPending = true by decide), ok_bind, if_true]
  rw [hevents]

theorem requestRefund_due {env : Env} {reason : Option String} {actorId : Option Id}
    {db : Db} {i : Id} (hindexed : PaymentsIndexed db.payments) (hdue : IsDue db i) :
    exists db' j, requestRefund env i none reason actorId db = .ok (db', j) ∧
      (db' = db ∧ HasBlockingRefund db i ∨ AwaitsRefund db i ∧ RefundCreated db i db') := by
  obtain ⟨p, hp, hpos, hs⟩ := hdue
  by_cases hblocked : HasBlockingRefund db i
  · have hmem : p.status ∈ [PaymentStatus.paid, .refundPending] := by
      rcases hs with hs | ⟨hs, -⟩ <;> simp [hs]
    obtain ⟨j, hok⟩ := requestRefund_of_blocked hp hmem hpos hblocked
    exact ⟨db, j, hok, Or.inl ⟨rfl, hblocked⟩⟩
  · have hpaid : p.status = .paid := by
      rcases hs with hs | ⟨-, hblocked'⟩
      · exact hs
      · exact absurd hblocked' hblocked
    obtain ⟨db', j, hok, hcreated⟩ := requestRefund_of_free hindexed hp hpaid hpos hblocked
    exact ⟨db', j, hok, Or.inr ⟨⟨⟨p, hp, hpaid⟩, hblocked⟩, hcreated⟩⟩

/-! ## What a created refund changes -/

section Created

variable {db db' : Db} {i k : Id}

theorem RefundCreated.indexed (h : RefundCreated db k db')
    (hindexed : PaymentsIndexed db.payments) :
    PaymentsIndexed db'.payments := by
  obtain ⟨r, events, -, -, rfl⟩ := h
  apply hindexed.update
  intro p hp
  exact hindexed.inactive_conflict hp (by simp)

theorem RefundCreated.hasRefund_other (h : RefundCreated db k db') (hik : i ≠ k)
    (φ : PaymentRefundStatus -> Bool) (j : Id) :
    HasRefund db'.refunds i φ j ↔ HasRefund db.refunds i φ j := by
  obtain ⟨r, events, howner, -, rfl⟩ := h
  rw [hasRefund_create]
  by_cases hj : j = db.refunds.size
  · have hnew : ¬ (r.paymentId = i ∧ φ r.status = true) := by
      rintro ⟨hi, -⟩
      exact hik (hi.symm.trans howner)
    have hold : ¬ HasRefund db.refunds i φ j := by
      rintro ⟨q, hq, -⟩
      rw [hj, Table.findUnique_size] at hq
      cases hq
    rw [if_pos hj]
    exact iff_of_false hnew hold
  · rw [if_neg hj]

theorem RefundCreated.payment_other (h : RefundCreated db k db') (hik : i ≠ k) :
    db'.payments.findUnique i = db.payments.findUnique i := by
  obtain ⟨r, events, -, -, rfl⟩ := h
  exact Table.findUnique_update_ne hik

theorem RefundCreated.blocked_other (h : RefundCreated db k db') (hik : i ≠ k) :
    HasBlockingRefund db' i ↔ HasBlockingRefund db i := by
  unfold HasBlockingRefund
  simp only [h.hasRefund_other hik]

theorem RefundCreated.payment_self (h : RefundCreated db k db') {p : Payment}
    (hp : db.payments.findUnique k = some p) :
    db'.payments.findUnique k = some (p.withStatus .refundPending) := by
  obtain ⟨r, events, -, -, rfl⟩ := h
  rw [Table.findUnique_update_self, hp]
  rfl

theorem RefundCreated.underRefund (h : RefundCreated db k db') (hawaits : AwaitsRefund db k) :
    UnderRefund db' k := by
  obtain ⟨p, hp, -⟩ := hawaits.paid
  refine ⟨⟨_, h.payment_self hp, rfl⟩, ?_⟩
  obtain ⟨r, events, howner, hs, rfl⟩ := h
  have hopen : forall j, OpenRefund (db.refunds.create r) k j ↔ j = db.refunds.size := by
    intro j
    unfold OpenRefund
    rw [hasRefund_create]
    by_cases hj : j = db.refunds.size
    · simp [hj, howner, hs, PaymentRefundStatus.isOpen]
    · have hnone : ¬ OpenRefund db.refunds k j := by
        rintro ⟨q, hq, hk, hqopen⟩
        apply hawaits.free
        refine ⟨j, q, hq, hk, ?_⟩
        cases hqs : q.status <;>
          simp_all [PaymentRefundStatus.isOpen, PaymentRefundStatus.blocksRequest]
      rw [if_neg hj]
      exact iff_of_false hnone hj
  exact ⟨db.refunds.size, (hopen _).mpr rfl, fun j hj => (hopen j).mp hj⟩

theorem RefundCreated.isDue (h : RefundCreated db k db') (hawaits : AwaitsRefund db k)
    (hdue : IsDue db i) :
    IsDue db' i := by
  obtain ⟨p, hp, hpos, hs⟩ := hdue
  by_cases hik : i = k
  · subst hik
    exact ⟨p.withStatus .refundPending, h.payment_self hp, hpos,
      Or.inr ⟨rfl, (h.underRefund hawaits).blocked⟩⟩
  · refine ⟨p, by rw [h.payment_other hik]; exact hp, hpos, ?_⟩
    rw [h.blocked_other hik]
    exact hs

theorem RefundCreated.awaits_other (h : RefundCreated db k db') (hik : i ≠ k)
    (hawaits : AwaitsRefund db i) :
    AwaitsRefund db' i := by
  obtain ⟨p, hp, hs⟩ := hawaits.paid
  refine ⟨⟨p, by rw [h.payment_other hik]; exact hp, hs⟩, ?_⟩
  rw [h.blocked_other hik]
  exact hawaits.free

theorem RefundCreated.under (h : RefundCreated db k db') (hawaits : AwaitsRefund db k)
    (hunder : UnderRefund db i) :
    UnderRefund db' i := by
  by_cases hik : i = k
  · rw [hik]
    exact h.underRefund hawaits
  · obtain ⟨p, hp, hs⟩ := hunder.pending
    refine ⟨⟨p, by rw [h.payment_other hik]; exact hp, hs⟩, ?_⟩
    simp only [OpenRefund, h.hasRefund_other hik]
    exact hunder.one

theorem RefundCreated.stuck (h : RefundCreated db k db') (hawaits : AwaitsRefund db k)
    (hstuck : IsStuck db i) :
    IsStuck db' i := by
  have hik : i ≠ k := by
    intro hik
    rw [hik] at hstuck
    exact hawaits.free hstuck.blocked
  obtain ⟨p, hp, hs⟩ := hstuck.paid
  refine ⟨⟨p, by rw [h.payment_other hik]; exact hp, hs⟩, ?_⟩
  rw [h.blocked_other hik]
  exact hstuck.blocked

end Created

/-! ## A list of requests -/

/-- The outcome of a list of requests for due payments. -/
structure AllRequested (ids : List Id) (db db' : Db) : Prop where
  under : forall i, i ∈ ids -> AwaitsRefund db i -> UnderRefund db' i
  kept : forall i, UnderRefund db i -> UnderRefund db' i
  stuck : forall i, IsStuck db i -> IsStuck db' i
  other : forall i, i ∉ ids ->
    db'.payments.findUnique i = db.payments.findUnique i ∧
      forall φ j, HasRefund db'.refunds i φ j ↔ HasRefund db.refunds i φ j

theorem requestRefunds_of_due {env : Env} {reason : Option String} {actorId : Option Id}
    {ids : List Id} {db : Db} (hindexed : PaymentsIndexed db.payments)
    (hdue : forall i, i ∈ ids -> IsDue db i) :
    exists db', requestRefunds env reason actorId ids db = .ok db' ∧ AllRequested ids db db' := by
  induction ids generalizing db with
  | nil =>
      refine ⟨db, rfl, ?_, fun _ h => h, fun _ h => h, fun _ _ => ⟨rfl, fun _ _ => Iff.rfl⟩⟩
      intro i hi
      cases hi
  | cons k ids ih =>
      obtain ⟨db₁, j, hok, hcases⟩ := @requestRefund_due env
        (jsOr reason (some "Order cancellation")) actorId db k hindexed
        (hdue k (List.mem_cons_self ..))
      have hstep : requestRefunds env reason actorId (k :: ids) db =
          requestRefunds env reason actorId ids db₁ := by
        unfold requestRefunds
        rw [List.foldlM_cons, hok]
        rfl
      rw [hstep]
      rcases hcases with ⟨rfl, hblocked⟩ | ⟨hawaits, hcreated⟩
      · obtain ⟨db', hrest, hall⟩ := ih hindexed fun i hi => hdue i (List.mem_cons_of_mem _ hi)
        refine ⟨db', hrest, ?_, hall.kept, hall.stuck, ?_⟩
        · intro i hi hawaits
          rcases List.mem_cons.mp hi with rfl | htail
          · exact absurd hblocked hawaits.free
          · exact hall.under i htail hawaits
        · intro i hi
          exact hall.other i fun htail => hi (List.mem_cons_of_mem _ htail)
      · obtain ⟨db', hrest, hall⟩ := ih (hcreated.indexed hindexed) fun i hi =>
          hcreated.isDue hawaits (hdue i (List.mem_cons_of_mem _ hi))
        refine ⟨db', hrest, ?_, ?_, ?_, ?_⟩
        · intro i hi hawaits'
          by_cases hik : i = k
          · rw [hik]
            exact hall.kept k (hcreated.underRefund hawaits)
          · have htail : i ∈ ids := by
              rcases List.mem_cons.mp hi with hhead | htail
              · exact absurd hhead hik
              · exact htail
            exact hall.under i htail (hcreated.awaits_other hik hawaits')
        · intro i hunder
          exact hall.kept i (hcreated.under hawaits hunder)
        · intro i hstuck
          exact hall.stuck i (hcreated.stuck hawaits hstuck)
        · intro i hi
          have hik : i ≠ k := fun hik => hi (List.mem_cons.mpr (Or.inl hik))
          obtain ⟨hpayment, hrefunds⟩ := hall.other i fun htail => hi (List.mem_cons_of_mem _ htail)
          refine ⟨hpayment.trans (hcreated.payment_other hik), ?_⟩
          intro φ j
          rw [hrefunds, hcreated.hasRefund_other hik]

theorem requestRefund_of_nonpositive {env : Env} {reason : Option String}
    {actorId : Option Id} {db : Db} {i : Id} {p : Payment}
    (hp : db.payments.findUnique i = some p) (hpos : ¬ 0 < p.amount) :
    exists e, requestRefund env i none reason actorId db = .error e := by
  have hamount : fullRefundAmount p none = none := by
    simp [fullRefundAmount, hpos]
  unfold requestRefund
  simp only [hp, hamount]
  split
  · exact ⟨_, rfl⟩
  · exact ⟨_, rfl⟩

theorem requestRefunds_amounts {env : Env} {reason : Option String} {actorId : Option Id}
    {ids : List Id} {db db' : Db}
    (h : requestRefunds env reason actorId ids db = .ok db') :
    forall i p, i ∈ ids -> db.payments.findUnique i = some p -> 0 < p.amount := by
  induction ids generalizing db with
  | nil =>
      intro i p hi
      cases hi
  | cons k ids ih =>
      unfold requestRefunds at h
      rw [List.foldlM_cons, bind_eq_ok] at h
      obtain ⟨db₁, hstep, hrest⟩ := h
      rw [bind_eq_ok] at hstep
      obtain ⟨⟨db₂, id⟩, hrequest, hok⟩ := hstep
      simp only [Except.ok.injEq] at hok
      subst hok
      obtain ⟨hadded, -⟩ := requestRefund_refundsAdded hrequest
      intro i p hi hp
      rcases List.mem_cons.mp hi with rfl | htail
      · by_contra hpos
        obtain ⟨e, he⟩ := @requestRefund_of_nonpositive env
          (jsOr reason (some "Order cancellation")) actorId db i p hp hpos
        rw [he] at hrequest
        cases hrequest
      · rcases hadded.payments i with hsame | ⟨q, s, hq, -, hq'⟩
        · exact ih hrest i p htail (by rw [hsame]; exact hp)
        · rw [hp, Option.some.injEq] at hq
          have hpos := ih hrest i (q.withStatus s) htail hq'
          rw [hq]
          exact hpos

end MarketBridge
