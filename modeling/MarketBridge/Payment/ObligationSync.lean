import MarketBridge.Payment.Payability

/-!
# The transport obligation after a synchronisation

A synchronisation leaves the transport fee of an order open exactly while its
job names a hired transporter and a fee and no payment has settled it.  The
status of the job plays no part in it.
-/

namespace MarketBridge

open Relational

/-! ## What a synchronisation leaves alone -/

def Payment.unlinked (p : Payment) : Payment :=
  { p with obligationId := none }

/-- The database up to obligations and the links of payments to them. -/
structure LinksOnly (db db' : Db) : Prop where
  frame : exists payments obligations,
    db' = { db with payments := payments, obligations := obligations }
  payments : forall i, (db'.payments.findUnique i).map Payment.unlinked =
    (db.payments.findUnique i).map Payment.unlinked

theorem LinksOnly.refl (db : Db) : LinksOnly db db :=
  ⟨⟨_, _, rfl⟩, fun _ => rfl⟩

theorem LinksOnly.trans {db db' db'' : Db} (h : LinksOnly db db') (h' : LinksOnly db' db'') :
    LinksOnly db db'' := by
  refine ⟨?_, fun i => (h'.payments i).trans (h.payments i)⟩
  obtain ⟨_, _, rfl⟩ := h.frame
  obtain ⟨_, _, rfl⟩ := h'.frame
  exact ⟨_, _, rfl⟩

theorem linkPayment_linksOnly (payment : Option (Id × Payment)) (obligationId : Id) (db : Db) :
    LinksOnly db (linkPayment payment obligationId db) := by
  unfold linkPayment
  cases payment with
  | none =>
      exact .refl db
  | some e =>
      simp only
      split
      · exact .refl db
      · refine ⟨⟨_, _, rfl⟩, ?_⟩
        intro i
        rw [Table.findUnique_update]
        split
        · rw [Option.map_map]
          rfl
        · rfl

theorem upsertObligation_linksOnly (item : DesiredObligation) (status : PaymentObligationStatus)
    (db : Db) :
    LinksOnly db (upsertObligation item status db).2 := by
  unfold upsertObligation
  cases obligationByKey db item.obligationKey with
  | some e =>
      exact ⟨⟨_, _, rfl⟩, fun _ => rfl⟩
  | none =>
      exact ⟨⟨_, _, rfl⟩, fun _ => rfl⟩

theorem retireObligations_linksOnly (p : PaymentObligation -> Bool) (db : Db) :
    LinksOnly db (retireObligations p db) :=
  ⟨⟨_, _, rfl⟩, fun _ => rfl⟩

theorem foldl_syncObligation_linksOnly {loaded : Db} {orderId : Id}
    (items : List DesiredObligation) (db : Db) :
    LinksOnly db (items.foldl (fun s item => syncObligation loaded orderId item s) db) := by
  induction items generalizing db with
  | nil =>
      exact .refl db
  | cons item items ih =>
      have hstep : LinksOnly db (syncObligation loaded orderId item db) :=
        (upsertObligation_linksOnly item _ db).trans (linkPayment_linksOnly _ _ _)
      exact hstep.trans (ih _)

theorem syncOrderPaymentObligations_linksOnly (orderId : Id) (db : Db) :
    LinksOnly db (syncOrderPaymentObligations orderId db) := by
  unfold syncOrderPaymentObligations
  cases db.orders.findUnique orderId with
  | none =>
      exact .refl db
  | some order =>
      have hfirst := retireObligations_linksOnly (isUnconfirmedFee db orderId) db
      exact (hfirst.trans (foldl_syncObligation_linksOnly _ _)).trans
        (retireObligations_linksOnly _ _)

/-! ## Open obligations -/

def HasOpenObligation (db : Db) (orderId : Id) (type : PaymentType) : Prop :=
  exists i b, db.obligations.findUnique i = some b ∧ b.orderId = orderId ∧ b.type = type ∧
    b.status = .open

theorem ObligationsIndexed.eq_of_key {db : Db} (h : ObligationsIndexed db) {i j : Id}
    {b c : PaymentObligation} (hb : db.obligations.findUnique i = some b)
    (hc : db.obligations.findUnique j = some c) (hkey : b.obligationKey = c.obligationKey) :
    b = c := by
  by_cases hij : i = j
  · subst hij
    rw [hb] at hc
    exact Option.some.inj hc
  · have hdiffer := h i j b c hb hc hij
    simp [sameObligationKey, hkey] at hdiffer

theorem PaymentObligation.synced_of_key {b : PaymentObligation} {item : DesiredObligation}
    (hkey : b.obligationKey = item.obligationKey) (status : PaymentObligationStatus) :
    (b.synced item status).status = status := by
  unfold PaymentObligation.synced
  rw [dif_pos hkey]

theorem upsertObligation_written (item : DesiredObligation) (status : PaymentObligationStatus)
    (db : Db) :
    exists i b, (upsertObligation item status db).2.obligations.findUnique i = some b ∧
      b.obligationKey = item.obligationKey ∧ b.status = status := by
  unfold upsertObligation
  cases hfound : obligationByKey db item.obligationKey with
  | some e =>
      obtain ⟨o, b⟩ := e
      obtain ⟨hb, hkey⟩ := Table.findFirst_eq_some hfound
      have hkeyEq : b.obligationKey = item.obligationKey := of_decide_eq_true hkey
      refine ⟨o, b.synced item status, ?_, ?_, b.synced_of_key hkeyEq status⟩
      · simp only [Table.findUnique_update_self, hb, Option.map_some]
      · rw [b.synced_obligationKey item status, hkeyEq]
  | none =>
      exact ⟨db.obligations.size, item.row status, Table.findUnique_create_self _ _, rfl, rfl⟩

/-- The row that a pass of the loop leaves for its key. -/
theorem syncObligation_open_iff {loaded db : Db} {orderId : Id} {item : DesiredObligation}
    (hindexed : ObligationsIndexed db) :
    (exists i b, (syncObligation loaded orderId item db).obligations.findUnique i = some b ∧
      b.obligationKey = item.obligationKey ∧ b.status = .open) ↔
      (isPaidPayment (matchingPayment loaded orderId item) ||
        isPaidPayment ((obligationByKey db item.obligationKey).bind fun e =>
          obligationPayment db e.1)) = false := by
  have hafter : ObligationsIndexed (syncObligation loaded orderId item db) :=
    syncObligation_indexed hindexed
  have hwritten : exists i b,
      (syncObligation loaded orderId item db).obligations.findUnique i = some b ∧
        b.obligationKey = item.obligationKey ∧
        b.status = if (isPaidPayment (matchingPayment loaded orderId item) ||
          isPaidPayment ((obligationByKey db item.obligationKey).bind fun e =>
            obligationPayment db e.1)) then PaymentObligationStatus.paid else .open := by
    unfold syncObligation
    rw [linkPayment_obligations]
    exact upsertObligation_written item _ db
  obtain ⟨i, b, hb, hkey, hstatus⟩ := hwritten
  constructor
  · rintro ⟨j, c, hc, hkey', hopen⟩
    have hbc := hafter.eq_of_key hb hc (hkey.trans hkey'.symm)
    rw [← hbc, hstatus] at hopen
    by_contra hpaid
    rw [Bool.not_eq_false] at hpaid
    rw [if_pos hpaid] at hopen
    cases hopen
  · intro hunpaid
    rw [if_neg (by rw [hunpaid]; decide)] at hstatus
    exact ⟨i, b, hb, hkey, hstatus⟩

theorem hasOpenObligation_iff {db : Db} {orderId : Id} {type : PaymentType}
    (htype : type ≠ .inspector) :
    HasOpenObligation db orderId type ↔
      exists i b, db.obligations.findUnique i = some b ∧
        b.obligationKey = .ofType orderId type ∧ b.status = .open := by
  constructor
  · rintro ⟨i, b, hb, horder, hb_type, hopen⟩
    refine ⟨i, b, hb, ?_, hopen⟩
    rw [b.obligationKey_eq (by rw [hb_type]; exact htype), horder, hb_type]
  · rintro ⟨i, b, hb, hkey, hopen⟩
    obtain ⟨horder, hb_type⟩ := b.keyed
    rw [hkey] at horder hb_type
    exact ⟨i, b, hb, horder.symm, hb_type.symm, hopen⟩

theorem retireObligations_open_iff {db : Db} {p : PaymentObligation -> Bool} {orderId : Id}
    {type : PaymentType} :
    HasOpenObligation (retireObligations p db) orderId type ↔
      exists i b, db.obligations.findUnique i = some b ∧ b.orderId = orderId ∧ b.type = type ∧
        b.status = .open ∧ p b = false := by
  unfold HasOpenObligation retireObligations
  constructor
  · rintro ⟨i, b, hb, horder, htype, hopen⟩
    simp only at hb
    rw [Table.findUnique_updateMany] at hb
    obtain ⟨c, hc, rfl⟩ := Option.map_eq_some_iff.mp hb
    by_cases hretired : (decide (c.status = .open) && p c) = true
    · rw [if_pos hretired] at hopen
      cases hopen
    · rw [if_neg hretired] at horder htype hopen
      refine ⟨i, c, hc, horder, htype, hopen, ?_⟩
      simpa [hopen] using hretired
  · rintro ⟨i, b, hb, horder, htype, hopen, hkept⟩
    refine ⟨i, b, ?_, horder, htype, hopen⟩
    simp only
    rw [Table.findUnique_updateMany, hb]
    simp [hkept]

/-! ## The fee -/

def otherObligations (db : Db) (orderId : Id) (order : Order) : List DesiredObligation :=
  goodsObligation orderId order ((transportJobOf db orderId).map Prod.snd) ++
    (liveInspections db orderId).flatMap fun e => inspectionObligations orderId order e.1 e.2

def beforeTransportFee (db : Db) (orderId : Id) (order : Order) : Db :=
  (otherObligations db orderId order).foldl (fun s item => syncObligation db orderId item s)
    (retireObligations (isUnconfirmedFee db orderId) db)

/-- A payment of the fee is received, or one that is linked to its obligation. -/
def transportFeeIsPaid (db : Db) (orderId : Id) (order : Order) : Bool :=
  (transportObligation orderId order (transportJobOf db orderId)).any fun item =>
    isPaidPayment (matchingPayment db orderId item) ||
      isPaidPayment ((obligationByKey (beforeTransportFee db orderId order)
        item.obligationKey).bind fun e =>
          obligationPayment (beforeTransportFee db orderId order) e.1)

def transportIsAgreed (db : Db) (orderId : Id) : Bool :=
  (transportJobOf db orderId).any fun e => (transportStillAgreed e.2).isSome

theorem syncOrderPaymentObligations_eq {db : Db} {orderId : Id} {order : Order}
    (horder : db.orders.findUnique orderId = some order) :
    syncOrderPaymentObligations orderId db =
      retireObligations (isRetired db orderId (desiredObligations db orderId order))
        ((transportObligation orderId order (transportJobOf db orderId)).foldl
          (fun s item => syncObligation db orderId item s) (beforeTransportFee db orderId order)) := by
  unfold syncOrderPaymentObligations
  rw [horder]
  simp only [desiredObligations, beforeTransportFee, otherObligations, List.foldl_append]

theorem beforeTransportFee_indexed {db : Db} {orderId : Id} {order : Order}
    (h : ObligationsIndexed db) :
    ObligationsIndexed (beforeTransportFee db orderId order) :=
  foldl_syncObligation_indexed _ (h.updateMany fun _ => rfl)

theorem sync_transport_open_iff {db : Db} {orderId : Id} {order : Order}
    (hindexed : ObligationsIndexed db) (horder : db.orders.findUnique orderId = some order) :
    HasOpenObligation (syncOrderPaymentObligations orderId db) orderId .transport ↔
      transportIsAgreed db orderId = true ∧ transportFeeIsPaid db orderId order = false := by
  rw [syncOrderPaymentObligations_eq horder, retireObligations_open_iff]
  unfold transportIsAgreed transportFeeIsPaid
  cases hjob : transportJobOf db orderId with
  | none =>
      simp only [Option.any_none, Bool.false_eq_true, false_and, iff_false]
      rintro ⟨i, b, -, hb_order, htype, -, hkept⟩
      simp [isRetired, hb_order, htype, hjob] at hkept
  | some e =>
      obtain ⟨jobId, job⟩ := e
      cases hagreed : transportStillAgreed job with
      | none =>
          simp only [Option.any_some, hagreed, Option.isSome_none, Bool.false_eq_true,
            false_and, iff_false]
          rintro ⟨i, b, -, hb_order, htype, -, hkept⟩
          simp [isRetired, hb_order, htype, hjob, hagreed] at hkept
      | some terms =>
          obtain ⟨owner, amount⟩ := terms
          have hitem : exists item, transportObligation orderId order (some (jobId, job)) = [item] ∧
              item.obligationKey = .ofType orderId .transport := by
            simp only [transportObligation, hagreed]
            exact ⟨_, rfl, rfl⟩
          obtain ⟨item, hlist, hkey⟩ := hitem
          have hkept : forall b : PaymentObligation, b.type = .transport ->
              isRetired db orderId (desiredObligations db orderId order) b = false := by
            intro b htype
            simp [isRetired, htype, hjob, hagreed]
          have hread := @syncObligation_open_iff db (beforeTransportFee db orderId order) orderId
            item (beforeTransportFee_indexed hindexed)
          have hopen := @hasOpenObligation_iff
            (syncObligation db orderId item (beforeTransportFee db orderId order)) orderId
            .transport (by decide)
          rw [hlist]
          simp only [List.foldl_cons, List.foldl_nil, List.any_cons, List.any_nil, Bool.or_false,
            Option.any_some, hagreed, Option.isSome_some, true_and]
          rw [← hread, hkey, ← hopen]
          constructor
          · rintro ⟨i, b, hb, hb_order, htype, hb_open, -⟩
            exact ⟨i, b, hb, hb_order, htype, hb_open⟩
          · rintro ⟨i, b, hb, hb_order, htype, hb_open⟩
            exact ⟨i, b, hb, hb_order, htype, hb_open, hkept b htype⟩

end MarketBridge
