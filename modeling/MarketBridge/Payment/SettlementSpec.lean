import MarketBridge.Payment.Settlement

/-!
# What a settlement does

One statement per stage of `settlePaymentCore`: when the stage succeeds, and
what the database is afterwards.  The last section puts the stages together
into the four exits of the transaction.
-/

namespace MarketBridge

open Relational

/-! ## Frames of the record writers -/

theorem recordOrderEvent_frame
    (env : Env) (orderId : Option Id) (type : OrderEventType) (db : Db) :
    exists events, recordOrderEvent env orderId type db =
      { db with orderEvents := events } := by
  cases orderId with
  | none =>
      exact ⟨db.orderEvents, rfl⟩
  | some o =>
      exact ⟨_, rfl⟩

theorem withIssue_frame (env : Env) (data : ReconciliationData) (db : Db) :
    exists events, withIssue env data db =
      { db with
        orderEvents := events
        reconciliations := db.reconciliations.create data.row } := by
  obtain ⟨events, h⟩ := recordOrderEvent_frame env (paymentOrderId db data.paymentId)
    .paymentReconciliationRequired
    { db with reconciliations := db.reconciliations.create data.row }
  exact ⟨events, h⟩

@[simp] theorem withIssue_payments
    (env : Env) (data : ReconciliationData) (db : Db) :
    (withIssue env data db).payments = db.payments := by
  obtain ⟨events, h⟩ := withIssue_frame env data db
  rw [h]

theorem createLedgerEntryOnce_frame (entry : PaymentLedgerEntry) (db : Db) :
    exists entries, createLedgerEntryOnce entry db =
      { db with ledgerEntries := entries } := by
  unfold createLedgerEntryOnce
  split
  · exact ⟨db.ledgerEntries, rfl⟩
  · exact ⟨_, rfl⟩

theorem createLedgerEntries_frame (entries : List PaymentLedgerEntry) (db : Db) :
    exists ledger, entries.foldl (fun db e => createLedgerEntryOnce e db) db =
      { db with ledgerEntries := ledger } := by
  induction entries generalizing db with
  | nil =>
      exact ⟨db.ledgerEntries, rfl⟩
  | cons entry entries ih =>
      obtain ⟨created, hcreated⟩ := createLedgerEntryOnce_frame entry db
      obtain ⟨ledger, hledger⟩ := ih { db with ledgerEntries := created }
      refine ⟨ledger, ?_⟩
      rw [List.foldl_cons, hcreated]
      exact hledger

theorem writeLedgerPaid_frame (r : PaymentRecord) (db : Db) :
    exists entries, writeLedgerPaid r db = { db with ledgerEntries := entries } :=
  createLedgerEntries_frame (paidLedgerEntries r) db

def GainedHold (paymentId : Id) (payouts payouts' : Table Payout) : Prop :=
  payouts' = payouts ∨ exists hold : Payout,
    hold.status = .held ∧ hold.paymentId = paymentId ∧ payouts' = payouts.create hold

theorem createPayoutHold_frame
    (env : Env) (orderId : Option Id) (payeeRole : PayoutPayeeRole)
    (payeeId : Option Id) (paymentId : Id) (payment : Payment) (db : Db) :
    exists payouts, GainedHold paymentId db.payouts payouts ∧
      createPayoutHold env orderId payeeRole payeeId paymentId payment db =
        { db with payouts := payouts } := by
  unfold createPayoutHold
  cases payeeId with
  | none =>
      exact ⟨db.payouts, Or.inl rfl, rfl⟩
  | some payee =>
      dsimp only
      split
      · exact ⟨db.payouts, Or.inl rfl, rfl⟩
      · exact ⟨_, Or.inr ⟨_, rfl, rfl, rfl⟩, rfl⟩

theorem holdTransportPayout_frame (env : Env) (r : PaymentRecord) (db : Db) :
    exists payouts, GainedHold r.id db.payouts payouts ∧
      holdTransportPayout env r db = { db with payouts := payouts } := by
  unfold holdTransportPayout
  cases r.transportJob with
  | none =>
      exact ⟨db.payouts, Or.inl rfl, rfl⟩
  | some job =>
      dsimp only
      split
      · exact createPayoutHold_frame env _ _ _ _ _ db
      · exact ⟨db.payouts, Or.inl rfl, rfl⟩

theorem holdInspectionPayout_frame (env : Env) (r : PaymentRecord) (db : Db) :
    exists payouts, GainedHold r.id db.payouts payouts ∧
      holdInspectionPayout env r db = { db with payouts := payouts } := by
  unfold holdInspectionPayout
  cases inspectionCommitment r with
  | none =>
      exact ⟨db.payouts, Or.inl rfl, rfl⟩
  | some commitment =>
      exact createPayoutHold_frame env _ _ _ _ _ db

theorem setPurchaseStatus_frame
    (r : PaymentRecord) (status : DigitalPurchaseStatus) (db : Db) :
    exists purchases, setPurchaseStatus r status db =
      { db with digitalPurchases := purchases } := by
  unfold setPurchaseStatus
  cases r.digitalPurchase with
  | none =>
      exact ⟨db.digitalPurchases, rfl⟩
  | some purchase =>
      exact ⟨_, rfl⟩

theorem completePurchase_frame (r : PaymentRecord) (db : Db) :
    exists purchases, completePurchase r db =
      { db with digitalPurchases := purchases } := by
  unfold completePurchase
  split
  · exact setPurchaseStatus_frame r .completed db
  · exact ⟨db.digitalPurchases, rfl⟩

theorem payAdvertisement_frame (env : Env) (r : PaymentRecord) (db : Db) :
    exists ads, payAdvertisement env r db = { db with advertisements := ads } := by
  unfold payAdvertisement
  split
  · exact ⟨_, rfl⟩
  · exact ⟨db.advertisements, rfl⟩

/-! ## Provider event -/

def eventIsNew (args : SettleArgs) (db : Db) : Bool :=
  !truthy args.eventId ||
    !db.paymentEvents.any fun _ e => args.eventId = some e.eventId

/-- The database with the event of the notification registered. -/
def withEvent (args : SettleArgs) (r : PaymentRecord) (db : Db) : Db :=
  match args.eventId with
  | none => db
  | some eventId =>
      if eventId = "" then db
      else
        { db with
          paymentEvents := db.paymentEvents.create
            { paymentId := r.id
              provider := (jsOr (jsOr args.provider r.row.provider)
                (some "UNKNOWN")).getD "UNKNOWN"
              eventId := eventId
              status := args.status } }

theorem withEvent_frame (args : SettleArgs) (r : PaymentRecord) (db : Db) :
    exists events, withEvent args r db = { db with paymentEvents := events } := by
  unfold withEvent
  cases args.eventId with
  | none =>
      exact ⟨db.paymentEvents, rfl⟩
  | some eventId =>
      dsimp only
      split
      · exact ⟨db.paymentEvents, rfl⟩
      · exact ⟨_, rfl⟩

theorem registerEvent_cases (args : SettleArgs) (r : PaymentRecord) (db : Db) :
    (eventIsNew args db = true ∧
        registerEvent args r db = .ok (some (withEvent args r db))) ∨
      (eventIsNew args db = false ∧ registerEvent args r db = .ok none) ∨
      (eventIsNew args db = false ∧
        registerEvent args r db = .error paymentEventConflictError) := by
  unfold registerEvent eventIsNew withEvent
  cases hid : args.eventId with
  | none =>
      exact Or.inl ⟨rfl, rfl⟩
  | some eventId =>
      by_cases hempty : eventId = ""
      · exact Or.inl ⟨by simp [truthy, hempty], by simp [hempty]⟩
      · cases hfind : db.paymentEvents.findFirst fun _ e => e.eventId = eventId with
        | none =>
            left
            refine ⟨?_, by simp [hempty, hfind]⟩
            have hnone := Table.findFirst_eq_none_iff.mp hfind
            have hany : (db.paymentEvents.any fun _ e =>
                some eventId = some e.eventId) = false :=
              Table.any_eq_false_iff.mpr fun i e he => by
                simpa [eq_comm] using hnone i e he
            simp only [hany, Bool.not_false, Bool.or_true]
        | some found =>
            obtain ⟨i, e⟩ := found
            obtain ⟨he, hp⟩ := Table.findFirst_eq_some hfind
            have hany : (db.paymentEvents.any fun _ e =>
                some eventId = some e.eventId) = true :=
              Table.any_eq_true_iff.mpr ⟨i, e, he, by simpa [eq_comm] using hp⟩
            right
            rw [hany]
            by_cases hown : e.paymentId = r.id
            · exact Or.inl ⟨by simp [truthy, hempty], by simp [hempty, hfind, hown]⟩
            · exact Or.inr ⟨by simp [truthy, hempty], by simp [hempty, hfind, hown]⟩

variable {args : SettleArgs} {r : PaymentRecord}

theorem registerEvent_eq_some {db db' : Db} (h : registerEvent args r db = .ok (some db')) :
    eventIsNew args db = true ∧ db' = withEvent args r db := by
  rcases registerEvent_cases args r db with ⟨hnew, heq⟩ | ⟨_, heq⟩ | ⟨_, heq⟩
  · rw [heq] at h
    simp only [Except.ok.injEq, Option.some.injEq] at h
    exact ⟨hnew, h.symm⟩
  · simp [heq] at h
  · simp [heq] at h

/-! ## Payment write -/

def Payment.afterSettlement (args : SettleArgs) (p : Payment) : Payment :=
  { p.settled args with
    obligationId := if args.status = .failed then none else p.obligationId }

theorem writeSettlement_eq_ok {env : Env} {db db' : Db}
    (hr : db.payments.findUnique r.id = some r.row) (h : writeSettlement env args r db = .ok db') :
    paymentConflict db r.id (r.row.settled args) = false ∧
      exists events, db' = { db with
        payments := db.payments.update r.id (·.afterSettlement args)
        obligations := settledObligations args r.row db
        orderEvents := events } := by
  unfold writeSettlement at h
  rw [bind_eq_ok] at h
  obtain ⟨written, hwrite, hrest⟩ := h
  obtain ⟨p, hp, hconflict, rfl⟩ := updatePayment_eq_ok_iff.mp hwrite
  obtain rfl : r.row = p := by simpa [hr] using hp
  refine ⟨hconflict, ?_⟩
  simp only [Except.ok.injEq] at hrest
  have hpayments : (if r.row.obligationId.isSome ∧ args.status = .failed then
        (db.payments.update r.id (·.settled args)).update r.id
          ({ · with obligationId := none })
      else
        db.payments.update r.id (·.settled args)) =
      db.payments.update r.id (·.afterSettlement args) := by
    by_cases hcase : r.row.obligationId.isSome ∧ args.status = .failed
    · rw [if_pos hcase, Table.update_update]
      simp [Payment.afterSettlement, hcase.2]
    · rw [if_neg hcase]
      apply Table.update_congr
      intro p hp
      obtain rfl : r.row = p := by simpa [hr] using hp
      by_cases hfailed : args.status = .failed
      · have hnone : r.row.obligationId = none := by
          simpa [hfailed] using hcase
        simp [Payment.afterSettlement, Payment.settled, hnone]
      · simp [Payment.afterSettlement, Payment.settled, hfailed]
  obtain ⟨events, hevents⟩ := recordOrderEvent_frame env r.row.orderId
    .paymentStatusChanged
    (settleObligation args r
      { db with payments := db.payments.update r.id (·.settled args) })
  refine ⟨events, ?_⟩
  rw [← hrest, hevents]
  unfold settleObligation
  simp only [hpayments]
  rfl

theorem writeSettlement_isOk_iff {env : Env} {db : Db}
    (hr : db.payments.findUnique r.id = some r.row) :
    (exists db', writeSettlement env args r db = .ok db') ↔
      paymentConflict db r.id (r.row.settled args) = false := by
  constructor
  · rintro ⟨db', h⟩
    exact (writeSettlement_eq_ok hr h).1
  · intro hconflict
    have hwrite : updatePayment r.id (·.settled args) db =
        .ok { db with payments := db.payments.update r.id (·.settled args) } :=
      updatePayment_eq_ok_iff.mpr ⟨r.row, hr, hconflict, rfl⟩
    refine ⟨recordOrderEvent env r.row.orderId .paymentStatusChanged
      (settleObligation args r
        { db with payments := db.payments.update r.id (·.settled args) }), ?_⟩
    unfold writeSettlement
    rw [hwrite]
    rfl

end MarketBridge
