import MarketBridge.Ledger.Runs
import MarketBridge.Payment.ClosedOrders

/-!
# Earnings and payouts

A received payment for goods, a hired transport or an inspection is booked as an earning of
the payee and a commission, and a payout of the earning is held for the payee.  The ledger and
the payouts are written in different branches of the settlement.
-/

namespace MarketBridge

open Relational

/-! ## The split of a payment -/

/-- The stored commission and the stored net amount are the ones that are booked. -/
structure Payment.Split (p : Payment) : Prop where
  priced : p.WellPriced
  commission : p.commissionAmount = some (ledgerCommission p)
  net : p.netAmount = some (MarketBridge.netAmount p)

theorem netAmount_nonneg (p : Payment) : 0 ≤ netAmount p := by
  unfold netAmount
  rw [← roundMoney_zero]
  exact roundMoney_mono (by rw [roundMoney_zero]; exact le_max_left _ _)

theorem Payment.Split.parts {p : Payment} (h : p.Split) :
    exists commission net, p.commissionAmount = some commission ∧ p.netAmount = some net ∧
      0 ≤ commission ∧ 0 ≤ net ∧ commission + net = p.amount := by
  refine ⟨_, _, h.commission, h.net, h.priced.commission_nonneg, netAmount_nonneg p, ?_⟩
  rw [add_comm]
  exact netAmount_add_commission h.priced

variable {data : CreatePaymentData}

theorem CreatePaymentData.row_split {env : Env} {amount : ℚ} {obligationId : Option Id}
    (hcents : IsCents amount) (hpos : 0 < amount)
    (hrate : 0 ≤ data.rate env ∧ data.rate env ≤ 100) :
    (data.row env amount obligationId).Split := by
  have hstored : toDecimal amount = amount := by
    unfold toDecimal
    rw [if_pos hpos.le, roundMoney_of_isCents hcents]
  have hcommission : ledgerCommission (data.row env amount obligationId) =
      commissionAmount amount (data.rate env) :=
    roundMoney_of_isCents (roundMoney_isCents _)
  refine ⟨data.row_wellPriced hcents hpos hrate, ?_, ?_⟩
  · rw [hcommission]
    rfl
  · have hnet : netAmount (data.row env amount obligationId) =
        roundMoney (max 0 (toDecimal amount -
          ledgerCommission (data.row env amount obligationId))) := rfl
    rw [hnet, hcommission, hstored]
    rfl

theorem recoverConflict_found {index : PaymentIndex} {db db' : Db} {id : Id}
    (h : recoverConflict data index db = .ok (db', id)) :
    exists p, db.payments.findUnique id = some p := by
  unfold recoverConflict at h
  split at h
  · split at h
    · cases h
    · next paymentId existing hfound =>
        split at h
        · have hid : paymentId = id := congrArg Prod.snd (Except.ok.inj h)
          exact ⟨existing, hid ▸ (Table.findFirst_eq_some hfound).1⟩
        · cases h
  · cases h

/-- A payment that `createPayment` adds is split without remainder. -/
theorem createPayment_split {env : Env} {db db' : Db} {id : Id} {amount : ℚ}
    (hamount : data.amount = .finite amount) (hcents : IsCents amount)
    (hrate : 0 ≤ data.rate env ∧ data.rate env ≤ 100)
    (hok : createPayment env data db = .ok (db', id)) (hnew : db.payments.findUnique id = none) :
    exists p, db'.payments.findUnique id = some p ∧ p.amount = amount ∧ p.Split := by
  unfold createPayment at hok
  rw [hamount] at hok
  dsimp only at hok
  split at hok
  · cases hok
  · next hpos =>
      rw [not_le] at hpos
      split at hok
      · next paymentId existing hfound =>
          -- the payment of the key is there already
          split at hok
          · cases hok
          · have hid : paymentId = id := congrArg Prod.snd (Except.ok.inj hok)
            have hp : db.payments.findUnique paymentId = some existing := by
              unfold paymentOfKey at hfound
              split at hfound
              · exact (Table.findFirst_eq_some hfound).1
              · cases hfound
            rw [hid, hnew] at hp
            cases hp
      · unfold createIntent at hok
        simp only [bind_eq_ok] at hok
        obtain ⟨_, -, _, -, claimed, -, hok⟩ := hok
        split at hok
        · obtain ⟨rfl, rfl⟩ := Prod.mk.inj (Except.ok.inj hok)
          refine ⟨_, Table.findUnique_create_self _ _, ?_,
            CreatePaymentData.row_split hcents hpos hrate⟩
          have hstored : toDecimal amount = amount := by
            unfold toDecimal
            rw [if_pos hpos.le, roundMoney_of_isCents hcents]
          exact hstored
        · obtain ⟨p, hp⟩ := recoverConflict_found hok
          rw [hnew] at hp
          cases hp

/-! ## Payees -/

/-- The types of payment that somebody else than the platform earns on an order. -/
def PaymentType.isEarned (type : PaymentType) : Bool :=
  type ∈ [PaymentType.marketplace, .transport, .inspector]

namespace PaymentRecord

def earner (r : PaymentRecord) : Option Id :=
  match r.row.type with
  | .marketplace => r.order.map (·.sellerId)
  | .transport => if isHired r then transportPayee r else none
  | .inspector => r.inspectionRequest.bind (·.inspectorId)
  | _ => none

/-- The receipt is put aside: its order is disputed, or is not waiting for the goods payment. -/
def isSetAside (r : PaymentRecord) : Bool :=
  receivedUnderDispute r ||
    r.row.type = .marketplace && r.order.any fun order => order.status ≠ .pendingPayment

end PaymentRecord

section Payees

variable {env : Env} {args : SettleArgs} {r : PaymentRecord} {db db' : Db} {i : Id} {p : Payment}

theorem paidLedgerEntries_earner (htype : r.row.type.isEarned = true) :
    paidLedgerEntries r = match r.earner with
      | none => []
      | some payee => earningEntries r (earningType r.row.type) payee := by
  unfold paidLedgerEntries PaymentRecord.earner
  cases hr : r.row.type with
  | marketplace => cases r.order <;> rfl
  | transport =>
      dsimp only
      split
      · cases transportPayee r <;> rfl
      · rfl
  | inspector => cases r.inspectionRequest.bind (·.inspectorId) <;> rfl
  | advertising =>
      rw [hr] at htype
      cases htype
  | digital =>
      rw [hr] at htype
      cases htype
  | marketplaceInstallment => rfl

/-- One hold of the amount for the payee, unless the payment has one. -/
inductive HoldsFor (i : Id) (amount : ℚ) (payee : Option Id) (t : Table Payout) :
    Table Payout -> Prop where
  | nobody (h : payee = none) : HoldsFor i amount payee t t
  | held (h : t.holdsKey (·.paymentId) i = true) : HoldsFor i amount payee t t
  | created (hold : Payout) (hfree : t.holdsKey (·.paymentId) i = false)
      (howner : hold.paymentId = i) (hamount : hold.amount = amount)
      (hpayee : payee = some hold.payeeId) : HoldsFor i amount payee t (t.create hold)

theorem createPayoutHold_holds (env : Env) (orderId : Option Id) (payeeRole : PayoutPayeeRole)
    (payeeId : Option Id) (paymentId : Id) (payment : Payment) (db : Db) :
    exists payouts,
      HoldsFor paymentId (payment.netAmount.getD payment.amount) payeeId db.payouts payouts ∧
        createPayoutHold env orderId payeeRole payeeId paymentId payment db =
          { db with payouts := payouts } := by
  unfold createPayoutHold
  cases payeeId with
  | none => exact ⟨_, .nobody rfl, rfl⟩
  | some payee =>
      dsimp only
      split
      · next hheld => exact ⟨_, .held hheld, rfl⟩
      · next hfree => exact ⟨_, .created _ (Bool.eq_false_iff.2 hfree) rfl rfl rfl, rfl⟩

theorem settleGoods_holds (hgoods : r.row.type = .marketplace) (haside : r.isSetAside = false)
    (horder : r.order.isSome = true -> r.row.orderId.isSome = true)
    (h : settleGoods env args r db = .ok db') :
    HoldsFor r.id (r.row.netAmount.getD r.row.amount) r.earner db.payouts db'.payouts := by
  unfold PaymentRecord.isSetAside at haside
  unfold settleGoods at h
  unfold PaymentRecord.earner
  simp only [hgoods] at haside h ⊢
  cases hfound : r.order with
  | none =>
      have hsame : db = db' := by
        cases hid : r.row.orderId <;> simpa [hfound, hid] using h
      rw [hsame]
      exact .nobody rfl
  | some order =>
      obtain ⟨orderId, hid⟩ := Option.isSome_iff_exists.mp (horder (by rw [hfound]; rfl))
      simp only [hfound, hid] at h
      have hpending : order.status = .pendingPayment := by
        simpa [hfound] using (Bool.or_eq_false_iff.mp haside).2
      rw [if_pos hpending, bind_eq_ok] at h
      obtain ⟨committedDb, hcommit, h⟩ := h
      obtain ⟨committed, listings, offers, -, rfl⟩ := commitGoods_eq_ok hcommit
      rw [bind_eq_ok] at h
      obtain ⟨confirmedDb, htransition, h⟩ := h
      obtain ⟨-, -, rfl⟩ := transitionOrderStatus_eq_ok_iff.mp htransition
      obtain rfl := Except.ok.inj h
      obtain ⟨payouts, hholds, hhold⟩ := createPayoutHold_holds env (some orderId) .seller
        (some order.sellerId) r.id r.row
        { db with
          orders := (db.orders.update orderId fun o =>
            { o with goodsCommitted := committed || o.goodsCommitted }).update orderId
              ({ · with status := .confirmed })
          listings := listings
          offers := offers }
      rw [hhold]
      exact hholds

theorem holdServicePayout_holds (hgoods : r.row.type ≠ .marketplace)
    (hrequest : r.inspectionRequest.isSome = true -> r.row.inspectionRequestId.isSome = true)
    (env : Env) (db : Db) :
    HoldsFor r.id (r.row.netAmount.getD r.row.amount) r.earner db.payouts
      (holdInspectionPayout env r (holdTransportPayout env r db)).payouts := by
  by_cases htype : r.row.type = .transport
  · have hnone : inspectionCommitment r = none := by
      simp [inspectionCommitment, htype]
    have hsame : holdInspectionPayout env r (holdTransportPayout env r db) =
        holdTransportPayout env r db := by
      simp [holdInspectionPayout, hnone]
    rw [hsame]
    unfold holdTransportPayout PaymentRecord.earner
    simp only [htype, decide_true, Bool.true_and]
    cases hjob : r.transportJob with
    | none =>
        refine .nobody ?_
        simp [isHired, hjob]
    | some job =>
        dsimp only
        split
        · obtain ⟨payouts, hholds, hhold⟩ := createPayoutHold_holds env (some job.orderId)
            .transporter (transportPayee r) r.id r.row db
          rw [hhold]
          exact hholds
        · exact .nobody rfl
  · have hsame : holdTransportPayout env r db = db := by
      unfold holdTransportPayout
      cases r.transportJob with
      | none => rfl
      | some job => simp [htype]
    rw [hsame]
    by_cases hinspector : r.row.type = .inspector
    · unfold holdInspectionPayout inspectionCommitment PaymentRecord.earner
      simp only [hinspector, if_true]
      cases hfound : r.inspectionRequest with
      | none =>
          cases r.row.inspectionRequestId with
          | none => exact .nobody rfl
          | some requestId => exact .nobody rfl
      | some request =>
          obtain ⟨requestId, hid⟩ := Option.isSome_iff_exists.mp
            (hrequest (by rw [hfound]; rfl))
          simp only [hid, Option.bind_some]
          cases hassigned : request.inspectorId with
          | none =>
              exact .nobody rfl
          | some inspectorId =>
              obtain ⟨payouts, hholds, hhold⟩ := createPayoutHold_holds env request.orderId
                .inspector (some inspectorId) r.id r.row db
              simp only [Option.map_some]
              rw [hhold]
              exact hholds
    · have hnone : inspectionCommitment r = none := by
        simp [inspectionCommitment, hinspector]
      have hearner : r.earner = none := by
        unfold PaymentRecord.earner
        cases hr : r.row.type with
        | marketplace => exact absurd hr hgoods
        | transport => exact absurd hr htype
        | inspector => exact absurd hr hinspector
        | advertising => rfl
        | digital => rfl
        | marketplaceInstallment => rfl
      simp only [holdInspectionPayout, hnone]
      exact .nobody hearner

theorem recordPaid_payouts (env : Env) (r : PaymentRecord) (db : Db) :
    (recordPaid env r db).payouts =
      (holdInspectionPayout env r (holdTransportPayout env r db)).payouts := by
  unfold recordPaid
  obtain ⟨purchases, hpurchases⟩ := completePurchase_frame r
    (holdInspectionPayout env r (holdTransportPayout env r db))
  rw [hpurchases]
  obtain ⟨ads, hads⟩ := payAdvertisement_frame env r
    { holdInspectionPayout env r (holdTransportPayout env r db) with
      digitalPurchases := purchases }
  rw [hads]
  obtain ⟨entries, hentries⟩ := writeLedgerPaid_frame r
    { holdInspectionPayout env r (holdTransportPayout env r db) with
      digitalPurchases := purchases
      advertisements := ads }
  rw [hentries]

theorem recordPaid_goods_payouts (hgoods : r.row.type = .marketplace) (env : Env) (db : Db) :
    (recordPaid env r db).payouts = db.payouts := by
  have hnone : inspectionCommitment r = none := inspectionCommitment_of_ne (by simp [hgoods])
  have htransport : holdTransportPayout env r db = db := by
    unfold holdTransportPayout
    cases r.transportJob with
    | none => rfl
    | some job => simp [hgoods]
  rw [recordPaid_payouts, htransport]
  simp [holdInspectionPayout, hnone]

/-- The related rows of the record are those that its payment names. -/
structure PaymentRecord.Related (r : PaymentRecord) : Prop where
  order : r.order.isSome = true -> r.row.orderId.isSome = true
  inspectionRequest :
    r.inspectionRequest.isSome = true -> r.row.inspectionRequestId.isSome = true

theorem paymentRecord_related (db : Db) (i : Id) (p : Payment) :
    (paymentRecord db i p).Related := by
  constructor
  · intro hsome
    have hrelated : (related db.orders p.orderId).isSome = true := hsome
    show p.orderId.isSome = true
    cases hid : p.orderId with
    | none =>
        rw [hid] at hrelated
        cases hrelated
    | some orderId => rfl
  · intro hsome
    have hrelated : (related db.inspectionRequests p.inspectionRequestId).isSome = true := hsome
    show p.inspectionRequestId.isSome = true
    cases hid : p.inspectionRequestId with
    | none =>
        rw [hid] at hrelated
        cases hrelated
    | some requestId => rfl

theorem applyPaid_holds (haside : r.isSetAside = false) (hrelated : r.Related)
    (h : applyPaid env args r db = .ok db') :
    HoldsFor r.id (r.row.netAmount.getD r.row.amount) r.earner db.payouts db'.payouts := by
  have hdispute : receivedUnderDispute r = false := (Bool.or_eq_false_iff.mp haside).1
  obtain ⟨goods, transport, inspection, hgoods, htransport, hinspection, rfl⟩ :=
    applyPaid_stages hdispute h
  by_cases htype : r.row.type = .marketplace
  · have hnotransport : transportCommitment r = none := transportCommitment_of_ne (by simp [htype])
    have hnoinspection : inspectionCommitment r = none :=
      inspectionCommitment_of_ne (by simp [htype])
    rw [commitTransport_of_none hnotransport] at htransport
    obtain rfl := Except.ok.inj htransport
    rw [commitInspection_of_none hnoinspection] at hinspection
    obtain rfl := Except.ok.inj hinspection
    rw [recordPaid_goods_payouts htype]
    exact settleGoods_holds htype haside hrelated.order hgoods
  · rw [settleGoods_of_ne env args htype] at hgoods
    obtain rfl := Except.ok.inj hgoods
    have htransported : transport.payouts = db.payouts := by
      cases hcommitment : transportCommitment r with
      | none =>
          rw [commitTransport_of_none hcommitment] at htransport
          rw [← Except.ok.inj htransport]
      | some c =>
          obtain ⟨jobId, job, truckId, quoteId, quote⟩ := c
          obtain ⟨-, trucks, rfl⟩ := commitTransport_eq_ok hcommitment htransport
          rfl
    have hinspected : inspection.payouts = transport.payouts := by
      unfold commitInspection at hinspection
      split at hinspection
      · rw [← Except.ok.inj hinspection]
      · split at hinspection
        · rw [← Except.ok.inj hinspection]
        · cases hinspection
    rw [recordPaid_payouts, ← htransported, ← hinspected]
    exact holdServicePayout_holds htype hrelated.inspectionRequest env inspection

theorem applyPaid_aside (haside : r.isSetAside = true)
    (h : applyPaid env args r db = .ok db') :
    db'.payouts = db.payouts := by
  cases hdispute : receivedUnderDispute r with
  | true =>
      unfold applyPaid at h
      simp only [hdispute, if_true] at h
      obtain ⟨-, rfl⟩ := createReconciliationIssue_eq_ok_iff.mp h
      obtain ⟨entries, hentries⟩ := writeLedgerPaid_frame r db
      rw [hentries]
      obtain ⟨events, hissue⟩ := withIssue_frame env
        (issueData r args .paymentReceivedWhileOrderDisputed) { db with ledgerEntries := entries }
      rw [hissue]
  | false =>
      unfold PaymentRecord.isSetAside at haside
      rw [hdispute, Bool.false_or, Bool.and_eq_true, decide_eq_true_eq] at haside
      obtain ⟨htype, hclosed⟩ := haside
      obtain ⟨goods, transport, inspection, hgoods, htransport, hinspection, rfl⟩ :=
        applyPaid_stages hdispute h
      rw [commitTransport_of_none (transportCommitment_of_ne (by simp [htype]))] at htransport
      obtain rfl := Except.ok.inj htransport
      rw [commitInspection_of_none (inspectionCommitment_of_ne (by simp [htype]))] at hinspection
      obtain rfl := Except.ok.inj hinspection
      rw [recordPaid_goods_payouts htype]
      unfold settleGoods at hgoods
      split at hgoods
      · next orderId order _ _ horder =>
          rw [horder, Option.any_some, decide_eq_true_eq] at hclosed
          rw [if_neg hclosed] at hgoods
          split at hgoods
          · obtain ⟨-, rfl⟩ := createReconciliationIssue_eq_ok_iff.mp hgoods
            obtain ⟨events, hissue⟩ := withIssue_frame env
              { issueData r args .paymentReceivedForCancelledOrder with
                observedAmount := some (args.amount.getD (.finite r.row.amount))
                observedCurrency := jsOr args.currency (some r.row.currency) } db
            rw [hissue]
          · rw [← Except.ok.inj hgoods]
      · rw [← Except.ok.inj hgoods]

end Payees

end MarketBridge
