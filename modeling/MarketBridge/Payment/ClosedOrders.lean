import MarketBridge.Order.Progress
import MarketBridge.Order.Unwinding
import MarketBridge.Payment.OwedItems

/-!
# What a closed order owes

A cancellation cancels the open obligations of its order.  This file says which
later steps open one again, and when a payment is created for something that is
owed.
-/

namespace MarketBridge

open Relational

def OwesNothing (orderId : Id) (db : Db) : Prop :=
  db.obligations.All fun _ b => b.orderId = orderId -> b.status ≠ .open

/-! ## Settlements -/

def OpenKept (db db' : Db) : Prop :=
  forall i b', db'.obligations.findUnique i = some b' -> b'.status = .open ->
    exists b, db.obligations.findUnique i = some b ∧ b.status = .open ∧ b.orderId = b'.orderId

namespace OpenKept

variable {db db' db'' : Db}

theorem of_eq (h : db'.obligations = db.obligations) : OpenKept db db' := by
  intro i b hb hopen
  rw [h] at hb
  exact ⟨b, hb, hopen, rfl⟩

theorem trans (h : OpenKept db db') (h' : OpenKept db' db'') : OpenKept db db'' := by
  intro i b hb hopen
  obtain ⟨b', hb', hopen', horder'⟩ := h' i b hb hopen
  obtain ⟨b'', hb'', hopen'', horder''⟩ := h i b' hb' hopen'
  exact ⟨b'', hb'', hopen'', horder''.trans horder'⟩

theorem owesNothing (h : OpenKept db db') {orderId : Id} (howes : OwesNothing orderId db) :
    OwesNothing orderId db' := by
  intro i b hb horder hopen
  obtain ⟨b', hb', hopen', horder'⟩ := h i b hb hopen
  exact howes i b' hb' (horder'.trans horder) hopen'

end OpenKept

section Settlement

variable {env : Env} {args : SettleArgs} {db db' : Db} {p : Payment}

theorem settlePaymentCore_obligations (hp : db.payments.findUnique args.paymentId = some p)
    (h : settlePaymentCore env args db = .ok db') :
    db'.obligations =
      if settlementWrites args db p = true then settledObligations args p db
      else db.obligations := by
  by_cases hwrites : settlementWrites args db p = true
  · rw [if_pos hwrites]
    obtain ⟨written, after, hwritten, heffects, hok⟩ := settlePaymentCore_of_writes env hp hwrites
    obtain rfl := Except.ok.inj (hok.symm.trans h)
    obtain ⟨events, rfl⟩ := hwritten.shape
    exact (applyEffects_frame heffects).obligations
  · rw [if_neg hwrites]
    cases settlePaymentCore_exit hp h with
    | flagged reason =>
        obtain ⟨events, hissue⟩ := withIssue_frame env
          (issueData (paymentRecord db args.paymentId p) args reason) db
        unfold flaggedDb
        rw [hissue]
        dsimp only
        split <;> rfl
    | replayed =>
        rfl
    | ignored =>
        unfold withEvent
        split
        · rfl
        · split <;> rfl
    | written written db' hwrites' =>
        exact absurd hwrites' hwrites

theorem settlePaymentCore_openKept (hstatus : args.status ≠ .failed)
    (h : settlePaymentCore env args db = .ok db') :
    OpenKept db db' := by
  cases hp : db.payments.findUnique args.paymentId with
  | none =>
      simp [settlePaymentCore, hp] at h
  | some p =>
      have hobligations := settlePaymentCore_obligations hp h
      split at hobligations
      · intro i b hb hopen
        rw [hobligations] at hb
        unfold settledObligations at hb
        split at hb
        · exact ⟨b, hb, hopen, rfl⟩
        · rcases Table.of_findUnique_update hb with ⟨-, c, hc, rfl⟩ | ⟨-, hb⟩
          · refine ⟨c, hc, ?_, rfl⟩
            cases hs : args.status with
            | failed =>
                exact absurd hs hstatus
            | _ =>
                simp [hs, obligationStatusFor] at hopen
                try exact hopen
          · exact ⟨b, hb, hopen, rfl⟩
      · exact .of_eq hobligations

def reopens (args : SettleArgs) (orderId : Id) (db : Db) : Bool :=
  args.status = .failed &&
    (db.payments.findUnique args.paymentId).any fun p =>
      settlementWrites args db p &&
        (related db.obligations p.obligationId).any fun b => b.orderId = orderId

theorem reopens_eq_true_iff {orderId : Id} :
    reopens args orderId db = true ↔
      args.status = .failed ∧ exists p o b, db.payments.findUnique args.paymentId = some p ∧
        settlementWrites args db p = true ∧ p.obligationId = some o ∧
        db.obligations.findUnique o = some b ∧ b.orderId = orderId := by
  unfold reopens
  rw [Bool.and_eq_true, decide_eq_true_eq, Option.any_eq_true]
  refine and_congr_right fun _ => ⟨?_, ?_⟩
  · rintro ⟨p, hp, hb⟩
    rw [Bool.and_eq_true, Option.any_eq_true] at hb
    obtain ⟨hwrites, b, hb, horder⟩ := hb
    cases ho : p.obligationId with
    | none =>
        rw [ho] at hb
        cases hb
    | some o =>
        rw [ho] at hb
        exact ⟨p, o, b, hp, hwrites, ho, hb, of_decide_eq_true horder⟩
  · rintro ⟨p, o, b, hp, hwrites, ho, hb, rfl⟩
    refine ⟨p, hp, ?_⟩
    simp [hwrites, ho, hb]

theorem settlePaymentCore_owesNothing_iff {orderId : Id} (howes : OwesNothing orderId db)
    (h : settlePaymentCore env args db = .ok db') :
    OwesNothing orderId db' ↔ reopens args orderId db = false := by
  by_cases hreopens : reopens args orderId db = true
  · obtain ⟨hstatus, p, o, b, hp, hwrites, ho, hb, horder⟩ := reopens_eq_true_iff.1 hreopens
    rw [hreopens]
    refine iff_of_false ?_ (by decide)
    intro hafter
    have hobligations := settlePaymentCore_obligations hp h
    rw [if_pos hwrites] at hobligations
    refine hafter o { b with status := .open } ?_ horder rfl
    simp [hobligations, settledObligations, ho, hb, hstatus, obligationStatusFor]
  · rw [Bool.not_eq_true] at hreopens
    refine iff_of_true ?_ hreopens
    by_cases hstatus : args.status = .failed
    · cases hp : db.payments.findUnique args.paymentId with
      | none =>
          simp [settlePaymentCore, hp] at h
      | some p =>
          have hobligations := settlePaymentCore_obligations hp h
          split at hobligations
          · next hwrites =>
              intro i b hb horder hopen
              rw [hobligations] at hb
              unfold settledObligations at hb
              split at hb
              · exact howes i b hb horder hopen
              · next o ho =>
                  rw [Table.findUnique_update] at hb
                  split at hb
                  · next hi =>
                      obtain ⟨c, hc, rfl⟩ := Option.map_eq_some_iff.mp hb
                      rw [hi] at hc
                      rw [reopens_eq_true_iff.2
                        ⟨hstatus, p, o, c, hp, hwrites, ho, hc, horder⟩] at hreopens
                      cases hreopens
                  · exact howes i b hb horder hopen
          · exact (OpenKept.of_eq hobligations).owesNothing howes
    · exact (settlePaymentCore_openKept hstatus h).owesNothing howes

theorem reconcileInventory_obligations (h : reconcileInventory env args db = .ok db') :
    db'.obligations = db.obligations := by
  obtain ⟨p, payments, events, issues, -, -, rfl⟩ := reconcileInventory_eq_ok h
  rfl

theorem planOfInstallment_of_failed {settled : Db} (hp : db.payments.findUnique args.paymentId = some p)
    (hwrites : settlementWrites args db p = true) (hstatus : args.status = .failed)
    (h : settlePaymentCore env args db = .ok settled) :
    planOfInstallment settled args.paymentId = none := by
  have hpayments := settlePaymentCore_payments env hp
  rw [h] at hpayments
  rcases hpayments with ⟨-, hwritten⟩ | ⟨hnot, -⟩ | ⟨hnot, -⟩
  · change settled.payments = _ at hwritten
    unfold planOfInstallment
    rw [hwritten, Table.findUnique_update_self, hp]
    simp [Payment.afterSettlement, Payment.settled, hstatus]
  · rw [hwrites] at hnot
    cases hnot
  · rw [hwrites] at hnot
    cases hnot

theorem settlePayment_owesNothing_iff {orderId : Id} (howes : OwesNothing orderId db) :
    OwesNothing orderId (commit (settlePayment env args db) db) ↔
      reopens args orderId db = false := by
  have hbidders : forall paymentId planned,
      (releaseBiddersAfter paymentId planned).obligations = planned.obligations := by
    intro paymentId planned
    obtain ⟨offers, hframe⟩ := releaseBiddersAfter_frame paymentId planned
    rw [hframe]
  cases h : settlePayment env args db with
  | error e =>
      refine iff_of_true howes ?_
      by_contra hreopens
      obtain ⟨-, p, -, -, hp, hwrites, -⟩ :=
        reopens_eq_true_iff.1 (Bool.not_eq_false _ ▸ hreopens)
      obtain ⟨-, settled, -, -, hok⟩ := settlePaymentCore_of_writes env hp hwrites
      simp only [settlePayment, settleOrReconcile, hok, ok_bind] at h
      split at h <;> cases h
  | ok db' =>
      obtain ⟨settled, planned, paymentId, hfirst, hplan, rfl⟩ := settlePayment_cases h
      have hplanned : OpenKept settled planned := by
        rcases hplan with rfl | ⟨parentPaymentId, parent, -, hok⟩
        · exact .of_eq rfl
        · exact settlePaymentCore_openKept (by simp [planNotice]) hok
      have hreleased := hplanned.trans (OpenKept.of_eq (hbidders paymentId planned))
      rcases hfirst with hcore | ⟨hpaid, hreconciled⟩
      · rw [← settlePaymentCore_owesNothing_iff howes hcore]
        refine ⟨?_, hreleased.owesNothing⟩
        intro hafter
        by_contra hopened
        have hreopens := mt (settlePaymentCore_owesNothing_iff howes hcore).2 hopened
        obtain ⟨hstatus, p, -, -, hp, hwrites, -⟩ :=
          reopens_eq_true_iff.1 (Bool.not_eq_false _ ▸ hreopens)
        rcases hplan with rfl | ⟨parentPaymentId, parent, hparent, -⟩
        · apply hopened
          intro i b hb
          exact hafter i b ((congrArg (·.findUnique i) (hbidders paymentId _)).trans hb)
        · rw [planOfInstallment_of_failed hp hwrites hstatus hcore] at hparent
          cases hparent
      · refine iff_of_true ?_ ?_
        · exact hreleased.owesNothing
            ((OpenKept.of_eq (reconcileInventory_obligations hreconciled)).owesNothing howes)
        · simp [reopens, hpaid]

end Settlement

/-! ## Synchronisations -/

section Sync

variable {db : Db} {orderId k : Id}

theorem mem_owedItems {item : DesiredObligation} (hitem : item ∈ owedItems db orderId) :
    item.obligationKey.orderId = orderId ∧ item.type ∈ orderTypes := by
  unfold owedItems at hitem
  split at hitem
  · cases hitem
  · obtain ⟨e, he, rfl⟩ := List.mem_map.1 hitem
    exact mem_desiredObligations (mem_of_mem_syncedItems (List.mem_filter.1 he).1)

theorem sync_owesNothing_iff (hindexed : ObligationsIndexed db) (howes : OwesNothing orderId db) :
    OwesNothing orderId (syncOrderPaymentObligations k db) ↔
      (k = orderId -> owedItems db k = []) := by
  constructor
  · rintro hafter rfl
    rw [List.eq_nil_iff_forall_not_mem]
    intro item hitem
    obtain ⟨i, b, hb, horder, hagrees⟩ := sync_owed hitem
    exact hafter i b hb horder hagrees.status
  · intro hnone i b hb horder hopen
    rcases sync_open hindexed hb hopen with ⟨item, hitem, hagrees⟩ | ⟨hold, -⟩
    · have hk : k = orderId := by
        rw [← (mem_owedItems hitem).1, ← hagrees.key, b.keyed.1]
        exact horder
      rw [hnone hk] at hitem
      cases hitem
    · exact howes i b hold horder hopen

end Sync

/-! ## Creation of payments -/

section Creation

variable {env : Env} {data : CreatePaymentData} {db : Db}

def syncedFor (data : CreatePaymentData) (db : Db) : Db :=
  match data.orderId with
  | none => db
  | some orderId => syncOrderPaymentObligations orderId db

/-- A call that passes every check of `createPayment` and finds its idempotency key unused. -/
def isAccepted (env : Env) (data : CreatePaymentData) (db : Db) : Bool :=
  match data.amount with
  | .notFinite => false
  | .finite amount =>
      0 < amount && (paymentOfKey db data).isNone &&
        (assertTransportPayable data amount db).isOk &&
        (assertInspectionPayable data db).isOk &&
        match claimObligation data amount db with
        | .error _ => false
        | .ok claimed => (violatedIndex claimed.1 (data.row env amount claimed.2)).isNone

theorem findPaymentObligation_eq_some {type : PaymentType} {orderId o : Id}
    {inspectionRequestId payerId : Option Id} {b : PaymentObligation}
    (h : findPaymentObligation db orderId type inspectionRequestId payerId = some (o, b)) :
    db.obligations.findUnique o = some b := by
  unfold findPaymentObligation at h
  split at h
  · rcases Option.or_eq_some_iff.1 h with hpayer | ⟨-, hkey⟩
    · cases payerId with
      | none =>
          cases hpayer
      | some payer =>
          exact (Table.findFirst_eq_some hpayer).1
    · obtain ⟨requestId, -, hkey⟩ := Option.bind_eq_some_iff.1 hkey
      exact (Table.findFirst_eq_some hkey).1
  · exact (Table.findFirst_eq_some h).1

theorem claimObligation_eq_ok {amount : ℚ} {claimed : Db × Option Id}
    (h : claimObligation data amount db = .ok claimed) :
    claimed.1 = syncedFor data db ∧ forall o, claimed.2 = some o ->
      exists orderId b, data.orderId = some orderId ∧
        findPaymentObligation (syncedFor data db) orderId data.type data.inspectionRequestId
          data.createdById = some (o, b) := by
  unfold claimObligation at h
  unfold syncedFor
  cases horder : data.orderId with
  | none =>
      simp only [horder] at h
      obtain rfl := Except.ok.inj h
      exact ⟨rfl, fun o ho => by cases ho⟩
  | some orderId =>
      simp only [horder] at h
      split at h
      · obtain rfl := Except.ok.inj h
        exact ⟨rfl, fun o ho => by cases ho⟩
      · next o b hfound =>
          rw [bind_eq_ok] at h
          obtain ⟨_, -, h⟩ := h
          obtain rfl := Except.ok.inj h
          refine ⟨rfl, fun o' ho' => ?_⟩
          obtain rfl := Option.some.inj ho'
          exact ⟨orderId, b, rfl, hfound⟩

theorem recoverConflict_eq_ok {index : PaymentIndex} {db' : Db} {id : Id}
    (h : recoverConflict data index db = .ok (db', id)) :
    db' = db := by
  unfold recoverConflict at h
  split at h
  · split at h
    · cases h
    · split at h
      · exact (congrArg Prod.fst (Except.ok.inj h)).symm
      · cases h
  · cases h

theorem isOk_of_eq_ok {α β : Type} {x : Except α β} {b : β} (h : x = .ok b) : x.isOk = true := by
  rw [h]
  rfl

theorem eq_ok_of_isOk {α : Type} {x : Except α Unit} (h : x.isOk = true) : x = .ok () := by
  cases x with
  | error e => cases h
  | ok u => rfl

/-- A fresh payment is pending, and the obligation that it claims is free. -/
structure Payment.IsIntent (row : Payment) (db : Db) : Prop where
  pending : row.status = .pending
  free : forall o, row.obligationId = some o -> (exists b, db.obligations.findUnique o = some b) ∧
    holdsObligation db o = false

/-- The row that an accepted call creates is the one of its arguments. -/
theorem createPayment_row {db' : Db} {id : Id} (h : createPayment env data db = .ok (db', id)) :
    if isAccepted env data db = true then
      exists amount o, (data.row env amount o).IsIntent (syncedFor data db) ∧
        (forall c, o = some c -> exists orderId b, data.orderId = some orderId ∧
          findPaymentObligation (syncedFor data db) orderId data.type data.inspectionRequestId
            data.createdById = some (c, b)) ∧
        db' = { syncedFor data db with
          payments := (syncedFor data db).payments.create (data.row env amount o) }
    else
      db' = db := by
  unfold createPayment at h
  unfold isAccepted
  cases hamount : data.amount with
  | notFinite =>
      simp [hamount] at h
  | finite amount =>
      simp only [hamount] at h ⊢
      by_cases hpos : amount ≤ 0
      · simp [hpos] at h
      · rw [if_neg hpos] at h
        rw [not_le] at hpos
        cases hkey : paymentOfKey db data with
        | some e =>
            simp only [hkey] at h
            rw [if_neg (by simp)]
            split at h
            · cases h
            · exact (congrArg Prod.fst (Except.ok.inj h)).symm
        | none =>
            simp only [hkey] at h
            unfold createIntent at h
            simp only [bind_eq_ok] at h
            obtain ⟨_, htransport, _, hinspection, claimed, hclaim, h⟩ := h
            obtain ⟨hsynced, hfound⟩ := claimObligation_eq_ok hclaim
            simp only [hpos, isOk_of_eq_ok htransport, isOk_of_eq_ok hinspection, hclaim]
            cases hindex : violatedIndex claimed.1 (data.row env amount claimed.2) with
            | none =>
                simp only [hindex] at h
                rw [if_pos (by simp)]
                refine ⟨amount, claimed.2, ⟨rfl, fun o ho => ⟨?_, ?_⟩⟩, hfound, ?_⟩
                · obtain ⟨_, b, -, hb⟩ := hfound o ho
                  exact ⟨b, findPaymentObligation_eq_some hb⟩
                · rw [hsynced] at hindex
                  unfold violatedIndex at hindex
                  split at hindex
                  · cases hindex
                  · next hfree =>
                      rw [ho, Option.any_some, Bool.not_eq_true] at hfree
                      exact hfree
                · rw [← hsynced]
                  exact (congrArg Prod.fst (Except.ok.inj h)).symm
            | some index =>
                simp only [hindex] at h
                rw [if_neg (by simp)]
                exact recoverConflict_eq_ok h

theorem createPayment_eq_ok {db' : Db} {id : Id} (h : createPayment env data db = .ok (db', id)) :
    if isAccepted env data db = true then
      exists row : Payment, row.IsIntent (syncedFor data db) ∧ db' = { syncedFor data db with
        payments := (syncedFor data db).payments.create row }
    else
      db' = db := by
  have hrow := createPayment_row h
  split at hrow
  · next haccepted =>
      obtain ⟨amount, o, hintent, -, hdb⟩ := hrow
      rw [if_pos haccepted]
      exact ⟨_, hintent, hdb⟩
  · next hrefused =>
      rw [if_neg hrefused]
      exact hrow

theorem createPayment_of_accepted (h : isAccepted env data db = true) :
    exists db' id, createPayment env data db = .ok (db', id) := by
  unfold isAccepted at h
  unfold createPayment
  cases hamount : data.amount with
  | notFinite =>
      simp [hamount] at h
  | finite amount =>
      simp only [hamount, Bool.and_eq_true, decide_eq_true_eq, Option.isNone_iff_eq_none] at h ⊢
      obtain ⟨⟨⟨⟨hpos, hkey⟩, htransport⟩, hinspection⟩, hclaim⟩ := h
      rw [if_neg (not_le.2 hpos), hkey]
      unfold createIntent
      rw [eq_ok_of_isOk htransport, eq_ok_of_isOk hinspection]
      split at hclaim
      · cases hclaim
      · next claimed hclaimed =>
          rw [hclaimed]
          simp only [ok_bind, Option.isNone_iff_eq_none.1 hclaim]
          exact ⟨_, _, rfl⟩

end Creation

/-! ## Steps after a cancellation -/

inductive ClosedOrderStep where
  | settlePayment (args : SettleArgs)
  | syncOrderPaymentObligations (orderId : Id)
  | createPayment (data : CreatePaymentData)
  | cancelOrder (order : OrderRecord) (actorId : Option Id) (reason : Option String)
      (role : CancelledByRole)
  /-- Something else writes the other tables, such as a transport status change. -/
  | elsewhere (other : Db)

namespace ClosedOrderStep

/-- The foreign key of a payment: it is created for an order that exists. -/
def orderExists (data : CreatePaymentData) (db : Db) : Bool :=
  data.orderId.all fun orderId => (db.orders.findUnique orderId).isSome

def step (db : Db) (a : Env × ClosedOrderStep) : Db :=
  match a.2 with
  | settlePayment args => commit (MarketBridge.settlePayment a.1 args db) db
  | syncOrderPaymentObligations orderId => MarketBridge.syncOrderPaymentObligations orderId db
  | createPayment data =>
      if orderExists data db then
        match MarketBridge.createPayment a.1 data db with
        | .ok (db', _) => db'
        | .error _ => db
      else
        db
  | cancelOrder order actorId reason role =>
      commit (cancelOrderInTransaction a.1 order actorId reason role db) db
  | elsewhere other => { other with obligations := db.obligations }

def IsOwed (orderId : Id) (type : PaymentType) (payerId : Option Id) (db : Db) : Prop :=
  exists i b, db.obligations.findUnique i = some b ∧ b.orderId = orderId ∧ b.type = type ∧
    some b.payerId = payerId ∧ b.status = .open

/-- A payment of an order is created only while it is owed. -/
def ChecksObligation (db : Db) (a : Env × ClosedOrderStep) : Prop :=
  match a.2 with
  | createPayment data =>
      db.payments.size < (step db a).payments.size -> forall orderId,
        data.orderId = some orderId -> data.type ∈ orderTypes ->
        IsOwed orderId data.type data.createdById (step db a)
  | _ => True

/-- The claim about one step: the order still owes nothing, and payments are owed. -/
def StaysClosed (orderId : Id) (db : Db) (a : Env × ClosedOrderStep) : Prop :=
  OwesNothing orderId (step db a) ∧ ChecksObligation db a

/-- No branch is taken that opens an obligation of the order, or that misses one. -/
def meets (orderId : Id) (db : Db) (a : Env × ClosedOrderStep) : Prop :=
  match a.2 with
  | settlePayment args => reopens args orderId db = false
  | syncOrderPaymentObligations k => k = orderId -> owedItems db k = []
  | createPayment data =>
      orderExists data db = true -> isAccepted a.1 data db = true -> forall k,
        data.orderId = some k ->
          (k = orderId -> owedItems db k = []) ∧
            (data.type ∈ orderTypes -> exists item, item ∈ owedItems db k ∧
              item.type = data.type ∧ some item.payerId = data.createdById)
  | _ => True

end ClosedOrderStep

section Steps

variable {db db' : Db} {env : Env} {orderId : Id}

theorem settlePaymentCore_indexed {args : SettleArgs} (h : ObligationsIndexed db)
    (hok : settlePaymentCore env args db = .ok db') :
    ObligationsIndexed db' := by
  cases hp : db.payments.findUnique args.paymentId with
  | none =>
      simp [settlePaymentCore, hp] at hok
  | some p =>
      have hobligations := settlePaymentCore_obligations hp hok
      unfold settledObligations at hobligations
      unfold ObligationsIndexed
      rw [hobligations]
      split
      · split
        · exact h
        · exact h.updateMany fun _ => rfl
      · exact h

theorem settlePayment_indexed {args : SettleArgs} (h : ObligationsIndexed db)
    (hok : settlePayment env args db = .ok db') :
    ObligationsIndexed db' := by
  refine settlePayment_rel (R := fun s t => ObligationsIndexed s -> ObligationsIndexed t)
    (fun _ => id) (fun hst htu hs => htu (hst hs)) (fun hcore hs => settlePaymentCore_indexed hs hcore)
    ?_ ?_ hok h
  · intro s t hreconcile hs
    unfold ObligationsIndexed
    rw [reconcileInventory_obligations hreconcile]
    exact hs
  · intro paymentId s hs
    obtain ⟨offers, hframe⟩ := releaseBiddersAfter_frame paymentId s
    rw [hframe]
    exact hs

variable {data : CreatePaymentData}

theorem createPayment_indexed {id : Id} (h : ObligationsIndexed db)
    (hok : createPayment env data db = .ok (db', id)) :
    ObligationsIndexed db' := by
  have hcases := createPayment_eq_ok hok
  split at hcases
  · obtain ⟨row, -, rfl⟩ := hcases
    unfold ObligationsIndexed syncedFor
    split
    · exact h
    · exact syncOrderPaymentObligations_indexed h
  · rw [hcases]
    exact h

theorem cancelOrder_indexed {order : OrderRecord} {actorId : Option Id} {reason : Option String}
    {role : CancelledByRole} (h : ObligationsIndexed db)
    (hok : cancelOrderInTransaction env order actorId reason role db = .ok db') :
    ObligationsIndexed db' := by
  unfold ObligationsIndexed
  rw [(cancelOrderInTransaction_released hok).obligations]
  exact h.updateMany fun _ => rfl

theorem cancelOrder_openKept {order : OrderRecord} {actorId : Option Id} {reason : Option String}
    {role : CancelledByRole}
    (h : cancelOrderInTransaction env order actorId reason role db = .ok db') :
    OpenKept db db' ∧ OwesNothing order.id db' := by
  have hobligations := (cancelOrderInTransaction_released h).obligations
  have hrow : forall i b, db'.obligations.findUnique i = some b -> b.status = .open ->
      db.obligations.findUnique i = some b ∧ b.orderId ≠ order.id := by
    intro i b hb hopen
    rw [hobligations, Table.findUnique_updateMany] at hb
    obtain ⟨c, hc, rfl⟩ := Option.map_eq_some_iff.mp hb
    split at hopen
    · cases hopen
    · next hkept =>
        rw [if_neg hkept]
        refine ⟨hc, fun horder => hkept ?_⟩
        simp [horder, hopen]
  refine ⟨?_, ?_⟩
  · intro i b hb hopen
    exact ⟨b, (hrow i b hb hopen).1, hopen, rfl⟩
  · intro i b hb horder hopen
    exact (hrow i b hb hopen).2 horder

theorem ClosedOrderStep.step_indexed (a : Env × ClosedOrderStep) (h : ObligationsIndexed db) :
    ObligationsIndexed (ClosedOrderStep.step db a) := by
  obtain ⟨env, a⟩ := a
  cases a with
  | settlePayment args =>
      exact commit_preserves h fun _ hok => settlePayment_indexed h hok
  | syncOrderPaymentObligations k =>
      exact syncOrderPaymentObligations_indexed h
  | createPayment data =>
      simp only [ClosedOrderStep.step]
      split
      · split
        · next hok =>
            exact createPayment_indexed h hok
        · exact h
      · exact h
  | cancelOrder order actorId reason role =>
      exact commit_preserves h fun _ hok => cancelOrder_indexed h hok
  | elsewhere other =>
      exact h

theorem ClosedOrderStep.createPayment_step (hexists : orderExists data db = true)
    (haccepted : isAccepted env data db = true) :
    exists row, ClosedOrderStep.step db (env, .createPayment data) =
      { syncedFor data db with payments := (syncedFor data db).payments.create row } := by
  obtain ⟨db', id, hok⟩ := createPayment_of_accepted haccepted
  have hcases := createPayment_eq_ok hok
  rw [if_pos haccepted] at hcases
  obtain ⟨row, -, hrow⟩ := hcases
  refine ⟨row, ?_⟩
  simp only [ClosedOrderStep.step, if_pos hexists, hok]
  exact hrow

theorem ClosedOrderStep.createPayment_idle
    (h : ¬ (orderExists data db = true ∧ isAccepted env data db = true)) :
    ClosedOrderStep.step db (env, .createPayment data) = db := by
  simp only [ClosedOrderStep.step]
  split
  · next hexists =>
      have hrefused : isAccepted env data db ≠ true := fun haccepted => h ⟨hexists, haccepted⟩
      split
      · next hok =>
          have hcases := createPayment_eq_ok hok
          rw [if_neg hrefused] at hcases
          exact hcases
      · rfl
  · rfl

theorem isOwed_sync_iff {type : PaymentType} {payerId : Option Id} (hindexed : ObligationsIndexed db)
    (hexists : (db.orders.findUnique orderId).isSome = true) (htype : type ∈ orderTypes) :
    ClosedOrderStep.IsOwed orderId type payerId (syncOrderPaymentObligations orderId db) ↔
      exists item, item ∈ owedItems db orderId ∧ item.type = type ∧
        some item.payerId = payerId := by
  constructor
  · rintro ⟨i, b, hb, horder, rfl, hpayer, hopen⟩
    rcases sync_open hindexed hb hopen with ⟨item, hitem, hagrees⟩ | ⟨-, hnone | hne | hother⟩
    · exact ⟨item, hitem, hagrees.type.symm, hagrees.payer ▸ hpayer⟩
    · rw [hnone] at hexists
      cases hexists
    · exact absurd horder hne
    · exact absurd htype hother
  · rintro ⟨item, hitem, rfl, hpayer⟩
    obtain ⟨i, b, hb, horder, hagrees⟩ := sync_owed hitem
    exact ⟨i, b, hb, horder, hagrees.type, hagrees.payer ▸ hpayer, hagrees.status⟩

theorem ClosedOrderStep.createPayment_staysClosed_iff (hindexed : ObligationsIndexed db)
    (howes : OwesNothing orderId db) :
    StaysClosed orderId db (env, .createPayment data) ↔
      meets orderId db (env, .createPayment data) := by
  simp only [StaysClosed, ChecksObligation, meets]
  by_cases hgoes : orderExists data db = true ∧ isAccepted env data db = true
  · obtain ⟨hexists, haccepted⟩ := hgoes
    obtain ⟨row, hstep⟩ := createPayment_step hexists haccepted
    rw [hstep]
    cases horder : data.orderId with
    | none =>
        simp only [syncedFor, horder, reduceCtorEq, false_implies, implies_true, and_true]
        exact iff_of_true howes trivial
    | some k =>
        have hk : (db.orders.findUnique k).isSome = true := by
          simpa [orderExists, horder] using hexists
        have hsynced : syncedFor data db = MarketBridge.syncOrderPaymentObligations k db := by
          simp only [syncedFor, horder]
        have hsize : db.payments.size < ((syncedFor data db).payments.create row).size := by
          rw [hsynced, Table.size_create, syncOrderPaymentObligations_size]
          exact Nat.lt_succ_self _
        simp only [hexists, haccepted, true_implies, hsize, Option.some.injEq, forall_eq']
        refine and_congr ?_ (forall_congr' fun htype => ?_)
        · rw [hsynced]
          exact sync_owesNothing_iff hindexed howes
        · rw [hsynced]
          exact isOwed_sync_iff hindexed hk htype
  · rw [createPayment_idle hgoes]
    refine iff_of_true ⟨howes, fun hlt => absurd hlt (Nat.lt_irrefl _)⟩ ?_
    intro hexists haccepted
    exact absurd ⟨hexists, haccepted⟩ hgoes

theorem ClosedOrderStep.staysClosed_iff (a : Env × ClosedOrderStep)
    (hindexed : ObligationsIndexed db) (howes : OwesNothing orderId db) :
    StaysClosed orderId db a ↔ meets orderId db a := by
  obtain ⟨env, a⟩ := a
  cases a with
  | settlePayment args =>
      simp only [StaysClosed, ChecksObligation, and_true, meets]
      exact settlePayment_owesNothing_iff howes
  | syncOrderPaymentObligations k =>
      simp only [StaysClosed, ChecksObligation, and_true, meets]
      exact sync_owesNothing_iff hindexed howes
  | createPayment data =>
      exact createPayment_staysClosed_iff hindexed howes
  | cancelOrder order actorId reason role =>
      refine iff_of_true ⟨?_, trivial⟩ trivial
      exact commit_preserves (P := OwesNothing orderId) howes fun _ hok =>
        (cancelOrder_openKept hok).1.owesNothing howes
  | elsewhere other =>
      exact iff_of_true ⟨howes, trivial⟩ trivial

end Steps

/-! ## Runs -/

/--
After a cancellation its order owes nothing, and it stays so along a run, each
payment of which is created for something owed, exactly if no step of the run
takes a branch that opens an obligation of the order or misses one.
-/
theorem closedOrder_owesNothing_iff {env : Env} {order : OrderRecord} {actorId : Option Id}
    {reason : Option String} {role : CancelledByRole} {start db : Db}
    (hindexed : ObligationsIndexed start)
    (hcancel : cancelOrderInTransaction env order actorId reason role start = .ok db)
    (steps : List (Env × ClosedOrderStep)) :
    OwesNothing order.id db ∧
      (RunMeets ClosedOrderStep.step (ClosedOrderStep.StaysClosed order.id) db steps ↔
        RunMeets ClosedOrderStep.step (ClosedOrderStep.meets order.id) db steps) := by
  have howes := (cancelOrder_openKept hcancel).2
  refine ⟨howes, ?_⟩
  apply runMeets_iff_of_invariant (fun s => ObligationsIndexed s ∧ OwesNothing order.id s)
  · rintro s a ⟨hs, hnone⟩
    exact ClosedOrderStep.staysClosed_iff a hs hnone
  · rintro s a ⟨hs, hnone⟩ hmeets
    exact ⟨ClosedOrderStep.step_indexed a hs,
      ((ClosedOrderStep.staysClosed_iff a hs hnone).2 hmeets).1⟩
  · exact ⟨cancelOrder_indexed hindexed hcancel, howes⟩

section UnpaidOrder

/-- An order whose goods payment has been started. -/
def startedPaymentDb : Db :=
  { orders := Table.empty.create
      { listingId := 0
        buyerId := 1
        sellerId := 2
        finalPrice := 500
        quantity := 1 }
    obligations := Table.empty.create
      { orderId := 0
        type := .marketplace
        payerId := 1
        beneficiaryId := some 2
        amount := 500 }
    payments := Table.empty.create
      { orderId := some 0
        createdById := some 1
        obligationId := some 0
        type := .marketplace
        amount := 500
        status := .pending } }

def startedOrder : OrderRecord :=
  { id := 0
    listingId := 0
    quantity := 1
    status := .pendingPayment
    agreedOfferId := none
    payments := [{ status := .pending, type := some .marketplace }]
    transportJob := none }

theorem startedPaymentDb_indexed : ObligationsIndexed startedPaymentDb := by
  intro i j b c hb hc hij
  have hi : i < 1 := Table.lt_size_of_findUnique hb
  have hj : j < 1 := Table.lt_size_of_findUnique hc
  omega

def cancelledPaymentDb : Db :=
  commit (cancelOrderInTransaction env0 startedOrder (some 1) none .buyer startedPaymentDb)
    startedPaymentDb

theorem startedOrder_cancelled :
    cancelOrderInTransaction env0 startedOrder (some 1) none .buyer startedPaymentDb =
      .ok cancelledPaymentDb := by
  have hok : (cancelOrderInTransaction env0 startedOrder (some 1) none .buyer
      startedPaymentDb).isOk = true := by
    decide +kernel
  unfold cancelledPaymentDb
  cases hcancel : cancelOrderInTransaction env0 startedOrder (some 1) none .buyer
      startedPaymentDb with
  | error e =>
      rw [hcancel] at hok
      cases hok
  | ok db =>
      rfl

/-- Nothing is heard of the payment, and a late synchronisation finds nothing to open. -/
theorem closedOrder_owesNothing_late :
    RunMeets ClosedOrderStep.step (ClosedOrderStep.StaysClosed 0) cancelledPaymentDb
      [(env0, .syncOrderPaymentObligations 0)] :=
  (closedOrder_owesNothing_iff startedPaymentDb_indexed startedOrder_cancelled _).2.2
    ⟨fun _ => by decide +kernel, trivial⟩

def failedCheckout : SettleArgs :=
  { paymentId := 0
    status := .failed
    eventId := some "chapa-failed" }

/-- The failure of the checkout opens the obligation of the cancelled order again. -/
theorem failed_checkout_reopens :
    ObligationsIndexed startedPaymentDb ∧
      cancelOrderInTransaction env0 startedOrder (some 1) none .buyer startedPaymentDb =
        .ok cancelledPaymentDb ∧
      ¬ RunMeets ClosedOrderStep.step (ClosedOrderStep.StaysClosed 0) cancelledPaymentDb
        [(env0, .settlePayment failedCheckout)] := by
  refine ⟨startedPaymentDb_indexed, startedOrder_cancelled, ?_⟩
  rintro ⟨⟨howes, -⟩, -⟩
  have hopened : (ClosedOrderStep.step cancelledPaymentDb
      (env0, .settlePayment failedCheckout)).obligations.findUnique 0 =
        some { orderId := 0, type := .marketplace, payerId := 1, beneficiaryId := some 2
               amount := 500 } := by
    decide +kernel
  exact howes 0 _ hopened rfl rfl

end UnpaidOrder

end MarketBridge
