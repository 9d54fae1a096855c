import MarketBridge.Payment.OwedItems
import MarketBridge.Refund.Moves

/-!
# Payments and the obligations they settle

An obligation and the payments of its purpose agree if the obligation is not
open while one of them is received, and if it does not stay paid once the
payment that is linked to it has been refunded and none of the others is
received.  This file says when a synchronisation keeps them in agreement.
-/

namespace MarketBridge

open Relational

/-! ## Purposes -/

/-- What a payment is made for, and by whom. -/
structure PaymentPurpose where
  type : PaymentType
  payerId : Id
  orderId : Id
  inspectionRequestId : Option Id
  transportJobId : Option Id
deriving DecidableEq, Repr

def PaymentObligation.purpose (b : PaymentObligation) : PaymentPurpose :=
  { type := b.type
    payerId := b.payerId
    orderId := b.orderId
    inspectionRequestId := b.inspectionRequestId
    transportJobId := b.transportJobId }

def DesiredObligation.purpose (item : DesiredObligation) : PaymentPurpose :=
  { type := item.type
    payerId := item.payerId
    orderId := item.obligationKey.orderId
    inspectionRequestId := item.inspectionRequestId
    transportJobId := item.transportJobId }

/-- The payment has this type and payer, and the same inspection request, job or order. -/
def Payment.serves (p : Payment) (u : PaymentPurpose) : Bool :=
  p.type = u.type && p.createdById = some u.payerId &&
    match u.type with
    | .inspector => p.inspectionRequestId.isSome && p.inspectionRequestId = u.inspectionRequestId
    | .transport => p.transportJobId.isSome && p.transportJobId = u.transportJobId
    | _ => p.orderId = some u.orderId

def hasPaidPayment (db : Db) (u : PaymentPurpose) : Bool :=
  db.payments.any fun _ p => p.status = .paid && p.serves u

def isRefundedAt (db : Db) (obligationId : Id) : Bool :=
  db.payments.any fun _ p => p.obligationId = some obligationId && p.status = .refunded

/-- Obligations and payments agree. -/
structure Agreement (db : Db) : Prop where
  unpaid : forall o b, db.obligations.findUnique o = some b -> b.status = .open ->
    hasPaidPayment db b.purpose = false
  supported : forall o b, db.obligations.findUnique o = some b -> b.status = .paid ->
    isRefundedAt db o = true -> hasPaidPayment db b.purpose = true

/-- The keys and the links of obligations are unique, and every link leads to a row. -/
structure ObligationsLinked (db : Db) : Prop where
  indexed : ObligationsIndexed db
  unique : forall i j p q o, db.payments.findUnique i = some p ->
    db.payments.findUnique j = some q -> p.obligationId = some o -> q.obligationId = some o ->
      i = j
  founded : forall i p o, db.payments.findUnique i = some p -> p.obligationId = some o ->
    exists b, db.obligations.findUnique o = some b

section Readings

variable {db db' : Db} {u : PaymentPurpose} {o : Id}

theorem hasPaidPayment_iff :
    hasPaidPayment db u = true ↔ exists i p, db.payments.findUnique i = some p ∧
      p.status = .paid ∧ p.serves u = true := by
  unfold hasPaidPayment
  rw [Table.any_eq_true_iff]
  simp

theorem isRefundedAt_iff :
    isRefundedAt db o = true ↔ exists i p, db.payments.findUnique i = some p ∧
      p.obligationId = some o ∧ p.status = .refunded := by
  unfold isRefundedAt
  rw [Table.any_eq_true_iff]
  simp

theorem Payment.serves_core {p p' : Payment} (h : p'.core = p.core) (u : PaymentPurpose) :
    p'.serves u = p.serves u := by
  have hcore : forall q : Payment, q.core.serves u = q.serves u := fun _ => rfl
  rw [← hcore p', ← hcore p, h]

theorem PaymentObligation.Agrees.purpose {b : PaymentObligation} {item : DesiredObligation}
    {status : PaymentObligationStatus} (h : b.Agrees item status) :
    b.purpose = item.purpose := by
  unfold PaymentObligation.purpose DesiredObligation.purpose
  rw [h.type, h.payer, h.inspection, h.job, ← h.key, b.keyed.1]

theorem LinksOnly.hasPaidPayment (h : LinksOnly db db') (u : PaymentPurpose) :
    hasPaidPayment db' u = MarketBridge.hasPaidPayment db u := by
  rw [Bool.eq_iff_iff, hasPaidPayment_iff, hasPaidPayment_iff]
  have hrow : forall p q : Payment, p.unlinked = q.unlinked ->
      p.status = q.status ∧ p.serves u = q.serves u := by
    intro p q hpq
    have hstatus : p.unlinked.status = q.unlinked.status := congrArg Payment.status hpq
    have hcore : p.unlinked.core = q.unlinked.core := congrArg Payment.core hpq
    exact ⟨hstatus, Payment.serves_core hcore u⟩
  constructor
  · rintro ⟨i, p, hp, hpaid, hserves⟩
    have hi := h.payments i
    rw [hp, Option.map_some] at hi
    obtain ⟨q, hq, hpq⟩ := Option.map_eq_some_iff.1 hi.symm
    obtain ⟨hs, hu⟩ := hrow q p hpq
    exact ⟨i, q, hq, hs.trans hpaid, hu.trans hserves⟩
  · rintro ⟨i, p, hp, hpaid, hserves⟩
    have hi := h.payments i
    rw [hp, Option.map_some] at hi
    obtain ⟨q, hq, hpq⟩ := Option.map_eq_some_iff.1 hi
    obtain ⟨hs, hu⟩ := hrow q p hpq
    exact ⟨i, q, hq, hs.trans hpaid, hu.trans hserves⟩

end Readings

/-! ## Synchronisations -/

def isMatched (loaded : Db) (orderId : Id) (items : List DesiredObligation) (paymentId : Id) :
    Bool :=
  items.any fun item => (matchingPayment loaded orderId item).any fun e => e.1 = paymentId

def linkedPayment (db : Db) (item : DesiredObligation) : Option (Id × Payment) :=
  (obligationByKey db item.obligationKey).bind fun e => obligationPayment db e.1

/-- The search for the item, or its own payment, comes upon a received payment. -/
def findsPaid (loaded : Db) (orderId : Id) (items : List DesiredObligation)
    (item : DesiredObligation) : Bool :=
  isPaidPayment (matchingPayment loaded orderId item) ||
    (linkedPayment loaded item).any fun e =>
      e.2.status = .paid && !isMatched loaded orderId items e.1

/-- The state of the loop over `items`, which started from `loaded`. -/
structure SyncState (loaded : Db) (orderId : Id) (items : List DesiredObligation) (db : Db) :
    Prop where
  payments : forall i, db.payments.findUnique i = loaded.payments.findUnique i ∨
    exists item p o, item ∈ items ∧ matchingPayment loaded orderId item = some (i, p) ∧
      db.payments.findUnique i = some { p with obligationId := some o }
  rows : forall o b, loaded.obligations.findUnique o = some b ->
    exists b', db.obligations.findUnique o = some b' ∧ b'.obligationKey = b.obligationKey
  linked : ObligationsLinked db

section Loop

variable {loaded db : Db} {orderId : Id} {items rest : List DesiredObligation}
  {item : DesiredObligation}

theorem matchingPayment_eq_some {i : Id} {p : Payment}
    (h : matchingPayment loaded orderId item = some (i, p)) :
    loaded.payments.findUnique i = some p ∧ p.isPendingOrPaid = true := by
  unfold matchingPayment at h
  split at h
  · obtain ⟨hp, hselected⟩ := Table.findFirst_eq_some h
    simp only [Bool.and_eq_true] at hselected
    exact ⟨hp, hselected.2⟩
  · obtain ⟨hp, hselected⟩ := Table.findFirst_eq_some h
    simp only [Bool.and_eq_true] at hselected
    exact ⟨hp, hselected.1.2⟩

theorem ObligationsLinked.obligationPayment (h : ObligationsLinked db) {i o : Id} {p : Payment}
    (hp : db.payments.findUnique i = some p) (ho : p.obligationId = some o) :
    obligationPayment db o = some (i, p) := by
  unfold MarketBridge.obligationPayment
  cases hfound : db.payments.findFirst fun _ p => p.obligationId = some o with
  | none =>
      have hnone := Table.findFirst_eq_none_iff.mp hfound i p hp
      simp [ho] at hnone
  | some e =>
      obtain ⟨j, q⟩ := e
      obtain ⟨hq, hlink⟩ := Table.findFirst_eq_some hfound
      obtain rfl := h.unique j i q p o hq hp (of_decide_eq_true hlink) ho
      rw [hp, Option.some.injEq] at hq
      rw [hq]

theorem obligationPayment_eq_some {o i : Id} {p : Payment}
    (h : obligationPayment db o = some (i, p)) :
    db.payments.findUnique i = some p ∧ p.obligationId = some o := by
  obtain ⟨hp, hlink⟩ := Table.findFirst_eq_some h
  exact ⟨hp, of_decide_eq_true hlink⟩

theorem SyncState.payment_of_unmatched (h : SyncState loaded orderId items db) {i : Id}
    (hunmatched : isMatched loaded orderId items i = false) :
    db.payments.findUnique i = loaded.payments.findUnique i := by
  rcases h.payments i with hsame | ⟨item, p, o, hitem, hmatch, -⟩
  · exact hsame
  · have hmatched : isMatched loaded orderId items i = true := by
      unfold isMatched
      rw [List.any_eq_true]
      exact ⟨item, hitem, by simp [hmatch]⟩
    rw [hmatched] at hunmatched
    cases hunmatched

theorem SyncState.isRefundedAt_eq (h : SyncState loaded orderId items db) (o : Id) :
    isRefundedAt db o = isRefundedAt loaded o := by
  have hmoved : forall i p o', loaded.payments.findUnique i = some p -> p.isPendingOrPaid = true ->
      db.payments.findUnique i = some { p with obligationId := o' } -> p.status ≠ .refunded := by
    intro i p o' _ hpending _ hrefunded
    simp [Payment.isPendingOrPaid, hrefunded] at hpending
  rw [Bool.eq_iff_iff, isRefundedAt_iff, isRefundedAt_iff]
  constructor
  · rintro ⟨i, p, hp, ho, hrefunded⟩
    rcases h.payments i with hsame | ⟨item, q, o', -, hmatch, hq⟩
    · exact ⟨i, p, hsame ▸ hp, ho, hrefunded⟩
    · obtain ⟨hload, hpending⟩ := matchingPayment_eq_some hmatch
      obtain rfl := Option.some.inj (hp.symm.trans hq)
      exact absurd hrefunded (hmoved i q _ hload hpending hq)
  · rintro ⟨i, p, hp, ho, hrefunded⟩
    rcases h.payments i with hsame | ⟨item, q, o', -, hmatch, hq⟩
    · exact ⟨i, p, hsame.trans hp, ho, hrefunded⟩
    · obtain ⟨hload, hpending⟩ := matchingPayment_eq_some hmatch
      obtain rfl := Option.some.inj (hp.symm.trans hload)
      exact absurd hrefunded (hmoved i p _ hload hpending hq)

theorem SyncState.retire (h : SyncState loaded orderId items db)
    (p : PaymentObligation -> Bool) :
    SyncState loaded orderId items (retireObligations p db) := by
  have hrow : forall o b, db.obligations.findUnique o = some b ->
      exists b', (retireObligations p db).obligations.findUnique o = some b' ∧
        b'.obligationKey = b.obligationKey := by
    intro o b hb
    simp only [retireObligations, Table.findUnique_updateMany, hb, Option.map_some]
    refine ⟨_, rfl, ?_⟩
    split <;> rfl
  refine ⟨h.payments, ?_, ?_, h.linked.unique, ?_⟩
  · intro o b hb
    obtain ⟨c, hc, hkey⟩ := h.rows o b hb
    obtain ⟨b', hb', hkey'⟩ := hrow o c hc
    exact ⟨b', hb', hkey'.trans hkey⟩
  · exact h.linked.indexed.updateMany fun _ => rfl
  · intro i q o hq ho
    obtain ⟨b, hb⟩ := h.linked.founded i q o hq ho
    obtain ⟨b', hb', -⟩ := hrow o b hb
    exact ⟨b', hb'⟩

theorem upsertObligation_found (item : DesiredObligation) (status : PaymentObligationStatus)
    (db : Db) :
    exists b, (upsertObligation item status db).2.obligations.findUnique
      (upsertObligation item status db).1 = some b := by
  unfold upsertObligation
  cases hfound : obligationByKey db item.obligationKey with
  | some e =>
      obtain ⟨o, b⟩ := e
      obtain ⟨hb, -⟩ := Table.findFirst_eq_some hfound
      exact ⟨b.synced item status, by simp only [Table.findUnique_update_self, hb, Option.map_some]⟩
  | none =>
      exact ⟨item.row status, Table.findUnique_create_self _ _⟩

theorem upsertObligation_rows (item : DesiredObligation) (status : PaymentObligationStatus)
    {o : Id} {b : PaymentObligation} (hb : db.obligations.findUnique o = some b) :
    exists b', (upsertObligation item status db).2.obligations.findUnique o = some b' ∧
      b'.obligationKey = b.obligationKey := by
  unfold upsertObligation
  cases obligationByKey db item.obligationKey with
  | some e =>
      simp only [Table.findUnique_update]
      split
      · exact ⟨b.synced item status, by rw [hb, Option.map_some], b.synced_obligationKey item status⟩
      · exact ⟨b, hb, rfl⟩
  | none =>
      have ho : o ≠ db.obligations.size := Nat.ne_of_lt (Table.lt_size_of_findUnique hb)
      simp only [Table.findUnique_create, if_neg ho]
      exact ⟨b, hb, rfl⟩

theorem linkPayment_linked {o : Id} {b : PaymentObligation} {payment : Option (Id × Payment)}
    (h : ObligationsLinked db) (hb : db.obligations.findUnique o = some b) :
    ObligationsLinked (linkPayment payment o db) := by
  unfold linkPayment
  cases payment with
  | none =>
      exact h
  | some e =>
      obtain ⟨k, m⟩ := e
      dsimp only
      split
      · exact h
      · next hfree =>
          have hfree : forall i p, db.payments.findUnique i = some p -> p.obligationId ≠ some o := by
            intro i p hp ho
            rw [h.obligationPayment hp ho] at hfree
            exact hfree rfl
          have hrow : forall i p, (db.payments.update k
              ({ · with obligationId := some o })).findUnique i = some p -> forall o',
                p.obligationId = some o' -> i = k ∧ o' = o ∨
                  i ≠ k ∧ db.payments.findUnique i = some p := by
            intro i p hp o' ho'
            rw [Table.findUnique_update] at hp
            split at hp
            · next hi =>
                obtain ⟨q, -, rfl⟩ := Option.map_eq_some_iff.1 hp
                exact Or.inl ⟨hi, (Option.some.inj ho').symm⟩
            · next hi =>
                exact Or.inr ⟨hi, hp⟩
          refine ⟨h.indexed, ?_, ?_⟩
          · intro i j p q o' hp hq hpo hqo
            rcases hrow i p hp o' hpo with ⟨hi, ho⟩ | ⟨-, hp⟩
            · rcases hrow j q hq o' hqo with ⟨hj, -⟩ | ⟨-, hq⟩
              · rw [hi, hj]
              · exact absurd (ho ▸ hqo) (hfree j q hq)
            · rcases hrow j q hq o' hqo with ⟨-, ho⟩ | ⟨-, hq⟩
              · exact absurd (ho ▸ hpo) (hfree i p hp)
              · exact h.unique i j p q o' hp hq hpo hqo
          · intro i p o' hp hpo
            rcases hrow i p hp o' hpo with ⟨-, ho⟩ | ⟨-, hp⟩
            · exact ⟨b, ho ▸ hb⟩
            · exact h.founded i p o' hp hpo

theorem linkPayment_payments {o i : Id} (payment : Option (Id × Payment)) :
    (linkPayment payment o db).payments.findUnique i = db.payments.findUnique i ∨
      exists m, payment = some (i, m) ∧ (linkPayment payment o db).payments.findUnique i =
        (db.payments.findUnique i).map ({ · with obligationId := some o }) := by
  unfold linkPayment
  cases payment with
  | none =>
      exact Or.inl rfl
  | some e =>
      obtain ⟨k, m⟩ := e
      dsimp only
      split
      · exact Or.inl rfl
      · rw [Table.findUnique_update]
        split
        · next hi =>
            exact Or.inr ⟨m, by rw [hi], rfl⟩
        · exact Or.inl rfl

theorem SyncState.syncObligation (h : SyncState loaded orderId items db) (hitem : item ∈ items) :
    SyncState loaded orderId items (syncObligation loaded orderId item db) := by
  have hshape : MarketBridge.syncObligation loaded orderId item db =
      linkPayment (matchingPayment loaded orderId item)
        (upsertObligation item (syncedStatus loaded orderId item db) db).1
        (upsertObligation item (syncedStatus loaded orderId item db) db).2 := rfl
  rw [hshape]
  have hpayments := upsertObligation_payments item (syncedStatus loaded orderId item db) db
  have hrows := fun o b => @upsertObligation_rows db item (syncedStatus loaded orderId item db) o b
  obtain ⟨written, hwritten⟩ :=
    upsertObligation_found item (syncedStatus loaded orderId item db) db
  have hindexed : ObligationsIndexed
      (upsertObligation item (syncedStatus loaded orderId item db) db).2 :=
    upsertObligation_indexed h.linked.indexed
  generalize upsertObligation item (syncedStatus loaded orderId item db) db = upserted at *
  refine ⟨?_, ?_, ?_⟩
  · intro i
    rcases @linkPayment_payments upserted.2 upserted.1 i (matchingPayment loaded orderId item)
      with hsame | ⟨m, hmatch, hlink⟩
    · rw [hsame, hpayments]
      exact h.payments i
    · right
      have hload := (matchingPayment_eq_some hmatch).1
      refine ⟨item, m, upserted.1, hitem, hmatch, ?_⟩
      rw [hlink, hpayments]
      rcases h.payments i with hsame | ⟨item', p, o, -, hmatch', hp⟩
      · rw [hsame, hload]
        rfl
      · obtain rfl := Option.some.inj (hload.symm.trans (matchingPayment_eq_some hmatch').1)
        rw [hp]
        rfl
  · intro o b hb
    obtain ⟨c, hc, hkey⟩ := h.rows o b hb
    obtain ⟨b', hb', hkey'⟩ := hrows o c hc
    rw [linkPayment_obligations]
    exact ⟨b', hb', hkey'.trans hkey⟩
  · refine linkPayment_linked ⟨hindexed, ?_, ?_⟩ hwritten
    · rw [hpayments]
      exact h.linked.unique
    · intro i p o hp ho
      rw [hpayments] at hp
      obtain ⟨b, hb⟩ := h.linked.founded i p o hp ho
      obtain ⟨b', hb', -⟩ := hrows o b hb
      exact ⟨b', hb'⟩

theorem SyncState.foldl (h : SyncState loaded orderId items db)
    (hrest : forall item, item ∈ rest -> item ∈ items) :
    SyncState loaded orderId items
      (rest.foldl (fun s item => MarketBridge.syncObligation loaded orderId item s) db) := by
  induction rest generalizing db with
  | nil =>
      exact h
  | cons item rest ih =>
      refine ih (h.syncObligation (hrest item List.mem_cons_self)) ?_
      intro other hother
      exact hrest other (List.mem_cons_of_mem item hother)

theorem syncedItems_status {e : DesiredObligation × PaymentObligationStatus}
    (h : SyncState loaded orderId items db) (hrest : forall item, item ∈ rest -> item ∈ items)
    (he : e ∈ syncedItems loaded orderId rest db) :
    exists s, SyncState loaded orderId items s ∧ e.2 = syncedStatus loaded orderId e.1 s := by
  induction rest generalizing db with
  | nil =>
      cases he
  | cons item rest ih =>
      have hlater := ih (h.syncObligation (hrest item List.mem_cons_self))
        fun other hother => hrest other (List.mem_cons_of_mem item hother)
      simp only [syncedItems] at he
      split at he
      · exact hlater he
      · rcases List.mem_cons.1 he with rfl | he
        · exact ⟨db, h, rfl⟩
        · exact hlater he

theorem SyncState.isSettledItem_of_findsPaid (h : SyncState loaded orderId items db)
    (hfinds : findsPaid loaded orderId items item = true) :
    isSettledItem loaded orderId item db = true := by
  unfold findsPaid at hfinds
  unfold isSettledItem
  rw [Bool.or_eq_true] at hfinds ⊢
  rcases hfinds with hmatch | hlinked
  · exact Or.inl hmatch
  · right
    rw [Option.any_eq_true] at hlinked
    obtain ⟨⟨i, p⟩, hlinked, hpaid⟩ := hlinked
    simp only [Bool.and_eq_true, decide_eq_true_eq, Bool.not_eq_true'] at hpaid
    obtain ⟨⟨o, b⟩, hfound, hpayment⟩ := Option.bind_eq_some_iff.1 hlinked
    obtain ⟨hb, hkey⟩ := Table.findFirst_eq_some hfound
    obtain ⟨hp, ho⟩ := obligationPayment_eq_some hpayment
    obtain ⟨b', hb', hkey'⟩ := h.rows o b hb
    have hfound' := obligationByKey_of_findUnique h.linked.indexed hb'
    rw [hkey', of_decide_eq_true hkey] at hfound'
    rw [hfound', Option.bind_some,
      h.linked.obligationPayment ((h.payment_of_unmatched hpaid.2).trans hp) ho]
    exact decide_eq_true hpaid.1

theorem ObligationsLinked.not_paid_of_refunded (h : ObligationsLinked db) {o : Id}
    {b : PaymentObligation} (hb : db.obligations.findUnique o = some b)
    (hkey : b.obligationKey = item.obligationKey) (hrefunded : isRefundedAt db o = true) :
    isPaidPayment (linkedPayment db item) = false := by
  obtain ⟨i, p, hp, ho, hs⟩ := isRefundedAt_iff.1 hrefunded
  have hfound := obligationByKey_of_findUnique h.indexed hb
  rw [hkey] at hfound
  unfold linkedPayment
  rw [hfound, Option.bind_some, h.obligationPayment hp ho]
  simp [isPaidPayment, hs]

end Loop

/-! ## What a synchronisation must not do -/

def desiredFor (db : Db) (orderId : Id) : List DesiredObligation :=
  match db.orders.findUnique orderId with
  | none => []
  | some order => desiredObligations db orderId order

/-- A payment of the item is received, but neither search comes upon one. -/
def overlooks (db : Db) (orderId : Id) : Bool :=
  (desiredFor db orderId).any fun item =>
    hasPaidPayment db item.purpose && !findsPaid db orderId (desiredFor db orderId) item

/-- The obligation of the item has been refunded, and somebody else's payment is found for it. -/
def misattributes (db : Db) (orderId : Id) : Bool :=
  (desiredFor db orderId).any fun item =>
    isPaidPayment (matchingPayment db orderId item) &&
      (obligationByKey db item.obligationKey).any (fun e => isRefundedAt db e.1) &&
        !hasPaidPayment db item.purpose

section Sync

variable {db : Db} {orderId : Id}

theorem syncState_start (h : ObligationsLinked db) (items : List DesiredObligation) :
    SyncState db orderId items db :=
  ⟨fun _ => Or.inl rfl, fun _ b hb => ⟨b, hb, rfl⟩, h⟩

theorem syncState_sync (h : ObligationsLinked db) :
    SyncState db orderId (desiredFor db orderId) (syncOrderPaymentObligations orderId db) := by
  unfold syncOrderPaymentObligations desiredFor
  cases db.orders.findUnique orderId with
  | none =>
      exact syncState_start h _
  | some order =>
      exact (((syncState_start h _).retire _).foldl fun _ hitem => hitem).retire _

theorem syncedItems_of_sync {order : Order} (h : ObligationsLinked db)
    (horder : db.orders.findUnique orderId = some order)
    {e : DesiredObligation × PaymentObligationStatus}
    (he : e ∈ syncedItems db orderId (desiredObligations db orderId order)
      (retireObligations (isUnconfirmedFee db orderId) db)) :
    e.1 ∈ desiredFor db orderId ∧ exists s, SyncState db orderId (desiredFor db orderId) s ∧
      e.2 = syncedStatus db orderId e.1 s := by
  unfold desiredFor
  rw [horder]
  exact ⟨mem_of_mem_syncedItems he,
    syncedItems_status ((syncState_start h _).retire _) (fun _ hitem => hitem) he⟩

theorem owedItems_unsettled {item : DesiredObligation} (h : ObligationsLinked db)
    (hitem : item ∈ owedItems db orderId) :
    item ∈ desiredFor db orderId ∧ exists s, SyncState db orderId (desiredFor db orderId) s ∧
      isSettledItem db orderId item s = false := by
  unfold owedItems at hitem
  cases horder : db.orders.findUnique orderId with
  | none =>
      rw [horder] at hitem
      cases hitem
  | some order =>
      simp only [horder] at hitem
      obtain ⟨e, he, rfl⟩ := List.mem_map.1 hitem
      obtain ⟨he, hopen⟩ := List.mem_filter.1 he
      obtain ⟨hdesired, s, hs, hstatus⟩ := syncedItems_of_sync h horder he
      refine ⟨hdesired, s, hs, ?_⟩
      rw [of_decide_eq_true hopen] at hstatus
      unfold syncedStatus at hstatus
      by_contra hsettled
      rw [if_pos (Bool.not_eq_false _ ▸ hsettled)] at hstatus
      cases hstatus

/-- A paid obligation after a synchronisation was settled in its turn, or is as it was. -/
theorem sync_paid {o : Id} {b : PaymentObligation} (h : ObligationsLinked db)
    (hb : (syncOrderPaymentObligations orderId db).obligations.findUnique o = some b)
    (hpaid : b.status = .paid) :
    (exists item s, item ∈ desiredFor db orderId ∧
      SyncState db orderId (desiredFor db orderId) s ∧ isSettledItem db orderId item s = true ∧
        b.Agrees item .paid) ∨
      db.obligations.findUnique o = some b := by
  have hkept : forall {p : PaymentObligation -> Bool} {s : Db},
      (retireObligations p s).obligations.findUnique o = some b ->
        s.obligations.findUnique o = some b := by
    intro p s hrow
    simp only [retireObligations, Table.findUnique_updateMany] at hrow
    obtain ⟨c, hc, rfl⟩ := Option.map_eq_some_iff.1 hrow
    split at hpaid
    · cases hpaid
    · next hnot =>
        rw [if_neg hnot]
        exact hc
  unfold syncOrderPaymentObligations at hb
  cases horder : db.orders.findUnique orderId with
  | none =>
      rw [horder] at hb
      exact Or.inr hb
  | some order =>
      simp only [horder] at hb
      have hfirst : ObligationsIndexed (retireObligations (isUnconfirmedFee db orderId) db) :=
        h.indexed.updateMany fun _ => rfl
      rcases foldl_syncObligation_row hfirst (hkept hb) with ⟨-, hold⟩ | ⟨e, he, hagrees⟩
      · exact Or.inr (hkept hold)
      · obtain ⟨hdesired, s, hs, hstatus⟩ := syncedItems_of_sync h horder he
        have hread : e.2 = .paid := hagrees.status.symm.trans hpaid
        refine Or.inl ⟨e.1, s, hdesired, hs, ?_, hread ▸ hagrees⟩
        rw [hread] at hstatus
        unfold syncedStatus at hstatus
        by_contra hsettled
        rw [if_neg hsettled] at hstatus
        cases hstatus

theorem sync_agreement (hlinked : ObligationsLinked db) (h : Agreement db)
    (hfinds : overlooks db orderId = false) (hright : misattributes db orderId = false) :
    Agreement (syncOrderPaymentObligations orderId db) := by
  have hstate := @syncState_sync db orderId hlinked
  have hpaid := (syncOrderPaymentObligations_linksOnly orderId db).hasPaidPayment
  unfold overlooks at hfinds
  unfold misattributes at hright
  rw [List.any_eq_false] at hfinds hright
  refine ⟨?_, ?_⟩
  · intro o b hb hopen
    rw [hpaid]
    rcases sync_open hlinked.indexed hb hopen with ⟨item, hitem, hagrees⟩ | ⟨hold, -⟩
    · rw [hagrees.purpose]
      obtain ⟨hdesired, s, hs, hunsettled⟩ := owedItems_unsettled hlinked hitem
      by_contra hhas
      have hfound : findsPaid db orderId (desiredFor db orderId) item = true := by
        simpa [Bool.not_eq_false _ ▸ hhas] using hfinds item hdesired
      rw [hs.isSettledItem_of_findsPaid hfound] at hunsettled
      cases hunsettled
    · exact h.unpaid o b hold hopen
  · intro o b hb hsettled hrefunded
    rw [hpaid]
    rw [hstate.isRefundedAt_eq] at hrefunded
    rcases sync_paid hlinked hb hsettled with ⟨item, s, hdesired, hs, hitem, hagrees⟩ | hold
    · rw [hagrees.purpose]
      -- The refunded payment keeps its link, so the search has found another one.
      obtain ⟨i, p, hp, ho, -⟩ := isRefundedAt_iff.1 hrefunded
      obtain ⟨c, hc⟩ := hlinked.founded i p o hp ho
      obtain ⟨b', hb', hkey⟩ := hstate.rows o c hc
      obtain rfl := Option.some.inj (hb.symm.trans hb')
      have hckey : c.obligationKey = item.obligationKey := hkey.symm.trans hagrees.key
      obtain ⟨c', hc', hkey'⟩ := hs.rows o c hc
      have hown := hs.linked.not_paid_of_refunded hc' (hkey'.trans hckey)
        ((hs.isRefundedAt_eq o).trans hrefunded)
      have hmatch : isPaidPayment (matchingPayment db orderId item) = true := by
        unfold isSettledItem at hitem
        unfold linkedPayment at hown
        rw [hown, Bool.or_false] at hitem
        exact hitem
      have hfound := obligationByKey_of_findUnique hlinked.indexed hc
      rw [hckey] at hfound
      have hitem := hright item hdesired
      rw [hmatch, hfound, Option.any_some, hrefunded] at hitem
      simpa using hitem
    · exact h.supported o b hold hsettled hrefunded

theorem sync_linked (h : ObligationsLinked db) :
    ObligationsLinked (syncOrderPaymentObligations orderId db) :=
  (syncState_sync h).linked

end Sync

end MarketBridge
