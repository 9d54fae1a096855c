import MarketBridge.Payment.Agreement

/-!
# Synchronising twice

A pass of the loop leaves an item synchronised, and the other passes leave it so as long as
no payment that one item finds is linked to the obligation of another one.
-/

namespace MarketBridge

open Relational

/-! ## Synchronised items -/

/-- Another pass of the loop for the item changes nothing. -/
structure IsSynced (loaded : Db) (orderId : Id) (item : DesiredObligation) (db : Db) (o : Id)
    (b : PaymentObligation) : Prop where
  found : obligationByKey db item.obligationKey = some (o, b)
  written : b.synced item (syncedStatus loaded orderId item db) = b
  linked : (matchingPayment loaded orderId item).isSome = true ->
    (obligationPayment db o).isSome = true

namespace OfferCounterParty

def of (order : Order) : OfferCounterParty -> Id
  | buyer => order.buyerId
  | seller => order.sellerId

end OfferCounterParty

def Payment.IsFor (db : Db) (p : Payment) : ObligationKey -> Prop
  | .ofType orderId type => p.type = type ∧ p.orderId = some orderId
  | .inspection _ requestId => p.type = .inspector ∧ p.inspectionRequestId = some requestId
  | .inspectionShare orderId requestId role =>
      p.type = .inspector ∧ p.inspectionRequestId = some requestId ∧
        forall order, db.orders.findUnique orderId = some order ->
          p.createdById = some (role.of order)

/-- Payments are linked to obligations that they are for; `loaded` has the orders. -/
def MadeFor (loaded db : Db) : Prop :=
  forall i p o b, db.payments.findUnique i = some p -> p.obligationId = some o ->
    db.obligations.findUnique o = some b -> p.IsFor loaded b.obligationKey

/-- What an item finds is for its obligation, and for the obligation of no other item. -/
structure Distinguishes (loaded : Db) (orderId : Id) (items : List DesiredObligation) : Prop where
  found : forall item i p, item ∈ items -> matchingPayment loaded orderId item = some (i, p) ->
    p.IsFor loaded item.obligationKey
  single : forall item item' (p : Payment), item ∈ items -> item' ∈ items ->
    p.IsFor loaded item.obligationKey -> p.IsFor loaded item'.obligationKey ->
      item.obligationKey = item'.obligationKey

/-- A payment that an item finds is not linked to the obligation of another item. -/
def KeptApart (loaded : Db) (orderId : Id) (items : List DesiredObligation) (db : Db) : Prop :=
  forall item item' i p q o b, item ∈ items -> item' ∈ items ->
    matchingPayment loaded orderId item' = some (i, p) -> db.payments.findUnique i = some q ->
      q.obligationId = some o -> db.obligations.findUnique o = some b ->
        b.obligationKey = item.obligationKey -> item.obligationKey = item'.obligationKey

section Loop

variable {loaded db db' : Db} {orderId : Id} {items rest : List DesiredObligation}
  {item item' : DesiredObligation} {o : Id} {b : PaymentObligation}

theorem PaymentObligation.synced_synced (b : PaymentObligation) (item : DesiredObligation)
    (status : PaymentObligationStatus) :
    (b.synced item status).synced item status = b.synced item status := by
  by_cases hkey : b.obligationKey = item.obligationKey
  · unfold PaymentObligation.synced
    simp only [dif_pos hkey]
  · unfold PaymentObligation.synced
    simp only [dif_neg hkey]

theorem DesiredObligation.row_synced (item : DesiredObligation)
    (status : PaymentObligationStatus) :
    (item.row status).synced item status = item.row status := by
  have hkey : (item.row status).obligationKey = item.obligationKey := rfl
  unfold PaymentObligation.synced
  rw [dif_pos hkey]
  rfl

theorem upsertObligation_spec (h : ObligationsLinked db) (item : DesiredObligation)
    (status : PaymentObligationStatus) :
    exists b, (upsertObligation item status db).2.obligations.findUnique
        (upsertObligation item status db).1 = some b ∧
      b.obligationKey = item.obligationKey ∧ b.synced item status = b ∧
      obligationPayment db (upsertObligation item status db).1 = linkedPayment db item := by
  unfold upsertObligation linkedPayment
  cases hfound : obligationByKey db item.obligationKey with
  | some e =>
      obtain ⟨o, b⟩ := e
      obtain ⟨hb, hkey⟩ := Table.findFirst_eq_some hfound
      have hkey : b.obligationKey = item.obligationKey := of_decide_eq_true hkey
      refine ⟨b.synced item status, ?_, ?_, b.synced_synced item status, rfl⟩
      · simp only [Table.findUnique_update_self, hb, Option.map_some]
      · rw [b.synced_obligationKey, hkey]
  | none =>
      refine ⟨item.row status, Table.findUnique_create_self _ _, rfl, item.row_synced status, ?_⟩
      -- nothing is linked to a row that is only now created
      cases hpayment : obligationPayment db db.obligations.size with
      | none => rfl
      | some e =>
          obtain ⟨hp, ho⟩ := obligationPayment_eq_some hpayment
          obtain ⟨b, hb⟩ := h.founded e.1 e.2 _ hp ho
          exact absurd (Table.lt_size_of_findUnique hb) (Nat.lt_irrefl _)

theorem obligationPayment_congr (hpayments : db'.payments = db.payments) (o : Id) :
    obligationPayment db' o = obligationPayment db o := by
  unfold obligationPayment
  rw [hpayments]

theorem obligationPayment_eq (h : ObligationsLinked db) (h' : ObligationsLinked db')
    (hiff : forall i p, p.obligationId = some o ->
      (db'.payments.findUnique i = some p ↔ db.payments.findUnique i = some p)) :
    obligationPayment db' o = obligationPayment db o := by
  cases hold : obligationPayment db o with
  | some e =>
      obtain ⟨hp, ho⟩ := obligationPayment_eq_some hold
      exact h'.obligationPayment ((hiff e.1 e.2 ho).2 hp) ho
  | none =>
      cases hnew : obligationPayment db' o with
      | none => rfl
      | some e =>
          obtain ⟨hp, ho⟩ := obligationPayment_eq_some hnew
          have hfound := h.obligationPayment ((hiff e.1 e.2 ho).1 hp) ho
          rw [hold] at hfound
          cases hfound

/-- The payment of an obligation after the link: its own one, or else the one that is found. -/
theorem linkPayment_payment {payment : Option (Id × Payment)}
    (h : ObligationsLinked (linkPayment payment o db))
    (hfound : forall k p, payment = some (k, p) ->
      exists q, db.payments.findUnique k = some q ∧ q.status = p.status) :
    ((payment.isSome = true -> (obligationPayment db o).isSome = true) ∧
        obligationPayment (linkPayment payment o db) o = obligationPayment db o) ∨
      exists k p q, payment = some (k, p) ∧ obligationPayment db o = none ∧
        q.status = p.status ∧ obligationPayment (linkPayment payment o db) o = some (k, q) := by
  cases payment with
  | none => exact Or.inl ⟨nofun, rfl⟩
  | some e =>
      obtain ⟨k, p⟩ := e
      by_cases hfree : (obligationPayment db o).isSome = true
      · refine Or.inl ⟨fun _ => hfree, ?_⟩
        simp only [linkPayment, if_pos hfree]
      · obtain ⟨q, hq, hstatus⟩ := hfound k p rfl
        have hwrite : (linkPayment (some (k, p)) o db).payments.findUnique k =
            some { q with obligationId := some o } := by
          simp only [linkPayment, if_neg hfree, Table.findUnique_update_self, hq, Option.map_some]
        exact Or.inr ⟨k, p, { q with obligationId := some o }, rfl,
          Option.not_isSome_iff_eq_none.1 hfree, hstatus, h.obligationPayment hwrite rfl⟩

theorem SyncState.status_of_matching (h : SyncState loaded orderId items db) {k : Id} {p : Payment}
    (hmatch : matchingPayment loaded orderId item = some (k, p)) :
    exists q, db.payments.findUnique k = some q ∧ q.status = p.status ∧ q.core = p.core := by
  have hold := (matchingPayment_eq_some hmatch).1
  rcases h.payments k with hsame | ⟨_, q, o, _, hmatch', hq⟩
  · exact ⟨p, hsame.trans hold, rfl, rfl⟩
  · obtain rfl := Option.some.inj (hold.symm.trans (matchingPayment_eq_some hmatch').1)
    exact ⟨_, hq, rfl, rfl⟩

theorem isSynced_syncObligation (h : SyncState loaded orderId items db) (hitem : item ∈ items) :
    exists o b, IsSynced loaded orderId item (syncObligation loaded orderId item db) o b := by
  have hafter := (h.syncObligation hitem).linked
  have hshape : syncObligation loaded orderId item db =
      linkPayment (matchingPayment loaded orderId item)
        (upsertObligation item (syncedStatus loaded orderId item db) db).1
        (upsertObligation item (syncedStatus loaded orderId item db) db).2 := rfl
  obtain ⟨b, hb, hkey, hwritten, hpayment⟩ :=
    upsertObligation_spec h.linked item (syncedStatus loaded orderId item db)
  have hpayments := upsertObligation_payments item (syncedStatus loaded orderId item db) db
  rw [hshape] at hafter ⊢
  generalize upsertObligation item (syncedStatus loaded orderId item db) db = upserted at *
  obtain ⟨o, mid⟩ := upserted
  dsimp only at *
  have hrow : (linkPayment (matchingPayment loaded orderId item) o mid).obligations.findUnique o =
      some b := by
    rw [linkPayment_obligations]
    exact hb
  have hfound := obligationByKey_of_findUnique hafter.indexed hrow
  rw [hkey] at hfound
  have hold : obligationPayment mid o = linkedPayment db item :=
    (obligationPayment_congr hpayments o).trans hpayment
  have hcases := linkPayment_payment hafter fun k p hmatch => by
    obtain ⟨q, hq, hstatus, -⟩ := h.status_of_matching hmatch
    exact ⟨q, by rw [hpayments]; exact hq, hstatus⟩
  have hsettled : isSettledItem loaded orderId item
      (linkPayment (matchingPayment loaded orderId item) o mid) =
        isSettledItem loaded orderId item db := by
    have hbefore : isSettledItem loaded orderId item db =
        (isPaidPayment (matchingPayment loaded orderId item) ||
          isPaidPayment (obligationPayment mid o)) := by
      rw [hold]
      rfl
    rw [hbefore]
    unfold isSettledItem
    rw [hfound, Option.bind_some]
    rcases hcases with ⟨-, hsame⟩ | ⟨k, p, q, hmatch, hnone, hstatus, hsome⟩
    · rw [hsame]
    · rw [hsome, hnone, hmatch]
      simp [isPaidPayment, hstatus]
  refine ⟨o, b, hfound, ?_, fun hmatch => ?_⟩
  · unfold syncedStatus at hwritten ⊢
    rw [hsettled]
    exact hwritten
  · rcases hcases with ⟨hlinked, hsame⟩ | ⟨k, p, q, -, -, -, hsome⟩
    · rw [hsame]
      exact hlinked hmatch
    · rw [hsome]
      rfl

theorem IsSynced.syncObligation (hsynced : IsSynced loaded orderId item db o b)
    (h : SyncState loaded orderId items db) (hitem : item ∈ items) (hitem' : item' ∈ items)
    (hkey : item.obligationKey ≠ item'.obligationKey)
    (happart : KeptApart loaded orderId items db) :
    IsSynced loaded orderId item (syncObligation loaded orderId item' db) o b := by
  obtain ⟨hb, hb_key⟩ := Table.findFirst_eq_some hsynced.found
  have hb_key : b.obligationKey = item.obligationKey := of_decide_eq_true hb_key
  have hafter := (h.syncObligation hitem').linked
  have hrow : (MarketBridge.syncObligation loaded orderId item' db).obligations.findUnique o =
      some b := syncObligation_kept hb (by rw [hb_key]; exact hkey)
  have hfound := obligationByKey_of_findUnique hafter.indexed hrow
  rw [hb_key] at hfound
  have hpayment : obligationPayment (MarketBridge.syncObligation loaded orderId item' db) o =
      obligationPayment db o := by
    obtain ⟨b', hb', hkey', -, -⟩ :=
      upsertObligation_spec h.linked item' (syncedStatus loaded orderId item' db)
    have hmid := upsertObligation_payments item' (syncedStatus loaded orderId item' db) db
    have hshape : MarketBridge.syncObligation loaded orderId item' db =
        linkPayment (matchingPayment loaded orderId item')
          (upsertObligation item' (syncedStatus loaded orderId item' db) db).1
          (upsertObligation item' (syncedStatus loaded orderId item' db) db).2 := rfl
    have hrow' := hrow
    rw [hshape, linkPayment_obligations] at hrow'
    refine obligationPayment_eq h.linked hafter fun i p hp => ?_
    rw [hshape]
    generalize upsertObligation item' (syncedStatus loaded orderId item' db) db = upserted at *
    obtain ⟨o', mid⟩ := upserted
    dsimp only at *
    rcases @linkPayment_payments mid o' i (matchingPayment loaded orderId item') with
      hsame | ⟨m, hmatch, hlink⟩
    · rw [hsame, hmid]
    · -- the payment that is linked anew was not, and is not, linked to this row
      rw [hlink, hmid]
      constructor
      · intro hnew
        obtain ⟨q, -, rfl⟩ := Option.map_eq_some_iff.1 hnew
        obtain rfl := Option.some.inj hp
        obtain rfl := Option.some.inj (hrow'.symm.trans hb')
        exact absurd (hb_key.symm.trans hkey') hkey
      · intro hold
        exact absurd (happart item item' i m p o b hitem hitem' hmatch hold hp hb hb_key) hkey
  refine ⟨hfound, ?_, ?_⟩
  · have hsettled : isSettledItem loaded orderId item
        (MarketBridge.syncObligation loaded orderId item' db) = isSettledItem loaded orderId item db := by
      unfold isSettledItem
      rw [hfound, hsynced.found, Option.bind_some, Option.bind_some, hpayment]
    have hwritten := hsynced.written
    unfold syncedStatus at hwritten ⊢
    rw [hsettled]
    exact hwritten
  · rw [hpayment]
    exact hsynced.linked

theorem IsSynced.fixed (h : IsSynced loaded orderId item db o b) :
    MarketBridge.syncObligation loaded orderId item db = db := by
  obtain ⟨hb, -⟩ := Table.findFirst_eq_some h.found
  have hupsert : upsertObligation item (syncedStatus loaded orderId item db) db = (o, db) := by
    unfold upsertObligation
    rw [h.found]
    dsimp only
    rw [(Table.update_eq_self_iff hb _).2 h.written]
  have hshape : MarketBridge.syncObligation loaded orderId item db =
      linkPayment (matchingPayment loaded orderId item)
        (upsertObligation item (syncedStatus loaded orderId item db) db).1
        (upsertObligation item (syncedStatus loaded orderId item db) db).2 := rfl
  rw [hshape, hupsert]
  cases hmatch : matchingPayment loaded orderId item with
  | none => rfl
  | some e =>
      have hlinked := h.linked (by rw [hmatch]; rfl)
      simp only [linkPayment, if_pos hlinked]

/-! ## The whole loop -/

theorem Payment.isFor_congr {p q : Payment} (h : q.core = p.core) (key : ObligationKey) :
    q.IsFor loaded key ↔ p.IsFor loaded key := by
  have hcore : forall r : Payment, r.core.IsFor loaded key ↔ r.IsFor loaded key := by
    intro r
    cases key <;> exact Iff.rfl
  rw [← hcore q, ← hcore p, h]

theorem MadeFor.keptApart (hmade : MadeFor loaded db)
    (hdistinct : Distinguishes loaded orderId items) (h : SyncState loaded orderId items db) :
    KeptApart loaded orderId items db := by
  intro item item' i p q o b hitem hitem' hmatch hq ho hb hkey
  obtain ⟨q', hq', -, hcore⟩ := h.status_of_matching hmatch
  obtain rfl := Option.some.inj (hq.symm.trans hq')
  have hown := hmade i q o b hq ho hb
  rw [hkey, Payment.isFor_congr hcore] at hown
  exact hdistinct.single item item' p hitem hitem' hown (hdistinct.found item' i p hitem' hmatch)

theorem MadeFor.syncObligation (hmade : MadeFor loaded db)
    (hdistinct : Distinguishes loaded orderId items) (h : SyncState loaded orderId items db)
    (hitem : item ∈ items) : MadeFor loaded (syncObligation loaded orderId item db) := by
  obtain ⟨b', hb', hkey', -, -⟩ :=
    upsertObligation_spec h.linked item (syncedStatus loaded orderId item db)
  have hmid := upsertObligation_payments item (syncedStatus loaded orderId item db) db
  have hrows := fun o b => @upsertObligation_rows db item (syncedStatus loaded orderId item db) o b
  have hshape : MarketBridge.syncObligation loaded orderId item db =
      linkPayment (matchingPayment loaded orderId item)
        (upsertObligation item (syncedStatus loaded orderId item db) db).1
        (upsertObligation item (syncedStatus loaded orderId item db) db).2 := rfl
  intro i p o b hp ho hb
  rw [hshape, linkPayment_obligations] at hb
  rw [hshape] at hp
  generalize upsertObligation item (syncedStatus loaded orderId item db) db = upserted at *
  obtain ⟨o', mid⟩ := upserted
  dsimp only at *
  rcases @linkPayment_payments mid o' i (matchingPayment loaded orderId item) with
    hsame | ⟨m, hmatch, hlink⟩
  · rw [hsame, hmid] at hp
    obtain ⟨c, hc⟩ := h.linked.founded i p o hp ho
    obtain ⟨b'', hb'', hkey⟩ := hrows o c hc
    obtain rfl := Option.some.inj (hb.symm.trans hb'')
    rw [hkey]
    exact hmade i p o c hp ho hc
  · rw [hlink, hmid] at hp
    obtain ⟨q, hq, rfl⟩ := Option.map_eq_some_iff.1 hp
    obtain rfl := Option.some.inj ho
    obtain rfl := Option.some.inj (hb.symm.trans hb')
    obtain ⟨q', hq', -, hcore⟩ := h.status_of_matching hmatch
    obtain rfl := Option.some.inj (hq.symm.trans hq')
    have hfor := hdistinct.found item i m hitem hmatch
    rw [hkey']
    have hstored : q.IsFor loaded item.obligationKey := (Payment.isFor_congr hcore _).2 hfor
    exact hstored

/-- Passes for other keys leave the item synchronised. -/
theorem IsSynced.foldl (hsynced : IsSynced loaded orderId item db o b)
    (hmade : MadeFor loaded db) (hdistinct : Distinguishes loaded orderId items)
    (h : SyncState loaded orderId items db) (hitem : item ∈ items)
    (hrest : forall other, other ∈ rest ->
      other ∈ items ∧ item.obligationKey ≠ other.obligationKey) :
    IsSynced loaded orderId item
      (rest.foldl (fun s item => MarketBridge.syncObligation loaded orderId item s) db) o b := by
  induction rest generalizing db with
  | nil => exact hsynced
  | cons other rest ih =>
      obtain ⟨hother, hkey⟩ := hrest other List.mem_cons_self
      exact ih (hsynced.syncObligation h hitem hother hkey (hmade.keptApart hdistinct h))
        (hmade.syncObligation hdistinct h hother) (h.syncObligation hother)
        fun later hlater => hrest later (List.mem_cons_of_mem other hlater)

theorem foldl_isSynced (h : SyncState loaded orderId items db) (hmade : MadeFor loaded db)
    (hdistinct : Distinguishes loaded orderId items)
    (hrest : forall item, item ∈ rest -> item ∈ items)
    (hnodup : (rest.map (·.obligationKey)).Nodup) (hitem : item ∈ rest) :
    exists o b, IsSynced loaded orderId item
      (rest.foldl (fun s item => syncObligation loaded orderId item s) db) o b := by
  induction rest generalizing db with
  | nil => cases hitem
  | cons head rest ih =>
      rw [List.map_cons, List.nodup_cons] at hnodup
      have hhead := hrest head List.mem_cons_self
      have hlater : forall other, other ∈ rest -> other ∈ items :=
        fun other hother => hrest other (List.mem_cons_of_mem head hother)
      have hmade' := hmade.syncObligation hdistinct h hhead
      rcases List.mem_cons.1 hitem with rfl | hitem
      · obtain ⟨o, b, hsynced⟩ := isSynced_syncObligation h hhead
        refine ⟨o, b, hsynced.foldl hmade' hdistinct (h.syncObligation hhead) hhead ?_⟩
        intro other hother
        refine ⟨hlater other hother, fun hkey => hnodup.1 ?_⟩
        rw [hkey]
        exact List.mem_map_of_mem hother
      · exact ih (h.syncObligation hhead) hmade' hlater hnodup.2 hitem

theorem foldl_fixed
    (hsynced : forall item, item ∈ rest -> exists o b, IsSynced loaded orderId item db o b) :
    rest.foldl (fun s item => MarketBridge.syncObligation loaded orderId item s) db = db := by
  induction rest with
  | nil => rfl
  | cons head rest ih =>
      obtain ⟨o, b, hhead⟩ := hsynced head List.mem_cons_self
      rw [List.foldl_cons, hhead.fixed]
      exact ih fun item hitem => hsynced item (List.mem_cons_of_mem head hitem)

end Loop

/-! ## Two synchronisations -/

section Sync

variable {db db' : Db} {orderId : Id} {order : Order} {item : DesiredObligation} {o : Id}
  {b : PaymentObligation}

theorem LinksOnly.rel (h : LinksOnly db db') :
    db.payments.Rel (fun _ p p' => p'.unlinked = p.unlinked) db'.payments := by
  intro i
  have hi := h.payments i
  cases hp : db.payments.findUnique i with
  | none =>
      rw [hp, Option.map_none, Option.map_eq_none_iff] at hi
      rw [hi]
      exact .none
  | some p =>
      rw [hp, Option.map_some] at hi
      obtain ⟨p', hp', hsame⟩ := Option.map_eq_some_iff.1 hi
      rw [hp']
      exact .some hsame

theorem LinksOnly.matchingPayment (h : LinksOnly db db') (orderId : Id)
    (item : DesiredObligation) :
    Option.Rel (fun e e' => e.1 = e'.1 ∧ e'.2.unlinked = e.2.unlinked)
      (matchingPayment db orderId item) (matchingPayment db' orderId item) := by
  have hfield : forall {α : Type} (f : Payment -> α), (forall p : Payment, f p.unlinked = f p) ->
      forall p p' : Payment, p'.unlinked = p.unlinked -> f p' = f p := by
    intro α f hf p p' hsame
    rw [← hf p', ← hf p, hsame]
  unfold MarketBridge.matchingPayment
  split
  · exact h.rel.findFirst fun _ p p' hsame => hfield
      (fun p => p.inspectionRequestId = item.inspectionRequestId && p.type = .inspector &&
        p.createdById = some item.payerId && p.isPendingOrPaid) (fun _ => rfl) p p' hsame
  · exact h.rel.findFirst fun _ p p' hsame => hfield
      (fun p => p.orderId = some orderId && p.type = item.type && p.isPendingOrPaid &&
        (item.type ≠ .transport || p.transportJobId = item.transportJobId)) (fun _ => rfl) p p'
      hsame

theorem isSome_of_rel {α β : Type} {r : α -> β -> Prop} {x : Option α} {y : Option β}
    (h : Option.Rel r x y) : y.isSome = x.isSome := by
  cases h <;> rfl

theorem isPaidPayment_congr {x y : Option (Id × Payment)}
    (h : Option.Rel (fun e e' => e.1 = e'.1 ∧ e'.2.unlinked = e.2.unlinked) x y) :
    isPaidPayment y = isPaidPayment x := by
  cases h with
  | none => rfl
  | @some e e' hsame =>
      have hstatus : e'.2.unlinked.status = e.2.unlinked.status :=
        congrArg Payment.status hsame.2
      have hstatus : e'.2.status = e.2.status := hstatus
      simp only [isPaidPayment, Option.any_some, hstatus]

theorem IsSynced.reload (hsynced : IsSynced db orderId item db' o b) (h : LinksOnly db db') :
    IsSynced db' orderId item db' o b := by
  have hmatch := h.matchingPayment orderId item
  refine ⟨hsynced.found, ?_, fun hfound => hsynced.linked (isSome_of_rel hmatch ▸ hfound)⟩
  have hwritten := hsynced.written
  unfold syncedStatus isSettledItem at hwritten ⊢
  rw [isPaidPayment_congr hmatch]
  exact hwritten

theorem IsSynced.retire {loaded : Db} (hsynced : IsSynced loaded orderId item db o b)
    (hindexed : ObligationsIndexed db) {p : PaymentObligation -> Bool} (hp : p b = false) :
    IsSynced loaded orderId item (retireObligations p db) o b := by
  obtain ⟨hb, hkey⟩ := Table.findFirst_eq_some hsynced.found
  have hkey : b.obligationKey = item.obligationKey := of_decide_eq_true hkey
  have hafter : ObligationsIndexed (retireObligations p db) := hindexed.updateMany fun _ => rfl
  have hfound := obligationByKey_of_findUnique hafter (retireObligations_kept hb hp)
  rw [hkey] at hfound
  refine ⟨hfound, ?_, hsynced.linked⟩
  have hwritten := hsynced.written
  unfold syncedStatus isSettledItem at hwritten ⊢
  rw [hsynced.found] at hwritten
  rw [hfound]
  exact hwritten

theorem retireObligations_fixed {p : PaymentObligation -> Bool}
    (h : forall o b, db.obligations.findUnique o = some b -> b.status = .open -> p b = false) :
    retireObligations p db = db := by
  have hself : db.obligations.updateMany (fun _ b => b.status = .open && p b)
      ({ · with status := .cancelled }) = db.obligations := by
    rw [Table.updateMany_eq_self_iff]
    intro o b hb hcond
    rw [Bool.and_eq_true, decide_eq_true_eq] at hcond
    rw [h o b hb hcond.1] at hcond
    cases hcond.2
  unfold retireObligations
  rw [hself]

theorem MadeFor.retire {loaded : Db} (h : MadeFor loaded db) (p : PaymentObligation -> Bool) :
    MadeFor loaded (retireObligations p db) := by
  intro i q o b hq ho hb
  simp only [retireObligations, Table.findUnique_updateMany] at hb
  obtain ⟨c, hc, rfl⟩ := Option.map_eq_some_iff.1 hb
  have hfor := h i q o c hq ho hc
  split
  · exact hfor
  · exact hfor

theorem inspectionObligation_requestId {requestId inspectorId payerId : Id}
    {mode : InspectionFeePayer} {role : OfferCounterParty} {amount : ℚ}
    (hitem : item ∈ inspectionObligation orderId requestId inspectorId mode role payerId amount) :
    item.inspectionRequestId = some requestId := by
  unfold inspectionObligation at hitem
  split at hitem
  · obtain rfl := List.mem_singleton.1 hitem
    rfl
  · cases hitem

theorem inspectionObligations_confirmed {requestId : Id} {r : InspectionRequest}
    (hitem : item ∈ inspectionObligations orderId order requestId r) :
    item.inspectionRequestId = some requestId ∧ r.sellerConfirmedAt.isSome = true := by
  unfold inspectionObligations at hitem
  split at hitem
  · next hconfirmed _ _ =>
      split at hitem
      · refine ⟨?_, by rw [hconfirmed]; rfl⟩
        rcases List.mem_append.1 hitem with hitem | hitem
        · exact inspectionObligation_requestId hitem
        · exact inspectionObligation_requestId hitem
      · cases hitem
  · cases hitem

theorem isUnconfirmedFee_of_desired {status : PaymentObligationStatus}
    (hitem : item ∈ desiredObligations db orderId order) (hagrees : b.Agrees item status) :
    isUnconfirmedFee db orderId b = false := by
  by_contra hfee
  rw [Bool.not_eq_false] at hfee
  unfold isUnconfirmedFee at hfee
  rw [Bool.and_eq_true, Bool.and_eq_true, decide_eq_true_eq, decide_eq_true_eq,
    Option.any_eq_true] at hfee
  obtain ⟨⟨-, htype⟩, requestId, hrequest, hlive⟩ := hfee
  obtain ⟨e, he, hsame⟩ := List.any_eq_true.1 hlive
  rw [Bool.and_eq_true, decide_eq_true_eq, Option.isNone_iff_eq_none] at hsame
  have htype : item.type = .inspector := hagrees.type.symm.trans htype
  unfold desiredObligations at hitem
  rcases List.mem_append.1 hitem with hitem | hitem
  · rcases List.mem_append.1 hitem with hitem | hitem
    · obtain ⟨-, -, hgoods⟩ := goodsObligation_mem hitem
      rw [hgoods] at htype
      cases htype
    · obtain ⟨e', he', hitem⟩ := List.mem_flatMap.1 hitem
      obtain ⟨hid, hconfirmed⟩ := inspectionObligations_confirmed hitem
      have hid : e.1 = e'.1 := by
        have hboth := hagrees.inspection.symm.trans hrequest
        rw [hid] at hboth
        exact hsame.1.trans (Option.some.inj hboth).symm
      have hrow := (Table.mem_findMany.1 he).1
      have hrow' := (Table.mem_findMany.1 he').1
      rw [hid] at hrow
      have hreq := Option.some.inj (hrow.symm.trans hrow')
      rw [← hreq, hsame.2] at hconfirmed
      cases hconfirmed
  · obtain ⟨-, -, htransport⟩ := transportObligation_mem hitem
    rw [htransport] at htype
    cases htype

theorem mem_desiredFor_of_owed (hitem : item ∈ owedItems db orderId) :
    item ∈ desiredFor db orderId := by
  unfold owedItems at hitem
  unfold desiredFor
  cases horder : db.orders.findUnique orderId with
  | none =>
      rw [horder] at hitem
      cases hitem
  | some order =>
      simp only [horder] at hitem ⊢
      obtain ⟨e, he, rfl⟩ := List.mem_map.1 hitem
      exact mem_of_mem_syncedItems (List.mem_filter.1 he).1

theorem sync_confirmed (hindexed : ObligationsIndexed db)
    (horder : db.orders.findUnique orderId = some order)
    (hb : (syncOrderPaymentObligations orderId db).obligations.findUnique o = some b)
    (hopen : b.status = .open) :
    isUnconfirmedFee db orderId b = false := by
  rcases sync_open hindexed hb hopen with ⟨item, hitem, hagrees⟩ | ⟨-, hnone | hne | htype⟩
  · have hdesired := mem_desiredFor_of_owed hitem
    unfold desiredFor at hdesired
    rw [horder] at hdesired
    exact isUnconfirmedFee_of_desired hdesired hagrees
  · rw [horder] at hnone
    cases hnone
  · unfold isUnconfirmedFee
    simp [hne]
  · unfold isUnconfirmedFee
    have hother : b.type ≠ .inspector := by
      intro hinspector
      rw [hinspector] at htype
      exact htype (by decide)
    simp [hother]

theorem sync_isSynced (hlinked : ObligationsLinked db) (hmade : MadeFor db db)
    (horder : db.orders.findUnique orderId = some order)
    (hdistinct : Distinguishes db orderId (desiredObligations db orderId order))
    (hnodup : ((desiredObligations db orderId order).map (·.obligationKey)).Nodup)
    (hitem : item ∈ desiredObligations db orderId order) :
    exists o b, IsSynced db orderId item (syncOrderPaymentObligations orderId db) o b := by
  have hloaded : SyncState db orderId (desiredObligations db orderId order) db :=
    syncState_start hlinked _
  have hstart := hloaded.retire (isUnconfirmedFee db orderId)
  obtain ⟨o, b, hsynced⟩ := foldl_isSynced hstart (hmade.retire _) hdistinct (fun _ h => h) hnodup
    hitem
  have hlooped := (hstart.foldl fun _ h => h).linked
  have hshape : syncOrderPaymentObligations orderId db =
      retireObligations (isRetired db orderId (desiredObligations db orderId order))
        ((desiredObligations db orderId order).foldl
          (fun s item => MarketBridge.syncObligation db orderId item s)
          (retireObligations (isUnconfirmedFee db orderId) db)) := by
    unfold syncOrderPaymentObligations
    rw [horder]
  obtain ⟨-, hkey⟩ := Table.findFirst_eq_some hsynced.found
  have hkey : b.obligationKey = item.obligationKey := of_decide_eq_true hkey
  have htype : b.type = item.type := by
    rw [← b.keyed.2, ← item.keyed, hkey]
  rw [hshape]
  exact ⟨o, b, hsynced.retire hlooped.indexed (isRetired_of_desired hitem hkey htype)⟩

theorem sync_sync (hlinked : ObligationsLinked db) (hmade : MadeFor db db)
    (hdistinct : Distinguishes db orderId (desiredFor db orderId))
    (hnodup : ((desiredFor db orderId).map (·.obligationKey)).Nodup) :
    syncOrderPaymentObligations orderId (syncOrderPaymentObligations orderId db) =
      syncOrderPaymentObligations orderId db := by
  have hlinks := syncOrderPaymentObligations_linksOnly orderId db
  cases horder : db.orders.findUnique orderId with
  | none =>
      have hsame : syncOrderPaymentObligations orderId db = db := by
        unfold syncOrderPaymentObligations
        rw [horder]
      rw [hsame, hsame]
  | some order =>
      unfold desiredFor at hdistinct hnodup
      rw [horder] at hdistinct hnodup
      have hsynced : forall item, item ∈ desiredObligations db orderId order ->
          exists o b, IsSynced db orderId item (syncOrderPaymentObligations orderId db) o b :=
        fun _ => sync_isSynced hlinked hmade horder hdistinct hnodup
      have hconfirmed := fun o b => sync_confirmed (o := o) (b := b) hlinked.indexed horder
      have hretired : retireObligations (isRetired db orderId (desiredObligations db orderId order))
          (syncOrderPaymentObligations orderId db) = syncOrderPaymentObligations orderId db := by
        refine retireObligations_fixed fun o b hb hopen => ?_
        unfold syncOrderPaymentObligations at hb
        rw [horder] at hb
        exact (retireObligations_open hb hopen).2
      generalize syncOrderPaymentObligations orderId db = out at *
      have hframe := hlinks.frame
      have horder' : out.orders.findUnique orderId = some order := by
        obtain ⟨_, _, rfl⟩ := hframe
        exact horder
      have hdesired : desiredObligations out orderId order = desiredObligations db orderId order := by
        obtain ⟨_, _, rfl⟩ := hframe
        rfl
      have hunconfirmed : isUnconfirmedFee out orderId = isUnconfirmedFee db orderId := by
        obtain ⟨_, _, rfl⟩ := hframe
        rfl
      have hretire : isRetired out orderId (desiredObligations db orderId order) =
          isRetired db orderId (desiredObligations db orderId order) := by
        obtain ⟨_, _, rfl⟩ := hframe
        rfl
      unfold syncOrderPaymentObligations
      rw [horder']
      dsimp only
      rw [hdesired, hunconfirmed, hretire, retireObligations_fixed hconfirmed,
        foldl_fixed fun item hitem => ?_, hretired]
      obtain ⟨o, b, hitem⟩ := hsynced item hitem
      exact ⟨o, b, hitem.reload hlinks⟩

end Sync

end MarketBridge
