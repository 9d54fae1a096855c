import MarketBridge.Payment.ObligationSync

/-!
# What a synchronisation leaves behind

Every row that a synchronisation writes agrees with the last item of its key in
`desired`, and the items that are not paid are exactly the open obligations of
the order afterwards.
-/

namespace MarketBridge

open Relational

/-! ## The loop -/

def isSettledItem (loaded : Db) (orderId : Id) (item : DesiredObligation) (db : Db) : Bool :=
  isPaidPayment (matchingPayment loaded orderId item) ||
    isPaidPayment ((obligationByKey db item.obligationKey).bind fun e => obligationPayment db e.1)

def syncedStatus (loaded : Db) (orderId : Id) (item : DesiredObligation) (db : Db) :
    PaymentObligationStatus :=
  if isSettledItem loaded orderId item db then .paid else .open

def hasKey (key : ObligationKey) (items : List DesiredObligation) : Bool :=
  items.any fun item => item.obligationKey = key

/-- The items that are written last under their key, each with its status. -/
def syncedItems (loaded : Db) (orderId : Id) :
    List DesiredObligation -> Db -> List (DesiredObligation × PaymentObligationStatus)
  | [], _ => []
  | item :: items, db =>
      let later := syncedItems loaded orderId items (syncObligation loaded orderId item db)
      if hasKey item.obligationKey items then
        later
      else
        (item, syncedStatus loaded orderId item db) :: later

def owedItems (db : Db) (orderId : Id) : List DesiredObligation :=
  match db.orders.findUnique orderId with
  | none => []
  | some order =>
      ((syncedItems db orderId (desiredObligations db orderId order)
        (retireObligations (isUnconfirmedFee db orderId) db)).filter
          fun e => e.2 = .open).map Prod.fst

/-! ## Rows -/

/-- The row says what the item asks for. -/
structure PaymentObligation.Agrees (b : PaymentObligation) (item : DesiredObligation)
    (status : PaymentObligationStatus) : Prop where
  key : b.obligationKey = item.obligationKey
  type : b.type = item.type
  payer : b.payerId = item.payerId
  amount : b.amount = item.amount
  inspection : b.inspectionRequestId = item.inspectionRequestId
  job : b.transportJobId = item.transportJobId
  status : b.status = status

section Loop

variable {loaded db : Db} {orderId : Id} {item : DesiredObligation}
  {items : List DesiredObligation} {i : Id} {b : PaymentObligation}

theorem PaymentObligation.synced_agrees (hkey : b.obligationKey = item.obligationKey)
    (status : PaymentObligationStatus) :
    (b.synced item status).Agrees item status := by
  unfold PaymentObligation.synced
  rw [dif_pos hkey]
  exact ⟨hkey, rfl, rfl, rfl, rfl, rfl, rfl⟩

theorem syncObligation_obligations :
    (syncObligation loaded orderId item db).obligations =
      (upsertObligation item (syncedStatus loaded orderId item db) db).2.obligations := by
  unfold syncObligation
  rw [linkPayment_obligations]
  rfl

theorem hasKey_eq_true_iff {key : ObligationKey} :
    hasKey key items = true ↔ exists item, item ∈ items ∧ item.obligationKey = key := by
  simp [hasKey]

theorem syncObligation_row (hindexed : ObligationsIndexed db)
    (hb : (syncObligation loaded orderId item db).obligations.findUnique i = some b) :
    (b.obligationKey ≠ item.obligationKey ∧ db.obligations.findUnique i = some b) ∨
      b.Agrees item (syncedStatus loaded orderId item db) := by
  rw [syncObligation_obligations] at hb
  unfold upsertObligation at hb
  cases hfound : obligationByKey db item.obligationKey with
  | some e =>
      obtain ⟨o, c⟩ := e
      obtain ⟨hc, hkey⟩ := Table.findFirst_eq_some hfound
      have hkey : c.obligationKey = item.obligationKey := of_decide_eq_true hkey
      simp only [hfound, Table.findUnique_update] at hb
      by_cases hi : i = o
      · subst hi
        rw [if_pos rfl, hc] at hb
        obtain rfl := Option.some.inj hb
        exact Or.inr (PaymentObligation.synced_agrees hkey _)
      · rw [if_neg hi] at hb
        refine Or.inl ⟨?_, hb⟩
        intro hsame
        have hdiffer := hindexed i o b c hb hc hi
        simp [sameObligationKey, hsame, hkey] at hdiffer
  | none =>
      simp only [hfound, Table.findUnique_create] at hb
      by_cases hi : i = db.obligations.size
      · rw [if_pos hi] at hb
        obtain rfl := Option.some.inj hb
        exact Or.inr ⟨rfl, rfl, rfl, rfl, rfl, rfl, rfl⟩
      · rw [if_neg hi] at hb
        refine Or.inl ⟨?_, hb⟩
        have hother := Table.findFirst_eq_none_iff.mp hfound i b hb
        simpa using hother

theorem syncObligation_written :
    exists i b, (syncObligation loaded orderId item db).obligations.findUnique i = some b ∧
      b.Agrees item (syncedStatus loaded orderId item db) := by
  rw [syncObligation_obligations]
  unfold upsertObligation
  cases hfound : obligationByKey db item.obligationKey with
  | some e =>
      obtain ⟨o, c⟩ := e
      obtain ⟨hc, hkey⟩ := Table.findFirst_eq_some hfound
      have hkey : c.obligationKey = item.obligationKey := of_decide_eq_true hkey
      refine ⟨o, c.synced item _, ?_, PaymentObligation.synced_agrees hkey _⟩
      simp only [Table.findUnique_update_self, hc, Option.map_some]
  | none =>
      exact ⟨db.obligations.size, item.row _, Table.findUnique_create_self _ _,
        ⟨rfl, rfl, rfl, rfl, rfl, rfl, rfl⟩⟩

theorem syncObligation_kept (hb : db.obligations.findUnique i = some b)
    (hkey : b.obligationKey ≠ item.obligationKey) :
    (syncObligation loaded orderId item db).obligations.findUnique i = some b := by
  rw [syncObligation_obligations]
  unfold upsertObligation
  cases hfound : obligationByKey db item.obligationKey with
  | some e =>
      obtain ⟨o, c⟩ := e
      obtain ⟨hc, hkey'⟩ := Table.findFirst_eq_some hfound
      have hkey' : c.obligationKey = item.obligationKey := of_decide_eq_true hkey'
      have hi : i ≠ o := by
        rintro rfl
        obtain rfl := Option.some.inj (hb.symm.trans hc)
        exact hkey hkey'
      exact (Table.findUnique_update_ne hi).trans hb
  | none =>
      have hi : i ≠ db.obligations.size := Nat.ne_of_lt (Table.lt_size_of_findUnique hb)
      simp only [Table.findUnique_create, if_neg hi]
      exact hb

theorem foldl_syncObligation_row (hindexed : ObligationsIndexed db)
    (hb : (items.foldl (fun s item => syncObligation loaded orderId item s)
      db).obligations.findUnique i = some b) :
    (hasKey b.obligationKey items = false ∧ db.obligations.findUnique i = some b) ∨
      exists e, e ∈ syncedItems loaded orderId items db ∧ b.Agrees e.1 e.2 := by
  induction items generalizing db with
  | nil =>
      exact Or.inl ⟨rfl, hb⟩
  | cons item items ih =>
      simp only [syncedItems]
      rcases ih (syncObligation_indexed hindexed) hb with ⟨hlater, hrow⟩ | ⟨e, he, hagrees⟩
      · rcases syncObligation_row hindexed hrow with ⟨hne, hold⟩ | hagrees
        · refine Or.inl ⟨?_, hold⟩
          have hhead : (decide (item.obligationKey = b.obligationKey)) = false := by
            simpa using hne.symm
          unfold hasKey at hlater ⊢
          rw [List.any_cons, hhead, hlater]
          rfl
        · rw [hagrees.key] at hlater
          rw [if_neg (by rw [hlater]; decide)]
          exact Or.inr ⟨_, List.mem_cons_self, hagrees⟩
      · right
        refine ⟨e, ?_, hagrees⟩
        split
        · exact he
        · exact List.mem_cons_of_mem _ he

theorem foldl_syncObligation_kept (hb : db.obligations.findUnique i = some b)
    (hkey : hasKey b.obligationKey items = false) :
    (items.foldl (fun s item => syncObligation loaded orderId item s)
      db).obligations.findUnique i = some b := by
  induction items generalizing db with
  | nil =>
      exact hb
  | cons item items ih =>
      unfold hasKey at hkey ih
      rw [List.any_cons, Bool.or_eq_false_iff] at hkey
      refine ih (syncObligation_kept hb ?_) hkey.2
      simpa [eq_comm] using hkey.1

theorem foldl_syncObligation_written
    {e : DesiredObligation × PaymentObligationStatus}
    (he : e ∈ syncedItems loaded orderId items db) :
    exists i b, (items.foldl (fun s item => syncObligation loaded orderId item s)
      db).obligations.findUnique i = some b ∧ b.Agrees e.1 e.2 := by
  induction items generalizing db with
  | nil =>
      cases he
  | cons item items ih =>
      simp only [syncedItems] at he
      by_cases hlater : hasKey item.obligationKey items = true
      · rw [if_pos hlater] at he
        exact ih he
      · rw [if_neg hlater] at he
        rcases List.mem_cons.1 he with rfl | he
        · obtain ⟨i, b, hb, hagrees⟩ := @syncObligation_written loaded db orderId item
          have hkey : hasKey b.obligationKey items = false := by
            rw [hagrees.key]
            exact Bool.eq_false_iff.2 hlater
          rw [List.foldl_cons]
          exact ⟨i, b, foldl_syncObligation_kept hb hkey, hagrees⟩
        · exact ih he

theorem mem_of_mem_syncedItems {e : DesiredObligation × PaymentObligationStatus}
    (he : e ∈ syncedItems loaded orderId items db) :
    e.1 ∈ items := by
  induction items generalizing db with
  | nil =>
      cases he
  | cons item items ih =>
      simp only [syncedItems] at he
      split at he
      · exact List.mem_cons_of_mem _ (ih he)
      · rcases List.mem_cons.1 he with rfl | he
        · exact List.mem_cons_self
        · exact List.mem_cons_of_mem _ (ih he)

end Loop

/-! ## The synchronisation -/

section Sync

variable {db : Db} {orderId : Id} {order : Order} {item : DesiredObligation} {i : Id}
  {b : PaymentObligation}

def orderTypes : List PaymentType :=
  [.marketplace, .transport, .inspector]

theorem inspectionObligation_key {requestId inspectorId payerId : Id} {mode : InspectionFeePayer}
    {role : OfferCounterParty} {amount : ℚ}
    (hitem : item ∈ inspectionObligation orderId requestId inspectorId mode role payerId amount) :
    item.obligationKey.orderId = orderId ∧ item.type = .inspector := by
  unfold inspectionObligation at hitem
  split at hitem
  · obtain rfl := List.mem_singleton.1 hitem
    refine ⟨?_, rfl⟩
    dsimp only
    split <;> rfl
  · cases hitem

theorem inspectionObligations_key {requestId : Id} {r : InspectionRequest}
    (hitem : item ∈ inspectionObligations orderId order requestId r) :
    item.obligationKey.orderId = orderId ∧ item.type = .inspector := by
  unfold inspectionObligations at hitem
  split at hitem
  · split at hitem
    · rcases List.mem_append.1 hitem with hitem | hitem
      · exact inspectionObligation_key hitem
      · exact inspectionObligation_key hitem
    · cases hitem
  · cases hitem

theorem goodsObligation_mem {job : Option TransportJob}
    (hitem : item ∈ goodsObligation orderId order job) :
    goodsPaymentUnlocked job = true ∧ item.obligationKey = .ofType orderId .marketplace ∧
      item.type = .marketplace := by
  unfold goodsObligation at hitem
  split at hitem
  · next hunlocked =>
      obtain rfl := List.mem_singleton.1 hitem
      exact ⟨hunlocked, rfl, rfl⟩
  · cases hitem

theorem transportObligation_mem {job : Option (Id × TransportJob)}
    (hitem : item ∈ transportObligation orderId order job) :
    (job.bind fun e => transportStillAgreed e.2).isNone = false ∧
      item.obligationKey = .ofType orderId .transport ∧ item.type = .transport := by
  unfold transportObligation at hitem
  split at hitem
  · cases hitem
  · split at hitem
    · cases hitem
    · next hagreed =>
        obtain rfl := List.mem_singleton.1 hitem
        exact ⟨by simp [hagreed], rfl, rfl⟩

theorem mem_desiredObligations (hitem : item ∈ desiredObligations db orderId order) :
    item.obligationKey.orderId = orderId ∧ item.type ∈ orderTypes := by
  unfold desiredObligations at hitem
  rcases List.mem_append.1 hitem with hitem | hitem
  · rcases List.mem_append.1 hitem with hitem | hitem
    · obtain ⟨-, hkey, htype⟩ := goodsObligation_mem hitem
      exact ⟨by rw [hkey]; rfl, by rw [htype]; decide⟩
    · obtain ⟨e, -, hitem⟩ := List.mem_flatMap.1 hitem
      obtain ⟨hkey, htype⟩ := inspectionObligations_key hitem
      exact ⟨hkey, by rw [htype]; decide⟩
  · obtain ⟨-, hkey, htype⟩ := transportObligation_mem hitem
    exact ⟨by rw [hkey]; rfl, by rw [htype]; decide⟩

theorem isRetired_of_desired (hitem : item ∈ desiredObligations db orderId order)
    (hkey : b.obligationKey = item.obligationKey) (htype : b.type = item.type) :
    isRetired db orderId (desiredObligations db orderId order) b = false := by
  have hlisted : item.obligationKey ∈
      (desiredObligations db orderId order).map (·.obligationKey) :=
    List.mem_map_of_mem hitem
  unfold isRetired
  rw [Bool.and_eq_false_iff]
  right
  rw [htype]
  unfold desiredObligations at hitem
  rcases List.mem_append.1 hitem with hitem | hitem
  · rcases List.mem_append.1 hitem with hitem | hitem
    · obtain ⟨hunlocked, -, htype'⟩ := goodsObligation_mem hitem
      simp [htype', hunlocked]
    · obtain ⟨e, -, hitem⟩ := List.mem_flatMap.1 hitem
      obtain ⟨-, htype'⟩ := inspectionObligations_key hitem
      rw [htype', hkey]
      simpa using hlisted
  · obtain ⟨hagreed, -, htype'⟩ := transportObligation_mem hitem
    rw [htype']
    exact hagreed

theorem isRetired_of_not_desired (horder : b.orderId = orderId) (htype : b.type ∈ orderTypes)
    (hkey : hasKey b.obligationKey (desiredObligations db orderId order) = false) :
    isRetired db orderId (desiredObligations db orderId order) b = true := by
  have hnot : b.obligationKey ∉ (desiredObligations db orderId order).map (·.obligationKey) := by
    intro hmem
    obtain ⟨item, hitem, hsame⟩ := List.mem_map.1 hmem
    rw [hasKey_eq_true_iff.2 ⟨item, hitem, hsame⟩] at hkey
    cases hkey
  unfold isRetired
  rw [horder, decide_eq_true rfl, Bool.true_and]
  cases hb : b.type with
  | marketplace =>
      have hname : b.obligationKey = .ofType orderId .marketplace := by
        rw [b.obligationKey_eq (by rw [hb]; decide), horder, hb]
      cases hunlocked : goodsPaymentUnlocked ((transportJobOf db orderId).map Prod.snd) with
      | false =>
          simp [hname]
      | true =>
          refine absurd ?_ hnot
          simp [desiredObligations, goodsObligation, hunlocked, hname]
  | transport =>
      have hname : b.obligationKey = .ofType orderId .transport := by
        rw [b.obligationKey_eq (by rw [hb]; decide), horder, hb]
      cases hjob : transportJobOf db orderId with
      | none =>
          simp
      | some e =>
          cases hagreed : transportStillAgreed e.2 with
          | none =>
              simp [hagreed]
          | some agreed =>
              refine absurd ?_ hnot
              simp [desiredObligations, transportObligation, hjob, hagreed, hname]
  | inspector =>
      simpa using hnot
  | _ =>
      rw [hb] at htype
      simp [orderTypes] at htype

theorem retireObligations_open {p : PaymentObligation -> Bool} {db : Db}
    (hb : (retireObligations p db).obligations.findUnique i = some b) (hopen : b.status = .open) :
    db.obligations.findUnique i = some b ∧ p b = false := by
  unfold retireObligations at hb
  simp only [Table.findUnique_updateMany] at hb
  obtain ⟨c, hc, rfl⟩ := Option.map_eq_some_iff.mp hb
  by_cases hretired : (decide (c.status = .open) && p c) = true
  · rw [if_pos hretired] at hopen
    cases hopen
  · rw [if_neg hretired] at hopen ⊢
    exact ⟨hc, by simpa [hopen] using hretired⟩

theorem retireObligations_kept {p : PaymentObligation -> Bool} {db : Db}
    (hb : db.obligations.findUnique i = some b) (hp : p b = false) :
    (retireObligations p db).obligations.findUnique i = some b := by
  simp only [retireObligations, Table.findUnique_updateMany, hb, Option.map_some]
  simp [hp]

theorem sync_open (hindexed : ObligationsIndexed db)
    (hb : (syncOrderPaymentObligations orderId db).obligations.findUnique i = some b)
    (hopen : b.status = .open) :
    (exists item, item ∈ owedItems db orderId ∧ b.Agrees item .open) ∨
      db.obligations.findUnique i = some b ∧
        (db.orders.findUnique orderId = none ∨ b.orderId ≠ orderId ∨ b.type ∉ orderTypes) := by
  unfold syncOrderPaymentObligations at hb
  unfold owedItems
  cases horder : db.orders.findUnique orderId with
  | none =>
      rw [horder] at hb
      exact Or.inr ⟨hb, Or.inl rfl⟩
  | some order =>
      simp only [horder] at hb ⊢
      obtain ⟨hrow, hretired⟩ := retireObligations_open hb hopen
      have hfirst : ObligationsIndexed (retireObligations (isUnconfirmedFee db orderId) db) :=
        hindexed.updateMany fun _ => rfl
      rcases foldl_syncObligation_row hfirst hrow with ⟨hkey, hold⟩ | ⟨e, he, hagrees⟩
      · refine Or.inr ⟨(retireObligations_open hold hopen).1, Or.inr ?_⟩
        by_contra hin
        simp only [not_or, not_not] at hin
        rw [isRetired_of_not_desired hin.1 hin.2 hkey] at hretired
        cases hretired
      · have hstatus : e.2 = .open := hagrees.status.symm.trans hopen
        refine Or.inl ⟨e.1, ?_, hstatus ▸ hagrees⟩
        exact List.mem_map.2 ⟨e, List.mem_filter.2 ⟨he, by simp [hstatus]⟩, rfl⟩

theorem sync_owed (hitem : item ∈ owedItems db orderId) :
    exists i b, (syncOrderPaymentObligations orderId db).obligations.findUnique i = some b ∧
      b.orderId = orderId ∧ b.Agrees item .open := by
  unfold owedItems at hitem
  unfold syncOrderPaymentObligations
  cases horder : db.orders.findUnique orderId with
  | none =>
      rw [horder] at hitem
      cases hitem
  | some order =>
      simp only [horder] at hitem ⊢
      obtain ⟨e, he, rfl⟩ := List.mem_map.1 hitem
      obtain ⟨he, hstatus⟩ := List.mem_filter.1 he
      have hstatus : e.2 = .open := by simpa using hstatus
      have hdesired := mem_of_mem_syncedItems he
      obtain ⟨i, b, hb, hagrees⟩ := foldl_syncObligation_written he
      rw [hstatus] at hagrees
      refine ⟨i, b, retireObligations_kept hb ?_, ?_, hagrees⟩
      · exact isRetired_of_desired hdesired hagrees.key hagrees.type
      · rw [← (mem_desiredObligations hdesired).1, ← hagrees.key]
        exact b.keyed.1.symm

end Sync

end MarketBridge
