import MarketBridge.Inspection.GatePayments

/-!
# Confirmations and fresh payments

Synchronisations keep a sound desk.  So does the confirmation of the seller, if what an
earlier agreement has left fits the shares that it fixes, and so do new payments.
-/

namespace MarketBridge

open Relational

/-! ## Synchronisations -/

section Sync

variable {db : Db} {orderId o : Id} {b : PaymentObligation}

theorem PaymentObligation.Agrees.keyedBy {item : DesiredObligation}
    {status : PaymentObligationStatus} (hagrees : b.Agrees item status)
    (hitem : item ∈ desiredFor db orderId) : b.KeyedBy db.orders := by
  unfold desiredFor at hitem
  cases horder : db.orders.findUnique orderId with
  | none =>
      rw [horder] at hitem
      cases hitem
  | some order =>
      rw [horder] at hitem
      have hof : b.orderId = orderId := by
        rw [← b.keyed.1, hagrees.key]
        exact (mem_desiredObligations hitem).1
      refine ⟨⟨order, hof.symm ▸ horder⟩, ?_, ?_⟩
      · intro htype
        rcases desiredObligations_cases hitem with ⟨hother, -⟩ | ⟨i, r, fee, role, -, -, hshare⟩
        · exact absurd (hagrees.type.symm.trans htype) hother
        · rw [hagrees.key, hagrees.inspection, hshare.key, hshare.request]
          unfold InspectionRequest.shareKey
          split <;> rfl
      · intro o' i' role' hkey order' horder'
        rcases desiredObligations_cases hitem with ⟨-, hother⟩ | ⟨i, r, fee, role, -, -, hshare⟩
        · rw [hagrees.key, hother] at hkey
          cases hkey
        · rw [hagrees.key, hshare.key] at hkey
          unfold InspectionRequest.shareKey at hkey
          split at hkey
          · obtain ⟨rfl, -, rfl⟩ := ObligationKey.inspectionShare.inj hkey
            obtain rfl := Option.some.inj (horder.symm.trans horder')
            exact hagrees.payer.trans hshare.payer
          · cases hkey

theorem sync_keyedBy (hindexed : ObligationsIndexed db)
    (hkeyed : forall o b, db.obligations.findUnique o = some b -> b.KeyedBy db.orders)
    (hb : (syncOrderPaymentObligations orderId db).obligations.findUnique o = some b) :
    b.KeyedBy (syncOrderPaymentObligations orderId db).orders := by
  rw [sync_orders]
  exact sync_rows (Q := fun b => b.KeyedBy db.orders) hindexed
    (fun _ _ h => ⟨h.order, h.request, h.share⟩) hkeyed
    (fun _ _ _ hitem hagrees => hagrees.keyedBy hitem) hb

theorem ConfirmedFee.of_tables {db' : Db} {requestId : Id} {order : Order}
    {r : InspectionRequest} {fee : ℚ} (h : ConfirmedFee db requestId orderId order r fee)
    (horders : db'.orders = db.orders)
    (hrequests : db'.inspectionRequests = db.inspectionRequests) :
    ConfirmedFee db' requestId orderId order r fee := by
  refine ⟨?_, ?_, h.confirmed⟩
  · rw [horders]
    exact h.order
  · unfold liveInspections
    rw [hrequests]
    exact h.live

theorem confirmedFee_sync_iff {requestId orderId' : Id} {order : Order} {r : InspectionRequest}
    {fee : ℚ} : ConfirmedFee (syncOrderPaymentObligations orderId' db) requestId orderId order r fee ↔
      ConfirmedFee db requestId orderId order r fee :=
  ⟨fun h => h.of_tables (sync_orders db orderId').symm (sync_inspectionRequests db orderId').symm,
    fun h => h.of_tables (sync_orders db orderId') (sync_inspectionRequests db orderId')⟩

/-- A desk is sound after a synchronisation if its confirmed fees match then. -/
theorem DeskSound.of_sync {s : InspectionDesk} (hfees : FeesSound s.db)
    (hkeyed : forall o b, s.db.obligations.findUnique o = some b -> b.KeyedBy s.db.orders)
    (hfounded : forall i r o, s.db.inspectionRequests.findUnique i = some r ->
      r.orderId = some o -> exists order, s.db.orders.findUnique o = some order)
    (hmatched : forall i o order r fee, ConfirmedFee s.db i o order r fee ->
      FeeMatched (syncOrderPaymentObligations orderId s.db) i o order r fee ∧
        ((s.startDueAt i).isSome = true -> AllPaid (syncOrderPaymentObligations orderId s.db) i)) :
    DeskSound (s.syncOrder orderId) where
  fees := hfees.sync
  keyed := fun _ _ hb => sync_keyedBy hfees.linked.indexed hkeyed hb
  founded := fun i r o hr ho => by
    have hr' : (syncOrderPaymentObligations orderId s.db).inspectionRequests.findUnique i =
        some r := hr
    rw [sync_inspectionRequests] at hr'
    obtain ⟨order, horder⟩ := hfounded i r o hr' ho
    refine ⟨order, ?_⟩
    show (syncOrderPaymentObligations orderId s.db).orders.findUnique o = some order
    rw [sync_orders]
    exact horder
  matched := fun i o order r fee h => (hmatched i o order r fee (confirmedFee_sync_iff.1 h)).1
  running := fun i o order r fee h => (hmatched i o order r fee (confirmedFee_sync_iff.1 h)).2

theorem DeskSound.sync {s : InspectionDesk} (hs : DeskSound s)
    (hfinds : overlooksFee s.db orderId = false) : DeskSound (s.syncOrder orderId) := by
  refine .of_sync hs.fees hs.keyed hs.founded fun i o order r fee h => ?_
  have hm := hs.matched i o order r fee h
  have hm' := hm.sync h hs.fees hfinds
  refine ⟨hm', fun hrunning => ?_⟩
  rw [hm.allPaid_kept hm' (syncOrderPaymentObligations_linksOnly orderId s.db).receiptsKept]
  exact hs.running i o order r fee h hrunning

end Sync

/-! ## The seller confirms -/

section Confirmation

variable {s : InspectionDesk} {env : Env} {requestId orderId : Id} {request : InspectionRequest}

theorem confirmable_eq_some (h : s.confirmable requestId = some (orderId, request)) :
    s.db.inspectionRequests.findUnique requestId = some request ∧
      request.orderId = some orderId ∧ request.isConfirmable = true ∧
        exists order, s.db.orders.findUnique orderId = some order := by
  unfold InspectionDesk.confirmable at h
  split at h
  · cases h
  · next row hrow =>
      split at h
      · cases h
      · next orderId' hof =>
          split at h
          · next hok =>
              simp only [Option.some.injEq, Prod.mk.injEq] at h
              obtain ⟨rfl, rfl⟩ := h
              rw [Bool.and_eq_true] at hok
              exact ⟨hrow, hof, hok.1, Option.isSome_iff_exists.1 hok.2⟩
          · cases h

theorem isConfirmable_fee (h : request.isConfirmable = true) :
    request.status = .accepted ∧ exists fee, request.fee = some fee ∧ 0 < fee := by
  unfold InspectionRequest.isConfirmable at h
  simp only [Bool.and_eq_true, decide_eq_true_eq] at h
  obtain ⟨⟨⟨⟨haccepted, -⟩, -⟩, -⟩, hfee⟩ := h
  refine ⟨haccepted, ?_⟩
  cases hf : request.fee with
  | none =>
      rw [hf] at hfee
      cases hfee
  | some fee =>
      rw [hf, Option.any_some, decide_eq_true_eq] at hfee
      exact ⟨fee, rfl, hfee⟩

theorem DeskSound.confirmed_fees (hs : DeskSound s)
    (h : s.confirmable requestId = some (orderId, request)) :
    FeesSound (s.confirmed env requestId).db := by
  obtain ⟨hr, -, hconfirmable, -⟩ := confirmable_eq_some h
  obtain ⟨-, fee, hfee, hpos⟩ := isConfirmable_fee hconfirmable
  refine hs.fees.change ⟨hs.fees.parties, ?_, ?_, .refl (fun _ b => ⟨b.status, rfl⟩) _,
    hs.fees.linked.of_tables rfl rfl, hs.fees.made⟩
  · intro i r' hr'
    have hr' : (s.db.inspectionRequests.update requestId (·.sellerConfirmed env)).findUnique i =
        some r' := hr'
    rw [Table.findUnique_update] at hr'
    split at hr'
    · next hi =>
        rw [hi, hr] at hr'
        obtain rfl := Option.some.inj hr'
        exact (hs.fees.terms requestId request hr).sellerConfirmed hfee hpos env
    · exact hs.fees.terms i r' hr'
  · intro i r hr
    show exists r', (s.db.inspectionRequests.update requestId (·.sellerConfirmed env)).findUnique
      i = some r' ∧ r'.orderId = r.orderId
    rw [Table.findUnique_update]
    split
    · rw [hr]
      exact ⟨_, rfl, rfl⟩
    · exact ⟨r, hr, rfl⟩

theorem confirmedFee_of_confirmed {i o : Id} {order : Order} {r : InspectionRequest} {fee : ℚ}
    (hi : i ≠ requestId) (h : ConfirmedFee (s.confirmed env requestId).db i o order r fee) :
    ConfirmedFee s.db i o order r fee := by
  obtain ⟨hr, hof, hlive⟩ := h.request
  refine ⟨h.order, Table.mem_findMany.2 ⟨?_, by simp [hof, hlive]⟩, h.confirmed⟩
  have hr : (s.db.inspectionRequests.update requestId (·.sellerConfirmed env)).findUnique i =
      some r := hr
  rw [Table.findUnique_update_ne hi] at hr
  exact hr

/-- What the check of a confirmation has found. -/
structure ConfirmsCleanly (env : Env) (requestId orderId : Id) (request : InspectionRequest)
    (order : Order) (s : InspectionDesk) : Prop where
  rows : forall o b, s.db.obligations.findUnique o = some b -> isFeeRow requestId b = true ->
    exists item, item ∈ inspectionObligations orderId order requestId (request.sellerConfirmed env) ∧
      item.obligationKey = b.obligationKey
  receipts : forall i p, s.db.payments.findUnique i = some p -> isReceivedFee requestId p = true ->
    exists item, item ∈ inspectionObligations orderId order requestId (request.sellerConfirmed env) ∧
      p.createdById = some item.payerId ∧ p.amount = item.amount
  single : forall i j p q, s.db.payments.findUnique i = some p ->
    s.db.payments.findUnique j = some q -> isReceivedFee requestId p = true ->
      isReceivedFee requestId q = true -> p.createdById = q.createdById -> i = j
  finds : overlooksFee (s.confirmed env requestId).db orderId = false

theorem confirmsCleanly_of_check (h : FeeStep.confirmsCleanly env requestId s = true)
    (hfound : s.confirmable requestId = some (orderId, request)) {order : Order}
    (horder : s.db.orders.findUnique orderId = some order) :
    ConfirmsCleanly env requestId orderId request order s := by
  unfold FeeStep.confirmsCleanly at h
  rw [hfound] at h
  simp only [horder, Bool.and_eq_true, Bool.not_eq_true', Table.any_eq_false_iff] at h
  obtain ⟨⟨⟨hrows, hreceipts⟩, hsingle⟩, hfinds⟩ := h
  refine ⟨?_, ?_, ?_, hfinds⟩
  · intro o b hb hrow
    have hmatches := hrows o b hb
    dsimp only at hmatches
    rw [hrow, Bool.true_and, Bool.not_eq_false', hasKey_eq_true_iff] at hmatches
    exact hmatches
  · intro i p hp hfee
    have hmatches := hreceipts i p hp
    dsimp only at hmatches
    rw [hfee, Bool.true_and, Bool.not_eq_false', List.any_eq_true] at hmatches
    obtain ⟨item, hitem, hsame⟩ := hmatches
    rw [Bool.and_eq_true, decide_eq_true_eq, decide_eq_true_eq] at hsame
    exact ⟨item, hitem, hsame⟩
  · intro i j p q hp hq hfee hfee' hsame
    by_contra hne
    have hother := hsingle i p hp
    dsimp only at hother
    rw [hfee, Bool.true_and, Table.any_eq_false_iff] at hother
    have hnone := hother j q hq
    simp [hfee', hsame.symm, Ne.symm hne] at hnone

theorem ConfirmsCleanly.feeFits {order : Order} {fee : ℚ}
    (h : ConfirmsCleanly env requestId orderId request order s)
    (hconfirmed : (request.sellerConfirmed env).Confirmed fee) :
    FeeFits (s.confirmed env requestId).db requestId orderId order (request.sellerConfirmed env)
      fee := by
  have hshare : forall item, item ∈ inspectionObligations orderId order requestId
      (request.sellerConfirmed env) -> exists role,
        item.IsShare orderId order requestId (request.sellerConfirmed env) fee role := by
    intro item hitem
    obtain ⟨fee', role, hconfirmed', hshare⟩ := inspectionObligations_isShare hitem
    obtain rfl := Option.some.inj (hconfirmed.agreed.symm.trans hconfirmed'.agreed)
    exact ⟨role, hshare⟩
  refine ⟨?_, ?_, h.single⟩
  · intro o b hb hrow
    obtain ⟨item, hitem, hkey⟩ := h.rows o b hb hrow
    obtain ⟨role, hshare⟩ := hshare item hitem
    exact ⟨role, hshare.positive, hkey.symm.trans hshare.key⟩
  · intro i p hp hfee
    obtain ⟨item, hitem, hcreator, hamount⟩ := h.receipts i p hp hfee
    obtain ⟨role, hshare⟩ := hshare item hitem
    exact ⟨role, hshare.positive, hcreator.trans (congrArg some hshare.payer),
      hamount.trans hshare.amount⟩

theorem DeskSound.recordOrderEvent (hs : DeskSound s) (orderId : Option Id)
    (type : OrderEventType) :
    DeskSound { s with db := recordOrderEvent env orderId type s.db } := by
  obtain ⟨events, hevents⟩ := recordOrderEvent_frame env orderId type s.db
  rw [hevents]
  exact hs.of_requests rfl rfl rfl (.refl (fun _ r => .refl r) _) fun _ h => h

theorem DeskSound.sellerConfirm (hs : DeskSound s)
    (hmeets : FeeStep.meets s (env, .sellerConfirm requestId) = true) :
    DeskSound (s.sellerConfirm env requestId) := by
  unfold InspectionDesk.sellerConfirm
  cases hfound : s.confirmable requestId with
  | none => exact hs
  | some found =>
      obtain ⟨orderId, request⟩ := found
      dsimp only
      refine DeskSound.recordOrderEvent (s := (s.confirmed env requestId).syncOrder orderId) ?_ _ _
      obtain ⟨hrequest, hof, hconfirmable, order, horder⟩ := confirmable_eq_some hfound
      have hclean := confirmsCleanly_of_check hmeets hfound horder
      have hfees : FeesSound (s.confirmed env requestId).db := hs.confirmed_fees hfound
      refine .of_sync hfees hs.keyed ?_ ?_
      · intro i r o hr ho
        have hr : (s.db.inspectionRequests.update requestId (·.sellerConfirmed env)).findUnique i =
            some r := hr
        rw [Table.findUnique_update] at hr
        split at hr
        · next hi =>
            rw [hi, hrequest] at hr
            obtain rfl := Option.some.inj hr
            exact hs.founded requestId request o hrequest ho
        · exact hs.founded i r o hr ho
      · intro i o order' r fee h
        by_cases hi : i = requestId
        · subst hi
          obtain ⟨hr, hof', -⟩ := h.request
          have hr : (s.db.inspectionRequests.update i (·.sellerConfirmed env)).findUnique i =
              some r := hr
          rw [Table.findUnique_update_self, hrequest] at hr
          obtain rfl := Option.some.inj hr
          obtain rfl := Option.some.inj (hof.symm.trans hof')
          obtain rfl := Option.some.inj (horder.symm.trans h.order)
          refine ⟨(hclean.feeFits h.confirmed).sync h hfees hclean.finds, fun hrunning => ?_⟩
          -- the confirmation has reset the clock
          simp [InspectionDesk.confirmed, InspectionDesk.setClock] at hrunning
        · have hbefore := confirmedFee_of_confirmed hi h
          have hm := hs.matched i o order' r fee hbefore
          have hkept : FeeMatched (s.confirmed env requestId).db i o order' r fee :=
            hm.kept hfees.linked.indexed (fun _ _ _ => Iff.rfl) (.of_eq rfl)
          have hm' := hkept.sync h hfees hclean.finds
          refine ⟨hm', fun hrunning => ?_⟩
          rw [hkept.allPaid_kept hm'
            (syncOrderPaymentObligations_linksOnly orderId _).receiptsKept]
          refine hs.running i o order' r fee hbefore ?_
          simpa [InspectionDesk.confirmed, InspectionDesk.setClock, InspectionDesk.setRequest,
            Function.update_of_ne hi] using hrunning

end Confirmation

/-! ## Fresh payments -/

section Creation

variable {s : InspectionDesk} {env : Env} {data : CreatePaymentData}

theorem isFor_of_findPaymentObligation {db : Db} {orderId o : Id} {b : PaymentObligation}
    {amount : ℚ} {c : Option Id} (hkeyed : b.KeyedBy db.orders)
    (horder : data.orderId = some orderId)
    (h : findPaymentObligation db orderId data.type data.inspectionRequestId data.createdById =
      some (o, b)) :
    (data.row env amount c).IsFor db b.obligationKey := by
  unfold findPaymentObligation at h
  split at h
  · next htype =>
      rcases Option.or_eq_some_iff.1 h with hpayer | ⟨-, hkey⟩
      · cases hcreator : data.createdById with
        | none =>
            rw [hcreator] at hpayer
            cases hpayer
        | some payer =>
            rw [hcreator] at hpayer
            obtain ⟨-, hselected⟩ := Table.findFirst_eq_some hpayer
            simp only [Bool.and_eq_true, decide_eq_true_eq] at hselected
            obtain ⟨⟨⟨hof, hbtype⟩, hrequest⟩, hbpayer⟩ := hselected
            have hnames := hkeyed.request hbtype
            rw [hrequest] at hnames
            cases hkey : b.obligationKey with
            | ofType orderId' type =>
                have horder' : orderId' = b.orderId := by
                  rw [← b.keyed.1, hkey]
                  rfl
                have htype' : type = b.type := by
                  rw [← b.keyed.2, hkey]
                  rfl
                refine ⟨htype.trans (hbtype.symm.trans htype'.symm), horder.trans ?_⟩
                rw [horder', hof]
            | inspection orderId' requestId =>
                rw [hkey] at hnames
                exact ⟨htype, hnames⟩
            | inspectionShare orderId' requestId role =>
                rw [hkey] at hnames
                refine ⟨htype, hnames, fun order horder' => hcreator.trans (congrArg some ?_)⟩
                exact hbpayer.symm.trans (hkeyed.share orderId' requestId role hkey order horder')
      · obtain ⟨requestId, hrequest, hkey⟩ := Option.bind_eq_some_iff.1 hkey
        obtain ⟨-, hselected⟩ := Table.findFirst_eq_some hkey
        rw [of_decide_eq_true hselected]
        exact ⟨htype, hrequest⟩
  · obtain ⟨-, hselected⟩ := Table.findFirst_eq_some h
    rw [of_decide_eq_true hselected]
    exact ⟨rfl, horder⟩

theorem DeskSound.create (hs : DeskSound s) {row : Payment} (hrow : row.IsIntent s.db)
    (hfor : forall o b, row.obligationId = some o -> s.db.obligations.findUnique o = some b ->
      row.IsFor s.db b.obligationKey) :
    DeskSound { s with db := { s.db with payments := s.db.payments.create row } } := by
  have hcases : forall i p, (s.db.payments.create row).findUnique i = some p ->
      p = row ∨ s.db.payments.findUnique i = some p := by
    intro i p hp
    rw [Table.findUnique_create] at hp
    split at hp
    · exact Or.inl (Option.some.inj hp).symm
    · exact Or.inr hp
  have hreceipts : forall requestId, ReceiptsKept requestId s.db
      { s.db with payments := s.db.payments.create row } := by
    intro requestId
    constructor
    · intro i p hp hfee
      rcases hcases i p hp with rfl | hold
      · have hpaid := (isReceivedFee_iff.1 hfee).2
        rw [hrow.pending] at hpaid
        cases hpaid
      · exact ⟨p, hold, hfee, rfl, rfl⟩
    · intro i p hp hfee
      have hi : i ≠ s.db.payments.size := Nat.ne_of_lt (Table.lt_size_of_findUnique hp)
      refine ⟨p, ?_, hfee, rfl, rfl⟩
      simp only [Table.findUnique_create, if_neg hi]
      exact hp
  have hmade : MadeFor s.db { s.db with payments := s.db.payments.create row } := by
    intro i p o b hp ho hb
    rcases hcases i p hp with rfl | hold
    · exact hfor o b ho hb
    · exact hs.fees.made i p o b hold ho hb
  have hfees : FeesSound { s.db with payments := s.db.payments.create row } :=
    hs.fees.change ⟨hs.fees.parties, hs.fees.terms, fun i r hr => ⟨r, hr, rfl⟩,
      .refl (fun _ b => ⟨b.status, rfl⟩) _, hs.fees.linked.create hrow, fun i p o b hp ho hb =>
        hmade i p o b hp ho hb⟩
  refine ⟨hfees, hs.keyed, hs.founded, ?_, ?_⟩
  · intro i o order r fee h
    exact (hs.matched i o order r fee (h.of_tables rfl rfl)).kept hfees.linked.indexed
      (fun _ _ _ => Iff.rfl) (hreceipts i)
  · intro i o order r fee h hrunning
    exact hs.running i o order r fee (h.of_tables rfl rfl) hrunning

theorem DeskSound.createPayment (hs : DeskSound s)
    (hmeets : FeeStep.meets s (env, .createPayment data) = true) :
    DeskSound { s with
      db := AgreementStep.afterCall s.db (MarketBridge.createPayment env data s.db) } := by
  unfold AgreementStep.afterCall
  cases hcall : MarketBridge.createPayment env data s.db with
  | error e => exact hs
  | ok result =>
      obtain ⟨db', id⟩ := result
      have hcases := createPayment_row hcall
      split at hcases
      · next haccepted =>
          obtain ⟨amount, c, hintent, hfound, rfl⟩ := hcases
          have hsynced : DeskSound { s with db := syncedFor data s.db } := by
            unfold FeeStep.meets at hmeets
            simp only [haccepted, Bool.not_true, Bool.false_or] at hmeets
            unfold syncedFor
            cases horder : data.orderId with
            | none => exact hs
            | some orderId =>
                rw [horder, Option.all_some, Bool.not_eq_true'] at hmeets
                exact hs.sync hmeets
          refine hsynced.create hintent fun o b ho hb => ?_
          obtain ⟨orderId, b', horder, hfind⟩ := hfound o ho
          obtain rfl := Option.some.inj (hb.symm.trans (findPaymentObligation_eq_some hfind))
          exact isFor_of_findPaymentObligation (hsynced.keyed o b hb) horder hfind
      · rw [hcases]
        exact hs

end Creation

end MarketBridge
