import MarketBridge.Inspection.GateLaw

/-!
# Synchronising the fee of an inspection

A synchronisation turns the obligations of a confirmed inspection into its shares, paid or
open as the payments say, unless something of an earlier agreement is in the way.
-/

namespace MarketBridge

open Relational

/-! ## What the law depends on -/

/-- The received payments of the request are the same, up to their links. -/
structure ReceiptsKept (requestId : Id) (db db' : Db) : Prop where
  before : forall i p, db'.payments.findUnique i = some p -> isReceivedFee requestId p = true ->
    exists q, db.payments.findUnique i = some q ∧ isReceivedFee requestId q = true ∧
      q.createdById = p.createdById ∧ q.amount = p.amount
  after : forall i p, db.payments.findUnique i = some p -> isReceivedFee requestId p = true ->
    exists q, db'.payments.findUnique i = some q ∧ isReceivedFee requestId q = true ∧
      q.createdById = p.createdById ∧ q.amount = p.amount

def FeeRowsKept (requestId : Id) (db db' : Db) : Prop :=
  forall o b, isFeeRow requestId b = true ->
    (db'.obligations.findUnique o = some b ↔ db.obligations.findUnique o = some b)

def InspectionRequest.terms (r : InspectionRequest) : InspectionRequest :=
  { r with
    status := .requested
    completedAt := none
    reportAcceptedAt := none
    inspectorOnSiteConfirmedAt := none
    workflowDueAt := none }

section Kept

variable {db db' : Db} {requestId orderId : Id} {order order' : Order}
  {r r' : InspectionRequest} {fee : ℚ}

theorem ReceiptsKept.of_eq (h : db'.payments = db.payments) : ReceiptsKept requestId db db' := by
  constructor
  · intro i p hp hfee
    rw [h] at hp
    exact ⟨p, hp, hfee, rfl, rfl⟩
  · intro i p hp hfee
    rw [← h] at hp
    exact ⟨p, hp, hfee, rfl, rfl⟩

theorem ReceiptsKept.of_rel
    (h : db.payments.Rel (fun _ p p' => isReceivedFee requestId p' = isReceivedFee requestId p ∧
      p'.createdById = p.createdById ∧ p'.amount = p.amount) db'.payments) :
    ReceiptsKept requestId db db' := by
  constructor
  · intro i p hp hfee
    obtain ⟨q, hq, hsame, hcreator, hamount⟩ := h.of_right hp
    exact ⟨q, hq, hsame.symm.trans hfee, hcreator.symm, hamount.symm⟩
  · intro i p hp hfee
    obtain ⟨q, hq, hsame, hcreator, hamount⟩ := h.of_left hp
    exact ⟨q, hq, hsame.trans hfee, hcreator, hamount⟩

theorem LinksOnly.receiptsKept (h : LinksOnly db db') : ReceiptsKept requestId db db' := by
  refine .of_rel (h.rel.mono fun _ p p' hsame => ?_)
  have hfee : isReceivedFee requestId p'.unlinked = isReceivedFee requestId p.unlinked :=
    congrArg (isReceivedFee requestId) hsame
  have hcreator : p'.unlinked.createdById = p.unlinked.createdById :=
    congrArg Payment.createdById hsame
  have hamount : p'.unlinked.amount = p.unlinked.amount := congrArg Payment.amount hsame
  exact ⟨hfee, hcreator, hamount⟩

theorem ReceiptsKept.receivedFrom_iff (h : ReceiptsKept requestId db db') {payerId : Id} :
    ReceivedFrom db' requestId payerId ↔ ReceivedFrom db requestId payerId := by
  constructor
  · rintro ⟨i, p, hp, hfee, hcreator⟩
    obtain ⟨q, hq, hfee', hcreator', -⟩ := h.before i p hp hfee
    exact ⟨i, q, hq, hfee', hcreator'.trans hcreator⟩
  · rintro ⟨i, p, hp, hfee, hcreator⟩
    obtain ⟨q, hq, hfee', hcreator', -⟩ := h.after i p hp hfee
    exact ⟨i, q, hq, hfee', hcreator'.trans hcreator⟩

/-- What the obligations and the payments have to be like for the shares of an agreement. -/
structure FeeFits (db : Db) (requestId orderId : Id) (order : Order) (r : InspectionRequest)
    (fee : ℚ) : Prop where
  keyed : forall o b, db.obligations.findUnique o = some b -> isFeeRow requestId b = true ->
    exists role, 0 < r.share fee role ∧ b.obligationKey = r.shareKey orderId requestId role
  fits : forall i p, db.payments.findUnique i = some p -> isReceivedFee requestId p = true ->
    exists role, 0 < r.share fee role ∧ p.createdById = some (role.of order) ∧
      p.amount = r.share fee role
  single : forall i j p q, db.payments.findUnique i = some p ->
    db.payments.findUnique j = some q -> isReceivedFee requestId p = true ->
      isReceivedFee requestId q = true -> p.createdById = q.createdById -> i = j

theorem FeeMatched.feeFits (hm : FeeMatched db requestId orderId order r fee) :
    FeeFits db requestId orderId order r fee where
  keyed := fun o b hb hrow => by
    obtain ⟨role, hcharged⟩ := hm.rows.share o b hb hrow
    exact ⟨role, hcharged.positive, hcharged.key⟩
  fits := hm.fits
  single := hm.single

theorem ReceiptsKept.fits (h : ReceiptsKept requestId db db')
    (hfits : forall i p, db.payments.findUnique i = some p -> isReceivedFee requestId p = true ->
      exists role, 0 < r.share fee role ∧ p.createdById = some (role.of order) ∧
        p.amount = r.share fee role) {i : Id} {p : Payment}
    (hp : db'.payments.findUnique i = some p) (hfee : isReceivedFee requestId p = true) :
    exists role, 0 < r.share fee role ∧ p.createdById = some (role.of order) ∧
      p.amount = r.share fee role := by
  obtain ⟨q, hq, hfee', hcreator, hamount⟩ := h.before i p hp hfee
  obtain ⟨role, hpos, hcreator', hamount'⟩ := hfits i q hq hfee'
  exact ⟨role, hpos, hcreator.symm.trans hcreator', hamount.symm.trans hamount'⟩

theorem ReceiptsKept.single (h : ReceiptsKept requestId db db')
    (hsingle : forall i j p q, db.payments.findUnique i = some p ->
      db.payments.findUnique j = some q -> isReceivedFee requestId p = true ->
        isReceivedFee requestId q = true -> p.createdById = q.createdById -> i = j)
    {i j : Id} {p q : Payment} (hp : db'.payments.findUnique i = some p)
    (hq : db'.payments.findUnique j = some q) (hfee : isReceivedFee requestId p = true)
    (hfee' : isReceivedFee requestId q = true) (hsame : p.createdById = q.createdById) :
    i = j := by
  obtain ⟨p', hp', hpfee, hpcreator, -⟩ := h.before i p hp hfee
  obtain ⟨q', hq', hqfee, hqcreator, -⟩ := h.before j q hq hfee'
  exact hsingle i j p' q' hp' hq' hpfee hqfee (hpcreator.trans (hsame.trans hqcreator.symm))

theorem FeeMatched.kept (hm : FeeMatched db requestId orderId order r fee)
    (hindexed : ObligationsIndexed db') (hrows : FeeRowsKept requestId db db')
    (hreceipts : ReceiptsKept requestId db db') :
    FeeMatched db' requestId orderId order r fee where
  rows :=
    { share := fun o b hb hrow => hm.rows.share o b ((hrows o b hrow).1 hb) hrow
      row := fun role hpos => by
        obtain ⟨o, b, hb, hrow, hcharged⟩ := hm.rows.row role hpos
        exact ⟨o, b, (hrows o b hrow).2 hb, hrow, hcharged⟩
      index := fun _ _ _ _ hb hb' hkey => hindexed.index_eq hb hb' hkey }
  settled := fun o b hb hrow => by
    rw [hreceipts.receivedFrom_iff]
    exact hm.settled o b ((hrows o b hrow).1 hb) hrow
  fits := fun _ _ hp hfee => hreceipts.fits hm.fits hp hfee
  single := fun _ _ _ _ hp hq hfee hfee' hsame =>
    hreceipts.single hm.single hp hq hfee hfee' hsame

end Kept

/-! ## Synchronisations of another order -/

section Sync

variable {db : Db} {requestId orderId : Id} {order : Order} {r : InspectionRequest} {fee : ℚ}
  {o : Id} {b : PaymentObligation}

theorem sync_other_iff (hindexed : ObligationsIndexed db) (hother : b.orderId ≠ orderId) :
    (syncOrderPaymentObligations orderId db).obligations.findUnique o = some b ↔
      db.obligations.findUnique o = some b := by
  have hretire : forall (p : PaymentObligation -> Bool) (s : Db),
      (forall c, p c = true -> c.orderId = orderId) ->
        ((retireObligations p s).obligations.findUnique o = some b ↔
          s.obligations.findUnique o = some b) := by
    intro p s hp
    constructor
    · intro hrow
      simp only [retireObligations, Table.findUnique_updateMany] at hrow
      obtain ⟨c, hc, hwritten⟩ := Option.map_eq_some_iff.1 hrow
      split at hwritten
      · next hselected =>
          rw [Bool.and_eq_true] at hselected
          subst hwritten
          exact absurd (hp c hselected.2) hother
      · rw [← hwritten]
        exact hc
    · intro hrow
      refine retireObligations_kept hrow ?_
      by_contra hselected
      exact hother (hp b (Bool.not_eq_false _ ▸ hselected))
  unfold syncOrderPaymentObligations
  cases horder : db.orders.findUnique orderId with
  | none => exact Iff.rfl
  | some order =>
      dsimp only
      have hfirst : ObligationsIndexed (retireObligations (isUnconfirmedFee db orderId) db) :=
        hindexed.updateMany fun _ => rfl
      have hstart := hretire (isUnconfirmedFee db orderId) db fun c hc => by
        unfold isUnconfirmedFee at hc
        simp only [Bool.and_eq_true, decide_eq_true_eq] at hc
        exact hc.1.1
      have hend := hretire (isRetired db orderId (desiredObligations db orderId order))
        ((desiredObligations db orderId order).foldl
          (fun s item => syncObligation db orderId item s)
          (retireObligations (isUnconfirmedFee db orderId) db)) fun c hc => by
        unfold isRetired at hc
        simp only [Bool.and_eq_true, decide_eq_true_eq] at hc
        exact hc.1
      rw [hend, ← hstart]
      have hforeign : forall item, item ∈ desiredObligations db orderId order ->
          item.obligationKey ≠ b.obligationKey := by
        intro item hitem hkey
        refine hother ?_
        rw [← b.keyed.1, ← hkey, (mem_desiredObligations hitem).1]
      constructor
      · intro hrow
        rcases foldl_syncObligation_row hfirst hrow with ⟨-, hold⟩ | ⟨e, he, hagrees⟩
        · exact hold
        · exact absurd hagrees.key.symm (hforeign e.1 (mem_of_mem_syncedItems he))
      · intro hrow
        refine foldl_syncObligation_kept hrow ?_
        by_contra hkey
        obtain ⟨item, hitem, hsame⟩ := hasKey_eq_true_iff.1 (Bool.not_eq_false _ ▸ hkey)
        exact hforeign item hitem hsame

/-! ## Synchronisations of its order -/

def overlooksFee (db : Db) (orderId : Id) : Bool :=
  (desiredFor db orderId).any fun item => item.type = .inspector &&
    hasPaidPayment db item.purpose && !findsPaid db orderId (desiredFor db orderId) item

theorem receivedFrom_iff (hrow : isFeeRow requestId b = true) :
    ReceivedFrom db requestId b.payerId ↔ hasPaidPayment db b.purpose = true := by
  unfold isFeeRow at hrow
  simp only [Bool.and_eq_true, decide_eq_true_eq] at hrow
  obtain ⟨htype, hrequest⟩ := hrow
  have hserves : forall p : Payment, (p.status = .paid ∧ p.serves b.purpose = true) ↔
      (isReceivedFee requestId p = true ∧ p.createdById = some b.payerId) := by
    intro p
    unfold Payment.serves PaymentObligation.purpose isReceivedFee
    simp only [htype, hrequest, Bool.and_eq_true, decide_eq_true_eq]
    constructor
    · rintro ⟨hpaid, ⟨htype, hcreator⟩, -, hrequest⟩
      exact ⟨⟨⟨hrequest, htype⟩, hpaid⟩, hcreator⟩
    · rintro ⟨⟨⟨hrequest, htype⟩, hpaid⟩, hcreator⟩
      exact ⟨hpaid, ⟨htype, hcreator⟩, by rw [hrequest]; rfl, hrequest⟩
  rw [hasPaidPayment_iff]
  unfold ReceivedFrom
  constructor
  · rintro ⟨i, p, hp, hfee⟩
    exact ⟨i, p, hp, (hserves p).2 hfee⟩
  · rintro ⟨i, p, hp, hfee⟩
    exact ⟨i, p, hp, (hserves p).1 hfee⟩

theorem FeeFits.sync_keyed (hf : FeeFits db requestId orderId order r fee)
    (h : ConfirmedFee db requestId orderId order r fee) (hsound : FeesSound db)
    (hb : (syncOrderPaymentObligations orderId db).obligations.findUnique o = some b)
    (hrow : isFeeRow requestId b = true) :
    exists role, 0 < r.share fee role ∧ b.obligationKey = r.shareKey orderId requestId role := by
  have hkeyed : isFeeRow requestId b = true -> exists role, 0 < r.share fee role ∧
      b.obligationKey = r.shareKey orderId requestId role := by
    refine sync_rows (Q := fun b => isFeeRow requestId b = true -> exists role,
      0 < r.share fee role ∧ b.obligationKey = r.shareKey orderId requestId role)
      hsound.linked.indexed (fun _ _ hQ => hQ) (fun o b hb => hf.keyed o b hb) ?_ hb
    intro item b status hitem hagrees hrow
    unfold isFeeRow at hrow
    simp only [Bool.and_eq_true, decide_eq_true_eq] at hrow
    unfold desiredFor at hitem
    rw [h.order] at hitem
    rcases desiredObligations_cases hitem with ⟨hother, -⟩ |
      ⟨requestId', r', fee', role, hlive, hconfirmed, hshare⟩
    · exact absurd (hagrees.type.symm.trans hrow.1) hother
    · have hsame := hagrees.inspection.symm.trans hrow.2
      rw [hshare.request] at hsame
      obtain rfl := Option.some.inj hsame
      obtain rfl := liveInspections_unique h.live hlive
      obtain rfl := Option.some.inj (h.confirmed.agreed.symm.trans hconfirmed.agreed)
      exact ⟨role, hshare.positive, hagrees.key.trans hshare.key⟩
  exact hkeyed hrow

theorem FeeFits.sync_row (hf : FeeFits db requestId orderId order r fee)
    (h : ConfirmedFee db requestId orderId order r fee) (hsound : FeesSound db)
    (hb : (syncOrderPaymentObligations orderId db).obligations.findUnique o = some b)
    (hrow : isFeeRow requestId b = true) :
    isCharge requestId b = true ∧ exists role, b.Charged orderId order requestId r fee role := by
  obtain ⟨role, hpos, hkey⟩ := hf.sync_keyed h hsound hb hrow
  obtain ⟨o', b', hb', hcharge, -, hcharged⟩ := hsound.exists_charged h.order h.live h.confirmed hpos
  obtain rfl := (sync_linked hsound.linked).indexed.eq_of_key hb hb'
    (hkey.trans hcharged.key.symm)
  exact ⟨hcharge, role, hcharged⟩

theorem FeeFits.sync_open (h : ConfirmedFee db requestId orderId order r fee)
    (hsound : FeesSound db) (hfinds : overlooksFee db orderId = false)
    (hb : (syncOrderPaymentObligations orderId db).obligations.findUnique o = some b)
    (hrow : isFeeRow requestId b = true) (hopen : b.status = .open) :
    ¬ ReceivedFrom (syncOrderPaymentObligations orderId db) requestId b.payerId := by
  rw [receivedFrom_iff hrow, (syncOrderPaymentObligations_linksOnly orderId db).hasPaidPayment]
  have htype : b.type = .inspector := by
    unfold isFeeRow at hrow
    simp only [Bool.and_eq_true, decide_eq_true_eq] at hrow
    exact hrow.1
  rcases MarketBridge.sync_open hsound.linked.indexed hb hopen with ⟨item, hitem, hagrees⟩ |
    ⟨hold, hnone | hne | hother⟩
  · obtain ⟨hdesired, s, hs, hunsettled⟩ := owedItems_unsettled hsound.linked hitem
    rw [hagrees.purpose]
    intro hhas
    unfold overlooksFee at hfinds
    rw [List.any_eq_false] at hfinds
    have hfound : findsPaid db orderId (desiredFor db orderId) item = true := by
      simpa [hhas, hagrees.type.symm.trans htype] using hfinds item hdesired
    rw [hs.isSettledItem_of_findsPaid hfound] at hunsettled
    cases hunsettled
  · rw [h.order] at hnone
    cases hnone
  · have hof := (h.isObligationOf hsound hold).trans hrow
    unfold isObligationOf at hof
    simp only [Bool.and_eq_true, decide_eq_true_eq] at hof
    exact absurd hof.1.1 hne
  · rw [htype] at hother
    exact absurd (by decide) hother

theorem FeeFits.sync_paid (hf : FeeFits db requestId orderId order r fee)
    (h : ConfirmedFee db requestId orderId order r fee) (hsound : FeesSound db)
    (hb : (syncOrderPaymentObligations orderId db).obligations.findUnique o = some b)
    (hrow : isFeeRow requestId b = true) (hpaid : b.status = .paid) :
    ReceivedFrom (syncOrderPaymentObligations orderId db) requestId b.payerId := by
  have hlinks := syncOrderPaymentObligations_linksOnly orderId db
  have hkept : ReceiptsKept requestId db (syncOrderPaymentObligations orderId db) :=
    hlinks.receiptsKept
  have hparties := hsound.parties _ _ h.order
  obtain ⟨-, role, hcharged⟩ := hf.sync_row h hsound hb hrow
  obtain ⟨item, hitem, hshare⟩ : exists item, item ∈ inspectionObligations orderId order requestId r ∧
      item.IsShare orderId order requestId r fee role := exists_isShare h.confirmed hcharged.positive
  have hdesired := mem_desiredObligations_of_share h.live hitem
  obtain ⟨o', b', hsynced⟩ := sync_isSynced hsound.linked hsound.made h.order
    (desiredObligations_distinguishes h.order hparties)
    (desiredObligations_nodup hsound.terms_live) hdesired
  obtain ⟨hb', hagrees⟩ := hsynced.agrees
  obtain rfl := (sync_linked hsound.linked).indexed.eq_of_key hb hb'
    (hcharged.key.trans (hshare.key.symm.trans hagrees.key.symm))
  have hsettled : isSettledItem db orderId item (syncOrderPaymentObligations orderId db) = true := by
    have hstatus := hagrees.status
    rw [hpaid] at hstatus
    unfold syncedStatus at hstatus
    by_contra hnot
    rw [if_neg hnot] at hstatus
    cases hstatus
  unfold isSettledItem at hsettled
  rw [Bool.or_eq_true] at hsettled
  rw [hcharged.payer]
  rcases hsettled with hmatch | hlinked
  · -- the search asks for the payer of the share
    rw [hkept.receivedFrom_iff]
    cases hfound : matchingPayment db orderId item with
    | none =>
        rw [hfound] at hmatch
        cases hmatch
    | some e =>
        rw [hfound] at hmatch
        have hpaid' : e.2.status = .paid := by simpa [isPaidPayment] using hmatch
        unfold matchingPayment at hfound
        rw [if_pos hshare.type] at hfound
        obtain ⟨hp, hselected⟩ := Table.findFirst_eq_some hfound
        simp only [Bool.and_eq_true, decide_eq_true_eq] at hselected
        refine ⟨e.1, e.2, hp, ?_, ?_⟩
        · unfold isReceivedFee
          simp [hselected.1.1.1, hselected.1.1.2, hshare.request, hpaid']
        · rw [hselected.1.2, hshare.payer]
  · rw [hsynced.found, Option.bind_some] at hlinked
    cases hfound : obligationPayment (syncOrderPaymentObligations orderId db) o' with
    | none =>
        rw [hfound] at hlinked
        cases hlinked
    | some e =>
        rw [hfound] at hlinked
        have hpaid' : e.2.status = .paid := by simpa [isPaidPayment] using hlinked
        obtain ⟨hp, ho⟩ := obligationPayment_eq_some hfound
        have hfor := hsound.sync_made e.1 e.2 o' b hp ho hb'
        rw [hcharged.key] at hfor
        obtain ⟨htype, hrequest⟩ := Payment.isFor_shareKey hfor
        have hfee : isReceivedFee requestId e.2 = true := by
          unfold isReceivedFee
          simp [htype, hrequest, hpaid']
        refine ⟨e.1, e.2, hp, hfee, ?_⟩
        obtain ⟨role', hpos', hcreator, -⟩ := hkept.fits hf.fits hp hfee
        by_cases hsplit : r.payerMode = .split
        · unfold InspectionRequest.shareKey at hfor
          rw [if_pos hsplit] at hfor
          refine hfor.2.2 order ?_
          rw [sync_orders]
          exact h.order
        · have hkeys : r.shareKey orderId requestId role = r.shareKey orderId requestId role' := by
            unfold InspectionRequest.shareKey
            rw [if_neg hsplit, if_neg hsplit]
          obtain rfl := InspectionRequest.role_eq_of_shareKey
            (hsound.terms requestId r h.request.1) h.confirmed hcharged.positive hpos' hkeys
          exact hcreator

theorem FeeFits.sync (hf : FeeFits db requestId orderId order r fee)
    (h : ConfirmedFee db requestId orderId order r fee) (hsound : FeesSound db)
    (hfinds : overlooksFee db orderId = false) :
    FeeMatched (syncOrderPaymentObligations orderId db) requestId orderId order r fee := by
  have hkept : ReceiptsKept requestId db (syncOrderPaymentObligations orderId db) :=
    (syncOrderPaymentObligations_linksOnly orderId db).receiptsKept
  refine ⟨⟨?_, ?_, ?_⟩, ?_, fun _ _ hp hfee => hkept.fits hf.fits hp hfee,
    fun _ _ _ _ hp hq hfee hfee' hsame => hkept.single hf.single hp hq hfee hfee' hsame⟩
  · intro o b hb hrow
    exact (hf.sync_row h hsound hb hrow).2
  · intro role hpos
    obtain ⟨o, b, hb, hcharge, -, hcharged⟩ :=
      hsound.exists_charged h.order h.live h.confirmed hpos
    refine ⟨o, b, hb, ?_, hcharged⟩
    unfold isCharge at hcharge
    rw [Bool.and_eq_true] at hcharge
    exact hcharge.1
  · intro o o' b b' hb hb' hkey
    exact (sync_linked hsound.linked).indexed.index_eq hb hb' hkey
  · intro o b hb hrow
    obtain ⟨hcharge, -⟩ := hf.sync_row h hsound hb hrow
    cases hs : b.status with
    | «open» => exact Or.inr ⟨rfl, FeeFits.sync_open h hsound hfinds hb hrow hs⟩
    | paid => exact Or.inl ⟨rfl, hf.sync_paid h hsound hb hrow hs⟩
    | cancelled =>
        unfold isCharge at hcharge
        simp [hs] at hcharge

theorem FeeMatched.sync (hm : FeeMatched db requestId orderId order r fee)
    (h : ConfirmedFee db requestId orderId order r fee) (hsound : FeesSound db) {orderId' : Id}
    (hfinds : overlooksFee db orderId' = false) :
    FeeMatched (syncOrderPaymentObligations orderId' db) requestId orderId order r fee := by
  by_cases hsame : orderId' = orderId
  · subst hsame
    exact hm.feeFits.sync h hsound hfinds
  · refine hm.kept (sync_linked hsound.linked).indexed ?_
      (syncOrderPaymentObligations_linksOnly orderId' db).receiptsKept
    intro o b hrow
    by_cases hof : b.orderId = orderId'
    · -- no row of this request is one of the other order, before or after
      have hno : forall s, FeesSound s -> ConfirmedFee s requestId orderId order r fee ->
          s.obligations.findUnique o ≠ some b := by
        intro s hs hc hb
        have hmine := (hc.isObligationOf hs hb).trans hrow
        unfold isObligationOf at hmine
        simp only [Bool.and_eq_true, decide_eq_true_eq] at hmine
        exact hsame (hof.symm.trans hmine.1.1)
      have hafter : ConfirmedFee (syncOrderPaymentObligations orderId' db) requestId orderId order
          r fee := by
        refine ⟨?_, ?_, h.confirmed⟩
        · rw [sync_orders]
          exact h.order
        · unfold liveInspections
          rw [sync_inspectionRequests]
          exact h.live
      exact ⟨fun hb => absurd hb (hno _ hsound.sync hafter), fun hb => absurd hb (hno _ hsound h)⟩
    · exact sync_other_iff hsound.linked.indexed hof

end Sync

end MarketBridge
