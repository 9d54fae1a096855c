import MarketBridge.Inspection.GateFrames
import MarketBridge.Payment.Repeat
import MarketBridge.Transport.Effects

/-!
# Payments of inspection fees

A settlement keeps a sound desk if it receives the payment of a confirmed fee for the whole
of its share, and takes none away that has been received.
-/

namespace MarketBridge

open Relational

/-! ## One payment is written -/

section Payments

variable {db db' : Db} {requestId orderId paymentId o : Id} {order : Order}
  {r : InspectionRequest} {fee : ℚ} {p : Payment} {b : PaymentObligation}

def Payment.IsFeeOf (p : Payment) (requestId : Id) : Prop :=
  p.type = .inspector ∧ p.inspectionRequestId = some requestId

theorem isReceivedFee_iff :
    isReceivedFee requestId p = true ↔ p.IsFeeOf requestId ∧ p.status = .paid := by
  unfold isReceivedFee Payment.IsFeeOf
  simp only [Bool.and_eq_true, decide_eq_true_eq]
  constructor
  · rintro ⟨⟨hrequest, htype⟩, hpaid⟩
    exact ⟨⟨htype, hrequest⟩, hpaid⟩
  · rintro ⟨⟨htype, hrequest⟩, hpaid⟩
    exact ⟨⟨hrequest, htype⟩, hpaid⟩

theorem isFeeRow_iff :
    isFeeRow requestId b = true ↔ b.type = .inspector ∧ b.inspectionRequestId = some requestId := by
  unfold isFeeRow
  simp only [Bool.and_eq_true, decide_eq_true_eq]

theorem Payment.feeData_of_core (requestId : Id) {q : Payment} (h : q.core = p.core) :
    (q.IsFeeOf requestId ↔ p.IsFeeOf requestId) ∧ q.createdById = p.createdById ∧
      q.amount = p.amount := by
  have htype : q.core.type = p.core.type := congrArg Payment.type h
  have hrequest : q.core.inspectionRequestId = p.core.inspectionRequestId :=
    congrArg Payment.inspectionRequestId h
  have hcreator : q.core.createdById = p.core.createdById := congrArg Payment.createdById h
  have hamount : q.core.amount = p.core.amount := congrArg Payment.amount h
  refine ⟨?_, hcreator, hamount⟩
  unfold Payment.IsFeeOf
  rw [show q.type = p.type from htype, show q.inspectionRequestId = p.inspectionRequestId from
    hrequest]

theorem ReceiptsKept.update {f : Payment -> Payment}
    (h : db'.payments = db.payments.update paymentId f)
    (hf : forall p, db.payments.findUnique paymentId = some p -> (f p).core = p.core ∧
      (p.IsFeeOf requestId -> ((f p).status = .paid ↔ p.status = .paid))) :
    ReceiptsKept requestId db db' := by
  refine .of_rel ?_
  rw [h]
  refine Table.rel_update (fun _ p => ⟨rfl, rfl, rfl⟩) fun p hp => ?_
  obtain ⟨hcore, hpaid⟩ := hf p hp
  obtain ⟨hfee, hcreator, hamount⟩ := Payment.feeData_of_core requestId hcore
  refine ⟨?_, hcreator, hamount⟩
  rw [Bool.eq_iff_iff, isReceivedFee_iff, isReceivedFee_iff, hfee]
  exact and_congr_right hpaid

theorem DeskSound.isFeeOf_of_link {s : InspectionDesk} (hs : DeskSound s)
    (hp : s.db.payments.findUnique paymentId = some p) (ho : p.obligationId = some o)
    (hb : s.db.obligations.findUnique o = some b) (hrow : isFeeRow requestId b = true) :
    p.IsFeeOf requestId := by
  have hfor := hs.fees.made paymentId p o b hp ho hb
  have hkeyed := (hs.keyed o b hb).request (isFeeRow_iff.1 hrow).1
  rw [(isFeeRow_iff.1 hrow).2] at hkeyed
  cases hkey : b.obligationKey with
  | ofType orderId type =>
      rw [hkey] at hkeyed
      cases hkeyed
  | inspection orderId requestId' =>
      rw [hkey] at hkeyed hfor
      obtain rfl := Option.some.inj hkeyed
      exact ⟨hfor.1, hfor.2⟩
  | inspectionShare orderId requestId' role =>
      rw [hkey] at hkeyed hfor
      obtain rfl := Option.some.inj hkeyed
      exact ⟨hfor.1, hfor.2.1⟩

/-- The payment of an open share is received for all of it. -/
theorem FeeMatched.receive (hm : FeeMatched db requestId orderId order r fee)
    (hparties : order.buyerId ≠ order.sellerId) {f : Payment -> Payment}
    (hp : db.payments.findUnique paymentId = some p) (hfee : p.IsFeeOf requestId)
    (hcore : (f p).core = p.core) (hpaid : (f p).status = .paid)
    (hb : db.obligations.findUnique o = some b) (hrow : isFeeRow requestId b = true)
    (hopen : b.status = .open) (hcreator : p.createdById = some b.payerId)
    (hamount : p.amount = b.amount)
    (hpayments : db'.payments = db.payments.update paymentId f)
    (hobligations : db'.obligations = db.obligations.update o ({ · with status := .paid })) :
    FeeMatched db' requestId orderId order r fee := by
  obtain ⟨hfee', hcreator', hamount'⟩ := Payment.feeData_of_core requestId hcore
  obtain ⟨role, hcharged⟩ := hm.rows.share o b hb hrow
  have hunpaid : ¬ ReceivedFrom db requestId b.payerId := by
    rcases hm.settled o b hb hrow with ⟨hpaid, -⟩ | ⟨-, hnot⟩
    · rw [hopen] at hpaid
      cases hpaid
    · exact hnot
  have hpayment : forall i q, db'.payments.findUnique i = some q ->
      i = paymentId ∧ q = f p ∨ i ≠ paymentId ∧ db.payments.findUnique i = some q := by
    intro i q hq
    rw [hpayments, Table.findUnique_update] at hq
    split at hq
    · next hi =>
        rw [hi, hp] at hq
        exact Or.inl ⟨hi, (Option.some.inj hq).symm⟩
    · next hi =>
        exact Or.inr ⟨hi, hq⟩
  have hwritten : db'.payments.findUnique paymentId = some (f p) := by
    rw [hpayments, Table.findUnique_update_self, hp, Option.map_some]
  have hobligation : forall i c, db'.obligations.findUnique i = some c ->
      i = o ∧ c = { b with status := .paid } ∨ i ≠ o ∧ db.obligations.findUnique i = some c := by
    intro i c hc
    rw [hobligations, Table.findUnique_update] at hc
    split at hc
    · next hi =>
        rw [hi, hb] at hc
        exact Or.inl ⟨hi, (Option.some.inj hc).symm⟩
    · next hi =>
        exact Or.inr ⟨hi, hc⟩
  have hother : forall i c, i ≠ o -> db.obligations.findUnique i = some c ->
      isFeeRow requestId c = true -> c.payerId ≠ b.payerId := by
    intro i c hi hc hrow' hpayer
    obtain ⟨role', hcharged'⟩ := hm.rows.share i c hc hrow'
    rw [hcharged.payer, hcharged'.payer] at hpayer
    obtain rfl := OfferCounterParty.of_inj hparties hpayer
    exact hi (hm.rows.index i o c b hc hb (hcharged'.key.trans hcharged.key.symm))
  have hreceived : forall payerId, payerId ≠ b.payerId ->
      (ReceivedFrom db' requestId payerId ↔ ReceivedFrom db requestId payerId) := by
    intro payerId hne
    constructor
    · rintro ⟨i, q, hq, hqfee, hqcreator⟩
      rcases hpayment i q hq with ⟨-, rfl⟩ | ⟨-, hold⟩
      · rw [hcreator', hcreator] at hqcreator
        exact absurd (Option.some.inj hqcreator).symm hne
      · exact ⟨i, q, hold, hqfee, hqcreator⟩
    · rintro ⟨i, q, hq, hqfee, hqcreator⟩
      have hi : i ≠ paymentId := by
        rintro rfl
        obtain rfl := Option.some.inj (hp.symm.trans hq)
        rw [hcreator] at hqcreator
        exact hne (Option.some.inj hqcreator).symm
      refine ⟨i, q, ?_, hqfee, hqcreator⟩
      rw [hpayments, Table.findUnique_update_ne hi]
      exact hq
  -- nothing was received before from the payer of the share
  have hfirst : forall i q, db.payments.findUnique i = some q -> isReceivedFee requestId q = true ->
      q.createdById ≠ (f p).createdById := by
    intro i q hq hqfee hsame
    rw [hcreator', hcreator] at hsame
    exact hunpaid ⟨i, q, hq, hqfee, hsame⟩
  refine ⟨⟨?_, ?_, ?_⟩, ?_, ?_, ?_⟩
  · intro i c hc hrow'
    rcases hobligation i c hc with ⟨-, rfl⟩ | ⟨-, hold⟩
    · exact ⟨role, hcharged.key, hcharged.payer, hcharged.amount, hcharged.positive⟩
    · exact hm.rows.share i c hold hrow'
  · intro role' hpos
    obtain ⟨i, c, hc, hrow', hcharged'⟩ := hm.rows.row role' hpos
    by_cases hi : i = o
    · subst hi
      obtain rfl := Option.some.inj (hb.symm.trans hc)
      refine ⟨i, { b with status := .paid }, ?_, hrow', hcharged'.key, hcharged'.payer,
        hcharged'.amount, hcharged'.positive⟩
      rw [hobligations, Table.findUnique_update_self, hb, Option.map_some]
    · refine ⟨i, c, ?_, hrow', hcharged'⟩
      rw [hobligations, Table.findUnique_update_ne hi]
      exact hc
  · intro i j c d hc hd hkey
    have hold : forall i c, db'.obligations.findUnique i = some c ->
        exists c', db.obligations.findUnique i = some c' ∧ c'.obligationKey = c.obligationKey := by
      intro i c hc
      rcases hobligation i c hc with ⟨rfl, rfl⟩ | ⟨-, hold⟩
      · exact ⟨b, hb, rfl⟩
      · exact ⟨c, hold, rfl⟩
    obtain ⟨c', hc', hckey⟩ := hold i c hc
    obtain ⟨d', hd', hdkey⟩ := hold j d hd
    exact hm.rows.index i j c' d' hc' hd' (hckey.trans (hkey.trans hdkey.symm))
  · intro i c hc hrow'
    rcases hobligation i c hc with ⟨-, rfl⟩ | ⟨hi, hold⟩
    · exact Or.inl ⟨rfl, paymentId, f p, hwritten, isReceivedFee_iff.2 ⟨hfee'.2 hfee, hpaid⟩,
        hcreator'.trans hcreator⟩
    · rw [hreceived c.payerId (hother i c hi hold hrow')]
      exact hm.settled i c hold hrow'
  · intro i q hq hqfee
    rcases hpayment i q hq with ⟨-, rfl⟩ | ⟨-, hold⟩
    · exact ⟨role, hcharged.positive, by rw [hcreator', hcreator, hcharged.payer],
        by rw [hamount', hamount, hcharged.amount]⟩
    · exact hm.fits i q hold hqfee
  · intro i j q q' hq hq' hqfee hqfee' hsame
    rcases hpayment i q hq with ⟨rfl, rfl⟩ | ⟨-, hold⟩
    · rcases hpayment j q' hq' with ⟨rfl, -⟩ | ⟨-, hold'⟩
      · rfl
      · exact absurd hsame.symm (hfirst j q' hold' hqfee')
    · rcases hpayment j q' hq' with ⟨rfl, rfl⟩ | ⟨-, hold'⟩
      · exact absurd hsame (hfirst i q hold hqfee)
      · exact hm.single i j q q' hold hold' hqfee hqfee' hsame

/-- The desk after a write of payments and of the statuses of obligations. -/
theorem FeeTablesKept.of_settlement
    (horders : db.orders.Rel (fun _ order order' => forall role : OfferCounterParty,
      role.of order' = role.of order) db'.orders)
    (hrequests : db.inspectionRequests.Rel (fun _ r r' => RequestCarried r r')
      db'.inspectionRequests)
    (hparties : forall o order, db.orders.findUnique o = some order ->
      order.buyerId ≠ order.sellerId)
    (hpayments : db.payments.Rel (fun _ p p' => p'.core = p.core ∧
      (p'.obligationId = p.obligationId ∨ p'.obligationId = none)) db'.payments)
    (hrows : db.obligations.Rel (fun _ b b' => exists status, b' = { b with status := status })
      db'.obligations) :
    FeeTablesKept db db' where
  orders := fun o order horder => horders.of_left horder
  parties := fun o order' horder' => by
    obtain ⟨order, horder, hparty⟩ := horders.of_right horder'
    have hbuyer : order'.buyerId = order.buyerId := hparty .buyer
    have hseller : order'.sellerId = order.sellerId := hparty .seller
    rw [hbuyer, hseller]
    exact hparties o order horder
  requests := fun i r hr => hrequests.of_left hr
  fresh := fun i r' hr' hr => by
    rw [hrequests.none_right hr] at hr'
    cases hr'
  payments := fun i p' o hp' ho' => by
    obtain ⟨p, hp, hcore, hsame | hnone⟩ := hpayments.of_right hp'
    · exact ⟨p, hp, hsame.symm.trans ho', hcore⟩
    · rw [hnone] at ho'
      cases ho'
  rows := hrows

end Payments

/-! ## What a settlement does beside the payment -/

section Effects

variable {env : Env} {args : SettleArgs} {db db' : Db} {p : Payment} {r : PaymentRecord}

/-- Orders keep their parties, and requests their terms. -/
structure TermsCarried (db db' : Db) : Prop where
  orders : db.orders.Rel (fun _ order order' => forall role : OfferCounterParty,
    role.of order' = role.of order) db'.orders
  requests : db.inspectionRequests.Rel (fun _ r r' => RequestCarried r r') db'.inspectionRequests

theorem TermsCarried.of_eq (horders : db'.orders = db.orders)
    (hrequests : db'.inspectionRequests = db.inspectionRequests) : TermsCarried db db' := by
  constructor
  · rw [horders]
    exact .refl (fun _ _ _ => rfl) _
  · rw [hrequests]
    exact .refl (fun _ r => .refl r) _

theorem TermsCarried.recordPaid (env : Env) (r : PaymentRecord) (h : TermsCarried db db') :
    TermsCarried db (recordPaid env r db') := by
  obtain ⟨payouts, purchases, ads, entries, -, hframe⟩ := recordPaid_frame env r db'
  rw [hframe]
  exact ⟨h.orders, h.requests⟩

theorem TermsCarried.withIssue (env : Env) (data : ReconciliationData) (h : TermsCarried db db') :
    TermsCarried db (withIssue env data db') := by
  obtain ⟨events, hframe⟩ := withIssue_frame env data db'
  rw [hframe]
  exact ⟨h.orders, h.requests⟩

theorem TermsCarried.applyRefunded (r : PaymentRecord) (h : TermsCarried db db') :
    TermsCarried db (applyRefunded r db') := by
  obtain ⟨purchases, entries, hframe⟩ := applyRefunded_frame r db'
  rw [hframe]
  exact ⟨h.orders, h.requests⟩

theorem PaidEffects.termsCarried (h : PaidEffects env r db db')
    (hcurrent : r.inspectionRequest = related db.inspectionRequests r.row.inspectionRequestId) :
    TermsCarried db db' := by
  cases h with
  | underDispute data =>
      obtain ⟨entries, hentries⟩ := writeLedgerPaid_frame r db
      rw [hentries]
      exact TermsCarried.withIssue env data (.of_eq rfl rfl)
  | confirmed orderId order committed listings offers payouts =>
      refine TermsCarried.recordPaid env r ⟨?_, .refl (fun _ r => .refl r) _⟩
      exact Table.rel_update (fun _ _ _ => rfl) fun order _ role => by cases role <;> rfl
  | afterCancellation order data =>
      exact TermsCarried.recordPaid env r (TermsCarried.withIssue env data (.of_eq rfl rfl))
  | transportAccepted jobId truckId quoteId job quote trucks =>
      refine TermsCarried.recordPaid env r ⟨?_, .refl (fun _ r => .refl r) _⟩
      exact Table.rel_updateMany (fun _ _ _ => rfl) fun _ order _ _ role => by cases role <;> rfl
  | inspectionAccepted requestId inspectorId request _ hcommitment hstatus =>
      refine TermsCarried.recordPaid env r ⟨.refl (fun _ _ _ => rfl) _, ?_⟩
      obtain ⟨hid, hrequest⟩ := inspectionCommitment_eq_some hcommitment
      refine Table.rel_update (fun _ r => .refl r) fun row hrow => .of_terms rfl ?_
      -- the request is not cancelled
      intro hcancelled
      rw [hcurrent, hid, related_some, hrow] at hrequest
      obtain rfl := Option.some.inj hrequest
      rw [hcancelled] at hstatus
      simp at hstatus
  | recorded =>
      exact TermsCarried.recordPaid env r (.of_eq rfl rfl)

theorem settlePaymentCore_termsCarried (hp : db.payments.findUnique args.paymentId = some p)
    (h : settlePaymentCore env args db = .ok db') :
    TermsCarried db db' := by
  cases settlePaymentCore_exit hp h with
  | flagged reason =>
      have hissue := TermsCarried.withIssue env
        (issueData (paymentRecord db args.paymentId p) args reason)
        (TermsCarried.of_eq rfl rfl : TermsCarried db db)
      unfold flaggedDb
      dsimp only
      split
      · exact ⟨hissue.orders, hissue.requests⟩
      · exact hissue
  | replayed =>
      exact .of_eq rfl rfl
  | ignored =>
      obtain ⟨events, hevents⟩ := withEvent_frame args (paymentRecord db args.paymentId p) db
      rw [hevents]
      exact .of_eq rfl rfl
  | written written db' _ hwritten heffects =>
      obtain ⟨events, rfl⟩ := hwritten.shape
      rcases applyEffects_cases heffects with ⟨-, heffects⟩ | ⟨-, hrefunded⟩ | ⟨-, -, hsame⟩
      · have hcarried := heffects.termsCarried rfl
        exact ⟨hcarried.orders, hcarried.requests⟩
      · rw [hrefunded]
        exact TermsCarried.applyRefunded _ (.of_eq rfl rfl)
      · rw [hsame]
        exact .of_eq rfl rfl

theorem settlePaymentCore_feeTablesKept (hp : db.payments.findUnique args.paymentId = some p)
    (hparties : forall o order, db.orders.findUnique o = some order ->
      order.buyerId ≠ order.sellerId)
    (h : settlePaymentCore env args db = .ok db') :
    FeeTablesKept db db' := by
  have hcarried := settlePaymentCore_termsCarried hp h
  refine .of_settlement hcarried.orders hcarried.requests hparties ?_ ?_
  · have hcases := settlePaymentCore_payments env hp
    rw [h, commit_ok] at hcases
    rcases hcases with ⟨-, hpayments⟩ | ⟨-, hpayments⟩ | ⟨-, -, -, hpayments⟩
    · rw [hpayments]
      refine Table.rel_update (fun _ _ => ⟨rfl, Or.inl rfl⟩) fun q _ => ⟨rfl, ?_⟩
      unfold Payment.afterSettlement
      dsimp only
      split
      · exact Or.inr rfl
      · exact Or.inl rfl
    · rw [hpayments]
      exact .refl (fun _ _ => ⟨rfl, Or.inl rfl⟩) _
    · rw [hpayments]
      exact Table.rel_update (fun _ _ => ⟨rfl, Or.inl rfl⟩) fun q _ => ⟨rfl, Or.inl rfl⟩
  · rw [settlePaymentCore_obligations hp h]
    split
    · unfold settledObligations
      split
      · exact .refl (fun _ b => ⟨b.status, rfl⟩) _
      · exact Table.rel_update (fun _ b => ⟨b.status, rfl⟩) fun b _ => ⟨_, rfl⟩
    · exact .refl (fun _ b => ⟨b.status, rfl⟩) _

/-! ## Settlements -/

/-- No received fee is taken away, and none is received. -/
theorem settlePaymentCore_receiptsKept {requestId : Id}
    (hp : db.payments.findUnique args.paymentId = some p)
    (h : settlePaymentCore env args db = .ok db')
    (hkept : p.IsFeeOf requestId -> p.status = .paid -> settlesAway args db p = false)
    (hnew : p.IsFeeOf requestId -> p.status ≠ .paid -> settlementWrites args db p = true ->
      args.status ≠ .paid) :
    ReceiptsKept requestId db db' := by
  by_cases hwrites : settlementWrites args db p = true
  · have hpayments := settlePaymentCore_payments env hp
    rw [h, commit_ok, hwrites] at hpayments
    rcases hpayments with ⟨-, hpayments⟩ | ⟨hnot, -⟩ | ⟨hnot, -⟩
    · refine .update hpayments fun q hq => ⟨rfl, fun hfee => ?_⟩
      obtain rfl := Option.some.inj (hp.symm.trans hq)
      show args.status = .paid ↔ p.status = .paid
      by_cases hpaid : p.status = .paid
      · have haway := hkept hfee hpaid
        simp only [settlesAway, hpaid, hwrites, decide_true, Bool.true_and, Bool.or_eq_false_iff,
          decide_eq_false_iff_not, not_not] at haway
        exact iff_of_true haway.1 hpaid
      · exact iff_of_false (hnew hfee hpaid hwrites) hpaid
    · cases hnot
    · cases hnot
  · cases settlePaymentCore_exit hp h with
    | flagged reason hreason hcommits =>
        unfold flaggedDb
        dsimp only
        split
        · refine .update rfl fun q hq => ⟨rfl, fun hfee => ?_⟩
          obtain rfl := Option.some.inj (hp.symm.trans hq)
          refine iff_of_false (fun hpaid => by cases hpaid) fun hpaid => ?_
          have haway := hkept hfee hpaid
          simp [settlesAway, hpaid, hreason, hcommits] at haway
        · exact .of_eq (withIssue_payments _ _ _)
    | replayed =>
        exact .of_eq rfl
    | ignored =>
        obtain ⟨events, hevents⟩ := withEvent_frame args (paymentRecord db args.paymentId p) db
        rw [hevents]
        exact .of_eq rfl
    | written written db' hwrites' =>
        exact absurd hwrites' hwrites

/-- An obligation of the request is not written, or has its status already. -/
theorem settlePaymentCore_feeRowsKept {requestId : Id}
    (hp : db.payments.findUnique args.paymentId = some p)
    (h : settlePaymentCore env args db = .ok db')
    (hkept : settlementWrites args db p = true -> forall o b status, p.obligationId = some o ->
      db.obligations.findUnique o = some b -> isFeeRow requestId b = true ->
        obligationStatusFor args.status = some status -> b.status = status) :
    FeeRowsKept requestId db db' := by
  intro k c hrow
  rw [settlePaymentCore_obligations hp h]
  split
  · next hwrites =>
      cases ho : p.obligationId with
      | none =>
          unfold settledObligations
          rw [ho]
      | some o =>
          rw [settledObligations_eq ho]
          cases hstatus : obligationStatusFor args.status with
          | none => exact Iff.rfl
          | some status =>
              dsimp only
              have hsame : forall b, db.obligations.findUnique o = some b ->
                  isFeeRow requestId b = true -> ({ b with status := status }) = b := by
                intro b hb hmine
                rw [← hkept hwrites o b status ho hb hmine hstatus]
              by_cases hk : k = o
              · subst hk
                rw [Table.findUnique_update_self]
                constructor
                · intro hc
                  obtain ⟨b, hb, rfl⟩ := Option.map_eq_some_iff.1 hc
                  rw [hb, hsame b hb hrow]
                · intro hc
                  rw [hc, Option.map_some, hsame c hc hrow]
              · rw [Table.findUnique_update_ne hk]
  · exact Iff.rfl

end Effects

/-! ## Steps -/

section Steps

variable {s : InspectionDesk} {env : Env} {args : SettleArgs} {db' : Db} {p : Payment}

variable {orderId requestId : Id} {order : Order} {r : InspectionRequest}

theorem paysConfirmedFee_of {fee : ℚ} {db : Db}
    (h : ConfirmedFee db requestId orderId order r fee) (hfee : p.IsFeeOf requestId)
    : FeeStep.paysConfirmedFee db p = true := by
  unfold FeeStep.paysConfirmedFee
  rw [hfee.1, hfee.2, Option.any_some, isConfirmedFee_of h]
  rfl

theorem DeskSound.keptFee (hs : DeskSound s) {fee : ℚ}
    (h : ConfirmedFee s.db requestId orderId order r fee) (hindexed : ObligationsIndexed db')
    (hrows : FeeRowsKept requestId s.db db') (hreceipts : ReceiptsKept requestId s.db db') :
    FeeMatched db' requestId orderId order r fee ∧ (AllPaid s.db requestId -> AllPaid db' requestId) := by
  have hm := hs.matched requestId orderId order r fee h
  have hm' := hm.kept hindexed hrows hreceipts
  exact ⟨hm', (hm.allPaid_kept hm' hreceipts).2⟩

/-- A settlement of a payment of the confirmed fee itself. -/
theorem DeskSound.settlesShare (hs : DeskSound s) {fee : ℚ}
    (hconfirmed : ConfirmedFee s.db requestId orderId order r fee)
    (hp : s.db.payments.findUnique args.paymentId = some p) (hfee : p.IsFeeOf requestId)
    (hsettles : FeeStep.settlesShare args s.db p = true)
    (hok : settlePaymentCore env args s.db = .ok db') :
    FeeMatched db' requestId orderId order r fee ∧
      (AllPaid s.db requestId -> AllPaid db' requestId) := by
  have hindexed : ObligationsIndexed db' := settlePaymentCore_indexed hs.fees.linked.indexed hok
  have hm := hs.matched requestId orderId order r fee hconfirmed
  unfold FeeStep.settlesShare at hsettles
  by_cases hpaid : p.status = .paid
  · rw [if_pos hpaid, Bool.and_eq_true, Bool.not_eq_true'] at hsettles
    obtain ⟨haway, hall⟩ := hsettles
    refine hs.keptFee hconfirmed hindexed
      (settlePaymentCore_feeRowsKept hp hok fun hwrites o b status ho hb _ hstatus => ?_)
      (settlePaymentCore_receiptsKept hp hok (fun _ _ => haway) fun _ hnot => absurd hpaid hnot)
    have hsame : args.status = .paid := by
      simp only [settlesAway, hpaid, hwrites, decide_true, Bool.true_and, Bool.or_eq_false_iff,
        decide_eq_false_iff_not, not_not] at haway
      exact haway.1
    rw [ho, related_some, hb] at hall
    rw [hsame] at hstatus
    obtain rfl := Option.some.inj hstatus
    exact of_decide_eq_true hall
  · rw [if_neg hpaid, Bool.or_eq_true, Bool.not_eq_true'] at hsettles
    by_cases hreceives : settlementWrites args s.db p = true ∧ args.status = .paid
    · obtain ⟨hwrites, hstatus⟩ := hreceives
      rw [hwrites, hstatus] at hsettles
      obtain hnot | hshare := hsettles
      · cases hnot
      · cases ho : p.obligationId with
        | none =>
            simp [FeeStep.receivesShare, ho] at hshare
        | some o =>
            cases hb : s.db.obligations.findUnique o with
            | none =>
                simp [FeeStep.receivesShare, ho, hb] at hshare
            | some b =>
                simp only [FeeStep.receivesShare, ho, related_some, hb, Option.any_some,
                  Bool.and_eq_true, decide_eq_true_eq] at hshare
                obtain ⟨⟨⟨⟨hopen, htype⟩, hrequest⟩, hcreator⟩, hamount⟩ := hshare
                have hrow : isFeeRow requestId b = true :=
                  isFeeRow_iff.2 ⟨htype, hrequest.trans hfee.2⟩
                have hpayments := settlePaymentCore_payments env hp
                rw [hok, commit_ok, hwrites] at hpayments
                have hobligations := settlePaymentCore_obligations hp hok
                rw [if_pos hwrites, settledObligations_eq ho, hstatus] at hobligations
                rcases hpayments with ⟨-, hpayments⟩ | ⟨hnot, -⟩ | ⟨hnot, -⟩
                · refine ⟨hm.receive (hs.fees.parties _ _ hconfirmed.order) hp hfee rfl hstatus hb
                    hrow hopen hcreator hamount hpayments hobligations, fun hall => ?_⟩
                  rw [hall o b hb hrow] at hopen
                  cases hopen
                · cases hnot
                · cases hnot
    · refine hs.keptFee hconfirmed hindexed
        (settlePaymentCore_feeRowsKept hp hok fun hwrites o b status ho hb hrow hstatus => ?_)
        (settlePaymentCore_receiptsKept hp hok (fun _ hpaid' => absurd hpaid' hpaid)
          fun _ _ hwrites hstatus => hreceives ⟨hwrites, hstatus⟩)
      rw [hwrites] at hsettles
      obtain hnot | hstays := hsettles
      · cases hnot
      · cases hargs : args.status with
        | paid => exact absurd ⟨hwrites, hargs⟩ hreceives
        | failed =>
            rw [hargs] at hstatus hstays
            obtain rfl := Option.some.inj hstatus
            rw [ho, related_some, hb] at hstays
            have hunpaid : b.status ≠ .paid := of_decide_eq_true hstays
            rcases hm.settled o b hb hrow with ⟨hs', -⟩ | ⟨hs', -⟩
            · exact absurd hs' hunpaid
            · exact hs'
        | refunded =>
            rw [hargs] at hstays
            simp [ho] at hstays
        | _ =>
            rw [hargs] at hstatus
            cases hstatus

theorem DeskSound.settlePaymentCore (hs : DeskSound s)
    (hmeets : FeeStep.meets s (env, .settlePaymentCore args) = true)
    (hok : settlePaymentCore env args s.db = .ok db') :
    DeskSound { s with db := db' } := by
  cases hp : s.db.payments.findUnique args.paymentId with
  | none =>
      simp [MarketBridge.settlePaymentCore, hp] at hok
  | some p =>
      refine hs.carried (settlePaymentCore_feeTablesKept hp hs.fees.parties hok) ?_
        fun _ _ _ _ _ _ h => h
      intro i o order r fee hconfirmed
      unfold FeeStep.meets at hmeets
      dsimp only at hmeets
      rw [hp, Option.all_some, Bool.or_eq_true, Bool.not_eq_true'] at hmeets
      by_cases hfee : p.IsFeeOf i
      · rw [paysConfirmedFee_of hconfirmed hfee] at hmeets
        obtain hnot | hsettles := hmeets
        · cases hnot
        · exact hs.settlesShare hconfirmed hp hfee hsettles hok
      · -- neither the payment nor its obligation is one of the request
        refine hs.keptFee hconfirmed (settlePaymentCore_indexed hs.fees.linked.indexed hok)
          (settlePaymentCore_feeRowsKept hp hok fun _ o b _ ho hb hrow _ => ?_)
          (settlePaymentCore_receiptsKept hp hok (fun h => absurd h hfee) fun h => absurd h hfee)
        exact absurd (hs.isFeeOf_of_link hp ho hb hrow) hfee

theorem DeskSound.movePayment (hs : DeskSound s) {paymentId : Id} {status : PaymentStatus}
    (hmeets : FeeStep.meets s (env, .movePayment paymentId status) = true)
    (hstatus : status ≠ .paid) :
    DeskSound { s with db := { s.db with
      payments := s.db.payments.update paymentId (·.withStatus status) } } := by
  refine hs.carried (.of_settlement (.refl (fun _ _ _ => rfl) _) (.refl (fun _ r => .refl r) _)
    hs.fees.parties ?_ (.refl (fun _ b => ⟨b.status, rfl⟩) _)) ?_ fun _ _ _ _ _ _ h => h
  · exact Table.rel_update (fun _ _ => ⟨rfl, Or.inl rfl⟩) fun p _ => ⟨rfl, Or.inl rfl⟩
  · intro i o order r fee hconfirmed
    refine hs.keptFee hconfirmed hs.fees.linked.indexed (fun _ _ _ => Iff.rfl) ?_
    refine .update rfl fun p hp => ⟨rfl, fun hfee => iff_of_false hstatus fun hpaid => ?_⟩
    unfold FeeStep.meets at hmeets
    simp [hp, paysConfirmedFee_of hconfirmed hfee, hpaid] at hmeets

end Steps

end MarketBridge
