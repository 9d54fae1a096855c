import MarketBridge.Order.CancellationRefunds
import MarketBridge.Payment.Agreement
import MarketBridge.Payment.ClosedOrders

/-!
# Runs that keep payments and obligations in agreement

Settlements, refunds and cancellations write payments and obligations in
separate places.  Each operation keeps them in agreement under a condition on
the state it starts from, and so does a run of operations that meet theirs.
-/

namespace MarketBridge

open Relational

/-! ## Payments that are given back -/

/-- A paid obligation whose own payment is refunded has no other payment than these. -/
def restsOn (taken : Id -> Payment -> Bool) (db : Db) : Bool :=
  db.obligations.any fun o b => b.status = .paid && isRefundedAt db o &&
    !(db.payments.any fun i p => p.status = .paid && p.serves b.purpose && !taken i p)

/-- The payment stays received unless it is taken, and is refunded only if it is given back. -/
structure Payment.Yields (taken : Id -> Payment -> Bool) (back : Id -> Prop) (i : Id)
    (p p' : Payment) : Prop where
  core : p'.core = p.core
  link : p'.obligationId = p.obligationId ∨ p'.obligationId = none
  received : p'.status = .paid -> p.status = .paid
  kept : p.status = .paid -> taken i p = false -> p'.status = .paid
  refunded : p'.status = .refunded -> p.status = .refunded ∨ back i

theorem Payment.Yields.refl (taken : Id -> Payment -> Bool) (back : Id -> Prop) (i : Id)
    (p : Payment) :
    p.Yields taken back i p :=
  ⟨rfl, Or.inl rfl, id, fun h _ => h, Or.inl⟩

theorem Payment.Yields.withStatus {taken : Id -> Payment -> Bool} {back : Id -> Prop} {i : Id}
    {p : Payment} {s : PaymentStatus} (hs : s ≠ .paid) (htaken : p.status = .paid -> taken i p = true)
    (hback : s = .refunded -> back i) :
    p.Yields taken back i (p.withStatus s) := by
  refine ⟨rfl, Or.inl rfl, fun h => absurd h hs, ?_, fun h => Or.inr (hback h)⟩
  intro hpaid hnot
  rw [htaken hpaid] at hnot
  cases hnot

section Yields

variable {taken : Id -> Payment -> Bool} {back : Id -> Prop} {db db' : Db}

def RowsKept (db db' : Db) : Prop :=
  forall o b, db'.obligations.findUnique o = some b -> b.status ≠ .cancelled ->
    db.obligations.findUnique o = some b

theorem RowsKept.of_eq (h : db'.obligations = db.obligations) : RowsKept db db' := by
  intro o b hb _
  rw [← h]
  exact hb

/--
Obligations and payments still agree if no paid obligation rests on the payments
that are taken, and none is left behind by those that are given back.
-/
theorem Agreement.yields (h : Agreement db) (hrest : restsOn taken db = false)
    (hpayments : db.payments.Rel (Payment.Yields taken back) db'.payments)
    (hrows : RowsKept db db')
    (hback : forall i p o b, db.payments.findUnique i = some p -> back i ->
      p.obligationId = some o -> db'.obligations.findUnique o = some b -> b.status = .paid ->
        exists j q, db.payments.findUnique j = some q ∧ q.status = .paid ∧
          q.serves b.purpose = true ∧ taken j q = false) :
    Agreement db' := by
  refine ⟨?_, ?_⟩
  · intro o b hb hopen
    by_contra hhas
    obtain ⟨i, p', hp', hpaid, hserves⟩ := hasPaidPayment_iff.1 (Bool.not_eq_false _ ▸ hhas)
    obtain ⟨p, hp, hyields⟩ := hpayments.of_right hp'
    have hbefore : hasPaidPayment db b.purpose = true :=
      hasPaidPayment_iff.2 ⟨i, p, hp, hyields.received hpaid,
        (Payment.serves_core hyields.core b.purpose).symm.trans hserves⟩
    rw [h.unpaid o b (hrows o b hb (by simp [hopen])) hopen] at hbefore
    cases hbefore
  · intro o b hb hsettled hrefunded
    have hold := hrows o b hb (by simp [hsettled])
    obtain ⟨i, p', hp', ho', hs'⟩ := isRefundedAt_iff.1 hrefunded
    obtain ⟨p, hp, hyields⟩ := hpayments.of_right hp'
    have ho : p.obligationId = some o := by
      rcases hyields.link with hsame | hnone
      · exact hsame.symm.trans ho'
      · rw [hnone] at ho'
        cases ho'
    have hanother : exists j q, db.payments.findUnique j = some q ∧ q.status = .paid ∧
        q.serves b.purpose = true ∧ taken j q = false := by
      rcases hyields.refunded hs' with hs | hgiven
      · have hbefore : isRefundedAt db o = true := isRefundedAt_iff.2 ⟨i, p, hp, ho, hs⟩
        have hany := Table.any_eq_false_iff.1 hrest o b hold
        simp only [hsettled, hbefore, decide_true, Bool.and_self, Bool.true_and,
          Bool.not_eq_false'] at hany
        obtain ⟨j, q, hq, hselected⟩ := Table.any_eq_true_iff.1 hany
        simp only [Bool.and_eq_true, decide_eq_true_eq, Bool.not_eq_true'] at hselected
        exact ⟨j, q, hq, hselected.1.1, hselected.1.2, hselected.2⟩
      · exact hback i p o b hp hgiven ho hb hsettled
    obtain ⟨j, q, hq, hpaid, hserves, hnot⟩ := hanother
    obtain ⟨q', hq', hyields'⟩ := hpayments.of_left hq
    exact hasPaidPayment_iff.2 ⟨j, q', hq', hyields'.kept hpaid hnot,
      (Payment.serves_core hyields'.core b.purpose).trans hserves⟩

theorem ObligationsLinked.of_links (h : ObligationsLinked db) (hindexed : ObligationsIndexed db')
    (hlinks : db.payments.Rel (fun _ p p' => p'.obligationId = p.obligationId ∨
      p'.obligationId = none) db'.payments)
    (hrows : forall o b, db.obligations.findUnique o = some b ->
      exists b', db'.obligations.findUnique o = some b') :
    ObligationsLinked db' := by
  have hbefore : forall i p' o, db'.payments.findUnique i = some p' -> p'.obligationId = some o ->
      exists p, db.payments.findUnique i = some p ∧ p.obligationId = some o := by
    intro i p' o hp' ho'
    obtain ⟨p, hp, hlink⟩ := hlinks.of_right hp'
    rcases hlink with hsame | hnone
    · exact ⟨p, hp, hsame.symm.trans ho'⟩
    · rw [hnone] at ho'
      cases ho'
  refine ⟨hindexed, ?_, ?_⟩
  · intro i j p' q' o hp' hq' hpo hqo
    obtain ⟨p, hp, hpo⟩ := hbefore i p' o hp' hpo
    obtain ⟨q, hq, hqo⟩ := hbefore j q' o hq' hqo
    exact h.unique i j p q o hp hq hpo hqo
  · intro i p' o hp' ho'
    obtain ⟨p, hp, ho⟩ := hbefore i p' o hp' ho'
    obtain ⟨b, hb⟩ := h.founded i p o hp ho
    exact hrows o b hb

theorem Agreement.restsOn_none (h : Agreement db) : restsOn (fun _ _ => false) db = false := by
  unfold restsOn
  rw [Table.any_eq_false_iff]
  intro o b hb
  by_cases hcase : b.status = .paid ∧ isRefundedAt db o = true
  · obtain ⟨hsettled, hrefunded⟩ := hcase
    have hhas := h.supported o b hb hsettled hrefunded
    unfold hasPaidPayment at hhas
    simp [hsettled, hrefunded, hhas]
  · rw [not_and, Bool.not_eq_true] at hcase
    by_cases hsettled : b.status = .paid
    · simp [hsettled, hcase hsettled]
    · simp [hsettled]

theorem Agreement.of_tables (h : Agreement db) (hpayments : db'.payments = db.payments)
    (hobligations : db'.obligations = db.obligations) :
    Agreement db' := by
  have hyields : db.payments.Rel (Payment.Yields (fun _ _ => false) fun _ => False)
      db'.payments := by
    rw [hpayments]
    exact .refl (Payment.Yields.refl _ _) _
  refine h.yields h.restsOn_none hyields (.of_eq hobligations) ?_
  intro i p o b _ hfalse
  exact hfalse.elim

theorem ObligationsLinked.of_tables (h : ObligationsLinked db)
    (hpayments : db'.payments = db.payments) (hobligations : db'.obligations = db.obligations) :
    ObligationsLinked db' := by
  refine ⟨?_, ?_, ?_⟩
  · unfold ObligationsIndexed
    rw [hobligations]
    exact h.indexed
  · rw [hpayments]
    exact h.unique
  · rw [hpayments, hobligations]
    exact h.founded

theorem ObligationsLinked.yields (h : ObligationsLinked db) (hindexed : ObligationsIndexed db')
    (hpayments : db.payments.Rel (Payment.Yields taken back) db'.payments)
    (hrows : forall o b, db.obligations.findUnique o = some b ->
      exists b', db'.obligations.findUnique o = some b') :
    ObligationsLinked db' :=
  h.of_links hindexed (hpayments.mono fun _ _ _ hyields => hyields.link) hrows

end Yields

/-! ## Operations -/

section Creation

variable {db : Db} {row : Payment}

theorem Agreement.create (h : Agreement db) (hpending : row.status = .pending) :
    Agreement { db with payments := db.payments.create row } := by
  have hrow : forall {s : PaymentStatus} {i p}, s ≠ .pending ->
      (db.payments.create row).findUnique i = some p -> p.status = s ->
        db.payments.findUnique i = some p := by
    intro s i p hs hp hps
    rcases Table.of_findUnique_create hp with ⟨-, rfl⟩ | ⟨-, hp⟩
    · exact absurd (hps.symm.trans hpending) hs
    · exact hp
  refine ⟨?_, ?_⟩
  · intro o b hb hopen
    by_contra hhas
    obtain ⟨i, p, hp, hpaid, hserves⟩ := hasPaidPayment_iff.1 (Bool.not_eq_false _ ▸ hhas)
    have hbefore := hasPaidPayment_iff.2 ⟨i, p, hrow (by decide) hp hpaid, hpaid, hserves⟩
    rw [h.unpaid o b hb hopen] at hbefore
    cases hbefore
  · intro o b hb hsettled hrefunded
    obtain ⟨i, p, hp, ho, hs⟩ := isRefundedAt_iff.1 hrefunded
    have hbefore := h.supported o b hb hsettled
      (isRefundedAt_iff.2 ⟨i, p, hrow (by decide) hp hs, ho, hs⟩)
    obtain ⟨j, q, hq, hpaid, hserves⟩ := hasPaidPayment_iff.1 hbefore
    refine hasPaidPayment_iff.2 ⟨j, q, ?_, hpaid, hserves⟩
    have hj : j ≠ db.payments.size := Nat.ne_of_lt (Table.lt_size_of_findUnique hq)
    simp only [Table.findUnique_create, if_neg hj]
    exact hq

theorem ObligationsLinked.create (h : ObligationsLinked db) (hrow : row.IsIntent db) :
    ObligationsLinked { db with payments := db.payments.create row } := by
  have hcases : forall i p o, (db.payments.create row).findUnique i = some p ->
      p.obligationId = some o -> i = db.payments.size ∧ p = row ∨
        db.payments.findUnique i = some p := by
    intro i p o hp _
    rw [Table.findUnique_create] at hp
    split at hp
    · next hi =>
        exact Or.inl ⟨hi, (Option.some.inj hp).symm⟩
    · exact Or.inr hp
  have hfree : forall i p o, db.payments.findUnique i = some p -> p.obligationId = some o ->
      row.obligationId ≠ some o := by
    intro i p o hp ho hrowo
    have hheld := Table.any_eq_false_iff.1 (hrow.free o hrowo).2 i p hp
    simp [ho] at hheld
  refine ⟨h.indexed, ?_, ?_⟩
  · intro i j p q o hp hq hpo hqo
    rcases hcases i p o hp hpo with ⟨hi, hnew⟩ | hold
    · rcases hcases j q o hq hqo with ⟨hj, -⟩ | hold'
      · rw [hi, hj]
      · exact absurd (hnew ▸ hpo) (hfree j q o hold' hqo)
    · rcases hcases j q o hq hqo with ⟨-, hnew⟩ | hold'
      · exact absurd (hnew ▸ hqo) (hfree i p o hold hpo)
      · exact h.unique i j p q o hold hold' hpo hqo
  · intro i p o hp ho
    rcases hcases i p o hp ho with ⟨-, hnew⟩ | hold
    · exact (hrow.free o (hnew ▸ ho)).1
    · exact h.founded i p o hold ho

end Creation

section Refunds

variable {env : Env} {db db' : Db}

def startsRefund (db : Db) (paymentId : Id) (amount : Option JsNumber) : Bool :=
  (db.payments.findUnique paymentId).any fun p =>
    p.status = .paid && (fullRefundAmount p amount).isSome &&
      (newestRefund db paymentId [.requested, .processing, .completed]).isNone

theorem requestRefund_yields {paymentId id : Id} {amount : Option JsNumber}
    {reason : Option String} {requestedById : Option Id}
    (h : requestRefund env paymentId amount reason requestedById db = .ok (db', id)) :
    db'.obligations = db.obligations ∧
      db.payments.Rel (Payment.Yields
        (fun i _ => i = paymentId && startsRefund db paymentId amount) fun _ => False)
        db'.payments := by
  obtain ⟨p, refundAmount, hp, hs, hamount, ⟨rfl, -⟩ | ⟨hnone, -, -, events, rfl⟩⟩ :=
    requestRefund_eq_ok h
  · exact ⟨rfl, .refl (Payment.Yields.refl _ _) _⟩
  · refine ⟨rfl, Table.rel_update (Payment.Yields.refl _ _) fun q hq => ?_⟩
    obtain rfl := Option.some.inj (hp.symm.trans hq)
    refine .withStatus (by decide) (fun hpaid => ?_) (fun h => by cases h)
    simp [startsRefund, hp, hpaid, hamount, hnone]

def completesRefund (db : Db) (refundId : Id) (providerStatus : Option String) : Bool :=
  providerStatus = some "refunded" && (db.refunds.findUnique refundId).any fun r =>
    r.status.isOpen && (db.payments.findUnique r.paymentId).any fun p =>
      (assertOrderCancelled "completion" p db).isOk && canTransition p.status .refunded

/-- The obligation of the refunded payment is paid, and no other payment of it is received. -/
def leavesPaid (db : Db) (refundId : Id) : Bool :=
  ((db.refunds.findUnique refundId).bind fun r => db.payments.findUnique r.paymentId).any fun p =>
    (related db.obligations p.obligationId).any fun b =>
      b.status = .paid && !hasPaidPayment db b.purpose

/-- The parent of the last installment is refunded, and its obligation cancelled with it. -/
theorem markParentOfInstallment_cases {payment : Payment}
    (h : markParentOfInstallment payment db = .ok db') :
    (db'.payments = db.payments ∧ db'.obligations = db.obligations) ∨
      exists i p, db.payments.findUnique i = some p ∧ p.status = .refundPending ∧
        db'.payments = db.payments.update i (·.withStatus .refunded) ∧
        db'.obligations = match p.obligationId with
          | none => db.obligations
          | some o => db.obligations.update o ({ · with status := .cancelled }) := by
  unfold markParentOfInstallment markParentRefundedIfComplete at h
  split at h
  · obtain rfl := Except.ok.inj h
    exact Or.inl ⟨rfl, rfl⟩
  · next i _ =>
      split at h
      · obtain rfl := Except.ok.inj h
        exact Or.inl ⟨rfl, rfl⟩
      · next p hp =>
          dsimp only at h
          split at h
          · next hcomplete =>
              rw [bind_eq_ok] at h
              obtain ⟨written, hwrite, h⟩ := h
              obtain ⟨-, -, -, rfl⟩ := updatePayment_eq_ok_iff.mp hwrite
              simp only [Bool.and_eq_true, decide_eq_true_eq] at hcomplete
              refine Or.inr ⟨i, p, hp, hcomplete.1.2, ?_⟩
              split at h
              · next hnone =>
                  obtain rfl := Except.ok.inj h
                  exact ⟨rfl, by simp only [hnone]⟩
              · next o ho =>
                  obtain rfl := Except.ok.inj h
                  exact ⟨rfl, by simp only [ho]⟩
          · obtain rfl := Except.ok.inj h
            exact Or.inl ⟨rfl, rfl⟩

theorem markParentOfInstallment_agreement {payment : Payment} (hlinked : ObligationsLinked db)
    (h : Agreement db) (hok : markParentOfInstallment payment db = .ok db') :
    ObligationsLinked db' ∧ Agreement db' := by
  rcases markParentOfInstallment_cases hok with ⟨hpayments, hobligations⟩ |
    ⟨k, p, hp, hs, hpayments, hobligations⟩
  · exact ⟨hlinked.of_tables hpayments hobligations, h.of_tables hpayments hobligations⟩
  · have hmoved : db.payments.Rel (Payment.Yields (fun _ _ => false) fun i => i = k)
        db'.payments := by
      rw [hpayments]
      refine Table.rel_update (Payment.Yields.refl _ _) fun q hq => ?_
      obtain rfl := Option.some.inj (hp.symm.trans hq)
      exact .withStatus (by decide) (fun hpaid => by rw [hs] at hpaid; cases hpaid) fun _ => rfl
    cases ho : p.obligationId with
    | none =>
        rw [ho] at hobligations
        refine ⟨hlinked.yields ?_ hmoved fun o b hb => ⟨b, hobligations ▸ hb⟩,
          h.yields h.restsOn_none hmoved (.of_eq hobligations) ?_⟩
        · unfold ObligationsIndexed
          rw [hobligations]
          exact hlinked.indexed
        · rintro i q o b hq rfl ho' - -
          obtain rfl := Option.some.inj (hp.symm.trans hq)
          rw [ho] at ho'
          cases ho'
    | some o =>
        simp only [ho] at hobligations
        have hrow : forall i b, db'.obligations.findUnique i = some b -> b.status ≠ .cancelled ->
            i ≠ o ∧ db.obligations.findUnique i = some b := by
          intro i b hb hkept
          rw [hobligations, Table.findUnique_update] at hb
          split at hb
          · obtain ⟨c, -, rfl⟩ := Option.map_eq_some_iff.1 hb
            exact absurd rfl hkept
          · next hi =>
              exact ⟨hi, hb⟩
        refine ⟨hlinked.yields ?_ hmoved ?_, h.yields h.restsOn_none hmoved
          (fun i b hb hkept => (hrow i b hb hkept).2) ?_⟩
        · unfold ObligationsIndexed
          rw [hobligations]
          exact hlinked.indexed.updateMany fun _ => rfl
        · intro i b hb
          rw [hobligations, Table.findUnique_update, hb]
          split <;> exact ⟨_, rfl⟩
        · rintro i q o' b hq rfl ho' hb hsettled
          obtain rfl := Option.some.inj (hp.symm.trans hq)
          obtain rfl := Option.some.inj (ho.symm.trans ho')
          exact absurd rfl (hrow o b hb (by simp [hsettled])).1

/-- A completed refund refunds its payment, and perhaps the parent of it. -/
theorem finalizeRefund_cases {refundId : Id} {providerStatus : Option String}
    (h : finalizeRefund env refundId providerStatus db = .ok db') :
    (db'.payments = db.payments ∧ db'.obligations = db.obligations) ∨
      completesRefund db refundId providerStatus = true ∧
        exists r p written marked, db.refunds.findUnique refundId = some r ∧
          db.payments.findUnique r.paymentId = some p ∧ p.status ≠ .paid ∧
          written.payments = db.payments.update r.paymentId (·.withStatus .refunded) ∧
          written.obligations = db.obligations ∧
          markParentOfInstallment p written = .ok marked ∧
          db'.payments = marked.payments ∧ db'.obligations = marked.obligations := by
  unfold finalizeRefund at h
  split at h
  · cases h
  · next r hr =>
      split at h
      · obtain rfl := Except.ok.inj h
        exact Or.inl ⟨rfl, rfl⟩
      · next hnew =>
          obtain ⟨hstatus, h⟩ := guard_eq_ok.mp h
          unfold completeRefund at h
          simp only [hr, if_neg hnew] at h
          obtain ⟨hopen, h⟩ := guard_eq_ok.mp h
          split at h
          · cases h
          · next p hp =>
              simp only [bind_eq_ok] at h
              obtain ⟨_, hcancelled, _, htransition, ⟨claimedDb, claimed⟩, hmove, h⟩ := h
              have hcan := assertTransition_eq_ok_iff.mp htransition
              have hclaimed : claimedDb.payments = db.payments ∧
                  claimedDb.obligations = db.obligations := by
                rcases moveRefund_cases hmove with ⟨-, rfl⟩ | ⟨-, r, -, -, -, rfl⟩
                · exact ⟨rfl, rfl⟩
                · exact ⟨rfl, rfl⟩
              dsimp only at h
              split at h
              · simp only [bind_eq_ok] at h
                obtain ⟨written, hwrite, marked, hmark, h⟩ := h
                obtain rfl := Except.ok.inj h
                obtain ⟨q, hq, -, rfl⟩ := updatePayment_eq_ok_iff.mp hwrite
                obtain ⟨events, hevents⟩ :=
                  recordOrderEvent_frame env p.orderId .paymentRefunded marked
                refine Or.inr ⟨?_, r, p, _, marked, hr, hp, ?_, ?_, ?_, hmark,
                  by rw [hevents], by rw [hevents]⟩
                · have hopen : r.status.isOpen = true := by simpa using hopen
                  have hstatus := not_not.1 hstatus
                  simp [completesRefund, hr, hp, hopen, hstatus, hcan,
                    isOk_of_eq_ok hcancelled]
                · rcases (canTransition_refunded_iff _).mp hcan with hs | hs <;> simp [hs]
                · simp only [hclaimed.1]
                · exact hclaimed.2
              · obtain rfl := Except.ok.inj h
                exact Or.inl hclaimed

theorem requestRefund_agreement {paymentId id : Id} {amount : Option JsNumber}
    {reason : Option String} {requestedById : Option Id} (hlinked : ObligationsLinked db)
    (h : Agreement db)
    (hrest : restsOn (fun i _ => i = paymentId && startsRefund db paymentId amount) db = false)
    (hok : requestRefund env paymentId amount reason requestedById db = .ok (db', id)) :
    ObligationsLinked db' ∧ Agreement db' := by
  obtain ⟨hobligations, hpayments⟩ := requestRefund_yields hok
  refine ⟨hlinked.yields ?_ hpayments ?_, ?_⟩
  · unfold ObligationsIndexed
    rw [hobligations]
    exact hlinked.indexed
  · intro o b hb
    exact ⟨b, hobligations ▸ hb⟩
  · refine h.yields hrest hpayments (.of_eq hobligations) ?_
    intro i p o b _ hfalse
    exact hfalse.elim

theorem finalizeRefund_agreement {refundId : Id} {providerStatus : Option String}
    (hlinked : ObligationsLinked db) (h : Agreement db)
    (hleaves : completesRefund db refundId providerStatus = true -> leavesPaid db refundId = false)
    (hok : finalizeRefund env refundId providerStatus db = .ok db') :
    ObligationsLinked db' ∧ Agreement db' := by
  rcases finalizeRefund_cases hok with ⟨hpayments, hobligations⟩ |
    ⟨hcompletes, r, p, written, marked, hr, hp, hs, hpayments, hobligations, hmark, hpayments',
      hobligations'⟩
  · exact ⟨hlinked.of_tables hpayments hobligations, h.of_tables hpayments hobligations⟩
  · have hwritten : db.payments.Rel
        (Payment.Yields (fun _ _ => false) fun i => i = r.paymentId) written.payments := by
      rw [hpayments]
      refine Table.rel_update (Payment.Yields.refl _ _) fun q hq => ?_
      obtain rfl := Option.some.inj (hp.symm.trans hq)
      exact .withStatus (by decide) (fun hpaid => absurd hpaid hs) fun _ => rfl
    have hlinkedWritten : ObligationsLinked written := by
      refine hlinked.yields ?_ hwritten fun o b hb => ⟨b, hobligations ▸ hb⟩
      unfold ObligationsIndexed
      rw [hobligations]
      exact hlinked.indexed
    have hagreed : Agreement written := by
      refine h.yields h.restsOn_none hwritten (.of_eq hobligations) ?_
      rintro i q o b hq rfl ho hb hsettled
      obtain rfl := Option.some.inj (hp.symm.trans hq)
      have hkept := hleaves hcompletes
      rw [hobligations] at hb
      unfold leavesPaid at hkept
      rw [hr, Option.bind_some, hp, Option.any_some, ho] at hkept
      simp only [related_some, hb, Option.any_some, hsettled, decide_true, Bool.true_and,
        Bool.not_eq_false'] at hkept
      obtain ⟨j, q, hq, hpaid, hserves⟩ := hasPaidPayment_iff.1 hkept
      exact ⟨j, q, hq, hpaid, hserves, rfl⟩
    obtain ⟨hlinkedMarked, hagreedMarked⟩ :=
      markParentOfInstallment_agreement hlinkedWritten hagreed hmark
    exact ⟨hlinkedMarked.of_tables hpayments' hobligations',
      hagreedMarked.of_tables hpayments' hobligations'⟩

end Refunds

section Cancellation

variable {env : Env} {order : OrderRecord} {actorId : Option Id} {reason : Option String}
  {role : CancelledByRole} {db db' : Db}

/-- A payment that the cancellation refunds, or the parent of a plan that it closes. -/
def isReclaimed (order : OrderRecord) (db : Db) (i : Id) (p : Payment) : Bool :=
  i ∈ cancellationRefunds order db || (p.orderId = some order.id && p.isInstallmentParent)

def passesChecks (order : OrderRecord) (role : CancelledByRole) (db : Db) : Bool :=
  (assertCancellable order role).isOk && canTransitionOrder order.status .cancelled &&
    (db.orders.findUnique order.id).any fun o => o.status = order.status

/-- A loop of requests only moves the payments of its list, to `REFUND_PENDING`. -/
theorem requestRefunds_payments {paymentIds : List Id}
    (h : requestRefunds env reason actorId paymentIds db = .ok db') (i : Id) :
    db'.payments.findUnique i = db.payments.findUnique i ∨
      i ∈ paymentIds ∧ exists p, db.payments.findUnique i = some p ∧
        db'.payments.findUnique i = some (p.withStatus .refundPending) := by
  unfold requestRefunds at h
  induction paymentIds generalizing db with
  | nil =>
      obtain rfl : db = db' := by simpa [pure, Except.pure] using h
      exact Or.inl rfl
  | cons k rest ih =>
      rw [List.foldlM_cons, bind_eq_ok] at h
      obtain ⟨t, hstep, hrest⟩ := h
      rw [bind_eq_ok] at hstep
      obtain ⟨⟨t', id⟩, hrequest, hok⟩ := hstep
      obtain rfl := Except.ok.inj hok
      have hone : t'.payments.findUnique i = db.payments.findUnique i ∨
          i = k ∧ exists p, db.payments.findUnique i = some p ∧
            t'.payments.findUnique i = some (p.withStatus .refundPending) := by
        obtain ⟨p, -, hp, -, -, ⟨rfl, -⟩ | ⟨-, -, -, events, rfl⟩⟩ := requestRefund_eq_ok hrequest
        · exact Or.inl rfl
        · by_cases hi : i = k
          · refine Or.inr ⟨hi, p, hi ▸ hp, ?_⟩
            simp [hi, hp]
          · exact Or.inl (Table.findUnique_update_ne hi)
      rcases ih hrest with hsame | ⟨hmem, p, hp, hp'⟩
      · rw [hsame]
        rcases hone with hsame | ⟨rfl, hmoved⟩
        · exact Or.inl hsame
        · exact Or.inr ⟨List.mem_cons_self, hmoved⟩
      · right
        rcases hone with hsame | ⟨rfl, q, hq, hq'⟩
        · exact ⟨List.mem_cons_of_mem k hmem, p, hsame ▸ hp, hp'⟩
        · refine ⟨List.mem_cons_self, q, hq, ?_⟩
          obtain rfl := Option.some.inj (hq'.symm.trans hp)
          exact hp'

theorem cancelOrder_yields (h : cancelOrderInTransaction env order actorId reason role db = .ok db') :
    db.payments.Rel (Payment.Yields (isReclaimed order db) fun _ => False) db'.payments := by
  obtain ⟨-, -, -, restored, refunded, hrestore, hrefunds, rfl⟩ :=
    cancelOrderInTransaction_eq_ok_iff.mp h
  have hrestored := restoreGoods_closedOrder_frame hrestore
  rw [cancellationRefunds_congr hrestored.payments hrestored.inspectionRequests] at hrefunds
  have hwinner : (releaseWinner env order refunded).payments = refunded.payments := by
    obtain ⟨offers, listings, -, hwinner⟩ := releaseWinner_frame env order refunded
    rw [hwinner]
  have hclosed : forall i, (servicesClosed env order restored).payments.findUnique i =
      (closeInstallmentPlans order.id db).payments.findUnique i := by
    intro i
    rw [servicesClosed_payments]
    unfold closeInstallmentPlans
    rw [hrestored.payments]
  rw [hwinner]
  intro i
  have hrequested := requestRefunds_payments hrefunds i
  rw [hclosed, closeInstallmentPlans_findUnique] at hrequested
  cases hp : db.payments.findUnique i with
  | none =>
      rw [hp] at hrequested
      rcases hrequested with hsame | ⟨-, q, hq, -⟩
      · rw [hsame]
        exact .none
      · cases hq
  | some p =>
      have hplan : p.Yields (isReclaimed order db) (fun _ => False) i
          (if p.orderId = some order.id ∧ p.status = .paid ∧ p.isInstallmentParent = true then
            p.withStatus .refundPending
          else if p.orderId = some order.id ∧ p.status = .pending ∧
              (p.isInstallmentParent = true ∨ p.type = .marketplaceInstallment) then
            p.withStatus .failed
          else
            p) := by
        split
        · next hparent =>
            refine .withStatus (by decide) (fun _ => ?_) (fun h => by cases h)
            simp [isReclaimed, hparent.1, hparent.2.2]
        · split
          · next hpending =>
              refine .withStatus (by decide) (fun hpaid => ?_) (fun h => by cases h)
              rw [hpending.2.1] at hpaid
              cases hpaid
          · exact .refl _ _ i p
      rw [hp, Option.map_some] at hrequested
      rcases hrequested with hsame | ⟨hmem, q, hq, hq'⟩
      · rw [hsame]
        exact .some hplan
      · rw [hq']
        obtain rfl := Option.some.inj hq
        refine .some ⟨hplan.core, hplan.link, ?_, ?_, ?_⟩
        · intro hpaid
          cases hpaid
        · intro _ hnot
          simp [isReclaimed, hmem] at hnot
        · intro hrefunded
          cases hrefunded

theorem cancelOrder_agreement (hlinked : ObligationsLinked db) (h : Agreement db)
    (hrest : restsOn (isReclaimed order db) db = false)
    (hok : cancelOrderInTransaction env order actorId reason role db = .ok db') :
    ObligationsLinked db' ∧ Agreement db' := by
  have hpayments := cancelOrder_yields hok
  have hobligations := (cancelOrderInTransaction_released hok).obligations
  refine ⟨hlinked.yields (cancelOrder_indexed hlinked.indexed hok) hpayments ?_,
    h.yields hrest hpayments ?_ fun _ _ _ _ _ hfalse => hfalse.elim⟩
  · intro o b hb
    rw [hobligations, Table.findUnique_updateMany, hb]
    exact ⟨_, rfl⟩
  · intro o b hb hkept
    rw [hobligations, Table.findUnique_updateMany] at hb
    obtain ⟨c, hc, rfl⟩ := Option.map_eq_some_iff.1 hb
    split at hkept
    · exact absurd rfl hkept
    · next hnot =>
        rw [if_neg hnot]
        exact hc

theorem cancelOrder_passesChecks
    (h : cancelOrderInTransaction env order actorId reason role db = .ok db') :
    passesChecks order role db = true := by
  obtain ⟨hassert, hcan, ⟨o, ho, hstatus⟩, -⟩ := cancelOrderInTransaction_eq_ok_iff.mp h
  simp [passesChecks, isOk_of_eq_ok hassert, hcan, ho, hstatus]

end Cancellation

section Settlement

variable {env : Env} {args : SettleArgs} {db db' : Db} {p : Payment} {o : Id}

/-- The received payment has the purpose of an open obligation that it is not linked to. -/
def leavesOpen (args : SettleArgs) (db : Db) (p : Payment) : Bool :=
  args.status = .paid && db.obligations.any fun o b =>
    b.status = .open && p.serves b.purpose && p.obligationId ≠ some o

def reopensPaid (args : SettleArgs) (db : Db) (p : Payment) : Bool :=
  args.status = .failed &&
    (related db.obligations p.obligationId).any fun b => hasPaidPayment db b.purpose

/-- The notification takes the status `PAID` from its payment. -/
def settlesAway (args : SettleArgs) (db : Db) (p : Payment) : Bool :=
  p.status = .paid && (settlementWrites args db p && args.status ≠ .paid ||
    (mismatchReason p args).isSome && flagCommits args db p)

def settlementParts (args : SettleArgs) (db : Db) : Bool :=
  (db.payments.findUnique args.paymentId).any fun p =>
    settlementWrites args db p && (leavesOpen args db p || reopensPaid args db p) ||
      settlesAway args db p && restsOn (fun i _ => i = args.paymentId) db

theorem Agreement.setStatus (h : Agreement db) {s : PaymentObligationStatus}
    (hopen : s = .open -> forall b, db.obligations.findUnique o = some b ->
      hasPaidPayment db b.purpose = false)
    (hpaid : s = .paid -> isRefundedAt db o = false) :
    Agreement { db with obligations := db.obligations.update o ({ · with status := s }) } := by
  have hcases : forall i b, (db.obligations.update o ({ · with status := s })).findUnique i = some b ->
      db.obligations.findUnique i = some b ∨ i = o ∧ b.status = s ∧
        exists c, db.obligations.findUnique o = some c ∧ b.purpose = c.purpose := by
    intro i b hb
    rw [Table.findUnique_update] at hb
    split at hb
    · next hi =>
        obtain ⟨c, hc, rfl⟩ := Option.map_eq_some_iff.1 hb
        exact Or.inr ⟨hi, rfl, c, hi ▸ hc, rfl⟩
    · exact Or.inl hb
  refine ⟨?_, ?_⟩
  · intro i b hb hb_open
    rcases hcases i b hb with hold | ⟨-, hs, c, hc, hpurpose⟩
    · exact h.unpaid i b hold hb_open
    · rw [hpurpose]
      exact hopen (hs.symm.trans hb_open) c hc
  · intro i b hb hb_paid hrefunded
    rcases hcases i b hb with hold | ⟨rfl, hs, -⟩
    · exact h.supported i b hold hb_paid hrefunded
    · have hnot : isRefundedAt db i = false := hpaid (hs.symm.trans hb_paid)
      exact absurd hrefunded (by
        rw [Bool.not_eq_true]
        exact hnot)

theorem Agreement.receive (h : Agreement db) {k : Id} {f : Payment -> Payment}
    (hp : db.payments.findUnique k = some p) (hcore : (f p).core = p.core)
    (hstatus : (f p).status = .paid)
    (hopen : forall i b, db.obligations.findUnique i = some b -> b.status = .open ->
      p.serves b.purpose = false) :
    Agreement { db with payments := db.payments.update k f } := by
  have hcases : forall i q, (db.payments.update k f).findUnique i = some q ->
      i = k ∧ q = f p ∨ db.payments.findUnique i = some q := by
    intro i q hq
    rw [Table.findUnique_update] at hq
    split at hq
    · next hi =>
        rw [hi, hp] at hq
        exact Or.inl ⟨hi, (Option.some.inj hq).symm⟩
    · exact Or.inr hq
  refine ⟨?_, ?_⟩
  · intro i b hb hb_open
    by_contra hhas
    obtain ⟨j, q, hq, hpaid, hserves⟩ := hasPaidPayment_iff.1 (Bool.not_eq_false _ ▸ hhas)
    rcases hcases j q hq with ⟨-, rfl⟩ | hold
    · rw [Payment.serves_core hcore, hopen i b hb hb_open] at hserves
      cases hserves
    · have hbefore := hasPaidPayment_iff.2 ⟨j, q, hold, hpaid, hserves⟩
      rw [h.unpaid i b hb hb_open] at hbefore
      cases hbefore
  · intro i b hb hb_paid hrefunded
    obtain ⟨j, q, hq, hqo, hqs⟩ := isRefundedAt_iff.1 hrefunded
    rcases hcases j q hq with ⟨-, rfl⟩ | hold
    · rw [hstatus] at hqs
      cases hqs
    · have hbefore := h.supported i b hb hb_paid (isRefundedAt_iff.2 ⟨j, q, hold, hqo, hqs⟩)
      obtain ⟨m, r, hr, hrs, hserves⟩ := hasPaidPayment_iff.1 hbefore
      by_cases hm : m = k
      · subst hm
        obtain rfl := Option.some.inj (hp.symm.trans hr)
        refine hasPaidPayment_iff.2 ⟨m, f p, ?_, hstatus, ?_⟩
        · simp only [Table.findUnique_update_self, hp, Option.map_some]
        · rw [Payment.serves_core hcore]
          exact hserves
      · exact hasPaidPayment_iff.2 ⟨m, r, (Table.findUnique_update_ne hm).trans hr, hrs, hserves⟩

theorem settledObligations_eq (ho : p.obligationId = some o) :
    settledObligations args p db =
      match obligationStatusFor args.status with
      | none => db.obligations
      | some s => db.obligations.update o ({ · with status := s }) := by
  unfold settledObligations
  simp only [ho]
  cases obligationStatusFor args.status with
  | none =>
      dsimp only
      rw [Table.update, Table.updateMany_eq_self_iff]
      intro _ _ _ _
      rfl
  | some s =>
      rfl

theorem Agreement.settledObligations (h : Agreement db) (hlinked : ObligationsLinked db)
    (hp : db.payments.findUnique args.paymentId = some p)
    (hwrites : settlementWrites args db p = true) (hreopens : reopensPaid args db p = false) :
    Agreement { db with obligations := MarketBridge.settledObligations args p db } := by
  cases ho : p.obligationId with
  | none =>
      unfold MarketBridge.settledObligations
      rw [ho]
      exact h
  | some o =>
      rw [settledObligations_eq ho]
      cases hs : args.status with
      | failed =>
          refine h.setStatus (fun _ b hb => ?_) (fun hne => by cases hne)
          simpa [reopensPaid, hs, ho, hb] using hreopens
      | paid =>
          refine h.setStatus (fun hne => by cases hne) (fun _ => ?_)
          by_contra hrefunded
          obtain ⟨i, q, hq, hqo, hqs⟩ := isRefundedAt_iff.1 (Bool.not_eq_false _ ▸ hrefunded)
          obtain rfl := hlinked.unique i args.paymentId q p o hq hp hqo ho
          obtain rfl := Option.some.inj (hp.symm.trans hq)
          -- A notification of a received payment is ignored once the payment is refunded.
          simp [settlementWrites, ignoresNotification, hqs, hs] at hwrites
      | refunded =>
          exact h.setStatus (fun hne => by cases hne) (fun hne => by cases hne)
      | _ =>
          exact h

theorem settledObligations_paid {b : PaymentObligation}
    (hb : (settledObligations args p db).findUnique o = some b) (hpaid : b.status = .paid) :
    db.obligations.findUnique o = some b ∨ args.status = .paid ∧ p.obligationId = some o := by
  unfold settledObligations at hb
  split at hb
  · exact Or.inl hb
  · next k hk =>
      rw [Table.findUnique_update] at hb
      split at hb
      · next hi =>
          obtain ⟨c, hc, rfl⟩ := Option.map_eq_some_iff.1 hb
          cases hs : args.status with
          | paid =>
              exact Or.inr ⟨rfl, by rw [hk, hi]⟩
          | failed =>
              simp [hs, obligationStatusFor] at hpaid
          | refunded =>
              simp [hs, obligationStatusFor] at hpaid
          | _ =>
              left
              simpa [obligationStatusFor, hi] using hc
      · exact Or.inl hb

theorem settlePaymentCore_linked (h : ObligationsLinked db)
    (hok : settlePaymentCore env args db = .ok db') :
    ObligationsLinked db' := by
  cases hp : db.payments.findUnique args.paymentId with
  | none =>
      simp [settlePaymentCore, hp] at hok
  | some p =>
      have hobligations := settlePaymentCore_obligations hp hok
      refine h.of_links (settlePaymentCore_indexed h.indexed hok) ?_ ?_
      · have hpayments := settlePaymentCore_payments env hp
        rw [hok, commit_ok] at hpayments
        rcases hpayments with ⟨-, hpayments⟩ | ⟨-, hpayments⟩ | ⟨-, -, -, hpayments⟩
        · rw [hpayments]
          refine Table.rel_update (fun _ _ => Or.inl rfl) fun q _ => ?_
          unfold Payment.afterSettlement
          dsimp only
          split
          · exact Or.inr rfl
          · exact Or.inl rfl
        · rw [hpayments]
          refine Table.Rel.refl ?_ _
          intro _ _
          exact Or.inl rfl
        · rw [hpayments]
          exact Table.rel_update (fun _ _ => Or.inl rfl) fun q _ => Or.inl rfl
      · intro o b hb
        rw [hobligations]
        unfold settledObligations
        split
        · split
          · exact ⟨b, hb⟩
          · rw [Table.findUnique_update, hb]
            split <;> exact ⟨_, rfl⟩
        · exact ⟨b, hb⟩

theorem settled_yields (hp : db.payments.findUnique args.paymentId = some p)
    (hwrites : settlementWrites args db p = true) (hstatus : args.status ≠ .paid) :
    db.payments.Rel
      (Payment.Yields (fun i _ => i = args.paymentId && settlesAway args db p)
        fun i => i = args.paymentId ∧ args.status = .refunded)
      (db.payments.update args.paymentId (·.afterSettlement args)) := by
  refine Table.rel_update (Payment.Yields.refl _ _) fun q hq => ?_
  obtain rfl := Option.some.inj (hp.symm.trans hq)
  refine ⟨rfl, ?_, ?_, ?_, ?_⟩
  · unfold Payment.afterSettlement
    dsimp only
    split
    · exact Or.inr rfl
    · exact Or.inl rfl
  · intro hreceived
    exact absurd hreceived hstatus
  · intro hpaid hnot
    simp [settlesAway, hpaid, hwrites, hstatus] at hnot
  · intro hrefunded
    exact Or.inr ⟨rfl, hrefunded⟩

theorem flagged_yields {reason : ReconciliationReason}
    (hp : db.payments.findUnique args.paymentId = some p)
    (hreason : mismatchReason p args = some reason) (hcommits : flagCommits args db p = true) :
    db.payments.Rel
      (Payment.Yields (fun i _ => i = args.paymentId && settlesAway args db p) fun _ => False)
      (flaggedDb env args db p reason).payments := by
  unfold flaggedDb
  dsimp only
  split
  · refine Table.rel_update (Payment.Yields.refl _ _) fun q hq => ?_
    obtain rfl := Option.some.inj (hp.symm.trans hq)
    refine ⟨rfl, Or.inl rfl, ?_, ?_, ?_⟩
    · intro hreceived
      cases hreceived
    · intro hpaid hnot
      simp [settlesAway, hpaid, hreason, hcommits] at hnot
    · intro hrefunded
      cases hrefunded
  · rw [withIssue_payments]
    exact .refl (Payment.Yields.refl _ _) _

theorem restsOn_settled (h : Agreement db) {away : Bool}
    (haway : (away && restsOn (fun i _ => i = args.paymentId) db) = false) :
    restsOn (fun i _ => i = args.paymentId && away) db = false := by
  cases away with
  | false =>
      simp only [Bool.and_false]
      exact h.restsOn_none
  | true =>
      simp only [Bool.and_true]
      exact haway

theorem settlePaymentCore_written_agreement (hlinked : ObligationsLinked db) (h : Agreement db)
    (hp : db.payments.findUnique args.paymentId = some p)
    (hwrites : settlementWrites args db p = true) (hleaves : leavesOpen args db p = false)
    (hreopens : reopensPaid args db p = false)
    (haway : (settlesAway args db p && restsOn (fun i _ => i = args.paymentId) db) = false) :
    Agreement { db with
      obligations := settledObligations args p db
      payments := db.payments.update args.paymentId (·.afterSettlement args) } := by
  have hfirst := h.settledObligations hlinked hp hwrites hreopens
  by_cases hreceived : args.status = .paid
  · refine hfirst.receive (f := (·.afterSettlement args)) hp rfl hreceived ?_
    intro i b hb hopen
    by_contra hserves
    by_cases hi : p.obligationId = some i
    · simp only [settledObligations_eq hi, hreceived, obligationStatusFor,
        Table.findUnique_update_self] at hb
      obtain ⟨c, -, rfl⟩ := Option.map_eq_some_iff.1 hb
      cases hopen
    · have hold : db.obligations.findUnique i = some b := by
        cases ho : p.obligationId with
        | none =>
            simpa only [settledObligations, ho] using hb
        | some o =>
            have hne : i ≠ o := by
              rintro rfl
              exact hi ho
            simp only [settledObligations, ho, Table.findUnique_update_ne hne] at hb
            exact hb
      have hany : (db.obligations.any fun o b => b.status = .open && p.serves b.purpose &&
          p.obligationId ≠ some o) = true :=
        Table.any_eq_true_iff.2 ⟨i, b, hold, by simp [hopen, hi, Bool.not_eq_false _ ▸ hserves]⟩
      unfold leavesOpen at hleaves
      rw [hany, hreceived] at hleaves
      cases hleaves
  · have hkept : forall {o b}, (settledObligations args p db).findUnique o = some b ->
        b.status = .paid -> db.obligations.findUnique o = some b := by
      intro o b hb hpaid
      rcases settledObligations_paid hb hpaid with hold | ⟨hpaid', -⟩
      · exact hold
      · exact absurd hpaid' hreceived
    have hrest : restsOn (fun i _ => i = args.paymentId && settlesAway args db p)
        { db with obligations := settledObligations args p db } = false := by
      have hbefore := restsOn_settled h haway
      unfold restsOn at hbefore ⊢
      rw [Table.any_eq_false_iff] at hbefore ⊢
      intro o b hb
      by_cases hpaid : b.status = .paid
      · exact hbefore o b (hkept hb hpaid)
      · simp [hpaid]
    refine hfirst.yields hrest (settled_yields hp hwrites hreceived) (.of_eq rfl) ?_
    rintro i q o b hq ⟨rfl, hrefunded⟩ ho hb hpaid
    obtain rfl := Option.some.inj (hp.symm.trans hq)
    simp only [settledObligations_eq ho, hrefunded, obligationStatusFor,
      Table.findUnique_update_self] at hb
    obtain ⟨c, -, rfl⟩ := Option.map_eq_some_iff.1 hb
    cases hpaid

theorem settlePaymentCore_agreement (hlinked : ObligationsLinked db) (h : Agreement db)
    (hparts : settlementParts args db = false) (hok : settlePaymentCore env args db = .ok db') :
    Agreement db' := by
  cases hp : db.payments.findUnique args.paymentId with
  | none =>
      simp [settlePaymentCore, hp] at hok
  | some p =>
      have hobligations := settlePaymentCore_obligations hp hok
      unfold settlementParts at hparts
      rw [hp, Option.any_some, Bool.or_eq_false_iff] at hparts
      obtain ⟨hwritten, haway⟩ := hparts
      by_cases hwrites : settlementWrites args db p = true
      · rw [if_pos hwrites] at hobligations
        rw [hwrites, Bool.true_and, Bool.or_eq_false_iff] at hwritten
        have hpayments : db'.payments =
            db.payments.update args.paymentId (·.afterSettlement args) := by
          have hcases := settlePaymentCore_payments env hp
          rw [hok, commit_ok, hwrites] at hcases
          rcases hcases with ⟨-, hpayments⟩ | ⟨hnot, -⟩ | ⟨hnot, -⟩
          · exact hpayments
          · cases hnot
          · cases hnot
        exact (settlePaymentCore_written_agreement hlinked h hp hwrites hwritten.1 hwritten.2
          haway).of_tables hpayments hobligations
      · rw [if_neg hwrites] at hobligations
        cases settlePaymentCore_exit hp hok with
        | flagged reason hreason hcommits =>
            exact h.yields (restsOn_settled h haway) (flagged_yields hp hreason hcommits)
              (.of_eq hobligations) fun _ _ _ _ _ hfalse => hfalse.elim
        | replayed =>
            exact h
        | ignored =>
            obtain ⟨events, hevents⟩ := withEvent_frame args (paymentRecord db args.paymentId p) db
            exact h.of_tables (by rw [hevents]) hobligations
        | written written db' hwrites' =>
            exact absurd hwrites' hwrites

end Settlement

/-! ## Runs -/

inductive AgreementStep where
  | syncOrderPaymentObligations (orderId : Id)
  | createPayment (data : CreatePaymentData)
  | settlePaymentCore (args : SettleArgs)
  | requestRefund (paymentId : Id) (amount : Option JsNumber) (reason : Option String)
      (requestedById : Option Id)
  | finalizeRefund (refundId : Id) (providerStatus : Option String)
  | cancelOrder (order : OrderRecord) (actorId : Option Id) (reason : Option String)
      (role : CancelledByRole)
  /-- Something else writes the other tables, such as a transport status change. -/
  | elsewhere (other : Db)

namespace AgreementStep

def afterCall {α : Type} (db : Db) (r : Except ApiError (Db × α)) : Db :=
  match r with
  | .ok (db', _) => db'
  | .error _ => db

def step (db : Db) (a : Env × AgreementStep) : Db :=
  match a.2 with
  | syncOrderPaymentObligations orderId => MarketBridge.syncOrderPaymentObligations orderId db
  | createPayment data => afterCall db (MarketBridge.createPayment a.1 data db)
  | settlePaymentCore args => commit (MarketBridge.settlePaymentCore a.1 args db) db
  | requestRefund paymentId amount reason requestedById =>
      afterCall db (MarketBridge.requestRefund a.1 paymentId amount reason requestedById db)
  | finalizeRefund refundId providerStatus =>
      commit (MarketBridge.finalizeRefund a.1 refundId providerStatus db) db
  | cancelOrder order actorId reason role =>
      commit (cancelOrderInTransaction a.1 order actorId reason role db) db
  | elsewhere other => { other with payments := db.payments, obligations := db.obligations }

/-- The search of a synchronisation neither misses a received payment nor takes another one. -/
def syncMeets (db : Db) (orderId : Id) : Bool :=
  !overlooks db orderId && !misattributes db orderId

/-- The state is not one in which the step separates an obligation from its payments. -/
def meets (db : Db) (a : Env × AgreementStep) : Bool :=
  match a.2 with
  | syncOrderPaymentObligations orderId => syncMeets db orderId
  | createPayment data => !isAccepted a.1 data db || data.orderId.all (syncMeets db)
  | settlePaymentCore args => !settlementParts args db
  | requestRefund paymentId amount _ _ =>
      !restsOn (fun i _ => i = paymentId && startsRefund db paymentId amount) db
  | finalizeRefund refundId providerStatus =>
      !(completesRefund db refundId providerStatus && leavesPaid db refundId)
  | cancelOrder order _ _ role =>
      !(passesChecks order role db && restsOn (isReclaimed order db) db)
  | elsewhere _ => true

end AgreementStep

section Steps

variable {db : Db}

theorem syncMeets_agreement {orderId : Id} (hlinked : ObligationsLinked db) (h : Agreement db)
    (hmeets : AgreementStep.syncMeets db orderId = true) :
    Agreement (syncOrderPaymentObligations orderId db) := by
  unfold AgreementStep.syncMeets at hmeets
  simp only [Bool.and_eq_true, Bool.not_eq_true'] at hmeets
  exact sync_agreement hlinked h hmeets.1 hmeets.2

theorem createPayment_agreement {env : Env} {data : CreatePaymentData} {db' : Db} {id : Id}
    (hlinked : ObligationsLinked db) (h : Agreement db)
    (hmeets : isAccepted env data db = true ->
      data.orderId.all (AgreementStep.syncMeets db) = true)
    (hok : createPayment env data db = .ok (db', id)) :
    ObligationsLinked db' ∧ Agreement db' := by
  have hcases := createPayment_eq_ok hok
  split at hcases
  · next haccepted =>
      obtain ⟨row, hrow, rfl⟩ := hcases
      have hmeets := hmeets haccepted
      have hsynced : ObligationsLinked (syncedFor data db) ∧ Agreement (syncedFor data db) := by
        unfold syncedFor
        cases horder : data.orderId with
        | none =>
            exact ⟨hlinked, h⟩
        | some orderId =>
            rw [horder, Option.all_some] at hmeets
            exact ⟨sync_linked hlinked, syncMeets_agreement hlinked h hmeets⟩
      exact ⟨hsynced.1.create hrow, hsynced.2.create hrow.pending⟩
  · rw [hcases]
    exact ⟨hlinked, h⟩

theorem AgreementStep.step_agreement (a : Env × AgreementStep) (hlinked : ObligationsLinked db)
    (h : Agreement db) (hmeets : meets db a = true) :
    ObligationsLinked (step db a) ∧ Agreement (step db a) := by
  obtain ⟨env, a⟩ := a
  cases a with
  | syncOrderPaymentObligations orderId =>
      exact ⟨sync_linked hlinked, syncMeets_agreement hlinked h hmeets⟩
  | createPayment data =>
      simp only [step, afterCall]
      split
      · next hok =>
          refine createPayment_agreement hlinked h (fun haccepted => ?_) hok
          simpa [meets, haccepted] using hmeets
      · exact ⟨hlinked, h⟩
  | settlePaymentCore args =>
      refine commit_preserves (P := fun s => ObligationsLinked s ∧ Agreement s) ⟨hlinked, h⟩ ?_
      intro db' hok
      exact ⟨settlePaymentCore_linked hlinked hok,
        settlePaymentCore_agreement hlinked h (by simpa [meets] using hmeets) hok⟩
  | requestRefund paymentId amount reason requestedById =>
      simp only [step, afterCall]
      split
      · next hok =>
          exact requestRefund_agreement hlinked h (by simpa only [meets, Bool.not_eq_true'] using hmeets)
            hok
      · exact ⟨hlinked, h⟩
  | finalizeRefund refundId providerStatus =>
      refine commit_preserves (P := fun s => ObligationsLinked s ∧ Agreement s) ⟨hlinked, h⟩ ?_
      intro db' hok
      refine finalizeRefund_agreement hlinked h (fun hcompletes => ?_) hok
      simpa [meets, hcompletes] using hmeets
  | cancelOrder order actorId reason role =>
      refine commit_preserves (P := fun s => ObligationsLinked s ∧ Agreement s) ⟨hlinked, h⟩ ?_
      intro db' hok
      refine cancelOrder_agreement hlinked h ?_ hok
      simpa [meets, cancelOrder_passesChecks hok] using hmeets
  | elsewhere other =>
      exact ⟨hlinked.of_tables rfl rfl, h.of_tables rfl rfl⟩

/--
Obligations and payments that agree still do so after a run, whatever its
operations and their order are, if every step of it meets its condition.
-/
theorem agreement_of_run {start : Db} {steps : List (Env × AgreementStep)}
    (hlinked : ObligationsLinked start) (hagree : Agreement start)
    (hmeets : RunMeets AgreementStep.step (fun db a => AgreementStep.meets db a = true) start
      steps) :
    Agreement (run AgreementStep.step start steps) := by
  have hstep : forall (s : Db) (a : Env × AgreementStep), ObligationsLinked s ∧ Agreement s ->
      AgreementStep.meets s a = true ->
        ObligationsLinked (AgreementStep.step s a) ∧ Agreement (AgreementStep.step s a) := by
    rintro s a ⟨hs, hagreed⟩ hok
    exact AgreementStep.step_agreement a hs hagreed hok
  exact (run_invariant hstep ⟨hlinked, hagree⟩ hmeets).2

end Steps

section RefundedOrder

theorem startedPaymentDb_linked : ObligationsLinked startedPaymentDb := by
  refine ⟨startedPaymentDb_indexed, ?_, ?_⟩
  · intro i j p q o hp hq _ _
    have hi : i < 1 := Table.lt_size_of_findUnique hp
    have hj : j < 1 := Table.lt_size_of_findUnique hq
    omega
  · intro i p o hp ho
    have hi : i < 1 := Table.lt_size_of_findUnique hp
    obtain rfl : i = 0 := by omega
    obtain rfl := Option.some.inj hp
    obtain rfl := Option.some.inj ho
    exact ⟨_, rfl⟩

theorem startedPaymentDb_agreement : Agreement startedPaymentDb := by
  have hrow : forall o b, startedPaymentDb.obligations.findUnique o = some b ->
      b.status = .open := by
    intro o b hb
    have ho : o < 1 := Table.lt_size_of_findUnique hb
    obtain rfl : o = 0 := by omega
    obtain rfl := Option.some.inj hb
    rfl
  refine ⟨?_, ?_⟩
  · intro o b hb _
    by_contra hhas
    obtain ⟨i, p, hp, hpaid, -⟩ := hasPaidPayment_iff.1 (Bool.not_eq_false _ ▸ hhas)
    have hi : i < 1 := Table.lt_size_of_findUnique hp
    obtain rfl : i = 0 := by omega
    obtain rfl := Option.some.inj hp
    cases hpaid
  · intro o b hb hpaid
    rw [hrow o b hb] at hpaid
    cases hpaid

def receivedOrder : OrderRecord :=
  { startedOrder with
    status := .confirmed
    payments := [{ status := .paid, type := some .marketplace }] }

def paidAndCancelled : List (Env × AgreementStep) :=
  [(env0, .settlePaymentCore paidNotice), (env0, .cancelOrder receivedOrder (some 1) none .buyer)]

/-- While the refund is under way, the obligation still has its own payment. -/
theorem paidAndCancelled_agreement :
    Agreement (run AgreementStep.step startedPaymentDb paidAndCancelled) :=
  agreement_of_run startedPaymentDb_linked startedPaymentDb_agreement (by decide +kernel)

/-- The completed refund leaves the obligation paid. -/
theorem refunded_payment_stays_settled :
    ObligationsLinked startedPaymentDb ∧ Agreement startedPaymentDb ∧
      ¬ Agreement (run AgreementStep.step startedPaymentDb
        (paidAndCancelled ++ [(env0, .finalizeRefund 0 (some "refunded"))])) := by
  refine ⟨startedPaymentDb_linked, startedPaymentDb_agreement, ?_⟩
  intro hagree
  have hsettled : (run AgreementStep.step startedPaymentDb
      (paidAndCancelled ++ [(env0, .finalizeRefund 0 (some "refunded"))])).obligations.findUnique
        0 = some { orderId := 0, type := .marketplace, status := .paid, payerId := 1
                   beneficiaryId := some 2, amount := 500 } := by
    decide +kernel
  have hsupported := hagree.supported 0 _ hsettled rfl (by decide +kernel)
  revert hsupported
  decide +kernel

end RefundedOrder

end MarketBridge
