import MarketBridge.Ledger.Entries
import MarketBridge.Refund.Exits

/-!
# What holds while refunds are under way

Two groups of facts: what the refund rows say about the provider, and how the
refunds of a payment fit its status.  Of the refunds of one payment only the
newest may be anything but `FAILED`.
-/

namespace MarketBridge

open Relational

/-! ## Refunds and the provider -/

/-- What is known about the submission of refund `j`, whose row is `r`. -/
structure SubmissionFacts (submitted : List Id) (book : ProviderBook) (j : Id)
    (r : PaymentRefund) : Prop where
  reference : forall refId, r.providerRefundId = some refId ->
    truthy (some refId) = true ∧ (j, refId) ∈ book.accepted
  requested : r.status = .requested -> j ∉ submitted
  failed : r.status = .failed -> forall refId, (j, refId) ∈ book.accepted ->
    book.verdict refId = some false
  completed : r.status = .completed ->
    exists refId, (j, refId) ∈ book.accepted ∧ book.verdict refId = some true
  live : r.status ≠ .cancelled

structure SubmissionInv (refunds : Table PaymentRefund) (submitted : List Id)
    (book : ProviderBook) : Prop where
  rows : refunds.All (SubmissionFacts submitted book)
  known : forall j, j ∈ submitted -> j < refunds.size
  sent : forall j refId, (j, refId) ∈ book.accepted -> j ∈ submitted
  once : forall j refId refId', (j, refId) ∈ book.accepted -> (j, refId') ∈ book.accepted ->
    refId = refId'

namespace ProviderBook

theorem verdict_decide {book : ProviderBook} {refId refId' : String} {returned b : Bool}
    (h : book.verdict refId = some b) :
    (book.decide refId' returned).verdict refId = some b := by
  unfold decide
  cases hv : book.verdict refId' with
  | some b' =>
      exact h
  | none =>
      have hne : refId' ≠ refId := by
        rintro rfl
        rw [hv] at h
        cases h
      unfold verdict at h ⊢
      rw [List.find?_cons_of_neg (by simpa using hne)]
      exact h

theorem accepted_decide (book : ProviderBook) (refId : String) (returned : Bool) :
    (book.decide refId returned).accepted = book.accepted := by
  unfold decide
  split <;> rfl

theorem verdict_accept (book : ProviderBook) (j : Id) (answer : SubmissionAnswer)
    (refId : String) :
    (book.accept j answer).verdict refId = book.verdict refId := by
  unfold accept
  split <;> rfl

theorem mem_accept {book : ProviderBook} {j k : Id} {answer : SubmissionAnswer}
    {refId : String} :
    (k, refId) ∈ (book.accept j answer).accepted ↔
      (k, refId) ∈ book.accepted ∨ k = j ∧ answer.reference = some refId := by
  unfold accept
  cases hanswer : answer.reference with
  | none =>
      simp
  | some refId' =>
      simp only [List.mem_cons, Prod.mk.injEq, Option.some.injEq]
      constructor
      · rintro (⟨rfl, rfl⟩ | h)
        · exact Or.inr ⟨rfl, rfl⟩
        · exact Or.inl h
      · rintro (h | ⟨rfl, rfl⟩)
        · exact Or.inr h
        · exact Or.inl ⟨rfl, rfl⟩

end ProviderBook

section Submissions

variable {refunds : Table PaymentRefund} {submitted : List Id} {book : ProviderBook}

theorem SubmissionInv.update (h : SubmissionInv refunds submitted book) {j : Id}
    {f : PaymentRefund -> PaymentRefund}
    (hf : forall r, refunds.findUnique j = some r -> SubmissionFacts submitted book j r ->
      SubmissionFacts submitted book j (f r)) :
    SubmissionInv (refunds.update j f) submitted book where
  rows := h.rows.update fun r hr => hf r hr (h.rows j r hr)
  known i hi := by
    rw [Table.size_update]
    exact h.known i hi
  sent := h.sent
  once := h.once

theorem SubmissionInv.create (h : SubmissionInv refunds submitted book) {r : PaymentRefund}
    (hstatus : r.status = .requested) (hreference : r.providerRefundId = none) :
    SubmissionInv (refunds.create r) submitted book where
  rows := by
    refine h.rows.create ⟨?_, ?_, ?_, ?_, ?_⟩
    · intro refId hrefId
      rw [hreference] at hrefId
      cases hrefId
    · intro _ hmem
      exact absurd (h.known _ hmem) (Nat.lt_irrefl _)
    · intro hs
      rw [hstatus] at hs
      cases hs
    · intro hs
      rw [hstatus] at hs
      cases hs
    · rw [hstatus]
      decide
  known i hi := by
    rw [Table.size_create]
    exact Nat.lt_succ_of_lt (h.known i hi)
  sent := h.sent
  once := h.once

theorem SubmissionInv.submit (h : SubmissionInv refunds submitted book) {j : Id}
    {r : PaymentRefund} (hr : refunds.findUnique j = some r) (hs : r.status = .requested)
    (provider : String) (answer : SubmissionAnswer) :
    SubmissionInv (refunds.update j (·.submit provider)) (j :: submitted)
      (book.accept j answer) := by
  have hnew : forall refId, (j, refId) ∉ book.accepted := fun refId hmem =>
    (h.rows j r hr).requested hs (h.sent j refId hmem)
  refine ⟨?_, ?_, ?_, ?_⟩
  · intro k q hq
    rcases Table.of_findUnique_update_some hr hq with ⟨rfl, rfl⟩ | ⟨hk, hq⟩
    · refine ⟨?_, nofun, nofun, nofun, nofun⟩
      intro refId hrefId
      obtain ⟨htruthy, hmem⟩ := (h.rows k r hr).reference refId hrefId
      exact ⟨htruthy, ProviderBook.mem_accept.2 (Or.inl hmem)⟩
    · have hfacts := h.rows k q hq
      refine ⟨?_, ?_, ?_, ?_, hfacts.live⟩
      · intro refId hrefId
        obtain ⟨htruthy, hmem⟩ := hfacts.reference refId hrefId
        exact ⟨htruthy, ProviderBook.mem_accept.2 (Or.inl hmem)⟩
      · intro hq' hmem
        exact hfacts.requested hq' ((List.mem_cons.1 hmem).resolve_left hk)
      · intro hq' refId hmem
        rw [ProviderBook.verdict_accept]
        rcases ProviderBook.mem_accept.1 hmem with hmem | ⟨heq, -⟩
        · exact hfacts.failed hq' refId hmem
        · exact absurd heq hk
      · intro hq'
        obtain ⟨refId, hmem, hv⟩ := hfacts.completed hq'
        refine ⟨refId, ProviderBook.mem_accept.2 (Or.inl hmem), ?_⟩
        rw [ProviderBook.verdict_accept]
        exact hv
  · intro i hi
    rw [Table.size_update]
    rcases List.mem_cons.1 hi with rfl | hi
    · exact Table.lt_size_of_findUnique hr
    · exact h.known i hi
  · intro k refId hmem
    rcases ProviderBook.mem_accept.1 hmem with hmem | ⟨rfl, -⟩
    · exact List.mem_cons_of_mem _ (h.sent k refId hmem)
    · exact List.mem_cons_self
  · intro k refId refId' hmem hmem'
    rcases ProviderBook.mem_accept.1 hmem with hold | ⟨rfl, hanswer⟩
    · rcases ProviderBook.mem_accept.1 hmem' with hold' | ⟨rfl, -⟩
      · exact h.once k refId refId' hold hold'
      · exact absurd hold (hnew refId)
    · rcases ProviderBook.mem_accept.1 hmem' with hold' | ⟨-, hanswer'⟩
      · exact absurd hold' (hnew refId')
      · exact Option.some.inj (hanswer.symm.trans hanswer')

theorem SubmissionInv.decide (h : SubmissionInv refunds submitted book) (refId : String)
    (returned : Bool) :
    SubmissionInv refunds submitted (book.decide refId returned) := by
  refine ⟨h.rows.mono ?_, h.known, ?_, ?_⟩
  · intro j r hfacts
    refine ⟨?_, hfacts.requested, ?_, ?_, hfacts.live⟩
    · rw [ProviderBook.accepted_decide]
      exact hfacts.reference
    · intro hs refId' hmem
      rw [ProviderBook.accepted_decide] at hmem
      exact ProviderBook.verdict_decide (hfacts.failed hs refId' hmem)
    · intro hs
      obtain ⟨refId', hmem, hv⟩ := hfacts.completed hs
      rw [ProviderBook.accepted_decide]
      exact ⟨refId', hmem, ProviderBook.verdict_decide hv⟩
  · rw [ProviderBook.accepted_decide]
    exact h.sent
  · rw [ProviderBook.accepted_decide]
    exact h.once

end Submissions

/-! ## Refunds and their payments -/

/-- How refund `r` fits the payment it belongs to. -/
def RefundOwned (payments : Table Payment) (r : PaymentRefund) : Prop :=
  exists p, payments.findUnique r.paymentId = some p ∧ p.isInstallmentParent = false ∧
    r.amount = p.amount ∧ 0 < p.amount ∧
    p.status ∈ [PaymentStatus.paid, .refundPending, .refunded] ∧
    (r.status = .completed -> p.status = .refunded)

structure RefundedPayments (db : Db) : Prop where
  owned : forall j r, db.refunds.findUnique j = some r -> RefundOwned db.payments r
  older : forall j k r q, db.refunds.findUnique j = some r -> db.refunds.findUnique k = some q ->
    r.paymentId = q.paymentId -> j < k -> r.status = .failed
  pending : forall i p, db.payments.findUnique i = some p -> p.status = .refundPending ->
    IsRefunded db i -> exists j, OpenRefund db.refunds i j
  refunded : forall i p, db.payments.findUnique i = some p -> p.status = .refunded ->
    IsRefunded db i -> exists j, CompletedRefund db.refunds i j
  indexed : PaymentsIndexed db.payments
  /-- Payments with refunds may all be `PAID` again together. -/
  restorable : forall i k p q q', db.payments.findUnique i = some p ->
    db.payments.findUnique k = some q -> i ≠ k -> IsRefunded db i ->
    q' = q ∨ IsRefunded db k ∧ q' = q.withStatus .paid ->
    (p.withStatus .paid).sameActiveTransportJob q' = false
  distinct : db.refunds.Unique PaymentRefund.sameProviderRefund
  cents : forall i p, db.payments.findUnique i = some p -> IsCents p.amount

namespace RefundedPayments

variable {db : Db}

theorem isRefunded_of_refund {j : Id} {r : PaymentRefund}
    (hr : db.refunds.findUnique j = some r) :
    IsRefunded db r.paymentId :=
  ⟨j, r, hr, rfl⟩

/-- A payment with a refund may become `PAID` again. -/
theorem conflict_free (h : RefundedPayments db) {i : Id} {p : Payment}
    (hp : db.payments.findUnique i = some p) (hrefunded : IsRefunded db i) :
    paymentConflict db i (p.withStatus .paid) = false := by
  rw [paymentConflict_eq_false_iff]
  intro k q hq hk
  have hsame := h.indexed i k p q hp hq fun hik => hk hik.symm
  rw [Bool.or_eq_false_iff] at hsame ⊢
  exact ⟨hsame.1, h.restorable i k p q q hp hq (fun hik => hk hik.symm) hrefunded (Or.inl rfl)⟩

theorem eq_of_not_failed (h : RefundedPayments db) {j k : Id} {r q : PaymentRefund}
    (hr : db.refunds.findUnique j = some r) (hq : db.refunds.findUnique k = some q)
    (hsame : r.paymentId = q.paymentId) (hj : r.status ≠ .failed) (hk : q.status ≠ .failed) :
    j = k := by
  rcases Nat.lt_trichotomy j k with hlt | heq | hlt
  · exact absurd (h.older j k r q hr hq hsame hlt) hj
  · exact heq
  · exact absurd (h.older k j q r hq hr hsame.symm hlt) hk

theorem congr {db' : Db} (h : RefundedPayments db) (hpayments : db'.payments = db.payments)
    (hrefunds : db'.refunds = db.refunds) :
    RefundedPayments db' := by
  have hiff : forall i, IsRefunded db' i ↔ IsRefunded db i := by
    intro i
    unfold IsRefunded
    rw [hrefunds]
  refine ⟨?_, ?_, ?_, ?_, ?_, ?_, ?_, ?_⟩
  · rw [hpayments, hrefunds]
    exact h.owned
  · rw [hrefunds]
    exact h.older
  · simp only [hpayments, hrefunds, hiff]
    exact h.pending
  · simp only [hpayments, hrefunds, hiff]
    exact h.refunded
  · rw [hpayments]
    exact h.indexed
  · simp only [hpayments, hiff]
    exact h.restorable
  · rw [hrefunds]
    exact h.distinct
  · rw [hpayments]
    exact h.cents

end RefundedPayments

/-! ## Writes -/

/-- One refund is rewritten and its payment takes the status `s`. -/
def rewritten (db : Db) (j : Id) (f : PaymentRefund -> PaymentRefund) (i : Id)
    (s : PaymentStatus) : Db :=
  { db with
    payments := db.payments.update i (·.withStatus s)
    refunds := db.refunds.update j f }

/-- What the rewriting of refund `r` must respect where its payment `p` takes the status `s`. -/
structure Rewrite (db : Db) (j : Id) (r r' : PaymentRefund) (p : Payment) (s : PaymentStatus) :
    Prop where
  owner : r'.paymentId = r.paymentId
  amount : r'.amount = r.amount
  distinct : forall k q, db.refunds.findUnique k = some q -> k ≠ j ->
    r'.sameProviderRefund q = false
  indexed : paymentConflict db r.paymentId (p.withStatus s) = false
  status : s ∈ [PaymentStatus.paid, .refundPending, .refunded]
  failed : r.status = .failed -> r'.status = .failed
  completed : r'.status = .completed -> s = .refunded
  final : p.status = .refunded -> s = .refunded
  pending : s = .refundPending ->
    r'.status.isOpen = true ∨ p.status = .refundPending ∧ r.status.isOpen = false
  refunded : s = .refunded -> r'.status = .completed ∨ p.status = .refunded ∧ r.status ≠ .completed

namespace RefundedPayments

variable {db : Db}

theorem isRefunded_rewritten {j i : Id} {f : PaymentRefund -> PaymentRefund} {s : PaymentStatus}
    {r : PaymentRefund} (hr : db.refunds.findUnique j = some r)
    (howner : (f r).paymentId = r.paymentId) (k : Id) :
    IsRefunded (rewritten db j f i s) k ↔ IsRefunded db k := by
  have hrefund := hasRefund_update hr howner k (fun _ => true)
  have hiff : forall (t : Table PaymentRefund),
      (exists l q, t.findUnique l = some q ∧ q.paymentId = k) ↔
        exists l, HasRefund t k (fun _ => true) l := by
    intro t
    constructor
    · rintro ⟨l, q, hq, hk⟩
      exact ⟨l, q, hq, hk, rfl⟩
    · rintro ⟨l, q, hq, hk, -⟩
      exact ⟨l, q, hq, hk⟩
  show (exists l q, (db.refunds.update j f).findUnique l = some q ∧ q.paymentId = k) ↔ _
  rw [hiff, IsRefunded, hiff]
  constructor
  · rintro ⟨l, hl⟩
    have hl' := (hrefund l).1 hl
    split at hl'
    · next heq =>
        exact ⟨j, r, hr, hl'.1, rfl⟩
    · exact ⟨l, hl'⟩
  · rintro ⟨l, hl⟩
    refine ⟨l, (hrefund l).2 ?_⟩
    split
    · next heq =>
        subst heq
        obtain ⟨q, hq, hk, -⟩ := hl
        obtain rfl := Option.some.inj (hr.symm.trans hq)
        exact ⟨hk, rfl⟩
    · exact hl

theorem rewrite (h : RefundedPayments db) {j : Id} {r : PaymentRefund} {p : Payment}
    {f : PaymentRefund -> PaymentRefund} {s : PaymentStatus}
    (hr : db.refunds.findUnique j = some r) (hp : db.payments.findUnique r.paymentId = some p)
    (hw : Rewrite db j r (f r) p s) :
    RefundedPayments (rewritten db j f r.paymentId s) := by
  have hisRefunded := isRefunded_rewritten (i := r.paymentId) (s := s) hr hw.owner
  -- The rows of the new tables, each with the row it was.
  have hrefund : forall k q', (db.refunds.update j f).findUnique k = some q' ->
      exists q, db.refunds.findUnique k = some q ∧ (k = j ∧ q = r ∧ q' = f r ∨ k ≠ j ∧ q' = q) := by
    intro k q' hq'
    rw [Table.findUnique_update] at hq'
    by_cases hk : k = j
    · subst hk
      rw [if_pos rfl, hr] at hq'
      exact ⟨r, hr, Or.inl ⟨rfl, rfl, (Option.some.inj hq').symm⟩⟩
    · rw [if_neg hk] at hq'
      exact ⟨q', hq', Or.inr ⟨hk, rfl⟩⟩
  have hpayment : forall i p', (db.payments.update r.paymentId (·.withStatus s)).findUnique i =
      some p' ->
      exists q, db.payments.findUnique i = some q ∧
        (i = r.paymentId ∧ q = p ∧ p' = p.withStatus s ∨ i ≠ r.paymentId ∧ p' = q) := by
    intro i p' hp'
    rw [Table.findUnique_update] at hp'
    by_cases hi : i = r.paymentId
    · subst hi
      rw [if_pos rfl, hp] at hp'
      exact ⟨p, hp, Or.inl ⟨rfl, rfl, (Option.some.inj hp').symm⟩⟩
    · rw [if_neg hi] at hp'
      exact ⟨p', hp', Or.inr ⟨hi, rfl⟩⟩
  have hsamePaid : forall i p' q, (i = r.paymentId ∧ q = p ∧ p' = p.withStatus s ∨
      i ≠ r.paymentId ∧ p' = q) -> p'.withStatus .paid = q.withStatus .paid := by
    rintro i p' q (⟨-, rfl, rfl⟩ | ⟨-, rfl⟩) <;> rfl
  refine ⟨?_, ?_, ?_, ?_, ?_, ?_, ?_, ?_⟩
  · -- Refund `j` and the other refunds of its payment see the new status.
    intro k q' hq'
    obtain ⟨q, hq, hcase⟩ := hrefund k q' hq'
    obtain ⟨o, ho, hparent, hamount, hpos, hs, hcompleted⟩ := h.owned k q hq
    have howner : q'.paymentId = q.paymentId := by
      rcases hcase with ⟨-, rfl, rfl⟩ | ⟨-, rfl⟩
      · exact hw.owner
      · rfl
    have hamount' : q'.amount = q.amount := by
      rcases hcase with ⟨-, rfl, rfl⟩ | ⟨-, rfl⟩
      · exact hw.amount
      · rfl
    unfold RefundOwned rewritten
    rw [howner, hamount']
    by_cases hi : q.paymentId = r.paymentId
    · have hop : o = p := by
        rw [hi] at ho
        exact Option.some.inj (ho.symm.trans hp)
      subst hop
      refine ⟨o.withStatus s, ?_, hparent, hamount, hpos, hw.status, ?_⟩
      · rw [hi, Table.findUnique_update_self, hp]
        rfl
      · intro hdone
        rcases hcase with ⟨-, rfl, rfl⟩ | ⟨-, rfl⟩
        · exact hw.completed hdone
        · exact hw.final (hcompleted hdone)
    · refine ⟨o, ?_, hparent, hamount, hpos, hs, ?_⟩
      · rw [Table.findUnique_update_ne hi]
        exact ho
      · intro hdone
        rcases hcase with ⟨-, rfl, rfl⟩ | ⟨-, rfl⟩
        · exact absurd rfl hi
        · exact hcompleted hdone
  · intro k l q' t' hq' ht' hsame hlt
    obtain ⟨q, hq, hcase⟩ := hrefund k q' hq'
    obtain ⟨t, ht, hcase'⟩ := hrefund l t' ht'
    have hold : q.status = .failed := by
      apply h.older k l q t hq ht ?_ hlt
      rcases hcase with ⟨-, rfl, rfl⟩ | ⟨-, rfl⟩ <;> rcases hcase' with ⟨-, rfl, rfl⟩ | ⟨-, rfl⟩
      · rfl
      · exact hw.owner.symm.trans hsame
      · exact hsame.trans hw.owner
      · exact hsame
    rcases hcase with ⟨-, rfl, rfl⟩ | ⟨-, rfl⟩
    · exact hw.failed hold
    · exact hold
  · intro i p' hp' hs hrefunded
    obtain ⟨q, hq, hcase⟩ := hpayment i p' hp'
    rw [hisRefunded] at hrefunded
    have hself : forall k, (k = j -> r.paymentId = i ∧ (f r).status.isOpen = true) ->
        (k ≠ j -> OpenRefund db.refunds i k) -> OpenRefund (rewritten db j f r.paymentId s).refunds i k := by
      intro k hk hk'
      refine (hasRefund_update hr hw.owner i _ k).2 ?_
      split
      · next heq =>
          exact hk heq
      · next hne =>
          exact hk' hne
    rcases hcase with ⟨rfl, rfl, rfl⟩ | ⟨hi, rfl⟩
    · rcases hw.pending hs with hopen | ⟨hold, hclosed⟩
      · exact ⟨j, hself j (fun _ => ⟨rfl, hopen⟩) fun hne => absurd rfl hne⟩
      · obtain ⟨k, hk⟩ := h.pending _ q hq hold hrefunded
        refine ⟨k, hself k ?_ fun _ => hk⟩
        rintro rfl
        have hopen := (hasRefund_self hr).1 hk
        rw [hclosed] at hopen
        cases hopen
    · obtain ⟨k, hk⟩ := h.pending i p' hq hs hrefunded
      refine ⟨k, hself k ?_ fun _ => hk⟩
      rintro rfl
      obtain ⟨q, hq', howner, -⟩ := hk
      obtain rfl := Option.some.inj (hr.symm.trans hq')
      exact absurd howner.symm hi
  · intro i p' hp' hs hrefunded
    obtain ⟨q, hq, hcase⟩ := hpayment i p' hp'
    rw [hisRefunded] at hrefunded
    have hself : forall k, (k = j -> r.paymentId = i ∧ (f r).status = .completed) ->
        (k ≠ j -> CompletedRefund db.refunds i k) ->
        CompletedRefund (rewritten db j f r.paymentId s).refunds i k := by
      intro k hk hk'
      refine (hasRefund_update hr hw.owner i _ k).2 ?_
      split
      · next heq =>
          exact ⟨(hk heq).1, by simp [(hk heq).2]⟩
      · next hne =>
          exact hk' hne
    rcases hcase with ⟨rfl, rfl, rfl⟩ | ⟨hi, rfl⟩
    · rcases hw.refunded hs with hdone | ⟨hold, hopen⟩
      · exact ⟨j, hself j (fun _ => ⟨rfl, hdone⟩) fun hne => absurd rfl hne⟩
      · obtain ⟨k, hk⟩ := h.refunded _ q hq hold hrefunded
        refine ⟨k, hself k ?_ fun _ => hk⟩
        rintro rfl
        have hdone := (hasRefund_self hr).1 hk
        simp only [decide_eq_true_eq] at hdone
        exact absurd hdone hopen
    · obtain ⟨k, hk⟩ := h.refunded i p' hq hs hrefunded
      refine ⟨k, hself k ?_ fun _ => hk⟩
      rintro rfl
      obtain ⟨q, hq', howner, -⟩ := hk
      obtain rfl := Option.some.inj (hr.symm.trans hq')
      exact absurd howner.symm hi
  · apply h.indexed.update
    intro q hq
    obtain rfl := Option.some.inj (hp.symm.trans hq)
    exact hw.indexed
  · intro i k p' q' t hp' hq' hik hrefunded ht
    obtain ⟨o, ho, hcase⟩ := hpayment i p' hp'
    obtain ⟨q, hq, hcase'⟩ := hpayment k q' hq'
    rw [hisRefunded] at hrefunded
    rw [hsamePaid i p' o hcase]
    rcases ht with rfl | ⟨hk, rfl⟩
    · rcases hcase' with ⟨rfl, rfl, rfl⟩ | ⟨hne, rfl⟩
      · -- A status in which `q` holds its job is one that `PAID` stands for.
        have hpaid := h.restorable i _ o q (q.withStatus .paid) ho hq hik hrefunded
          (Or.inr ⟨isRefunded_of_refund hr, rfl⟩)
        rw [Bool.eq_false_iff] at hpaid ⊢
        intro hconflict
        apply hpaid
        rw [Payment.sameActiveTransportJob_eq_true_iff] at hconflict ⊢
        obtain ⟨jobId, hleft, hright⟩ := hconflict
        refine ⟨jobId, hleft, ?_⟩
        simp only [Payment.holdsTransportJob, Payment.withStatus, Bool.and_eq_true] at hright ⊢
        exact ⟨hright.1, by simp⟩
      · exact h.restorable i k o _ _ ho hq hik hrefunded (Or.inl rfl)
    · rw [hisRefunded] at hk
      rw [hsamePaid k q' q hcase']
      exact h.restorable i k o q _ ho hq hik hrefunded (Or.inr ⟨hk, rfl⟩)
  · apply Table.Unique.update h.distinct sameProviderRefund_comm
    intro q k t hq ht hk
    obtain rfl := Option.some.inj (hr.symm.trans hq)
    exact hw.distinct k t ht hk
  · intro i p' hp'
    obtain ⟨q, hq, hcase⟩ := hpayment i p' hp'
    have hamount : p'.amount = q.amount := by
      rcases hcase with ⟨-, rfl, rfl⟩ | ⟨-, rfl⟩ <;> rfl
    rw [hamount]
    exact h.cents i q hq

end RefundedPayments

end MarketBridge
