import Mathlib.Data.List.Nodup
import MarketBridge.Ledger.Entries

/-!
# A sound ledger

`LedgerSound` relates the ledger to the payments: a payment is booked in full or
not at all, a `REFUND` entry stands for one `REFUNDED` payment, and a refunded
payment has been booked before.
-/

namespace MarketBridge

open Relational

/-! ## Soundness -/

/-- The row is priced, a plan is for goods, and an installment is of the type of its own. -/
structure Payment.WellFormed (p : Payment) : Prop where
  priced : p.WellPriced
  plan : p.installmentCount.isSome = true -> p.type = .marketplace
  installment : p.parentPaymentId.isSome = true -> p.type = .marketplaceInstallment

def receiptsOf (ledger : Table PaymentLedgerEntry) (i : Id) : ℚ :=
  ledger.sumOf fun _ e => if e.paymentId = i ∧ e.type ≠ .refund then e.amount else 0

/-- The total of the `REFUND` entries of the selected payments. -/
def refundsOf (ledger : Table PaymentLedgerEntry) (S : Id -> Bool) : ℚ :=
  ledger.sumOf fun _ e => if e.type = .refund ∧ S e.paymentId = true then e.amount else 0

/-- The total of the selected payments that are `REFUNDED`. -/
def refundedOf (payments : Table Payment) (S : Id -> Bool) : ℚ :=
  payments.sumOf fun i p => if p.status = .refunded ∧ S i = true then p.amount else 0

def NoReceipt (ledger : Table PaymentLedgerEntry) (i : Id) : Prop :=
  forall k e, ledger.findUnique k = some e -> e.paymentId = i -> e.type = .refund

/-- The whole receipt of the payment is booked. -/
structure Booked (ledger : Table PaymentLedgerEntry) (i : Id) (p : Payment) : Prop where
  holds : forall part, part ∈ receipt p -> ledger.holdsKey entryKey (i, part.1) = true
  total : receiptsOf ledger i = p.amount

structure LedgerSound (payments : Table Payment) (ledger : Table PaymentLedgerEntry) :
    Prop where
  keyed : ledger.Keyed entryKey
  formed : forall i p, payments.findUnique i = some p -> p.WellFormed
  refundEntry : forall k e, ledger.findUnique k = some e -> e.type = .refund ->
    exists p, payments.findUnique e.paymentId = some p ∧ p.status = .refunded ∧
      e.amount = -p.amount
  receiptEntry : forall k e, ledger.findUnique k = some e -> e.type ≠ .refund ->
    exists p, payments.findUnique e.paymentId = some p ∧ p.type ≠ .marketplaceInstallment
  recorded : forall i p, payments.findUnique i = some p -> p.status = .refunded ->
    ledger.holdsKey entryKey (i, .refund) = true
  booked : forall i p, payments.findUnique i = some p -> NoReceipt ledger i ∨ Booked ledger i p
  earned : forall i p, payments.findUnique i = some p -> p.status = .refunded ->
    p.parentPaymentId = none -> ¬ NoReceipt ledger i
  exclusive : forall i j p c, payments.findUnique i = some p -> payments.findUnique j = some c ->
    p.parentPaymentId = none -> c.parentPaymentId = some i -> p.status = .refunded ->
    c.status ≠ .refunded
  total : forall S, refundsOf ledger S = -refundedOf payments S

/-! ## Moves of payments -/

/-- The payment is otherwise the same, and `REFUNDED` if it was before. -/
def KeepsRefunded (p p' : Payment) : Prop :=
  p'.core = p.core ∧ (p'.status = .refunded ↔ p.status = .refunded)

theorem KeepsRefunded.refl (p : Payment) : KeepsRefunded p p :=
  ⟨rfl, Iff.rfl⟩

/-- Moves along edges that stay away from `REFUNDED`. -/
theorem Moved.keepsRefunded {edges : StatusEdges} {i : Id} {p p' : Payment}
    (h : Moved edges i p p')
    (hedges : forall s s', edges i s s' -> s ≠ .refunded ∧ s' ≠ .refunded) :
    KeepsRefunded p p' := by
  obtain ⟨hcore, hpath⟩ := h
  refine ⟨hcore, ?_⟩
  generalize p'.status = status at hpath
  induction hpath with
  | refl =>
      exact Iff.rfl
  | tail hpath hedge ih =>
      obtain ⟨hsource, htarget⟩ := hedges _ _ hedge
      exact iff_of_false htarget fun hrefunded => hsource (ih.mpr hrefunded)

theorem WellFormed_core {p p' : Payment} (hcore : p'.core = p.core) (h : p.WellFormed) :
    p'.WellFormed := by
  have hcommission : p'.core.commissionAmount = p.core.commissionAmount :=
    congrArg Payment.commissionAmount hcore
  have hledger : ledgerCommission p' = ledgerCommission p := by
    change p'.commissionAmount = p.commissionAmount at hcommission
    unfold ledgerCommission
    rw [hcommission]
  refine ⟨⟨?_, ?_, ?_⟩, ?_, ?_⟩
  · rw [Payment.core_amount hcore]
    exact h.priced.cents
  · rw [hledger]
    exact h.priced.commission_nonneg
  · rw [hledger, Payment.core_amount hcore]
    exact h.priced.commission_le
  · rw [Payment.core_installmentCount hcore, Payment.core_type hcore]
    exact h.plan
  · rw [Payment.core_parentPaymentId hcore, Payment.core_type hcore]
    exact h.installment

theorem Booked_core {ledger : Table PaymentLedgerEntry} {i : Id} {p p' : Payment}
    (hcore : p'.core = p.core) (h : Booked ledger i p) :
    Booked ledger i p' := by
  refine ⟨?_, ?_⟩
  · rw [receipt_core hcore]
    exact h.holds
  · rw [Payment.core_amount hcore]
    exact h.total

section Sound

variable {payments payments' : Table Payment} {ledger : Table PaymentLedgerEntry}

theorem LedgerSound.moved (h : LedgerSound payments ledger)
    (hmoved : payments.Rel (fun _ => KeepsRefunded) payments') :
    LedgerSound payments' ledger := by
  refine ⟨h.keyed, ?_, ?_, ?_, ?_, ?_, ?_, ?_, ?_⟩
  · intro i p' hp'
    obtain ⟨p, hp, hkeeps⟩ := hmoved.of_right hp'
    exact WellFormed_core hkeeps.1 (h.formed i p hp)
  · intro k e he hrefund
    obtain ⟨p, hp, hstatus, hamount⟩ := h.refundEntry k e he hrefund
    obtain ⟨p', hp', hkeeps⟩ := hmoved.of_left hp
    exact ⟨p', hp', hkeeps.2.mpr hstatus, by rw [Payment.core_amount hkeeps.1]; exact hamount⟩
  · intro k e he hreceipt
    obtain ⟨p, hp, htype⟩ := h.receiptEntry k e he hreceipt
    obtain ⟨p', hp', hkeeps⟩ := hmoved.of_left hp
    exact ⟨p', hp', by rw [Payment.core_type hkeeps.1]; exact htype⟩
  · intro i p' hp' hstatus
    obtain ⟨p, hp, hkeeps⟩ := hmoved.of_right hp'
    exact h.recorded i p hp (hkeeps.2.mp hstatus)
  · intro i p' hp'
    obtain ⟨p, hp, hkeeps⟩ := hmoved.of_right hp'
    exact (h.booked i p hp).imp_right (Booked_core hkeeps.1)
  · intro i p' hp' hstatus hroot
    obtain ⟨p, hp, hkeeps⟩ := hmoved.of_right hp'
    rw [Payment.core_parentPaymentId hkeeps.1] at hroot
    exact h.earned i p hp (hkeeps.2.mp hstatus) hroot
  · intro i j p' c' hp' hc' hroot hparent hstatus hchild
    obtain ⟨p, hp, hkeeps⟩ := hmoved.of_right hp'
    obtain ⟨c, hc, hckeeps⟩ := hmoved.of_right hc'
    rw [Payment.core_parentPaymentId hkeeps.1] at hroot
    rw [Payment.core_parentPaymentId hckeeps.1] at hparent
    exact h.exclusive i j p c hp hc hroot hparent (hkeeps.2.mp hstatus) (hckeeps.2.mp hchild)
  · intro S
    rw [h.total S]
    congr 1
    apply hmoved.sumOf_eq
    intro i p p' hkeeps
    simp only [hkeeps.2, Payment.core_amount hkeeps.1]

/-- A fresh payment that is not `REFUNDED` has no entries. -/
theorem LedgerSound.create (h : LedgerSound payments ledger) {p : Payment}
    (hformed : p.WellFormed) (hstatus : p.status ≠ .refunded) :
    LedgerSound (payments.create p) ledger := by
  have hold : forall i q, (payments.create p).findUnique i = some q -> q.status = .refunded ->
      payments.findUnique i = some q := by
    intro i q hq hrefunded
    rw [Table.findUnique_create] at hq
    split at hq
    · rw [← Option.some.inj hq] at hrefunded
      exact absurd hrefunded hstatus
    · exact hq
  have hstays : forall i q, payments.findUnique i = some q ->
      (payments.create p).findUnique i = some q := by
    intro i q hq
    rw [Table.findUnique_create, if_neg (Nat.ne_of_lt (Table.lt_size_of_findUnique hq))]
    exact hq
  refine ⟨h.keyed, ?_, ?_, ?_, ?_, ?_, ?_, ?_, ?_⟩
  · intro i q hq
    rw [Table.findUnique_create] at hq
    split at hq
    · rw [← Option.some.inj hq]
      exact hformed
    · exact h.formed i q hq
  · intro k e he hrefund
    obtain ⟨q, hq, hrest⟩ := h.refundEntry k e he hrefund
    exact ⟨q, hstays _ q hq, hrest⟩
  · intro k e he hreceipt
    obtain ⟨q, hq, htype⟩ := h.receiptEntry k e he hreceipt
    exact ⟨q, hstays _ q hq, htype⟩
  · intro i q hq hrefunded
    exact h.recorded i q (hold i q hq hrefunded) hrefunded
  · intro i q hq
    rw [Table.findUnique_create] at hq
    split at hq
    · next hi =>
        left
        intro k e he howner
        by_contra hreceipt
        obtain ⟨q', hq', -⟩ := h.receiptEntry k e he hreceipt
        rw [howner, hi, Table.findUnique_size] at hq'
        cases hq'
    · exact h.booked i q hq
  · intro i q hq hrefunded
    exact h.earned i q (hold i q hq hrefunded) hrefunded
  · intro i j q c hq hc hroot hparent hrefunded hchild
    exact h.exclusive i j q c (hold i q hq hrefunded) (hold j c hc hchild) hroot hparent hrefunded
      hchild
  · intro S
    have hfresh : ¬ (p.status = .refunded ∧ S payments.size = true) := fun hboth =>
      hstatus hboth.1
    rw [h.total S]
    unfold refundedOf
    rw [Table.sumOf_create, if_neg hfresh, add_zero]

/-! ## Entries of a received payment -/

theorem receiptsOf_of_noReceipt {i : Id} (h : NoReceipt ledger i) : receiptsOf ledger i = 0 := by
  unfold receiptsOf
  have hzero : ledger.sumOf (fun _ _ => (0 : ℚ)) = 0 := Table.sumOf_zero ledger
  rw [← hzero]
  apply Table.sumOf_congr
  intro k e he
  rw [hzero]
  apply if_neg
  rintro ⟨howner, hreceipt⟩
  exact hreceipt (h k e he howner)

theorem NoReceipt.of_created {i : Id} {es : List PaymentLedgerEntry}
    (h : NoReceipt (Table.createEachOnce entryKey ledger es) i) :
    NoReceipt ledger i :=
  fun k e he howner => h k e (Table.findUnique_createEachOnce_of_some he) howner

theorem LedgerSound.received_cases (h : LedgerSound payments ledger) {r : PaymentRecord}
    {p : Payment} (hp : payments.findUnique r.id = some p) (hcore : p.core = r.row.core)
    (hproduct : r.row.type = .digital -> r.digitalProduct.isSome = true) :
    Table.createEachOnce entryKey ledger (paidLedgerEntries r) = ledger ∨
      ((paidLedgerEntries r).map (fun e => (e.type, e.amount)) = receipt p ∧
        p.type ≠ .marketplaceInstallment ∧ NoReceipt ledger r.id) := by
  rcases paidLedgerEntries_parts hproduct with hnone | hparts
  · left
    rw [hnone]
    rfl
  · have hreceipt : receipt r.row = receipt p := (receipt_core hcore).symm
    rw [hreceipt] at hparts
    have hpart : forall e, e ∈ paidLedgerEntries r -> (e.type, e.amount) ∈ receipt p := by
      intro e he
      rw [← hparts]
      exact List.mem_map_of_mem he
    rcases h.booked r.id p hp with hfree | hbooked
    · by_cases htype : p.type = .marketplaceInstallment
      · left
        have hempty : receipt p = [] := by
          simp [receipt, htype]
        rw [hempty, List.map_eq_nil_iff] at hparts
        rw [hparts]
        rfl
      · exact Or.inr ⟨hparts, htype, hfree⟩
    · left
      apply Table.createEachOnce_of_holds
      intro e he
      unfold entryKey
      rw [(paidLedgerEntries_owner he).1]
      exact hbooked.holds _ (hpart e he)

theorem LedgerSound.received (h : LedgerSound payments ledger) {r : PaymentRecord}
    {p : Payment} (hp : payments.findUnique r.id = some p) (hcore : p.core = r.row.core)
    (hproduct : r.row.type = .digital -> r.digitalProduct.isSome = true) :
    LedgerSound payments (Table.createEachOnce entryKey ledger (paidLedgerEntries r)) := by
  rcases h.received_cases hp hcore hproduct with hsame | ⟨hparts, htype, hfree⟩
  · rw [hsame]
    exact h
  have howner : forall e, e ∈ paidLedgerEntries r -> e.paymentId = r.id := fun e he =>
    (paidLedgerEntries_owner he).1
  have hreceipt : forall e, e ∈ paidLedgerEntries r -> e.type ≠ .refund := by
    intro e he
    have hpart : (e.type, e.amount) ∈ receipt p := by
      rw [← hparts]
      exact List.mem_map_of_mem he
    exact receipt_ne_refund hpart
  have htotal : ((paidLedgerEntries r).map (·.amount)).sum = p.amount := by
    have hamounts : (paidLedgerEntries r).map (·.amount) = (receipt p).map Prod.snd := by
      rw [← hparts, List.map_map]
      rfl
    rw [hamounts]
    exact receipt_sum (h.formed r.id p hp).priced htype
  have hfresh : forall e, e ∈ paidLedgerEntries r ->
      ledger.holdsKey entryKey (entryKey e) = false := by
    intro e he
    rw [Bool.eq_false_iff]
    intro hholds
    obtain ⟨k, q, hq, hkey⟩ := Table.holdsKey_iff.mp hholds
    have hpayment : q.paymentId = e.paymentId := congrArg Prod.fst hkey
    have hsame : q.type = e.type := congrArg Prod.snd hkey
    apply hreceipt e he
    rw [← hsame]
    exact hfree k q hq (hpayment.trans (howner e he))
  have hnodup : ((paidLedgerEntries r).map entryKey).Nodup := by
    have hkeys : (paidLedgerEntries r).map entryKey =
        ((receipt p).map Prod.fst).map (fun type => (r.id, type)) := by
      rw [← hparts, List.map_map, List.map_map]
      apply List.map_congr_left
      intro e he
      show (e.paymentId, e.type) = (r.id, e.type)
      rw [howner e he]
    rw [hkeys]
    exact List.Nodup.map (fun a b hab => congrArg Prod.snd hab) (receipt_nodup p)
  generalize paidLedgerEntries r = es at hparts howner hreceipt htotal hfresh hnodup
  have hsum : forall w : PaymentLedgerEntry -> ℚ,
      (Table.createEachOnce entryKey ledger es).sumOf (fun _ e => w e) =
        ledger.sumOf (fun _ e => w e) + (es.map w).sum :=
    fun w => Table.sumOf_createEachOnce hfresh hnodup w
  have hzero : forall w : PaymentLedgerEntry -> ℚ, (forall e, e ∈ es -> w e = 0) ->
      (es.map w).sum = 0 := by
    intro w hw
    apply List.sum_eq_zero
    intro x hx
    obtain ⟨e, he, rfl⟩ := List.mem_map.mp hx
    exact hw e he
  refine ⟨h.keyed.createEachOnce es, h.formed, ?_, ?_, ?_, ?_, ?_, h.exclusive, ?_⟩
  · intro k e he hrefund
    rcases Table.of_findUnique_createEachOnce he with hbefore | hnew
    · exact h.refundEntry k e hbefore hrefund
    · exact absurd hrefund (hreceipt e hnew)
  · intro k e he hnot
    rcases Table.of_findUnique_createEachOnce he with hbefore | hnew
    · exact h.receiptEntry k e hbefore hnot
    · rw [howner e hnew]
      exact ⟨p, hp, htype⟩
  · intro i q hq hrefunded
    exact Table.holdsKey_createEachOnce.mpr (Or.inl (h.recorded i q hq hrefunded))
  · intro i q hq
    by_cases hi : i = r.id
    · right
      subst hi
      rw [hp, Option.some.injEq] at hq
      subst hq
      refine ⟨?_, ?_⟩
      · intro part hpart
        apply Table.holdsKey_createEachOnce.mpr
        right
        rw [← hparts] at hpart
        obtain ⟨e, he, rfl⟩ := List.mem_map.mp hpart
        apply List.mem_map.mpr
        exact ⟨e, he, by rw [← howner e he]; rfl⟩
      · unfold receiptsOf
        rw [hsum]
        have hbefore := receiptsOf_of_noReceipt hfree
        unfold receiptsOf at hbefore
        rw [hbefore, zero_add, ← htotal]
        congr 1
        apply List.map_congr_left
        intro e he
        exact if_pos ⟨howner e he, hreceipt e he⟩
    · have hother : forall e, e ∈ es -> ¬ (e.paymentId = i ∧ e.type ≠ .refund) := by
        rintro e he ⟨hsame, -⟩
        exact hi (hsame.symm.trans (howner e he))
      rcases h.booked i q hq with hnone | hbooked
      · left
        intro k e he hsame
        rcases Table.of_findUnique_createEachOnce he with hbefore | hnew
        · exact hnone k e hbefore hsame
        · exact absurd (hsame.symm.trans (howner e hnew)) hi
      · right
        refine ⟨?_, ?_⟩
        · intro part hpart
          exact Table.holdsKey_createEachOnce.mpr (Or.inl (hbooked.holds part hpart))
        · have hbefore := hbooked.total
          unfold receiptsOf at hbefore ⊢
          rw [hsum, hbefore, hzero _ fun e he => if_neg (hother e he), add_zero]
  · intro i q hq hrefunded hroot hnone
    exact h.earned i q hq hrefunded hroot hnone.of_created
  · intro S
    have hbefore := h.total S
    unfold refundsOf at hbefore ⊢
    rw [hsum, hbefore]
    have hnone : (es.map fun e =>
        if e.type = .refund ∧ S e.paymentId = true then e.amount else 0).sum = 0 :=
      hzero _ fun e he => if_neg fun hboth => hreceipt e he hboth.1
    rw [hnone, add_zero]

/-! ## The entry of a refunded payment -/

theorem LedgerSound.refunded (h : LedgerSound payments ledger) {r : PaymentRecord}
    {f : Payment -> Payment} (hp : payments.findUnique r.id = some r.row)
    (hstatus : r.row.status ≠ .refunded) (hcore : (f r.row).core = r.row.core)
    (hrefunded : (f r.row).status = .refunded)
    (hearned : r.row.parentPaymentId = none -> ¬ NoReceipt ledger r.id)
    (hchildren : forall j c, payments.findUnique j = some c -> r.row.parentPaymentId = none ->
      c.parentPaymentId = some r.id -> c.status ≠ .refunded)
    (hparent : forall k q, payments.findUnique k = some q -> q.parentPaymentId = none ->
      r.row.parentPaymentId = some k -> q.status ≠ .refunded) :
    LedgerSound (payments.update r.id f)
      (Table.createEachOnce entryKey ledger [MarketBridge.refundEntry r]) := by
  have hfresh : ledger.holdsKey entryKey (r.id, .refund) = false := by
    rw [Bool.eq_false_iff]
    intro hholds
    obtain ⟨k, e, he, hkey⟩ := Table.holdsKey_iff.mp hholds
    have howner : e.paymentId = r.id := congrArg Prod.fst hkey
    obtain ⟨q, hq, hqstatus, -⟩ := h.refundEntry k e he (congrArg Prod.snd hkey)
    rw [howner, hp, Option.some.injEq] at hq
    exact hstatus (hq ▸ hqstatus)
  have hcreated : Table.createEachOnce entryKey ledger [MarketBridge.refundEntry r] =
      ledger.create (MarketBridge.refundEntry r) := by
    show Table.createOnce entryKey ledger (MarketBridge.refundEntry r) = _
    unfold Table.createOnce
    have hkey : entryKey (MarketBridge.refundEntry r) = (r.id, .refund) := rfl
    rw [hkey, hfresh]
    rfl
  have hself : (payments.update r.id f).findUnique r.id = some (f r.row) := by
    rw [Table.findUnique_update_self, hp]
    rfl
  have hkept : forall i q', (payments.update r.id f).findUnique i = some q' ->
      exists q, payments.findUnique i = some q ∧ q'.core = q.core ∧
        (i ≠ r.id -> q' = q) := by
    intro i q' hq'
    by_cases hi : i = r.id
    · subst hi
      rw [hself, Option.some.injEq] at hq'
      subst hq'
      exact ⟨r.row, hp, hcore, fun hne => absurd rfl hne⟩
    · rw [Table.findUnique_update_ne hi] at hq'
      exact ⟨q', hq', rfl, fun _ => rfl⟩
  have hstays : forall i q, payments.findUnique i = some q ->
      exists q', (payments.update r.id f).findUnique i = some q' ∧ q'.core = q.core ∧
        (q.status = .refunded -> q'.status = .refunded) := by
    intro i q hq
    by_cases hi : i = r.id
    · subst hi
      rw [hp, Option.some.injEq] at hq
      subst hq
      exact ⟨f r.row, hself, hcore, fun _ => hrefunded⟩
    · exact ⟨q, by rw [Table.findUnique_update_ne hi]; exact hq, rfl, fun hq => hq⟩
  have hfind : forall k e, (ledger.create (MarketBridge.refundEntry r)).findUnique k = some e ->
      ledger.findUnique k = some e ∨ e = MarketBridge.refundEntry r := by
    intro k e he
    rw [Table.findUnique_create] at he
    split at he
    · exact Or.inr (Option.some.inj he).symm
    · exact Or.inl he
  have hholds : forall key, ledger.holdsKey entryKey key = true ->
      (ledger.create (MarketBridge.refundEntry r)).holdsKey entryKey key = true := by
    intro key hkey
    rw [← hcreated]
    exact Table.holdsKey_createEachOnce.mpr (Or.inl hkey)
  have hreceipts : forall i,
      receiptsOf (ledger.create (MarketBridge.refundEntry r)) i = receiptsOf ledger i := by
    intro i
    unfold receiptsOf
    rw [Table.sumOf_create, if_neg (by rintro ⟨-, hnot⟩; exact hnot rfl), add_zero]
  have hnoReceipt : forall i, NoReceipt (ledger.create (MarketBridge.refundEntry r)) i ->
      NoReceipt ledger i := by
    intro i hnone
    rw [← hcreated] at hnone
    exact hnone.of_created
  have hkeyed := h.keyed.createEachOnce [MarketBridge.refundEntry r]
  rw [hcreated] at hkeyed ⊢
  refine ⟨hkeyed, ?_, ?_, ?_, ?_, ?_, ?_, ?_, ?_⟩
  · intro i q' hq'
    obtain ⟨q, hq, hqcore, -⟩ := hkept i q' hq'
    exact WellFormed_core hqcore (h.formed i q hq)
  · intro k e he hrefund
    rcases hfind k e he with hbefore | rfl
    · obtain ⟨q, hq, hqstatus, hamount⟩ := h.refundEntry k e hbefore hrefund
      obtain ⟨q', hq', hqcore, hqstatus'⟩ := hstays _ q hq
      exact ⟨q', hq', hqstatus' hqstatus, by rw [Payment.core_amount hqcore]; exact hamount⟩
    · exact ⟨f r.row, hself, hrefunded, by rw [Payment.core_amount hcore]; rfl⟩
  · intro k e he hreceipt
    rcases hfind k e he with hbefore | rfl
    · obtain ⟨q, hq, htype⟩ := h.receiptEntry k e hbefore hreceipt
      obtain ⟨q', hq', hqcore, -⟩ := hstays _ q hq
      exact ⟨q', hq', by rw [Payment.core_type hqcore]; exact htype⟩
    · exact absurd rfl hreceipt
  · intro i q' hq' hqstatus
    by_cases hi : i = r.id
    · subst hi
      exact Table.holdsKey_of_findUnique (Table.findUnique_create_self ledger _)
    · obtain ⟨q, hq, -, hsame⟩ := hkept i q' hq'
      rw [hsame hi] at hqstatus
      exact hholds _ (h.recorded i q hq hqstatus)
  · intro i q' hq'
    obtain ⟨q, hq, hqcore, -⟩ := hkept i q' hq'
    rcases h.booked i q hq with hnone | hbooked
    · left
      intro k e he howner
      rcases hfind k e he with hbefore | rfl
      · exact hnone k e hbefore howner
      · rfl
    · right
      apply Booked_core hqcore
      refine ⟨fun part hpart => hholds _ (hbooked.holds part hpart), ?_⟩
      rw [hreceipts]
      exact hbooked.total
  · intro i q' hq' hqstatus hroot hnone
    obtain ⟨q, hq, hqcore, hsame⟩ := hkept i q' hq'
    rw [Payment.core_parentPaymentId hqcore] at hroot
    by_cases hi : i = r.id
    · subst hi
      rw [hp, Option.some.injEq] at hq
      subst hq
      exact hearned hroot (hnoReceipt _ hnone)
    · rw [hsame hi] at hqstatus
      exact h.earned i q hq hqstatus hroot (hnoReceipt _ hnone)
  · intro i j q' c' hq' hc' hroot hof hqstatus hcstatus
    obtain ⟨q, hq, hqcore, hqsame⟩ := hkept i q' hq'
    obtain ⟨c, hc, hccore, hcsame⟩ := hkept j c' hc'
    rw [Payment.core_parentPaymentId hqcore] at hroot
    rw [Payment.core_parentPaymentId hccore] at hof
    by_cases hi : i = r.id
    · subst hi
      rw [hp, Option.some.injEq] at hq
      subst hq
      have hj : j ≠ r.id := by
        rintro rfl
        rw [hp, Option.some.injEq] at hc
        rw [← hc, hroot] at hof
        cases hof
      rw [hcsame hj] at hcstatus
      exact hchildren j c hc hroot hof hcstatus
    · rw [hqsame hi] at hqstatus
      by_cases hj : j = r.id
      · subst hj
        rw [hp, Option.some.injEq] at hc
        subst hc
        exact hparent i q hq hroot hof hqstatus
      · rw [hcsame hj] at hcstatus
        exact h.exclusive i j q c hq hc hroot hof hqstatus hcstatus
  · intro S
    have hbefore := h.total S
    have hpayments := Table.sumOf_update hp f
      fun i p => if p.status = .refunded ∧ S i = true then p.amount else 0
    rw [if_neg (by rintro ⟨hsame, -⟩; exact hstatus hsame), add_zero] at hpayments
    unfold refundsOf refundedOf at hbefore ⊢
    rw [Table.sumOf_create, hpayments, hbefore]
    by_cases hS : S r.id = true
    · have hentry : (MarketBridge.refundEntry r).type = .refund ∧
          S (MarketBridge.refundEntry r).paymentId = true := ⟨rfl, hS⟩
      rw [if_pos hentry, if_pos ⟨hrefunded, hS⟩, Payment.core_amount hcore]
      show _ + -r.row.amount = _
      ring
    · have hentry : ¬ ((MarketBridge.refundEntry r).type = .refund ∧
          S (MarketBridge.refundEntry r).paymentId = true) := fun hboth => hS hboth.2
      rw [if_neg hentry, if_neg fun hboth => hS hboth.2]
      ring

end Sound

end MarketBridge
