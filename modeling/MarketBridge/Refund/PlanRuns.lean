import Mathlib.Data.List.Induction
import MarketBridge.Refund.PlanCompletion

/-!
# Runs of the refund of an installment plan

Every transaction is followed from its first statement to its commit.  The
invariant of the session says how far each one is, what is committed so far, and
that the parent is refunded exactly once some transaction has read last.
-/

namespace MarketBridge

open Relational

/-! ## How far a transaction is -/

section Plan

variable (db : Db) (parentId : Id) (parent : Payment) (refunds : List (Env × Id))

/-- Transaction `k` closes the plan: nothing else is held when it reads. -/
def Closes (steps : List Nat) (k : Nat) : Prop :=
  NoReplacedHeld db parentId ∧ ReadsLast db refunds steps k

/-- How far transaction `k`, which completes the refund `j`, is after the steps. -/
inductive Phase (steps : List Nat) (s : RefundSession) (k : Nat) (env : Env) (j : Id)
    (r : PaymentRefund) (child : Payment) : Running ApiError Db -> Prop where
  | opened (hcount : steps.count k = 0) :
      Phase steps s k env j r child (.inFlight id (completeRefundTxn env j))
  | loaded (hcount : steps.count k = 1) :
      Phase steps s k env j r child (.inFlight id (checkOrder env j r.paymentId child))
  | checked (hcount : steps.count k = 2) :
      Phase steps s k env j r child (.inFlight id (claimRefund env j r.paymentId child))
  | claimed (hcount : steps.count k = 3) :
      Phase steps s k env j r child
        (.inFlight (moveRefundRow j PaymentRefundStatus.isOpen (·.complete env.now))
          (refundPayment env r.paymentId child))
  | refunded (hcount : steps.count k = 4) :
      Phase steps s k env j r child
        (.inFlight (childWrites env j r.paymentId) (readParent env child parentId))
  | parentRead (hcount : steps.count k = 5) :
      Phase steps s k env j r child
        (.inFlight (childWrites env j r.paymentId) (readInstallments env child parentId parent))
  | leaving (own : Db -> Db) (rest : Txn ApiError Db) (f : Db -> Db) (hcount : 6 ≤ steps.count k)
      (hrest : rest.StraightLine f) (hwrites : f ∘ own = leaveWrites env j r.paymentId child)
      (hcloses : ¬ Closes db parentId refunds steps k) :
      Phase steps s k env j r child (.inFlight own rest)
  | closing (own : Db -> Db) (rest : Txn ApiError Db) (f : Db -> Db) (hcount : 6 ≤ steps.count k)
      (hrest : rest.StraightLine f)
      (hwrites : f ∘ own = closeWrites env j r.paymentId child parentId parent)
      (hcloses : Closes db parentId refunds steps k)
      (hothers : forall i, i < refunds.length -> i ≠ k -> s.IsCommitted i) :
      Phase steps s k env j r child (.inFlight own rest)
  | committed (hcount : 6 ≤ steps.count k) : Phase steps s k env j r child .committed
  | aborted : Phase steps s k env j r child .aborted

/-- The session after the steps. -/
structure PlanInv (steps : List Nat) (s : RefundSession) : Prop where
  phases : forall (k : Nat) e, refunds[k]? = some e ->
    exists r child t, IsRefunding db parentId e.2 r child ∧ s.txns[k]? = some t ∧
      Phase db parentId parent refunds steps s k e.1 e.2 r child t
  outside : forall (k : Nat), refunds[k]? = none -> s.txns[k]? = none
  /-- Only its own transaction writes a refund and its installment. -/
  kept : forall (k : Nat) e r, refunds[k]? = some e -> db.refunds.findUnique e.2 = some r ->
    ¬ s.IsCommitted k ->
      s.state.refunds.findUnique e.2 = some r ∧
      s.state.payments.findUnique r.paymentId = db.payments.findUnique r.paymentId
  returned : forall (k : Nat) e r, refunds[k]? = some e -> db.refunds.findUnique e.2 = some r ->
    s.IsCommitted k -> IsPaymentStatus s.state r.paymentId .refunded
  others : forall i, i ≠ parentId ->
    (forall (k : Nat) e r, refunds[k]? = some e -> db.refunds.findUnique e.2 = some r ->
      r.paymentId ≠ i) ->
    s.state.payments.findUnique i = db.payments.findUnique i
  parent :
    (s.state.payments.findUnique parentId = some parent ∧
      s.state.obligations = db.obligations ∧
      forall (k : Nat), k < refunds.length -> s.IsCommitted k ->
        ¬ Closes db parentId refunds steps k) ∨
    (ParentRefunded s.state parentId parent ∧ installmentsHeld s.state parentId = false ∧
      AllCommitted refunds s ∧
      exists k, k < refunds.length ∧ Closes db parentId refunds steps k)

end Plan

theorem Closes.append_iff {db : Db} {parentId : Id} {refunds : List (Env × Id)}
    {steps : List Nat} {k x : Nat} (hdone : x ≠ k ∨ steps.count k ≠ 5) :
    Closes db parentId refunds (steps ++ [x]) k ↔ Closes db parentId refunds steps k := by
  unfold Closes
  rw [readsLast_append_iff hdone]

theorem Phase.other {db : Db} {parentId : Id} {parent : Payment} {refunds : List (Env × Id)}
    {steps : List Nat} {s s' : RefundSession} {k : Nat} {env : Env} {j : Id} {r : PaymentRefund}
    {child : Payment} {t : Running ApiError Db} {x : Nat}
    (h : Phase db parentId parent refunds steps s k env j r child t) (hx : x ≠ k)
    (hcommitted : forall i, s.IsCommitted i -> s'.IsCommitted i) :
    Phase db parentId parent refunds (steps ++ [x]) s' k env j r child t := by
  have hcount : (steps ++ [x]).count k = steps.count k := by
    simp [hx]
  have hcloses := @Closes.append_iff db parentId refunds steps k x (Or.inl hx)
  cases h with
  | opened h => exact .opened (hcount.trans h)
  | loaded h => exact .loaded (hcount.trans h)
  | checked h => exact .checked (hcount.trans h)
  | claimed h => exact .claimed (hcount.trans h)
  | refunded h => exact .refunded (hcount.trans h)
  | parentRead h => exact .parentRead (hcount.trans h)
  | leaving own rest f h hrest hwrites hnot =>
      exact .leaving own rest f (hcount ▸ h) hrest hwrites (hcloses.not.2 hnot)
  | closing own rest f h hrest hwrites hyes hothers =>
      exact .closing own rest f (hcount ▸ h) hrest hwrites (hcloses.2 hyes)
        fun i hi hne => hcommitted i (hothers i hi hne)
  | committed h => exact .committed (hcount ▸ h)
  | aborted => exact .aborted

/-! ## What a transaction sees -/

section Views

variable {db : Db} {parentId : Id} {parent : Payment} {refunds : List (Env × Id)}
  {steps : List Nat} {s : RefundSession}

variable {r : PaymentRefund} {child : Payment} {k : Nat} {e : Env × Id} {own : Db -> Db}

theorem IsRefunding.ne_parent (hplan : RefundingPlan db parentId parent refunds) {j : Id}
    (h : IsRefunding db parentId j r child) :
    r.paymentId ≠ parentId := by
  intro hsame
  have hfound := h.payment
  rw [hsame, hplan.found, Option.some.injEq] at hfound
  have hroot := hplan.root
  rw [hfound, h.ofPlan] at hroot
  cases hroot

theorem PlanInv.parent_of_inFlight (h : PlanInv db parentId parent refunds steps s)
    (hk : k < refunds.length) (hflight : ¬ s.IsCommitted k) :
    s.state.payments.findUnique parentId = some parent ∧
      s.state.obligations = db.obligations ∧
      forall (i : Nat), i < refunds.length -> s.IsCommitted i ->
        ¬ Closes db parentId refunds steps i := by
  cases h.parent with
  | inl hkept => exact hkept
  | inr hclosed => exact absurd (hclosed.2.2.1 k hk) hflight

/-- The plan as transaction `k` sees it once it has refunded its installment. -/
theorem PlanInv.installmentsHeld_iff (hplan : RefundingPlan db parentId parent refunds)
    (h : PlanInv db parentId parent refunds steps s) (hk : refunds[k]? = some e)
    (hr : db.refunds.findUnique e.2 = some r) (hflight : ¬ s.IsCommitted k) {view : Db}
    (hview : view.payments = s.state.payments.update r.paymentId (·.withStatus .refunded)) :
    installmentsHeld view parentId = false ↔
      NoReplacedHeld db parentId ∧
        forall i, i < refunds.length -> i ≠ k -> s.IsCommitted i := by
  have hlt : k < refunds.length := (List.getElem?_eq_some_iff.1 hk).1
  obtain ⟨r', child, hchild⟩ := hplan.refunding k e hk
  obtain rfl : r = r' := Option.some.inj (hr.symm.trans hchild.refund)
  unfold installmentsHeld
  rw [Table.any_eq_false_iff, hview]
  constructor
  · intro hfree
    constructor
    · intro i q hq hparent hreplaced hheld
      have hne : i ≠ parentId := by
        rintro rfl
        rw [hplan.found, Option.some.injEq] at hq
        rw [← hq, hplan.root] at hparent
        cases hparent
      have hown : forall (m : Nat) f (x : PaymentRefund), refunds[m]? = some f ->
          db.refunds.findUnique f.2 = some x -> x.paymentId ≠ i := by
        intro m f x hm hx hsame
        obtain ⟨x', q', hq'⟩ := hplan.refunding m f hm
        obtain rfl : x = x' := Option.some.inj (hx.symm.trans hq'.refund)
        have hrow := hq'.payment
        rw [hsame, hq, Option.some.injEq] at hrow
        have hlive := hq'.live
        rw [← hrow, hreplaced] at hlive
        cases hlive
      have hseen := hfree i q (by
        rw [Table.findUnique_update_ne fun hi => hown k e r hk hr hi.symm, h.others i hne hown]
        exact hq)
      simp [hparent, hheld] at hseen
    · intro i hi hne
      by_contra hopen
      obtain ⟨f, hf⟩ : exists f, refunds[i]? = some f := ⟨_, List.getElem?_eq_getElem hi⟩
      obtain ⟨x, q, hq⟩ := hplan.refunding i f hf
      have hother : x.paymentId ≠ r.paymentId := fun hsame =>
        hne (hplan.distinct i k f e x r hf hk hq.refund hr hsame)
      have hseen := hfree x.paymentId q (by
        rw [Table.findUnique_update_ne hother, (h.kept i f x hf hq.refund hopen).2]
        exact hq.payment)
      simp [hq.ofPlan, hq.pending] at hseen
  · rintro ⟨hreplaced, hothers⟩ i q hq
    by_cases hsame : i = r.paymentId
    · rw [Table.findUnique_update, if_pos hsame] at hq
      obtain ⟨p, -, rfl⟩ := Option.map_eq_some_iff.1 hq
      simp
    · rw [Table.findUnique_update_ne hsame] at hq
      by_cases hparent : q.parentPaymentId = some parentId
      · have hne : i ≠ parentId := by
          rintro rfl
          rw [(h.parent_of_inFlight hlt hflight).1, Option.some.injEq] at hq
          rw [← hq, hplan.root] at hparent
          cases hparent
        by_cases hown : exists (m : Nat) (f : Env × Id) (x : PaymentRefund),
            refunds[m]? = some f ∧ db.refunds.findUnique f.2 = some x ∧ x.paymentId = i
        · obtain ⟨m, f, x, hm, hx, rfl⟩ := hown
          have hmk : m ≠ k := by
            rintro rfl
            obtain rfl : f = e := Option.some.inj (hm.symm.trans hk)
            exact hsame (by rw [Option.some.inj (hx.symm.trans hr)])
          have hmlt : m < refunds.length := (List.getElem?_eq_some_iff.1 hm).1
          obtain ⟨p, hp, hs⟩ := h.returned m f x hm hx (hothers m hmlt hmk)
          obtain rfl : q = p := Option.some.inj (hq.symm.trans hp)
          simp [hs]
        · have hdb : db.payments.findUnique i = some q := by
            rw [← h.others i hne fun m f x hm hx hxi => hown ⟨m, f, x, hm, hx, hxi⟩]
            exact hq
          have hdead : q.installmentSequence = none := by
            by_contra hlive
            exact hown (hplan.covered i q hdb hparent (Option.isSome_iff_ne_none.2 hlive))
          simpa [hparent] using hreplaced i q hdb hparent hdead
      · simp [hparent]

/-! ## Steps -/

theorem PlanInv.count_of_committed (h : PlanInv db parentId parent refunds steps s)
    (hk : k < refunds.length) (hcommitted : s.IsCommitted k) :
    6 ≤ steps.count k := by
  obtain ⟨r, child, t, -, ht, hphase⟩ := h.phases k _ (List.getElem?_eq_getElem hk)
  obtain rfl : t = .committed := Option.some.inj (ht.symm.trans hcommitted)
  cases hphase with
  | committed hcount => exact hcount

/-- The part of the invariant about the parent, when nothing is committed by the step. -/
theorem PlanInv.parent_kept (h : PlanInv db parentId parent refunds steps s) {s' : RefundSession}
    (hstate : s'.state = s.state)
    (hcommitted : forall i, i < refunds.length -> (s'.IsCommitted i ↔ s.IsCommitted i)) :
    (s'.state.payments.findUnique parentId = some parent ∧
      s'.state.obligations = db.obligations ∧
      forall (i : Nat), i < refunds.length -> s'.IsCommitted i ->
        ¬ Closes db parentId refunds (steps ++ [k]) i) ∨
    (ParentRefunded s'.state parentId parent ∧ installmentsHeld s'.state parentId = false ∧
      AllCommitted refunds s' ∧
      exists i, i < refunds.length ∧ Closes db parentId refunds (steps ++ [k]) i) := by
  rw [hstate]
  cases h.parent with
  | inl hkept =>
      obtain ⟨hfound, hobligations, hnot⟩ := hkept
      refine Or.inl ⟨hfound, hobligations, ?_⟩
      intro i hi hdone
      have hbefore := (hcommitted i hi).1 hdone
      have hcount := h.count_of_committed hi hbefore
      rw [Closes.append_iff (Or.inr (by omega))]
      exact hnot i hi hbefore
  | inr hclosed =>
      obtain ⟨hrefunded, hfree, hall, i, hi, hreplaced, hlast⟩ := hclosed
      refine Or.inr ⟨hrefunded, hfree, ?_, i, hi, hreplaced, readsLast_append k hlast⟩
      intro m hm
      exact (hcommitted m hm).2 (hall m hm)

theorem PlanInv.idle (h : PlanInv db parentId parent refunds steps s)
    (hidle : forall own rest, s.txns[k]? ≠ some (.inFlight own rest)) :
    PlanInv db parentId parent refunds (steps ++ [k]) s := by
  refine ⟨?_, h.outside, h.kept, h.returned, h.others, h.parent_kept rfl fun _ _ => Iff.rfl⟩
  intro i e hi
  obtain ⟨r, child, t, hchild, ht, hphase⟩ := h.phases i e hi
  refine ⟨r, child, t, hchild, ht, ?_⟩
  by_cases hik : k = i
  · subst hik
    cases hphase with
    | committed hcount =>
        apply Phase.committed
        rw [List.count_append]
        omega
    | aborted => exact .aborted
    | _ => exact absurd ht (hidle _ _)
  · exact hphase.other hik fun _ hdone => hdone

/-- A statement, or an abort: transaction `k` moves on and nothing is committed. -/
theorem PlanInv.moved (h : PlanInv db parentId parent refunds steps s) {k : Nat} {e : Env × Id}
    {r : PaymentRefund} {child : Payment} {own : Db -> Db} {rest : Txn ApiError Db}
    {t' : Running ApiError Db} (hk : refunds[k]? = some e)
    (hchild : IsRefunding db parentId e.2 r child)
    (hflight : s.txns[k]? = some (.inFlight own rest)) (ht' : t' ≠ .committed)
    (hphase : Phase db parentId parent refunds (steps ++ [k]) { s with txns := s.txns.set k t' }
      k e.1 e.2 r child t') :
    PlanInv db parentId parent refunds (steps ++ [k]) { s with txns := s.txns.set k t' } := by
  have hcommitted : forall i, Session.IsCommitted { s with txns := s.txns.set k t' } i ↔
      s.IsCommitted i := by
    intro i
    unfold Session.IsCommitted
    rw [Session.getElem?_set hflight]
    by_cases hi : i = k
    · subst hi
      simp [hflight, ht']
    · simp [hi]
  refine ⟨?_, ?_, ?_, ?_, h.others, h.parent_kept rfl fun i _ => hcommitted i⟩
  · intro i f hi
    by_cases hik : i = k
    · subst hik
      obtain rfl : e = f := Option.some.inj (hk.symm.trans hi)
      exact ⟨r, child, t', hchild, by rw [Session.getElem?_set hflight, if_pos rfl], hphase⟩
    · obtain ⟨r', child', t, hchild', ht, hphase'⟩ := h.phases i f hi
      refine ⟨r', child', t, hchild', ?_, ?_⟩
      · rw [Session.getElem?_set hflight, if_neg hik]
        exact ht
      · exact hphase'.other (fun hki => hik hki.symm) fun m hm => (hcommitted m).2 hm
  · intro i hi
    have hik : i ≠ k := by
      rintro rfl
      rw [hk] at hi
      cases hi
    rw [Session.getElem?_set hflight, if_neg hik]
    exact h.outside i hi
  · intro i f x hi hx hopen
    exact h.kept i f x hi hx fun hdone => hopen ((hcommitted i).2 hdone)
  · intro i f x hi hx hdone
    exact h.returned i f x hi hx ((hcommitted i).1 hdone)

theorem count_append_self {steps : List Nat} {n : Nat} (h : steps.count k = n) :
    (steps ++ [k]).count k = n + 1 := by
  simp [h]

/-- A statement of transaction `k` takes it to its next phase. -/
theorem PlanInv.issued (hplan : RefundingPlan db parentId parent refunds)
    (hs : s = refundsAfter db refunds steps) (h : PlanInv db parentId parent refunds steps s)
    {t : Running ApiError Db} {check : Db -> Except ApiError Unit} {write : Db -> Db}
    {next : Db -> Txn ApiError Db} (hk : refunds[k]? = some e)
    (hchild : IsRefunding db parentId e.2 r child)
    (hphase : Phase db parentId parent refunds steps s k e.1 e.2 r child t)
    (ht : t = .inFlight own (.statement check write next)) (hflight : ¬ s.IsCommitted k)
    {s' : RefundSession} (hcommitted : forall i, s.IsCommitted i -> s'.IsCommitted i) :
    Phase db parentId parent refunds (steps ++ [k]) s' k e.1 e.2 r child
      (.inFlight (write ∘ own) (next (own s.state))) := by
  have hlt : k < refunds.length := (List.getElem?_eq_some_iff.1 hk).1
  obtain ⟨hrefund, hrow⟩ := h.kept k e r hk hchild.refund hflight
  rw [hchild.payment] at hrow
  cases hphase with
  | opened hcount =>
      obtain ⟨rfl, hprogram⟩ := Running.inFlight.inj ht
      unfold completeRefundTxn Txn.read at hprogram
      obtain ⟨-, rfl, rfl⟩ := Txn.statement.inj hprogram
      simp only [id_eq, hrefund, hchild.processing, reduceCtorEq, if_false,
        PaymentRefundStatus.isOpen, List.mem_cons, true_or, or_true, decide_true, Bool.not_true,
        Bool.false_eq_true, hrow]
      exact .loaded (count_append_self hcount)
  | loaded hcount =>
      obtain ⟨rfl, hprogram⟩ := Running.inFlight.inj ht
      unfold checkOrder at hprogram
      obtain ⟨-, rfl, rfl⟩ := Txn.statement.inj hprogram
      rw [hchild.pending]
      exact .checked (count_append_self hcount)
  | checked hcount =>
      obtain ⟨rfl, hprogram⟩ := Running.inFlight.inj ht
      unfold claimRefund at hprogram
      obtain ⟨-, rfl, rfl⟩ := Txn.statement.inj hprogram
      have hclaims : claimsRefund e.2 PaymentRefundStatus.isOpen s.state = true := by
        simp [claimsRefund, hrefund, hchild.processing, PaymentRefundStatus.isOpen]
      simp only [id_eq, hclaims, if_true]
      exact .claimed (count_append_self hcount)
  | claimed hcount =>
      obtain ⟨rfl, hprogram⟩ := Running.inFlight.inj ht
      unfold refundPayment at hprogram
      obtain ⟨-, rfl, rfl⟩ := Txn.statement.inj hprogram
      unfold afterRefund
      rw [hchild.ofPlan]
      exact .refunded (count_append_self hcount)
  | refunded hcount =>
      obtain ⟨rfl, hprogram⟩ := Running.inFlight.inj ht
      unfold readParent Txn.read at hprogram
      obtain ⟨-, rfl, rfl⟩ := Txn.statement.inj hprogram
      have hparent : (childWrites e.1 e.2 r.paymentId s.state).payments.findUnique parentId =
          some parent := by
        rw [childWrites_payments, Table.findUnique_update_ne (hchild.ne_parent hplan).symm]
        exact (h.parent_of_inFlight hlt hflight).1
      simp only [hparent]
      exact .parentRead (count_append_self hcount)
  | parentRead hcount =>
      obtain ⟨rfl, hprogram⟩ := Running.inFlight.inj ht
      unfold readInstallments Txn.read at hprogram
      obtain ⟨-, rfl, rfl⟩ := Txn.statement.inj hprogram
      have hseen := h.installmentsHeld_iff hplan hk hchild.refund hflight
        (childWrites_payments e.1 e.2 r.paymentId s.state)
      have hcloses : Closes db parentId refunds (steps ++ [k]) k ↔
          NoReplacedHeld db parentId ∧
            forall i, i < refunds.length -> i ≠ k -> s.IsCommitted i := by
        unfold Closes
        rw [readsLast_of_sixth hcount, ← hs]
      have hdone : 6 ≤ (steps ++ [k]).count k := (count_append_self hcount).ge
      -- The sixth statement decides, from the installments as they are now.
      cases hheld : installmentsHeld (childWrites e.1 e.2 r.paymentId s.state) parentId with
      | false =>
          simp only [hplan.isParent, hplan.pending, hheld, decide_true, Bool.and_self,
            Bool.not_false, if_true]
          have hyes := hseen.1 hheld
          refine .closing _ _ _ hdone (.statement _ _ _ _ (.write (.write .commit))) rfl
            (hcloses.2 hyes) ?_
          intro i hi hne
          exact hcommitted i (hyes.2 i hi hne)
      | true =>
          simp only [hheld, Bool.not_true, Bool.and_false, Bool.false_eq_true, if_false]
          refine .leaving _ _ _ hdone (.write .commit) rfl ?_
          intro hyes
          rw [hseen.2 (hcloses.1 hyes)] at hheld
          cases hheld
  | leaving _ _ f hcount hrest hwrites hnot =>
      obtain ⟨rfl, rfl⟩ := Running.inFlight.inj ht
      cases hrest with
      | statement _ _ rest g hline =>
          refine .leaving _ _ g ?_ hline hwrites ?_
          · rw [List.count_append]
            omega
          · rw [Closes.append_iff (Or.inr (by omega))]
            exact hnot
  | closing _ _ f hcount hrest hwrites hyes hothers =>
      obtain ⟨rfl, rfl⟩ := Running.inFlight.inj ht
      cases hrest with
      | statement _ _ rest g hline =>
          refine .closing _ _ g ?_ hline hwrites ?_ ?_
          · rw [List.count_append]
            omega
          · rw [Closes.append_iff (Or.inr (by omega))]
            exact hyes
          · intro i hi hne
            exact hcommitted i (hothers i hi hne)
  | committed => cases ht
  | aborted => cases ht

/-- Transaction `k` commits: its refund and its installment are what it has written. -/
theorem PlanInv.of_commit (hplan : RefundingPlan db parentId parent refunds)
    (h : PlanInv db parentId parent refunds steps s) {k : Nat} {e : Env × Id}
    {r : PaymentRefund} {child : Payment} {own : Db -> Db} (hk : refunds[k]? = some e)
    (hchild : IsRefunding db parentId e.2 r child)
    (htxn : s.txns[k]? = some (.inFlight own .commit)) (hcount : 6 ≤ steps.count k)
    (hpayments : forall i, i ≠ parentId -> (own s.state).payments.findUnique i =
      (s.state.payments.update r.paymentId (·.withStatus .refunded)).findUnique i)
    (hrefunds : forall i, i ≠ e.2 ->
      (own s.state).refunds.findUnique i = s.state.refunds.findUnique i)
    (hparent :
      ((own s.state).payments.findUnique parentId = some parent ∧
        (own s.state).obligations = db.obligations ∧
        ¬ Closes db parentId refunds steps k) ∨
      (ParentRefunded (own s.state) parentId parent ∧
        installmentsHeld (own s.state) parentId = false ∧
        (forall i, i < refunds.length -> i ≠ k -> s.IsCommitted i) ∧
        Closes db parentId refunds steps k)) :
    PlanInv db parentId parent refunds (steps ++ [k])
      { state := own s.state
        txns := s.txns.set k .committed } := by
  have hlt : k < refunds.length := (List.getElem?_eq_some_iff.1 hk).1
  have hflight : ¬ s.IsCommitted k := by
    intro hdone
    rw [show s.txns[k]? = some .committed from hdone] at htxn
    cases htxn
  have hcommitted : forall i, Session.IsCommitted
      { state := own s.state
        txns := s.txns.set k .committed } i ↔ i = k ∨ s.IsCommitted i := by
    intro i
    unfold Session.IsCommitted
    rw [Session.getElem?_set htxn]
    by_cases hi : i = k <;> simp [hi]
  have hkept := (h.kept k e r hk hchild.refund hflight).2
  refine ⟨?_, ?_, ?_, ?_, ?_, ?_⟩
  · intro i f hi
    obtain ⟨r', child', t, hchild', ht, hphase⟩ := h.phases i f hi
    by_cases hik : i = k
    · subst hik
      refine ⟨r', child', .committed, hchild', (hcommitted i).2 (Or.inl rfl), .committed ?_⟩
      rw [List.count_append]
      omega
    · refine ⟨r', child', t, hchild', ?_, ?_⟩
      · rw [Session.getElem?_set htxn, if_neg hik]
        exact ht
      · exact hphase.other (fun hki => hik hki.symm) fun m hm => (hcommitted m).2 (Or.inr hm)
  · intro i hi
    have hik : i ≠ k := by
      rintro rfl
      rw [hk] at hi
      cases hi
    rw [Session.getElem?_set htxn, if_neg hik]
    exact h.outside i hi
  · intro i f x hi hx hopen
    rw [hcommitted, not_or] at hopen
    obtain ⟨hik, hopen⟩ := hopen
    obtain ⟨x', child', hother⟩ := hplan.refunding i f hi
    obtain rfl : x = x' := Option.some.inj (hx.symm.trans hother.refund)
    have hpayment : x.paymentId ≠ r.paymentId := fun hsame =>
      hik (hplan.distinct i k f e x r hi hk hx hchild.refund hsame)
    have hrefund : f.2 ≠ e.2 := by
      intro hsame
      rw [hsame, hchild.refund, Option.some.injEq] at hx
      exact hpayment (by rw [hx])
    obtain ⟨hrow, hsame⟩ := h.kept i f x hi hother.refund hopen
    refine ⟨(hrefunds _ hrefund).trans hrow, ?_⟩
    rw [hpayments _ (hother.ne_parent hplan), Table.findUnique_update_ne hpayment]
    exact hsame
  · intro i f x hi hx hdone
    obtain ⟨x', child', hother⟩ := hplan.refunding i f hi
    obtain rfl : x = x' := Option.some.inj (hx.symm.trans hother.refund)
    unfold IsPaymentStatus
    rw [hpayments _ (hother.ne_parent hplan)]
    by_cases hsame : x.paymentId = r.paymentId
    · rw [hsame, Table.findUnique_update_self, hkept, hchild.payment]
      exact ⟨_, rfl, rfl⟩
    · rw [Table.findUnique_update_ne hsame]
      cases (hcommitted i).1 hdone with
      | inl hik =>
          subst hik
          obtain rfl : e = f := Option.some.inj (hk.symm.trans hi)
          exact absurd (by rw [Option.some.inj (hx.symm.trans hchild.refund)]) hsame
      | inr hbefore =>
          exact h.returned i f x hi hx hbefore
  · intro i hi hown
    rw [hpayments i hi, Table.findUnique_update_ne fun hsame =>
      hown k e r hk hchild.refund hsame.symm]
    exact h.others i hi hown
  · have happend : Closes db parentId refunds (steps ++ [k]) k ↔
        Closes db parentId refunds steps k :=
      Closes.append_iff (Or.inr (by omega))
    cases hparent with
    | inl hleft =>
        obtain ⟨hfound, hobligations, hnot⟩ := hleft
        refine Or.inl ⟨hfound, hobligations, ?_⟩
        intro i hi hdone
        by_cases hik : i = k
        · subst hik
          exact happend.not.2 hnot
        · have hbefore := ((hcommitted i).1 hdone).resolve_left hik
          rw [Closes.append_iff (Or.inl fun hki => hik hki.symm)]
          exact (h.parent_of_inFlight hlt hflight).2.2 i hi hbefore
    | inr hright =>
        obtain ⟨hrefunded, hfree, hothers, hyes⟩ := hright
        refine Or.inr ⟨hrefunded, hfree, ?_, k, hlt, happend.2 hyes⟩
        intro i hi
        by_cases hik : i = k
        · exact (hcommitted i).2 (Or.inl hik)
        · exact (hcommitted i).2 (Or.inr (hothers i hi hik))

theorem PlanInv.committed (hplan : RefundingPlan db parentId parent refunds)
    (h : PlanInv db parentId parent refunds steps s) {t : Running ApiError Db}
    (hk : refunds[k]? = some e) (hchild : IsRefunding db parentId e.2 r child)
    (htxn : s.txns[k]? = some (.inFlight own .commit))
    (hphase : Phase db parentId parent refunds steps s k e.1 e.2 r child t)
    (ht : t = .inFlight own .commit) :
    PlanInv db parentId parent refunds (steps ++ [k])
      { state := own s.state
        txns := s.txns.set k .committed } := by
  have hlt : k < refunds.length := (List.getElem?_eq_some_iff.1 hk).1
  have hflight : ¬ s.IsCommitted k := by
    intro hdone
    rw [show s.txns[k]? = some .committed from hdone] at htxn
    cases htxn
  have hne := hchild.ne_parent hplan
  obtain ⟨hfound, hobligations, -⟩ := h.parent_of_inFlight hlt hflight
  cases hphase with
  | leaving _ _ f hcount hrest hwrites hnot =>
      obtain ⟨hown, rfl⟩ := Running.inFlight.inj ht
      cases hrest
      obtain rfl : own = leaveWrites e.1 e.2 r.paymentId child := hown.symm.trans hwrites
      refine h.of_commit hplan hk hchild htxn hcount ?_ ?_ (Or.inl ⟨?_, ?_, hnot⟩)
      · intro i _
        rw [leaveWrites_payments]
      · intro i hi
        exact leaveWrites_refunds_of_ne _ _ _ _ _ hi
      · rw [leaveWrites_payments, Table.findUnique_update_ne hne.symm]
        exact hfound
      · rw [leaveWrites_obligations]
        exact hobligations
  | closing _ _ f hcount hrest hwrites hyes hothers =>
      obtain ⟨hown, rfl⟩ := Running.inFlight.inj ht
      cases hrest
      obtain rfl : own = closeWrites e.1 e.2 r.paymentId child parentId parent := hown.symm.trans hwrites
      have hseen := (h.installmentsHeld_iff hplan hk hchild.refund hflight
        (childWrites_payments e.1 e.2 r.paymentId s.state)).2 ⟨hyes.1, hothers⟩
      refine h.of_commit hplan hk hchild htxn hcount ?_ ?_ (Or.inr ⟨⟨?_, ?_⟩, ?_, hothers, hyes⟩)
      · intro i hi
        rw [closeWrites_payments, Table.findUnique_update_ne hi]
      · intro i hi
        exact closeWrites_refunds_of_ne _ _ _ _ _ _ _ hi
      · refine ⟨parent.withStatus .refunded, ?_, rfl⟩
        rw [closeWrites_payments, Table.findUnique_update_self,
          Table.findUnique_update_ne hne.symm, hfound]
        rfl
      · intro o ho
        obtain ⟨b, hb⟩ := hplan.obligation o ho
        rw [← hobligations] at hb
        exact closeWrites_obligation _ _ _ _ _ _ _ ho hb
      · unfold installmentsHeld at hseen ⊢
        rw [childWrites_payments, Table.any_eq_false_iff] at hseen
        rw [closeWrites_payments, Table.any_eq_false_iff]
        intro i q hq
        by_cases hi : i = parentId
        · subst hi
          rw [Table.findUnique_update_self, Table.findUnique_update_ne hne.symm, hfound,
            Option.map_some, Option.some.injEq] at hq
          rw [← hq]
          simp [Payment.withStatus, hplan.root]
        · rw [Table.findUnique_update_ne hi] at hq
          exact hseen i q hq
  | committed => cases ht
  | aborted => cases ht
  | opened => exact absurd (Running.inFlight.inj ht).2 (by simp [completeRefundTxn, Txn.read])
  | loaded => exact absurd (Running.inFlight.inj ht).2 (by simp [checkOrder])
  | checked => exact absurd (Running.inFlight.inj ht).2 (by simp [claimRefund])
  | claimed => exact absurd (Running.inFlight.inj ht).2 (by simp [refundPayment])
  | refunded => exact absurd (Running.inFlight.inj ht).2 (by simp [readParent, Txn.read])
  | parentRead => exact absurd (Running.inFlight.inj ht).2 (by simp [readInstallments, Txn.read])

theorem PlanInv.step (hplan : RefundingPlan db parentId parent refunds)
    (hs : s = refundsAfter db refunds steps) (h : PlanInv db parentId parent refunds steps s)
    (k : Nat) :
    PlanInv db parentId parent refunds (steps ++ [k]) (s.step k) := by
  have hmono := fun i (hi : s.IsCommitted i) => hi.step k
  have hstep := Session.step_of s k
  generalize s.step k = s' at hstep hmono ⊢
  cases hstep with
  | idle hidle =>
      exact h.idle hidle
  | aborted own rest htxn =>
      obtain ⟨e, hk⟩ : exists e, refunds[k]? = some e := by
        cases hk : refunds[k]? with
        | none =>
            rw [h.outside k hk] at htxn
            cases htxn
        | some e => exact ⟨e, rfl⟩
      obtain ⟨r, child, t, hchild, -, -⟩ := h.phases k e hk
      exact h.moved hk hchild htxn (by simp) .aborted
  | issued own check write next htxn hcheck =>
      obtain ⟨e, hk⟩ : exists e, refunds[k]? = some e := by
        cases hk : refunds[k]? with
        | none =>
            rw [h.outside k hk] at htxn
            cases htxn
        | some e => exact ⟨e, rfl⟩
      obtain ⟨r, child, t, hchild, ht, hphase⟩ := h.phases k e hk
      have hflight : ¬ s.IsCommitted k := by
        intro hdone
        rw [show s.txns[k]? = some .committed from hdone] at htxn
        cases htxn
      exact h.moved hk hchild htxn (by simp)
        (h.issued hplan hs hk hchild hphase (Option.some.inj (ht.symm.trans htxn)) hflight hmono)
  | committed own htxn =>
      obtain ⟨e, hk⟩ : exists e, refunds[k]? = some e := by
        cases hk : refunds[k]? with
        | none =>
            rw [h.outside k hk] at htxn
            cases htxn
        | some e => exact ⟨e, rfl⟩
      obtain ⟨r, child, t, hchild, ht, hphase⟩ := h.phases k e hk
      exact h.committed hplan hk hchild htxn hphase (Option.some.inj (ht.symm.trans htxn))

/-! ## Runs -/

theorem refundsAfter_append (db : Db) (refunds : List (Env × Id)) (steps : List Nat) (k : Nat) :
    refundsAfter db refunds (steps ++ [k]) = (refundsAfter db refunds steps).step k := by
  unfold refundsAfter
  rw [run_append]
  rfl

theorem planInv_start (hplan : RefundingPlan db parentId parent refunds) :
    PlanInv db parentId parent refunds [] (startRefunds db refunds) := by
  have htxns : forall (k : Nat), (startRefunds db refunds).txns[k]? =
      refunds[k]?.map fun e => .inFlight id (completeRefundTxn e.1 e.2) := by
    intro k
    simp [startRefunds, Session.start, Function.comp_def]
  have hopen : forall k, ¬ (startRefunds db refunds).IsCommitted k := by
    intro k hdone
    unfold Session.IsCommitted at hdone
    rw [htxns] at hdone
    obtain ⟨e, -, hstate⟩ := Option.map_eq_some_iff.1 hdone
    cases hstate
  refine ⟨?_, ?_, ?_, ?_, fun _ _ _ => rfl, Or.inl ⟨hplan.found, rfl, ?_⟩⟩
  · intro k e hk
    obtain ⟨r, child, hchild⟩ := hplan.refunding k e hk
    refine ⟨r, child, _, hchild, ?_, .opened rfl⟩
    rw [htxns, hk]
    rfl
  · intro k hk
    rw [htxns, hk]
    rfl
  · intro k e r _ hr _
    exact ⟨hr, rfl⟩
  · intro k e r _ _ hdone
    exact absurd hdone (hopen k)
  · intro k _ hdone
    exact absurd hdone (hopen k)

theorem planInv_run (hplan : RefundingPlan db parentId parent refunds) (steps : List Nat) :
    PlanInv db parentId parent refunds steps (refundsAfter db refunds steps) := by
  induction steps using List.reverseRecOn with
  | nil =>
      exact planInv_start hplan
  | append_singleton steps k ih =>
      rw [refundsAfter_append]
      exact ih.step hplan rfl k

theorem neverTooEarly (hplan : RefundingPlan db parentId parent refunds) (steps : List Nat) :
    NeverTooEarly db parentId refunds steps := by
  rintro before after - ⟨p, hp, hs⟩
  cases (planInv_run hplan before).parent with
  | inl hkept =>
      rw [hkept.1, Option.some.injEq] at hp
      rw [← hp, hplan.pending] at hs
      cases hs
  | inr hclosed =>
      exact hclosed.2.1

/--
The refunds of a plan, completed in any interleaving, refund the parent and cancel
its obligation exactly if no replaced installment is held and one of the
transactions reads the installments after all the others have committed.  The
parent is never refunded too early.
-/
theorem planRefund_completes_iff (hplan : RefundingPlan db parentId parent refunds)
    (steps : List Nat) (hcomplete : AllCommitted refunds (refundsAfter db refunds steps)) :
    (ParentRefunded (refundsAfter db refunds steps).state parentId parent ∧
      NeverTooEarly db parentId refunds steps) ↔
    (NoReplacedHeld db parentId ∧ SomeReadsLast db refunds steps) := by
  have hparent := (planInv_run hplan steps).parent
  constructor
  · rintro ⟨⟨⟨p, hp, hs⟩, -⟩, -⟩
    cases hparent with
    | inl hkept =>
        rw [hkept.1, Option.some.injEq] at hp
        rw [← hp, hplan.pending] at hs
        cases hs
    | inr hclosed =>
        obtain ⟨-, -, -, k, hk, hreplaced, hlast⟩ := hclosed
        exact ⟨hreplaced, k, hk, hlast⟩
  · rintro ⟨hreplaced, k, hk, hlast⟩
    refine ⟨?_, neverTooEarly hplan steps⟩
    cases hparent with
    | inl hkept =>
        exact absurd ⟨hreplaced, hlast⟩ (hkept.2.2 k hk (hcomplete k hk))
    | inr hclosed =>
        exact hclosed.1

end Views

/-! ## Two installments -/

section TwoInstallments

def splitGoods : Payment :=
  { orderId := some 0
    obligationId := some 0
    installmentCount := some 2
    type := .marketplace
    amount := 500
    status := .refundPending }

def installment (sequence : Nat) : Payment :=
  { orderId := some 0
    installmentSequence := some sequence
    parentPaymentId := some 0
    type := .marketplaceInstallment
    amount := 250
    status := .refundPending }

def installmentRefund (paymentId : Id) : PaymentRefund :=
  { paymentId := paymentId
    amount := 250
    status := .processing }

theorem goodsKey_keyed :
    (ObligationKey.ofType 0 .marketplace).orderId = 0 ∧
      (ObligationKey.ofType 0 .marketplace).type = .marketplace :=
  ⟨rfl, rfl⟩

def twoInstallmentsDb : Db :=
  { orders := Table.empty.create
      { listingId := 0
        buyerId := 1
        sellerId := 2
        finalPrice := 500
        quantity := 1
        status := .cancelled }
    obligations := Table.empty.create
      { orderId := 0
        type := .marketplace
        status := .paid
        keyed := goodsKey_keyed }
    payments := ⟨[splitGoods, installment 1, installment 2]⟩
    refunds := ⟨[installmentRefund 1, installmentRefund 2]⟩ }

def bothRefunds : List (Env × Id) :=
  [(env0, 0), (env0, 1)]

theorem twoInstallmentsDb_plan : RefundingPlan twoInstallmentsDb 0 splitGoods bothRefunds := by
  have hrefund : forall (k : Nat) e, bothRefunds[k]? = some e ->
      k < 2 ∧ e.2 = k ∧ twoInstallmentsDb.refunds.findUnique e.2 =
        some (installmentRefund (k + 1)) := by
    intro k e hk
    match k with
    | 0 =>
        obtain rfl := Option.some.inj hk
        exact ⟨by decide, rfl, rfl⟩
    | 1 =>
        obtain rfl := Option.some.inj hk
        exact ⟨by decide, rfl, rfl⟩
    | k + 2 => cases hk
  refine ⟨rfl, rfl, rfl, rfl, ?_, ?_, ?_, ?_⟩
  · rintro o ⟨⟩
    exact ⟨_, rfl⟩
  · intro k e hk
    obtain ⟨hlt, -, hr⟩ := hrefund k e hk
    match k, hlt with
    | 0, _ => exact ⟨_, installment 1, hr, rfl, rfl, rfl, rfl, rfl⟩
    | 1, _ => exact ⟨_, installment 2, hr, rfl, rfl, rfl, rfl, rfl⟩
  · intro k k' e e' r r' hk hk' hr hr' hsame
    obtain ⟨-, -, hrow⟩ := hrefund k e hk
    obtain ⟨-, -, hrow'⟩ := hrefund k' e' hk'
    rw [← Option.some.inj (hrow.symm.trans hr), ← Option.some.inj (hrow'.symm.trans hr')] at hsame
    simpa [installmentRefund] using hsame
  · intro i child hi hparent _
    match i with
    | 0 =>
        obtain rfl := Option.some.inj hi
        cases hparent
    | 1 => exact ⟨0, (env0, 0), installmentRefund 1, rfl, rfl, rfl⟩
    | 2 => exact ⟨1, (env0, 1), installmentRefund 2, rfl, rfl, rfl⟩
    | i + 3 => cases hi

def oneAfterTheOther : List Nat :=
  List.replicate 8 0 ++ List.replicate 10 1

theorem oneAfterTheOther_completes :
    ParentRefunded (refundsAfter twoInstallmentsDb bothRefunds oneAfterTheOther).state 0
        splitGoods ∧
      NeverTooEarly twoInstallmentsDb 0 bothRefunds oneAfterTheOther := by
  have hcomplete : AllCommitted bothRefunds
      (refundsAfter twoInstallmentsDb bothRefunds oneAfterTheOther) := by
    intro k hk
    match k, hk with
    | 0, _ => rfl
    | 1, _ => rfl
  refine (planRefund_completes_iff twoInstallmentsDb_plan oneAfterTheOther hcomplete).2 ⟨?_, ?_⟩
  · intro i child hi hparent hreplaced
    match i with
    | 0 =>
        obtain rfl := Option.some.inj hi
        cases hparent
    | 1 =>
        obtain rfl := Option.some.inj hi
        cases hreplaced
    | 2 =>
        obtain rfl := Option.some.inj hi
        cases hreplaced
    | i + 3 => cases hi
  · refine ⟨1, by decide, List.replicate 8 0 ++ List.replicate 5 1, List.replicate 4 1, rfl,
      rfl, ?_⟩
    intro i hi hne
    match i, hi with
    | 0, _ => rfl
    | 1, _ => exact absurd rfl hne

/-- Both transactions read the installments before either of them commits. -/
def sideBySide : List Nat :=
  List.replicate 6 0 ++ List.replicate 6 1 ++ [0, 0, 1, 1]

/-- Both refunds are complete, and the parent stays `REFUND_PENDING`. -/
theorem sideBySide_leaves_parent_pending :
    RefundingPlan twoInstallmentsDb 0 splitGoods bothRefunds ∧
      AllCommitted bothRefunds (refundsAfter twoInstallmentsDb bothRefunds sideBySide) ∧
      IsPaymentStatus (refundsAfter twoInstallmentsDb bothRefunds sideBySide).state 0
        .refundPending ∧
      ¬ ParentRefunded (refundsAfter twoInstallmentsDb bothRefunds sideBySide).state 0
        splitGoods := by
  have hpending : (refundsAfter twoInstallmentsDb bothRefunds sideBySide).state.payments.findUnique
      0 = some splitGoods := by
    decide +kernel
  refine ⟨twoInstallmentsDb_plan, ?_, ⟨splitGoods, hpending, rfl⟩, ?_⟩
  · intro k hk
    match k, hk with
    | 0, _ => rfl
    | 1, _ => rfl
  · rintro ⟨⟨p, hp, hs⟩, -⟩
    obtain rfl : splitGoods = p := Option.some.inj (hpending.symm.trans hp)
    cases hs

end TwoInstallments

end MarketBridge
