import MarketBridge.Payment.Checkout
import MarketBridge.Order.Progress

/-!
# The checkout that a payment is bound to

Over any number of initializations only one reference is ever stored: while an
initialization is in flight the payment is claimed, and after a reference has been
stored nobody returns the payment to `PENDING`.  A report is about that checkout,
or about one whose initialization never came to its end.
-/

namespace MarketBridge

open Relational

variable {env : Env} {db db' db'' : Db} {w : Id}

/-! ## Rows of payments -/

/-- The reference of the checkout is kept, and the payment does not wait again. -/
structure CheckoutKept (_ : Id) (p p' : Payment) : Prop where
  reference : p'.chapaTxRef = p.chapaTxRef
  waits : p'.status = .pending -> p.status = .pending

theorem CheckoutKept.refl (i : Id) (p : Payment) : CheckoutKept i p p :=
  ⟨rfl, fun h => h⟩

theorem CheckoutKept.trans {i : Id} {p p' p'' : Payment} (h : CheckoutKept i p p')
    (h' : CheckoutKept i p' p'') :
    CheckoutKept i p p'' :=
  ⟨h'.reference.trans h.reference, fun hw => h.waits (h'.waits hw)⟩

abbrev CheckoutsKept (db db' : Db) : Prop :=
  db.payments.Rel CheckoutKept db'.payments

theorem CheckoutsKept.of_eq (h : db'.payments = db.payments) : CheckoutsKept db db' := by
  unfold CheckoutsKept
  rw [h]
  exact .refl CheckoutKept.refl _

theorem CheckoutsKept.trans (h : CheckoutsKept db db') (h' : CheckoutsKept db' db'') :
    CheckoutsKept db db'' :=
  Table.Rel.trans (fun _ _ _ _ => CheckoutKept.trans) h h'

theorem updatePayment_checkoutsKept {i : Id} {f : Payment -> Payment}
    (h : updatePayment i f db = .ok db') (hf : forall p, CheckoutKept i p (f p)) :
    CheckoutsKept db db' := by
  obtain ⟨_, -, -, rfl⟩ := updatePayment_eq_ok_iff.1 h
  exact Table.rel_update CheckoutKept.refl fun p _ => hf p

theorem CheckoutKept.flagged (i : Id) (p : Payment) (args : SettleArgs) :
    CheckoutKept i p (p.flagged args) :=
  ⟨rfl, fun h => nomatch (show PaymentStatus.reconciliationRequired = .pending from h)⟩

variable {args : SettleArgs}

theorem CheckoutKept.settled (i : Id) (p : Payment) (hargs : args.status ≠ .pending) :
    CheckoutKept i p (p.settled args) :=
  ⟨rfl, fun h => absurd (show args.status = .pending from h) hargs⟩

theorem settleLoaded_checkoutsKept {r : PaymentRecord} (hargs : args.status ≠ .pending)
    (h : settleLoaded env args r db = .ok db') :
    CheckoutsKept db db' := by
  unfold settleLoaded at h
  split at h
  · rename_i reason _
    unfold flagMismatch at h
    obtain ⟨flagged, hissue, h⟩ := bind_eq_ok.1 h
    obtain ⟨-, rfl⟩ := createReconciliationIssue_eq_ok_iff.1 hissue
    have hsame : CheckoutsKept db _ := .of_eq (withIssue_payments env (issueData r args reason) db)
    split at h
    · exact hsame.trans (updatePayment_checkoutsKept h fun p => .flagged _ p args)
    · obtain rfl := Except.ok.inj h
      exact hsame
  · obtain ⟨registered, hregister, h⟩ := bind_eq_ok.1 h
    rcases registerEvent_cases args r db with ⟨-, hnew⟩ | ⟨-, hknown⟩ | ⟨-, hconflict⟩
    · rw [hnew] at hregister
      obtain rfl := Except.ok.inj hregister
      obtain ⟨events, hevents⟩ := withEvent_frame args r db
      dsimp only at h
      rw [hevents] at h
      unfold processNotification at h
      split at h
      · obtain rfl := Except.ok.inj h
        exact .of_eq rfl
      · obtain ⟨written, hwrite, heffects⟩ := bind_eq_ok.1 h
        unfold writeSettlement at hwrite
        obtain ⟨updated, hupdate, hwrite⟩ := bind_eq_ok.1 hwrite
        obtain rfl := Except.ok.inj hwrite
        have hwritten := updatePayment_checkoutsKept hupdate fun p => .settled r.id p hargs
        have hupdated : CheckoutsKept db updated := hwritten
        refine hupdated.trans (CheckoutsKept.trans ?_ (.of_eq (applyEffects_frame heffects).payments))
        obtain ⟨events, hframe⟩ := recordOrderEvent_frame env r.row.orderId .paymentStatusChanged
          (settleObligation args r updated)
        rw [hframe]
        unfold settleObligation
        dsimp only
        split
        · exact Table.rel_update CheckoutKept.refl fun p _ => ⟨rfl, fun h => h⟩
        · exact .of_eq rfl
    · rw [hknown] at hregister
      obtain rfl := Except.ok.inj hregister
      obtain rfl := Except.ok.inj h
      exact .of_eq rfl
    · rw [hconflict] at hregister
      cases hregister

theorem settlePaymentCore_checkoutsKept (hargs : args.status ≠ .pending)
    (h : settlePaymentCore env args db = .ok db') :
    CheckoutsKept db db' := by
  cases hp : db.payments.findUnique args.paymentId with
  | none =>
      simp [settlePaymentCore, hp] at h
  | some p =>
      rw [← settleLoaded_paymentRecord hp] at h
      exact settleLoaded_checkoutsKept hargs h

theorem finalizeInstallmentPlan_checkoutsKept (env : Env) (k : Id) (db : Db) :
    CheckoutsKept db (commit (finalizeInstallmentPlan env k db) db) := by
  have hnotice : forall parent, (planNotice k parent).status ≠ .pending :=
    fun _ h => nomatch (show PaymentStatus.paid = .pending from h)
  refine commit_preserves (P := CheckoutsKept db) (.of_eq rfl) fun db' h => ?_
  unfold finalizeInstallmentPlan at h
  repeat' split at h
  all_goals
    first
      | exact settlePaymentCore_checkoutsKept (hnotice _) h
      | exact (Except.ok.inj h) ▸ .of_eq rfl

theorem reconcileInventory_checkoutsKept (h : reconcileInventory env args db = .ok db') :
    CheckoutsKept db db' := by
  obtain ⟨p, payments, events, issues, hp, rfl | ⟨-, rfl⟩, rfl⟩ := reconcileInventory_eq_ok h
  · exact .of_eq rfl
  · exact Table.rel_update CheckoutKept.refl fun p _ => .flagged _ p args

theorem finishSettlement_checkoutsKept {r : PaymentRecord} (hargs : args.status ≠ .pending)
    (h : finishSettlement env args r db = .ok db') :
    CheckoutsKept db db' := by
  unfold finishSettlement at h
  obtain ⟨settled, hsettle, h⟩ := bind_eq_ok.1 h
  have hsettled : CheckoutsKept db settled := by
    unfold reconcileUnsettled at hsettle
    split at hsettle
    · rename_i hok
      obtain rfl := Except.ok.inj hsettle
      exact settleLoaded_checkoutsKept hargs hok
    · split at hsettle
      · split at hsettle
        · rename_i hreconciled
          obtain rfl := Except.ok.inj hsettle
          exact reconcileInventory_checkoutsKept hreconciled
        · cases hsettle
      · cases hsettle
  refine hsettled.trans ?_
  split at h
  · obtain rfl := Except.ok.inj h
    obtain ⟨offers, hframe⟩ := releaseBiddersAfter_frame args.paymentId settled
    rw [hframe]
    exact .of_eq rfl
  · rename_i parentPaymentId _
    obtain rfl := Except.ok.inj h
    obtain ⟨offers, hframe⟩ := releaseBiddersAfter_frame parentPaymentId
      (commit (finalizeInstallmentPlan env parentPaymentId settled) settled)
    rw [hframe]
    exact (finalizeInstallmentPlan_checkoutsKept env parentPaymentId settled).trans (.of_eq rfl)

end MarketBridge
