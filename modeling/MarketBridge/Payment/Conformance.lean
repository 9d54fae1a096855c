import MarketBridge.Payment.SettlementExits

/-!
# Lifecycle conformance of settlement

`paymentStateMachine.js` gives the edges of the payment lifecycle.  The exits
that flag a payment ask it before they write; the main exit relies on three
hand-written guards, which let more status changes pass than the lifecycle has.
-/

namespace MarketBridge

open Relational

/-- Every payment keeps its status or moves along an edge of `TRANSITIONS`. -/
def FollowsLifecycle (db db' : Db) : Prop :=
  forall i p, db.payments.findUnique i = some p ->
    exists p', db'.payments.findUnique i = some p' ∧
      canTransition p.status p'.status = true

theorem followsLifecycle_of_payments_eq {db db' : Db}
    (h : db'.payments = db.payments) :
    FollowsLifecycle db db' := by
  intro i p hp
  exact ⟨p, by rw [h]; exact hp, canTransition_self p.status⟩

theorem followsLifecycle_update_iff {db db' : Db} {i : Id} {p : Payment}
    {f : Payment -> Payment} (hp : db.payments.findUnique i = some p)
    (h : db'.payments = db.payments.update i f) :
    FollowsLifecycle db db' ↔ canTransition p.status (f p).status = true := by
  constructor
  · intro hfollows
    obtain ⟨p', hp', hcan⟩ := hfollows i p hp
    rw [h, Table.findUnique_update_self, hp] at hp'
    obtain rfl : f p = p' := by simpa using hp'
    exact hcan
  · intro hcan j q hq
    rw [h]
    by_cases hj : j = i
    · subst hj
      obtain rfl : p = q := by simpa [hp] using hq
      exact ⟨f p, by simp [hp], hcan⟩
    · exact ⟨q, by simpa [Table.findUnique_update_ne hj] using hq, canTransition_self _⟩

def notifiedStatuses : List PaymentStatus :=
  [.paid, .failed, .refunded, .reconciliationRequired]

/-! ## A failed payment that is paid afterwards -/

section FailedThenPaid

def advertisingDb : Db :=
  { payments := ⟨[{ type := .advertising, amount := 500, advertisementId := some 0 }]⟩
    advertisements := ⟨[{ type := .featuredListing, startDate := 0 }]⟩ }

def failedNotice : SettleArgs :=
  { paymentId := 0, status := .failed, eventId := some "failed-1" }

def paidNotice : SettleArgs :=
  { paymentId := 0, status := .paid, eventId := some "paid-1", amount := some (.finite 500) }

def failedPaymentDb : Db :=
  commit (settlePaymentCore env0 failedNotice advertisingDb) advertisingDb

end FailedThenPaid

end MarketBridge
