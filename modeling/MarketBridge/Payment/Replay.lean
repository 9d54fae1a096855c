import MarketBridge.Payment.Conformance

/-!
# Replay of a provider event

A provider may deliver one event several times.  The event table makes the
second delivery a no-op on every path that registers the event.  The exits for
a mismatching amount or currency leave before the event is registered, so they
open one more reconciliation issue with each delivery.
-/

namespace MarketBridge

open Relational

/-! ## Reading the database after a flagged exit -/

@[simp] theorem jsOr_jsOr_none (a b : Option String) :
    jsOr a (jsOr (jsOr a (jsOr b none)) none) = jsOr a (jsOr b none) := by
  cases a with
  | none =>
      cases b with
      | none => rfl
      | some t => by_cases ht : t = "" <;> simp [jsOr, ht]
  | some s =>
      by_cases hs : s = ""
      · cases b with
        | none => simp [jsOr, hs]
        | some t => by_cases ht : t = "" <;> simp [jsOr, hs, ht]
      · simp [jsOr, hs]

theorem Payment.flagged_flagged (args : SettleArgs) (p : Payment) :
    (p.flagged args).flagged args = p.flagged args := by
  simp [Payment.flagged]

theorem mismatchReason_congr {p q : Payment} (args : SettleArgs)
    (hamount : q.amount = p.amount) (hcurrency : q.currency = p.currency) :
    mismatchReason q args = mismatchReason p args := by
  simp [mismatchReason, currencyMismatch, hamount, hcurrency]

theorem flaggedDb_reconciliations
    (env : Env) (args : SettleArgs) (db : Db) (p : Payment)
    (reason : ReconciliationReason) :
    exists issue, (flaggedDb env args db p reason).reconciliations =
      db.reconciliations.create issue := by
  obtain ⟨events, h⟩ := withIssue_frame env
    (issueData (paymentRecord db args.paymentId p) args reason) db
  unfold flaggedDb
  rw [h]
  dsimp only
  split <;> exact ⟨_, rfl⟩

theorem flaggedDb_payments
    (env : Env) (args : SettleArgs) (db : Db) (p : Payment)
    (reason : ReconciliationReason) :
    (flaggedDb env args db p reason).payments =
      if canTransition p.status .reconciliationRequired then
        db.payments.update args.paymentId (·.flagged args)
      else
        db.payments := by
  unfold flaggedDb
  split <;> simp

variable {args : SettleArgs}

theorem flagCommits_flaggedDb (env : Env) {db : Db} {p : Payment} (reason : ReconciliationReason)
    (hp : db.payments.findUnique args.paymentId = some p)
    (hcommits : flagCommits args db p = true) :
    exists q, (flaggedDb env args db p reason).payments.findUnique args.paymentId = some q ∧
      mismatchReason q args = mismatchReason p args ∧
      flagCommits args (flaggedDb env args db p reason) q = true := by
  have hpayments := flaggedDb_payments env args db p reason
  by_cases hcan : canTransition p.status .reconciliationRequired = true
  · simp only [hcan, if_true] at hpayments
    refine ⟨p.flagged args, by simp [hpayments, hp],
      mismatchReason_congr args rfl rfl, ?_⟩
    unfold flagCommits at hcommits ⊢
    simp only [hcan, Bool.not_true, Bool.false_or, Bool.and_eq_true,
      Bool.not_eq_true'] at hcommits
    have hsame : (flaggedDb env args db p reason).payments =
        { db with payments :=
            db.payments.update args.paymentId (·.flagged args) }.payments :=
      hpayments
    rw [Payment.flagged_flagged, paymentConflict_congr hsame, paymentConflict_update]
    simp [hcommits]
  · simp only [hcan] at hpayments
    refine ⟨p, by simpa [hpayments] using hp, rfl, ?_⟩
    unfold flagCommits at hcommits ⊢
    simp only [Bool.and_eq_true] at hcommits
    simp [hcan, hcommits.1]

/-! ## Replays -/

theorem eventIsNew_withEvent (hevent : truthy args.eventId = true) (r : PaymentRecord) (db : Db)
    {db' : Db} (h : db'.paymentEvents = (withEvent args r db).paymentEvents) :
    eventIsNew args db' = false := by
  cases hid : args.eventId with
  | none =>
      simp [truthy, hid] at hevent
  | some eventId =>
      have hne : eventId ≠ "" := by simpa [truthy, hid] using hevent
      unfold eventIsNew
      rw [h]
      have hany : ((withEvent args r db).paymentEvents.any fun _ e =>
          args.eventId = some e.eventId) = true := by
        apply Table.any_eq_true_iff.mpr
        simp only [withEvent, hid, hne, if_false]
        exact ⟨db.paymentEvents.size, _, Table.findUnique_create_self _ _, by simp⟩
      rw [hany, hevent]
      rfl

theorem commit_settlePaymentCore_of_seen (env : Env) {db : Db} {p : Payment}
    (hp : db.payments.findUnique args.paymentId = some p)
    (hmismatch : mismatchReason p args = none) (hseen : eventIsNew args db = false) :
    commit (settlePaymentCore env args db) db = db := by
  cases h : settlePaymentCore env args db with
  | error e =>
      rfl
  | ok db' =>
      rw [commit_ok]
      cases settlePaymentCore_exit hp h with
      | flagged reason hreason =>
          simp [hmismatch] at hreason
      | replayed =>
          rfl
      | ignored _ hnew =>
          simp [hseen] at hnew
      | written written db' hwrites =>
          simp [settlementWrites, hseen] at hwrites

/-- The notification is flagged for its amount or currency, and not rolled back. -/
def mismatchCommits (args : SettleArgs) (db : Db) : Bool :=
  (db.payments.findUnique args.paymentId).any fun p =>
    (mismatchReason p args).isSome && flagCommits args db p

theorem settlePaymentCore_error_of_error {env env' : Env} {db : Db}
    (hnoflag : mismatchCommits args db = false) {e : ApiError}
    (h : settlePaymentCore env args db = .error e) :
    commit (settlePaymentCore env' args db) db = db := by
  cases hp : db.payments.findUnique args.paymentId with
  | none =>
      exact commit_settlePaymentCore_of_not_found env' hp
  | some p =>
      cases h' : settlePaymentCore env' args db with
      | error e' =>
        rfl
      | ok db' =>
        rw [commit_ok]
        cases settlePaymentCore_exit hp h' with
        | flagged reason hreason hcommits =>
            simp [mismatchCommits, hp, hreason, hcommits] at hnoflag
        | replayed =>
            rfl
        | ignored hmismatch hnew hignored =>
            exfalso
            have hregister : registerEvent args (paymentRecord db args.paymentId p) db =
                .ok (some (withEvent args (paymentRecord db args.paymentId p) db)) := by
              rcases registerEvent_cases args (paymentRecord db args.paymentId p) db with
                ⟨_, heq⟩ | ⟨hseen, _⟩ | ⟨hseen, _⟩
              · exact heq
              · simp [hnew] at hseen
              · simp [hnew] at hseen
            unfold settlePaymentCore at h
            simp only [hp, hmismatch, hregister, ok_bind] at h
            simp [processNotification, paymentRecord, hignored] at h
        | written written db' hwrites =>
            obtain ⟨_, _, _, _, hsettle⟩ := settlePaymentCore_of_writes env hp hwrites
            simp [hsettle] at h

def shortNotice : SettleArgs :=
  { paymentId := 0, status := .paid, eventId := some "short-1", amount := some (.finite 400) }

end MarketBridge
