import MarketBridge.Inspection.Lapse
import MarketBridge.Listing.Moves

/-!
# When a lapse closes everything

The order is the part of an agreement that can keep a lapse from committing, and the
listing, the pending fees and the code of the caller decide whether all is closed.
-/

namespace MarketBridge

open Relational

/-! ## The order of the agreement -/

section Release

variable {env : Env} {db db' : Db} {orderId : Id} {order : Order} {actorId : Option Id}
  {reason : Option String} {role : CancelledByRole}

theorem closesOrder_eq_true_iff :
    closesOrder db orderId order = true ↔
      mustClose db orderId order = true ∧
        ((paymentsOf db orderId).any fun p => p.2.status = .processing) = false := by
  have hpayments : ((paymentsOf db orderId).any fun p =>
      p.2.status ∈ [PaymentStatus.paid, .processing]) =
      (((paymentsOf db orderId).any fun p => p.2.status = .paid) ||
        (paymentsOf db orderId).any fun p => p.2.status = .processing) := by
    induction paymentsOf db orderId with
    | nil => rfl
    | cons e rest ih =>
        rw [List.any_cons, List.any_cons, List.any_cons, ih]
        cases e.2.status <;> simp
  unfold closesOrder mustClose
  rw [hpayments]
  simp only [Bool.and_eq_true, Bool.not_eq_true', Bool.or_eq_false_iff]
  constructor
  · rintro ⟨⟨hopen, hpaid, hprocessing⟩, hdecision⟩
    exact ⟨⟨⟨hopen, hpaid⟩, hdecision⟩, hprocessing⟩
  · rintro ⟨⟨⟨hopen, hpaid⟩, hdecision⟩, hprocessing⟩
    exact ⟨⟨hopen, hpaid, hprocessing⟩, hdecision⟩

def Order.included (order : Order) (orderId : Id) (db : Db) : OrderRecord :=
  { id := orderId
    listingId := order.listingId
    quantity := order.quantity
    status := order.status
    agreedOfferId := order.agreedOfferId
    payments := (paymentsOf db orderId).map fun e => ⟨some e.2.type, e.2.status⟩
    transportJob := (transportJobOf db orderId).map fun e => ⟨e.1, e.2.status, e.2.truckId⟩ }

theorem loadOrder_included (horder : db.orders.findUnique orderId = some order) :
    loadOrder .included db orderId = some (order.included orderId db) := by
  unfold loadOrder includeOrder
  dsimp only
  rw [horder]
  rfl

theorem assertCancellable_included_iff :
    assertCancellable (order.included orderId db) role = .ok () ↔
      order.status ∉ [OrderStatus.completed, .cancelled] ∧
        (role ≠ .admin -> forall jobId job, transportJobOf db orderId = some (jobId, job) ->
          job.status.isInMotion = false) := by
  unfold assertCancellable
  by_cases hclosed : order.status ∈ [OrderStatus.completed, .cancelled]
  · have hclosed' : (order.included orderId db).status ∈ [OrderStatus.completed, .cancelled] :=
      hclosed
    rw [if_pos hclosed']
    simp [hclosed]
  · have hclosed' : (order.included orderId db).status ∉ [OrderStatus.completed, .cancelled] :=
      hclosed
    rw [if_neg hclosed']
    have hmoving : ((order.included orderId db).transportJob.any fun job =>
        job.status ∈ [TransportStatus.pickup, .inTransit, .delivered]) =
        (transportJobOf db orderId).any fun e => e.2.status.isInMotion := by
      unfold Order.included
      dsimp only
      rw [Option.any_map]
      rfl
    rw [hmoving]
    cases hjob : transportJobOf db orderId with
    | none =>
        rw [if_neg fun hnot => Bool.false_ne_true hnot.2]
        refine iff_of_true rfl ⟨hclosed, ?_⟩
        intro _ jobId job hnone
        cases hnone
    | some e =>
        rw [Option.any_some]
        by_cases hadmin : role = .admin
        · rw [if_neg fun hnot => hnot.1 hadmin]
          exact iff_of_true rfl ⟨hclosed, fun hnot => absurd hadmin hnot⟩
        · cases hmotion : e.2.status.isInMotion with
          | true =>
              rw [if_pos ⟨hadmin, rfl⟩]
              refine iff_of_false (fun herror => by cases herror) ?_
              rintro ⟨-, hstill⟩
              rw [hstill hadmin e.1 e.2 rfl] at hmotion
              cases hmotion
          | false =>
              rw [if_neg fun hnot => Bool.false_ne_true hnot.2]
              refine iff_of_true rfl ⟨hclosed, ?_⟩
              rintro - jobId job hsome
              obtain rfl := Option.some.inj hsome
              exact hmotion

theorem cancelLoadedOrder_commits_iff (hvalid : RowsValid db)
    (horder : db.orders.findUnique orderId = some order) :
    (exists db', cancelLoadedOrder env .included orderId actorId reason role db = .ok db') ↔
      order.status ∈ [OrderStatus.pendingPayment, .confirmed, .transportArranged, .disputed] ∧
        (role ≠ .admin -> forall jobId job, transportJobOf db orderId = some (jobId, job) ->
          job.status.isInMotion = false) := by
  have hallowed : order.status ∉ [OrderStatus.completed, .cancelled] ∧
      canTransitionOrder order.status .cancelled = true ↔
      order.status ∈ [OrderStatus.pendingPayment, .confirmed, .transportArranged, .disputed] := by
    cases order.status <;> decide
  have hquantity : 0 < (order.included orderId db).quantity :=
    hvalid.quantities orderId order horder
  unfold cancelLoadedOrder
  rw [loadOrder_included horder]
  dsimp only
  constructor
  · rintro ⟨db', hok⟩
    obtain ⟨hassert, hcan, -⟩ := cancelOrderInTransaction_eq_ok_iff.1 hok
    obtain ⟨hopen, hstill⟩ := assertCancellable_included_iff.1 hassert
    exact ⟨hallowed.1 ⟨hopen, hcan⟩, hstill⟩
  · rintro ⟨hstatus, hstill⟩
    obtain ⟨hopen, hcan⟩ := hallowed.2 hstatus
    have hassert := assertCancellable_included_iff.2 ⟨hopen, hstill⟩
    refine (cancelOrderInTransaction_commits_iff hvalid.indexed hassert hcan
      ⟨order, horder, rfl⟩).2 ⟨fun _ => hquantity, ?_⟩
    intro i p hp _
    exact (hvalid.amounts i p hp).1

theorem promoteNextWaitingBuyer_offered (env : Env) {listingId : Id} {l : Listing}
    (hl : db.listings.findUnique listingId = some l) :
    exists l', (promoteNextWaitingBuyer env listingId db).listings.findUnique listingId = some l' ∧
      l'.isOffered = true := by
  have hpromoted := promoteNextWaitingBuyer_promoted env listingId db
  generalize promoteNextWaitingBuyer env listingId db = promoted at hpromoted ⊢
  cases hpromoted with
  | nobody =>
      refine ⟨{ l with status := .active }, ?_, rfl⟩
      change (db.listings.update listingId _).findUnique listingId = _
      rw [Table.findUnique_update_self, hl]
      rfl
  | selected id next hfind hlisting hpending hfresh =>
      refine ⟨{ l with status := .underNegotiation }, ?_, rfl⟩
      change (db.listings.update listingId _).findUnique listingId = _
      rw [Table.findUnique_update_self, hl]
      rfl

variable {record : OrderRecord}

theorem returned_isOffered_iff (hstatus : record.status ≠ .pendingPayment) {l : Listing}
    (hl : db.listings.findUnique record.listingId = some l) :
    (record.returned db l).isOffered = true ↔
      (l.category.isPhysical = true ->
        epsilon < min l.quantity (l.availableQuantity + record.quantity)) := by
  have hcommitted : record.inferredCommitted = true := by
    simp [OrderRecord.inferredCommitted, hstatus]
  have hgives : record.givesBack db = l.category.isPhysical := by
    simp [OrderRecord.givesBack, isForStock, hcommitted, hl]
  unfold OrderRecord.returned
  rw [hgives]
  cases l.category.isPhysical with
  | false => simp [hstatus, Listing.isOffered]
  | true =>
      simp only [if_true, true_imp_iff]
      unfold Listing.giveBack
      by_cases hsold : min l.quantity (l.availableQuantity + record.quantity) ≤ epsilon
      · refine iff_of_false ?_ (not_lt.2 hsold)
        simp [Listing.isOffered, hsold]
      · refine iff_of_true ?_ (not_le.1 hsold)
        cases hasActiveOffers db record.listingId <;> simp [Listing.isOffered, hsold]

/-- A committed cancellation opens the listing, unless hardly any stock comes back. -/
theorem cancelOrderInTransaction_listing_iff
    (h : cancelOrderInTransaction env record actorId reason role db = .ok db') :
    (forall l, db.listings.findUnique record.listingId = some l ->
      exists l', db'.listings.findUnique record.listingId = some l' ∧ l'.isOffered = true) ↔
    (record.status ≠ .pendingPayment -> forall l,
      db.listings.findUnique record.listingId = some l -> l.category.isPhysical = true ->
      epsilon < min l.quantity (l.availableQuantity + record.quantity)) := by
  obtain ⟨-, hlistings⟩ := cancelOrderInTransaction_stall h
  have hreturned : forall l, db.listings.findUnique record.listingId = some l ->
      (db.listings.update record.listingId (record.returned db)).findUnique record.listingId =
        some (record.returned db l) := by
    intro l hl
    rw [Table.findUnique_update_self, hl]
    rfl
  rw [hlistings]
  generalize hstart : ({ db with
    listings := db.listings.update record.listingId (record.returned db) } : Db) = start
  have hlist : start.listings = db.listings.update record.listingId (record.returned db) := by
    rw [← hstart]
  unfold releaseWinner
  by_cases hpending : record.status = .pendingPayment
  · rw [if_pos hpending]
    refine iff_of_true ?_ fun hnot => absurd hpending hnot
    intro l hl
    apply promoteNextWaitingBuyer_offered
    rw [← hreturned l hl, ← hlist]
  · rw [if_neg hpending, hlist]
    constructor
    · intro hoffered _ l hl
      obtain ⟨l', hl', hopen⟩ := hoffered l hl
      rw [hreturned l hl] at hl'
      obtain rfl := Option.some.inj hl'
      exact (returned_isOffered_iff hpending hl).1 hopen
    · intro hstock l hl
      exact ⟨_, hreturned l hl, (returned_isOffered_iff hpending hl).2 (hstock hpending l hl)⟩

theorem pending_before_cancellation (hindexed : PaymentsIndexed db.payments)
    (h : cancelOrderInTransaction env record actorId reason role db = .ok db') {i : Id}
    {p : Payment} (hp : db'.payments.findUnique i = some p) (hpending : p.status = .pending) :
    db.payments.findUnique i = some p := by
  obtain ⟨hrequested, -⟩ := cancelOrderInTransaction_requested hindexed h
  by_cases hrefunded : i ∈ cancellationRefunds record db
  · by_cases hblocked : HasBlockingRefund db i
    · obtain ⟨⟨q, hq, hpaid⟩, -⟩ := hrequested.stuck i hrefunded hblocked
      rw [hp] at hq
      rw [Option.some.inj hq, hpaid] at hpending
      cases hpending
    · obtain ⟨⟨q, hq, hrefund⟩, -⟩ := hrequested.under i hrefunded hblocked
      rw [hp] at hq
      rw [Option.some.inj hq, hrefund] at hpending
      cases hpending
  · obtain ⟨hkept, -⟩ := hrequested.other i hrefunded
    rw [hp, closeInstallmentPlans_findUnique] at hkept
    obtain ⟨q, hq, hclosed⟩ := Option.map_eq_some_iff.1 hkept.symm
    split at hclosed
    · rw [← hclosed] at hpending
      cases hpending
    · split at hclosed
      · rw [← hclosed] at hpending
        cases hpending
      · rw [← hclosed]
        exact hq

theorem pending_after_cancellation (hindexed : PaymentsIndexed db.payments)
    (h : cancelOrderInTransaction env record actorId reason role db = .ok db') {i : Id}
    {p : Payment} (hp : db.payments.findUnique i = some p) (hpending : p.status = .pending)
    (hother : p.orderId ≠ some record.id) :
    db'.payments.findUnique i = some p := by
  obtain ⟨hrequested, -⟩ := cancelOrderInTransaction_requested hindexed h
  have hkeeps : i ∉ cancellationRefunds record db := by
    intro hrefunded
    obtain ⟨q, hq, hpaid, -⟩ := mem_cancellationRefunds.1 hrefunded
    rw [hp] at hq
    rw [Option.some.inj hq, hpaid] at hpending
    cases hpending
  rw [(hrequested.other i hkeeps).1, closeInstallmentPlans_findUnique, hp, Option.map_some,
    if_neg fun hown => hother hown.1, if_neg fun hown => hother hown.1]

end Release

/-! ## When everything is closed -/

/-- An accepted request for which no money is in flight. -/
structure IsAgreement (s : AgreementSession) (request : InspectionRequest) : Prop where
  found : s.request = some request
  accepted : request.status = .accepted
  unmoved : moneyMoved s.db s.requestId = false

/-- Every agreement is closed as a whole, and what is refused changes nothing. -/
structure LapsesLawfully (env : Env) (reason : LapseReason) (actorId : Option Id)
    (role : CancelledByRole) (s : AgreementSession) : Prop where
  closes : forall request, IsAgreement s request ->
    exists s', s.lapse env reason actorId role = .ok (s', true) ∧ AgreementClosed request s s'
  refuses : forall s', s.lapse env reason actorId role = .ok (s', false) -> s' = s

section Fees

variable {env : Env} {db db' : Db} {requestId orderId : Id} {request : InspectionRequest}

/-- The pending fees cannot be paid exactly if they are safe. -/
theorem feesSafe_iff (hclosed : RequestClosed requestId request db)
    (hinspector : request.inspectorId.isSome = true)
    (hkeys : forall i p, db.payments.findUnique i = some p -> p.status = .pending ->
      forall j q, db.payments.findUnique j = some q -> j ≠ i ->
        p.sameProviderTransaction q = false)
    (hstorable : db.payments.All fun _ p => p.status = .pending ->
      storableAmount (some (.finite p.amount)) = true) :
    (db.payments.All fun i p => isPendingFee requestId p = true -> ¬ CanBePaid db i p) ↔
      FeesSafe requestId request db := by
  have heach : forall i p, db.payments.findUnique i = some p -> isPendingFee requestId p = true ->
      (CanBePaid db i p ↔ (request.orderId = none ∧ p.isOnlinePayable = true) ∨
        exists order, related db.orders p.orderId = some order ∧ order.status = .disputed) := by
    intro i p hp hfee
    have hpending := (isPendingFee_eq_true_iff.1 hfee).2.2
    have hpaid := canBePaid_iff hp hclosed.request rfl hinspector (hkeys i p hp hpending) hfee
      (hstorable i p hp hpending)
    exact hpaid
  constructor
  · intro hnone i p hp hfee
    have hnot := mt (heach i p hp hfee).2 (hnone i p hp hfee)
    refine ⟨?_, ?_⟩
    · intro horder
      by_contra hpayable
      exact hnot (Or.inl ⟨horder, by simpa using hpayable⟩)
    · intro order horder hdisputed
      exact hnot (Or.inr ⟨order, horder, hdisputed⟩)
  · intro hsafe i p hp hfee hpaid
    obtain ⟨hplain, hopen⟩ := hsafe i p hp hfee
    rcases (heach i p hp hfee).1 hpaid with ⟨horder, hpayable⟩ | ⟨order, horder, hdisputed⟩
    · rw [hplain horder] at hpayable
      cases hpayable
    · exact hopen order horder hdisputed

theorem feesSafe_cancelOrder_iff {record : OrderRecord} {actorId : Option Id}
    {reason : Option String} {role : CancelledByRole} (hindexed : PaymentsIndexed db.payments)
    (h : cancelOrderInTransaction env record actorId reason role db = .ok db')
    (hopen : record.status ≠ .disputed) (horder : request.orderId ≠ none) :
    FeesSafe requestId request db' ↔ FeesSafe requestId request db := by
  have hcancelled := cancelOrderInTransaction_cancelled h
  obtain ⟨before, hbefore, hstatus⟩ := hcancelled.found
  -- Disputed orders stay as they are, and the cancelled one was none and is none.
  have hdisputed : forall key : Option Id, (exists order, related db'.orders key = some order ∧
      order.status = .disputed) ↔ exists order, related db.orders key = some order ∧
        order.status = .disputed := by
    intro key
    cases key with
    | none => exact Iff.rfl
    | some i =>
        rw [related_some, related_some, hcancelled.orders, Table.findUnique_update]
        by_cases hi : i = record.id
        · subst hi
          rw [if_pos rfl, hbefore]
          refine iff_of_false ?_ ?_
          · rintro ⟨order, hfound, hnot⟩
            obtain rfl := Option.some.inj hfound
            cases hnot
          · rintro ⟨order, hfound, hnot⟩
            obtain rfl := Option.some.inj hfound
            exact hopen (hstatus.symm.trans hnot)
        · rw [if_neg hi]
  constructor
  · intro hsafe i p hp hfee
    refine ⟨fun hnone => absurd hnone horder, ?_⟩
    intro order hfound hnot
    have hother : p.orderId ≠ some record.id := by
      intro hown
      rw [hown, related_some, hbefore] at hfound
      obtain rfl := Option.some.inj hfound
      exact hopen (hstatus.symm.trans hnot)
    have hpending := (isPendingFee_eq_true_iff.1 hfee).2.2
    have hp' := pending_after_cancellation hindexed h hp hpending hother
    obtain ⟨order', hfound', hnot'⟩ := (hdisputed p.orderId).2 ⟨order, hfound, hnot⟩
    exact (hsafe i p hp' hfee).2 order' hfound' hnot'
  · intro hsafe i p hp hfee
    refine ⟨fun hnone => absurd hnone horder, ?_⟩
    intro order hfound hnot
    have hp' := pending_before_cancellation hindexed h hp (isPendingFee_eq_true_iff.1 hfee).2.2
    obtain ⟨order', hfound', hnot'⟩ := (hdisputed p.orderId).1 ⟨order, hfound, hnot⟩
    exact (hsafe i p hp' hfee).2 order' hfound' hnot'

end Fees

section Lapse

variable {env : Env} {reason : LapseReason} {actorId : Option Id} {role : CancelledByRole}
  {s s' : AgreementSession} {request : InspectionRequest} {orderId : Id}

/-- A lapse writes what `lapseInspectionAgreement` writes, the deadlines and the coordination. -/
def AgreementSession.lapsed (env : Env) (db : Db) (s : AgreementSession) : AgreementSession :=
  { s with
    db := db
    startDueAt := none
    completionDueAt := none
    coordination := s.coordination.map (·.close env) }

theorem lapse_eq_ok_true_iff :
    s.lapse env reason actorId role = .ok (s', true) ↔
      exists code db', reason.code = some code ∧ s.isOpen = true ∧
        lapseInspectionAgreement env s.requestId code actorId role s.db = .ok db' ∧
        s' = s.lapsed env db' := by
  unfold AgreementSession.lapse
  cases reason.code with
  | none => simp
  | some code =>
      dsimp only
      by_cases hopen : s.isOpen = true
      · rw [if_pos hopen, bind_eq_ok]
        constructor
        · rintro ⟨db', hok, hresult⟩
          exact ⟨code, db', rfl, hopen, hok, (Prod.mk.inj (Except.ok.inj hresult)).1.symm⟩
        · rintro ⟨code', db', hcode, -, hok, rfl⟩
          obtain rfl := Option.some.inj hcode
          exact ⟨db', hok, rfl⟩
      · rw [if_neg hopen]
        simp [hopen]

theorem lapse_refuses (h : s.lapse env reason actorId role = .ok (s', false)) : s' = s := by
  unfold AgreementSession.lapse at h
  split at h
  · cases h
  · split at h
    · rw [bind_eq_ok] at h
      obtain ⟨db', -, hresult⟩ := h
      cases (Prod.mk.inj (Except.ok.inj hresult)).2
    · exact (Prod.mk.inj (Except.ok.inj h)).1.symm

theorem InspectionCoordination.close_superseded (env : Env) (c : InspectionCoordination) :
    (c.close env).supersededAt.isSome = true := by
  unfold InspectionCoordination.close
  split
  · assumption
  · rfl

/-- The database with the rows of the agreement closed and, for an order, its event. -/
def agreementClosed (env : Env) (requestId : Id) (request : InspectionRequest) (db : Db) : Db :=
  match request.orderId with
  | none => closeAgreement requestId db
  | some orderId =>
      recordOrderEvent env (some orderId) .inspectionAgreementClosed (closeAgreement requestId db)

theorem agreementClosed_frame (env : Env) (requestId : Id) (request : InspectionRequest) (db : Db) :
    exists events, agreementClosed env requestId request db =
      { closeAgreement requestId db with orderEvents := events } := by
  unfold agreementClosed
  split
  · exact ⟨_, rfl⟩
  · exact recordOrderEvent_frame env _ _ _

theorem lapseInspectionAgreement_eq (h : IsAgreement s request) (code : LapseCode) :
    lapseInspectionAgreement env s.requestId code actorId role s.db =
      match request.orderId with
      | none => .ok (agreementClosed env s.requestId request s.db)
      | some orderId => closeOrderOfAgreement env code actorId role orderId
          (agreementClosed env s.requestId request s.db) := by
  have hfound : s.db.inspectionRequests.findUnique s.requestId = some request := h.found
  unfold lapseInspectionAgreement agreementClosed
  rw [hfound]
  dsimp only
  rw [if_neg (by simp [h.accepted, h.unmoved])]
  cases request.orderId <;> rfl

theorem RowsValid.agreementClosed (hvalid : RowsValid s.db) :
    RowsValid (agreementClosed env s.requestId request s.db) := by
  obtain ⟨events, hframe⟩ := agreementClosed_frame env s.requestId request s.db
  rw [hframe]
  refine ⟨?_, hvalid.indexed, hvalid.amounts, hvalid.quantities⟩
  exact hvalid.inspectors.update fun _ _ haccepted => by cases haccepted

theorem agreementClosed_closed (h : IsAgreement s request) :
    RequestClosed s.requestId request (agreementClosed env s.requestId request s.db) := by
  obtain ⟨events, hframe⟩ := agreementClosed_frame env s.requestId request s.db
  have hclosed := closeAgreement_closed h.found
  rw [hframe]
  exact ⟨hclosed.request, hclosed.quotes, hclosed.obligations⟩

/-- Deadlines and coordination are always closed. -/
theorem lapsed_closed_iff {db' : Db} :
    AgreementClosed request s (s.lapsed env db') ↔
      RequestClosed s.requestId request db' ∧
        (db'.payments.All fun i p => isPendingFee s.requestId p = true -> ¬ CanBePaid db' i p) ∧
        forall orderId order, request.orderId = some orderId ->
          s.db.orders.findUnique orderId = some order -> mustClose s.db orderId order = true ->
          OrderReleased orderId order s.db db' := by
  constructor
  · intro h
    exact ⟨h.rows, h.payments, h.order⟩
  · rintro ⟨hrows, hpayments, horder⟩
    refine ⟨hrows, rfl, rfl, ?_, hpayments, horder⟩
    intro coordination hcoordination
    obtain ⟨before, -, rfl⟩ := Option.map_eq_some_iff.1 hcoordination
    exact before.close_superseded env

theorem agreementClosed_fees_iff (hvalid : RowsValid s.db) (h : IsAgreement s request) :
    ((agreementClosed env s.requestId request s.db).payments.All fun i p =>
        isPendingFee s.requestId p = true ->
          ¬ CanBePaid (agreementClosed env s.requestId request s.db) i p) ↔
      FeesSafe s.requestId request s.db := by
  have hclosed : RequestClosed s.requestId request
      (agreementClosed env s.requestId request s.db) := agreementClosed_closed h
  have hinspector : request.inspectorId.isSome = true :=
    hvalid.inspectors s.requestId request h.found h.accepted
  obtain ⟨events, hframe⟩ := agreementClosed_frame env s.requestId request s.db
  rw [hframe] at hclosed ⊢
  apply feesSafe_iff hclosed hinspector
  · intro i p hp _ j q hq hj
    exact (Bool.or_eq_false_iff.1 (hvalid.indexed i j p q hp hq fun hij => hj hij.symm)).1
  · intro i p hp _
    exact (hvalid.amounts i p hp).2

theorem closed_unreleased_iff (hvalid : RowsValid s.db) (h : IsAgreement s request) :
    AgreementClosed request s (s.lapsed env (agreementClosed env s.requestId request s.db)) ↔
      FeesSafe s.requestId request s.db ∧
        forall orderId order, request.orderId = some orderId ->
          s.db.orders.findUnique orderId = some order -> mustClose s.db orderId order = false := by
  rw [lapsed_closed_iff, agreementClosed_fees_iff hvalid h]
  constructor
  · rintro ⟨-, hsafe, horders⟩
    refine ⟨hsafe, ?_⟩
    intro orderId order horderId horder
    by_contra hmust
    rw [Bool.not_eq_false] at hmust
    have hreleased := (horders orderId order horderId horder hmust).cancelled
    obtain ⟨events, hframe⟩ := agreementClosed_frame env s.requestId request s.db
    rw [hframe] at hreleased
    change (s.db.orders.findUnique orderId).map _ = _ at hreleased
    rw [horder] at hreleased
    have hstatus : order.status = .cancelled := Option.some.inj hreleased
    simp [mustClose, hstatus] at hmust
  · rintro ⟨hsafe, hstays⟩
    refine ⟨agreementClosed_closed h, hsafe, ?_⟩
    intro orderId order horderId horder hmust
    rw [hstays orderId order horderId horder] at hmust
    cases hmust

/-- The order is cancelled with the agreement. -/
theorem closed_released_iff (hvalid : RowsValid s.db) (h : IsAgreement s request) {order : Order}
    (horderId : request.orderId = some orderId)
    (horder : s.db.orders.findUnique orderId = some order)
    (hmust : mustClose s.db orderId order = true) {reason : Option String} {db' : Db}
    (hcancel : cancelLoadedOrder env .included orderId actorId reason role
      (agreementClosed env s.requestId request s.db) = .ok db') :
    AgreementClosed request s (s.lapsed env db') ↔
      FeesSafe s.requestId request s.db ∧
        (order.status ≠ .pendingPayment -> forall l,
          s.db.listings.findUnique order.listingId = some l -> l.category.isPhysical = true ->
          epsilon < min l.quantity (l.availableQuantity + order.quantity)) := by
  have hvalid₁ : RowsValid (agreementClosed env s.requestId request s.db) := hvalid.agreementClosed
  have hclosed : RequestClosed s.requestId request
      (agreementClosed env s.requestId request s.db) := agreementClosed_closed h
  have hinspector : request.inspectorId.isSome = true :=
    hvalid.inspectors s.requestId request h.found h.accepted
  obtain ⟨events, hframe⟩ := agreementClosed_frame env s.requestId request s.db
  have horder₁ : (agreementClosed env s.requestId request s.db).orders.findUnique orderId =
      some order := by
    rw [hframe]
    exact horder
  have hlistings : (agreementClosed env s.requestId request s.db).listings = s.db.listings := by
    rw [hframe]
    rfl
  have hsafe : FeesSafe s.requestId request (agreementClosed env s.requestId request s.db) ↔
      FeesSafe s.requestId request s.db := by
    rw [hframe]
    exact Iff.rfl
  generalize agreementClosed env s.requestId request s.db = db₁ at *
  unfold cancelLoadedOrder at hcancel
  rw [loadOrder_included horder₁] at hcancel
  dsimp only at hcancel
  have hcancelled := cancelOrderInTransaction_cancelled hcancel
  have hnotDisputed : order.status ≠ .disputed := by
    intro hdisputed
    simp [mustClose, hdisputed] at hmust
  have hfees' := feesSafe_iff (hclosed.cancelOrder hcancel) hinspector
    (by
      intro i p hp hpending j q hq hj
      have hp₁ := pending_before_cancellation hvalid₁.indexed hcancel hp hpending
      have hkey : forall q₁, db₁.payments.findUnique j = some q₁ ->
          p.sameProviderTransaction q₁ = false := fun q₁ hq₁ =>
        (Bool.or_eq_false_iff.1
          (hvalid₁.indexed i j p q₁ hp₁ hq₁ fun hij => hj hij.symm)).1
      rcases hcancelled.refunds.payments j with hsame | ⟨q₁, status, hq₁, -, hwritten⟩
      · exact hkey q (hsame ▸ hq)
      · rw [hq] at hwritten
        obtain rfl := Option.some.inj hwritten
        exact hkey q₁ hq₁)
    (by
      intro i p hp hpending
      exact (hvalid₁.amounts i p
        (pending_before_cancellation hvalid₁.indexed hcancel hp hpending)).2)
  have hsafe' : FeesSafe s.requestId request db' ↔ FeesSafe s.requestId request db₁ :=
    feesSafe_cancelOrder_iff hvalid₁.indexed hcancel hnotDisputed (by rw [horderId]; simp)
  have hlisting : (forall l, s.db.listings.findUnique order.listingId = some l ->
        exists l', db'.listings.findUnique order.listingId = some l' ∧ l'.isOffered = true) ↔
      (order.status ≠ .pendingPayment -> forall l,
        s.db.listings.findUnique order.listingId = some l -> l.category.isPhysical = true ->
        epsilon < min l.quantity (l.availableQuantity + order.quantity)) := by
    rw [← hlistings]
    exact cancelOrderInTransaction_listing_iff hcancel
  rw [lapsed_closed_iff, hfees', hsafe', hsafe, ← hlisting]
  have hstatus : (db'.orders.findUnique orderId).map (·.status) = some .cancelled := by
    rw [hcancelled.orders]
    change ((db₁.orders.update orderId _).findUnique orderId).map _ = _
    rw [Table.findUnique_update_self, horder₁]
    rfl
  constructor
  · rintro ⟨-, hfeesSafe, horders⟩
    exact ⟨hfeesSafe, (horders orderId order horderId horder hmust).listing⟩
  · rintro ⟨hfeesSafe, hoffered⟩
    refine ⟨hclosed.cancelOrder hcancel, hfeesSafe, ?_⟩
    intro orderId' order' horderId' horder' _
    rw [horderId] at horderId'
    obtain rfl := Option.some.inj horderId'
    rw [horder] at horder'
    obtain rfl := Option.some.inj horder'
    exact ⟨hstatus, hoffered⟩

theorem exists_lapse_iff (h : IsAgreement s request) {code : LapseCode}
    (hcode : reason.code = some code) :
    (exists s', s.lapse env reason actorId role = .ok (s', true) ∧ AgreementClosed request s s') ↔
      exists db', lapseInspectionAgreement env s.requestId code actorId role s.db = .ok db' ∧
        AgreementClosed request s (s.lapsed env db') := by
  have hopen : s.isOpen = true := by
    simp [AgreementSession.isOpen, h.found, h.accepted, h.unmoved]
  constructor
  · rintro ⟨s', hlapse, hclosed⟩
    obtain ⟨code', db', hcode', -, hok, rfl⟩ := lapse_eq_ok_true_iff.1 hlapse
    rw [hcode] at hcode'
    obtain rfl := Option.some.inj hcode'
    exact ⟨db', hok, hclosed⟩
  · rintro ⟨db', hok, hclosed⟩
    exact ⟨_, lapse_eq_ok_true_iff.2 ⟨code, db', hcode, hopen, hok, rfl⟩, hclosed⟩

theorem closed_kept_iff (hvalid : RowsValid s.db) (h : IsAgreement s request)
    (hkeeps : forall orderId order, request.orderId = some orderId ->
      s.db.orders.findUnique orderId = some order -> closesOrder s.db orderId order = false) :
    AgreementClosed request s (s.lapsed env (agreementClosed env s.requestId request s.db)) ↔
      FeesSafe s.requestId request s.db ∧ OrdersMayRelease role request s.db := by
  rw [closed_unreleased_iff hvalid h]
  apply and_congr_right
  intro _
  constructor
  · intro hnone orderId order horderId horder hmust
    rw [hnone orderId order horderId horder] at hmust
    cases hmust
  · intro hmay orderId order horderId horder
    by_contra hmust
    rw [Bool.not_eq_false] at hmust
    have hcloses := closesOrder_eq_true_iff.2
      ⟨hmust, (hmay orderId order horderId horder hmust).settled⟩
    rw [hkeeps orderId order horderId horder] at hcloses
    cases hcloses

/-- The code cancels the order with the agreement. -/
theorem lapse_released_iff (hvalid : RowsValid s.db) (h : IsAgreement s request) {order : Order}
    (horderId : request.orderId = some orderId)
    (horder : s.db.orders.findUnique orderId = some order)
    (hcloses : closesOrder s.db orderId order = true) {reason : Option String} :
    (exists db', cancelLoadedOrder env .included orderId actorId reason role
        (agreementClosed env s.requestId request s.db) = .ok db' ∧
      AgreementClosed request s (s.lapsed env db')) ↔
    FeesSafe s.requestId request s.db ∧ OrdersMayRelease role request s.db := by
  obtain ⟨hmust, hsettled⟩ := closesOrder_eq_true_iff.1 hcloses
  have hvalid₁ : RowsValid (agreementClosed env s.requestId request s.db) := hvalid.agreementClosed
  obtain ⟨events, hframe⟩ := agreementClosed_frame env s.requestId request s.db
  have horder₁ : (agreementClosed env s.requestId request s.db).orders.findUnique orderId =
      some order := by
    rw [hframe]
    exact horder
  have hjob : transportJobOf (agreementClosed env s.requestId request s.db) orderId =
      transportJobOf s.db orderId := by
    rw [hframe]
    rfl
  have hcommits : (exists db', cancelLoadedOrder env .included orderId actorId reason role
        (agreementClosed env s.requestId request s.db) = .ok db') ↔ _ :=
    cancelLoadedOrder_commits_iff hvalid₁ horder₁
  have hstatus : order.status ∈
        [OrderStatus.pendingPayment, .confirmed, .transportArranged, .disputed] ↔
      order.status ∈ [OrderStatus.pendingPayment, .confirmed, .transportArranged] := by
    have hnot : order.status ≠ .disputed := by
      intro hdisputed
      simp [mustClose, hdisputed] at hmust
    simp [hnot]
  rw [hjob, hstatus] at hcommits
  constructor
  · rintro ⟨db', hcancel, hclosed⟩
    obtain ⟨hsafe, hstock⟩ := (closed_released_iff hvalid h horderId horder hmust hcancel).1 hclosed
    obtain ⟨hallowed, hstill⟩ := hcommits.1 ⟨db', hcancel⟩
    refine ⟨hsafe, ?_⟩
    intro orderId' order' horderId' horder' _
    rw [horderId] at horderId'
    obtain rfl := Option.some.inj horderId'
    rw [horder] at horder'
    obtain rfl := Option.some.inj horder'
    exact ⟨hsettled, hallowed, hstill, hstock⟩
  · rintro ⟨hsafe, hmay⟩
    have hrelease := hmay orderId order horderId horder hmust
    obtain ⟨db', hcancel⟩ := hcommits.2 ⟨hrelease.status, hrelease.transport⟩
    exact ⟨db', hcancel,
      (closed_released_iff hvalid h horderId horder hmust hcancel).2 ⟨hsafe, hrelease.stock⟩⟩

theorem lapse_closes_iff (hvalid : RowsValid s.db) (h : IsAgreement s request) {code : LapseCode}
    (hcode : reason.code = some code) :
    (exists s', s.lapse env reason actorId role = .ok (s', true) ∧ AgreementClosed request s s') ↔
      FeesSafe s.requestId request s.db ∧ OrdersMayRelease role request s.db := by
  obtain ⟨events, hframe⟩ := agreementClosed_frame env s.requestId request s.db
  have horders : (agreementClosed env s.requestId request s.db).orders = s.db.orders := by
    rw [hframe]
    rfl
  have hcloses : forall orderId order,
      closesOrder (agreementClosed env s.requestId request s.db) orderId order =
        closesOrder s.db orderId order := by
    intro orderId order
    rw [hframe]
    rfl
  -- what is committed when the order stays as it is
  have hkept : forall result : Except ApiError Db,
      result = .ok (agreementClosed env s.requestId request s.db) ->
      (forall orderId order, request.orderId = some orderId ->
        s.db.orders.findUnique orderId = some order -> closesOrder s.db orderId order = false) ->
      ((exists db', result = .ok db' ∧ AgreementClosed request s (s.lapsed env db')) ↔
        FeesSafe s.requestId request s.db ∧ OrdersMayRelease role request s.db) := by
    rintro result rfl hkeeps
    rw [← closed_kept_iff hvalid h hkeeps]
    constructor
    · rintro ⟨db', hok, hclosed⟩
      obtain rfl := Except.ok.inj hok
      exact hclosed
    · exact fun hclosed => ⟨_, rfl, hclosed⟩
  rw [exists_lapse_iff h hcode, lapseInspectionAgreement_eq h code]
  cases horderId : request.orderId with
  | none =>
      apply hkept _ rfl
      intro orderId order hsome
      rw [horderId] at hsome
      cases hsome
  | some orderId =>
      dsimp only
      unfold closeOrderOfAgreement
      rw [horders]
      cases horder : s.db.orders.findUnique orderId with
      | none =>
          apply hkept _ rfl
          intro orderId' order horderId' hfound
          rw [horderId] at horderId'
          obtain rfl := Option.some.inj horderId'
          rw [horder] at hfound
          cases hfound
      | some order =>
          dsimp only
          rw [hcloses]
          cases hdecide : closesOrder s.db orderId order with
          | true => exact lapse_released_iff hvalid h horderId horder hdecide
          | false =>
              apply hkept _ rfl
              intro orderId' order' horderId' hfound
              rw [horderId] at horderId'
              obtain rfl := Option.some.inj horderId'
              rw [horder] at hfound
              obtain rfl := Option.some.inj hfound
              exact hdecide

end Lapse

section Provisional

/-- A provisional agreement on the goods of an unpaid order, whose fee is asked for. -/
def provisionalSession : AgreementSession :=
  { db :=
      { orders := Table.empty.create
          { listingId := 0
            buyerId := 1
            sellerId := 2
            finalPrice := 500
            quantity := 1
            agreedOfferId := some 0 }
        listings := Table.empty.create
          { sellerId := 2
            quantity := 1
            availableQuantity := 1
            askingPrice := 500
            status := .underNegotiation }
        offers := Table.empty.create
          { listingId := 0
            buyerId := 1
            sellerId := 2
            amount := 500
            quantity := some 1
            status := .accepted }
        inspectionRequests := Table.empty.create
          { orderId := some 0
            inspectorId := some 4
            status := .accepted
            fee := some 100
            workflowDueAt := some 1000 }
        inspectionQuotes := Table.empty.create
          { inspectionRequestId := 0
            inspectorId := 4
            amount := 100
            status := .accepted }
        payments := Table.empty.create
          { type := .inspector
            amount := 100
            orderId := some 0
            inspectionRequestId := some 0
            createdById := some 1 } }
    requestId := 0
    coordination := some { sellerSubmittedAt := some 10 } }

theorem provisionalSession_rowsValid : RowsValid provisionalSession.db := by
  refine ⟨?_, ?_, ?_, ?_⟩
  · exact (Table.all_empty _).create fun _ => rfl
  · apply Table.Unique.create (Table.unique_empty _)
    · intro p q
      rw [p.sameProviderTransaction_comm, p.sameActiveTransportJob_comm]
    · intro i q hq
      rw [Table.findUnique_empty] at hq
      cases hq
  · exact (Table.all_empty _).create ⟨by norm_num, by decide +kernel⟩
  · exact (Table.all_empty _).create (by norm_num)

end Provisional

end MarketBridge
