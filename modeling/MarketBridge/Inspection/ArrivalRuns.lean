import MarketBridge.Inspection.Arrival
import MarketBridge.Payment.ObligationSync
import MarketBridge.Payment.SettlementSpec

/-!
# What an arrival is worth in a later agreement

The row of a check-in stays when the agreement it was made in ends.  As long as the
next agreement is with somebody else it counts for nothing; with the same inspector it
is current again, and then it confirms, blocks or rules on an agreement that it knows
nothing of.
-/

namespace MarketBridge

open Relational

variable {codeOf : ArrivalCode} {env : Env} {s s' : ArrivalSession} {row : InspectionRequest}

/-! ## Steps -/

inductive ArrivalStep where
  | acceptQuote (userId quoteId : Id)
  | confirmInspection (userId : Id) (salt : String)
  | checkIn (userId : Id) (c : CheckIn)
  | sellerConfirm (userId : Id)
  | sellerDispute (userId : Id) (reason : String)
  | autoConfirm
  | adminResolve (adminId : Id) (outcome : ArrivalSession.ArrivalOutcome) (note : Option String)
  | releaseQuote (userId quoteId : Id) (reason note : Option String) (reads : ReleaseReads)
  | reopenBidding
  | approveRecovery (adminId recoveryId : Id)
  | lapseMissed
  /-- Bids, hand-off details, payments and recovery requests of others. -/
  | elsewhere (other : Db) (coordination : Option InspectionCoordination)

def InspectionArrivalStatus.isConfirmed (status : InspectionArrivalStatus) : Bool :=
  status ∈ [InspectionArrivalStatus.confirmed, .autoConfirmed, .resolvedArrived]

namespace ArrivalSession

def step (codeOf : ArrivalCode) (s : ArrivalSession) (a : Env × ArrivalStep) : ArrivalSession :=
  match a.2 with
  | .acceptQuote userId quoteId => commit (s.acceptQuote a.1 userId quoteId) s
  | .confirmInspection userId salt => commit (s.confirmInspection a.1 userId salt) s
  | .checkIn userId c => commit (s.checkIn codeOf a.1 userId c) s
  | .sellerConfirm userId => commit (s.sellerConfirm a.1 userId) s
  | .sellerDispute userId reason => commit (s.sellerDispute a.1 userId reason) s
  | .autoConfirm => s.autoConfirmDueArrivals a.1
  | .adminResolve adminId outcome note => commit (s.adminResolve a.1 adminId outcome note) s
  | .releaseQuote userId quoteId reason note reads =>
      commit (s.releaseQuote a.1 userId quoteId reason note reads) s
  | .reopenBidding => commit (s.reopenBidding a.1) s
  | .approveRecovery adminId recoveryId => commit (s.approveRecovery a.1 adminId recoveryId) s
  | .lapseMissed => s.lapseMissedArrivals a.1
  | .elsewhere other coordination =>
      { s with
        db := { other with
          inspectionRequests := s.db.inspectionRequests
          orders := s.db.orders }
        coordination := coordination }

/-! ## Statements -/

def onSiteConfirmedAt (s : ArrivalSession) : Option Nat :=
  s.request.bind (·.inspectorOnSiteConfirmedAt)

def isMarked (s : ArrivalSession) : Bool :=
  s.arrival.any (·.status.isConfirmed)

/-- A confirmation rests on a check-in of the inspector since the seller confirmed him. -/
def Earned (s s' : ArrivalSession) : Prop :=
  s.onSiteConfirmedAt = none -> s'.onSiteConfirmedAt ≠ none ->
    exists inspectorId, s'.request.bind (·.inspectorId) = some inspectorId ∧
      s'.checkedIn = some inspectorId

def MarkedTogether (s s' : ArrivalSession) : Prop :=
  s'.arrival ≠ s.arrival -> s'.isMarked = true ->
    s.onSiteConfirmedAt = none ∧ s'.onSiteConfirmedAt ≠ none

/-- An inspector whom the seller has confirmed, and who has not checked in, can do so in time. -/
def CanCheckIn (codeOf : ArrivalCode) (s : ArrivalSession) : Prop :=
  forall env request inspectorId, s.request = some request ->
    request.inspectorId = some inspectorId -> request.awaitingArrival = true ->
    s.checkedIn ≠ some inspectorId -> isDue env.now request.workflowDueAt = false ->
    (s.checkIn codeOf env inspectorId {}).isOk = true

/-- The step confirms only what was earned, and whoever is agreed then can still check in. -/
def ArrivalStands (codeOf : ArrivalCode) (s : ArrivalSession) (a : Env × ArrivalStep) : Prop :=
  Earned s (s.step codeOf a) ∧ MarkedTogether s (s.step codeOf a) ∧
    CanCheckIn codeOf (s.step codeOf a)

def assignee (env : Env) (userId quoteId : Id) (s : ArrivalSession) : Option Id :=
  if (checkAcceptInspection env s.requestedById
      { userId := userId
        requestId := s.requestId
        quoteId := quoteId } s.db).isOk then
    (findLeafInspectionQuote s.db quoteId).map (·.inspectorId)
  else
    none

def newAssignee (s : ArrivalSession) (a : Env × ArrivalStep) : Option Id :=
  match a.2 with
  | .acceptQuote userId quoteId => s.assignee a.1 userId quoteId
  | _ => none

/-- No inspector is agreed whose earlier check-in is still open or was ruled a no-show. -/
def AgreedAnew (s : ArrivalSession) (a : Env × ArrivalStep) : Prop :=
  forall arrival, s.arrival = some arrival -> s.newAssignee a = some arrival.inspectorId ->
    arrival.status.isConfirmed = true

/-- The request waits for bids, nobody has checked in, and its order is open. -/
structure IsOpen (s : ArrivalSession) : Prop where
  request : exists request, s.request = some request ∧ request.isUnclaimed = true ∧
    request.sellerConfirmedAt = none ∧ request.inspectorOnSiteConfirmedAt = none ∧
    assertOrderOpen request "" s.db = .ok ()
  arrival : s.arrival = none
  checkedIn : s.checkedIn = none

end ArrivalSession

/-! ## Moves -/

/-- What the arrival is decided on: the request, the row and the check-in. -/
structure ArrivalView where
  row : InspectionRequest
  arrival : Option InspectionArrival
  checkedIn : Option Id

/-- The session shows the view, and the order of its request is open. -/
structure ArrivalSession.Shows (s : ArrivalSession) (v : ArrivalView) : Prop where
  request : s.request = some v.row
  arrival : s.arrival = v.arrival
  checkedIn : s.checkedIn = v.checkedIn
  order : assertOrderOpen v.row "" s.db = .ok ()

namespace ArrivalView

def IsCurrent (v : ArrivalView) (arrival : InspectionArrival) : Prop :=
  v.arrival = some arrival ∧ v.row.inspectorId = some arrival.inspectorId

def mayBeOnSite (row : InspectionRequest) : Bool :=
  row.status = .accepted && row.sellerConfirmedAt.isSome && row.inspectorOnSiteConfirmedAt.isNone

end ArrivalView

/-- Everything that a step does to the view. -/
inductive ArrivalMove (env : Env) (v : ArrivalView) : ArrivalView -> Prop where
  | kept : ArrivalMove env v v
  | agreed (inspectorId : Id) (fee : ℚ) (hfree : v.row.isUnclaimed = true)
      (hanew : forall arrival, v.arrival = some arrival -> inspectorId = arrival.inspectorId ->
        arrival.status.isConfirmed = true) :
      ArrivalMove env v { v with row := v.row.agreed env inspectorId fee }
  | confirmed (hinspector : v.row.inspectorId.isSome = true)
      (hfirst : v.row.sellerConfirmedAt = none) :
      ArrivalMove env v
        { v with
          row := v.row.sellerConfirmed env
          checkedIn := none }
  | checkedIn (arrival : InspectionArrival) (hinspector : v.row.inspectorId = some arrival.inspectorId)
      (hwaiting : v.row.awaitingArrival = true) (hpending : arrival.status = .pendingSeller) :
      ArrivalMove env v
        { v with
          arrival := some arrival
          checkedIn := some arrival.inspectorId }
  | proven (arrival : InspectionArrival) (hinspector : v.row.inspectorId = some arrival.inspectorId)
      (hwaiting : v.row.awaitingArrival = true) (hmarked : arrival.status.isConfirmed = true) :
      ArrivalMove env v
        { row := v.row.onSite env
          arrival := some arrival
          checkedIn := some arrival.inspectorId }
  | marked (arrival arrival' : InspectionArrival) (hcurrent : v.IsCurrent arrival)
      (hopen : arrival.status.isConfirmed = false)
      (hinspector : arrival'.inspectorId = arrival.inspectorId)
      (hmarked : arrival'.status.isConfirmed = true)
      (hmay : ArrivalView.mayBeOnSite v.row = true) :
      ArrivalMove env v
        { v with
          row := v.row.onSite env
          arrival := some arrival' }
  | stranded (arrival arrival' : InspectionArrival) (hcurrent : v.IsCurrent arrival)
      (hopen : arrival.status.isConfirmed = false)
      (hmay : ArrivalView.mayBeOnSite v.row = false) :
      ArrivalMove env v { v with arrival := some arrival' }
  | disputed (arrival arrival' : InspectionArrival) (hcurrent : v.IsCurrent arrival)
      (hopen : arrival.status.isConfirmed = false)
      (hinspector : arrival'.inspectorId = arrival.inspectorId)
      (hdisputed : arrival'.status.isConfirmed = false) :
      ArrivalMove env v { v with arrival := some arrival' }
  | unassigned (workflowDueAt : Option Nat) (arrival' : Option InspectionArrival)
      (hkept : arrival' = v.arrival ∨ arrival'.any (·.status.isConfirmed) = false) :
      ArrivalMove env v
        { v with
          row := { v.row.unassigned with workflowDueAt := workflowDueAt }
          arrival := arrival' }

/-! ## Invariant -/

namespace ArrivalView

/-- A row that is current and still open was made in the current agreement. -/
structure Inv (v : ArrivalView) : Prop where
  assigned : v.row.inspectorId.isSome = true -> v.row.status = .accepted
  unassigned : v.row.inspectorId = none ->
    v.row.sellerConfirmedAt = none ∧ v.row.inspectorOnSiteConfirmedAt = none
  fresh : forall arrival, v.IsCurrent arrival -> arrival.status.isConfirmed = false ->
    v.row.sellerConfirmedAt.isSome = true ∧ v.row.inspectorOnSiteConfirmedAt = none ∧
      v.checkedIn = some arrival.inspectorId

variable {v v' : ArrivalView}

theorem Inv.mayBeOnSite (h : v.Inv) {arrival : InspectionArrival} (hcurrent : v.IsCurrent arrival)
    (hopen : arrival.status.isConfirmed = false) :
    mayBeOnSite v.row = true := by
  obtain ⟨hconfirmed, honSite, -⟩ := h.fresh arrival hcurrent hopen
  have hstatus := h.assigned (by rw [hcurrent.2]; rfl)
  simp [ArrivalView.mayBeOnSite, hstatus, hconfirmed, honSite]

theorem awaitingArrival_eq_true_iff :
    row.awaitingArrival = true ↔
      row.status = .accepted ∧ row.inspectorId.isSome = true ∧
        row.sellerConfirmedAt.isSome = true ∧ row.inspectorOnSiteConfirmedAt = none := by
  simp [InspectionRequest.awaitingArrival, and_assoc]

theorem isUnclaimed_eq_true_iff :
    row.isUnclaimed = true ↔ row.status = .requested ∧ row.inspectorId = none := by
  simp [InspectionRequest.isUnclaimed]

theorem Inv.move (h : v.Inv) (hmove : ArrivalMove env v v') : v'.Inv := by
  cases hmove with
  | kept =>
      exact h
  | agreed inspectorId fee hfree hanew =>
      refine ⟨fun _ => rfl, nofun, ?_⟩
      rintro arrival ⟨harrival, hinspector⟩ hopen
      rw [hanew arrival harrival (Option.some.inj hinspector)] at hopen
      cases hopen
  | confirmed hinspector hfirst =>
      refine ⟨h.assigned, ?_, ?_⟩
      · intro hnone
        rw [show v.row.inspectorId = none from hnone] at hinspector
        cases hinspector
      · intro arrival hcurrent hopen
        have hbefore := (h.fresh arrival hcurrent hopen).1
        rw [hfirst] at hbefore
        cases hbefore
  | checkedIn arrival hinspector hwaiting hpending =>
      obtain ⟨-, -, hconfirmed, honSite⟩ := awaitingArrival_eq_true_iff.1 hwaiting
      refine ⟨h.assigned, h.unassigned, ?_⟩
      rintro other ⟨hother, -⟩ -
      obtain rfl := Option.some.inj hother
      exact ⟨hconfirmed, honSite, rfl⟩
  | proven arrival hinspector hwaiting hmarked =>
      refine ⟨h.assigned, ?_, ?_⟩
      · intro hnone
        rw [show v.row.inspectorId = none from hnone] at hinspector
        cases hinspector
      · rintro other ⟨hother, -⟩ hopen
        obtain rfl := Option.some.inj hother
        rw [hmarked] at hopen
        cases hopen
  | marked arrival arrival' hcurrent hopen hinspector hmarked hmay =>
      refine ⟨h.assigned, ?_, ?_⟩
      · intro hnone
        have hsome := hcurrent.2
        rw [show v.row.inspectorId = none from hnone] at hsome
        cases hsome
      · rintro other ⟨hother, -⟩ hstillOpen
        obtain rfl := Option.some.inj hother
        rw [hmarked] at hstillOpen
        cases hstillOpen
  | stranded arrival arrival' hcurrent hopen hmay =>
      rw [h.mayBeOnSite hcurrent hopen] at hmay
      cases hmay
  | disputed arrival arrival' hcurrent hopen hinspector hdisputed =>
      refine ⟨h.assigned, h.unassigned, ?_⟩
      rintro other ⟨hother, -⟩ -
      obtain rfl := Option.some.inj hother
      rw [hinspector]
      exact h.fresh arrival hcurrent hopen
  | unassigned workflowDueAt arrival' hkept =>
      refine ⟨nofun, fun _ => ⟨rfl, rfl⟩, ?_⟩
      rintro arrival ⟨-, hinspector⟩
      cases hinspector

theorem Inv.earned (h : v.Inv) (hmove : ArrivalMove env v v')
    (hbefore : v.row.inspectorOnSiteConfirmedAt = none)
    (hafter : v'.row.inspectorOnSiteConfirmedAt ≠ none) :
    exists inspectorId, v'.row.inspectorId = some inspectorId ∧
      v'.checkedIn = some inspectorId := by
  cases hmove with
  | proven arrival hinspector hwaiting hmarked =>
      exact ⟨arrival.inspectorId, hinspector, rfl⟩
  | marked arrival arrival' hcurrent hopen hinspector hmarked hmay =>
      exact ⟨arrival.inspectorId, hcurrent.2, (h.fresh arrival hcurrent hopen).2.2⟩
  | unassigned workflowDueAt arrival' hkept =>
      exact absurd rfl hafter
  | _ =>
      exact absurd hbefore hafter

theorem Inv.markedTogether (h : v.Inv) (hmove : ArrivalMove env v v')
    (hnew : v'.arrival ≠ v.arrival) (hmarked : v'.arrival.any (·.status.isConfirmed) = true) :
    v.row.inspectorOnSiteConfirmedAt = none ∧ v'.row.inspectorOnSiteConfirmedAt ≠ none := by
  cases hmove with
  | kept =>
      exact absurd rfl hnew
  | agreed inspectorId fee hfree hanew =>
      exact absurd rfl hnew
  | confirmed hinspector hfirst =>
      exact absurd rfl hnew
  | checkedIn arrival hinspector hwaiting hpending =>
      simp [hpending, InspectionArrivalStatus.isConfirmed] at hmarked
  | proven arrival hinspector hwaiting hmarked =>
      exact ⟨(awaitingArrival_eq_true_iff.1 hwaiting).2.2.2, nofun⟩
  | marked arrival arrival' hcurrent hopen hinspector hmarked hmay =>
      exact ⟨(h.fresh arrival hcurrent hopen).2.1, nofun⟩
  | stranded arrival arrival' hcurrent hopen hmay =>
      rw [h.mayBeOnSite hcurrent hopen] at hmay
      cases hmay
  | disputed arrival arrival' hcurrent hopen hinspector hdisputed =>
      rw [Option.any_some, hdisputed] at hmarked
      cases hmarked
  | unassigned workflowDueAt arrival' hkept =>
      rcases hkept with hsame | hnot
      · exact absurd hsame hnew
      · rw [hnot] at hmarked
        cases hmarked

end ArrivalView

/-! ## Sessions -/

theorem assertOrderOpen_congr {row' : InspectionRequest} {db db' : Db} (label : String)
    (horderId : row'.orderId = row.orderId) (horders : db'.orders = db.orders) :
    assertOrderOpen row' label db' = assertOrderOpen row label db := by
  unfold assertOrderOpen lockOrderAndAssertNotClosed
  rw [horderId, horders]

theorem assertOrderOpen_label {db : Db} (label : String)
    (h : assertOrderOpen row "" db = .ok ()) :
    assertOrderOpen row label db = .ok () := by
  unfold assertOrderOpen at h ⊢
  cases horder : row.orderId with
  | none =>
      rfl
  | some orderId =>
      rw [horder] at h
      unfold lockOrderAndAssertNotClosed at h ⊢
      dsimp only at h ⊢
      cases hrow : db.orders.findUnique orderId with
      | none =>
          rfl
      | some order =>
          rw [hrow] at h
          dsimp only at h ⊢
          unfold assertNotClosed at h ⊢
          obtain ⟨hopen, h⟩ := guard_eq_ok.mp h
          rw [if_neg hopen]

namespace ArrivalSession

variable {v : ArrivalView} {userId adminId orderId requestedById : Id} {db db' : Db}
  {loaded : LoadedInspectionQuote}

theorem Shows.to {v' : ArrivalView} (h : s.Shows v) (hrequest : s'.request = some v'.row)
    (harrival : s'.arrival = v'.arrival) (hcheckedIn : s'.checkedIn = v'.checkedIn)
    (horders : s'.db.orders = s.db.orders) (horderId : v'.row.orderId = v.row.orderId) :
    s'.Shows v' := by
  refine ⟨hrequest, harrival, hcheckedIn, ?_⟩
  rw [assertOrderOpen_congr "" horderId horders]
  exact h.order

theorem setRequest_request {f : InspectionRequest -> InspectionRequest}
    (h : s.request = some row) :
    (s.setRequest f).request = some (f row) := by
  unfold setRequest request
  rw [Table.findUnique_update_self, show s.db.inspectionRequests.findUnique s.requestId = some row
    from h]
  rfl

theorem recordOrderEvent_sameRows (env : Env) (orderId : Option Id) (type : OrderEventType)
    (db : Db) :
    (recordOrderEvent env orderId type db).inspectionRequests = db.inspectionRequests ∧
      (recordOrderEvent env orderId type db).orders = db.orders := by
  obtain ⟨events, h⟩ := recordOrderEvent_frame env orderId type db
  rw [h]
  exact ⟨rfl, rfl⟩

theorem syncOrderPaymentObligations_sameRows (orderId : Id) (db : Db) :
    (syncOrderPaymentObligations orderId db).inspectionRequests = db.inspectionRequests ∧
      (syncOrderPaymentObligations orderId db).orders = db.orders := by
  obtain ⟨payments, obligations, h⟩ := (syncOrderPaymentObligations_linksOnly orderId db).frame
  rw [h]
  exact ⟨rfl, rfl⟩

/-- The bookkeeping behind a write touches neither the request nor the row of the arrival. -/
structure SameRows (s s' : ArrivalSession) : Prop where
  request : s'.request = s.request
  arrival : s'.arrival = s.arrival
  checkedIn : s'.checkedIn = s.checkedIn
  orders : s'.db.orders = s.db.orders

theorem recordEvent_sameRows (s : ArrivalSession) (env : Env) (orderId : Option Id)
    (type : OrderEventType) :
    SameRows s (s.recordEvent env orderId type) := by
  obtain ⟨hrequests, horders⟩ := recordOrderEvent_sameRows env orderId type s.db
  refine ⟨?_, rfl, rfl, horders⟩
  unfold request recordEvent
  rw [hrequests]

theorem syncAndRecord_sameRows (s : ArrivalSession) (env : Env) (orderId : Option Id)
    (type : OrderEventType) :
    SameRows s (s.syncAndRecord env orderId type) := by
  unfold syncAndRecord
  cases orderId with
  | none =>
      exact ⟨rfl, rfl, rfl, rfl⟩
  | some orderId =>
      obtain ⟨hsync, horders⟩ := syncOrderPaymentObligations_sameRows orderId s.db
      obtain ⟨hrecord, horders'⟩ := recordOrderEvent_sameRows env (some orderId) type
        (syncOrderPaymentObligations orderId s.db)
      refine ⟨?_, rfl, rfl, horders'.trans horders⟩
      unfold request
      dsimp only
      rw [hrecord, hsync]

theorem closeCoordination_sameRows (env : Env) (s : ArrivalSession) :
    SameRows s (s.closeCoordination env) :=
  ⟨rfl, rfl, rfl, rfl⟩

theorem ensureOpenCoordination_sameRows (s : ArrivalSession) :
    SameRows s s.ensureOpenCoordination := by
  unfold ensureOpenCoordination
  split
  · split <;> exact ⟨rfl, rfl, rfl, rfl⟩
  · exact ⟨rfl, rfl, rfl, rfl⟩

theorem SameRows.shows (h : SameRows s s') (hs : s.Shows v) : s'.Shows v :=
  hs.to (h.request.trans hs.request) (h.arrival.trans hs.arrival) (h.checkedIn.trans hs.checkedIn)
    h.orders rfl

theorem Shows.mayConfirmArrival (h : s.Shows v) :
    s.mayConfirmArrival v.row = ArrivalView.mayBeOnSite v.row := by
  unfold ArrivalSession.mayConfirmArrival ArrivalView.mayBeOnSite
  rw [h.request]
  simp

theorem Shows.applyArrivalConfirmed (h : s.Shows v) (hmay : ArrivalView.mayBeOnSite v.row = true)
    (env : Env) :
    exists s', s.applyArrivalConfirmed env v.row = some s' ∧
      s'.Shows { v with row := v.row.onSite env } := by
  unfold ArrivalSession.applyArrivalConfirmed
  rw [if_pos (h.mayConfirmArrival.trans hmay)]
  refine ⟨_, rfl, (syncAndRecord_sameRows _ env _ _).shows ?_⟩
  exact h.to (setRequest_request h.request) h.arrival h.checkedIn rfl rfl

theorem Shows.applyArrivalConfirmed_none (h : s.Shows v)
    (hmay : ArrivalView.mayBeOnSite v.row = false) (env : Env) :
    s.applyArrivalConfirmed env v.row = none := by
  unfold ArrivalSession.applyArrivalConfirmed
  rw [h.mayConfirmArrival, hmay]
  rfl

theorem Shows.currentArrival (h : s.Shows v) {arrival : InspectionArrival} :
    s.currentArrival v.row = some arrival ↔ v.IsCurrent arrival := by
  unfold ArrivalSession.currentArrival ArrivalView.IsCurrent
  rw [h.arrival, Option.filter_eq_some_iff, decide_eq_true_eq, eq_comm (a := some arrival.inspectorId)]

/-! ## Handlers -/

def Moves (env : Env) (v : ArrivalView) (s' : ArrivalSession) : Prop :=
  exists v', ArrivalMove env v v' ∧ s'.Shows v'

theorem Shows.moves {v' : ArrivalView} (h : s'.Shows v') (hmove : ArrivalMove env v v') :
    Moves env v s' :=
  ⟨v', hmove, h⟩

theorem loadQuoteForNegotiation_call {r : InspectionQuoteRequest}
    (h : loadQuoteForNegotiation requestedById r db = .ok loaded) :
    loaded.toInspectionQuoteRequest = r ∧
      db.inspectionRequests.findUnique r.requestId = some loaded.request := by
  unfold loadQuoteForNegotiation at h
  cases hrequest : db.inspectionRequests.findUnique r.requestId with
  | none =>
      rw [hrequest] at h
      cases h
  | some request =>
      rw [hrequest] at h
      dsimp only at h
      repeat' split at h
      all_goals
        first
          | obtain rfl := Except.ok.inj h
            exact ⟨rfl, rfl⟩
          | cases h

theorem checkAcceptInspection_call {r : InspectionQuoteRequest}
    (h : checkAcceptInspection env requestedById r db = .ok loaded) :
    loaded.toInspectionQuoteRequest = r ∧
      db.inspectionRequests.findUnique r.requestId = some loaded.request := by
  unfold checkAcceptInspection at h
  obtain ⟨read, hread, h⟩ := bind_eq_ok.1 h
  repeat' split at h
  all_goals
    first
      | obtain rfl := Except.ok.inj h
        exact loadQuoteForNegotiation_call hread
      | cases h

theorem agreeOnInspector_rows (env : Env) (r : LoadedInspectionQuote) (fresh : InspectionQuote)
    (db : Db) :
    (agreeOnInspector env r fresh db).inspectionRequests =
        db.inspectionRequests.update r.requestId
          (InspectionRequest.agreed env fresh.inspectorId r.quote.finalAmount) ∧
      (agreeOnInspector env r fresh db).orders = db.orders := by
  unfold agreeOnInspector
  cases r.request.orderId with
  | none =>
      exact ⟨rfl, rfl⟩
  | some orderId =>
      dsimp only
      obtain ⟨hrecord, horders⟩ := recordOrderEvent_sameRows env (some orderId) .inspectionAccepted
        (syncOrderPaymentObligations orderId { db with
          inspectionRequests := db.inspectionRequests.update r.requestId
            (InspectionRequest.agreed env fresh.inspectorId r.quote.finalAmount)
          inspectionQuotes := db.inspectionQuotes.update r.quoteId ({ · with
            status := .accepted
            amount := r.quote.finalAmount }) })
      rw [hrecord, horders, (syncOrderPaymentObligations_sameRows orderId _).1,
        (syncOrderPaymentObligations_sameRows orderId _).2]
      exact ⟨rfl, rfl⟩

theorem acceptQuote_moves {v : ArrivalView} (h : s.Shows v) {userId quoteId : Id}
    (hanew : forall arrival, s.arrival = some arrival ->
      s.assignee env userId quoteId = some arrival.inspectorId ->
      arrival.status.isConfirmed = true)
    (hok : s.acceptQuote env userId quoteId = .ok s') :
    Moves env v s' := by
  unfold acceptQuote at hok
  obtain ⟨loaded, hcheck, hok⟩ := bind_eq_ok.1 hok
  obtain ⟨db, haccept, hok⟩ := bind_eq_ok.1 hok
  obtain rfl := Except.ok.inj hok
  obtain ⟨hcall, -⟩ := checkAcceptInspection_call hcheck
  have hrequestId : loaded.requestId = s.requestId :=
    congrArg InspectionQuoteRequest.requestId hcall
  have hquoteId : loaded.quoteId = quoteId := congrArg InspectionQuoteRequest.quoteId hcall
  unfold acceptInspectionQuote at haccept
  obtain ⟨-, -, haccept⟩ := bind_eq_ok.1 haccept
  rw [hquoteId, hrequestId] at haccept
  cases hfresh : findLeafInspectionQuote s.db quoteId with
  | none =>
      rw [hfresh] at haccept
      cases haccept
  | some fresh =>
      rw [hfresh] at haccept
      dsimp only at haccept
      replace haccept := (guard_eq_ok.mp haccept).2
      split at haccept
      · rename_i hfree
        obtain rfl := Except.ok.inj haccept
        rw [show s.db.inspectionRequests.findUnique s.requestId = some v.row from h.request,
          Option.any_some] at hfree
        obtain ⟨hrequests, horders⟩ := agreeOnInspector_rows env loaded fresh s.db
        refine ⟨{ v with row := v.row.agreed env fresh.inspectorId loaded.quote.finalAmount },
          .agreed fresh.inspectorId loaded.quote.finalAmount hfree ?_, ?_⟩
        · intro arrival harrival hinspector
          refine hanew arrival (h.arrival.trans harrival) ?_
          have hassignee : s.assignee env userId quoteId = some fresh.inspectorId := by
            unfold assignee
            rw [hcheck, hfresh]
            rfl
          rw [hassignee, hinspector]
        · refine (ensureOpenCoordination_sameRows _).shows ?_
          refine h.to ?_ h.arrival h.checkedIn horders rfl
          unfold request
          dsimp only
          rw [hrequests, hrequestId, Table.findUnique_update_self,
            show s.db.inspectionRequests.findUnique s.requestId = some v.row from h.request]
          rfl
      · cases haccept

theorem assertMayConfirm_guards (hok : assertMayConfirm env userId row s = .ok ()) :
    row.inspectorId.isSome = true ∧ row.sellerConfirmedAt = none := by
  unfold assertMayConfirm at hok
  obtain ⟨-, -, hok⟩ := bind_eq_ok.1 hok
  split at hok
  · cases hok
  · simp only [guard_eq_ok] at hok
    obtain ⟨-, -, -, hprovisional, hfirst, hok⟩ := hok
    rw [not_or] at hprovisional hfirst
    exact ⟨Option.isSome_iff_ne_none.2 hprovisional.2, by simpa using hfirst.1⟩

theorem confirmInspection_moves (h : s.Shows v) {salt : String}
    (hok : s.confirmInspection env userId salt = .ok s') :
    Moves env v s' := by
  unfold confirmInspection at hok
  rw [h.request] at hok
  obtain ⟨⟨⟩, hmay, hok⟩ := bind_eq_ok.1 hok
  obtain rfl := Except.ok.inj hok
  obtain ⟨hinspector, hfirst⟩ := assertMayConfirm_guards hmay
  obtain ⟨hrequest, harrival, -, horders⟩ := syncAndRecord_sameRows
    (s.setRequest (·.sellerConfirmed env)) env v.row.orderId .inspectionAccepted
  refine ⟨_, .confirmed hinspector hfirst, ?_⟩
  exact h.to (hrequest.trans (setRequest_request h.request)) (harrival.trans h.arrival) rfl horders
    rfl

theorem assertMayCheckIn_guards (hok : assertMayCheckIn env userId row s = .ok ()) :
    row.inspectorId = some userId ∧ row.awaitingArrival = true := by
  unfold assertMayCheckIn at hok
  obtain ⟨-, -, hok⟩ := bind_eq_ok.1 hok
  simp only [guard_eq_ok] at hok
  obtain ⟨hinspector, hwaiting, hok⟩ := hok
  exact ⟨not_not.1 hinspector, Bool.eq_true_of_not_eq_false hwaiting⟩

theorem checkIn_moves (h : s.Shows v) {c : CheckIn} (hok : s.checkIn codeOf env userId c = .ok s') :
    Moves env v s' := by
  unfold checkIn at hok
  obtain ⟨-, -, hok⟩ := bind_eq_ok.1 hok
  rw [h.request] at hok
  obtain ⟨⟨⟩, hmay, hok⟩ := bind_eq_ok.1 hok
  obtain ⟨hinspector, hwaiting⟩ := assertMayCheckIn_guards hmay
  obtain ⟨verdict, -, hok⟩ := bind_eq_ok.1 hok
  cases verdict with
  | wrong =>
      obtain rfl := Except.ok.inj hok
      exact Shows.moves ⟨h.request, h.arrival, h.checkedIn, h.order⟩ .kept
  | verified =>
      obtain rfl := Except.ok.inj hok
      have hwritten : (s.writeCheckIn env userId true).Shows
          { row := v.row
            arrival := (s.writeCheckIn env userId true).arrival
            checkedIn := some userId } :=
        ⟨h.request, rfl, rfl, h.order⟩
      have honSite : ArrivalView.mayBeOnSite v.row = true := by
        obtain ⟨hstatus, -, hconfirmed, hnone⟩ :=
          ArrivalView.awaitingArrival_eq_true_iff.1 hwaiting
        simp [ArrivalView.mayBeOnSite, hstatus, hconfirmed, hnone]
      obtain ⟨s'', happlied, hshows⟩ := hwritten.applyArrivalConfirmed honSite env
      dsimp only at happlied
      rw [happlied]
      exact hshows.moves (.proven _ hinspector hwaiting rfl)
  | none =>
      obtain rfl := Except.ok.inj hok
      have hwritten : (s.writeCheckIn env userId false).Shows
          { row := v.row
            arrival := (s.writeCheckIn env userId false).arrival
            checkedIn := some userId } :=
        ⟨h.request, rfl, rfl, h.order⟩
      exact ((recordEvent_sameRows _ env _ _).shows hwritten).moves
        (.checkedIn _ hinspector hwaiting rfl)

theorem pendingFor_eq_ok (h : s.Shows v) {actionLabel refusal : String}
    {pending : InspectionRequest × InspectionArrival}
    (hok : s.pendingFor userId actionLabel refusal = .ok pending) :
    pending.1 = v.row ∧ v.IsCurrent pending.2 ∧ pending.2.status = .pendingSeller := by
  unfold pendingFor at hok
  rw [h.request] at hok
  obtain ⟨-, -, hok⟩ := bind_eq_ok.1 hok
  split at hok
  · cases hok
  · split at hok
    · cases hok
    · rename_i arrival hpending
      obtain rfl := Except.ok.inj hok
      obtain ⟨hcurrent, hstatus⟩ := Option.filter_eq_some_iff.1 hpending
      exact ⟨rfl, h.currentArrival.1 hcurrent, of_decide_eq_true hstatus⟩

theorem isConfirmed_of_pending {arrival : InspectionArrival}
    (h : arrival.status = .pendingSeller ∨ arrival.status = .disputed) :
    arrival.status.isConfirmed = false := by
  rcases h with h | h <;> rw [h] <;> rfl

theorem sellerConfirm_moves (h : s.Shows v) (hok : s.sellerConfirm env userId = .ok s') :
    Moves env v s' := by
  unfold sellerConfirm at hok
  obtain ⟨⟨request, arrival⟩, hpending, hok⟩ := bind_eq_ok.1 hok
  obtain ⟨rfl, hcurrent, hstatus⟩ := pendingFor_eq_ok h hpending
  dsimp only at hok hcurrent hstatus
  have hclaimed : forall f, (s.setArrival f).Shows { v with arrival := some (f arrival) } :=
    fun f => ⟨h.request, by rw [setArrival, h.arrival, hcurrent.1]; rfl, h.checkedIn, h.order⟩
  by_cases hmay : ArrivalView.mayBeOnSite v.row = true
  · obtain ⟨s'', happlied, hshows⟩ := (hclaimed ({ · with
      status := .confirmed
      sellerRespondedAt := some env.now
      sellerRespondedById := some userId })).applyArrivalConfirmed hmay env
    dsimp only at happlied
    rw [happlied] at hok
    obtain rfl := Except.ok.inj hok
    exact hshows.moves
      (.marked arrival _ hcurrent (isConfirmed_of_pending (Or.inl hstatus)) rfl rfl hmay)
  · have hnone := (hclaimed ({ · with
      status := .confirmed
      sellerRespondedAt := some env.now
      sellerRespondedById := some userId })).applyArrivalConfirmed_none
        (Bool.eq_false_of_not_eq_true hmay) env
    dsimp only at hnone
    rw [hnone] at hok
    cases hok

theorem sellerDispute_moves (h : s.Shows v) {reason : String}
    (hok : s.sellerDispute env userId reason = .ok s') :
    Moves env v s' := by
  unfold sellerDispute at hok
  split at hok
  · cases hok
  · obtain ⟨⟨request, arrival⟩, hpending, hok⟩ := bind_eq_ok.1 hok
    obtain ⟨rfl, hcurrent, hstatus⟩ := pendingFor_eq_ok h hpending
    obtain rfl := Except.ok.inj hok
    have hclaimed : forall f, (s.setArrival f).Shows { v with arrival := some (f arrival) } :=
      fun f => ⟨h.request, by rw [setArrival, h.arrival, hcurrent.1]; rfl, h.checkedIn, h.order⟩
    exact ((recordEvent_sameRows _ env _ _).shows (hclaimed _)).moves
      (.disputed arrival _ hcurrent (isConfirmed_of_pending (Or.inl hstatus)) rfl rfl)

theorem autoConfirmDueArrivals_moves (h : s.Shows v) (env : Env) :
    Moves env v (s.autoConfirmDueArrivals env) := by
  unfold autoConfirmDueArrivals
  split
  · rw [h.request]
    dsimp only
    split
    · exact h.moves .kept
    · rename_i arrival hpending
      obtain ⟨hcurrent, hstatus⟩ := Option.filter_eq_some_iff.1 hpending
      have hcurrent := h.currentArrival.1 hcurrent
      have hopen := isConfirmed_of_pending (Or.inl (of_decide_eq_true hstatus))
      have hclaimed : (s.setArrival ({ · with status := .autoConfirmed })).Shows
          { v with arrival := some { arrival with status := .autoConfirmed } } :=
        ⟨h.request, by rw [setArrival, h.arrival, hcurrent.1]; rfl, h.checkedIn, h.order⟩
      by_cases hmay : ArrivalView.mayBeOnSite v.row = true
      · obtain ⟨s'', happlied, hshows⟩ := hclaimed.applyArrivalConfirmed hmay env
        dsimp only at happlied
        rw [happlied]
        exact hshows.moves (.marked arrival _ hcurrent hopen rfl rfl hmay)
      · have hmay := Bool.eq_false_of_not_eq_true hmay
        have hnone := hclaimed.applyArrivalConfirmed_none hmay env
        dsimp only at hnone
        rw [hnone]
        exact hclaimed.moves (.stranded arrival _ hcurrent hopen hmay)
  · exact h.moves .kept

theorem reopenAfterNoShow_shows (h : s.Shows v) (env : Env) (request : InspectionRequest) :
    (s.reopenAfterNoShow env request).Shows
      { v with row := { v.row.unassigned with
          workflowDueAt := some (computeInspectionWorkflowDueAt env) } } := by
  unfold reopenAfterNoShow
  refine (recordEvent_sameRows _ env _ _).shows ((closeCoordination_sameRows env _).shows ?_)
  exact h.to (setRequest_request h.request) h.arrival h.checkedIn rfl rfl

theorem lapseMissedArrivals_moves (h : s.Shows v) (env : Env) :
    Moves env v (s.lapseMissedArrivals env) := by
  unfold lapseMissedArrivals
  rw [h.request]
  dsimp only
  split
  · exact (reopenAfterNoShow_shows h env v.row).moves (.unassigned _ v.arrival (Or.inl rfl))
  · exact h.moves .kept

theorem adminResolve_moves (h : s.Shows v) {outcome : ArrivalOutcome} {note : Option String}
    (hok : s.adminResolve env adminId outcome note = .ok s') :
    Moves env v s' := by
  unfold adminResolve at hok
  split at hok
  · cases hok
  · rename_i arrival harrival
    obtain ⟨hdisputed, hok⟩ := guard_eq_ok.mp hok
    rw [h.request] at hok
    dsimp only at hok
    obtain ⟨hinspector, hok⟩ := guard_eq_ok.mp hok
    obtain ⟨-, -, hok⟩ := bind_eq_ok.1 hok
    have hcurrent : v.IsCurrent arrival := ⟨h.arrival ▸ harrival, not_not.1 hinspector⟩
    have hopen := isConfirmed_of_pending (Or.inr (not_not.1 hdisputed))
    have hclaimed : forall f, ((s.setArrival f).recordEvent env v.row.orderId
        .inspectionArrivalResolved).Shows { v with arrival := some (f arrival) } :=
      fun f => (recordEvent_sameRows _ env _ _).shows
        ⟨h.request, by rw [setArrival, harrival]; rfl, h.checkedIn, h.order⟩
    cases outcome with
    | noShow =>
        obtain rfl := Except.ok.inj hok
        exact (reopenAfterNoShow_shows (hclaimed _) env v.row).moves (.unassigned _ _ (Or.inr rfl))
    | arrived =>
        dsimp only at hok
        by_cases hmay : ArrivalView.mayBeOnSite v.row = true
        · obtain ⟨s'', happlied, hshows⟩ := (hclaimed ({ · with
            status := .resolvedArrived
            resolvedAt := some env.now
            resolvedById := some adminId
            adminNote := note })).applyArrivalConfirmed hmay env
          dsimp only at happlied
          simp only [if_true, happlied] at hok
          obtain rfl := Except.ok.inj hok
          exact hshows.moves (.marked arrival _ hcurrent hopen rfl rfl hmay)
        · have hnone := (hclaimed ({ · with
            status := .resolvedArrived
            resolvedAt := some env.now
            resolvedById := some adminId
            adminNote := note })).applyArrivalConfirmed_none
              (Bool.eq_false_of_not_eq_true hmay) env
          dsimp only at hnone
          simp only [if_true, hnone] at hok
          cases hok

theorem checkReleaseInspection_call {updatedAt : Id} {r : InspectionReleaseRequest}
    (h : checkReleaseInspection env requestedById r updatedAt db = .ok loaded) :
    loaded.toInspectionQuoteRequest = r.toInspectionQuoteRequest := by
  unfold checkReleaseInspection at h
  obtain ⟨read, hread, h⟩ := bind_eq_ok.1 h
  have hcall := (loadQuoteForNegotiation_call hread).1
  repeat' split at h
  all_goals
    first
      | obtain rfl := Except.ok.inj h
        exact hcall
      | obtain ⟨-, -, h⟩ := bind_eq_ok.1 h
        obtain ⟨-, -, h⟩ := bind_eq_ok.1 h
        obtain rfl := Except.ok.inj h
        exact hcall
      | cases h

theorem releaseInspector_rows (env : Env) (r : LoadedInspectionQuote) (db : Db) :
    (releaseInspector env r db).orders = db.orders ∧
      ((releaseInspector env r db).inspectionRequests = db.inspectionRequests ∨
        (releaseInspector env r db).inspectionRequests =
          db.inspectionRequests.update r.requestId InspectionRequest.unassigned) := by
  unfold releaseInspector
  dsimp only
  rw [(recordOrderEvent_sameRows env _ _ _).1, (recordOrderEvent_sameRows env _ _ _).2]
  refine ⟨rfl, ?_⟩
  dsimp only
  split
  · exact Or.inr rfl
  · exact Or.inl rfl

theorem releaseInspectionQuote_rows {r : LoadedInspectionQuote} {reads : ReleaseReads}
    (h : releaseInspectionQuote env r reads db = .ok db') :
    db'.orders = db.orders ∧
      (db'.inspectionRequests = db.inspectionRequests ∨
        db'.inspectionRequests =
          db.inspectionRequests.update r.requestId InspectionRequest.unassigned) := by
  unfold releaseInspectionQuote at h
  obtain ⟨-, -, h⟩ := bind_eq_ok.1 h
  repeat' split at h
  all_goals
    first
      | obtain rfl := Except.ok.inj h
        exact ⟨rfl, Or.inl rfl⟩
      | obtain rfl := Except.ok.inj h
        exact releaseInspector_rows env r db
      | obtain ⟨-, -, h⟩ := bind_eq_ok.1 h
        obtain ⟨-, -, h⟩ := bind_eq_ok.1 h
        obtain rfl := Except.ok.inj h
        exact releaseInspector_rows env r db
      | cases h

theorem Shows.moves_unassigned {v : ArrivalView} (h : s.Shows v) {db' : Db}
    (horders : db'.orders = s.db.orders)
    (hrow : db'.inspectionRequests.findUnique s.requestId = some v.row ∨
      db'.inspectionRequests.findUnique s.requestId = some v.row.unassigned) :
    Moves env v { s with db := db' } := by
  rcases hrow with hsame | hunassigned
  · have hshows : { s with db := db' }.Shows v :=
      h.to hsame h.arrival h.checkedIn horders rfl
    exact hshows.moves .kept
  · have hshows : { s with db := db' }.Shows { v with row := v.row.unassigned } :=
      h.to hunassigned h.arrival h.checkedIn horders rfl
    exact hshows.moves (.unassigned v.row.workflowDueAt v.arrival (Or.inl rfl))

theorem Moves.sameRows (h : Moves env v s) (hsame : SameRows s s') :
    Moves env v s' := by
  obtain ⟨v', hmove, hshows⟩ := h
  exact ⟨v', hmove, hsame.shows hshows⟩

theorem releaseQuote_moves (h : s.Shows v) {quoteId : Id} {reason note : Option String}
    {reads : ReleaseReads} (hok : s.releaseQuote env userId quoteId reason note reads = .ok s') :
    Moves env v s' := by
  unfold releaseQuote at hok
  obtain ⟨loaded, hcheck, hok⟩ := bind_eq_ok.1 hok
  obtain ⟨db, hrelease, hok⟩ := bind_eq_ok.1 hok
  have hrequestId : loaded.requestId = s.requestId :=
    congrArg InspectionQuoteRequest.requestId (checkReleaseInspection_call hcheck)
  obtain ⟨horders, hrows⟩ := releaseInspectionQuote_rows hrelease
  have hrow : db.inspectionRequests.findUnique s.requestId = some v.row ∨
      db.inspectionRequests.findUnique s.requestId = some v.row.unassigned := by
    have hbefore : s.db.inspectionRequests.findUnique s.requestId = some v.row := h.request
    rcases hrows with hsame | hunassigned
    · rw [hsame]
      exact Or.inl hbefore
    · rw [hunassigned, hrequestId, Table.findUnique_update_self, hbefore]
      exact Or.inr rfl
  split at hok
  · obtain rfl := Except.ok.inj hok
    exact h.moves .kept
  · obtain rfl := Except.ok.inj hok
    exact (h.moves_unassigned horders hrow).sameRows (closeCoordination_sameRows env _)

theorem reopenBidding_moves (h : s.Shows v) (hok : s.reopenBidding env = .ok s') :
    Moves env v s' := by
  unfold reopenBidding at hok
  rw [h.request] at hok
  dsimp only at hok
  simp only [guard_eq_ok] at hok
  obtain ⟨-, -, hok⟩ := hok
  obtain ⟨-, -, hok⟩ := bind_eq_ok.1 hok
  split at hok
  · cases hok
  · obtain rfl := Except.ok.inj hok
    refine Shows.moves ((closeCoordination_sameRows env _).shows ?_)
      (.unassigned (some (computeInspectionWorkflowDueAt env)) v.arrival (Or.inl rfl))
    exact h.to (setRequest_request h.request) h.arrival h.checkedIn rfl rfl

theorem recoverInspection_row {k : Id} (hrow : db.inspectionRequests.findUnique k = some row)
    (h : recoverInspection orderId db = .ok db') :
    db'.orders = db.orders ∧
      (db'.inspectionRequests.findUnique k = some row ∨
        db'.inspectionRequests.findUnique k = some row.unassigned) := by
  unfold recoverInspection at h
  split at h
  · obtain rfl := Except.ok.inj h
    exact ⟨rfl, Or.inl hrow⟩
  · rename_i requestId current hcurrent
    replace h := (guard_eq_ok.mp h).2
    split at h
    · obtain rfl := Except.ok.inj h
      refine ⟨rfl, ?_⟩
      dsimp only
      rw [Table.findUnique_update, hrow]
      split
      · exact Or.inr rfl
      · exact Or.inl rfl
    · split at h
      · obtain rfl := Except.ok.inj h
        exact ⟨rfl, Or.inl (Table.findUnique_create_of_some hrow)⟩
      · obtain rfl := Except.ok.inj h
        exact ⟨rfl, Or.inl hrow⟩

theorem recoverTransport_sameRows (h : recoverTransport orderId db = .ok db') :
    db'.orders = db.orders ∧ db'.inspectionRequests = db.inspectionRequests := by
  unfold recoverTransport at h
  split at h
  · obtain rfl := Except.ok.inj h
    exact ⟨rfl, rfl⟩
  · split at h
    · cases h
    · obtain rfl := Except.ok.inj h
      exact ⟨rfl, rfl⟩

theorem recoverBidding_sameRows (h : recoverBidding orderId db = .ok db') :
    db'.orders = db.orders ∧ db'.inspectionRequests = db.inspectionRequests := by
  unfold recoverBidding at h
  split at h
  · obtain rfl := Except.ok.inj h
    exact ⟨rfl, rfl⟩
  · split at h
    · cases h
    · obtain rfl := Except.ok.inj h
      exact ⟨rfl, rfl⟩

theorem approveRecovery_row {recoveryId k : Id}
    (hrow : db.inspectionRequests.findUnique k = some row)
    (h : MarketBridge.approveRecovery env adminId recoveryId recoverOther db = .ok db') :
    db'.orders = db.orders ∧
      (db'.inspectionRequests.findUnique k = some row ∨
        db'.inspectionRequests.findUnique k = some row.unassigned) := by
  unfold MarketBridge.approveRecovery at h
  split at h
  · cases h
  · rename_i recovery _
    split at h
    · cases h
    · replace h := (guard_eq_ok.mp h).2
      dsimp only at h
      split at h
      · obtain ⟨recovered, hrecover, h⟩ := bind_eq_ok.1 h
        obtain rfl := Except.ok.inj h
        rw [(recordOrderEvent_sameRows env _ _ _).1, (recordOrderEvent_sameRows env _ _ _).2]
        obtain ⟨horders, hrequests⟩ := recoverTransport_sameRows hrecover
        exact ⟨horders, Or.inl (hrequests ▸ hrow)⟩
      · obtain ⟨recovered, hrecover, h⟩ := bind_eq_ok.1 h
        obtain rfl := Except.ok.inj h
        rw [(recordOrderEvent_sameRows env _ _ _).1, (recordOrderEvent_sameRows env _ _ _).2]
        unfold recoverOther at hrecover
        cases htype : recovery.type with
        | offer =>
            rw [htype] at hrecover
            obtain ⟨horders, hrequests⟩ := recoverBidding_sameRows hrecover
            exact ⟨horders, Or.inl (hrequests ▸ hrow)⟩
        | transport => exact absurd htype (by assumption)
        | inspection =>
            rw [htype] at hrecover
            dsimp only at hrecover
            have hrecovered := recoverInspection_row hrow hrecover
            exact hrecovered

theorem approveRecovery_moves (h : s.Shows v) {recoveryId : Id}
    (hok : s.approveRecovery env adminId recoveryId = .ok s') :
    Moves env v s' := by
  unfold approveRecovery at hok
  obtain ⟨db, hrecover, hok⟩ := bind_eq_ok.1 hok
  obtain ⟨horders, hrow⟩ := approveRecovery_row h.request hrecover
  split at hok
  · obtain rfl := Except.ok.inj hok
    exact (h.moves_unassigned horders hrow).sameRows (closeCoordination_sameRows env _)
  · obtain rfl := Except.ok.inj hok
    exact h.moves_unassigned horders hrow

theorem step_moves (h : s.Shows v) {a : Env × ArrivalStep} (ha : s.AgreedAnew a) :
    Moves a.1 v (s.step codeOf a) := by
  have hcommit : forall r : Except ApiError ArrivalSession,
      (forall s', r = .ok s' -> Moves a.1 v s') -> Moves a.1 v (commit r s) :=
    fun _ => commit_preserves (P := Moves a.1 v) (h.moves .kept)
  obtain ⟨env, request⟩ := a
  cases request with
  | acceptQuote userId quoteId =>
      exact hcommit _ fun _ hok => acceptQuote_moves h ha hok
  | confirmInspection userId salt =>
      exact hcommit _ fun _ hok => confirmInspection_moves h hok
  | checkIn userId c =>
      exact hcommit _ fun _ hok => checkIn_moves h hok
  | sellerConfirm userId =>
      exact hcommit _ fun _ hok => sellerConfirm_moves h hok
  | sellerDispute userId reason =>
      exact hcommit _ fun _ hok => sellerDispute_moves h hok
  | autoConfirm =>
      exact autoConfirmDueArrivals_moves h env
  | adminResolve adminId outcome note =>
      exact hcommit _ fun _ hok => adminResolve_moves h hok
  | releaseQuote userId quoteId reason note reads =>
      exact hcommit _ fun _ hok => releaseQuote_moves h hok
  | reopenBidding =>
      exact hcommit _ fun _ hok => reopenBidding_moves h hok
  | approveRecovery adminId recoveryId =>
      exact hcommit _ fun _ hok => approveRecovery_moves h hok
  | lapseMissed =>
      exact lapseMissedArrivals_moves h env
  | elsewhere other coordination =>
      have hshows : (s.step codeOf (env, .elsewhere other coordination)).Shows v :=
        h.to h.request h.arrival h.checkedIn rfl rfl
      exact hshows.moves .kept

/-! ## Runs -/

theorem Shows.canCheckIn (h : s.Shows v) (hv : v.Inv) :
    s.CanCheckIn codeOf := by
  intro env request inspectorId hrequest hinspector hwaiting hnew hdue
  obtain rfl : v.row = request := Option.some.inj (h.request.symm.trans hrequest)
  have hmay : s.assertMayCheckIn env inspectorId v.row = .ok () := by
    unfold assertMayCheckIn
    rw [assertOrderOpen_label _ h.order, ok_bind, if_neg (not_not.2 hinspector),
      if_neg (by rw [hwaiting]; decide), if_neg (by rw [hdue]; decide)]
    cases hcurrent : s.currentArrival v.row with
    | none =>
        rfl
    | some arrival =>
        have hcurrent := h.currentArrival.1 hcurrent
        have hmarked : arrival.status.isConfirmed = true := by
          by_contra hopen
          have hchecked := (hv.fresh arrival hcurrent (Bool.eq_false_of_not_eq_true hopen)).2.2
          rw [← h.checkedIn, ← hcurrent.2, hinspector] at hchecked
          exact hnew hchecked
        dsimp only
        cases hstatus : arrival.status <;> simp_all [InspectionArrivalStatus.isConfirmed]
  unfold checkIn
  rw [h.request]
  simp [CheckIn.validate, hmay, judgeCode, Except.isOk, Except.toBool]

structure Inv (s : ArrivalSession) : Prop where
  view : exists v, s.Shows v ∧ v.Inv

theorem Inv.of_open (h : s.IsOpen) : Inv s := by
  obtain ⟨request, hrequest, hfree, hconfirmed, honSite, horder⟩ := h.request
  obtain ⟨-, hinspector⟩ := ArrivalView.isUnclaimed_eq_true_iff.1 hfree
  refine ⟨{ row := request
            arrival := none
            checkedIn := none }, ⟨hrequest, h.arrival, h.checkedIn, horder⟩, ?_, ?_, ?_⟩
  · intro hsome
    rw [show request.inspectorId = none from hinspector] at hsome
    cases hsome
  · exact fun _ => ⟨hconfirmed, honSite⟩
  · rintro arrival ⟨harrival, -⟩
    cases harrival

theorem Inv.step (h : Inv s) {a : Env × ArrivalStep} (ha : s.AgreedAnew a) :
    Inv (s.step codeOf a) ∧ s.ArrivalStands codeOf a := by
  obtain ⟨v, hshows, hv⟩ := h
  have hmoves : Moves a.1 v (s.step codeOf a) := step_moves hshows ha
  obtain ⟨v', hmove, hshows'⟩ := hmoves
  have hv' := hv.move hmove
  refine ⟨⟨v', hshows', hv'⟩, ?_, ?_, hshows'.canCheckIn hv'⟩
  · intro hbefore hafter
    rw [onSiteConfirmedAt, hshows.request] at hbefore
    rw [onSiteConfirmedAt, hshows'.request] at hafter
    rw [hshows'.request, hshows'.checkedIn]
    exact hv.earned hmove hbefore hafter
  · intro hnew hmarked
    rw [hshows.arrival, hshows'.arrival] at hnew
    rw [isMarked, hshows'.arrival] at hmarked
    rw [onSiteConfirmedAt, onSiteConfirmedAt, hshows.request, hshows'.request]
    exact hv.markedTogether hmove hnew hmarked

instance (s : ArrivalSession) (a : Env × ArrivalStep) : Decidable (s.AgreedAnew a) :=
  inferInstanceAs (Decidable (forall arrival, s.arrival = some arrival ->
    s.newAssignee a = some arrival.inspectorId -> arrival.status.isConfirmed = true))

/-- A buyer has asked for an inspection of his order, and one inspector is selected. -/
def requestedSession : ArrivalSession :=
  { db :=
      { orders := Table.empty.create
          { listingId := 0
            buyerId := 2
            sellerId := 1
            finalPrice := 100
            quantity := 1 }
        inspectionRequests := Table.empty.create { orderId := some 0 }
        inspectionQuotes := Table.empty.create
          { inspectionRequestId := 0
            inspectorId := 5
            amount := 10
            status := .selected } }
    requestId := 0
    requestedById := 2 }

/-- The bids on the request: the one of the first inspector, and a later one. -/
def bidsOf (status : InspectionQuoteStatus) (inspectorId : Id)
    (later : InspectionQuoteStatus) : Db :=
  { inspectionQuotes := (Table.empty.create
      { inspectionRequestId := 0
        inspectorId := 5
        amount := 10
        status := status }).create
      { inspectionRequestId := 0
        inspectorId := inspectorId
        amount := 10
        status := later } }

def handedOff : Option InspectionCoordination :=
  some { sellerSubmittedAt := some 1, inspectorSubmittedAt := some 1 }

def firstCheckIn : List (Env × ArrivalStep) :=
  [({ now := 1 }, .acceptQuote 2 0),
    ({ now := 1 }, .elsewhere (bidsOf .accepted 5 .withdrawn) handedOff),
    ({ now := 2 }, .confirmInspection 1 "salt"),
    ({ now := 3 }, .checkIn 5 {})]

def reassignedTo (inspectorId : Id) : List (Env × ArrivalStep) :=
  [({ now := 4 }, .releaseQuote 5 0 (some "OTHER") (some "I cannot stay for it") {}),
    ({ now := 4 }, .elsewhere (bidsOf .withdrawn inspectorId .selected) none),
    ({ now := 5 }, .acceptQuote 2 1)]

def laterConfirmed (inspectorId : Id) : List (Env × ArrivalStep) :=
  [({ now := 6 }, .elsewhere (bidsOf .withdrawn inspectorId .accepted) handedOff),
    ({ now := 6 }, .confirmInspection 1 "pepper")]

/-- The seller disputes the check-in, it is ruled a no-show, and the later bid is agreed on. -/
def ruledNoShow (inspectorId : Id) : List (Env × ArrivalStep) :=
  [({ now := 4 }, .sellerDispute 1 "NOT_PRESENT"),
    ({ now := 4 }, .adminResolve 9 .noShow none),
    ({ now := 4 }, .elsewhere (bidsOf .withdrawn inspectorId .selected) none),
    ({ now := 5 }, .acceptQuote 2 1)]

theorem requestedSession_isOpen : requestedSession.IsOpen :=
  ⟨⟨{ orderId := some 0 }, rfl, rfl, rfl, rfl, rfl⟩, rfl, rfl⟩

def otherArrives : List (Env × ArrivalStep) :=
  firstCheckIn ++ reassignedTo 6 ++ laterConfirmed 6 ++
    [({ now := 7 }, .checkIn 6 {}), ({ now := 8 }, .sellerConfirm 1)]

def sameCode : ArrivalCode :=
  fun _ _ _ => "1234"

/-- The first inspector is agreed on again, and the sweep confirms his old check-in. -/
def sweptAfterConfirmation : List (Env × ArrivalStep) :=
  firstCheckIn ++ reassignedTo 5 ++ laterConfirmed 5

def sweptBeforeConfirmation : List (Env × ArrivalStep) :=
  firstCheckIn ++ reassignedTo 5

def twoHoursLater : Env × ArrivalStep :=
  ({ now := 3 + 2 * 60 * 60 * 1000 }, .autoConfirm)

def noShowConfirmed : List (Env × ArrivalStep) :=
  firstCheckIn ++ ruledNoShow 5 ++ [({ now := 6 }, .elsewhere (bidsOf .withdrawn 5 .accepted) handedOff)]

end ArrivalSession

end MarketBridge
