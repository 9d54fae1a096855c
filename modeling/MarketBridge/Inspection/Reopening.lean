import MarketBridge.Inspection.ArrivalRuns

/-!
# Ways back to bidding

An inspection request goes back from an agreement to `REQUESTED` by a no-show, by a
release of either party, by an admin who reopens the bidding and by an approved recovery.
Each of them writes its own list of columns, and the lists differ in what they forget.
-/

namespace MarketBridge

open Relational

/-- The columns of an inspection request that the services of an arrival do not read. -/
structure InspectionColumns where
  buyerFeeAmount : Option ℚ := none
  sellerFeeAmount : Option ℚ := none
  inspectorOnSiteConfirmedBy : Option Id := none
  coordinationDueAt : Option Nat := none
  startDueAt : Option Nat := none
  completionDueAt : Option Nat := none
  startedAt : Option Nat := none
  acceptedReleaseCount : Nat := 0
deriving DecidableEq, Repr

namespace InspectionColumns

/-- The columns of `reopenAfterNoShow`. -/
def missed (c : InspectionColumns) : InspectionColumns :=
  { c with
    buyerFeeAmount := none
    sellerFeeAmount := none
    inspectorOnSiteConfirmedBy := none
    coordinationDueAt := none
    startDueAt := none }

def released (isProviderRelease : Bool) (c : InspectionColumns) : InspectionColumns :=
  { c with
    buyerFeeAmount := none
    sellerFeeAmount := none
    acceptedReleaseCount :=
      if isProviderRelease then c.acceptedReleaseCount else c.acceptedReleaseCount + 1 }

/-- The columns of `PATCH /inspections/:id/reopen-bidding`. -/
def reopened (c : InspectionColumns) : InspectionColumns :=
  { c with
    buyerFeeAmount := none
    sellerFeeAmount := none
    coordinationDueAt := none
    startDueAt := none
    completionDueAt := none
    startedAt := none
    acceptedReleaseCount := 0 }

def recovered (c : InspectionColumns) : InspectionColumns :=
  { c with
    buyerFeeAmount := none
    sellerFeeAmount := none
    startDueAt := none
    completionDueAt := none
    startedAt := none
    acceptedReleaseCount := 0 }

/-- Nothing of an agreement is left; only the counter of the releases stays. -/
def IsClean (c : InspectionColumns) : Prop :=
  c = { acceptedReleaseCount := c.acceptedReleaseCount }
deriving Decidable

theorem isClean_iff (c : InspectionColumns) :
    c.IsClean ↔
      c.buyerFeeAmount = none ∧ c.sellerFeeAmount = none ∧ c.inspectorOnSiteConfirmedBy = none ∧
        c.coordinationDueAt = none ∧ c.startDueAt = none ∧ c.completionDueAt = none ∧
          c.startedAt = none := by
  obtain ⟨buyer, seller, onSite, coordination, start, completion, started, count⟩ := c
  simp [IsClean]

end InspectionColumns

/-- The row of a request that is back in the bidding, with its bidding window. -/
def InspectionRequest.returned (env : Env) (request : InspectionRequest) : InspectionRequest :=
  { request.unassigned with workflowDueAt := some (computeInspectionWorkflowDueAt env) }

/-- An inspection request with all of its columns. -/
structure BiddingSession extends ArrivalSession where
  columns : InspectionColumns := {}
deriving DecidableEq, Repr

/-- What brings a request back to bidding. -/
inductive WayBack where
  /-- `lapseMissedArrivals`. -/
  | windowEnded
  /-- An admin rules a no-show. -/
  | ruledNoShow (adminId : Id) (note : Option String)
  /-- Either party releases the accepted quote. -/
  | release (userId quoteId : Id) (reason note : Option String) (reads : ReleaseReads)
  | reopenBidding
  | recovery (adminId recoveryId : Id)
deriving DecidableEq, Repr

namespace BiddingSession

/-! ## The ways -/

def isMissed (env : Env) (s : BiddingSession) : Bool :=
  s.request.any fun request =>
    request.awaitingArrival && isDue env.now request.workflowDueAt &&
      !(s.currentArrival request).any fun arrival =>
        arrival.status ∈ [InspectionArrivalStatus.pendingSeller, .disputed]

/-- The release is admitted and is about the accepted quote. -/
def loadedRelease (env : Env) (s : BiddingSession) (userId quoteId : Id)
    (reason note : Option String) (reads : ReleaseReads) : Option LoadedInspectionQuote :=
  match checkReleaseInspection env s.requestedById
      { userId := userId
        requestId := s.requestId
        quoteId := quoteId
        reason := reason
        note := note } reads.updatedAt s.db with
  | .error _ => none
  | .ok loaded =>
      if loaded.isAcceptedRelease &&
          (loaded.isProviderRelease || decide (reads.used < reads.allowed)) then
        some loaded
      else
        none

def isReturnedBy (s : BiddingSession) (recovery : RecoveryRequest) : Bool :=
  recovery.type = .inspection &&
    (currentInspection s.db recovery.orderId).any fun current =>
      current.1 = s.requestId &&
        current.2.status ∈ [InspectionStatus.requested, .accepted, .stalled]

/-- The request once the way back was taken, if it is admitted. -/
def take (env : Env) (s : BiddingSession) : WayBack -> Option BiddingSession
  | .windowEnded =>
      if s.isMissed env then
        some ⟨s.toArrivalSession.lapseMissedArrivals env, s.columns.missed⟩
      else
        none
  | .ruledNoShow adminId note =>
      (s.toArrivalSession.adminResolve env adminId .noShow note).toOption.map
        (⟨·, s.columns.missed⟩)
  | .release userId quoteId reason note reads =>
      match s.loadedRelease env userId quoteId reason note reads with
      | none => none
      | some loaded =>
          (s.toArrivalSession.releaseQuote env userId quoteId reason note reads).toOption.map
            (⟨·, s.columns.released loaded.isProviderRelease⟩)
  | .reopenBidding =>
      (s.toArrivalSession.reopenBidding env).toOption.map (⟨·, s.columns.reopened⟩)
  | .recovery adminId recoveryId =>
      if (s.db.recoveryRequests.findUnique recoveryId).any s.isReturnedBy then
        (s.toArrivalSession.approveRecovery env adminId recoveryId).toOption.map
          (⟨·, s.columns.recovered⟩)
      else
        none

/-! ## What a request should be like -/

def NoOpenFee (requestId : Id) (obligations : Table PaymentObligation) : Prop :=
  forall i b, obligations.findUnique i = some b -> b.inspectionRequestId = some requestId ->
    b.type = .inspector -> b.status ≠ .open

/-- No quote of the inspector is in negotiation or accepted, but the one that is released. -/
def NoQuoteOf (requestId inspectorId : Id) (released : Option Id)
    (quotes : Table InspectionQuote) : Prop :=
  forall i quote, quotes.findUnique i = some quote -> some i ≠ released ->
    quote.inspectionRequestId = requestId -> quote.inspectorId = inspectorId ->
      quote.status ∉ [InspectionQuoteStatus.selected, .countered, .accepted]

def NoHandshake (a : ArrivalSession) : Prop :=
  a.arrivalCodeSalt = none ∧ a.arrivalCodeFailedAttempts = 0

/-- The request is back in the bidding, and nothing of the agreement in `s` is left. -/
structure ReturnedClean (env : Env) (s s' : BiddingSession) : Prop where
  request : s'.request = s.request.map (·.returned env)
  columns : s'.columns.IsClean
  handshake : NoHandshake s'.toArrivalSession
  fees : NoOpenFee s.requestId s'.db.obligations
  coordination : s'.coordination.all (·.supersededAt.isSome) = true
  quotes : forall inspectorId, s.request.bind (·.inspectorId) = some inspectorId ->
    NoQuoteOf s.requestId inspectorId none s'.db.inspectionQuotes
  /-- `expireInspectionWorkflows` leaves it alone until its bidding window has passed. -/
  stays : forall now, now < computeInspectionWorkflowDueAt env ->
    s'.request.any (inspectionIsDue now) = false

/-- What a way back does not clear was empty, or fresh, before it was taken. -/
def ForgetsNothing (env : Env) (s : BiddingSession) : WayBack -> Prop
  | .windowEnded => s.columns.completionDueAt = none ∧ s.columns.startedAt = none
  | .ruledNoShow _ _ => s.columns.completionDueAt = none ∧ s.columns.startedAt = none
  | .release _ quoteId _ _ _ =>
      s.request.bind (·.workflowDueAt) = some (computeInspectionWorkflowDueAt env) ∧
        (s.columns.inspectorOnSiteConfirmedBy = none ∧ s.columns.coordinationDueAt = none ∧
          s.columns.startDueAt = none ∧ s.columns.completionDueAt = none ∧
            s.columns.startedAt = none) ∧
        NoHandshake s.toArrivalSession ∧ NoOpenFee s.requestId s.db.obligations ∧
        forall inspectorId, s.request.bind (·.inspectorId) = some inspectorId ->
          NoQuoteOf s.requestId inspectorId (some quoteId) s.db.inspectionQuotes
  | .reopenBidding =>
      s.columns.inspectorOnSiteConfirmedBy = none ∧ NoHandshake s.toArrivalSession ∧
        NoOpenFee s.requestId s.db.obligations
  | .recovery _ _ =>
      s.request.bind (·.workflowDueAt) = some (computeInspectionWorkflowDueAt env) ∧
        (s.columns.inspectorOnSiteConfirmedBy = none ∧ s.columns.coordinationDueAt = none) ∧
        NoHandshake s.toArrivalSession ∧ NoOpenFee s.requestId s.db.obligations

/-! ## Rows that go back -/

theorem closeCoordination_superseded (env : Env) (a : ArrivalSession) :
    (a.closeCoordination env).coordination.all (·.supersededAt.isSome) = true := by
  unfold ArrivalSession.closeCoordination
  cases a.coordination with
  | none =>
      rfl
  | some coordination =>
      rw [Option.map_some, Option.all_some]
      split
      · assumption
      · rfl

theorem not_isDue_returned (env : Env) (request : InspectionRequest) {now : Nat}
    (h : now < computeInspectionWorkflowDueAt env) :
    inspectionIsDue now (request.returned env) = false := by
  have hdue : isDue now (request.returned env).workflowDueAt = false := by
    have hlate : ¬ computeInspectionWorkflowDueAt env ≤ now := Nat.not_le.2 h
    simp [InspectionRequest.returned, isDue, hlate]
  unfold inspectionIsDue
  rw [hdue, Bool.and_false]

theorem unassigned_eq_returned_iff (env : Env) (request : InspectionRequest) :
    request.unassigned = request.returned env ↔
      request.workflowDueAt = some (computeInspectionWorkflowDueAt env) := by
  simp [InspectionRequest.returned, InspectionRequest.unassigned]

theorem not_live_of_mem {status : InspectionQuoteStatus}
    (h : status ∈ [InspectionQuoteStatus.selected, .countered, .accepted]) :
    status.isLive = true := by
  cases status <;> simp_all [InspectionQuoteStatus.isLive]

theorem noOpenFee_cancelled (requestId : Id) (obligations : Table PaymentObligation) :
    NoOpenFee requestId (obligations.updateMany
      (fun _ b => b.inspectionRequestId = some requestId && b.type = PaymentType.inspector &&
        b.status = PaymentObligationStatus.open)
      ({ · with status := .cancelled })) := by
  intro i b hb hrequest htype
  rw [Table.findUnique_updateMany] at hb
  obtain ⟨b₀, -, rfl⟩ := Option.map_eq_some_iff.1 hb
  split at hrequest <;> split at htype <;> split <;> simp_all

/-- The live quotes of an inspector are closed. -/
theorem noQuoteOf_closed {requestId inspectorId : Id} {assigned : Option Id}
    {status : InspectionQuoteStatus}
    (hstatus : status ∉ [InspectionQuoteStatus.selected, .countered, .accepted])
    (hassigned : assigned = some inspectorId) (quotes : Table InspectionQuote) :
    NoQuoteOf requestId inspectorId none (quotes.updateMany
      (fun _ quote => quote.inspectionRequestId = requestId &&
        some quote.inspectorId = assigned && quote.status.isLive)
      ({ · with status := status })) := by
  intro i quote hquote _ hrequest hinspector
  rw [Table.findUnique_updateMany] at hquote
  obtain ⟨q, -, rfl⟩ := Option.map_eq_some_iff.1 hquote
  split
  · exact hstatus
  · rename_i hlive
    intro hmem
    rw [if_neg hlive] at hrequest hinspector
    subst hassigned
    cases hq : q.status <;> simp_all [InspectionQuoteStatus.isLive]

theorem noQuoteOf_withdrawn_iff (requestId inspectorId quoteId : Id)
    (quotes : Table InspectionQuote) :
    NoQuoteOf requestId inspectorId none (quotes.update quoteId ({ · with status := .withdrawn })) ↔
      NoQuoteOf requestId inspectorId (some quoteId) quotes := by
  constructor
  · intro h i quote hquote hne
    refine h i quote ?_ nofun
    rw [Table.findUnique_update_ne fun heq => hne (congrArg some heq)]
    exact hquote
  · intro h i quote hquote _ hrequest hinspector
    by_cases hi : i = quoteId
    · subst hi
      rw [Table.findUnique_update_self] at hquote
      obtain ⟨q, -, rfl⟩ := Option.map_eq_some_iff.1 hquote
      show InspectionQuoteStatus.withdrawn ∉ _
      decide
    · rw [Table.findUnique_update_ne hi] at hquote
      exact h i quote hquote (fun heq => hi (Option.some.inj heq)) hrequest hinspector

variable {env : Env} {s : BiddingSession} {a a' : ArrivalSession} {c : InspectionColumns}

/-- What a way back does to the request and to what hangs on it. -/
structure WritesBack (env : Env) (a a' : ArrivalSession)
    (f : InspectionRequest -> InspectionRequest) (quotes : Table InspectionQuote)
    (obligations : Table PaymentObligation) : Prop where
  request : a'.request = a.request.map f
  quotes : a'.db.inspectionQuotes = quotes
  obligations : a'.db.obligations = obligations
  coordination : a'.coordination = (a.closeCoordination env).coordination

theorem WritesBack.of_same {f : InspectionRequest -> InspectionRequest}
    {quotes : Table InspectionQuote} {obligations : Table PaymentObligation}
    (h : WritesBack env a a' f quotes obligations) {b : ArrivalSession}
    (hrow : a.request = b.request) (hcoordination : a.coordination = b.coordination) :
    WritesBack env b a' f quotes obligations := by
  refine ⟨h.request.trans (congrArg _ hrow), h.quotes, h.obligations, ?_⟩
  rw [h.coordination]
  unfold ArrivalSession.closeCoordination
  rw [hcoordination]

theorem WritesBack.returnedClean_iff {f : InspectionRequest -> InspectionRequest}
    {quotes : Table InspectionQuote} {obligations : Table PaymentObligation}
    (h : WritesBack env s.toArrivalSession a' f quotes obligations) :
    s.ReturnedClean env ⟨a', c⟩ ↔
      s.request.map f = s.request.map (·.returned env) ∧ c.IsClean ∧ NoHandshake a' ∧
        NoOpenFee s.requestId obligations ∧
        forall inspectorId, s.request.bind (·.inspectorId) = some inspectorId ->
          NoQuoteOf s.requestId inspectorId none quotes := by
  obtain ⟨hrequest, rfl, rfl, hcoordination⟩ := h
  constructor
  · intro hclean
    exact ⟨hrequest.symm.trans hclean.request, hclean.columns, hclean.handshake, hclean.fees,
      hclean.quotes⟩
  · rintro ⟨hreturned, hcolumns, hhandshake, hfees, hquotes⟩
    have hrow : (⟨a', c⟩ : BiddingSession).request = s.request.map (·.returned env) :=
      hrequest.trans hreturned
    refine ⟨hrow, hcolumns, hhandshake, hfees, ?_, hquotes, fun now hnow => ?_⟩
    · rw [show (⟨a', c⟩ : BiddingSession).coordination = _ from hcoordination]
      exact closeCoordination_superseded env _
    · rw [hrow]
      cases s.request with
      | none =>
          rfl
      | some request =>
          exact not_isDue_returned env request hnow

/-! ## No-show -/

theorem reopenAfterNoShow_writesBack (env : Env) (request : InspectionRequest)
    (a : ArrivalSession) :
    WritesBack env a (a.reopenAfterNoShow env request) (·.returned env)
      (a.db.inspectionQuotes.updateMany
        (fun _ quote => quote.inspectionRequestId = a.requestId &&
          some quote.inspectorId = request.inspectorId && quote.status.isLive)
        ({ · with status := .withdrawn }))
      (a.db.obligations.updateMany
        (fun _ b => b.inspectionRequestId = some a.requestId && b.type = PaymentType.inspector &&
          b.status = PaymentObligationStatus.open)
        ({ · with status := .cancelled })) := by
  unfold ArrivalSession.reopenAfterNoShow ArrivalSession.recordEvent
  dsimp only
  obtain ⟨events, h⟩ := recordOrderEvent_frame env request.orderId .inspectionNoShow
    (ArrivalSession.closeCoordination env
      { a.setRequest (·.returned env) with
        db := { (a.setRequest (·.returned env)).db with
          inspectionQuotes := a.db.inspectionQuotes.updateMany
            (fun _ quote => quote.inspectionRequestId = a.requestId &&
              some quote.inspectorId = request.inspectorId && quote.status.isLive)
            ({ · with status := .withdrawn })
          obligations := a.db.obligations.updateMany
            (fun _ b => b.inspectionRequestId = some a.requestId &&
              b.type = PaymentType.inspector && b.status = PaymentObligationStatus.open)
            ({ · with status := .cancelled }) }
        arrivalCodeSalt := none
        arrivalCodeFailedAttempts := 0 }).db
  refine ⟨?_, ?_, ?_, rfl⟩
  · have hrow := a.db.inspectionRequests.findUnique_update_self a.requestId
      (InspectionRequest.returned env)
    unfold ArrivalSession.request
    exact (congrArg (fun db : Db => db.inspectionRequests.findUnique a.requestId) h).trans hrow
  · exact congrArg Db.inspectionQuotes h
  · exact congrArg Db.obligations h

theorem returnedClean_noShow_iff {request : InspectionRequest} (hid : a.requestId = s.requestId)
    (hrow : a.request = s.request)
    (hcoordination : a.coordination = s.coordination) (hrequest : s.request = some request) :
    s.ReturnedClean env ⟨a.reopenAfterNoShow env request, s.columns.missed⟩ ↔
      s.columns.completionDueAt = none ∧ s.columns.startedAt = none := by
  have hwrites := (reopenAfterNoShow_writesBack env request a).of_same hrow hcoordination
  rw [hwrites.returnedClean_iff, hid, hrequest, InspectionColumns.isClean_iff]
  constructor
  · rintro ⟨-, ⟨-, -, -, -, -, hcompletion, hstarted⟩, -⟩
    exact ⟨hcompletion, hstarted⟩
  · rintro ⟨hcompletion, hstarted⟩
    refine ⟨rfl, ⟨rfl, rfl, rfl, rfl, rfl, hcompletion, hstarted⟩, ⟨rfl, rfl⟩,
      noOpenFee_cancelled _ _, fun inspectorId hinspector => ?_⟩
    exact noQuoteOf_closed (by decide) hinspector _

/-! ## Release -/

variable {reads : ReleaseReads} {note : Option String} {adminId : Id}

theorem releaseInspectionQuote_accepted {r : LoadedInspectionQuote} {db db' : Db}
    (haccepted : r.isAcceptedRelease = true)
    (hunblocked : ¬ (r.isProviderRelease = false ∧ reads.allowed ≤ reads.used))
    (h : releaseInspectionQuote env r reads db = .ok db') :
    db' = releaseInspector env r db := by
  unfold releaseInspectionQuote at h
  obtain ⟨-, -, h⟩ := bind_eq_ok.1 h
  rw [if_neg hunblocked] at h
  split at h
  · cases h
  · split at h
    · cases h
    · obtain ⟨-, -, h⟩ := bind_eq_ok.1 h
      obtain ⟨-, -, h⟩ := bind_eq_ok.1 h
      exact (Except.ok.inj h).symm

theorem releaseQuote_writesBack {userId quoteId : Id} {reason : Option String}
    {loaded : LoadedInspectionQuote}
    (hloaded : s.loadedRelease env userId quoteId reason note reads = some loaded)
    (h : s.toArrivalSession.releaseQuote env userId quoteId reason note reads = .ok a') :
    WritesBack env s.toArrivalSession a' InspectionRequest.unassigned
        (s.db.inspectionQuotes.update quoteId ({ · with status := .withdrawn })) s.db.obligations ∧
      (NoHandshake a' ↔ NoHandshake s.toArrivalSession) ∧
      exists request, s.request = some request := by
  unfold loadedRelease at hloaded
  unfold ArrivalSession.releaseQuote at h
  obtain ⟨read, hcheck, h⟩ := bind_eq_ok.1 h
  rw [hcheck] at hloaded
  dsimp only at hloaded
  split at hloaded
  · rename_i hmay
    obtain rfl := Option.some.inj hloaded
    rw [Bool.and_eq_true, Bool.or_eq_true, decide_eq_true_eq] at hmay
    obtain ⟨haccepted, hmay⟩ := hmay
    have hunblocked : ¬ (read.isProviderRelease = false ∧ reads.allowed ≤ reads.used) := by
      rintro ⟨hprovider, hused⟩
      rcases hmay with hmay | hmay
      · rw [hprovider] at hmay
        cases hmay
      · omega
    have hrequest : exists request, s.request = some request := by
      unfold checkReleaseInspection at hcheck
      obtain ⟨negotiation, hnegotiation, -⟩ := bind_eq_ok.1 hcheck
      exact ⟨_, (ArrivalSession.loadQuoteForNegotiation_call hnegotiation).2⟩
    obtain ⟨db, hrelease, h⟩ := bind_eq_ok.1 h
    rw [if_neg hunblocked] at h
    obtain rfl := Except.ok.inj h
    obtain rfl := releaseInspectionQuote_accepted haccepted hunblocked hrelease
    have hcall := ArrivalSession.checkReleaseInspection_call hcheck
    have hrequestId : read.requestId = s.requestId :=
      congrArg InspectionQuoteRequest.requestId hcall
    have hquoteId : read.quoteId = quoteId := congrArg InspectionQuoteRequest.quoteId hcall
    unfold releaseInspector
    rw [if_pos haccepted, hrequestId, hquoteId]
    dsimp only
    obtain ⟨events, hevents⟩ := recordOrderEvent_frame env read.request.orderId
      (if read.isProviderRelease then .providerAgreementReleased else .requesterAgreementReleased)
      { s.db with
        inspectionQuotes := s.db.inspectionQuotes.update quoteId ({ · with status := .withdrawn })
        inspectionRequests :=
          s.db.inspectionRequests.update s.requestId InspectionRequest.unassigned }
    rw [hevents]
    refine ⟨⟨?_, rfl, rfl, rfl⟩, Iff.rfl, hrequest⟩
    exact Table.findUnique_update_self _ _ _
  · cases hloaded

theorem returnedClean_release_iff {userId quoteId : Id} {reason : Option String}
    {loaded : LoadedInspectionQuote}
    (hloaded : s.loadedRelease env userId quoteId reason note reads = some loaded)
    (h : s.toArrivalSession.releaseQuote env userId quoteId reason note reads = .ok a') :
    s.ReturnedClean env ⟨a', s.columns.released loaded.isProviderRelease⟩ ↔
      s.ForgetsNothing env (.release userId quoteId reason note reads) := by
  obtain ⟨hwrites, hhandshake, request, hrequest⟩ := releaseQuote_writesBack hloaded h
  rw [hwrites.returnedClean_iff, InspectionColumns.isClean_iff, hhandshake]
  unfold ForgetsNothing
  rw [hrequest, Option.map_some, Option.map_some, Option.some_inj, unassigned_eq_returned_iff,
    Option.bind_some, Option.bind_some]
  simp only [noQuoteOf_withdrawn_iff, InspectionColumns.released, true_and]

/-! ## Reopening and recovery -/

theorem reopenBidding_writesBack (h : s.toArrivalSession.reopenBidding env = .ok a') :
    WritesBack env s.toArrivalSession a' (·.returned env) s.db.inspectionQuotes s.db.obligations ∧
      (NoHandshake a' ↔ NoHandshake s.toArrivalSession) ∧ s.hasLiveBidders = false ∧
      s.request.isSome = true := by
  unfold ArrivalSession.reopenBidding at h
  cases hrequest : s.toArrivalSession.request with
  | none =>
      rw [hrequest] at h
      cases h
  | some request =>
      rw [hrequest] at h
      dsimp only at h
      simp only [guard_eq_ok] at h
      obtain ⟨-, -, h⟩ := h
      obtain ⟨-, -, h⟩ := bind_eq_ok.1 h
      obtain ⟨hbidders, h⟩ := guard_eq_ok.mp h
      obtain rfl := Except.ok.inj h
      refine ⟨⟨?_, rfl, rfl, rfl⟩, Iff.rfl, Bool.eq_false_of_not_eq_true hbidders, rfl⟩
      exact Table.findUnique_update_self _ _ _

theorem returnedClean_reopening_iff (h : s.toArrivalSession.reopenBidding env = .ok a') :
    s.ReturnedClean env ⟨a', s.columns.reopened⟩ ↔ s.ForgetsNothing env .reopenBidding := by
  obtain ⟨hwrites, hhandshake, hbidders, -⟩ := reopenBidding_writesBack h
  rw [hwrites.returnedClean_iff, InspectionColumns.isClean_iff, hhandshake]
  have hquotes : forall inspectorId, s.request.bind (·.inspectorId) = some inspectorId ->
      NoQuoteOf s.requestId inspectorId none s.db.inspectionQuotes := by
    intro inspectorId _ i quote hquote _ hof _ hstatus
    have hlive : (decide (quote.inspectionRequestId = s.requestId) && quote.status.isLive) = false :=
      Table.any_eq_false_iff.1 hbidders i quote hquote
    rw [not_live_of_mem hstatus, Bool.and_true, decide_eq_false_iff_not] at hlive
    exact hlive hof
  unfold ForgetsNothing
  simp only [InspectionColumns.reopened, true_and, and_true]
  constructor
  · rintro ⟨honSite, hempty, hfees, -⟩
    exact ⟨honSite, hempty, hfees⟩
  · rintro ⟨honSite, hempty, hfees⟩
    exact ⟨honSite, hempty, hfees, hquotes⟩

theorem recoverInspection_eq {orderId requestId : Id} {request : InspectionRequest} {db db' : Db}
    (hcurrent : currentInspection db orderId = some (requestId, request))
    (hstatus : request.status ∈ [InspectionStatus.requested, .accepted, .stalled])
    (h : recoverInspection orderId db = .ok db') :
    db' = { db with
      inspectionQuotes := db.inspectionQuotes.updateMany
        (fun _ quote => quote.inspectionRequestId = requestId &&
          some quote.inspectorId = request.inspectorId && quote.status.isLive)
        ({ · with status := .expired })
      inspectionRequests := db.inspectionRequests.update requestId InspectionRequest.unassigned } := by
  unfold recoverInspection at h
  rw [hcurrent] at h
  dsimp only at h
  split at h
  · cases h
  · exact (Except.ok.inj h).symm

theorem approveRecovery_writesBack {recoveryId : Id} {recovery : RecoveryRequest}
    (hrecovery : s.db.recoveryRequests.findUnique recoveryId = some recovery)
    (hreturned : s.isReturnedBy recovery = true)
    (h : s.toArrivalSession.approveRecovery env adminId recoveryId = .ok a') :
    exists request, s.request = some request ∧
      WritesBack env s.toArrivalSession a' InspectionRequest.unassigned
        (s.db.inspectionQuotes.updateMany
          (fun _ quote => quote.inspectionRequestId = s.requestId &&
            some quote.inspectorId = request.inspectorId && quote.status.isLive)
          ({ · with status := .expired }))
        s.db.obligations ∧
      (NoHandshake a' ↔ NoHandshake s.toArrivalSession) := by
  unfold isReturnedBy at hreturned
  rw [Bool.and_eq_true, decide_eq_true_eq, Option.any_eq_true] at hreturned
  obtain ⟨htype, ⟨requestId, request⟩, hcurrent, hid⟩ := hreturned
  rw [Bool.and_eq_true, decide_eq_true_eq, decide_eq_true_eq] at hid
  obtain ⟨rfl, hstatus⟩ := hid
  have hrequest : s.request = some request :=
    (Table.mem_findMany.1 (List.mem_of_getLast? hcurrent)).1
  refine ⟨request, hrequest, ?_⟩
  unfold ArrivalSession.approveRecovery at h
  obtain ⟨db, hrecover, h⟩ := bind_eq_ok.1 h
  unfold MarketBridge.approveRecovery at hrecover
  rw [hrecovery] at hrecover
  dsimp only at hrecover
  simp only [guard_eq_ok] at hrecover
  obtain ⟨-, -, hrecover⟩ := hrecover
  rw [if_neg (by rw [htype]; decide)] at hrecover
  obtain ⟨recovered, hinspection, hrecover⟩ := bind_eq_ok.1 hrecover
  obtain rfl := Except.ok.inj hrecover
  obtain rfl := recoverInspection_eq hcurrent hstatus (by
    unfold recoverOther at hinspection
    rw [htype] at hinspection
    exact hinspection)
  have hisRecovered : (s.db.recoveryRequests.findUnique recoveryId).any
      s.toArrivalSession.isRecovered = true := by
    rw [hrecovery, Option.any_some]
    unfold ArrivalSession.isRecovered
    rw [htype, hcurrent, Option.any_some]
    simp only [decide_true, Bool.true_and, decide_eq_true_eq]
    revert hstatus
    cases request.status <;> decide
  rw [if_pos hisRecovered] at h
  obtain rfl := Except.ok.inj h
  dsimp only
  obtain ⟨events, hevents⟩ := recordOrderEvent_frame env (some recovery.orderId)
    .workflowRecoveryApproved
    { s.db with
      inspectionQuotes := s.db.inspectionQuotes.updateMany
        (fun _ quote => quote.inspectionRequestId = s.requestId &&
          some quote.inspectorId = request.inspectorId && quote.status.isLive)
        ({ · with status := .expired })
      inspectionRequests :=
        s.db.inspectionRequests.update s.requestId InspectionRequest.unassigned
      recoveryRequests := s.db.recoveryRequests.update recoveryId ({ · with
        status := .approved
        approvedById := some adminId
        formReleasedAt := some env.now }) }
  rw [hevents]
  refine ⟨⟨?_, rfl, rfl, rfl⟩, Iff.rfl⟩
  exact Table.findUnique_update_self _ _ _

theorem returnedClean_recovery_iff {recoveryId : Id} {recovery : RecoveryRequest}
    (hrecovery : s.db.recoveryRequests.findUnique recoveryId = some recovery)
    (hreturned : s.isReturnedBy recovery = true)
    (h : s.toArrivalSession.approveRecovery env adminId recoveryId = .ok a') :
    s.ReturnedClean env ⟨a', s.columns.recovered⟩ ↔
      s.ForgetsNothing env (.recovery adminId recoveryId) := by
  obtain ⟨request, hrequest, hwrites, hhandshake⟩ :=
    approveRecovery_writesBack hrecovery hreturned h
  have hquotes : forall inspectorId, s.request.bind (·.inspectorId) = some inspectorId ->
      NoQuoteOf s.requestId inspectorId none (s.db.inspectionQuotes.updateMany
        (fun _ quote => quote.inspectionRequestId = s.requestId &&
          some quote.inspectorId = request.inspectorId && quote.status.isLive)
        ({ · with status := .expired })) := by
    intro inspectorId hinspector
    rw [hrequest] at hinspector
    exact noQuoteOf_closed (by decide) hinspector _
  rw [hwrites.returnedClean_iff, InspectionColumns.isClean_iff, hhandshake]
  unfold ForgetsNothing
  rw [hrequest, Option.map_some, Option.map_some, Option.some_inj, unassigned_eq_returned_iff,
    Option.bind_some]
  simp only [InspectionColumns.recovered, true_and, and_true]
  constructor
  · rintro ⟨hfresh, hcolumns, hempty, hfees, -⟩
    exact ⟨hfresh, hcolumns, hempty, hfees⟩
  · rintro ⟨hfresh, hcolumns, hempty, hfees⟩
    refine ⟨hfresh, hcolumns, hempty, hfees, ?_⟩
    rw [hrequest] at hquotes
    exact hquotes

/-! ## All of them -/

theorem eq_ok_of_toOption {α : Type} {r : Except ApiError α} {x : α} (h : r.toOption = some x) :
    r = .ok x := by
  cases r with
  | error e => cases h
  | ok y => rw [Option.some.inj h]

theorem adminResolve_noShow
    (h : s.toArrivalSession.adminResolve env adminId .noShow note = .ok a') :
    exists (a : ArrivalSession) (request : InspectionRequest), s.request = some request ∧
      a.requestId = s.requestId ∧ a.request = s.request ∧ a.coordination = s.coordination ∧
      a' = a.reopenAfterNoShow env request := by
  unfold ArrivalSession.adminResolve at h
  cases harrival : s.arrival with
  | none =>
      rw [harrival] at h
      cases h
  | some arrival =>
      rw [harrival] at h
      dsimp only at h
      split at h
      · cases h
      · cases hrequest : s.toArrivalSession.request with
        | none =>
            rw [hrequest] at h
            cases h
        | some request =>
            rw [hrequest] at h
            dsimp only at h
            replace h := (guard_eq_ok.mp h).2
            obtain ⟨-, -, h⟩ := bind_eq_ok.1 h
            refine ⟨_, request, rfl, ?_, ?_, ?_, (Except.ok.inj h).symm⟩
            · rfl
            · exact (ArrivalSession.recordEvent_sameRows _ env _ _).request.trans hrequest
            · rfl

/-- The seller has confirmed the inspector, and somebody asks for a recovery. -/
def confirmedSession : BiddingSession :=
  let agreed := run (ArrivalSession.step ArrivalSession.sameCode) ArrivalSession.requestedSession
    [({ now := 1 }, .acceptQuote 2 0),
      ({ now := 1 }, .elsewhere (ArrivalSession.bidsOf .accepted 6 .withdrawn)
        ArrivalSession.handedOff),
      ({ now := 2 }, .confirmInspection 1 "salt")]
  { agreed with
    db := { agreed.db with
      recoveryRequests := Table.empty.create
        { orderId := 0
          type := .inspection } }
    columns :=
      { buyerFeeAmount := some 10 } }

def afterWindow : Env :=
  { now := 100 * 24 * 60 * 60 * 1000 }

def duringWindow : Env :=
  { now := 2 * 24 * 60 * 60 * 1000 }

def releasedByInspector : WayBack :=
  .release 5 0 (some "OTHER") (some "I cannot stay for it") {}

/-- The request is cancelled by the sweep although its bidding window has not passed. -/
def expiresEarly (env : Env) (s : BiddingSession) : Bool :=
  s.request.any fun request =>
    request.workflowDueAt.any fun due =>
      decide (due < computeInspectionWorkflowDueAt env) && inspectionIsDue due request

theorem not_returnedClean_of_expiresEarly {s s' : BiddingSession}
    (h : s'.expiresEarly env = true) :
    ¬ s.ReturnedClean env s' := by
  intro hclean
  obtain ⟨request, hrequest, h⟩ := (Option.any_eq_true _ _).1 h
  obtain ⟨due, -, h⟩ := (Option.any_eq_true _ _).1 h
  rw [Bool.and_eq_true, decide_eq_true_eq] at h
  have hstays := hclean.stays due h.1
  rw [hrequest, Option.any_some, h.2] at hstays
  cases hstays

end BiddingSession

end MarketBridge
