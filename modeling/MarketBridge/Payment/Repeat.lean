import MarketBridge.Payment.Replay

/-!
# A second notification for a paid payment

The callback, verify and webhook routes make up their own event ids, so one
payment can be reported as paid several times with different events.  The
payment write is repeated then, and each business effect runs again against
whatever state its order, job, inspection or campaign has reached.
-/

namespace MarketBridge

open Relational

/-- The tables that hold the business state behind a payment. -/
structure SameBusiness (db db' : Db) : Prop where
  orders : db'.orders = db.orders
  listings : db'.listings = db.listings
  obligations : db'.obligations = db.obligations
  payouts : db'.payouts = db.payouts
  ledgerEntries : db'.ledgerEntries = db.ledgerEntries
  transportJobs : db'.transportJobs = db.transportJobs
  transportQuotes : db'.transportQuotes = db.transportQuotes
  inspectionRequests : db'.inspectionRequests = db.inspectionRequests
  digitalPurchases : db'.digitalPurchases = db.digitalPurchases
  advertisements : db'.advertisements = db.advertisements

/-! ## When an effect has nothing left to do -/

def ledgerWritten (r : PaymentRecord) (db : Db) : Bool :=
  (paidLedgerEntries r).all (ledgerEntryExists db)

def earnsServicePayout (r : PaymentRecord) : Bool :=
  (r.row.type = .transport && isHired r) || (inspectionCommitment r).isSome

def payoutHeld (r : PaymentRecord) (db : Db) : Bool :=
  !earnsServicePayout r || db.payouts.any fun _ q => q.paymentId = r.id

def purchaseCompleted (r : PaymentRecord) : Bool :=
  r.row.type ≠ .digital || r.digitalPurchase.all fun d => d.2.status = .completed

def advertisementPaid (env : Env) (r : PaymentRecord) : Bool :=
  r.row.type ≠ .advertising ||
    r.advertisement.all fun ad => ad.paid env r.row.amount = ad

def goodsInert (r : PaymentRecord) : Bool :=
  r.row.type ≠ .marketplace || r.order.all fun o => o.status ≠ .pendingPayment

/-- The job is accepted, its quote has this very deadline, its order has moved on. -/
def transportInert (env : Env) (r : PaymentRecord) (db : Db) : Bool :=
  (transportCommitment r).all fun (_, job, _, _, quote) =>
    job.status = .accepted && quote.expiresAt = some (siteDeadline env) &&
      (db.orders.findUnique job.orderId).all fun o => o.status ≠ .confirmed

def inspectionInert (r : PaymentRecord) : Bool :=
  (inspectionCommitment r).all fun (_, request, _) => request.status = .accepted

def recordsInert (env : Env) (r : PaymentRecord) (db : Db) : Bool :=
  payoutHeld r db && ledgerWritten r db && purchaseCompleted r &&
    advertisementPaid env r

def effectsInert (env : Env) (r : PaymentRecord) (db : Db) : Bool :=
  if receivedUnderDispute r then
    ledgerWritten r db
  else
    goodsInert r && transportInert env r db && inspectionInert r && recordsInert env r db

def obligationPaid (p : Payment) (db : Db) : Bool :=
  p.obligationId.all fun o => (db.obligations.findUnique o).all fun b => b.status = .paid

/--
The repeated notification commits and finds everything as the first one left
it: the payment write keeps the unique indexes, the effects are committable and
none of them has anything left to do.
-/
def repeatInert (env : Env) (args : SettleArgs) (db : Db) (p : Payment) : Bool :=
  let r := paymentRecord db args.paymentId p
  !paymentConflict db args.paymentId (p.settled args) && paidCommittable args r db &&
    obligationPaid p db && effectsInert env r db

/-! ## Ledger -/

theorem size_le_createLedgerEntries (entries : List PaymentLedgerEntry) (db : Db) :
    db.ledgerEntries.size ≤
      (entries.foldl (fun db e => createLedgerEntryOnce e db) db).ledgerEntries.size := by
  induction entries generalizing db with
  | nil =>
      exact Nat.le_refl _
  | cons entry entries ih =>
      rw [List.foldl_cons]
      refine Nat.le_trans ?_ (ih _)
      unfold createLedgerEntryOnce
      split
      · exact Nat.le_refl _
      · simp

theorem createLedgerEntries_same_iff (entries : List PaymentLedgerEntry) (db : Db) :
    (entries.foldl (fun db e => createLedgerEntryOnce e db) db).ledgerEntries =
        db.ledgerEntries ↔
      entries.all (ledgerEntryExists db) = true := by
  induction entries with
  | nil =>
      simp
  | cons entry entries ih =>
      rw [List.foldl_cons, List.all_cons, Bool.and_eq_true]
      cases hexists : ledgerEntryExists db entry with
      | true =>
          have hsame : createLedgerEntryOnce entry db = db := by
            simp [createLedgerEntryOnce, hexists]
          rw [hsame, ih]
          simp
      | false =>
          have hgrows := size_le_createLedgerEntries entries
            (createLedgerEntryOnce entry db)
          simp only [createLedgerEntryOnce, hexists] at hgrows ⊢
          constructor
          · intro h
            rw [h] at hgrows
            simp at hgrows
          · simp

theorem writeLedgerPaid_same_iff (r : PaymentRecord) (db : Db) :
    (writeLedgerPaid r db).ledgerEntries = db.ledgerEntries ↔
      ledgerWritten r db = true :=
  createLedgerEntries_same_iff (paidLedgerEntries r) db

/-! ## Payout, purchase and campaign -/

theorem createPayoutHold_same_iff
    (env : Env) (orderId : Option Id) (payeeRole : PayoutPayeeRole)
    (payee paymentId : Id) (payment : Payment) (db : Db) :
    (createPayoutHold env orderId payeeRole (some payee) paymentId payment db).payouts =
        db.payouts ↔
      db.payouts.any (fun _ q => q.paymentId = paymentId) = true := by
  unfold createPayoutHold
  cases hany : db.payouts.any fun _ q => q.paymentId = paymentId with
  | true =>
      simp
  | false =>
      simp [Table.create_ne_self]

variable {r : PaymentRecord} {env : Env} {db : Db} {args : SettleArgs}

theorem transportPayee_of_isHired (h : isHired r = true) :
    exists job payee, r.transportJob = some job ∧ transportPayee r = some payee := by
  unfold isHired at h
  cases hjob : r.transportJob with
  | none =>
      simp [hjob] at h
  | some job =>
      simp only [hjob, Option.any_some, Bool.and_eq_true] at h
      obtain ⟨owner, howner⟩ := Option.isSome_iff_exists.mp h.2
      unfold transportPayee
      cases hquote : r.transportQuote with
      | none => exact ⟨job, owner, rfl, by simp [hjob, howner]⟩
      | some quote => exact ⟨job, quote.truckOwnerId, rfl, by simp [hjob]⟩

theorem holdServicePayout_same_iff (env : Env) (r : PaymentRecord) (db : Db) :
    (holdInspectionPayout env r (holdTransportPayout env r db)).payouts = db.payouts ↔
      payoutHeld r db = true := by
  unfold payoutHeld earnsServicePayout
  by_cases htype : r.row.type = .transport
  · have hnone : inspectionCommitment r = none :=
      inspectionCommitment_of_ne (by simp [htype])
    cases hhired : isHired r with
    | false =>
        cases hjob : r.transportJob <;>
          simp [holdInspectionPayout, holdTransportPayout, hnone, hhired, hjob]
    | true =>
        obtain ⟨job, payee, hjob, hpayee⟩ := transportPayee_of_isHired hhired
        simp only [holdInspectionPayout, holdTransportPayout, hnone, hjob, htype, hhired,
          hpayee, decide_true, Bool.and_self, if_true, createPayoutHold_same_iff]
        simp
  · have hsame : holdTransportPayout env r db = db := by
      unfold holdTransportPayout
      cases r.transportJob <;> simp [htype]
    rw [hsame]
    unfold holdInspectionPayout
    cases hcommitment : inspectionCommitment r with
    | none =>
        simp [htype]
    | some c =>
        obtain ⟨requestId, request, inspectorId⟩ := c
        simp only [createPayoutHold_same_iff]
        simp

/-- The loaded relations are the rows of the database. -/
structure RecordCurrent (r : PaymentRecord) (db : Db) : Prop where
  order : r.order = related db.orders r.row.orderId
  transportJob : r.transportJob = related db.transportJobs r.row.transportJobId
  transportQuote : r.transportQuote = related db.transportQuotes r.row.transportQuoteId
  inspectionRequest :
    r.inspectionRequest = related db.inspectionRequests r.row.inspectionRequestId
  advertisement : r.advertisement = related db.advertisements r.row.advertisementId
  digitalPurchase : forall i d, r.digitalPurchase = some (i, d) ->
    db.digitalPurchases.findUnique i = some d

theorem paymentRecord_current (db : Db) (id : Id) (p : Payment) :
    RecordCurrent (paymentRecord db id p) db :=
  { order := rfl
    transportJob := rfl
    transportQuote := rfl
    inspectionRequest := rfl
    advertisement := rfl
    digitalPurchase := fun i d h =>
      (Table.findFirst_eq_some (t := db.digitalPurchases)
        (p := fun _ d => d.paymentId = id) (i := i) (r := d) h).1 }

theorem completePurchase_same_iff {r : PaymentRecord} (db : Db)
    (hcurrent : forall i d, r.digitalPurchase = some (i, d) ->
      db.digitalPurchases.findUnique i = some d) :
    (completePurchase r db).digitalPurchases = db.digitalPurchases ↔
      purchaseCompleted r = true := by
  unfold completePurchase purchaseCompleted
  by_cases htype : r.row.type = .digital
  · cases hpurchase : r.digitalPurchase with
    | none =>
        simp [htype, setPurchaseStatus, hpurchase]
    | some d =>
        obtain ⟨i, d⟩ := d
        simp only [htype, if_true, setPurchaseStatus, hpurchase]
        rw [Table.update_eq_self_iff (hcurrent i d hpurchase)]
        cases d
        simp [eq_comm]
  · simp [htype]

theorem payAdvertisement_of_ne (h : r.row.type ≠ .advertising) (db : Db) :
    payAdvertisement env r db = db := by
  unfold payAdvertisement
  split
  · contradiction
  · rfl

theorem payAdvertisement_same_iff (env : Env) (db : Db)
    (hcurrent : r.advertisement = related db.advertisements r.row.advertisementId) :
    (payAdvertisement env r db).advertisements = db.advertisements ↔
      advertisementPaid env r = true := by
  unfold advertisementPaid
  by_cases htype : r.row.type = .advertising
  · cases hid : r.row.advertisementId with
    | none =>
        have hnone : r.advertisement = none := by
          simp [hcurrent, hid]
        simp [payAdvertisement, htype, hid, hnone]
    | some adId =>
        have had : r.advertisement = db.advertisements.findUnique adId := by
          simp [hcurrent, hid]
        simp only [payAdvertisement, htype, hid]
        cases hfind : db.advertisements.findUnique adId with
        | none =>
            simp [had, hfind, Table.update_eq_self_of_findUnique_eq_none hfind]
        | some ad =>
            rw [Table.update_eq_self_iff hfind]
            simp [had, hfind]
  · rw [payAdvertisement_of_ne htype]
    simp [htype]

theorem recordPaid_same_iff {env : Env} {r : PaymentRecord} {db : Db}
    (hpurchase : forall i d, r.digitalPurchase = some (i, d) ->
      db.digitalPurchases.findUnique i = some d)
    (had : r.advertisement = related db.advertisements r.row.advertisementId) :
    SameBusiness db (recordPaid env r db) ↔ recordsInert env r db = true := by
  have hpayouts := holdServicePayout_same_iff env r db
  obtain ⟨payouts, _, hheld⟩ := holdServicePayout_frame env r db
  have hpurchases := completePurchase_same_iff { db with payouts := payouts } hpurchase
  obtain ⟨purchases, hcompleted⟩ := completePurchase_frame r { db with payouts := payouts }
  have hads := payAdvertisement_same_iff env
    { db with payouts := payouts, digitalPurchases := purchases } had
  obtain ⟨ads, hpaid⟩ := payAdvertisement_frame env r
    { db with payouts := payouts, digitalPurchases := purchases }
  have hledger := writeLedgerPaid_same_iff r
    { db with
      payouts := payouts
      digitalPurchases := purchases
      advertisements := ads }
  obtain ⟨entries, hentries⟩ := writeLedgerPaid_frame r
    { db with
      payouts := payouts
      digitalPurchases := purchases
      advertisements := ads }
  rw [hheld] at hpayouts
  rw [hcompleted] at hpurchases
  rw [hpaid] at hads
  rw [hentries] at hledger
  have hwritten : ledgerWritten r { db with
      payouts := payouts
      digitalPurchases := purchases
      advertisements := ads } = ledgerWritten r db := rfl
  rw [hwritten] at hledger
  unfold recordPaid recordsInert
  rw [hheld, hcompleted, hpaid, hentries]
  simp only [Bool.and_eq_true]
  rw [← hpayouts, ← hpurchases, ← hads, ← hledger]
  constructor
  · intro h
    exact ⟨⟨⟨h.payouts, h.ledgerEntries⟩, h.digitalPurchases⟩, h.advertisements⟩
  · rintro ⟨⟨⟨h1, h2⟩, h3⟩, h4⟩
    exact ⟨rfl, rfl, rfl, h1, h2, rfl, rfl, rfl, h3, h4⟩

/-! ## All effects together -/

theorem recordPaid_over_same_iff (env : Env) (between : Db) (hcurrent : RecordCurrent r db)
    (hpayouts : between.payouts = db.payouts) (hledger : between.ledgerEntries = db.ledgerEntries)
    (hpurchases : between.digitalPurchases = db.digitalPurchases)
    (hads : between.advertisements = db.advertisements) :
    SameBusiness db (recordPaid env r between) ↔
      SameBusiness db between ∧ recordsInert env r db = true := by
  have hinert : recordsInert env r between = recordsInert env r db := by
    unfold recordsInert payoutHeld ledgerWritten ledgerEntryExists
    rw [hpayouts, hledger]
  have hrecords : SameBusiness between (recordPaid env r between) ↔
      recordsInert env r db = true := by
    rw [← hinert]
    apply recordPaid_same_iff
    · rw [hpurchases]
      exact hcurrent.digitalPurchase
    · rw [hads]
      exact hcurrent.advertisement
  rw [← hrecords]
  obtain ⟨payouts, purchases, ads, entries, _, hframe⟩ := recordPaid_frame env r between
  rw [hframe]
  constructor
  · intro h
    exact ⟨⟨h.orders, h.listings, h.obligations, hpayouts, hledger, h.transportJobs,
        h.transportQuotes, h.inspectionRequests, hpurchases, hads⟩,
      ⟨rfl, rfl, rfl, h.payouts.trans hpayouts.symm, h.ledgerEntries.trans hledger.symm,
        rfl, rfl, rfl, h.digitalPurchases.trans hpurchases.symm,
        h.advertisements.trans hads.symm⟩⟩
  · rintro ⟨h, h'⟩
    exact ⟨h.orders, h.listings, h.obligations, h'.payouts.trans hpayouts,
      h'.ledgerEntries.trans hledger, h.transportJobs, h.transportQuotes,
      h.inspectionRequests, h'.digitalPurchases.trans hpurchases,
      h'.advertisements.trans hads⟩

theorem withIssue_sameBusiness (env : Env) (data : ReconciliationData) (db : Db) :
    SameBusiness db (withIssue env data db) := by
  obtain ⟨events, h⟩ := withIssue_frame env data db
  rw [h]
  exact ⟨rfl, rfl, rfl, rfl, rfl, rfl, rfl, rfl, rfl, rfl⟩

theorem transportCommitment_eq_some {jobId truckId quoteId : Id} {job : TransportJob}
    {quote : TransportQuote}
    (h : transportCommitment r = some (jobId, job, truckId, quoteId, quote)) :
    r.row.transportJobId = some jobId ∧ r.transportJob = some job ∧
      r.row.transportQuoteId = some quoteId ∧ r.transportQuote = some quote := by
  have htype := type_of_transportCommitment h
  unfold transportCommitment at h
  simp only [htype, if_true] at h
  split at h
  · rename_i jobId' job' quoteId' quote' hjobId hjob hquoteId hquote
    split at h
    · split at h
      · simp only [Option.some.injEq, Prod.mk.injEq] at h
        obtain ⟨rfl, rfl, _, rfl, rfl⟩ := h
        exact ⟨hjobId, hjob, hquoteId, hquote⟩
      · simp at h
    · simp at h
  · simp at h

theorem inspectionCommitment_eq_some {requestId inspectorId : Id} {request : InspectionRequest}
    (h : inspectionCommitment r = some (requestId, request, inspectorId)) :
    r.row.inspectionRequestId = some requestId ∧ r.inspectionRequest = some request := by
  have htype := type_of_inspectionCommitment h
  unfold inspectionCommitment at h
  simp only [htype, if_true] at h
  split at h
  · rename_i requestId' request' hrequestId hrequest
    obtain ⟨_, _, hpair⟩ := Option.map_eq_some_iff.mp h
    simp only [Prod.mk.injEq] at hpair
    obtain ⟨rfl, rfl, _⟩ := hpair
    exact ⟨hrequestId, hrequest⟩
  · simp at h

theorem acceptTransport_same_iff (hcurrent : RecordCurrent r db) {jobId truckId quoteId : Id}
    {job : TransportJob} {quote : TransportQuote}
    (hcommitment : transportCommitment r = some (jobId, job, truckId, quoteId, quote))
    (trucks : Table Truck) :
    SameBusiness db (acceptTransport env jobId quoteId job { db with trucks := trucks }) ↔
      transportInert env r db = true := by
  obtain ⟨hjobId, hjob, hquoteId, hquote⟩ := transportCommitment_eq_some hcommitment
  have hjobRow : db.transportJobs.findUnique jobId = some job := by
    simpa [hjobId, hjob, eq_comm] using hcurrent.transportJob
  have hquoteRow : db.transportQuotes.findUnique quoteId = some quote := by
    simpa [hquoteId, hquote, eq_comm] using hcurrent.transportQuote
  have hjobs : db.transportJobs.update jobId ({ · with status := .accepted }) =
      db.transportJobs ↔ job.status = .accepted := by
    rw [Table.update_eq_self_iff hjobRow]
    cases job
    simp [eq_comm]
  have hquotes : db.transportQuotes.update quoteId
      ({ · with expiresAt := some (siteDeadline env) }) = db.transportQuotes ↔
      quote.expiresAt = some (siteDeadline env) := by
    rw [Table.update_eq_self_iff hquoteRow]
    cases quote
    simp [eq_comm]
  have horders : db.orders.updateMany
      (fun i o => i == job.orderId && o.status = .confirmed)
      ({ · with status := .transportArranged }) = db.orders ↔
      ((db.orders.findUnique job.orderId).all fun o => o.status ≠ .confirmed) = true := by
    rw [Table.updateMany_eq_self_iff]
    constructor
    · intro h
      cases ho : db.orders.findUnique job.orderId with
      | none =>
          rfl
      | some o =>
          by_contra hconfirmed
          have hstatus : o.status = .confirmed := by simpa using hconfirmed
          have hsame := congrArg Order.status (h _ o ho (by simp [hstatus]))
          simp [hstatus] at hsame
    · intro h i o ho hi
      simp only [Bool.and_eq_true, beq_iff_eq, decide_eq_true_eq] at hi
      obtain ⟨rfl, hstatus⟩ := hi
      simp [ho, hstatus] at h
  unfold transportInert
  simp only [hcommitment, Option.all_some, Bool.and_eq_true, decide_eq_true_eq]
  rw [← hjobs, ← hquotes, ← horders]
  constructor
  · intro h
    exact ⟨⟨h.transportJobs, h.transportQuotes⟩, h.orders⟩
  · rintro ⟨⟨h1, h2⟩, h3⟩
    exact ⟨h3, rfl, rfl, rfl, rfl, h1, h2, rfl, rfl, rfl⟩

theorem PaidEffects.same_iff {db' : Db} (hcurrent : RecordCurrent r db)
    (h : PaidEffects env r db db') :
    SameBusiness db db' ↔ effectsInert env r db = true := by
  have htransport : r.row.type ≠ .transport -> transportInert env r db = true := by
    intro htype
    simp [transportInert, transportCommitment_of_ne htype]
  have hinspection : r.row.type ≠ .inspector -> inspectionInert r = true := by
    intro htype
    simp [inspectionInert, inspectionCommitment_of_ne htype]
  unfold effectsInert
  cases h with
  | underDispute data hdispute =>
      simp only [hdispute, if_true]
      rw [← writeLedgerPaid_same_iff]
      obtain ⟨entries, hentries⟩ := writeLedgerPaid_frame r db
      obtain ⟨events, hissue⟩ := withIssue_frame env data (writeLedgerPaid r db)
      rw [hissue, hentries]
      constructor
      · intro h
        exact h.ledgerEntries
      · intro h
        exact ⟨rfl, rfl, rfl, rfl, h, rfl, rfl, rfl, rfl, rfl⟩
  | confirmed orderId order committed listings offers payouts hdispute htype hid horder
      hpending =>
      have hrow : db.orders.findUnique orderId = some order := by
        simpa [hid, horder, eq_comm] using hcurrent.order
      have hgoods : goodsInert r = false := by
        simp [goodsInert, htype, horder, hpending]
      simp only [hdispute, hgoods, Bool.false_and, Bool.false_eq_true, if_false, iff_false]
      intro h
      obtain ⟨_, _, _, _, _, hframe⟩ := recordPaid_frame env r { db with
        orders := db.orders.update orderId (·.confirm committed)
        listings := listings
        offers := offers
        payouts := payouts }
      have hsame : db.orders.update orderId (·.confirm committed) = db.orders := by
        have horders := h.orders
        rw [hframe] at horders
        exact horders
      have hconfirm := (Table.update_eq_self_iff hrow _).mp hsame
      have hstatus := congrArg Order.status hconfirm
      simp [Order.confirm, hpending] at hstatus
  | afterCancellation order data hdispute htype horder hcancelled =>
      have hgoods : goodsInert r = true := by
        simp [goodsInert, horder, hcancelled]
      obtain ⟨events, hissue⟩ := withIssue_frame env data db
      rw [recordPaid_over_same_iff env _ hcurrent (by rw [hissue]) (by rw [hissue])
        (by rw [hissue]) (by rw [hissue])]
      simp [hdispute, hgoods, htransport (by simp [htype]), hinspection (by simp [htype]),
        withIssue_sameBusiness]
  | transportAccepted jobId truckId quoteId job quote trucks hdispute hcommitment =>
      have htype := type_of_transportCommitment hcommitment
      have hgoods : goodsInert r = true := by
        simp [goodsInert, htype]
      rw [recordPaid_over_same_iff env
          (acceptTransport env jobId quoteId job { db with trucks := trucks })
          hcurrent rfl rfl rfl rfl,
        acceptTransport_same_iff hcurrent hcommitment trucks]
      simp [hdispute, hgoods, hinspection (by simp [htype])]
  | inspectionAccepted requestId inspectorId request hdispute hcommitment =>
      have htype := type_of_inspectionCommitment hcommitment
      have hgoods : goodsInert r = true := by
        simp [goodsInert, htype]
      obtain ⟨hrequestId, hrequest⟩ := inspectionCommitment_eq_some hcommitment
      have hrow : db.inspectionRequests.findUnique requestId = some request := by
        simpa [hrequestId, hrequest, eq_comm] using hcurrent.inspectionRequest
      have hrequests : db.inspectionRequests.update requestId
          ({ · with status := .accepted }) = db.inspectionRequests ↔
          inspectionInert r = true := by
        rw [Table.update_eq_self_iff hrow]
        cases request
        simp [inspectionInert, hcommitment, eq_comm]
      rw [recordPaid_over_same_iff env
        { db with
          inspectionRequests := db.inspectionRequests.update requestId
            ({ · with status := .accepted }) }
        hcurrent rfl rfl rfl rfl]
      simp only [hdispute, hgoods, htransport (by simp [htype]), Bool.false_eq_true,
        if_false, Bool.true_and, Bool.and_eq_true, ← hrequests]
      constructor
      · rintro ⟨h, hrecords⟩
        exact ⟨h.inspectionRequests, hrecords⟩
      · rintro ⟨h, hrecords⟩
        exact ⟨⟨rfl, rfl, rfl, rfl, rfl, rfl, rfl, h, rfl, rfl⟩, hrecords⟩
  | recorded hdispute hgoods hnotransport hnoinspection =>
      have hgoods' : goodsInert r = true := by
        unfold goodsInert
        by_cases htype : r.row.type = .marketplace
        · cases horder : r.order with
          | none =>
              simp
          | some order =>
              cases hid : r.row.orderId with
              | none =>
                  have hnone := hcurrent.order
                  simp [horder, hid] at hnone
              | some orderId =>
                  simp [(hgoods htype orderId order hid horder).1]
        · simp [htype]
      rw [recordPaid_same_iff hcurrent.digitalPurchase hcurrent.advertisement]
      simp [hdispute, hgoods', transportInert, hnotransport, inspectionInert, hnoinspection]

/-! ## The repeated notification -/

theorem settledObligations_same_iff (hstatus : args.status = .paid) (p : Payment) (db : Db) :
    settledObligations args p db = db.obligations ↔ obligationPaid p db = true := by
  unfold settledObligations obligationPaid
  cases p.obligationId with
  | none =>
      simp
  | some o =>
      simp only [Option.all_some]
      cases hfind : db.obligations.findUnique o with
      | none =>
          simp [Table.update_eq_self_of_findUnique_eq_none hfind]
      | some b =>
          rw [Table.update_eq_self_iff hfind]
          cases b
          simp [hstatus, obligationStatusFor, eq_comm]

theorem recordCurrent_written {written : Db} {p : Payment}
    (hwritten : WrittenDb args db p written) (id : Id) :
    RecordCurrent (paymentRecord db id p) written := by
  have h := paymentRecord_current db id p
  obtain ⟨events, rfl⟩ := hwritten.shape
  exact ⟨h.order, h.transportJob, h.transportQuote, h.inspectionRequest, h.advertisement,
    h.digitalPurchase⟩

theorem sameBusiness_written_iff {written db' : Db} {p : Payment} (hstatus : args.status = .paid)
    (hwritten : WrittenDb args db p written)
    (heffects : applyEffects env args (paymentRecord db args.paymentId p) written = .ok db') :
    SameBusiness db db' ↔
      obligationPaid p db = true ∧
        effectsInert env (paymentRecord db args.paymentId p) db = true := by
  have hcurrent := recordCurrent_written hwritten args.paymentId
  have hframe := applyEffects_frame heffects
  simp only [applyEffects, hstatus] at heffects
  have hsame := (applyPaid_effects heffects).same_iff hcurrent
  have hinert : effectsInert env (paymentRecord db args.paymentId p) written =
      effectsInert env (paymentRecord db args.paymentId p) db := by
    obtain ⟨events, rfl⟩ := hwritten.shape
    rfl
  rw [hinert] at hsame
  rw [← hsame, ← settledObligations_same_iff hstatus]
  obtain ⟨events, rfl⟩ := hwritten.shape
  constructor
  · intro h
    exact ⟨hframe.obligations.symm.trans h.obligations,
      ⟨h.orders, h.listings, hframe.obligations, h.payouts, h.ledgerEntries,
        h.transportJobs, h.transportQuotes, h.inspectionRequests, h.digitalPurchases,
        h.advertisements⟩⟩
  · rintro ⟨hobligations, h⟩
    exact ⟨h.orders, h.listings, hframe.obligations.trans hobligations, h.payouts,
      h.ledgerEntries, h.transportJobs, h.transportQuotes, h.inspectionRequests,
      h.digitalPurchases, h.advertisements⟩

/--
A further success notification for a paid payment, matching in amount and
currency and carrying a new event, commits and leaves the business state alone
exactly when `repeatInert` holds in the state it finds.
-/
theorem settlePaymentCore_repeat_iff (env : Env) {args : SettleArgs} {db : Db}
    {p : Payment} (hp : db.payments.findUnique args.paymentId = some p)
    (hpaid : p.status = .paid) (hstatus : args.status = .paid)
    (hmatch : mismatchReason p args = none) (hnew : eventIsNew args db = true) :
    (exists db', settlePaymentCore env args db = .ok db' ∧ SameBusiness db db') ↔
      repeatInert env args db p = true := by
  have hguard : ignoresNotification p.status args.status = false := by
    rw [hpaid, hstatus]
    decide
  have hwrites : settlementWrites args db p = true ↔
      paymentConflict db args.paymentId (p.settled args) = false ∧
        paidCommittable args (paymentRecord db args.paymentId p) db = true := by
    simp only [settlementWrites, hmatch, hnew, hguard]
    simp [hstatus]
  unfold repeatInert
  simp only [Bool.and_eq_true, Bool.not_eq_true']
  constructor
  · rintro ⟨db', hsettle, hsame⟩
    cases settlePaymentCore_exit hp hsettle with
    | flagged reason hreason =>
        simp [hmatch] at hreason
    | replayed _ hseen =>
        simp [hnew] at hseen
    | ignored _ _ hignored =>
        simp [hguard] at hignored
    | written written db' hw hwritten heffects =>
        obtain ⟨hconflict, hcommittable⟩ := hwrites.mp hw
        obtain ⟨hobligation, hinert⟩ :=
          (sameBusiness_written_iff hstatus hwritten heffects).mp hsame
        exact ⟨⟨⟨hconflict, hcommittable⟩, hobligation⟩, hinert⟩
  · rintro ⟨⟨⟨hconflict, hcommittable⟩, hobligation⟩, hinert⟩
    obtain ⟨written, db', hwritten, heffects, hsettle⟩ :=
      settlePaymentCore_of_writes env hp (hwrites.mpr ⟨hconflict, hcommittable⟩)
    exact ⟨db', hsettle,
      (sameBusiness_written_iff hstatus hwritten heffects).mpr ⟨hobligation, hinert⟩⟩

/-! ## A banner that is paid twice -/

section Banner

def bannerDb : Db :=
  { payments := ⟨[{ type := .advertising, amount := 500, advertisementId := some 0 }]⟩
    advertisements := ⟨[{ type := .banner, startDate := 0 }]⟩ }

def paidBannerDb : Db :=
  commit (settlePaymentCore env0 paidNotice bannerDb) bannerDb

def paidAgainNotice : SettleArgs :=
  { paidNotice with eventId := some "callback-2" }

/-- `statusAfterApproval` of the campaign moderation. -/
def Advertisement.statusAfterApproval (env : Env) (ad : Advertisement) : AdStatus :=
  if ad.startDate > env.now then .scheduled else .published

/-- The moderation of a paid campaign with status `APPROVED`. -/
def approveAdvertisement (env : Env) (adId : Id) (db : Db) : Db :=
  { db with
    advertisements := db.advertisements.update adId fun ad =>
      { ad with
        status := ad.statusAfterApproval env
        publishedAt := if ad.statusAfterApproval env = .published then some env.now
          else ad.publishedAt } }

/-- Before its review a banner can be reported as paid once more. -/
theorem settlePaymentCore_repeat_banner :
    exists p, paidBannerDb.payments.findUnique 0 = some p ∧
      (exists db', settlePaymentCore env0 paidAgainNotice paidBannerDb = .ok db' ∧
        SameBusiness paidBannerDb db') := by
  have hp : paidBannerDb.payments.findUnique 0 = some
      { type := .advertising, amount := 500, advertisementId := some 0
        status := .paid } := by
    decide +kernel
  exact ⟨_, hp, (settlePaymentCore_repeat_iff env0 hp rfl rfl (by decide +kernel)
    (by decide +kernel)).mpr (by decide +kernel)⟩

/-- After its publication the same notification sends the banner back to review. -/
theorem published_banner_returns_to_review :
    let published := approveAdvertisement env0 0 paidBannerDb
    ¬ exists db', settlePaymentCore env0 paidAgainNotice published = .ok db' ∧
      SameBusiness published db' := by
  rintro published ⟨db', hsettle, hsame⟩
  have hafter : ((commit (settlePaymentCore env0 paidAgainNotice published)
      published).advertisements.findUnique 0).map (·.status) =
      some .paidPendingReview := by
    decide +kernel
  rw [hsettle, commit_ok, hsame.advertisements] at hafter
  have hbefore : (published.advertisements.findUnique 0).map (·.status) =
      some .published := by
    decide +kernel
  rw [hbefore] at hafter
  exact absurd hafter (by decide)

end Banner

end MarketBridge
