import MarketBridge.Market.Step
import MarketBridge.Payment.Creation

/-!
# Open obligations and the payments that hold them

A synchronisation keeps the keys of the obligations unique, so the lookup of
`createPayment` finds the obligation that the caller means.  Whether the new
payment can be linked to it depends on the payments that held it before.
-/

namespace MarketBridge

open Relational

/-! ## Unique keys -/

def sameObligationKey (b c : PaymentObligation) : Bool :=
  b.obligationKey = c.obligationKey

/-- The unique index `PaymentObligation_obligationKey_key`. -/
def ObligationsIndexed (db : Db) : Prop :=
  db.obligations.Unique sameObligationKey

def hasDuplicateKey (db : Db) : Bool :=
  db.obligations.any fun i b => db.obligations.any fun j c =>
    i ≠ j && sameObligationKey b c

theorem hasDuplicateKey_eq_false_iff (db : Db) :
    hasDuplicateKey db = false ↔ ObligationsIndexed db := by
  unfold hasDuplicateKey
  rw [Table.any_eq_false_iff]
  constructor
  · intro h i j b c hb hc hij
    have hnone := Table.any_eq_false_iff.mp (h i b hb) j c hc
    simpa [hij] using hnone
  · intro h i b hb
    rw [Table.any_eq_false_iff]
    intro j c hc
    by_cases hij : i = j
    · simp [hij]
    · simp [hij, h i j b c hb hc hij]

theorem sameObligationKey_comm (b c : PaymentObligation) :
    sameObligationKey b c = sameObligationKey c b := by
  unfold sameObligationKey
  rw [Bool.eq_iff_iff, decide_eq_true_iff, decide_eq_true_iff]
  exact eq_comm

theorem PaymentObligation.synced_obligationKey (b : PaymentObligation)
    (item : DesiredObligation) (status : PaymentObligationStatus) :
    (b.synced item status).obligationKey = b.obligationKey := by
  unfold PaymentObligation.synced
  split <;> rfl

variable {db loaded : Db} {o orderId : Id} {b : PaymentObligation} {env : Env}
  {data : CreatePaymentData}

theorem ObligationsIndexed.updateMany {p : Id -> PaymentObligation -> Bool}
    {f : PaymentObligation -> PaymentObligation} (h : ObligationsIndexed db)
    (hf : forall b, (f b).obligationKey = b.obligationKey) :
    ObligationsIndexed { db with obligations := db.obligations.updateMany p f } := by
  apply Table.Unique.updateMany h
  · intro b c hsame
    simpa only [sameObligationKey, hf] using hsame
  · intro b c hsame
    simpa only [sameObligationKey, hf] using hsame

theorem upsertObligation_indexed {item : DesiredObligation} {status : PaymentObligationStatus}
    (h : ObligationsIndexed db) :
    ObligationsIndexed (upsertObligation item status db).2 := by
  unfold upsertObligation
  cases hfound : obligationByKey db item.obligationKey with
  | some e =>
      exact h.updateMany fun b => b.synced_obligationKey item status
  | none =>
      apply Table.Unique.create h sameObligationKey_comm
      intro i b hb
      have hother := Table.findFirst_eq_none_iff.mp hfound i b hb
      simp only [decide_eq_false_iff_not] at hother
      have hkey : (item.row status).obligationKey ≠ b.obligationKey := fun hkey => hother hkey.symm
      simpa [sameObligationKey] using hkey

theorem linkPayment_obligations (payment : Option (Id × Payment)) (obligationId : Id) (db : Db) :
    (linkPayment payment obligationId db).obligations = db.obligations := by
  unfold linkPayment
  cases payment with
  | none =>
      rfl
  | some e =>
      simp only
      split <;> rfl

theorem syncObligation_indexed {item : DesiredObligation} (h : ObligationsIndexed db) :
    ObligationsIndexed (syncObligation loaded orderId item db) := by
  unfold ObligationsIndexed syncObligation
  rw [linkPayment_obligations]
  exact upsertObligation_indexed h

theorem foldl_syncObligation_indexed (items : List DesiredObligation) (h : ObligationsIndexed db) :
    ObligationsIndexed (items.foldl (fun s item => syncObligation loaded orderId item s) db) := by
  induction items generalizing db with
  | nil =>
      exact h
  | cons item items ih =>
      exact ih (syncObligation_indexed h)

theorem syncOrderPaymentObligations_indexed (h : ObligationsIndexed db) :
    ObligationsIndexed (syncOrderPaymentObligations orderId db) := by
  unfold syncOrderPaymentObligations
  cases db.orders.findUnique orderId with
  | none =>
      exact h
  | some order =>
      have hfirst : ObligationsIndexed (retireObligations (isUnconfirmedFee db orderId) db) :=
        h.updateMany fun _ => rfl
      exact (foldl_syncObligation_indexed _ hfirst).updateMany fun _ => rfl

/-! ## No payment appears -/

theorem linkPayment_size (payment : Option (Id × Payment)) (obligationId : Id) (db : Db) :
    (linkPayment payment obligationId db).payments.size = db.payments.size := by
  unfold linkPayment
  cases payment with
  | none =>
      rfl
  | some e =>
      simp only
      split
      · rfl
      · exact Table.size_update _ _ _

theorem upsertObligation_payments (item : DesiredObligation) (status : PaymentObligationStatus)
    (db : Db) :
    (upsertObligation item status db).2.payments = db.payments := by
  unfold upsertObligation
  cases obligationByKey db item.obligationKey <;> rfl

theorem foldl_syncObligation_size (items : List DesiredObligation) (db : Db) :
    (items.foldl (fun s item => syncObligation loaded orderId item s) db).payments.size =
      db.payments.size := by
  induction items generalizing db with
  | nil =>
      rfl
  | cons item items ih =>
      rw [List.foldl_cons, ih]
      unfold syncObligation
      rw [linkPayment_size, upsertObligation_payments]

theorem syncOrderPaymentObligations_size (orderId : Id) (db : Db) :
    (syncOrderPaymentObligations orderId db).payments.size = db.payments.size := by
  unfold syncOrderPaymentObligations
  cases db.orders.findUnique orderId with
  | none =>
      rfl
  | some order =>
      exact foldl_syncObligation_size _ _

/-! ## The lookup -/

theorem obligationByKey_of_findUnique (h : ObligationsIndexed db)
    (hb : db.obligations.findUnique o = some b) :
    obligationByKey db b.obligationKey = some (o, b) := by
  unfold obligationByKey
  rw [Table.findFirst_eq_some_iff]
  refine ⟨hb, by simp, ?_⟩
  intro j c hj hc
  have hdiffer := h j o c b hc hb (Nat.ne_of_lt hj)
  simpa [sameObligationKey] using hdiffer

theorem PaymentObligation.obligationKey_eq (h : b.type ≠ .inspector) :
    b.obligationKey = .ofType b.orderId b.type := by
  obtain ⟨horder, htype⟩ := b.keyed
  cases hkey : b.obligationKey with
  | ofType orderId type =>
      rw [hkey] at horder htype
      rw [← horder, ← htype]
      rfl
  | inspection orderId requestId =>
      rw [hkey] at htype
      exact absurd htype.symm h
  | inspectionShare orderId requestId role =>
      rw [hkey] at htype
      exact absurd htype.symm h

def PaymentObligation.sameShare (b c : PaymentObligation) : Bool :=
  c.orderId = b.orderId && c.type = .inspector &&
    c.inspectionRequestId = b.inspectionRequestId && c.payerId = b.payerId

/-- No earlier inspection obligation has the request and the payer of this one. -/
def IsFirstShare (db : Db) (o : Id) (b : PaymentObligation) : Prop :=
  b.type = .inspector -> forall o' b', o' < o -> db.obligations.findUnique o' = some b' ->
    b.sameShare b' = false

theorem findPaymentObligation_cases (h : ObligationsIndexed db)
    (hb : db.obligations.findUnique o = some b) :
    exists o' b', findPaymentObligation db b.orderId b.type b.inspectionRequestId
        (some b.payerId) = some (o', b') ∧
      ((o' = o ∧ b' = b ∧ IsFirstShare db o b) ∨ (o' ≠ o ∧ ¬ IsFirstShare db o b)) := by
  unfold findPaymentObligation
  by_cases htype : b.type = .inspector
  · have hself : b.sameShare b = true := by simp [PaymentObligation.sameShare, htype]
    cases hfind : db.obligations.findFirst fun _ c => b.sameShare c with
    | none =>
        have hnot : b.sameShare b = false := Table.findFirst_eq_none_iff.mp hfind o b hb
        rw [hself] at hnot
        cases hnot
    | some e =>
        obtain ⟨o', b'⟩ := e
        obtain ⟨hb', hsame, hbefore⟩ := Table.findFirst_eq_some_iff.mp hfind
        refine ⟨o', b', ?_, ?_⟩
        · rw [if_pos htype]
          have hpayer : (db.obligations.findFirst fun _ c =>
              decide (c.orderId = b.orderId) && decide (c.type = PaymentType.inspector) &&
                decide (c.inspectionRequestId = b.inspectionRequestId) &&
                decide (c.payerId = b.payerId)) = some (o', b') := hfind
          simp only [hpayer, Option.some_or]
        · by_cases hoo : o' = o
          · subst hoo
            have heq : b' = b := by
              rw [hb'] at hb
              exact Option.some.inj hb
            exact Or.inl ⟨rfl, heq, fun _ j c hj hc => hbefore j c hj hc⟩
          · have hlt : o' < o := by
              rcases Nat.lt_or_gt_of_ne hoo with hlt | hgt
              · exact hlt
              · have hnot : b.sameShare b = false := hbefore o b hgt hb
                rw [hself] at hnot
                cases hnot
            refine Or.inr ⟨hoo, fun hfirst => ?_⟩
            have hnot := hfirst htype o' b' hlt hb'
            rw [hsame] at hnot
            cases hnot
  · have hkey := b.obligationKey_eq htype
    refine ⟨o, b, ?_, Or.inl ⟨rfl, rfl, fun hinspector => absurd hinspector htype⟩⟩
    rw [if_neg htype, ← hkey]
    exact obligationByKey_of_findUnique h hb

/-! ## Paying an open obligation -/

/--
A call that pays an obligation of a running order: the obligation is open after
the synchronisation, no attempt to pay it is under way or has succeeded, and
the gates of transport and inspection payments pass.
-/
structure AsksToPay (data : CreatePaymentData) (o : Id) (b : PaymentObligation) (db : Db) :
    Prop where
  found : (syncOrderPaymentObligations b.orderId db).obligations.findUnique o = some b
  isOpen : b.status = .open
  active : exists order, db.orders.findUnique b.orderId = some order ∧
    order.status ∉ [OrderStatus.disputed, .completed, .cancelled]
  noAttempt : forall i p,
    (syncOrderPaymentObligations b.orderId db).payments.findUnique i = some p ->
    p.obligationId = some o -> p.status ∉ [PaymentStatus.pending, .processing, .paid]
  type : data.type = b.type
  order : data.orderId = some b.orderId
  payer : data.createdById = some b.payerId
  amount : data.amount = .finite b.amount
  inspection : data.inspectionRequestId = b.inspectionRequestId
  job : data.transportJobId = b.transportJobId
  transportGate : assertTransportPayable data b.amount db = .ok ()
  inspectionGate : assertInspectionPayable data db = .ok ()

/-- The call succeeds with a payment that was not there and is linked to the obligation. -/
def LinksNewPayment (env : Env) (data : CreatePaymentData) (o : Id) (db : Db) : Prop :=
  exists db' paymentId payment,
    createPayment env data db = .ok (db', paymentId) ∧
    db.payments.findUnique paymentId = none ∧
    db'.payments.findUnique paymentId = some payment ∧
    payment.obligationId = some o

/--
What the call needs besides: an amount, an unused idempotency key, an obligation
that no payment row holds and that the lookup does not miss, and a transport job
that no unsettled payment holds.
-/
structure IsFreeToPay (data : CreatePaymentData) (o : Id) (b : PaymentObligation) (db : Db) :
    Prop where
  amount : 0 < b.amount
  freshKey : paymentOfKey db data = none
  unlinked : holdsObligation (syncOrderPaymentObligations b.orderId db) o = false
  jobFree : b.type = .transport -> forall jobId, b.transportJobId = some jobId ->
    jobIsHeld (syncOrderPaymentObligations b.orderId db) jobId = false
  firstShare : IsFirstShare (syncOrderPaymentObligations b.orderId db) o b

theorem not_linksNewPayment_of_existing {i : Id} {p : Payment}
    (hcall : createPayment env data db = .ok (db, i)) (hi : db.payments.findUnique i = some p) :
    ¬ LinksNewPayment env data o db := by
  rintro ⟨db', paymentId, payment, hok, hnew, -⟩
  rw [hcall, Except.ok.injEq, Prod.mk.injEq] at hok
  rw [← hok.2, hi] at hnew
  cases hnew

theorem not_linksNewPayment_of_error {e : ApiError} (hcall : createPayment env data db = .error e) :
    ¬ LinksNewPayment env data o db := by
  rintro ⟨db', paymentId, payment, hok, -⟩
  rw [hcall] at hok
  cases hok

theorem recoverConflict_cases (data : CreatePaymentData) (index : PaymentIndex) (db : Db) :
    (exists e, recoverConflict data index db = .error e) ∨
      exists i p, recoverConflict data index db = .ok (db, i) ∧
        db.payments.findUnique i = some p := by
  unfold recoverConflict
  split
  · split
    · exact Or.inl ⟨_, rfl⟩
    · next i p hfound =>
        split
        · exact Or.inr ⟨i, p, rfl, (Table.findFirst_eq_some hfound).1⟩
        · exact Or.inl ⟨_, rfl⟩
  · exact Or.inl ⟨_, rfl⟩

theorem assertObligationPayable_open (hb : b.status = .open) :
    assertObligationPayable b.amount b = .ok () := by
  unfold assertObligationPayable
  rw [moneyEqual_self, if_neg (by rw [hb]; decide), if_pos rfl]

theorem violatedIndex_eq_none_iff (db : Db) (row : Payment) :
    violatedIndex db row = none ↔
      (forall o, row.obligationId = some o -> holdsObligation db o = false) ∧
      (row.type = .transport -> forall jobId, row.transportJobId = some jobId ->
        jobIsHeld db jobId = false) := by
  unfold violatedIndex
  constructor
  · intro h
    split at h
    · cases h
    · next hlink =>
        split at h
        · cases h
        · next hjob =>
            constructor
            · intro o ho
              simpa [ho] using hlink
            · intro htype jobId hjobId
              simpa [htype, hjobId] using hjob
  · rintro ⟨hlink, hjob⟩
    have hlinked : ¬ (row.obligationId.any fun o => holdsObligation db o) = true := by
      rw [Option.any_eq_true]
      rintro ⟨o, ho, hheld⟩
      rw [hlink o ho] at hheld
      cases hheld
    have hheldJob : ¬ (row.type = .transport ∧
        (row.transportJobId.any fun jobId => jobIsHeld db jobId) = true) := by
      rintro ⟨htype, hany⟩
      rw [Option.any_eq_true] at hany
      obtain ⟨jobId, hjobId, hheld⟩ := hany
      rw [hjob htype jobId hjobId] at hheld
      cases hheld
    rw [if_neg hlinked, if_neg hheldJob]

/-- What the call does once the gates have passed and an obligation has been found. -/
theorem createIntent_of_gates {env : Env} {data : CreatePaymentData} {o o' : Id}
    {b b' : PaymentObligation} {db : Db} (h : AsksToPay data o b db)
    (hfind : findPaymentObligation (syncOrderPaymentObligations b.orderId db) b.orderId b.type
      b.inspectionRequestId (some b.payerId) = some (o', b')) :
    createIntent env data b.amount db =
      (do
        assertObligationPayable b.amount b'
        let row := data.row env b.amount (some o')
        let synced := syncOrderPaymentObligations b.orderId db
        match violatedIndex synced row with
        | none => .ok ({ synced with payments := synced.payments.create row }, synced.payments.size)
        | some index => recoverConflict data index db) := by
  unfold createIntent
  rw [h.transportGate, h.inspectionGate, ok_bind, ok_bind]
  unfold claimObligation
  simp only [h.order, h.type, h.inspection, h.payer, hfind]
  cases assertObligationPayable b.amount b' <;> rfl

/-- Whether the call links its payment depends on the rows that it meets. -/
theorem linksNewPayment_of_intent_iff (hindexed : ObligationsIndexed db)
    (h : AsksToPay data o b db)
    (hcall : createPayment env data db = createIntent env data b.amount db) :
    LinksNewPayment env data o db ↔
      IsFirstShare (syncOrderPaymentObligations b.orderId db) o b ∧
        violatedIndex (syncOrderPaymentObligations b.orderId db)
          (data.row env b.amount (some o)) = none := by
  obtain ⟨o', b', hfind, hcases⟩ :=
    findPaymentObligation_cases (syncOrderPaymentObligations_indexed hindexed) h.found
  rw [createIntent_of_gates h hfind] at hcall
  cases hpayable : assertObligationPayable b.amount b' with
  | error e =>
      rw [hpayable, error_bind] at hcall
      have hnot : ¬ LinksNewPayment env data o db := not_linksNewPayment_of_error hcall
      rcases hcases with ⟨rfl, rfl, -⟩ | ⟨-, hlater⟩
      · rw [assertObligationPayable_open h.isOpen] at hpayable
        cases hpayable
      · exact ⟨fun hlinks => absurd hlinks hnot, fun hfree => absurd hfree.1 hlater⟩
  | ok u =>
      rw [hpayable, ok_bind] at hcall
      cases hindex : violatedIndex (syncOrderPaymentObligations b.orderId db)
          (data.row env b.amount (some o')) with
      | some index =>
          simp only [hindex] at hcall
          have hnot : ¬ LinksNewPayment env data o db := by
            rcases recoverConflict_cases data index db with ⟨e, he⟩ | ⟨i, p, hok, hi⟩
            · exact not_linksNewPayment_of_error (hcall.trans he)
            · exact not_linksNewPayment_of_existing (hcall.trans hok) hi
          refine ⟨fun hlinks => absurd hlinks hnot, ?_⟩
          rintro ⟨hfirst, hnone⟩
          rcases hcases with ⟨rfl, rfl, -⟩ | ⟨-, hlater⟩
          · rw [hindex] at hnone
            cases hnone
          · exact absurd hfirst hlater
      | none =>
          simp only [hindex] at hcall
          rcases hcases with ⟨rfl, rfl, hfirst⟩ | ⟨hother, hlater⟩
          · have hnew : db.payments.findUnique
                (syncOrderPaymentObligations b'.orderId db).payments.size = none := by
              rw [syncOrderPaymentObligations_size]
              exact Table.findUnique_size _
            exact iff_of_true
              ⟨_, _, _, hcall, hnew, Table.findUnique_create_self _ _, rfl⟩ ⟨hfirst, hindex⟩
          · refine iff_of_false ?_ fun hfree => hlater hfree.1
            rintro ⟨db', paymentId, payment, hok, -, hread, hlinked⟩
            rw [hcall, Except.ok.injEq, Prod.mk.injEq] at hok
            obtain ⟨rfl, rfl⟩ := hok
            rw [Table.findUnique_create_self, Option.some.injEq] at hread
            rw [← hread] at hlinked
            exact hother (Option.some.inj hlinked)

theorem linksNewPayment_iff (hindexed : ObligationsIndexed db) (h : AsksToPay data o b db) :
    LinksNewPayment env data o db ↔ IsFreeToPay data o b db := by
  by_cases hamount : 0 < b.amount
  · cases hkey : paymentOfKey db data with
    | some e =>
        obtain ⟨i, p⟩ := e
        have hi : db.payments.findUnique i = some p := by
          unfold paymentOfKey at hkey
          split at hkey
          · exact (Table.findFirst_eq_some hkey).1
          · cases hkey
        have hnot : ¬ LinksNewPayment env data o db := by
          by_cases hbound : data.type = .transport ∧ data.transportQuoteId.isSome ∧
              p.transportQuoteId ≠ data.transportQuoteId
          · apply not_linksNewPayment_of_error
            · simp only [createPayment, h.amount, if_neg (not_le.mpr hamount), hkey,
                if_pos hbound]
              rfl
          · apply not_linksNewPayment_of_existing _ hi
            simp only [createPayment, h.amount, if_neg (not_le.mpr hamount), hkey, if_neg hbound]
        refine ⟨fun hlinks => absurd hlinks hnot, fun hfree => ?_⟩
        have hfresh := hfree.freshKey
        rw [hkey] at hfresh
        cases hfresh
    | none =>
        have hcall : createPayment env data db = createIntent env data b.amount db := by
          simp only [createPayment, h.amount, if_neg (not_le.mpr hamount), hkey]
        rw [linksNewPayment_of_intent_iff hindexed h hcall, violatedIndex_eq_none_iff]
        constructor
        · rintro ⟨hfirst, hunlinked, hjob⟩
          have hjobFree : b.type = .transport -> forall jobId, b.transportJobId = some jobId ->
              jobIsHeld (syncOrderPaymentObligations b.orderId db) jobId = false := by
            intro htype jobId hjobId
            exact hjob (h.type.trans htype) jobId (h.job.trans hjobId)
          exact ⟨hamount, hkey, hunlinked o rfl, hjobFree, hfirst⟩
        · intro hfree
          refine ⟨hfree.firstShare, ?_, ?_⟩
          · intro o' ho
            rw [← Option.some.inj ho]
            exact hfree.unlinked
          · intro htype jobId hjobId
            exact hfree.jobFree (h.type.symm.trans htype) jobId (h.job.symm.trans hjobId)
  · have hcall : exists e, createPayment env data db = .error e := by
      simp only [createPayment, h.amount, if_pos (not_lt.mp hamount)]
      exact ⟨_, rfl⟩
    obtain ⟨e, he⟩ := hcall
    exact iff_of_false (not_linksNewPayment_of_error he) fun hfree => hamount hfree.amount

/-! ## Runs -/

/-- A step of the market, or one of the two operations on obligations. -/
inductive ObligationStep where
  | market (step : MarketStep)
  | sync (orderId : Id)
  | create (data : CreatePaymentData)

namespace ObligationStep

def exec (db : Db) (a : Env × ObligationStep) : Db :=
  match a.2 with
  | market step => MarketStep.step db (a.1, step)
  | sync orderId => syncOrderPaymentObligations orderId db
  | create data =>
      match createPayment a.1 data db with
      | .ok (db, _) => db
      | .error _ => db

/-- The database refuses a transaction that leaves two obligations with one key. -/
def step (db : Db) (a : Env × ObligationStep) : Db :=
  if hasDuplicateKey (exec db a) then db else exec db a

theorem step_indexed (db : Db) (a : Env × ObligationStep) (h : ObligationsIndexed db) :
    ObligationsIndexed (step db a) := by
  unfold step
  cases hduplicate : hasDuplicateKey (exec db a) with
  | true =>
      exact h
  | false =>
      exact (hasDuplicateKey_eq_false_iff _).mp hduplicate

end ObligationStep

def OpenObligationsPayable (start : Db) : Prop :=
  forall (steps : List (Env × ObligationStep)) (env : Env) (data : CreatePaymentData) (o : Id)
    (b : PaymentObligation),
    AsksToPay data o b (run ObligationStep.step start steps) ->
    LinksNewPayment env data o (run ObligationStep.step start steps)

/--
In every reachable state, a call that pays an open obligation creates and links
its payment exactly if the obligation is free to be paid.
-/
theorem linksNewPayment_reachable_iff {start : Db} (hstart : ObligationsIndexed start)
    (steps : List (Env × ObligationStep)) {env : Env} {data : CreatePaymentData} {o : Id}
    {b : PaymentObligation} (h : AsksToPay data o b (run ObligationStep.step start steps)) :
    LinksNewPayment env data o (run ObligationStep.step start steps) ↔
      IsFreeToPay data o b (run ObligationStep.step start steps) :=
  linksNewPayment_iff (run_preserves ObligationStep.step_indexed hstart steps) h

section TransportFee

/-- A paid order whose transporter has been accepted. -/
def transportFeeDb : Db :=
  { orders := Table.empty.create
      { listingId := 0
        buyerId := 1
        sellerId := 2
        finalPrice := 500
        quantity := 1
        status := .confirmed }
    transportJobs := Table.empty.create
      { orderId := 0
        method := .hireTransporter
        truckOwnerId := some 3
        truckId := some 0
        agreedAmount := some 100
        status := .accepted }
    transportQuotes := Table.empty.create
      { transportJobId := 0
        truckOwnerId := 3
        truckId := 0
        amount := 100
        status := .accepted }
    trucks := Table.empty.create
      { ownerId := 3 } }

def transportFee : CreatePaymentData :=
  { type := .transport
    amount := .finite 100
    orderId := some 0
    createdById := some 1
    transportJobId := some 0
    transportQuoteId := some 0 }

def transportFeeObligation : PaymentObligation :=
  { orderId := 0
    type := .transport
    transportJobId := some 0
    payerId := 1
    beneficiaryId := some 3
    amount := 100 }

theorem transportFeeDb_indexed : ObligationsIndexed transportFeeDb :=
  Table.unique_empty _

theorem transportFee_asks : AsksToPay transportFee 0 transportFeeObligation transportFeeDb := by
  have hnone : (syncOrderPaymentObligations 0 transportFeeDb).payments = .empty := by
    decide +kernel
  have hattempt : forall i p,
      (syncOrderPaymentObligations 0 transportFeeDb).payments.findUnique i = some p ->
      p.obligationId = some 0 ->
      p.status ∉ [PaymentStatus.pending, .processing, .paid] := by
    intro i p hp
    rw [hnone, Table.findUnique_empty] at hp
    cases hp
  exact
    { found := by decide +kernel
      isOpen := rfl
      active := ⟨_, rfl, by decide⟩
      noAttempt := hattempt
      type := rfl
      order := rfl
      payer := rfl
      amount := rfl
      inspection := rfl
      job := rfl
      transportGate := by decide +kernel
      inspectionGate := rfl }

/-- The first payment of the fee is linked to its obligation. -/
theorem transportFee_linked :
    LinksNewPayment env0 transportFee 0 transportFeeDb := by
  have hfree : IsFreeToPay transportFee 0 transportFeeObligation transportFeeDb :=
    { amount := by decide
      freshKey := rfl
      unlinked := by decide +kernel
      jobFree := by
        intro _ jobId hjob
        rw [← Option.some.inj hjob]
        decide +kernel
      firstShare := by
        intro hinspector
        cases hinspector }
  exact (linksNewPayment_reachable_iff transportFeeDb_indexed [] transportFee_asks).mpr hfree

def feeRefunded : List (Env × ObligationStep) :=
  [(env0, .create transportFee),
    (env0, .market (.checkout (.start 0))),
    (env0, .market (.settlePayment
      { paymentId := 0
        status := .paid
        amount := some (.finite 100) })),
    (env0, .market (.refund (.request 0 none none (some 9))))]

def arrangedOrder : Order :=
  { listingId := 0
    buyerId := 1
    sellerId := 2
    finalPrice := 500
    quantity := 1
    status := .transportArranged }

/-- The refunded payment keeps the obligation, so the open fee cannot be paid again. -/
theorem refunded_fee_blocks_obligation :
    ObligationsIndexed transportFeeDb ∧ ¬ OpenObligationsPayable transportFeeDb := by
  refine ⟨transportFeeDb_indexed, ?_⟩
  intro hpayable
  have hpayments : (syncOrderPaymentObligations 0
      (run ObligationStep.step transportFeeDb feeRefunded)).payments =
        .create .empty { transportFee.row env0 100 (some 0) with status := .refundPending } := by
    decide +kernel
  have hattempt : forall i p,
      (syncOrderPaymentObligations 0
        (run ObligationStep.step transportFeeDb feeRefunded)).payments.findUnique i = some p ->
      p.obligationId = some 0 ->
      p.status ∉ [PaymentStatus.pending, .processing, .paid] := by
    intro i p hp _
    rw [hpayments] at hp
    have hi : i < 1 := Table.lt_size_of_findUnique hp
    obtain rfl : i = 0 := by omega
    obtain rfl := Option.some.inj hp
    decide
  have hasks : AsksToPay transportFee 0 transportFeeObligation
      (run ObligationStep.step transportFeeDb feeRefunded) :=
    { found := by decide +kernel
      isOpen := rfl
      active := ⟨arrangedOrder, by decide +kernel, by decide⟩
      noAttempt := hattempt
      type := rfl
      order := rfl
      payer := rfl
      amount := rfl
      inspection := rfl
      job := rfl
      transportGate := by decide +kernel
      inspectionGate := rfl }
  have hrefused : createPayment env0 transportFee
      (run ObligationStep.step transportFeeDb feeRefunded) = .error uniqueConstraintError := by
    decide +kernel
  exact not_linksNewPayment_of_error hrefused (hpayable feeRefunded env0 transportFee 0
    transportFeeObligation hasks)

end TransportFee

end MarketBridge
