import MarketBridge.Payment.InFlight
import MarketBridge.Payment.ObligationSync
import MarketBridge.Payment.SettlementExits

/-!
# Nobody pays the same thing twice

The duplicate check of `POST /payments` reads before the transaction that creates the
row, with filters that the body chooses, and a payment that has failed can still be
settled.  As long as no payment is created, and none is revived, beside another one of
its payer for the same purpose, at most one of them is ever paid without a refund.
-/

namespace MarketBridge

open Relational

/-! ## Purposes -/

/-- What somebody pays for. -/
inductive PaidPurpose where
  | goods (orderId : Id)
  | transport (transportJobId : Id)
  | inspectionFee (inspectionRequestId : Id)
  | campaign (advertisementId : Id)
  | digital (digitalProductId : Id)
deriving DecidableEq, Repr

/-- An installment, and an attempt that was replaced, is for the purpose of its plan. -/
def Payment.purpose (p : Payment) : Option PaidPurpose :=
  match p.type with
  | .marketplace => p.orderId.map .goods
  | .transport => p.transportJobId.map .transport
  | .inspector => p.inspectionRequestId.map .inspectionFee
  | .advertising => p.advertisementId.map .campaign
  | .digital => p.digitalProductId.map .digital
  | .marketplaceInstallment => none

def CreatePaymentData.purpose (data : CreatePaymentData) : Option PaidPurpose :=
  match data.type with
  | .marketplace => data.orderId.map .goods
  | .transport => data.transportJobId.map .transport
  | .inspector => data.inspectionRequestId.map .inspectionFee
  | .advertising => data.advertisementId.map .campaign
  | .digital => data.digitalProductId.map .digital
  | .marketplaceInstallment => none

theorem CreatePaymentData.row_purpose (env : Env) (data : CreatePaymentData) (amount : ℚ)
    (obligationId : Option Id) :
    (data.row env amount obligationId).purpose = data.purpose :=
  rfl

/-! ## Sessions -/

/-- The server with its database, and the payments that have ever been paid. -/
structure PaymentSession where
  server : Server PaymentWrite ApiError Db
  paid : List Id := []

inductive PaymentStep where
  | post (caller : Caller) (body : PaymentBody)
  | initializePayment (caller : Caller) (paymentId : Id)
  | settle (args : SettleArgs)
  | finalizePlan (paymentId : Id)
  | createChildren (paymentId : Id)
  /-- The next statement of a request. -/
  | advance (k : Nat)
  /-- The provider opens the checkout of a request, or refuses. -/
  | answer (k : Nat) (opened : Bool)
  | requestRefund (refund : PaymentRefund)
  /-- Something else writes the other tables. -/
  | elsewhere (other : Db)

namespace PaymentSession

def db (s : PaymentSession) : Db :=
  s.server.state

def observe (s : PaymentSession) : PaymentSession :=
  { s with
    paid := s.paid ++
      (s.db.payments.findMany fun i p => p.status = .paid && !s.paid.contains i).map Prod.fst }

def submit (s : PaymentSession) (r : PaymentRequest) : PaymentSession :=
  { s with server := s.server.submit r }

def setDb (s : PaymentSession) (db : Db) : PaymentSession :=
  { s with server := { s.server with state := db } }

/-- A step before the log is written. -/
def act (origins : Id -> InspectionOrigin) (s : PaymentSession) (a : Env × PaymentStep) :
    PaymentSession :=
  match a.2 with
  | .post caller body => s.submit (body.request origins a.1 caller)
  | .initializePayment caller paymentId => s.submit (initializeRequest a.1 caller paymentId)
  | .settle args => s.submit (settleRequest a.1 args)
  | .finalizePlan paymentId => s.submit (finalizeRequest a.1 paymentId)
  | .createChildren paymentId => s.submit (childrenRequest paymentId)
  | .advance k => { s with server := s.server.advance k }
  | .answer k opened => { s with server := s.server.answer k opened }
  | .requestRefund refund => s.setDb { s.db with refunds := s.db.refunds.create refund }
  | .elsewhere other =>
      s.setDb { other with
        payments := s.db.payments
        refunds := s.db.refunds }

def step (origins : Id -> InspectionOrigin) (s : PaymentSession) (a : Env × PaymentStep) :
    PaymentSession :=
  (s.act origins a).observe

/-! ## Statements -/

def refundRequested (s : PaymentSession) (i : Id) : Bool :=
  s.db.refunds.any fun _ r => r.paymentId = i

def HasPaid (s : PaymentSession) (i : Id) (p : Payment) : Prop :=
  s.db.payments.findUnique i = some p ∧ i ∈ s.paid ∧ p.purpose ≠ none ∧ s.refundRequested i = false

def PaysOnce (s : PaymentSession) : Prop :=
  forall i j p q, s.HasPaid i p -> s.HasPaid j q -> p.createdById = q.createdById ->
    p.purpose = q.purpose -> i = j

/-- The payment is active or has been paid, for a purpose and without a refund. -/
def counts (s : PaymentSession) (i : Id) (p : Payment) : Bool :=
  p.purpose.isSome && (p.status.isActive || s.paid.contains i) && !s.refundRequested i

def hasRival (s : PaymentSession) (payer : Option Id) (purpose : Option PaidPurpose) : Bool :=
  s.db.payments.any fun i p => p.createdById = payer && p.purpose = purpose && s.counts i p

/--
A write creates no payment beside one that counts, and makes none active beside one that
counts unless it counts itself or its refund was requested.
-/
def mayPublish (s : PaymentSession) : PaymentWrite -> Bool
  | .create data => !s.hasRival data.createdById data.purpose
  | .settle args =>
      !args.status.isActive ||
        (s.db.payments.findUnique args.paymentId).all fun p =>
          s.counts args.paymentId p || s.refundRequested args.paymentId ||
            !s.hasRival p.createdById p.purpose
  | .other => true

def publishes (s : PaymentSession) (a : Env × PaymentStep) : Option PaymentWrite :=
  match a.2 with
  | .advance k => s.server.publishes k
  | _ => none

def Exclusive (s : PaymentSession) (a : Env × PaymentStep) : Prop :=
  (s.publishes a).all s.mayPublish = true

/-- No request is in flight, and nobody has a payment. -/
structure IsFresh (s : PaymentSession) : Prop where
  active : s.server.active = []
  payments : s.db.payments = .empty
  paid : s.paid = []

end PaymentSession

/-! ## Writes -/

/-- A payment keeps payer and purpose, and is active only if it was or is the revived one. -/
structure PaymentMoved (revived : Option Id) (i : Id) (p p' : Payment) : Prop where
  payer : p'.createdById = p.createdById
  purpose : p'.purpose = p.purpose
  active : p'.status.isActive = true -> p.status.isActive = true ∨ revived = some i

/-- The payments are moved, and rows without a purpose may be added. -/
structure PurposesMoved (revived : Option Id) (db db' : Db) : Prop where
  kept : forall i p, db.payments.findUnique i = some p ->
    exists p', db'.payments.findUnique i = some p' ∧ PaymentMoved revived i p p'
  fresh : forall i p', db.payments.findUnique i = none -> db'.payments.findUnique i = some p' ->
    p'.purpose = none
  refunds : db'.refunds = db.refunds

/-- The payments are moved, and one with the payer and the purpose of the data is created. -/
def PaymentInserted (data : CreatePaymentData) (db db' : Db) : Prop :=
  exists moved row, PurposesMoved none db moved ∧ row.createdById = data.createdById ∧
    row.purpose = data.purpose ∧ db'.payments = moved.payments.create row ∧
    db'.refunds = moved.refunds

def SettleArgs.revived (args : SettleArgs) : Option Id :=
  if args.status.isActive then some args.paymentId else none

def PaymentWrite.Allowed : PaymentWrite -> (Db -> Db) -> Prop
  | .create data, own => forall db, PaymentInserted data db (own db)
  | .settle args, own => forall db, PurposesMoved args.revived db (own db)
  | .other, own => forall db, PurposesMoved none db (own db)

variable {revived : Option Id} {db db' db'' : Db} {i : Id} {p p' p'' : Payment}

theorem PaymentMoved.refl (i : Id) (p : Payment) : PaymentMoved revived i p p :=
  ⟨rfl, rfl, Or.inl⟩

theorem PaymentMoved.trans (h : PaymentMoved revived i p p') (h' : PaymentMoved revived i p' p'') :
    PaymentMoved revived i p p'' := by
  refine ⟨h'.payer.trans h.payer, h'.purpose.trans h.purpose, fun hactive => ?_⟩
  rcases h'.active hactive with hbefore | hrevived
  · exact h.active hbefore
  · exact Or.inr hrevived

namespace PurposesMoved

theorem of_rel (h : db.payments.Rel (PaymentMoved revived) db'.payments)
    (hrefunds : db'.refunds = db.refunds) :
    PurposesMoved revived db db' := by
  refine ⟨fun i p hp => h.of_left hp, fun i p' hnone hp' => ?_, hrefunds⟩
  obtain ⟨p, hp, -⟩ := h.of_right hp'
  rw [hnone] at hp
  cases hp

theorem of_eq (hpayments : db'.payments = db.payments) (hrefunds : db'.refunds = db.refunds) :
    PurposesMoved revived db db' :=
  of_rel (hpayments ▸ .refl PaymentMoved.refl _) hrefunds

theorem refl (db : Db) : PurposesMoved revived db db :=
  of_eq rfl rfl

theorem trans (h : PurposesMoved revived db db') (h' : PurposesMoved revived db' db'') :
    PurposesMoved revived db db'' := by
  refine ⟨?_, ?_, h'.refunds.trans h.refunds⟩
  · intro i p hp
    obtain ⟨p', hp', hmoved⟩ := h.kept i p hp
    obtain ⟨p'', hp'', hmoved'⟩ := h'.kept i p' hp'
    exact ⟨p'', hp'', hmoved.trans hmoved'⟩
  · intro i p'' hnone hp''
    cases hp' : db'.payments.findUnique i with
    | none =>
        exact h'.fresh i p'' hp' hp''
    | some p' =>
        obtain ⟨last, hlast, hmoved⟩ := h'.kept i p' hp'
        obtain rfl := Option.some.inj (hlast.symm.trans hp'')
        exact hmoved.purpose.trans (h.fresh i p' hnone hp')

theorem cases (h : PurposesMoved revived db db') (hp' : db'.payments.findUnique i = some p') :
    (exists p, db.payments.findUnique i = some p ∧ PaymentMoved revived i p p') ∨
      p'.purpose = none := by
  cases hp : db.payments.findUnique i with
  | none =>
      exact Or.inr (h.fresh i p' hp hp')
  | some p =>
      obtain ⟨last, hlast, hmoved⟩ := h.kept i p hp
      obtain rfl := Option.some.inj (hlast.symm.trans hp')
      exact Or.inl ⟨p, rfl, hmoved⟩

end PurposesMoved

theorem updatePayment_moved {id : Id} {f : Payment -> Payment}
    (hf : forall p, PaymentMoved revived id p (f p)) (h : updatePayment id f db = .ok db') :
    PurposesMoved revived db db' := by
  obtain ⟨_, -, -, rfl⟩ := updatePayment_eq_ok_iff.1 h
  exact .of_rel (Table.rel_update PaymentMoved.refl fun p _ => hf p) rfl

/-! ## Discipline of the requests -/

theorem syncOrderPaymentObligations_moved (orderId : Id) (db : Db) :
    PurposesMoved revived db (syncOrderPaymentObligations orderId db) := by
  have hlinks := syncOrderPaymentObligations_linksOnly orderId db
  refine .of_rel (fun i => ?_) ?_
  · have hrow := hlinks.payments i
    cases hp : db.payments.findUnique i with
    | none =>
        rw [hp, Option.map_none] at hrow
        rw [Option.map_eq_none_iff.1 hrow]
        exact .none
    | some p =>
        rw [hp, Option.map_some] at hrow
        obtain ⟨p', hp', hsame⟩ := Option.map_eq_some_iff.1 hrow
        rw [hp']
        have hpayer : p'.unlinked.createdById = p.unlinked.createdById := by rw [hsame]
        have hpurpose : p'.unlinked.purpose = p.unlinked.purpose := by rw [hsame]
        have hstatus : p'.unlinked.status = p.unlinked.status := by rw [hsame]
        refine .some ⟨hpayer, hpurpose, fun hactive => Or.inl ?_⟩
        rw [show p'.status = p.status from hstatus] at hactive
        exact hactive
  · obtain ⟨_, _, hframe⟩ := hlinks.frame
    rw [hframe]

namespace CreatePaymentData

variable {env : Env} {data : CreatePaymentData} {amount : ℚ} {own : Db -> Db}

theorem insertTxn_commits {obligationId : Option Id}
    (hown : forall db, PurposesMoved none db (own db)) :
    (data.insertTxn env amount obligationId).Commits (PaymentWrite.Allowed (.create data)) own :=
  fun _ _ db =>
    ⟨own db, data.row env amount obligationId, hown db, rfl, data.row_purpose env amount _, rfl, rfl⟩

theorem claimTxn_commits (hown : forall db, PurposesMoved none db (own db)) :
    (data.claimTxn env amount).Commits (PaymentWrite.Allowed (.create data)) own := by
  unfold claimTxn
  split
  · exact insertTxn_commits hown
  · rename_i orderId _
    refine .write (.read fun db => ?_)
    have hsynced : forall db, PurposesMoved none db (syncOrderPaymentObligations orderId (own db)) :=
      fun db => (hown db).trans (syncOrderPaymentObligations_moved orderId (own db))
    split
    · exact insertTxn_commits hsynced
    · split
      · trivial
      · exact insertTxn_commits hsynced

theorem createTxn_commits :
    (data.createTxn env amount).Commits (PaymentWrite.Allowed (.create data)) id := by
  have hclaim : (data.inspectionTxn env amount).Commits (PaymentWrite.Allowed (.create data)) id :=
    .statement fun _ _ => claimTxn_commits .refl
  unfold createTxn
  split
  · split
    · trivial
    · exact .read fun _ => .statement fun _ _ => hclaim
  · exact hclaim

end CreatePaymentData

theorem onlyCreates : OnlyCreates PaymentWrite.Allowed := by
  refine ⟨fun env data amount => CreatePaymentData.createTxn_commits, fun id count db => ?_⟩
  exact commit_preserves (P := PurposesMoved none db) (.refl db) fun db' =>
    updatePayment_moved fun p => ⟨rfl, rfl, Or.inl⟩

/-! ## Installments and checkouts -/

theorem createInstallment_moved {row : Payment} (hrow : row.purpose = none) (db : Db) :
    PurposesMoved revived db { db with payments := createInstallment db.payments row } := by
  unfold createInstallment
  split
  · exact .refl db
  · refine ⟨fun i p hp => ⟨p, Table.findUnique_create_of_some hp, .refl i p⟩, ?_, rfl⟩
    intro i p' hnone hp'
    rw [Table.findUnique_create] at hp'
    split at hp'
    · rw [← Option.some.inj hp']
      exact hrow
    · rw [hnone] at hp'
      cases hp'

theorem createInstallments_moved {rows : List Payment} (hrows : forall row, row ∈ rows ->
    row.purpose = none) (db : Db) :
    PurposesMoved revived db { db with payments := rows.foldl createInstallment db.payments } := by
  induction rows generalizing db with
  | nil =>
      exact .refl db
  | cons row rows ih =>
      have hfirst : PurposesMoved revived db
          { db with payments := createInstallment db.payments row } :=
        createInstallment_moved (hrows row (List.mem_cons_self ..)) db
      have hrest := ih (fun q hq => hrows q (List.mem_cons_of_mem _ hq))
        { db with payments := createInstallment db.payments row }
      exact hfirst.trans hrest

theorem childrenRequest_writes (k : Id) : (childrenRequest k).Writes PaymentWrite.Allowed := by
  intro db
  dsimp only
  split
  · trivial
  · rename_i parent _
    intro db
    dsimp only
    split
    · trivial
    · refine ⟨createInstallments_moved fun row hrow => ?_, fun _ => trivial⟩
      obtain ⟨i, -, rfl⟩ := List.mem_map.1 hrow
      rfl

theorem movePaymentStatus_moved {source target : PaymentStatus} (i : Id)
    (hactive : target.isActive = true -> source.isActive = true) (db : Db) :
    PurposesMoved revived db (movePaymentStatus i source target db) := by
  refine .of_rel (Table.rel_updateMany PaymentMoved.refl fun j p _ hmove => ?_) rfl
  simp only [Bool.and_eq_true, decide_eq_true_eq] at hmove
  refine ⟨rfl, rfl, fun htarget => Or.inl ?_⟩
  rw [hmove.2]
  exact hactive htarget

theorem initializeRequest_writes (env : Env) (caller : Caller) (k : Id) :
    (initializeRequest env caller k).Writes PaymentWrite.Allowed := by
  intro db
  dsimp only
  split
  · trivial
  · split
    · trivial
    · intro db
      dsimp only
      split
      · trivial
      · refine ⟨movePaymentStatus_moved k fun _ => rfl, fun db => ?_⟩
        dsimp only
        split
        · intro opened
          dsimp only
          split
          · refine .attempt (fun db => ?_) fun _ => trivial
            exact commit_preserves (P := PurposesMoved none db) (.refl db) fun db' =>
              updatePayment_moved fun p => ⟨rfl, rfl, Or.inl⟩
          · exact ⟨movePaymentStatus_moved k fun _ => rfl, fun _ => trivial⟩
        · trivial

/-! ## Settlements -/

theorem Payment.flagged_moved (i : Id) (p : Payment) (args : SettleArgs) :
    PaymentMoved revived i p (p.flagged args) :=
  ⟨rfl, rfl, fun hactive => absurd hactive Bool.false_ne_true⟩

theorem Payment.settled_moved (args : SettleArgs) (p : Payment) :
    PaymentMoved args.revived args.paymentId p (p.settled args) := by
  refine ⟨rfl, rfl, fun hactive => Or.inr ?_⟩
  have hstatus : args.status.isActive = true := hactive
  rw [SettleArgs.revived, if_pos hstatus]

theorem recordOrderEvent_moved (env : Env) (orderId : Option Id) (type : OrderEventType) (db : Db) :
    PurposesMoved revived db (recordOrderEvent env orderId type db) := by
  obtain ⟨events, h⟩ := recordOrderEvent_frame env orderId type db
  rw [h]
  exact .of_eq rfl rfl

theorem createReconciliationIssue_moved {env : Env} {data : ReconciliationData}
    (h : createReconciliationIssue env data db = .ok db') :
    PurposesMoved revived db db' := by
  obtain ⟨-, rfl⟩ := createReconciliationIssue_eq_ok_iff.1 h
  have hframe := withIssue_effectsFrame env data db
  exact .of_eq hframe.payments hframe.refunds

theorem settleObligation_moved (args : SettleArgs) (r : PaymentRecord) (db : Db) :
    PurposesMoved revived db (settleObligation args r db) := by
  unfold settleObligation
  split
  · exact .of_rel (Table.rel_update PaymentMoved.refl fun p _ => ⟨rfl, rfl, Or.inl⟩) rfl
  · exact .of_eq rfl rfl

theorem createEvent_moved {args : SettleArgs} {r : PaymentRecord}
    (h : createEvent args r db = .ok db') :
    PurposesMoved revived db db' := by
  unfold createEvent at h
  split at h
  · rename_i registered hregister
    obtain rfl := Except.ok.inj h
    unfold registerEvent at hregister
    repeat' split at hregister
    all_goals
      first
        | (obtain rfl := Option.some.inj (Except.ok.inj hregister); exact .of_eq rfl rfl)
        | cases hregister
  · cases h

theorem settleTxn_within (env : Env) (args : SettleArgs) :
    (settleTxn env args).Within (PurposesMoved args.revived) := by
  have hflag : forall r reason, (flagTxn env args r reason).Within (PurposesMoved args.revived) := by
    intro r reason
    refine .call .refl (fun _ _ => createReconciliationIssue_moved) ?_
    split
    · exact .call .refl (fun _ _ => updatePayment_moved fun p => p.flagged_moved _ args) trivial
    · trivial
  have hprocess : forall db p,
      (processTxn env args (paymentRecord db args.paymentId p)).Within
        (PurposesMoved args.revived) := by
    intro db p
    unfold processTxn
    split
    · trivial
    · refine .call .refl (fun _ _ => updatePayment_moved fun p => p.settled_moved args) ?_
      refine .write (settleObligation_moved args _) (.write (recordOrderEvent_moved env _ _) ?_)
      refine .call .refl (fun db db' h => ?_) trivial
      have hframe := applyEffects_frame h
      exact .of_eq hframe.payments hframe.refunds
  refine .read .refl fun db => ?_
  split
  · trivial
  · rename_i p _
    split
    · exact hflag _ _
    · refine .read .refl fun db' => ?_
      split
      · trivial
      · trivial
      · exact .call .refl (fun _ _ => createEvent_moved) (hprocess db p)

theorem settleTxn_commits (env : Env) (args : SettleArgs) :
    (settleTxn env args).Commits (PaymentWrite.Allowed (.settle args)) id :=
  Txn.Within.commits (R := PurposesMoved args.revived) (fun _ _ _ => PurposesMoved.trans)
    (settleTxn_within env args) .refl

theorem reconcileTxn_commits (env : Env) (args : SettleArgs) :
    (reconcileTxn env args).Commits (PaymentWrite.Allowed .other) id := by
  have hwithin : (reconcileTxn env args).Within (PurposesMoved none) := by
    refine .read .refl fun db => ?_
    split
    · trivial
    · refine .call .refl (fun db db' h => ?_)
        (.call .refl (fun _ _ => createReconciliationIssue_moved) trivial)
      unfold flagForReconciliation at h
      split at h
      · obtain rfl := Except.ok.inj h
        exact .refl db
      · obtain ⟨_, -, hupdate⟩ := bind_eq_ok.1 h
        exact updatePayment_moved (fun p => p.flagged_moved _ args) hupdate
  exact Txn.Within.commits (R := PurposesMoved none) (fun _ _ _ => PurposesMoved.trans) hwithin .refl

theorem releaseRequest_writes (k : Id) : (releaseRequest k).Writes PaymentWrite.Allowed := by
  intro db
  dsimp only
  split
  · trivial
  · exact ⟨fun db => .of_eq rfl rfl, fun _ => trivial⟩

theorem finalizeRequest_writes (env : Env) (k : Id) :
    (finalizeRequest env k).Writes PaymentWrite.Allowed := by
  intro db
  dsimp only
  split
  · exact releaseRequest_writes k
  · exact ⟨settleTxn_commits env _, fun _ => releaseRequest_writes k⟩

theorem settleRequest_writes (env : Env) (args : SettleArgs) :
    (settleRequest env args).Writes PaymentWrite.Allowed := by
  have hafter : (afterSettlement env args.paymentId).Writes PaymentWrite.Allowed := by
    intro db
    dsimp only
    split
    · exact releaseRequest_writes args.paymentId
    · exact finalizeRequest_writes env _
  refine ⟨settleTxn_commits env args, fun settled => ?_⟩
  dsimp only
  split
  · exact hafter
  · split
    · refine ⟨reconcileTxn_commits env args, fun reconciled => ?_⟩
      dsimp only
      split
      · exact hafter
      · trivial
    · trivial

end MarketBridge
