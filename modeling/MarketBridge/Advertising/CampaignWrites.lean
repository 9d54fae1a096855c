import MarketBridge.Advertising.Campaign

/-!
# What the requests about campaigns write

Every write does what its label says to the database that it becomes visible in.  The
requests rely on one thing only: the type of a payment and its campaign never change.
-/

namespace MarketBridge

open Relational

/-! ## What is relied on -/

/-- The payments keep their type and their campaign, and no campaign goes away. -/
structure CampaignsEvolve (db db' : Db) : Prop where
  payments : forall i p, db.payments.findUnique i = some p ->
    exists p', db'.payments.findUnique i = some p' ∧ p'.type = p.type ∧
      p'.advertisementId = p.advertisementId
  advertisements : forall a ad, db.advertisements.findUnique a = some ad ->
    exists ad', db'.advertisements.findUnique a = some ad'

namespace CampaignsEvolve

variable {db db' db'' : Db}

theorem refl (db : Db) : CampaignsEvolve db db :=
  ⟨fun _ p hp => ⟨p, hp, rfl, rfl⟩, fun _ ad had => ⟨ad, had⟩⟩

theorem trans (h : CampaignsEvolve db db') (h' : CampaignsEvolve db' db'') :
    CampaignsEvolve db db'' := by
  refine ⟨?_, ?_⟩
  · intro i p hp
    obtain ⟨p', hp', htype, hcampaign⟩ := h.payments i p hp
    obtain ⟨p'', hp'', htype', hcampaign'⟩ := h'.payments i p' hp'
    exact ⟨p'', hp'', htype'.trans htype, hcampaign'.trans hcampaign⟩
  · intro a ad had
    obtain ⟨ad', had'⟩ := h.advertisements a ad had
    exact h'.advertisements a ad' had'

theorem of_rel {R : Nat -> Payment -> Payment -> Prop}
    {S : Nat -> Advertisement -> Advertisement -> Prop} (h : db.payments.Rel R db'.payments)
    (hR : forall i p p', R i p p' -> p'.type = p.type ∧ p'.advertisementId = p.advertisementId)
    (hads : db.advertisements.Rel S db'.advertisements) :
    CampaignsEvolve db db' := by
  refine ⟨?_, ?_⟩
  · intro i p hp
    obtain ⟨p', hp', hrow⟩ := h.of_left hp
    exact ⟨p', hp', hR i p p' hrow⟩
  · intro a ad had
    obtain ⟨ad', had', -⟩ := hads.of_left had
    exact ⟨ad', had'⟩

theorem of_advertisements {S : Nat -> Advertisement -> Advertisement -> Prop}
    (hpayments : db'.payments = db.payments)
    (hads : db.advertisements.Rel S db'.advertisements) :
    CampaignsEvolve db db' :=
  of_rel (R := fun _ p p' => p = p') (hpayments ▸ .refl (fun _ _ => rfl) _)
    (fun _ _ _ h => h ▸ ⟨rfl, rfl⟩) hads

end CampaignsEvolve

/-! ## Payments that are paid -/

/-- A payment keeps its campaign, and a campaign payment is paid if it was. -/
structure CampaignPaymentMoved (p p' : Payment) : Prop where
  type : p'.type = p.type
  advertisementId : p'.advertisementId = p.advertisementId
  paid : p.type = .advertising -> (p'.status = .paid ↔ p.status = .paid)

/-- No campaign and no refund is touched, and no campaign payment becomes or ceases to be paid. -/
structure CampaignsKept (db db' : Db) : Prop where
  kept : forall i p, db.payments.findUnique i = some p ->
    exists p', db'.payments.findUnique i = some p' ∧ CampaignPaymentMoved p p'
  fresh : forall i p', db.payments.findUnique i = none -> db'.payments.findUnique i = some p' ->
    p'.type = .advertising -> p'.status ≠ .paid
  refunds : db'.refunds = db.refunds
  advertisements : db'.advertisements = db.advertisements

theorem CampaignPaymentMoved.refl (p : Payment) : CampaignPaymentMoved p p :=
  ⟨rfl, rfl, fun _ => Iff.rfl⟩

theorem CampaignPaymentMoved.trans {p p' p'' : Payment} (h : CampaignPaymentMoved p p')
    (h' : CampaignPaymentMoved p' p'') :
    CampaignPaymentMoved p p'' :=
  ⟨h'.type.trans h.type, h'.advertisementId.trans h.advertisementId, fun htype =>
    (h'.paid (h.type.trans htype)).trans (h.paid htype)⟩

/-- A status other than `PAID` replaces another one. -/
theorem CampaignPaymentMoved.withStatus {p p' : Payment} (htype : p'.type = p.type)
    (had : p'.advertisementId = p.advertisementId) (hafter : p'.status ≠ .paid)
    (hbefore : p.type = .advertising -> p.status ≠ .paid) :
    CampaignPaymentMoved p p' :=
  ⟨htype, had, fun hadvertising => iff_of_false hafter (hbefore hadvertising)⟩

namespace CampaignsKept

variable {db db' db'' : Db}

theorem of_rel (h : db.payments.Rel (fun _ => CampaignPaymentMoved) db'.payments)
    (hrefunds : db'.refunds = db.refunds) (hads : db'.advertisements = db.advertisements) :
    CampaignsKept db db' := by
  refine ⟨fun i p hp => h.of_left hp, fun i p' hnone hp' => ?_, hrefunds, hads⟩
  obtain ⟨p, hp, -⟩ := h.of_right hp'
  rw [hnone] at hp
  cases hp

theorem of_eq (hpayments : db'.payments = db.payments) (hrefunds : db'.refunds = db.refunds)
    (hads : db'.advertisements = db.advertisements) :
    CampaignsKept db db' :=
  of_rel (hpayments ▸ .refl (fun _ => .refl) _) hrefunds hads

theorem refl (db : Db) : CampaignsKept db db :=
  of_eq rfl rfl rfl

theorem trans (h : CampaignsKept db db') (h' : CampaignsKept db' db'') : CampaignsKept db db'' := by
  refine ⟨?_, ?_, h'.refunds.trans h.refunds, h'.advertisements.trans h.advertisements⟩
  · intro i p hp
    obtain ⟨p', hp', hmoved⟩ := h.kept i p hp
    obtain ⟨p'', hp'', hmoved'⟩ := h'.kept i p' hp'
    exact ⟨p'', hp'', hmoved.trans hmoved'⟩
  · intro i p'' hnone hp'' htype
    cases hp' : db'.payments.findUnique i with
    | none =>
        exact h'.fresh i p'' hp' hp'' htype
    | some p' =>
        obtain ⟨last, hlast, hmoved⟩ := h'.kept i p' hp'
        obtain rfl := Option.some.inj (hlast.symm.trans hp'')
        have hbefore : p'.type = .advertising := hmoved.type ▸ htype
        rw [Ne, hmoved.paid hbefore]
        exact h.fresh i p' hnone hp' hbefore

theorem evolves (h : CampaignsKept db db') : CampaignsEvolve db db' := by
  refine ⟨?_, fun a ad had => ⟨ad, h.advertisements ▸ had⟩⟩
  intro i p hp
  obtain ⟨p', hp', hmoved⟩ := h.kept i p hp
  exact ⟨p', hp', hmoved.type, hmoved.advertisementId⟩

end CampaignsKept

/-! ## What the labels mean -/

/-- What a write does to the database that it becomes visible in. -/
def CampaignWrite.Means : CampaignWrite -> Db -> Db -> Prop
  | .payment (.settle args), db, db' =>
      exists env, settlePaymentCore env args db = .ok db'
  | .payment _, db, db' => CampaignsKept db db'
  | .changeStatus env adId _ status rejectionReason, db, db' =>
      db' = MarketBridge.changeStatus env adId status rejectionReason db
  | .cancel env loaded, db, db' =>
      loaded.cancel env db = .ok db' ∧
        (exists ad, db.advertisements.findUnique loaded.adId = some ad) ∧
        forall i p, (i, p) ∈ loaded.payments -> exists q, db.payments.findUnique i = some q ∧
          q.advertisementId = some loaded.adId
  | .publishTelegram env adId postReference, db, db' =>
      db' = MarketBridge.publishTelegram env adId postReference db

abbrev CampaignRequest.Kept (r : CampaignRequest) (db : Db) : Prop :=
  r.Keeps CampaignsEvolve CampaignWrite.Means db

def PaymentWrite.KeepsCampaigns : PaymentWrite -> (Db -> Db) -> Prop
  | .settle _, _ => False
  | _, write => forall db, CampaignsKept db (write db)

theorem PaymentRequest.kept_of_writes {r : PaymentRequest}
    (h : r.Writes PaymentWrite.KeepsCampaigns) (db : Db) :
    CampaignRequest.Kept r.forCampaigns db := by
  refine (Request.keeps_relabel_iff _).2 (Request.Writes.keeps ?_ h db)
  intro label write db hwrite
  cases label with
  | settle args => exact hwrite.elim
  | _ => exact hwrite db

/-! ## Creation and checkout -/

theorem updatePayment_campaignsKept {i : Id} {f : Payment -> Payment} {db db' : Db}
    (hf : forall p, db.payments.findUnique i = some p -> CampaignPaymentMoved p (f p))
    (h : updatePayment i f db = .ok db') :
    CampaignsKept db db' := by
  obtain ⟨_, -, -, rfl⟩ := updatePayment_eq_ok_iff.1 h
  refine .of_rel (Table.rel_update (fun _ => .refl) hf) rfl rfl

theorem syncOrderPaymentObligations_campaignsKept (orderId : Id) (db : Db) :
    CampaignsKept db (syncOrderPaymentObligations orderId db) := by
  have hlinks := syncOrderPaymentObligations_linksOnly orderId db
  obtain ⟨_, _, hframe⟩ := hlinks.frame
  refine .of_rel (fun i => ?_) (by rw [hframe]) (by rw [hframe])
  have hrow := hlinks.payments i
  cases hp : db.payments.findUnique i with
  | none =>
      rw [hp, Option.map_none] at hrow
      rw [Option.map_eq_none_iff.1 hrow]
      exact .none
  | some p =>
      rw [hp, Option.map_some] at hrow
      obtain ⟨p', hp', hsame⟩ := Option.map_eq_some_iff.1 hrow
      rw [hp']
      have htype : p'.unlinked.type = p.unlinked.type := by rw [hsame]
      have had : p'.unlinked.advertisementId = p.unlinked.advertisementId := by rw [hsame]
      have hstatus : p'.unlinked.status = p.unlinked.status := by rw [hsame]
      refine .some ⟨htype, had, fun _ => ?_⟩
      rw [show p'.status = p.status from hstatus]

theorem createPayment_campaignsKept {row : Payment} (hrow : row.status ≠ .paid) (db : Db) :
    CampaignsKept db { db with payments := db.payments.create row } := by
  refine ⟨fun i p hp => ⟨p, Table.findUnique_create_of_some hp, .refl p⟩, ?_, rfl, rfl⟩
  intro i p' hnone hp' _
  rw [Table.findUnique_create] at hp'
  split at hp'
  · rw [← Option.some.inj hp']
    exact hrow
  · rw [hnone] at hp'
    cases hp'

theorem createTxn_within (env : Env) (data : CreatePaymentData) (amount : ℚ) :
    (data.createTxn env amount).Within CampaignsKept := by
  have hpending : PaymentStatus.pending ≠ .paid := nofun
  have hinsert : forall obligationId,
      (data.insertTxn env amount obligationId).Within CampaignsKept :=
    fun _ => ⟨fun db => createPayment_campaignsKept hpending db, fun _ _ => trivial⟩
  have hclaim : (data.claimTxn env amount).Within CampaignsKept := by
    unfold CreatePaymentData.claimTxn
    split
    · exact hinsert none
    · refine .write (syncOrderPaymentObligations_campaignsKept _) (.read .refl fun db => ?_)
      split
      · exact hinsert none
      · split
        · trivial
        · exact hinsert _
  have hinspection : (data.inspectionTxn env amount).Within CampaignsKept :=
    ⟨.refl, fun _ _ => hclaim⟩
  unfold CreatePaymentData.createTxn
  split
  · split
    · trivial
    · exact .read .refl fun _ => ⟨.refl, fun _ _ => hinspection⟩
  · exact hinspection

theorem onlyCreates_keepsCampaigns : OnlyCreates PaymentWrite.KeepsCampaigns := by
  refine ⟨fun env data amount => ?_, fun id count db => ?_⟩
  · exact Txn.Within.commits (R := CampaignsKept) (fun _ _ _ => CampaignsKept.trans)
      (createTxn_within env data amount) .refl
  · exact commit_preserves (P := CampaignsKept db) (.refl db) fun db' =>
      updatePayment_campaignsKept fun p _ => ⟨rfl, rfl, fun _ => Iff.rfl⟩

theorem createInstallments_campaignsKept {rows : List Payment}
    (hrows : forall row, row ∈ rows -> row.status ≠ .paid) (db : Db) :
    CampaignsKept db { db with payments := rows.foldl createInstallment db.payments } := by
  induction rows generalizing db with
  | nil =>
      exact .refl db
  | cons row rows ih =>
      have hfirst : CampaignsKept db
          { db with payments := createInstallment db.payments row } := by
        unfold createInstallment
        split
        · exact .refl db
        · exact createPayment_campaignsKept (hrows row (List.mem_cons_self ..)) db
      have hrest := ih (fun q hq => hrows q (List.mem_cons_of_mem _ hq))
        { db with payments := createInstallment db.payments row }
      exact hfirst.trans hrest

theorem childrenRequest_keepsCampaigns (parentPaymentId : Id) :
    (childrenRequest parentPaymentId).Writes PaymentWrite.KeepsCampaigns := by
  intro db
  dsimp only
  split
  · trivial
  · intro db
    dsimp only
    split
    · trivial
    · refine ⟨createInstallments_campaignsKept fun row hrow => ?_, fun _ => trivial⟩
      obtain ⟨i, -, rfl⟩ := List.mem_map.1 hrow
      nofun

theorem movePaymentStatus_campaignsKept {source target : PaymentStatus} (i : Id)
    (hsource : source ≠ .paid) (htarget : target ≠ .paid) (db : Db) :
    CampaignsKept db (movePaymentStatus i source target db) := by
  refine .of_rel (Table.rel_updateMany (fun _ => .refl) fun j p _ hmove => ?_) rfl rfl
  simp only [Bool.and_eq_true, decide_eq_true_eq] at hmove
  exact .withStatus rfl rfl htarget fun _ => hmove.2 ▸ hsource

theorem initializeRequest_keepsCampaigns (env : Env) (caller : Caller) (paymentId : Id) :
    (initializeRequest env caller paymentId).Writes PaymentWrite.KeepsCampaigns := by
  intro db
  dsimp only
  split
  · trivial
  · split
    · trivial
    · intro db
      dsimp only
      split
      · trivial
      · refine ⟨movePaymentStatus_campaignsKept _ (by decide) (by decide), fun db => ?_⟩
        dsimp only
        split
        · intro opened
          dsimp only
          split
          · refine .attempt (fun db => ?_) fun _ => trivial
            exact commit_preserves (P := CampaignsKept db) (.refl db) fun db' =>
              updatePayment_campaignsKept fun p _ => ⟨rfl, rfl, fun _ => Iff.rfl⟩
          · exact ⟨movePaymentStatus_campaignsKept _ (by decide) (by decide), fun _ => trivial⟩
        · trivial

theorem releaseRequest_keepsCampaigns (paymentId : Id) :
    (releaseRequest paymentId).Writes PaymentWrite.KeepsCampaigns := by
  intro db
  dsimp only
  split
  · trivial
  · exact ⟨fun db => .of_eq rfl rfl rfl, fun _ => trivial⟩

end MarketBridge
