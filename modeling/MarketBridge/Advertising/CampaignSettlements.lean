import MarketBridge.Advertising.CampaignWrites

/-!
# Settlements of campaign payments

A settlement writes at most the notified payment, and the campaign of an advertising
payment that is received.  Goods are missing for goods payments only, so the report that
replaces a settlement flags no campaign payment.
-/

namespace MarketBridge

open Relational

/-! ## Campaigns after a settlement -/

@[simp] theorem withIssue_advertisements (env : Env) (data : ReconciliationData) (db : Db) :
    (withIssue env data db).advertisements = db.advertisements := by
  obtain ⟨events, h⟩ := withIssue_frame env data db
  rw [h]

theorem recordPaid_advertisements (env : Env) (r : PaymentRecord) (db : Db) :
    (recordPaid env r db).advertisements = (payAdvertisement env r db).advertisements := by
  obtain ⟨payouts, -, hholds⟩ := holdServicePayout_frame env r db
  unfold recordPaid
  rw [hholds]
  obtain ⟨purchases, hpurchases⟩ := completePurchase_frame r { db with payouts := payouts }
  rw [hpurchases]
  obtain ⟨entries, hentries⟩ := writeLedgerPaid_frame r
    (payAdvertisement env r { db with payouts := payouts, digitalPurchases := purchases })
  rw [hentries]
  unfold payAdvertisement
  split <;> rfl

theorem payAdvertisement_advertisements (env : Env) (r : PaymentRecord) (db : Db) :
    (payAdvertisement env r db).advertisements = db.advertisements ∨
      exists a, r.row.isForCampaign a = true ∧
        (payAdvertisement env r db).advertisements =
          db.advertisements.update a (·.paid env r.row.amount) := by
  unfold payAdvertisement
  split
  · rename_i a htype had
    exact Or.inr ⟨a, by simp [Payment.isForCampaign, htype, had], rfl⟩
  · exact Or.inl rfl

variable {env : Env} {db db' : Db} {args : SettleArgs}

theorem PaidEffects.advertisements {r : PaymentRecord} (h : PaidEffects env r db db') :
    db'.advertisements = db.advertisements ∨
      exists a, r.row.isForCampaign a = true ∧
        db'.advertisements = db.advertisements.update a (·.paid env r.row.amount) := by
  -- whatever else is written before the records leaves the campaigns alone
  have hrecorded : forall before, before.advertisements = db.advertisements ->
      (recordPaid env r before).advertisements = db.advertisements ∨
        exists a, r.row.isForCampaign a = true ∧
          (recordPaid env r before).advertisements =
            db.advertisements.update a (·.paid env r.row.amount) := by
    intro before hbefore
    rw [recordPaid_advertisements, ← hbefore]
    exact payAdvertisement_advertisements env r before
  cases h with
  | underDispute data =>
      obtain ⟨entries, hentries⟩ := writeLedgerPaid_frame r db
      rw [withIssue_advertisements, hentries]
      exact Or.inl rfl
  | confirmed => exact hrecorded _ rfl
  | afterCancellation order data => exact hrecorded _ (withIssue_advertisements env data db)
  | transportAccepted => exact hrecorded _ rfl
  | inspectionAccepted => exact hrecorded _ rfl
  | recorded => exact hrecorded _ rfl

/-- A settlement leaves the campaigns alone, or it makes the campaign of its payment paid. -/
theorem settlePaymentCore_advertisements {p : Payment}
    (hp : db.payments.findUnique args.paymentId = some p)
    (h : settlePaymentCore env args db = .ok db') :
    db'.advertisements = db.advertisements ∨
      settlementWrites args db p = true ∧ args.status = .paid ∧
        exists a, p.isForCampaign a = true ∧
          db'.advertisements = db.advertisements.update a (·.paid env p.amount) := by
  cases settlePaymentCore_exit hp h with
  | flagged reason =>
      left
      unfold flaggedDb
      split
      · exact withIssue_advertisements env _ db
      · exact withIssue_advertisements env _ db
  | replayed =>
      exact Or.inl rfl
  | ignored =>
      obtain ⟨events, hevents⟩ := withEvent_frame args (paymentRecord db args.paymentId p) db
      rw [hevents]
      exact Or.inl rfl
  | written written _ hwrites hwritten heffects =>
      obtain ⟨events, rfl⟩ := hwritten.shape
      rcases applyEffects_cases heffects with ⟨hpaid, heffects⟩ | ⟨-, rfl⟩ | ⟨-, -, rfl⟩
      · rcases heffects.advertisements with hsame | ⟨a, ha, hads⟩
        · exact Or.inl hsame
        · exact Or.inr ⟨hwrites, hpaid, a, ha, hads⟩
      · obtain ⟨purchases, entries, hframe⟩ := applyRefunded_frame
          (paymentRecord db args.paymentId p) _
        rw [hframe]
        exact Or.inl rfl
      · exact Or.inl rfl

/-! ## What the others rely on -/

theorem settlePaymentCore_campaignsEvolve (h : settlePaymentCore env args db = .ok db') :
    CampaignsEvolve db db' := by
  cases hp : db.payments.findUnique args.paymentId with
  | none =>
      have hsame := commit_settlePaymentCore_of_not_found env hp
      rw [h, commit_ok] at hsame
      rw [hsame]
      exact .refl db
  | some p =>
      have hads : db.advertisements.Rel (fun _ _ _ => True) db'.advertisements := by
        rcases settlePaymentCore_advertisements hp h with hsame | ⟨-, -, a, -, hpaid⟩
        · rw [hsame]
          exact .refl (fun _ _ => trivial) _
        · rw [hpaid]
          exact Table.rel_update (fun _ _ => trivial) fun _ _ => trivial
      have hpayments : db.payments.Rel
          (fun _ p p' => p'.type = p.type ∧ p'.advertisementId = p.advertisementId)
          db'.payments := by
        have hcases := settlePaymentCore_payments env hp
        rw [h, commit_ok] at hcases
        rcases hcases with ⟨-, hwritten⟩ | ⟨-, hsame⟩ | ⟨-, -, -, hflagged⟩
        · rw [hwritten]
          exact Table.rel_update (fun _ _ => ⟨rfl, rfl⟩) fun _ _ => ⟨rfl, rfl⟩
        · rw [hsame]
          exact .refl (fun _ _ => ⟨rfl, rfl⟩) _
        · rw [hflagged]
          exact Table.rel_update (fun _ _ => ⟨rfl, rfl⟩) fun _ _ => ⟨rfl, rfl⟩
      exact .of_rel hpayments (fun _ _ _ hsame => hsame) hads

/-! ## Missing goods -/

def NeverShort {α : Type} (r : Except ApiError α) : Prop :=
  forall e, r = .error e -> e.code ≠ insufficientInventoryError.code

theorem NeverShort.ok {α : Type} (a : α) : NeverShort (.ok a) := by
  intro e h
  cases h

theorem NeverShort.error {α : Type} {e : ApiError} (he : e.code ≠ insufficientInventoryError.code) :
    NeverShort (.error e : Except ApiError α) :=
  fun _ h => Except.error.inj h ▸ he

theorem NeverShort.bind {α β : Type} {r : Except ApiError α} {f : α -> Except ApiError β}
    (hr : NeverShort r) (hf : forall a, NeverShort (f a)) :
    NeverShort (r >>= f) := by
  cases r with
  | error e => exact .error (hr e rfl)
  | ok a => exact hf a

theorem updatePayment_neverShort (i : Id) (f : Payment -> Payment) (db : Db) :
    NeverShort (updatePayment i f db) := by
  unfold updatePayment
  split
  · exact .error (by decide)
  · split
    · exact .error (by decide)
    · exact .ok _

theorem createReconciliationIssue_neverShort (env : Env) (data : ReconciliationData) (db : Db) :
    NeverShort (createReconciliationIssue env data db) := by
  unfold createReconciliationIssue
  split
  · exact .ok _
  · exact .error (by decide)

theorem registerEvent_neverShort (args : SettleArgs) (r : PaymentRecord) (db : Db) :
    NeverShort (registerEvent args r db) := by
  unfold registerEvent
  split
  · exact .ok _
  · split
    · exact .ok _
    · split
      · split
        · exact .ok _
        · exact .error (by decide)
      · exact .ok _

theorem applyPaid_neverShort {r : PaymentRecord} (htype : r.row.type = .advertising) (db : Db) :
    NeverShort (applyPaid env args r db) := by
  have hgoods : r.row.type ≠ .marketplace := by
    rw [htype]
    decide
  have htransport : r.row.type ≠ .transport := by
    rw [htype]
    decide
  have hinspector : r.row.type ≠ .inspector := by
    rw [htype]
    decide
  unfold applyPaid
  split
  · exact createReconciliationIssue_neverShort env _ _
  · rw [settleGoods_of_ne env args hgoods, ok_bind,
      commitTransport_of_none (transportCommitment_of_ne htransport), ok_bind,
      commitInspection_of_none (inspectionCommitment_of_ne hinspector), ok_bind]
    exact .ok _

theorem settlePaymentCore_neverShort {p : Payment}
    (hp : db.payments.findUnique args.paymentId = some p) (htype : p.type = .advertising) :
    NeverShort (settlePaymentCore env args db) := by
  unfold settlePaymentCore
  rw [hp]
  dsimp only
  split
  · refine (createReconciliationIssue_neverShort env _ _).bind fun issued => ?_
    split
    · exact updatePayment_neverShort _ _ _
    · exact .ok _
  · refine (registerEvent_neverShort _ _ _).bind fun registered => ?_
    split
    · exact .ok _
    · unfold processNotification
      split
      · exact .ok _
      · refine NeverShort.bind ?_ fun written => ?_
        · exact (updatePayment_neverShort _ _ _).bind fun _ => .ok _
        · unfold applyEffects
          split
          · exact applyPaid_neverShort htype _
          · exact .ok _
          · exact .ok _

theorem type_of_short {e : ApiError} (h : settlePaymentCore env args db = .error e)
    (hcode : e.code = some "INSUFFICIENT_INVENTORY") :
    exists p, db.payments.findUnique args.paymentId = some p ∧ p.type ≠ .advertising := by
  cases hp : db.payments.findUnique args.paymentId with
  | none =>
      unfold settlePaymentCore at h
      rw [hp] at h
      obtain rfl := Except.error.inj h
      cases hcode
  | some p =>
      exact ⟨p, rfl, fun htype => settlePaymentCore_neverShort hp htype e h hcode⟩

theorem reconcileTxn_campaignsKept {p : Payment}
    (hp : db.payments.findUnique args.paymentId = some p) (htype : p.type ≠ .advertising)
    (h : (reconcileTxn env args).alone db = .ok db') :
    CampaignsKept db db' := by
  unfold reconcileTxn at h
  rw [Txn.alone_read, hp] at h
  dsimp only at h
  rw [Txn.alone_call, bind_eq_ok] at h
  obtain ⟨flagged, hflag, h⟩ := h
  rw [Txn.alone_call, bind_eq_ok] at h
  obtain ⟨issued, hissue, h⟩ := h
  obtain rfl := Except.ok.inj h
  have hfirst : CampaignsKept db flagged := by
    unfold flagForReconciliation at hflag
    split at hflag
    · obtain rfl := Except.ok.inj hflag
      exact .refl db
    · obtain ⟨_, -, hupdate⟩ := bind_eq_ok.1 hflag
      refine updatePayment_campaignsKept (fun q hq => ?_) hupdate
      obtain rfl := Option.some.inj (hp.symm.trans hq)
      exact ⟨rfl, rfl, fun hadvertising => absurd hadvertising htype⟩
  obtain ⟨-, rfl⟩ := createReconciliationIssue_eq_ok_iff.1 hissue
  exact hfirst.trans (.of_eq (withIssue_payments ..) (withIssue_effectsFrame ..).refunds
    (withIssue_advertisements ..))

/-! ## Requests that settle -/

theorem settleTxn_kept {env : Env} {args : SettleArgs}
    {next : Except ApiError Unit -> PaymentRequest} {b : Db}
    (hok : forall db db', CampaignsEvolve b db -> settlePaymentCore env args db = .ok db' ->
      CampaignRequest.Kept (next (.ok ())).forCampaigns db')
    (herror : forall db e, CampaignsEvolve b db -> settlePaymentCore env args db = .error e ->
      CampaignRequest.Kept (next (.error e)).forCampaigns db) :
    CampaignRequest.Kept
      (PaymentRequest.forCampaigns (.transaction (.settle args) (settleTxn env args) next)) b := by
  intro db hdb
  dsimp only
  rw [settleTxn_alone]
  cases hsettle : settlePaymentCore env args db with
  | error e => exact ⟨Or.inl rfl, herror db e hdb hsettle⟩
  | ok db' => exact ⟨Or.inr ⟨env, hsettle⟩, hok db db' hdb hsettle⟩

theorem releaseRequest_kept (paymentId : Id) (b : Db) :
    CampaignRequest.Kept (releaseRequest paymentId).forCampaigns b :=
  PaymentRequest.kept_of_writes (releaseRequest_keepsCampaigns paymentId) b

theorem finalizeRequest_kept (env : Env) (parentPaymentId : Id) (b : Db) :
    CampaignRequest.Kept (finalizeRequest env parentPaymentId).forCampaigns b := by
  intro db _
  dsimp only
  split
  · exact releaseRequest_kept parentPaymentId db
  · exact settleTxn_kept (fun _ _ _ _ => releaseRequest_kept parentPaymentId _)
      fun _ _ _ _ => releaseRequest_kept parentPaymentId _

theorem afterSettlement_kept (env : Env) (paymentId : Id) (b : Db) :
    CampaignRequest.Kept (afterSettlement env paymentId).forCampaigns b := by
  intro db _
  dsimp only
  split
  · exact releaseRequest_kept paymentId db
  · exact finalizeRequest_kept env _ db

theorem settleRequest_kept (env : Env) (args : SettleArgs) (b : Db) :
    CampaignRequest.Kept (settleRequest env args).forCampaigns b := by
  refine settleTxn_kept (fun _ db' _ _ => afterSettlement_kept env args.paymentId db') ?_
  intro db e _ hshort
  dsimp only
  split
  · rename_i hcode
    obtain ⟨p, hp, htype⟩ := type_of_short hshort hcode.1
    -- the payment keeps its type until the report is written
    intro db' hdb'
    obtain ⟨p', hp', htype', -⟩ := hdb'.payments _ p hp
    dsimp only
    cases hreport : (reconcileTxn env args).alone db' with
    | error e => exact ⟨Or.inl rfl, trivial⟩
    | ok db'' =>
        exact ⟨Or.inr (reconcileTxn_campaignsKept hp' (htype' ▸ htype) hreport),
          afterSettlement_kept env args.paymentId _⟩
  · trivial

end MarketBridge
