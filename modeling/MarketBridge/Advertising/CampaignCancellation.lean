import MarketBridge.Advertising.CampaignSettlements

/-!
# The cancellation of a campaign

The transaction of a cancellation fails what was read as pending and requests a refund of
what was read as paid.  The payments of other campaigns, and their refunds, stay as they
are, and no payment becomes paid.
-/

namespace MarketBridge

open Relational

/-- A payment in the cancellation of a campaign. -/
structure CancelledPayment (adId : Id) (p p' : Payment) : Prop where
  type : p'.type = p.type
  advertisementId : p'.advertisementId = p.advertisementId
  paid : p'.status = .paid -> p.status = .paid
  others : p.advertisementId ≠ some adId -> p' = p

theorem CancelledPayment.refl (adId : Id) (p : Payment) : CancelledPayment adId p p :=
  ⟨rfl, rfl, id, fun _ => rfl⟩

variable {i adId : Id} {db db' : Db} {c : LoadedCancellation}

theorem CancelledPayment.trans {p p' p'' : Payment} (h : CancelledPayment adId p p')
    (h' : CancelledPayment adId p' p'') :
    CancelledPayment adId p p'' :=
  ⟨h'.type.trans h.type, h'.advertisementId.trans h.advertisementId, h.paid ∘ h'.paid,
    fun hne => (h'.others (h.advertisementId ▸ hne)).trans (h.others hne)⟩

/-- The payments are paid less, and refunds are requested for one campaign only. -/
structure InCancellation (adId : Id) (db db' : Db) : Prop where
  payments : db.payments.Rel (fun _ => CancelledPayment adId) db'.payments
  refunds : forall j r, db.refunds.findUnique j = some r -> db'.refunds.findUnique j = some r
  requested : forall j r, db'.refunds.findUnique j = some r ->
    db.refunds.findUnique j = some r ∨
      exists p, db.payments.findUnique r.paymentId = some p ∧ p.advertisementId = some adId
  advertisements : db'.advertisements = db.advertisements

namespace InCancellation

variable {adId : Id} {db db' db'' : Db}

theorem refl (db : Db) : InCancellation adId db db :=
  ⟨.refl (fun _ => .refl adId) _, fun _ _ h => h, fun _ _ h => Or.inl h, rfl⟩

theorem trans (h : InCancellation adId db db') (h' : InCancellation adId db' db'') :
    InCancellation adId db db'' := by
  refine ⟨h.payments.trans (fun _ _ _ _ => .trans) h'.payments,
    fun j r hr => h'.refunds j r (h.refunds j r hr), fun j r hr => ?_,
    h'.advertisements.trans h.advertisements⟩
  rcases h'.requested j r hr with hmiddle | ⟨p', hp', had⟩
  · exact h.requested j r hmiddle
  · obtain ⟨p, hp, hmoved⟩ := h.payments.of_right hp'
    exact Or.inr ⟨p, hp, hmoved.advertisementId ▸ had⟩

end InCancellation

def BelongsTo (adId : Id) (db : Db) (i : Id) : Prop :=
  exists p, db.payments.findUnique i = some p ∧ p.advertisementId = some adId

theorem BelongsTo.kept (h : BelongsTo adId db i) (hmoved : InCancellation adId db db') :
    BelongsTo adId db' i := by
  obtain ⟨p, hp, had⟩ := h
  obtain ⟨p', hp', hrow⟩ := hmoved.payments.of_left hp
  exact ⟨p', hp', hrow.advertisementId.trans had⟩

theorem BelongsTo.row {p : Payment} (h : BelongsTo adId db i)
    (hp : db.payments.findUnique i = some p) :
    p.advertisementId = some adId := by
  obtain ⟨q, hq, had⟩ := h
  obtain rfl := Option.some.inj (hp.symm.trans hq)
  exact had

/-! ## One payment -/

def IsUnpaid (db : Db) (i : Id) : Prop :=
  exists p, db.payments.findUnique i = some p ∧ p.status ≠ .paid

def HasRefundRow (db : Db) (i : Id) : Prop :=
  exists j r, db.refunds.findUnique j = some r ∧ r.paymentId = i

theorem IsUnpaid.kept (hmoved : InCancellation adId db db') (h : IsUnpaid db i) :
    IsUnpaid db' i := by
  obtain ⟨p, hp, hunpaid⟩ := h
  obtain ⟨p', hp', hrow⟩ := hmoved.payments.of_left hp
  exact ⟨p', hp', fun hpaid => hunpaid (hrow.paid hpaid)⟩

theorem HasRefundRow.kept (hmoved : InCancellation adId db db') (h : HasRefundRow db i) :
    HasRefundRow db' i := by
  obtain ⟨j, r, hr, howner⟩ := h
  exact ⟨j, r, hmoved.refunds j r hr, howner⟩

theorem failPayment_moved (hi : BelongsTo adId db i)
    (h : updatePayment i (·.withStatus .failed) db = .ok db') :
    InCancellation adId db db' ∧ IsUnpaid db' i := by
  obtain ⟨p, hp, -, rfl⟩ := updatePayment_eq_ok_iff.1 h
  refine ⟨⟨Table.rel_update (fun _ => .refl adId) fun q hq => ?_, fun _ _ hr => hr,
    fun _ _ hr => Or.inl hr, rfl⟩, ?_⟩
  · exact ⟨rfl, rfl, nofun, fun hne => absurd (hi.row hq) hne⟩
  · refine ⟨p.withStatus .failed, ?_, nofun⟩
    rw [Table.findUnique_update, if_pos rfl, hp]
    rfl

theorem requestRefund_campaignMoved {env : Env} {id : Id} {amount : Option JsNumber}
    {reason : Option String} {requestedById : Option Id} (hi : BelongsTo adId db i)
    (h : requestRefund env i amount reason requestedById db = .ok (db', id)) :
    InCancellation adId db db' ∧ HasRefundRow db' i := by
  obtain ⟨p, refundAmount, hp, -, -, hcases⟩ := requestRefund_eq_ok h
  rcases hcases with ⟨rfl, r, hexisting⟩ | ⟨-, -, -, events, rfl⟩
  · obtain ⟨hr, howner, -⟩ := newestRefund_eq_some hexisting
    exact ⟨.refl _, id, r, hr, howner⟩
  · refine ⟨⟨Table.rel_update (fun _ => .refl adId) fun q hq => ?_, fun j r hr => ?_,
      fun j r hr => ?_, rfl⟩, ?_⟩
    · exact ⟨rfl, rfl, nofun, fun hne => absurd (hi.row hq) hne⟩
    · exact Table.findUnique_create_of_some hr
    · rcases Table.of_findUnique_create hr with ⟨-, rfl⟩ | ⟨-, hr⟩
      · exact Or.inr hi
      · exact Or.inl hr
    · refine ⟨db.refunds.size, newRefund i p refundAmount reason requestedById, ?_, rfl⟩
      exact Table.findUnique_create_self ..

/-! ## The transaction -/

/-- What a cancellation that goes through has done. -/
structure CampaignCancelled (c : LoadedCancellation) (db db' : Db) : Prop where
  moved : InCancellation c.adId
    { db with advertisements := db.advertisements.update c.adId c.cancelled } db'
  failed : forall i p, (i, p) ∈ c.payments -> p.status = .pending -> IsUnpaid db' i
  refunded : forall i p, (i, p) ∈ c.payments -> p.status = .paid -> HasRefundRow db' i

theorem failPending_eq_ok (h : c.failPending db = .ok db')
    (hbelongs : forall i p, (i, p) ∈ c.payments -> BelongsTo c.adId db i) :
    InCancellation c.adId db db' ∧
      forall e, e ∈ c.withStatus .pending -> IsUnpaid db' e.1 := by
  refine foldlM_establishes (R := InCancellation c.adId) (Q := fun e db => IsUnpaid db e.1)
    .refl (fun _ _ _ => .trans) (fun _ _ _ => .kept) (fun e he s s' hs hok => ?_) (.refl db) h
  exact failPayment_moved ((hbelongs e.1 e.2 (List.mem_filter.1 he).1).kept hs) hok

theorem refundPaid_eq_ok {env : Env} (h : c.refundPaid env db = .ok db')
    (hbelongs : forall i p, (i, p) ∈ c.payments -> BelongsTo c.adId db i) :
    InCancellation c.adId db db' ∧
      forall e, e ∈ c.withStatus .paid -> HasRefundRow db' e.1 := by
  refine foldlM_establishes (R := InCancellation c.adId) (Q := fun e db => HasRefundRow db e.1)
    .refl (fun _ _ _ => .trans) (fun _ _ _ => .kept) (fun e he s s' hs hok => ?_) (.refl db) h
  obtain ⟨⟨requested, id⟩, hrequest, hdone⟩ := bind_eq_ok.1 hok
  obtain rfl := Except.ok.inj hdone
  exact requestRefund_campaignMoved ((hbelongs e.1 e.2 (List.mem_filter.1 he).1).kept hs) hrequest

theorem cancel_eq_ok {env : Env} (h : c.cancel env db = .ok db')
    (hbelongs : forall i p, (i, p) ∈ c.payments -> BelongsTo c.adId db i) :
    CampaignCancelled c db db' := by
  obtain ⟨unpaid, hfail, hrefund⟩ := bind_eq_ok.1 h
  have hmarked : forall i p, (i, p) ∈ c.payments -> BelongsTo c.adId
      { db with advertisements := db.advertisements.update c.adId c.cancelled } i :=
    hbelongs
  obtain ⟨hfirst, hunpaid⟩ := failPending_eq_ok hfail hmarked
  obtain ⟨hsecond, hrefunded⟩ :=
    refundPaid_eq_ok hrefund fun i p hp => (hmarked i p hp).kept hfirst
  refine ⟨hfirst.trans hsecond, fun i p hp hpending => ?_, fun i p hp hpaid => ?_⟩
  · exact (hunpaid (i, p) (List.mem_filter.2 ⟨hp, decide_eq_true hpending⟩)).kept hsecond
  · exact hrefunded (i, p) (List.mem_filter.2 ⟨hp, decide_eq_true hpaid⟩)

/-! ## The routes -/

theorem cancelRequest_kept (env : Env) (caller : Caller) (adId : Id) (reason : Option String)
    (b : Db) :
    CampaignRequest.Kept (cancelRequest env caller adId reason) b := by
  intro db _
  dsimp only
  split
  · trivial
  · rename_i ad had
    split
    · trivial
    · refine .attempt (fun s s' hs hok => ⟨⟨hok, hs.advertisements adId ad had, ?_⟩, trivial⟩)
        fun _ _ _ _ => trivial
      -- the payments that were read still belong to the campaign
      intro i p hp
      have hread : (i, p) ∈ paymentsOfCampaign db adId := hp
      obtain ⟨hp, hcampaign⟩ := Table.mem_findMany.1 hread
      obtain ⟨p', hp', -, hcampaign'⟩ := hs.payments i p hp
      exact ⟨p', hp', hcampaign'.trans (of_decide_eq_true hcampaign)⟩

theorem statusRequest_kept (env : Env) (caller : Caller) (adId : Id) (requested : AdStatus)
    (rejectionReason : Option String) (b : Db) :
    CampaignRequest.Kept (statusRequest env caller adId requested rejectionReason) b := by
  unfold statusRequest
  split
  · intro db _
    dsimp only
    split
    · trivial
    · split
      · trivial
      · exact fun _ _ => ⟨Or.inr rfl, trivial⟩
  · trivial

theorem telegramRequest_kept (env : Env) (caller : Caller) (adId : Id)
    (postReference : Option String) (b : Db) :
    CampaignRequest.Kept (telegramRequest env caller adId postReference) b := by
  unfold telegramRequest
  split
  · intro db _
    dsimp only
    split
    · trivial
    · split
      · trivial
      · intro db _
        dsimp only
        split
        · trivial
        · exact fun _ _ => ⟨Or.inr rfl, trivial⟩
  · trivial

/-! ## What all writes keep -/

theorem CampaignWrite.Means.evolves {label : CampaignWrite} (h : label.Means db db') :
    CampaignsEvolve db db' := by
  cases label with
  | payment write =>
      cases write with
      | settle args =>
          obtain ⟨env, hsettle⟩ := h
          exact settlePaymentCore_campaignsEvolve hsettle
      | create data => exact CampaignsKept.evolves h
      | other => exact CampaignsKept.evolves h
  | changeStatus env adId requested status rejectionReason =>
      obtain rfl := h
      exact .of_advertisements (S := fun _ _ _ => True) rfl
        (Table.rel_update (fun _ _ => trivial) fun _ _ => trivial)
  | cancel env loaded =>
      obtain ⟨hcancel, -, hbelongs⟩ := h
      have hmoved := (cancel_eq_ok hcancel hbelongs).moved
      have hads : db.advertisements.Rel (fun _ _ _ => True) db'.advertisements := by
        rw [hmoved.advertisements]
        exact Table.rel_update (fun _ _ => trivial) fun _ _ => trivial
      exact .of_rel hmoved.payments (fun _ _ _ hrow => ⟨hrow.type, hrow.advertisementId⟩) hads
  | publishTelegram env adId postReference =>
      obtain rfl := h
      exact .of_advertisements (S := fun _ _ _ => True) rfl
        (Table.rel_update (fun _ _ => trivial) fun _ _ => trivial)

end MarketBridge
