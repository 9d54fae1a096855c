import MarketBridge.Advertising.CampaignCancellation
import MarketBridge.Payment.PaidOnceRuns
import MarketBridge.Refund.Runs

/-!
# Runs of campaigns

A campaign is up only while it keeps a payment, it goes live only once it was approved if
its type asks for that, an end is final, and what was paid for a campaign that was
rejected or cancelled is refunded.  This holds as long as the writes that do not look at
the campaign find it in order.
-/

namespace MarketBridge

open Relational

/-! ## The law -/

def refundStands (db : Db) (i : Id) : Bool :=
  db.refunds.any fun _ r => r.paymentId = i &&
    r.status ∈ [PaymentRefundStatus.requested, .processing, .completed]

def hasOtherPayment (db : Db) (adId : Id) (paymentId : Option Id) : Bool :=
  db.payments.any fun i p => paymentId ≠ some i && p.isForCampaign adId && p.status = .paid &&
    !refundStands db i

def hasKeptPayment (db : Db) (adId : Id) : Bool :=
  hasOtherPayment db adId none

def refundRequested (db : Db) (i : Id) : Bool :=
  db.refunds.any fun _ r => r.paymentId = i

def refundsRequested (db : Db) (adId : Id) : Bool :=
  !db.payments.any fun i p => p.isForCampaign adId && p.status = .paid && !refundRequested db i

/-- What holds of a campaign in every state. -/
structure Advertisement.Sound (approved : List Id) (db : Db) (adId : Id) (ad : Advertisement) :
    Prop where
  paid : ad.status.isUp = true -> hasKeptPayment db adId = true
  approved : ad.type.isReviewRequired = true -> ad.status.isActive = true -> adId ∈ approved
  refunded : ad.status = .rejected ∨ ad.status = .cancelled -> refundsRequested db adId = true

def EndsStay (db db' : Db) : Prop :=
  forall adId ad, db.advertisements.findUnique adId = some ad -> ad.status.isTerminal = true ->
    exists ad', db'.advertisements.findUnique adId = some ad' ∧ ad'.status = ad.status

namespace CampaignSession

def Sound (s : CampaignSession) : Prop :=
  forall adId ad, s.db.advertisements.findUnique adId = some ad -> ad.Sound s.approved s.db adId

def KeepsLaw (origins : Id -> InspectionOrigin) (s : CampaignSession) (a : Env × CampaignStep) :
    Prop :=
  (s.step origins a).Sound ∧ EndsStay s.db (s.step origins a).db

end CampaignSession

/-! ## Orderly writes -/

def Advertisement.mayBecome (approved : List Id) (db : Db) (adId : Id) (ad : Advertisement)
    (status : AdStatus) : Bool :=
  (!ad.status.isTerminal || status = ad.status) &&
    (!status.isUp || hasKeptPayment db adId) &&
    (!ad.type.isReviewRequired || !status.isActive || adId ∈ approved) &&
    (status ∉ [AdStatus.rejected, .cancelled] || refundsRequested db adId)

def SettleArgs.bringsPayment (args : SettleArgs) (db : Db) (p : Payment) : Bool :=
  args.status = .paid && settlementWrites args db p

def SettleArgs.takesPayment (args : SettleArgs) (db : Db) (p : Payment) : Bool :=
  args.status ≠ .paid && settlementWrites args db p ||
    (mismatchReason p args).isSome && flagCommits args db p &&
      canTransition p.status .reconciliationRequired

/--
A payment arrives while its campaign has not ended, and the last one that the campaign
keeps is not taken away while it is up.
-/
def SettleArgs.isOrderly (args : SettleArgs) (db : Db) : Bool :=
  (db.payments.findUnique args.paymentId).all fun p =>
    p.type ≠ .advertising || p.advertisementId.all fun adId =>
      (db.advertisements.findUnique adId).all fun ad =>
        (!args.bringsPayment db p || !ad.status.isTerminal) &&
          (!args.takesPayment db p || !ad.status.isUp ||
            hasOtherPayment db adId (some args.paymentId))

/-- What is paid for the campaign has a refund request, or was read as pending or paid. -/
def LoadedCancellation.coversPayments (c : LoadedCancellation) (db : Db) : Bool :=
  !db.payments.any fun i p => p.isForCampaign c.adId && p.status = .paid &&
    !refundRequested db i &&
    !c.payments.any fun e => e.1 = i && e.2.status ∈ [PaymentStatus.pending, .paid]

/-- A cancellation that goes through finds the campaign open and knows what is paid for it. -/
def LoadedCancellation.isOrderly (env : Env) (c : LoadedCancellation) (db : Db) : Bool :=
  match c.cancel env db with
  | .error _ => true
  | .ok _ =>
      (db.advertisements.findUnique c.adId).all fun ad =>
        ad.status ∉ [AdStatus.rejected, .expired] && c.coversPayments db

def CampaignWrite.isOrderly (approved : List Id) (db : Db) : CampaignWrite -> Bool
  | .payment (.settle args) => args.isOrderly db
  | .payment _ => true
  | .changeStatus _ adId requested status _ =>
      (db.advertisements.findUnique adId).all fun ad =>
        ad.mayBecome (if requested = .approved then approved ++ [adId] else approved) db adId status
  | .cancel env loaded => loaded.isOrderly env db
  | .publishTelegram _ adId _ =>
      (db.advertisements.findUnique adId).all fun ad => ad.mayBecome approved db adId .published

namespace CampaignSession

def isOrderly (s : CampaignSession) (a : Env × CampaignStep) : Bool :=
  match a.2 with
  | .advance k => (s.server.publishes k).all (CampaignWrite.isOrderly s.approved s.db)
  | .broadcast key =>
      !s.db.advertisements.any fun adId ad =>
        key.names adId ad && !ad.mayBecome s.approved s.db adId .published
  | _ => true

/-- Nobody is at work, there are no campaigns, and no refund belongs to one. -/
structure IsFresh (s : CampaignSession) : Prop where
  active : s.server.active = []
  approved : s.approved = []
  advertisements : s.db.advertisements = Table.empty
  refunds : forall j r, s.db.refunds.findUnique j = some r ->
    exists p, s.db.payments.findUnique r.paymentId = some p ∧ p.advertisementId = none

end CampaignSession

/-! ## Payments that are kept -/

section Kept

variable {db db' : Db} {adId i : Id}

theorem refundStands_eq_true_iff :
    refundStands db i = true ↔ exists j r, db.refunds.findUnique j = some r ∧ r.paymentId = i ∧
      r.status ∈ [PaymentRefundStatus.requested, .processing, .completed] := by
  unfold refundStands
  rw [Table.any_eq_true_iff]
  simp only [Bool.and_eq_true, decide_eq_true_eq]

theorem refundRequested_eq_true_iff :
    refundRequested db i = true ↔ HasRefundRow db i := by
  unfold refundRequested HasRefundRow
  rw [Table.any_eq_true_iff]
  simp only [decide_eq_true_eq]

theorem hasOtherPayment_eq_true_iff {paymentId : Option Id} :
    hasOtherPayment db adId paymentId = true ↔
      exists i p, db.payments.findUnique i = some p ∧ paymentId ≠ some i ∧
        p.isForCampaign adId = true ∧ p.status = .paid ∧ refundStands db i = false := by
  unfold hasOtherPayment
  rw [Table.any_eq_true_iff]
  simp only [Bool.and_eq_true, decide_eq_true_eq, Bool.not_eq_true', and_assoc]

theorem hasKeptPayment_eq_true_iff :
    hasKeptPayment db adId = true ↔
      exists i p, db.payments.findUnique i = some p ∧ p.isForCampaign adId = true ∧
        p.status = .paid ∧ refundStands db i = false := by
  unfold hasKeptPayment
  rw [hasOtherPayment_eq_true_iff]
  simp only [ne_eq, reduceCtorEq, not_false_eq_true, true_and]

theorem refundsRequested_eq_true_iff :
    refundsRequested db adId = true ↔
      forall i p, db.payments.findUnique i = some p -> p.isForCampaign adId = true ->
        p.status = .paid -> HasRefundRow db i := by
  unfold refundsRequested
  rw [Bool.not_eq_true', Table.any_eq_false_iff]
  refine forall_congr' fun i => forall_congr' fun p => imp_congr_right fun _ => ?_
  dsimp only
  rw [← refundRequested_eq_true_iff, ← Bool.not_eq_true]
  simp only [Bool.and_eq_true, decide_eq_true_eq, Bool.not_eq_true']
  constructor
  · intro h hcampaign hpaid
    exact Bool.eq_true_of_not_eq_false fun hunrequested => h ⟨⟨hcampaign, hpaid⟩, hunrequested⟩
  · rintro h ⟨⟨hcampaign, hpaid⟩, hunrequested⟩
    rw [h hcampaign hpaid] at hunrequested
    cases hunrequested

theorem isForCampaign_congr {p p' : Payment} (htype : p'.type = p.type)
    (had : p'.advertisementId = p.advertisementId) :
    p'.isForCampaign adId = p.isForCampaign adId := by
  unfold Payment.isForCampaign
  rw [htype, had]

/-- The same refunds stand, and the payments of the campaign are paid that were. -/
theorem Advertisement.Sound.congr {approved approved' : List Id} {ad : Advertisement}
    (h : ad.Sound approved db adId) (happroved : forall a, a ∈ approved -> a ∈ approved')
    (hkept : ad.status.isUp = true -> hasKeptPayment db adId = true ->
      hasKeptPayment db' adId = true)
    (hrefunded : ad.status = .rejected ∨ ad.status = .cancelled ->
      refundsRequested db adId = true -> refundsRequested db' adId = true) :
    ad.Sound approved' db' adId :=
  ⟨fun hup => hkept hup (h.paid hup), fun htype hactive => happroved _ (h.approved htype hactive),
    fun hended => hrefunded hended (h.refunded hended)⟩

end Kept

/-! ## The invariant -/

/-- Every campaign is sound, and a refund of a campaign payment means that it was cancelled. -/
structure CampaignInv (approved : List Id) (db : Db) : Prop where
  sound : forall adId ad, db.advertisements.findUnique adId = some ad -> ad.Sound approved db adId
  refunds : forall j r, db.refunds.findUnique j = some r ->
    exists p, db.payments.findUnique r.paymentId = some p ∧
      forall adId, p.advertisementId = some adId ->
        exists ad, db.advertisements.findUnique adId = some ad ∧ ad.status = .cancelled

section Steps

variable {approved approved' : List Id} {db db' : Db}

theorem EndsStay.refl (db : Db) : EndsStay db db :=
  fun _ ad had _ => ⟨ad, had, rfl⟩

theorem EndsStay.of_eq (h : db'.advertisements = db.advertisements) : EndsStay db db' :=
  fun _ ad had _ => ⟨ad, h ▸ had, rfl⟩

variable {adId : Id} {p : Payment} {ad : Advertisement} {args : SettleArgs}

theorem CampaignInv.refundStands_eq_false (h : CampaignInv approved db) {i : Id}
    (hp : db.payments.findUnique i = some p) (hcampaign : p.advertisementId = some adId)
    (had : db.advertisements.findUnique adId = some ad) (hopen : ad.status ≠ .cancelled) :
    refundStands db i = false := by
  refine Bool.eq_false_of_not_eq_true fun hstands => ?_
  obtain ⟨j, r, hr, rfl, -⟩ := refundStands_eq_true_iff.1 hstands
  obtain ⟨q, hq, hcancelled⟩ := h.refunds j r hr
  obtain rfl := Option.some.inj (hp.symm.trans hq)
  obtain ⟨ad', had', hstatus⟩ := hcancelled adId hcampaign
  obtain rfl := Option.some.inj (had.symm.trans had')
  exact hopen hstatus

/-! ### Payments that keep their campaigns -/

theorem CampaignsKept.hasKeptPayment (h : CampaignsKept db db')
    (hkept : hasKeptPayment db adId = true) :
    hasKeptPayment db' adId = true := by
  obtain ⟨i, p, hp, hcampaign, hpaid, hstands⟩ := hasKeptPayment_eq_true_iff.1 hkept
  obtain ⟨p', hp', hmoved⟩ := h.kept i p hp
  have hadvertising : p.type = .advertising := by
    simp only [Payment.isForCampaign, Bool.and_eq_true, decide_eq_true_eq] at hcampaign
    exact hcampaign.1
  refine hasKeptPayment_eq_true_iff.2 ⟨i, p', hp', ?_, (hmoved.paid hadvertising).2 hpaid, ?_⟩
  · rw [isForCampaign_congr hmoved.type hmoved.advertisementId]
    exact hcampaign
  · unfold refundStands
    rw [h.refunds]
    exact hstands

theorem CampaignsKept.refundsRequested (h : CampaignsKept db db')
    (hrequested : refundsRequested db adId = true) :
    refundsRequested db' adId = true := by
  rw [refundsRequested_eq_true_iff] at hrequested ⊢
  intro i p' hp' hcampaign hpaid
  have hadvertising : p'.type = .advertising := by
    simp only [Payment.isForCampaign, Bool.and_eq_true, decide_eq_true_eq] at hcampaign
    exact hcampaign.1
  cases hp : db.payments.findUnique i with
  | none =>
      exact absurd hpaid (h.fresh i p' hp hp' hadvertising)
  | some p =>
      obtain ⟨q, hq, hmoved⟩ := h.kept i p hp
      obtain rfl := Option.some.inj (hp'.symm.trans hq)
      obtain ⟨j, r, hr, howner⟩ := hrequested i p hp
        (isForCampaign_congr hmoved.type hmoved.advertisementId ▸ hcampaign)
        ((hmoved.paid (hmoved.type ▸ hadvertising)).1 hpaid)
      exact ⟨j, r, h.refunds ▸ hr, howner⟩

theorem CampaignInv.campaignsKept (h : CampaignInv approved db) (hkept : CampaignsKept db db') :
    CampaignInv approved db' := by
  refine ⟨fun adId ad had => ?_, fun j r hr => ?_⟩
  · rw [hkept.advertisements] at had
    exact (h.sound adId ad had).congr (fun _ ha => ha) (fun _ => hkept.hasKeptPayment)
      fun _ => hkept.refundsRequested
  · rw [hkept.refunds] at hr
    obtain ⟨p, hp, hcancelled⟩ := h.refunds j r hr
    obtain ⟨p', hp', hmoved⟩ := hkept.kept _ p hp
    refine ⟨p', hp', fun adId hcampaign => ?_⟩
    rw [hkept.advertisements]
    exact hcancelled adId (hmoved.advertisementId ▸ hcampaign)

/-! ### Writes to campaigns -/

theorem Advertisement.mayBecome_eq_true_iff {status : AdStatus} :
    ad.mayBecome approved db adId status = true ↔
      (ad.status.isTerminal = true -> status = ad.status) ∧
        { ad with status := status }.Sound approved db adId := by
  have hended : status ∈ [AdStatus.rejected, .cancelled] ↔
      status = .rejected ∨ status = .cancelled := by
    simp
  unfold mayBecome
  simp only [Bool.and_eq_true, Bool.or_eq_true, Bool.not_eq_true', decide_eq_true_eq]
  constructor
  · rintro ⟨⟨⟨hfinal, hpaid⟩, happroved⟩, hrefunded⟩
    refine ⟨fun hterminal => ?_, ⟨fun hup => ?_, fun htype hactive => ?_, fun hend => ?_⟩⟩
    · rw [hterminal] at hfinal
      exact hfinal.resolve_left nofun
    · have hup : status.isUp = true := hup
      rw [hup] at hpaid
      exact hpaid.resolve_left nofun
    · have hactive : status.isActive = true := hactive
      have htype : ad.type.isReviewRequired = true := htype
      rw [htype, hactive] at happroved
      exact happroved.resolve_left (by rintro (h | h) <;> cases h)
    · exact hrefunded.resolve_left fun hnot => hnot (hended.2 hend)
  · rintro ⟨hfinal, hsound⟩
    refine ⟨⟨⟨?_, ?_⟩, ?_⟩, ?_⟩
    · cases hterminal : ad.status.isTerminal with
      | false => exact Or.inl rfl
      | true => exact Or.inr (hfinal hterminal)
    · cases hup : status.isUp with
      | false => exact Or.inl rfl
      | true => exact Or.inr (hsound.paid hup)
    · cases htype : ad.type.isReviewRequired with
      | false => exact Or.inl (Or.inl rfl)
      | true =>
          cases hactive : status.isActive with
          | false => exact Or.inl (Or.inr rfl)
          | true => exact Or.inr (hsound.approved htype hactive)
    · by_cases hend : status ∈ [AdStatus.rejected, .cancelled]
      · exact Or.inr (hsound.refunded (hended.1 hend))
      · exact Or.inl hend

def AdvertisementMoved (approved : List Id) (db : Db) (adId : Id) (ad ad' : Advertisement) : Prop :=
  ad'.type = ad.type ∧
    (ad'.status = ad.status ∨ ad.mayBecome approved db adId ad'.status = true)

theorem AdvertisementMoved.refl (adId : Id) (ad : Advertisement) :
    AdvertisementMoved approved db adId ad ad :=
  ⟨rfl, Or.inl rfl⟩

theorem AdvertisementMoved.ended {ad' : Advertisement}
    (h : AdvertisementMoved approved db adId ad ad') (hterminal : ad.status.isTerminal = true) :
    ad'.status = ad.status := by
  rcases h.2 with hsame | hmay
  · exact hsame
  · exact (Advertisement.mayBecome_eq_true_iff.1 hmay).1 hterminal

theorem CampaignInv.moved (h : CampaignInv approved db)
    (happroved : forall a, a ∈ approved -> a ∈ approved')
    (hads : db.advertisements.Rel (AdvertisementMoved approved' db) db'.advertisements)
    (hpayments : db'.payments = db.payments) (hrefunds : db'.refunds = db.refunds) :
    CampaignInv approved' db' ∧ EndsStay db db' := by
  have hstands : forall i, refundStands db' i = refundStands db i := by
    intro i
    unfold refundStands
    rw [hrefunds]
  have hkept : forall adId, hasKeptPayment db' adId = hasKeptPayment db adId := by
    intro adId
    unfold hasKeptPayment hasOtherPayment
    simp only [hpayments, hstands]
  have hrequested : forall adId, refundsRequested db' adId = refundsRequested db adId := by
    intro adId
    unfold refundsRequested refundRequested
    rw [hpayments, hrefunds]
  refine ⟨⟨fun adId ad' had' => ?_, fun j r hr => ?_⟩, fun adId ad had hterminal => ?_⟩
  · obtain ⟨ad, had, htype, hstatus⟩ := hads.of_right had'
    have hsound : { ad with status := ad'.status }.Sound approved' db adId := by
      rcases hstatus with hsame | hmay
      · rw [hsame]
        exact (h.sound adId ad had).congr happroved (fun _ hk => hk) fun _ hr => hr
      · exact (Advertisement.mayBecome_eq_true_iff.1 hmay).2
    refine ⟨fun hup => ?_, fun hreviewed hactive => ?_, fun hended => ?_⟩
    · rw [hkept]
      exact hsound.paid hup
    · exact hsound.approved (htype ▸ hreviewed) hactive
    · rw [hrequested]
      exact hsound.refunded hended
  · rw [hrefunds] at hr
    obtain ⟨p, hp, hcancelled⟩ := h.refunds j r hr
    refine ⟨p, hpayments ▸ hp, fun adId hcampaign => ?_⟩
    obtain ⟨ad, had, hstatus⟩ := hcancelled adId hcampaign
    obtain ⟨ad', had', hmoved⟩ := hads.of_left had
    exact ⟨ad', had', (hmoved.ended (by rw [hstatus]; rfl)).trans hstatus⟩
  · obtain ⟨ad', had', hmoved⟩ := hads.of_left had
    exact ⟨ad', had', hmoved.ended hterminal⟩

theorem CampaignInv.created (h : CampaignInv approved db) (ad : Advertisement) :
    CampaignInv approved (createAdvertisement ad db) ∧ EndsStay db (createAdvertisement ad db) := by
  refine ⟨⟨fun adId ad' had' => ?_, fun j r hr => ?_⟩, fun adId ad' had' _ => ?_⟩
  · unfold createAdvertisement at had'
    rcases Table.of_findUnique_create had' with ⟨-, rfl⟩ | ⟨-, had'⟩
    · exact ⟨nofun, nofun, nofun⟩
    · exact (h.sound adId ad' had').congr (fun _ ha => ha) (fun _ hkept => hkept)
        fun _ hrequested => hrequested
  · obtain ⟨p, hp, hcancelled⟩ := h.refunds j r hr
    refine ⟨p, hp, fun adId hcampaign => ?_⟩
    obtain ⟨ad', had', hstatus⟩ := hcancelled adId hcampaign
    exact ⟨ad', Table.findUnique_create_of_some had', hstatus⟩
  · exact ⟨ad', Table.findUnique_create_of_some had', rfl⟩

theorem CampaignInv.expired (h : CampaignInv approved db) (env : Env) :
    CampaignInv approved (expireAdvertisements env db) ∧
      EndsStay db (expireAdvertisements env db) := by
  refine h.moved (fun _ ha => ha) (Table.rel_updateMany .refl fun adId ad _ hselected => ?_) rfl rfl
  simp only [Bool.and_eq_true, decide_eq_true_eq] at hselected
  refine ⟨rfl, Or.inr (Advertisement.mayBecome_eq_true_iff.2 ⟨fun hterminal => ?_, ?_⟩)⟩
  · -- nothing that is up has ended
    cases hstatus : ad.status <;> rw [hstatus] at hselected hterminal <;>
      simp [AdStatus.isUp, AdStatus.isTerminal] at hselected hterminal
  · exact ⟨nofun, nofun, nofun⟩

theorem CampaignInv.activated (h : CampaignInv approved db) (env : Env) :
    CampaignInv approved (activateScheduledAdvertisements env db) ∧
      EndsStay db (activateScheduledAdvertisements env db) := by
  refine h.moved (fun _ ha => ha)
    (Table.rel_updateMany .refl fun adId ad had hselected => ?_) rfl rfl
  simp only [Bool.and_eq_true, decide_eq_true_eq] at hselected
  have hscheduled : ad.status = .scheduled := hselected.1.1
  have hsound := h.sound adId ad had
  refine ⟨rfl, Or.inr (Advertisement.mayBecome_eq_true_iff.2 ⟨fun hterminal => ?_, ?_⟩)⟩
  · rw [hscheduled] at hterminal
    cases hterminal
  · refine ⟨fun _ => hsound.paid (by rw [hscheduled]; rfl), fun hreviewed _ => ?_, nofun⟩
    exact hsound.approved hreviewed (by rw [hscheduled]; rfl)

theorem CampaignInv.broadcast (h : CampaignInv approved db) {key : CampaignKey}
    (hkey : forall adId ad, db.advertisements.findUnique adId = some ad ->
      key.names adId ad = true -> ad.mayBecome approved db adId .published = true) :
    CampaignInv approved (broadcast key db) ∧ EndsStay db (MarketBridge.broadcast key db) := by
  refine h.moved (fun _ ha => ha) (Table.rel_updateMany .refl fun adId ad had hnames => ?_) rfl rfl
  exact ⟨rfl, Or.inr (hkey adId ad had hnames)⟩

/-- An admin, or the Telegram publication, writes one campaign. -/
theorem CampaignInv.updated (h : CampaignInv approved db)
    (happroved : forall a, a ∈ approved -> a ∈ approved') {adId : Id} {status : AdStatus}
    {f : Advertisement -> Advertisement}
    (hads : db'.advertisements = db.advertisements.update adId f)
    (htype : forall ad, (f ad).type = ad.type) (hstatus : forall ad, (f ad).status = status)
    (hmay : (db.advertisements.findUnique adId).all
      (fun ad => ad.mayBecome approved' db adId status) = true)
    (hpayments : db'.payments = db.payments) (hrefunds : db'.refunds = db.refunds) :
    CampaignInv approved' db' ∧ EndsStay db db' := by
  refine h.moved happroved ?_ hpayments hrefunds
  rw [hads]
  refine Table.rel_update .refl fun ad had => ⟨htype ad, Or.inr ?_⟩
  rw [had, Option.all_some] at hmay
  rw [hstatus ad]
  exact hmay

/-! ### Settlements -/

theorem SettleArgs.of_isOrderly (h : args.isOrderly db = true)
    (hp : db.payments.findUnique args.paymentId = some p)
    (hcampaign : p.isForCampaign adId = true) (had : db.advertisements.findUnique adId = some ad) :
    (args.bringsPayment db p = true -> ad.status.isTerminal = false) ∧
      (args.takesPayment db p = true -> ad.status.isUp = true ->
        hasOtherPayment db adId (some args.paymentId) = true) := by
  unfold Payment.isForCampaign at hcampaign
  simp only [Bool.and_eq_true, decide_eq_true_eq] at hcampaign
  obtain ⟨htype, hadId⟩ := hcampaign
  have hads : (!args.bringsPayment db p || !ad.status.isTerminal) = true ∧
      (!args.takesPayment db p || !ad.status.isUp ||
        hasOtherPayment db adId (some args.paymentId)) = true := by
    simpa [SettleArgs.isOrderly, hp, htype, hadId, had] using h
  refine ⟨fun hbrings => ?_, fun htakes hup => ?_⟩
  · simpa [hbrings] using hads.1
  · simpa [htakes, hup] using hads.2

theorem Advertisement.paid_not_active (env : Env) (amount : ℚ) (ad : Advertisement)
    (hreviewed : ad.type.isReviewRequired = true) :
    ¬ (ad.paid env amount).status.isActive = true := by
  have hstatus : (ad.paid env amount).status = .paidPendingReview :=
    if_pos (of_decide_eq_true hreviewed)
  rw [hstatus]
  nofun

theorem Advertisement.paid_not_ended (env : Env) (amount : ℚ) (ad : Advertisement) :
    ¬ ((ad.paid env amount).status = .rejected ∨ (ad.paid env amount).status = .cancelled) := by
  have hstatus : (ad.paid env amount).status = ad.paidStatus env := rfl
  rw [hstatus]
  unfold Advertisement.paidStatus
  split
  · nofun
  · split <;> nofun

/-- The only payment that a settlement writes, and when it is paid afterwards. -/
theorem settlePaymentCore_paid {env : Env} (hp : db.payments.findUnique args.paymentId = some p)
    (h : settlePaymentCore env args db = .ok db') :
    exists q, db'.payments = db.payments.update args.paymentId (fun _ => q) ∧ q.type = p.type ∧
      q.advertisementId = p.advertisementId ∧
      (args.bringsPayment db p = true -> q.status = .paid) ∧
      (q.status = .paid -> p.status = .paid ∨ args.bringsPayment db p = true) ∧
      (p.status = .paid -> q.status = .paid ∨ args.takesPayment db p = true) := by
  have hwrite : forall f : Payment -> Payment,
      db.payments.update args.paymentId f = db.payments.update args.paymentId fun _ => f p :=
    fun f => Table.update_congr fun r hr => by rw [Option.some.inj (hp.symm.trans hr)]
  have hcases := settlePaymentCore_payments env hp
  have hflag := (settlePaymentCore_refundFrame env hp).2
  rw [h, commit_ok] at hcases hflag
  rcases hcases with ⟨hwrites, hpayments⟩ | ⟨hwrites, hpayments⟩ | ⟨hwrites, hmismatch, hcan, hpayments⟩
  · refine ⟨p.afterSettlement args, hpayments.trans (hwrite _), rfl, rfl, ?_, ?_, ?_⟩
    · intro hbrings
      simp only [SettleArgs.bringsPayment, Bool.and_eq_true, decide_eq_true_eq] at hbrings
      exact hbrings.1
    · intro hpaid
      exact Or.inr (by
        simp only [SettleArgs.bringsPayment, hwrites, Bool.and_true, decide_eq_true_eq]
        exact hpaid)
    · intro _
      by_cases hstatus : args.status = .paid
      · exact Or.inl hstatus
      · right
        simp [SettleArgs.takesPayment, hwrites, hstatus]
  · refine ⟨p, hpayments.trans ?_, rfl, rfl, ?_, Or.inl, Or.inl⟩
    · exact ((Table.update_eq_self_iff hp _).2 rfl).symm
    · simp [SettleArgs.bringsPayment, hwrites]
  · refine ⟨p.flagged args, hpayments.trans (hwrite _), rfl, rfl, ?_, nofun, ?_⟩
    · simp [SettleArgs.bringsPayment, hwrites]
    · intro hpaid
      rcases hflag with hsame | ⟨hwrites', -⟩ | ⟨hreason, hcommits, hcan, -⟩
      · -- a flagged row differs from a paid one
        have hsame := (Table.update_eq_self_iff hp _).1 (hpayments.symm.trans hsame)
        have hflagged : p.status = .reconciliationRequired := (congrArg (·.status) hsame).symm
        rw [hpaid] at hflagged
        cases hflagged
      · rw [hwrites] at hwrites'
        cases hwrites'
      · right
        simp [SettleArgs.takesPayment, Option.isSome_iff_ne_none, hreason, hcommits, hcan]

theorem CampaignInv.settled (h : CampaignInv approved db) {env : Env}
    (hsettle : settlePaymentCore env args db = .ok db') (horderly : args.isOrderly db = true) :
    CampaignInv approved db' ∧ EndsStay db db' := by
  cases hp : db.payments.findUnique args.paymentId with
  | none =>
      have hsame := commit_settlePaymentCore_of_not_found env hp
      rw [hsettle, commit_ok] at hsame
      rw [hsame]
      exact ⟨h, .refl db⟩
  | some p =>
      have hrefunds : db'.refunds = db.refunds := by
        have hframe := (settlePaymentCore_refundFrame env hp).1
        rwa [hsettle, commit_ok] at hframe
      have hstands : forall i, refundStands db' i = refundStands db i := by
        intro i
        unfold refundStands
        rw [hrefunds]
      obtain ⟨q, hpayments, htype, hadId, hbrings, hcame, hwent⟩ := settlePaymentCore_paid hp hsettle
      have hq : db'.payments.findUnique args.paymentId = some q := by
        rw [hpayments, Table.findUnique_update, if_pos rfl, hp]
        rfl
      have hother : forall i, i ≠ args.paymentId ->
          db'.payments.findUnique i = db.payments.findUnique i := by
        intro i hi
        rw [hpayments, Table.findUnique_update_ne hi]
      have hcampaign : forall a, q.isForCampaign a = p.isForCampaign a :=
        fun a => isForCampaign_congr htype hadId
      -- what was kept and what was refunded stays so
      have hkept : forall a ad, db.advertisements.findUnique a = some ad -> ad.status.isUp = true ->
          hasKeptPayment db a = true -> hasKeptPayment db' a = true := by
        intro a ad had hup hkept
        obtain ⟨i, r, hr, hrc, hrpaid, hrstands⟩ := hasKeptPayment_eq_true_iff.1 hkept
        rw [hasKeptPayment_eq_true_iff]
        by_cases hi : i = args.paymentId
        · rw [hi] at hr
          obtain rfl := Option.some.inj (hp.symm.trans hr)
          rcases hwent hrpaid with hstill | htakes
          · exact ⟨args.paymentId, q, hq, (hcampaign a).trans hrc, hstill,
              (hstands _).trans (hi ▸ hrstands)⟩
          · obtain ⟨k, other, hk, hne, hothers⟩ := hasOtherPayment_eq_true_iff.1
              ((SettleArgs.of_isOrderly horderly hp hrc had).2 htakes hup)
            have hne : k ≠ args.paymentId := fun hk => hne (hk ▸ rfl)
            exact ⟨k, other, (hother k hne).trans hk, hothers.1, hothers.2.1,
              (hstands k).trans hothers.2.2⟩
        · exact ⟨i, r, (hother i hi).trans hr, hrc, hrpaid, (hstands i).trans hrstands⟩
      have hrefunded : forall a ad, db.advertisements.findUnique a = some ad ->
          ad.status = .rejected ∨ ad.status = .cancelled ->
          refundsRequested db a = true -> refundsRequested db' a = true := by
        intro a ad had hended hrequested
        rw [refundsRequested_eq_true_iff] at hrequested ⊢
        intro i r hr hrc hrpaid
        have hbefore : HasRefundRow db i := by
          by_cases hi : i = args.paymentId
          · rw [hi] at hr ⊢
            obtain rfl := Option.some.inj (hq.symm.trans hr)
            rw [hcampaign] at hrc
            rcases hcame hrpaid with hpaid | hbrought
            · exact hrequested _ p hp hrc hpaid
            · have hopen := (SettleArgs.of_isOrderly horderly hp hrc had).1 hbrought
              rcases hended with hended | hended <;> rw [hended] at hopen <;> cases hopen
          · exact hrequested i r ((hother i hi).symm.trans hr) hrc hrpaid
        obtain ⟨j, refund, hrefund, howner⟩ := hbefore
        exact ⟨j, refund, hrefunds ▸ hrefund, howner⟩
      have hads := settlePaymentCore_advertisements hp hsettle
      have hends : EndsStay db db' := by
        intro a ad had hterminal
        rcases hads with hsame | ⟨hwrites, hpaid, b, hb, hads⟩
        · exact ⟨ad, hsame ▸ had, rfl⟩
        · by_cases hab : a = b
          · subst hab
            have hbrought : args.bringsPayment db p = true := by
              simp [SettleArgs.bringsPayment, hwrites, hpaid]
            rw [(SettleArgs.of_isOrderly horderly hp hb had).1 hbrought] at hterminal
            cases hterminal
          · refine ⟨ad, ?_, rfl⟩
            rw [hads, Table.findUnique_update_ne hab]
            exact had
      refine ⟨⟨fun a ad' had' => ?_, fun j r hr => ?_⟩, hends⟩
      · have hsound : forall ad, db.advertisements.findUnique a = some ad ->
            ad.Sound approved db' a := fun ad had =>
          (h.sound a ad had).congr (fun _ ha => ha) (hkept a ad had) (hrefunded a ad had)
        rcases hads with hsame | ⟨hwrites, hpaid, b, hb, hads⟩
        · exact hsound ad' (hsame ▸ had')
        · by_cases hab : a = b
          · subst hab
            rw [hads, Table.findUnique_update, if_pos rfl] at had'
            obtain ⟨ad, had, rfl⟩ := Option.map_eq_some_iff.1 had'
            have hbrought : args.bringsPayment db p = true := by
              simp [SettleArgs.bringsPayment, hwrites, hpaid]
            have hopen := (SettleArgs.of_isOrderly horderly hp hb had).1 hbrought
            have hadvertised : p.advertisementId = some a := by
              simp only [Payment.isForCampaign, Bool.and_eq_true, decide_eq_true_eq] at hb
              exact hb.2
            have hfree := h.refundStands_eq_false hp hadvertised had
              fun hcancelled => by rw [hcancelled] at hopen; cases hopen
            refine ⟨fun _ => ?_, fun hreviewed hactive => ?_, fun hended => ?_⟩
            · exact hasKeptPayment_eq_true_iff.2 ⟨args.paymentId, q, hq, (hcampaign a).trans hb,
                hbrings hbrought, (hstands _).trans hfree⟩
            · exact absurd hactive (ad.paid_not_active env _ hreviewed)
            · exact absurd hended (ad.paid_not_ended env _)
          · rw [hads, Table.findUnique_update_ne hab] at had'
            exact hsound ad' had'
      · rw [hrefunds] at hr
        obtain ⟨r', hr', hcancelled⟩ := h.refunds j r hr
        have hrow : exists p', db'.payments.findUnique r.paymentId = some p' ∧
            p'.advertisementId = r'.advertisementId := by
          by_cases hi : r.paymentId = args.paymentId
          · rw [hi] at hr' ⊢
            obtain rfl := Option.some.inj (hp.symm.trans hr')
            exact ⟨q, hq, hadId⟩
          · exact ⟨r', (hother _ hi).trans hr', rfl⟩
        obtain ⟨p', hp', hsame⟩ := hrow
        refine ⟨p', hp', fun a ha => ?_⟩
        obtain ⟨ad, had, hstatus⟩ := hcancelled a (hsame ▸ ha)
        obtain ⟨ad', had', hstatus'⟩ := hends a ad had (by rw [hstatus]; rfl)
        exact ⟨ad', had', hstatus'.trans hstatus⟩

/-! ### Cancellations -/

theorem isForCampaign_eq_true_iff :
    p.isForCampaign adId = true ↔ p.type = .advertising ∧ p.advertisementId = some adId := by
  simp only [Payment.isForCampaign, Bool.and_eq_true, decide_eq_true_eq]

theorem CampaignCancelled.refundsRequested {c : LoadedCancellation}
    (hdone : CampaignCancelled c db db') (hcovers : c.coversPayments db = true) :
    refundsRequested db' c.adId = true := by
  rw [refundsRequested_eq_true_iff]
  intro i p' hp' hcampaign hpaid
  obtain ⟨p, hp, hrow⟩ := hdone.moved.payments.of_right hp'
  have hbefore : p.isForCampaign c.adId = true :=
    isForCampaign_congr hrow.type hrow.advertisementId ▸ hcampaign
  unfold LoadedCancellation.coversPayments at hcovers
  rw [Bool.not_eq_true', Table.any_eq_false_iff] at hcovers
  have hcovered := hcovers i p hp
  cases hrequested : refundRequested db i with
  | true =>
      have hmarked : HasRefundRow
          { db with advertisements := db.advertisements.update c.adId c.cancelled } i :=
        refundRequested_eq_true_iff.1 hrequested
      exact hmarked.kept hdone.moved
  | false =>
      simp only [hbefore, hrow.paid hpaid, hrequested, decide_true, Bool.not_false, Bool.and_true,
        Bool.true_and, Bool.not_eq_false'] at hcovered
      obtain ⟨⟨k, read⟩, hread, hknown⟩ := List.any_eq_true.1 hcovered
      simp only [Bool.and_eq_true, decide_eq_true_eq, List.mem_cons, List.not_mem_nil,
        or_false] at hknown
      obtain ⟨rfl, hpending | hreadPaid⟩ := hknown
      · obtain ⟨q, hq, hunpaid⟩ := hdone.failed k read hread hpending
        obtain rfl := Option.some.inj (hp'.symm.trans hq)
        exact absurd hpaid hunpaid
      · exact hdone.refunded k read hread hreadPaid

theorem InCancellation.hasKeptPayment {other : Id} (hmoved : InCancellation adId db db')
    (hne : other ≠ adId) (hkept : hasKeptPayment db other = true) :
    hasKeptPayment db' other = true := by
  obtain ⟨i, p, hp, hcampaign, hpaid, hstands⟩ := hasKeptPayment_eq_true_iff.1 hkept
  have hother : p.advertisementId = some other := (isForCampaign_eq_true_iff.1 hcampaign).2
  obtain ⟨p', hp', hrow⟩ := hmoved.payments.of_left hp
  obtain rfl := hrow.others fun hsame => hne (Option.some.inj (hother.symm.trans hsame))
  refine hasKeptPayment_eq_true_iff.2 ⟨i, p', hp', hcampaign, hpaid, ?_⟩
  refine Bool.eq_false_of_not_eq_true fun hnow => ?_
  obtain ⟨j, r, hr, rfl, hstatus⟩ := refundStands_eq_true_iff.1 hnow
  rcases hmoved.requested j r hr with hold | ⟨q, hq, hcancelled⟩
  · rw [refundStands_eq_true_iff.2 ⟨j, r, hold, rfl, hstatus⟩] at hstands
    cases hstands
  · obtain rfl := Option.some.inj (hp.symm.trans hq)
    exact hne (Option.some.inj (hother.symm.trans hcancelled))

theorem InCancellation.refundsRequested {other : Id} (hmoved : InCancellation adId db db')
    (hne : other ≠ adId) (hrequested : refundsRequested db other = true) :
    refundsRequested db' other = true := by
  rw [refundsRequested_eq_true_iff] at hrequested ⊢
  intro i p' hp' hcampaign hpaid
  obtain ⟨p, hp, hrow⟩ := hmoved.payments.of_right hp'
  have hother : p'.advertisementId = some other := (isForCampaign_eq_true_iff.1 hcampaign).2
  obtain rfl := hrow.others fun hsame =>
    hne (Option.some.inj (hother.symm.trans (hrow.advertisementId.trans hsame)))
  exact (hrequested i p' hp hcampaign hpaid).kept hmoved

theorem CampaignInv.cancelled (h : CampaignInv approved db) {env : Env} {c : LoadedCancellation}
    (hcancel : c.cancel env db = .ok db')
    (hbelongs : forall i p, (i, p) ∈ c.payments -> BelongsTo c.adId db i)
    (hexists : exists ad, db.advertisements.findUnique c.adId = some ad)
    (horderly : c.isOrderly env db = true) :
    CampaignInv approved db' ∧ EndsStay db db' := by
  obtain ⟨ad, had⟩ := hexists
  have hdone := cancel_eq_ok hcancel hbelongs
  have hads : db'.advertisements = db.advertisements.update c.adId c.cancelled :=
    hdone.moved.advertisements
  have hself : db'.advertisements.findUnique c.adId = some (c.cancelled ad) := by
    rw [hads, Table.findUnique_update, if_pos rfl, had]
    rfl
  have hothers : forall a, a ≠ c.adId ->
      db'.advertisements.findUnique a = db.advertisements.findUnique a := by
    intro a ha
    rw [hads, Table.findUnique_update_ne ha]
  unfold LoadedCancellation.isOrderly at horderly
  rw [hcancel] at horderly
  simp only [had, Option.all_some, Bool.and_eq_true, decide_eq_true_eq] at horderly
  have hends : EndsStay db db' := by
    intro a before hbefore hterminal
    by_cases ha : a = c.adId
    · subst ha
      obtain rfl := Option.some.inj (had.symm.trans hbefore)
      refine ⟨_, hself, ?_⟩
      -- the only end that is left is a cancellation
      cases hstatus : ad.status <;> rw [hstatus] at hterminal horderly <;>
        simp [AdStatus.isTerminal, LoadedCancellation.cancelled] at hterminal horderly ⊢
    · exact ⟨before, (hothers a ha).trans hbefore, rfl⟩
  refine ⟨⟨fun a ad' had' => ?_, fun j r hr => ?_⟩, hends⟩
  · by_cases ha : a = c.adId
    · subst ha
      obtain rfl := Option.some.inj (hself.symm.trans had')
      exact ⟨nofun, fun _ => nofun, fun _ => hdone.refundsRequested horderly.2⟩
    · rw [hothers a ha] at had'
      exact (h.sound a ad' had').congr (fun _ hmem => hmem)
        (fun _ => hdone.moved.hasKeptPayment ha) fun _ => hdone.moved.refundsRequested ha
  · rcases hdone.moved.requested j r hr with hold | ⟨p, hp, hcampaign⟩
    · obtain ⟨p, hp, hcancelled⟩ := h.refunds j r hold
      obtain ⟨p', hp', hrow⟩ := hdone.moved.payments.of_left hp
      refine ⟨p', hp', fun a ha => ?_⟩
      obtain ⟨before, hbefore, hstatus⟩ := hcancelled a (hrow.advertisementId ▸ ha)
      obtain ⟨after, hafter, hsame⟩ := hends a before hbefore (by rw [hstatus]; rfl)
      exact ⟨after, hafter, hsame.trans hstatus⟩
    · obtain ⟨p', hp', hrow⟩ := hdone.moved.payments.of_left hp
      refine ⟨p', hp', fun a ha => ?_⟩
      obtain rfl := Option.some.inj (hcampaign.symm.trans (hrow.advertisementId.symm.trans ha))
      exact ⟨_, hself, rfl⟩

/-! ### Any write -/

theorem CampaignInv.written (h : CampaignInv approved db) {label : CampaignWrite}
    (hmeans : label.Means db db') (horderly : label.isOrderly approved db = true) :
    CampaignInv (approved ++ CampaignSession.approvals (some label)) db' ∧ EndsStay db db' := by
  cases label with
  | payment write =>
      rw [show approved ++ CampaignSession.approvals (some (.payment write)) = approved from
        List.append_nil _]
      cases write with
      | settle args =>
          obtain ⟨env, hsettle⟩ := hmeans
          exact h.settled hsettle horderly
      | create data => exact ⟨h.campaignsKept hmeans, .of_eq hmeans.advertisements⟩
      | other => exact ⟨h.campaignsKept hmeans, .of_eq hmeans.advertisements⟩
  | changeStatus env adId requested status rejectionReason =>
      obtain rfl := hmeans
      refine h.updated (fun a ha => List.mem_append_left _ ha)
        rfl (fun _ => rfl) (fun _ => rfl) ?_ rfl rfl
      have happrovals : (if requested = .approved then approved ++ [adId] else approved) =
          approved ++ CampaignSession.approvals
            (some (.changeStatus env adId requested status rejectionReason)) := by
        cases requested <;> simp [CampaignSession.approvals]
      rw [← happrovals]
      exact horderly
  | cancel env loaded =>
      obtain ⟨hcancel, hexists, hbelongs⟩ := hmeans
      rw [show approved ++ CampaignSession.approvals (some (.cancel env loaded)) = approved from
        List.append_nil _]
      exact h.cancelled hcancel hbelongs hexists horderly
  | publishTelegram env adId postReference =>
      obtain rfl := hmeans
      rw [show approved ++ CampaignSession.approvals
        (some (.publishTelegram env adId postReference)) = approved from List.append_nil _]
      exact h.updated (fun _ ha => ha) rfl
        (fun _ => rfl) (fun _ => rfl) horderly rfl rfl

end Steps

/-! ## Sessions -/

namespace CampaignSession

variable {origins : Id -> InspectionOrigin} {s s' : CampaignSession}

/-- Every request in flight keeps its promises, and the campaigns are sound. -/
structure Inv (s : CampaignSession) : Prop where
  kept : s.server.Keeps CampaignsEvolve CampaignWrite.Means
  campaigns : CampaignInv s.approved s.db

theorem Inv.submit (h : Inv s) {r : CampaignRequest} (hr : CampaignRequest.Kept r s.db) :
    Inv (s.submit r) ∧ EndsStay s.db (s.submit r).db :=
  ⟨⟨h.kept.submit hr, h.campaigns⟩, .refl s.db⟩

theorem Inv.setDb (h : Inv s) {db : Db} (hevolve : CampaignsEvolve s.db db)
    (hcampaigns : CampaignInv s.approved db ∧ EndsStay s.db db) :
    Inv (s.setDb db) ∧ EndsStay s.db (s.setDb db).db :=
  ⟨⟨h.kept.moved (fun _ _ _ => .trans) rfl hevolve, hcampaigns.1⟩, hcampaigns.2⟩

theorem Inv.advance (h : Inv s) {k : Nat}
    (horderly : (s.server.publishes k).all (CampaignWrite.isOrderly s.approved s.db) = true)
    (hserver : s'.server = s.server.advance k)
    (happroved : s'.approved = s.approved ++ approvals (s.server.publishes k)) :
    Inv s' ∧ EndsStay s.db s'.db := by
  obtain ⟨hkept, hstate⟩ := h.kept.advance .refl (fun _ _ _ => .trans) k
    fun label db' _ hmeans => hmeans.evolves
  rw [← hserver] at hkept hstate
  rcases hstate with hsame | ⟨label, hlabel, hmeans⟩
  · have hdb : s'.db = s.db := hsame
    have hmore : forall a, a ∈ s.approved -> a ∈ s'.approved := by
      rw [happroved]
      exact fun a ha => List.mem_append_left _ ha
    have hcampaigns : CampaignInv s'.approved s.db ∧ EndsStay s.db s.db :=
      h.campaigns.moved hmore (.refl .refl _) rfl rfl
    rw [← hdb] at hcampaigns
    exact ⟨⟨hkept, hcampaigns.1⟩, .of_eq (by rw [hdb])⟩
  · rw [hlabel, Option.all_some] at horderly
    obtain ⟨hcampaigns, hends⟩ := h.campaigns.written hmeans horderly
    rw [hlabel] at happroved
    refine ⟨⟨hkept, ?_⟩, hends⟩
    rw [happroved]
    exact hcampaigns

theorem Inv.step (h : Inv s) {a : Env × CampaignStep} (ha : s.isOrderly a = true) :
    Inv (s.step origins a) ∧ EndsStay s.db (s.step origins a).db := by
  obtain ⟨env, step⟩ := a
  -- the statements that write one table of campaigns at once
  have hads : forall {f : Db -> Db} {R : Nat -> Advertisement -> Advertisement -> Prop},
      (f s.db).payments = s.db.payments -> s.db.advertisements.Rel R (f s.db).advertisements ->
      CampaignsEvolve s.db (f s.db) := fun hpayments hads => .of_advertisements hpayments hads
  cases step with
  | create ad =>
      refine h.setDb ⟨fun _ p hp => ⟨p, hp, rfl, rfl⟩, fun a ad had => ?_⟩ (h.campaigns.created ad)
      exact ⟨ad, Table.findUnique_create_of_some had⟩
  | post caller body =>
      exact h.submit (PaymentRequest.kept_of_writes
        (PaymentBody.request_writes onlyCreates_keepsCampaigns) s.db)
  | initializePayment caller paymentId =>
      exact h.submit (PaymentRequest.kept_of_writes
        (initializeRequest_keepsCampaigns env caller paymentId) s.db)
  | settle args => exact h.submit (settleRequest_kept env args s.db)
  | finalizePlan paymentId => exact h.submit (finalizeRequest_kept env paymentId s.db)
  | createChildren paymentId =>
      exact h.submit (PaymentRequest.kept_of_writes (childrenRequest_keepsCampaigns paymentId) s.db)
  | changeStatus caller adId requested rejectionReason =>
      exact h.submit (statusRequest_kept env caller adId requested rejectionReason s.db)
  | cancel caller adId reason => exact h.submit (cancelRequest_kept env caller adId reason s.db)
  | publishTelegram caller adId postReference =>
      exact h.submit (telegramRequest_kept env caller adId postReference s.db)
  | advance k => exact h.advance (k := k) ha rfl rfl
  | answer k opened => exact ⟨⟨h.kept.answer k opened, h.campaigns⟩, .refl s.db⟩
  | broadcast key =>
      refine h.setDb (hads rfl (Table.rel_updateMany (R := fun _ _ _ => True) (fun _ _ => trivial)
        fun _ _ _ _ => trivial)) (h.campaigns.broadcast fun adId ad had hnames => ?_)
      have ha : (!s.db.advertisements.any fun adId ad =>
          key.names adId ad && !ad.mayBecome s.approved s.db adId .published) = true := ha
      rw [Bool.not_eq_true', Table.any_eq_false_iff] at ha
      simpa [hnames] using ha adId ad had
  | expire =>
      exact h.setDb (hads rfl (Table.rel_updateMany (R := fun _ _ _ => True) (fun _ _ => trivial)
        fun _ _ _ _ => trivial)) (h.campaigns.expired env)
  | activate =>
      exact h.setDb (hads rfl (Table.rel_updateMany (R := fun _ _ _ => True) (fun _ _ => trivial)
        fun _ _ _ _ => trivial)) (h.campaigns.activated env)
  | elsewhere other =>
      have hkept : CampaignsKept s.db { other with
          advertisements := s.db.advertisements
          payments := s.db.payments
          refunds := s.db.refunds } := .of_eq rfl rfl rfl
      exact h.setDb hkept.evolves ⟨h.campaigns.campaignsKept hkept, .of_eq rfl⟩

theorem Inv.of_fresh (h : s.IsFresh) : Inv s := by
  refine ⟨fun a ha => ?_, fun adId ad had => ?_, fun j r hr => ?_⟩
  · rw [h.active] at ha
    cases ha
  · rw [h.advertisements, Table.findUnique_empty] at had
    cases had
  · obtain ⟨p, hp, hnone⟩ := h.refunds j r hr
    exact ⟨p, hp, fun adId hcampaign => by rw [hnone] at hcampaign; cases hcampaign⟩

/-! ## Runs -/

open PaymentSession (noInspections campaignBody noticeOf)

def emptyMarket : CampaignSession :=
  { server := { state := {} } }

theorem emptyMarket_isFresh : emptyMarket.IsFresh :=
  ⟨rfl, rfl, rfl, nofun⟩

def banner : Advertisement :=
  { type := .banner
    startDate := 10
    endDate := 100
    advertiserId := 2
    priceQuoted := 100 }

def admin : Caller :=
  { userId := 1
    isAdmin := true }

def statements (k n : Nat) : List (Env × CampaignStep) :=
  List.replicate n ({ now := 1 }, .advance k)

def createdAndPosted : List (Env × CampaignStep) :=
  ({ now := 1 }, .create banner) :: ({ now := 1 }, .post { userId := 2 } campaignBody) ::
    statements 0 8

def reported (status : PaymentStatus) (k : Nat) : List (Env × CampaignStep) :=
  ({ now := 1 }, .settle (noticeOf status 0)) :: statements k 6

def ruling (status : AdStatus) (k : Nat) : List (Env × CampaignStep) :=
  ({ now := 2 }, .changeStatus admin 0 status none) :: statements k 1

/-- The banner is paid, approved, published when it starts and expired when it ends. -/
def servedBanner : List (Env × CampaignStep) :=
  createdAndPosted ++ reported .paid 1 ++ ruling .approved 2 ++ statements 2 1 ++
    [({ now := 10 }, .activate), ({ now := 100 }, .expire)]

def hasUnsound (s : CampaignSession) : Bool :=
  s.db.advertisements.any fun adId ad => !ad.mayBecome s.approved s.db adId ad.status

def leavesEnd (db db' : Db) : Bool :=
  db.advertisements.any fun adId ad => ad.status.isTerminal &&
    (db'.advertisements.findUnique adId).all fun ad' => ad'.status ≠ ad.status

theorem not_sound_of_hasUnsound (h : s.hasUnsound = true) : ¬ s.Sound := by
  intro hsound
  obtain ⟨adId, ad, had, hnot⟩ := Table.any_eq_true_iff.1 h
  rw [Bool.not_eq_true'] at hnot
  have hmay : ad.mayBecome s.approved s.db adId ad.status = true :=
    Advertisement.mayBecome_eq_true_iff.2 ⟨fun _ => rfl, hsound adId ad had⟩
  rw [hnot] at hmay
  cases hmay

theorem not_endsStay_of_leavesEnd {db db' : Db} (h : leavesEnd db db' = true) :
    ¬ EndsStay db db' := by
  intro hends
  obtain ⟨adId, ad, had, hleft⟩ := Table.any_eq_true_iff.1 h
  simp only [Bool.and_eq_true] at hleft
  obtain ⟨ad', had', hsame⟩ := hends adId ad had hleft.1
  have hleft := hleft.2
  rw [had', Option.all_some, decide_eq_true_eq] at hleft
  exact hleft hsame

theorem not_runMeets_of_last {as : List (Env × CampaignStep)} {a : Env × CampaignStep}
    (h : ((run (step noInspections) emptyMarket as).step noInspections a).hasUnsound = true ∨
      leavesEnd (run (step noInspections) emptyMarket as).db
        ((run (step noInspections) emptyMarket as).step noInspections a).db = true) :
    ¬ RunMeets (step noInspections) (KeepsLaw noInspections) emptyMarket (as ++ [a]) := by
  intro hrun
  rw [runMeets_append] at hrun
  obtain ⟨hsound, hends⟩ := hrun.2.1
  rcases h with hunsound | hleft
  · exact not_sound_of_hasUnsound hunsound hsound
  · exact not_endsStay_of_leavesEnd hleft hends

/-- The checkout is open when the advertiser cancels, and the money arrives afterwards. -/
def cancelledInCheckout : List (Env × CampaignStep) :=
  createdAndPosted ++
    ({ now := 1 }, .initializePayment { userId := 2 } 0) :: statements 1 3 ++
    ({ now := 1 }, .cancel { userId := 2 } 0 none) :: statements 2 2 ++
    [({ now := 1 }, .settle (noticeOf .paid 0))]

end CampaignSession

end MarketBridge
