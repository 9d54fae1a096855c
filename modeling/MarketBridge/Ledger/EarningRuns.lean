import MarketBridge.Ledger.EarningSettlements

/-!
# Earnings in a run

In every run the earnings, commissions and payouts have the amounts of the splits.  A payment
has its earning exactly when it has its payout, unless the run puts its receipt aside: then the
ledger books it at once, and the payout waits for the end of the dispute or is not held at all.
-/

namespace MarketBridge

open Relational

/-! ## Steps -/

/-- A payment that somebody earns is one of `createPayment`, in cents and with a percentage. -/
def Payment.IsPriced (payment : Payment) : Prop :=
  payment.type.isEarned = true -> exists env data amount obligationId,
    IsCents amount ∧ 0 < amount ∧ 0 ≤ CreatePaymentData.rate env data ∧ data.rate env ≤ 100 ∧
    payment = data.row env amount obligationId

/-- The new payments are priced, and nothing but settlements writes the ledger. -/
def MarketStep.BooksEarnings (db : Db) (a : Env × MarketStep) : Prop :=
  match a.2 with
  | .checkout (.createPayment payment) => payment.IsPriced
  | .elsewhere other => other.ledgerEntries = db.ledgerEntries
  | _ => True

/--
The step puts the receipt of the payment aside: it receives the payment while its order is
disputed or does not wait for it, or holds the payout at the end of the dispute only.
-/
def MarketStep.SetsApart (i : Id) (db : Db) (a : Env × MarketStep) : Prop :=
  match a.2 with
  | .settlePayment args =>
      ReceivesAside args db i ∨ exists settled parent,
        settleOrReconcile a.1 args db = .ok settled ∧
        planOfInstallment settled args.paymentId = some i ∧
        ReceivesAside (planNotice i parent) settled i
  | step =>
      db.payouts.holdsKey (fun payout => payout.terms.1) i = false ∧
        exists orderId p, step.EndsDispute db orderId ∧ db.payments.findUnique i = some p ∧
          p.orderId = some orderId ∧ p.status = .paid

section Steps

variable {env : Env} {db db' : Db} {i : Id} {p : Payment}

theorem Payment.IsPriced.split (h : p.IsPriced) (hearned : p.type.isEarned = true) :
    p.asCreated.Split := by
  obtain ⟨env, data, amount, obligationId, hcents, hpos, hlow, hhigh, rfl⟩ := h hearned
  have hsplit : (data.row env amount obligationId).Split :=
    CreatePaymentData.row_split hcents hpos ⟨hlow, hhigh⟩
  exact ⟨⟨hsplit.priced.cents, hsplit.priced.commission_nonneg, hsplit.priced.commission_le⟩,
    hsplit.commission, hsplit.net⟩

theorem EarningsSound.create (h : EarningsSound db)
    (hsplit : p.type.isEarned = true -> p.Split) :
    EarningsSound { db with payments := db.payments.create p } := by
  have hstays : forall i q, db.payments.findUnique i = some q ->
      (db.payments.create p).findUnique i = some q := fun i q hq =>
    Table.findUnique_create_of_some hq
  refine ⟨h.keyed, h.heldOnce, ?_, ?_, ?_, ?_⟩
  · intro i q hq hearned
    have hq' : (db.payments.create p).findUnique i = some q := hq
    rcases Table.of_findUnique_create hq' with ⟨-, rfl⟩ | ⟨-, hq'⟩
    · exact hsplit hearned
    · exact h.split i q hq' hearned
  · intro k e he
    obtain ⟨q, hq, hshare⟩ := h.entry k e he
    exact ⟨q, hstays _ q hq, hshare⟩
  · intro i q hq hearned hbooked hpositive
    obtain ⟨k, e, he, hkey⟩ := Table.holdsKey_iff.mp hbooked
    obtain ⟨q', hq', -⟩ := h.entry k e he
    have howner : e.paymentId = i := congrArg Prod.fst hkey
    rw [howner] at hq'
    have hsame : some q' = some q := (hstays i q' hq').symm.trans hq
    obtain rfl := Option.some.inj hsame
    exact h.commission i q' hq' hearned hbooked hpositive
  · intro k payout hk
    obtain ⟨q, hq, hrest⟩ := h.payout k payout hk
    exact ⟨q, hstays _ q hq, hrest⟩

theorem Paired.create (h : Paired db i) (hsound : EarningsSound db) (p : Payment) :
    Paired { db with payments := db.payments.create p } i := by
  intro q hq hearned hpositive userId
  have hq' : (db.payments.create p).findUnique i = some q := hq
  rw [Table.findUnique_create] at hq'
  split at hq'
  · next hi =>
      refine iff_of_false ?_ ?_
      · rintro ⟨k, e, he, hkey, -⟩
        obtain ⟨r, hr, -⟩ := hsound.entry k e he
        rw [show e.paymentId = i from congrArg Prod.fst hkey, hi, Table.findUnique_size] at hr
        cases hr
      · rintro ⟨k, payout, hk, howner, -⟩
        obtain ⟨r, hr, -⟩ := hsound.payout k payout hk
        rw [howner, hi, Table.findUnique_size] at hr
        cases hr
  · exact h q hq' hearned hpositive userId

variable {args : SettleArgs}

theorem reconcileInventory_books (h : reconcileInventory env args db = .ok db') :
    db'.ledgerEntries = db.ledgerEntries ∧ db'.payouts = db.payouts := by
  obtain ⟨p, payments, events, issues, -, -, rfl⟩ := reconcileInventory_eq_ok h
  exact ⟨rfl, rfl⟩

theorem EarningsSound.of_eq (h : EarningsSound db) (hcore : CoreKept db db')
    (hledger : db'.ledgerEntries = db.ledgerEntries) (hpayouts : db'.payouts = db.payouts) :
    EarningsSound db' := by
  have hgained : HoldsGained (fun _ => False) db.payouts db'.payouts := by
    rw [hpayouts]
    exact .refl _
  exact h.of_gained hcore hledger hgained fun _ hmay => hmay.elim

theorem Paired.of_eq (h : Paired db i) (hcore : CoreKept db db')
    (hledger : db'.ledgerEntries = db.ledgerEntries) (hpayouts : db'.payouts = db.payouts) :
    Paired db' i :=
  h.of_iff hcore fun _ _ _ _ userId =>
    ⟨hasEarning_congr hledger _ userId, hasPayout_congr hpayouts userId⟩

theorem releaseBiddersAfter_books (paymentId : Id) (db : Db) :
    CoreKept db (releaseBiddersAfter paymentId db) ∧
      (releaseBiddersAfter paymentId db).ledgerEntries = db.ledgerEntries ∧
      (releaseBiddersAfter paymentId db).payouts = db.payouts := by
  obtain ⟨offers, hframe⟩ := releaseBiddersAfter_frame paymentId db
  rw [hframe]
  exact ⟨.of_eq rfl, rfl, rfl⟩

theorem EarningsSound.settlePayment (h : EarningsSound db)
    (hok : MarketBridge.settlePayment env args db = .ok db') :
    EarningsSound db' := by
  refine settlePayment_rel (R := fun s t => EarningsSound s -> EarningsSound t)
    (fun _ => id) (fun hst htu hs => htu (hst hs)) (fun hcore hs => hs.settlePaymentCore hcore)
    ?_ ?_ hok h
  · intro s t hreconcile hs
    obtain ⟨hledger, hpayouts⟩ := reconcileInventory_books hreconcile
    exact hs.of_eq (reconcileInventory_coreKept hreconcile) hledger hpayouts
  · intro paymentId s hs
    obtain ⟨hcore, hledger, hpayouts⟩ := releaseBiddersAfter_books paymentId s
    exact hs.of_eq hcore hledger hpayouts

theorem Paired.settlePayment (h : Paired db i) (hsound : EarningsSound db)
    (hapart : ¬ MarketStep.SetsApart i db (env, .settlePayment args))
    (hok : MarketBridge.settlePayment env args db = .ok db') :
    Paired db' i := by
  obtain ⟨haside, hplanned⟩ := not_or.mp hapart
  obtain ⟨settled, planned, paymentId, hsettle, hplan, rfl⟩ := settlePayment_stages hok
  have hfirst : EarningsSound settled ∧ Paired settled i := by
    rcases settleOrReconcile_cases hsettle with hcore | ⟨-, hreconcile⟩
    · exact ⟨hsound.settlePaymentCore hcore, h.settlePaymentCore hsound haside hcore⟩
    · obtain ⟨hledger, hpayouts⟩ := reconcileInventory_books hreconcile
      have hkept := reconcileInventory_coreKept hreconcile
      exact ⟨hsound.of_eq hkept hledger hpayouts, h.of_eq hkept hledger hpayouts⟩
  have hsecond : Paired planned i := by
    rcases hplan with rfl | ⟨parentPaymentId, parent, hparent, hcore⟩
    · exact hfirst.2
    · refine hfirst.2.settlePaymentCore hfirst.1 ?_ hcore
      intro hput
      have hi : parentPaymentId = i := by
        obtain ⟨-, -, hid, -⟩ := hput
        exact hid
      subst hi
      exact hplanned ⟨settled, parent, hsettle, hparent, hput⟩
  obtain ⟨hcore, hledger, hpayouts⟩ := releaseBiddersAfter_books paymentId planned
  exact hsecond.of_eq hcore hledger hpayouts

theorem MarketStep.coreKept {a : MarketStep}
    (hold : forall payment, a ≠ .checkout (.createPayment payment))
    (hother : forall args, a ≠ .settlePayment args) :
    CoreKept db (step db (env, a)) := by
  have heffect := MarketStep.money env db a
  generalize step db (env, a) = db' at heffect
  cases heffect with
  | kept _ _ hkept => exact .of_eq hkept.payments
  | created payment => exact absurd rfl (hold payment)
  | moved _ _ hpayments => exact Table.Rel.mono hpayments fun _ _ _ hmoved => hmoved.1
  | cancelled _ record _ _ hcancelled =>
      exact Table.Rel.mono hcancelled.payments fun _ _ _ hmoved => hmoved.1
  | settled args => exact absurd rfl (hother args)
  | elsewhere other _ hpayments => exact .of_eq hpayments

theorem MarketStep.ledgerKept {a : MarketStep} (hbooks : MarketStep.BooksEarnings db (env, a))
    (hother : forall args, a ≠ .settlePayment args) :
    (step db (env, a)).ledgerEntries = db.ledgerEntries := by
  have heffect := MarketStep.money env db a
  generalize step db (env, a) = db' at heffect
  cases heffect with
  | kept _ _ hkept => exact hkept.ledgerEntries
  | created payment => rfl
  | moved _ _ _ hledger => exact hledger
  | cancelled _ record _ _ hcancelled => exact hcancelled.ledgerEntries
  | settled args => exact absurd rfl (hother args)
  | elsewhere other _ _ hledger => exact hledger.trans hbooks

theorem EarningsSound.step {a : Env × MarketStep} (h : EarningsSound db)
    (hbooks : MarketStep.BooksEarnings db a) :
    EarningsSound (MarketStep.step db a) := by
  obtain ⟨env, a⟩ := a
  by_cases hsettle : exists args, a = .settlePayment args
  · obtain ⟨args, rfl⟩ := hsettle
    exact commit_preserves (P := EarningsSound) h fun _ hok => h.settlePayment hok
  · by_cases hcreate : exists payment, a = .checkout (.createPayment payment)
    · obtain ⟨payment, rfl⟩ := hcreate
      have hpriced : payment.IsPriced := hbooks
      exact h.create fun hearned => hpriced.split hearned
    · have hother : forall args, a ≠ .settlePayment args := fun args ha => hsettle ⟨args, ha⟩
      refine h.of_gained (MarketStep.coreKept (fun payment ha => hcreate ⟨payment, ha⟩) hother)
        (MarketStep.ledgerKept hbooks hother) (MarketStep.holdsGained hother) ?_
      rintro terms ⟨orderId, -, p, hp, -, -, hearned, hamount⟩
      refine ⟨p, hp, hearned, ?_⟩
      rw [hamount, (h.split _ p hp hearned).net]
      rfl

theorem Paired.step {a : Env × MarketStep} (h : Paired db i) (hsound : EarningsSound db)
    (hbooks : MarketStep.BooksEarnings db a) (hapart : ¬ MarketStep.SetsApart i db a) :
    Paired (MarketStep.step db a) i := by
  obtain ⟨env, a⟩ := a
  by_cases hsettle : exists args, a = .settlePayment args
  · obtain ⟨args, rfl⟩ := hsettle
    exact commit_preserves (P := fun db' => Paired db' i) h fun _ hok =>
      h.settlePayment hsound hapart hok
  · by_cases hcreate : exists payment, a = .checkout (.createPayment payment)
    · obtain ⟨payment, rfl⟩ := hcreate
      exact h.create hsound payment.asCreated
    · have hother : forall args, a ≠ .settlePayment args := fun args ha => hsettle ⟨args, ha⟩
      have hgained : HoldsGained (a.MayHold db) db.payouts (MarketStep.step db (env, a)).payouts :=
        MarketStep.holdsGained hother
      refine h.of_iff (MarketStep.coreKept (fun payment ha => hcreate ⟨payment, ha⟩) hother)
        fun _ _ _ _ userId => ⟨hasEarning_congr (MarketStep.ledgerKept hbooks hother) _ userId,
          hasPayout_of_gained hgained ?_ userId⟩
      rintro terms ⟨orderId, hends, p, hp, horder, hpaid, -, -⟩ rfl
      by_contra hfree
      have hends' := hends
      obtain ⟨adminId, disputeId, resolutionType, resolution, dispute, rfl, -⟩ := hends
      exact hapart ⟨Bool.eq_false_iff.mpr hfree, orderId, p, hends', hp, horder, hpaid⟩

end Steps

/-! ## Runs -/

/-- Nothing is booked and nothing is held yet, and what will be earned is split. -/
structure BeforeEarnings (db : Db) : Prop where
  ledger : db.ledgerEntries = Table.empty
  payouts : db.payouts = Table.empty
  split : forall i p, db.payments.findUnique i = some p -> p.type.isEarned = true -> p.Split

section Runs

variable {db : Db} {as : List (Env × MarketStep)} {i : Id} {p : Payment}

theorem BeforeEarnings.sound (h : BeforeEarnings db) : EarningsSound db := by
  refine ⟨?_, ?_, h.split, ?_, ?_, ?_⟩
  · rw [h.ledger]
    exact Table.keyed_empty
  · rw [h.payouts]
    exact Table.keyed_empty
  · intro k e he
    rw [h.ledger, Table.findUnique_empty] at he
    cases he
  · intro i p _ _ hbooked _
    obtain ⟨k, e, he, -⟩ := Table.holdsKey_iff.mp hbooked
    rw [h.ledger, Table.findUnique_empty] at he
    cases he
  · intro k payout hk
    rw [h.payouts, Table.findUnique_empty] at hk
    cases hk

theorem BeforeEarnings.paired (h : BeforeEarnings db) (i : Id) : Paired db i := by
  intro p hp _ _ userId
  refine iff_of_false ?_ ?_
  · rintro ⟨k, e, he, -⟩
    rw [h.ledger, Table.findUnique_empty] at he
    cases he
  · rintro ⟨k, payout, hk, -⟩
    rw [h.payouts, Table.findUnique_empty] at hk
    cases hk

def commissionBooked (db : Db) (i : Id) : ℚ :=
  db.ledgerEntries.sumOf fun _ e => if entryKey e = (i, .platformCommission) then e.amount else 0

theorem EarningsSound.commissionBooked (h : EarningsSound db)
    (hp : db.payments.findUnique i = some p) (hearned : p.type.isEarned = true)
    (hbooked : db.ledgerEntries.holdsKey entryKey (i, earningType p.type) = true) :
    commissionBooked db i = ledgerCommission p := by
  have hshare : forall k e, db.ledgerEntries.findUnique k = some e ->
      entryKey e = (i, .platformCommission) -> e.amount = ledgerCommission p := by
    intro k e he hkey
    obtain ⟨q, hq, hpart⟩ := h.entry k e he
    have htype : e.type = .platformCommission := congrArg Prod.snd hkey
    rw [show e.paymentId = i from congrArg Prod.fst hkey, hp, Option.some.injEq] at hq
    subst hq
    rcases hpart hearned with hrefund | ⟨hearning, -, -⟩ | ⟨-, hamount⟩
    · rw [htype] at hrefund
      cases hrefund
    · exact absurd (hearning.symm.trans htype) (earningType_ne _).1
    · exact hamount
  unfold MarketBridge.commissionBooked
  by_cases hpositive : 0 < ledgerCommission p
  · obtain ⟨k, e, he, hkey⟩ :=
      Table.holdsKey_iff.mp (h.commission i p hp hearned hbooked hpositive)
    rw [Table.sumOf_of_single he, if_pos hkey, hshare k e he hkey]
    intro j s hs hj
    exact if_neg fun hsame => hj (h.keyed j k s e hs he (hsame.trans hkey.symm))
  · have hzero : ledgerCommission p = 0 :=
      le_antisymm (not_lt.mp hpositive) (h.split i p hp hearned).priced.commission_nonneg
    rw [hzero]
    apply Table.sumOf_of_zero
    intro k e he
    split
    · next hkey =>
        rw [hshare k e he hkey, hzero]
    · rfl

/--
The earning of the payment and its payout are of the net amount, there is one of each, and
earning and commission are the amount of the payment.
-/
structure EarningsAgree (db : Db) (i : Id) (p : Payment) (net : ℚ) : Prop where
  earning : forall k e, db.ledgerEntries.findUnique k = some e ->
    entryKey e = (i, earningType p.type) ->
    e.amount = net ∧ e.amount + commissionBooked db i = p.amount
  earnedOnce : forall k l e e', db.ledgerEntries.findUnique k = some e ->
    db.ledgerEntries.findUnique l = some e' -> entryKey e = (i, earningType p.type) ->
    entryKey e' = (i, earningType p.type) -> k = l
  payout : forall k payout, db.payouts.findUnique k = some payout -> payout.paymentId = i ->
    payout.amount = net
  heldOnce : forall k l payout payout', db.payouts.findUnique k = some payout ->
    db.payouts.findUnique l = some payout' -> payout.paymentId = i -> payout'.paymentId = i -> k = l

theorem EarningsSound.agree (h : EarningsSound db) (hp : db.payments.findUnique i = some p)
    (hearned : p.type.isEarned = true) {net : ℚ} (hnet : p.netAmount = some net) :
    EarningsAgree db i p net := by
  have hsplit := h.split i p hp hearned
  have hsame : net = netAmount p := Option.some.inj (hnet.symm.trans hsplit.net)
  refine ⟨?_, ?_, ?_, ?_⟩
  · intro k e he hkey
    have htype : e.type = earningType p.type := congrArg Prod.snd hkey
    have hamount : e.amount = netAmount p := by
      obtain ⟨q, hq, hpart⟩ := h.entry k e he
      rw [show e.paymentId = i from congrArg Prod.fst hkey, hp, Option.some.injEq] at hq
      subst hq
      rcases hpart hearned with hrefund | ⟨-, hamount, -⟩ | ⟨hcommission, -⟩
      · exact absurd (htype.symm.trans hrefund) (earningType_ne _).2
      · exact hamount
      · exact absurd (htype.symm.trans hcommission) (earningType_ne _).1
    rw [h.commissionBooked hp hearned (Table.holdsKey_iff.mpr ⟨k, e, he, hkey⟩), hamount]
    exact ⟨hsame.symm, netAmount_add_commission hsplit.priced⟩
  · intro k l e e' he he' hkey hkey'
    exact h.keyed k l e e' he he' (hkey.trans hkey'.symm)
  · intro k payout hk howner
    obtain ⟨q, hq, -, hamount⟩ := h.payout k payout hk
    rw [howner, hp, Option.some.injEq] at hq
    subst hq
    exact Option.some.inj (hamount.symm.trans hnet)
  · intro k l payout payout' hk hl howner howner'
    exact h.heldOnce k l payout payout' hk hl (howner.trans howner'.symm)

/--
A created payment is split to the cent, and in every run its earning and its payout agree with
the split.  They exist together and for one beneficiary unless a step puts the receipt aside.
-/
theorem earnings_agree :
    (forall env data db db' id amount, CreatePaymentData.amount data = .finite amount ->
      IsCents amount -> 0 ≤ data.rate env -> data.rate env ≤ 100 ->
      createPayment env data db = .ok (db', id) -> db.payments.findUnique id = none ->
      exists p commission net, db'.payments.findUnique id = some p ∧ p.amount = amount ∧
        p.commissionAmount = some commission ∧ p.netAmount = some net ∧
        0 ≤ commission ∧ 0 ≤ net ∧ commission + net = amount) ∧
    (forall db as, BeforeEarnings db ->
      RunMeets MarketStep.step MarketStep.BooksEarnings db as ->
      forall i p net, (run MarketStep.step db as).payments.findUnique i = some p ->
        p.type.isEarned = true -> p.netAmount = some net -> 0 < net ->
        EarningsAgree (run MarketStep.step db as) i p net ∧
          (RunMeets MarketStep.step (fun s a => ¬ MarketStep.SetsApart i s a) db as ->
            forall userId,
              HasEarning (run MarketStep.step db as) i (earningType p.type) userId ↔
                HasPayout (run MarketStep.step db as) i userId)) := by
  refine ⟨?_, ?_⟩
  · intro env data db db' id amount hamount hcents hlow hhigh hok hnew
    obtain ⟨p, hp, hstored, hsplit⟩ :=
      createPayment_split hamount hcents ⟨hlow, hhigh⟩ hok hnew
    obtain ⟨commission, net, hcommission, hnet, hnonneg, hnonneg', hsum⟩ := hsplit.parts
    exact ⟨p, commission, net, hp, hstored, hcommission, hnet, hnonneg, hnonneg',
      hsum.trans hstored⟩
  · intro db as hstart hbooks i p net hp hearned hnet hpositive
    have hsound : EarningsSound (run MarketStep.step db as) :=
      @run_invariant _ _ _ _ EarningsSound (fun _ _ hs hstep => hs.step hstep) _ _
        hstart.sound hbooks
    refine ⟨hsound.agree hp hearned hnet, fun hapart => ?_⟩
    have hpair : EarningsSound (run MarketStep.step db as) ∧
        Paired (run MarketStep.step db as) i :=
      @run_invariant _ _ _ _ (fun s => EarningsSound s ∧ Paired s i)
        (fun _ _ hs hstep => ⟨hs.1.step hstep.1, hs.2.step hs.1 hstep.1 hstep.2⟩) _ _
        ⟨hstart.sound, hstart.paired i⟩ (hbooks.and hapart)
    have hsplit := hsound.split i p hp hearned
    rw [Option.some.inj (hnet.symm.trans hsplit.net)] at hpositive
    exact hpair.2 p hp hearned hpositive

end Runs

/-! ## A receipt under dispute -/

theorem checkedOutDb_beforeEarnings : BeforeEarnings checkedOutDb := by
  have hcommission : ledgerCommission checkedOutGoods = 5 := by
    show roundMoney 5 = 5
    exact roundMoney_of_isCents ⟨500, by norm_num⟩
  refine ⟨rfl, rfl, ?_⟩
  intro i p hp _
  have hi : i < 1 := Table.lt_size_of_findUnique hp
  obtain rfl : i = 0 := Nat.lt_one_iff.mp hi
  obtain rfl := Option.some.inj hp
  refine ⟨checkedOutGoods_wellFormed.priced, ?_, ?_⟩
  · rw [hcommission]
    rfl
  · have hnet := netAmount_add_commission checkedOutGoods_wellFormed.priced
    rw [hcommission] at hnet
    have hamount : checkedOutGoods.amount = 100 := rfl
    have hvalue : netAmount checkedOutGoods = 95 := by
      rw [hamount] at hnet
      linarith
    rw [hvalue]
    rfl

def goodsPaid : List (Env × MarketStep) :=
  [(env0, goodsNotice .paid "paid-1")]

theorem goodsPaid_agree :
    HasEarning (run MarketStep.step checkedOutDb goodsPaid) 0 .sellerEarning 2 ∧
      HasPayout (run MarketStep.step checkedOutDb goodsPaid) 0 2 ∧
      EarningsAgree (run MarketStep.step checkedOutDb goodsPaid) 0
        { checkedOutGoods with status := .paid } 95 := by
  have hp : (run MarketStep.step checkedOutDb goodsPaid).payments.findUnique 0 =
      some { checkedOutGoods with status := .paid } := by decide +kernel
  have hpayout : HasPayout (run MarketStep.step checkedOutDb goodsPaid) 0 2 := by
    have hrow : ((run MarketStep.step checkedOutDb goodsPaid).payouts.findUnique 0).map
        Payout.terms = some (0, 2, 95) := by decide +kernel
    obtain ⟨payout, hk, hterms⟩ := Option.map_eq_some_iff.mp hrow
    exact ⟨0, payout, hk, congrArg Prod.fst hterms, congrArg (·.2.1) hterms⟩
  have hagree := earnings_agree.2 checkedOutDb goodsPaid checkedOutDb_beforeEarnings
    ⟨trivial, trivial⟩ 0 _ 95 hp rfl rfl (by norm_num)
  refine ⟨(hagree.2 ⟨?_, trivial⟩ 2).mpr hpayout, hpayout, hagree.1⟩
  rintro (⟨p, hrow, -, -, -, haside, -⟩ | ⟨settled, parent, hsettle, hplan, -⟩)
  · obtain rfl := Option.some.inj hrow
    revert haside
    decide +kernel
  · -- a goods payment is no installment
    have hcore : CoreKept checkedOutDb settled := by
      rcases settleOrReconcile_cases hsettle with hok | ⟨-, hok⟩
      · exact settlePaymentCore_coreKept hok
      · exact reconcileInventory_coreKept hok
    obtain ⟨q, hq, hsame⟩ := hcore.of_left (i := 0) (r := checkedOutGoods) rfl
    have htype : q.type = .marketplace := Payment.core_type hsame
    have hnone : planOfInstallment settled 0 = some 0 := hplan
    rw [planOfInstallment, hq] at hnone
    simp [htype] at hnone

def hiredDb : Db :=
  { checkedOutDb with
    transportJobs := Table.empty.create
      { orderId := 0
        method := .hireTransporter
        truckOwnerId := some 7
        truckId := some 3
        agreedAmount := some 200 } }

def hiredTransport : CreatePaymentData :=
  { type := .transport
    amount := .finite 200
    orderId := some 0
    createdById := some 1
    transportJobId := some 0
    commissionRate := some 10 }

/-- The buyer raises a dispute while the provider is collecting the transport payment. -/
def paidUnderDispute : List (Env × MarketStep) :=
  [(env0, goodsNotice .paid "paid-1"),
    (env0, .checkout (.createPayment (hiredTransport.row env0 200 none))),
    (env0, .checkout (.start 1)),
    (env0, .raiseDispute 1
      { orderId := 0
        againstId := 2
        disputeType := "QUALITY" }),
    (env0, .settlePayment
      { paymentId := 1
        status := .paid
        eventId := some "paid-2"
        amount := some (.finite 200) })]

/-- The truck owner has earned the paid transport, and no payout is held for it. -/
theorem paidUnderDispute_unpaired :
    BeforeEarnings hiredDb ∧
      RunMeets MarketStep.step MarketStep.BooksEarnings hiredDb paidUnderDispute ∧
      (exists p, (run MarketStep.step hiredDb paidUnderDispute).payments.findUnique 1 = some p ∧
        p.type = .transport ∧ p.status = .paid ∧ p.netAmount = some 180) ∧
      HasEarning (run MarketStep.step hiredDb paidUnderDispute) 1 .transporterEarning 7 ∧
      forall userId, ¬ HasPayout (run MarketStep.step hiredDb paidUnderDispute) 1 userId := by
  refine ⟨?_, ⟨trivial, ?_, trivial, trivial, trivial, trivial⟩, ?_, ?_, ?_⟩
  · exact ⟨rfl, rfl, checkedOutDb_beforeEarnings.split⟩
  · intro _
    exact ⟨env0, hiredTransport, 200, none, ⟨20000, by norm_num⟩, by norm_num, by decide +kernel,
      by decide +kernel, rfl⟩
  · have hrow : ((run MarketStep.step hiredDb paidUnderDispute).payments.findUnique 1).map
        (fun p => (p.type, p.status, p.netAmount)) = some (.transport, .paid, some 180) := by
      decide +kernel
    obtain ⟨p, hp, hfields⟩ := Option.map_eq_some_iff.mp hrow
    exact ⟨p, hp, congrArg Prod.fst hfields, congrArg (·.2.1) hfields, congrArg (·.2.2) hfields⟩
  · have hrow : ((run MarketStep.step hiredDb paidUnderDispute).ledgerEntries.findUnique 2).map
        (fun e => (entryKey e, e.userId)) = some ((1, .transporterEarning), some 7) := by
      decide +kernel
    obtain ⟨e, he, hfields⟩ := Option.map_eq_some_iff.mp hrow
    exact ⟨2, e, he, congrArg Prod.fst hfields, congrArg Prod.snd hfields⟩
  · rintro userId ⟨k, payout, hk, howner, -⟩
    have hnone : (run MarketStep.step hiredDb paidUnderDispute).payouts.any
        (fun _ payout => payout.paymentId = 1) = false := by decide +kernel
    rw [Bool.eq_false_iff] at hnone
    exact hnone (Table.any_eq_true_iff.mpr ⟨k, payout, hk, decide_eq_true howner⟩)

end MarketBridge
