import MarketBridge.Listing.Moves
import MarketBridge.Payout.Holds

/-!
# Earnings in a settlement

`EarningsSound` says of every earning, commission and payout that it has the amount of its
payment's split.  `Paired` says of one payment that it has an earning if and only if it has a
payout of the same beneficiary.  A settlement keeps both, unless it puts the receipt aside.
-/

namespace MarketBridge

open Relational

/-! ## Soundness -/

def IsShare (p : Payment) (e : PaymentLedgerEntry) : Prop :=
  e.type = .refund ∨
    (e.type = earningType p.type ∧ e.amount = netAmount p ∧ e.userId.isSome = true) ∨
      (e.type = .platformCommission ∧ e.amount = ledgerCommission p)

structure EarningsSound (db : Db) : Prop where
  keyed : db.ledgerEntries.Keyed entryKey
  heldOnce : db.payouts.Keyed fun payout => payout.terms.1
  split : forall i p, db.payments.findUnique i = some p -> p.type.isEarned = true -> p.Split
  entry : forall k e, db.ledgerEntries.findUnique k = some e ->
    exists p, db.payments.findUnique e.paymentId = some p ∧
      (p.type.isEarned = true -> IsShare p e)
  commission : forall i p, db.payments.findUnique i = some p -> p.type.isEarned = true ->
    db.ledgerEntries.holdsKey entryKey (i, earningType p.type) = true ->
    0 < ledgerCommission p ->
    db.ledgerEntries.holdsKey entryKey (i, .platformCommission) = true
  payout : forall k payout, db.payouts.findUnique k = some payout ->
    exists p, db.payments.findUnique payout.paymentId = some p ∧ p.type.isEarned = true ∧
      p.netAmount = some payout.amount

def HasEarning (db : Db) (i : Id) (type : PaymentLedgerEntryType) (userId : Id) : Prop :=
  exists k e, db.ledgerEntries.findUnique k = some e ∧ entryKey e = (i, type) ∧
    e.userId = some userId

def HasPayout (db : Db) (i userId : Id) : Prop :=
  exists k payout, db.payouts.findUnique k = some payout ∧ payout.paymentId = i ∧
    payout.payeeId = userId

def Paired (db : Db) (i : Id) : Prop :=
  forall p, db.payments.findUnique i = some p -> p.type.isEarned = true -> 0 < netAmount p ->
    forall userId, HasEarning db i (earningType p.type) userId ↔ HasPayout db i userId

section Core

variable {p p' : Payment}

theorem Payment.core_commissionAmount (h : p'.core = p.core) :
    p'.commissionAmount = p.commissionAmount := by
  have hsame : p'.core.commissionAmount = p.core.commissionAmount :=
    congrArg Payment.commissionAmount h
  exact hsame

theorem Payment.core_netAmount (h : p'.core = p.core) : p'.netAmount = p.netAmount := by
  have hsame : p'.core.netAmount = p.core.netAmount := congrArg Payment.netAmount h
  exact hsame

theorem ledgerCommission_core (h : p'.core = p.core) :
    ledgerCommission p' = ledgerCommission p := by
  unfold ledgerCommission
  rw [Payment.core_commissionAmount h]

theorem netAmount_core (h : p'.core = p.core) : netAmount p' = netAmount p := by
  unfold netAmount
  rw [Payment.core_commissionAmount h, Payment.core_amount h]

theorem Split_core (h : p'.core = p.core) (hsplit : p.Split) : p'.Split := by
  refine ⟨⟨?_, ?_, ?_⟩, ?_, ?_⟩
  · rw [Payment.core_amount h]
    exact hsplit.priced.cents
  · rw [ledgerCommission_core h]
    exact hsplit.priced.commission_nonneg
  · rw [ledgerCommission_core h, Payment.core_amount h]
    exact hsplit.priced.commission_le
  · rw [Payment.core_commissionAmount h, ledgerCommission_core h]
    exact hsplit.commission
  · rw [Payment.core_netAmount h, netAmount_core h]
    exact hsplit.net

theorem IsShare_core {e : PaymentLedgerEntry} (h : p'.core = p.core) (hshare : IsShare p e) :
    IsShare p' e := by
  unfold IsShare
  rw [Payment.core_type h, netAmount_core h, ledgerCommission_core h]
  exact hshare

theorem earningType_ne (type : PaymentType) :
    earningType type ≠ .platformCommission ∧ earningType type ≠ .refund := by
  cases type <;> exact ⟨by decide, by decide⟩

end Core

section Sound

variable {db db' : Db} {i : Id} {p : Payment}

/-! ## Changes that book nothing -/

theorem EarningsSound.of_gained {may : Id × Id × ℚ -> Prop} (h : EarningsSound db)
    (hcore : CoreKept db db') (hledger : db'.ledgerEntries = db.ledgerEntries)
    (hgained : HoldsGained may db.payouts db'.payouts)
    (hmay : forall terms, may terms -> exists p, db.payments.findUnique terms.1 = some p ∧
      p.type.isEarned = true ∧ p.netAmount = some terms.2.2) :
    EarningsSound db' := by
  refine ⟨?_, hgained.keyed h.heldOnce, ?_, ?_, ?_, ?_⟩
  · rw [hledger]
    exact h.keyed
  · intro i p' hp' hearned
    obtain ⟨p, hp, hsame⟩ := hcore.of_right hp'
    rw [Payment.core_type hsame] at hearned
    exact Split_core hsame (h.split i p hp hearned)
  · intro k e he
    rw [hledger] at he
    obtain ⟨p, hp, hshare⟩ := h.entry k e he
    obtain ⟨p', hp', hsame⟩ := hcore.of_left hp
    refine ⟨p', hp', fun hearned => IsShare_core hsame (hshare ?_)⟩
    rw [← Payment.core_type hsame]
    exact hearned
  · intro i p' hp' hearned hbooked hpositive
    obtain ⟨p, hp, hsame⟩ := hcore.of_right hp'
    rw [Payment.core_type hsame] at hearned hbooked
    rw [ledgerCommission_core hsame] at hpositive
    rw [hledger] at hbooked ⊢
    exact h.commission i p hp hearned hbooked hpositive
  · intro k payout' hk
    have hrow : exists p, db.payments.findUnique payout'.terms.1 = some p ∧
        p.type.isEarned = true ∧ p.netAmount = some payout'.terms.2.2 := by
      rcases hgained.gained k payout' hk with ⟨payout, hbefore, hterms⟩ | ⟨-, hnew⟩
      · rw [hterms]
        exact h.payout k payout hbefore
      · exact hmay _ hnew
    obtain ⟨p, hp, hearned, hnet⟩ := hrow
    obtain ⟨p', hp', hsame⟩ := hcore.of_left hp
    refine ⟨p', hp', ?_, ?_⟩
    · rw [Payment.core_type hsame]
      exact hearned
    · rw [Payment.core_netAmount hsame]
      exact hnet

theorem hasPayout_of_gained {may : Id × Id × ℚ -> Prop}
    (hgained : HoldsGained may db.payouts db'.payouts)
    (hnone : forall terms, may terms -> terms.1 = i ->
      db.payouts.holdsKey (fun payout => payout.terms.1) i = true) (userId : Id) :
    HasPayout db' i userId ↔ HasPayout db i userId := by
  constructor
  · rintro ⟨k, payout', hk, howner, hpayee⟩
    rcases hgained.gained k payout' hk with ⟨payout, hbefore, hterms⟩ | ⟨hfree, hnew⟩
    · refine ⟨k, payout, hbefore, ?_, ?_⟩
      · exact (congrArg Prod.fst hterms).symm.trans howner
      · exact (congrArg (·.2.1) hterms).symm.trans hpayee
    · have hheld := hnone _ hnew howner
      have howned : payout'.terms.1 = i := howner
      rw [howned, hheld] at hfree
      cases hfree
  · rintro ⟨k, payout, hk, howner, hpayee⟩
    obtain ⟨payout', hk', hterms⟩ := hgained.kept k payout hk
    refine ⟨k, payout', hk', ?_, ?_⟩
    · exact (congrArg Prod.fst hterms).trans howner
    · exact (congrArg (·.2.1) hterms).trans hpayee

theorem hasEarning_congr (hledger : db'.ledgerEntries = db.ledgerEntries)
    (type : PaymentLedgerEntryType) (userId : Id) :
    HasEarning db' i type userId ↔ HasEarning db i type userId := by
  unfold HasEarning
  rw [hledger]

theorem Paired.of_iff (h : Paired db i) (hcore : CoreKept db db')
    (hsame : forall p, db.payments.findUnique i = some p -> p.type.isEarned = true ->
      0 < netAmount p -> forall userId,
        (HasEarning db' i (earningType p.type) userId ↔
          HasEarning db i (earningType p.type) userId) ∧
        (HasPayout db' i userId ↔ HasPayout db i userId)) :
    Paired db' i := by
  intro p' hp' hearned hpositive userId
  obtain ⟨p, hp, hcores⟩ := hcore.of_right hp'
  rw [Payment.core_type hcores] at hearned ⊢
  rw [netAmount_core hcores] at hpositive
  obtain ⟨hearning, hpayout⟩ := hsame p hp hearned hpositive userId
  rw [hearning, hpayout]
  exact h p hp hearned hpositive userId

end Sound

/-! ## Receipts -/

section Receipts

variable {env : Env} {args : SettleArgs} {r : PaymentRecord} {db db' : Db} {i : Id} {p : Payment}

/-- What a settlement does to ledger and payouts. -/
inductive SettlementEarns (args : SettleArgs) (db : Db) (p : Payment) (db' : Db) : Prop where
  | unpaid (entries : List PaymentLedgerEntry)
      (hrefunds : forall e, e ∈ entries -> e = refundEntry (paymentRecord db args.paymentId p))
      (hledger : db'.ledgerEntries = Table.createEachOnce entryKey db.ledgerEntries entries)
      (hpayouts : db'.payouts = db.payouts)
  | aside (hpaid : args.status = .paid) (hwrites : settlementWrites args db p = true)
      (haside : (paymentRecord db args.paymentId p).isSetAside = true)
      (hledger : db'.ledgerEntries = Table.createEachOnce entryKey db.ledgerEntries
        (paidLedgerEntries (paymentRecord db args.paymentId p)))
      (hpayouts : db'.payouts = db.payouts)
  | held (hledger : db'.ledgerEntries = Table.createEachOnce entryKey db.ledgerEntries
        (paidLedgerEntries (paymentRecord db args.paymentId p)))
      (hholds : HoldsFor args.paymentId (p.netAmount.getD p.amount)
        (paymentRecord db args.paymentId p).earner db.payouts db'.payouts)

theorem settlePaymentCore_earns (hp : db.payments.findUnique args.paymentId = some p)
    (h : settlePaymentCore env args db = .ok db') :
    SettlementEarns args db p db' := by
  have hquiet : db'.ledgerEntries = db.ledgerEntries -> db'.payouts = db.payouts ->
      SettlementEarns args db p db' := fun hledger hpayouts =>
    .unpaid [] (fun _ he => absurd he List.not_mem_nil) hledger hpayouts
  cases settlePaymentCore_exit hp h with
  | flagged reason =>
      obtain ⟨events, hissue⟩ := withIssue_frame env
        (issueData (paymentRecord db args.paymentId p) args reason) db
      have hledger : (flaggedDb env args db p reason).ledgerEntries = db.ledgerEntries ∧
          (flaggedDb env args db p reason).payouts = db.payouts := by
        unfold flaggedDb
        rw [hissue]
        dsimp only
        split
        · exact ⟨rfl, rfl⟩
        · exact ⟨rfl, rfl⟩
      exact hquiet hledger.1 hledger.2
  | replayed => exact hquiet rfl rfl
  | ignored =>
      obtain ⟨events, hevents⟩ := withEvent_frame args (paymentRecord db args.paymentId p) db
      rw [hevents] at hquiet ⊢
      exact hquiet rfl rfl
  | written written _ hwrites hwritten heffects =>
      obtain ⟨events, rfl⟩ := hwritten.shape
      rcases applyEffects_cases heffects with ⟨hstatus, hpaid⟩ | ⟨hstatus, rfl⟩ | ⟨-, -, rfl⟩
      · unfold applyEffects at heffects
        simp only [hstatus] at heffects
        cases haside : (paymentRecord db args.paymentId p).isSetAside with
        | true =>
            have hsame := applyPaid_aside haside heffects
            exact .aside hstatus hwrites haside hpaid.ledger hsame
        | false =>
            have hholds := applyPaid_holds haside (paymentRecord_related db _ p) heffects
            exact .held hpaid.ledger hholds
      · refine .unpaid [refundEntry (paymentRecord db args.paymentId p)] ?_
          (applyRefunded_ledger _ _) ?_
        · intro e he
          rwa [List.mem_singleton] at he
        · obtain ⟨purchases, entries, hframe⟩ :=
            applyRefunded_frame (paymentRecord db args.paymentId p) _
          rw [hframe]
      · exact hquiet rfl rfl

/-- The receipt of the payment is put aside although somebody earns it and no payout is held. -/
def ReceivesAside (args : SettleArgs) (db : Db) (i : Id) : Prop :=
  exists p, db.payments.findUnique i = some p ∧ args.paymentId = i ∧ args.status = .paid ∧
    settlementWrites args db p = true ∧ (paymentRecord db i p).isSetAside = true ∧
    (paymentRecord db i p).earner.isSome = true ∧
    db.payouts.holdsKey (fun payout => payout.terms.1) i = false

theorem mem_earningEntries {type : PaymentLedgerEntryType} {payee : Id} {e : PaymentLedgerEntry}
    (h : e ∈ earningEntries r type payee) :
    (e.type = type ∧ e.amount = netAmount r.row ∧ e.userId = some payee) ∨
      (e.type = .platformCommission ∧ e.amount = ledgerCommission r.row) := by
  have hmem := List.mem_of_mem_filter h
  simp only [List.mem_cons, List.not_mem_nil, or_false] at hmem
  rcases hmem with rfl | rfl
  · exact Or.inl ⟨rfl, rfl, rfl⟩
  · exact Or.inr ⟨rfl, rfl⟩

theorem paidLedgerEntries_share {e : PaymentLedgerEntry} (htype : r.row.type.isEarned = true)
    (h : e ∈ paidLedgerEntries r) :
    IsShare r.row e ∧ (e.type = earningType r.row.type -> r.earner = e.userId) := by
  rw [paidLedgerEntries_earner htype] at h
  cases hearner : r.earner with
  | none =>
      rw [hearner] at h
      cases h
  | some payee =>
      rw [hearner] at h
      rcases mem_earningEntries h with ⟨hearning, hamount, huser⟩ | ⟨hcommission, hamount⟩
      · refine ⟨Or.inr (Or.inl ⟨hearning, hamount, by rw [huser]; rfl⟩), fun _ => huser.symm⟩
      · refine ⟨Or.inr (Or.inr ⟨hcommission, hamount⟩), fun hearning => ?_⟩
        rw [hcommission] at hearning
        exact absurd hearning.symm (earningType_ne _).1

theorem paidLedgerEntries_keys (htype : r.row.type.isEarned = true)
    (hearner : r.earner.isSome = true) :
    (0 < netAmount r.row -> (r.id, earningType r.row.type) ∈ (paidLedgerEntries r).map entryKey) ∧
      (0 < ledgerCommission r.row ->
        (r.id, .platformCommission) ∈ (paidLedgerEntries r).map entryKey) := by
  obtain ⟨payee, hpayee⟩ := Option.isSome_iff_exists.mp hearner
  rw [paidLedgerEntries_earner htype, hpayee]
  constructor
  · intro hnet
    refine List.mem_map.mpr ⟨_, List.mem_filter.mpr ⟨List.mem_cons_self, ?_⟩, rfl⟩
    exact decide_eq_true hnet
  · intro hcommission
    refine List.mem_map.mpr ⟨commissionEntry r,
      List.mem_filter.mpr ⟨List.mem_cons_of_mem _ List.mem_cons_self, ?_⟩, rfl⟩
    exact decide_eq_true hcommission

/-- Whatever a settlement enters for a payment is owned by it and a part of it. -/
theorem EarningsSound.entered (h : EarningsSound db) (hcore : CoreKept db db')
    {entries : List PaymentLedgerEntry} (hp : db.payments.findUnique i = some p)
    (hledger : db'.ledgerEntries = Table.createEachOnce entryKey db.ledgerEntries entries)
    (howned : forall e, e ∈ entries -> e.paymentId = i)
    (hshare : forall e, e ∈ entries -> p.type.isEarned = true -> IsShare p e)
    (hboth : p.type.isEarned = true -> 0 < ledgerCommission p ->
      (i, earningType p.type) ∈ entries.map entryKey ->
      (i, .platformCommission) ∈ entries.map entryKey)
    (hheld : db'.payouts.Keyed fun payout => payout.terms.1)
    (hpayouts : forall k payout, db'.payouts.findUnique k = some payout ->
      exists p, db.payments.findUnique payout.paymentId = some p ∧ p.type.isEarned = true ∧
        p.netAmount = some payout.amount) :
    EarningsSound db' := by
  refine ⟨?_, hheld, ?_, ?_, ?_, ?_⟩
  · rw [hledger]
    exact h.keyed.createEachOnce entries
  · intro j q' hq' hearned
    obtain ⟨q, hq, hsame⟩ := hcore.of_right hq'
    rw [Payment.core_type hsame] at hearned
    exact Split_core hsame (h.split j q hq hearned)
  · intro k e he
    have hrow : exists q, db.payments.findUnique e.paymentId = some q ∧
        (q.type.isEarned = true -> IsShare q e) := by
      rw [hledger] at he
      rcases Table.of_findUnique_createEachOnce he with hbefore | hnew
      · exact h.entry k e hbefore
      · rw [howned e hnew]
        exact ⟨p, hp, hshare e hnew⟩
    obtain ⟨q, hq, hpart⟩ := hrow
    obtain ⟨q', hq', hsame⟩ := hcore.of_left hq
    refine ⟨q', hq', fun hearned => IsShare_core hsame (hpart ?_)⟩
    rw [← Payment.core_type hsame]
    exact hearned
  · intro j q' hq' hearned hbooked hpositive
    obtain ⟨q, hq, hsame⟩ := hcore.of_right hq'
    rw [Payment.core_type hsame] at hearned hbooked
    rw [ledgerCommission_core hsame] at hpositive
    rw [hledger, Table.holdsKey_createEachOnce] at hbooked ⊢
    rcases hbooked with hbefore | hnew
    · exact Or.inl (h.commission j q hq hearned hbefore hpositive)
    · obtain ⟨e, he, hkey⟩ := List.mem_map.mp hnew
      have hj : i = j := (howned e he).symm.trans (congrArg Prod.fst hkey)
      subst hj
      rw [hp, Option.some.injEq] at hq
      subst hq
      exact Or.inr (hboth hearned hpositive hnew)
  · intro k payout hk
    obtain ⟨q, hq, hearned, hnet⟩ := hpayouts k payout hk
    obtain ⟨q', hq', hsame⟩ := hcore.of_left hq
    refine ⟨q', hq', ?_, ?_⟩
    · rw [Payment.core_type hsame]
      exact hearned
    · rw [Payment.core_netAmount hsame]
      exact hnet

theorem paidLedgerEntries_both (htype : r.row.type.isEarned = true)
    (hcommission : 0 < ledgerCommission r.row)
    (hearning : (r.id, earningType r.row.type) ∈ (paidLedgerEntries r).map entryKey) :
    (r.id, .platformCommission) ∈ (paidLedgerEntries r).map entryKey := by
  cases hearner : r.earner with
  | none =>
      rw [paidLedgerEntries_earner htype, hearner] at hearning
      cases hearning
  | some payee => exact (paidLedgerEntries_keys htype (by rw [hearner]; rfl)).2 hcommission

theorem earner_isEarned {payee : Id} (h : r.earner = some payee) : r.row.type.isEarned = true := by
  unfold PaymentRecord.earner at h
  cases hr : r.row.type with
  | marketplace => rfl
  | transport => rfl
  | inspector => rfl
  | advertising =>
      rw [hr] at h
      cases h
  | digital =>
      rw [hr] at h
      cases h
  | marketplaceInstallment =>
      rw [hr] at h
      cases h

def ReceiptMayHold (r : PaymentRecord) (terms : Id × Id × ℚ) : Prop :=
  terms.1 = r.id ∧ terms.2.2 = r.row.netAmount.getD r.row.amount ∧ r.earner = some terms.2.1

theorem EarningsSound.settlePaymentCore (h : EarningsSound db)
    (hok : MarketBridge.settlePaymentCore env args db = .ok db') :
    EarningsSound db' := by
  have hcore := settlePaymentCore_coreKept hok
  cases hp : db.payments.findUnique args.paymentId with
  | none => simp [MarketBridge.settlePaymentCore, hp] at hok
  | some p =>
      have hearns := settlePaymentCore_earns hp hok
      have howned : forall e, e ∈ paidLedgerEntries (paymentRecord db args.paymentId p) ->
          e.paymentId = args.paymentId := fun e he => (paidLedgerEntries_owner he).1
      have hkept : db'.payouts = db.payouts ->
          db'.payouts.Keyed (fun payout => payout.terms.1) ∧
            forall k payout, db'.payouts.findUnique k = some payout ->
              exists p, db.payments.findUnique payout.paymentId = some p ∧
                p.type.isEarned = true ∧ p.netAmount = some payout.amount := by
        intro hpayouts
        rw [hpayouts]
        exact ⟨h.heldOnce, h.payout⟩
      cases hearns with
      | unpaid entries hrefunds hledger hpayouts =>
          obtain ⟨hheld, hrows⟩ := hkept hpayouts
          refine h.entered hcore hp hledger ?_ ?_ ?_ hheld hrows
          · intro e he
            rw [hrefunds e he]
            rfl
          · intro e he _
            rw [hrefunds e he]
            exact Or.inl rfl
          · intro _ _ hmem
            obtain ⟨e, he, hkey⟩ := List.mem_map.mp hmem
            rw [hrefunds e he] at hkey
            exact absurd (congrArg Prod.snd hkey).symm (earningType_ne _).2
      | aside _ _ _ hledger hpayouts =>
          obtain ⟨hheld, hrows⟩ := hkept hpayouts
          exact h.entered hcore hp hledger howned
            (fun e he hearned => (paidLedgerEntries_share hearned he).1)
            (fun hearned hpositive hmem => paidLedgerEntries_both hearned hpositive hmem) hheld hrows
      | held hledger hholds =>
          have hgained : HoldsGained (ReceiptMayHold (paymentRecord db args.paymentId p))
              db.payouts db'.payouts := hholds.gained fun payeeId hpayee => ⟨rfl, rfl, hpayee⟩
          refine h.entered hcore hp hledger howned
            (fun e he hearned => (paidLedgerEntries_share hearned he).1)
            (fun hearned hpositive hmem => paidLedgerEntries_both hearned hpositive hmem)
            (hgained.keyed h.heldOnce) ?_
          intro k payout hk
          rcases hgained.gained k payout hk with ⟨before, hbefore, hterms⟩ | ⟨-, howner, hamount, hpayee⟩
          · obtain ⟨q, hq, hearned, hnet⟩ := h.payout k before hbefore
            refine ⟨q, ?_, hearned, ?_⟩
            · rw [show payout.paymentId = before.paymentId from congrArg Prod.fst hterms]
              exact hq
            · rw [show payout.amount = before.amount from congrArg (·.2.2) hterms]
              exact hnet
          · have hearned : p.type.isEarned = true := earner_isEarned hpayee
            refine ⟨p, ?_, hearned, ?_⟩
            · rw [show payout.paymentId = args.paymentId from howner]
              exact hp
            · have hnet := (h.split _ p hp hearned).net
              have hterms : payout.amount = p.netAmount.getD p.amount := hamount
              rw [hterms, hnet]
              rfl

/-! ## Pairs -/

theorem hasEarning_entered (h : EarningsSound db) {type : PaymentLedgerEntryType}
    {entries : List PaymentLedgerEntry}
    (hledger : db'.ledgerEntries = Table.createEachOnce entryKey db.ledgerEntries entries)
    (hthere : forall e, e ∈ entries -> entryKey e = (i, type) ->
      db.ledgerEntries.holdsKey entryKey (i, type) = true) (userId : Id) :
    HasEarning db' i type userId ↔ HasEarning db i type userId := by
  unfold HasEarning
  rw [hledger]
  constructor
  · rintro ⟨k, e, he, hkey, huser⟩
    rcases Table.of_findUnique_createEachOnce he with hbefore | hnew
    · exact ⟨k, e, hbefore, hkey, huser⟩
    · obtain ⟨j, q, hq, hqkey⟩ := Table.holdsKey_iff.mp (hthere e hnew hkey)
      have hq' : (Table.createEachOnce entryKey db.ledgerEntries entries).findUnique j = some q :=
        Table.findUnique_createEachOnce_of_some hq
      have hkj : k = j := h.keyed.createEachOnce entries k j e q he hq' (hkey.trans hqkey.symm)
      rw [hkj, hq', Option.some.injEq] at he
      subst he
      exact ⟨j, q, hq, hqkey, huser⟩
  · rintro ⟨k, e, he, hkey, huser⟩
    exact ⟨k, e, Table.findUnique_createEachOnce_of_some he, hkey, huser⟩

theorem hasPayout_congr (hpayouts : db'.payouts = db.payouts) (userId : Id) :
    HasPayout db' i userId ↔ HasPayout db i userId := by
  unfold HasPayout
  rw [hpayouts]

theorem Paired.booked (h : Paired db i) (hp : db.payments.findUnique i = some p)
    (hearned : p.type.isEarned = true) (hpositive : 0 < netAmount p)
    (hheld : db.payouts.holdsKey (fun payout => payout.terms.1) i = true) :
    db.ledgerEntries.holdsKey entryKey (i, earningType p.type) = true := by
  obtain ⟨k, payout, hk, howner⟩ := Table.holdsKey_iff.mp hheld
  obtain ⟨j, e, he, hkey, -⟩ := (h p hp hearned hpositive payout.payeeId).mpr
    ⟨k, payout, hk, howner, rfl⟩
  exact Table.holdsKey_iff.mpr ⟨j, e, he, hkey⟩

theorem Paired.unbooked (h : Paired db i) (hsound : EarningsSound db)
    (hp : db.payments.findUnique i = some p) (hearned : p.type.isEarned = true)
    (hpositive : 0 < netAmount p)
    (hfree : db.payouts.holdsKey (fun payout => payout.terms.1) i = false) :
    forall k e, db.ledgerEntries.findUnique k = some e -> entryKey e ≠ (i, earningType p.type) := by
  intro k e he hkey
  have howner : e.paymentId = i := congrArg Prod.fst hkey
  have htype : e.type = earningType p.type := congrArg Prod.snd hkey
  obtain ⟨q, hq, hshare⟩ := hsound.entry k e he
  rw [howner, hp, Option.some.injEq] at hq
  subst hq
  have huser : e.userId.isSome = true := by
    rcases hshare hearned with hrefund | ⟨-, -, huser⟩ | ⟨hcommission, -⟩
    · exact absurd (htype.symm.trans hrefund) (earningType_ne _).2
    · exact huser
    · exact absurd (htype.symm.trans hcommission) (earningType_ne _).1
  obtain ⟨userId, huserId⟩ := Option.isSome_iff_exists.mp huser
  obtain ⟨j, payout, hj, hpayout, -⟩ := (h p hp hearned hpositive userId).mp
    ⟨k, e, he, hkey, huserId⟩
  exact Bool.eq_false_iff.mp hfree (Table.holdsKey_iff.mpr ⟨j, payout, hj, hpayout⟩)

/-- A receipt that holds a payout of a payment without one books the earning with it. -/
theorem Paired.created (h : Paired db r.id) (hsound : EarningsSound db)
    (hp : db.payments.findUnique r.id = some r.row) (hcore : CoreKept db db') {hold : Payout}
    (hledger : db'.ledgerEntries =
      Table.createEachOnce entryKey db.ledgerEntries (paidLedgerEntries r))
    (hpayouts : db'.payouts = db.payouts.create hold)
    (hfree : db.payouts.holdsKey (fun payout => payout.terms.1) r.id = false)
    (howner : hold.paymentId = r.id) (hearner : r.earner = some hold.payeeId) :
    Paired db' r.id := by
  intro p' hp' hearned hpositive userId
  obtain ⟨p, hp₀, hcores⟩ := hcore.of_right hp'
  rw [hp, Option.some.injEq] at hp₀
  subst hp₀
  rw [Payment.core_type hcores] at hearned ⊢
  rw [netAmount_core hcores] at hpositive
  have hnone := h.unbooked hsound hp hearned hpositive hfree
  have hearning : HasEarning db' r.id (earningType r.row.type) userId ↔
      userId = hold.payeeId := by
    unfold HasEarning
    rw [hledger]
    have hnew : forall {k e}, (Table.createEachOnce entryKey db.ledgerEntries
        (paidLedgerEntries r)).findUnique k = some e ->
        entryKey e = (r.id, earningType r.row.type) -> e.userId = some hold.payeeId := by
      intro k e he hkey
      rcases Table.of_findUnique_createEachOnce he with hbefore | hentered
      · exact absurd hkey (hnone k e hbefore)
      · rw [← (paidLedgerEntries_share hearned hentered).2 (congrArg Prod.snd hkey)]
        exact hearner
    constructor
    · rintro ⟨k, e, he, hkey, huser⟩
      rw [hnew he hkey, Option.some.injEq] at huser
      exact huser.symm
    · rintro rfl
      have hholds : (Table.createEachOnce entryKey db.ledgerEntries
          (paidLedgerEntries r)).holdsKey entryKey (r.id, earningType r.row.type) = true :=
        Table.holdsKey_createEachOnce.mpr (Or.inr
          ((paidLedgerEntries_keys hearned (by rw [hearner]; rfl)).1 hpositive))
      obtain ⟨k, e, he, hkey⟩ := Table.holdsKey_iff.mp hholds
      exact ⟨k, e, he, hkey, hnew he hkey⟩
  have hpayout : HasPayout db' r.id userId ↔ userId = hold.payeeId := by
    unfold HasPayout
    rw [hpayouts]
    constructor
    · rintro ⟨k, payout, hk, hof, hpayee⟩
      rw [Table.findUnique_create] at hk
      split at hk
      · rw [← hpayee, ← Option.some.inj hk]
      · exact absurd (Table.holdsKey_iff.mpr ⟨k, payout, hk, hof⟩) (Bool.eq_false_iff.mp hfree)
    · rintro rfl
      exact ⟨_, hold, Table.findUnique_create_self _ _, howner, rfl⟩
  rw [hearning, hpayout]

theorem Paired.settlePaymentCore (h : Paired db i) (hsound : EarningsSound db)
    (haside : ¬ ReceivesAside args db i)
    (hok : MarketBridge.settlePaymentCore env args db = .ok db') :
    Paired db' i := by
  have hcore := settlePaymentCore_coreKept hok
  cases hp : db.payments.findUnique args.paymentId with
  | none => simp [MarketBridge.settlePaymentCore, hp] at hok
  | some p =>
      have hearns := settlePaymentCore_earns hp hok
      by_cases hi : args.paymentId = i
      · subst hi
        -- nobody earns the payment, so nothing is entered
        have hidle : p.type.isEarned = true -> (paymentRecord db args.paymentId p).earner = none ->
            paidLedgerEntries (paymentRecord db args.paymentId p) = [] := by
          intro hearned hearner
          rw [paidLedgerEntries_earner hearned, hearner]
        cases hearns with
        | unpaid entries hrefunds hledger hpayouts =>
            refine h.of_iff hcore fun q hq hearned hpositive userId =>
              ⟨hasEarning_entered hsound hledger (fun e he hkey => ?_) userId,
                hasPayout_congr hpayouts userId⟩
            rw [hrefunds e he] at hkey
            exact absurd (congrArg Prod.snd hkey).symm (earningType_ne _).2
        | aside hpaid hwrites hput hledger hpayouts =>
            refine h.of_iff hcore fun q hq hearned hpositive userId =>
              ⟨hasEarning_entered hsound hledger (fun e he hkey => ?_) userId,
                hasPayout_congr hpayouts userId⟩
            rw [hp, Option.some.injEq] at hq
            subst hq
            by_cases hheld : db.payouts.holdsKey (fun payout => payout.terms.1) args.paymentId = true
            · exact h.booked hp hearned hpositive hheld
            · have hearner : (paymentRecord db args.paymentId p).earner = none := by
                by_contra hsome
                exact haside ⟨p, hp, rfl, hpaid, hwrites, hput,
                  Option.ne_none_iff_isSome.mp hsome, Bool.eq_false_iff.mpr hheld⟩
              rw [hidle hearned hearner] at he
              cases he
        | held hledger hholds =>
            generalize hpayouts : db'.payouts = payouts' at hholds
            cases hholds with
            | nobody hnobody =>
                refine h.of_iff hcore fun q hq hearned hpositive userId =>
                  ⟨hasEarning_entered hsound hledger (fun e he hkey => ?_) userId,
                    hasPayout_congr hpayouts userId⟩
                rw [hp, Option.some.injEq] at hq
                subst hq
                rw [hidle hearned hnobody] at he
                cases he
            | held hheld =>
                refine h.of_iff hcore fun q hq hearned hpositive userId =>
                  ⟨hasEarning_entered hsound hledger (fun e he hkey => ?_) userId,
                    hasPayout_congr hpayouts userId⟩
                exact h.booked hq hearned hpositive hheld
            | created hold hfree howner hamount hpayee =>
                exact Paired.created (r := paymentRecord db args.paymentId p) h hsound hp hcore
                  hledger hpayouts hfree howner hpayee
      · have howned : forall {e}, e.paymentId = args.paymentId -> forall {type},
            entryKey e ≠ (i, type) := fun howner _ hkey =>
          hi (howner.symm.trans (congrArg Prod.fst hkey))
        cases hearns with
        | unpaid entries hrefunds hledger hpayouts =>
            refine h.of_iff hcore fun q hq hearned hpositive userId =>
              ⟨hasEarning_entered hsound hledger (fun e he hkey => ?_) userId,
                hasPayout_congr hpayouts userId⟩
            exact absurd hkey (howned (by rw [hrefunds e he]; rfl))
        | aside hpaid hwrites hput hledger hpayouts =>
            refine h.of_iff hcore fun q hq hearned hpositive userId =>
              ⟨hasEarning_entered hsound hledger (fun e he hkey => ?_) userId,
                hasPayout_congr hpayouts userId⟩
            exact absurd hkey (howned (paidLedgerEntries_owner he).1)
        | held hledger hholds =>
            have hgained : HoldsGained (ReceiptMayHold (paymentRecord db args.paymentId p))
                db.payouts db'.payouts := hholds.gained fun payeeId hpayee => ⟨rfl, rfl, hpayee⟩
            refine h.of_iff hcore fun q hq hearned hpositive userId =>
              ⟨hasEarning_entered hsound hledger (fun e he hkey => ?_) userId,
                hasPayout_of_gained hgained (fun terms hterms hof => ?_) userId⟩
            · exact absurd hkey (howned (paidLedgerEntries_owner he).1)
            · exact absurd (hterms.1.symm.trans hof) hi

end Receipts

end MarketBridge
