import MarketBridge.Market.Effects

/-!
# Dispute discipline

An order is `DISPUTED` exactly while one of its disputes waits for a decision,
only a resolution of that dispute moves it on, and no payout of the order stays
frozen without a dispute.  Two routes break this: the confirmation of receipt and
the cancellation take a disputed order out of its dispute, and a cancelling
resolution leaves the frozen fee of an earned inspection behind.
-/

namespace MarketBridge

open Relational

/-! ## The property -/

/-- Dispute `d` about the order waits for a decision. -/
def IsOpenDispute (disputes : Table Dispute) (orderId d : Id) : Prop :=
  exists dispute, disputes.findUnique d = some dispute ∧ dispute.orderId = orderId ∧
    dispute.status.isOpen = true

structure DisputeDiscipline (db : Db) : Prop where
  disputed : forall orderId order, db.orders.findUnique orderId = some order ->
    (order.status = .disputed ↔ exists d, IsOpenDispute db.disputes orderId d)
  payouts : forall i payout orderId, db.payouts.findUnique i = some payout ->
    payout.orderId = some orderId -> payout.status = .onHoldDispute ->
    exists d, IsOpenDispute db.disputes orderId d

def MarketStep.Resolves (db : Db) (a : MarketStep) (orderId : Id) : Prop :=
  exists adminId d resolutionType resolution,
    a = .resolveDispute adminId d resolutionType resolution ∧
      IsOpenDispute db.disputes orderId d

/-- Only resolving a dispute of the order moves the order out of `DISPUTED`. -/
def LeavesByResolution (db : Db) (a : Env × MarketStep) : Prop :=
  forall orderId order order', db.orders.findUnique orderId = some order ->
    order.status = .disputed ->
    (MarketStep.step db a).orders.findUnique orderId = some order' ->
    order'.status ≠ .disputed -> a.2.Resolves db orderId

/-- The discipline holds after the step, and the step leaves no dispute unresolved. -/
def KeepsDiscipline (db : Db) (a : Env × MarketStep) : Prop :=
  DisputeDiscipline (MarketStep.step db a) ∧ LeavesByResolution db a

/-! ## The condition -/

/--
A receipt is not confirmed and an order not cancelled while it is under dispute,
and an order is not cancelled by a resolution while a fee that its inspector keeps
is frozen.
-/
def MarketStep.respectsDispute (db : Db) (a : Env × MarketStep) : Prop :=
  match a.2 with
  | .confirmReceipt userId orderId =>
      forall order, db.orders.findUnique orderId = some order ->
        order.status = .disputed -> isReceivable db userId orderId order = false
  | .cancelOrder load orderId _ _ role =>
      forall record, loadOrder load db orderId = some record ->
        record.status = .disputed -> assertCancellable record role ≠ .ok ()
  | .resolveDispute _ d .cancelOrder _ =>
      a.1.hasResolutionColumns = true ->
        forall dispute, db.disputes.findUnique d = some dispute ->
          forall i payout, db.payouts.findUnique i = some payout ->
            payout.orderId = some dispute.orderId -> payout.status = .onHoldDispute ->
            isRetained db (earnedInspections db dispute.orderId) payout = false
  | _ => True

/-! ## The invariant -/

/-- The dispute that waits for a decision about the order. -/
structure DisputeInv (orders : Table Order) (payouts : Table Payout)
    (disputes : Table Dispute) : Prop where
  disputed : forall orderId order, orders.findUnique orderId = some order ->
    (order.status = .disputed ↔ exists d, IsOpenDispute disputes orderId d)
  unique : forall orderId d d', IsOpenDispute disputes orderId d ->
    IsOpenDispute disputes orderId d' -> d = d'
  row : forall d dispute, disputes.findUnique d = some dispute ->
    dispute.status.isOpen = true ->
    (exists order, orders.findUnique dispute.orderId = some order) ∧
      exists s, dispute.previousOrderStatus = some s ∧ s ≠ .disputed
  held : forall i payout, payouts.findUnique i = some payout ->
    payout.status = .onHoldDispute ->
    exists d dispute, disputes.findUnique d = some dispute ∧ dispute.status.isOpen = true ∧
      payout.orderId = some dispute.orderId ∧
      isDisputedRole dispute.disputeType payout.payeeRole = true

def SameDisputed (orders orders' : Table Order) : Prop :=
  forall i, (orders'.findUnique i).map (fun o => decide (o.status = .disputed)) =
    (orders.findUnique i).map (fun o => decide (o.status = .disputed))

theorem SameDisputed.refl (orders : Table Order) : SameDisputed orders orders :=
  fun _ => rfl

theorem SameDisputed.trans {t u v : Table Order} (h : SameDisputed t u)
    (h' : SameDisputed u v) :
    SameDisputed t v :=
  fun i => (h' i).trans (h i)

theorem SameDisputed.find {orders orders' : Table Order} (h : SameDisputed orders orders')
    {i : Id} {order' : Order} (hfind : orders'.findUnique i = some order') :
    exists order, orders.findUnique i = some order ∧
      (order.status = .disputed ↔ order'.status = .disputed) := by
  have hi := h i
  rw [hfind] at hi
  cases horder : orders.findUnique i with
  | none =>
      rw [horder] at hi
      cases hi
  | some order =>
      rw [horder] at hi
      simp only [Option.map_some, Option.some.injEq, decide_eq_decide] at hi
      exact ⟨order, rfl, hi.symm⟩

theorem SameDisputed.symm {orders orders' : Table Order} (h : SameDisputed orders orders') :
    SameDisputed orders' orders :=
  fun i => (h i).symm

theorem sameDisputed_updateMany {orders : Table Order} {p : Id -> Order -> Bool}
    {f : Order -> Order}
    (hf : forall i o, orders.findUnique i = some o -> p i o = true ->
      o.status ≠ .disputed ∧ (f o).status ≠ .disputed) :
    SameDisputed orders (orders.updateMany p f) := by
  intro i
  rw [Table.findUnique_updateMany]
  cases ho : orders.findUnique i with
  | none =>
      rfl
  | some o =>
      by_cases hp : p i o = true
      · obtain ⟨hbefore, hafter⟩ := hf i o ho hp
        simp [hp, hbefore, hafter]
      · simp [hp]

theorem sameDisputed_update {orders : Table Order} {orderId : Id} {order : Order}
    {f : Order -> Order} (hfind : orders.findUnique orderId = some order)
    (hbefore : order.status ≠ .disputed) (hafter : (f order).status ≠ .disputed) :
    SameDisputed orders (orders.update orderId f) := by
  apply sameDisputed_updateMany
  intro i o ho hi
  obtain rfl : i = orderId := by simpa using hi
  obtain rfl : order = o := by simpa [hfind] using ho
  exact ⟨hbefore, hafter⟩

theorem OrderMove.sameDisputed {orders orders' : Table Order} {listings listings' : Table Listing}
    (h : OrderMove orders listings orders' listings') :
    SameDisputed orders orders' := by
  cases h with
  | kept =>
      exact .refl _
  | confirmed orderId order committed _ hfind hpending =>
      exact sameDisputed_update hfind (by simp [hpending]) (by simp [Order.confirm])
  | arranged orderId =>
      apply sameDisputed_updateMany
      intro i o _ hp
      have hconfirmed : o.status = .confirmed := by
        simp only [Bool.and_eq_true, decide_eq_true_eq] at hp
        exact hp.2
      exact ⟨by simp [hconfirmed], by simp⟩

theorem Progress.undisputed {db db' : Db} (h : Progress db db') :
    SameDisputed db.orders db'.orders ∧ NoNewHold db.payouts db'.payouts ∧
      db'.disputes = db.disputes := by
  induction h with
  | refl =>
      exact ⟨.refl _, .refl _, rfl⟩
  | tail _ hstep ih =>
      obtain ⟨horders, hpayouts, hdisputes⟩ := ih
      exact ⟨horders.trans hstep.moved.sameDisputed,
        hpayouts.trans hstep.payouts.noNewHold, hstep.disputes.trans hdisputes⟩

/-! ## What the steps preserve -/

namespace DisputeInv

variable {orders orders' : Table Order} {payouts payouts' : Table Payout}
  {disputes : Table Dispute}

theorem congr (h : DisputeInv orders payouts disputes)
    (horders : SameDisputed orders orders') (hpayouts : NoNewHold payouts payouts') :
    DisputeInv orders' payouts' disputes := by
  refine ⟨?_, h.unique, ?_, ?_⟩
  · intro orderId order' hfind
    obtain ⟨order, horder, hsame⟩ := horders.find hfind
    exact hsame.symm.trans (h.disputed orderId order horder)
  · intro d dispute hd hopen
    obtain ⟨⟨order, horder⟩, hprevious⟩ := h.row d dispute hd hopen
    obtain ⟨order', horder', -⟩ := horders.symm.find horder
    exact ⟨⟨order', horder'⟩, hprevious⟩
  · intro i payout hi hs
    exact h.held i payout (hpayouts i payout hi hs) hs

theorem ordered (h : DisputeInv orders payouts disputes) {order : Order}
    (hpending : order.status = .pendingPayment) :
    DisputeInv (orders.create order) payouts disputes := by
  refine ⟨?_, h.unique, ?_, h.held⟩
  · intro orderId o hfind
    rw [Table.findUnique_create] at hfind
    split at hfind
    · rename_i hnew
      obtain rfl : order = o := Option.some.inj hfind
      constructor
      · intro hs
        rw [hpending] at hs
        cases hs
      · rintro ⟨d, dispute, hd, howner, hopen⟩
        -- An open dispute is about an order that exists.
        obtain ⟨⟨o, ho⟩, -⟩ := h.row d dispute hd hopen
        rw [howner, hnew, Table.findUnique_size] at ho
        cases ho
    · exact h.disputed orderId o hfind
  · intro d dispute hd hopen
    obtain ⟨⟨o, ho⟩, hprevious⟩ := h.row d dispute hd hopen
    refine ⟨⟨o, ?_⟩, hprevious⟩
    rw [Table.findUnique_create, if_neg (Nat.ne_of_lt (Table.lt_size_of_findUnique ho))]
    exact ho

theorem isOpenDispute_create {dispute : Dispute} (hopen : dispute.status.isOpen = true)
    {orderId d : Id} :
    IsOpenDispute (disputes.create dispute) orderId d ↔
      (d = disputes.size ∧ dispute.orderId = orderId) ∨ IsOpenDispute disputes orderId d := by
  unfold IsOpenDispute
  rw [Table.findUnique_create]
  by_cases hd : d = disputes.size
  · simp [hd, hopen]
  · simp [hd]

theorem raised (h : DisputeInv orders payouts disputes) {env : Env} {db : Db}
    {orderId : Id} {order : Order} {dispute : Dispute}
    (hfind : orders.findUnique orderId = some order)
    (hbefore : order.status ≠ .disputed) (howner : dispute.orderId = orderId)
    (hopen : dispute.status.isOpen = true)
    (hprevious : dispute.previousOrderStatus = some order.status) :
    DisputeInv (orders.update orderId ({ · with status := .disputed }))
      (payouts.updateMany
        (fun _ payout => selectsForHold env db orderId dispute.disputeType payout)
        ({ · with status := .onHoldDispute }))
      (disputes.create dispute) := by
  have hnone : forall d, ¬ IsOpenDispute disputes orderId d := fun d hd =>
    hbefore ((h.disputed orderId order hfind).2 ⟨d, hd⟩)
  refine ⟨?_, ?_, ?_, ?_⟩
  · intro i o hi
    simp only [isOpenDispute_create hopen, howner]
    rw [Table.findUnique_update] at hi
    by_cases hsame : i = orderId
    · rw [if_pos hsame] at hi
      obtain ⟨o', -, rfl⟩ := Option.map_eq_some_iff.mp hi
      simp only [true_iff]
      exact ⟨disputes.size, Or.inl ⟨rfl, hsame.symm⟩⟩
    · rw [if_neg hsame] at hi
      rw [h.disputed i o hi]
      have hother : ¬ orderId = i := fun heq => hsame heq.symm
      simp [hother]
  · intro i d d' hd hd'
    rw [isOpenDispute_create hopen, howner] at hd hd'
    rcases hd with ⟨rfl, rfl⟩ | hd
    · rcases hd' with ⟨rfl, -⟩ | hd'
      · rfl
      · exact absurd hd' (hnone d')
    · rcases hd' with ⟨-, rfl⟩ | hd'
      · exact absurd hd (hnone d)
      · exact h.unique i d d' hd hd'
  · have hexists : forall i o, orders.findUnique i = some o -> exists o',
        (orders.update orderId ({ · with status := .disputed })).findUnique i = some o' := by
      intro i o ho
      rw [Table.findUnique_update]
      split
      · exact ⟨_, by rw [ho]; rfl⟩
      · exact ⟨o, ho⟩
    intro d e he heopen
    rw [Table.findUnique_create] at he
    split at he
    · obtain rfl : dispute = e := Option.some.inj he
      exact ⟨hexists _ order (howner ▸ hfind), order.status, hprevious, hbefore⟩
    · obtain ⟨⟨o, ho⟩, hrow⟩ := h.row d e he heopen
      exact ⟨hexists _ o ho, hrow⟩
  · intro i payout' hi hs
    rw [Table.findUnique_updateMany] at hi
    obtain ⟨payout, hpayout, rfl⟩ := Option.map_eq_some_iff.mp hi
    by_cases hselected : selectsForHold env db orderId dispute.disputeType payout = true
    · rw [if_pos hselected]
      simp only [selectsForHold, Bool.and_eq_true, decide_eq_true_eq] at hselected
      exact ⟨disputes.size, dispute, Table.findUnique_create_self _ _, hopen,
        howner ▸ hselected.1.1.1, hselected.1.2⟩
    · rw [if_neg hselected] at hs ⊢
      obtain ⟨d, e, he, hrest⟩ := h.held i payout hpayout hs
      refine ⟨d, e, ?_, hrest⟩
      rw [Table.findUnique_create, if_neg (Nat.ne_of_lt (Table.lt_size_of_findUnique he))]
      exact he

theorem isOpenDispute_resolve {d : Id} {dispute : Dispute} {resolution : String}
    (hd : disputes.findUnique d = some dispute) {orderId e : Id} :
    IsOpenDispute (disputes.update d (·.resolve resolution)) orderId e ↔
      e ≠ d ∧ IsOpenDispute disputes orderId e := by
  unfold IsOpenDispute
  rw [Table.findUnique_update]
  by_cases he : e = d
  · subst he
    simp only [if_true, hd, Option.map_some, Option.some.injEq, ne_eq, not_true_eq_false,
      false_and, iff_false]
    rintro ⟨_, rfl, -, hopen⟩
    cases hopen
  · simp [he]

/-- The dispute is closed once its order has left `DISPUTED` and its payouts are thawed. -/
theorem resolved (h : DisputeInv orders payouts disputes) {d : Id} {dispute : Dispute}
    {resolution : String} (hd : disputes.findUnique d = some dispute)
    (hopen : dispute.status.isOpen = true)
    (horder : forall i order', orders'.findUnique i = some order' ->
      exists order, orders.findUnique i = some order ∧
        (order'.status = .disputed ↔ order.status = .disputed ∧ i ≠ dispute.orderId))
    (hexists : forall i order, orders.findUnique i = some order ->
      exists order', orders'.findUnique i = some order')
    (hpayouts : NoNewHold payouts payouts')
    (hthawed : forall i payout, payouts'.findUnique i = some payout ->
      payout.status = .onHoldDispute -> payout.orderId ≠ some dispute.orderId) :
    DisputeInv orders' payouts' (disputes.update d (·.resolve resolution)) := by
  refine ⟨?_, ?_, ?_, ?_⟩
  · intro i order' hi
    obtain ⟨order, hfind, hstatus⟩ := horder i order' hi
    simp only [isOpenDispute_resolve hd]
    rw [hstatus, h.disputed i order hfind]
    constructor
    · rintro ⟨⟨e, he⟩, hother⟩
      refine ⟨e, ?_, he⟩
      rintro rfl
      obtain ⟨dispute', hd', howner, -⟩ := he
      obtain rfl : dispute = dispute' := Option.some.inj (hd.symm.trans hd')
      exact hother howner.symm
    · rintro ⟨e, hne, he⟩
      refine ⟨⟨e, he⟩, ?_⟩
      rintro rfl
      exact hne (h.unique _ e d he ⟨dispute, hd, rfl, hopen⟩)
  · intro i e e' he he'
    exact h.unique i e e' ((isOpenDispute_resolve hd).1 he).2 ((isOpenDispute_resolve hd).1 he').2
  · intro e dispute' he heopen
    obtain ⟨-, dispute'', he'', howner, hopen''⟩ :=
      (isOpenDispute_resolve hd).1 ⟨dispute', he, rfl, heopen⟩
    have hread := he
    rcases Table.of_findUnique_update hread with ⟨-, _, -, rfl⟩ | ⟨-, hread⟩
    · cases heopen
    · obtain ⟨⟨order, hfind⟩, hprevious⟩ := h.row e dispute' hread heopen
      exact ⟨hexists _ order hfind, hprevious⟩
  · intro i payout hi hs
    obtain ⟨e, dispute', he, heopen, howner, hrole⟩ := h.held i payout (hpayouts i payout hi hs) hs
    refine ⟨e, dispute', ?_, heopen, howner, hrole⟩
    rw [Table.findUnique_update_ne]
    · exact he
    · rintro rfl
      obtain rfl : dispute = dispute' := Option.some.inj (hd.symm.trans he)
      exact hthawed i payout hi hs howner

end DisputeInv

end MarketBridge
