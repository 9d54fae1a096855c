import Mathlib.Algebra.Order.BigOperators.Group.List
import MarketBridge.Dispute.Runs
import MarketBridge.Listing.Committable
import MarketBridge.Market.Money
import MarketBridge.Relational.Keyed

/-!
# Stock

A listing is what is left of it and what orders have taken.  `StockInv` says so, up to the goods
that cancellations give back untaken, and every step of a listing keeps it.
-/

namespace MarketBridge

open Relational

variable {env : Env} {db db' : Db} {orders orders' : Table Order}

/-! ## The invariant -/

def committedOf (orders : Table Order) (listingId : Id) : ℚ :=
  orders.sumOf fun _ o => if o.listingId = listingId ∧ o.goodsCommitted = true then o.quantity else 0

/-- A cancellation gives goods back only for an order that has taken them. -/
def MarketStep.returnsTaken (db : Db) (a : Env × MarketStep) : Prop :=
  forall record order, CancelsOrder db a.2 record -> db.orders.findUnique record.id = some order ->
    record.givesBack db = true -> order.goodsCommitted = true

/--
What is left of a listing and what orders have taken make up at least the
listing, and exactly the listing in an `exact` market.
-/
def StockBalanced (exact : Prop) (orders : Table Order) (listings : Table Listing) : Prop :=
  forall i l, listings.findUnique i = some l ->
    l.quantity ≤ l.availableQuantity + committedOf orders i ∧
      (exact -> l.availableQuantity + committedOf orders i = l.quantity)

/-- The order waits for its dispute, and has taken nothing if it will wait for payment again. -/
def Dispute.holds (dispute : Dispute) (o : Order) : Prop :=
  o.status = .disputed ∧
      (dispute.previousOrderStatus.getD .confirmed = .pendingPayment -> o.goodsCommitted = false) ∨
    o.status = .completed ∨ o.status = .cancelled

structure StockInv (exact : Prop) (orders : Table Order) (listings : Table Listing)
    (disputes : Table Dispute) : Prop where
  balanced : StockBalanced exact orders listings
  placed : forall i o, orders.findUnique i = some o ->
    exists l, listings.findUnique o.listingId = some l
  positive : forall i o, orders.findUnique i = some o -> o.goodsCommitted = true -> 0 < o.quantity
  pending : forall i o, orders.findUnique i = some o -> o.status = .pendingPayment ->
    o.goodsCommitted = false
  disputed : forall d dispute, disputes.findUnique d = some dispute ->
    dispute.status.isOpen = true ->
    exists o, orders.findUnique dispute.orderId = some o ∧ dispute.holds o
  unique : forall d d' dispute dispute', disputes.findUnique d = some dispute ->
    disputes.findUnique d' = some dispute' -> dispute.status.isOpen = true ->
    dispute'.status.isOpen = true -> dispute.orderId = dispute'.orderId -> d = d'

/-- What a write of an order keeps. -/
structure KeepsStock (disputes : Table Dispute) (i : Id) (o o' : Order) : Prop where
  listing : o'.listingId = o.listingId
  quantity : o'.quantity = o.quantity
  positive : o'.goodsCommitted = true -> 0 < o.quantity
  pending : o'.status = .pendingPayment -> o'.goodsCommitted = false
  disputed : forall d dispute, disputes.findUnique d = some dispute ->
    dispute.status.isOpen = true -> dispute.orderId = i -> dispute.holds o'

variable {exact : Prop} {listings listings' : Table Listing} {disputes : Table Dispute}
  {p : Id -> Order -> Bool} {f : Order -> Order} {orderId : Id} {order : Order}

theorem committedOf_setStatus (s : OrderStatus) (i : Id) :
    committedOf (orders.updateMany p ({ · with status := s })) i = committedOf orders i := by
  unfold committedOf
  rw [Table.sumOf_updateMany]
  refine Table.sumOf_congr fun j o _ => ?_
  dsimp only
  split <;> rfl

theorem committedOf_of_unplaced {i : Id} (h : forall j o, orders.findUnique j = some o ->
    o.listingId ≠ i) :
    committedOf orders i = 0 :=
  Table.sumOf_of_zero fun j o ho => if_neg fun hi => h j o ho hi.1

/-- One order changes what it has taken of its listing, and of no other. -/
theorem committedOf_update (hfind : orders.findUnique orderId = some order)
    (hlisting : (f order).listingId = order.listingId)
    (hquantity : (f order).quantity = order.quantity) (i : Id) :
    committedOf (orders.update orderId f) i +
        (if order.listingId = i ∧ order.goodsCommitted = true then order.quantity else 0) =
      committedOf orders i +
        (if order.listingId = i ∧ (f order).goodsCommitted = true then order.quantity else 0) := by
  have hsum := Table.sumOf_update hfind f fun _ (o : Order) =>
    if o.listingId = i ∧ o.goodsCommitted = true then o.quantity else 0
  rw [hlisting, hquantity] at hsum
  exact hsum

theorem committedOf_nonneg (hpositive : forall i o, orders.findUnique i = some o ->
      o.goodsCommitted = true -> 0 < o.quantity) (i : Id) :
    0 ≤ committedOf orders i := by
  refine List.sum_nonneg fun q hq => ?_
  obtain ⟨j, hj, rfl⟩ := List.mem_mapIdx.mp hq
  split
  · next htaken => exact (hpositive j _ (List.getElem?_eq_getElem hj) htaken.2).le
  · exact le_rfl

theorem restore_balanced {l : Listing} {quantity share committed committed' : ℚ}
    (hsum : committed' + share = committed) (hleft : 0 ≤ committed') (hshare : share ≤ quantity)
    (hkept : l.quantity ≤ l.availableQuantity + committed) :
    l.quantity ≤ (l.restore quantity).availableQuantity + committed' ∧
      (share = quantity -> l.availableQuantity + committed = l.quantity ->
        (l.restore quantity).availableQuantity + committed' = l.quantity) := by
  unfold Listing.restore
  refine ⟨?_, fun hall htotal => ?_⟩
  · rcases min_cases l.quantity (l.availableQuantity + quantity) with ⟨hmin, -⟩ | ⟨hmin, -⟩
    · rw [hmin]
      linarith
    · rw [hmin]
      linarith
  · rw [min_eq_right (by linarith)]
    linarith

namespace StockInv

variable (h : StockInv exact orders listings disputes)

include h

theorem not_open {d : Id} {dispute : Dispute} (hd : disputes.findUnique d = some dispute)
    (hopen : dispute.status.isOpen = true) (hfind : orders.findUnique dispute.orderId = some order)
    (hmoves : order.status ≠ .disputed ∧ order.status ≠ .completed ∧ order.status ≠ .cancelled) :
    False := by
  obtain ⟨o, ho, hholds⟩ := h.disputed d dispute hd hopen
  obtain rfl := Option.some.inj (hfind.symm.trans ho)
  rcases hholds with ⟨hdisputed, -⟩ | hcompleted | hcancelled
  · exact hmoves.1 hdisputed
  · exact hmoves.2.1 hcompleted
  · exact hmoves.2.2 hcancelled

theorem updateMany (hbalanced : StockBalanced exact (orders.updateMany p f) listings')
    (hlistings : forall i l, listings.findUnique i = some l ->
      exists l', listings'.findUnique i = some l')
    (hf : forall i o, orders.findUnique i = some o -> p i o = true ->
      KeepsStock disputes i o (f o)) :
    StockInv exact (orders.updateMany p f) listings' disputes := by
  have hkeeps : forall i o', (orders.updateMany p f).findUnique i = some o' ->
      exists o, orders.findUnique i = some o ∧ KeepsStock disputes i o o' := by
    intro i o' ho'
    rw [Table.findUnique_updateMany] at ho'
    obtain ⟨o, ho, rfl⟩ := Option.map_eq_some_iff.mp ho'
    refine ⟨o, ho, ?_⟩
    split
    · next hp => exact hf i o ho hp
    · refine ⟨rfl, rfl, h.positive i o ho, h.pending i o ho, fun d dispute hd hopen howner => ?_⟩
      obtain ⟨q, hq, hholds⟩ := h.disputed d dispute hd hopen
      obtain rfl := Option.some.inj (ho.symm.trans (howner ▸ hq))
      exact hholds
  refine ⟨hbalanced, fun i o' ho' => ?_, fun i o' ho' => ?_, fun i o' ho' => ?_,
    fun d dispute hd hopen => ?_, h.unique⟩
  · obtain ⟨o, ho, hk⟩ := hkeeps i o' ho'
    obtain ⟨l, hl⟩ := h.placed i o ho
    exact hk.listing ▸ hlistings _ l hl
  · obtain ⟨o, ho, hk⟩ := hkeeps i o' ho'
    exact hk.quantity ▸ hk.positive
  · obtain ⟨o, ho, hk⟩ := hkeeps i o' ho'
    exact hk.pending
  · obtain ⟨o, ho, -⟩ := h.disputed d dispute hd hopen
    have ho' : (orders.updateMany p f).findUnique dispute.orderId =
        some (if p dispute.orderId o then f o else o) := by
      rw [Table.findUnique_updateMany, ho, Option.map_some]
    obtain ⟨_, -, hk⟩ := hkeeps _ _ ho'
    exact ⟨_, ho', hk.disputed d dispute hd hopen rfl⟩

theorem update (hfind : orders.findUnique orderId = some order)
    (hbalanced : StockBalanced exact (orders.update orderId f) listings')
    (hlistings : forall i l, listings.findUnique i = some l ->
      exists l', listings'.findUnique i = some l')
    (hf : KeepsStock disputes orderId order (f order)) :
    StockInv exact (orders.update orderId f) listings' disputes := by
  refine h.updateMany hbalanced hlistings fun i o ho hi => ?_
  obtain rfl := beq_iff_eq.mp hi
  obtain rfl := Option.some.inj (hfind.symm.trans ho)
  exact hf

theorem setStatus {s : OrderStatus} (hf : forall i o, orders.findUnique i = some o ->
      p i o = true -> (s = .pendingPayment -> o.goodsCommitted = false) ∧
      forall d dispute, disputes.findUnique d = some dispute -> dispute.status.isOpen = true ->
        dispute.orderId = i -> dispute.holds { o with status := s }) :
    StockInv exact (orders.updateMany p ({ · with status := s })) listings disputes := by
  refine h.updateMany (fun i l hl => ?_) (fun i l hl => ⟨l, hl⟩) fun i o ho hp => ?_
  · rw [committedOf_setStatus]
    exact h.balanced i l hl
  · exact ⟨rfl, rfl, h.positive i o ho, (hf i o ho hp).1, (hf i o ho hp).2⟩

theorem moved {s : OrderStatus} (hfind : orders.findUnique orderId = some order)
    (hs : s ≠ .pendingPayment)
    (hmoves : order.status ≠ .disputed ∧ order.status ≠ .completed ∧ order.status ≠ .cancelled) :
    StockInv exact (orders.update orderId ({ · with status := s })) listings disputes := by
  refine h.setStatus fun i o ho hi => ⟨fun hpending => absurd hpending hs, ?_⟩
  rintro d dispute hd hopen rfl
  obtain rfl := beq_iff_eq.mp hi
  exact (h.not_open hd hopen hfind hmoves).elim

theorem closed : StockInv exact (orders.update orderId ({ · with status := .completed }))
    listings disputes :=
  h.setStatus fun _ _ _ _ => ⟨nofun, fun _ _ _ _ _ => Or.inr (Or.inl rfl)⟩

theorem quiet (hkept : ListingsKept listings listings') :
    StockInv exact orders listings' disputes := by
  have hlistings : forall i l, listings.findUnique i = some l ->
      exists l', listings'.findUnique i = some l' ∧ l'.stock = l.stock := by
    intro i l hl
    obtain ⟨l', hl', hstock⟩ := Option.map_eq_some_iff.mp (hkept.kept i l hl)
    exact ⟨l', hl', hstock⟩
  refine ⟨fun i l' hl' => ?_, fun i o ho => ?_, h.positive, h.pending, h.disputed, h.unique⟩
  · cases hl : listings.findUnique i with
    | some l =>
        obtain ⟨k, hk, hstock⟩ := hlistings i l hl
        obtain rfl := Option.some.inj (hl'.symm.trans hk)
        have hquantity : l'.quantity = l.quantity := congrArg (·.2.1) hstock
        have havailable : l'.availableQuantity = l.availableQuantity := congrArg (·.2.2) hstock
        rw [hquantity, havailable]
        exact h.balanced i l hl
    | none =>
        have hzero : committedOf orders i = 0 := by
          apply committedOf_of_unplaced
          rintro j o ho rfl
          obtain ⟨l, hfound⟩ := h.placed j o ho
          rw [hl] at hfound
          cases hfound
        rw [hzero, hkept.fresh i l' hl hl', add_zero]
        exact ⟨le_rfl, fun _ => rfl⟩
  · obtain ⟨l, hl⟩ := h.placed i o ho
    obtain ⟨l', hl', -⟩ := hlistings _ l hl
    exact ⟨l', hl'⟩

theorem created (hlisted : exists l, listings.findUnique order.listingId = some l)
    (hpending : order.status = .pendingPayment) (hnothing : order.goodsCommitted = false) :
    StockInv exact (orders.create order) listings disputes := by
  have hrow : forall {i o}, (orders.create order).findUnique i = some o ->
      o = order ∨ orders.findUnique i = some o := by
    intro i o ho
    rcases Table.of_findUnique_create ho with ⟨-, rfl⟩ | ⟨-, hold⟩
    · exact Or.inl rfl
    · exact Or.inr hold
  refine ⟨fun i l hl => ?_, fun i o ho => ?_, fun i o ho htaken => ?_, fun i o ho hs => ?_,
    fun d dispute hd hopen => ?_, h.unique⟩
  · have hsame : committedOf (orders.create order) i = committedOf orders i := by
      unfold committedOf
      rw [Table.sumOf_create, hnothing, if_neg (by simp), add_zero]
    rw [hsame]
    exact h.balanced i l hl
  · rcases hrow ho with rfl | hold
    · exact hlisted
    · exact h.placed i o hold
  · rcases hrow ho with rfl | hold
    · rw [hnothing] at htaken
      cases htaken
    · exact h.positive i o hold htaken
  · rcases hrow ho with rfl | hold
    · exact hnothing
    · exact h.pending i o hold hs
  · obtain ⟨o, ho, hholds⟩ := h.disputed d dispute hd hopen
    exact ⟨o, Table.findUnique_create_of_some ho, hholds⟩

theorem confirmed {committed : Bool} (hfind : orders.findUnique orderId = some order)
    (hpending : order.status = .pendingPayment)
    (htaken : StockTaken order listings committed listings') :
    StockInv exact (orders.update orderId (·.confirm committed)) listings' disputes := by
  have hnothing := h.pending orderId order hfind hpending
  have hcommitted : (order.confirm committed).goodsCommitted = committed := by
    rw [Order.confirm, hnothing, Bool.or_false]
  have hsum := committedOf_update (f := (·.confirm committed)) hfind rfl rfl
  rw [hnothing, hcommitted] at hsum
  have hkeeps : (committed = true -> 0 < order.quantity) ->
      KeepsStock disputes orderId order (order.confirm committed) := by
    intro hpos
    refine ⟨rfl, rfl, fun htrue => hpos (hcommitted.symm.trans htrue), fun hs => (by cases hs), ?_⟩
    rintro d dispute hd hopen rfl
    exact (h.not_open hd hopen hfind (by rw [hpending]; decide)).elim
  cases htaken with
  | taken l hl hphysical hpos =>
      refine h.update hfind (fun i k hk => ?_) (fun i k hk => ?_) (hkeeps fun _ => hpos)
      · have hi := hsum i
        rw [if_neg (by simp), add_zero] at hi
        rcases Table.of_findUnique_update_some hl hk with ⟨rfl, rfl⟩ | ⟨hother, hold⟩
        · obtain ⟨hkept, hexact⟩ := h.balanced order.listingId l hl
          rw [if_pos ⟨rfl, rfl⟩] at hi
          rw [hi]
          simp only [Listing.take]
          exact ⟨by linarith, fun he => by linarith [hexact he]⟩
        · rw [if_neg fun hboth => hother hboth.1.symm, add_zero] at hi
          rw [hi]
          exact h.balanced i k hold
      · rw [Table.findUnique_update]
        split
        · exact ⟨k.take order.quantity, by rw [hk]; rfl⟩
        · exact ⟨k, hk⟩
  | untouched hnone =>
      refine h.update hfind (fun i k hk => ?_) (fun i k hk => ⟨k, hk⟩) (hkeeps (by simp))
      have hi := hsum i
      rw [if_neg (by simp), add_zero, add_zero] at hi
      rw [hi]
      exact h.balanced i k hk

theorem orderMove {orders' : Table Order} (hmove : OrderMove orders listings orders' listings') :
    StockInv exact orders' listings' disputes := by
  cases hmove with
  | kept => exact h
  | confirmed orderId order committed _ hfind hpending htaken =>
      exact h.confirmed hfind hpending htaken
  | arranged orderId =>
      refine h.setStatus fun i o ho hselects => ⟨nofun, ?_⟩
      rintro d dispute hd hopen rfl
      obtain ⟨-, hconfirmed⟩ := Bool.and_eq_true_iff.mp hselects
      refine (h.not_open hd hopen ho ?_).elim
      rw [of_decide_eq_true hconfirmed]
      decide

theorem resolved (d : Id) (resolution : String) :
    StockInv exact orders listings (disputes.update d (·.resolve resolution)) := by
  have hrow : forall {e dispute}, (disputes.update d (·.resolve resolution)).findUnique e =
      some dispute -> dispute.status.isOpen = true -> disputes.findUnique e = some dispute := by
    intro e dispute he hopen
    rcases Table.of_findUnique_update he with ⟨-, before, -, rfl⟩ | ⟨-, hold⟩
    · cases hopen
    · exact hold
  refine ⟨h.balanced, h.placed, h.positive, h.pending, ?_, ?_⟩
  · intro e dispute he hopen
    exact h.disputed e dispute (hrow he hopen) hopen
  · intro e e' dispute dispute' he he' hopen hopen' hsame
    exact h.unique e e' dispute dispute' (hrow he hopen) (hrow he' hopen') hopen hopen' hsame

theorem raised {dispute : Dispute} (howner : dispute.orderId = orderId)
    (hfind : orders.findUnique orderId = some order)
    (hdisputable : order.status ∈ disputableStatuses)
    (hprevious : dispute.previousOrderStatus = some order.status) :
    StockInv exact (orders.update orderId ({ · with status := .disputed })) listings
      (disputes.create dispute) := by
  subst howner
  have hmoves : order.status ≠ .disputed ∧ order.status ≠ .completed ∧
      order.status ≠ .cancelled := by
    refine ⟨?_, ?_, ?_⟩ <;> exact fun hs => absurd (hs ▸ hdisputable) (by decide)
  have hnone : forall {d other}, disputes.findUnique d = some other ->
      other.status.isOpen = true -> other.orderId ≠ dispute.orderId := by
    intro d other hd hopen hsame
    exact h.not_open hd hopen (hsame ▸ hfind) hmoves
  have hstopped := h.moved hfind (s := .disputed) (by decide) hmoves
  refine ⟨hstopped.balanced, hstopped.placed, hstopped.positive, hstopped.pending, ?_, ?_⟩
  · intro d other hd hopen
    rcases Table.of_findUnique_create hd with ⟨-, rfl⟩ | ⟨-, hold⟩
    · refine ⟨{ order with status := .disputed }, ?_, Or.inl ⟨rfl, fun hpending => ?_⟩⟩
      · rw [Table.findUnique_update_self, hfind, Option.map_some]
      · rw [hprevious] at hpending
        exact h.pending _ order hfind hpending
    · exact hstopped.disputed d other hold hopen
  · intro d e other other' hd he hopen hopen' hsame
    rcases Table.of_findUnique_create hd with ⟨hlast, rfl⟩ | ⟨-, hold⟩
    · rcases Table.of_findUnique_create he with ⟨hlast', -⟩ | ⟨-, hold'⟩
      · exact hlast.trans hlast'.symm
      · exact absurd hsame.symm (hnone hold' hopen')
    · rcases Table.of_findUnique_create he with ⟨-, rfl⟩ | ⟨-, hold'⟩
      · exact absurd hsame (hnone hold hopen)
      · exact h.unique d e other other' hold hold' hopen hopen' hsame

omit h

theorem progress (h : StockInv exact db.orders db.listings disputes) (hprogress : Progress db db') :
    StockInv exact db'.orders db'.listings disputes := by
  induction hprogress with
  | refl => exact h
  | tail _ hstep ih => exact ih.orderMove hstep.moved

theorem cancelled {load : OrderLoad} {record : OrderRecord}
    (h : StockInv exact db.orders db.listings disputes)
    (hloaded : IsLoaded load db orderId order record) (hcancelled : OrderCancelled record db db')
    (htaken : exact -> record.givesBack db = true -> order.goodsCommitted = true) :
    StockInv exact db'.orders db'.listings disputes := by
  have hstock := hcancelled.stock
  unfold StockRestored at hstock
  rw [hcancelled.orders, hloaded.id]
  rw [hloaded.listingId, hloaded.quantity] at hstock
  generalize earnedInspections db orderId = earned
  have hsum := committedOf_update (f := (·.cancel earned (record.givesBack db)))
    hloaded.found rfl rfl
  have hkeeps : KeepsStock disputes orderId order
      (order.cancel earned (record.givesBack db)) := by
    refine ⟨rfl, rfl, fun hboth => ?_, nofun, fun _ _ _ _ _ => Or.inr (Or.inr rfl)⟩
    exact h.positive orderId order hloaded.found (Bool.and_eq_true_iff.mp hboth).1
  by_cases hgives : record.givesBack db = true
  · rw [if_pos hgives] at hstock
    obtain ⟨hpos, hsame⟩ := hstock
    have hreturned : (order.cancel earned (record.givesBack db)).goodsCommitted = false := by
      simp [Order.cancel, hgives]
    rw [hreturned] at hsum
    refine StockInv.quiet (h.update hloaded.found (fun i k hk => ?_) (fun i k hk => ?_) hkeeps)
      (.of_sameStock hsame)
    · have hi := hsum i
      rw [if_neg (c := _ ∧ false = true) (by simp), add_zero] at hi
      rcases Table.of_findUnique_update hk with ⟨rfl, l, hl, rfl⟩ | ⟨hother, hold⟩
      · obtain ⟨hkept, hexact⟩ := h.balanced order.listingId l hl
        have hleft : 0 ≤ committedOf (db.orders.update orderId
            (·.cancel earned (record.givesBack db))) order.listingId := by
          refine committedOf_nonneg (fun j o ho hcommitted => ?_) _
          rcases Table.of_findUnique_update_some hloaded.found ho with ⟨-, rfl⟩ | ⟨-, hold⟩
          · exact hkeeps.positive hcommitted
          · exact h.positive j o hold hcommitted
        have hshare : (if order.listingId = order.listingId ∧ order.goodsCommitted = true
            then order.quantity else 0) ≤ order.quantity := by
          split
          · exact le_rfl
          · exact hpos.le
        obtain ⟨hkept', hexact'⟩ := restore_balanced hi hleft hshare hkept
        exact ⟨hkept', fun he => hexact' (if_pos ⟨rfl, htaken he hgives⟩) (hexact he)⟩
      · rw [if_neg fun hboth => hother hboth.1.symm, add_zero] at hi
        rw [hi]
        exact h.balanced i k hold
    · rw [Table.findUnique_update]
      split
      · exact ⟨k.restore order.quantity, by rw [hk]; rfl⟩
      · exact ⟨k, hk⟩
  · rw [if_neg hgives] at hstock
    have hsame : (order.cancel earned (record.givesBack db)).goodsCommitted =
        order.goodsCommitted := by
      simp [Order.cancel, hgives]
    rw [hsame] at hsum
    refine StockInv.quiet (h.update hloaded.found (fun i k hk => ?_) (fun i k hk => ⟨k, hk⟩)
      hkeeps) (.of_sameStock hstock)
    rw [add_right_cancel (hsum i)]
    exact h.balanced i k hk

end StockInv

theorem StepEffect.stockInv {a : MarketStep} (h : StepEffect env db a db')
    (hinv : StockInv exact db.orders db.listings db.disputes)
    (htaken : exact -> MarketStep.returnsTaken db (env, a)) :
    StockInv exact db'.orders db'.listings db'.disputes := by
  cases h with
  | quiet _ _ hquiet =>
      rw [hquiet.orders, hquiet.disputes]
      exact hinv.quiet hquiet.listings
  | ordered _ _ _ _ order _ hnew horders hlistings _ hdisputes =>
      rw [horders, hlistings, hdisputes]
      obtain ⟨l, hl, -⟩ := hnew.listed
      exact hinv.created ⟨l, hl⟩ hnew.pending hnew.notCommitted
  | settled _ _ hprogress =>
      rw [hprogress.undisputed.2.2]
      exact hinv.progress hprogress
  | shipped orderId leg order hfind hsource =>
      refine hinv.moved hfind ?_ ?_
      · cases leg <;> decide
      · rw [hsource]
        cases leg <;> decide
  | received _ _ order _ _ _ _ horders hlistings _ hdisputes =>
      rw [horders, hlistings, hdisputes]
      exact hinv.closed
  | cancelled load orderId actorId reason role record _ hload _ hcancelled =>
      obtain ⟨order, hloaded⟩ := loadOrder_eq_some hload
      rw [hcancelled.disputes]
      refine hinv.cancelled hloaded hcancelled fun he => ?_
      exact htaken he record order (.cancelled load orderId actorId reason role record hload)
        (hloaded.id ▸ hloaded.found)
  | raised _ _ order _ hfind hdisputable horders hlistings _ hdisputes =>
      rw [horders, hlistings, hdisputes]
      exact hinv.raised rfl hfind hdisputable rfl
  | resolvedByCancelling adminId d resolution dispute record cancelled _ hresolvable hload
      hcancelled =>
      obtain ⟨order, hloaded⟩ := @loadOrder_eq_some _ .included _ _ hload
      have hkept := hinv.cancelled hloaded hcancelled fun he =>
        htaken he record order (.resolved adminId d resolution dispute record hresolvable.found hload)
          (hloaded.id ▸ hloaded.found)
      change StockInv exact _ _ (cancelled.disputes.update d _)
      rw [hcancelled.disputes]
      exact hkept.resolved d resolution
  | resolvedByRestoring _ d _ resolution dispute restored replayed _ hresolvable hrestored
      hreplayed =>
      change StockInv exact replayed.orders replayed.listings (replayed.disputes.update d _)
      rw [hreplayed.undisputed.2.2, hrestored.disputes]
      refine StockInv.progress ?_ hreplayed
      rw [hrestored.orders, hrestored.listings]
      obtain ⟨order, hfind, hdisputed⟩ := hresolvable.disputed
      refine (hinv.resolved d resolution).setStatus fun i o ho hi => ?_
      obtain rfl := beq_iff_eq.mp hi
      obtain ⟨o', ho', hholds⟩ := hinv.disputed d dispute hresolvable.found hresolvable.isOpen
      obtain rfl := Option.some.inj (ho.symm.trans hfind)
      obtain rfl := Option.some.inj (ho.symm.trans ho')
      refine ⟨fun hpending => ?_, fun e other he hopen howner => ?_⟩
      · rcases hholds with ⟨-, hnothing⟩ | hclosed | hclosed
        · exact hnothing hpending
        · rw [hdisputed] at hclosed
          cases hclosed
        · rw [hdisputed] at hclosed
          cases hclosed
      · -- The dispute that is resolved was the only open one of its order.
        rcases Table.of_findUnique_update he with ⟨-, before, -, rfl⟩ | ⟨hother, hold⟩
        · cases hopen
        · exact absurd (hinv.unique e d other dispute hold hresolvable.found hopen
            hresolvable.isOpen howner) hother

/-- No order has been placed, and nothing has been taken from a listing. -/
structure StockFresh (db : Db) : Prop where
  orders : db.orders = .empty
  disputes : db.disputes = .empty
  listings : forall i l, db.listings.findUnique i = some l -> l.availableQuantity = l.quantity

theorem StockFresh.stockInv (h : StockFresh db) :
    StockInv exact db.orders db.listings db.disputes := by
  rw [h.orders, h.disputes]
  refine ⟨fun i l hl => ?_, ?_, ?_, ?_, ?_, ?_⟩
  · rw [h.listings i l hl, committedOf, Table.sumOf_empty, add_zero]
    exact ⟨le_rfl, fun _ => rfl⟩
  all_goals
    intro i
    simp

/-! ## Steps of a listing -/

theorem expireListings_kept_tables (env : Env) (db : Db) :
    exists listings, SameStock db.listings listings ∧
      expireListings env db = { db with listings := listings } := by
  unfold expireListings
  generalize listingsToExpire env db = picks
  induction picks generalizing db with
  | nil => exact ⟨db.listings, .refl _, rfl⟩
  | cons pick picks ih =>
      obtain ⟨listings, hsame, hrest⟩ := ih { db with
        listings := db.listings.updateMany (fun i l => i == pick.1 && l.windowEnded env)
          ({ · with status := .expired }) }
      refine ⟨listings, SameStock.trans (fun i => ?_) hsame, hrest⟩
      rw [Table.findUnique_updateMany, Option.map_map]
      congr 1
      funext l
      dsimp only [Function.comp]
      split <;> rfl

theorem recoverTransport_disputes {orderId : Id} (h : recoverTransport orderId db = .ok db') :
    db'.disputes = db.disputes := by
  unfold recoverTransport at h
  repeat' split at h
  all_goals
    first
      | exact (Except.ok.inj h) ▸ rfl
      | cases h

theorem recoverInspection_disputes {orderId : Id} (h : recoverInspection orderId db = .ok db') :
    db'.disputes = db.disputes := by
  unfold recoverInspection at h
  repeat' split at h
  all_goals
    first
      | exact (Except.ok.inj h) ▸ rfl
      | cases h

theorem recoverOther_disputes {request : RecoveryRequest} (h : recoverOther request db = .ok db') :
    db'.disputes = db.disputes := by
  unfold recoverOther at h
  cases htype : request.type with
  | offer =>
      simp only [htype] at h
      unfold recoverBidding at h
      repeat' split at h
      all_goals
        first
          | exact (Except.ok.inj h) ▸ rfl
          | cases h
  | inspection =>
      simp only [htype] at h
      exact recoverInspection_disputes h
  | transport =>
      simp only [htype] at h
      exact recoverInspection_disputes h

theorem approveRecovery_disputes {adminId requestId : Id}
    (h : approveRecovery env adminId requestId recoverOther db = .ok db') :
    db'.disputes = db.disputes := by
  unfold approveRecovery at h
  split at h
  · cases h
  · rename_i request _
    simp only [guard_eq_ok] at h
    obtain ⟨-, -, h⟩ := h
    have hrecovered : exists recovered : Db, recovered.disputes = db.disputes ∧
        db' = recordOrderEvent env (some request.orderId) .workflowRecoveryApproved
          { recovered with
            recoveryRequests := recovered.recoveryRequests.update requestId ({ · with
              status := .approved
              approvedById := some adminId
              formReleasedAt := some env.now }) } := by
      split at h
      · obtain ⟨recovered, hrecover, hwrite⟩ := bind_eq_ok.1 h
        exact ⟨recovered, recoverTransport_disputes hrecover, (Except.ok.inj hwrite).symm⟩
      · obtain ⟨recovered, hrecover, hwrite⟩ := bind_eq_ok.1 h
        exact ⟨recovered, recoverOther_disputes hrecover, (Except.ok.inj hwrite).symm⟩
    obtain ⟨recovered, hsame, rfl⟩ := hrecovered
    obtain ⟨events, hframe⟩ := recordOrderEvent_frame env (some request.orderId)
      .workflowRecoveryApproved { recovered with
        recoveryRequests := recovered.recoveryRequests.update requestId ({ · with
          status := .approved
          approvedById := some adminId
          formReleasedAt := some env.now }) }
    rw [hframe]
    exact hsame

theorem StockInv.recovered {adminId requestId : Id}
    (h : StockInv exact db.orders db.listings db.disputes)
    (happrove : approveRecovery env adminId requestId recoverOther db = .ok db') :
    StockInv exact db'.orders db'.listings db'.disputes := by
  rw [approveRecovery_disputes happrove]
  cases approveRecovery_stallEffect happrove with
  | kept _ _ hkept =>
      rw [hkept.orders, hkept.listings]
      exact h
  | recovered _ _ _ _ _ _ _ _ horders hlistings _ =>
      rw [horders, hlistings]
      exact h.quiet (.of_sameStock (sameStock_update fun _ => rfl))

theorem ListingStep.stockInv (a : Env × ListingStep)
    (h : StockInv exact db.orders db.listings db.disputes)
    (htaken : exact -> forall b hb, a.2 = .market b hb -> MarketStep.returnsTaken db (a.1, b)) :
    StockInv exact (step db a).orders (step db a).listings (step db a).disputes := by
  obtain ⟨env, a⟩ := a
  cases a with
  | market b hb =>
      exact (MarketStep.effect env db b).stockInv h fun he => htaken he b hb rfl
  | createListing listing draft =>
      exact h.quiet (listingsKept_create _ _ rfl)
  | cancelListing caller listingId =>
      refine commit_preserves (P := fun s : Db => StockInv exact s.orders s.listings s.disputes) h
        fun db' hclose => ?_
      rw [updateListingStatus_eq_ok hclose]
      exact h.quiet (.of_sameStock (sameStock_update fun _ => rfl))
  | expireListings =>
      obtain ⟨listings, hsame, hframe⟩ := expireListings_kept_tables env db
      change StockInv exact (MarketBridge.expireListings env db).orders _
        (MarketBridge.expireListings env db).disputes
      rw [ListingStep.step, hframe]
      exact h.quiet (.of_sameStock hsame)
  | approveRecovery adminId requestId =>
      exact commit_preserves (P := fun s : Db => StockInv exact s.orders s.listings s.disputes) h
        fun _ => h.recovered

/-! ## Bounds -/

def StockBounded (listings : Table Listing) : Prop :=
  forall i l, listings.findUnique i = some l ->
    0 ≤ l.availableQuantity ∧ l.availableQuantity ≤ l.quantity

theorem StockBounded.of_sameStock (h : StockBounded listings)
    (hsame : SameStock listings listings') :
    StockBounded listings' := by
  intro i l' hl'
  have hstock := hsame i
  rw [hl', Option.map_some] at hstock
  obtain ⟨l, hl, hrow⟩ := Option.map_eq_some_iff.mp hstock.symm
  have hquantity : l.quantity = l'.quantity := congrArg (·.2.1) hrow
  have havailable : l.availableQuantity = l'.availableQuantity := congrArg (·.2.2) hrow
  rw [← hquantity, ← havailable]
  exact h i l hl

theorem StockBounded.update (h : StockBounded listings) {i : Id} {f : Listing -> Listing}
    (hf : forall l, listings.findUnique i = some l -> 0 ≤ l.availableQuantity ->
      l.availableQuantity ≤ l.quantity ->
      0 ≤ (f l).availableQuantity ∧ (f l).availableQuantity ≤ (f l).quantity) :
    StockBounded (listings.update i f) := by
  intro j l' hl'
  rcases Table.of_findUnique_update hl' with ⟨rfl, l, hl, rfl⟩ | ⟨-, hold⟩
  · exact hf l hl (h _ l hl).1 (h _ l hl).2
  · exact h j l' hold

theorem StallMove.stockBounded (h : StockBounded db.listings) (hmove : StallMove db db') :
    StockBounded db'.listings := by
  cases hmove with
  | kept _ hlistings _ => exact hlistings ▸ h
  | arranged _ _ hlistings _ => exact hlistings ▸ h
  | confirmed _ order _ _ _ _ _ htaken _ hlistings _ =>
      rw [hlistings]
      cases htaken with
      | untouched => exact h
      | taken l hl _ hpos hcan =>
          rw [takeListingQuantity_listings]
          refine h.update fun k hk hlow hhigh => ?_
          obtain rfl := Option.some.inj (hl.symm.trans hk)
          have henough : order.quantity ≤ l.availableQuantity := by
            simp only [Listing.canCommit, Bool.and_eq_true, decide_eq_true_eq] at hcan
            exact hcan.2
          simp only [Listing.take]
          exact ⟨by linarith, by linarith⟩

theorem OrderCancelled.stockBounded {record : OrderRecord} (h : StockBounded db.listings)
    (hcancelled : OrderCancelled record db db') :
    StockBounded db'.listings := by
  have hstock := hcancelled.stock
  unfold StockRestored at hstock
  split at hstock
  · refine (h.update fun l _ hlow hhigh => ?_).of_sameStock hstock.2
    simp only [Listing.restore]
    refine ⟨le_min (hlow.trans hhigh) ?_, min_le_left _ _⟩
    linarith [hstock.1]
  · exact h.of_sameStock hstock

theorem StallMoves.stockBounded (h : StockBounded db.listings) (hmoves : StallMoves db db') :
    StockBounded db'.listings := by
  induction hmoves with
  | refl => exact h
  | tail _ hmove ih => exact hmove.stockBounded ih

theorem OfferAnswer.stockBounded {caller : OfferCaller} {offerId : Id} {action : OfferAction}
    (h : StockBounded db.listings) (hanswer : OfferAnswer env caller offerId action db db') :
    StockBounded db'.listings := by
  cases hanswer with
  | refused => exact h
  | expired => exact h
  | moved o listing _ _ _ _ _ hmove _ =>
      cases hmove with
      | selected => exact h
      | agreed => exact h
      | countered => exact h
      | closed => exact h.of_sameStock (closeLeafOffer_offersOnly _ _ _ _).stock
      | confirmed quantity =>
          obtain ⟨_, hframe⟩ := orderedDb_frame env offerId o listing o.confirmedPrice quantity db
          rw [hframe]
          exact h

theorem settlePayment_stockBounded {args : SettleArgs} (h : StockBounded db.listings)
    (hsettle : settlePayment env args db = .ok db') :
    StockBounded db'.listings := by
  obtain ⟨planned, paymentId, hsettled, -, rfl⟩ := settlePayment_stall hsettle
  have hplanned := StallMoves.stockBounded h hsettled.moves
  unfold releaseBiddersAfter
  repeat' split
  all_goals exact hplanned

def ListingStep.postsGoods (_ : Db) (a : Env × ListingStep) : Bool :=
  match a.2 with
  | .createListing listing _ => 0 < listing.quantity
  | _ => true

theorem ListingStep.stockBounded (a : Env × ListingStep) (h : StockBounded db.listings)
    (hposts : postsGoods db a = true) :
    StockBounded (step db a).listings := by
  obtain ⟨env, a⟩ := a
  have heffect := ListingStep.stallEffect env db a
  generalize step db (env, a) = db' at heffect ⊢
  cases heffect with
  | kept _ _ hkept => exact hkept.listings ▸ h
  | created listing draft =>
      intro i l hl
      rcases Table.of_findUnique_create hl with ⟨-, rfl⟩ | ⟨-, hold⟩
      · exact ⟨(of_decide_eq_true hposts).le, le_rfl⟩
      · exact h i l hold
  | closed => exact h.of_sameStock (sameStock_update fun _ => rfl)
  | windowsEnded =>
      obtain ⟨listings, hsame, hframe⟩ := expireListings_kept_tables env db
      rw [hframe]
      exact h.of_sameStock hsame
  | recovered _ _ _ _ _ _ _ _ _ hlistings _ =>
      rw [hlistings]
      exact h.of_sameStock (sameStock_update fun _ => rfl)
  | bid => exact h
  | answered _ _ _ _ _ _ hanswer => exact hanswer.stockBounded h
  | offersExpired => exact h.of_sameStock (expireOffers_offersOnly env db).stock
  | settled _ _ _ hsettle => exact settlePayment_stockBounded h hsettle
  | shipped => exact h
  | received _ _ _ _ _ _ _ hlistings _ => exact hlistings ▸ h
  | raised _ _ _ _ _ _ _ _ hlistings _ => exact hlistings ▸ h
  | cancelled _ _ _ _ _ _ _ _ _ hcancelled => exact hcancelled.cancelled.stockBounded h
  | resolvedByCancelling _ _ _ _ _ _ cancelled _ _ hcancelled =>
      change StockBounded cancelled.listings
      exact hcancelled.cancelled.stockBounded h
  | resolvedByRestoring _ _ _ _ _ _ _ replayed _ _ _ hlistings _ hreplayed =>
      change StockBounded replayed.listings
      exact StallMoves.stockBounded (hlistings ▸ h) hreplayed

/-! ## Runs -/

def ListingStep.returnsTaken (db : Db) (a : Env × ListingStep) : Prop :=
  forall b hb, a.2 = .market b hb -> MarketStep.returnsTaken db (a.1, b)

theorem stockBalanced_of_run (h : StockFresh db) {as : List (Env × ListingStep)}
    (hreturns : RunMeets ListingStep.step (fun s a => exact -> ListingStep.returnsTaken s a) db as) :
    StockBalanced exact (run ListingStep.step db as).orders
      (run ListingStep.step db as).listings := by
  have hstep : forall (s : Db) (a : Env × ListingStep),
      StockInv exact s.orders s.listings s.disputes -> (exact -> ListingStep.returnsTaken s a) ->
      StockInv exact (ListingStep.step s a).orders (ListingStep.step s a).listings
        (ListingStep.step s a).disputes :=
    fun _ a hinv htaken => ListingStep.stockInv a hinv htaken
  have hstart : StockInv exact db.orders db.listings db.disputes := h.stockInv
  exact (run_invariant hstep hstart hreturns).balanced

/-- The goods of the order are paid for, and then an admin cancels it. -/
def onionsSold : List (Env × ListingStep) :=
  [(env0, .createListing onions false), (env0, bidStep 2), (env0, answerStep 1 0 .select),
    (env0, answerStep 2 0 .acceptSelected), orderStep,
    (env0, .market (.checkout (.createPayment
      { type := .marketplace
        amount := 12
        orderId := some 0
        createdById := some 2 })) rfl),
    (env0, .market (.settlePayment
      { paymentId := 0
        status := .paid
        eventId := some "paid-1"
        amount := some (.finite 12) }) rfl)]

def onionsReturned : List (Env × ListingStep) :=
  onionsSold ++ [(env0, .market (.cancelOrder .included 0 (some 9) none .admin) rfl)]

theorem stockFresh_empty : StockFresh {} :=
  ⟨rfl, rfl, by simp⟩

theorem stockBounded_empty : StockBounded ({} : Db).listings := by
  intro i l hl
  simp at hl

theorem onionsReturned_postsGoods :
    RunMeets ListingStep.step (ListingStep.postsGoods · ·) {} onionsReturned := by
  decide +kernel

theorem onionsReturned_returnsTaken :
    RunMeets ListingStep.step ListingStep.returnsTaken {} onionsReturned := by
  refine runMeets_append.mpr ⟨runMeets_of_forall ?_ _, ?_, trivial⟩
  · intro a ha s b hb heq record order hcancels
    simp only [onionsSold, List.mem_cons, List.not_mem_nil, or_false] at ha
    rcases ha with rfl | rfl | rfl | rfl | rfl | rfl | rfl
    all_goals
      cases heq
      try cases hcancels
  · intro b hb heq record order hcancels horder _
    have hcommitted : ((run ListingStep.step {} onionsSold).orders.findUnique 0).map
        (·.goodsCommitted) = some true := by decide +kernel
    cases heq
    cases hcancels with
    | cancelled _ _ _ _ _ _ hload =>
        obtain ⟨_, hloaded⟩ := loadOrder_eq_some hload
        rw [hloaded.id] at horder
        rw [horder] at hcommitted
        exact Option.some.inj hcommitted

end MarketBridge
