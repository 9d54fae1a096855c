import MarketBridge.Order.Decisions

/-!
# Runs of decisions

Every write to an order leaves its decision alone, or records one where the transaction
still finds the order as it has read it.
-/

namespace MarketBridge

open Relational

/-! ## Orders -/

/-- The decision stays, and a cancelled order stays cancelled. -/
structure OrderKept (order order' : Order) : Prop where
  decision : order'.buyerDecision = order.buyerDecision
  cancelled : order.status = .cancelled -> order'.status = .cancelled

theorem OrderKept.refl (order : Order) : OrderKept order order :=
  ⟨rfl, id⟩

theorem OrderKept.trans {order order' order'' : Order} (h : OrderKept order order')
    (h' : OrderKept order' order'') :
    OrderKept order order'' :=
  ⟨h'.decision.trans h.decision, fun hcancelled => h'.cancelled (h.cancelled hcancelled)⟩

theorem OrderKept.of_status {order order' : Order} (h : order.status ≠ .cancelled)
    (hdecision : order'.buyerDecision = order.buyerDecision) :
    OrderKept order order' :=
  ⟨hdecision, fun hcancelled => absurd hcancelled h⟩

/-- The orders are kept, and the new ones are undecided. -/
structure OrdersKept (orders orders' : Table Order) : Prop where
  rows : forall i order, orders.findUnique i = some order ->
    exists order', orders'.findUnique i = some order' ∧ OrderKept order order'
  fresh : forall i order', orders'.findUnique i = some order' -> orders.findUnique i = none ->
    order'.buyerDecision = none

namespace OrdersKept

variable {orders orders' orders'' : Table Order}

theorem of_rel (h : orders.Rel (fun _ => OrderKept) orders') : OrdersKept orders orders' where
  rows := fun _ _ hi => h.of_left hi
  fresh := by
    intro i order' hi hnone
    rw [h.none_right hnone] at hi
    cases hi

theorem refl (orders : Table Order) : OrdersKept orders orders :=
  of_rel (.refl (fun _ => .refl) orders)

theorem of_eq (h : orders' = orders) : OrdersKept orders orders' := by
  rw [h]
  exact refl orders

theorem trans (h : OrdersKept orders orders') (h' : OrdersKept orders' orders'') :
    OrdersKept orders orders'' where
  rows := by
    intro i order hi
    obtain ⟨order', hi', hkept⟩ := h.rows i order hi
    obtain ⟨order'', hi'', hkept'⟩ := h'.rows i order' hi'
    exact ⟨order'', hi'', hkept.trans hkept'⟩
  fresh := by
    intro i order'' hi'' hnone
    cases hi' : orders'.findUnique i with
    | none => exact h'.fresh i order'' hi'' hi'
    | some order' =>
        obtain ⟨q, hq, hkept⟩ := h'.rows i order' hi'
        obtain rfl := Option.some.inj (hq.symm.trans hi'')
        exact hkept.decision.trans (h.fresh i order' hi' hnone)

theorem update {i : Id} {f : Order -> Order}
    (hf : forall order, orders.findUnique i = some order -> OrderKept order (f order)) :
    OrdersKept orders (orders.update i f) :=
  of_rel (Table.rel_update (fun _ => .refl) hf)

theorem create {order : Order} (h : order.buyerDecision = none) :
    OrdersKept orders (orders.create order) where
  rows := by
    intro i q hi
    refine ⟨q, ?_, .refl q⟩
    rw [Table.findUnique_create, if_neg (Nat.ne_of_lt (Table.lt_size_of_findUnique hi))]
    exact hi
  fresh := by
    intro i q hi hnone
    rcases Table.of_findUnique_create hi with ⟨-, rfl⟩ | ⟨-, hi⟩
    · exact h
    · rw [hnone] at hi
      cases hi

end OrdersKept

/-! ## The market -/

theorem OrderMove.ordersKept {orders orders' : Table Order} {listings listings' : Table Listing}
    (h : OrderMove orders listings orders' listings') :
    OrdersKept orders orders' := by
  cases h with
  | kept => exact .refl orders
  | confirmed orderId order committed _ hfind hpending =>
      refine .update fun q hq => ?_
      obtain rfl := Option.some.inj (hfind.symm.trans hq)
      exact .of_status (by rw [hpending]; decide) rfl
  | arranged orderId =>
      refine .of_rel (Table.rel_updateMany (fun _ => .refl) fun i q _ hq => ?_)
      have hconfirmed : q.status = .confirmed := by simpa using (Bool.and_eq_true_iff.1 hq).2
      exact .of_status (by rw [hconfirmed]; decide) rfl

theorem Progress.ordersKept {db db' : Db} (h : Progress db db') :
    OrdersKept db.orders db'.orders := by
  induction h with
  | refl => exact .refl _
  | tail _ hstep ih => exact ih.trans hstep.moved.ordersKept

theorem respondToOffer_ordersKept (env : Env) (caller : OfferCaller) (updatedAt : Nat) (id : Id)
    (action : OfferAction) (db : Db) :
    OrdersKept db.orders (respondToOffer env caller updatedAt id action db).1.orders := by
  have hresponse := respondToOffer_response env caller updatedAt id action db
  generalize (respondToOffer env caller updatedAt id action db).1 = db' at hresponse ⊢
  cases hresponse with
  | refused => exact .refl _
  | expired => exact .of_eq rfl
  | moved o listing _ hoffer hlisting hleaf hmove =>
      cases hmove with
      | selected => exact .of_eq rfl
      | agreed => exact .of_eq rfl
      | countered => exact .of_eq rfl
      | closed => exact .of_eq (closeLeafOffer_offersOnly _ _ _ _).quiet.orders
      | confirmed quantity =>
          unfold orderedDb
          obtain ⟨events, hframe⟩ := recordOrderEvent_frame env (some db.orders.size)
            .orderCreated
            { setOfferStatus id .accepted db with
              orders := db.orders.create
                (orderOfOffer env id o listing listing.sellerId o.confirmedPrice quantity) }
          rw [hframe]
          exact .create rfl

theorem marketStep_ordersKept (db : Db) (a : Env × MarketStep) :
    OrdersKept db.orders (MarketStep.step db a).orders := by
  obtain ⟨env, a⟩ := a
  by_cases hoffer : exists caller updatedAt offerId action,
      a = .respondToOffer caller updatedAt offerId action
  · obtain ⟨caller, updatedAt, offerId, action, rfl⟩ := hoffer
    exact respondToOffer_ordersKept env caller updatedAt offerId action db
  · have heffect := MarketStep.effect env db a
    generalize MarketStep.step db (env, a) = db' at heffect ⊢
    cases heffect with
    | quiet _ _ h => exact .of_eq h.orders
    | ordered caller updatedAt offerId action =>
        exact absurd ⟨caller, updatedAt, offerId, action, rfl⟩ hoffer
    | settled args _ h => exact h.ordersKept
    | shipped orderId leg order hfind hsource =>
        refine .update fun q hq => ?_
        obtain rfl := Option.some.inj (hfind.symm.trans hq)
        exact .of_status (by rw [hsource]; cases leg <;> decide) rfl
    | received userId orderId order _ hfind hreceivable hallowed horders =>
        rw [horders]
        refine .update fun q hq => ?_
        obtain rfl := Option.some.inj (hfind.symm.trans hq)
        refine .of_status (fun hcancelled => ?_) rfl
        rw [hcancelled] at hallowed
        exact absurd hallowed (by decide)
    | cancelled load orderId actorId reason role record _ hload hcancellable h =>
        rw [h.orders]
        exact .update fun q _ => ⟨rfl, fun _ => rfl⟩
    | raised userId request order _ hfind hdisputable horders =>
        rw [horders]
        refine .update fun q hq => ?_
        obtain rfl := Option.some.inj (hfind.symm.trans hq)
        refine .of_status (fun hcancelled => ?_) rfl
        rw [hcancelled] at hdisputable
        exact absurd hdisputable (by decide)
    | resolvedByCancelling adminId disputeId resolution dispute record cancelled hcolumns
        hresolvable hload h =>
        change OrdersKept db.orders cancelled.orders
        rw [h.orders]
        exact .update fun q _ => ⟨rfl, fun _ => rfl⟩
    | resolvedByRestoring adminId disputeId resolutionType resolution dispute restored replayed
        hkeeps hresolvable hrestored hreplayed =>
        obtain ⟨order, hfind, hdisputed⟩ := hresolvable.disputed
        refine OrdersKept.trans ?_ hreplayed.ordersKept
        rw [hrestored.orders]
        refine .update fun q hq => ?_
        obtain rfl := Option.some.inj (hfind.symm.trans hq)
        exact .of_status (by rw [hdisputed]; decide) rfl

/-! ## Checks -/

section Checks

variable {db : Db} {userId orderId : Id} {order : Order}

theorem assertMayDecide_facts
    (h : assertMayDecide db userId orderId .cancel order = .ok ()) :
    order.buyerDecision = none ∧ order.status.isDecidable = true ∧
      inspectionCompleted db orderId = true := by
  unfold assertMayDecide at h
  simp only [guard_eq_ok] at h
  obtain ⟨-, -, hdisputed, hclosed, h⟩ := h
  rw [if_neg (by decide), ok_bind] at h
  split at h
  · cases h
  · rename_i hfirst
    refine ⟨hfirst, ?_, ?_⟩
    · simp [OrderStatus.isDecidable] at hclosed ⊢
      exact ⟨hclosed.1, hclosed.2, hdisputed⟩
    · split at h
      · cases h
      · rename_i requestId request hlatest
        obtain ⟨hreport, h⟩ := guard_eq_ok.mp h
        rw [not_or] at hreport
        unfold inspectionCompleted
        rw [hlatest]
        simp [not_not.1 hreport.1, hreport.2]

theorem assertMayAnswer_facts {review : Option PriceReview} {answered : PriceReview}
    (h : assertMayAnswer db userId orderId order review = .ok answered) :
    order.buyerDecision ≠ some .buy ∧ order.status.isDecidable = true := by
  unfold assertMayAnswer at h
  simp only [guard_eq_ok] at h
  obtain ⟨-, hclosed, h⟩ := h
  rw [not_or, not_or] at hclosed
  exact ⟨hclosed.2.2, decide_eq_true hclosed.1⟩

end Checks

theorem cancelFound_orders {env : Env} {caller : CancelCaller} {found : Db} {orderId : Id}
    {actorId : Option Id} {reason : Option String} {role : CancelledByRole} {db db' : Db}
    (h : cancelFound env caller found orderId actorId reason role db = .ok db') :
    exists f, db'.orders = db.orders.update orderId f ∧
      forall order, (f order).status = .cancelled ∧
        (f order).buyerDecision = (caller.mark order).buyerDecision := by
  unfold cancelFound at h
  split at h
  · cases h
  · rename_i record hload
    obtain ⟨order, hloaded⟩ := loadOrder_eq_some hload
    have horders := (cancelOrderInTransaction_cancelled h).orders
    rw [hloaded.id, Table.update_update] at horders
    exact ⟨_, horders, fun _ => ⟨rfl, rfl⟩⟩

/-! ## Writes -/

/-- What a fresh write does to the orders. -/
inductive DecisionWrite.Effect (w : DecisionWrite) (db db' : Db) : Prop where
  | refused (h : db' = db)
  | written (order : Order) (f : Order -> Order)
      (hfind : db.orders.findUnique w.orderId = some order)
      (horders : db'.orders = db.orders.update w.orderId f)
      (hfirst : order.buyerDecision = none)
      (heffect : OrderKept order (f order) ∨
        MayRecord w.now db w.orderId order ∧
          ((f order).buyerDecision = some .cancel -> (f order).status = .cancelled))

def DecisionWrite.Allowed : Option DecisionWrite -> (Db -> Db) -> Prop
  | none, write => forall db, OrdersKept db.orders (write db).orders
  | some w, write => forall db, CancelsClosed db.orders -> w.isFresh db = true ->
      w.Effect db (write db)

namespace DecisionWrite

variable {w : DecisionWrite}

theorem isFresh_row {db : Db} {order : Order} (h : w.isFresh db = true)
    (hfound : w.found.orders.findUnique w.orderId = some order) :
    exists order', db.orders.findUnique w.orderId = some order' ∧
      order'.status = order.status ∧ order'.buyerDecision = order.buyerDecision ∧
        inspectionCompleted db w.orderId = inspectionCompleted w.found w.orderId := by
  unfold isFresh at h
  obtain ⟨hview, -⟩ := Bool.and_eq_true_iff.1 h
  obtain ⟨hview, -⟩ := Bool.and_eq_true_iff.1 hview
  have hview := of_decide_eq_true hview
  unfold decisionView at hview
  rw [hfound] at hview
  obtain ⟨hrow, hinspected⟩ := Prod.mk.inj hview
  obtain ⟨order', horder', hsame⟩ := Option.map_eq_some_iff.1 hrow.symm
  obtain ⟨hstatus, hdecision⟩ := Prod.mk.inj hsame
  exact ⟨order', horder', hstatus, hdecision, hinspected.symm⟩

theorem isFresh_inTime {db : Db} {order : Order} (h : w.isFresh db = true)
    (hsource : w.source ≠ .deadline) (hfind : db.orders.findUnique w.orderId = some order) :
    isDue w.now order.buyerDecisionDueAt = false := by
  simpa [isFresh, decisionIsDue, hsource, hfind] using
    (Bool.and_eq_true_iff.1 (Bool.and_eq_true_iff.1 h).1).2

theorem effect_commit {db : Db} {r : Except ApiError Db}
    (h : forall db', r = .ok db' -> w.Effect db db') :
    w.Effect db (commit r db) :=
  commit_preserves (.refused rfl) h

theorem kept_commit {db : Db} {r : Except ApiError Db}
    (h : forall db', r = .ok db' -> OrdersKept db.orders db'.orders) :
    OrdersKept db.orders (commit r db).orders :=
  commit_preserves (P := fun db' : Db => OrdersKept db.orders db'.orders) (.refl _) h

end DecisionWrite

/-! ## Requests -/

section Requests

variable (env : Env) (userId orderId : Id)

theorem recordOrderEvent_orders (id : Option Id) (type : OrderEventType) (db : Db) :
    (recordOrderEvent env id type db).orders = db.orders := by
  obtain ⟨events, hframe⟩ := recordOrderEvent_frame env id type db
  rw [hframe]

theorem recordAfter_writes (type : OrderEventType) :
    (recordAfter env orderId type).Writes DecisionWrite.Allowed :=
  ⟨fun db => .of_eq (recordOrderEvent_orders env _ _ db), fun _ => trivial⟩

theorem decideRequest_writes (decision : BuyerDecision) (reason : Option String) :
    (decideRequest env userId orderId decision reason).Writes DecisionWrite.Allowed := by
  intro found
  dsimp only
  cases hfound : found.orders.findUnique orderId with
  | none => exact trivial
  | some order =>
      dsimp only
      cases hmay : assertMayDecide found userId orderId .cancel order with
      | error e => exact trivial
      | ok _ =>
          dsimp only
          obtain ⟨hfirst, hrunning, hinspected⟩ := assertMayDecide_facts hmay
          -- the row of a fresh write is one that a decision may be recorded on
          have hrow : forall {w : DecisionWrite} {db : Db}, w.source = .route -> w.found = found ->
              w.orderId = orderId -> w.isFresh db = true ->
                exists order', db.orders.findUnique orderId = some order' ∧
                  MayRecord w.now db orderId order' := by
            rintro w db hsource rfl rfl hfresh
            obtain ⟨order', horder', hstatus, hdecision, hcompleted⟩ :=
              w.isFresh_row hfresh hfound
            exact ⟨order', horder', hdecision.trans hfirst, hstatus ▸ hrunning,
              hcompleted.trans hinspected,
              w.isFresh_inTime hfresh (by rw [hsource]; decide) horder'⟩
          cases decision with
          | cancel =>
              refine .attempt ?_ fun _ => trivial
              intro db _ hfresh
              refine DecisionWrite.effect_commit fun db' hok => ?_
              obtain ⟨order', horder', hmay⟩ := hrow rfl rfl rfl hfresh
              obtain ⟨f, horders, hf⟩ := cancelFound_orders hok
              rw [recordOrderEvent_orders] at horders
              exact .written order' f horder' horders hmay.first
                (Or.inr ⟨hmay, fun _ => (hf order').1⟩)
          | buy =>
              intro pending
              dsimp only
              split
              · exact trivial
              · intro accepted
                dsimp only
                split
                · refine .attempt ?_ ?_
                  · intro db _ hfresh
                    refine DecisionWrite.effect_commit fun db' hok => ?_
                    obtain ⟨order', horder', hmay⟩ := hrow rfl rfl rfl hfresh
                    unfold claimBuy at hok
                    split at hok
                    · obtain rfl := Except.ok.inj hok
                      exact .written order' _ horder' rfl hmay.first
                        (Or.inr ⟨hmay, fun hcancel => by cases hcancel⟩)
                    · cases hok
                  · rintro (_ | _)
                    · exact trivial
                    · exact recordAfter_writes env orderId _
                · exact trivial

theorem claimReview_eq_ok {reviewId : Id} {next : Tx} {db db' : Db}
    (h : claimReview reviewId next db = .ok db') :
    next db = .ok db' := by
  unfold claimReview at h
  split at h
  · exact h
  · cases h

theorem counterProposal_orders {env : Env} {userId orderId reviewId : Id} {order : Order}
    {review : PriceReview} {proposedPrice : Option ℚ} {reasonCode : Option PriceReviewReason}
    {mustDiffer : Bool} {db db' : Db}
    (h : counterProposal env userId orderId reviewId order review proposedPrice reasonCode
      mustDiffer db = .ok db') :
    db'.orders = db.orders := by
  unfold counterProposal at h
  split at h
  · simp only [guard_eq_ok] at h
    obtain ⟨-, -, h⟩ := h
    obtain rfl := Except.ok.inj h
    rw [recordOrderEvent_orders]
  · cases h

theorem answer_writes (type : OrderEventType) (r : Except ApiError Unit) :
    (match r with
      | .ok _ => recordAfter env orderId type
      | .error _ => .done : DecisionRequest).Writes DecisionWrite.Allowed := by
  cases r with
  | error e => exact trivial
  | ok u => exact recordAfter_writes env orderId type

theorem respondRequest_writes (reviewId : Id) (action : PriceReviewAction) :
    (respondRequest env userId orderId reviewId action).Writes DecisionWrite.Allowed := by
  intro found
  dsimp only
  cases hfound : found.orders.findUnique orderId with
  | none => exact trivial
  | some order =>
      intro reviews
      dsimp only
      cases hmay : assertMayAnswer found userId orderId order
          (reviews.priceReviews.findUnique reviewId) with
      | error e => exact trivial
      | ok review =>
          dsimp only
          obtain ⟨hbuy, hrunning⟩ := assertMayAnswer_facts hmay
          -- an order that is open has no decision to cancel
          have hrow : forall {w : DecisionWrite} {db : Db}, w.source = .review ->
              w.found = found -> w.orderId = orderId -> CancelsClosed db.orders ->
                w.isFresh db = true ->
                  exists order', db.orders.findUnique orderId = some order' ∧
                    MayRecord w.now db orderId order' := by
            rintro w db hsource rfl rfl hclosed hfresh
            obtain ⟨order', horder', hstatus, hdecision, -⟩ := w.isFresh_row hfresh hfound
            have hinspected : inspectionCompleted db w.orderId = true := by
              simpa [DecisionWrite.isFresh, hsource] using (Bool.and_eq_true_iff.1 hfresh).2
            have hopen : order'.status.isDecidable = true := hstatus ▸ hrunning
            have hfirst : order'.buyerDecision = none := by
              cases hrecorded : order'.buyerDecision with
              | none => rfl
              | some decision =>
                  cases decision with
                  | buy => exact absurd (hdecision.symm.trans hrecorded) hbuy
                  | cancel =>
                      rw [hclosed _ _ horder' hrecorded] at hopen
                      exact absurd hopen (by decide)
            exact ⟨order', horder', hfirst, hopen, hinspected,
              w.isFresh_inTime hfresh (by rw [hsource]; decide) horder'⟩
          cases action with
          | accept =>
              dsimp only
              split
              · intro full
                refine .attempt ?_ (answer_writes _ _ _)
                intro db hclosed hfresh
                refine DecisionWrite.effect_commit fun db' hok => ?_
                obtain ⟨order', horder', hmay⟩ := hrow rfl rfl rfl hclosed hfresh
                have hcancel := claimReview_eq_ok hok
                obtain ⟨f, horders, hf⟩ := cancelFound_orders hcancel
                exact .written order' f horder' horders hmay.first
                  (Or.inr ⟨hmay, fun _ => (hf order').1⟩)
              · refine .attempt ?_ (answer_writes _ _ _)
                intro db hclosed hfresh
                refine DecisionWrite.effect_commit fun db' hok => ?_
                obtain ⟨order', horder', hmay⟩ := hrow rfl rfl rfl hclosed hfresh
                have haccept := claimReview_eq_ok hok
                obtain rfl := Except.ok.inj haccept
                exact .written order' _ horder' rfl hmay.first
                  (Or.inr ⟨hmay, fun hcancel => by cases hcancel⟩)
          | counter proposedPrice reasonCode =>
              refine .attempt (fun db => ?_) fun _ => trivial
              exact DecisionWrite.kept_commit fun db' hok =>
                .of_eq (counterProposal_orders (claimReview_eq_ok hok))
          | reject =>
              dsimp only
              split
              · exact trivial
              · refine .attempt (fun db => ?_) (answer_writes _ _ _)
                refine DecisionWrite.kept_commit fun db' hok => ?_
                have hreject := claimReview_eq_ok hok
                obtain rfl := Except.ok.inj hreject
                exact .refl _

theorem expireDecisions_writes (orderIds : List Id) :
    (expireDecisions env orderIds).Writes DecisionWrite.Allowed := by
  induction orderIds with
  | nil => exact trivial
  | cons orderId rest ih =>
      intro found
      dsimp only
      split
      · rename_i hexpires
        refine .attempt ?_ fun _ => ih
        intro db _ hfresh
        refine DecisionWrite.effect_commit fun db' hok => ?_
        obtain ⟨hdue, -⟩ := Bool.and_eq_true_iff.1 hexpires
        obtain ⟨order, hfound, hundecided⟩ := (Option.any_eq_true _ _).1 hdue
        simp only [Order.isUndecided, Bool.and_eq_true, Option.isNone_iff_eq_none] at hundecided
        obtain ⟨⟨-, hfirst⟩, -⟩ := hundecided
        obtain ⟨order', horder', -, hdecision, -⟩ :=
          DecisionWrite.isFresh_row hfresh hfound
        obtain ⟨f, horders, hf⟩ := cancelFound_orders hok
        rw [recordOrderEvent_orders] at horders
        exact .written order' f horder' horders (hdecision.trans hfirst)
          (Or.inl ⟨(hf order').2, fun _ => (hf order').1⟩)
      · exact ih

theorem backfillDecisions_writes (dueAt : Nat) (orderIds : List Id) :
    (backfillDecisions dueAt orderIds).Writes DecisionWrite.Allowed := by
  induction orderIds with
  | nil => exact trivial
  | cons orderId rest ih =>
      exact ⟨fun db => .of_rel (Table.rel_updateMany (fun _ => .refl) fun _ _ _ _ => ⟨rfl, id⟩),
        fun _ => ih⟩

theorem DecisionCall.request_writes (call : DecisionCall) :
    call.request.Writes DecisionWrite.Allowed := by
  cases call with
  | decide env userId orderId decision reason =>
      exact decideRequest_writes env userId orderId decision reason
  | respond env userId orderId reviewId action =>
      exact respondRequest_writes env userId orderId reviewId action
  | expire env => exact fun db => expireDecisions_writes env _
  | backfill dueAt => exact fun db => backfillDecisions_writes dueAt _

end Requests

theorem CancelsClosed.kept {orders orders' : Table Order} (h : CancelsClosed orders)
    (hkept : OrdersKept orders orders') :
    CancelsClosed orders' := by
  intro i order' hi hcancel
  cases hbefore : orders.findUnique i with
  | none =>
      rw [hkept.fresh i order' hi hbefore] at hcancel
      cases hcancel
  | some order =>
      obtain ⟨q, hq, hrow⟩ := hkept.rows i order hbefore
      obtain rfl := Option.some.inj (hq.symm.trans hi)
      exact hrow.cancelled (h i order hbefore (hrow.decision.symm.trans hcancel))

theorem DecisionWrite.Effect.closed {w : DecisionWrite} {db db' : Db} (h : w.Effect db db')
    (hclosed : CancelsClosed db.orders) :
    CancelsClosed db'.orders := by
  cases h with
  | refused h => exact h ▸ hclosed
  | written order f hfind horders hfirst heffect =>
      intro i order' hi hcancel
      rw [horders] at hi
      by_cases hk : i = w.orderId
      · subst hk
        rw [Table.findUnique_update_self, hfind] at hi
        obtain rfl := Option.some.inj hi
        rcases heffect with hkept | ⟨-, hcancels⟩
        · rw [hkept.decision, hfirst] at hcancel
          cases hcancel
        · exact hcancels hcancel
      · rw [Table.findUnique_update_ne hk] at hi
        exact hclosed i order' hi hcancel

namespace DecisionServer

variable {s : DecisionServer} {a : DecisionStep}

/-- Every request in flight is one of the server, and every cancelled decision is closed. -/
structure Inv (s : DecisionServer) : Prop where
  writes : Server.Writes DecisionWrite.Allowed s
  closed : CancelsClosed s.state.orders

/-- What a step does to the database: nothing is decided, or a fresh write becomes visible. -/
def Moves (s : DecisionServer) (a : DecisionStep) : Prop :=
  (OrdersKept s.state.orders (step s a).state.orders ∧
      (DecisionServer.writes s a = none ∨ (step s a).state = s.state)) ∨
    exists w, DecisionServer.writes s a = some w ∧ w.Effect s.state (step s a).state

theorem Inv.moves (h : Inv s) (hfresh : s.writesFresh a = true) : Moves s a := by
  cases a with
  | submit call => exact Or.inl ⟨.refl _, Or.inl rfl⟩
  | market a => exact Or.inl ⟨marketStep_ordersKept s.state a, Or.inl rfl⟩
  | advance k =>
      rcases (h.writes.advance k).2 with hsame | ⟨label, write, hlabel, hallowed, hstate⟩
      · refine Or.inl ⟨?_, Or.inr hsame⟩
        exact .of_eq (congrArg Db.orders hsame)
      · have hstate : (step s (.advance k)).state = write s.state := hstate
        have hwrites : DecisionServer.writes s (.advance k) = label := by
          change (Server.publishes s k).join = label
          rw [hlabel]
          rfl
        unfold Moves
        rw [hstate, hwrites]
        cases label with
        | none => exact Or.inl ⟨hallowed s.state, Or.inl rfl⟩
        | some w =>
            unfold writesFresh at hfresh
            rw [hwrites] at hfresh
            exact Or.inr ⟨w, rfl, hallowed s.state h.closed hfresh⟩

theorem Inv.step (h : Inv s) (hfresh : s.writesFresh a = true) :
    Inv (DecisionServer.step s a) := by
  have hwrites : Server.Writes DecisionWrite.Allowed (DecisionServer.step s a) := by
    cases a with
    | submit call => exact h.writes.submit call.request_writes
    | market a => exact h.writes
    | advance k => exact (h.writes.advance k).1
  refine ⟨hwrites, ?_⟩
  rcases h.moves hfresh with ⟨hkept, -⟩ | ⟨w, -, heffect⟩
  · exact h.closed.kept hkept
  · exact heffect.closed h.closed

/-- One order before and after a step. -/
theorem Moves.row (h : Moves s a) {orderId : Id} {order order' : Order}
    (hfind : s.state.orders.findUnique orderId = some order)
    (hfind' : (DecisionServer.step s a).state.orders.findUnique orderId = some order') :
    (OrderKept order order' ∧ (DecisionServer.writes s a = none ∨ order' = order)) ∨
      exists w, DecisionServer.writes s a = some w ∧ w.orderId = orderId ∧
        order.buyerDecision = none ∧
          (OrderKept order order' ∨ MayRecord w.now s.state orderId order) := by
  have hsame : (DecisionServer.step s a).state.orders.findUnique orderId =
      s.state.orders.findUnique orderId -> order' = order := by
    intro heq
    rw [heq, hfind] at hfind'
    exact (Option.some.inj hfind').symm
  rcases h with ⟨hkept, hquiet⟩ | ⟨w, hwrites, heffect⟩
  · obtain ⟨q, hq, hrow⟩ := hkept.rows orderId order hfind
    obtain rfl := Option.some.inj (hq.symm.trans hfind')
    refine Or.inl ⟨hrow, hquiet.imp_right fun hstate => hsame ?_⟩
    rw [hstate]
  · cases heffect with
    | refused hstate =>
        obtain rfl := hsame (by rw [hstate])
        exact Or.inl ⟨.refl order', Or.inr rfl⟩
    | written q f hq horders hfirst heffect =>
        by_cases hk : orderId = w.orderId
        · subst hk
          obtain rfl := Option.some.inj (hfind.symm.trans hq)
          rw [horders, Table.findUnique_update_self, hfind] at hfind'
          obtain rfl := Option.some.inj hfind'
          exact Or.inr ⟨w, hwrites, rfl, hfirst, heffect.imp_right fun hmay => hmay.1⟩
        · obtain rfl := hsame (by rw [horders, Table.findUnique_update_ne hk])
          exact Or.inl ⟨.refl order', Or.inr rfl⟩

theorem Moves.enforcesWindow (h : Moves s a) : EnforcesWindow s a where
  recorded := by
    intro orderId order order' hfind hfind' hchanged
    rcases h.row hfind hfind' with ⟨hkept, -⟩ | ⟨w, hwrites, rfl, -, hkept | hmay⟩
    · exact absurd hkept.decision hchanged
    · exact absurd hkept.decision hchanged
    · exact ⟨w, hwrites, rfl, hmay⟩
  once := by
    intro orderId order order' decision hfind hfind' hdecided
    rcases h.row hfind hfind' with ⟨hkept, -⟩ | ⟨w, -, -, hfirst, -⟩
    · exact hkept.decision.trans hdecided
    · rw [hfirst] at hdecided
      cases hdecided
  bought := by
    intro w orderId order order' hwrites hsource hfind hfind' hbuy hcancelled
    rcases h.row hfind hfind' with ⟨-, hnone | rfl⟩ | ⟨-, -, -, hfirst, -⟩
    · rw [hwrites] at hnone
      cases hnone
    · exact hcancelled
    · rw [hfirst] at hbuy
      cases hbuy

/--
From orders whose cancelled decisions are closed, the decision window is enforced as long
as every write finds the order as its transaction has read it, and in time.
-/
theorem enforcesWindow_of_run {s : DecisionServer} {as : List DecisionStep}
    (hidle : s.active = []) (hclosed : CancelsClosed s.state.orders)
    (hrun : RunMeets step (fun s a => writesFresh s a = true) s as) :
    RunMeets step EnforcesWindow s as :=
  hrun.imp_of_invariant Inv (fun _ _ h hfresh => h.step hfresh)
    (fun _ _ h hfresh => (h.moves hfresh).enforcesWindow)
    ⟨fun _ ha => absurd (hidle ▸ ha) List.not_mem_nil, hclosed⟩

/-! ## Overlapping transactions -/

/-- The inspection is reported, and the buyer has proposed a price. -/
def proposedDb (dueAt : Option Nat) : Db :=
  { listings := Table.empty.create
      { sellerId := 1
        quantity := 10
        availableQuantity := 10
        askingPrice := 100 }
    orders := Table.empty.create
      { listingId := 0
        buyerId := 2
        sellerId := 1
        finalPrice := 100
        quantity := 1
        buyerDecisionDueAt := dueAt }
    inspectionRequests := Table.empty.create
      { orderId := some 0
        inspectorId := some 5
        status := .completed }
    inspectionReports := Table.empty.create { requestId := 0 }
    priceReviews := Table.empty.create
      { orderId := 0
        proposedById := 2
        proposedPrice := 90
        reasonCode := .qualityOrQuantityChange } }

/-- The seller accepts the price, and the price review is read before that. -/
def acceptingSeller : DecisionStep :=
  .submit (.respond env0 1 0 0 .accept)

def cancellingBuyer : DecisionStep :=
  .submit (.decide env0 2 0 .cancel none)

/-- The price is accepted, the deadlines run, and the buyer comes back too late. -/
def acceptedOnce : List DecisionStep :=
  [acceptingSeller, .advance 0, .advance 0, .advance 0, .advance 0, .submit (.expire env0),
    .advance 1, cancellingBuyer, .advance 2]

theorem proposedDb_closed (dueAt : Option Nat) : CancelsClosed (proposedDb dueAt).orders := by
  intro i order hi hcancel
  rw [show (proposedDb dueAt).orders = Table.empty.create _ from rfl,
    Table.findUnique_create] at hi
  split at hi
  · obtain rfl := Option.some.inj hi
    cases hcancel
  · cases hi

theorem acceptedOnce_enforcesWindow :
    RunMeets step EnforcesWindow { state := proposedDb none } acceptedOnce :=
  enforcesWindow_of_run rfl (proposedDb_closed none) (by decide +kernel)

/-- The buyer cancels after he has read the order and before the seller accepts the price. -/
def cancelledAfterBuy : List DecisionStep :=
  [cancellingBuyer, .advance 0, acceptingSeller, .advance 1, .advance 1, .advance 1]

def boughtUnderDispute : List DecisionStep :=
  [acceptingSeller, .advance 0, .advance 0,
    .market (env0, .raiseDispute 2
      { orderId := 0
        againstId := 1
        disputeType := "QUALITY" })]

/-- The buyer cancels after the decision was due, and before the deadlines run. -/
def cancelledTooLate : List DecisionStep :=
  [.submit (.decide { env0 with now := 2 } 2 0 .cancel none), .advance 0]

def outcome (s : DecisionServer) : Option (Option BuyerDecision × OrderStatus) :=
  (s.state.orders.findUnique 0).map fun order => (order.buyerDecision, order.status)

theorem outcome_eq_some {s : DecisionServer} {decision : Option BuyerDecision}
    {status : OrderStatus} (h : s.outcome = some (decision, status)) :
    exists order, s.state.orders.findUnique 0 = some order ∧ order.buyerDecision = decision ∧
      order.status = status := by
  obtain ⟨order, hfind, hpair⟩ := Option.map_eq_some_iff.1 h
  obtain ⟨hdecision, hstatus⟩ := Prod.mk.inj hpair
  exact ⟨order, hfind, hdecision, hstatus⟩

/--
A cancellation overwrites a decision to buy, a decision to buy is recorded on an order
under dispute, and a decision is recorded after it was due.
-/
theorem decisions_unenforced :
    CancelsClosed (proposedDb none).orders ∧
      ¬ RunMeets step EnforcesWindow { state := proposedDb none }
        (cancelledAfterBuy ++ [.advance 0]) ∧
      ¬ RunMeets step EnforcesWindow { state := proposedDb none }
        (boughtUnderDispute ++ [.advance 0]) ∧
      ¬ RunMeets step EnforcesWindow { state := proposedDb (some 1) }
        (cancelledTooLate ++ [.advance 0]) := by
  refine ⟨proposedDb_closed none, ?_, ?_, ?_⟩
  · intro h
    rw [runMeets_append] at h
    have hlaw := h.2.1
    obtain ⟨order, hfind, hbuy, -⟩ := outcome_eq_some
      (show outcome (run step { state := proposedDb none } cancelledAfterBuy) =
        some (some .buy, .pendingPayment) by decide +kernel)
    obtain ⟨order', hfind', hcancel, -⟩ := outcome_eq_some
      (show outcome (step (run step { state := proposedDb none } cancelledAfterBuy)
        (.advance 0)) = some (some .cancel, .cancelled) by decide +kernel)
    have honce := hlaw.once 0 order order' .buy hfind hfind' hbuy
    rw [hcancel] at honce
    cases honce
  · intro h
    rw [runMeets_append] at h
    have hlaw := h.2.1
    obtain ⟨order, hfind, hnone, hdisputed⟩ := outcome_eq_some
      (show outcome (run step { state := proposedDb none } boughtUnderDispute) =
        some (none, .disputed) by decide +kernel)
    obtain ⟨order', hfind', hbuy, -⟩ := outcome_eq_some
      (show outcome (step (run step { state := proposedDb none } boughtUnderDispute)
        (.advance 0)) = some (some .buy, .disputed) by decide +kernel)
    obtain ⟨w, -, -, hmay⟩ := hlaw.recorded 0 order order' hfind hfind'
      (by rw [hbuy, hnone]; decide)
    have hrunning := hmay.running
    rw [hdisputed] at hrunning
    exact absurd hrunning (by decide)
  · intro h
    rw [runMeets_append] at h
    have hlaw := h.2.1
    obtain ⟨order, hfind, hnone, -⟩ := outcome_eq_some
      (show outcome (run step { state := proposedDb (some 1) } cancelledTooLate) =
        some (none, .pendingPayment) by decide +kernel)
    obtain ⟨order', hfind', hcancel, -⟩ := outcome_eq_some
      (show outcome (step (run step { state := proposedDb (some 1) } cancelledTooLate)
        (.advance 0)) = some (some .cancel, .cancelled) by decide +kernel)
    obtain ⟨w, hwrites, -, hmay⟩ := hlaw.recorded 0 order order' hfind hfind'
      (by rw [hcancel, hnone]; decide)
    have hnow : (DecisionServer.writes (run step { state := proposedDb (some 1) }
        cancelledTooLate) (.advance 0)).map (·.now) = some 2 := by decide +kernel
    have hdue : decisionIsDue 2 (run step { state := proposedDb (some 1) }
        cancelledTooLate).state 0 = true := by decide +kernel
    have hinTime := hmay.inTime
    rw [hwrites, Option.map_some] at hnow
    rw [decisionIsDue, hfind, Option.any_some] at hdue
    rw [Option.some.inj hnow, hdue] at hinTime
    cases hinTime

end DecisionServer

end MarketBridge
