import MarketBridge.Market.Effects
import MarketBridge.Payout.Concurrency
import Mathlib.Data.List.Perm.Subperm

/-!
# The release of due payouts

What one run of `releaseDuePayouts` makes of every payout, when a payout is due, and what further
runs change.
-/

namespace MarketBridge

open Relational

/-! ## When a payout is due -/

/-- The work of a payout was finished long enough ago, and its cool-off is over. -/
inductive FinishedLongAgo (env : Env) (updatedAt : UpdatedAt) (db : Db) (now : Nat)
    (payout : Payout) : Prop where
  /-- The last confirmation of receipt. -/
  | received (orderId : Id) (confirmedAt : Nat) (hrole : payout.payeeRole ≠ .inspector)
      (horder : payout.orderId = some orderId)
      (hconfirmed : receiptConfirmedAt db orderId = some confirmedAt)
      (hheld : confirmedAt + env.payoutHoldMs ≤ now) (hreleaseAt : payout.releaseAt ≤ now)
  | completed (orderId : Id) (order : Order) (hrole : payout.payeeRole ≠ .inspector)
      (horder : payout.orderId = some orderId)
      (hunconfirmed : receiptConfirmedAt db orderId = none)
      (hfound : db.orders.findUnique orderId = some order) (hstatus : order.status = .completed)
      (hheld : updatedAt.order orderId + env.payoutHoldMs ≤ now)
      (hreleaseAt : payout.releaseAt ≤ now)
  | accepted (requestId : Id) (request : InspectionRequest) (acceptedAt : Nat)
      (hrole : payout.payeeRole = .inspector)
      (hrequest : payoutRequestId db payout = some requestId)
      (hfound : db.inspectionRequests.findUnique requestId = some request)
      (hstatus : request.status = .completed)
      (haccepted : request.reportAcceptedAt = some acceptedAt) (hpast : acceptedAt ≤ now)
  | reviewed (requestId : Id) (request : InspectionRequest) (hrole : payout.payeeRole = .inspector)
      (hrequest : payoutRequestId db payout = some requestId)
      (hfound : db.inspectionRequests.findUnique requestId = some request)
      (hstatus : request.status = .completed) (hunaccepted : request.reportAcceptedAt = none)
      (hheld : request.completedAt.getD (updatedAt.inspectionRequest requestId) +
        env.reportReviewMs ≤ now)

def dueAt (env : Env) (updatedAt : UpdatedAt) (db : Db) (payout : Payout) : Option Nat :=
  (completion env updatedAt db payout).map fun (completionAt, holdMs, reviewRule) =>
    if reviewRule then completionAt + holdMs else max payout.releaseAt (completionAt + holdMs)

def releaseBatch (db : Db) : List (Id × Payout) :=
  (db.payouts.findMany fun _ payout => payout.status = .held).take 500

def releaseRuns (env : Env) (updatedAt : UpdatedAt) (db : Db) (times : List Nat) : Db :=
  times.foldl (fun db t => releaseDuePayouts env updatedAt t db) db

/-- What a run makes of a payout that it looks at. -/
def releasedRow (env : Env) (updatedAt : UpdatedAt) (db : Db) (now : Nat) (payout : Payout) :
    Payout :=
  match completion env updatedAt db payout with
  | none => payout
  | some (completionAt, holdMs, reviewRule) =>
      let effectiveAt :=
        if reviewRule then completionAt + holdMs else max payout.releaseAt (completionAt + holdMs)
      if now < effectiveAt then
        { payout with releaseAt := effectiveAt }
      else
        { payout with
          status := .released
          releasedAt := some now
          releaseAt := if reviewRule then effectiveAt else payout.releaseAt }

section

variable {env : Env} {updatedAt : UpdatedAt} {db : Db} {now : Nat} {i : Id} {payout : Payout}

/-- When the goods of a payout were received. -/
theorem completion_of_not_inspector (hrole : payout.payeeRole ≠ .inspector)
    {completionAt holdMs : Nat} {reviewRule : Bool}
    (h : completion env updatedAt db payout = some (completionAt, holdMs, reviewRule)) :
    holdMs = env.payoutHoldMs ∧ reviewRule = false ∧
      exists orderId, payout.orderId = some orderId ∧
        (receiptConfirmedAt db orderId = some completionAt ∨
          receiptConfirmedAt db orderId = none ∧ completionAt = updatedAt.order orderId ∧
            exists order, db.orders.findUnique orderId = some order ∧
              order.status = .completed) := by
  unfold completion at h
  split at h
  · next hinspector => exact absurd hinspector hrole
  · split at h
    · cases h
    · next orderId horder =>
        split at h
        · next confirmedAt hconfirmed =>
            obtain ⟨rfl, hrest⟩ := Prod.mk.inj (Option.some.inj h)
            obtain ⟨rfl, rfl⟩ := Prod.mk.inj hrest
            exact ⟨rfl, rfl, orderId, horder, Or.inl hconfirmed⟩
        · next hunconfirmed =>
            split at h
            · next hcompleted =>
                obtain ⟨order, hfound, hstatus⟩ := (Option.any_eq_true _ _).mp hcompleted
                obtain ⟨rfl, hrest⟩ := Prod.mk.inj (Option.some.inj h)
                obtain ⟨rfl, rfl⟩ := Prod.mk.inj hrest
                exact ⟨rfl, rfl, orderId, horder, Or.inr ⟨hunconfirmed, rfl, order, hfound,
                  of_decide_eq_true hstatus⟩⟩
            · cases h

/-- When the report of an inspector was accepted or submitted. -/
theorem completion_of_inspector (hrole : payout.payeeRole = .inspector)
    {completionAt holdMs : Nat} {reviewRule : Bool}
    (h : completion env updatedAt db payout = some (completionAt, holdMs, reviewRule)) :
    reviewRule = true ∧ exists requestId request, payoutRequestId db payout = some requestId ∧
      db.inspectionRequests.findUnique requestId = some request ∧ request.status = .completed ∧
      (request.reportAcceptedAt = some completionAt ∧ holdMs = 0 ∨
        request.reportAcceptedAt = none ∧ holdMs = env.reportReviewMs ∧
          completionAt = request.completedAt.getD (updatedAt.inspectionRequest requestId)) := by
  unfold completion at h
  rw [hrole] at h
  dsimp only at h
  split at h
  · cases h
  · next requestId hrequest =>
      split at h
      · cases h
      · next request hfound =>
          split at h
          · next hstatus =>
              split at h
              · next acceptedAt haccepted =>
                  obtain ⟨rfl, hrest⟩ := Prod.mk.inj (Option.some.inj h)
                  obtain ⟨rfl, rfl⟩ := Prod.mk.inj hrest
                  exact ⟨rfl, requestId, request, hrequest, hfound, hstatus,
                    Or.inl ⟨haccepted, rfl⟩⟩
              · next hunaccepted =>
                  obtain ⟨rfl, hrest⟩ := Prod.mk.inj (Option.some.inj h)
                  obtain ⟨rfl, rfl⟩ := Prod.mk.inj hrest
                  exact ⟨rfl, requestId, request, hrequest, hfound, hstatus,
                    Or.inr ⟨hunaccepted, rfl, rfl⟩⟩
          · cases h

theorem finishedLongAgo_iff :
    FinishedLongAgo env updatedAt db now payout ↔
      exists due, dueAt env updatedAt db payout = some due ∧ due ≤ now := by
  constructor
  · intro h
    cases h with
    | received orderId confirmedAt hrole horder hconfirmed hheld hreleaseAt =>
        refine ⟨max payout.releaseAt (confirmedAt + env.payoutHoldMs), ?_,
          max_le hreleaseAt hheld⟩
        unfold dueAt completion
        cases hkind : payout.payeeRole with
        | inspector => exact absurd hkind hrole
        | seller => simp [horder, hconfirmed]
        | transporter => simp [horder, hconfirmed]
    | completed orderId order hrole horder hunconfirmed hfound hstatus hheld hreleaseAt =>
        refine ⟨max payout.releaseAt (updatedAt.order orderId + env.payoutHoldMs), ?_,
          max_le hreleaseAt hheld⟩
        unfold dueAt completion
        cases hkind : payout.payeeRole with
        | inspector => exact absurd hkind hrole
        | seller => simp [horder, hunconfirmed, hfound, hstatus]
        | transporter => simp [horder, hunconfirmed, hfound, hstatus]
    | accepted requestId request acceptedAt hrole hrequest hfound hstatus haccepted hpast =>
        refine ⟨acceptedAt, ?_, hpast⟩
        unfold dueAt completion
        simp [hrole, hrequest, hfound, hstatus, haccepted]
    | reviewed requestId request hrole hrequest hfound hstatus hunaccepted hheld =>
        refine ⟨_, ?_, hheld⟩
        unfold dueAt completion
        simp [hrole, hrequest, hfound, hstatus, hunaccepted]
  · rintro ⟨due, hdue, hle⟩
    obtain ⟨⟨completionAt, holdMs, reviewRule⟩, hcompletion, rfl⟩ := Option.map_eq_some_iff.mp hdue
    by_cases hrole : payout.payeeRole = .inspector
    · obtain ⟨rfl, requestId, request, hrequest, hfound, hstatus, hreport⟩ :=
        completion_of_inspector hrole hcompletion
      rcases hreport with ⟨haccepted, rfl⟩ | ⟨hunaccepted, rfl, rfl⟩
      · exact .accepted requestId request completionAt hrole hrequest hfound hstatus haccepted hle
      · exact .reviewed requestId request hrole hrequest hfound hstatus hunaccepted hle
    · obtain ⟨rfl, rfl, orderId, horder, hreceipt⟩ :=
        completion_of_not_inspector hrole hcompletion
      obtain ⟨hreleaseAt, hheld⟩ := max_le_iff.mp hle
      rcases hreceipt with hconfirmed | ⟨hunconfirmed, rfl, order, hfound, hstatus⟩
      · exact .received orderId completionAt hrole horder hconfirmed hheld hreleaseAt
      · exact .completed orderId order hrole horder hunconfirmed hfound hstatus hheld hreleaseAt

theorem releasedRow_status (hheld : payout.status = .held) :
    (releasedRow env updatedAt db now payout).status = .released ↔
      FinishedLongAgo env updatedAt db now payout := by
  rw [finishedLongAgo_iff]
  unfold releasedRow dueAt
  cases completion env updatedAt db payout with
  | none => simp [hheld]
  | some done =>
      obtain ⟨completionAt, holdMs, reviewRule⟩ := done
      simp only [Option.map_some, Option.some.injEq, exists_eq_left']
      generalize (if reviewRule = true then completionAt + holdMs
        else max payout.releaseAt (completionAt + holdMs)) = due
      by_cases hlater : now < due
      · rw [if_pos hlater]
        simp [hheld, hlater]
      · rw [if_neg hlater]
        simp [not_lt.mp hlater]

theorem releasedRow_of_not_due (hheld : payout.status = .held) {due : Nat}
    (hdue : dueAt env updatedAt db payout = some due) (hlater : now < due) :
    (releasedRow env updatedAt db now payout).status = .held ∧
      dueAt env updatedAt db (releasedRow env updatedAt db now payout) = some due := by
  obtain ⟨⟨completionAt, holdMs, reviewRule⟩, hcompletion, rfl⟩ := Option.map_eq_some_iff.mp hdue
  unfold releasedRow
  rw [hcompletion]
  dsimp only at hlater ⊢
  rw [if_pos hlater]
  refine ⟨hheld, ?_⟩
  have hsame : forall releaseAt,
      completion env updatedAt db { payout with releaseAt := releaseAt } =
        completion env updatedAt db payout := fun _ => rfl
  unfold dueAt
  rw [hsame, hcompletion]
  cases reviewRule with
  | true => rfl
  | false => simp

/-! ## What a run writes -/

theorem findUnique_foldl_of_notMem {ws : List PayoutWrite} (h : i ∉ ws.map PayoutWrite.id)
    (payouts : Table Payout) :
    (ws.foldl (fun payouts w => w.apply env payouts) payouts).findUnique i =
      payouts.findUnique i := by
  induction ws generalizing payouts with
  | nil => rfl
  | cons w ws ih =>
      rw [List.map_cons, List.mem_cons, not_or] at h
      rw [List.foldl_cons, ih h.2, PayoutWrite.findUnique_apply]
      cases payouts.findUnique i with
      | none => rfl
      | some payout => rw [Option.map_some, if_neg fun hw => h.1 hw.1]

theorem findUnique_foldl_of_mem {ws : List PayoutWrite} {w : PayoutWrite}
    (hnodup : (ws.map PayoutWrite.id).Nodup) (hw : w ∈ ws) (payouts : Table Payout) :
    (ws.foldl (fun payouts w => w.apply env payouts) payouts).findUnique w.id =
      (payouts.findUnique w.id).map fun payout =>
        if w.guard payout = true then w.write env payout else payout := by
  obtain ⟨before, after, rfl⟩ := List.append_of_mem hw
  rw [List.map_append, List.map_cons] at hnodup
  have hafter : w.id ∉ after.map PayoutWrite.id :=
    (List.nodup_cons.mp (List.nodup_append.mp hnodup).2.1).1
  have hbefore : w.id ∉ before.map PayoutWrite.id := by
    intro hmem
    exact (List.nodup_append.mp hnodup).2.2 _ hmem _ List.mem_cons_self rfl
  rw [List.foldl_append, List.foldl_cons, findUnique_foldl_of_notMem hafter,
    PayoutWrite.findUnique_apply, findUnique_foldl_of_notMem hbefore]
  simp only [true_and]

theorem releaseWrite_id {w : PayoutWrite} (h : releaseWrite env updatedAt db now i payout = some w) :
    w.id = i := by
  rcases releaseWrite_cases h with ⟨releaseAt, rfl⟩ | ⟨reviewedAt, rfl⟩
  · rfl
  · rfl

theorem writes_ids_sublist (batch : List (Id × Payout)) :
    ((batch.filterMap fun e => releaseWrite env updatedAt db now e.1 e.2).map
      PayoutWrite.id).Sublist (batch.map Prod.fst) := by
  induction batch with
  | nil => exact List.Sublist.refl []
  | cons e batch ih =>
      rw [List.filterMap_cons, List.map_cons]
      cases hw : releaseWrite env updatedAt db now e.1 e.2 with
      | none => exact ih.cons e.1
      | some w =>
          rw [List.map_cons, releaseWrite_id hw]
          exact ih.cons_cons e.1

theorem releaseBatch_nodup (db : Db) : ((releaseBatch db).map Prod.fst).Nodup :=
  (Table.nodup_keys_findMany db.payouts fun _ payout => payout.status = .held).sublist
    ((List.take_sublist 500 _).map Prod.fst)

theorem mem_releaseBatch (h : (i, payout) ∈ releaseBatch db) :
    db.payouts.findUnique i = some payout ∧ payout.status = .held := by
  obtain ⟨hfound, hheld⟩ := Table.mem_findMany.mp (List.mem_of_mem_take h)
  exact ⟨hfound, of_decide_eq_true hheld⟩

theorem releasedRow_eq (hheld : payout.status = .held) :
    releasedRow env updatedAt db now payout =
      match releaseWrite env updatedAt db now i payout with
      | none => payout
      | some w => if w.guard payout = true then w.write env payout else payout := by
  unfold releasedRow releaseWrite
  cases completion env updatedAt db payout with
  | none => rfl
  | some done =>
      obtain ⟨completionAt, holdMs, reviewRule⟩ := done
      dsimp only
      generalize hdue : (if reviewRule = true then completionAt + holdMs
        else max payout.releaseAt (completionAt + holdMs)) = due
      by_cases hlater : now < due
      · rw [if_pos hlater, if_pos hlater]
        by_cases hsame : due = payout.releaseAt
        · rw [if_neg (not_not.mpr hsame), hsame]
        · rw [if_pos hsame]
          simp [PayoutWrite.guard, PayoutWrite.write, hheld]
      · rw [if_neg hlater, if_neg hlater]
        cases reviewRule with
        | true => simp [PayoutWrite.guard, PayoutWrite.write, hheld]
        | false =>
            have hpast : payout.releaseAt ≤ now := by
              rw [if_neg (by decide)] at hdue
              exact (le_max_left _ _).trans (hdue.le.trans (not_lt.mp hlater))
            simp [PayoutWrite.guard, PayoutWrite.write, hheld, hpast]

theorem findUnique_release_of_mem (h : (i, payout) ∈ releaseBatch db) :
    (releaseDuePayouts env updatedAt now db).payouts.findUnique i =
      some (releasedRow env updatedAt db now payout) := by
  obtain ⟨hfound, hheld⟩ := mem_releaseBatch h
  have hnodup : ((releaseDuePayoutsWrites env updatedAt now db).map PayoutWrite.id).Nodup :=
    (releaseBatch_nodup db).sublist (writes_ids_sublist (releaseBatch db))
  rw [releasedRow_eq (i := i) hheld]
  unfold releaseDuePayouts runPayoutWrites
  dsimp only
  cases hw : releaseWrite env updatedAt db now i payout with
  | some w =>
      have hmem : w ∈ releaseDuePayoutsWrites env updatedAt now db :=
        List.mem_filterMap.mpr ⟨(i, payout), h, hw⟩
      have hone : ((releaseDuePayoutsWrites env updatedAt now db).foldl
          (fun payouts w => w.apply env payouts) db.payouts).findUnique w.id = _ :=
        findUnique_foldl_of_mem hnodup hmem db.payouts
      rw [releaseWrite_id hw, hfound] at hone
      exact hone
  | none =>
      rw [findUnique_foldl_of_notMem, hfound]
      intro hmem
      obtain ⟨w, hw', hid⟩ := List.mem_map.mp hmem
      obtain ⟨⟨j, other⟩, hother, hwrite⟩ := List.mem_filterMap.mp hw'
      obtain rfl : j = i := (releaseWrite_id hwrite).symm.trans hid
      have hsame := (mem_releaseBatch hother).1.symm.trans hfound
      rw [Option.some.inj hsame, hw] at hwrite
      cases hwrite

theorem findUnique_release_of_notMem (h : i ∉ (releaseBatch db).map Prod.fst) :
    (releaseDuePayouts env updatedAt now db).payouts.findUnique i = db.payouts.findUnique i :=
  findUnique_foldl_of_notMem (fun hmem => h ((writes_ids_sublist _).subset hmem)) db.payouts

/-! ## Further runs -/

theorem releasedRow_again (hheld : (releasedRow env updatedAt db now payout).status = .held) :
    releasedRow env updatedAt db now (releasedRow env updatedAt db now payout) =
      releasedRow env updatedAt db now payout := by
  have hsame : forall releaseAt,
      completion env updatedAt db { payout with releaseAt := releaseAt } =
        completion env updatedAt db payout := fun _ => rfl
  unfold releasedRow at hheld ⊢
  cases hcompletion : completion env updatedAt db payout with
  | none => simp [hcompletion]
  | some done =>
      obtain ⟨completionAt, holdMs, reviewRule⟩ := done
      rw [hcompletion] at hheld
      dsimp only at hheld ⊢
      generalize hdue : (if reviewRule = true then completionAt + holdMs
        else max payout.releaseAt (completionAt + holdMs)) = due at hheld ⊢
      by_cases hlater : now < due
      · have hkept : (if reviewRule = true then completionAt + holdMs
            else max due (completionAt + holdMs)) = due := by
          cases reviewRule with
          | true => exact hdue
          | false =>
              have hle : completionAt + holdMs ≤ due := hdue ▸ le_max_right _ _
              simp [hle]
        rw [if_pos hlater, hsame, hcompletion]
        dsimp only
        rw [hkept, if_pos hlater]
      · rw [if_neg hlater] at hheld
        cases hheld

theorem not_mem_releaseBatch {batched : Db} (h : batched.payouts.findUnique i = some payout)
    (hheld : payout.status ≠ .held) : i ∉ (releaseBatch batched).map Prod.fst := by
  intro hmem
  obtain ⟨⟨j, other⟩, hother, rfl⟩ := List.mem_map.mp hmem
  obtain ⟨hfound, hstatus⟩ := mem_releaseBatch hother
  rw [Option.some.inj (hfound.symm.trans h)] at hstatus
  exact hheld hstatus

theorem findUnique_release_again (h : (i, payout) ∈ releaseBatch db) :
    (releaseDuePayouts env updatedAt now
        (releaseDuePayouts env updatedAt now db)).payouts.findUnique i =
      (releaseDuePayouts env updatedAt now db).payouts.findUnique i := by
  have hfirst : (releaseDuePayouts env updatedAt now db).payouts.findUnique i =
      some (releasedRow env updatedAt db now payout) := findUnique_release_of_mem h
  by_cases hmem : i ∈ (releaseBatch (releaseDuePayouts env updatedAt now db)).map Prod.fst
  · obtain ⟨⟨j, other⟩, hother, rfl⟩ := List.mem_map.mp hmem
    obtain ⟨hfound, hheld⟩ := mem_releaseBatch hother
    have hsame : other = releasedRow env updatedAt db now payout :=
      Option.some.inj (hfound.symm.trans hfirst)
    rw [findUnique_release_of_mem hother, hfirst, hsame]
    exact congrArg some (releasedRow_again (hsame ▸ hheld))
  · exact findUnique_release_of_notMem hmem

/-- While a payout is not due, runs leave it held with the due time that it has. -/
theorem due_kept (times : List Nat) {due : Nat} (h : db.payouts.findUnique i = some payout)
    (hheld : payout.status = .held) (hdue : dueAt env updatedAt db payout = some due)
    (hlater : forall t, t ∈ times -> t < due) :
    exists after,
      (releaseRuns env updatedAt db times).payouts.findUnique i = some after ∧
      after.status = .held ∧
      dueAt env updatedAt (releaseRuns env updatedAt db times) after = some due := by
  induction times generalizing db payout with
  | nil => exact ⟨payout, h, hheld, hdue⟩
  | cons t times ih =>
      have hnext := fun t ht => hlater t (List.mem_cons_of_mem _ ht)
      unfold releaseRuns at ih ⊢
      rw [List.foldl_cons]
      by_cases hmem : i ∈ (releaseBatch db).map Prod.fst
      · obtain ⟨⟨j, other⟩, hother, rfl⟩ := List.mem_map.mp hmem
        obtain rfl := Option.some.inj ((mem_releaseBatch hother).1.symm.trans h)
        obtain ⟨hstays, hsame⟩ := releasedRow_of_not_due hheld hdue
          (hlater t List.mem_cons_self)
        exact ih (findUnique_release_of_mem hother) hstays hsame hnext
      · exact ih ((findUnique_release_of_notMem hmem).trans h) hheld hdue hnext

end

/-! ## The law of the release -/

/-- What runs of `releaseDuePayouts` do on a store. -/
structure ReleaseLaw (env : Env) (updatedAt : UpdatedAt) (db : Db) : Prop where
  /-- A held payout of the batch is released exactly when it is due. -/
  released : forall now i payout, (i, payout) ∈ releaseBatch db ->
    exists after, (releaseDuePayouts env updatedAt now db).payouts.findUnique i = some after ∧
      (after.status = .released ↔ FinishedLongAgo env updatedAt db now payout)
  others : forall now i, i ∉ (releaseBatch db).map Prod.fst ->
    (releaseDuePayouts env updatedAt now db).payouts.findUnique i = db.payouts.findUnique i
  /-- A write that comes late leaves a payout whose status has changed. -/
  guarded : forall now w, w ∈ releaseDuePayoutsWrites env updatedAt now db ->
    forall payouts i payout, payouts.findUnique i = some payout -> payout.status ≠ .held ->
      (w.apply env payouts).findUnique i = some payout
  dueKept : forall times i payout due, db.payouts.findUnique i = some payout ->
    payout.status = .held -> dueAt env updatedAt db payout = some due ->
    (forall t, t ∈ times -> t < due) ->
    exists after,
      (releaseRuns env updatedAt db times).payouts.findUnique i = some after ∧
      after.status = .held ∧
      dueAt env updatedAt (releaseRuns env updatedAt db times) after = some due
  /-- A second run at the same time leaves what the first has looked at. -/
  again : forall now i, i ∈ (releaseBatch db).map Prod.fst ->
    (releaseDuePayouts env updatedAt now
        (releaseDuePayouts env updatedAt now db)).payouts.findUnique i =
      (releaseDuePayouts env updatedAt now db).payouts.findUnique i
  /-- Where the batch holds every held payout, it changes nothing. -/
  settled : (db.payouts.findMany fun _ payout => payout.status = .held).length ≤ 500 ->
    forall now, releaseDuePayouts env updatedAt now (releaseDuePayouts env updatedAt now db) =
      releaseDuePayouts env updatedAt now db

theorem releaseWrite_guarded {env : Env} {updatedAt : UpdatedAt} {db : Db} {now : Nat}
    {w : PayoutWrite} (hw : w ∈ releaseDuePayoutsWrites env updatedAt now db)
    {payouts : Table Payout} {i : Id} {payout : Payout}
    (h : payouts.findUnique i = some payout) (hheld : payout.status ≠ .held) :
    (w.apply env payouts).findUnique i = some payout := by
  obtain ⟨e, -, hwrite⟩ := List.mem_filterMap.mp hw
  rw [PayoutWrite.findUnique_apply, h, Option.map_some, if_neg]
  rintro ⟨-, hguard⟩
  rcases releaseWrite_cases hwrite with ⟨releaseAt, rfl⟩ | ⟨reviewedAt, rfl⟩
  · exact hheld (of_decide_eq_true hguard)
  · exact hheld (of_decide_eq_true (Bool.and_eq_true_iff.mp hguard).1)

theorem releaseDuePayouts_again {env : Env} {updatedAt : UpdatedAt} {db : Db}
    (h : (db.payouts.findMany fun _ payout => payout.status = .held).length ≤ 500) (now : Nat) :
    releaseDuePayouts env updatedAt now (releaseDuePayouts env updatedAt now db) =
      releaseDuePayouts env updatedAt now db := by
  have hall : releaseBatch db = db.payouts.findMany fun _ payout => payout.status = .held :=
    List.take_of_length_le h
  have hpayouts : (releaseDuePayouts env updatedAt now
      (releaseDuePayouts env updatedAt now db)).payouts =
        (releaseDuePayouts env updatedAt now db).payouts := by
    apply Table.ext_findUnique
    intro i
    cases hfound : db.payouts.findUnique i with
    | none =>
        have hmissing : forall batched : Db, batched.payouts.findUnique i = none ->
            (releaseDuePayouts env updatedAt now batched).payouts.findUnique i = none := by
          intro batched hnone
          rw [findUnique_release_of_notMem, hnone]
          intro hmem
          obtain ⟨⟨j, other⟩, hother, rfl⟩ := List.mem_map.mp hmem
          rw [(mem_releaseBatch hother).1] at hnone
          cases hnone
        rw [hmissing _ (hmissing _ hfound), hmissing _ hfound]
    | some payout =>
        by_cases hheld : payout.status = .held
        · have hmem : (i, payout) ∈ releaseBatch db := by
            rw [hall]
            exact Table.mem_findMany.mpr ⟨hfound, decide_eq_true hheld⟩
          exact findUnique_release_again hmem
        · have hfirst : (releaseDuePayouts env updatedAt now db).payouts.findUnique i =
              some payout :=
            (findUnique_release_of_notMem (not_mem_releaseBatch hfound hheld)).trans hfound
          exact findUnique_release_of_notMem (not_mem_releaseBatch hfirst hheld)
  exact congrArg (fun payouts => { db with payouts := payouts }) hpayouts

theorem releaseDuePayouts_lawful (env : Env) (updatedAt : UpdatedAt) (db : Db) :
    ReleaseLaw env updatedAt db where
  released now i payout h :=
    ⟨_, findUnique_release_of_mem h, releasedRow_status (mem_releaseBatch h).2⟩
  others now i h := findUnique_release_of_notMem h
  guarded now w hw payouts i payout h hheld := releaseWrite_guarded hw h hheld
  dueKept times i payout due h hheld hdue hlater := due_kept times h hheld hdue hlater
  again now i h := by
    obtain ⟨⟨j, payout⟩, hmem, rfl⟩ := List.mem_map.mp h
    exact findUnique_release_again hmem
  settled h now := releaseDuePayouts_again h now

/-! ## More payouts than a run looks at -/

def sellerPayout : Payout :=
  { orderId := some 0
    payeeRole := .seller
    payeeId := 1
    paymentId := 0
    amount := 100
    releaseAt := 0 }

def duePayouts (count : Nat) : Db :=
  { payouts := ⟨List.replicate count sellerPayout⟩
    orderEvents := ⟨[
      { orderId := 0
        type := .receiptConfirmed
        createdAt := 0 }]⟩ }

def noUpdates : UpdatedAt :=
  { order := fun _ => 0
    inspectionRequest := fun _ => 0 }

def sixthDayRun (db : Db) : Db :=
  releaseDuePayouts { now := 0 } noUpdates 518400000 db

theorem findUnique_duePayouts {count : Nat} {i : Id} {payout : Payout}
    (h : (duePayouts count).payouts.findUnique i = some payout) : payout = sellerPayout :=
  List.eq_of_mem_replicate (List.mem_of_getElem? h)

theorem completion_duePayouts (count : Nat) :
    completion { now := 0 } noUpdates (duePayouts count) sellerPayout =
      some (0, 259200000, false) := by
  have hsame : completion { now := 0 } noUpdates (duePayouts count) sellerPayout =
      completion { now := 0 } noUpdates (duePayouts 0) sellerPayout := rfl
  rw [hsame]
  decide +kernel

theorem completion_sixthDayRun (db : Db) (payout : Payout) :
    completion { now := 0 } noUpdates (sixthDayRun db) payout =
      completion { now := 0 } noUpdates db payout :=
  rfl

theorem sixthDayRun_releases {count : Nat} {i : Id}
    (h : i ∈ (releaseBatch (duePayouts count)).map Prod.fst) :
    exists after, (sixthDayRun (duePayouts count)).payouts.findUnique i = some after ∧
      after.status ≠ .held := by
  obtain ⟨⟨j, payout⟩, hmem, rfl⟩ := List.mem_map.mp h
  obtain rfl := findUnique_duePayouts (mem_releaseBatch hmem).1
  refine ⟨_, findUnique_release_of_mem hmem, ?_⟩
  unfold releasedRow
  rw [completion_duePayouts]
  decide

/-- With 501 payouts that are due, a second run at the same time releases one more. -/
theorem second_run_releases :
    sixthDayRun (sixthDayRun (duePayouts 501)) ≠ sixthDayRun (duePayouts 501) := by
  have hleft : exists i, i < 501 ∧ i ∉ (releaseBatch (duePayouts 501)).map Prod.fst := by
    by_contra hall
    push Not at hall
    have hsubset : List.range 501 ⊆ (releaseBatch (duePayouts 501)).map Prod.fst :=
      fun i hi => hall i (List.mem_range.mp hi)
    have hlength := (List.subperm_of_subset List.nodup_range hsubset).length_le
    rw [List.length_range, List.length_map] at hlength
    exact absurd (hlength.trans (List.length_take_le 500 _)) (by decide)
  obtain ⟨i, hi, hmissed⟩ := hleft
  have hfound : (sixthDayRun (duePayouts 501)).payouts.findUnique i = some sellerPayout :=
    (findUnique_release_of_notMem hmissed).trans (List.getElem?_replicate_of_lt hi)
  -- The second run looks at some payout, which the first has missed.
  have hsome : exists j payout, (j, payout) ∈ releaseBatch (sixthDayRun (duePayouts 501)) := by
    have hheld : (i, sellerPayout) ∈ (sixthDayRun (duePayouts 501)).payouts.findMany
        fun _ payout => payout.status = .held :=
      Table.mem_findMany.mpr ⟨hfound, rfl⟩
    unfold releaseBatch
    cases hlist : (sixthDayRun (duePayouts 501)).payouts.findMany
        fun _ payout => payout.status = .held with
    | nil => rw [hlist] at hheld; cases hheld
    | cons e rest => exact ⟨e.1, e.2, List.mem_cons_self⟩
  obtain ⟨j, payout, hmem⟩ := hsome
  obtain ⟨hbefore, hheld⟩ := mem_releaseBatch hmem
  have hmissed : j ∉ (releaseBatch (duePayouts 501)).map Prod.fst := by
    intro hlooked
    obtain ⟨after, hafter, hstatus⟩ := sixthDayRun_releases hlooked
    exact hstatus (Option.some.inj (hbefore.symm.trans hafter) ▸ hheld)
  obtain rfl : payout = sellerPayout :=
    findUnique_duePayouts ((findUnique_release_of_notMem hmissed).symm.trans hbefore)
  have hafter : (sixthDayRun (sixthDayRun (duePayouts 501))).payouts.findUnique j =
      some (releasedRow { now := 0 } noUpdates (sixthDayRun (duePayouts 501)) 518400000
        sellerPayout) :=
    findUnique_release_of_mem hmem
  intro hsame
  rw [hsame, hbefore] at hafter
  have hstatus := congrArg Payout.status (Option.some.inj hafter)
  unfold releasedRow at hstatus
  rw [completion_sixthDayRun, completion_duePayouts] at hstatus
  revert hstatus
  decide

end MarketBridge
