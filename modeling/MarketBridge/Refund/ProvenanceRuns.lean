import MarketBridge.Refund.Provenance

/-!
# Runs of the refund operations

Every run in which the webhooks name the references of their own refunds
completes a refund only for money that the provider returned for it.
-/

namespace MarketBridge

open Relational

namespace SubmissionSession

def providerIsFresh (s : SubmissionSession) (a : Env × SubmissionStep) : Bool :=
  match a.2 with
  | .providerAccepts _ refId => s.log.accepted.all fun e => e.2 ≠ refId
  | _ => true

/-- A webhook that is about to store a reference stores that of its own refund. -/
def noticeIsOwn (s : SubmissionSession) (a : Env × SubmissionStep) : Bool :=
  match a.2 with
  | .advance k _ => (s.tasks.findUnique k).all fun task => namesOwnReference s.log s.db task
  | _ => true

/--
A refund is completed only if the provider has reported as refunded the
reference it gave to this very refund; a refund that was never submitted is
requested or failed; and no two refunds carry the same reference.
-/
structure RefundsBound (s : SubmissionSession) : Prop where
  completed : forall j r, s.db.refunds.findUnique j = some r -> r.status = .completed ->
    exists refId, (j, refId) ∈ s.log.accepted ∧ refId ∈ s.log.reported
  unsubmitted : forall j r, s.db.refunds.findUnique j = some r -> j ∉ s.log.submitted ->
    r.status = .requested ∨ r.status = .failed
  distinct : forall j k r q refId, s.db.refunds.findUnique j = some r ->
    s.db.refunds.findUnique k = some q -> r.providerRefundId = some refId ->
    q.providerRefundId = some refId -> j = k

variable {s : SubmissionSession}

theorem Sound.refundsBound (h : s.Sound) : s.RefundsBound where
  completed j r hr hs := (h.log.rows j r hr).completed hs
  unsubmitted j r hr hnew := by
    have hbound := h.log.rows j r hr
    cases hs : r.status with
    | requested =>
        exact Or.inl rfl
    | failed =>
        exact Or.inr rfl
    | processing =>
        exact absurd (hbound.processing hs) hnew
    | completed =>
        obtain ⟨refId, hmem, -⟩ := hbound.completed hs
        exact absurd (h.log.sent j refId hmem) hnew
    | cancelled =>
        exact absurd hs hbound.live
  distinct j k r q refId hr hq hrefId hrefId' :=
    h.log.own j k refId ((h.log.rows j r hr).reference refId hrefId)
      ((h.log.rows k q hq).reference refId hrefId')

theorem noticeTask_bound (log : ProviderLog) (keys : WebhookKeys) (notice : RefundNotice)
    (db : Db) :
    TaskBound log (noticeTask keys notice db) ∧
      forall j, Sends j (noticeTask keys notice db) = false := by
  unfold noticeTask
  split
  · split
    · split <;> exact ⟨trivial, fun _ => rfl⟩
    · exact ⟨trivial, fun _ => rfl⟩
  · exact ⟨trivial, fun _ => rfl⟩

theorem received_bound {log : ProviderLog} {j : Id} {refId : String} (provider : String)
    (lost : Option ApiError) (h : (j, refId) ∈ log.accepted) :
    TaskBound log (received j provider refId lost) ∧
      forall i, Sends i (received j provider refId lost) = false := by
  unfold received
  split
  · exact ⟨trivial, fun _ => rfl⟩
  · split
    · exact ⟨trivial, fun _ => rfl⟩
    · next refId' hreference =>
        -- The reference that arrives is the one that was sent.
        have hsame : refId' = refId := by
          unfold refundReferenceOf jsOr at hreference
          by_cases hempty : refId = ""
          · simp [hempty] at hreference
          · simpa [hempty, eq_comm] using hreference
        rw [hsame]
        exact ⟨h, fun _ => rfl⟩

theorem Sound.advance {env : Env} {answers : ProviderStatuses} {k : Id} (h : s.Sound)
    (hown : (s.tasks.findUnique k).all (fun task => namesOwnReference s.log s.db task) = true) :
    (s.advance env answers k).Sound := by
  unfold SubmissionSession.advance
  cases hk : s.tasks.findUnique k with
  | none =>
      exact h
  | some task =>
      rw [hk, Option.all_some] at hown
      obtain ⟨hlog, hbound⟩ := RefundTask.continues env answers h.log
        (h.tasks k task hk) hown
      obtain ⟨hsubmitted, haccepted, hreported⟩ :=
        log_after_grows s.log task (task.next env answers s.db).2
      refine h.proceed hlog ?_ hbound hk fun j hj => sends_next h.log hj
      intro i t _ _ ht
      exact ht.mono hsubmitted haccepted hreported

theorem Sound.step {a : Env × SubmissionStep} (h : s.Sound) (hfresh : s.providerIsFresh a = true)
    (hown : s.noticeIsOwn a = true) :
    (s.step a).Sound := by
  obtain ⟨env, transition⟩ := a
  cases transition with
  | requestRefund paymentId amount reason requestedById =>
      simp only [SubmissionSession.step]
      split
      · next hrequest =>
          exact h.refunds (h.log.requested (requestRefund_refunds hrequest))
      · exact h
  | processRefund refundId =>
      exact h.start trivial fun _ => rfl
  | verifyAndFinalizeRefund refundId =>
      exact h.start trivial fun _ => rfl
  | failRefund refundId failureReason =>
      exact h.start trivial fun _ => rfl
  | retryRefund refundId actorId note =>
      exact h.start trivial fun _ => rfl
  | webhook keys notice =>
      obtain ⟨hbound, hsends⟩ := noticeTask_bound s.log keys notice s.db
      exact h.start hbound hsends
  | providerAccepts k refId =>
      simp only [SubmissionSession.step]
      split
      · next j provider hk =>
          obtain ⟨hsent, hnew⟩ : TaskBound s.log (.submit j provider) := h.tasks k _ hk
          have hother : forall i, (i, refId) ∉ s.log.accepted := by
            intro i hmem
            have hne := List.all_eq_true.1 hfresh _ hmem
            simp at hne
          refine h.proceed (h.log.accepted hsent hnew hother) ?_ List.mem_cons_self hk ?_
          · intro i t ht hi hbound
            exact hbound.accepted (h.apart i k t _ ht hk hi)
          · intro i hi
            cases hi
      · exact h
  | providerFails k e =>
      simp only [SubmissionSession.step]
      split
      · next j provider hk =>
          exact h.proceed h.log (fun _ _ _ _ hbound => hbound) trivial hk fun _ hi => nomatch hi
      · exact h
  | answer k lost =>
      simp only [SubmissionSession.step]
      split
      · next j provider refId hk =>
          obtain ⟨hbound, hsends⟩ := received_bound provider lost
            (show (j, refId) ∈ s.log.accepted from h.tasks k _ hk)
          refine h.proceed h.log (fun _ _ _ _ hother => hother) hbound hk ?_
          intro i hi
          rw [hsends i] at hi
          cases hi
      · exact h
  | advance k answers =>
      exact h.advance hown
  | elsewhere other =>
      exact ⟨h.log, h.tasks, h.apart⟩

theorem Sound.of_noRefunds {db : Db} (h : db.refunds = .empty) :
    SubmissionSession.Sound { db := db } := by
  refine ⟨⟨?_, nofun, nofun, nofun, nofun⟩, by simp, ?_⟩
  · show db.refunds.All _
    rw [h]
    exact Table.all_empty _
  · intro k k' task task' hk
    simp at hk

/-- Every permitted run binds the refunds to what the provider did. -/
theorem refunds_bound_of_run {db : Db} (hdb : db.refunds = .empty)
    (as : List (Env × SubmissionStep))
    (hprovider : RunMeets step (fun s a => s.providerIsFresh a = true) { db := db } as)
    (hnotices : RunMeets step (fun s a => s.noticeIsOwn a = true) { db := db } as) :
    (run step { db := db } as).RefundsBound := by
  have hboth : RunMeets step
      (fun s a => s.providerIsFresh a = true ∧ s.noticeIsOwn a = true) { db := db } as := by
    exact hprovider.and hnotices
  have hsound : (run step { db := db } as).Sound :=
    run_invariant (fun s a hs hok => hs.step hok.1 hok.2) (Sound.of_noRefunds hdb) hboth
  exact hsound.refundsBound

/-! ## Examples -/

/-- A cancelled order with a received goods payment and a received inspection fee. -/
def receivedTwiceDb : Db :=
  { orders := ⟨[{ listingId := 0, buyerId := 1, sellerId := 2, finalPrice := 500, quantity := 1
                  status := .cancelled }]⟩
    payments := ⟨[
      { orderId := some 0, type := .marketplace, amount := 500, status := .paid
        provider := some "CHAPA", chapaTxRef := some "0_1" },
      { orderId := some 0, type := .inspector, amount := 100, status := .paid
        provider := some "CHAPA_TELEBIRR", chapaTxRef := some "1_1" }]⟩ }

/-- The goods payment is refunded: submitted, accepted as `R-0`, verified and completed. -/
def goodsRefunded : List (Env × SubmissionStep) :=
  [.requestRefund 0 none none none,
    .processRefund 0,
    .advance 0 fun _ => .ok "",
    .providerAccepts 0 "R-0",
    .answer 0 none,
    .advance 0 fun _ => .ok "",
    .advance 0 fun _ => .ok "",
    .advance 0 fun _ => .ok "refunded",
    .advance 0 fun _ => .ok ""].map fun a => (env0, a)

/-- The key `secret`, and the signature of the secret itself. -/
def exampleKeys : WebhookKeys :=
  { secret := some "secret"
    hmacHex := fun secret data =>
      if secret = "secret" ∧ data = "secret" then
        "210d3d27605d0ee737952294265400a7cba109746afacd84b9cb0139bf6b7e3a"
      else
        "" }

def noticeNaming (paymentId : Id) (refId : String) : RefundNotice :=
  { rawBody := some "body"
    secretSignature :=
      some "210d3d27605d0ee737952294265400a7cba109746afacd84b9cb0139bf6b7e3a"
    paymentId := paymentId
    event := some "charge.refunded"
    refId := some refId }

/-- The refund of the fee is requested, and a webhook names a reference for it. -/
def feeNotified (refId : String) : List (Env × SubmissionStep) :=
  [.requestRefund 1 none none none,
    .webhook exampleKeys (noticeNaming 1 refId),
    .advance 1 fun _ => .ok "",
    .advance 1 fun _ => .ok "",
    .advance 1 fun _ => .ok "refunded",
    .advance 1 fun _ => .ok ""].map fun a => (env0, a)

/-- The answer of the provider is lost, and its webhook completes the refund. -/
def noticeInsteadOfAnswer : List (Env × SubmissionStep) :=
  [.requestRefund 0 none none none,
    .processRefund 0,
    .advance 0 fun _ => .ok "",
    .providerAccepts 0 "R-0",
    .webhook exampleKeys (noticeNaming 0 "R-0"),
    .advance 1 fun _ => .ok "",
    .advance 1 fun _ => .ok "",
    .answer 0 (some { message := "Chapa request timed out", status := some 504 }),
    .advance 0 fun _ => .ok "",
    .advance 1 fun _ => .ok "refunded",
    .advance 1 fun _ => .ok ""].map fun a => (env0, a)

theorem refunds_bound_of_noticeInsteadOfAnswer :
    (run step { db := receivedTwiceDb } noticeInsteadOfAnswer).RefundsBound :=
  refunds_bound_of_run rfl noticeInsteadOfAnswer (by decide +kernel) (by decide +kernel)

example :
    ((run step { db := receivedTwiceDb } noticeInsteadOfAnswer).db.refunds.findUnique 0).map
      (·.status) = some .completed := by
  decide +kernel

/--
The webhook names the reference of the other refund.  The refund of the fee is
completed although it was never submitted, and both refunds carry `R-0`.
-/
theorem foreign_notice_completes_refund :
    RunMeets step (fun s a => s.providerIsFresh a = true) { db := receivedTwiceDb }
        (goodsRefunded ++ feeNotified "R-0") ∧
      ¬ (run step { db := receivedTwiceDb } (goodsRefunded ++ feeNotified "R-0")).RefundsBound := by
  refine ⟨by decide +kernel, ?_⟩
  intro h
  have hfee : ((run step { db := receivedTwiceDb }
      (goodsRefunded ++ feeNotified "R-0")).db.refunds.findUnique 1).map (·.status) =
        some .completed := by
    decide +kernel
  have hnew : 1 ∉ (run step { db := receivedTwiceDb }
      (goodsRefunded ++ feeNotified "R-0")).log.submitted := by
    decide +kernel
  obtain ⟨r, hr, hs⟩ := Option.map_eq_some_iff.mp hfee
  rcases h.unsubmitted 1 r hr hnew with hs' | hs'
  · exact absurd (hs.symm.trans hs') (by decide)
  · exact absurd (hs.symm.trans hs') (by decide)

end SubmissionSession

end MarketBridge
