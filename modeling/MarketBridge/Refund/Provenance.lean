import MarketBridge.Refund.Submission

/-!
# Where the reference of a refund comes from

A refund is `COMPLETED` only for the reference under which the provider accepted
that very refund, as long as every webhook names the reference of the refund it
is about.  The reference has two writers, the submission and the webhook, and
the completion trusts what is stored.
-/

namespace MarketBridge

open Relational

/-! ## What the statements do to the refunds -/

def RefundRequested (refunds refunds' : Table PaymentRefund) : Prop :=
  refunds' = refunds ∨
    exists r, r.status = .requested ∧ r.providerRefundId = none ∧ refunds' = refunds.create r

theorem requestRefund_refunds {env : Env} {paymentId id : Id} {amount : Option JsNumber}
    {reason : Option String} {requestedById : Option Id} {db db' : Db}
    (h : requestRefund env paymentId amount reason requestedById db = .ok (db', id)) :
    RefundRequested db.refunds db'.refunds := by
  obtain ⟨p, refundAmount, -, -, -, hcases⟩ := requestRefund_eq_ok h
  rcases hcases with ⟨rfl, -⟩ | ⟨-, -, -, events, rfl⟩
  · exact Or.inl rfl
  · exact Or.inr ⟨_, rfl, rfl, rfl⟩

theorem markParentOfInstallment_refunds {payment : Payment} {db db' : Db}
    (h : markParentOfInstallment payment db = .ok db') :
    db'.refunds = db.refunds := by
  unfold markParentOfInstallment markParentRefundedIfComplete at h
  split at h
  · obtain rfl := Except.ok.inj h
    rfl
  · split at h
    · obtain rfl := Except.ok.inj h
      rfl
    · dsimp only at h
      split at h
      · obtain ⟨written, hwrite, h⟩ := bind_eq_ok.1 h
        obtain ⟨p, -, -, rfl⟩ := updatePayment_eq_ok_iff.1 hwrite
        split at h <;> obtain rfl := Except.ok.inj h <;> rfl
      · obtain rfl := Except.ok.inj h
        rfl

def RefundFinalized (env : Env) (refundId : Id) (refunds refunds' : Table PaymentRefund) : Prop :=
  refunds' = refunds ∨
    exists r, refunds.findUnique refundId = some r ∧ r.status.isOpen = true ∧
      refunds' = refunds.update refundId (·.complete env.now)

theorem completeRefund_refunds {env : Env} {refundId : Id} {db db' : Db}
    (h : completeRefund env refundId db = .ok db') :
    RefundFinalized env refundId db.refunds db'.refunds := by
  unfold completeRefund at h
  split at h
  · cases h
  · split at h
    · obtain rfl := Except.ok.inj h
      exact Or.inl rfl
    · split at h
      · cases h
      · split at h
        · cases h
        · simp only [bind_eq_ok, Prod.exists] at h
          obtain ⟨-, -, -, -, moved, claimed, hmove, h⟩ := h
          rcases moveRefund_cases hmove with ⟨rfl, rfl⟩ | ⟨rfl, r, hr, hopen, -, rfl⟩
          · obtain rfl := Except.ok.inj h
            exact Or.inl rfl
          · simp only [if_true, bind_eq_ok] at h
            obtain ⟨written, hwrite, marked, hmark, h⟩ := h
            obtain ⟨p, -, -, rfl⟩ := updatePayment_eq_ok_iff.1 hwrite
            obtain rfl := Except.ok.inj h
            refine Or.inr ⟨r, hr, hopen, ?_⟩
            rw [recordOrderEvent_refunds, markParentOfInstallment_refunds hmark]

theorem finalizeRefund_refunds {env : Env} {refundId : Id} {providerStatus : Option String}
    {db db' : Db} (h : finalizeRefund env refundId providerStatus db = .ok db') :
    RefundFinalized env refundId db.refunds db'.refunds := by
  unfold finalizeRefund at h
  split at h
  · cases h
  · split at h
    · obtain rfl := Except.ok.inj h
      exact Or.inl rfl
    · split at h
      · cases h
      · exact completeRefund_refunds h

/-! ## Invariant -/

/-- What the log says about refund `j`, whose row is `r`. -/
structure RefundBound (log : ProviderLog) (j : Id) (r : PaymentRefund) : Prop where
  reference : forall refId, r.providerRefundId = some refId -> (j, refId) ∈ log.accepted
  completed : r.status = .completed ->
    exists refId, (j, refId) ∈ log.accepted ∧ refId ∈ log.reported
  processing : r.status = .processing -> j ∈ log.submitted
  requested : r.status = .requested -> j ∉ log.submitted
  live : r.status ≠ .cancelled

def TaskBound (log : ProviderLog) : RefundTask -> Prop
  | .submit j _ => j ∈ log.submitted ∧ forall refId, (j, refId) ∉ log.accepted
  | .receive j _ refId => (j, refId) ∈ log.accepted
  | .store j _ refId => (j, refId) ∈ log.accepted
  | .ask j refId => (j, refId) ∈ log.accepted
  | .finalize j => exists refId, (j, refId) ∈ log.accepted ∧ refId ∈ log.reported
  | .keep j => j ∈ log.submitted
  | _ => True

def SendsApart : RefundTask -> RefundTask -> Bool
  | .submit j _, .submit j' _ => j ≠ j'
  | _, _ => true

structure LogSound (refunds : Table PaymentRefund) (log : ProviderLog) : Prop where
  rows : refunds.All (RefundBound log)
  known : forall j, j ∈ log.submitted -> j < refunds.size
  sent : forall j refId, (j, refId) ∈ log.accepted -> j ∈ log.submitted
  once : forall j refId refId', (j, refId) ∈ log.accepted -> (j, refId') ∈ log.accepted ->
    refId = refId'
  own : forall j j' refId, (j, refId) ∈ log.accepted -> (j', refId) ∈ log.accepted -> j = j'

structure SubmissionSession.Sound (s : SubmissionSession) : Prop where
  log : LogSound s.db.refunds s.log
  tasks : s.tasks.All fun _ task => TaskBound s.log task
  apart : forall k k' task task', s.tasks.findUnique k = some task ->
    s.tasks.findUnique k' = some task' -> k ≠ k' -> SendsApart task task' = true

/-! ## Rows -/

section Rows

variable {refunds : Table PaymentRefund} {log : ProviderLog}

theorem LogSound.update (h : LogSound refunds log) {j : Id} {f : PaymentRefund -> PaymentRefund}
    (hf : forall r, refunds.findUnique j = some r -> RefundBound log j r ->
      RefundBound log j (f r)) :
    LogSound (refunds.update j f) log where
  rows := h.rows.update fun r hr => hf r hr (h.rows j r hr)
  known i hi := by
    rw [Table.size_update]
    exact h.known i hi
  sent := h.sent
  once := h.once
  own := h.own

theorem LogSound.requested {refunds' : Table PaymentRefund} (h : LogSound refunds log)
    (hrequested : RefundRequested refunds refunds') :
    LogSound refunds' log := by
  rcases hrequested with rfl | ⟨r, hstatus, hreference, rfl⟩
  · exact h
  · refine ⟨h.rows.create ?_, ?_, h.sent, h.once, h.own⟩
    · refine ⟨?_, ?_, ?_, ?_, ?_⟩
      · intro refId hrefId
        rw [hreference] at hrefId
        cases hrefId
      · intro hs
        rw [hstatus] at hs
        cases hs
      · intro hs
        rw [hstatus] at hs
        cases hs
      · intro _ hmem
        exact absurd (h.known _ hmem) (Nat.lt_irrefl _)
      · rw [hstatus]
        decide
    · intro i hi
      rw [Table.size_create]
      exact Nat.lt_succ_of_lt (h.known i hi)

theorem LogSound.finalized {env : Env} {j : Id} {refunds' : Table PaymentRefund}
    (h : LogSound refunds log)
    (hreported : exists refId, (j, refId) ∈ log.accepted ∧ refId ∈ log.reported)
    (hfinal : RefundFinalized env j refunds refunds') :
    LogSound refunds' log := by
  rcases hfinal with rfl | ⟨r, hr, -, rfl⟩
  · exact h
  · apply h.update
    intro r _ hbound
    exact ⟨hbound.reference, fun _ => hreported, nofun, nofun, nofun⟩

/-- A refund that is no longer `REQUESTED` keeps what the log says, whatever it becomes. -/
theorem RefundBound.fail {j : Id} {r : PaymentRefund} (h : RefundBound log j r)
    (reason : Option String) :
    RefundBound log j (r.fail reason) :=
  ⟨h.reference, nofun, nofun, nofun, nofun⟩

theorem LogSound.moveRefund {j : Id} {guard : PaymentRefundStatus -> Bool}
    {f : PaymentRefund -> PaymentRefund} {db db' : Db} {moved : Bool}
    (h : LogSound db.refunds log)
    (hmove : MarketBridge.moveRefund j guard f db = .ok (db', moved))
    (hf : forall r, db.refunds.findUnique j = some r -> guard r.status = true ->
      RefundBound log j r -> RefundBound log j (f r)) :
    LogSound db'.refunds log := by
  rcases moveRefund_cases hmove with ⟨-, rfl⟩ | ⟨-, r, hr, hguard, -, rfl⟩
  · exact h
  · apply h.update
    intro r' hr' hbound
    obtain rfl := Option.some.inj (hr.symm.trans hr')
    exact hf r hr hguard hbound

end Rows

/-! ## Log -/

section Log

variable {refunds : Table PaymentRefund} {log : ProviderLog}

theorem LogSound.submitted {j : Id} {provider : String} {r : PaymentRefund}
    (h : LogSound refunds log) (hr : refunds.findUnique j = some r) :
    LogSound (refunds.update j (·.submit provider))
      { log with submitted := j :: log.submitted } where
  rows := by
    intro i q hq
    rcases Table.of_findUnique_update_some hr hq with ⟨rfl, rfl⟩ | ⟨hi, hq⟩
    · have hbound := h.rows i r hr
      exact ⟨hbound.reference, nofun, fun _ => List.mem_cons_self, nofun, nofun⟩
    · have hbound := h.rows i q hq
      exact ⟨hbound.reference, hbound.completed,
        fun hs => List.mem_cons_of_mem _ (hbound.processing hs),
        fun hs hmem => hbound.requested hs ((List.mem_cons.1 hmem).resolve_left hi),
        hbound.live⟩
  known i hi := by
    rw [Table.size_update]
    rcases List.mem_cons.1 hi with rfl | hi
    · exact Table.lt_size_of_findUnique hr
    · exact h.known i hi
  sent i refId hi := List.mem_cons_of_mem _ (h.sent i refId hi)
  once := h.once
  own := h.own

theorem LogSound.accepted {j : Id} {refId : String} (h : LogSound refunds log)
    (hsent : j ∈ log.submitted) (hnew : forall refId', (j, refId') ∉ log.accepted)
    (hfresh : forall i, (i, refId) ∉ log.accepted) :
    LogSound refunds { log with accepted := (j, refId) :: log.accepted } where
  rows := h.rows.mono fun _ _ hbound =>
    ⟨fun refId' hrefId' => List.mem_cons_of_mem _ (hbound.reference refId' hrefId'),
      fun hs =>
        have ⟨refId', haccepted, hreported⟩ := hbound.completed hs
        ⟨refId', List.mem_cons_of_mem _ haccepted, hreported⟩,
      hbound.processing, hbound.requested, hbound.live⟩
  known := h.known
  sent i refId' hi := by
    rcases List.mem_cons.1 hi with heq | hi
    · cases heq
      exact hsent
    · exact h.sent i refId' hi
  once i a b ha hb := by
    rcases List.mem_cons.1 ha with heq | ha
    · cases heq
      rcases List.mem_cons.1 hb with heq | hb
      · cases heq
        rfl
      · exact absurd hb (hnew b)
    · rcases List.mem_cons.1 hb with heq | hb
      · cases heq
        exact absurd ha (hnew a)
      · exact h.once i a b ha hb
  own i i' a ha hb := by
    rcases List.mem_cons.1 ha with heq | ha
    · cases heq
      rcases List.mem_cons.1 hb with heq | hb
      · cases heq
        rfl
      · exact absurd hb (hfresh i')
    · rcases List.mem_cons.1 hb with heq | hb
      · cases heq
        exact absurd ha (hfresh i)
      · exact h.own i i' a ha hb

theorem LogSound.reported (h : LogSound refunds log) (refId : String) :
    LogSound refunds { log with reported := refId :: log.reported } where
  rows := h.rows.mono fun _ _ hbound =>
    ⟨hbound.reference,
      fun hs =>
        have ⟨refId', haccepted, hreported⟩ := hbound.completed hs
        ⟨refId', haccepted, List.mem_cons_of_mem _ hreported⟩,
      hbound.processing, hbound.requested, hbound.live⟩
  known := h.known
  sent := h.sent
  once := h.once
  own := h.own

theorem TaskBound.mono {log' : ProviderLog} {task : RefundTask} (h : TaskBound log task)
    (hsubmitted : log.submitted ⊆ log'.submitted) (haccepted : log'.accepted = log.accepted)
    (hreported : log.reported ⊆ log'.reported) :
    TaskBound log' task := by
  cases task with
  | submit j provider =>
      exact ⟨hsubmitted h.1, haccepted ▸ h.2⟩
  | receive j provider refId =>
      exact (haccepted ▸ h : (j, refId) ∈ log'.accepted)
  | store j provider refId =>
      exact (haccepted ▸ h : (j, refId) ∈ log'.accepted)
  | ask j refId =>
      exact (haccepted ▸ h : (j, refId) ∈ log'.accepted)
  | finalize j =>
      obtain ⟨refId, hmem, hreport⟩ := h
      exact ⟨refId, haccepted ▸ hmem, hreported hreport⟩
  | keep j =>
      exact hsubmitted h
  | _ =>
      exact trivial

theorem TaskBound.accepted {j : Id} {refId provider : String} {task : RefundTask}
    (h : TaskBound log task) (hapart : SendsApart task (.submit j provider) = true) :
    TaskBound { log with accepted := (j, refId) :: log.accepted } task := by
  cases task with
  | submit i provider' =>
      refine ⟨h.1, ?_⟩
      intro refId' hmem
      rcases List.mem_cons.1 hmem with heq | hmem
      · cases heq
        simp [SendsApart] at hapart
      · exact h.2 refId' hmem
  | finalize i =>
      obtain ⟨refId', hmem, hreport⟩ := h
      exact ⟨refId', List.mem_cons_of_mem _ hmem, hreport⟩
  | receive i provider' refId' | store i provider' refId' | ask i refId' =>
      exact List.mem_cons_of_mem _ h
  | _ =>
      exact h

end Log

/-! ## Statements -/

def writesReference (db : Db) (refundId : Id) (provider refId : String) : Bool :=
  (db.refunds.findUnique refundId).any fun r =>
    r.status.isOpen && !db.refunds.any fun j q =>
      j ≠ refundId && ({ r with provider := some provider, providerRefundId := some refId }
        : PaymentRefund).sameProviderRefund q

/-- A webhook stores the reference under which the provider accepted this very refund. -/
def namesOwnReference (log : ProviderLog) (db : Db) : RefundTask -> Bool
  | .name refundId provider refId =>
      !writesReference db refundId provider refId || (refundId, refId) ∈ log.accepted
  | _ => true

section Statements

variable {env : Env} {answers : ProviderStatuses} {db : Db} {log : ProviderLog}

/-- The log and the task are sound once the operation has gone from `task` to `next`. -/
def Continues (log : ProviderLog) (task : RefundTask) (next : Db × RefundTask) : Prop :=
  LogSound next.1.refunds (log.after task next.2) ∧ TaskBound (log.after task next.2) next.2

/-- A conditional write of one refund that the log bears out. -/
theorem continues_afterWrite {j : Id} {guard : PaymentRefundStatus -> Bool}
    {f : PaymentRefund -> PaymentRefund} {failed : ApiError -> RefundTask}
    {task moved stayed : RefundTask} (h : LogSound db.refunds log)
    (hlog : forall next, log.after task next = log)
    (hf : forall r, db.refunds.findUnique j = some r -> guard r.status = true ->
      (db.refunds.any fun k q => k ≠ j && (f r).sameProviderRefund q) = false ->
      RefundBound log j r -> RefundBound log j (f r))
    (hfailed : forall e, TaskBound log (failed e)) (hmoved : TaskBound log moved)
    (hstayed : TaskBound log stayed) :
    Continues log task (afterWrite db (MarketBridge.moveRefund j guard f db) failed moved stayed) := by
  unfold Continues
  rw [hlog]
  cases hmove : MarketBridge.moveRefund j guard f db with
  | error e =>
      exact ⟨h, hfailed e⟩
  | ok next =>
      obtain ⟨db', b⟩ := next
      have hsound : LogSound db'.refunds log := by
        apply h.moveRefund hmove
        intro r hr hguard hbound
        refine hf r hr hguard ?_ hbound
        unfold MarketBridge.moveRefund at hmove
        simp only [hr, hguard, if_true] at hmove
        obtain ⟨hconflict, hmove⟩ := guard_eq_ok.mp hmove
        exact Bool.eq_false_iff.2 hconflict
      cases b with
      | true =>
          exact ⟨hsound, hmoved⟩
      | false =>
          exact ⟨hsound, hstayed⟩

theorem continues_claim {j : Id} (h : LogSound db.refunds log) :
    Continues log (.claim j) ((RefundTask.claim j).next env answers db) := by
  simp only [RefundTask.next]
  split
  · next claimed provider hclaim =>
      obtain ⟨r, p, hr, hstatus, -, -, -, rfl⟩ := claimForProcessing_eq_ok hclaim
      have hfresh : j ∉ log.submitted := (h.rows j r hr).requested hstatus
      refine ⟨h.submitted hr, List.mem_cons_self, ?_⟩
      intro refId hmem
      exact hfresh (h.sent j refId hmem)
  · exact ⟨h, trivial⟩

theorem continues_verification {j : Id} {refId : String} (h : LogSound db.refunds log)
    (hbound : TaskBound log (.ask j refId)) :
    Continues log (.ask j refId) ((RefundTask.ask j refId).next env answers db) := by
  have hmem : (j, refId) ∈ log.accepted := hbound
  simp only [RefundTask.next, afterVerification]
  split
  · exact ⟨h, trivial⟩
  · split
    · exact ⟨h.reported refId, refId, hmem, List.mem_cons_self⟩
    · exact ⟨h, trivial⟩
    · exact ⟨h, h.sent j refId hmem⟩

theorem continues_retry {j : Id} {actorId : Option Id} {note : Option String}
    (h : LogSound db.refunds log) :
    Continues log (.retry j actorId note)
      ((RefundTask.retry j actorId note).next env answers db) := by
  simp only [RefundTask.next, retryOf]
  split
  · exact ⟨h, trivial⟩
  · split
    · exact ⟨h, trivial⟩
    · split
      · exact ⟨h, trivial⟩
      · next hrequest =>
          exact ⟨h.requested (requestRefund_refunds hrequest), trivial⟩

theorem continues_restore {paymentId : Id} {pending : Bool} (h : LogSound db.refunds log) :
    Continues log (.restorePayment paymentId pending)
      ((RefundTask.restorePayment paymentId pending).next env answers db) := by
  simp only [RefundTask.next]
  split
  · exact ⟨h, trivial⟩
  · next moved _ hmove =>
      have hrefunds : moved.refunds = db.refunds := by
        split at hmove
        · rcases movePayment_cases hmove with ⟨-, rfl, -⟩ | ⟨-, p, -, -, -, rfl⟩ <;> rfl
        · obtain ⟨rfl, -⟩ := Prod.mk.inj (Except.ok.inj hmove)
          rfl
      refine ⟨?_, trivial⟩
      rw [recordOrderEvent_refunds, hrefunds]
      exact h

theorem RefundTask.continues {task : RefundTask} (env : Env) (answers : ProviderStatuses)
    (h : LogSound db.refunds log)
    (hbound : TaskBound log task) (hown : namesOwnReference log db task = true) :
    Continues log task (task.next env answers db) := by
  cases task with
  | claim j =>
      exact continues_claim h
  | submit j provider =>
      exact ⟨h, hbound⟩
  | receive j provider refId =>
      exact ⟨h, hbound⟩
  | store j provider refId =>
      refine continues_afterWrite h (fun _ => rfl) ?_ (fun _ => trivial) trivial trivial
      intro r _ _ _ hr
      refine ⟨?_, hr.completed, hr.processing, hr.requested, hr.live⟩
      intro refId' hrefId'
      obtain rfl := Option.some.inj hrefId'
      exact hbound
  | recover j e =>
      simp only [RefundTask.next]
      split
      · exact ⟨h, trivial⟩
      · exact continues_afterWrite h (fun _ => rfl)
          (fun r _ _ _ hr => ⟨hr.reference, hr.completed, hr.processing, hr.requested, hr.live⟩)
          (fun _ => trivial) trivial trivial
  | verify j =>
      refine ⟨h, ?_⟩
      show TaskBound log (verificationOf j db)
      unfold verificationOf
      split
      · exact trivial
      · next r hr =>
          split
          · exact trivial
          · split
            · next refId hrefId =>
                refine (h.rows j r hr).reference refId ?_
                unfold jsOr at hrefId
                split at hrefId
                · cases hrefId
                · next heq =>
                    split at hrefId
                    · cases hrefId
                    · rw [heq]
                      exact hrefId
            · exact trivial
  | ask j refId =>
      exact continues_verification h hbound
  | finalize j =>
      refine ⟨?_, trivial⟩
      show LogSound (commit (finalizeRefund env j (some "refunded") db) db).refunds log
      cases hfinal : finalizeRefund env j (some "refunded") db with
      | error e =>
          exact h
      | ok db' =>
          exact h.finalized hbound (finalizeRefund_refunds hfinal)
  | keep j =>
      refine continues_afterWrite h (fun _ => rfl) ?_ (fun _ => trivial) trivial trivial
      intro r _ _ _ hr
      exact ⟨hr.reference, nofun, fun _ => hbound, nofun, nofun⟩
  | fail j reason allowProcessing =>
      refine ⟨h, ?_⟩
      show TaskBound log (failureOf j reason allowProcessing db)
      unfold failureOf
      split
      · exact trivial
      · split <;> exact trivial
  | markFailed j paymentId pending reason =>
      refine ⟨⟨h.rows.updateMany ?_, ?_, h.sent, h.once, h.own⟩, ?_⟩
      · intro i r hr _
        exact (h.rows i r hr).fail reason
      · intro i hi
        show i < (db.refunds.updateMany _ _).size
        rw [Table.size_updateMany]
        exact h.known i hi
      · show TaskBound log (if _ then _ else _)
        split <;> exact trivial
  | restorePayment paymentId pending =>
      exact continues_restore h
  | retry j actorId note =>
      exact continues_retry h
  | name j provider refId =>
      refine continues_afterWrite h (fun _ => rfl) ?_ (fun _ => trivial) trivial trivial
      intro r hr hopen hfree hbound
      refine ⟨?_, hbound.completed, hbound.processing, hbound.requested, hbound.live⟩
      intro refId' hrefId'
      obtain rfl := Option.some.inj hrefId'
      have hwrites : writesReference db j provider refId = true := by
        unfold writesReference
        rw [hr, Option.any_some, hopen, hfree]
        rfl
      simpa [namesOwnReference, hwrites] using hown
  | done =>
      exact ⟨h, trivial⟩

end Statements

/-! ## Sessions -/

section Sessions

variable {s : SubmissionSession}

theorem sendsApart_comm (task task' : RefundTask) :
    SendsApart task task' = SendsApart task' task := by
  cases task <;> cases task' <;> simp [SendsApart, eq_comm]

def Sends (j : Id) : RefundTask -> Bool
  | .submit j' _ => j' = j
  | _ => false

theorem sendsApart_of_sends {task task' : RefundTask}
    (h : forall j, Sends j task = true -> Sends j task' = false) :
    SendsApart task task' = true := by
  cases task with
  | submit j provider =>
      have hj : Sends j task' = false := h j (by simp [Sends])
      cases task' with
      | submit j' provider' =>
          have hne : j' ≠ j := by simpa [Sends] using hj
          simpa [SendsApart] using hne.symm
      | _ =>
          rfl
  | _ =>
      rfl

/-- One operation goes on; the log grows, and no refund is sent twice. -/
theorem SubmissionSession.Sound.proceed (h : s.Sound) {k : Id} {task task' : RefundTask}
    {db' : Db} {log' : ProviderLog} (hlog : LogSound db'.refunds log')
    (hothers : forall i t, s.tasks.findUnique i = some t -> i ≠ k -> TaskBound s.log t ->
      TaskBound log' t)
    (hbound : TaskBound log' task')
    (hk : s.tasks.findUnique k = some task)
    (hsends : forall j, Sends j task' = true -> Sends j task = true ∨ j ∉ s.log.submitted) :
    SubmissionSession.Sound
      { db := db', tasks := s.tasks.update k fun _ => task', log := log' } := by
  have hapart : forall i t, s.tasks.findUnique i = some t -> i ≠ k ->
      SendsApart task' t = true := by
    intro i t ht hi
    apply sendsApart_of_sends
    intro j hj
    rw [Bool.eq_false_iff]
    intro hjt
    cases t with
    | submit j' provider =>
        obtain rfl : j' = j := by simpa [Sends] using hjt
        rcases hsends j' hj with hsame | hnew
        · have hcontra := h.apart k i task _ hk ht fun hki => hi hki.symm
          cases task with
          | submit j'' provider' =>
              obtain rfl : j'' = j' := by simpa [Sends] using hsame
              simp [SendsApart] at hcontra
          | _ =>
              cases hsame
        · exact hnew (h.tasks i _ ht).1
    | _ =>
        cases hjt
  refine ⟨hlog, ?_, ?_⟩
  · intro i t ht
    rcases Table.of_findUnique_update_some hk ht with ⟨rfl, rfl⟩ | ⟨hi, ht⟩
    · exact hbound
    · exact hothers i t ht hi (h.tasks i t ht)
  · intro i i' t t' ht ht' hne
    rw [Table.findUnique_update] at ht ht'
    by_cases hi : i = k
    · subst hi
      rw [if_pos rfl, hk] at ht
      obtain rfl := Option.some.inj ht
      rw [if_neg fun heq => hne heq.symm] at ht'
      exact hapart i' t' ht' fun heq => hne heq.symm
    · rw [if_neg hi] at ht
      by_cases hi' : i' = k
      · subst hi'
        rw [if_pos rfl, hk] at ht'
        obtain rfl := Option.some.inj ht'
        rw [sendsApart_comm]
        exact hapart i t ht hi
      · rw [if_neg hi'] at ht'
        exact h.apart i i' t t' ht ht' hne

theorem SubmissionSession.Sound.start (h : s.Sound) {task : RefundTask}
    (hbound : TaskBound s.log task) (hsends : forall j, Sends j task = false) :
    (s.start task).Sound := by
  have hnew : forall t, SendsApart task t = true := by
    intro t
    apply sendsApart_of_sends
    intro j hj
    rw [hsends j] at hj
    cases hj
  refine ⟨h.log, h.tasks.create hbound, ?_⟩
  intro i i' t t' ht ht' hne
  simp only [SubmissionSession.start, Table.findUnique_create] at ht ht'
  split at ht
  · obtain rfl := Option.some.inj ht
    exact hnew t'
  · split at ht'
    · obtain rfl := Option.some.inj ht'
      rw [sendsApart_comm]
      exact hnew t
    · exact h.apart i i' t t' ht ht' hne

theorem SubmissionSession.Sound.refunds (h : s.Sound) {db' : Db}
    (hlog : LogSound db'.refunds s.log) :
    SubmissionSession.Sound { s with db := db' } :=
  ⟨hlog, h.tasks, h.apart⟩

theorem log_after_grows (log : ProviderLog) (task task' : RefundTask) :
    log.submitted ⊆ (log.after task task').submitted ∧
      (log.after task task').accepted = log.accepted ∧
      log.reported ⊆ (log.after task task').reported := by
  unfold ProviderLog.after
  split
  · exact ⟨List.subset_cons_self _ _, rfl, fun _ h => h⟩
  · exact ⟨fun _ h => h, rfl, List.subset_cons_self _ _⟩
  · exact ⟨fun _ h => h, rfl, fun _ h => h⟩

theorem sends_next {env : Env} {answers : ProviderStatuses} {db : Db} {log : ProviderLog}
    (h : LogSound db.refunds log) {task : RefundTask} {j : Id}
    (hsends : Sends j (task.next env answers db).2 = true) :
    Sends j task = true ∨ j ∉ log.submitted := by
  have hwrite : forall (r : Except ApiError (Db × Bool)) (failed : ApiError -> RefundTask)
      (moved stayed : RefundTask), (forall e, Sends j (failed e) = false) ->
      Sends j moved = false -> Sends j stayed = false ->
      Sends j (afterWrite db r failed moved stayed).2 = false := by
    intro r failed moved stayed hfailed hmoved hstayed
    unfold afterWrite
    split
    · exact hfailed _
    · exact hmoved
    · exact hstayed
  cases task with
  | claim i =>
      simp only [RefundTask.next] at hsends
      split at hsends
      · next hclaim =>
          obtain ⟨r, p, hr, hstatus, -, -, -, rfl⟩ := claimForProcessing_eq_ok hclaim
          obtain rfl : i = j := by simpa [Sends] using hsends
          exact Or.inr ((h.rows i r hr).requested hstatus)
      · cases hsends
  | submit i provider =>
      exact Or.inl hsends
  | store i provider refId =>
      have hfalse := hwrite (MarketBridge.moveRefund i (· = .processing) (·.accept provider refId) db)
        (.recover i) (.verify i) .done (fun _ => rfl) rfl rfl
      exact absurd hsends (by rw [RefundTask.next, hfalse]; decide)
  | recover i e =>
      simp only [RefundTask.next] at hsends
      split at hsends
      · cases hsends
      · rw [hwrite _ _ _ _ (fun _ => rfl) rfl rfl] at hsends
        cases hsends
  | verify i =>
      simp only [RefundTask.next, verificationOf] at hsends
      split at hsends
      · cases hsends
      · split at hsends
        · cases hsends
        · split at hsends <;> cases hsends
  | ask i refId =>
      simp only [RefundTask.next, afterVerification] at hsends
      split at hsends
      · cases hsends
      · split at hsends <;> cases hsends
  | keep i =>
      have hfalse := hwrite (MarketBridge.moveRefund i PaymentRefundStatus.isOpen
        (·.stillProcessing) db) (fun _ => .done) .done .done (fun _ => rfl) rfl rfl
      exact absurd hsends (by rw [RefundTask.next, hfalse]; decide)
  | fail i reason allowProcessing =>
      simp only [RefundTask.next, failureOf] at hsends
      split at hsends
      · cases hsends
      · split at hsends <;> cases hsends
  | markFailed i paymentId pending reason =>
      simp only [RefundTask.next] at hsends
      split at hsends <;> cases hsends
  | restorePayment paymentId pending =>
      simp only [RefundTask.next] at hsends
      split at hsends <;> cases hsends
  | retry i actorId note =>
      simp only [RefundTask.next, retryOf] at hsends
      split at hsends
      · cases hsends
      · split at hsends
        · cases hsends
        · split at hsends <;> cases hsends
  | name i provider refId =>
      have hfalse := hwrite (MarketBridge.moveRefund i PaymentRefundStatus.isOpen
        ({ · with provider := some provider, providerRefundId := some refId }) db)
        (fun _ => .done) (.verify i) (.verify i) (fun _ => rfl) rfl rfl
      exact absurd hsends (by rw [RefundTask.next, hfalse]; decide)
  | receive i provider refId | finalize i | done =>
      cases hsends

end Sessions

end MarketBridge
