import MarketBridge.Payment.CheckoutRuns

/-!
# Reports about other checkouts

While an initialization is in flight its payment is claimed, so no second one
starts; a stored reference is never replaced, since nothing returns the payment to
`PENDING` after that.  A payment is therefore bound to the first reference that is
stored, and a settlement is about that reference as soon as the checkout it reports
has come to the end of its initialization.
-/

namespace MarketBridge

open Relational

variable {env : Env} {s s' : CheckoutSession} {w k : Id} {task task' : CheckoutTask}
  {txRef : String}

/-! ## Statements -/

def chapaTxRefOf (db : Db) (paymentId : Id) : Option String :=
  (db.payments.findUnique paymentId).bind (·.chapaTxRef)

namespace CheckoutSession

def isLive (s : CheckoutSession) (txRef : String) : Bool :=
  s.statusOf txRef ∈ [some HostedStatus.pending, some .success]

/-- The step makes the payment `status`. -/
def turns (w : Id) (status : PaymentStatus) (s : CheckoutSession) (a : Env × CheckoutStep) : Bool :=
  !isPaymentIn s.db w status && isPaymentIn (s.step a).db w status

/-- The report about the payment that the step settles. -/
def settledReport (w : Id) (s : CheckoutSession) (a : Env × CheckoutStep) :
    Option (String × PaymentStatus) :=
  match a.2 with
  | .advance k =>
      match s.tasks.findUnique k with
      | some (.finish txRef args _) =>
          if args.paymentId = w then some (txRef, args.status) else none
      | _ => none
  | _ => none

/-- A report of a failure that is about another checkout than the live one ends the payment. -/
def failsForAnother (w : Id) (s : CheckoutSession) (a : Env × CheckoutStep) : Bool :=
  (s.settledReport w a).any fun report =>
    report.2 = .failed && s.turns w .failed a &&
      (chapaTxRefOf s.db w).any fun current => current ≠ report.1 && s.isLive current

/--
After the step the payment is bound to the checkout whose confirmation made it paid,
and the step did not fail it for another one.
-/
def BoundStep (w : Id) (s : CheckoutSession) (a : Env × CheckoutStep) : Prop :=
  (forall txRef, (w, txRef) ∈ (s.step a).confirmed -> chapaTxRefOf (s.step a).db w = some txRef) ∧
    s.failsForAnother w a = false

/--
A report that makes the payment paid, or that fails it while the checkout it is bound
to is live, is about a checkout whose initialization has stored its reference.
-/
def ReportsStored (w : Id) (s : CheckoutSession) (a : Env × CheckoutStep) : Prop :=
  forall txRef status, s.settledReport w a = some (txRef, status) ->
    (status = .paid ∧ s.turns w .paid a = true ∨
      status = .failed ∧ s.turns w .failed a = true ∧
        (chapaTxRefOf s.db w).any s.isLive = true) ->
    (w, txRef) ∈ s.stored

/-- No request is in flight, and the payment has had no checkout yet. -/
structure IsFresh (w : Id) (s : CheckoutSession) : Prop where
  tasks : s.tasks = .empty
  stored : s.stored = []
  confirmed : s.confirmed = []
  unbound : chapaTxRefOf s.db w = none

/-! ## Invariant -/

def Claims (s : CheckoutSession) (w k : Id) : Prop :=
  exists task, s.tasks.findUnique k = some task ∧ task.claimed = some w

end CheckoutSession

/-- A settlement in flight writes no `PENDING`. -/
def CheckoutTask.Settles : CheckoutTask -> Prop
  | load _ args => args.status ≠ .pending
  | finish _ args _ => args.status ≠ .pending
  | _ => True

/-- At most one initialization holds the payment, and the stored reference stays. -/
structure CheckoutBound (w : Id) (s : CheckoutSession) : Prop where
  stored : forall txRef, (w, txRef) ∈ s.stored ↔ chapaTxRefOf s.db w = some txRef
  waits : isPaymentIn s.db w .pending = true -> chapaTxRefOf s.db w = none
  claimed : forall k, s.Claims w k ->
    chapaTxRefOf s.db w = none ∧ isPaymentIn s.db w .pending = false
  single : forall k k', s.Claims w k -> s.Claims w k' -> k = k'
  settles : forall k task, s.tasks.findUnique k = some task -> task.Settles

variable {db db' : Db}

theorem CheckoutsKept.chapaTxRefOf (h : CheckoutsKept db db') (w : Id) :
    chapaTxRefOf db' w = chapaTxRefOf db w := by
  unfold MarketBridge.chapaTxRefOf
  cases hp : db.payments.findUnique w with
  | none =>
      rw [h.none_right hp]
  | some p =>
      obtain ⟨p', hp', hkept⟩ := h.of_left hp
      rw [hp']
      exact hkept.reference

theorem isPaymentIn_eq_true_iff {status : PaymentStatus} :
    isPaymentIn db w status = true ↔
      exists p, db.payments.findUnique w = some p ∧ p.status = status := by
  unfold isPaymentIn
  simp only [Option.any_eq_true, decide_eq_true_eq]

theorem CheckoutsKept.waits (h : CheckoutsKept db db') (hw : isPaymentIn db' w .pending = true) :
    isPaymentIn db w .pending = true := by
  obtain ⟨p', hp', hstatus⟩ := isPaymentIn_eq_true_iff.1 hw
  obtain ⟨p, hp, hkept⟩ := h.of_right hp'
  exact isPaymentIn_eq_true_iff.2 ⟨p, hp, hkept.waits hstatus⟩

namespace CheckoutBound

theorem of_fresh (h : s.IsFresh w) : CheckoutBound w s := by
  have hnone : forall k, s.tasks.findUnique k = none := by
    intro k
    rw [h.tasks]
    rfl
  refine ⟨?_, fun _ => h.unbound, ?_, ?_, ?_⟩
  · intro txRef
    simp [h.stored, h.unbound]
  · rintro k ⟨task, hk, -⟩
    rw [hnone] at hk
    cases hk
  · rintro k k' ⟨task, hk, -⟩
    rw [hnone] at hk
    cases hk
  · intro k task hk
    rw [hnone] at hk
    cases hk

/-- A step of a request that claims nothing new and stores nothing. -/
theorem of_task (h : CheckoutBound w s) (hk : s.tasks.findUnique k = some task)
    (htasks : s'.tasks = s.tasks.update k fun _ => task')
    (hstored : forall txRef, (w, txRef) ∈ s'.stored ↔ (w, txRef) ∈ s.stored)
    (href : chapaTxRefOf s'.db w = chapaTxRefOf s.db w)
    (hclaims : task'.claimed = some w -> task.claimed = some w)
    (hwaits : isPaymentIn s'.db w .pending = true ->
      isPaymentIn s.db w .pending = true ∨ task.claimed = some w ∧ task'.claimed ≠ some w)
    (hsettles : task'.Settles) :
    CheckoutBound w s' := by
  have hof : forall j, s'.Claims w j -> s.Claims w j ∧ (j = k -> task'.claimed = some w) := by
    rintro j ⟨other, hj, hother⟩
    rw [htasks] at hj
    rcases Table.of_findUnique_update_some hk hj with ⟨rfl, rfl⟩ | ⟨hjk, hj⟩
    · exact ⟨⟨task, hk, hclaims hother⟩, fun _ => hother⟩
    · exact ⟨⟨other, hj, hother⟩, fun he => absurd he hjk⟩
  refine ⟨?_, ?_, ?_, ?_, ?_⟩
  · intro txRef
    rw [href]
    exact (hstored txRef).trans (h.stored txRef)
  · intro hpending
    rw [href]
    rcases hwaits hpending with hbefore | ⟨hclaimed, -⟩
    · exact h.waits hbefore
    · exact (h.claimed k ⟨task, hk, hclaimed⟩).1
  · intro j hj
    rw [href]
    obtain ⟨hbefore, hself⟩ := hof j hj
    refine ⟨(h.claimed j hbefore).1, ?_⟩
    cases hpending : isPaymentIn s'.db w .pending with
    | false =>
        rfl
    | true =>
        rcases hwaits hpending with hwaited | ⟨hclaimed, hdropped⟩
        · rw [(h.claimed j hbefore).2] at hwaited
          cases hwaited
        · exact absurd (hself (h.single j k hbefore ⟨task, hk, hclaimed⟩)) hdropped
  · intro j j' hj hj'
    exact h.single j j' (hof j hj).1 (hof j' hj').1
  · intro j other hj
    rw [htasks] at hj
    rcases Table.of_findUnique_update_some hk hj with ⟨rfl, rfl⟩ | ⟨-, hj⟩
    · exact hsettles
    · exact h.settles j other hj

theorem of_start (h : CheckoutBound w s) (hclaims : task.claimed = none) (hsettles : task.Settles) :
    CheckoutBound w (s.start task) := by
  have hold : forall j other, (s.start task).tasks.findUnique j = some other ->
      s.tasks.findUnique j = some other ∨ other = task := by
    intro j other hj
    rw [CheckoutSession.start, Table.findUnique_create] at hj
    by_cases hsize : j = s.tasks.size
    · rw [if_pos hsize] at hj
      exact Or.inr (Option.some.inj hj).symm
    · rw [if_neg hsize] at hj
      exact Or.inl hj
  have hof : forall j, (s.start task).Claims w j -> s.Claims w j := by
    rintro j ⟨other, hj, hother⟩
    rcases hold j other hj with hbefore | rfl
    · exact ⟨other, hbefore, hother⟩
    · rw [hclaims] at hother
      cases hother
  refine ⟨h.stored, h.waits, fun j hj => h.claimed j (hof j hj),
    fun j j' hj hj' => h.single j j' (hof j hj) (hof j' hj'), ?_⟩
  intro j other hj
  rcases hold j other hj with hbefore | rfl
  · exact h.settles j other hbefore
  · exact hsettles

theorem of_kept (h : CheckoutBound w s) (htasks : s'.tasks = s.tasks)
    (hstored : s'.stored = s.stored) (hkept : CheckoutsKept s.db s'.db) :
    CheckoutBound w s' := by
  have hof : forall j, s'.Claims w j -> s.Claims w j := by
    intro j hj
    unfold CheckoutSession.Claims at hj ⊢
    rwa [htasks] at hj
  refine ⟨?_, ?_, ?_, fun j j' hj hj' => h.single j j' (hof j hj) (hof j' hj'), ?_⟩
  · intro txRef
    rw [hstored, hkept.chapaTxRefOf]
    exact h.stored txRef
  · intro hpending
    rw [hkept.chapaTxRefOf]
    exact h.waits (hkept.waits hpending)
  · intro j hj
    obtain ⟨hunbound, hpending⟩ := h.claimed j (hof j hj)
    rw [hkept.chapaTxRefOf]
    refine ⟨hunbound, ?_⟩
    by_contra hwaits
    rw [hkept.waits (Bool.eq_true_of_not_eq_false hwaits)] at hpending
    cases hpending
  · intro j other hj
    rw [htasks] at hj
    exact h.settles j other hj

/-- The initialization that claims the payment is the only one that holds it. -/
theorem of_claim (txRef : String) (h : CheckoutBound w s) (hk : s.tasks.findUnique k = some task)
    (htasks : s'.tasks = s.tasks.update k fun _ => .contact w txRef)
    (hstored : s'.stored = s.stored)
    (href : chapaTxRefOf s'.db w = chapaTxRefOf s.db w)
    (hpending : isPaymentIn s.db w .pending = true)
    (hclaimed : isPaymentIn s'.db w .pending = false) :
    CheckoutBound w s' := by
  have hnone : forall j, ¬ s.Claims w j := by
    intro j hj
    rw [(h.claimed j hj).2] at hpending
    cases hpending
  have hself : forall j, s'.Claims w j -> j = k := by
    rintro j ⟨other, hj, hother⟩
    by_contra hjk
    rw [htasks, Table.findUnique_update_ne hjk] at hj
    exact hnone j ⟨other, hj, hother⟩
  refine ⟨?_, ?_, ?_, ?_, ?_⟩
  · intro txRef
    rw [hstored, href]
    exact h.stored txRef
  · intro hwaits
    rw [hclaimed] at hwaits
    cases hwaits
  · intro j _
    rw [href]
    exact ⟨h.waits hpending, hclaimed⟩
  · intro j j' hj hj'
    rw [hself j hj, hself j' hj']
  · intro j other hj
    rw [htasks] at hj
    rcases Table.of_findUnique_update_some hk hj with ⟨rfl, rfl⟩ | ⟨-, hj⟩
    · trivial
    · exact h.settles j other hj

theorem of_store (h : CheckoutBound w s) (hk : s.tasks.findUnique k = some (.store w txRef))
    (htasks : s'.tasks = s.tasks.update k fun _ => .done)
    (hstored : s'.stored = (w, txRef) :: s.stored)
    (href : chapaTxRefOf s'.db w = some txRef)
    (hpending : isPaymentIn s'.db w .pending = isPaymentIn s.db w .pending) :
    CheckoutBound w s' := by
  obtain ⟨hunbound, hclaimed⟩ := h.claimed k ⟨_, hk, rfl⟩
  have hnone : forall j, ¬ s'.Claims w j := by
    rintro j ⟨other, hj, hother⟩
    rw [htasks] at hj
    rcases Table.of_findUnique_update_some hk hj with ⟨rfl, rfl⟩ | ⟨hjk, hj⟩
    · cases hother
    · exact hjk (h.single j k ⟨other, hj, hother⟩ ⟨_, hk, rfl⟩)
  refine ⟨?_, ?_, fun j hj => absurd hj (hnone j), fun j _ hj => absurd hj (hnone j), ?_⟩
  · intro other
    have hbefore : (w, other) ∉ s.stored := by
      rw [h.stored, hunbound]
      nofun
    rw [hstored, href, List.mem_cons, Prod.mk.injEq, or_iff_left hbefore, Option.some.injEq]
    exact ⟨fun he => he.2.symm, fun he => ⟨rfl, he.symm⟩⟩
  · intro hwaits
    rw [hpending, hclaimed] at hwaits
    cases hwaits
  · intro j other hj
    rw [htasks] at hj
    rcases Table.of_findUnique_update_some hk hj with ⟨rfl, rfl⟩ | ⟨-, hj⟩
    · trivial
    · exact h.settles j other hj

end CheckoutBound

/-! ## Steps -/

theorem movePaymentStatus_chapaTxRefOf (i : Id) (source target : PaymentStatus) (db : Db) :
    chapaTxRefOf (movePaymentStatus i source target db) w = chapaTxRefOf db w := by
  unfold chapaTxRefOf movePaymentStatus
  rw [Table.findUnique_updateMany]
  cases db.payments.findUnique w with
  | none =>
      rfl
  | some p =>
      simp only [Option.map_some, Option.bind_some]
      split <;> rfl

theorem movePaymentStatus_status_ne {i : Id} (source target : PaymentStatus) (hi : i ≠ w)
    (status : PaymentStatus) :
    isPaymentIn (movePaymentStatus i source target db) w status = isPaymentIn db w status := by
  unfold isPaymentIn movePaymentStatus
  rw [Table.findUnique_updateMany]
  have hother : (w == i) = false := beq_false_of_ne (Ne.symm hi)
  simp [hother]

theorem claim_waits (i : Id) (db : Db) :
    isPaymentIn (movePaymentStatus i .pending .processing db) i .pending = false := by
  unfold isPaymentIn movePaymentStatus
  rw [Table.findUnique_updateMany]
  cases db.payments.findUnique i with
  | none =>
      rfl
  | some p =>
      by_cases hp : p.status = .pending
      · simp [hp, Payment.withStatus]
      · simp [hp]

theorem storeCheckout_chapaTxRefOf (h : updatePayment w (·.storeCheckout txRef) db = .ok db') :
    chapaTxRefOf db' w = some txRef := by
  obtain ⟨p, hp, -, rfl⟩ := updatePayment_eq_ok_iff.1 h
  unfold chapaTxRefOf
  rw [Table.findUnique_update_self, hp]
  rfl

theorem storeCheckout_chapaTxRefOf_ne {i : Id} (hi : i ≠ w)
    (h : updatePayment i (·.storeCheckout txRef) db = .ok db') :
    chapaTxRefOf db' w = chapaTxRefOf db w := by
  obtain ⟨p, hp, -, rfl⟩ := updatePayment_eq_ok_iff.1 h
  unfold chapaTxRefOf
  rw [Table.findUnique_update_ne (Ne.symm hi)]

theorem storeCheckout_status {i : Id} (status : PaymentStatus)
    (h : updatePayment i (·.storeCheckout txRef) db = .ok db') :
    isPaymentIn db' w status = isPaymentIn db w status := by
  obtain ⟨p, hp, -, rfl⟩ := updatePayment_eq_ok_iff.1 h
  unfold isPaymentIn
  rw [Table.findUnique_update]
  split
  · cases db.payments.findUnique w <;> rfl
  · rfl

namespace CheckoutSession

theorem advance_of_task (env : Env) (hk : s.tasks.findUnique k = some task) :
    s.advance env k =
      { s with
        db := (task.next env s.db).1
        tasks := s.tasks.update k fun _ => (task.next env s.db).2
        stored := s.logStored task
        confirmed := s.logConfirmed task (task.next env s.db).1 } := by
  unfold advance
  rw [hk]

end CheckoutSession

theorem CheckoutBound.advance (env : Env) (k : Id) (h : CheckoutBound w s) :
    CheckoutBound w (s.advance env k) := by
  cases hk : s.tasks.findUnique k with
  | none =>
      unfold CheckoutSession.advance
      rw [hk]
      exact h
  | some task =>
      rw [CheckoutSession.advance_of_task env hk]
      cases task with
      | gates i loaded =>
          have hnext : exists task, CheckoutTask.next env s.db (.gates i loaded) = (s.db, task) ∧
              task.claimed = none ∧ task.Settles := by
            rw [CheckoutTask.next]
            cases checkoutGates s.db loaded with
            | error e =>
                exact ⟨.done, rfl, rfl, trivial⟩
            | ok _ =>
                exact ⟨.claim i (checkoutReference i env.now), rfl, rfl, trivial⟩
          obtain ⟨task, hnext, hclaimed, hsettles⟩ := hnext
          rw [hnext]
          exact h.of_task hk rfl (fun _ => Iff.rfl) rfl (by rw [hclaimed]; nofun) Or.inl hsettles
      | claim i txRef =>
          have href := movePaymentStatus_chapaTxRefOf (w := w) i .pending .processing s.db
          by_cases hpending : isPaymentIn s.db i .pending = true
          · by_cases hi : i = w
            · subst hi
              refine h.of_claim txRef hk ?_ rfl href hpending (claim_waits i s.db)
              simp only [CheckoutTask.next, if_pos hpending]
            · refine h.of_task hk rfl (fun _ => Iff.rfl) href ?_ ?_ ?_
              · simp only [CheckoutTask.next, if_pos hpending, CheckoutTask.claimed,
                  Option.some.injEq]
                exact fun he => absurd he hi
              · intro hwaits
                exact Or.inl (movePaymentStatus_status_ne .pending .processing hi .pending ▸ hwaits)
              · simp only [CheckoutTask.next, if_pos hpending, CheckoutTask.Settles]
          · refine h.of_task hk rfl (fun _ => Iff.rfl) href ?_ ?_ ?_
            · simp only [CheckoutTask.next, if_neg hpending, CheckoutTask.claimed]
              nofun
            · intro hwaits
              by_cases hi : i = w
              · subst hi
                rw [CheckoutTask.next, claim_waits] at hwaits
                cases hwaits
              · exact Or.inl (movePaymentStatus_status_ne .pending .processing hi .pending ▸ hwaits)
            · simp only [CheckoutTask.next, if_neg hpending, CheckoutTask.Settles]
      | contact i txRef =>
          exact h.of_task hk rfl (fun _ => Iff.rfl) rfl (fun he => he) Or.inl trivial
      | giveUp i =>
          refine h.of_task hk rfl (fun _ => Iff.rfl)
            (movePaymentStatus_chapaTxRefOf i .processing .pending s.db) nofun ?_ trivial
          intro hwaits
          by_cases hi : i = w
          · exact Or.inr ⟨congrArg some hi, nofun⟩
          · exact Or.inl (movePaymentStatus_status_ne .processing .pending hi .pending ▸ hwaits)
      | store i txRef =>
          cases hwrite : updatePayment i (·.storeCheckout txRef) s.db with
          | error e =>
              have hstored : s.logStored (.store i txRef) = s.stored := by
                simp [CheckoutSession.logStored, hwrite, Except.isOk, Except.toBool]
              have hdb : (CheckoutTask.next env s.db (.store i txRef)).1 = s.db := by
                simp [CheckoutTask.next, hwrite]
              refine h.of_task hk rfl ?_ (by rw [hdb]) nofun ?_ trivial
              · intro t
                rw [hstored]
              · intro hwaits
                rw [hdb] at hwaits
                exact Or.inl hwaits
          | ok db =>
              have hstored : s.logStored (.store i txRef) = (i, txRef) :: s.stored := by
                simp [CheckoutSession.logStored, hwrite, Except.isOk, Except.toBool]
              have hdb : (CheckoutTask.next env s.db (.store i txRef)).1 = db := by
                simp [CheckoutTask.next, hwrite]
              by_cases hi : i = w
              · subst hi
                refine h.of_store hk rfl hstored ?_ ?_
                · rw [hdb]
                  exact storeCheckout_chapaTxRefOf hwrite
                · rw [hdb]
                  exact storeCheckout_status .pending hwrite
              · refine h.of_task hk rfl ?_ ?_ nofun ?_ trivial
                · intro t
                  rw [hstored, List.mem_cons, Prod.mk.injEq]
                  exact or_iff_right fun he => hi he.1.symm
                · rw [hdb]
                  exact storeCheckout_chapaTxRefOf_ne hi hwrite
                · intro hwaits
                  rw [hdb, storeCheckout_status .pending hwrite] at hwaits
                  exact Or.inl hwaits
      | ask report =>
          exact h.of_task hk rfl (fun _ => Iff.rfl) rfl nofun Or.inl trivial
      | load txRef args =>
          have hargs : args.status ≠ .pending := h.settles k _ hk
          have hnext : exists task, CheckoutTask.next env s.db (.load txRef args) = (s.db, task) ∧
              task.claimed = none ∧ task.Settles := by
            rw [CheckoutTask.next]
            cases s.db.payments.findUnique args.paymentId with
            | none =>
                exact ⟨.done, rfl, rfl, trivial⟩
            | some p =>
                exact ⟨.finish txRef args (paymentRecord s.db args.paymentId p), rfl, rfl, hargs⟩
          obtain ⟨task, hnext, hclaimed, hsettles⟩ := hnext
          rw [hnext]
          exact h.of_task hk rfl (fun _ => Iff.rfl) rfl (by rw [hclaimed]; nofun) Or.inl hsettles
      | finish txRef args record =>
          have hargs : args.status ≠ .pending := h.settles k _ hk
          have hkept : CheckoutsKept s.db (commit (finishSettlement env args record s.db) s.db) :=
            commit_preserves (P := CheckoutsKept s.db) (.of_eq rfl) fun db' hok =>
              finishSettlement_checkoutsKept hargs hok
          exact h.of_task hk rfl (fun _ => Iff.rfl) (hkept.chapaTxRefOf w) nofun
            (fun hwaits => Or.inl (hkept.waits hwaits)) trivial
      | done =>
          exact h.of_task hk rfl (fun _ => Iff.rfl) rfl nofun Or.inl trivial

theorem CheckoutBound.report (h : CheckoutBound w s) (source : ReportSource) (txRef : String)
    (i : Id) (p : Payment) :
    CheckoutBound w (s.report source txRef i p) := by
  unfold CheckoutSession.report
  split
  · exact h
  · exact h.of_start rfl trivial

theorem CheckoutReport.settlement_settles {report : CheckoutReport} {data : ProviderData}
    {status : HostedStatus} {args : SettleArgs}
    (h : report.settlement env data status = some args) :
    args.status ≠ .pending := by
  unfold CheckoutReport.settlement at h
  split at h
  · obtain rfl := Option.some.inj h
    unfold CheckoutReport.confirmed
    split <;> nofun
  · unfold CheckoutReport.failed at h
    split at h
    · obtain rfl := Option.some.inj h
      nofun
    · obtain rfl := Option.some.inj h
      nofun
    · cases h
  · cases h

theorem CheckoutBound.answer (env : Env) (k : Id) (data : ProviderData) (h : CheckoutBound w s) :
    CheckoutBound w (s.answer env k data) := by
  unfold CheckoutSession.answer
  split
  · rename_i report hk
    split
    · exact h.of_task hk rfl (fun _ => Iff.rfl) rfl nofun Or.inl trivial
    · split
      · exact h.of_task hk rfl (fun _ => Iff.rfl) rfl nofun Or.inl trivial
      · rename_i hsettlement
        exact h.of_task hk rfl (fun _ => Iff.rfl) rfl nofun Or.inl
          (CheckoutReport.settlement_settles hsettlement)
  · exact h

theorem CheckoutBound.verify (env : Env) (userId : Id) (isAdmin : Bool) (i : Id)
    (h : CheckoutBound w s) :
    CheckoutBound w (s.verify env userId isAdmin i) := by
  unfold CheckoutSession.verify
  split
  · exact h
  · split
    · exact h
    · split
      · exact h.of_kept rfl rfl (finalizeInstallmentPlan_checkoutsKept env i s.db)
      · exact h.report .verify _ i _

theorem CheckoutBound.step (h : CheckoutBound w s) (a : Env × CheckoutStep) :
    CheckoutBound w (s.step a) := by
  obtain ⟨env, request⟩ := a
  cases request with
  | initializePayment userId isAdmin i =>
      dsimp only [CheckoutSession.step]
      split
      · exact h
      · split
        · exact h
        · exact h.of_start rfl trivial
  | callback txRef =>
      dsimp only [CheckoutSession.step]
      split
      · exact h
      · exact h.report .callback txRef _ _
  | verify userId isAdmin i =>
      exact h.verify env userId isAdmin i
  | webhook txRef eventId trxRef reference =>
      dsimp only [CheckoutSession.step]
      split
      · exact h
      · exact h.report _ txRef _ _
  | providerOpens k =>
      dsimp only [CheckoutSession.step]
      split
      · rename_i hk
        split
        · exact h.of_task hk rfl (fun _ => Iff.rfl) rfl (fun he => he) Or.inl trivial
        · exact h
      · exact h
  | providerLoses k =>
      dsimp only [CheckoutSession.step]
      split
      · rename_i hk
        split
        · exact h.of_task hk rfl (fun _ => Iff.rfl) rfl (fun he => he) Or.inl trivial
        · exact h
      · exact h
  | providerRefuses k =>
      dsimp only [CheckoutSession.step]
      split
      · rename_i hk
        exact h.of_task hk rfl (fun _ => Iff.rfl) rfl (fun he => he) Or.inl trivial
      · exact h
  | checkoutEnds txRef paid =>
      exact h.of_kept rfl rfl (.of_eq rfl)
  | answer k data =>
      exact h.answer env k data
  | advance k =>
      exact h.advance env k
  | elsewhere other =>
      exact h.of_kept rfl rfl (.of_eq rfl)

/-! ## Logs -/

namespace CheckoutSession

variable {a : Env × CheckoutStep}

theorem step_logs (s : CheckoutSession) (ha : forall k, a.2 ≠ .advance k) :
    (s.step a).stored = s.stored ∧ (s.step a).confirmed = s.confirmed := by
  have hreport : forall source txRef i p, (s.report source txRef i p).stored = s.stored ∧
      (s.report source txRef i p).confirmed = s.confirmed := by
    intro source txRef i p
    unfold report
    split <;> exact ⟨rfl, rfl⟩
  obtain ⟨env, request⟩ := a
  cases request with
  | advance k =>
      exact absurd rfl (ha k)
  | verify userId isAdmin i =>
      dsimp only [step, verify]
      repeat' split
      all_goals
        first
          | exact hreport _ _ _ _
          | exact ⟨rfl, rfl⟩
  | answer k data =>
      dsimp only [step, answer]
      repeat' split
      all_goals exact ⟨rfl, rfl⟩
  | checkoutEnds txRef paid =>
      exact ⟨rfl, rfl⟩
  | elsewhere other =>
      exact ⟨rfl, rfl⟩
  | _ =>
      dsimp only [step]
      repeat' split
      all_goals
        first
          | exact hreport _ _ _ _
          | exact ⟨rfl, rfl⟩

theorem stored_subset_step (s : CheckoutSession) (a : Env × CheckoutStep) :
    s.stored ⊆ (s.step a).stored := by
  by_cases ha : forall k, a.2 ≠ .advance k
  · rw [(s.step_logs ha).1]
    exact List.Subset.refl _
  · obtain ⟨env, request⟩ := a
    obtain ⟨k, rfl⟩ := not_forall_not.1 ha
    cases hk : s.tasks.findUnique k with
    | none =>
        simp [step, advance, hk]
    | some task =>
        rw [show s.step (env, .advance k) = s.advance env k from rfl, advance_of_task env hk]
        unfold logStored
        repeat' split
        all_goals simp

theorem mem_confirmed_step_iff (s : CheckoutSession) (a : Env × CheckoutStep) (txRef : String) :
    (w, txRef) ∈ (s.step a).confirmed ↔
      (w, txRef) ∈ s.confirmed ∨
        s.settledReport w a = some (txRef, .paid) ∧ s.turns w .paid a = true := by
  by_cases ha : forall k, a.2 ≠ .advance k
  · rw [(s.step_logs ha).2]
    have hnone : s.settledReport w a = none := by
      unfold settledReport
      split
      · rename_i k hk
        exact absurd hk (ha k)
      · rfl
    simp [hnone]
  · obtain ⟨env, request⟩ := a
    obtain ⟨k, rfl⟩ := not_forall_not.1 ha
    cases hk : s.tasks.findUnique k with
    | none =>
        simp [step, advance, settledReport, hk]
    | some task =>
        have hstep : s.step (env, .advance k) = s.advance env k := rfl
        rw [advance_of_task env hk] at hstep
        unfold turns settledReport
        rw [hstep]
        cases task with
        | finish other args record =>
            simp only [hk, logConfirmed]
            by_cases hw : args.paymentId = w
            · subst hw
              simp only [if_true, Option.some.injEq, Prod.mk.injEq, Bool.and_eq_true,
                Bool.not_eq_true']
              split
              · rename_i hpays
                simp only [hpays, List.mem_cons, Prod.mk.injEq, true_and, and_true]
                rw [or_comm, @eq_comm _ other]
              · rename_i hpays
                rw [or_iff_left]
                exact fun h => hpays ⟨h.1.2, h.2⟩
            · have hother : forall txRef, (w, txRef) ≠ (args.paymentId, other) :=
                fun _ he => hw (congrArg Prod.fst he).symm
              split <;> simp [hother]
        | _ =>
            simp [hk, logConfirmed]

/-- The payment is bound, and whatever has been confirmed was stored. -/
structure Inv (w : Id) (s : CheckoutSession) : Prop extends CheckoutBound w s where
  confirmed : forall txRef, (w, txRef) ∈ s.confirmed -> (w, txRef) ∈ s.stored

theorem Inv.of_fresh (h : s.IsFresh w) : Inv w s := by
  refine ⟨.of_fresh h, ?_⟩
  intro txRef hmem
  rw [h.confirmed] at hmem
  cases hmem

theorem Inv.step (h : Inv w s) (ha : s.ReportsStored w a) :
    Inv w (s.step a) := by
  refine ⟨h.toCheckoutBound.step a, ?_⟩
  intro txRef hmem
  apply s.stored_subset_step a
  rcases (s.mem_confirmed_step_iff a txRef).1 hmem with hbefore | ⟨hreport, hturns⟩
  · exact h.confirmed txRef hbefore
  · exact ha txRef .paid hreport (Or.inl ⟨rfl, hturns⟩)

theorem settledReport_stored {report : String × PaymentStatus}
    (h : s.settledReport w a = some report) :
    (s.step a).stored = s.stored := by
  unfold settledReport at h
  split at h
  · rename_i k ha
    split at h
    · rename_i txRef args record hk
      obtain ⟨env, request⟩ := a
      dsimp only at ha
      subst ha
      have hstep : s.step (env, .advance k) = s.advance env k := rfl
      rw [hstep, advance_of_task env hk]
      rfl
    · cases h
  · cases h

theorem boundStep_iff (h : Inv w s) (a : Env × CheckoutStep) :
    s.BoundStep w a ↔ s.ReportsStored w a := by
  constructor
  · rintro ⟨hbound, hfails⟩ txRef status hreport hturns
    rcases hturns with ⟨rfl, hpaid⟩ | ⟨rfl, hfailed, hlive⟩
    · have hafter := hbound txRef
        ((s.mem_confirmed_step_iff a txRef).2 (Or.inr ⟨hreport, hpaid⟩))
      rw [← settledReport_stored hreport]
      exact ((h.toCheckoutBound.step a).stored txRef).2 hafter
    · obtain ⟨current, hcurrent, hislive⟩ := (Option.any_eq_true _ _).1 hlive
      rw [failsForAnother, hreport, Option.any_some, hcurrent, Option.any_some, hfailed, hislive]
        at hfails
      have hsame : current = txRef := by simpa using hfails
      rw [h.stored, hcurrent, hsame]
  · intro ha
    constructor
    · intro txRef hmem
      exact ((h.step ha).stored txRef).1 ((h.step ha).confirmed txRef hmem)
    · cases hreport : s.settledReport w a with
      | none =>
          rw [failsForAnother, hreport]
          rfl
      | some report =>
          obtain ⟨txRef, status⟩ := report
          by_contra hfails
          have hfails := Bool.eq_true_of_not_eq_false hfails
          rw [failsForAnother, hreport] at hfails
          simp only [Option.any_some, Bool.and_eq_true, decide_eq_true_eq] at hfails
          obtain ⟨⟨rfl, hturns⟩, hother⟩ := hfails
          obtain ⟨current, hcurrent, hne⟩ := (Option.any_eq_true _ _).1 hother
          rw [Bool.and_eq_true, decide_eq_true_eq] at hne
          have hlive : (chapaTxRefOf s.db w).any s.isLive = true := by
            rw [hcurrent, Option.any_some, hne.2]
          have hstored := (h.stored txRef).1
            (ha txRef .failed hreport (Or.inr ⟨rfl, hturns, hlive⟩))
          rw [hcurrent] at hstored
          exact hne.1 (Option.some.inj hstored)

/--
In a run on a payment that has had no checkout, the payment stays bound to what was
confirmed and is not failed for another checkout exactly when every report that moves
it is about a checkout whose reference was stored.
-/
theorem boundRun_iff {w : Id} {s : CheckoutSession} {as : List (Env × CheckoutStep)}
    (hfresh : s.IsFresh w) :
    RunMeets step (BoundStep w) s as ↔ RunMeets step (ReportsStored w) s as :=
  runMeets_iff_of_invariant (Inv w) (fun _ a h => boundStep_iff h a)
    (fun _ _ h ha => h.step ha) (.of_fresh hfresh)

/-! ## Runs -/

instance (w : Id) (s : CheckoutSession) (a : Env × CheckoutStep) :
    Decidable (s.ReportsStored w a) :=
  decidable_of_iff
    (forall report, s.settledReport w a = some report ->
      (report.2 = .paid ∧ s.turns w .paid a = true ∨
        report.2 = .failed ∧ s.turns w .failed a = true ∧
          (chapaTxRefOf s.db w).any s.isLive = true) ->
      s.stored.contains (w, report.1))
    ⟨fun h txRef status hs hm => List.contains_iff_mem.1 (h (txRef, status) hs hm),
      fun h report hs hm => List.contains_iff_mem.2 (h report.1 report.2 hs hm)⟩

/-- A guide is for sale, and a buyer has a payment for it. -/
def guideSession : CheckoutSession :=
  { db :=
      { digitalProducts := Table.empty.create { sellerId := 1 }
        payments := Table.empty.create
          { type := .digital
            createdById := some 2
            digitalProductId := some 0
            amount := 100
            method := some "TELEBIRR" } } }

def initialization (k now : Nat) : List (Env × CheckoutStep) :=
  [({ now := now }, .initializePayment 2 false 0), ({ now := now }, .advance k),
    ({ now := now }, .advance k)]

def callbackAbout (k : Nat) (txRef : String) : List (Env × CheckoutStep) :=
  [({ now := 5 }, .callback txRef), ({ now := 5 }, .answer k { amount := some (.finite 100) }),
    ({ now := 5 }, .advance k), ({ now := 5 }, .advance k)]

/-- The first initialization loses the answer of the provider, and the second completes. -/
def initializedTwice : List (Env × CheckoutStep) :=
  initialization 0 1 ++ [({ now := 1 }, .providerLoses 0), ({ now := 1 }, .advance 0)] ++
    initialization 1 2 ++ [({ now := 2 }, .providerOpens 1), ({ now := 2 }, .advance 1)]

theorem guideSession_isFresh : guideSession.IsFresh 0 :=
  ⟨rfl, rfl, rfl, rfl⟩

/-- The lost checkout stays open beside the stored one, and the stored one is paid. -/
def storedIsPaid : List (Env × CheckoutStep) :=
  initializedTwice ++ [({ now := 3 }, .checkoutEnds "0_2" true)] ++ callbackAbout 2 "0_2"

theorem storedIsPaid_bound : RunMeets step (BoundStep 0) guideSession storedIsPaid :=
  (boundRun_iff guideSession_isFresh).2 (by decide +kernel)

/-- The buyer pays the lost checkout, or it fails while the stored one is open. -/
def lostEnds (paid : Bool) : List (Env × CheckoutStep) :=
  initializedTwice ++ [({ now := 3 }, .checkoutEnds "0_1" paid)] ++ callbackAbout 2 "0_1"

/--
Paying the lost checkout makes the payment paid with the reference of the other one,
and its failure fails the payment while the other one is open.
-/
theorem lost_checkout_reported :
    guideSession.IsFresh 0 ∧
      ¬ RunMeets step (BoundStep 0) guideSession (lostEnds true) ∧
      ¬ RunMeets step (BoundStep 0) guideSession (lostEnds false) := by
  have hends : forall paid, lostEnds paid = (lostEnds paid).dropLast ++ [({ now := 5 }, .advance 2)] :=
    fun _ => rfl
  refine ⟨guideSession_isFresh, ?_, ?_⟩
  · intro h
    rw [hends, runMeets_append] at h
    have hconfirmed : (0, "0_1") ∈ (run step guideSession (lostEnds true)).confirmed := by
      decide +kernel
    have hbound := h.2.1.1 "0_1" hconfirmed
    exact absurd hbound (by decide +kernel)
  · intro h
    rw [hends, runMeets_append] at h
    exact absurd h.2.1.2 (by decide +kernel)

end CheckoutSession

end MarketBridge
