import MarketBridge.Payment.PaidOnce

/-!
# Runs in which nobody pays twice

At most one payment of a payer for a purpose counts, as long as no write creates or
revives one beside it.  A payment that is paid counts.
-/

namespace MarketBridge

open Relational

namespace PaymentSession

variable {origins : Id -> InspectionOrigin} {s s' : PaymentSession}

def Single (s : PaymentSession) : Prop :=
  forall i j p q, s.db.payments.findUnique i = some p -> s.db.payments.findUnique j = some q ->
    s.counts i p = true -> s.counts j q = true -> p.createdById = q.createdById ->
    p.purpose = q.purpose -> i = j

/-- Every request in flight is disciplined, and the log is about payments that exist. -/
structure Inv (s : PaymentSession) : Prop where
  disciplined : s.server.Writes PaymentWrite.Allowed
  single : s.Single
  logged : forall i, i ∈ s.paid -> exists p, s.db.payments.findUnique i = some p

theorem counts_eq_true_iff {i : Id} {p : Payment} :
    s.counts i p = true ↔
      p.purpose ≠ none ∧ (p.status.isActive = true ∨ i ∈ s.paid) ∧ s.refundRequested i = false := by
  simp [counts, Option.isSome_iff_ne_none, and_assoc]

theorem hasRival_eq_true_iff {payer : Option Id} {purpose : Option PaidPurpose} :
    s.hasRival payer purpose = true ↔
      exists i p, s.db.payments.findUnique i = some p ∧ p.createdById = payer ∧
        p.purpose = purpose ∧ s.counts i p = true := by
  unfold hasRival
  rw [Table.any_eq_true_iff]
  simp only [Bool.and_eq_true, decide_eq_true_eq, and_assoc]

theorem Single.of_counts (h : s.Single)
    (hfrom : forall i p', s'.db.payments.findUnique i = some p' -> s'.counts i p' = true ->
      exists p, s.db.payments.findUnique i = some p ∧ s.counts i p = true ∧
        p'.createdById = p.createdById ∧ p'.purpose = p.purpose) :
    s'.Single := by
  intro i j p' q' hp' hq' hcounts hcounts' hpayer hpurpose
  obtain ⟨p, hp, hpcounts, hppayer, hppurpose⟩ := hfrom i p' hp' hcounts
  obtain ⟨q, hq, hqcounts, hqpayer, hqpurpose⟩ := hfrom j q' hq' hcounts'
  exact h i j p q hp hq hpcounts hqcounts (hppayer.symm.trans (hpayer.trans hqpayer))
    (hppurpose.symm.trans (hpurpose.trans hqpurpose))

/-! ## Moved payments -/

section Moved

variable {revived : Option Id}

theorem counts_of_moved (hpaid : s'.paid = s.paid) (hmoved : PurposesMoved revived s.db s'.db) {i : Id} {p' : Payment}
    (hp' : s'.db.payments.findUnique i = some p') (hcounts : s'.counts i p' = true) :
    exists p, s.db.payments.findUnique i = some p ∧ p'.createdById = p.createdById ∧
      p'.purpose = p.purpose ∧ s.refundRequested i = false ∧
      (s.counts i p = true ∨ revived = some i) := by
  obtain ⟨hpurpose, hactive, hrefund⟩ := counts_eq_true_iff.1 hcounts
  have hrefund : s.refundRequested i = false := by
    unfold refundRequested at hrefund ⊢
    rw [← hmoved.refunds]
    exact hrefund
  rcases hmoved.cases hp' with ⟨p, hp, hrow⟩ | hnone
  · refine ⟨p, hp, hrow.payer, hrow.purpose, hrefund, ?_⟩
    rw [counts_eq_true_iff, ← hrow.purpose, ← hpaid]
    rcases hactive with hactive | hpaidAlready
    · rcases hrow.active hactive with hbefore | hrevived
      · exact Or.inl ⟨hpurpose, Or.inl hbefore, hrefund⟩
      · exact Or.inr hrevived
    · exact Or.inl ⟨hpurpose, Or.inr hpaidAlready, hrefund⟩
  · exact absurd hnone hpurpose

theorem Single.moved (h : s.Single) (hpaid : s'.paid = s.paid)
    (hmoved : PurposesMoved revived s.db s'.db)
    (hrevived : forall i p, revived = some i -> s.db.payments.findUnique i = some p ->
      s.counts i p = true ∨ s.refundRequested i = true ∨
        s.hasRival p.createdById p.purpose = false) :
    s'.Single := by
  -- a revived payment that does not count has no rival
  have hnew : forall i j p q, s.db.payments.findUnique i = some p ->
      s.db.payments.findUnique j = some q -> p.createdById = q.createdById ->
      p.purpose = q.purpose -> revived = some i -> s.counts i p = false ->
      s.refundRequested i = false -> s.counts j q = false := by
    intro i j p q hp hq hpayer hpurpose hrevive hcounts hrefund
    rcases hrevived i p hrevive hp with hbefore | hrequested | hrival
    · rw [hcounts] at hbefore
      cases hbefore
    · rw [hrefund] at hrequested
      cases hrequested
    · by_contra hother
      have hother := hasRival_eq_true_iff.2
        ⟨j, q, hq, hpayer.symm, hpurpose.symm, Bool.eq_true_of_not_eq_false hother⟩
      rw [hrival] at hother
      cases hother
  intro i j p' q' hp' hq' hcounts hcounts' hpayer' hpurpose'
  obtain ⟨p, hp, hppayer, hppurpose, hprefund, hpcounts⟩ :=
    counts_of_moved hpaid hmoved hp' hcounts
  obtain ⟨q, hq, hqpayer, hqpurpose, hqrefund, hqcounts⟩ :=
    counts_of_moved hpaid hmoved hq' hcounts'
  have hpayer : p.createdById = q.createdById := hppayer.symm.trans (hpayer'.trans hqpayer)
  have hpurpose : p.purpose = q.purpose := hppurpose.symm.trans (hpurpose'.trans hqpurpose)
  cases hpbefore : s.counts i p with
  | true =>
      cases hqbefore : s.counts j q with
      | true =>
          exact h i j p q hp hq hpbefore hqbefore hpayer hpurpose
      | false =>
          have hrevive : revived = some j := hqcounts.resolve_left (by rw [hqbefore]; decide)
          rw [hnew j i q p hq hp hpayer.symm hpurpose.symm hrevive hqbefore hqrefund] at hpbefore
          cases hpbefore
  | false =>
      have hrevive : revived = some i := hpcounts.resolve_left (by rw [hpbefore]; decide)
      rcases hqcounts with hqbefore | hrevive'
      · rw [hnew i j p q hp hq hpayer hpurpose hrevive hpbefore hprefund] at hqbefore
        cases hqbefore
      · exact Option.some.inj (hrevive.symm.trans hrevive')

theorem logged_moved (hpaid : s'.paid = s.paid)
    (hlogged : forall i, i ∈ s.paid -> exists p, s.db.payments.findUnique i = some p)
    (hmoved : PurposesMoved revived s.db s'.db) :
    forall i, i ∈ s'.paid -> exists p, s'.db.payments.findUnique i = some p := by
  intro i hi
  obtain ⟨p, hp⟩ := hlogged i (hpaid ▸ hi)
  obtain ⟨p', hp', -⟩ := hmoved.kept i p hp
  exact ⟨p', hp'⟩

end Moved

/-! ## Created payments -/

theorem single_of_inserted (h : s.Single) (hpaid : s'.paid = s.paid)
    (hlogged : forall i, i ∈ s.paid -> exists p, s.db.payments.findUnique i = some p)
    {data : CreatePaymentData} (hinserted : PaymentInserted data s.db s'.db)
    (hrival : s.hasRival data.createdById data.purpose = false) :
    s'.Single ∧ forall i, i ∈ s'.paid -> exists p, s'.db.payments.findUnique i = some p := by
  obtain ⟨moved, row, hmoved, hpayer, hpurpose, hpayments, hrefunds⟩ := hinserted
  have hpaid' : (s.setDb moved).paid = s.paid := rfl
  have hmiddle := h.moved hpaid' hmoved fun _ _ hnone _ => (Option.some_ne_none _ hnone.symm).elim
  have hlogged' := logged_moved hpaid' hlogged hmoved
  have hrefund : forall i, s'.refundRequested i = (s.setDb moved).refundRequested i := by
    intro i
    unfold refundRequested
    rw [hrefunds]
    rfl
  have hsame : forall i p, s'.counts i p = (s.setDb moved).counts i p := by
    intro i p
    unfold counts
    rw [hpaid, hpaid', hrefund]
  have hfree : forall i p, moved.payments.findUnique i = some p ->
      (s.setDb moved).counts i p = true -> p.createdById = row.createdById ->
      p.purpose ≠ row.purpose := by
    intro i p hp hcounts hsamePayer hsamePurpose
    obtain ⟨before, hbefore, hbpayer, hbpurpose, -, hbcounts⟩ :=
      counts_of_moved hpaid' hmoved hp hcounts
    have hcounted := hbcounts.resolve_right nofun
    have hfound := hasRival_eq_true_iff.2 ⟨i, before, hbefore,
      hbpayer.symm.trans (hsamePayer.trans hpayer),
      hbpurpose.symm.trans (hsamePurpose.trans hpurpose), hcounted⟩
    rw [hrival] at hfound
    cases hfound
  refine ⟨?_, ?_⟩
  · intro i j p q hp hq hcounts hcounts' hsamePayer hsamePurpose
    rw [hpayments, Table.findUnique_create] at hp hq
    rw [hsame] at hcounts hcounts'
    split at hp
    · rename_i hi
      split at hq
      · rename_i hj
        rw [hi, hj]
      · obtain rfl := Option.some.inj hp
        exact absurd hsamePurpose.symm (hfree j q hq hcounts' hsamePayer.symm)
    · split at hq
      · obtain rfl := Option.some.inj hq
        exact absurd hsamePurpose (hfree i p hp hcounts hsamePayer)
      · exact hmiddle i j p q hp hq hcounts hcounts' hsamePayer hsamePurpose
  · intro i hi
    obtain ⟨p, hp⟩ := hlogged' i (hpaid ▸ hi)
    rw [hpayments]
    exact ⟨p, Table.findUnique_create_of_some hp⟩

/-! ## Steps -/

theorem mem_paid_observe_iff {i : Id} :
    i ∈ s.observe.paid ↔
      i ∈ s.paid ∨ exists p, s.db.payments.findUnique i = some p ∧ p.status = .paid := by
  unfold observe
  rw [List.mem_append, Table.mem_keys_findMany]
  constructor
  · rintro (hold | ⟨p, hp, hnew⟩)
    · exact Or.inl hold
    · simp only [Bool.and_eq_true, decide_eq_true_eq] at hnew
      exact Or.inr ⟨p, hp, hnew.1⟩
  · rintro (hold | ⟨p, hp, hstatus⟩)
    · exact Or.inl hold
    · by_cases hi : i ∈ s.paid
      · exact Or.inl hi
      · exact Or.inr ⟨p, hp, by simp [hstatus, hi]⟩

theorem Inv.observe (h : Inv s) : Inv s.observe := by
  refine ⟨h.disciplined, h.single.of_counts ?_, ?_⟩
  · intro i p hp hcounts
    refine ⟨p, hp, ?_, rfl, rfl⟩
    obtain ⟨hpurpose, hactive, hrefund⟩ := counts_eq_true_iff.1 hcounts
    refine counts_eq_true_iff.2 ⟨hpurpose, ?_, hrefund⟩
    rcases hactive with hactive | hmem
    · exact Or.inl hactive
    · rcases mem_paid_observe_iff.1 hmem with hold | ⟨q, hq, hpaid⟩
      · exact Or.inr hold
      · obtain rfl := Option.some.inj (hp.symm.trans hq)
        exact Or.inl (by rw [hpaid]; rfl)
  · intro i hi
    rcases mem_paid_observe_iff.1 hi with hold | ⟨p, hp, -⟩
    · exact h.logged i hold
    · exact ⟨p, hp⟩

theorem Inv.submit (h : Inv s) {r : PaymentRequest} (hr : r.Writes PaymentWrite.Allowed) :
    Inv (s.submit r) :=
  ⟨h.disciplined.submit hr, h.single, h.logged⟩

theorem Inv.moved (h : Inv s) (hdisciplined : s'.server.Writes PaymentWrite.Allowed)
    (hpaid : s'.paid = s.paid) {revived : Option Id} (hmoved : PurposesMoved revived s.db s'.db)
    (hrevived : forall i p, revived = some i -> s.db.payments.findUnique i = some p ->
      s.counts i p = true ∨ s.refundRequested i = true ∨
        s.hasRival p.createdById p.purpose = false) :
    Inv s' :=
  ⟨hdisciplined, h.single.moved hpaid hmoved hrevived, logged_moved hpaid h.logged hmoved⟩

theorem mayPublish_settle {args : SettleArgs} (h : s.mayPublish (.settle args) = true) {i : Id}
    {p : Payment} (hrevived : args.revived = some i) (hp : s.db.payments.findUnique i = some p) :
    s.counts i p = true ∨ s.refundRequested i = true ∨
      s.hasRival p.createdById p.purpose = false := by
  unfold SettleArgs.revived at hrevived
  split at hrevived
  · rename_i hactive
    obtain rfl := Option.some.inj hrevived
    simp only [mayPublish, hp, hactive, Option.all_some, Bool.not_true, Bool.false_or,
      Bool.or_eq_true, Bool.not_eq_true', or_assoc] at h
    exact h
  · cases hrevived

theorem Inv.advance (h : Inv s) {k : Nat} (hmay : (s.server.publishes k).all s.mayPublish = true)
    (hserver : s'.server = s.server.advance k) (hpaid : s'.paid = s.paid) :
    Inv s' := by
  obtain ⟨hdisciplined, hstate⟩ := h.disciplined.advance k
  rw [← hserver] at hdisciplined hstate
  rcases hstate with hsame | ⟨label, write, hlabel, hallowed, hwritten⟩
  · have hmoved : PurposesMoved none s.db s'.db := by
      rw [show s'.db = s.db from hsame]
      exact .refl _
    exact h.moved hdisciplined hpaid hmoved fun _ _ hnone _ => (Option.some_ne_none _ hnone.symm).elim
  · rw [hlabel, Option.all_some] at hmay
    have hwritten : s'.db = write s.db := hwritten
    cases label with
    | create data =>
        have hinserted : PaymentInserted data s.db s'.db := by
          rw [hwritten]
          exact hallowed s.db
        have hrival : s.hasRival data.createdById data.purpose = false := by
          simpa [mayPublish] using hmay
        obtain ⟨hsingle, hlogged⟩ :=
          single_of_inserted h.single hpaid h.logged hinserted hrival
        exact ⟨hdisciplined, hsingle, hlogged⟩
    | settle args =>
        have hmoved : PurposesMoved args.revived s.db s'.db := by
          rw [hwritten]
          exact hallowed s.db
        exact h.moved hdisciplined hpaid hmoved fun i p => mayPublish_settle hmay
    | other =>
        have hmoved : PurposesMoved none s.db s'.db := by
          rw [hwritten]
          exact hallowed s.db
        exact h.moved hdisciplined hpaid hmoved fun _ _ hnone _ => (Option.some_ne_none _ hnone.symm).elim

theorem Inv.act (h : Inv s) {a : Env × PaymentStep} (ha : s.Exclusive a) :
    Inv (s.act origins a) := by
  obtain ⟨env, request⟩ := a
  cases request with
  | post caller body => exact h.submit (PaymentBody.request_writes onlyCreates)
  | initializePayment caller paymentId => exact h.submit (initializeRequest_writes env caller _)
  | settle args => exact h.submit (settleRequest_writes env args)
  | finalizePlan paymentId => exact h.submit (finalizeRequest_writes env paymentId)
  | createChildren paymentId => exact h.submit (childrenRequest_writes paymentId)
  | advance k => exact h.advance (k := k) ha rfl rfl
  | answer k opened => exact ⟨h.disciplined.answer k opened, h.single, h.logged⟩
  | requestRefund refund =>
      refine ⟨h.disciplined, h.single.of_counts ?_, h.logged⟩
      intro i p hp hcounts
      refine ⟨p, hp, ?_, rfl, rfl⟩
      obtain ⟨hpurpose, hactive, hrefund⟩ := counts_eq_true_iff.1 hcounts
      refine counts_eq_true_iff.2 ⟨hpurpose, hactive, ?_⟩
      unfold refundRequested at hrefund ⊢
      rw [Table.any_eq_false_iff] at hrefund ⊢
      exact fun j r hr => hrefund j r (Table.findUnique_create_of_some hr)
  | elsewhere other => exact ⟨h.disciplined, h.single, h.logged⟩

theorem Inv.of_fresh (h : s.IsFresh) : Inv s := by
  refine ⟨?_, ?_, ?_⟩
  · intro a ha
    rw [h.active] at ha
    cases ha
  · intro i j p q hp
    rw [h.payments, Table.findUnique_empty] at hp
    cases hp
  · intro i hi
    rw [h.paid] at hi
    cases hi

theorem Inv.paysOnce (h : Inv s) : s.PaysOnce := by
  rintro i j p q ⟨hp, hpaid, hpurpose, hrefund⟩ ⟨hq, hpaid', hpurpose', hrefund'⟩ hpayer hsame
  exact h.single i j p q hp hq
    (counts_eq_true_iff.2 ⟨hpurpose, Or.inr hpaid, hrefund⟩)
    (counts_eq_true_iff.2 ⟨hpurpose', Or.inr hpaid', hrefund'⟩) hpayer hsame

/-! ## Runs -/

/--
As long as no payment is created or revived beside one that counts, nobody pays twice,
in whatever order the statements of the requests come.
-/
theorem paysOnce_of_run {origins : Id -> InspectionOrigin} {s : PaymentSession}
    {as : List (Env × PaymentStep)} (hfresh : s.IsFresh)
    (hrun : RunMeets (step origins) Exclusive s as) :
    RunMeets (step origins) (fun s a => (s.step origins a).PaysOnce) s as :=
  hrun.imp_of_invariant Inv (fun _ _ h ha => (h.act ha).observe)
    (fun _ _ h ha => (h.act ha).observe.paysOnce) (.of_fresh hfresh)

/-! ## Two payments -/

/-- Two payments of somebody for the same purpose are paid, and neither is refunded. -/
def paysTwice (s : PaymentSession) : Bool :=
  s.db.payments.any fun i p => s.db.payments.any fun j q =>
    i ≠ j && p.createdById = q.createdById && p.purpose = q.purpose && p.purpose.isSome &&
      i ∈ s.paid && j ∈ s.paid && !s.refundRequested i && !s.refundRequested j

theorem not_paysOnce_of_paysTwice (h : s.paysTwice = true) : ¬ s.PaysOnce := by
  intro honce
  obtain ⟨i, p, hp, h⟩ := Table.any_eq_true_iff.1 h
  obtain ⟨j, q, hq, h⟩ := Table.any_eq_true_iff.1 h
  simp only [Bool.and_eq_true, decide_eq_true_eq, Bool.not_eq_true', and_assoc] at h
  obtain ⟨hne, hpayer, hpurpose, hsome, hpaid, hpaid', hrefund, hrefund'⟩ := h
  have hsome : p.purpose ≠ none := Option.isSome_iff_ne_none.1 hsome
  exact hne (honce i j p q ⟨hp, hpaid, hsome, hrefund⟩ ⟨hq, hpaid', hpurpose ▸ hsome, hrefund'⟩
    hpayer hpurpose)

instance (s : PaymentSession) (a : Env × PaymentStep) : Decidable (s.Exclusive a) :=
  inferInstanceAs (Decidable ((s.publishes a).all s.mayPublish = true))

/-- A guide is for sale, and a campaign waits for its payment. -/
def shopSession : PaymentSession :=
  { server :=
      { state :=
          { digitalProducts := Table.empty.create
              { sellerId := 1
                price := 100 }
            advertisements := Table.empty.create
              { type := .banner
                startDate := 10
                advertiserId := 2
                priceQuoted := 100 } } } }

theorem shopSession_isFresh : shopSession.IsFresh :=
  ⟨rfl, rfl, rfl⟩

def noInspections : Id -> InspectionOrigin :=
  fun _ =>
    { requestedById := 0
      listingId := 0 }

def campaignBody : PaymentBody :=
  { type := .advertising
    amount := .finite 100
    method := "TELEBIRR"
    advertisementId := some 0 }

def guideBody (orderId : Option Id) : PaymentBody :=
  { type := .digital
    amount := .finite 100
    method := "TELEBIRR"
    digitalProductId := some 0
    orderId := orderId }

def noticeOf (status : PaymentStatus) (paymentId : Id) : SettleArgs :=
  { paymentId := paymentId
    status := status
    provider := some "CHAPA_TELEBIRR"
    providerTransactionId := some ("tx-" ++ toString paymentId)
    eventId := some (status.text ++ toString paymentId)
    amount := some (.finite 100)
    currency := some "ETB" }

def statements (k n : Nat) : List (Env × PaymentStep) :=
  List.replicate n ({ now := 1 }, .advance k)

def posted (body : PaymentBody) : List (Env × PaymentStep) :=
  [({ now := 1 }, .post { userId := 2 } body)]

def settled (status : PaymentStatus) (paymentId k : Nat) : List (Env × PaymentStep) :=
  ({ now := 1 }, .settle (noticeOf status paymentId)) :: statements k 20

def refusedThenPaid : List (Env × PaymentStep) :=
  posted campaignBody ++ statements 0 8 ++ posted campaignBody ++ statements 1 8 ++
    settled .paid 0 2

theorem refusedThenPaid_paysOnce :
    RunMeets (step noInspections) (fun s a => (s.step noInspections a).PaysOnce) shopSession
      refusedThenPaid :=
  paysOnce_of_run shopSession_isFresh (by decide +kernel)

/-- Both requests have looked for a duplicate before one of them creates its row. -/
def createdTogether : List (Env × PaymentStep) :=
  posted campaignBody ++ posted campaignBody ++ statements 0 2 ++ statements 1 2 ++
    statements 0 6 ++ statements 1 6 ++ settled .paid 0 2 ++ settled .paid 1 3

def createdApart : List (Env × PaymentStep) :=
  posted (guideBody none) ++ statements 0 8 ++ posted (guideBody (some 7)) ++ statements 1 8 ++
    settled .paid 0 2 ++ settled .paid 1 3

/-- The failed payment of a campaign is paid after the one that replaces it was created. -/
def paidAfterFailure : List (Env × PaymentStep) :=
  posted campaignBody ++ statements 0 8 ++ settled .failed 0 1 ++ posted campaignBody ++
    statements 2 8 ++ settled .paid 0 3 ++ settled .paid 1 4

theorem not_runMeets_of_paysTwice {as : List (Env × PaymentStep)} {a : Env × PaymentStep}
    (h : ((run (step noInspections) shopSession as).step noInspections a).paysTwice = true) :
    ¬ RunMeets (step noInspections) (fun s a => (s.step noInspections a).PaysOnce) shopSession
      (as ++ [a]) := by
  intro hrun
  rw [runMeets_append] at hrun
  exact not_paysOnce_of_paysTwice h hrun.2.1

/--
Two requests at the same time, two bodies that name the same product, and the late success
of a payment that had failed each make somebody pay twice.
-/
theorem paid_twice :
    shopSession.IsFresh ∧
      ¬ RunMeets (step noInspections) (fun s a => (s.step noInspections a).PaysOnce) shopSession
        (createdTogether ++ [({ now := 2 }, .advance 3)]) ∧
      ¬ RunMeets (step noInspections) (fun s a => (s.step noInspections a).PaysOnce) shopSession
        (createdApart ++ [({ now := 2 }, .advance 3)]) ∧
      ¬ RunMeets (step noInspections) (fun s a => (s.step noInspections a).PaysOnce) shopSession
        (paidAfterFailure ++ [({ now := 2 }, .advance 4)]) := by
  refine ⟨shopSession_isFresh, ?_, ?_, ?_⟩
  · exact not_runMeets_of_paysTwice (by decide +kernel)
  · exact not_runMeets_of_paysTwice (by decide +kernel)
  · exact not_runMeets_of_paysTwice (by decide +kernel)

end PaymentSession

end MarketBridge
