import MarketBridge.Schema.Rows

/-!
# Payment lifecycle

The explicit payment lifecycle of `paymentStateMachine.js`, and the write of a
payment row under the unique indexes of the `Payment` table.
-/

namespace MarketBridge

open Relational

namespace PaymentStatus

def text : PaymentStatus -> String
  | .pending => "PENDING"
  | .processing => "PROCESSING"
  | .paid => "PAID"
  | .failed => "FAILED"
  | .refunded => "REFUNDED"
  | .refundPending => "REFUND_PENDING"
  | .reconciliationRequired => "RECONCILIATION_REQUIRED"

/-- `TRANSITIONS`: the statuses a payment may move to. -/
def transitions : PaymentStatus -> List PaymentStatus
  | .pending => [.processing, .failed, .reconciliationRequired]
  | .processing => [.paid, .failed, .reconciliationRequired]
  | .paid => [.refundPending, .reconciliationRequired]
  | .reconciliationRequired => [.processing, .paid, .failed]
  | .refundPending => [.refunded, .paid, .reconciliationRequired]
  | .failed => []
  | .refunded => []

end PaymentStatus

def canTransition (source target : PaymentStatus) : Bool :=
  source = target || target ∈ source.transitions

def assertTransition (source target : PaymentStatus) : Except ApiError Unit :=
  if canTransition source target then
    .ok ()
  else
    .error
      { message := "Invalid payment state transition: " ++ source.text ++
          " -> " ++ target.text
        status := some 409
        code := some "INVALID_PAYMENT_STATE_TRANSITION" }

@[simp] theorem canTransition_self (s : PaymentStatus) :
    canTransition s s = true := by
  simp [canTransition]

theorem eq_of_canTransition_refunded {t : PaymentStatus}
    (h : canTransition .refunded t = true) :
    t = .refunded := by
  cases t <;> first | rfl | exact absurd h (by decide)

theorem canTransition_refunded_iff (s : PaymentStatus) :
    canTransition s .refunded = true ↔ s = .refunded ∨ s = .refundPending := by
  cases s <;> decide

theorem assertTransition_eq_ok_iff {s t : PaymentStatus} :
    assertTransition s t = .ok () ↔ canTransition s t = true := by
  unfold assertTransition
  split <;> simp_all

/-! ## Writing a payment row -/

namespace Payment

def withStatus (s : PaymentStatus) (p : Payment) : Payment :=
  { p with status := s }

@[simp] theorem withStatus_status (s : PaymentStatus) (p : Payment) :
    (p.withStatus s).status = s :=
  rfl

/-- The rows of the partial index `Payment_transportJob_active_unique`. -/
def holdsTransportJob (p : Payment) (jobId : Id) : Bool :=
  p.type = .transport && p.transportJobId = some jobId &&
    p.status ∈ [PaymentStatus.pending, .processing, .paid, .reconciliationRequired]

def sameProviderTransaction (p q : Payment) : Bool :=
  p.provider.isSome && p.providerTransactionId.isSome &&
    p.provider = q.provider && p.providerTransactionId = q.providerTransactionId

def sameActiveTransportJob (p q : Payment) : Bool :=
  p.transportJobId.any fun jobId =>
    p.holdsTransportJob jobId && q.holdsTransportJob jobId

end Payment

/-- Whether the row `next` for payment `id` breaks a unique index. -/
def paymentConflict (db : Db) (id : Id) (next : Payment) : Bool :=
  db.payments.any fun j q =>
    j ≠ id && (next.sameProviderTransaction q || next.sameActiveTransportJob q)

/-- The unique indexes of the `Payment` table hold. -/
def PaymentsIndexed (payments : Table Payment) : Prop :=
  payments.Unique fun p q => p.sameProviderTransaction q || p.sameActiveTransportJob q

theorem paymentConflict_congr {db db' : Db} (h : db'.payments = db.payments)
    (id : Id) (next : Payment) :
    paymentConflict db' id next = paymentConflict db id next := by
  unfold paymentConflict
  rw [h]

theorem paymentConflict_eq_false_iff {db : Db} {id : Id} {next : Payment} :
    paymentConflict db id next = false ↔
      forall j q, db.payments.findUnique j = some q -> j ≠ id ->
        (next.sameProviderTransaction q || next.sameActiveTransportJob q) = false := by
  unfold paymentConflict
  rw [Table.any_eq_false_iff]
  constructor
  · intro h j q hq hj
    simpa [hj] using h j q hq
  · intro h j q hq
    by_cases hj : j = id
    · simp [hj]
    · simp [h j q hq hj]

theorem paymentConflict_update (db : Db) (id : Id) (f : Payment -> Payment)
    (next : Payment) :
    paymentConflict { db with payments := db.payments.update id f } id next =
      paymentConflict db id next := by
  rw [Bool.eq_iff_iff]
  unfold paymentConflict
  rw [Table.any_eq_true_iff, Table.any_eq_true_iff]
  constructor
  · rintro ⟨j, q, hq, hp⟩
    have hj : j ≠ id := by
      intro hj
      simp [hj] at hp
    exact ⟨j, q, by simpa [Table.findUnique_update_ne hj] using hq, hp⟩
  · rintro ⟨j, q, hq, hp⟩
    have hj : j ≠ id := by
      intro hj
      simp [hj] at hp
    exact ⟨j, q, by simpa [Table.findUnique_update_ne hj] using hq, hp⟩

namespace Payment

theorem sameProviderTransaction_comm (p q : Payment) :
    p.sameProviderTransaction q = q.sameProviderTransaction p := by
  unfold sameProviderTransaction
  rw [Bool.eq_iff_iff]
  simp only [Bool.and_eq_true, decide_eq_true_eq]
  constructor
  · rintro ⟨⟨⟨hp, ht⟩, hprovider⟩, htransaction⟩
    exact ⟨⟨⟨hprovider ▸ hp, htransaction ▸ ht⟩, hprovider.symm⟩, htransaction.symm⟩
  · rintro ⟨⟨⟨hp, ht⟩, hprovider⟩, htransaction⟩
    exact ⟨⟨⟨hprovider ▸ hp, htransaction ▸ ht⟩, hprovider.symm⟩, htransaction.symm⟩

theorem sameActiveTransportJob_eq_true_iff (p q : Payment) :
    p.sameActiveTransportJob q = true ↔
      exists jobId, p.holdsTransportJob jobId = true ∧ q.holdsTransportJob jobId = true := by
  unfold sameActiveTransportJob
  rw [Option.any_eq_true]
  constructor
  · rintro ⟨jobId, -, h⟩
    exact ⟨jobId, by simpa using h⟩
  · rintro ⟨jobId, hp, hq⟩
    have hjob : p.transportJobId = some jobId := by
      simp only [holdsTransportJob, Bool.and_eq_true, decide_eq_true_eq] at hp
      exact hp.1.2
    exact ⟨jobId, hjob, by simp [hp, hq]⟩

theorem sameActiveTransportJob_comm (p q : Payment) :
    p.sameActiveTransportJob q = q.sameActiveTransportJob p := by
  rw [Bool.eq_iff_iff, sameActiveTransportJob_eq_true_iff,
    sameActiveTransportJob_eq_true_iff]
  constructor
  · rintro ⟨jobId, hp, hq⟩
    exact ⟨jobId, hq, hp⟩
  · rintro ⟨jobId, hq, hp⟩
    exact ⟨jobId, hp, hq⟩

end Payment

theorem PaymentsIndexed.update {db : Db} {id : Id} {f : Payment -> Payment}
    (h : PaymentsIndexed db.payments)
    (hf : forall p, db.payments.findUnique id = some p ->
      paymentConflict db id (f p) = false) :
    PaymentsIndexed (db.payments.update id f) := by
  apply Table.Unique.update h
  · intro p q
    rw [Payment.sameProviderTransaction_comm, Payment.sameActiveTransportJob_comm]
  · intro p j q hp hq hj
    exact paymentConflict_eq_false_iff.mp (hf p hp) j q hq hj

theorem PaymentsIndexed.inactive_conflict {db : Db} {id : Id} {p : Payment}
    (h : PaymentsIndexed db.payments) (hp : db.payments.findUnique id = some p)
    {s : PaymentStatus} (hs : s ∈ [PaymentStatus.failed, .refunded, .refundPending]) :
    paymentConflict db id (p.withStatus s) = false := by
  rw [paymentConflict_eq_false_iff]
  intro j q hq hj
  have hsame := h id j p q hp hq fun hji => hj hji.symm
  rw [Bool.or_eq_false_iff] at hsame ⊢
  refine ⟨hsame.1, ?_⟩
  rw [Bool.eq_false_iff]
  intro hactive
  obtain ⟨jobId, hholds, -⟩ :=
    (Payment.sameActiveTransportJob_eq_true_iff _ _).mp hactive
  simp only [Payment.holdsTransportJob, Payment.withStatus, Bool.and_eq_true] at hholds
  cases s <;> simp_all

def uniqueConstraintError : ApiError :=
  { message := "Unique constraint failed"
    code := some "P2002" }

/-- `tx.payment.update` of one existing row. -/
def updatePayment (id : Id) (f : Payment -> Payment) : Tx := fun db =>
  match db.payments.findUnique id with
  | none =>
      .error
        { message := "Record to update not found."
          code := some "P2025" }
  | some p =>
      if paymentConflict db id (f p) then
        .error uniqueConstraintError
      else
        .ok { db with payments := db.payments.update id f }

theorem updatePayment_eq_ok_iff {id : Id} {f : Payment -> Payment} {db db' : Db} :
    updatePayment id f db = .ok db' ↔
      exists p, db.payments.findUnique id = some p ∧
        paymentConflict db id (f p) = false ∧
        db' = { db with payments := db.payments.update id f } := by
  unfold updatePayment
  constructor
  · intro h
    cases hp : db.payments.findUnique id with
    | none =>
        simp [hp] at h
    | some p =>
        cases hconflict : paymentConflict db id (f p) with
        | true =>
            simp [hp, hconflict] at h
        | false =>
            have hwrite := h
            simp only [hp, hconflict, Bool.false_eq_true, if_false,
              Except.ok.injEq] at hwrite
            exact ⟨p, rfl, hconflict, hwrite.symm⟩
  · rintro ⟨p, hp, hconflict, rfl⟩
    simp [hp, hconflict]

end MarketBridge
