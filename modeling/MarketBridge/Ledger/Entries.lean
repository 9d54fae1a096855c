import Mathlib.Data.Rat.Floor
import MarketBridge.Payment.Creation
import MarketBridge.Payment.SettlementExits
import MarketBridge.Refund.Moves
import MarketBridge.Relational.Keyed

/-!
# The entries of a settlement

A settlement enters rows into the ledger at most once for each payment and entry
type.  What it enters for a received payment is its net amount and its
commission, which together are the amount that was received.
-/

namespace MarketBridge

open Relational

/-! ## Amounts in cents -/

def IsCents (q : ℚ) : Prop :=
  exists n : ℤ, q = n / 100

theorem roundMoney_isCents (q : ℚ) : IsCents (roundMoney q) :=
  ⟨⌊q * 100 + 1 / 2⌋, rfl⟩

theorem roundMoney_of_isCents {q : ℚ} (h : IsCents q) : roundMoney q = q := by
  obtain ⟨n, rfl⟩ := h
  have hfloor : ⌊(n : ℚ) / 100 * 100 + 1 / 2⌋ = n := by
    rw [Int.floor_eq_iff]
    constructor
    · linarith
    · linarith
  unfold roundMoney
  rw [hfloor]

theorem IsCents.sub {a b : ℚ} (ha : IsCents a) (hb : IsCents b) : IsCents (a - b) := by
  obtain ⟨m, rfl⟩ := ha
  obtain ⟨n, rfl⟩ := hb
  refine ⟨m - n, ?_⟩
  push_cast
  ring

theorem roundMoney_mono {a b : ℚ} (h : a ≤ b) : roundMoney a ≤ roundMoney b := by
  unfold roundMoney
  have hfloor : ⌊a * 100 + 1 / 2⌋ ≤ ⌊b * 100 + 1 / 2⌋ := by
    apply Int.floor_le_floor
    linarith
  have hcast : (⌊a * 100 + 1 / 2⌋ : ℚ) ≤ (⌊b * 100 + 1 / 2⌋ : ℚ) := by
    exact_mod_cast hfloor
  linarith

theorem roundMoney_zero : roundMoney 0 = 0 :=
  roundMoney_of_isCents ⟨0, by simp⟩

/-- The amount is in cents, and the commission is a part of it. -/
structure Payment.WellPriced (p : Payment) : Prop where
  cents : IsCents p.amount
  commission_nonneg : 0 ≤ ledgerCommission p
  commission_le : ledgerCommission p ≤ p.amount

theorem netAmount_add_commission {p : Payment} (h : p.WellPriced) :
    netAmount p + ledgerCommission p = p.amount := by
  have hrest : 0 ≤ p.amount - ledgerCommission p := by
    have hle := h.commission_le
    linarith
  have hcents : IsCents (p.amount - ledgerCommission p) :=
    h.cents.sub (roundMoney_isCents _)
  have hnet : netAmount p = p.amount - ledgerCommission p := by
    show roundMoney (max 0 (p.amount - ledgerCommission p)) = p.amount - ledgerCommission p
    rw [max_eq_right hrest, roundMoney_of_isCents hcents]
  rw [hnet]
  ring

theorem CreatePaymentData.row_wellPriced {env : Env} {data : CreatePaymentData} {amount : ℚ}
    {obligationId : Option Id} (hcents : IsCents amount) (hpos : 0 < amount)
    (hrate : 0 ≤ data.rate env ∧ data.rate env ≤ 100) :
    (data.row env amount obligationId).WellPriced := by
  have hstored : toDecimal amount = amount := by
    unfold toDecimal
    rw [if_pos hpos.le, roundMoney_of_isCents hcents]
  have hcommission : ledgerCommission (data.row env amount obligationId) =
      roundMoney (amount * data.rate env / 100) :=
    roundMoney_of_isCents (roundMoney_isCents _)
  have hshare : 0 ≤ amount * data.rate env / 100 := by
    have hproduct := mul_nonneg hpos.le hrate.1
    linarith
  have hpart : amount * data.rate env / 100 ≤ amount := by
    have hproduct := mul_le_mul_of_nonneg_left hrate.2 hpos.le
    linarith
  refine ⟨?_, ?_, ?_⟩
  · show IsCents (toDecimal amount)
    rw [hstored]
    exact hcents
  · rw [hcommission, ← roundMoney_zero]
    exact roundMoney_mono hshare
  · show ledgerCommission _ ≤ toDecimal amount
    rw [hcommission, hstored]
    calc
      roundMoney (amount * data.rate env / 100) ≤ roundMoney amount := roundMoney_mono hpart
      _ = amount := roundMoney_of_isCents hcents

/-! ## Entries by key -/

def entryKey (e : PaymentLedgerEntry) : Id × PaymentLedgerEntryType :=
  (e.paymentId, e.type)

theorem createLedgerEntryOnce_ledger (e : PaymentLedgerEntry) (db : Db) :
    (createLedgerEntryOnce e db).ledgerEntries =
      Table.createOnce entryKey db.ledgerEntries e := by
  have hexists : ledgerEntryExists db e =
      db.ledgerEntries.holdsKey entryKey (entryKey e) := by
    unfold ledgerEntryExists Table.holdsKey
    congr 1
    funext _ q
    simp [entryKey]
  unfold createLedgerEntryOnce Table.createOnce
  rw [hexists]
  split
  · rfl
  · rfl

theorem writeLedgerPaid_ledger (r : PaymentRecord) (db : Db) :
    (writeLedgerPaid r db).ledgerEntries =
      Table.createEachOnce entryKey db.ledgerEntries (paidLedgerEntries r) := by
  unfold writeLedgerPaid
  generalize paidLedgerEntries r = es
  induction es generalizing db with
  | nil =>
      rfl
  | cons e es ih =>
      rw [List.foldl_cons, ih, createLedgerEntryOnce_ledger]
      rfl

def refundEntry (r : PaymentRecord) : PaymentLedgerEntry :=
  { paymentId := r.id
    type := .refund
    amount := -r.row.amount
    currency := r.row.currency }

theorem writeLedgerRefunded_ledger (r : PaymentRecord) (db : Db) :
    (writeLedgerRefunded r db).ledgerEntries =
      Table.createEachOnce entryKey db.ledgerEntries [refundEntry r] :=
  createLedgerEntryOnce_ledger (refundEntry r) db

/-! ## What a received payment enters -/

def earningType : PaymentType -> PaymentLedgerEntryType
  | .marketplace => .sellerEarning
  | .transport => .transporterEarning
  | .inspector => .inspectorEarning
  | .digital => .sellerEarning
  | .advertising => .platformRevenue
  | .marketplaceInstallment => .sellerEarning

def receipt (p : Payment) : List (PaymentLedgerEntryType × ℚ) :=
  match p.type with
  | .advertising => [(.platformRevenue, p.amount)]
  | .marketplaceInstallment => []
  | type =>
      [(earningType type, netAmount p), (.platformCommission, ledgerCommission p)].filter
        fun part => 0 < part.2

theorem receipt_core {p p' : Payment} (h : p'.core = p.core) : receipt p' = receipt p := by
  have hcommission : p'.core.commissionAmount = p.core.commissionAmount :=
    congrArg Payment.commissionAmount h
  change p'.commissionAmount = p.commissionAmount at hcommission
  unfold receipt netAmount ledgerCommission
  rw [Payment.core_type h, Payment.core_amount h, hcommission]

theorem receipt_nodup (p : Payment) : ((receipt p).map Prod.fst).Nodup := by
  have hparts : forall type : PaymentType, forall a b : ℚ, ((([(earningType type, a),
      (PaymentLedgerEntryType.platformCommission, b)].filter fun part => 0 < part.2).map
        Prod.fst)).Nodup := by
    intro type a b
    apply List.Nodup.sublist (List.filter_sublist.map Prod.fst)
    cases type <;> simp [earningType]
  unfold receipt
  split
  · simp
  · simp
  · exact hparts _ _ _

theorem receipt_ne_refund {p : Payment} {part : PaymentLedgerEntryType × ℚ}
    (h : part ∈ receipt p) :
    part.1 ≠ .refund := by
  unfold receipt at h
  split at h
  · rw [List.mem_singleton] at h
    simp [h]
  · cases h
  · have hpart := List.mem_of_mem_filter h
    simp only [List.mem_cons, List.not_mem_nil, or_false] at hpart
    rcases hpart with rfl | rfl
    · cases p.type <;> simp [earningType]
    · simp

theorem receipt_sum {p : Payment} (h : p.WellPriced) (htype : p.type ≠ .marketplaceInstallment) :
    ((receipt p).map Prod.snd).sum = p.amount := by
  have hpositive : forall part : PaymentLedgerEntryType × ℚ, 0 ≤ part.2 ->
      (([part].filter fun part => 0 < part.2).map Prod.snd).sum = part.2 := by
    intro part hnonneg
    by_cases hpos : 0 < part.2
    · simp [hpos]
    · have hzero : part.2 = 0 := le_antisymm (not_lt.mp hpos) hnonneg
      simp [hzero]
  have hnet : 0 ≤ netAmount p := by
    unfold netAmount
    rw [← roundMoney_zero]
    exact roundMoney_mono (by rw [roundMoney_zero]; exact le_max_left _ _)
  have hparts : forall type : PaymentType, ((([(earningType type, netAmount p),
      (PaymentLedgerEntryType.platformCommission, ledgerCommission p)].filter
        fun part => 0 < part.2).map Prod.snd)).sum = p.amount := by
    intro type
    have hsplit : [(earningType type, netAmount p),
        (PaymentLedgerEntryType.platformCommission, ledgerCommission p)] =
        [(earningType type, netAmount p)] ++
          [(PaymentLedgerEntryType.platformCommission, ledgerCommission p)] := rfl
    rw [hsplit, List.filter_append, List.map_append, List.sum_append,
      hpositive _ hnet, hpositive _ h.commission_nonneg]
    exact netAmount_add_commission h
  unfold receipt
  split
  · simp
  · next hinstallment =>
      exact absurd hinstallment htype
  · exact hparts _

theorem earningEntries_parts (r : PaymentRecord) (type : PaymentLedgerEntryType) (payee : Id) :
    (earningEntries r type payee).map (fun e => (e.type, e.amount)) =
      [(type, netAmount r.row), (.platformCommission, ledgerCommission r.row)].filter
        fun part => 0 < part.2 := by
  unfold earningEntries commissionEntry
  by_cases hnet : 0 < netAmount r.row
  · by_cases hcommission : 0 < ledgerCommission r.row
    · simp [hnet, hcommission]
    · simp [hnet, hcommission]
  · by_cases hcommission : 0 < ledgerCommission r.row
    · simp [hnet, hcommission]
    · simp [hnet, hcommission]

theorem paidLedgerEntries_parts {r : PaymentRecord}
    (hproduct : r.row.type = .digital -> r.digitalProduct.isSome = true) :
    paidLedgerEntries r = [] ∨
      (paidLedgerEntries r).map (fun e => (e.type, e.amount)) = receipt r.row := by
  unfold paidLedgerEntries
  cases htype : r.row.type with
  | marketplace =>
      dsimp only
      split
      · right
        rw [earningEntries_parts]
        simp only [receipt, htype]
        rfl
      · exact Or.inl rfl
  | transport =>
      dsimp only
      split
      · split
        · right
          rw [earningEntries_parts]
          simp only [receipt, htype]
          rfl
        · exact Or.inl rfl
      · exact Or.inl rfl
  | inspector =>
      dsimp only
      split
      · right
        rw [earningEntries_parts]
        simp only [receipt, htype]
        rfl
      · exact Or.inl rfl
  | advertising =>
      right
      simp [receipt, htype]
  | digital =>
      dsimp only
      split
      · right
        rw [earningEntries_parts]
        simp only [receipt, htype]
        rfl
      · next hnone =>
          have hsome := hproduct htype
          rw [hnone] at hsome
          cases hsome
  | marketplaceInstallment =>
      exact Or.inl rfl

theorem paidLedgerEntries_owner {r : PaymentRecord} {e : PaymentLedgerEntry}
    (h : e ∈ paidLedgerEntries r) :
    e.paymentId = r.id ∧ r.row.type ≠ .marketplaceInstallment := by
  have hearning : forall type payee, e ∈ earningEntries r type payee -> e.paymentId = r.id := by
    intro type payee he
    have hmem := List.mem_of_mem_filter he
    simp only [List.mem_cons, List.not_mem_nil, or_false] at hmem
    rcases hmem with rfl | rfl
    · rfl
    · rfl
  have hcommission : e ∈ ([commissionEntry r].filter fun e => 0 < e.amount) ->
      e.paymentId = r.id := by
    intro he
    have hmem := List.mem_of_mem_filter he
    rw [List.mem_singleton] at hmem
    rw [hmem]
    rfl
  unfold paidLedgerEntries at h
  cases htype : r.row.type with
  | marketplace =>
      simp only [htype] at h
      split at h
      · exact ⟨hearning _ _ h, by decide⟩
      · cases h
  | transport =>
      simp only [htype] at h
      split at h
      · split at h
        · exact ⟨hearning _ _ h, by decide⟩
        · cases h
      · cases h
  | inspector =>
      simp only [htype] at h
      split at h
      · exact ⟨hearning _ _ h, by decide⟩
      · cases h
  | advertising =>
      simp only [htype, List.mem_singleton] at h
      rw [h]
      exact ⟨rfl, by decide⟩
  | digital =>
      simp only [htype] at h
      split at h
      · exact ⟨hearning _ _ h, by decide⟩
      · exact ⟨hcommission h, by decide⟩
  | marketplaceInstallment =>
      simp only [htype] at h
      cases h

end MarketBridge
