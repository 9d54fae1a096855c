import MarketBridge.Payment.InFlight
import Mathlib.Algebra.Order.BigOperators.Group.List

/-!
# Splitting an amount

`splitInto` and `splitAmount`: a goods payment above the limit of the provider is paid in the
fewest installments, as equal as whole cents allow.
-/

namespace MarketBridge

def toCents (value : ℚ) : ℤ :=
  ⌊value * 100 + 1 / 2⌋

def splitInto (total : ℚ) (count : Nat) : List ℚ :=
  (List.range count).map (installmentAmount total count)

def checkCents (message : String) (value : JsNumber) : Except ApiError ℚ :=
  match value with
  | .notFinite => .error (httpError 400 message)
  | .finite amount =>
      if toCents amount ≤ 0 then .error (httpError 400 message) else .ok amount

def splitAmount (total max : JsNumber) : Except ApiError (List ℚ) := do
  let total ← checkCents "Invalid amount to split" total
  let max ← checkCents "Invalid installment limit" max
  let count := Max.max 1 ⌈(toCents total : ℚ) / toCents max⌉.toNat
  .ok (splitInto total count)

/-! ## What a split is -/

/-- Parts of a total that are as equal as whole cents allow, the larger ones first. -/
structure EvenSplit (total : ℚ) (parts : List ℚ) : Prop where
  sum : parts.sum = total
  positive : forall part, part ∈ parts -> 0 < part
  descending : parts.Pairwise (· ≥ ·)
  balanced : forall part other, part ∈ parts -> other ∈ parts -> part ≤ other + 1 / 100

/-- Parts within a limit, of which there are no fewer for the same total. -/
structure FewestWithin (limit total : ℚ) (parts : List ℚ) : Prop where
  within : forall part, part ∈ parts -> part ≤ limit
  fewest : forall others : List ℚ, others.sum = total ->
    (forall part, part ∈ others -> part ≤ limit) -> parts.length ≤ others.length

/-! ## Whole cents -/

theorem toCents_cents (n : Nat) : toCents ((n : ℚ) / 100) = n := by
  have hwhole : (n : ℚ) / 100 * 100 = ((n : ℤ) : ℚ) := by
    rw [div_mul_cancel₀ _ (by norm_num)]
    rfl
  rw [toCents, hwhole, Int.floor_eq_iff]
  constructor <;> linarith

/-- The cents of part `i`. -/
theorem installmentAmount_cents (n count i : Nat) :
    installmentAmount ((n : ℚ) / 100) count i =
      ((n / count + if i < n % count then 1 else 0 : Nat) : ℚ) / 100 := by
  have hcents := toCents_cents n
  unfold toCents at hcents
  have hrest : (n : ℤ) - (n : ℤ) / count * count = ((n % count : Nat) : ℤ) := by
    rw [Int.natCast_mod, mul_comm]
    exact (Int.emod_def _ _).symm
  unfold installmentAmount
  dsimp only
  rw [hcents, hrest]
  by_cases hi : i < n % count
  · rw [if_pos hi, if_pos (by exact_mod_cast hi)]
    push_cast
    rfl
  · rw [if_neg hi, if_neg (by exact_mod_cast hi)]
    push_cast
    rfl

theorem sum_spare (count r : Nat) (h : r ≤ count) :
    ((List.range count).map fun i => if i < r then 1 else 0).sum = r := by
  induction count with
  | zero =>
      obtain rfl := Nat.le_zero.mp h
      rfl
  | succ count ih =>
      rw [List.range_succ, List.map_append, List.sum_append, List.map_singleton,
        List.sum_singleton]
      by_cases hr : r ≤ count
      · rw [ih hr, if_neg (Nat.not_lt.mpr hr), Nat.add_zero]
      · obtain rfl : r = count + 1 := by omega
        have hall : forall i, i ∈ List.range count ->
            (if i < count + 1 then 1 else 0) = 1 := by
          intro i hi
          rw [if_pos (Nat.lt_succ_of_lt (List.mem_range.mp hi))]
        rw [List.map_congr_left hall, if_pos (Nat.lt_succ_self count)]
        simp

variable {n count : Nat}

theorem sum_parts (h : 0 < count) :
    ((List.range count).map fun i => n / count + if i < n % count then 1 else 0).sum = n := by
  rw [List.sum_map_add, sum_spare count (n % count) (Nat.mod_lt n h).le, List.map_const',
    List.sum_replicate, List.length_range, nsmul_eq_mul, Nat.cast_id, Nat.div_add_mod]

theorem splitInto_cents (n count : Nat) :
    splitInto ((n : ℚ) / 100) count =
      ((List.range count).map fun i => n / count + if i < n % count then 1 else 0).map
        fun part : Nat => (part : ℚ) / 100 := by
  rw [splitInto, List.map_map]
  exact List.map_congr_left fun i _ => installmentAmount_cents n count i

theorem sum_cents (parts : List Nat) :
    (parts.map fun part : Nat => (part : ℚ) / 100).sum = (parts.sum : ℚ) / 100 := by
  induction parts with
  | nil => simp
  | cons part parts ih =>
      rw [List.map_cons, List.sum_cons, ih, List.sum_cons, Nat.cast_add, add_div]

theorem splitInto_even (hcount : 0 < count) (hle : count ≤ n) :
    EvenSplit ((n : ℚ) / 100) (splitInto ((n : ℚ) / 100) count) := by
  have hbase : 0 < n / count := Nat.div_pos hle hcount
  rw [splitInto_cents]
  refine ⟨?_, ?_, ?_, ?_⟩
  · rw [sum_cents, sum_parts hcount]
  · intro part hpart
    obtain ⟨k, hk, rfl⟩ := List.mem_map.mp hpart
    obtain ⟨i, -, rfl⟩ := List.mem_map.mp hk
    have hpositive : 0 < n / count + if i < n % count then 1 else 0 := by omega
    exact div_pos (by exact_mod_cast hpositive) (by norm_num)
  · rw [List.map_map, List.pairwise_map]
    refine List.pairwise_lt_range.imp ?_
    intro i j hij
    have hle : (n / count + if j < n % count then 1 else 0) ≤
        n / count + if i < n % count then 1 else 0 := by
      split <;> split <;> omega
    dsimp only [Function.comp_apply]
    gcongr
  · intro part other hpart hother
    obtain ⟨k, hk, rfl⟩ := List.mem_map.mp hpart
    obtain ⟨i, -, rfl⟩ := List.mem_map.mp hk
    obtain ⟨l, hl, rfl⟩ := List.mem_map.mp hother
    obtain ⟨j, -, rfl⟩ := List.mem_map.mp hl
    have hle : (n / count + if i < n % count then 1 else 0) ≤
        (n / count + if j < n % count then 1 else 0) + 1 := by
      split <;> split <;> omega
    have hcast : ((n / count + if i < n % count then 1 else 0 : Nat) : ℚ) ≤
        ((n / count + if j < n % count then 1 else 0 : Nat) : ℚ) + 1 := by
      exact_mod_cast hle
    linarith

/-! ## The fewest parts -/

theorem sum_le_length_mul {limit : ℚ} (parts : List ℚ)
    (h : forall part, part ∈ parts -> part ≤ limit) : parts.sum ≤ parts.length * limit := by
  have hsum := List.sum_le_card_nsmul parts limit h
  rwa [nsmul_eq_mul] at hsum

theorem installments_count {limit : Nat} (hn : 0 < n) (hlimit : 0 < limit) :
    exists count, Max.max 1 ⌈(toCents ((n : ℚ) / 100) : ℚ) / toCents ((limit : ℚ) / 100)⌉.toNat =
        count ∧ 0 < count ∧ count ≤ n ∧
      forall k : Nat, count ≤ k ↔ n ≤ k * limit := by
  rw [toCents_cents, toCents_cents, Int.ceil_toNat, Int.cast_natCast, Int.cast_natCast]
  have hlimit' : (0 : ℚ) < limit := by exact_mod_cast hlimit
  have hleast : forall k : Nat, ⌈(n : ℚ) / limit⌉₊ ≤ k ↔ n ≤ k * limit := by
    intro k
    rw [Nat.ceil_le, div_le_iff₀ hlimit']
    exact_mod_cast Iff.rfl
  have hpositive : 0 < ⌈(n : ℚ) / limit⌉₊ :=
    Nat.ceil_pos.mpr (div_pos (by exact_mod_cast hn) hlimit')
  refine ⟨⌈(n : ℚ) / limit⌉₊, max_eq_right hpositive, hpositive, ?_, hleast⟩
  exact (hleast n).mpr (Nat.le_mul_of_pos_right n hlimit)

theorem splitInto_fewest {limit : Nat} (hleast : forall k : Nat, count ≤ k ↔ n ≤ k * limit) :
    FewestWithin ((limit : ℚ) / 100) ((n : ℚ) / 100) (splitInto ((n : ℚ) / 100) count) := by
  constructor
  case within =>
    intro part hpart
    rw [splitInto_cents] at hpart
    obtain ⟨k, hk, rfl⟩ := List.mem_map.mp hpart
    obtain ⟨i, -, rfl⟩ := List.mem_map.mp hk
    have hle : (n / count + if i < n % count then 1 else 0) ≤ limit := by
      have hfits : n ≤ count * limit := (hleast count).mp le_rfl
      split
      · next hi =>
          have hdiv := Nat.div_add_mod n count
          have hlt : count * (n / count) < count * limit := by omega
          exact Nat.lt_of_mul_lt_mul_left hlt
      · exact Nat.div_le_of_le_mul hfits
    have hcast : ((n / count + if i < n % count then 1 else 0 : Nat) : ℚ) ≤ limit := by
      exact_mod_cast hle
    linarith
  case fewest =>
    intro others hsum hlimit
    have hbound := sum_le_length_mul others hlimit
    rw [hsum] at hbound
    have hcents : (n : ℚ) ≤ others.length * limit := by linarith
    have hfits : n ≤ others.length * limit := by exact_mod_cast hcents
    rw [splitInto, List.length_map, List.length_range]
    exact (hleast others.length).mpr hfits

theorem checkCents_cents (message : String) (h : 0 < n) :
    checkCents message (.finite ((n : ℚ) / 100)) = .ok ((n : ℚ) / 100) := by
  rw [checkCents, toCents_cents, if_neg (by omega)]

example : splitInto 10 3 = [334 / 100, 333 / 100, 333 / 100] := by decide +kernel

end MarketBridge
