import Mathlib.Data.List.Induction
import Mathlib.Data.List.Lex
import Mathlib.Data.String.Basic

/-!
# Numbers of a fixed width

Numbers printed in decimals, with zeros in front up to a width.  Texts of one width compare
as their numbers do, and reading one gives its number back.
-/

namespace Text

/-- The last `width` decimal digits of a number. -/
def decimals : Nat -> Nat -> List Char
  | 0, _ => []
  | width + 1, n => decimals width (n / 10) ++ [Nat.digitChar (n % 10)]

def padStart (width : Nat) (text : String) : String :=
  String.ofList (List.replicate (width - text.length) '0' ++ text.toList)

def digitValue (c : Char) : Nat :=
  c.toNat - '0'.toNat

def readDecimals (digits : List Char) : Nat :=
  digits.foldl (fun n c => 10 * n + digitValue c) 0

/-! ## Digits -/

theorem digitChar_lt_iff {m n : Nat} (hm : m < 10) (hn : n < 10) :
    Nat.digitChar m < Nat.digitChar n ↔ m < n := by
  have h : forall m, m < 10 -> forall n, n < 10 ->
      (Nat.digitChar m < Nat.digitChar n ↔ m < n) := by
    decide
  exact h m hm n hn

theorem isDigit_digitChar {n : Nat} (hn : n < 10) : (Nat.digitChar n).isDigit = true := by
  have h : forall n, n < 10 -> (Nat.digitChar n).isDigit = true := by decide
  exact h n hn

theorem digitValue_digitChar {n : Nat} (hn : n < 10) : digitValue (Nat.digitChar n) = n := by
  have h : forall n, n < 10 -> digitValue (Nat.digitChar n) = n := by decide
  exact h n hn

theorem digitChar_digitValue {c : Char} (hc : c.isDigit = true) :
    digitValue c < 10 ∧ Nat.digitChar (digitValue c) = c := by
  have hrange : 48 ≤ c.toNat ∧ c.toNat ≤ 57 := by
    simpa [Char.isDigit, UInt32.le_iff_toNat_le] using hc
  have hall : forall n, n < 58 -> 48 ≤ n ->
      digitValue (Char.ofNat n) < 10 ∧ Nat.digitChar (digitValue (Char.ofNat n)) = Char.ofNat n := by
    decide
  have h := hall c.toNat (by omega) hrange.1
  rwa [Char.ofNat_toNat] at h

@[simp] theorem length_decimals (width n : Nat) : (decimals width n).length = width := by
  induction width generalizing n with
  | zero => rfl
  | succ width ih => rw [decimals, List.length_append, ih]; rfl

theorem isDigit_of_mem_decimals {width n : Nat} {c : Char} (hc : c ∈ decimals width n) :
    c.isDigit = true := by
  induction width generalizing n with
  | zero => cases hc
  | succ width ih =>
      rcases List.mem_append.1 hc with hmem | hmem
      · exact ih hmem
      · rw [List.mem_singleton.1 hmem]
        exact isDigit_digitChar (Nat.mod_lt n (by omega))

/-! ## Reading -/

theorem readDecimals_append (digits : List Char) (c : Char) :
    readDecimals (digits ++ [c]) = 10 * readDecimals digits + digitValue c := by
  unfold readDecimals
  rw [List.foldl_append]
  rfl

theorem readDecimals_decimals {width n : Nat} (hn : n < 10 ^ width) :
    readDecimals (decimals width n) = n := by
  induction width generalizing n with
  | zero =>
      rw [pow_zero] at hn
      obtain rfl : n = 0 := by omega
      rfl
  | succ width ih =>
      rw [pow_succ] at hn
      rw [decimals, readDecimals_append, ih (by omega),
        digitValue_digitChar (Nat.mod_lt n (by omega))]
      omega

theorem exists_decimals_two {n : Nat} (hn : n < 100) :
    exists a b, decimals 2 n = [a, b] ∧ a.isDigit = true ∧ b.isDigit = true ∧
      readDecimals [a, b] = n := by
  refine ⟨_, _, rfl, ?_, ?_, @readDecimals_decimals 2 n hn⟩
  · exact isDigit_digitChar (Nat.mod_lt _ (by omega))
  · exact isDigit_digitChar (Nat.mod_lt _ (by omega))

theorem exists_decimals_four {n : Nat} (hn : n < 10000) :
    exists a b c d, decimals 4 n = [a, b, c, d] ∧
      [a, b, c, d].all Char.isDigit = true ∧ readDecimals [a, b, c, d] = n := by
  refine ⟨_, _, _, _, rfl, ?_, @readDecimals_decimals 4 n hn⟩
  rw [List.all_eq_true]
  exact fun c hc => @isDigit_of_mem_decimals 4 n c hc

theorem decimals_readDecimals {digits : List Char}
    (h : forall c, c ∈ digits -> c.isDigit = true) :
    readDecimals digits < 10 ^ digits.length ∧
      decimals digits.length (readDecimals digits) = digits := by
  induction digits using List.reverseRecOn with
  | nil => exact ⟨by decide, rfl⟩
  | append_singleton digits c ih =>
      obtain ⟨hlt, hsame⟩ := ih fun d hd => h d (List.mem_append_left _ hd)
      obtain ⟨hdigit, hchar⟩ := digitChar_digitValue (h c (by simp))
      rw [readDecimals_append, List.length_append, List.length_singleton]
      refine ⟨by rw [pow_succ]; omega, ?_⟩
      rw [decimals, show (10 * readDecimals digits + digitValue c) / 10 = readDecimals digits by omega,
        show (10 * readDecimals digits + digitValue c) % 10 = digitValue c by omega, hsame, hchar]

/-! ## Printing -/

theorem toDigits_eq_decimals {width n : Nat} (hn : n < 10 ^ (width + 1)) :
    List.replicate (width + 1 - (Nat.toDigits 10 n).length) '0' ++ Nat.toDigits 10 n =
      decimals (width + 1) n := by
  induction width generalizing n with
  | zero =>
      rw [pow_one] at hn
      rw [Nat.toDigits_of_lt_base hn, decimals, decimals, Nat.mod_eq_of_lt hn]
      rfl
  | succ width ih =>
      rw [pow_succ] at hn
      have hrest := ih (n := n / 10) (by omega)
      rw [decimals, ← hrest]
      by_cases hsmall : n < 10
      · rw [Nat.toDigits_of_lt_base hsmall, Nat.div_eq_of_lt hsmall, Nat.mod_eq_of_lt hsmall,
          Nat.toDigits_zero]
        have hzeros : width + 1 + 1 - [Nat.digitChar n].length = width + 1 := by simp
        rw [hzeros, List.length_singleton, Nat.add_sub_cancel, List.replicate_succ',
          List.append_assoc]
      · rw [Nat.toDigits_of_base_le (by decide) (not_lt.1 hsmall), List.length_append,
          List.length_singleton, Nat.add_sub_add_right, List.append_assoc]

theorem toList_padStart {width n : Nat} (hwidth : 0 < width) (hn : n < 10 ^ width) :
    (padStart width (toString n)).toList = decimals width n := by
  obtain ⟨width, rfl⟩ := Nat.exists_eq_succ_of_ne_zero hwidth.ne'
  unfold padStart
  rw [String.toList_ofList, Nat.toString_eq_ofList_toDigits, String.toList_ofList,
    String.length_ofList]
  exact toDigits_eq_decimals hn

/-! ## Comparing -/

theorem append_lt_append_iff {as bs xs ys : List Char} (h : as.length = bs.length) :
    as ++ xs < bs ++ ys ↔ as < bs ∨ as = bs ∧ xs < ys := by
  induction as generalizing bs with
  | nil =>
      obtain rfl := List.length_eq_zero_iff.1 h.symm
      simp
  | cons a as ih =>
      cases bs with
      | nil => cases h
      | cons b bs =>
          rw [List.cons_append, List.cons_append, List.cons_lt_cons_iff, List.cons_lt_cons_iff,
            ih (Nat.succ.inj h), List.cons.injEq]
          tauto

theorem decimals_inj_iff {width m n : Nat} (hm : m < 10 ^ width) (hn : n < 10 ^ width) :
    decimals width m = decimals width n ↔ m = n := by
  constructor
  · intro h
    rw [← readDecimals_decimals hm, h, readDecimals_decimals hn]
  · intro h
    rw [h]

theorem decimals_lt_iff {width m n : Nat} (hm : m < 10 ^ width) (hn : n < 10 ^ width) :
    decimals width m < decimals width n ↔ m < n := by
  induction width generalizing m n with
  | zero =>
      rw [pow_zero] at hm hn
      have hlt : ¬m < n := by omega
      simp [decimals, hlt]
  | succ width ih =>
      rw [pow_succ] at hm hn
      have hheads := @ih (m / 10) (n / 10) (by omega) (by omega)
      have htails := digitChar_lt_iff (Nat.mod_lt m (by decide : 10 > 0)) (Nat.mod_lt n (by decide))
      have hsame := @decimals_inj_iff width (m / 10) (n / 10) (by omega) (by omega)
      rw [decimals, decimals, append_lt_append_iff (by simp), hheads, hsame,
        List.cons_lt_cons_iff, htails]
      have hnil : ¬([] : List Char) < [] := List.not_lt_nil _
      simp only [hnil, and_false, or_false]
      omega

end Text
