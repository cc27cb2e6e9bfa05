import Mathlib
import ControllerClient.Text

/-!
The decimal digits of whole numbers: they are digits, they do not begin with a
zero, and they have the value of the number.
-/

namespace ControllerClient.Text

theorem isDigit_iff {c : Char} : isDigit c = true ↔ 48 ≤ c.toNat ∧ c.toNat ≤ 57 := by
  unfold isDigit
  rw [Bool.and_eq_true, decide_eq_true_eq, decide_eq_true_eq]
  exact Iff.rfl

theorem isDigit_ofNat : ∀ d, d < 10 → isDigit (Char.ofNat (d + 48)) = true := by decide

theorem toNat_digit : ∀ d, d < 10 → (Char.ofNat (d + 48)).toNat = d + 48 := by decide

theorem isDigit_of_mem_ofNat (n : Nat) : ∀ c ∈ ofNat n, isDigit c = true := by
  induction n using Nat.strong_induction_on with
  | _ n ih =>
      intro c present
      rw [ofNat] at present
      split at present
      · next small =>
          rw [List.mem_singleton.mp present]
          exact isDigit_ofNat n small
      · rcases List.mem_append.mp present with earlier | last
        · exact ih (n / 10) (by omega) c earlier
        · rw [List.mem_singleton.mp last]
          exact isDigit_ofNat (n % 10) (by omega)

theorem ofNat_ne_nil (n : Nat) : ofNat n ≠ [] := by
  rw [ofNat]
  split <;> simp

theorem head?_ofNat {n : Nat} (positive : 0 < n) : (ofNat n).head? ≠ some '0' := by
  induction n using Nat.strong_induction_on with
  | _ n ih =>
      rw [ofNat]
      split
      · next small =>
          have nonzero : ∀ d, d < 10 → 0 < d → some (Char.ofNat (d + 48)) ≠ some '0' := by decide
          exact nonzero n small positive
      · rw [List.head?_append_of_ne_nil _ (ofNat_ne_nil _)]
        exact ih (n / 10) (by omega) (by omega)

theorem digitsValue_concat (digits : Text) (c : Char) :
    digitsValue (digits ++ [c]) = digitsValue digits * 10 + (c.toNat - 48) := by
  simp [digitsValue]

theorem digitsValue_ofNat (n : Nat) : digitsValue (ofNat n) = n := by
  induction n using Nat.strong_induction_on with
  | _ n ih =>
      rw [ofNat]
      split
      · next small => simp [digitsValue, toNat_digit n small]
      · rw [digitsValue_concat, ih (n / 10) (by omega), toNat_digit (n % 10) (by omega)]
        omega

/-- A number has at most so many digits if it is below that power of ten. -/
theorem length_ofNat_le_iff {limit : Nat} (positive : 0 < limit) (n : Nat) :
    (ofNat n).length ≤ limit ↔ n < 10 ^ limit := by
  induction limit, positive using Nat.le_induction generalizing n with
  | base =>
      rw [ofNat]
      split
      · next small => simpa using small
      · next large =>
          have some_ := List.length_pos_of_ne_nil (ofNat_ne_nil (n / 10))
          rw [List.length_append, List.length_singleton]
          omega
  | succ limit positive ih =>
      have shorter := ih (n / 10)
      rw [Nat.div_lt_iff_lt_mul (by decide), ← Nat.pow_succ] at shorter
      rw [ofNat]
      split
      · next small =>
          have least : 10 ^ 1 ≤ 10 ^ (limit + 1) :=
            Nat.pow_le_pow_right (by decide) (Nat.le_add_left 1 limit)
          rw [List.length_singleton]
          omega
      · rw [List.length_append, List.length_singleton, ← shorter]
        omega

theorem hasFewDigits_iff {n : Int} : HasFewDigits n ↔ n.natAbs < 10 ^ digitLimit :=
  length_ofNat_le_iff (by decide) n.natAbs

theorem hasFewDigits_of_natAbs_le {n : Int} (small : n.natAbs ≤ digitLimit) : HasFewDigits n :=
  hasFewDigits_iff.mpr (small.trans_lt (Nat.lt_pow_self (by decide)))

theorem not_hasFewDigits_pow : ¬ HasFewDigits (10 ^ digitLimit) := by
  rw [hasFewDigits_iff, Int.natAbs_pow]
  generalize digitLimit = limit
  exact lt_irrefl (10 ^ limit)

end ControllerClient.Text
