import Mathlib.Algebra.BigOperators.Field
import Mathlib.Algebra.Order.BigOperators.Group.Finset
import Mathlib.Algebra.Order.Field.Basic
import Mathlib.Data.Fintype.BigOperators
import Mathlib.Tactic.Linarith
import Mathlib.Tactic.Ring

/-!
# Deficit round robin

Flows spend from their accounts, each no more than it has, and whenever none of them can pay
for what comes next, a grant is split between all of them by fixed shares.  Then each flow
spends its share of what is spent, up to a bound that does not grow.
-/

namespace Turbobond.Deficit

variable {ι K : Type} [Field K] [LinearOrder K] [IsStrictOrderedRing K]

/-- The accounts of flows that have been served fairly: none is overdrawn, none holds more than
the largest cost and one grant, and each has spent what it was granted, less what it holds. -/
structure Fair (share : ι → K) (grant largest : K) (deficit spent : ι → K) : Prop where
  nonneg : ∀ i, 0 ≤ deficit i
  le : ∀ i, deficit i ≤ largest + grant * share i
  balance : ∃ rounds : ℕ, ∀ i, spent i + deficit i = rounds * (grant * share i)

variable {share : ι → K} {grant largest : K} {deficit spent : ι → K}

/-- Empty accounts. -/
lemma Fair.start (hshare : ∀ i, 0 ≤ share i) (hgrant : 0 ≤ grant) (hlargest : 0 ≤ largest) :
    Fair share grant largest 0 0 where
  nonneg _ := le_rfl
  le i := add_nonneg hlargest (mul_nonneg hgrant (hshare i))
  balance := ⟨0, by simp⟩

/-- A grant, when no flow can pay for what comes next. -/
lemma Fair.credit (h : Fair share grant largest deficit spent) (hshare : ∀ i, 0 ≤ share i)
    (hgrant : 0 ≤ grant) (hpoor : ∀ i, deficit i ≤ largest) :
    Fair share grant largest (fun i => deficit i + grant * share i) spent where
  nonneg i := add_nonneg (h.nonneg i) (mul_nonneg hgrant (hshare i))
  le i := add_le_add_left (hpoor i) _
  balance := by
    obtain ⟨rounds, hrounds⟩ := h.balance
    refine ⟨rounds + 1, fun i => ?_⟩
    rw [← add_assoc, hrounds i]
    push_cast
    ring

/-- A flow pays. -/
lemma Fair.spend [DecidableEq ι] (h : Fair share grant largest deficit spent) {i : ι} {cost : K}
    (hcost : 0 ≤ cost) (hi : cost ≤ deficit i) :
    Fair share grant largest (Function.update deficit i (deficit i - cost))
      (Function.update spent i (spent i + cost)) where
  nonneg j := by
    rcases eq_or_ne j i with rfl | hj
    · simpa using hi
    · simpa [hj] using h.nonneg j
  le j := by
    rcases eq_or_ne j i with rfl | hj
    · have := h.le j
      simp only [Function.update_self]
      linarith
    · simpa [hj] using h.le j
  balance := by
    obtain ⟨rounds, hrounds⟩ := h.balance
    refine ⟨rounds, fun j => ?_⟩
    rcases eq_or_ne j i with rfl | hj
    · rw [← hrounds j]
      simp
    · simpa [hj] using hrounds j

/-! ### Bounds -/

section Shares

variable [Fintype ι] (hshare : ∀ i, 0 ≤ share i) (hsum : ∑ i, share i = 1)

include hsum in
/-- What all flows hold. -/
lemma Fair.sum_deficit_le (h : Fair share grant largest deficit spent) :
    ∑ i, deficit i ≤ Fintype.card ι * largest + grant := by
  calc ∑ i, deficit i ≤ ∑ i, (largest + grant * share i) := Finset.sum_le_sum fun i _ => h.le i
    _ = Fintype.card ι * largest + grant * ∑ i, share i := by
        rw [Finset.sum_add_distrib, ← Finset.mul_sum, Finset.sum_const, nsmul_eq_mul,
          Finset.card_univ]
    _ = Fintype.card ι * largest + grant := by rw [hsum, mul_one]

include hsum in
/-- The difference to the share is a difference between what is held. -/
lemma Fair.spent_sub_eq (h : Fair share grant largest deficit spent) (i : ι) :
    spent i - share i * ∑ j, spent j = share i * ∑ j, deficit j - deficit i := by
  obtain ⟨rounds, hrounds⟩ := h.balance
  have htotal : ∑ j, spent j + ∑ j, deficit j = rounds * grant := by
    rw [← Finset.sum_add_distrib, Finset.sum_congr rfl fun j _ => hrounds j, ← Finset.mul_sum,
      ← Finset.mul_sum, hsum, mul_one]
  have hi := hrounds i
  have hshared : share i * ∑ j, spent j + share i * ∑ j, deficit j = spent i + deficit i := by
    rw [← mul_add, htotal, hi]
    ring
  linarith

include hshare hsum in
/-- **Fairness.**  Each flow spends its share, up to the largest cost for each flow and a grant. -/
theorem Fair.abs_spent_sub_le (h : Fair share grant largest deficit spent) (i : ι) :
    |spent i - share i * ∑ j, spent j| ≤ Fintype.card ι * largest + grant := by
  have hle := h.sum_deficit_le hsum
  have hone : share i ≤ 1 := by
    rw [← hsum]
    exact Finset.single_le_sum (fun j _ => hshare j) (Finset.mem_univ i)
  have hnonneg : 0 ≤ ∑ j, deficit j := Finset.sum_nonneg fun j _ => h.nonneg j
  have hmem : deficit i ≤ ∑ j, deficit j :=
    Finset.single_le_sum (fun j _ => h.nonneg j) (Finset.mem_univ i)
  have hpart : share i * ∑ j, deficit j ≤ ∑ j, deficit j := mul_le_of_le_one_left hnonneg hone
  have hpart₀ : 0 ≤ share i * ∑ j, deficit j := mul_nonneg (hshare i) hnonneg
  have hi := h.nonneg i
  rw [h.spent_sub_eq hsum, abs_le]
  constructor
  · linarith
  · linarith

include hsum in
/-- After enough grants some flow can pay. -/
lemma exists_le_deficit [Nonempty ι] {rounds : ℕ} {cost : K}
    (hdeficit : ∀ i, rounds * (grant * share i) ≤ deficit i)
    (hcost : Fintype.card ι * cost ≤ rounds * grant) : ∃ i, cost ≤ deficit i := by
  have hle : ∑ _i : ι, cost ≤ ∑ i, deficit i := by
    calc ∑ _i : ι, cost = Fintype.card ι * cost := by
          rw [Finset.sum_const, nsmul_eq_mul, Finset.card_univ]
      _ ≤ rounds * grant := hcost
      _ = ∑ i, rounds * (grant * share i) := by
          rw [← Finset.mul_sum, ← Finset.mul_sum, hsum, mul_one]
      _ ≤ ∑ i, deficit i := Finset.sum_le_sum fun i _ => hdeficit i
  obtain ⟨i, -, hi⟩ := Finset.exists_le_of_sum_le Finset.univ_nonempty hle
  exact ⟨i, hi⟩

end Shares

end Turbobond.Deficit
