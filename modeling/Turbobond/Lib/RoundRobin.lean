import Mathlib.Data.Int.CardIntervalMod
import Mathlib.Data.List.Nodup
import Mathlib.Tactic

/-!
# Taking turns

A cursor that counts up, read modulo the length of a list, picks the items of the list in turn.
From wherever it starts, any number of picks is spread over the items as evenly as can be.
-/

namespace Turbobond.RoundRobin

variable {α : Type}

/-- The picks of `n` turns from a cursor on. -/
def picks (items : List α) (cursor n : ℕ) : List α :=
  (List.range n).filterMap fun j => items[(cursor + j) % items.length]?

@[simp] lemma picks_zero (items : List α) (cursor : ℕ) : picks items cursor 0 = [] := rfl

/-- One more turn. -/
lemma picks_succ (items : List α) (cursor n : ℕ) :
    picks items cursor (n + 1) =
      picks items cursor n ++ (items[(cursor + n) % items.length]?).toList := by
  rw [picks, List.range_succ, List.filterMap_append, picks]
  rfl

/-- One turn, and then the others. -/
lemma picks_succ' (items : List α) (cursor n : ℕ) :
    picks items cursor (n + 1) =
      (items[cursor % items.length]?).toList ++ picks items (cursor + 1) n := by
  rw [picks, List.range_succ_eq_map, ← List.singleton_append, List.filterMap_append,
    List.filterMap_map, picks]
  refine congrArg₂ _ rfl (List.filterMap_congr fun j _ => ?_)
  rw [Function.comp_apply, Nat.succ_eq_add_one, Nat.add_comm j 1, Nat.add_assoc]

variable [DecidableEq α]

/-- The turns of an item are those at which the cursor stands at its place. -/
lemma count_picks_eq {items : List α} (hnodup : items.Nodup) {i : ℕ} {a : α}
    (ha : items[i]? = some a) (cursor n : ℕ) :
    (picks items cursor n).count a = n.count fun j => (cursor + j) % items.length = i := by
  obtain ⟨hi, -⟩ := List.getElem?_eq_some_iff.1 ha
  induction n with
  | zero => simp
  | succ n ih =>
    have hlt : (cursor + n) % items.length < items.length := Nat.mod_lt _ (by omega)
    rw [picks_succ, List.count_append, ih, Nat.count_succ, List.getElem?_eq_getElem hlt]
    congr 1
    rw [Option.toList_some, List.count_singleton]
    have heq : (items[(cursor + n) % items.length] == a) = true ↔
        (cursor + n) % items.length = i := by
      rw [beq_iff_eq]
      have ha' := (List.getElem?_eq_some_iff.1 ha).2
      rw [← ha']
      exact hnodup.getElem_inj_iff
    by_cases hturn : (cursor + n) % items.length = i
    · rw [if_pos hturn, if_pos (heq.2 hturn)]
    · rw [if_neg hturn, if_neg fun h => hturn (heq.1 h)]

/-- Among `n` turns in a row, those of one place. -/
lemma count_mod_eq {k i : ℕ} (hi : i < k) (cursor n : ℕ) :
    n / k ≤ (n.count fun j => (cursor + j) % k = i) ∧
      (n.count fun j => (cursor + j) % k = i) ≤ (n + k - 1) / k := by
  have hk : 0 < k := by omega
  -- the cursor stands at the place when the turn has one residue
  obtain ⟨v, hv⟩ : ∃ v, ∀ j, (cursor + j) % k = i ↔ j ≡ v [MOD k] := by
    refine ⟨i + (k - cursor % k), fun j => ?_⟩
    have hlt : cursor % k < k := Nat.mod_lt _ hk
    have hcursor : cursor + (k - cursor % k) ≡ 0 [MOD k] := by
      have hdiv := Nat.div_add_mod cursor k
      have heq : cursor + (k - cursor % k) = k * (cursor / k + 1) := by
        rw [Nat.mul_add, Nat.mul_one]
        omega
      rw [heq]
      exact (Nat.modEq_zero_iff_dvd).2 (Dvd.intro _ rfl)
    have hmod : (cursor + j) % k = i ↔ cursor + j ≡ i [MOD k] := by
      rw [Nat.ModEq, Nat.mod_eq_of_lt hi]
    rw [hmod]
    constructor
    · intro h
      have h' := (h.add_right (k - cursor % k)).symm
      have heq : cursor + j + (k - cursor % k) = j + (cursor + (k - cursor % k)) := by omega
      rw [heq] at h'
      exact (h'.trans ((Nat.ModEq.refl j).add hcursor)).symm
    · intro h
      have h' := h.add_left cursor
      have heq : cursor + (i + (k - cursor % k)) = i + (cursor + (k - cursor % k)) := by omega
      rw [heq] at h'
      exact h'.trans ((Nat.ModEq.refl i).add hcursor)
  have hcount : (n.count fun j => (cursor + j) % k = i) = n.count (· ≡ v [MOD k]) := by
    simp only [hv]
  rw [hcount, Nat.count_modEq_card n hk v]
  constructor
  · exact Nat.le_add_right _ _
  · have hdiv := Nat.div_add_mod n k
    have hle : (n + k - 1) / k = n / k + (n % k + k - 1) / k := by
      conv_lhs => rw [← hdiv]
      rw [show k * (n / k) + n % k + k - 1 = (n % k + k - 1) + k * (n / k) by omega,
        Nat.add_mul_div_left _ _ hk, Nat.add_comm]
    rw [hle]
    refine Nat.add_le_add_left ?_ _
    split_ifs with hr
    · rw [Nat.le_div_iff_mul_le hk]
      omega
    · exact Nat.zero_le _

/-- **Evenness.**  Every item gets its share of the turns, rounded down or up. -/
theorem count_picks {items : List α} (hnodup : items.Nodup) {a : α} (ha : a ∈ items)
    (cursor n : ℕ) :
    n / items.length ≤ (picks items cursor n).count a ∧
      (picks items cursor n).count a ≤ (n + items.length - 1) / items.length := by
  obtain ⟨i, hi, rfl⟩ := List.getElem_of_mem ha
  rw [count_picks_eq hnodup (List.getElem?_eq_getElem hi)]
  exact count_mod_eq hi cursor n

end Turbobond.RoundRobin
