import Turbobond.Bond.Protocol
import Turbobond.Lib.Machine
import Mathlib.Data.List.MinMax
import Mathlib.Tactic.Linarith

/-!
# The replay window against the set of accepted counters

A window is refined by the list of the counters it has accepted: it refuses zero, what is
in the list, and what is `size` or more below the highest of them, and nothing else.
-/

namespace Turbobond.Bond

namespace ReplayWindow

/-- The counters a window refuses. -/
def Covers (w : ReplayWindow) (counter : ℕ) : Prop :=
  counter = 0 ∨ counter ≤ w.highest ∧
    (w.size ≤ w.highest - counter ∨ w.bitmap.testBit (w.highest - counter) = true)

instance (w : ReplayWindow) (counter : ℕ) : Decidable (w.Covers counter) :=
  inferInstanceAs (Decidable (_ ∨ _ ∧ (_ ∨ _)))

lemma and_shiftLeft_ne_zero_iff (b i : ℕ) : b &&& 1 <<< i ≠ 0 ↔ b.testBit i = true := by
  rw [Nat.one_shiftLeft, Nat.and_two_pow, ne_eq, Nat.mul_eq_zero, not_or]
  cases b.testBit i <;> simp

/-- `check_and_update` refuses exactly the counters the window covers, and a refusal leaves
the window as it is. -/
lemma checkAndUpdate_cases (w : ReplayWindow) (counter : ℕ) :
    (w.Covers counter ∧ w.checkAndUpdate counter = (false, w)) ∨
      (¬ w.Covers counter ∧ (w.checkAndUpdate counter).1 = true) := by
  unfold checkAndUpdate Covers
  by_cases h₀ : counter = 0
  · exact Or.inl ⟨Or.inl h₀, if_pos h₀⟩
  rw [if_neg h₀]
  by_cases h₁ : counter > w.highest
  · rw [if_pos h₁]
    exact Or.inr ⟨by omega, rfl⟩
  rw [if_neg h₁]
  simp only [and_shiftLeft_ne_zero_iff]
  by_cases h₂ : w.highest - counter ≥ w.size
  · rw [if_pos h₂]
    exact Or.inl ⟨Or.inr ⟨by omega, Or.inl h₂⟩, rfl⟩
  rw [if_neg h₂]
  by_cases h₃ : w.bitmap.testBit (w.highest - counter) = true
  · rw [if_pos h₃]
    exact Or.inl ⟨Or.inr ⟨by omega, Or.inr h₃⟩, rfl⟩
  · rw [if_neg h₃]
    exact Or.inr ⟨by tauto, rfl⟩

lemma checkAndUpdate_fst_iff (w : ReplayWindow) (counter : ℕ) :
    (w.checkAndUpdate counter).1 = true ↔ ¬ w.Covers counter := by
  rcases w.checkAndUpdate_cases counter with ⟨hc, heq⟩ | ⟨hc, heq⟩
  · simp [heq, hc]
  · simp [heq, hc]

/-- The bits of the map after a counter above the highest has shifted it. -/
lemma testBit_shift (w : ReplayWindow) (shift i : ℕ) :
    (((w.bitmap <<< shift) ||| 1) &&& ((1 <<< w.size) - 1)).testBit i = true ↔
      i < w.size ∧ (i = 0 ∨ shift ≤ i ∧ w.bitmap.testBit (i - shift) = true) := by
  have hone := @Nat.testBit_one_eq_true_iff_self_eq_zero i
  rw [Nat.one_shiftLeft, Nat.testBit_and, Nat.testBit_or, Nat.testBit_two_pow_sub_one,
    Nat.testBit_shiftLeft]
  simp only [Bool.and_eq_true, Bool.or_eq_true, decide_eq_true_eq, hone]
  tauto

/-- What recording a counter does to the window: its highest counter, and which counters it
covers. -/
lemma covers_checkAndUpdate {w : ReplayWindow} {counter : ℕ} (h : ¬ w.Covers counter) :
    (w.checkAndUpdate counter).2.size = w.size ∧
      (w.checkAndUpdate counter).2.highest = max w.highest counter ∧
      ∀ d, (w.checkAndUpdate counter).2.Covers d ↔
        w.Covers d ∨ d = counter ∨ d + w.size ≤ max w.highest counter := by
  simp only [Covers, not_or, not_and] at h
  obtain ⟨h₀, h⟩ := h
  unfold checkAndUpdate
  rw [if_neg h₀]
  by_cases h₁ : counter > w.highest
  · rw [if_pos h₁]
    refine ⟨rfl, (max_eq_right h₁.le).symm, fun d => ?_⟩
    simp only [Covers, max_eq_right h₁.le]
    by_cases h₂ : counter - w.highest ≥ w.size
    · rw [if_pos h₂, Nat.testBit_one_eq_true_iff_self_eq_zero]
      omega
    · rw [if_neg h₂, testBit_shift]
      by_cases hd : d ≤ w.highest
      · have hoff : counter - d - (counter - w.highest) = w.highest - d := by omega
        rw [hoff]
        by_cases hbit : w.bitmap.testBit (w.highest - d) = true
        · simp only [hbit, or_true, and_true]
          omega
        · simp only [hbit, or_false, and_false, Bool.false_eq_true]
          omega
      · have hoff : ¬ counter - w.highest ≤ counter - d := by omega
        simp only [hoff, false_and, or_false]
        omega
  · rw [if_neg h₁]
    have h₂ := (h (not_lt.1 h₁)).1
    have h₃ := (h (not_lt.1 h₁)).2
    simp only [and_shiftLeft_ne_zero_iff]
    rw [if_neg (by omega), if_neg h₃]
    refine ⟨rfl, (max_eq_left (not_lt.1 h₁)).symm, fun d => ?_⟩
    simp only [Covers, max_eq_left (not_lt.1 h₁)]
    rw [Nat.testBit_or, Nat.one_shiftLeft, Nat.testBit_two_pow, Bool.or_eq_true,
      decide_eq_true_eq]
    by_cases hbit : w.bitmap.testBit (w.highest - d) = true
    · simp only [hbit, true_or, or_true, and_true]
      omega
    · simp only [hbit, false_or, or_false, Bool.false_eq_true]
      omega

/-! ### Refinement -/

/-- The window stands for a set of accepted counters. -/
def Tracks (w : ReplayWindow) (accepted : Set ℕ) : Prop :=
  ∀ d, w.Covers d ↔ d = 0 ∨ ∃ c ∈ accepted, d = c ∨ d + w.size ≤ c

/-- A window that has recorded nothing. -/
lemma tracks_empty (size : ℕ) : Tracks { size } ∅ := by
  intro d
  simp only [Covers, Set.mem_empty_iff_false, false_and, exists_false, or_false, Nat.zero_testBit,
    Bool.false_eq_true]
  omega

/-- Recording a counter adds it to the set. -/
lemma Tracks.checkAndUpdate {w : ReplayWindow} {accepted : Set ℕ} (h : Tracks w accepted)
    {counter : ℕ} (hc : ¬ w.Covers counter) :
    Tracks (w.checkAndUpdate counter).2 (insert counter accepted) := by
  obtain ⟨hsize, -, hcov⟩ := covers_checkAndUpdate hc
  intro d
  -- what the highest counter has left behind is covered already
  have hhigh : d + w.size ≤ w.highest → w.Covers d := fun hle => Or.inr ⟨by omega, by omega⟩
  have hmax : (w.Covers d ∨ d = counter ∨ d + w.size ≤ max w.highest counter) ↔
      w.Covers d ∨ d = counter ∨ d + w.size ≤ counter := by
    rw [le_max_iff]
    tauto
  rw [hcov, hmax, h d, hsize]
  simp only [Set.mem_insert_iff, exists_eq_or_imp]
  rw [or_assoc]
  exact or_congr_right or_comm

/-! ### Sequences of counters -/

/-- A window is given a counter, and puts it out if it accepts it. -/
def step (w : ReplayWindow) (counter : ℕ) : List ℕ × ReplayWindow :=
  let (fresh, w) := w.checkAndUpdate counter
  (if fresh then [counter] else [], w)

/-- A window is given counters, one after the other: those it accepts, and what it becomes. -/
def run (counters : List ℕ) (w : ReplayWindow) : List ℕ × ReplayWindow :=
  Machine.run step counters w

lemma step_of_covers {w : ReplayWindow} {counter : ℕ} (h : w.Covers counter) :
    w.step counter = ([], w) := by
  rcases w.checkAndUpdate_cases counter with ⟨-, heq⟩ | ⟨hn, -⟩
  · simp [step, heq]
  · exact absurd h hn

lemma step_of_not_covers {w : ReplayWindow} {counter : ℕ} (h : ¬ w.Covers counter) :
    w.step counter = ([counter], (w.checkAndUpdate counter).2) := by
  simp [step, (w.checkAndUpdate_fst_iff counter).2 h]

/-- The highest of a list of counters, zero if it is empty. -/
def highestOf (accepted : List ℕ) : ℕ := accepted.foldr max 0

lemma le_highestOf {accepted : List ℕ} {counter : ℕ} (h : counter ∈ accepted) :
    counter ≤ highestOf accepted := by
  induction accepted with
  | nil => exact absurd h List.not_mem_nil
  | cons c accepted ih =>
    rcases List.mem_cons.1 h with rfl | h
    · exact le_max_left _ _
    · exact (ih h).trans (le_max_right _ _)

lemma highestOf_mem {accepted : List ℕ} (h : accepted ≠ []) : highestOf accepted ∈ accepted := by
  induction accepted with
  | nil => exact absurd rfl h
  | cons c accepted ih =>
    by_cases hnil : accepted = []
    · simp [hnil, highestOf]
    · have hcons : highestOf (c :: accepted) = max c (highestOf accepted) := rfl
      rcases max_choice c (highestOf accepted) with heq | heq
      · exact List.mem_cons.2 (Or.inl (hcons.trans heq))
      · rw [hcons, heq]
        exact List.mem_cons_of_mem c (ih hnil)

/-- The window keeps its size, and stands for the counters it has put out. -/
lemma run_tracks (size : ℕ) (counters : List ℕ) :
    (run counters { size }).2.size = size ∧
      (run counters { size }).2.Tracks {c | c ∈ (run counters { size }).1} := by
  have hstart : ({ size } : ReplayWindow).size = size ∧
      ({ size } : ReplayWindow).Tracks {c | c ∈ ([] : List ℕ)} :=
    ⟨rfl, by simpa using tracks_empty size⟩
  have hstep : ∀ (w : ReplayWindow) (accepted : List ℕ) (counter : ℕ),
      (w.size = size ∧ w.Tracks {c | c ∈ accepted}) →
        (step w counter).2.size = size ∧
          (step w counter).2.Tracks {c | c ∈ accepted ++ (step w counter).1} := by
    rintro w accepted counter ⟨hsize, htracks⟩
    by_cases hc : w.Covers counter
    · rw [step_of_covers hc, List.append_nil]
      exact ⟨hsize, htracks⟩
    · rw [step_of_not_covers hc]
      refine ⟨(covers_checkAndUpdate hc).1.trans hsize, ?_⟩
      have hset : {c | c ∈ accepted ++ [counter]} = insert counter {c | c ∈ accepted} := by
        ext c
        simp [or_comm]
      rw [hset]
      exact htracks.checkAndUpdate hc
  exact Machine.run_invariant step
    (I := fun w accepted => w.size = size ∧ w.Tracks {c | c ∈ accepted}) hstep counters hstart

/-- **The sliding window.**  After any counters, a counter is accepted if and only if it is not
zero, was not accepted before, and lies less than the size below the highest accepted. -/
theorem check_exact (size : ℕ) (counters : List ℕ) (counter : ℕ) :
    let (accepted, w) := run counters { size }
    (w.checkAndUpdate counter).1 = true ↔
      counter ≠ 0 ∧ counter ∉ accepted ∧ (highestOf accepted : ℤ) - size < counter := by
  obtain ⟨hsize, htracks⟩ := run_tracks size counters
  simp only
  rw [checkAndUpdate_fst_iff, htracks counter, hsize, not_or]
  refine and_congr_right fun h₀ => ?_
  generalize (run counters { size }).1 = accepted
  constructor
  · intro h
    refine ⟨fun hmem => h ⟨counter, hmem, Or.inl rfl⟩, ?_⟩
    by_cases hnil : accepted = []
    · simp only [hnil, highestOf, List.foldr_nil]
      omega
    · have : ¬ counter + size ≤ highestOf accepted := fun hle =>
        h ⟨_, highestOf_mem hnil, Or.inr hle⟩
      omega
  · rintro ⟨hmem, hlt⟩ ⟨c, hc, rfl | hle⟩
    · exact hmem hc
    · have := le_highestOf hc
      omega

end ReplayWindow

end Turbobond.Bond
