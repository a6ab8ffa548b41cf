import Mathlib.Analysis.Real.Sqrt
import Turbobond.Links.Monitor

/-!
# Weight and quality

How the scheduling weight of a link changes when one of its attributes gets better, over the real
numbers.  A capacity of zero stands for one that was not measured and does not scale the weight.
-/

namespace Turbobond.Links

noncomputable instance : HasSqrt ℝ := ⟨Real.sqrt⟩

namespace Link

/-- One attribute of a link gets better, and the others stay. -/
inductive Improves (a : Link ℝ) : Link ℝ → Prop
  | weight {w : ℝ} : a.weight ≤ w → Improves a { a with weight := w }
  | uplinkMbps {u : ℝ} : 0 ≤ a.uplinkMbps → a.uplinkMbps ≤ u → Improves a { a with uplinkMbps := u }
  | lossPct {p : ℝ} : 0 ≤ p → p ≤ a.health.lossPct → a.health.lossPct ≤ 100 →
      Improves a { a with health := { a.health with lossPct := p } }
  | rttMs {t : ℝ} : t ≤ a.health.rttMs → Improves a { a with health := { a.health with rttMs := t } }

/-- What a measured throughput does to the capacity. -/
def capacityFloor {K : Type} [Field K] [LinearOrder K] (link : Link K) (txMbps : K) : Link K :=
  { link with uplinkMbps := if link.uplinkMbps < txMbps then txMbps else link.uplinkMbps }

lemma effectiveWeight_eq {link : Link ℝ} (h : link.usable = true) :
    link.effectiveWeight =
      max (1 / 1000) (link.weight * (capacityFactor link.uplinkMbps * link.keptShare)) := by
  simp only [effectiveWeight, h, Bool.not_true, Bool.false_eq_true, if_false, keptShare,
    capacityFactor, HasSqrt.sqrt]
  congr 1
  split_ifs <;> ring

lemma keptShare_pos (link : Link ℝ) : 0 < link.keptShare := by
  have hdelay : (0 : ℝ) < 1 + max link.health.rttMs 1 / 100 := by
    have := le_max_right link.health.rttMs 1
    positivity
  have hloss : (0 : ℝ) < max (1 / 20) (1 - HasSqrt.sqrt (link.health.lossPct / 100)) :=
    lt_max_of_lt_left (by norm_num)
  rw [keptShare]
  split_ifs <;> positivity

lemma capacityFactor_pos (u : ℝ) : 0 < capacityFactor u := by
  rw [capacityFactor]
  split_ifs
  · exact lt_max_of_lt_left (by norm_num)
  · norm_num

/-- Under the floor, a greater factor never gives a smaller weight, whatever the sign. -/
lemma max_mul_le_max_mul {c w f g : ℝ} (hc : 0 ≤ c) (hf : 0 ≤ f) (hle : f ≤ g) :
    max c (w * f) ≤ max c (w * g) := by
  rcases le_total 0 w with hw | hw
  · exact max_le_max le_rfl (mul_le_mul_of_nonneg_left hle hw)
  · exact max_le (le_max_left _ _) ((mul_nonpos_of_nonpos_of_nonneg hw hf).trans
      (hc.trans (le_max_left _ _)))

/-- A link that loses less or answers sooner keeps a greater share. -/
lemma keptShare_le_of_lossPct {a : Link ℝ} {p : ℝ} (hp : p ≤ a.health.lossPct) :
    a.keptShare ≤ keptShare { a with health := { a.health with lossPct := p } } := by
  have hloss : HasSqrt.sqrt (p / 100) ≤ HasSqrt.sqrt (a.health.lossPct / 100) :=
    Real.sqrt_le_sqrt (by gcongr)
  have hdelay : (0 : ℝ) < 1 + max a.health.rttMs 1 / 100 := by
    have := le_max_right a.health.rttMs 1
    positivity
  rw [keptShare, keptShare]
  gcongr

lemma keptShare_le_of_rttMs {a : Link ℝ} {t : ℝ} (ht : t ≤ a.health.rttMs) :
    a.keptShare ≤ keptShare { a with health := { a.health with rttMs := t } } := by
  have hdelay : (0 : ℝ) < 1 + max t 1 / 100 := by
    have := le_max_right t 1
    positivity
  rw [keptShare, keptShare]
  gcongr

/-- A greater capacity is a greater factor, unless it is the first one measured and below the ten
that an unmeasured one counts for. -/
lemma capacityFactor_le {u v : ℝ} (hu : 0 ≤ u) (huv : u ≤ v) (h : ¬ (u = 0 ∧ 0 < v ∧ v < 10)) :
    capacityFactor u ≤ capacityFactor v := by
  rw [capacityFactor, capacityFactor]
  rcases hu.eq_or_lt with rfl | hpos
  · rw [if_neg (lt_irrefl _)]
    split_ifs with hv
    · refine le_max_of_le_right ?_
      have : 10 ≤ v := not_lt.1 fun hlt => h ⟨rfl, hv, hlt⟩
      linarith
    · exact le_rfl
  · rw [if_pos hpos, if_pos (hpos.trans_le huv)]
    gcongr

/-- A first measurement below ten makes the factor smaller. -/
lemma capacityFactor_lt_one {v : ℝ} (hpos : 0 < v) (hlt : v < 10) : capacityFactor v < 1 := by
  rw [capacityFactor, if_pos hpos]
  exact max_lt (by norm_num) (by linarith)

/-- One attribute that gets better. -/
lemma Improves.effectiveWeight_le_iff {a b : Link ℝ} (h : Improves a b) (husable : a.usable = true) :
    a.effectiveWeight ≤ b.effectiveWeight ↔ ¬ Deflates a b.uplinkMbps := by
  have hfloor : (0 : ℝ) ≤ 1 / 1000 := by norm_num
  cases h with
  | @weight w hw =>
    refine iff_of_true ?_ fun hnot => absurd hnot.1 hnot.2.1.ne'
    rw [effectiveWeight_eq husable, effectiveWeight_eq (by exact husable)]
    have hshare := mul_pos (capacityFactor_pos a.uplinkMbps) a.keptShare_pos
    exact max_le_max le_rfl (mul_le_mul_of_nonneg_right hw hshare.le)
  | @uplinkMbps u hu hle =>
    rw [effectiveWeight_eq husable, effectiveWeight_eq (by exact husable)]
    have hkept : keptShare { a with uplinkMbps := u } = a.keptShare := rfl
    rw [hkept]
    by_cases hfirst : a.uplinkMbps = 0 ∧ 0 < u ∧ u < 10
    · obtain ⟨hzero, hpos, hlt⟩ := hfirst
      have hone : capacityFactor a.uplinkMbps = 1 := by rw [capacityFactor, if_neg (by simp [hzero])]
      rw [hone, one_mul]
      constructor
      · rintro hweight ⟨-, -, -, habove⟩
        have hsmall : a.weight * (capacityFactor u * a.keptShare) < a.weight * a.keptShare := by
          calc a.weight * (capacityFactor u * a.keptShare)
              = capacityFactor u * (a.weight * a.keptShare) := by ring
            _ < 1 * (a.weight * a.keptShare) :=
                mul_lt_mul_of_pos_right (capacityFactor_lt_one hpos hlt) (by linarith)
            _ = a.weight * a.keptShare := one_mul _
        exact absurd ((le_max_right _ _).trans hweight) (max_lt habove hsmall).not_ge
      · intro hnot
        have hbelow : a.weight * a.keptShare ≤ 1 / 1000 :=
          not_lt.1 fun habove => hnot ⟨hzero, hpos, hlt, habove⟩
        exact max_le (le_max_left _ _) (hbelow.trans (le_max_left _ _))
    · refine iff_of_true ?_ fun hnot => hfirst ⟨hnot.1, hnot.2.1, hnot.2.2.1⟩
      refine max_mul_le_max_mul hfloor (mul_pos (capacityFactor_pos _) a.keptShare_pos).le ?_
      exact mul_le_mul_of_nonneg_right (capacityFactor_le hu hle hfirst) a.keptShare_pos.le
  | @lossPct p hp hle hmax =>
    refine iff_of_true ?_ fun hnot => absurd hnot.1 hnot.2.1.ne'
    rw [effectiveWeight_eq husable, effectiveWeight_eq (by exact husable)]
    refine max_mul_le_max_mul hfloor (mul_pos (capacityFactor_pos _) (keptShare_pos _)).le ?_
    exact mul_le_mul_of_nonneg_left (keptShare_le_of_lossPct hle) (capacityFactor_pos _).le
  | @rttMs t ht =>
    refine iff_of_true ?_ fun hnot => absurd hnot.1 hnot.2.1.ne'
    rw [effectiveWeight_eq husable, effectiveWeight_eq (by exact husable)]
    refine max_mul_le_max_mul hfloor (mul_pos (capacityFactor_pos _) (keptShare_pos _)).le ?_
    exact mul_le_mul_of_nonneg_left (keptShare_le_of_rttMs ht) (capacityFactor_pos _).le

/-- A probe records the capacity so. -/
lemma uplinkMbps_record (link : Link ℚ) (probe : Probe) :
    (LinkMonitor.record link probe).uplinkMbps = (link.capacityFloor probe.txMbps).uplinkMbps := rfl

/-- **Weight and quality.**  A usable link of which one attribute gets better does not lose weight,
and neither does one whose throughput is measured, unless its capacity was not measured before and is
now found to be below ten, and its weight was above the floor. -/
theorem effectiveWeight_monotone_iff {a : Link ℝ} (husable : a.usable = true) :
    (∀ b, Improves a b →
        (a.effectiveWeight ≤ b.effectiveWeight ↔ ¬ Deflates a b.uplinkMbps)) ∧
      (0 ≤ a.uplinkMbps → ∀ txMbps,
        a.effectiveWeight ≤ (a.capacityFloor txMbps).effectiveWeight ↔ ¬ Deflates a txMbps) := by
  refine ⟨fun b h => h.effectiveWeight_le_iff husable, fun hnonneg txMbps => ?_⟩
  rw [capacityFloor]
  split_ifs with hraise
  · exact (Improves.uplinkMbps hnonneg hraise.le).effectiveWeight_le_iff husable
  · refine iff_of_true le_rfl fun hdeflates => hraise ?_
    rw [hdeflates.1]
    exact hdeflates.2.1

/-- A link that was not measured. -/
def unmeasured : Link ℝ where
  name := "wan1"
  interface := "eth1"
  state := .up

theorem effectiveWeight_monotone_iff_unmeasured :
    (∀ b, Improves unmeasured b →
        (unmeasured.effectiveWeight ≤ b.effectiveWeight ↔ ¬ Deflates unmeasured b.uplinkMbps)) ∧
      (0 ≤ unmeasured.uplinkMbps → ∀ txMbps,
        unmeasured.effectiveWeight ≤ (unmeasured.capacityFloor txMbps).effectiveWeight ↔
          ¬ Deflates unmeasured txMbps) :=
  effectiveWeight_monotone_iff rfl

/-- It loses half its weight where five is measured. -/
theorem effectiveWeight_deflated :
    ¬ unmeasured.effectiveWeight ≤ (unmeasured.capacityFloor 5).effectiveWeight := by
  have hraised : unmeasured.capacityFloor 5 = { unmeasured with uplinkMbps := 5 } := by
    simp [capacityFloor, unmeasured]
  have himproves : Improves unmeasured { unmeasured with uplinkMbps := 5 } :=
    Improves.uplinkMbps le_rfl (by norm_num [unmeasured])
  have hkept : unmeasured.keptShare = 100 / 101 := by
    rw [keptShare, if_neg (by decide), if_neg (by decide)]
    norm_num [unmeasured, HasSqrt.sqrt]
  rw [hraised, himproves.effectiveWeight_le_iff rfl, not_not]
  exact ⟨rfl, by norm_num, by norm_num, by rw [hkept]; norm_num [unmeasured]⟩

end Link

end Turbobond.Links
