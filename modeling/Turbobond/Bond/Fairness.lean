import Turbobond.Bond.SchedulerSteps
import Turbobond.Lib.Deficit

/-!
# Weighted fairness

`_weighted_pick` is a deficit round robin over the candidates: a pass takes the first link that
can afford the packet, and when there is none, the quantum of every link is split among them by
weight.
-/

set_option linter.unusedSectionVars false

namespace Turbobond.Bond.BondScheduler

open Links

variable {K : Type} [Field K] [LinearOrder K] {s s' : BondScheduler K} {cs : List (Link K)}

/-! ### Rounds -/

lemma eq_of_linkId_eq (hids : (cs.map Link.linkId).Nodup) {i j : Fin cs.length}
    (h : (cs.get i).linkId = (cs.get j).linkId) : i = j := by
  have hi : i < (cs.map Link.linkId).length := by simp
  have hj : j < (cs.map Link.linkId).length := by simp
  have hget : (cs.map Link.linkId)[(i : ℕ)] = (cs.map Link.linkId)[(j : ℕ)] := by
    rw [List.getElem_map, List.getElem_map]
    exact h
  exact Fin.ext ((hids.getElem_inj_iff).1 hget)

variable [HasSqrt K]

/-- The share of a candidate by weight. -/
def share (cs : List (Link K)) (i : Fin cs.length) : K :=
  (cs.get i).effectiveWeight / (cs.map Link.effectiveWeight).sum

/-- What a credit gives to all candidates together. -/
def grant (s : BondScheduler K) (cs : List (Link K)) : K := s.quantum * cs.length

/-- `_weighted_pick` reaches its last line: no pass finds a link that can afford the packet. -/
def FallsBack (cs : List (Link K)) (totalWeight : K) (packetLen : ℕ) : ℕ → BondScheduler K → Prop
  | 0, _ => True
  | rounds + 1, s => (takeTurn cs packetLen (List.range cs.length) s).1 = none ∧
      FallsBack cs totalWeight packetLen rounds
        (credit cs totalWeight (takeTurn cs packetLen (List.range cs.length) s).2)

lemma pickRounds_of_fallsBack {totalWeight : K} {packetLen : ℕ} (rounds : ℕ) :
    ∀ s : BondScheduler K, FallsBack cs totalWeight packetLen rounds s →
      (pickRounds cs totalWeight packetLen rounds s).1 = cs.argmax Link.effectiveWeight := by
  induction rounds with
  | zero => exact fun _ _ => rfl
  | succ rounds ih =>
    intro s h
    cases hturn : takeTurn cs packetLen (List.range cs.length) s with
    | mk link s₁ =>
      rw [FallsBack, hturn] at h
      obtain ⟨rfl, hrest⟩ := h
      simp only [pickRounds, hturn]
      exact ih _ hrest

lemma credit_cases (hids : (cs.map Link.linkId).Nodup) (s : BondScheduler K) :
    let t := credit cs (cs.map Link.effectiveWeight).sum s
    Works s t ∧ (∀ i, t.deficits cs i = s.deficits cs i + s.grant cs * share cs i) ∧
      ∀ i : Fin cs.length, (t.counters (cs.get i).linkId).bytes = (s.counters (cs.get i).linkId).bytes := by
  obtain ⟨hworks, hset, -⟩ := counters_foldl (fun quantum link c =>
    { c with deficit := c.deficit +
        quantum * (link.effectiveWeight / (cs.map Link.effectiveWeight).sum) * cs.length }) cs hids s
  refine ⟨hworks, fun i => ?_, fun i => ?_⟩
  · refine (congrArg LinkCounters.deficit (hset (cs.get i) (List.get_mem cs i))).trans ?_
    simp only [deficits, grant, share]
    ring
  · have hbytes := congrArg LinkCounters.bytes (hset (cs.get i) (List.get_mem cs i))
    exact hbytes

variable [IsStrictOrderedRing K]

/-- The passes keep the accounts fair, and unless they all find nobody, one of them makes a link
pay that can afford the packet. -/
lemma pickRounds_cases (hids : (cs.map Link.linkId).Nodup) (hshare : ∀ i, 0 ≤ share cs i)
    {packetLen L : ℕ} (hlen : packetLen ≤ L) {spent : Fin cs.length → K} (rounds : ℕ) :
    ∀ s : BondScheduler K, Deficit.Fair (share cs) (s.grant cs) L (s.deficits cs) spent →
      let t := pickRounds cs (cs.map Link.effectiveWeight).sum packetLen rounds s
      Works s t.2 ∧
        (∀ i : Fin cs.length, (t.2.counters (cs.get i).linkId).bytes = (s.counters (cs.get i).linkId).bytes) ∧
        (FallsBack cs (cs.map Link.effectiveWeight).sum packetLen rounds s ∨
          ∃ i d, t.1 = some (cs.get i) ∧ Deficit.Fair (share cs) (s.grant cs) L d spent ∧
            packetLen ≤ d i ∧ t.2.deficits cs = Function.update d i (d i - packetLen)) := by
  induction rounds with
  | zero => exact fun s _ => ⟨Works.refl s, fun _ => rfl, Or.inl trivial⟩
  | succ rounds ih =>
    intro s hfair
    obtain ⟨hworks, hcases⟩ := takeTurn_cases cs packetLen (List.range cs.length) s
    cases hturn : takeTurn cs packetLen (List.range cs.length) s with
    | mk link s₁ =>
      rw [hturn] at hworks hcases
      rcases hcases with ⟨rfl, hcounters, -⟩ | ⟨i, rfl, hafford, hpays⟩
      · -- nobody can afford the packet, and everybody is credited
        have hpoor := poor_of_takeTurn (congrArg Prod.fst hturn)
        have hdeficits : s₁.deficits cs = s.deficits cs := by
          funext i
          rw [deficits, hcounters, deficits]
        have hgrant : s₁.grant cs = s.grant cs := by rw [grant, hworks.quantum_eq, grant]
        obtain ⟨hcredit, hgiven, hbytes⟩ := credit_cases hids s₁
        have hgrant₀ : 0 ≤ s.grant cs := mul_nonneg (Nat.cast_nonneg _) (Nat.cast_nonneg _)
        have hfair' := hfair.credit hshare hgrant₀ fun i =>
          (hpoor i).le.trans (Nat.cast_le.2 hlen)
        have hnext : (credit cs (cs.map Link.effectiveWeight).sum s₁).deficits cs =
            fun i => s.deficits cs i + s.grant cs * share cs i := by
          funext i
          rw [hgiven, hdeficits, hgrant]
        have hgrant' : (credit cs (cs.map Link.effectiveWeight).sum s₁).grant cs = s.grant cs := by
          rw [grant, hcredit.quantum_eq, ← grant, hgrant]
        obtain ⟨hworks', hbytes', hrest⟩ := ih _ (hgrant' ▸ hnext ▸ hfair')
        simp only [pickRounds, hturn, FallsBack]
        refine ⟨hworks.trans (hcredit.trans hworks'), fun i => ?_, ?_⟩
        · rw [hbytes', hbytes, hcounters]
        · rw [hgrant'] at hrest
          exact hrest.imp_left fun h => ⟨trivial, h⟩
      · -- somebody pays in this round
        simp only [pickRounds, hturn]
        refine ⟨hworks, fun j => ?_, Or.inr ⟨i, s.deficits cs, rfl, hfair, hafford, ?_⟩⟩
        · rw [hpays]
          split
          · rfl
          · rfl
        · funext j
          rw [deficits, hpays]
          rcases eq_or_ne j i with rfl | hj
          · rw [if_pos rfl, Function.update_self, deficits]
          · rw [if_neg fun h => hj (eq_of_linkId_eq hids h), Function.update_of_ne hj, deficits]

/-- The last of the rounds is not needed: by then the grants are worth more than the largest
packet for every candidate. -/
lemma not_fallsBack (hids : (cs.map Link.linkId).Nodup) (hcs : cs ≠ [])
    (hsum : ∑ i, share cs i = 1) {packetLen : ℕ} (rounds : ℕ) :
    ∀ (m : ℕ) (s : BondScheduler K), (packetLen : K) ≤ (m + rounds) * s.quantum →
      (∀ i, m * (s.grant cs * share cs i) ≤ s.deficits cs i) →
        ¬ FallsBack cs (cs.map Link.effectiveWeight).sum packetLen (rounds + 1) s := by
  have hne : Nonempty (Fin cs.length) := ⟨⟨0, List.length_pos_iff.2 hcs⟩⟩
  have hpos : (0 : K) ≤ cs.length := Nat.cast_nonneg _
  induction rounds with
  | zero =>
    intro m s hlen hdeficits hfalls
    -- the deficits add up to the packet for each candidate, so somebody has enough
    have hcost : Fintype.card (Fin cs.length) * (packetLen : K) ≤ m * s.grant cs := by
      rw [Fintype.card_fin, grant]
      have := mul_le_mul_of_nonneg_left hlen hpos
      simp only [Nat.cast_zero, add_zero] at this
      linarith
    obtain ⟨i, hi⟩ := Deficit.exists_le_deficit hsum hdeficits hcost
    exact absurd (poor_of_takeTurn hfalls.1 i) (not_lt.2 hi)
  | succ rounds ih =>
    intro m s hlen hdeficits hfalls
    obtain ⟨hnone, hrest⟩ := hfalls
    obtain ⟨hworks, ⟨-, hcounters, -⟩ | ⟨i, hsome, -⟩⟩ :=
      takeTurn_cases cs packetLen (List.range cs.length) s
    · obtain ⟨hcredit, hgiven, -⟩ :=
        credit_cases hids (takeTurn cs packetLen (List.range cs.length) s).2
      have hworks' := hworks.trans hcredit
      refine ih (m + 1) _ ?_ (fun i => ?_) hrest
      · rw [hworks'.quantum_eq]
        push_cast at hlen ⊢
        linarith
      · rw [hgiven, grant, hworks'.quantum_eq, grant, hworks.quantum_eq, deficits, hcounters]
        have := hdeficits i
        rw [grant, deficits] at this
        push_cast
        linarith
    · exact absurd (hnone.symm.trans hsome) (by simp)

/-! ### Runs -/

lemma effectiveWeight_pos {link : Link K} (h : link.usable = true) : 0 < link.effectiveWeight := by
  simp only [Link.effectiveWeight, h, Bool.not_true, Bool.false_eq_true, if_false]
  exact lt_max_of_lt_left (by positivity)

lemma totalWeight_pos (h : s.candidates ≠ []) :
    0 < (s.candidates.map Link.effectiveWeight).sum := by
  refine List.sum_pos _ (fun w hw => ?_) (by simpa using h)
  obtain ⟨link, hlink, rfl⟩ := List.mem_map.1 hw
  exact effectiveWeight_pos (usable_of_mem_candidates hlink)

lemma share_nonneg (i : Fin s.candidates.length) : 0 ≤ share s.candidates i := by
  have hmem := List.get_mem s.candidates i
  have hne : s.candidates ≠ [] := List.ne_nil_of_mem hmem
  exact div_nonneg (effectiveWeight_pos (usable_of_mem_candidates hmem)).le (totalWeight_pos hne).le

lemma sum_share (h : s.candidates ≠ []) : ∑ i, share s.candidates i = 1 := by
  have hsum : ∑ i : Fin s.candidates.length, (s.candidates.get i).effectiveWeight =
      (s.candidates.map Link.effectiveWeight).sum :=
    Fin.sum_univ_fun_getElem s.candidates Link.effectiveWeight
  simp only [share]
  rw [← Finset.sum_div, hsum, div_self (totalWeight_pos h).ne']

/-- What `select` does in weighted mode, given what `_weighted_pick` does. -/
lemma select_of_pick (hmode : s.mode = .weighted) (hn : 2 ≤ s.candidates.length) (packetLen : ℕ)
    {link : Link K} (hpick : (s.weightedPick s.candidates packetLen).1 = some link) :
    (s.select packetLen false).1 = [link] ∧
      Works (s.weightedPick s.candidates packetLen).2 (s.select packetLen false).2 ∧
      ∀ k, (s.select packetLen false).2.counters k =
        if k = link.linkId then
          { (s.weightedPick s.candidates packetLen).2.counters k with
            packets := ((s.weightedPick s.candidates packetLen).2.counters k).packets + 1
            bytes := ((s.weightedPick s.candidates packetLen).2.counters k).bytes + packetLen }
        else (s.weightedPick s.candidates packetLen).2.counters k := by
  have hne : s.candidates ≠ [] := List.ne_nil_of_length_pos (by omega)
  have hone : s.candidates.length ≠ 1 := by omega
  have hchoose : s.choose s.candidates packetLen false =
      ([link], (s.weightedPick s.candidates packetLen).2) := by
    simp only [choose, if_neg hone, hmode, hpick]
    rfl
  simp only [select, if_neg hne, hchoose, List.foldl_cons, List.foldl_nil]
  refine ⟨trivial, ⟨_, _, rfl⟩, fun k => ?_⟩
  rw [counters_setCounters]
  split
  · rename_i hk
    rw [hk]
    rfl
  · rfl

/-- A run of packets that are not critical. -/
def selects (s : BondScheduler K) (lens : List ℕ) : BondScheduler K :=
  lens.foldl (fun s packetLen => (s.select packetLen false).2) s

/-- The bytes a candidate has carried since `s₀`. -/
def carried (s₀ s : BondScheduler K) (i : Fin s₀.candidates.length) : K :=
  (s.counters (s₀.candidates.get i).linkId).bytes - (s₀.counters (s₀.candidates.get i).linkId).bytes

/-- The candidates have shared some bytes since `s₀`, in packets of at most `L`. -/
structure Served (s₀ s : BondScheduler K) (L sent : ℕ) : Prop where
  works : Works s₀ s
  fair : Deficit.Fair (share s₀.candidates) (s₀.grant s₀.candidates) L (s.deficits s₀.candidates)
    (carried s₀ s)
  total : ∑ i, carried s₀ s i = sent

/-- The last line of `_weighted_pick` would be reached by a packet. -/
def Exhausts (s : BondScheduler K) (packetLen : ℕ) : Prop :=
  FallsBack s.candidates (s.candidates.map Link.effectiveWeight).sum packetLen
    (s.candidates.length * 2 + 2) s

variable {s₀ : BondScheduler K} {L sent packetLen : ℕ}

lemma Served.start (hzero : ∀ link ∈ s.candidates, (s.counters link.linkId).deficit = 0) (L : ℕ) :
    Served s s L 0 := by
  have hgrant : 0 ≤ s.grant s.candidates := mul_nonneg (Nat.cast_nonneg _) (Nat.cast_nonneg _)
  have hdeficits : s.deficits s.candidates = 0 := by
    funext i
    exact hzero _ (List.get_mem _ _)
  have hcarried : carried s s = 0 := by
    funext i
    rw [carried, sub_self, Pi.zero_apply]
  refine ⟨Works.refl s, ?_, by simp [hcarried]⟩
  rw [hdeficits, hcarried]
  exact Deficit.Fair.start share_nonneg hgrant (Nat.cast_nonneg L)

/-- One packet. -/
lemma Served.select (h : Served s₀ s L sent) (hmode : s₀.mode = .weighted)
    (hn : 2 ≤ s₀.candidates.length) (hids : (s₀.candidates.map Link.linkId).Nodup)
    (hL : L ≤ (2 * s₀.candidates.length + 1) * s₀.quantum) (hlen : packetLen ≤ L) :
    ¬ s.Exhausts packetLen ∧ Served s₀ (s.select packetLen false).2 L (sent + packetLen) := by
  have hne : s₀.candidates ≠ [] := List.ne_nil_of_length_pos (by omega)
  have hcs := h.works.candidates_eq
  have hquantum := h.works.quantum_eq
  have hgrant : s.grant s₀.candidates = s₀.grant s₀.candidates := by rw [grant, hquantum, grant]
  have hnot : ¬ s.Exhausts packetLen := by
    rw [Exhausts, hcs]
    refine not_fallsBack hids hne (sum_share hne) _ 0 s ?_ fun i => ?_
    · rw [hquantum]
      have hcast : (packetLen : K) ≤ ((2 * s₀.candidates.length + 1) * s₀.quantum : ℕ) :=
        Nat.cast_le.2 (hlen.trans hL)
      push_cast at hcast ⊢
      linarith
    · simpa using h.fair.nonneg i
  -- so one of the rounds finds the link that pays
  have hpick : s.weightedPick s₀.candidates packetLen = pickRounds s₀.candidates
      (s₀.candidates.map Link.effectiveWeight).sum packetLen (s₀.candidates.length * 2 + 2) s := by
    simp only [weightedPick, if_neg (not_le.2 (totalWeight_pos hne))]
  obtain ⟨hworks, hbytes, hfalls | ⟨i, d, hlink, hfair, hafford, hdeficits⟩⟩ :=
    pickRounds_cases hids share_nonneg hlen (s₀.candidates.length * 2 + 2) s (hgrant ▸ h.fair)
  · rw [Exhausts, hcs] at hnot
    exact absurd hfalls hnot
  · refine ⟨hnot, ?_⟩
    rw [← hpick] at hworks hbytes hlink hdeficits
    have hlink' : (s.weightedPick s.candidates packetLen).1 = some (s₀.candidates.get i) := by
      rw [hcs]
      exact hlink
    have hselect := select_of_pick (h.works.mode_eq.trans hmode) (hcs ▸ hn) packetLen hlink'
    rw [hcs] at hselect
    obtain ⟨-, hworks', hcounters⟩ := hselect
    have hdeficits' : (s.select packetLen false).2.deficits s₀.candidates =
        Function.update d i (d i - packetLen) := by
      rw [← hdeficits]
      funext j
      rw [deficits, hcounters, deficits]
      split
      · rfl
      · rfl
    -- what it carries grows by what it pays
    have hcarried : carried s₀ (s.select packetLen false).2 =
        Function.update (carried s₀ s) i (carried s₀ s i + packetLen) := by
      funext j
      rw [carried, hcounters]
      rcases eq_or_ne j i with rfl | hj
      · rw [if_pos rfl, Function.update_self, hbytes, carried]
        push_cast
        ring
      · rw [if_neg fun h => hj (eq_of_linkId_eq hids h), Function.update_of_ne hj, hbytes, carried]
    refine ⟨h.works.trans (hworks.trans hworks'), ?_, ?_⟩
    · rw [hdeficits', hcarried, ← hgrant]
      exact hfair.spend (Nat.cast_nonneg _) hafford
    · rw [hcarried, Finset.sum_update_of_mem (Finset.mem_univ i)]
      have hsplit := Finset.add_sum_erase Finset.univ (carried s₀ s) (Finset.mem_univ i)
      rw [h.total, Finset.erase_eq] at hsplit
      push_cast
      linarith

lemma selects_concat (s : BondScheduler K) (lens : List ℕ) (packetLen : ℕ) :
    s.selects (lens ++ [packetLen]) = ((s.selects lens).select packetLen false).2 := by
  rw [selects, List.foldl_append]
  rfl

/-- A run of packets. -/
lemma served_selects (hmode : s.mode = .weighted) (hn : 2 ≤ s.candidates.length)
    (hids : (s.candidates.map Link.linkId).Nodup)
    (hzero : ∀ link ∈ s.candidates, (s.counters link.linkId).deficit = 0)
    (hL : L ≤ (2 * s.candidates.length + 1) * s.quantum) (lens : List ℕ)
    (hlens : ∀ packetLen ∈ lens, packetLen ≤ L) : Served s (s.selects lens) L lens.sum := by
  induction lens using List.reverseRecOn with
  | nil => exact Served.start hzero L
  | append_singleton lens packetLen ih =>
    rw [List.forall_mem_append] at hlens
    rw [selects_concat, List.sum_append, List.sum_singleton]
    exact ((ih hlens.1).select hmode hn hids hL (hlens.2 packetLen (by simp))).2

/-- **Weighted byte fairness.**  Over any run of packets of at most `L` bytes that are not critical,
each of the candidates carries its share of the bytes by weight, up to a bound that does not
depend on the run, and the last line of `_weighted_pick` is never reached. -/
theorem weighted_fair (s : BondScheduler K) (lens : List ℕ) (L : ℕ) (hmode : s.mode = .weighted)
    (hn : 2 ≤ s.candidates.length) (hids : (s.candidates.map Link.linkId).Nodup)
    (hzero : ∀ link ∈ s.candidates, (s.counters link.linkId).deficit = 0)
    (hL : L ≤ (2 * s.candidates.length + 1) * s.quantum)
    (hlens : ∀ packetLen ∈ lens, packetLen ≤ L) :
    (∀ i, |carried s (s.selects lens) i - share s.candidates i * lens.sum| ≤
        s.candidates.length * (L + s.quantum)) ∧
      ∀ before packetLen, before ++ [packetLen] <+: lens →
        ¬ (s.selects before).Exhausts packetLen := by
  have hne : s.candidates ≠ [] := List.ne_nil_of_length_pos (by omega)
  constructor
  · intro i
    have hserved := served_selects hmode hn hids hzero hL lens hlens
    have hle := hserved.fair.abs_spent_sub_le share_nonneg (sum_share hne) i
    rw [hserved.total, Fintype.card_fin, grant] at hle
    calc _ ≤ s.candidates.length * (L : K) + s.quantum * s.candidates.length := hle
      _ = s.candidates.length * (L + s.quantum) := by ring
  · intro before packetLen hpre
    have hmem : ∀ len ∈ before ++ [packetLen], len ≤ L := fun len hlen => hlens len (hpre.subset hlen)
    rw [List.forall_mem_append] at hmem
    have hserved := served_selects hmode hn hids hzero hL before hmem.1
    exact (hserved.select hmode hn hids hL (hmem.2 packetLen (by simp))).1

/-- Two links, one with three times the weight of the other. -/
def fastAndSlow : BondScheduler ℚ :=
  .new [{ name := "fast", interface := "eth0", weight := 3, linkId := 1, state := .up },
    { name := "slow", interface := "eth1", weight := 1, linkId := 2, state := .up }] .weighted

theorem weighted_fair_fastAndSlow :
    (∀ i, |carried fastAndSlow (fastAndSlow.selects [1000, 60, 1500, 1000]) i -
        share fastAndSlow.candidates i * ([1000, 60, 1500, 1000] : List ℕ).sum| ≤
        fastAndSlow.candidates.length * ((1500 : ℕ) + fastAndSlow.quantum)) ∧
      ∀ before packetLen, before ++ [packetLen] <+: [1000, 60, 1500, 1000] →
        ¬ (fastAndSlow.selects before).Exhausts packetLen :=
  weighted_fair fastAndSlow [1000, 60, 1500, 1000] 1500 rfl (by decide +kernel) (by decide +kernel)
    (by decide +kernel) (by decide +kernel) (by decide)

end Turbobond.Bond.BondScheduler
