import Turbobond.Bond.Scheduler
import Mathlib.Algebra.Order.Field.Basic

/-!
# What the scheduler does in a call

`select` chooses among the candidates, and always some when there are any; the only things it
changes are counters and the cursor.
-/

set_option linter.unusedSectionVars false

namespace Turbobond.Bond.BondScheduler

open Links

variable {K : Type} [Field K] [LinearOrder K] {s s' s'' : BondScheduler K}

/-- Nothing but the counters and the cursor has changed. -/
def Works (s s' : BondScheduler K) : Prop := ∃ stats cursor, s' = { s with stats, cursor }

lemma Works.refl (s : BondScheduler K) : Works s s := ⟨s.stats, s.cursor, rfl⟩

lemma Works.trans (h : Works s s') (h' : Works s' s'') : Works s s'' := by
  obtain ⟨_, _, rfl⟩ := h
  obtain ⟨stats, cursor, rfl⟩ := h'
  exact ⟨stats, cursor, rfl⟩

lemma works_setCounters (s : BondScheduler K) (linkId : ℕ) (c : LinkCounters K) :
    Works s (s.setCounters linkId c) := ⟨_, _, rfl⟩

lemma Works.candidates_eq (h : Works s s') : s'.candidates = s.candidates := by
  obtain ⟨_, _, rfl⟩ := h
  rfl

lemma Works.mode_eq (h : Works s s') : s'.mode = s.mode := by
  obtain ⟨_, _, rfl⟩ := h
  rfl

lemma Works.quantum_eq (h : Works s s') : s'.quantum = s.quantum := by
  obtain ⟨_, _, rfl⟩ := h
  rfl

lemma counters_setCounters (s : BondScheduler K) (linkId linkId' : ℕ) (c : LinkCounters K) :
    (s.setCounters linkId c).counters linkId' = if linkId' = linkId then c else s.counters linkId' := by
  simp only [counters, setCounters, Dict.get?_set]
  split
  · rfl
  · rfl

/-- `setdefault` alone does not change what the counters are. -/
lemma counters_setCounters_self (s : BondScheduler K) (linkId : ℕ) :
    (s.setCounters linkId (s.counters linkId)).counters = s.counters := by
  funext linkId'
  rw [counters_setCounters]
  split
  · rename_i h
    rw [h]
  · rfl

/-! ### One pass -/

variable {cs : List (Link K)}

/-- What a candidate has left of its credit. -/
def deficits (s : BondScheduler K) (cs : List (Link K)) (i : Fin cs.length) : K :=
  (s.counters (cs.get i).linkId).deficit

/-- A link has paid for a packet. -/
def Pays (s s' : BondScheduler K) (linkId packetLen : ℕ) : Prop :=
  ∀ k, s'.counters k = if k = linkId then
    { s.counters k with deficit := (s.counters k).deficit - packetLen } else s.counters k

/-- A pass either takes a link that can afford the packet, which pays, or it finds that none of
those it looks at can. -/
lemma takeTurn_cases (cs : List (Link K)) (packetLen : ℕ) (offsets : List ℕ) (s : BondScheduler K) :
    Works s (takeTurn cs packetLen offsets s).2 ∧
      (((takeTurn cs packetLen offsets s).1 = none ∧
          (takeTurn cs packetLen offsets s).2.counters = s.counters ∧
          ∀ (i : Fin cs.length), ∀ o ∈ offsets, (s.cursor + o) % cs.length = i →
            s.deficits cs i < packetLen) ∨
        ∃ i : Fin cs.length, (takeTurn cs packetLen offsets s).1 = some (cs.get i) ∧
          packetLen ≤ s.deficits cs i ∧
          Pays s (takeTurn cs packetLen offsets s).2 (cs.get i).linkId packetLen) := by
  induction offsets generalizing s with
  | nil => exact ⟨Works.refl s, Or.inl ⟨rfl, rfl, by simp⟩⟩
  | cons offset rest ih =>
    cases hget : cs[(s.cursor + offset) % cs.length]? with
    | none =>
      obtain ⟨hworks, hcases⟩ := ih s
      simp only [takeTurn, hget]
      refine ⟨hworks, hcases.imp_left fun ⟨hnone, hc, hpoor⟩ => ⟨hnone, hc, fun i o ho hi => ?_⟩⟩
      rcases List.mem_cons.1 ho with rfl | ho
      · rw [hi, List.getElem?_eq_getElem i.2] at hget
        exact absurd hget (by simp)
      · exact hpoor i o ho hi
    | some link =>
      obtain ⟨hlt, hlink⟩ := List.getElem?_eq_some_iff.1 hget
      by_cases hafford : (packetLen : K) ≤ (s.counters link.linkId).deficit
      · -- this link takes the packet
        simp only [takeTurn, hget, ge_iff_le, if_pos hafford]
        refine ⟨⟨_, _, rfl⟩, Or.inr ⟨⟨_, hlt⟩, congrArg some hlink.symm, ?_, fun k => ?_⟩⟩
        · simpa only [deficits, List.get_eq_getElem, hlink] using hafford
        · simp only [List.get_eq_getElem, hlink]
          refine (counters_setCounters s link.linkId k _).trans ?_
          split
          · rename_i hk
            rw [hk]
          · rfl
      · -- it cannot afford it, and the pass goes on
        obtain ⟨hworks, hcases⟩ := ih (s.setCounters link.linkId (s.counters link.linkId))
        have hsame := s.counters_setCounters_self link.linkId
        simp only [takeTurn, hget, ge_iff_le, if_neg hafford]
        simp only [deficits, Pays, hsame] at hcases
        refine ⟨(s.works_setCounters _ _).trans hworks,
          hcases.imp_left fun ⟨hnone, hc, hpoor⟩ => ⟨hnone, hc, fun i o ho hi => ?_⟩⟩
        rcases List.mem_cons.1 ho with rfl | ho
        · have hlink' : cs.get i = link := by
            simp only [List.get_eq_getElem, ← hi, hlink]
          rw [deficits, hlink']
          exact lt_of_not_ge hafford
        · exact hpoor i o ho hi

lemma exists_offset (cursor : ℕ) {n i : ℕ} (h : i < n) : ∃ o ∈ List.range n, (cursor + o) % n = i := by
  have hn : 0 < n := by omega
  refine ⟨(i + (n - cursor % n)) % n, List.mem_range.2 (Nat.mod_lt _ hn), ?_⟩
  have hmod := Nat.mod_lt cursor hn
  have hsplit := Nat.div_add_mod cursor n
  have hsum : cursor + (i + (n - cursor % n)) = i + n * (cursor / n + 1) := by
    rw [Nat.mul_add, Nat.mul_one]
    omega
  rw [Nat.add_mod_mod, hsum, Nat.add_mul_mod_self_left, Nat.mod_eq_of_lt h]

/-- A whole pass that finds no link has looked at all of them. -/
lemma poor_of_takeTurn {packetLen : ℕ}
    (h : (takeTurn cs packetLen (List.range cs.length) s).1 = none) (i : Fin cs.length) :
    s.deficits cs i < packetLen := by
  obtain ⟨-, ⟨-, -, hpoor⟩ | ⟨j, hsome, -⟩⟩ := takeTurn_cases cs packetLen (List.range cs.length) s
  · obtain ⟨o, ho, hi⟩ := exists_offset s.cursor i.2
    exact hpoor i o ho hi
  · exact absurd (h.symm.trans hsome) (by simp)

/-! ### Rounds -/

/-- Setting the counters of links one after another sets each once. -/
lemma counters_foldl (f : ℕ → Link K → LinkCounters K → LinkCounters K) (l : List (Link K))
    (hids : (l.map Link.linkId).Nodup) (s : BondScheduler K) :
    let t := l.foldl
      (fun s link => s.setCounters link.linkId (f s.quantum link (s.counters link.linkId))) s
    Works s t ∧ (∀ link ∈ l, t.counters link.linkId = f s.quantum link (s.counters link.linkId)) ∧
      ∀ k, k ∉ l.map Link.linkId → t.counters k = s.counters k := by
  induction l generalizing s with
  | nil => exact ⟨Works.refl s, by simp, fun _ _ => rfl⟩
  | cons link l ih =>
    obtain ⟨hnew, hids⟩ := List.nodup_cons.1 hids
    let s₁ := s.setCounters link.linkId (f s.quantum link (s.counters link.linkId))
    obtain ⟨hworks, hset, hrest⟩ := ih hids s₁
    have hcounters : ∀ k, s₁.counters k =
        if k = link.linkId then f s.quantum link (s.counters link.linkId) else s.counters k :=
      fun k => s.counters_setCounters _ k _
    refine ⟨(s.works_setCounters _ _).trans hworks, fun link' hlink' => ?_, fun k hk => ?_⟩
    · rcases List.mem_cons.1 hlink' with rfl | hmem
      · rw [List.foldl_cons, hrest _ hnew, hcounters, if_pos rfl]
      · have hne : link'.linkId ≠ link.linkId :=
          fun h => hnew (h ▸ List.mem_map_of_mem hmem)
        rw [List.foldl_cons, hset link' hmem, hcounters, if_neg hne]
        rfl
    · rw [List.map_cons, List.mem_cons, not_or] at hk
      rw [List.foldl_cons, hrest k hk.2, hcounters, if_neg hk.1]

variable [HasSqrt K]

lemma foldl_works (f : BondScheduler K → Link K → BondScheduler K) (hf : ∀ s link, Works s (f s link))
    (l : List (Link K)) : ∀ s, Works s (l.foldl f s) := by
  induction l with
  | nil => exact Works.refl
  | cons link l ih => exact fun s => (hf s link).trans (ih _)

/-- The passes take a candidate, if there is one, even if they have to fall back. -/
lemma pickRounds_mem (hcs : cs ≠ []) (totalWeight : K) (packetLen rounds : ℕ) :
    ∀ s : BondScheduler K, Works s (pickRounds cs totalWeight packetLen rounds s).2 ∧
      ∃ link ∈ cs, (pickRounds cs totalWeight packetLen rounds s).1 = some link := by
  induction rounds with
  | zero =>
    intro s
    cases hmax : cs.argmax Link.effectiveWeight with
    | none => exact absurd (List.argmax_eq_none.1 hmax) hcs
    | some link => exact ⟨Works.refl s, link, List.argmax_mem hmax, hmax⟩
  | succ rounds ih =>
    intro s
    obtain ⟨hworks, hcases⟩ := takeTurn_cases cs packetLen (List.range cs.length) s
    cases hturn : takeTurn cs packetLen (List.range cs.length) s with
    | mk link s₁ =>
      rw [hturn] at hworks hcases
      rcases hcases with ⟨rfl, -⟩ | ⟨i, rfl, -⟩
      · have hcredit : Works s₁ (credit cs totalWeight s₁) :=
          foldl_works _ (fun s link => s.works_setCounters _ _) cs s₁
        obtain ⟨hrest, hlink⟩ := ih (credit cs totalWeight s₁)
        simp only [pickRounds, hturn]
        exact ⟨hworks.trans (hcredit.trans hrest), hlink⟩
      · simp only [pickRounds, hturn]
        exact ⟨hworks, cs.get i, List.get_mem cs i, rfl⟩

lemma weightedPick_mem (hcs : cs ≠ []) (s : BondScheduler K) (packetLen : ℕ) :
    Works s (s.weightedPick cs packetLen).2 ∧
      ∃ link ∈ cs, (s.weightedPick cs packetLen).1 = some link := by
  simp only [weightedPick]
  split
  · obtain ⟨link, rest, rfl⟩ := List.exists_cons_of_ne_nil hcs
    exact ⟨Works.refl s, link, List.mem_cons_self, rfl⟩
  · exact pickRounds_mem hcs _ packetLen _ s

/-- The choice of `select`: all candidates for what goes over every link, and else one of them. -/
lemma choose_cases (hcs : cs ≠ []) (s : BondScheduler K) (packetLen : ℕ) (critical : Bool) :
    Works s (s.choose cs packetLen critical).2 ∧
      ((s.choose cs packetLen critical).1 = cs ∧
          (cs.length = 1 ∨ critical = true ∨ s.mode = .redundant) ∨
        ∃ link ∈ cs, (s.choose cs packetLen critical).1 = [link] ∧
          cs.length ≠ 1 ∧ critical = false ∧ s.mode ≠ .redundant ∧
          (s.mode = .lowestLatency →
            cs.argmin (fun link => max link.health.rttMs (1 / ((100 : ℕ) : K))) = some link)) := by
  by_cases hone : cs.length = 1
  · simp only [choose, if_pos hone]
    exact ⟨Works.refl s, Or.inl ⟨trivial, Or.inl hone⟩⟩
  by_cases hall : (critical || s.mode = .redundant) = true
  · simp only [choose, if_neg hone, if_pos hall]
    exact ⟨Works.refl s, Or.inl ⟨trivial, Or.inr (by simpa using hall)⟩⟩
  simp only [choose, if_neg hone, if_neg hall]
  simp only [Bool.or_eq_true, decide_eq_true_eq, not_or, Bool.not_eq_true] at hall
  by_cases hmode : s.mode = .lowestLatency
  · simp only [if_pos hmode]
    cases hmin : cs.argmin fun link => max link.health.rttMs (1 / ((100 : ℕ) : K)) with
    | none => exact absurd (List.argmin_eq_none.1 hmin) hcs
    | some link =>
      exact ⟨Works.refl s, Or.inr ⟨link, List.argmin_mem hmin, rfl, hone, hall.1, hall.2,
        fun _ => rfl⟩⟩
  · simp only [if_neg hmode]
    obtain ⟨hworks, link, hmem, hlink⟩ := weightedPick_mem hcs s packetLen
    rw [hlink]
    exact ⟨hworks, Or.inr ⟨link, hmem, rfl, hone, hall.1, hall.2, fun h => absurd h hmode⟩⟩

lemma usable_of_mem_candidates {link : Link K} (h : link ∈ s.candidates) : link.usable = true := by
  by_cases hready : s.usableLinks ≠ []
  · have hcs : s.candidates = s.usableLinks := if_pos hready
    rw [hcs, usableLinks, List.mem_filter, Bool.and_eq_true] at h
    exact h.2.1
  · have hcs : s.candidates = s.links.filter Link.usable := if_neg hready
    rw [hcs, List.mem_filter] at h
    exact h.2

lemma select_nil (h : s.candidates = []) (packetLen : ℕ) (critical : Bool) :
    (s.select packetLen critical).1 = [] ∧ Works s (s.select packetLen critical).2 := by
  simp only [select, if_pos h]
  exact ⟨trivial, _, _, rfl⟩

/-- `select` chooses as `choose` does. -/
lemma select_of_ne_nil (h : s.candidates ≠ []) (packetLen : ℕ) (critical : Bool) :
    (s.select packetLen critical).1 = (s.choose s.candidates packetLen critical).1 ∧
      Works s (s.select packetLen critical).2 := by
  obtain ⟨hworks, -⟩ := choose_cases h s packetLen critical
  simp only [select, if_neg h]
  refine ⟨trivial, hworks.trans (Works.trans ?_ (foldl_works _ (fun s link => ?_) _ _))⟩
  · exact ⟨_, _, rfl⟩
  · exact s.works_setCounters _ _

lemma select_works (s : BondScheduler K) (packetLen : ℕ) (critical : Bool) :
    Works s (s.select packetLen critical).2 := by
  by_cases h : s.candidates = []
  · exact (select_nil h packetLen critical).2
  · exact (select_of_ne_nil h packetLen critical).2

lemma Works.links_eq (h : Works s s') : s'.links = s.links := by
  obtain ⟨_, _, rfl⟩ := h
  rfl

end Turbobond.Bond.BondScheduler
