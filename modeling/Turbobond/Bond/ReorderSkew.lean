import Turbobond.Bond.ReorderStall

/-!
# Bounded skew loses nothing

A contiguous stream whose packets arrive in any order, but none of them a timeout or more
after a packet with a higher number, comes out of a new buffer complete and in order.  The
proof follows the numbers that have not arrived yet: none of them is below the head of the
stream once priming is over, and none is below a packet whose deadline has passed.
-/

namespace Turbobond.Bond.ReorderBuffer

variable {P : Type}

/-- The packets of a contiguous stream, with their numbers. -/
def numbered (first : ℤ) : List P → List (ℤ × P)
  | [] => []
  | p :: ps => (first, p) :: numbered (first + 1) ps

lemma mem_numbered_fst (ps : List P) :
    ∀ (first m : ℤ), m ∈ (numbered first ps).map Prod.fst ↔ first ≤ m ∧ m < first + ps.length := by
  induction ps with
  | nil => intro first m; simp [numbered]
  | cons p ps ih =>
    intro first m
    simp only [numbered, List.map_cons, List.mem_cons, ih, List.length_cons]
    push_cast
    omega

lemma numbered_sorted (ps : List P) :
    ∀ first : ℤ, ((numbered first ps).map Prod.fst).Pairwise (· < ·) := by
  induction ps with
  | nil => intro first; exact List.Pairwise.nil
  | cons p ps ih =>
    intro first
    refine List.pairwise_cons.2 ⟨fun m hm => ?_, ih (first + 1)⟩
    have := ((mem_numbered_fst ps (first + 1) m).1 hm).1
    omega

/-! ### Draining without a skip -/

/-- The buffer against the numbers `R` still to come: none of them has been passed, with
the pending ones they fill the range up to every pending number, and none is below a packet
whose deadline has passed. -/
structure Gapless (b : ReorderBuffer P) (R : List ℤ) (now : Time) : Prop where
  later : ∀ m ∈ R, b.nextSeq ≤ m
  disjoint : ∀ m ∈ R, m ∉ b.pending.keys
  filled : ∀ s ∈ b.pending.keys, ∀ m, b.nextSeq ≤ m → m ≤ s → m ∈ b.pending.keys ∨ m ∈ R
  notDue : ∀ s, b.Overdue now s → ∀ m ∈ R, s < m

/-- `_drain` skips nothing then, and passes none of the numbers to come. -/
lemma drainLoop_gapless (R : List ℤ) (now : Time) (heap : List ℤ) :
    ∀ b : ReorderBuffer P, Tidy b → b.heap = heap → b.priming = false → Gapless b R now →
      (drainLoop now heap b).2.stats.gapSkips = b.stats.gapSkips ∧
        ∀ m ∈ R, (drainLoop now heap b).2.nextSeq ≤ m := by
  induction heap with
  | nil => intro b _ _ _ hg; exact ⟨rfl, hg.later⟩
  | cons head rest ih =>
    intro b h hheap hnp hg
    have hle : ¬ head < b.nextSeq := not_lt.2 (h.nextSeq_le_head hheap)
    have hhead := h.head_mem hheap
    obtain ⟨⟨payload, deadline⟩, hget⟩ := (b.pending.mem_keys_iff head).1 hhead
    simp only [drainLoop, if_neg hle, hget]
    split
    · rename_i heq
      have h₁ := emits_head h hheap 0 hnp hget
      rw [skip_zero] at h₁
      have hg₁ : Gapless ((b.pop head rest).advance head) R now := by
        refine ⟨?_, ?_, ?_, ?_⟩
        · intro m hm
          have := hg.later m hm
          have hne : m ≠ head := fun hmh => hg.disjoint m hm (hmh ▸ hhead)
          simp only [advance_nextSeq]
          omega
        · intro m hm hmem
          simp only [advance_pending, pop, Dict.mem_keys_erase] at hmem
          exact hg.disjoint m hm hmem.2
        · intro s hs m hlow hms
          simp only [advance_pending, advance_nextSeq, pop, Dict.mem_keys_erase] at hs hlow ⊢
          rcases hg.filled s hs.2 m (by omega) hms with hm | hm
          · exact Or.inl ⟨by omega, hm⟩
          · exact Or.inr hm
        · intro s hs
          exact hg.notDue s ((h₁.overdue_iff now s).1 hs).2
      have := ih _ h₁.tidy (by simp [pop]) (by simp [pop, hnp]) hg₁
      simpa [pop] using this
    · rename_i hne
      split
      · -- a gap whose packet is overdue would have a number to come below that packet
        rename_i hdl
        exfalso
        have hlow := h.nextSeq_le_head hheap
        rcases hg.filled head hhead b.nextSeq le_rfl hlow with hm | hm
        · have hmem := (h.mem_iff _).2 hm
          rw [hheap, List.mem_cons] at hmem
          rcases hmem with hmem | hmem
          · exact hne hmem.symm
          · have := h.head_lt hheap _ hmem
            omega
        · have := hg.notDue head ⟨_, hget, hdl⟩ _ hm
          omega
      · exact ⟨rfl, hg.later⟩

/-! ### A run in step with its stream -/

/-- All arrivals of a contiguous stream of `n` packets, within the skew bound. -/
structure Skewed (first : ℤ) (n : ℕ) (timeoutS : Time) (all : List (ℤ × P × Time)) : Prop where
  nodup : (all.map Prod.fst).Nodup
  mem_iff : ∀ m, m ∈ all.map Prod.fst ↔ first ≤ m ∧ m < first + n
  skew : ∀ x ∈ all, ∀ y ∈ all, x.1 < y.1 → x.2.2 < y.2.2 + timeoutS

/-- A buffer that has taken in the arrivals `done` and has `R` still to come. -/
structure Smooth (first : ℤ) (b : ReorderBuffer P) (hist : List (ℤ × P))
    (done R : List (ℤ × P × Time)) (t : Time) : Prop where
  inv : Inv b hist
  timed : Timed b done t
  done_perm : (done.map fun x => (x.1, x.2.1)).Perm (hist ++ b.packets)
  lateDrops : b.stats.lateDrops = 0
  gapSkips : b.stats.gapSkips = 0
  first_le : b.started = true → first ≤ b.nextSeq
  primed : b.priming = true → ∃ x ∈ done, b.primeDeadline = x.2.2 + b.timeoutS
  opened : b.started = true → b.priming = false → ∀ x ∈ R, b.nextSeq ≤ x.1
  fresh : b.started = false → done = []

namespace Smooth

variable {first : ℤ} {n : ℕ} {b : ReorderBuffer P} {hist : List (ℤ × P)}
  {done R : List (ℤ × P × Time)} {t now : Time}

lemma mem_done (h : Smooth first b hist done R t) (m : ℤ) :
    m ∈ done.map Prod.fst ↔ m ∈ hist.map Prod.fst ∨ m ∈ b.pending.keys := by
  have hperm := (h.done_perm.map Prod.fst).mem_iff (a := m)
  rw [List.map_map, List.map_append, List.mem_append] at hperm
  have hkeys : b.packets.map Prod.fst = b.pending.keys := by
    simp [packets, Dict.keys, Function.comp_def]
  rw [hkeys] at hperm
  exact hperm

/-- Within the skew bound, the numbers to come are where `_drain` needs them. -/
lemma gapless (h : Smooth first b hist done R t) (hs : Skewed first n b.timeoutS (done ++ R))
    (hR : ∀ x ∈ R, now ≤ x.2.2) (hopen : ¬ (b.priming = true ∧ now < b.primeDeadline))
    (hstarted : b.started = true) : Gapless b (R.map Prod.fst) now := by
  have hdisj : ∀ m ∈ R.map Prod.fst, m ∉ done.map Prod.fst := by
    intro m hm hm'
    have hnd := hs.nodup
    rw [List.map_append] at hnd
    exact (List.nodup_append.1 hnd).2.2 m hm' m hm rfl
  refine ⟨?_, ?_, ?_, ?_⟩
  · intro m hm
    obtain ⟨x, hx, rfl⟩ := List.mem_map.1 hm
    by_cases hp : b.priming = true
    · -- priming ends a timeout after its first arrival, so what is to come is above it
      by_contra hlt
      obtain ⟨x₀, hx₀, hdl⟩ := h.primed hp
      have hx₀' : x₀.1 ∈ b.pending.keys := by
        have := (h.mem_done x₀.1).1 (List.mem_map.2 ⟨x₀, hx₀, rfl⟩)
        rw [h.inv.primed hp] at this
        simpa using this
      have hle := h.inv.tidy.nextSeq_le x₀.1 ((h.inv.tidy.mem_iff _).2 hx₀')
      have hskew := hs.skew x (List.mem_append_right _ hx) x₀ (List.mem_append_left _ hx₀)
        (by omega)
      have hnow : b.primeDeadline ≤ now := by
        by_contra hcon
        exact hopen ⟨hp, not_le.1 hcon⟩
      have := hR x hx
      linarith
    · exact h.opened hstarted (by simpa using hp) x hx
  · intro m hm hmem
    exact hdisj m hm ((h.mem_done m).2 (Or.inr hmem))
  · intro s hspend m hlow hms
    have hsall : s ∈ (done ++ R).map Prod.fst := by
      rw [List.map_append]
      exact List.mem_append_left _ ((h.mem_done s).2 (Or.inr hspend))
    have hsrange := (hs.mem_iff s).1 hsall
    have hfirst := h.first_le hstarted
    have hmall := (hs.mem_iff m).2 ⟨by omega, by omega⟩
    rw [List.map_append, List.mem_append, h.mem_done] at hmall
    rcases hmall with (hm | hm) | hm
    · obtain ⟨e, he, rfl⟩ := List.mem_map.1 hm
      have := h.inv.below e he
      omega
    · exact Or.inl hm
    · exact Or.inr hm
  · rintro s ⟨e, he, hdue⟩ m hm
    obtain ⟨x, hx, rfl⟩ := List.mem_map.1 hm
    obtain ⟨a, ha, rfl, hdl⟩ := h.timed.deadline s e he
    by_contra hlt
    have hne : x.1 ≠ a.1 := fun heq =>
      hdisj x.1 hm (by rw [heq]; exact List.mem_map.2 ⟨a, ha, rfl⟩)
    have hskew := hs.skew x (List.mem_append_right _ hx) a (List.mem_append_left _ ha) (by omega)
    have := hR x hx
    linarith

lemma drain (h : Smooth first b hist done R t) (hs : Skewed first n b.timeoutS (done ++ R))
    (hR : ∀ x ∈ R, now ≤ x.2.2) :
    Smooth first (b.drain now).2 (hist ++ (b.drain now).1) done R t := by
  have he := drain_emits h.inv.tidy now
  by_cases hopen : b.priming = true ∧ now < b.primeDeadline
  · rw [ReorderBuffer.drain, if_pos hopen]
    simpa using h
  · -- what `_drain` does to the skips and to the head of the stream
    have key : (b.drain now).2.stats.gapSkips = 0 ∧ (b.started = true →
        ∀ x ∈ R, (b.drain now).2.nextSeq ≤ x.1) := by
      rw [ReorderBuffer.drain, if_neg hopen]
      by_cases hstarted : b.started = true
      · have hg := h.gapless hs hR hopen hstarted
        have hloop := drainLoop_gapless (R.map Prod.fst) now b.heap { b with priming := false }
          ⟨h.inv.tidy.sorted, h.inv.tidy.mem_iff, h.inv.tidy.nextSeq_le⟩ rfl rfl
          ⟨hg.later, hg.disjoint, hg.filled, hg.notDue⟩
        refine ⟨hloop.1.trans h.gapSkips, fun _ x hx => ?_⟩
        exact hloop.2 x.1 (List.mem_map.2 ⟨x, hx, rfl⟩)
      · have hheap := (h.inv.fresh (by simpa using hstarted)).1
        rw [hheap]
        exact ⟨h.gapSkips, fun hst => absurd hst hstarted⟩
    exact
      { inv := h.inv.emits he
        timed := h.timed.emits he
        done_perm := by
          rw [List.append_assoc]
          exact h.done_perm.trans (he.packets_perm.append_left hist)
        lateDrops := he.lateDrops.trans h.lateDrops
        gapSkips := key.1
        first_le := fun hst => (h.first_le (he.started ▸ hst)).trans he.nextSeq_le
        primed := by
          intro hp
          rw [he.primeDeadline, he.timeoutS]
          exact h.primed (he.primed hp).1
        opened := fun hst _ => key.2 (he.started ▸ hst)
        fresh := fun hst => h.fresh (he.started ▸ hst) }

/-- The next arrival of the stream is held. -/
lemma held {x : ℤ × P × Time} (h : Smooth first b hist done (x :: R) t)
    (hs : Skewed first n b.timeoutS (done ++ x :: R)) (hle : t ≤ x.2.2) :
    x.1 ∉ b.pending.keys ∧ x.1 ∉ b.seen ∧ (b.locate x.1 x.2.2).nextSeq ≤ x.1 ∧
      Smooth first (b.held x.1 x.2.1 x.2.2) hist (done ++ [x]) R x.2.2 := by
  have hnot : x.1 ∉ done.map Prod.fst := by
    have hnd := hs.nodup
    rw [List.map_append] at hnd
    exact fun hm => (List.nodup_append.1 hnd).2.2 x.1 hm x.1 (by simp) rfl
  have hpend : x.1 ∉ b.pending.keys := fun hm => hnot ((h.mem_done x.1).2 (Or.inr hm))
  have hseen : x.1 ∉ b.seen := fun hm =>
    hnot ((h.mem_done x.1).2 (Or.inl (h.inv.seen_sub x.1 hm)))
  have hnext : (b.locate x.1 x.2.2).nextSeq ≤ x.1 := by
    by_contra hlt
    obtain ⟨heq, hst, hnp⟩ := locate_eq_of_lt (not_le.1 hlt)
    rw [heq] at hlt
    exact hlt (h.opened hst hnp x List.mem_cons_self)
  have hxfirst : first ≤ x.1 := ((hs.mem_iff x.1).1 (by simp)).1
  have hinv : Inv (b.held x.1 x.2.1 x.2.2) hist :=
    (h.inv.locate x.1 x.2.2).hold (by simpa using hpend) hnext (by simp) _ _
  refine ⟨hpend, hseen, hnext, ?_⟩
  refine
    { inv := hinv
      timed := (h.timed.mono hle).held h.inv x.1 x.2.1
      done_perm := ?_
      lateDrops := by simp [ReorderBuffer.held, hold, h.lateDrops]
      gapSkips := by simp [ReorderBuffer.held, hold, h.gapSkips]
      first_le := ?_
      primed := ?_
      opened := ?_
      fresh := by
        intro hst
        exact absurd (show (b.held x.1 x.2.1 x.2.2).started = true by
          simp [ReorderBuffer.held, hold]) (by simp [hst]) }
  · have hpackets := packets_hold (b := b.locate x.1 x.2.2) (by simpa using hpend) x.2.1 x.2.2
    rw [show (b.locate x.1 x.2.2).packets = b.packets by simp [packets]] at hpackets
    rw [show (b.held x.1 x.2.1 x.2.2).packets = b.packets ++ [(x.1, x.2.1)] from hpackets,
      List.map_append, ← List.append_assoc]
    exact h.done_perm.append_right _
  · intro _
    show first ≤ (b.locate x.1 x.2.2).nextSeq
    rcases b.locate_cases x.1 x.2.2 with ⟨-, heq⟩ | ⟨-, -, -, heq⟩ | ⟨hst, -, heq⟩
    · rw [heq]
      exact hxfirst
    · rw [heq]
      exact hxfirst
    · rw [heq]
      exact h.first_le hst
  · intro hp
    have hp' : (b.locate x.1 x.2.2).priming = true := hp
    show ∃ y ∈ done ++ [x], (b.locate x.1 x.2.2).primeDeadline =
      y.2.2 + (b.locate x.1 x.2.2).timeoutS
    -- the deadline of an interval that runs already is kept
    have hold : b.priming = true → ∃ y ∈ done ++ [x], b.primeDeadline = y.2.2 + b.timeoutS := by
      intro hp
      obtain ⟨y, hy, hdl⟩ := h.primed hp
      exact ⟨y, List.mem_append_left _ hy, hdl⟩
    rcases b.locate_cases x.1 x.2.2 with ⟨-, heq⟩ | ⟨-, hp, -, heq⟩ | ⟨-, -, heq⟩
    · rw [heq]
      exact ⟨x, by simp, rfl⟩
    · rw [heq]
      exact hold hp
    · rw [heq] at hp' ⊢
      exact hold hp'
  · intro _ hnp y hy
    have hnp' : (b.locate x.1 x.2.2).priming = false := hnp
    show (b.locate x.1 x.2.2).nextSeq ≤ y.1
    rcases b.locate_cases x.1 x.2.2 with ⟨-, heq⟩ | ⟨-, hp, -, heq⟩ | ⟨hst, -, heq⟩
    · rw [heq] at hnp'
      exact absurd hnp' (by simp)
    · rw [heq] at hnp'
      exact absurd (hp.symm.trans hnp') (by simp)
    · rw [heq] at hnp' ⊢
      exact h.opened hst hnp' y (List.mem_cons_of_mem _ hy)

end Smooth

/-- No overflow: when a packet has been taken in and what is deliverable has been released,
no more than the capacity is left. -/
def Roomy (b : ReorderBuffer P) : Op P → Prop
  | .push seq payload now => ((b.held seq payload now).drain now).2.pending.size ≤ b.capacity
  | _ => True

/-- Never more than the capacity is outstanding in a run. -/
def RoomyRun (ops : List (Op P)) (b₀ : ReorderBuffer P) : Prop :=
  ∀ pre op, pre ++ [op] <+: ops → (run pre b₀).2.Roomy op

lemma roomyRun_nil (b : ReorderBuffer P) : RoomyRun [] b := fun pre op hpre => by simp at hpre

lemma roomyRun_cons {op : Op P} {ops : List (Op P)} {b : ReorderBuffer P} :
    RoomyRun (op :: ops) b ↔ b.Roomy op ∧ RoomyRun ops (b.step op).2 := by
  constructor
  · intro h
    refine ⟨h [] op (by simp), fun pre op' hpre => ?_⟩
    have := h (op :: pre) op' (by simpa using hpre)
    rwa [run_cons] at this
  · rintro ⟨hop, hops⟩ pre op' hpre
    cases pre with
    | nil =>
      obtain rfl : op' = op := by simpa using hpre
      exact hop
    | cons p pre =>
      obtain ⟨rfl, hpre'⟩ := by simpa using hpre
      rw [run_cons]
      exact hops pre op' hpre'

/-- Under a clock that never goes back, what is still to be pushed is pushed later. -/
lemma le_of_mem_pushes {now : Time} {ops : List (Op P)}
    (h : (now :: ops.filterMap Op.now?).Pairwise (· ≤ ·)) : ∀ x ∈ pushes ops, now ≤ x.2.2 := by
  intro x hx
  obtain ⟨op, hop, hopx⟩ := List.mem_filterMap.1 hx
  refine (List.pairwise_cons.1 h).1 x.2.2 (List.mem_filterMap.2 ⟨op, hop, ?_⟩)
  cases op with
  | push seq payload t =>
    obtain rfl := Option.some.inj hopx
    rfl
  | tick t => exact absurd hopx (by simp)
  | flush => exact absurd hopx (by simp)

/-- A run within the skew bound and the capacity stays in step with its stream. -/
lemma Smooth.run {first : ℤ} {n : ℕ} {b : ReorderBuffer P} {hist : List (ℤ × P)}
    {done : List (ℤ × P × Time)} {t : Time} (ops : List (Op P))
    (h : Smooth first b hist done (pushes ops) t)
    (hs : Skewed first n b.timeoutS (done ++ pushes ops)) (hflush : Op.flush ∉ ops)
    (hroomy : RoomyRun ops b) (hmono : (t :: ops.filterMap Op.now?).Pairwise (· ≤ ·)) :
    ∃ t', Smooth first (ReorderBuffer.run ops b).2 (hist ++ (ReorderBuffer.run ops b).1)
      (done ++ pushes ops) [] t' := by
  induction ops generalizing b hist done t with
  | nil => exact ⟨t, by simpa [pushes] using h⟩
  | cons op ops ih =>
    rw [roomyRun_cons] at hroomy
    have hflush' : Op.flush ∉ ops := fun hf => hflush (List.mem_cons_of_mem _ hf)
    cases op with
    | flush => exact absurd List.mem_cons_self hflush
    | tick now =>
      have hpushes : pushes (Op.tick now :: ops) = pushes ops := rfl
      rw [hpushes] at h hs ⊢
      have hmono' : (t :: now :: ops.filterMap Op.now?).Pairwise (· ≤ ·) := hmono
      obtain ⟨hhead, htail⟩ := List.pairwise_cons.1 hmono'
      have hR := le_of_mem_pushes htail
      have h₁ := h.drain hs hR
      have he := drain_emits h.inv.tidy now
      have hs₁ : Skewed first n (b.drain now).2.timeoutS (done ++ pushes ops) := by
        rw [he.timeoutS]
        exact hs
      rw [run_cons, ← List.append_assoc]
      exact ih h₁ hs₁ hflush' hroomy.2
        (hmono'.sublist ((List.sublist_cons_self now _).cons_cons t))
    | push seq payload now =>
      have hpushes : pushes (Op.push seq payload now :: ops) =
          (seq, payload, now) :: pushes ops := rfl
      rw [hpushes] at h hs ⊢
      have hmono' : (t :: now :: ops.filterMap Op.now?).Pairwise (· ≤ ·) := hmono
      obtain ⟨hhead, htail⟩ := List.pairwise_cons.1 hmono'
      have hR := le_of_mem_pushes htail
      obtain ⟨hpend, hseen, hnext, hheld⟩ := h.held hs (hhead now List.mem_cons_self)
      have hs' : Skewed first n (b.held seq payload now).timeoutS
          (done ++ [(seq, payload, now)] ++ pushes ops) := by
        rw [held_timeoutS, List.append_assoc]
        exact hs
      have h₁ := hheld.drain hs' hR
      have he := drain_emits hheld.inv.tidy now
      have hstep : b.step (Op.push seq payload now) = (b.held seq payload now).drain now := by
        rcases push_cases h.inv seq payload now with ⟨hd | hd, -⟩ | ⟨hlt, -, hst, hnp, -⟩ |
          ⟨-, -, -, heq⟩
        · exact absurd hd hpend
        · exact absurd hd hseen
        · rw [locate_of_open hst hnp] at hnext
          omega
        · have hroom : ¬ ((b.held seq payload now).drain now).2.pending.size >
              ((b.held seq payload now).drain now).2.capacity := by
            rw [he.capacity, held_capacity, not_lt]
            exact hroomy.1
          rw [ReorderBuffer.step, heq, settle_eq, if_neg hroom]
      rw [run_cons, ← List.append_assoc, hstep]
      have := ih h₁ (by rw [he.timeoutS]; exact hs') hflush' (hstep ▸ hroomy.2) htail
      simpa only [List.append_assoc, List.singleton_append] using this

/-- When every deadline has passed, `_drain` leaves nothing. -/
lemma drain_eq_all {b : ReorderBuffer P} (h : Tidy b) {now : Time}
    (hprime : b.priming = true → b.primeDeadline ≤ now)
    (hdue : ∀ s e, b.pending.get? s = some e → e.2 ≤ now) : (b.drain now).2.heap = [] := by
  refine List.eq_nil_iff_forall_not_mem.2 fun s hs => ?_
  rw [mem_drain_heap h (fun hp => absurd hp.2 (not_lt.2 (hprime hp.1)))] at hs
  obtain ⟨-, q, ⟨-, -, e, he, hlt⟩, -⟩ := hs
  exact absurd hlt (not_lt.2 (hdue q e he))

/-- Three packets, of which the second arrives first and the first a quarter of a second
later. -/
def headBehind : List (Op ℕ) :=
  [.push 8 108 0, .push 7 107 (1 / 4), .tick (1 / 2), .push 9 109 1]

end Turbobond.Bond.ReorderBuffer
