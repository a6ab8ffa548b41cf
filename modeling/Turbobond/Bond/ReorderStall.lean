import Turbobond.Bond.ReorderSafety

/-!
# How long a packet can be held

A packet is meant to be held for at most the timeout.  Only the deadline of the lowest
pending number is looked at, however, so a packet whose deadline has passed stays behind a
lower one that arrived after it and still waits for a gap to fill; and a push that is
refused does not look at any deadline.  `stall_bounded_iff` says exactly when no call of a
run leaves a packet that has been held for the timeout.
-/

namespace Turbobond.Bond.ReorderBuffer

variable {P : Type}

/-- A pending packet whose deadline has passed. -/
def Overdue (b : ReorderBuffer P) (now : Time) (s : ℤ) : Prop :=
  ∃ e, b.pending.get? s = some e ∧ e.2 ≤ now

/-- A pending packet that is behind a gap and still waits for it to fill. -/
def Waits (b : ReorderBuffer P) (now : Time) (q : ℤ) : Prop :=
  q ≠ b.nextSeq ∧ q - 1 ∉ b.pending.keys ∧ ∃ e, b.pending.get? q = some e ∧ now < e.2

lemma Overdue.mem_heap {b : ReorderBuffer P} (h : Tidy b) {now : Time} {s : ℤ}
    (hs : b.Overdue now s) : s ∈ b.heap := by
  obtain ⟨e, he, -⟩ := hs
  exact h.mem_heap he

/-- What is overdue after packets have been released was overdue before. -/
lemma Emits.overdue_iff {b b' : ReorderBuffer P} {out : List (ℤ × P)} (h : Emits b out b')
    (now : Time) (s : ℤ) : b'.Overdue now s ↔ s ∈ b'.heap ∧ b.Overdue now s := by
  constructor
  · intro hs
    have hmem := hs.mem_heap h.tidy
    obtain ⟨e, he, hle⟩ := hs
    exact ⟨hmem, e, (h.get?_eq s hmem).symm.trans he, hle⟩
  · rintro ⟨hmem, e, he, hle⟩
    exact ⟨e, (h.get?_eq s hmem).trans he, hle⟩

/-! ### What `_drain` leaves -/

/-- Releasing a packet that does not wait changes nothing about which packets do. -/
lemma waits_next {b : ReorderBuffer P} (h : Tidy b) {head : ℤ} {rest : List ℤ}
    (hheap : b.heap = head :: rest) (gap : ℤ) {now : Time} (hnot : ¬ b.Waits now head) (q : ℤ) :
    (((b.skip gap).pop head rest).advance head).Waits now q ↔ b.Waits now q := by
  have hhead : head ∈ b.pending.keys := h.head_mem hheap
  simp only [Waits, advance_nextSeq, advance_pending, pop, skip, Dict.mem_keys_erase]
  constructor
  · rintro ⟨hne, hpred, e, he, hlt⟩
    have hq : q ≠ head := by
      rintro rfl
      simp at he
    rw [Dict.get?_erase_of_ne _ hq] at he
    have hmem := h.mem_heap he
    rw [hheap, List.mem_cons] at hmem
    have hlt' : head < q := h.head_lt hheap q (hmem.resolve_left hq)
    have hle := h.nextSeq_le_head hheap
    refine ⟨by omega, fun hp => hpred ⟨by omega, hp⟩, e, he, hlt⟩
  · rintro ⟨hne, hpred, e, he, hlt⟩
    have hq : q ≠ head := by
      rintro rfl
      exact hnot ⟨hne, hpred, e, he, hlt⟩
    refine ⟨?_, fun hp => hpred hp.2, e, by rw [Dict.get?_erase_of_ne _ hq]; exact he, hlt⟩
    intro hsucc
    exact hpred (by rw [hsucc, add_sub_cancel_right]; exact hhead)

/-- `_drain` stops at the first packet that waits, so it leaves the packets at or above
one. -/
lemma mem_drainLoop_heap (now : Time) (heap : List ℤ) :
    ∀ b : ReorderBuffer P, Tidy b → b.heap = heap → b.priming = false → ∀ s,
      s ∈ (drainLoop now heap b).2.heap ↔ s ∈ heap ∧ ∃ q, b.Waits now q ∧ q ≤ s := by
  induction heap with
  | nil => intro b _ hheap _ s; simp [drainLoop, hheap]
  | cons head rest ih =>
    intro b h hheap hnp s
    have hle : ¬ head < b.nextSeq := not_lt.2 (h.nextSeq_le_head hheap)
    obtain ⟨⟨payload, deadline⟩, hget⟩ := (b.pending.mem_keys_iff head).1 (h.head_mem hheap)
    -- a head that does not wait is released, and it is below every packet that waits
    have hnext : ∀ gap : ℤ, ¬ b.Waits now head →
        (s ∈ (drainLoop now rest (((b.skip gap).pop head rest).advance head)).2.heap ↔
          s ∈ head :: rest ∧ ∃ q, b.Waits now q ∧ q ≤ s) := by
      intro gap hnot
      have h₁ := emits_head h hheap gap hnp hget
      rw [ih _ h₁.tidy (by simp [pop]) (by simp [pop, skip, hnp])]
      simp only [waits_next h hheap gap hnot, List.mem_cons]
      constructor
      · rintro ⟨hs, hq⟩
        exact ⟨Or.inr hs, hq⟩
      · rintro ⟨rfl | hs, q, hq, hqs⟩
        · exfalso
          obtain ⟨-, -, e, he, -⟩ := id hq
          have hmem := h.mem_heap he
          rw [hheap, List.mem_cons] at hmem
          rcases hmem with rfl | hmem
          · exact hnot hq
          · have := h.head_lt hheap q hmem
            omega
        · exact ⟨hs, q, hq, hqs⟩
    simp only [drainLoop, if_neg hle, hget]
    split
    · rename_i heq
      simpa only [skip_zero] using hnext 0 fun hw => hw.1 heq
    · rename_i hne
      split
      · rename_i hdl
        refine hnext _ ?_
        rintro ⟨-, -, e, he, hlt⟩
        rw [hget] at he
        obtain rfl := Option.some.inj he
        exact absurd hlt (not_lt.2 hdl)
      · rename_i hdl
        have hwaits : b.Waits now head := by
          refine ⟨hne, ?_, _, hget, not_le.1 hdl⟩
          rw [← h.mem_iff, hheap, List.mem_cons]
          rintro (hc | hc)
          · omega
          · have := h.head_lt hheap _ hc
            omega
        rw [hheap]
        constructor
        · intro hs
          refine ⟨hs, head, hwaits, ?_⟩
          rcases List.mem_cons.1 hs with rfl | hs
          · exact le_rfl
          · exact (h.head_lt hheap s hs).le
        · exact fun hs => hs.1

/-- `_drain`, once the priming interval is over. -/
lemma mem_drain_heap {b : ReorderBuffer P} (h : Tidy b) {now : Time}
    (hopen : ¬ (b.priming = true ∧ now < b.primeDeadline)) (s : ℤ) :
    s ∈ (b.drain now).2.heap ↔ s ∈ b.heap ∧ ∃ q, b.Waits now q ∧ q ≤ s := by
  rw [drain, if_neg hopen]
  exact mem_drainLoop_heap now b.heap { b with priming := false }
    ⟨h.sorted, h.mem_iff, h.nextSeq_le⟩ rfl rfl s

/-! ### What an overflow leaves -/

/-- In a strictly sorted list, what is left after dropping a prefix are the elements with
few enough above them. -/
lemma mem_drop_iff_of_sorted {l : List ℤ} (h : l.Pairwise (· < ·)) {s : ℤ} (hs : s ∈ l)
    (k : ℕ) : s ∈ l.drop (l.length - k) ↔ (l.filter (s < ·)).length < k := by
  obtain ⟨front, back, rfl⟩ := List.append_of_mem hs
  obtain ⟨-, hsb, hfb⟩ := List.pairwise_append.1 h
  obtain ⟨hback, -⟩ := List.pairwise_cons.1 hsb
  have hfilter : (front ++ s :: back).filter (s < ·) = back := by
    rw [List.filter_append, List.filter_eq_nil_iff.2, List.nil_append, List.filter_cons_of_neg,
      List.filter_eq_self.2]
    · intro t ht; simpa using hback t ht
    · simp
    · intro t ht
      have := hfb t ht s List.mem_cons_self
      simpa using this.le
  rw [hfilter]
  constructor
  · intro hmem
    by_contra hk
    rw [List.drop_append, List.drop_eq_nil_of_le (by simp; omega), List.nil_append] at hmem
    have hpos : ∃ m, (front ++ s :: back).length - k - front.length = m + 1 :=
      ⟨back.length - k, by simp; omega⟩
    obtain ⟨m, hm⟩ := hpos
    rw [hm, List.drop_succ_cons] at hmem
    exact absurd (hback s (List.mem_of_mem_drop hmem)) (lt_irrefl s)
  · intro hk
    have hle : (front ++ s :: back).length - k ≤ front.length := by simp; omega
    rw [List.drop_append_of_le_length hle]
    exact List.mem_append_right _ List.mem_cons_self

/-! ### Times -/

/-- Every pending packet was accepted one timeout before its deadline, and while the buffer
is priming no deadline is before the end of the priming interval. -/
structure Timed (b : ReorderBuffer P) (acc : List (ℤ × P × Time)) (now : Time) : Prop where
  deadline : ∀ s e, b.pending.get? s = some e → ∃ a ∈ acc, a.1 = s ∧ e.2 = a.2.2 + b.timeoutS
  prime_le : b.priming = true → b.primeDeadline ≤ now + b.timeoutS
  le_deadline : b.priming = true → ∀ s e, b.pending.get? s = some e → b.primeDeadline ≤ e.2

namespace Timed

variable {b b' : ReorderBuffer P} {acc : List (ℤ × P × Time)} {now now' : Time}

lemma mono (h : Timed b acc now) (hle : now ≤ now') : Timed b acc now' :=
  { h with prime_le := fun hp => (h.prime_le hp).trans (by linarith) }

lemma emits (h : Timed b acc now) {out : List (ℤ × P)} (he : Emits b out b') :
    Timed b' acc now where
  deadline := by
    intro s e hs
    rw [he.get?_eq s (he.tidy.mem_heap hs)] at hs
    rw [he.timeoutS]
    exact h.deadline s e hs
  prime_le := by
    intro hp
    rw [he.primeDeadline, he.timeoutS]
    exact h.prime_le (he.primed hp).1
  le_deadline := by
    intro hp s e hs
    rw [he.get?_eq s (he.tidy.mem_heap hs)] at hs
    rw [he.primeDeadline]
    exact h.le_deadline (he.primed hp).1 s e hs

/-- The first packet starts the priming interval, when nothing is pending yet. -/
lemma locate {hist : List (ℤ × P)} (h : Timed b acc now) (hinv : Inv b hist) (seq : ℤ) :
    Timed (b.locate seq now) acc now := by
  rcases b.locate_cases seq now with ⟨hns, heq⟩ | ⟨-, -, -, heq⟩ | ⟨-, -, heq⟩
  · have hnone : ∀ s e, b.pending.get? s ≠ some e := by
      intro s e hs
      have hmem := hinv.tidy.mem_heap hs
      rw [(hinv.fresh hns).1] at hmem
      exact absurd hmem List.not_mem_nil
    rw [heq]
    exact ⟨fun s e hs => absurd hs (hnone s e), fun _ => le_rfl,
      fun _ s e hs => absurd hs (hnone s e)⟩
  · rw [heq]
    exact ⟨h.deadline, h.prime_le, h.le_deadline⟩
  · rw [heq]
    exact h

lemma held {hist : List (ℤ × P)} (h : Timed b acc now) (hinv : Inv b hist) (seq : ℤ)
    (payload : P) :
    Timed (b.held seq payload now) (acc ++ [(seq, payload, now)]) now := by
  have hloc := h.locate hinv seq
  have hget : ∀ s e, (b.held seq payload now).pending.get? s = some e →
      (s = seq ∧ e.2 = now + (b.locate seq now).timeoutS) ∨
        (b.locate seq now).pending.get? s = some e := by
    intro s e hs
    simp only [ReorderBuffer.held, hold, Dict.get?_set] at hs
    split at hs
    · rename_i hseq
      obtain rfl := Option.some.inj hs
      exact Or.inl ⟨hseq, rfl⟩
    · exact Or.inr hs
  refine ⟨?_, hloc.prime_le, ?_⟩
  · intro s e hs
    rcases hget s e hs with ⟨rfl, he⟩ | hs
    · exact ⟨_, List.mem_append_right _ List.mem_cons_self, rfl, he⟩
    · obtain ⟨a, ha, hseq, he⟩ := hloc.deadline s e hs
      exact ⟨a, List.mem_append_left _ ha, hseq, he⟩
  · intro hp s e hs
    rcases hget s e hs with ⟨rfl, he⟩ | hs
    · rw [he]
      exact hloc.prime_le hp
    · exact hloc.le_deadline hp s e hs

/-- A call at a later time keeps the times of the packets it leaves pending. -/
lemma step {hist : List (ℤ × P)} (h : Timed b acc now) (hinv : Inv b hist) (op : Op P)
    (hnow : ∀ t, op.now? = some t → now ≤ t) :
    Timed (b.step op).2 (acc ++ b.acceptedBy op) (op.now?.getD now) := by
  cases op with
  | tick t =>
    simp only [acceptedBy, List.append_nil]
    exact (h.emits (drain_emits hinv.tidy t)).mono (hnow t rfl)
  | flush =>
    simp only [acceptedBy, List.append_nil]
    exact h.emits (flush_emits hinv.tidy)
  | push seq payload t =>
    have hle : now ≤ t := hnow t rfl
    simp only [ReorderBuffer.step, acceptedBy, Op.now?, Option.getD_some]
    rcases push_cases hinv seq payload t with ⟨-, heq⟩ | ⟨-, -, -, -, heq⟩ | ⟨-, -, hinv', heq⟩
    · rw [heq]
      simp only [countDuplicate, Nat.succ_ne_self, false_and, if_false, List.append_nil]
      exact ⟨h.deadline, (h.mono hle).prime_le, h.le_deadline⟩
    · rw [heq]
      simp only [countLate, Nat.succ_ne_self, and_false, if_false, List.append_nil]
      exact ⟨h.deadline, (h.mono hle).prime_le, h.le_deadline⟩
    · rw [heq]
      have he := settle_emits hinv'.tidy t
      rw [if_pos]
      · exact ((h.mono hle).held hinv seq payload).emits he
      · rw [he.duplicates, he.lateDrops]
        simp [ReorderBuffer.held, hold]

/-- Nothing is overdue before the priming interval is over. -/
lemma not_overdue (h : Timed b acc now) (hp : b.priming = true) (hlt : now' < b.primeDeadline)
    (s : ℤ) : ¬ b.Overdue now' s := by
  rintro ⟨e, he, hle⟩
  exact absurd (h.le_deadline hp s e he) (not_le.2 (hle.trans_lt hlt))

end Timed

/-! ### When a call leaves nothing overdue -/

/-- A push of this number is refused, as a duplicate or as late. -/
def Refuses (b : ReorderBuffer P) (seq : ℤ) (now : Time) : Prop :=
  seq ∈ b.pending.keys ∨ seq ∈ b.seen ∨ seq < (b.locate seq now).nextSeq

/-- No overdue packet is behind one that waits. -/
def Unstalled (b : ReorderBuffer P) (now : Time) : Prop :=
  ∀ s q, b.Overdue now s → b.Waits now q → s < q

/-- An overdue packet is pushed out by the overflow that follows: more packets than the
capacity are at or above one that waits, and half the capacity is above it. -/
def PushedOut (b : ReorderBuffer P) (now : Time) (s : ℤ) : Prop :=
  (∃ q, b.Waits now q ∧ b.capacity < (b.heap.filter (q ≤ ·)).length) ∧
    b.capacity / 2 ≤ (b.heap.filter (s < ·)).length

/-- The condition on a call, in terms of the buffer before it. -/
def StallFree (b : ReorderBuffer P) : Op P → Prop
  | .tick now => b.Unstalled now
  | .push seq payload now =>
    (b.Refuses seq now → ∀ s, ¬ b.Overdue now s) ∧
      (¬ b.Refuses seq now → ∀ s, (b.held seq payload now).Overdue now s →
        (∀ q, (b.held seq payload now).Waits now q → s < q) ∨
          (b.held seq payload now).PushedOut now s)
  | .flush => True

/-- What `_drain` leaves, when it leaves anything, starts with a packet that waits. -/
lemma exists_least_waits {b : ReorderBuffer P} (h : Tidy b) {now : Time}
    (hopen : ¬ (b.priming = true ∧ now < b.primeDeadline)) {s : ℤ}
    (hs : s ∈ (b.drain now).2.heap) :
    ∃ q, b.Waits now q ∧ ∀ t, t ∈ (b.drain now).2.heap ↔ t ∈ b.heap ∧ q ≤ t := by
  have htidy := (drain_emits h now).tidy
  obtain ⟨head, rest, hheap⟩ : ∃ head rest, (b.drain now).2.heap = head :: rest :=
    List.exists_cons_of_ne_nil (List.ne_nil_of_mem hs)
  have hmin : ∀ t ∈ (b.drain now).2.heap, head ≤ t := by
    intro t ht
    rw [hheap, List.mem_cons] at ht
    rcases ht with rfl | ht
    · exact le_rfl
    · exact (htidy.head_lt hheap t ht).le
  have hhead : head ∈ (b.drain now).2.heap := by rw [hheap]; exact List.mem_cons_self
  obtain ⟨-, q, hq, hqle⟩ := (mem_drain_heap h hopen head).1 hhead
  have hqmem : q ∈ (b.drain now).2.heap := by
    rw [mem_drain_heap h hopen]
    obtain ⟨-, -, e, he, -⟩ := id hq
    exact ⟨h.mem_heap he, q, hq, le_rfl⟩
  have hqe : q = head := le_antisymm hqle (hmin q hqmem)
  refine ⟨q, hq, fun t => ⟨fun ht => ⟨((mem_drain_heap h hopen t).1 ht).1, ?_⟩, ?_⟩⟩
  · rw [hqe]
    exact hmin t ht
  · rintro ⟨ht, hqt⟩
    exact (mem_drain_heap h hopen t).2 ⟨ht, q, hq, hqt⟩

/-- `_drain` releases from below, so it leaves the packets above one that it leaves. -/
lemma filter_drain_heap {b : ReorderBuffer P} (h : Tidy b) (now : Time) {s : ℤ}
    (hs : s ∈ (b.drain now).2.heap) :
    (b.drain now).2.heap.filter (s < ·) = b.heap.filter (s < ·) := by
  have he := drain_emits h now
  have hsorted := h.sorted
  rw [he.heap_eq] at hsorted
  have hbelow : ((b.drain now).1.map Prod.fst).filter (s < ·) = [] := by
    rw [List.filter_eq_nil_iff]
    intro t ht
    have := (List.pairwise_append.1 hsorted).2.2 t ht s hs
    simpa using this.le
  rw [he.heap_eq, List.filter_append, hbelow, List.nil_append]

/-- `_drain` leaves more than the capacity exactly when more than the capacity are at or
above a packet that waits. -/
lemma exists_waits_over_iff {b : ReorderBuffer P} (h : Tidy b) {now : Time}
    (hopen : ¬ (b.priming = true ∧ now < b.primeDeadline)) {s : ℤ}
    (hs : s ∈ (b.drain now).2.heap) :
    (∃ q, b.Waits now q ∧ b.capacity < (b.heap.filter (q ≤ ·)).length) ↔
      (b.drain now).2.pending.size > (b.drain now).2.capacity := by
  have he := drain_emits h now
  rw [← he.tidy.length_heap, he.capacity]
  constructor
  · rintro ⟨q, hq, hlt⟩
    have hkept : (b.heap.filter (q ≤ ·)).length ≤ (b.drain now).2.heap.length := by
      refine List.Subperm.length_le ((h.nodup.filter _).subperm ?_)
      intro t ht
      obtain ⟨ht, hle⟩ := List.mem_filter.1 ht
      exact (mem_drain_heap h hopen t).2 ⟨ht, q, hq, by simpa using hle⟩
    exact hlt.trans_le hkept
  · intro hlt
    -- what is left are the packets at or above the least one that waits
    obtain ⟨q, hq, hmem⟩ := exists_least_waits h hopen hs
    have hleast : (b.drain now).2.heap.length ≤ (b.heap.filter (q ≤ ·)).length := by
      refine List.Subperm.length_le (he.tidy.nodup.subperm ?_)
      intro t ht
      rw [List.mem_filter]
      simpa using (hmem t).1 ht
    exact ⟨q, hq, hlt.trans_le hleast⟩

/-- The end of a push keeps an overdue packet that `_drain` left, unless the overflow
pushes it out. -/
lemma mem_settle_heap {b : ReorderBuffer P} (h : Tidy b) {now : Time}
    (hopen : ¬ (b.priming = true ∧ now < b.primeDeadline)) (s : ℤ) :
    s ∈ (b.settle now).2.heap ↔
      s ∈ b.heap ∧ (∃ q, b.Waits now q ∧ q ≤ s) ∧ ¬ b.PushedOut now s := by
  have he := drain_emits h now
  by_cases hs : s ∈ (b.drain now).2.heap
  · have hleft := (mem_drain_heap h hopen s).1 hs
    rw [PushedOut, exists_waits_over_iff h hopen hs, ← filter_drain_heap h now hs, settle_eq]
    split
    · rename_i hgt
      rw [forceFlush_heap he.tidy, mem_drop_iff_of_sorted he.tidy.sorted hs, he.capacity]
      constructor
      · intro hlt
        exact ⟨hleft.1, hleft.2, fun hp => absurd hp.2 (not_le.2 hlt)⟩
      · rintro ⟨-, -, hp⟩
        by_contra hlt
        exact hp ⟨he.capacity ▸ hgt, not_lt.1 hlt⟩
    · rename_i hgt
      exact iff_of_true hs ⟨hleft.1, hleft.2, fun hp => hgt hp.1⟩
  · have hnot : s ∉ (b.settle now).2.heap := by
      intro hmem
      rw [settle_eq] at hmem
      split at hmem
      · rw [forceFlush_heap he.tidy] at hmem
        exact hs (List.mem_of_mem_drop hmem)
      · exact hs hmem
    refine iff_of_false hnot ?_
    rintro ⟨hmem, hq, -⟩
    exact hs ((mem_drain_heap h hopen s).2 ⟨hmem, hq⟩)

/-- A call leaves nothing overdue exactly when it meets the condition. -/
theorem none_overdue_iff {b : ReorderBuffer P} {hist : List (ℤ × P)}
    {acc : List (ℤ × P × Time)} {t now : Time} (hinv : Inv b hist) (ht : Timed b acc t) (op : Op P)
    (hop : op.now? = some now) (hle : t ≤ now) :
    (∀ s, ¬ (b.step op).2.Overdue now s) ↔ b.StallFree op := by
  cases op with
  | flush => exact absurd hop (by simp [Op.now?])
  | tick t' =>
    obtain rfl : t' = now := by simpa [Op.now?] using hop
    have he := drain_emits hinv.tidy t'
    simp only [StallFree, Unstalled, ReorderBuffer.step, tick, he.overdue_iff]
    by_cases hopen : b.priming = true ∧ t' < b.primeDeadline
    · have hno := ht.not_overdue hopen.1 hopen.2
      exact iff_of_true (fun s hs => hno s hs.2) fun s _ hs => absurd hs (hno s)
    · simp only [mem_drain_heap hinv.tidy hopen]
      constructor
      · intro h s q hs hq
        by_contra hlt
        exact h s ⟨⟨hs.mem_heap hinv.tidy, q, hq, not_lt.1 hlt⟩, hs⟩
      · rintro h s ⟨⟨-, q, hq, hqs⟩, hs⟩
        exact absurd (h s q hs hq) (not_lt.2 hqs)
  | push seq payload t' =>
    obtain rfl : t' = now := by simpa [Op.now?] using hop
    simp only [StallFree, ReorderBuffer.step]
    rcases push_cases hinv seq payload t' with ⟨hdup, heq⟩ | ⟨hlate, hpend, hst, hnp, heq⟩ |
      ⟨hpend, hnext, hinv', heq⟩
    · -- a refused push looks at no deadline, so nothing may have been overdue before
      have href : b.Refuses seq t' := hdup.imp_right Or.inl
      rw [heq]
      simp only [href, true_imp_iff, not_true, false_imp_iff, and_true]
      rfl
    · have href : b.Refuses seq t' := by
        refine Or.inr (Or.inr ?_)
        rw [locate_of_open hst hnp]
        exact hlate
      rw [heq]
      simp only [href, true_imp_iff, not_true, false_imp_iff, and_true]
      rfl
    · have hseen : seq ∉ b.seen := by
        intro hs
        rw [hinv.locate_eq (Or.inr hs)] at hnext
        obtain ⟨e, he, rfl⟩ := List.mem_map.1 (hinv.seen_sub _ hs)
        have := hinv.below e he
        omega
      have href : ¬ b.Refuses seq t' := by
        rintro (hr | hr | hr)
        · exact hpend hr
        · exact hseen hr
        · omega
      -- what is left overdue was not released, and not pushed out
      rw [heq]
      have he := settle_emits hinv'.tidy t'
      have ht' := (ht.mono hle).held hinv seq payload
      simp only [href, false_imp_iff, not_false_eq_true, true_imp_iff, true_and, he.overdue_iff]
      by_cases hopen :
          (b.held seq payload t').priming = true ∧ t' < (b.held seq payload t').primeDeadline
      · have hno := ht'.not_overdue hopen.1 hopen.2
        exact iff_of_true (fun s hs => hno s hs.2) fun s hs => absurd hs (hno s)
      · simp only [mem_settle_heap hinv'.tidy hopen]
        constructor
        · intro h s hs
          by_contra hcon
          rw [not_or] at hcon
          obtain ⟨hw, hp⟩ := hcon
          push Not at hw
          obtain ⟨q, hq, hqs⟩ := hw
          exact h s ⟨⟨hs.mem_heap hinv'.tidy, ⟨q, hq, hqs⟩, hp⟩, hs⟩
        · rintro h s ⟨⟨-, ⟨q, hq, hqs⟩, hp⟩, hs⟩
          rcases h s hs with h | h
          · exact absurd (h q hq) (not_lt.2 hqs)
          · exact hp h

/-! ### Whole runs -/

/-- The clock readings of a run never decrease. -/
def ClockMonotone (ops : List (Op P)) : Prop := (ops.filterMap Op.now?).Pairwise (· ≤ ·)

/-- The least clock reading of a run, or any time if there is none. -/
lemma exists_le_clock (ops : List (Op P)) (hclock : ClockMonotone ops) :
    ∃ t : Time, (t :: ops.filterMap Op.now?).Pairwise (· ≤ ·) := by
  cases hfm : ops.filterMap Op.now? with
  | nil => exact ⟨0, List.pairwise_singleton _ _⟩
  | cons u us =>
    rw [ClockMonotone, hfm] at hclock
    refine ⟨u, List.pairwise_cons.2 ⟨fun v hv => ?_, hclock⟩⟩
    rcases List.mem_cons.1 hv with rfl | hv
    · exact le_rfl
    · exact (List.pairwise_cons.1 hclock).1 v hv

/-- After every call with a clock reading, no packet accepted one timeout before it, or
earlier, is still pending. -/
def StallBounded (ops : List (Op P)) (b₀ : ReorderBuffer P) : Prop :=
  ∀ pre op now, pre ++ [op] <+: ops → op.now? = some now →
    ∀ a ∈ accepted (pre ++ [op]) b₀, a.2.2 ≤ now - b₀.timeoutS →
      a.1 ∉ (run (pre ++ [op]) b₀).2.pending.keys

/-- Every call of a run meets the condition, in the state before it. -/
def StallFreeRun (ops : List (Op P)) (b₀ : ReorderBuffer P) : Prop :=
  ∀ pre op, pre ++ [op] <+: ops → (run pre b₀).2.StallFree op

lemma accepted_append (ops ops' : List (Op P)) (b : ReorderBuffer P) :
    accepted (ops ++ ops') b = accepted ops b ++ accepted ops' (run ops b).2 := by
  induction ops generalizing b with
  | nil => rfl
  | cons op ops ih =>
    rw [List.cons_append, accepted, accepted, ih, List.append_assoc, run_cons]

lemma run_timeoutS {b : ReorderBuffer P} {hist : List (ℤ × P)} (h : Inv b hist)
    (ops : List (Op P)) : (run ops b).2.timeoutS = b.timeoutS := by
  induction ops generalizing b hist with
  | nil => rfl
  | cons op ops ih =>
    rw [run_cons, ih (h.step op)]
    cases op with
    | tick now => exact (drain_emits h.tidy now).timeoutS
    | flush => exact (flush_emits h.tidy).timeoutS
    | push seq payload now =>
      simp only [ReorderBuffer.step]
      rcases push_cases h seq payload now with ⟨-, heq⟩ | ⟨-, -, -, -, heq⟩ | ⟨-, -, hinv, heq⟩
      · rw [heq]; rfl
      · rw [heq]; rfl
      · rw [heq, (settle_emits hinv.tidy now).timeoutS, held_timeoutS]

/-- The times of a run: the buffer it ends in is timed by the last clock reading. -/
lemma Timed.run {b : ReorderBuffer P} {hist : List (ℤ × P)} {acc : List (ℤ × P × Time)}
    {t : Time} (hinv : Inv b hist) (ht : Timed b acc t) (ops : List (Op P))
    (hmono : (t :: ops.filterMap Op.now?).Pairwise (· ≤ ·)) :
    ∃ t', Timed (ReorderBuffer.run ops b).2 (acc ++ accepted ops b) t' ∧
      ∀ now, (∀ u ∈ t :: ops.filterMap Op.now?, u ≤ now) → t' ≤ now := by
  induction ops generalizing b hist acc t with
  | nil => exact ⟨t, by simpa [accepted] using ht, fun now h => h t List.mem_cons_self⟩
  | cons op ops ih =>
    obtain ⟨hhead, htail⟩ := List.pairwise_cons.1 hmono
    cases hnow : op.now? with
    | none =>
      rw [List.filterMap_cons_none hnow] at hmono ⊢
      have h₁ := ht.step hinv op (by simp [hnow])
      rw [hnow, Option.getD_none] at h₁
      obtain ⟨t', ht', hle⟩ := ih (hinv.step op) h₁ hmono
      exact ⟨t', by simpa [accepted, run_cons, List.append_assoc] using ht', hle⟩
    | some u =>
      rw [List.filterMap_cons_some hnow] at hhead htail ⊢
      have h₁ := ht.step hinv op (by
        intro v hv
        rw [hnow] at hv
        obtain rfl := Option.some.inj hv
        exact hhead u List.mem_cons_self)
      rw [hnow, Option.getD_some] at h₁
      obtain ⟨t', ht', hle⟩ := ih (hinv.step op) h₁ htail
      refine ⟨t', by simpa [accepted, run_cons, List.append_assoc] using ht', fun now h => ?_⟩
      exact hle now fun v hv => h v (List.mem_cons_of_mem _ hv)

lemma timed_new (timeoutMs : ℚ) (capacity : ℤ) (t : Time) :
    Timed (new timeoutMs capacity : ReorderBuffer P) [] t :=
  ⟨by simp [new], by simp [new], by simp [new]⟩

/-- In terms of the accepted packets: nothing accepted a timeout ago is pending exactly
when nothing is overdue. -/
lemma forall_accepted_iff {timeoutMs : ℚ} {capacity : ℤ} {ops : List (Op P)} {t now : Time}
    (ht : Timed (run ops (new timeoutMs capacity)).2 (accepted ops (new timeoutMs capacity)) t) :
    (∀ a ∈ accepted ops (new timeoutMs capacity : ReorderBuffer P),
        a.2.2 ≤ now - (new timeoutMs capacity : ReorderBuffer P).timeoutS →
        a.1 ∉ (run ops (new timeoutMs capacity)).2.pending.keys) ↔
      ∀ s, ¬ (run ops (new timeoutMs capacity)).2.Overdue now s := by
  have htime := run_timeoutS (inv_new (P := P) timeoutMs capacity) ops
  constructor
  · rintro h s ⟨e, he, hle⟩
    obtain ⟨a, ha, hseq, hdl⟩ := ht.deadline s e he
    refine h a ha ?_ (by rw [hseq]; exact (Dict.mem_keys_iff _ _).2 ⟨e, he⟩)
    rw [htime] at hdl
    linarith
  · intro h a ha hle hmem
    obtain ⟨e, he⟩ := (Dict.mem_keys_iff _ _).1 hmem
    obtain ⟨a', ha', hseq, hdl⟩ := ht.deadline _ e he
    have heq := List.inj_on_of_nodup_map (accepted_nodup timeoutMs capacity ops) ha' ha hseq
    rw [htime, heq] at hdl
    exact h a.1 ⟨e, he, by linarith⟩

/-- A run of a new buffer, with a clock reading that is not before any other, ends in a
buffer timed by a reading no later than that one. -/
lemma exists_timed_run (timeoutMs : ℚ) (capacity : ℤ) {pre : List (Op P)} {op : Op P} {now : Time}
    (hclock : ClockMonotone (pre ++ [op])) (hop : op.now? = some now) :
    ∃ t ≤ now, Timed (run pre (new timeoutMs capacity)).2 (accepted pre (new timeoutMs capacity))
      t := by
  obtain ⟨t₀, ht₀⟩ := exists_le_clock _ hclock
  rw [List.filterMap_append, List.filterMap_cons_some hop, List.filterMap_nil,
    ← List.cons_append] at ht₀
  obtain ⟨hpre, -, hlast⟩ := List.pairwise_append.1 ht₀
  obtain ⟨t, ht, htle⟩ :=
    (timed_new (P := P) timeoutMs capacity t₀).run (inv_new timeoutMs capacity) pre hpre
  exact ⟨t, htle now fun u hu => hlast u hu now List.mem_cons_self, ht⟩

/-- One call of a run: what it leaves, against the condition on the state before it. -/
lemma forall_accepted_call_iff (timeoutMs : ℚ) (capacity : ℤ) {pre : List (Op P)} {op : Op P}
    {now : Time} (hclock : ClockMonotone (pre ++ [op])) (hop : op.now? = some now) :
    (∀ a ∈ accepted (pre ++ [op]) (new timeoutMs capacity : ReorderBuffer P),
        a.2.2 ≤ now - (new timeoutMs capacity : ReorderBuffer P).timeoutS →
        a.1 ∉ (run (pre ++ [op]) (new timeoutMs capacity)).2.pending.keys) ↔
      (run pre (new timeoutMs capacity)).2.StallFree op := by
  obtain ⟨t, hle, ht⟩ := exists_timed_run timeoutMs capacity hclock hop
  have hinv := (inv_new (P := P) timeoutMs capacity).run pre
  rw [List.nil_append] at hinv
  have hstep := ht.step hinv op (by
    intro v hv
    rw [hop] at hv
    obtain rfl := Option.some.inj hv
    exact hle)
  have hrun : (run (pre ++ [op]) (new timeoutMs capacity : ReorderBuffer P)).2 =
      ((run pre (new timeoutMs capacity)).2.step op).2 := by
    rw [run_append, run_cons, run_nil]
  have hacc : accepted (pre ++ [op]) (new timeoutMs capacity : ReorderBuffer P) =
      accepted pre (new timeoutMs capacity) ++
        (run pre (new timeoutMs capacity)).2.acceptedBy op := by
    rw [accepted_append, accepted, accepted, List.append_nil]
  rw [← none_overdue_iff hinv ht op hop hle, ← hrun]
  refine forall_accepted_iff (t := op.now?.getD t) ?_
  rw [hrun, hacc]
  exact hstep

/-- **The stall bound.**  In every run of a new buffer under a clock that never goes back,
no call leaves a packet that was accepted a timeout before it exactly when every call meets
the condition `StallFree`. -/
theorem stall_bounded_iff (timeoutMs : ℚ) (capacity : ℤ) (ops : List (Op P))
    (hclock : ClockMonotone ops) :
    StallBounded ops (new timeoutMs capacity) ↔ StallFreeRun ops (new timeoutMs capacity) := by
  have hclocks : ∀ pre op, pre ++ [op] <+: ops → ClockMonotone (pre ++ [op]) :=
    fun pre op hpre => hclock.sublist (hpre.sublist.filterMap Op.now?)
  constructor
  · intro h pre op hpre
    cases hop : op.now? with
    | none =>
      cases op with
      | flush => trivial
      | tick t => exact absurd hop (by simp [Op.now?])
      | push seq payload t => exact absurd hop (by simp [Op.now?])
    | some now =>
      exact (forall_accepted_call_iff timeoutMs capacity (hclocks pre op hpre) hop).1
        (h pre op now hpre hop)
  · intro h pre op now hpre hop
    exact (forall_accepted_call_iff timeoutMs capacity (hclocks pre op hpre) hop).2
      (h pre op hpre)

/-- A run, with a timeout of one second, in which packet 10 arrives at second 1, before
packet 5 arrives at second 3/2, and neither is in order. -/
def overtaken : List (Op ℕ) :=
  [.push 1 101 0, .tick 1, .push 10 110 1, .push 5 105 (3 / 2), .tick 2]

/-- At second 2 the packet accepted at second 1 is still held, behind the later one. -/
theorem stall_unbounded :
    ClockMonotone overtaken ∧ ¬ StallBounded overtaken (new 1000 2048) := by
  refine ⟨by rw [ClockMonotone]; decide +kernel, fun h => ?_⟩
  refine h [.push 1 101 0, .tick 1, .push 10 110 1, .push 5 105 (3 / 2)] (.tick 2) 2
    (List.prefix_rfl) rfl (10, 110, 1) (by decide +kernel) (by decide +kernel) ?_
  decide +kernel

theorem stall_bounded_iff_overtaken :
    ClockMonotone overtaken ∧
      (StallBounded overtaken (new 1000 2048) ↔ StallFreeRun overtaken (new 1000 2048)) :=
  ⟨by rw [ClockMonotone]; decide +kernel,
    stall_bounded_iff 1000 2048 overtaken (by rw [ClockMonotone]; decide +kernel)⟩

end Turbobond.Bond.ReorderBuffer
