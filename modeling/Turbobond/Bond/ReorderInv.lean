import Turbobond.Bond.Reorder
import Mathlib.Data.List.Sort

/-!
# What the reorder buffer does

Everything a call can do is said once.  `Emits b out b'` describes the release of the
packets `out`, whichever of the three loops releases them; `push_cases` says that a push
is either refused, and then changes one statistic, or holds the packet and releases a
prefix of the heap.  The invariant `Inv` relates a buffer to everything it has released
so far, and is carried through both by a short case analysis.
-/

namespace Turbobond.Bond.ReorderBuffer

variable {P : Type}

/-- The pending packets. -/
def packets (b : ReorderBuffer P) : List (ℤ × P) := b.pending.entries.map fun e => (e.1, e.2.1)

/-- The heap is strictly sorted, it holds the pending numbers, and none of them has been
passed. -/
structure Tidy (b : ReorderBuffer P) : Prop where
  sorted : b.heap.Pairwise (· < ·)
  mem_iff : ∀ s, s ∈ b.heap ↔ s ∈ b.pending.keys
  nextSeq_le : ∀ s ∈ b.heap, b.nextSeq ≤ s

/-! ### The fields after the small operations -/

section Fields

variable (b : ReorderBuffer P) (d : ℤ) (rest : List ℤ)

/-- `_advance` counts the delivery, moves the head of the stream past it, and leaves in
`_seen` nothing but what was there and the number delivered. -/
lemma advance_eq : ∃ seen ⊆ insert d b.seen, b.advance d =
    { b with
      stats := { b.stats with delivered := b.stats.delivered + 1 }
      nextSeq := d + 1
      seen := seen } := by
  simp only [advance]
  split
  · exact ⟨_, Finset.filter_subset _ _, rfl⟩
  · exact ⟨_, subset_rfl, rfl⟩

@[simp] lemma advance_heap : (b.advance d).heap = b.heap := by
  obtain ⟨_, -, h⟩ := b.advance_eq d; rw [h]

@[simp] lemma advance_pending : (b.advance d).pending = b.pending := by
  obtain ⟨_, -, h⟩ := b.advance_eq d; rw [h]

@[simp] lemma advance_nextSeq : (b.advance d).nextSeq = d + 1 := by
  obtain ⟨_, -, h⟩ := b.advance_eq d; rw [h]

@[simp] lemma advance_stats : (b.advance d).stats =
    { b.stats with delivered := b.stats.delivered + 1 } := by
  obtain ⟨_, -, h⟩ := b.advance_eq d; rw [h]

@[simp] lemma advance_priming : (b.advance d).priming = b.priming := by
  obtain ⟨_, -, h⟩ := b.advance_eq d; rw [h]

@[simp] lemma advance_started : (b.advance d).started = b.started := by
  obtain ⟨_, -, h⟩ := b.advance_eq d; rw [h]

@[simp] lemma advance_capacity : (b.advance d).capacity = b.capacity := by
  obtain ⟨_, -, h⟩ := b.advance_eq d; rw [h]

@[simp] lemma advance_timeoutS : (b.advance d).timeoutS = b.timeoutS := by
  obtain ⟨_, -, h⟩ := b.advance_eq d; rw [h]

@[simp] lemma advance_primeDeadline : (b.advance d).primeDeadline = b.primeDeadline := by
  obtain ⟨_, -, h⟩ := b.advance_eq d; rw [h]

lemma mem_of_mem_advance_seen {s : ℤ} (hs : s ∈ (b.advance d).seen) : s = d ∨ s ∈ b.seen := by
  obtain ⟨_, hsub, h⟩ := b.advance_eq d
  rw [h] at hs
  simpa using hsub hs

lemma skip_zero : b.skip 0 = b := by simp [skip]

end Fields

/-! ### Releasing packets -/

/-- `b'` is what is left of `b` once the packets `out` have been taken off the front of
the heap, one after the other. -/
structure Emits (b : ReorderBuffer P) (out : List (ℤ × P)) (b' : ReorderBuffer P) : Prop where
  heap_eq : b.heap = out.map Prod.fst ++ b'.heap
  get?_eq : ∀ s ∈ b'.heap, b'.pending.get? s = b.pending.get? s
  tidy : Tidy b'
  packets_perm : b.packets.Perm (out ++ b'.packets)
  nextSeq_le : b.nextSeq ≤ b'.nextSeq
  nextSeq_from : b'.nextSeq = b.nextSeq ∨ ∃ e ∈ out, b'.nextSeq = e.1 + 1
  lt_nextSeq : ∀ e ∈ out, e.1 < b'.nextSeq
  seen_sub : ∀ s ∈ b'.seen, s ∈ b.seen ∨ s ∈ out.map Prod.fst
  primed : b'.priming = true → b.priming = true ∧ out = []
  started : b'.started = b.started
  capacity : b'.capacity = b.capacity
  timeoutS : b'.timeoutS = b.timeoutS
  primeDeadline : b'.primeDeadline = b.primeDeadline
  duplicates : b'.stats.duplicates = b.stats.duplicates
  lateDrops : b'.stats.lateDrops = b.stats.lateDrops
  delivered : b'.stats.delivered = b.stats.delivered + out.length

namespace Emits

variable {b b' b'' : ReorderBuffer P} {out out' : List (ℤ × P)}

lemma refl (h : Tidy b) : Emits b [] b where
  heap_eq := rfl
  get?_eq := fun _ _ => rfl
  tidy := h
  packets_perm := List.Perm.refl _
  nextSeq_le := le_rfl
  nextSeq_from := Or.inl rfl
  lt_nextSeq := by simp
  seen_sub := fun _ hs => Or.inl hs
  primed := fun hp => ⟨hp, rfl⟩
  started := rfl
  capacity := rfl
  timeoutS := rfl
  primeDeadline := rfl
  duplicates := rfl
  lateDrops := rfl
  delivered := rfl

lemma trans (h : Emits b out b') (h' : Emits b' out' b'') : Emits b (out ++ out') b'' where
  heap_eq := by rw [h.heap_eq, h'.heap_eq, List.map_append, List.append_assoc]
  get?_eq := by
    intro s hs
    rw [h'.get?_eq s hs, h.get?_eq s]
    rw [h'.heap_eq]
    exact List.mem_append_right _ hs
  tidy := h'.tidy
  packets_perm := by
    rw [List.append_assoc]
    exact h.packets_perm.trans (h'.packets_perm.append_left out)
  nextSeq_le := h.nextSeq_le.trans h'.nextSeq_le
  nextSeq_from := by
    rcases h'.nextSeq_from with heq | ⟨e, he, heq⟩
    · rcases h.nextSeq_from with heq' | ⟨e, he, heq'⟩
      · exact Or.inl (heq.trans heq')
      · exact Or.inr ⟨e, List.mem_append_left _ he, heq.trans heq'⟩
    · exact Or.inr ⟨e, List.mem_append_right _ he, heq⟩
  lt_nextSeq := by
    intro e he
    rcases List.mem_append.1 he with he | he
    · exact (h.lt_nextSeq e he).trans_le h'.nextSeq_le
    · exact h'.lt_nextSeq e he
  seen_sub := by
    intro s hs
    rw [List.map_append, List.mem_append]
    rcases h'.seen_sub s hs with hs | hs
    · rcases h.seen_sub s hs with hs | hs
      · exact Or.inl hs
      · exact Or.inr (Or.inl hs)
    · exact Or.inr (Or.inr hs)
  primed := by
    intro hp
    obtain ⟨hp', rfl⟩ := h'.primed hp
    obtain ⟨hp'', rfl⟩ := h.primed hp'
    exact ⟨hp'', rfl⟩
  started := h'.started.trans h.started
  capacity := h'.capacity.trans h.capacity
  timeoutS := h'.timeoutS.trans h.timeoutS
  primeDeadline := h'.primeDeadline.trans h.primeDeadline
  duplicates := h'.duplicates.trans h.duplicates
  lateDrops := h'.lateDrops.trans h.lateDrops
  delivered := by rw [h'.delivered, h.delivered, List.length_append, Nat.add_assoc]

end Emits

section Release

variable {b : ReorderBuffer P} {head : ℤ} {rest : List ℤ}

lemma Tidy.head_lt (h : Tidy b) (hheap : b.heap = head :: rest) : ∀ s ∈ rest, head < s := by
  have := h.sorted
  rw [hheap] at this
  exact (List.pairwise_cons.1 this).1

lemma Tidy.head_mem (h : Tidy b) (hheap : b.heap = head :: rest) : head ∈ b.pending.keys := by
  rw [← h.mem_iff, hheap]
  exact List.mem_cons_self

lemma Tidy.mem_heap (h : Tidy b) {s : ℤ} {e : P × Time} (hs : b.pending.get? s = some e) :
    s ∈ b.heap :=
  (h.mem_iff s).2 ((b.pending.mem_keys_iff s).2 ⟨e, hs⟩)

lemma Tidy.nextSeq_le_head (h : Tidy b) (hheap : b.heap = head :: rest) : b.nextSeq ≤ head := by
  refine h.nextSeq_le head ?_
  rw [hheap]
  exact List.mem_cons_self

/-- Releasing the head of the heap. -/
lemma emits_head (h : Tidy b) (hheap : b.heap = head :: rest) (gap : ℤ) (hnp : b.priming = false)
    {payload : P} {deadline : Time} (hget : b.pending.get? head = some (payload, deadline)) :
    Emits b [(head, payload)] (((b.skip gap).pop head rest).advance head) := by
  have hlt : ∀ s ∈ rest, head < s := h.head_lt hheap
  have hle : b.nextSeq ≤ head := h.nextSeq_le_head hheap
  have hsorted : rest.Pairwise (· < ·) := by
    have := h.sorted
    rw [hheap] at this
    exact (List.pairwise_cons.1 this).2
  refine
    { heap_eq := by simp [hheap, pop]
      get?_eq := ?_
      tidy := ⟨by simpa [pop] using hsorted, ?_, ?_⟩
      packets_perm := ?_
      nextSeq_le := ?_
      nextSeq_from := by simp
      lt_nextSeq := by simp
      seen_sub := ?_
      primed := by simp [pop, skip, hnp]
      started := by simp [pop, skip]
      capacity := by simp [pop, skip]
      timeoutS := by simp [pop, skip]
      primeDeadline := by simp [pop, skip]
      duplicates := by simp [pop, skip]
      lateDrops := by simp [pop, skip]
      delivered := by simp [pop, skip] }
  · intro s hs
    have hs' : s ∈ rest := by simpa [pop] using hs
    simpa [pop, skip] using b.pending.get?_erase_of_ne (hlt s hs').ne'
  · intro s
    have hmem := h.mem_iff s
    rw [hheap, List.mem_cons] at hmem
    simp only [advance_heap, advance_pending, pop, skip, Dict.mem_keys_erase, ← hmem]
    constructor
    · intro hs
      exact ⟨(hlt s hs).ne', Or.inr hs⟩
    · rintro ⟨hne, rfl | hs⟩
      · exact absurd rfl hne
      · exact hs
  · intro s hs
    have hs' : s ∈ rest := by simpa [pop] using hs
    have := hlt s hs'
    simp only [advance_nextSeq]
    omega
  · have := (b.pending.entries_perm_erase hget).map fun e => (e.1, e.2.1)
    simpa [packets, pop, skip] using this
  · simp only [advance_nextSeq]
    omega
  · intro s hs
    rcases mem_of_mem_advance_seen _ _ hs with rfl | hs
    · simp
    · exact Or.inl hs

end Release

/-- The loop of `_drain` releases packets. -/
lemma drainLoop_emits (now : Time) (heap : List ℤ) :
    ∀ b : ReorderBuffer P, Tidy b → b.heap = heap → b.priming = false →
      Emits b (drainLoop now heap b).1 (drainLoop now heap b).2 := by
  induction heap with
  | nil => intro b h _ _; exact Emits.refl h
  | cons head rest ih =>
    intro b h hheap hnp
    have hle : ¬ head < b.nextSeq := not_lt.2 (h.nextSeq_le_head hheap)
    obtain ⟨⟨payload, deadline⟩, hget⟩ := (b.pending.mem_keys_iff head).1 (h.head_mem hheap)
    -- one packet is released, and the rest of the loop runs from the state it leaves
    have hnext : ∀ gap : ℤ, Emits b
        ((head, payload) :: (drainLoop now rest (((b.skip gap).pop head rest).advance head)).1)
        (drainLoop now rest (((b.skip gap).pop head rest).advance head)).2 := by
      intro gap
      have h₁ := emits_head h hheap gap hnp hget
      exact h₁.trans (ih _ h₁.tidy (by simp [pop]) (by simp [pop, skip, hnp]))
    simp only [drainLoop, if_neg hle, hget]
    split
    · simpa only [skip_zero] using hnext 0
    · split
      · exact hnext _
      · exact Emits.refl h

/-- The loop of `_force_flush` and `flush` releases packets. -/
lemma flushLoop_emits (heap : List ℤ) :
    ∀ (n : ℕ) (b : ReorderBuffer P), Tidy b → b.heap = heap → b.priming = false →
      Emits b (flushLoop n heap b).1 (flushLoop n heap b).2 := by
  induction heap with
  | nil => intro n b h _ _; cases n <;> exact Emits.refl h
  | cons head rest ih =>
    intro n b h hheap hnp
    cases n with
    | zero => exact Emits.refl h
    | succ n =>
      have hle : ¬ head < b.nextSeq := not_lt.2 (h.nextSeq_le_head hheap)
      obtain ⟨⟨payload, deadline⟩, hget⟩ := (b.pending.mem_keys_iff head).1 (h.head_mem hheap)
      simp only [flushLoop, if_neg hle, hget]
      have h₁ := emits_head h hheap 0 hnp hget
      rw [skip_zero] at h₁
      exact h₁.trans (ih n _ h₁.tidy (by simp [pop]) (by simp [pop, hnp]))

/-- Clearing the priming flag, and counting a flush, release nothing. -/
lemma Tidy.emits_unprimed {b : ReorderBuffer P} (h : Tidy b) (n : ℕ) :
    Emits b [] { b with priming := false, stats := { b.stats with overflowFlushes := n } } :=
  { Emits.refl h with primed := by simp, tidy := ⟨h.sorted, h.mem_iff, h.nextSeq_le⟩ }

lemma drain_emits {b : ReorderBuffer P} (h : Tidy b) (now : Time) :
    Emits b (b.drain now).1 (b.drain now).2 := by
  rw [drain]
  split
  · exact Emits.refl h
  · have h₁ := h.emits_unprimed b.stats.overflowFlushes
    exact h₁.trans (drainLoop_emits now b.heap _ h₁.tidy rfl rfl)

lemma forceFlush_emits {b : ReorderBuffer P} (h : Tidy b) :
    Emits b b.forceFlush.1 b.forceFlush.2 := by
  have h₁ := h.emits_unprimed (b.stats.overflowFlushes + 1)
  exact h₁.trans (flushLoop_emits b.heap _ _ h₁.tidy rfl rfl)

lemma flush_emits {b : ReorderBuffer P} (h : Tidy b) : Emits b b.flush.1 b.flush.2 := by
  have h₁ := h.emits_unprimed b.stats.overflowFlushes
  exact h₁.trans (flushLoop_emits b.heap _ _ h₁.tidy rfl rfl)

lemma settle_eq (b : ReorderBuffer P) (now : Time) :
    b.settle now =
      if (b.drain now).2.pending.size > (b.drain now).2.capacity then
        ((b.drain now).1 ++ (b.drain now).2.forceFlush.1, (b.drain now).2.forceFlush.2)
      else b.drain now :=
  rfl

lemma settle_emits {b : ReorderBuffer P} (h : Tidy b) (now : Time) :
    Emits b (b.settle now).1 (b.settle now).2 := by
  have h₁ := drain_emits h now
  rw [settle_eq]
  split
  · exact h₁.trans (forceFlush_emits h₁.tidy)
  · exact h₁

/-! ### What a forced flush leaves -/

/-- The loop of `_force_flush` takes as many numbers off the heap as it is told. -/
lemma flushLoop_heap (heap : List ℤ) :
    ∀ (n : ℕ) (b : ReorderBuffer P), Tidy b → b.heap = heap → b.priming = false →
      (flushLoop n heap b).2.heap = heap.drop n := by
  induction heap with
  | nil => intro n b _ hheap _; cases n <;> simp [flushLoop, hheap]
  | cons head rest ih =>
    intro n b h hheap hnp
    cases n with
    | zero => simp [flushLoop, hheap]
    | succ n =>
      have hle : ¬ head < b.nextSeq := not_lt.2 (h.nextSeq_le_head hheap)
      obtain ⟨⟨payload, deadline⟩, hget⟩ := (b.pending.mem_keys_iff head).1 (h.head_mem hheap)
      have h₁ := emits_head h hheap 0 hnp hget
      rw [skip_zero] at h₁
      simp only [flushLoop, if_neg hle, hget, List.drop_succ_cons]
      exact ih n _ h₁.tidy (by simp [pop]) (by simp [pop, hnp])

lemma Tidy.nodup {b : ReorderBuffer P} (h : Tidy b) : b.heap.Nodup :=
  h.sorted.imp fun hab => hab.ne

lemma Tidy.length_heap {b : ReorderBuffer P} (h : Tidy b) : b.heap.length = b.pending.size := by
  rw [← Dict.length_keys]
  refine List.Perm.length_eq ?_
  rw [List.perm_ext_iff_of_nodup h.nodup b.pending.keys_nodup]
  exact h.mem_iff

lemma forceFlush_heap {b : ReorderBuffer P} (h : Tidy b) :
    b.forceFlush.2.heap = b.heap.drop (b.heap.length - b.capacity / 2) := by
  rw [h.length_heap]
  exact flushLoop_heap b.heap _ _ ⟨h.sorted, h.mem_iff, h.nextSeq_le⟩ rfl rfl

/-! ### The invariant -/

/-- A buffer and everything it has released since it was made. -/
structure Inv (b : ReorderBuffer P) (hist : List (ℤ × P)) : Prop where
  tidy : Tidy b
  sorted : (hist.map Prod.fst).Pairwise (· < ·)
  below : ∀ e ∈ hist, e.1 < b.nextSeq
  seen_sub : ∀ s ∈ b.seen, s ∈ hist.map Prod.fst
  fresh : b.started = false → b.heap = [] ∧ hist = []
  primed : b.priming = true → hist = []

lemma inv_new (timeoutMs : ℚ) (capacity : ℤ) :
    Inv (new timeoutMs capacity : ReorderBuffer P) [] where
  tidy := ⟨List.Pairwise.nil, by simp [new], by simp [new]⟩
  sorted := List.Pairwise.nil
  below := by simp
  seen_sub := by simp [new]
  fresh := fun _ => ⟨rfl, rfl⟩
  primed := fun _ => rfl

/-- What `locate` does: the first packet starts the stream, a packet below the head rewinds
it while the buffer is priming, and any other leaves the buffer as it is. -/
lemma locate_cases (b : ReorderBuffer P) (seq : ℤ) (now : Time) :
    (b.started = false ∧ b.locate seq now = { b with
      started := true, nextSeq := seq, priming := true, primeDeadline := now + b.timeoutS }) ∨
      (b.started = true ∧ b.priming = true ∧ seq < b.nextSeq ∧
        b.locate seq now = { b with nextSeq := seq }) ∨
      (b.started = true ∧ (b.priming = true → b.nextSeq ≤ seq) ∧ b.locate seq now = b) := by
  cases hs : b.started with
  | false => exact Or.inl ⟨rfl, by simp [locate, hs]⟩
  | true =>
    by_cases hr : b.priming = true ∧ seq < b.nextSeq
    · exact Or.inr (Or.inl ⟨rfl, hr.1, hr.2, by simp [locate, hs, hr]⟩)
    · refine Or.inr (Or.inr ⟨rfl, fun hp => ?_, by simp [locate, hs, hr]⟩)
      by_contra hlt
      exact hr ⟨hp, not_le.1 hlt⟩

namespace Inv

variable {b b' : ReorderBuffer P} {hist out : List (ℤ × P)}

/-- Whatever is released, the invariant goes with it. -/
lemma emits (h : Inv b hist) (he : Emits b out b') : Inv b' (hist ++ out) where
  tidy := he.tidy
  sorted := by
    have hsorted := h.tidy.sorted
    rw [he.heap_eq] at hsorted
    rw [List.map_append]
    refine List.pairwise_append.2 ⟨h.sorted, (List.pairwise_append.1 hsorted).1, ?_⟩
    intro s hs t ht
    obtain ⟨e, hemem, rfl⟩ := List.mem_map.1 hs
    refine (h.below e hemem).trans_le (h.tidy.nextSeq_le t ?_)
    rw [he.heap_eq]
    exact List.mem_append_left _ ht
  below := by
    intro e hemem
    rcases List.mem_append.1 hemem with hemem | hemem
    · exact (h.below e hemem).trans_le he.nextSeq_le
    · exact he.lt_nextSeq e hemem
  seen_sub := by
    intro s hs
    rw [List.map_append, List.mem_append]
    rcases he.seen_sub s hs with hs | hs
    · exact Or.inl (h.seen_sub s hs)
    · exact Or.inr hs
  fresh := by
    intro hns
    rw [he.started] at hns
    obtain ⟨hheap, rfl⟩ := h.fresh hns
    have hnil := he.heap_eq.symm
    rw [hheap, List.append_eq_nil_iff, List.map_eq_nil_iff] at hnil
    exact ⟨hnil.2, by simpa using hnil.1⟩
  primed := by
    intro hp
    obtain ⟨hp', rfl⟩ := he.primed hp
    simpa using h.primed hp'

/-- A packet that is delivered or held is behind nothing that could move the start of the
stream, so `locate` leaves the buffer alone. -/
lemma locate_eq (h : Inv b hist) {seq : ℤ} (hs : seq ∈ b.pending.keys ∨ seq ∈ b.seen)
    (now : Time) : b.locate seq now = b := by
  rcases b.locate_cases seq now with ⟨hns, -⟩ | ⟨-, hp, hlt, -⟩ | ⟨-, -, heq⟩
  · exfalso
    obtain ⟨hheap, hhist⟩ := h.fresh hns
    rcases hs with hs | hs
    · rw [← h.tidy.mem_iff, hheap] at hs
      exact absurd hs List.not_mem_nil
    · have := h.seen_sub seq hs
      rw [hhist] at this
      exact absurd this List.not_mem_nil
  · exfalso
    rcases hs with hs | hs
    · have := h.tidy.nextSeq_le seq ((h.tidy.mem_iff seq).2 hs)
      omega
    · have := h.seen_sub seq hs
      rw [h.primed hp] at this
      exact absurd this List.not_mem_nil
  · exact heq

/-- Finding the start of the stream keeps the invariant: the start moves only while
nothing has been delivered. -/
lemma locate (h : Inv b hist) (seq : ℤ) (now : Time) : Inv (b.locate seq now) hist := by
  rcases b.locate_cases seq now with ⟨hns, heq⟩ | ⟨-, hp, hlt, heq⟩ | ⟨-, -, heq⟩
  · rw [heq]
    obtain ⟨hheap, rfl⟩ := h.fresh hns
    exact
      { tidy := ⟨h.tidy.sorted, h.tidy.mem_iff, by simp [hheap]⟩
        sorted := List.Pairwise.nil
        below := by simp
        seen_sub := h.seen_sub
        fresh := fun _ => ⟨hheap, rfl⟩
        primed := fun _ => rfl }
  · rw [heq]
    obtain rfl := h.primed hp
    refine { h with tidy := ⟨h.tidy.sorted, h.tidy.mem_iff, ?_⟩, below := by simp }
    intro s hs
    exact hlt.le.trans (h.tidy.nextSeq_le s hs)
  · rw [heq]
    exact h

end Inv

@[simp] lemma locate_pending (b : ReorderBuffer P) (seq : ℤ) (now : Time) :
    (b.locate seq now).pending = b.pending := by
  rcases b.locate_cases seq now with ⟨-, heq⟩ | ⟨-, -, -, heq⟩ | ⟨-, -, heq⟩ <;> rw [heq]

@[simp] lemma locate_heap (b : ReorderBuffer P) (seq : ℤ) (now : Time) :
    (b.locate seq now).heap = b.heap := by
  rcases b.locate_cases seq now with ⟨-, heq⟩ | ⟨-, -, -, heq⟩ | ⟨-, -, heq⟩ <;> rw [heq]

@[simp] lemma locate_seen (b : ReorderBuffer P) (seq : ℤ) (now : Time) :
    (b.locate seq now).seen = b.seen := by
  rcases b.locate_cases seq now with ⟨-, heq⟩ | ⟨-, -, -, heq⟩ | ⟨-, -, heq⟩ <;> rw [heq]

@[simp] lemma locate_stats (b : ReorderBuffer P) (seq : ℤ) (now : Time) :
    (b.locate seq now).stats = b.stats := by
  rcases b.locate_cases seq now with ⟨-, heq⟩ | ⟨-, -, -, heq⟩ | ⟨-, -, heq⟩ <;> rw [heq]

@[simp] lemma locate_timeoutS (b : ReorderBuffer P) (seq : ℤ) (now : Time) :
    (b.locate seq now).timeoutS = b.timeoutS := by
  rcases b.locate_cases seq now with ⟨-, heq⟩ | ⟨-, -, -, heq⟩ | ⟨-, -, heq⟩ <;> rw [heq]

@[simp] lemma locate_capacity (b : ReorderBuffer P) (seq : ℤ) (now : Time) :
    (b.locate seq now).capacity = b.capacity := by
  rcases b.locate_cases seq now with ⟨-, heq⟩ | ⟨-, -, -, heq⟩ | ⟨-, -, heq⟩ <;> rw [heq]

@[simp] lemma locate_started (b : ReorderBuffer P) (seq : ℤ) (now : Time) :
    (b.locate seq now).started = true := by
  rcases b.locate_cases seq now with ⟨-, heq⟩ | ⟨hs, -, -, heq⟩ | ⟨hs, -, heq⟩
  · rw [heq]
  · rw [heq]; exact hs
  · rw [heq]; exact hs

/-- After priming the start of the stream stays where it is. -/
lemma locate_of_open {b : ReorderBuffer P} (hs : b.started = true) (hp : b.priming = false)
    (seq : ℤ) (now : Time) : b.locate seq now = b := by
  rcases b.locate_cases seq now with ⟨hns, -⟩ | ⟨-, hp', -, -⟩ | ⟨-, -, heq⟩
  · exact absurd (hs.symm.trans hns) (by simp)
  · exact absurd (hp'.symm.trans hp) (by simp)
  · exact heq

/-- Once located, a number below the head of the stream was passed by a delivery. -/
lemma locate_eq_of_lt {b : ReorderBuffer P} {seq : ℤ} {now : Time}
    (h : seq < (b.locate seq now).nextSeq) :
    b.locate seq now = b ∧ b.started = true ∧ b.priming = false := by
  rcases b.locate_cases seq now with ⟨-, heq⟩ | ⟨-, -, -, heq⟩ | ⟨hs, hle, heq⟩
  · rw [heq] at h
    exact absurd h (lt_irrefl seq)
  · rw [heq] at h
    exact absurd h (lt_irrefl seq)
  · refine ⟨heq, hs, ?_⟩
    rw [heq] at h
    by_contra hp
    exact absurd h (not_lt.2 (hle (by simpa using hp)))

lemma packets_hold {b : ReorderBuffer P} {seq : ℤ} (hs : seq ∉ b.pending.keys) (payload : P)
    (now : Time) : (b.hold seq payload now).packets = b.packets ++ [(seq, payload)] := by
  simp only [packets, hold, Dict.entries_set_of_notMem _ hs, List.map_append, List.map_cons,
    List.map_nil]

/-- Holding a new packet that has not been passed keeps the invariant. -/
lemma Inv.hold {b : ReorderBuffer P} {hist : List (ℤ × P)} (h : Inv b hist) {seq : ℤ}
    (hs : seq ∉ b.pending.keys) (hle : b.nextSeq ≤ seq) (hstarted : b.started = true)
    (payload : P) (now : Time) : Inv (b.hold seq payload now) hist := by
  have hmem : ∀ s, s ∈ (b.heap.orderedInsert (· ≤ ·) seq) ↔ s = seq ∨ s ∈ b.heap :=
    fun s => List.mem_orderedInsert _
  refine { h with tidy := ⟨?_, ?_, ?_⟩, fresh := ?_ }
  · have hnd : (b.heap.orderedInsert (· ≤ ·) seq).Nodup := by
      rw [(List.perm_orderedInsert (· ≤ ·) seq b.heap).nodup_iff, List.nodup_cons, h.tidy.mem_iff]
      exact ⟨hs, h.tidy.sorted.imp fun hab => hab.ne⟩
    have hle' : (b.heap.orderedInsert (· ≤ ·) seq).Pairwise (· ≤ ·) :=
      List.Pairwise.orderedInsert seq b.heap (h.tidy.sorted.imp le_of_lt)
    exact (hle'.and hnd).imp fun hab => lt_of_le_of_ne hab.1 hab.2
  · intro s
    simp only [ReorderBuffer.hold, hmem, Dict.mem_keys_set, h.tidy.mem_iff]
  · intro s hs'
    rcases (hmem s).1 hs' with rfl | hs'
    · exact hle
    · exact h.tidy.nextSeq_le s hs'
  · intro hns
    exact absurd (hstarted.symm.trans hns) (by simp)

/-- The buffer a push works on once it has found room for the packet. -/
def held (b : ReorderBuffer P) (seq : ℤ) (payload : P) (now : Time) : ReorderBuffer P :=
  (b.locate seq now).hold seq payload now

@[simp] lemma held_timeoutS (b : ReorderBuffer P) (seq : ℤ) (payload : P) (now : Time) :
    (b.held seq payload now).timeoutS = b.timeoutS :=
  locate_timeoutS b seq now

@[simp] lemma held_capacity (b : ReorderBuffer P) (seq : ℤ) (payload : P) (now : Time) :
    (b.held seq payload now).capacity = b.capacity :=
  locate_capacity b seq now

/-- What a push does: it counts a duplicate, it counts a late arrival, or it holds the
packet and releases what has become deliverable. -/
theorem push_cases {b : ReorderBuffer P} {hist : List (ℤ × P)} (h : Inv b hist) (seq : ℤ)
    (payload : P) (now : Time) :
    ((seq ∈ b.pending.keys ∨ seq ∈ b.seen) ∧ b.push seq payload now = ([], b.countDuplicate)) ∨
    (seq < b.nextSeq ∧ seq ∉ b.pending.keys ∧ b.started = true ∧ b.priming = false ∧
      b.push seq payload now = ([], b.countLate)) ∨
    (seq ∉ b.pending.keys ∧ (b.locate seq now).nextSeq ≤ seq ∧
      Inv (b.held seq payload now) hist ∧
      b.push seq payload now = (b.held seq payload now).settle now) := by
  by_cases hdup : seq ∈ b.pending.keys ∨ seq ∈ b.seen
  · left
    refine ⟨hdup, ?_⟩
    simp only [push, h.locate_eq hdup, Bool.or_eq_true, Dict.has_iff, decide_eq_true_eq,
      if_pos hdup]
  · right
    have hpend : seq ∉ b.pending.keys := fun hp => hdup (Or.inl hp)
    by_cases hlt : seq < (b.locate seq now).nextSeq
    · left
      obtain ⟨heq, hstarted, hnp⟩ := locate_eq_of_lt hlt
      rw [heq] at hlt
      refine ⟨hlt, hpend, hstarted, hnp, ?_⟩
      simp only [push, heq, Bool.or_eq_true, Dict.has_iff, decide_eq_true_eq, if_neg hdup,
        if_pos hlt]
    · right
      refine ⟨hpend, not_lt.1 hlt, ?_, ?_⟩
      · exact (h.locate seq now).hold (by simpa using hpend) (not_lt.1 hlt) (by simp) payload now
      · simp only [push, locate_pending, locate_seen, Bool.or_eq_true, Dict.has_iff,
          decide_eq_true_eq, if_neg hdup, if_neg hlt, held]

/-- Every call keeps the invariant, and what it releases joins the history. -/
theorem Inv.step {b : ReorderBuffer P} {hist : List (ℤ × P)} (h : Inv b hist) (op : Op P) :
    Inv (b.step op).2 (hist ++ (b.step op).1) := by
  cases op with
  | tick now => exact h.emits (drain_emits h.tidy now)
  | flush => exact h.emits (flush_emits h.tidy)
  | push seq payload now =>
    simp only [ReorderBuffer.step]
    rcases push_cases h seq payload now with ⟨-, heq⟩ | ⟨-, -, -, -, heq⟩ | ⟨-, -, hinv, heq⟩
    · rw [heq, List.append_nil]
      exact { h with tidy := ⟨h.tidy.sorted, h.tidy.mem_iff, h.tidy.nextSeq_le⟩ }
    · rw [heq, List.append_nil]
      exact { h with tidy := ⟨h.tidy.sorted, h.tidy.mem_iff, h.tidy.nextSeq_le⟩ }
    · rw [heq]
      exact hinv.emits (settle_emits hinv.tidy now)

/-- The invariant holds after every run. -/
theorem Inv.run {b : ReorderBuffer P} {hist : List (ℤ × P)} (h : Inv b hist)
    (ops : List (Op P)) :
    Inv (ReorderBuffer.run ops b).2 (hist ++ (ReorderBuffer.run ops b).1) :=
  Machine.run_invariant ReorderBuffer.step (fun _ _ op h => h.step op) ops h

/-! ### Accounting for every push -/

/-- What a call adds to the buffer is what it releases and what it leaves pending. -/
lemma accounting_step {b : ReorderBuffer P} {hist : List (ℤ × P)} (h : Inv b hist) (op : Op P) :
    (b.packets ++ (b.acceptedBy op).map fun a => (a.1, a.2.1)).Perm
        ((b.step op).1 ++ (b.step op).2.packets) ∧
      (pushes [op]).length + b.stats.duplicates + b.stats.lateDrops =
        (b.acceptedBy op).length + (b.step op).2.stats.duplicates +
          (b.step op).2.stats.lateDrops := by
  cases op with
  | tick now =>
    have he := drain_emits h.tidy now
    refine ⟨by simpa [acceptedBy, ReorderBuffer.step, tick] using he.packets_perm, ?_⟩
    simp [acceptedBy, pushes, ReorderBuffer.step, tick, he.duplicates, he.lateDrops]
  | flush =>
    have he := flush_emits h.tidy
    refine ⟨by simpa [acceptedBy, ReorderBuffer.step] using he.packets_perm, ?_⟩
    simp [acceptedBy, pushes, ReorderBuffer.step, he.duplicates, he.lateDrops]
  | push seq payload now =>
    simp only [ReorderBuffer.step, acceptedBy]
    rcases push_cases h seq payload now with ⟨-, heq⟩ | ⟨-, -, -, -, heq⟩ | ⟨hpend, -, hinv, heq⟩
    · rw [heq]
      refine ⟨by simp [packets, countDuplicate], ?_⟩
      simp [pushes, countDuplicate]
      omega
    · rw [heq]
      refine ⟨by simp [packets, countLate], ?_⟩
      simp [pushes, countLate]
      omega
    · rw [heq]
      have he := settle_emits hinv.tidy now
      have hdup : ((b.held seq payload now).settle now).2.stats.duplicates = b.stats.duplicates := by
        rw [he.duplicates]; simp [held, hold]
      have hlate : ((b.held seq payload now).settle now).2.stats.lateDrops = b.stats.lateDrops := by
        rw [he.lateDrops]; simp [held, hold]
      rw [hdup, hlate, if_pos ⟨rfl, rfl⟩]
      refine ⟨?_, by simp [pushes]⟩
      have hpackets := packets_hold (b := b.locate seq now) (by simpa using hpend) payload now
      rw [show (b.locate seq now).packets = b.packets by simp [packets]] at hpackets
      have hperm := he.packets_perm
      rw [show (b.held seq payload now).packets = b.packets ++ [(seq, payload)] from hpackets]
        at hperm
      simpa using hperm

lemma accounting {b : ReorderBuffer P} {hist : List (ℤ × P)} (h : Inv b hist)
    (ops : List (Op P)) :
    (b.packets ++ (accepted ops b).map fun a => (a.1, a.2.1)).Perm
        ((ReorderBuffer.run ops b).1 ++ (ReorderBuffer.run ops b).2.packets) ∧
      (pushes ops).length + b.stats.duplicates + b.stats.lateDrops =
        (accepted ops b).length + (ReorderBuffer.run ops b).2.stats.duplicates +
          (ReorderBuffer.run ops b).2.stats.lateDrops := by
  induction ops generalizing b hist with
  | nil => simp [accepted, pushes]
  | cons op ops ih =>
    obtain ⟨hperm₁, hlen₁⟩ := accounting_step h op
    obtain ⟨hperm₂, hlen₂⟩ := ih (h.step op)
    rw [run_cons, accepted]
    constructor
    · rw [List.map_append, ← List.append_assoc]
      refine (hperm₁.append_right _).trans ?_
      simp only [List.append_assoc]
      exact hperm₂.append_left _
    · have hpushes : (pushes (op :: ops)).length = (pushes [op]).length + (pushes ops).length := by
        rw [← List.length_append, pushes, pushes, pushes, ← List.filterMap_append,
          List.singleton_append]
      rw [hpushes, List.length_append]
      simp only at hlen₂ ⊢
      omega

end Turbobond.Bond.ReorderBuffer
