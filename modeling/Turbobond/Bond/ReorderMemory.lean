import Turbobond.Bond.ReorderInv

/-!
# What the reorder buffer remembers

The heap, the pending packets and the set of delivered numbers fit together after every call, `reset`
among them, and none of them grows beyond a multiple of the capacity.
-/

namespace Turbobond.Bond.ReorderBuffer

variable {P : Type} {b : ReorderBuffer P} {hist : List (ℤ × P)}

/-! ### Loops -/

/-- What a release keeps, the loop of `_drain` keeps. -/
lemma drainLoop_keeps {Q : ReorderBuffer P → Prop}
    (hstep : ∀ b head rest gap, Tidy b → b.heap = head :: rest → Q b →
      Q (((b.skip gap).pop head rest).advance head))
    (now : Time) (heap : List ℤ) : ∀ b : ReorderBuffer P, Tidy b → b.heap = heap →
      b.priming = false → Q b → Q (drainLoop now heap b).2 := by
  induction heap with
  | nil => exact fun _ _ _ _ hQ => hQ
  | cons head rest ih =>
    intro b h hheap hnp hQ
    have hle : ¬ head < b.nextSeq := not_lt.2 (h.nextSeq_le_head hheap)
    obtain ⟨⟨payload, deadline⟩, hget⟩ := (b.pending.mem_keys_iff head).1 (h.head_mem hheap)
    have hnext : ∀ gap : ℤ, Q (drainLoop now rest (((b.skip gap).pop head rest).advance head)).2 :=
      fun gap => ih _ (emits_head h hheap gap hnp hget).tidy (by simp [pop])
        (by simp [pop, skip, hnp]) (hstep b head rest gap h hheap hQ)
    simp only [drainLoop, if_neg hle, hget]
    split
    · simpa only [skip_zero] using hnext 0
    · split
      · exact hnext _
      · exact hQ

/-- What a release keeps, the loop of `_force_flush` and `flush` keeps. -/
lemma flushLoop_keeps {Q : ReorderBuffer P → Prop}
    (hstep : ∀ b head rest, Tidy b → b.heap = head :: rest → Q b → Q ((b.pop head rest).advance head))
    (heap : List ℤ) : ∀ (n : ℕ) (b : ReorderBuffer P), Tidy b → b.heap = heap →
      b.priming = false → Q b → Q (flushLoop n heap b).2 := by
  induction heap with
  | nil => intro n b _ _ _ hQ; cases n <;> exact hQ
  | cons head rest ih =>
    intro n b h hheap hnp hQ
    cases n with
    | zero => exact hQ
    | succ n =>
      have hle : ¬ head < b.nextSeq := not_lt.2 (h.nextSeq_le_head hheap)
      obtain ⟨⟨payload, deadline⟩, hget⟩ := (b.pending.mem_keys_iff head).1 (h.head_mem hheap)
      have htidy := (emits_head h hheap 0 hnp hget).tidy
      rw [skip_zero] at htidy
      simp only [flushLoop, if_neg hle, hget]
      exact ih n _ htidy (by simp [pop]) (by simp [pop, hnp]) (hstep b head rest h hheap hQ)

/-! ### Pending packets -/

/-- A release leaves no more pending than there were. -/
lemma Emits.size_le {b' : ReorderBuffer P} {out : List (ℤ × P)} (h : Tidy b) (he : Emits b out b') :
    b'.pending.size ≤ b.pending.size := by
  rw [← h.length_heap, ← he.tidy.length_heap, he.heap_eq, List.length_append]
  omega

/-- After `_force_flush`, half the capacity is pending at most. -/
lemma size_forceFlush_le (h : Tidy b) : b.forceFlush.2.pending.size ≤ b.capacity / 2 := by
  rw [← (forceFlush_emits h).tidy.length_heap, forceFlush_heap h, List.length_drop]
  omega

lemma size_settle_le (h : Tidy b) (now : Time) : (b.settle now).2.pending.size ≤ b.capacity := by
  have h₁ := drain_emits h now
  rw [settle_eq]
  split
  · refine (size_forceFlush_le h₁.tidy).trans ?_
    rw [h₁.capacity]
    exact Nat.div_le_self _ 2
  · rename_i hle
    rw [← h₁.capacity]
    exact not_lt.1 hle

/-! ### Delivered numbers -/

/-- The numbers that are remembered as delivered have been passed, and they are few. -/
structure Remembers (b : ReorderBuffer P) : Prop where
  below : ∀ s ∈ b.seen, s < b.nextSeq
  card_le : b.seen.card ≤ 4 * b.capacity

/-- A release keeps it so: when the set gets too large, what is left of it lies in an interval. -/
lemma Remembers.advance (h : Remembers b) {d : ℤ} (hd : b.nextSeq ≤ d) : Remembers (b.advance d) := by
  have hinsert : ∀ s ∈ insert d b.seen, s < d + 1 := by
    intro s hs
    rcases Finset.mem_insert.1 hs with rfl | hs
    · omega
    · have := h.below s hs
      omega
  rw [ReorderBuffer.advance]
  split
  · refine ⟨fun s hs => hinsert s (Finset.mem_filter.1 hs).1, ?_⟩
    have hsub : (insert d b.seen).filter (fun s => s ≥ d + 1 - b.capacity * 2) ⊆
        Finset.Ico (d + 1 - b.capacity * 2) (d + 1) := by
      intro s hs
      obtain ⟨hmem, hge⟩ := Finset.mem_filter.1 hs
      exact Finset.mem_Ico.2 ⟨hge, hinsert s hmem⟩
    have hcard := Finset.card_le_card hsub
    rw [Int.card_Ico] at hcard
    refine hcard.trans ?_
    simp only
    omega
  · rename_i hle
    refine ⟨hinsert, ?_⟩
    simp only at hle ⊢
    omega

lemma Remembers.drain (h : Remembers b) (htidy : Tidy b) (now : Time) :
    Remembers (b.drain now).2 := by
  rw [ReorderBuffer.drain]
  split
  · exact h
  · refine drainLoop_keeps (Q := Remembers) (fun b head rest gap htidy hheap h => ?_) now b.heap _
      (htidy.emits_unprimed b.stats.overflowFlushes).tidy rfl rfl ⟨h.below, h.card_le⟩
    have hpop : Remembers ((b.skip gap).pop head rest) := ⟨h.below, h.card_le⟩
    exact hpop.advance (htidy.nextSeq_le_head hheap)

lemma Remembers.flushLoop (h : Remembers b) (htidy : Tidy b) (hnp : b.priming = false) (n : ℕ) :
    Remembers (flushLoop n b.heap b).2 := by
  refine flushLoop_keeps (Q := Remembers) (fun b head rest htidy hheap h => ?_) b.heap n b htidy rfl
    hnp h
  have hpop : Remembers (b.pop head rest) := ⟨h.below, h.card_le⟩
  exact hpop.advance (htidy.nextSeq_le_head hheap)

lemma Remembers.settle (h : Remembers b) (htidy : Tidy b) (now : Time) :
    Remembers (b.settle now).2 := by
  have h₁ := h.drain htidy now
  rw [settle_eq]
  split
  · exact Remembers.flushLoop (b := { (b.drain now).2 with
      priming := false
      stats := { (b.drain now).2.stats with
        overflowFlushes := (b.drain now).2.stats.overflowFlushes + 1 } })
      ⟨h₁.below, h₁.card_le⟩
      ((drain_emits htidy now).tidy.emits_unprimed _).tidy rfl _
  · exact h₁

/-- What was delivered has been passed. -/
lemma Inv.remembers (h : Inv b hist) (hcard : b.seen.card ≤ 4 * b.capacity) : Remembers b where
  below := by
    intro s hs
    obtain ⟨e, he, rfl⟩ := List.mem_map.1 (h.seen_sub s hs)
    exact h.below e he
  card_le := hcard

/-! ### All calls -/

/-- The bounds on what a buffer holds and remembers. -/
structure Small (b : ReorderBuffer P) : Prop where
  size_le : b.pending.size ≤ b.capacity
  card_le : b.seen.card ≤ 4 * b.capacity

lemma Small.push (h : Small b) (hinv : Inv b hist) (seq : ℤ) (payload : P) (now : Time) :
    Small (b.push seq payload now).2 := by
  rcases push_cases hinv seq payload now with ⟨-, heq⟩ | ⟨-, -, -, -, heq⟩ | ⟨-, -, hheld, heq⟩
  · rw [heq]
    exact ⟨h.size_le, h.card_le⟩
  · rw [heq]
    exact ⟨h.size_le, h.card_le⟩
  · rw [heq]
    have hseen : (b.held seq payload now).seen = b.seen := locate_seen ..
    have hremembers : Remembers (b.held seq payload now) :=
      hheld.remembers (by rw [hseen, held_capacity]; exact h.card_le)
    refine ⟨?_, (hremembers.settle hheld.tidy now).card_le⟩
    rw [(settle_emits hheld.tidy now).capacity]
    exact size_settle_le hheld.tidy now

lemma Small.step (h : Small b) (hinv : Inv b hist) (op : Op P) : Small (b.step op).2 := by
  have hremembers := hinv.remembers h.card_le
  cases op with
  | push seq payload now => exact h.push hinv seq payload now
  | tick now =>
    have hemits := drain_emits hinv.tidy now
    refine ⟨?_, (hremembers.drain hinv.tidy now).card_le⟩
    exact (hemits.size_le hinv.tidy).trans (h.size_le.trans_eq hemits.capacity.symm)
  | flush =>
    have hemits := flush_emits hinv.tidy
    refine ⟨(hemits.size_le hinv.tidy).trans (h.size_le.trans_eq hemits.capacity.symm), ?_⟩
    exact (Remembers.flushLoop (b := { b with priming := false }) ⟨hremembers.below, h.card_le⟩
      (hinv.tidy.emits_unprimed b.stats.overflowFlushes).tidy rfl _).card_le

lemma step_capacity (hinv : Inv b hist) (op : Op P) : (b.step op).2.capacity = b.capacity := by
  cases op with
  | push seq payload now =>
    rcases push_cases hinv seq payload now with ⟨-, heq⟩ | ⟨-, -, -, -, heq⟩ | ⟨-, -, hheld, heq⟩
    · rw [ReorderBuffer.step, heq]
      rfl
    · rw [ReorderBuffer.step, heq]
      rfl
    · rw [ReorderBuffer.step, heq, (settle_emits hheld.tidy now).capacity, held_capacity]
  | tick now => exact (drain_emits hinv.tidy now).capacity
  | flush => exact (flush_emits hinv.tidy).capacity

/-- One call, `reset` among them. -/
inductive Call (P : Type) where
  | op (op : Op P)
  | reset

/-- A buffer with what it has delivered since it was made or reset. -/
structure Episode (P : Type) where
  buffer : ReorderBuffer P
  delivered : List (ℤ × P) := []

namespace Episode

def call (e : Episode P) : Call P → Episode P
  | .op op => ⟨(e.buffer.step op).2, e.delivered ++ (e.buffer.step op).1⟩
  | .reset => { buffer := e.buffer.reset }

/-- What holds between calls. -/
structure Bounded (capacity : ℕ) (e : Episode P) : Prop where
  inv : Inv e.buffer e.delivered
  small : Small e.buffer
  capacity_eq : e.buffer.capacity = capacity

lemma bounded_new (timeoutMs : ℚ) (capacity : ℤ) :
    Bounded (max 8 capacity).toNat ({ buffer := new timeoutMs capacity } : Episode P) :=
  ⟨inv_new timeoutMs capacity, ⟨Nat.zero_le _, Nat.zero_le _⟩, rfl⟩

variable {capacity : ℕ} {e : Episode P}

lemma Bounded.reset (h : Bounded capacity e) : Bounded capacity (e.call .reset) where
  inv :=
    { tidy := ⟨List.Pairwise.nil, by simp [Episode.call, ReorderBuffer.reset],
        by simp [Episode.call, ReorderBuffer.reset]⟩
      sorted := List.Pairwise.nil
      below := by simp [Episode.call]
      seen_sub := by simp [Episode.call, ReorderBuffer.reset]
      fresh := fun _ => ⟨rfl, rfl⟩
      primed := fun _ => rfl }
  small := ⟨Nat.zero_le _, Nat.zero_le _⟩
  capacity_eq := h.capacity_eq

lemma Bounded.call (h : Bounded capacity e) (c : Call P) : Bounded capacity (e.call c) := by
  cases c with
  | op op =>
    exact ⟨h.inv.step op, h.small.step h.inv op, (step_capacity h.inv op).trans h.capacity_eq⟩
  | reset => exact h.reset

lemma Bounded.calls (h : Bounded capacity e) (calls : List (Call P)) :
    Bounded capacity (calls.foldl Episode.call e) := by
  induction calls generalizing e with
  | nil => exact h
  | cons c calls ih => exact ih (h.call c)

end Episode

/-- After any calls, with any inputs: the heap has exactly the pending numbers, each of them once;
none of them has been passed; no more packets are pending than the capacity, and no more delivered
numbers remembered than four times as many, all of them passed; and while the buffer is priming, nothing
has been delivered since it was made or reset. -/
theorem memory_bounded (timeoutMs : ℚ) (capacity : ℤ) (calls : List (Call P)) :
    let e := calls.foldl Episode.call { buffer := new timeoutMs capacity }
    (e.buffer.heap.Nodup ∧ ∀ s, s ∈ e.buffer.heap ↔ s ∈ e.buffer.pending.keys) ∧
      (∀ s ∈ e.buffer.pending.keys, e.buffer.nextSeq ≤ s) ∧
      e.buffer.pending.size ≤ (max 8 capacity).toNat ∧
      (e.buffer.seen.card ≤ 4 * (max 8 capacity).toNat ∧ ∀ s ∈ e.buffer.seen, s < e.buffer.nextSeq) ∧
      (e.buffer.priming = true → e.delivered = []) := by
  intro e
  have h : Episode.Bounded (max 8 capacity).toNat e :=
    (Episode.bounded_new timeoutMs capacity).calls calls
  obtain ⟨⟨-, hmem, hnext⟩, -, -, -, -, hprimed⟩ := h.inv
  refine ⟨⟨h.inv.tidy.nodup, hmem⟩, fun s hs => hnext s ((hmem s).2 hs), ?_,
    ⟨?_, (h.inv.remembers h.small.card_le).below⟩, hprimed⟩
  · rw [← h.capacity_eq]
    exact h.small.size_le
  · rw [← h.capacity_eq]
    exact h.small.card_le

end Turbobond.Bond.ReorderBuffer
