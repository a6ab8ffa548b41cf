import Turbobond.Bond.ReorderInv
import Turbobond.Lib.Numbering

/-!
# Resequencing is safe

Over a whole run of the buffer the numbers released increase strictly, what is released
under a number is the packet that was accepted under it, and every push is accounted for
once: the accepted packets are, up to order, the released and the pending ones, and the
refused ones are the two drop counters.
-/

namespace Turbobond.Bond.ReorderBuffer

variable {P : Type}

/-- A buffer never holds or releases two packets under one number. -/
lemma Inv.nodup {b : ReorderBuffer P} {hist : List (ℤ × P)} (h : Inv b hist) :
    ((hist ++ b.packets).map Prod.fst).Nodup := by
  rw [List.map_append]
  refine List.nodup_append.2 ⟨h.sorted.imp fun hab => hab.ne, ?_, ?_⟩
  · have : b.packets.map Prod.fst = b.pending.keys := by
      simp [packets, Dict.keys, Function.comp_def]
    rw [this]
    exact b.pending.keys_nodup
  · intro s hs t ht hst
    obtain ⟨e, he, rfl⟩ := List.mem_map.1 hs
    obtain ⟨p, hp, rfl⟩ := List.mem_map.1 ht
    obtain ⟨q, hq, rfl⟩ := List.mem_map.1 hp
    have hmem : q.1 ∈ b.heap := (h.tidy.mem_iff q.1).2 (List.mem_map.2 ⟨q, hq, rfl⟩)
    have hle := h.tidy.nextSeq_le q.1 hmem
    have hlt := h.below e he
    simp only at hst
    omega

/-- The accepted packets of a run of a new buffer, up to order. -/
lemma accepted_perm (timeoutMs : ℚ) (capacity : ℤ) (ops : List (Op P)) :
    ((accepted ops (new timeoutMs capacity)).map fun a => (a.1, a.2.1)).Perm
      ((run ops (new timeoutMs capacity)).1 ++ (run ops (new timeoutMs capacity)).2.packets) := by
  have h := (accounting (inv_new timeoutMs capacity) ops).1
  simpa [packets, new, Dict.empty] using h

/-- No number is accepted twice in a run of a new buffer. -/
lemma accepted_nodup (timeoutMs : ℚ) (capacity : ℤ) (ops : List (Op P)) :
    ((accepted ops (new timeoutMs capacity)).map Prod.fst).Nodup := by
  have hperm := (accepted_perm timeoutMs capacity ops).map Prod.fst
  rw [List.map_map] at hperm
  have hinv := (inv_new (P := P) timeoutMs capacity).run ops
  rw [List.nil_append] at hinv
  exact hperm.nodup_iff.2 hinv.nodup

/-- Only packets that were pushed are accepted. -/
lemma accepted_sublist (ops : List (Op P)) (b : ReorderBuffer P) :
    (accepted ops b).Sublist (pushes ops) := by
  induction ops generalizing b with
  | nil => exact List.Sublist.refl _
  | cons op ops ih =>
    cases op with
    | tick now => exact ih _
    | flush => exact ih _
    | push seq payload now =>
      simp only [accepted, acceptedBy]
      split
      · exact (ih _).cons_cons _
      · exact (ih _).cons _

/-- What is released under a number is the first packet accepted under it. -/
lemma find?_accepted (timeoutMs : ℚ) (capacity : ℤ) (ops : List (Op P)) {e : ℤ × P}
    (he : e ∈ (run ops (new timeoutMs capacity)).1) :
    ∃ now, (accepted ops (new timeoutMs capacity)).find? (fun a => a.1 = e.1) =
      some (e.1, e.2, now) := by
  have hmem := (accepted_perm timeoutMs capacity ops).mem_iff.2 (List.mem_append_left _ he)
  obtain ⟨a, ha, rfl⟩ := List.mem_map.1 hmem
  obtain ⟨c, hc⟩ : ∃ c, (accepted ops (new timeoutMs capacity)).find? (fun c => c.1 = a.1)
      = some c :=
    Option.isSome_iff_exists.1 (List.find?_isSome.2 ⟨a, ha, by simp⟩)
  have hca : c.1 = a.1 := by simpa using List.find?_some hc
  have heq : c = a := List.inj_on_of_nodup_map (accepted_nodup timeoutMs capacity ops)
    (List.mem_of_find?_eq_some hc) ha hca
  exact ⟨a.2.2, by rw [hc, heq]⟩

/-- **Resequencing safety.**  For every run of a new buffer: the released numbers increase
strictly, every released payload is the first one accepted under its number, the accepted
packets are some of those pushed and are those released and those still pending, and the
pushes that were not accepted are those counted as duplicate or late. -/
theorem resequencing_safety (timeoutMs : ℚ) (capacity : ℤ) (ops : List (Op P)) :
    let b₀ : ReorderBuffer P := new timeoutMs capacity
    let out := (run ops b₀).1
    let b := (run ops b₀).2
    (out.map Prod.fst).Pairwise (· < ·) ∧
      (∀ e ∈ out, ∃ now, (accepted ops b₀).find? (fun a => a.1 = e.1) = some (e.1, e.2, now)) ∧
      ((accepted ops b₀).map fun a => (a.1, a.2.1)).Perm (out ++ b.packets) ∧
      (accepted ops b₀).Sublist (pushes ops) ∧
      (pushes ops).length =
        (accepted ops b₀).length + b.stats.duplicates + b.stats.lateDrops := by
  have hinv := (inv_new (P := P) timeoutMs capacity).run ops
  rw [List.nil_append] at hinv
  refine ⟨hinv.sorted, fun e he => find?_accepted timeoutMs capacity ops he,
    accepted_perm timeoutMs capacity ops, accepted_sublist ops _, ?_⟩
  simpa [new] using (accounting (inv_new (P := P) timeoutMs capacity) ops).2

/-! ### Buffers that are fed the packets of a list -/

/-- A buffer and everything it has released, where each packet stands under its number in one
list. -/
structure Ordered (sent : List P) (b : ReorderBuffer P) (hist : List (ℤ × P)) : Prop where
  inv : Inv b hist
  released : ∀ e ∈ hist, Numbered sent e.1 e.2
  pending : ∀ e ∈ b.packets, Numbered sent e.1 e.2

/-- A call that pushes, if anything, a packet of the list under its number. -/
def Op.Feeds (sent : List P) : Op P → Prop
  | .push seq payload _ => Numbered sent seq payload
  | _ => True

namespace Ordered

variable {sent : List P} {b : ReorderBuffer P} {hist : List (ℤ × P)}

lemma new (sent : List P) (timeoutMs : ℚ) (capacity : ℤ) :
    Ordered sent (ReorderBuffer.new timeoutMs capacity) [] :=
  ⟨inv_new timeoutMs capacity, by simp, by simp [packets, ReorderBuffer.new, Dict.empty]⟩

lemma append (h : Ordered sent b hist) (more : List P) : Ordered (sent ++ more) b hist :=
  ⟨h.inv, fun e he => (h.released e he).append more, fun e he => (h.pending e he).append more⟩

lemma step (h : Ordered sent b hist) {op : Op P} (hop : op.Feeds sent) :
    Ordered sent (b.step op).2 (hist ++ (b.step op).1) := by
  have hall : ∀ e ∈ (b.step op).1 ++ (b.step op).2.packets, Numbered sent e.1 e.2 := by
    intro e he
    rcases List.mem_append.1 ((accounting_step h.inv op).1.mem_iff.2 he) with he | he
    · exact h.pending e he
    · obtain ⟨a, ha, rfl⟩ := List.mem_map.1 he
      cases op with
      | push seq payload now =>
        simp only [acceptedBy] at ha
        split at ha
        · obtain rfl := List.mem_singleton.1 ha
          exact hop
        · exact absurd ha List.not_mem_nil
      | tick now => exact absurd ha List.not_mem_nil
      | flush => exact absurd ha List.not_mem_nil
  refine ⟨h.inv.step op, fun e he => ?_, fun e he => hall e (List.mem_append_right _ he)⟩
  rcases List.mem_append.1 he with he | he
  · exact h.released e he
  · exact hall e (List.mem_append_left _ he)

/-- What has been released is a sublist of the list. -/
theorem sublist (h : Ordered sent b hist) : (payloads hist).Sublist sent :=
  sublist_of_numbered h.inv.sorted h.released

end Ordered

/-! ### Numbers above all that came before -/

/-- Everything the buffer has seen lies below a number. -/
structure Below (b : ReorderBuffer P) (n : ℤ) : Prop where
  heap : ∀ s ∈ b.heap, s < n
  seen : ∀ s ∈ b.seen, s < n
  next : b.started = true → b.nextSeq ≤ n

namespace Below

variable {b b' : ReorderBuffer P} {n m : ℤ} {hist out : List (ℤ × P)}

lemma new (timeoutMs : ℚ) (capacity : ℤ) (n : ℤ) :
    Below (ReorderBuffer.new timeoutMs capacity : ReorderBuffer P) n :=
  ⟨by simp [ReorderBuffer.new], by simp [ReorderBuffer.new], by simp [ReorderBuffer.new]⟩

lemma mono (h : Below b n) (hle : n ≤ m) : Below b m :=
  ⟨fun s hs => (h.heap s hs).trans_le hle, fun s hs => (h.seen s hs).trans_le hle,
    fun hs => (h.next hs).trans hle⟩

lemma emits (h : Below b n) (he : Emits b out b') : Below b' n where
  heap := fun s hs => h.heap s (he.heap_eq ▸ List.mem_append_right _ hs)
  seen := by
    intro s hs
    rcases he.seen_sub s hs with hs | hs
    · exact h.seen s hs
    · exact h.heap s (he.heap_eq ▸ List.mem_append_left _ hs)
  next := by
    intro hs
    rcases he.nextSeq_from with heq | ⟨e, hmem, heq⟩
    · rw [heq]
      exact h.next (he.started ▸ hs)
    · have := h.heap e.1 (he.heap_eq ▸ List.mem_append_left _ (List.mem_map_of_mem hmem))
      omega

lemma tick (h : Below b n) (ht : Tidy b) (now : Time) : Below (b.tick now).2 n :=
  h.emits (drain_emits ht now)

lemma held (h : Below b n) (payload : P) (now : Time) : Below (b.held n payload now) (n + 1) := by
  have hnext : (b.locate n now).nextSeq ≤ n := by
    by_contra hlt
    obtain ⟨heq, hstarted, -⟩ := locate_eq_of_lt (not_le.1 hlt)
    rw [heq] at hlt
    exact hlt (h.next hstarted)
  refine ⟨fun s hs => ?_, fun s hs => ?_, fun _ => ?_⟩
  · rw [ReorderBuffer.held, hold, List.mem_orderedInsert, locate_heap] at hs
    rcases hs with rfl | hs
    · exact Int.lt_succ s
    · have := h.heap s hs
      omega
  · have := h.seen s (by simpa [ReorderBuffer.held, hold] using hs)
    omega
  · exact hnext.trans (by omega)

/-- A number above everything is accepted. -/
lemma push (h : Below b n) (hinv : Inv b hist) (payload : P) (now : Time) :
    (b.push n payload now).2.stats.duplicates = b.stats.duplicates ∧
      (b.push n payload now).2.stats.lateDrops = b.stats.lateDrops ∧
        Below (b.push n payload now).2 (n + 1) := by
  rcases push_cases hinv n payload now with
    ⟨hdup, -⟩ | ⟨hlt, -, hstarted, -, -⟩ | ⟨-, -, hinv', heq⟩
  · rcases hdup with hmem | hmem
    · exact absurd (h.heap n ((hinv.tidy.mem_iff n).2 hmem)) (lt_irrefl n)
    · exact absurd (h.seen n hmem) (lt_irrefl n)
  · exact absurd (h.next hstarted) (not_le.2 hlt)
  · have he := settle_emits hinv'.tidy now
    rw [heq]
    refine ⟨?_, ?_, (h.held payload now).emits he⟩
    · rw [he.duplicates]
      simp [ReorderBuffer.held, hold]
    · rw [he.lateDrops]
      simp [ReorderBuffer.held, hold]

end Below

end Turbobond.Bond.ReorderBuffer
