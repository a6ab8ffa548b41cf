import Turbobond.Android.Reorder

/-!
# Resequencing on Android is safe

Over a run of the buffer the numbers returned increase strictly, and the buffer stays small.  What
has been returned lies below `nextSeq`, and what is held above it, as long as `nextSeq` does not
overflow.
-/

namespace Turbobond.Android.ReorderBuffer

variable {P : Type} {b : ReorderBuffer P} {hist : List (ℤ × P)}

/-- A call whose number, if it has one, is from 0 to `2 ^ 63 - 2`. -/
def Op.Valid : Op P → Prop
  | .push seq _ _ => 0 ≤ seq ∧ seq < maxLong
  | .tick _ => True

instance : DecidablePred (Op.Valid (P := P))
  | .push _ _ _ => inferInstanceAs (Decidable (_ ∧ _))
  | .tick _ => inferInstanceAs (Decidable True)

lemma Op.Valid.isLong {op : Op P} (h : op.Valid) : op.IsLong := by
  cases op with
  | push seq packet now => exact ⟨le_trans (by norm_num) h.1, h.2.le⟩
  | tick now => trivial

/-- What holds between calls, of the buffer and all that it has returned. -/
structure Inv (b : ReorderBuffer P) (hist : List (ℤ × P)) : Prop where
  tidy : b.Tidy
  lt_max : ∀ s ∈ b.pending.keys, s < maxLong
  room : (b.pending.size : ℤ) < b.capacity
  started : b.nextSeq < 0 → hist = []
  sorted : (hist.map Prod.fst).Pairwise (· < ·)
  passed : ∀ e ∈ hist, e.1 < b.nextSeq

lemma inv_new (timeoutMs : ℤ) {capacity : ℤ} (h : 1 ≤ capacity) :
    Inv (new timeoutMs capacity : ReorderBuffer P) [] :=
  ⟨tidy_new timeoutMs capacity, by simp [new], h, fun _ => rfl, List.Pairwise.nil, by simp⟩

/-- A release, where everything returned before lies below the oldest packet. -/
lemma Within.inv_release (h : b.Within) {first : ℤ} (hfirst : b.Least first) (now : ℤ)
    (hnonneg : 0 ≤ first) (hlt : ∀ s ∈ b.pending.keys, s < maxLong)
    (hroom : (b.pending.size : ℤ) ≤ b.capacity) (hsorted : (hist.map Prod.fst).Pairwise (· < ·))
    (hpassed : ∀ e ∈ hist, e.1 < first) :
    Inv (b.release first now).2 (hist ++ (b.release first now).1) := by
  have htidy := h.tidy_release hfirst now
  obtain ⟨b', stop, hd, hrelease, hstop⟩ := h.release_drains hfirst now
  rw [hrelease] at htidy ⊢
  -- the last `Long` is not held, so it does not come out either
  have htop : stop ≤ maxLong := by
    by_contra hgt
    have hmax := hlt first hfirst.1
    obtain ⟨e, he, heq⟩ := List.mem_map.1 ((hd.mem_iff maxLong).2 ⟨hmax.le, not_le.1 hgt⟩)
    have hmem := (Dict.mem_keys_iff _ _).2 ⟨e.2, hd.packets e he⟩
    exact absurd (hlt e.1 hmem) (by omega)
  have hnext : b'.nextSeq = stop := by
    rw [hd.nextSeq]
    exact wrap_of_le (by omega) htop
  refine ⟨htidy, fun s hs => hlt s ((hd.mem_keys s).1 hs).2, ?_, fun hneg => ?_, ?_, ?_⟩
  · have hmem : first ∈ (b.release first now).1.map Prod.fst := (hd.mem_iff first).2 ⟨le_rfl, hstop⟩
    have hpos : 0 < (b.release first now).1.length := by
      rw [← List.length_map (f := Prod.fst)]
      exact List.length_pos_of_mem hmem
    have hsize : (b.release first now).1.length + b'.pending.size = b.pending.size := hd.size
    have hcapacity : b'.capacity = b.capacity := hd.capacity
    change (b'.pending.size : ℤ) < b'.capacity
    omega
  · have hneg' : b'.nextSeq < 0 := hneg
    omega
  · rw [List.map_append]
    refine List.pairwise_append.2 ⟨hsorted, hd.sorted, fun s hs t ht => ?_⟩
    obtain ⟨e, he, rfl⟩ := List.mem_map.1 hs
    exact (hpassed e he).trans_le ((hd.mem_iff t).1 ht).1
  · intro e he
    change e.1 < b'.nextSeq
    rw [hnext]
    rcases List.mem_append.1 he with he | he
    · exact (hpassed e he).trans hstop
    · exact ((hd.mem_iff e.1).1 (List.mem_map_of_mem he)).2

namespace Inv

/-- One call. -/
lemma step (h : Inv b hist) {op : Op P} (hop : op.Valid) :
    Inv (b.step op).2 (hist ++ (b.step op).1) := by
  have hsame : Inv b (hist ++ []) := by
    rw [List.append_nil]
    exact h
  cases op with
  | push seq packet now =>
    have hlt : ∀ s ∈ ((b.opened seq now).put seq packet now).pending.keys, s < maxLong := by
      intro s hs
      rcases mem_keys_put.1 hs with rfl | hs
      · exact hop.2
      · rw [opened_pending] at hs
        exact h.lt_max s hs
    rcases h.tidy.push_cases hop.isLong packet now with ⟨-, -, heq⟩ |
      ⟨first, hle, hwithin, hfirst, -, heq⟩ | ⟨hold, hlt', htidy, hroom, -, heq⟩
    · rw [step_push heq]
      exact hsame
    · rw [step_push heq]
      have hfrom := hwithin.le first hfirst.1
      rw [put_nextSeq] at hfrom
      have hopened : 0 ≤ (b.opened seq now).nextSeq ∧ ∀ e ∈ hist, e.1 < (b.opened seq now).nextSeq := by
        rw [opened]
        split_ifs with hfresh
        · rw [h.started hfresh]
          exact ⟨hop.1, by simp⟩
        · exact ⟨not_lt.1 hfresh, h.passed⟩
      have hsize := Dict.size_set_le b.pending seq packet
      have hroom := h.room
      exact hwithin.inv_release hfirst now (hopened.1.trans hfrom) hlt
        (by rw [put_pending, put_capacity, opened_pending, opened_capacity]; omega) h.sorted
        fun e he => (hopened.2 e he).trans_le hfrom
    · rw [step_push heq, List.append_nil]
      have hnext : ((b.opened seq now).put seq packet now).nextSeq = b.nextSeq := by
        rw [put_nextSeq, opened, if_neg (not_lt.2 hold)]
      refine ⟨htidy, hlt, hroom, fun hneg => ?_, h.sorted, fun e he => ?_⟩
      · rw [hnext] at hneg
        exact absurd hold (not_le.2 hneg)
      · rw [hnext]
        exact h.passed e he
  | tick now =>
    rcases h.tidy.tick_cases now with ⟨-, heq⟩ | ⟨first, hwithin, hfirst, -, heq⟩
    · rw [step_tick heq]
      exact hsame
    · rw [step_tick heq]
      have hfrom := h.tidy.lt first hfirst.1
      have hold : 0 ≤ b.nextSeq := by
        by_contra hneg
        have hnil := h.tidy.fresh (not_le.1 hneg)
        exact absurd (hnil ▸ hfirst.1) List.not_mem_nil
      exact hwithin.inv_release hfirst now (hold.trans hfrom.le) h.lt_max h.room.le h.sorted
        fun e he => (h.passed e he).trans hfrom

/-- A run of calls. -/
lemma run (h : Inv b hist) {ops : List (Op P)} (hops : ∀ op ∈ ops, op.Valid) :
    Inv (run ops b).2 (hist ++ (ReorderBuffer.run ops b).1) := by
  induction ops generalizing b hist with
  | nil => simpa [ReorderBuffer.run] using h
  | cons op ops ih =>
    rw [ReorderBuffer.run, Machine.run_cons, ← List.append_assoc]
    exact ih (h.step (hops op List.mem_cons_self))
      fun op' hop' => hops op' (List.mem_cons_of_mem _ hop')

end Inv

/-- **Resequencing safety.**  Whatever the capacity, the timeout and the clock readings, every run
of a new buffer ends without an exception; the numbers it has returned increase strictly, every
number held is one that has not been passed, and fewer packets are held than the capacity. -/
theorem resequencing_safe (timeoutMs : ℤ) {capacity : ℤ} (hcapacity : 1 ≤ capacity)
    (ops : List (Op P)) (hops : ∀ op ∈ ops, op.Valid) :
    ∃ out b, calls ops (new timeoutMs capacity) = .ok (out, b) ∧
      (out.map Prod.fst).Pairwise (· < ·) ∧ (∀ s ∈ b.pending.keys, b.nextSeq ≤ s) ∧
      (b.pending.size : ℤ) < capacity := by
  obtain ⟨heq, -, -, hsame⟩ := (tidy_new timeoutMs capacity).run fun op hop => (hops op hop).isLong
  have hinv := (inv_new (P := P) timeoutMs hcapacity).run hops
  rw [List.nil_append] at hinv
  refine ⟨_, _, heq, hinv.sorted, fun s hs => (hinv.tidy.lt s hs).le, ?_⟩
  have hroom := hinv.room
  rwa [hsame] at hroom

/-- Three packets with a gap before each but the first, in a buffer for two. -/
theorem resequencing_safe_twoGaps :
    ∃ out b, calls [.push 0 'a' 0, .push 2 'b' 1, .push 5 'c' 2, .tick 95]
        (new 90 2 : ReorderBuffer Char) = .ok (out, b) ∧
      (out.map Prod.fst).Pairwise (· < ·) ∧ (∀ s ∈ b.pending.keys, b.nextSeq ≤ s) ∧
      (b.pending.size : ℤ) < 2 :=
  resequencing_safe 90 (by decide) _ (by decide)

end Turbobond.Android.ReorderBuffer
