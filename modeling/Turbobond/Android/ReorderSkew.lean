import Turbobond.Android.ReorderSafety
import Turbobond.Bond.ReorderSkew

/-!
# Bounded skew on Android

A contiguous stream whose packets arrive in any order, but none of them a timeout or more after a
packet with a higher number, comes out complete and in order if the first packet to arrive is the
first of the stream; if it is not, the packets before it are lost.
-/

namespace Turbobond.Android.ReorderBuffer

open Bond.ReorderBuffer (numbered mem_numbered_fst numbered_sorted)

variable {P : Type} {b : ReorderBuffer P} {hist : List (ℤ × P)}

def Op.now : Op P → ℤ
  | .push _ _ now => now
  | .tick now => now

/-- The packets pushed, with the times of their arrival. -/
def pushes (ops : List (Op P)) : List (ℤ × P × ℤ) :=
  ops.filterMap fun
    | .push seq packet now => some (seq, packet, now)
    | .tick _ => none

/-- Of the numbers that have arrived of a stream, those that wait for an earlier one. -/
def outstanding (first : ℤ) (arrived : List ℤ) : List ℤ :=
  arrived.filter fun s => (List.range (s - first).toNat).any fun i => first + i ∉ arrived

lemma mem_outstanding {first s : ℤ} {arrived : List ℤ} :
    s ∈ outstanding first arrived ↔ s ∈ arrived ∧ ∃ m, first ≤ m ∧ m < s ∧ m ∉ arrived := by
  rw [outstanding, List.mem_filter, List.any_eq_true]
  refine and_congr_right fun _ => ⟨?_, ?_⟩
  · rintro ⟨i, hi, hmissing⟩
    have hlt := List.mem_range.1 hi
    exact ⟨first + i, by omega, by omega, by simpa using hmissing⟩
  · rintro ⟨m, hfirst, hlt, hmissing⟩
    refine ⟨(m - first).toNat, List.mem_range.2 (by omega), ?_⟩
    have heq : first + ((m - first).toNat : ℤ) = m := by omega
    rw [heq, decide_eq_true_eq]
    exact hmissing

/-- The arrivals of a stream of `n` packets, and how late they may be. -/
structure Skewed (first : ℤ) (n : ℕ) (timeoutMs : ℤ) (all : List (ℤ × P × ℤ)) : Prop where
  nodup : (all.map Prod.fst).Nodup
  mem_iff : ∀ m, m ∈ all.map Prod.fst ↔ first ≤ m ∧ m < first + n
  skew : ∀ x ∈ all, ∀ y ∈ all, x.1 < y.1 → x.2.2 < y.2.2 + timeoutMs

/-- The buffer has taken in the arrivals `done` of a stream and will deliver `cursor` next. -/
structure Smooth (first : ℤ) (b : ReorderBuffer P) (hist : List (ℤ × P)) (done : List (ℤ × P × ℤ))
    (cursor : ℤ) : Prop where
  inv : Inv b hist
  at_cursor : b.nextSeq = cursor ∧ 0 ≤ cursor ∨ b.nextSeq < 0 ∧ cursor = first ∧ done = []
  le : first ≤ cursor
  /-- What has arrived has been delivered or is held. -/
  taken : ∀ s packet, (b.pending.get? s = some packet ∨ (s, packet) ∈ hist) ↔
    ∃ t, (s, packet, t) ∈ done
  passed : ∀ m, first ≤ m → m < cursor → m ∈ done.map Prod.fst
  missing : cursor ∉ done.map Prod.fst
  /-- The wait lasts for at least a timeout after the arrival of a packet that is held. -/
  waits : b.pending.size ≠ 0 →
    ∃ x ∈ done, x.1 ∈ b.pending.keys ∧ x.2.2 + b.timeoutMs ≤ b.deadline

namespace Smooth

variable {first cursor : ℤ} {done : List (ℤ × P × ℤ)}

/-- Everything held lies above the number to be delivered next. -/
lemma cursor_lt (h : Smooth first b hist done cursor) {s : ℤ} (hs : s ∈ b.pending.keys) :
    cursor < s := by
  rcases h.at_cursor with ⟨hnext, -⟩ | ⟨hfresh, -, hnil⟩
  · exact hnext ▸ h.inv.tidy.lt s hs
  · rw [h.inv.tidy.fresh hfresh] at hs
    exact absurd hs List.not_mem_nil

/-- While something is held, the number to be delivered next is still to come, and in time. -/
lemma lt_deadline (h : Smooth first b hist done cursor) {n : ℕ} {rest : List (ℤ × P × ℤ)} {now : ℤ}
    (hs : Skewed first n b.timeoutMs (done ++ rest)) (hrest : ∀ x ∈ rest, now ≤ x.2.2)
    (hne : b.pending.size ≠ 0) : now < b.deadline := by
  obtain ⟨x, hx, hmem, hle⟩ := h.waits hne
  have hlt := h.cursor_lt hmem
  have hxs := (hs.mem_iff x.1).1 (List.mem_map_of_mem (List.mem_append_left _ hx))
  have hcursor := (hs.mem_iff cursor).2 ⟨h.le, by omega⟩
  obtain ⟨y, hy, heq⟩ := List.mem_map.1 hcursor
  rcases List.mem_append.1 hy with hy' | hy'
  · exact absurd (List.mem_map.2 ⟨y, hy', heq⟩) h.missing
  · have hskew := hs.skew y hy x (List.mem_append_left _ hx) (by omega)
    have hfrom := hrest y hy'
    omega

/-- A tick releases nothing. -/
lemma tick (h : Smooth first b hist done cursor) {n : ℕ} {rest : List (ℤ × P × ℤ)} {now : ℤ}
    (hs : Skewed first n b.timeoutMs (done ++ rest)) (hrest : ∀ x ∈ rest, now ≤ x.2.2) :
    b.step (.tick now) = ([], b) := by
  refine step_tick (if_pos ?_)
  by_cases hzero : b.pending.size = 0
  · exact Or.inl hzero
  · exact Or.inr (h.lt_deadline hs hrest hzero)

variable {seq now : ℤ} {packet : P} {n : ℕ} {rest : List (ℤ × P × ℤ)}

/-- A packet that arrives is neither late nor known. -/
lemma arrival (h : Smooth first b hist done cursor)
    (hs : Skewed first n b.timeoutMs (done ++ (seq, packet, now) :: rest)) :
    cursor ≤ seq ∧ seq ∉ done.map Prod.fst ∧ b.pending.get? seq = none := by
  have hnodup := hs.nodup
  rw [List.map_append, List.nodup_append] at hnodup
  have hnew : seq ∉ done.map Prod.fst := fun hmem =>
    hnodup.2.2 seq hmem seq (by simp) rfl
  refine ⟨?_, hnew, ?_⟩
  · by_contra hlt
    have hfirst := ((hs.mem_iff seq).1 (by simp)).1
    exact hnew (h.passed seq hfirst (not_le.1 hlt))
  · cases hget : b.pending.get? seq with
    | none => rfl
    | some packet' =>
      obtain ⟨t, ht⟩ := (h.taken seq packet').1 (Or.inl hget)
      exact absurd (List.mem_map_of_mem ht) hnew

/-- With it in the map, the buffer has taken in one more. -/
lemma taken_put (h : Smooth first b hist done cursor) (hnone : b.pending.get? seq = none) (s : ℤ)
    (packet' : P) :
    (((b.opened seq now).put seq packet now).pending.get? s = some packet' ∨
        (s, packet') ∈ hist) ↔
      ∃ t, (s, packet', t) ∈ done ++ [(seq, packet, now)] := by
  rw [put_pending, opened_pending, Dict.get?_set]
  simp only [List.mem_append, List.mem_singleton, Prod.mk.injEq, exists_or, ← h.taken]
  by_cases hseq : s = seq
  · subst hseq
    simp [hnone, or_comm, eq_comm]
  · simp [hseq]

/-- The buffer delivers from the cursor on. -/
lemma nextSeq_opened (h : Smooth first b hist done cursor) (hstart : done = [] → seq = first) :
    (b.opened seq now).nextSeq = cursor := by
  rcases h.at_cursor with ⟨hnext, hnonneg⟩ | ⟨hfresh, hfirst, hnil⟩
  · rw [opened, if_neg (by omega), hnext]
  · rw [opened, if_pos hfresh, hfirst, ← hstart hnil]
    rfl

/-- A packet behind a gap does not fill the buffer, and the wait for the gap is not over. -/
lemma waits_put (h : Smooth first b hist done cursor) (hs : Skewed first n b.timeoutMs
      (done ++ (seq, packet, now) :: rest)) (hrest : ∀ x ∈ rest, now ≤ x.2.2)
    (hstart : done = [] → seq = first) (hfits : wrap (now + b.timeoutMs) = now + b.timeoutMs)
    (hroom : ((outstanding first ((done ++ [(seq, packet, now)]).map Prod.fst)).length : ℤ) <
      b.capacity) (hne : seq ≠ cursor) :
    let held := (b.opened seq now).put seq packet now
    (held.pending.size : ℤ) < held.capacity ∧ now < held.deadline := by
  intro held
  obtain ⟨hle, hnew, hnone⟩ := h.arrival hs
  have hopened : b.opened seq now = b := by
    rcases h.at_cursor with ⟨hnext, hnonneg⟩ | ⟨-, hfirst, hnil⟩
    · rw [opened, if_neg (by omega)]
    · exact absurd ((hstart hnil).trans hfirst.symm) hne
  have hmissing : cursor ∉ (done ++ [(seq, packet, now)]).map Prod.fst := by
    simp only [List.map_append, List.map_cons, List.map_nil, List.mem_append, List.mem_singleton]
    exact not_or.2 ⟨h.missing, Ne.symm hne⟩
  constructor
  · have hsub : held.pending.keys ⊆
        outstanding first ((done ++ [(seq, packet, now)]).map Prod.fst) := by
      intro s hs'
      obtain ⟨packet', hget⟩ := (Dict.mem_keys_iff _ _).1 hs'
      obtain ⟨t, ht⟩ := (h.taken_put hnone s packet').1 (Or.inl hget)
      refine mem_outstanding.2 ⟨List.mem_map_of_mem ht, cursor, h.le, ?_, hmissing⟩
      rcases mem_keys_put.1 hs' with rfl | hs'
      · exact lt_of_le_of_ne hle (Ne.symm hne)
      · rw [opened_pending] at hs'
        exact h.cursor_lt hs'
    have hlength := (held.pending.keys_nodup.subperm hsub).length_le
    rw [Dict.length_keys] at hlength
    rw [put_capacity, opened_capacity]
    omega
  · have hdeadline : held.deadline =
        if (b.pending.set seq packet).size = 1 then now + b.timeoutMs else b.deadline := by
      rw [put_deadline, hopened, hfits]
    have hsize : (b.pending.set seq packet).size = b.pending.size + 1 := by
      have hmem : seq ∉ b.pending.keys := (Dict.get?_eq_none_iff _ _).1 hnone
      rw [← Dict.length_keys, Dict.keys_set_of_notMem _ hmem, List.length_append, Dict.length_keys]
      rfl
    rw [hdeadline, hsize]
    split_ifs with hone
    · -- the packet before it is still to come
      have hn := (hs.mem_iff seq).1 (by simp)
      obtain ⟨y, hy, heq⟩ := List.mem_map.1 ((hs.mem_iff cursor).2 ⟨h.le, by omega⟩)
      have hskew := hs.skew y hy (seq, packet, now) (by simp) (by simp only; omega)
      have hfrom : now ≤ y.2.2 := by
        rcases List.mem_append.1 hy with hy | hy
        · exact absurd (List.mem_map.2 ⟨y, hy, heq⟩) h.missing
        · rcases List.mem_cons.1 hy with rfl | hy
          · exact le_rfl
          · exact hrest y hy
      exact hfrom.trans_lt hskew
    · refine h.lt_deadline hs (fun x hx => ?_) (by omega)
      rcases List.mem_cons.1 hx with rfl | hx
      · exact le_rfl
      · exact hrest x hx

/-- A packet behind a gap is held. -/
lemma hold (h : Smooth first b hist done cursor) (hs : Skewed first n b.timeoutMs
      (done ++ (seq, packet, now) :: rest)) (hinv : Inv ((b.opened seq now).put seq packet now) hist)
    (hstart : done = [] → seq = first) (hfits : wrap (now + b.timeoutMs) = now + b.timeoutMs)
    (hne : seq ≠ cursor) :
    Smooth first ((b.opened seq now).put seq packet now) hist (done ++ [(seq, packet, now)])
      cursor := by
  obtain ⟨hle, hnew, hnone⟩ := h.arrival hs
  have hopened : b.nextSeq = cursor ∧ 0 ≤ cursor ∧ b.opened seq now = b := by
    rcases h.at_cursor with ⟨hnext, hnonneg⟩ | ⟨-, hfirst, hnil⟩
    · exact ⟨hnext, hnonneg, by rw [opened, if_neg (by omega)]⟩
    · exact absurd ((hstart hnil).trans hfirst.symm) hne
  refine ⟨hinv, Or.inl ⟨?_, hopened.2.1⟩, h.le, h.taken_put hnone, fun m hm hlt => ?_, ?_,
    fun _ => ?_⟩
  · rw [put_nextSeq, hopened.2.2, hopened.1]
  · rw [List.map_append]
    exact List.mem_append_left _ (h.passed m hm hlt)
  · simp only [List.map_append, List.map_cons, List.map_nil, List.mem_append, List.mem_singleton]
    exact not_or.2 ⟨h.missing, Ne.symm hne⟩
  · rw [put_timeoutMs, opened_timeoutMs, put_deadline, hopened.2.2, hfits]
    have hmem : seq ∉ b.pending.keys := (Dict.get?_eq_none_iff _ _).1 hnone
    have hsize : (b.pending.set seq packet).size = b.pending.size + 1 := by
      rw [← Dict.length_keys, Dict.keys_set_of_notMem _ hmem, List.length_append, Dict.length_keys]
      rfl
    by_cases hzero : b.pending.size = 0
    · refine ⟨(seq, packet, now), by simp, mem_keys_put.2 (Or.inl rfl), ?_⟩
      rw [hsize, if_pos (by omega)]
    · obtain ⟨x, hx, hmem', hwait⟩ := h.waits hzero
      refine ⟨x, List.mem_append_left _ hx, mem_keys_put.2 (Or.inr hmem'), ?_⟩
      rw [hsize, if_neg (by omega)]
      exact hwait

/-- The packet that was missing is delivered, and all that waited for it. -/
lemma deliver (h : Smooth first b hist done cursor) (hnone : b.pending.get? cursor = none)
    (hpast : ∀ x ∈ done, x.2.2 ≤ now)
    (hwithin : ((b.opened cursor now).put cursor packet now).Within)
    (hleast : ((b.opened cursor now).put cursor packet now).Least cursor)
    (hinv : Inv (((b.opened cursor now).put cursor packet now).release cursor now).2
      (hist ++ (((b.opened cursor now).put cursor packet now).release cursor now).1))
    (hfits : wrap (now + b.timeoutMs) = now + b.timeoutMs) (hnonneg : 0 ≤ cursor) :
    ∃ stop, Smooth first (((b.opened cursor now).put cursor packet now).release cursor now).2
      (hist ++ (((b.opened cursor now).put cursor packet now).release cursor now).1)
      (done ++ [(cursor, packet, now)]) stop := by
  obtain ⟨b', stop, hd, hrelease, hlt⟩ := hwithin.release_drains hleast now
  have htaken : ∀ s packet', ((((b.opened cursor now).put cursor packet now).pending.get? s =
      some packet' ∨ (s, packet') ∈ hist) ↔
        ∃ t, (s, packet', t) ∈ done ++ [(cursor, packet, now)]) := h.taken_put hnone
  have htimeout : ((b.opened cursor now).put cursor packet now).timeoutMs = b.timeoutMs := by simp
  rw [hrelease] at hinv ⊢
  generalize (b.opened cursor now).put cursor packet now = held at *
  generalize (held.release cursor now).1 = out at *
  -- the last number that comes out is below `nextSeq`, so `nextSeq` has not wrapped around
  have hnext : b'.nextSeq = stop := by
    obtain ⟨e, he, heq⟩ := List.mem_map.1 ((hd.mem_iff (stop - 1)).2 ⟨by omega, by omega⟩)
    have hpassed : e.1 < b'.nextSeq := hinv.passed e (List.mem_append_right _ he)
    have hstop := hd.le.2
    rw [hd.nextSeq] at hpassed ⊢
    have hrange := wrap_range stop
    refine wrap_of_le (by omega) ?_
    by_contra hgt
    have htop : stop = maxLong + 1 := by omega
    rw [htop] at hpassed
    have hwrap : wrap (maxLong + 1) = -2 ^ 63 := by decide
    rw [hwrap] at hpassed
    omega
  have hall : ∀ s packet', ((b'.wait now).pending.get? s = some packet' ∨ (s, packet') ∈ hist ++ out) ↔
      ∃ t, (s, packet', t) ∈ done ++ [(cursor, packet, now)] := by
    intro s packet'
    rw [← htaken, List.mem_append]
    change b'.pending.get? s = some packet' ∨ _ ↔ _
    rw [hd.get?]
    constructor
    · rintro (hget | hmem | hmem)
      · split_ifs at hget
        exact Or.inl hget
      · exact Or.inr hmem
      · exact Or.inl (hd.packets _ hmem)
    · rintro (hget | hmem)
      · split_ifs with hlt'
        · have hfrom := hleast.2 s ((Dict.mem_keys_iff _ _).2 ⟨packet', hget⟩)
          obtain ⟨⟨s', packet''⟩, he, rfl⟩ := List.mem_map.1 ((hd.mem_iff s).2 ⟨hfrom, hlt'⟩)
          have hsame : held.pending.get? s' = some packet'' := hd.packets _ he
          obtain rfl := Option.some.inj (hsame.symm.trans hget)
          exact Or.inr (Or.inr he)
        · exact Or.inl hget
      · exact Or.inr (Or.inl hmem)
  have hle := h.le
  refine ⟨stop, hinv, Or.inl ⟨hnext, by omega⟩, by omega, hall, fun m hm hlt' => ?_, fun hmem => ?_,
    fun hne => ?_⟩
  · by_cases hcursor : m < cursor
    · rw [List.map_append]
      exact List.mem_append_left _ (h.passed m hm hcursor)
    · obtain ⟨e, he, rfl⟩ := List.mem_map.1 ((hd.mem_iff m).2 ⟨not_lt.1 hcursor, hlt'⟩)
      obtain ⟨t, ht⟩ := (hall e.1 e.2).1 (Or.inr (List.mem_append_right _ he))
      exact List.mem_map_of_mem ht
  · obtain ⟨⟨s, packet', t⟩, hx, rfl⟩ := List.mem_map.1 hmem
    rcases (hall s packet').2 ⟨t, hx⟩ with hget | hmem'
    · exact absurd ((hd.mem_keys s).1 ((Dict.mem_keys_iff _ _).2 ⟨packet', hget⟩)).1 (lt_irrefl _)
    · have hpassed : s < b'.nextSeq := hinv.passed _ hmem'
      omega
  · obtain ⟨s, hs, -⟩ := exists_least hne
    obtain ⟨packet', hget⟩ := (Dict.mem_keys_iff _ _).1 hs
    obtain ⟨t, ht⟩ := (hall s packet').1 (Or.inl hget)
    refine ⟨_, ht, hs, ?_⟩
    have hsettings : b'.timeoutMs = b.timeoutMs := hd.timeoutMs.trans htimeout
    change t + b'.timeoutMs ≤ wrap (now + b'.timeoutMs)
    rw [hsettings, hfits]
    rcases List.mem_append.1 ht with ht | ht
    · have hpast' := hpast _ ht
      simp only at hpast'
      omega
    · obtain rfl : t = now := by simpa using congrArg (fun x => x.2.2) (List.mem_singleton.1 ht)
      exact le_rfl

/-- One arrival. -/
lemma push (h : Smooth first b hist done cursor) (hs : Skewed first n b.timeoutMs
      (done ++ (seq, packet, now) :: rest)) (hseq : 0 ≤ seq ∧ seq < maxLong)
    (hpast : ∀ x ∈ done, x.2.2 ≤ now) (hrest : ∀ x ∈ rest, now ≤ x.2.2)
    (hstart : done = [] → seq = first) (hfits : wrap (now + b.timeoutMs) = now + b.timeoutMs)
    (hroom : ((outstanding first ((done ++ [(seq, packet, now)]).map Prod.fst)).length : ℤ) <
      b.capacity) :
    ∃ cursor', Smooth first (b.step (.push seq packet now)).2
      (hist ++ (b.step (.push seq packet now)).1) (done ++ [(seq, packet, now)]) cursor' := by
  obtain ⟨hle, hnew, hnone⟩ := h.arrival hs
  have hnext : (b.opened seq now).nextSeq = cursor := h.nextSeq_opened hstart
  have hinv := h.inv.step (show (Op.push seq packet now).Valid from hseq)
  rcases h.inv.tidy.push_cases ⟨by omega, hseq.2.le⟩ packet now with ⟨hold, hlate, -⟩ |
    ⟨least, -, hwithin, hleast, hcause, heq⟩ | ⟨hold, hlt, htidy, hroom', hwait, heq⟩
  · rcases h.at_cursor with ⟨hnext', -⟩ | ⟨hfresh, -⟩
    · omega
    · omega
  · have hseq' : seq = cursor := by
      by_contra hne
      obtain ⟨hfree, hearly⟩ := h.waits_put hs hrest hstart hfits hroom hne
      rw [put_nextSeq, hnext] at hcause
      omega
    subst hseq'
    have hfrom := hwithin.le least hleast.1
    rw [put_nextSeq, hnext] at hfrom
    obtain rfl : seq = least := le_antisymm hfrom (hleast.2 seq (mem_keys_put.2 (Or.inl rfl)))
    rw [step_push heq] at hinv ⊢
    exact h.deliver hnone hpast hwithin hleast hinv hfits hseq.1
  · rw [step_push heq] at hinv ⊢
    rw [List.append_nil] at hinv ⊢
    have hne : seq ≠ cursor := by
      rcases h.at_cursor with ⟨hnext', -⟩ | ⟨hfresh, -⟩
      · omega
      · omega
    exact ⟨cursor, h.hold hs hinv hstart hfits hne⟩

/-- A run of calls. -/
lemma run (h : Smooth first b hist done cursor) {n : ℕ} {ops : List (Op P)}
    (hs : Skewed first n b.timeoutMs (done ++ pushes ops)) (hops : ∀ op ∈ ops, op.Valid)
    (hclock : (ops.map Op.now).Pairwise (· ≤ ·)) (hpast : ∀ x ∈ done, ∀ op ∈ ops, x.2.2 ≤ op.now)
    (hfits : ∀ op ∈ ops, wrap (op.now + b.timeoutMs) = op.now + b.timeoutMs)
    (hstart : done = [] → ∀ x ∈ (pushes ops).head?, x.1 = first)
    (hroom : ∀ pre, pre <+: ops →
      ((outstanding first ((done ++ pushes pre).map Prod.fst)).length : ℤ) < b.capacity) :
    ∃ cursor', Smooth first (run ops b).2 (hist ++ (ReorderBuffer.run ops b).1) (done ++ pushes ops)
      cursor' := by
  induction ops generalizing b hist done cursor with
  | nil => exact ⟨cursor, by simpa [ReorderBuffer.run, pushes] using h⟩
  | cons op ops ih =>
    rw [List.map_cons, List.pairwise_cons] at hclock
    have hrest : ∀ x ∈ pushes ops, op.now ≤ x.2.2 := by
      intro x hx
      obtain ⟨op', hop', heq⟩ := List.mem_filterMap.1 hx
      have hle := hclock.1 op'.now (List.mem_map_of_mem hop')
      cases op' with
      | push seq packet now =>
        obtain rfl := Option.some.inj heq
        exact hle
      | tick now => exact absurd heq (by simp)
    have hsettings := h.inv.tidy.settings (hops op List.mem_cons_self).isLong
    have hops' : ∀ op' ∈ ops, op'.Valid := fun op' hop' => hops op' (List.mem_cons_of_mem _ hop')
    rw [ReorderBuffer.run, Machine.run_cons, ← List.append_assoc]
    cases op with
    | tick now =>
      have htick : b.step (.tick now) = ([], b) := h.tick hs hrest
      rw [htick, List.append_nil]
      refine ih h hs hops' hclock.2
        (fun x hx op' hop' => hpast x hx op' (List.mem_cons_of_mem _ hop'))
        (fun op' hop' => hfits op' (List.mem_cons_of_mem _ hop')) hstart fun pre hpre => ?_
      exact hroom (.tick now :: pre) ((List.prefix_cons_inj _).2 hpre)
    | push seq packet now =>
      have hpushes : ∀ l : List (Op P),
          done ++ pushes (.push seq packet now :: l) = done ++ [(seq, packet, now)] ++ pushes l := by
        intro l
        simp [pushes]
      have hfirst : done = [] → seq = first := fun hnil => hstart hnil (seq, packet, now) rfl
      obtain ⟨cursor', h'⟩ := h.push hs (hops _ List.mem_cons_self)
        (fun x hx => hpast x hx _ List.mem_cons_self) hrest hfirst (hfits _ List.mem_cons_self)
        (by simpa [pushes] using hroom [.push seq packet now] (by simp))
      rw [hpushes] at hs ⊢
      refine ih h' (by rw [hsettings.1]; exact hs) hops' hclock.2 (fun x hx op' hop' => ?_)
        (fun op' hop' => ?_) (fun hnil => absurd hnil (by simp)) fun pre hpre => ?_
      · rcases List.mem_append.1 hx with hx | hx
        · exact hpast x hx op' (List.mem_cons_of_mem _ hop')
        · rw [List.mem_singleton.1 hx]
          exact hclock.1 op'.now (List.mem_map_of_mem hop')
      · rw [hsettings.1]
        exact hfits op' (List.mem_cons_of_mem _ hop')
      · rw [hsettings.2, ← hpushes]
        exact hroom _ ((List.prefix_cons_inj _).2 hpre)

/-- At the end of the stream everything has been delivered. -/
lemma delivered (h : Smooth first b hist done cursor) {packets : List P} {timeoutMs : ℤ}
    (hs : Skewed first packets.length timeoutMs done)
    (hstream : (done.map fun x => (x.1, x.2.1)).Perm (numbered first packets)) :
    hist = numbered first packets := by
  have hempty : ∀ s packet, b.pending.get? s ≠ some packet := by
    intro s packet hget
    have hlt := h.cursor_lt ((Dict.mem_keys_iff _ _).2 ⟨packet, hget⟩)
    obtain ⟨t, ht⟩ := (h.taken s packet).1 (Or.inl hget)
    have hmem := (hs.mem_iff s).1 (List.mem_map_of_mem ht)
    exact h.missing ((hs.mem_iff cursor).2 ⟨h.le, by omega⟩)
  have hmem : ∀ e, e ∈ hist ↔ e ∈ numbered first packets := by
    rintro ⟨s, packet⟩
    rw [← hstream.mem_iff, List.mem_map]
    have htaken := h.taken s packet
    rw [or_iff_right (hempty s packet)] at htaken
    rw [htaken]
    constructor
    · rintro ⟨t, ht⟩
      exact ⟨_, ht, rfl⟩
    · rintro ⟨⟨s', packet', t⟩, ht, heq⟩
      obtain ⟨rfl, rfl⟩ := Prod.mk.inj heq
      exact ⟨t, ht⟩
  -- two lists with the same elements, both sorted by number
  have : Std.Irrefl (fun x y : ℤ × P => x.1 < y.1) := ⟨fun x => lt_irrefl x.1⟩
  have : Std.Antisymm (fun x y : ℤ × P => x.1 < y.1) :=
    ⟨fun x y hxy hyx => absurd hyx (not_lt.2 hxy.le)⟩
  exact List.Pairwise.eq_of_mem_iff (List.pairwise_map.1 h.inv.sorted)
    (List.pairwise_map.1 (numbered_sorted packets first)) hmem

end Smooth

/-! ### A stream whose first packet does not come first -/

/-- Nothing below a number has been or will be delivered. -/
structure From (low : ℤ) (b : ReorderBuffer P) (hist : List (ℤ × P)) : Prop where
  inv : Inv b hist
  next : b.nextSeq < 0 ∨ low ≤ b.nextSeq
  all : ∀ e ∈ hist, low ≤ e.1

/-- A release from a number on. -/
lemma From.release {low first now : ℤ}
    (h : Inv (b.release first now).2 (hist ++ (b.release first now).1)) (hwithin : b.Within)
    (hfirst : b.Least first) (hlow : low ≤ first) (hall : ∀ e ∈ hist, low ≤ e.1) :
    From low (b.release first now).2 (hist ++ (b.release first now).1) ∧
      low ≤ (b.release first now).2.nextSeq := by
  obtain ⟨b', stop, hd, -, hlt⟩ := hwithin.release_drains hfirst now
  obtain ⟨e, he, heq⟩ := List.mem_map.1 ((hd.mem_iff first).2 ⟨le_rfl, hlt⟩)
  have hpassed := h.passed e (List.mem_append_right _ he)
  have hnext : low ≤ (b.release first now).2.nextSeq := by omega
  refine ⟨⟨h, Or.inr hnext, fun e he => ?_⟩, hnext⟩
  rcases List.mem_append.1 he with he | he
  · exact hall e he
  · exact hlow.trans ((hd.mem_iff e.1).1 (List.mem_map_of_mem he)).1

lemma From.push {low seq : ℤ} (h : From low b hist) (hseq : 0 ≤ seq ∧ seq < maxLong) (packet : P)
    (now : ℤ) (hstart : b.nextSeq < 0 → low ≤ seq) :
    From low (b.step (.push seq packet now)).2 (hist ++ (b.step (.push seq packet now)).1) ∧
      low ≤ (b.step (.push seq packet now)).2.nextSeq := by
  have hinv := h.inv.step (show (Op.push seq packet now).Valid from hseq)
  rcases h.inv.tidy.push_cases ⟨by omega, hseq.2.le⟩ packet now with ⟨hold, -, heq⟩ |
    ⟨first, hle, hwithin, hfirst, -, heq⟩ | ⟨hold, hlt, -, -, -, heq⟩
  · rw [step_push heq, List.append_nil]
    exact ⟨h, h.next.resolve_left (not_lt.2 hold)⟩
  · rw [step_push heq] at hinv ⊢
    refine From.release hinv hwithin hfirst ?_ h.all
    have hfrom := hwithin.le first hfirst.1
    rw [put_nextSeq] at hfrom
    by_cases hfresh : b.nextSeq < 0
    · rw [opened, if_pos hfresh] at hfrom
      exact (hstart hfresh).trans hfrom
    · rw [opened, if_neg hfresh] at hfrom
      exact (h.next.resolve_left hfresh).trans hfrom
  · rw [step_push heq] at hinv ⊢
    have hnext : low ≤ ((b.opened seq now).put seq packet now).nextSeq := by
      rw [put_nextSeq, opened, if_neg (not_lt.2 hold)]
      exact h.next.resolve_left (not_lt.2 hold)
    exact ⟨⟨hinv, Or.inr hnext, by rw [List.append_nil]; exact h.all⟩, hnext⟩

/-- A tick does not start the stream. -/
lemma From.tick {low : ℤ} (hlow : 0 ≤ low) (h : From low b hist) (now : ℤ) :
    From low (b.step (.tick now)).2 (hist ++ (b.step (.tick now)).1) ∧
      ((b.step (.tick now)).2.nextSeq < 0 → b.nextSeq < 0) := by
  have hinv := h.inv.step (show (Op.tick now : Op P).Valid from trivial)
  rcases h.inv.tidy.tick_cases now with ⟨-, heq⟩ | ⟨first, hwithin, hfirst, -, heq⟩
  · rw [step_tick heq, List.append_nil]
    exact ⟨h, id⟩
  · rw [step_tick heq] at hinv ⊢
    have hnext : low ≤ b.nextSeq := by
      refine h.next.resolve_left fun hfresh => ?_
      exact absurd (h.inv.tidy.fresh hfresh ▸ hfirst.1) List.not_mem_nil
    obtain ⟨hfrom, hle⟩ := From.release hinv hwithin hfirst
      (hnext.trans (h.inv.tidy.lt first hfirst.1).le) h.all
    exact ⟨hfrom, fun hneg => absurd hneg (by omega)⟩

lemma From.run {low : ℤ} (hlow : 0 ≤ low) (h : From low b hist) {ops : List (Op P)}
    (hops : ∀ op ∈ ops, op.Valid)
    (hstart : b.nextSeq < 0 → ∀ x ∈ (pushes ops).head?, low ≤ x.1) :
    From low (run ops b).2 (hist ++ (ReorderBuffer.run ops b).1) := by
  induction ops generalizing b hist with
  | nil => simpa [ReorderBuffer.run] using h
  | cons op ops ih =>
    rw [ReorderBuffer.run, Machine.run_cons, ← List.append_assoc]
    have hops' : ∀ op' ∈ ops, op'.Valid := fun op' hop' => hops op' (List.mem_cons_of_mem _ hop')
    cases op with
    | push seq packet now =>
      obtain ⟨h', hle⟩ := h.push (hops _ List.mem_cons_self) packet now
        fun hfresh => hstart hfresh (seq, packet, now) rfl
      exact ih h' hops' fun hneg => absurd hneg (by omega)
    | tick now =>
      obtain ⟨h', hfresh⟩ := h.tick hlow now
      exact ih h' hops' fun hneg => hstart (hfresh hneg)

/-- **Bounded skew.**  Let the packets of a contiguous stream be pushed into a new buffer, each once
and in any order, with ticks in between, under a clock that never goes back and never overflows with
the timeout, so that no packet arrives a timeout or more after one with a higher number and fewer
than the capacity ever wait for an earlier one.  Then the calls return the whole stream in order if
and only if its first packet is the first to arrive. -/
theorem bounded_skew_complete_iff (timeoutMs capacity first : ℤ) (packets : List P)
    (ops : List (Op P)) (hfirst : 0 ≤ first) (hlast : first + packets.length ≤ maxLong)
    (hclock : (ops.map Op.now).Pairwise (· ≤ ·))
    (hfits : ∀ op ∈ ops, -2 ^ 63 ≤ op.now + timeoutMs ∧ op.now + timeoutMs ≤ maxLong)
    (hstream : ((pushes ops).map fun x => (x.1, x.2.1)).Perm (numbered first packets))
    (hskew : ∀ x ∈ pushes ops, ∀ y ∈ pushes ops, x.1 < y.1 → x.2.2 < y.2.2 + timeoutMs)
    (hroom : ∀ pre, pre <+: ops →
      ((outstanding first ((pushes pre).map Prod.fst)).length : ℤ) < capacity) :
    (∃ b, calls ops (new timeoutMs capacity) = .ok (numbered first packets, b)) ↔
      ∀ x ∈ (pushes ops).head?, x.1 = first := by
  have hnumbers : ((pushes ops).map Prod.fst).Perm ((numbered first packets).map Prod.fst) := by
    simpa [List.map_map, Function.comp_def] using hstream.map Prod.fst
  have hs : Skewed first packets.length timeoutMs (pushes ops) :=
    ⟨hnumbers.nodup_iff.2 ((numbered_sorted packets first).imp fun hlt => hlt.ne),
      fun m => hnumbers.mem_iff.trans (mem_numbered_fst packets first m), hskew⟩
  have hops : ∀ op ∈ ops, op.Valid := by
    intro op hop
    cases op with
    | push seq packet now =>
      have hmem : (seq, packet, now) ∈ pushes ops := List.mem_filterMap.2 ⟨_, hop, rfl⟩
      have hseq := (hs.mem_iff seq).1 (List.mem_map_of_mem hmem)
      exact ⟨by omega, by omega⟩
    | tick now => trivial
  have hcapacity : 1 ≤ capacity := by
    have hnil := hroom [] List.nil_prefix
    simp only [pushes, List.filterMap_nil, List.map_nil, outstanding, List.filter_nil,
      List.length_nil] at hnil
    omega
  have hinv := inv_new (P := P) timeoutMs hcapacity
  obtain ⟨hcalls, -⟩ := hinv.tidy.run fun op hop => (hops op hop).isLong
  rw [hcalls]
  constructor
  · rintro ⟨b, heq⟩ ⟨seq, packet, now⟩ hhead
    have hout : (run ops (new timeoutMs capacity)).1 = numbered first packets :=
      congrArg Prod.fst (Except.ok.inj heq)
    have hmem : (seq, packet, now) ∈ pushes ops := List.mem_of_mem_head? hhead
    have hseq := (hs.mem_iff seq).1 (List.mem_map_of_mem hmem)
    have hfrom : From seq (run ops (new timeoutMs capacity)).2
        ([] ++ (run ops (new timeoutMs capacity)).1) := by
      refine From.run (by omega) ⟨hinv, Or.inl (by simp [new]), by simp⟩ hops fun _ x hx => ?_
      obtain rfl := Option.mem_unique hhead hx
      exact le_rfl
    obtain ⟨e, he, heq'⟩ := List.mem_map.1
      ((mem_numbered_fst packets first first).2 ⟨le_rfl, by omega⟩)
    have hle := hfrom.all e (by rw [List.nil_append, hout]; exact he)
    exact le_antisymm (by omega) hseq.1
  · intro hhead
    have hsmooth : Smooth first (new timeoutMs capacity : ReorderBuffer P) [] [] first :=
      ⟨hinv, Or.inr ⟨by simp [new], rfl, rfl⟩, le_rfl, by simp [new], fun m hm hlt => by omega,
        by simp, fun hne => absurd rfl hne⟩
    obtain ⟨cursor, hend⟩ := hsmooth.run hs hops hclock (by simp)
      (fun op hop => wrap_of_le (hfits op hop).1 (hfits op hop).2) (fun _ => hhead) hroom
    rw [List.nil_append, List.nil_append] at hend
    exact ⟨_, congrArg Except.ok (Prod.ext (hend.delivered hs hstream) rfl)⟩

/-- Three packets of which the last two change places. -/
def swapped : List (Op Char) := [.push 7 'a' 0, .push 9 'c' 10, .tick 20, .push 8 'b' 30]

theorem bounded_skew_complete_iff_swapped :
    (∃ b, calls swapped (new 90 2048) = .ok (numbered 7 ['a', 'b', 'c'], b)) ↔
      ∀ x ∈ (pushes swapped).head?, x.1 = 7 :=
  bounded_skew_complete_iff 90 2048 7 _ swapped (by decide) (by decide) (by decide) (by decide)
    (by decide) (by decide) fun pre hpre =>
      (by decide : ∀ pre ∈ swapped.inits,
        ((outstanding 7 ((pushes pre).map Prod.fst)).length : ℤ) < 2048)
        pre ((List.mem_inits _ _).2 hpre)

/-- Two packets of which the second arrives ten milliseconds before the first. -/
def headBehind : List (Op Char) := [.push 8 'b' 0, .push 7 'a' 10]

/-- The first packet is lost. -/
theorem bounded_skew_incomplete :
    ¬ ∃ b, calls headBehind (new 90 2048) = .ok (numbered 7 ['a', 'b'], b) := by
  rintro ⟨b, heq⟩
  have hout : (calls headBehind (new 90 2048)).toOption.map (·.1) =
      some (numbered 7 ['a', 'b']) := by rw [heq]; rfl
  exact absurd hout (by decide +kernel)

end Turbobond.Android.ReorderBuffer
