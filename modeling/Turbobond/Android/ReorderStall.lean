import Turbobond.Android.Reorder

/-!
# The stall bound on Android

One deadline serves all the packets held, and each release starts it again, so a packet may be held
for longer than the timeout.  `Punctual` says of a buffer, against the times of the first pushes,
when that cannot happen.
-/

namespace Turbobond.Android.ReorderBuffer

variable {P : Type} {b : ReorderBuffer P}

/-- The time at which a number is pushed, if it is. -/
def Op.pushed? (s : ℤ) : Op P → Option ℤ
  | .push seq _ now => if seq = s then some now else none
  | .tick _ => none

/-- The time of the first push of a number. -/
def firstPush (ops : List (Op P)) (s : ℤ) : Option ℤ := ops.findSome? (Op.pushed? s)

/-- No number is missing between the oldest one held and this one. -/
def Joined (b : ReorderBuffer P) (s : ℤ) : Prop :=
  ∀ q ∈ b.pending.keys, ∀ m, q ≤ m → m ≤ s → m ∈ b.pending.keys

/-- Each packet held follows on the oldest one without a gap, and the deadline is not later than a
timeout after its first push. -/
def Punctual (ops : List (Op P)) (b : ReorderBuffer P) : Prop :=
  ∀ s ∈ b.pending.keys, ∀ t, firstPush ops s = some t → b.deadline ≤ t + b.timeoutMs ∧ b.Joined s

/-- After a run, a tick at any time leaves no packet that was first pushed a timeout before it. -/
def StallBounded (ops : List (Op P)) (b₀ : ReorderBuffer P) : Prop :=
  ∀ now s t, firstPush ops s = some t → t ≤ now - b₀.timeoutMs →
    s ∉ (run (ops ++ [.tick now]) b₀).2.pending.keys

/-- What a tick leaves. -/
lemma Tidy.mem_keys_tick (h : b.Tidy) (now s : ℤ) :
    s ∈ (b.step (.tick now)).2.pending.keys ↔
      s ∈ b.pending.keys ∧ ¬ (b.deadline ≤ now ∧ b.Joined s) := by
  rcases h.tick_cases now with ⟨hwait, heq⟩ | ⟨first, hwithin, hfirst, hdue, heq⟩
  · have hstep : b.step (.tick now) = ([], b) := step_tick heq
    rw [hstep]
    rcases hwait with hzero | hlt
    · have hnil : b.pending.keys = [] := by
        rw [← List.length_eq_zero_iff, Dict.length_keys, hzero]
      simp [hnil]
    · simp [not_le.2 hlt]
  · have hstep : b.step (.tick now) = b.release first now := step_tick heq
    obtain ⟨b', stop, hd, hrelease, hstop⟩ := hwithin.release_drains hfirst now
    rw [hstep, hrelease]
    refine (hd.mem_keys s).trans ⟨?_, ?_⟩
    · rintro ⟨hlt, hmem⟩
      refine ⟨hmem, fun hjoined => ?_⟩
      -- the release has stopped at a number that is missing
      exact hd.stops (hjoined.2 first hfirst.1 stop hstop.le hlt.le)
    · rintro ⟨hmem, hnot⟩
      refine ⟨?_, hmem⟩
      by_contra hle
      refine hnot ⟨hdue, fun q hq m hqm hms => ?_⟩
      have hne : stop ≠ s := fun heq => hd.stops (heq ▸ hmem)
      have hfrom := hfirst.2 q hq
      obtain ⟨e, he, rfl⟩ := List.mem_map.1 ((hd.mem_iff m).2 ⟨by omega, by omega⟩)
      exact (Dict.mem_keys_iff _ _).2 ⟨e.2, hd.packets e he⟩

/-- A run, and what a tick after it leaves. -/
lemma stallBounded_iff_punctual (timeoutMs capacity : ℤ) {ops : List (Op P)}
    (hops : ∀ op ∈ ops, op.IsLong) :
    StallBounded ops (new timeoutMs capacity) ↔ Punctual ops (run ops (new timeoutMs capacity)).2 := by
  obtain ⟨-, htidy, htimeout, -⟩ := (tidy_new (P := P) timeoutMs capacity).run hops
  have hleft : ∀ now s, s ∈ (run (ops ++ [.tick now]) (new timeoutMs capacity)).2.pending.keys ↔
      s ∈ (run ops (new timeoutMs capacity)).2.pending.keys ∧
        ¬ ((run ops (new timeoutMs capacity)).2.deadline ≤ now ∧
          (run ops (new timeoutMs capacity)).2.Joined s) := by
    intro now s
    rw [run_concat]
    exact htidy.mem_keys_tick now s
  constructor
  · -- the tick that comes exactly a timeout after the first push shows it
    intro h s hs t ht
    rw [htimeout]
    by_contra hlate
    refine h (t + timeoutMs) s t ht (by simp [new]) ((hleft _ _).2 ⟨hs, hlate⟩)
  · intro h now s t ht hdue hmem
    obtain ⟨hs, hnot⟩ := (hleft now s).1 hmem
    obtain ⟨hdeadline, hjoined⟩ := h s hs t ht
    rw [htimeout] at hdeadline
    exact hnot ⟨by omega, hjoined⟩

/-- **The stall bound.**  In a run of a new buffer a tick, wherever it comes and whenever, leaves no
packet that was first pushed a timeout before it, if and only if the buffer is punctual throughout
the run. -/
theorem stall_released_iff (timeoutMs capacity : ℤ) (ops : List (Op P))
    (hops : ∀ op ∈ ops, op.IsLong) :
    (∀ pre, pre <+: ops → StallBounded pre (new timeoutMs capacity)) ↔
      ∀ pre, pre <+: ops → Punctual pre (run pre (new timeoutMs capacity)).2 := by
  refine forall₂_congr fun pre hpre => stallBounded_iff_punctual timeoutMs capacity fun op hop => ?_
  exact hops op (hpre.subset hop)

/-- Packet 2 is held from time 10 on, and a copy of it comes at time 50. -/
def repeated : List (Op Char) := [.push 0 'a' 0, .push 2 'c' 10, .push 2 'c' 50]

/-- At time 110 packet 2, first pushed at time 10, is still held. -/
theorem stall_not_released : ¬ StallBounded repeated (new 90 2048) := by
  intro h
  refine h 110 2 10 (by decide) (by decide) ?_
  decide +kernel

theorem stall_released_iff_repeated :
    (∀ pre, pre <+: repeated → StallBounded pre (new 90 2048)) ↔
      ∀ pre, pre <+: repeated → Punctual pre (run pre (new 90 2048)).2 :=
  stall_released_iff 90 2048 repeated (by simp [repeated, Op.IsLong, maxLong])

end Turbobond.Android.ReorderBuffer
