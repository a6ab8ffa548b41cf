import Turbobond.Android.ReorderSafety

/-!
# What the reorder buffer on Android is fed

The buffer holds and returns what was pushed, so whatever is known of all the pushes is known of all
that it holds and returns.
-/

namespace Turbobond.Android.ReorderBuffer

variable {P : Type} {R : ℤ → P → Prop} {b : ReorderBuffer P} {hist : List (ℤ × P)}

/-- A call that pushes, if anything, a packet that belongs to its number. -/
def Op.FeedsBy (R : ℤ → P → Prop) : Op P → Prop
  | .push seq packet _ => R seq packet
  | .tick _ => True

/-- Every packet held belongs to its number. -/
def Holds (R : ℤ → P → Prop) (b : ReorderBuffer P) : Prop :=
  ∀ s p, b.pending.get? s = some p → R s p

lemma Holds.put (h : b.Holds R) {seq : ℤ} {packet : P} (hR : R seq packet) (now : ℤ) :
    ((b.opened seq now).put seq packet now).Holds R := by
  intro s p hp
  rw [put_pending, opened_pending] at hp
  rcases Dict.of_get?_set hp with ⟨rfl, rfl⟩ | ⟨-, hp⟩
  · exact hR
  · exact h s p hp

lemma Holds.release (h : b.Holds R) (hwithin : b.Within) {first : ℤ} (hfirst : b.Least first)
    (now : ℤ) : (∀ e ∈ (b.release first now).1, R e.1 e.2) ∧ (b.release first now).2.Holds R := by
  obtain ⟨b', stop, hd, hrelease, -⟩ := hwithin.release_drains hfirst now
  rw [hrelease]
  refine ⟨fun e he => h e.1 e.2 (hd.packets e he), fun s p hp => ?_⟩
  have hget : (b'.wait now).pending.get? s = _ := hd.get? s
  rw [hget] at hp
  split_ifs at hp
  exact h s p hp

/-- The buffer and everything it has returned, where a number and its packet belong together. -/
structure Fed (R : ℤ → P → Prop) (b : ReorderBuffer P) (hist : List (ℤ × P)) : Prop where
  inv : Inv b hist
  returned : ∀ e ∈ hist, R e.1 e.2
  pending : b.Holds R

namespace Fed

lemma new (R : ℤ → P → Prop) (timeoutMs : ℤ) {capacity : ℤ} (h : 1 ≤ capacity) :
    Fed R (ReorderBuffer.new timeoutMs capacity) [] :=
  ⟨inv_new timeoutMs h, by simp, by simp [Holds, ReorderBuffer.new]⟩

lemma mono {R' : ℤ → P → Prop} (h : Fed R b hist) (hR : ∀ n p, R n p → R' n p) : Fed R' b hist :=
  ⟨h.inv, fun e he => hR _ _ (h.returned e he), fun s p hp => hR _ _ (h.pending s p hp)⟩

/-- A call throws nothing, and returns what belongs to its numbers. -/
lemma call (h : Fed R b hist) {op : Op P} (hvalid : op.Valid) (hop : op.FeedsBy R) :
    b.call op = .ok (b.step op) ∧ Fed R (b.step op).2 (hist ++ (b.step op).1) := by
  have hstep : (∀ e ∈ (b.step op).1, R e.1 e.2) ∧ (b.step op).2.Holds R := by
    cases op with
    | push seq packet now =>
      have hheld := h.pending.put hop now
      rcases h.inv.tidy.push_cases hvalid.isLong packet now with ⟨-, -, heq⟩ |
        ⟨first, -, hwithin, hfirst, -, heq⟩ | ⟨-, -, -, -, -, heq⟩
      · rw [step_push heq]
        exact ⟨by simp, h.pending⟩
      · rw [step_push heq]
        exact hheld.release hwithin hfirst now
      · rw [step_push heq]
        exact ⟨by simp, hheld⟩
    | tick now =>
      rcases h.inv.tidy.tick_cases now with ⟨-, heq⟩ | ⟨first, hwithin, hfirst, -, heq⟩
      · rw [step_tick heq]
        exact ⟨by simp, h.pending⟩
      · rw [step_tick heq]
        exact h.pending.release hwithin hfirst now
  exact ⟨(h.inv.tidy.call hvalid.isLong).1, h.inv.step hvalid,
    fun e he => (List.mem_append.1 he).elim (h.returned e) (hstep.1 e), hstep.2⟩

end Fed

end Turbobond.Android.ReorderBuffer
