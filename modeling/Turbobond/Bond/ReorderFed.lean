import Turbobond.Bond.ReorderSafety

/-!
# What a reorder buffer is fed

A buffer holds and releases what was pushed, so whatever is known of all the pushes is known of all
that it holds and releases.
-/

namespace Turbobond.Bond.ReorderBuffer

variable {P : Type} {R : ℤ → P → Prop} {b : ReorderBuffer P} {hist : List (ℤ × P)}

/-- A buffer and everything it has released, where a number and its packet belong together. -/
structure Fed (R : ℤ → P → Prop) (b : ReorderBuffer P) (hist : List (ℤ × P)) : Prop where
  inv : Inv b hist
  released : ∀ e ∈ hist, R e.1 e.2
  pending : ∀ e ∈ b.packets, R e.1 e.2

/-- A call that pushes, if anything, a packet that belongs to its number. -/
def Op.FeedsBy (R : ℤ → P → Prop) : Op P → Prop
  | .push seq payload _ => R seq payload
  | _ => True

namespace Fed

lemma new (R : ℤ → P → Prop) (timeoutMs : ℚ) (capacity : ℤ) :
    Fed R (ReorderBuffer.new timeoutMs capacity) [] :=
  ⟨inv_new timeoutMs capacity, by simp, by simp [packets, ReorderBuffer.new, Dict.empty]⟩

lemma mono {R' : ℤ → P → Prop} (h : Fed R b hist) (hR : ∀ n p, R n p → R' n p) : Fed R' b hist :=
  ⟨h.inv, fun e he => hR _ _ (h.released e he), fun e he => hR _ _ (h.pending e he)⟩

lemma step (h : Fed R b hist) {op : Op P} (hop : op.FeedsBy R) :
    Fed R (b.step op).2 (hist ++ (b.step op).1) := by
  have hall : ∀ e ∈ (b.step op).1 ++ (b.step op).2.packets, R e.1 e.2 := by
    intro e he
    rcases List.mem_append.1 ((accounting_step h.inv op).1.mem_iff.2 he) with he | he
    · exact h.pending e he
    · obtain ⟨a, ha, rfl⟩ := List.mem_map.1 he
      cases op with
      | push seq payload now =>
        simp only [acceptedBy] at ha
        split at ha
        · obtain rfl := List.mem_singleton.1 ha
          exact hop
        · exact absurd ha List.not_mem_nil
      | tick now => exact absurd ha List.not_mem_nil
      | flush => exact absurd ha List.not_mem_nil
  refine ⟨h.inv.step op, fun e he => ?_, fun e he => hall e (List.mem_append_right _ he)⟩
  rcases List.mem_append.1 he with he | he
  · exact h.released e he
  · exact hall e (List.mem_append_left _ he)

end Fed

end Turbobond.Bond.ReorderBuffer
