import Mathlib.Data.List.Forall2
import Mathlib.Data.List.Nodup
import Mathlib.Algebra.Order.Ring.Int

/-!
# Numbers for those that have none

The items of a list have numbers, `0` for none.  An allocator goes through the list and gives the
items without one a fresh number, which it takes from a counter.  It does not give out a number twice,
nor one that an item further down has.
-/

namespace Turbobond

/-- The numbers after the allocation.  `fresh used next` is a number from `next` on that is not used. -/
def allocate (fresh : List ℤ → ℤ → ℤ) : List ℤ → ℤ → List ℤ → List ℤ
  | _, _, [] => []
  | used, next, id :: ids =>
    if id ≠ 0 then id :: allocate fresh used next ids
    else fresh used next :: allocate fresh (fresh used next :: used) (fresh used next + 1) ids

/-- Item by item, a number that was given is kept. -/
def Keeps : List ℤ → List ℤ → Prop := List.Forall₂ fun before after => before ≠ 0 → after = before

lemma Keeps.refl (ids : List ℤ) : Keeps ids ids := List.forall₂_same.2 fun _ _ _ => rfl

lemma Keeps.append {ids ids' jds jds' : List ℤ} (h : Keeps ids ids') (h' : Keeps jds jds') :
    Keeps (ids ++ jds) (ids' ++ jds') := List.rel_append h h'

lemma Keeps.trans {ids ids' ids'' : List ℤ} (h : Keeps ids ids') (h' : Keeps ids' ids'') :
    Keeps ids ids'' := by
  induction h generalizing ids'' with
  | nil => exact h'
  | cons hhead _ ih =>
    cases h' with
    | cons hhead' htail' =>
      exact .cons (fun hid => (hhead' (hhead hid ▸ hid)).trans (hhead hid)) (ih htail')

variable {fresh : List ℤ → ℤ → ℤ} {used : List ℤ} {next : ℤ} {ids : List ℤ}

lemma keeps_allocate : Keeps ids (allocate fresh used next ids) := by
  induction ids generalizing used next with
  | nil => exact .nil
  | cons id ids ih =>
    rw [allocate]
    split
    · exact .cons (fun _ => rfl) ih
    · rename_i hid
      exact .cons (fun h => absurd h hid) ih

lemma ne_zero_of_mem_allocate (hle : ∀ used next, next ≤ fresh used next) (hnext : 0 < next)
    {id : ℤ} (h : id ∈ allocate fresh used next ids) : id ≠ 0 := by
  induction ids generalizing used next with
  | nil => simp [allocate] at h
  | cons id' ids ih =>
    have hfresh : 0 < fresh used next := hnext.trans_le (hle used next)
    rw [allocate] at h
    split at h
    · rename_i hid'
      rcases List.mem_cons.1 h with rfl | h
      · exact hid'
      · exact ih hnext h
    · rcases List.mem_cons.1 h with rfl | h
      · exact hfresh.ne'
      · exact ih (by omega) h

variable (hfresh : ∀ used next, fresh used next ∉ used)
include hfresh

/-- A number after the allocation is one that an item had, or it is fresh. -/
lemma mem_or_notMem_of_mem_allocate {id : ℤ} (h : id ∈ allocate fresh used next ids) :
    (id ∈ ids ∧ id ≠ 0) ∨ id ∉ used := by
  induction ids generalizing used next with
  | nil => simp [allocate] at h
  | cons id' ids ih =>
    rw [allocate] at h
    split at h
    · rename_i hid'
      rcases List.mem_cons.1 h with rfl | h
      · exact Or.inl ⟨List.mem_cons_self, hid'⟩
      · exact (ih h).imp_left fun h => ⟨List.mem_cons_of_mem _ h.1, h.2⟩
    · rcases List.mem_cons.1 h with rfl | h
      · exact Or.inr (hfresh used next)
      · rcases ih h with h | h
        · exact Or.inl ⟨List.mem_cons_of_mem _ h.1, h.2⟩
        · exact Or.inr fun hused => h (List.mem_cons_of_mem _ hused)

/-- Numbers that were distinct as far as they were given are distinct after the allocation, when the
given ones count as used. -/
theorem nodup_allocate (hused : ∀ id ∈ ids, id ≠ 0 → id ∈ used)
    (hnodup : (ids.filter fun id => id ≠ 0).Nodup) : (allocate fresh used next ids).Nodup := by
  induction ids generalizing used next with
  | nil => exact List.nodup_nil
  | cons id ids ih =>
    have htail : ∀ id' ∈ ids, id' ≠ 0 → id' ∈ used :=
      fun id' h => hused id' (List.mem_cons_of_mem _ h)
    rw [allocate]
    split
    · rename_i hid
      rw [List.filter_cons_of_pos (by simpa using hid), List.nodup_cons] at hnodup
      refine List.nodup_cons.2 ⟨fun h => ?_, ih htail hnodup.2⟩
      rcases mem_or_notMem_of_mem_allocate hfresh h with ⟨hmem, -⟩ | hnot
      · exact hnodup.1 (List.mem_filter.2 ⟨hmem, by simpa using hid⟩)
      · exact hnot (hused id List.mem_cons_self hid)
    · rename_i hid
      rw [List.filter_cons_of_neg (by simpa using hid)] at hnodup
      refine List.nodup_cons.2 ⟨fun h => ?_,
        ih (fun id' h h' => List.mem_cons_of_mem _ (htail id' h h')) hnodup⟩
      rcases mem_or_notMem_of_mem_allocate hfresh h with ⟨hmem, hne⟩ | hnot
      · exact hfresh used next (htail _ hmem hne)
      · exact hnot List.mem_cons_self

end Turbobond
