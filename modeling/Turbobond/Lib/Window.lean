import Mathlib.Algebra.Order.Group.Defs
import Mathlib.Data.List.Induction
import Mathlib.Tactic

/-!
# Sliding windows

Times that count for a fixed width.  Where a new time is let in only while fewer than `n` of the
earlier ones count, no interval of that width holds more than `n` of them.
-/

namespace Turbobond.Window

variable {T : Type} [AddCommGroup T] [LinearOrder T] [IsOrderedAddMonoid T]

/-- The times that count now, for a width. -/
def recent (width now : T) (times : List T) : List T :=
  times.filter fun t => decide (now - t < width)

variable {width now now' : T} {times : List T}

omit [IsOrderedAddMonoid T] in
lemma mem_recent {t : T} : t ∈ recent width now times ↔ t ∈ times ∧ now - t < width := by
  simp [recent]

omit [IsOrderedAddMonoid T] in
lemma recent_sublist : (recent width now times).Sublist times := List.filter_sublist

omit [IsOrderedAddMonoid T] in
lemma recent_append (times times' : List T) :
    recent width now (times ++ times') = recent width now times ++ recent width now times' :=
  List.filter_append ..

/-- What is dropped once would be dropped later as well. -/
lemma recent_recent (h : now ≤ now') :
    recent width now' (recent width now times) = recent width now' times := by
  rw [recent, recent, recent, List.filter_filter]
  refine List.filter_congr fun t _ => ?_
  have himp : now' - t < width → now - t < width := (sub_le_sub_right h t).trans_lt
  simpa using himp

omit [IsOrderedAddMonoid T] in
/-- Where all the times count, none has been dropped. -/
lemma recent_eq_self {n : ℕ} (h : n ≤ (recent width now times).length) (hn : times.length ≤ n) :
    recent width now times = times :=
  recent_sublist.eq_of_length_le (hn.trans h)

/-- From the end of the width of its oldest time on, one time fewer counts. -/
lemma length_recent_lt {t : T} (hmem : t ∈ times) (h : t + width ≤ now) :
    (recent width now times).length < times.length := by
  refine List.length_filter_lt_length_iff_exists.2 ⟨t, hmem, ?_⟩
  simpa [not_lt] using le_sub_iff_add_le'.2 h

/-- As long as the oldest time counts, all do. -/
lemma recent_of_forall_le {t : T} (hle : ∀ t' ∈ times, t ≤ t') (h : now < t + width) :
    recent width now times = times := by
  refine List.filter_eq_self.2 fun t' ht' => ?_
  have hlt : now < t' + width := h.trans_le (add_le_add_left (hle t' ht') width)
  simpa using sub_lt_iff_lt_add'.2 hlt

section Hits

variable {α : Type} (asked at' stored : α → T)

/-- Every hit is let in while fewer than `n` of the stored times before it count. -/
def Limited (width : T) (n : ℕ) (hits : List α) : Prop :=
  ∀ before hit, before ++ [hit] <+: hits →
    (recent width (asked hit) (before.map stored)).length < n

/-- Each hit falls between asking and storing. -/
def Timely (hits : List α) : Prop := ∀ hit ∈ hits, asked hit ≤ at' hit ∧ at' hit ≤ stored hit

variable {asked at' stored} {n : ℕ} {hits : List α}

omit [IsOrderedAddMonoid T] in
lemma Limited.of_concat {hit : α} (h : Limited asked stored width n (hits ++ [hit])) :
    Limited asked stored width n hits :=
  fun before hit' hpre => h before hit' (hpre.trans (List.prefix_append _ _))

omit [IsOrderedAddMonoid T] in
lemma Limited.concat {hit : α} (h : Limited asked stored width n hits)
    (hhit : (recent width (asked hit) (hits.map stored)).length < n) :
    Limited asked stored width n (hits ++ [hit]) := by
  intro before hit' hpre
  rcases List.prefix_concat_iff.1 hpre with heq | hpre
  · obtain ⟨rfl, rfl⟩ := List.append_inj' heq rfl |>.imp id List.singleton_inj.1
    exact hhit
  · exact h before hit' hpre

/-- No interval of the width holds more than `n` hits. -/
theorem Limited.countP_le (h : Limited asked stored width n hits) (htimely : Timely asked at' stored hits)
    (start : T) :
    hits.countP (fun hit => decide (start ≤ at' hit ∧ at' hit < start + width)) ≤ n := by
  induction hits using List.reverseRecOn with
  | nil => exact Nat.zero_le n
  | append_singleton hits hit ih =>
    have hbefore := ih h.of_concat fun x hx => htimely x (List.mem_append_left _ hx)
    rw [List.countP_append, List.countP_singleton]
    by_cases hin : start ≤ at' hit ∧ at' hit < start + width
    · -- an earlier hit in the interval still counts when this one asks
      have hcount : hits.countP (fun hit => decide (start ≤ at' hit ∧ at' hit < start + width)) ≤
          (recent width (asked hit) (hits.map stored)).length := by
        rw [recent, ← List.countP_eq_length_filter, List.countP_map]
        refine List.countP_mono_left fun x hx hxin => ?_
        have hx' := htimely x (List.mem_append_left _ hx)
        have hhit := htimely hit (List.mem_append_right _ List.mem_cons_self)
        have hstart : start ≤ stored x := (of_decide_eq_true hxin).1.trans hx'.2
        have hend : asked hit < stored x + width :=
          (hhit.1.trans_lt hin.2).trans_le (add_le_add_left hstart width)
        simpa using sub_lt_iff_lt_add'.2 hend
      have hlt := h hits hit (List.prefix_refl _)
      simp only [hin, and_self, decide_true, if_true]
      omega
    · simpa [hin] using hbefore

end Hits

end Turbobond.Window
