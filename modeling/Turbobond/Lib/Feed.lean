import Mathlib.Data.List.Sort
import Mathlib.Tactic

/-!
# Numbered feeds

A feed numbers what is put in, from one on, and keeps no more than the last so many items.  A reader
asks for the items after the last that it has seen.  What it has seen is in order and has no item twice;
it has no gap either exactly as long as the items right after the last one were still there each time.
-/

namespace Turbobond

variable {α : Type}

/-- The items of a list with their numbers. -/
def enumerated (l : List α) : List (ℕ × α) := l.mapIdx fun i a => (i + 1, a)

/-- The items after the number `lo`, up to the number `hi`. -/
def between (l : List α) (lo hi : ℕ) : List (ℕ × α) := ((enumerated l).take hi).drop lo

@[simp] lemma length_enumerated (l : List α) : (enumerated l).length = l.length := List.length_mapIdx

lemma getElem?_enumerated (l : List α) (i : ℕ) :
    (enumerated l)[i]? = l[i]?.map fun a => (i + 1, a) := by
  rw [enumerated, List.getElem?_mapIdx]

lemma length_between (l : List α) (lo hi : ℕ) : (between l lo hi).length = min hi l.length - lo := by
  rw [between, List.length_drop, List.length_take, length_enumerated]

lemma between_eq_nil {l : List α} {lo hi : ℕ} (h : min hi l.length ≤ lo) : between l lo hi = [] := by
  rw [← List.length_eq_zero_iff, length_between]
  omega

lemma getElem?_between (l : List α) (lo hi i : ℕ) :
    (between l lo hi)[i]? =
      if lo + i < hi then l[lo + i]?.map fun a => (lo + i + 1, a) else none := by
  rw [between, List.getElem?_drop, List.getElem?_take]
  split
  · exact getElem?_enumerated l (lo + i)
  · rfl

/-- Two stretches of a list, one right after the other. -/
lemma between_append (l : List α) {lo mid hi : ℕ} (h : lo ≤ mid) (h' : mid ≤ hi) :
    between l lo mid ++ between l mid hi = between l lo hi := by
  have hmid : (enumerated l).take mid = ((enumerated l).take hi).take mid := by
    rw [List.take_take, Nat.min_eq_left h']
  rw [between, between, between, hmid]
  conv_rhs => rw [← List.take_append_drop mid ((enumerated l).take hi)]
  by_cases hlen : lo ≤ (((enumerated l).take hi).take mid).length
  · rw [List.drop_append_of_le_length hlen]
  · -- the list ends before the first stretch begins
    rw [not_le] at hlen
    have hshort : ((enumerated l).take hi).length ≤ lo := by
      rw [List.length_take] at hlen
      omega
    rw [List.drop_eq_nil_of_le hlen.le, List.drop_eq_nil_of_le (hshort.trans h), List.append_nil,
      List.append_nil, List.drop_eq_nil_of_le hlen.le]

/-- What is added to a list changes nothing up to its end. -/
lemma between_append_left (l l' : List α) {lo hi : ℕ} (h : hi ≤ l.length ∨ hi ≤ lo) :
    between (l ++ l') lo hi = between l lo hi := by
  rcases h with h | h
  · refine List.ext_getElem? fun i => ?_
    rw [getElem?_between, getElem?_between]
    split
    · rw [List.getElem?_append_left (by omega)]
    · rfl
  · rw [between_eq_nil (by omega), between_eq_nil (by omega)]

/-- The numbers of a stretch are consecutive. -/
lemma map_fst_between (l : List α) (lo hi : ℕ) :
    (between l lo hi).map Prod.fst = List.range' (lo + 1) (min hi l.length - lo) := by
  refine List.ext_getElem? fun i => ?_
  rw [List.getElem?_map, getElem?_between]
  by_cases hi' : lo + i < min hi l.length
  · rw [if_pos (by omega), List.getElem?_eq_getElem (by omega), List.getElem?_range' (by omega)]
    simp only [Option.map_some]
    congr 1
    omega
  · have hnone : (List.range' (lo + 1) (min hi l.length - lo))[i]? = none :=
      List.getElem?_eq_none (by rw [List.length_range']; omega)
    rw [hnone]
    split
    · have hend : l[lo + i]? = none := List.getElem?_eq_none (by omega)
      rw [hend]
      rfl
    · rfl

lemma lt_of_mem_between {l : List α} {lo hi : ℕ} {e : ℕ × α} (h : e ∈ between l lo hi) :
    lo < e.1 ∧ e.1 ≤ hi ∧ e.1 ≤ l.length := by
  have hnum := List.mem_map_of_mem (f := Prod.fst) h
  rw [map_fst_between, List.mem_range'_1] at hnum
  omega

/-- The first item of a stretch, and the rest. -/
lemma exists_between_eq_cons {l : List α} {lo hi : ℕ} (h : lo < hi) (hi' : hi ≤ l.length) :
    ∃ a, between l lo (lo + 1) = [(lo + 1, a)] ∧
      between l lo hi = (lo + 1, a) :: between l (lo + 1) hi := by
  obtain ⟨e, he⟩ := List.length_eq_one_iff.1
    (show (between l lo (lo + 1)).length = 1 by rw [length_between]; omega)
  have hnum := map_fst_between l lo (lo + 1)
  have hone : min (lo + 1) l.length - lo = 1 := by omega
  rw [he, hone] at hnum
  obtain ⟨n, a⟩ := e
  obtain rfl : n = lo + 1 := (List.cons.inj hnum).1
  refine ⟨a, he, ?_⟩
  rw [← between_append l (Nat.le_succ lo) h, he]
  rfl

/-! ### What a feed keeps -/

/-- The items that are kept, and the number of the last one put in. -/
structure Feed (α : Type) where
  kept : List (ℕ × α) := []
  last : ℕ := 0
  deriving DecidableEq

namespace Feed

/-- Put an item in. -/
def push (cap : ℕ) (a : α) (f : Feed α) : Feed α :=
  let kept := f.kept ++ [(f.last + 1, a)]
  { kept := kept.drop (kept.length - cap), last := f.last + 1 }

/-- Forget all items, but not how many there were. -/
def clear (f : Feed α) : Feed α := { f with kept := [] }

/-- The items that are kept and have a number past the one given. -/
def since (f : Feed α) (n : ℤ) : List (ℕ × α) := f.kept.filter fun e => n < e.1

/-- The feed has been given a list, and keeps what comes after the number `k`. -/
structure Keeps (f : Feed α) (all : List α) (k : ℕ) : Prop where
  kept : f.kept = between all k all.length
  last : f.last = all.length
  le : k ≤ all.length

variable {f : Feed α} {all : List α} {k : ℕ}

lemma keeps_new : Keeps ({} : Feed α) [] 0 := ⟨rfl, rfl, le_rfl⟩

lemma Keeps.length (h : Keeps f all k) : f.kept.length = all.length - k := by
  rw [h.kept, length_between, Nat.min_self]

lemma Keeps.push (h : Keeps f all k) (cap : ℕ) (a : α) :
    Keeps (f.push cap a) (all ++ [a]) (max k (all.length + 1 - cap)) := by
  have hle := h.le
  have hnew : between (all ++ [a]) k (all.length + 1) = f.kept ++ [(f.last + 1, a)] := by
    rw [← between_append _ h.le (Nat.le_succ _), between_append_left _ _ (Or.inl le_rfl), h.kept, h.last]
    congr 1
    refine List.ext_getElem? fun i => ?_
    rw [getElem?_between]
    cases i with
    | zero => simp
    | succ i => simp
  refine ⟨?_, ?_, ?_⟩
  · simp only [Feed.push]
    rw [← hnew, List.length_append, List.length_singleton, length_between, List.length_append,
      List.length_singleton, Nat.min_self, between, List.drop_drop, between]
    congr 1
    omega
  · simp only [Feed.push, h.last, List.length_append, List.length_singleton]
  · rw [List.length_append, List.length_singleton]
    omega

lemma Keeps.clear (h : Keeps f all k) : Keeps f.clear all all.length :=
  ⟨(between_eq_nil (by omega)).symm, h.last, le_rfl⟩

lemma filter_between (l : List α) (lo hi n : ℕ) :
    ((between l lo hi).filter fun e => (n : ℤ) < e.1) = between l (max lo n) hi := by
  rcases le_total hi (max lo n) with hle | hlt
  · have hnil : between l (max lo n) hi = [] := between_eq_nil (by omega)
    rw [hnil, List.filter_eq_nil_iff]
    intro e he
    have hnum := lt_of_mem_between he
    simp only [Nat.cast_lt, decide_eq_true_eq, not_lt]
    omega
  · -- the items up to the number go, and the others stay
    have hbefore : ((between l lo (max lo n)).filter fun e => (n : ℤ) < e.1) = [] := by
      rw [List.filter_eq_nil_iff]
      intro e he
      have hnum := lt_of_mem_between he
      simp only [Nat.cast_lt, decide_eq_true_eq, not_lt]
      omega
    have hafter : ((between l (max lo n) hi).filter fun e => (n : ℤ) < e.1) =
        between l (max lo n) hi := by
      rw [List.filter_eq_self]
      intro e he
      have hnum := lt_of_mem_between he
      simp only [Nat.cast_lt, decide_eq_true_eq]
      omega
    rw [← between_append l (le_max_left lo n) hlt, List.filter_append, hbefore, hafter,
      List.nil_append]

/-- What a reader is given. -/
lemma Keeps.since_eq (h : Keeps f all k) (n : ℕ) : f.since n = between all (max k n) all.length := by
  rw [since, h.kept, filter_between]

end Feed

/-! ### Readers -/

/-- The greatest of the numbers that a reader has seen. -/
def latest (items : List (ℕ × α)) (pos : ℕ) : ℕ := items.foldl (fun n e => max n e.1) pos

lemma latest_le {items : List (ℕ × α)} {pos n : ℕ} (hpos : pos ≤ n) (h : ∀ e ∈ items, e.1 ≤ n) :
    latest items pos ≤ n := by
  induction items generalizing pos with
  | nil => exact hpos
  | cons e items ih =>
    exact ih (max_le hpos (h e List.mem_cons_self)) fun e' he' => h e' (List.mem_cons_of_mem _ he')

lemma le_latest {items : List (ℕ × α)} {pos : ℕ} : pos ≤ latest items pos ∧
    ∀ e ∈ items, e.1 ≤ latest items pos := by
  induction items generalizing pos with
  | nil => exact ⟨le_rfl, fun _ he => absurd he List.not_mem_nil⟩
  | cons e items ih =>
    obtain ⟨hle, hitems⟩ := @ih (max pos e.1)
    refine ⟨(le_max_left _ _).trans hle, fun e' he' => ?_⟩
    rcases List.mem_cons.1 he' with rfl | he'
    · exact (le_max_right _ _).trans hle
    · exact hitems e' he'

/-- The last item has the greatest number. -/
lemma latest_between {l : List α} {pos j n : ℕ} (hpos : pos ≤ n) (hjn : j < n) (hn : n ≤ l.length) :
    latest (between l j n) pos = n := by
  refine le_antisymm (latest_le hpos fun e he => (lt_of_mem_between he).2.1) ?_
  obtain ⟨e, he⟩ : ∃ e, (between l j n)[n - 1 - j]? = some e := by
    rw [← Option.isSome_iff_exists, isSome_getElem?, length_between]
    omega
  have hlast := (@le_latest _ _ pos).2 e (List.mem_of_getElem? he)
  rw [getElem?_between, if_pos (by omega), Option.map_eq_some_iff] at he
  obtain ⟨a, -, rfl⟩ := he
  change j + (n - 1 - j) + 1 ≤ _ at hlast
  omega

/-- A reader that began after the number `base` has seen items up to the number `pos`, in order. -/
structure Reads (all : List α) (base pos : ℕ) (seen : List (ℕ × α)) : Prop where
  le : base ≤ pos
  bound : pos ≤ all.length ∨ pos ≤ base
  sublist : seen.Sublist (between all base pos)

namespace Reads

variable {all : List α} {base pos : ℕ} {seen : List (ℕ × α)}

lemma new (all : List α) (base : ℕ) : Reads all base base [] :=
  ⟨le_rfl, Or.inr le_rfl, List.nil_sublist _⟩

/-- More items change nothing. -/
lemma grow (h : Reads all base pos seen) (l : List α) : Reads (all ++ l) base pos seen :=
  ⟨h.le, h.bound.imp_left fun hle => hle.trans (by simp), by
    rw [between_append_left _ _ h.bound]
    exact h.sublist⟩

/-- The next items, of which some may be missing. -/
lemma read (h : Reads all base pos seen) {j n : ℕ} (hj : pos ≤ j) (hjn : j < n) (hn : n ≤ all.length) :
    Reads all base n (seen ++ between all j n) := by
  refine ⟨by have := h.le; omega, Or.inl hn, ?_⟩
  rw [← between_append all h.le (hj.trans hjn.le), ← between_append all hj hjn.le]
  exact h.sublist.append (List.sublist_append_right _ _)

/-- There is no gap when there was none before, and the next items are the next. -/
lemma read_eq_iff (h : Reads all base pos seen) {j n : ℕ} (hj : pos ≤ j) (hjn : j < n)
    (hn : n ≤ all.length) :
    seen ++ between all j n = between all base n ↔ seen = between all base pos ∧ j = pos := by
  have hsplit := between_append all h.le (hj.trans hjn.le)
  constructor
  · intro heq
    have hlen := congrArg List.length heq
    have hseen := h.sublist.length_le
    rw [List.length_append, ← hsplit, List.length_append, length_between all j n,
      length_between all pos n] at hlen
    have hle := h.le
    refine ⟨h.sublist.eq_of_length_le (by omega), by omega⟩
  · rintro ⟨rfl, rfl⟩
    exact hsplit

end Reads

end Turbobond
