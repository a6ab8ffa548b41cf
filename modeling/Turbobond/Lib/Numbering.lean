import Mathlib.Data.List.Pairwise
import Mathlib.Tactic

/-!
# Numbered lists

The items of a list, numbered from one.  Items picked under increasing numbers, each with
the item that stands under its number, form a sublist.
-/

namespace Turbobond

variable {α : Type}

/-- The item stands in the list under the number. -/
def Numbered (l : List α) (n : ℤ) (a : α) : Prop := ∃ i : ℕ, n = i + 1 ∧ l[i]? = some a

namespace Numbered

variable {l : List α} {n : ℤ} {a : α}

lemma append (h : Numbered l n a) (l' : List α) : Numbered (l ++ l') n a := by
  obtain ⟨i, hi, hget⟩ := h
  exact ⟨i, hi, by
    rw [List.getElem?_append_left (List.getElem?_eq_some_iff.1 hget).1]
    exact hget⟩

/-- A new item stands under the next number. -/
lemma concat (l : List α) (a : α) : Numbered (l ++ [a]) (l.length + 1 : ℕ) a :=
  ⟨l.length, by push_cast; rfl, by simp⟩

lemma le_length (h : Numbered l n a) : n ≤ l.length := by
  obtain ⟨i, rfl, hget⟩ := h
  have := (List.getElem?_eq_some_iff.1 hget).1
  omega

end Numbered

/-- Picked from the `k`-th item on, the items form a sublist of the rest of the list. -/
lemma sublist_drop_of_numbered {l : List α} {picked : List (ℤ × α)} :
    ∀ {k : ℕ}, (picked.map Prod.fst).Pairwise (· < ·) → (∀ e ∈ picked, Numbered l e.1 e.2) →
      (∀ e ∈ picked, (k : ℤ) < e.1) → (picked.map Prod.snd).Sublist (l.drop k) := by
  induction picked with
  | nil => exact fun _ _ _ => List.nil_sublist _
  | cons e picked ih =>
    intro k hsorted hnum hk
    obtain ⟨i, hi, hget⟩ := hnum e List.mem_cons_self
    obtain ⟨hilt, hget⟩ := List.getElem?_eq_some_iff.1 hget
    have hke := hk e List.mem_cons_self
    obtain ⟨hhead, htail⟩ := List.pairwise_cons.1 hsorted
    have hrest := ih (k := i + 1) htail (fun e' he' => hnum e' (List.mem_cons_of_mem _ he'))
      fun e' he' => by
        have := hhead e'.1 (List.mem_map_of_mem he')
        push_cast
        omega
    have hfrom : ((e :: picked).map Prod.snd).Sublist (l.drop i) := by
      rw [List.drop_eq_getElem_cons hilt, List.map_cons, hget]
      exact hrest.cons_cons _
    exact hfrom.trans (List.drop_sublist_drop_left l (by omega))

/-- Items picked under increasing numbers form a sublist. -/
theorem sublist_of_numbered {l : List α} {picked : List (ℤ × α)}
    (hsorted : (picked.map Prod.fst).Pairwise (· < ·))
    (hnum : ∀ e ∈ picked, Numbered l e.1 e.2) : (picked.map Prod.snd).Sublist l := by
  refine sublist_drop_of_numbered (k := 0) hsorted hnum fun e he => ?_
  obtain ⟨i, hi, -⟩ := hnum e he
  push_cast
  omega

end Turbobond
