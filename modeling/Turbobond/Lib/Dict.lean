import Mathlib.Data.List.Nodup
import Mathlib.Tactic

/-!
# Insertion-ordered dictionaries

A finite map that remembers the order in which its keys were first stored: storing
under a key that is present keeps its place, storing under a new key appends it.
The entries carry the proof that no key occurs twice, so every operation returns a
dictionary and no lemma has to assume it.

The lemmas are of two kinds: `get?` after each operation, which is the map, and
`keys` after each operation, which is the order.
-/

namespace Turbobond

/-- An insertion-ordered finite map. -/
structure Dict (κ ν : Type) where
  entries : List (κ × ν)
  nodup : (entries.map Prod.fst).Nodup
  deriving DecidableEq

namespace Dict

variable {κ ν : Type} [DecidableEq κ]

/-- The keys, in the order in which they were first stored. -/
def keys (d : Dict κ ν) : List κ := d.entries.map Prod.fst

/-- The values, in the order of the keys. -/
def values (d : Dict κ ν) : List ν := d.entries.map Prod.snd

/-- The number of entries. -/
def size (d : Dict κ ν) : ℕ := d.entries.length

/-- The dictionary with no entries. -/
def empty : Dict κ ν := ⟨[], List.nodup_nil⟩

instance : Inhabited (Dict κ ν) := ⟨empty⟩

/-- The value stored under a key. -/
def get? (d : Dict κ ν) (k : κ) : Option ν :=
  (d.entries.find? fun e => e.1 == k).map Prod.snd

/-- Membership of a key. -/
def has (d : Dict κ ν) (k : κ) : Bool := (d.get? k).isSome

omit [DecidableEq κ] in
lemma map_fst_replace [DecidableEq κ] (k : κ) (v : ν) (l : List (κ × ν)) :
    (l.map fun e => if e.1 = k then (k, v) else e).map Prod.fst = l.map Prod.fst := by
  rw [List.map_map]
  refine List.map_congr_left fun e _ => ?_
  by_cases he : e.1 = k
  · simp [he]
  · simp [he]

/-- Store a value: in place when the key is present, at the end when it is not. -/
def set (d : Dict κ ν) (k : κ) (v : ν) : Dict κ ν :=
  if h : k ∈ d.entries.map Prod.fst then
    ⟨d.entries.map fun e => if e.1 = k then (k, v) else e, by
      rw [map_fst_replace]; exact d.nodup⟩
  else
    ⟨d.entries ++ [(k, v)], by
      rw [List.map_append]
      exact List.nodup_append.2 ⟨d.nodup, by simp, by
        intro a ha b hb
        simp only [List.map_cons, List.map_nil, List.mem_singleton] at hb
        subst hb
        intro hab
        exact h (hab ▸ ha)⟩⟩

/-- Remove a key, if it is there. -/
def erase (d : Dict κ ν) (k : κ) : Dict κ ν :=
  ⟨d.entries.filter fun e => e.1 ≠ k,
    (List.filter_sublist.map Prod.fst).nodup d.nodup⟩

/-- Change every value. -/
def mapValues (d : Dict κ ν) (f : ν → ν) : Dict κ ν :=
  ⟨d.entries.map fun e => (e.1, f e.2), by
    rw [List.map_map]; exact d.nodup⟩

/-- Keep the entries whose value passes a test. -/
def filterValues (d : Dict κ ν) (p : ν → Bool) : Dict κ ν :=
  ⟨d.entries.filter fun e => p e.2, (List.filter_sublist.map Prod.fst).nodup d.nodup⟩

/-! ### What is stored under a key -/

lemma get?_eq_some_iff (d : Dict κ ν) (k : κ) (v : ν) :
    d.get? k = some v ↔ (k, v) ∈ d.entries := by
  rw [get?, Option.map_eq_some_iff]
  constructor
  · rintro ⟨e, he, rfl⟩
    have hk : e.1 = k := by simpa using List.find?_some he
    rw [← hk]
    exact List.mem_of_find?_eq_some he
  · intro hmem
    obtain ⟨e, he⟩ : ∃ e, d.entries.find? (fun e => e.1 == k) = some e :=
      Option.isSome_iff_exists.1 (List.find?_isSome.2 ⟨(k, v), hmem, by simp⟩)
    have hk : e.1 = k := by simpa using List.find?_some he
    have hinj := List.inj_on_of_nodup_map d.nodup (List.mem_of_find?_eq_some he) hmem hk
    exact ⟨e, he, by rw [hinj]⟩

lemma mem_keys_iff (d : Dict κ ν) (k : κ) : k ∈ d.keys ↔ ∃ v, d.get? k = some v := by
  simp only [keys, List.mem_map, get?_eq_some_iff]
  constructor
  · rintro ⟨⟨a, v⟩, h, rfl⟩
    exact ⟨v, h⟩
  · rintro ⟨v, h⟩
    exact ⟨(k, v), h, rfl⟩

lemma mem_values_iff (d : Dict κ ν) (v : ν) : v ∈ d.values ↔ ∃ k, d.get? k = some v := by
  simp only [values, List.mem_map, get?_eq_some_iff]
  constructor
  · rintro ⟨⟨k, w⟩, h, rfl⟩
    exact ⟨k, h⟩
  · rintro ⟨k, h⟩
    exact ⟨(k, v), h, rfl⟩

lemma get?_eq_none_iff (d : Dict κ ν) (k : κ) : d.get? k = none ↔ k ∉ d.keys := by
  rw [mem_keys_iff, Option.eq_none_iff_forall_ne_some, not_exists]

@[simp] lemma has_iff (d : Dict κ ν) (k : κ) : d.has k = true ↔ k ∈ d.keys := by
  rw [has, mem_keys_iff, Option.isSome_iff_exists]

@[simp] lemma get?_empty (k : κ) : (empty : Dict κ ν).get? k = none := rfl

omit [DecidableEq κ] in
@[simp] lemma keys_empty : (empty : Dict κ ν).keys = [] := rfl

lemma get?_set (d : Dict κ ν) (k k' : κ) (v : ν) :
    (d.set k v).get? k' = if k' = k then some v else d.get? k' := by
  apply Option.ext
  intro w
  rw [get?_eq_some_iff]
  by_cases hk : k ∈ d.entries.map Prod.fst
  · rw [set, dif_pos hk]
    simp only [List.mem_map]
    obtain ⟨e₀, he₀, hek₀⟩ := List.mem_map.1 hk
    by_cases hkk : k' = k
    · subst hkk
      rw [if_pos rfl]
      constructor
      · rintro ⟨e, he, heq⟩
        by_cases hek : e.1 = k'
        · rw [if_pos hek] at heq
          simpa using (Prod.mk.inj heq).2
        · rw [if_neg hek] at heq
          exact absurd (by rw [heq]) hek
      · intro hw
        exact ⟨e₀, he₀, by rw [if_pos hek₀]; simpa using hw⟩
    · rw [if_neg hkk, get?_eq_some_iff]
      constructor
      · rintro ⟨e, he, heq⟩
        by_cases hek : e.1 = k
        · rw [if_pos hek] at heq
          exact absurd (Prod.mk.inj heq).1.symm hkk
        · rw [if_neg hek] at heq
          exact heq ▸ he
      · intro hmem
        exact ⟨(k', w), hmem, by rw [if_neg hkk]⟩
  · rw [set, dif_neg hk]
    simp only [List.mem_append, List.mem_singleton, Prod.mk.injEq]
    by_cases hkk : k' = k
    · subst hkk
      rw [if_pos rfl]
      have hnot : (k', w) ∉ d.entries := fun h => hk (List.mem_map.2 ⟨_, h, rfl⟩)
      constructor
      · rintro (h | ⟨-, rfl⟩)
        · exact absurd h hnot
        · rfl
      · intro h
        exact Or.inr ⟨rfl, by simpa using h.symm⟩
    · rw [if_neg hkk, get?_eq_some_iff]
      simp [hkk]

@[simp] lemma get?_set_self (d : Dict κ ν) (k : κ) (v : ν) : (d.set k v).get? k = some v := by
  rw [get?_set, if_pos rfl]

lemma get?_set_of_ne (d : Dict κ ν) {k k' : κ} (h : k' ≠ k) (v : ν) :
    (d.set k v).get? k' = d.get? k' := by
  rw [get?_set, if_neg h]

lemma get?_erase (d : Dict κ ν) (k k' : κ) :
    (d.erase k).get? k' = if k' = k then none else d.get? k' := by
  apply Option.ext
  intro w
  rw [get?_eq_some_iff, erase]
  simp only [List.mem_filter, ne_eq, decide_not, Bool.not_eq_true', decide_eq_false_iff_not]
  by_cases hkk : k' = k
  · simp [hkk]
  · rw [if_neg hkk, get?_eq_some_iff]
    simp [hkk]

@[simp] lemma get?_erase_self (d : Dict κ ν) (k : κ) : (d.erase k).get? k = none := by
  rw [get?_erase, if_pos rfl]

lemma get?_erase_of_ne (d : Dict κ ν) {k k' : κ} (h : k' ≠ k) :
    (d.erase k).get? k' = d.get? k' := by
  rw [get?_erase, if_neg h]

lemma of_get?_set {d : Dict κ ν} {k k' : κ} {v w : ν} (h : (d.set k v).get? k' = some w) :
    k' = k ∧ w = v ∨ k' ≠ k ∧ d.get? k' = some w := by
  by_cases hk : k' = k
  · rw [hk, get?_set_self] at h
    exact .inl ⟨hk, (Option.some.inj h).symm⟩
  · rw [get?_set_of_ne d hk] at h
    exact .inr ⟨hk, h⟩

lemma of_get?_erase {d : Dict κ ν} {k k' : κ} {w : ν} (h : (d.erase k).get? k' = some w) :
    k' ≠ k ∧ d.get? k' = some w := by
  by_cases hk : k' = k
  · rw [hk, get?_erase_self] at h
    exact absurd h (by simp)
  · rw [get?_erase_of_ne d hk] at h
    exact ⟨hk, h⟩

/-! ### The keys -/

omit [DecidableEq κ] in
lemma keys_nodup (d : Dict κ ν) : d.keys.Nodup := d.nodup

omit [DecidableEq κ] in
@[simp] lemma length_keys (d : Dict κ ν) : d.keys.length = d.size := by
  simp [keys, size]

lemma keys_set_of_notMem (d : Dict κ ν) {k : κ} (h : k ∉ d.keys) (v : ν) :
    (d.set k v).keys = d.keys ++ [k] := by
  have h' : k ∉ d.entries.map Prod.fst := h
  rw [set, dif_neg h']
  simp [keys]

lemma keys_set_of_mem (d : Dict κ ν) {k : κ} (h : k ∈ d.keys) (v : ν) :
    (d.set k v).keys = d.keys := by
  have h' : k ∈ d.entries.map Prod.fst := h
  rw [set, dif_pos h']
  exact map_fst_replace k v d.entries

@[simp] lemma mem_keys_set (d : Dict κ ν) (k k' : κ) (v : ν) :
    k' ∈ (d.set k v).keys ↔ k' = k ∨ k' ∈ d.keys := by
  by_cases h : k ∈ d.keys
  · rw [keys_set_of_mem d h]
    constructor
    · exact Or.inr
    · rintro (rfl | h')
      · exact h
      · exact h'
  · rw [keys_set_of_notMem d h]
    simp [or_comm]

lemma size_set_le (d : Dict κ ν) (k : κ) (v : ν) : (d.set k v).size ≤ d.size + 1 := by
  rw [← length_keys, ← length_keys]
  by_cases h : k ∈ d.keys
  · rw [keys_set_of_mem d h]
    exact Nat.le_succ _
  · rw [keys_set_of_notMem d h, List.length_append, List.length_singleton]

lemma keys_erase (d : Dict κ ν) (k : κ) : (d.erase k).keys = d.keys.filter (· ≠ k) := by
  rw [erase, keys, keys, List.filter_map]
  rfl

@[simp] lemma mem_keys_erase (d : Dict κ ν) (k k' : κ) :
    k' ∈ (d.erase k).keys ↔ k' ≠ k ∧ k' ∈ d.keys := by
  rw [keys_erase, List.mem_filter]
  simp [and_comm]

lemma entries_set_of_notMem (d : Dict κ ν) {k : κ} (h : k ∉ d.keys) (v : ν) :
    (d.set k v).entries = d.entries ++ [(k, v)] := by
  have h' : k ∉ d.entries.map Prod.fst := h
  rw [set, dif_neg h']

omit [DecidableEq κ] in
/-- A dictionary is its entries. -/
lemma ext_entries {d d' : Dict κ ν} (h : d.entries = d'.entries) : d = d' := by
  cases d
  cases d'
  obtain rfl := h
  rfl

/-- Storing the entries of a dictionary, one after the other. -/
lemma foldl_set_entries (d : Dict κ ν) :
    d.entries.foldl (fun d e => d.set e.1 e.2) empty = d := by
  have hfold : ∀ (l : List (κ × ν)) (acc : Dict κ ν), (acc.keys ++ l.map Prod.fst).Nodup →
      (l.foldl (fun d e => d.set e.1 e.2) acc).entries = acc.entries ++ l := by
    intro l
    induction l with
    | nil => simp
    | cons e l ih =>
      intro acc hnodup
      have hnew : e.1 ∉ acc.keys := fun hmem =>
        (List.nodup_append.1 hnodup).2.2 _ hmem _ (by simp) rfl
      rw [List.foldl_cons, ih, entries_set_of_notMem acc hnew, List.append_assoc]
      · rfl
      · rw [keys_set_of_notMem acc hnew, List.append_assoc]
        exact hnodup
  refine ext_entries ((hfold d.entries empty ?_).trans (List.nil_append _))
  rw [keys_empty, List.nil_append]
  exact d.nodup

/-- Storing what is stored already. -/
lemma set_of_get? {d : Dict κ ν} {k : κ} {v : ν} (h : d.get? k = some v) : d.set k v = d := by
  have hmem := (get?_eq_some_iff d k v).1 h
  have hkey : k ∈ d.entries.map Prod.fst := List.mem_map_of_mem hmem
  refine ext_entries ?_
  rw [set, dif_pos hkey]
  refine (List.map_congr_left fun e he => ?_).trans (List.map_id _)
  split
  · rename_i hek
    exact List.inj_on_of_nodup_map d.nodup hmem he hek.symm
  · rfl

/-- Taking a stored entry out leaves the rest, so the two together are what was there. -/
lemma entries_perm_erase (d : Dict κ ν) {k : κ} {v : ν} (h : d.get? k = some v) :
    d.entries.Perm ((k, v) :: (d.erase k).entries) := by
  have hmem : (k, v) ∈ d.entries := (get?_eq_some_iff d k v).1 h
  have hnd : d.entries.Nodup := List.Nodup.of_map _ d.nodup
  have hnot : (k, v) ∉ (d.erase k).entries := by simp [erase]
  have hnd' : (d.erase k).entries.Nodup := List.Nodup.of_map _ (d.erase k).nodup
  rw [List.perm_ext_iff_of_nodup hnd (List.nodup_cons.2 ⟨hnot, hnd'⟩)]
  intro e
  rw [List.mem_cons]
  simp only [erase, List.mem_filter, ne_eq, decide_not, Bool.not_eq_true', decide_eq_false_iff_not]
  constructor
  · intro he
    by_cases hek : e.1 = k
    · exact Or.inl (List.inj_on_of_nodup_map d.nodup he hmem hek)
    · exact Or.inr ⟨he, hek⟩
  · rintro (rfl | ⟨he, -⟩)
    · exact hmem
    · exact he

lemma get?_of_size_eq_zero {d : Dict κ ν} (h : d.size = 0) (k : κ) : d.get? k = none := by
  rw [get?_eq_none_iff, keys, List.eq_nil_of_length_eq_zero h]
  exact List.not_mem_nil

/-! ### Every entry at once -/

/-- When all values but the one of a key contribute nothing, it is the only one to. -/
lemma flatMap_values {α : Type} (d : Dict κ ν) (k : κ) {f : ν → List α}
    (h : ∀ k' v, k' ≠ k → d.get? k' = some v → f v = []) :
    d.values.flatMap f = ((d.get? k).map f).getD [] := by
  have hother : ∀ e ∈ d.entries, e.1 ≠ k → f e.2 = [] := fun e he hne =>
    h e.1 e.2 hne ((get?_eq_some_iff d e.1 e.2).2 he)
  cases hk : d.get? k with
  | none =>
    have hall : ∀ v ∈ d.values, f v = [] := by
      intro v hv
      obtain ⟨e, he, rfl⟩ := List.mem_map.1 hv
      refine hother e he fun hek => ?_
      have := (get?_eq_some_iff d e.1 e.2).2 he
      rw [hek, hk] at this
      exact absurd this (by simp)
    rw [List.flatMap_eq_nil_iff.2 hall]
    rfl
  | some v =>
    obtain ⟨l₁, l₂, hl⟩ := List.append_of_mem ((get?_eq_some_iff d k v).1 hk)
    have hnd := d.nodup
    rw [hl, List.map_append, List.map_cons] at hnd
    have hout : ∀ l : List (κ × ν), (∀ e ∈ l, e ∈ d.entries ∧ e.1 ≠ k) →
        (l.map Prod.snd).flatMap f = [] := by
      intro l hl
      refine List.flatMap_eq_nil_iff.2 fun w hw => ?_
      obtain ⟨e, he, rfl⟩ := List.mem_map.1 hw
      exact hother e (hl e he).1 (hl e he).2
    have hne₁ : ∀ e ∈ l₁, e.1 ≠ k := fun e he hek =>
      (List.nodup_append.1 hnd).2.2 _ (List.mem_map_of_mem he) _ List.mem_cons_self hek
    have hne₂ : ∀ e ∈ l₂, e.1 ≠ k := fun e he hek =>
      (List.nodup_cons.1 (List.nodup_append.1 hnd).2.1).1 (List.mem_map.2 ⟨e, he, hek⟩)
    rw [values, hl, List.map_append, List.map_cons, List.flatMap_append, List.flatMap_cons,
      hout l₁ fun e he => ⟨hl ▸ List.mem_append_left _ he, hne₁ e he⟩,
      hout l₂ fun e he => ⟨hl ▸ List.mem_append_right _ (List.mem_cons_of_mem _ he), hne₂ e he⟩]
    simp

lemma get?_mapValues (d : Dict κ ν) (f : ν → ν) (k : κ) :
    (d.mapValues f).get? k = (d.get? k).map f := by
  simp only [get?, mapValues, List.find?_map, Option.map_map, Function.comp_def]

lemma get?_filterValues (d : Dict κ ν) (p : ν → Bool) (k : κ) :
    (d.filterValues p).get? k = (d.get? k).filter p := by
  apply Option.ext
  intro v
  simp only [Option.filter_eq_some_iff, get?_eq_some_iff, filterValues, List.mem_filter]

omit [DecidableEq κ] in
@[simp] lemma keys_mapValues (d : Dict κ ν) (f : ν → ν) : (d.mapValues f).keys = d.keys := by
  simp [keys, mapValues]

/-! ### Operations one after the other -/

section Commute

variable (d : Dict κ ν) {k k' : κ}

omit [DecidableEq κ] in
lemma fst_replace [DecidableEq κ] (k : κ) (v : ν) (e : κ × ν) :
    (if e.1 = k then (k, v) else e).1 = e.1 := by
  split
  · rename_i h
    exact h.symm
  · rfl

lemma entries_set_of_mem {d : Dict κ ν} (h : k ∈ d.keys) (v : ν) :
    (d.set k v).entries = d.entries.map fun e => if e.1 = k then (k, v) else e := by
  have h' : k ∈ d.entries.map Prod.fst := h
  rw [set, dif_pos h']

omit [DecidableEq κ] in
@[simp] lemma values_mapValues (f : ν → ν) : (d.mapValues f).values = d.values.map f := by
  simp [values, mapValues]

omit [DecidableEq κ] in
@[simp] lemma size_mapValues (f : ν → ν) : (d.mapValues f).size = d.size := by
  simp [size, mapValues]

omit [DecidableEq κ] in
lemma mapValues_mapValues (f g : ν → ν) :
    (d.mapValues f).mapValues g = d.mapValues fun v => g (f v) := by
  refine ext_entries ?_
  simp only [mapValues, List.map_map, Function.comp_def]

lemma mapValues_set (f : ν → ν) (k : κ) (v : ν) :
    (d.set k v).mapValues f = (d.mapValues f).set k (f v) := by
  refine ext_entries ?_
  by_cases h : k ∈ d.keys
  · rw [entries_set_of_mem (by rwa [keys_mapValues])]
    simp only [mapValues, entries_set_of_mem h, List.map_map]
    refine List.map_congr_left fun e _ => ?_
    by_cases he : e.1 = k
    · simp [he]
    · simp [he]
  · rw [entries_set_of_notMem _ (by rwa [keys_mapValues])]
    simp only [mapValues, entries_set_of_notMem _ h, List.map_append, List.map_singleton]

lemma mapValues_erase (f : ν → ν) (k : κ) :
    (d.erase k).mapValues f = (d.mapValues f).erase k := by
  refine ext_entries ?_
  simp only [mapValues, erase, List.filter_map, Function.comp_def]

omit [DecidableEq κ] in
lemma filterValues_mapValues (f : ν → ν) (p : ν → Bool) :
    (d.mapValues f).filterValues p = (d.filterValues fun v => p (f v)).mapValues f := by
  refine ext_entries ?_
  simp only [mapValues, filterValues, List.filter_map, Function.comp_def]

lemma filterValues_erase (p : ν → Bool) (k : κ) :
    (d.erase k).filterValues p = (d.filterValues p).erase k := by
  refine ext_entries ?_
  simp only [filterValues, erase]
  exact List.filter_comm ..

lemma erase_of_get?_eq_none {d : Dict κ ν} (h : d.get? k = none) : d.erase k = d := by
  refine ext_entries (List.filter_eq_self.2 fun e he => ?_)
  rw [get?_eq_none_iff] at h
  simp only [ne_eq, decide_not, Bool.not_eq_true', decide_eq_false_iff_not]
  rintro rfl
  exact h (List.mem_map_of_mem he)

/-- Storing under a key twice is storing the second time. -/
lemma set_set_self (k : κ) (v w : ν) : (d.set k v).set k w = d.set k w := by
  have hmem : k ∈ (d.set k v).keys := (mem_keys_set d k k v).2 (.inl rfl)
  refine ext_entries ?_
  rw [entries_set_of_mem hmem]
  by_cases hk : k ∈ d.keys
  · rw [entries_set_of_mem hk, entries_set_of_mem hk, List.map_map]
    refine List.map_congr_left fun e _ => ?_
    by_cases he : e.1 = k
    · simp [he]
    · simp [he]
  · rw [entries_set_of_notMem d hk, entries_set_of_notMem d hk, List.map_append]
    have hold : d.entries.map (fun e => if e.1 = k then (k, w) else e) = d.entries :=
      (List.map_congr_left fun e he => if_neg fun heq : e.1 = k =>
        hk (heq ▸ List.mem_map_of_mem he)).trans (List.map_id _)
    rw [hold, List.map_singleton, if_pos rfl]

lemma erase_set_self (k : κ) (v : ν) : (d.set k v).erase k = d.erase k := by
  refine ext_entries ?_
  by_cases h : k ∈ d.keys
  · simp only [erase, entries_set_of_mem h, List.filter_map, Function.comp_def, fst_replace]
    refine (List.map_congr_left fun e he => ?_).trans (List.map_id _)
    exact if_neg (by simpa using (List.mem_filter.1 he).2)
  · simp only [erase, entries_set_of_notMem _ h, List.filter_append]
    simp

lemma erase_set_of_ne (h : k' ≠ k) (v : ν) : (d.set k' v).erase k = (d.erase k).set k' v := by
  refine ext_entries ?_
  by_cases hk : k' ∈ d.keys
  · rw [entries_set_of_mem (by simpa using ⟨h, hk⟩)]
    simp only [erase, entries_set_of_mem hk, List.filter_map, Function.comp_def, fst_replace]
  · rw [entries_set_of_notMem _ (by simp [hk])]
    simp only [erase, entries_set_of_notMem _ hk, List.filter_append]
    simp [h]

lemma erase_erase_self (k : κ) : (d.erase k).erase k = d.erase k :=
  erase_of_get?_eq_none (get?_erase_self d k)

lemma erase_erase_comm (k k' : κ) : (d.erase k).erase k' = (d.erase k').erase k := by
  refine ext_entries ?_
  simp only [erase]
  exact List.filter_comm ..

end Commute

end Dict

end Turbobond
