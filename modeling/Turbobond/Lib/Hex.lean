import Turbobond.Lib.Bytes
import Turbobond.Lib.Text

/-!
# Pairs of digits

Bytes written as pairs of hexadecimal digits, under any reading of characters as digits, in one piece
or with spaces between the pairs.
-/

namespace Turbobond.Hex

section Pairs

variable {α β : Type} (digit : α → Option ℕ)

/-- The bytes of a text of pairs of digits, each with its high digit first. -/
def pairs : List α → Option Bytes
  | [] => some []
  | [_] => none
  | a :: b :: s => do
    let high ← digit a
    let low ← digit b
    (pairs s).map (UInt8.ofNat (high <<< 4 ||| low) :: ·)

variable {digit}

lemma pairs_cons_cons_eq_some {a b : α} {s : List α} {bytes : Bytes} :
    pairs digit (a :: b :: s) = some bytes ↔ ∃ high low rest, digit a = some high ∧
      digit b = some low ∧ pairs digit s = some rest ∧
      UInt8.ofNat (high <<< 4 ||| low) :: rest = bytes := by
  simp [pairs, Option.bind_eq_some_iff]

/-- What is read is an even number of digits, two for each byte. -/
lemma length_of_pairs {s : List α} {bytes : Bytes} (h : pairs digit s = some bytes) :
    s.length = 2 * bytes.length := by
  induction s using pairs.induct generalizing bytes with
  | case1 =>
    obtain rfl := Option.some.inj h
    rfl
  | case2 a => exact absurd h (by simp [pairs])
  | case3 a b s ih =>
    obtain ⟨high, low, rest, -, -, hrest, rfl⟩ := pairs_cons_cons_eq_some.1 h
    have := ih hrest
    simp only [List.length_cons]
    omega

/-- Exactly the texts of an even number of digits are read. -/
lemma isSome_pairs_iff {s : List α} :
    (pairs digit s).isSome ↔ Even s.length ∧ ∀ c ∈ s, (digit c).isSome := by
  induction s using pairs.induct with
  | case1 => simp [pairs]
  | case2 a => simp [pairs]
  | case3 a b s ih =>
    have heven : Even (a :: b :: s).length ↔ Even s.length := by
      simp only [List.length_cons, Nat.even_add_one, not_not]
    rw [heven, List.forall_mem_cons, List.forall_mem_cons]
    cases ha : digit a <;> cases hb : digit b <;> simp [pairs, ha, hb, ← ih]

lemma pairs_congr {digit' : α → Option ℕ} {s : List α} (h : ∀ c ∈ s, digit c = digit' c) :
    pairs digit s = pairs digit' s := by
  induction s using pairs.induct with
  | case1 => rfl
  | case2 a => rfl
  | case3 a b s ih =>
    simp only [List.forall_mem_cons] at h
    rw [pairs, pairs, h.1, h.2.1, ih h.2.2]

lemma pairs_map (f : β → α) (s : List β) : pairs digit (s.map f) = pairs (digit ∘ f) s := by
  induction s using pairs.induct with
  | case1 => rfl
  | case2 a => rfl
  | case3 a b s ih => simp only [List.map_cons, pairs, ih, Function.comp]

end Pairs

/-! ### Words of pairs -/

variable (isSpace : Char → Bool) (digit : Char → Option ℕ)

/-- The bytes of a text of pairs of digits, with spaces before, between and after the pairs. -/
def spaced : List Char → Option Bytes
  | [] => some []
  | [c] => if isSpace c then some [] else none
  | c :: d :: s =>
    if isSpace c then spaced (d :: s)
    else do
      let high ← digit c
      let low ← digit d
      (spaced s).map (UInt8.ofNat (high <<< 4 ||| low) :: ·)

variable {isSpace digit}

lemma spaced_cons_of_space {c : Char} (hc : isSpace c = true) (s : List Char) :
    spaced isSpace digit (c :: s) = spaced isSpace digit s := by
  cases s with
  | nil => simp [spaced, hc]
  | cons d s => simp [spaced, hc]

/-- A word is read as pairs, and what follows it on its own. -/
lemma spaced_append (hdigit : ∀ c, isSpace c = true → digit c = none) {w : List Char}
    (hword : ∀ c ∈ w, isSpace c = false) (rest : List Char)
    (hrest : ∀ c ∈ rest.head?, isSpace c = true) :
    spaced isSpace digit (w ++ rest) =
      (pairs digit w).bind fun bytes => (spaced isSpace digit rest).map (bytes ++ ·) := by
  induction w using pairs.induct with
  | case1 => simp [pairs]
  | case2 c =>
    have hc := hword c List.mem_cons_self
    cases rest with
    | nil => simp [spaced, pairs, hc]
    | cons d rest => simp [spaced, pairs, hc, hdigit d (hrest d rfl)]
  | case3 c d w ih =>
    simp only [List.forall_mem_cons] at hword
    rw [List.cons_append, List.cons_append, spaced, if_neg (by simp [hword.1]), ih hword.2.2, pairs]
    cases digit c <;> cases digit d <;> cases pairs digit w <;> simp [Function.comp_def]

/-- A text is read word by word. -/
theorem spaced_eq (hdigit : ∀ c, isSpace c = true → digit c = none) (s : List Char) :
    spaced isSpace digit s =
      ((Text.words isSpace s).mapM (pairs digit)).map List.flatten := by
  induction s using Text.words_induction isSpace with
  | nil => simp [spaced, Text.words]
  | space c s hc ih => rw [spaced_cons_of_space hc, Text.words_cons_of_space hc, ih]
  | last w hne hword =>
    have := spaced_append hdigit hword [] (by simp)
    rw [List.append_nil] at this
    rw [this, Text.words_of_word hne hword, List.mapM_cons, List.mapM_nil]
    cases pairs digit w <;> simp [spaced]
  | word w c s hne hword hc ih =>
    rw [spaced_append hdigit hword (c :: s) (by simpa using hc), Text.words_append hne hword hc,
      spaced_cons_of_space hc, ih, List.mapM_cons]
    cases pairs digit w <;> cases (Text.words isSpace s).mapM (pairs digit) <;> simp

end Turbobond.Hex
