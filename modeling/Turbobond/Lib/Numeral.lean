import Mathlib.Data.List.Induction
import Mathlib.Tactic

/-!
# Numerals

Numbers written in the digits of a base, and `int` of Python, which reads them.  The digits are those
of ASCII.
-/

namespace Turbobond.Numeral

/-- What a digit or a letter stands for. -/
def digitValue (c : Char) : Option ℕ :=
  let n := c.toNat
  if 48 ≤ n ∧ n ≤ 57 then some (n - 48)
  else if 97 ≤ n ∧ n ≤ 122 then some (n - 87)
  else if 65 ≤ n ∧ n ≤ 90 then some (n - 55)
  else none

/-- A digit of a base. -/
def digit (b : ℕ) (c : Char) : Option ℕ := (digitValue c).filter (· < b)

/-- The value of some digits with single underscores between them, read on from a value.
`afterDigit` says that the last character was a digit. -/
def digits (b : ℕ) : ℕ → Bool → List Char → Option ℕ
  | value, afterDigit, [] => if afterDigit then some value else none
  | value, afterDigit, c :: s =>
    if c = '_' then if afterDigit then digits b value false s else none
    else (digit b c).bind fun d => digits b (b * value + d) true s

/-- Digits, after a prefix that base sixteen can have. -/
def unsigned (b : ℕ) : List Char → Option ℕ
  | '0' :: c :: s =>
    if b = 16 ∧ (c = 'x' ∨ c = 'X') then digits b 0 false (if s.head? = some '_' then s.drop 1 else s)
    else digits b 0 false ('0' :: c :: s)
  | s => digits b 0 false s

/-- `int(s, b)`, of a text without white space. -/
def int (b : ℕ) : List Char → Option ℤ
  | '-' :: s => (unsigned b s).map fun n => -n
  | '+' :: s => (unsigned b s).map fun n => n
  | s => (unsigned b s).map fun n => n

/-- The digits of a number in a field of a width, `%0wX`. -/
def fixed (b : ℕ) : ℕ → ℕ → List Char
  | 0, _ => []
  | w + 1, n => fixed b w (n / b) ++ [(Nat.digitChar (n % b)).toUpper]

variable {b : ℕ} {s t : List Char}

/-- All digits of a base. -/
def AllDigits (b : ℕ) (s : List Char) : Prop := ∀ c ∈ s, (digit b c).isSome

lemma not_mem_of_allDigits (h : AllDigits b s) {c : Char} (hc : digit b c = none) : c ∉ s := by
  intro hmem
  have := h c hmem
  rw [hc] at this
  exact absurd this (by simp)

/-- A text of digits is read digit by digit. -/
lemma digits_append (h : AllDigits b s) (value : ℕ) (afterDigit : Bool) (t : List Char) :
    digits b value afterDigit (s ++ t) =
      (digits b value true s).bind fun n => digits b n (afterDigit || s ≠ []) t := by
  induction s generalizing value afterDigit with
  | nil => simp [digits]
  | cons c s ih =>
    have hc : c ≠ '_' := by
      rintro rfl
      exact not_mem_of_allDigits h (by simp [digit, digitValue]) List.mem_cons_self
    obtain ⟨d, hd⟩ := Option.isSome_iff_exists.1 (h c List.mem_cons_self)
    rw [List.cons_append, digits, if_neg hc, digits, if_neg hc, hd, Option.bind_some,
      Option.bind_some, ih fun x hx => h x (List.mem_cons_of_mem _ hx)]
    simp

/-- A sign or a prefix is not made of digits. -/
lemma int_of_allDigits (h : AllDigits b s) (hb : b ≤ 16) :
    int b s = (digits b 0 false s).map fun n => (n : ℤ) := by
  have hnone : ∀ c, digitValue c = none ∨ (∃ d, digitValue c = some d ∧ b ≤ d) → c ∉ s := by
    rintro c (hc | ⟨d, hc, hd⟩)
    · exact not_mem_of_allDigits h (by rw [digit, hc]; rfl)
    · refine not_mem_of_allDigits h ?_
      rw [digit, hc, Option.filter_some, if_neg (by simpa using hd)]
  have hminus := hnone '-' (.inl rfl)
  have hplus := hnone '+' (.inl rfl)
  have hx := hnone 'x' (.inr ⟨33, rfl, by omega⟩)
  have hX := hnone 'X' (.inr ⟨33, rfl, by omega⟩)
  have hunsigned : unsigned b s = digits b 0 false s := by
    rw [unsigned.eq_def]
    split
    · rename_i c s'
      rw [if_neg]
      rintro ⟨-, rfl | rfl⟩
      · exact hx (by simp)
      · exact hX (by simp)
    · rfl
  rw [int.eq_def]
  split
  · exact absurd List.mem_cons_self hminus
  · exact absurd List.mem_cons_self hplus
  · rw [hunsigned]

lemma digit_digitChar {d : ℕ} (hd : d < b) (hb : b ≤ 16) : digit b (Nat.digitChar d) = some d := by
  have hvalue : digitValue (Nat.digitChar d) = some d := by
    have hd16 : d < 16 := by omega
    interval_cases d <;> rfl
  rw [digit, hvalue, Option.filter_some, if_pos (by simpa using hd)]

lemma digit_toUpper {d : ℕ} (hd : d < b) (hb : b ≤ 16) :
    digit b (Nat.digitChar d).toUpper = some d := by
  have hvalue : digitValue (Nat.digitChar d).toUpper = some d := by
    have hd16 : d < 16 := by omega
    interval_cases d <;> rfl
  rw [digit, hvalue, Option.filter_some, if_pos (by simpa using hd)]

/-! ### Numbers are read back -/

lemma allDigits_toDigits (hb : 1 < b) (hb' : b ≤ 16) (n : ℕ) : AllDigits b (Nat.toDigits b n) := by
  induction n using Nat.strong_induction_on with
  | _ n ih =>
  intro c hc
  rw [Nat.toDigits_eq_if hb] at hc
  split at hc
  · rename_i hlt
    rw [List.mem_singleton.1 hc, digit_digitChar hlt hb']
    rfl
  · rename_i hle
    rcases List.mem_append.1 hc with hc | hc
    · exact ih (n / b) (Nat.div_lt_self (by omega) hb) c hc
    · rw [List.mem_singleton.1 hc, digit_digitChar (Nat.mod_lt n (by omega)) hb']
      rfl

lemma digits_toDigits (hb : 1 < b) (hb' : b ≤ 16) (n : ℕ) (afterDigit : Bool) :
    digits b 0 afterDigit (Nat.toDigits b n) = some n := by
  induction n using Nat.strong_induction_on generalizing afterDigit with
  | _ n ih =>
  have hdigit : ∀ d < b, ∀ value after, digits b value after [Nat.digitChar d] =
      some (b * value + d) := by
    intro d hd value after
    have hne : Nat.digitChar d ≠ '_' := fun heq => by
      have := digit_digitChar hd hb'
      rw [heq] at this
      exact absurd this (by simp [digit, digitValue])
    rw [digits, if_neg hne, digit_digitChar hd hb', Option.bind_some, digits, if_pos rfl]
  rw [Nat.toDigits_eq_if hb]
  split
  · rename_i hlt
    rw [hdigit n hlt, Nat.mul_zero, Nat.zero_add]
  · rename_i hle
    rw [digits_append (allDigits_toDigits hb hb' _), ih _ (Nat.div_lt_self (by omega) hb),
      Option.bind_some, hdigit _ (Nat.mod_lt n (by omega)), Nat.div_add_mod]

/-- A number in decimal. -/
theorem int_toDigits (n : ℕ) : int 10 (Nat.toDigits 10 n) = some (n : ℤ) := by
  rw [int_of_allDigits (allDigits_toDigits (by decide) (by decide) n) (by decide),
    digits_toDigits (by decide) (by decide)]
  rfl

lemma length_fixed (b w n : ℕ) : (fixed b w n).length = w := by
  induction w generalizing n with
  | zero => rfl
  | succ w ih => rw [fixed, List.length_append, ih, List.length_singleton]

lemma allDigits_fixed (hb : 0 < b) (hb' : b ≤ 16) (w n : ℕ) : AllDigits b (fixed b w n) := by
  induction w generalizing n with
  | zero => exact fun c hc => absurd hc List.not_mem_nil
  | succ w ih =>
    intro c hc
    rcases List.mem_append.1 hc with hc | hc
    · exact ih (n / b) c hc
    · rw [List.mem_singleton.1 hc, digit_toUpper (Nat.mod_lt n hb) hb']
      rfl

lemma digits_fixed (hb : 0 < b) (hb' : b ≤ 16) {w n : ℕ} (h : n < b ^ w) :
    digits b 0 true (fixed b w n) = some n := by
  induction w generalizing n with
  | zero =>
    obtain rfl : n = 0 := by simpa using h
    rfl
  | succ w ih =>
    have hlt : n / b < b ^ w := Nat.div_lt_of_lt_mul (by rwa [← pow_succ'])
    have hd := digit_toUpper (Nat.mod_lt n hb) hb'
    have hne : (Nat.digitChar (n % b)).toUpper ≠ '_' := fun heq => by
      rw [heq] at hd
      exact absurd hd (by simp [digit, digitValue])
    rw [fixed, digits_append (allDigits_fixed hb hb' w _), ih hlt, Option.bind_some, digits,
      if_neg hne, hd, Option.bind_some, digits, if_pos rfl, Nat.div_add_mod]

/-- A number in a field that it fits. -/
theorem int_fixed (hb : 0 < b) (hb' : b ≤ 16) {w n : ℕ} (hw : 0 < w) (h : n < b ^ w) :
    int b (fixed b w n) = some (n : ℤ) := by
  have hne : fixed b w n ≠ [] := by
    rw [← List.length_pos_iff, length_fixed]
    exact hw
  have hafter := digits_append (allDigits_fixed hb hb' w n) 0 false []
  rw [List.append_nil, digits_fixed hb hb' h] at hafter
  rw [int_of_allDigits (allDigits_fixed hb hb' w n) hb', hafter]
  simp [digits, hne]

end Turbobond.Numeral
