import Mathlib.Algebra.Order.Ring.Nat
import Mathlib.Data.List.Induction
import Mathlib.Tactic.Ring

/-!
# Byte strings and big-endian numbers

`toBE w n` is the number `n`, reduced modulo `256 ^ w`, in `w` bytes, most significant
byte first, and `ofBE` reads such a string back.
-/

namespace Turbobond

abbrev Bytes : Type := List UInt8

namespace Bytes

/-- `n` modulo `256 ^ w` in `w` bytes, most significant first. -/
def toBE : ℕ → ℕ → Bytes
  | 0, _ => []
  | w + 1, n => toBE w (n / 256) ++ [UInt8.ofNat (n % 256)]

/-- The number a byte string denotes, most significant byte first. -/
def ofBE (bs : Bytes) : ℕ := bs.foldl (fun n b => n * 256 + b.toNat) 0

@[simp] lemma length_toBE (w n : ℕ) : (toBE w n).length = w := by
  induction w generalizing n with
  | zero => rfl
  | succ w ih => simp [toBE, ih]

lemma ofBE_append_singleton (bs : Bytes) (b : UInt8) : ofBE (bs ++ [b]) = ofBE bs * 256 + b.toNat := by
  simp [ofBE]

lemma ofBE_lt (bs : Bytes) : ofBE bs < 256 ^ bs.length := by
  induction bs using List.reverseRecOn with
  | nil => simp [ofBE]
  | append_singleton bs b ih =>
    have hb := b.toNat_lt
    rw [ofBE_append_singleton, List.length_append, List.length_singleton, pow_succ]
    omega

@[simp] lemma ofBE_toBE (w n : ℕ) : ofBE (toBE w n) = n % 256 ^ w := by
  induction w generalizing n with
  | zero => simp [toBE, ofBE, Nat.mod_one]
  | succ w ih =>
    have hb : (UInt8.ofNat (n % 256)).toNat = n % 256 := by simp
    rw [toBE, ofBE_append_singleton, ih, hb, pow_succ, mul_comm (256 ^ w) 256, Nat.mod_mul]
    ring

/-- A string of `w` bytes is the big-endian form of the number it denotes. -/
lemma toBE_ofBE (bs : Bytes) : toBE bs.length (ofBE bs) = bs := by
  induction bs using List.reverseRecOn with
  | nil => rfl
  | append_singleton bs b ih =>
    have hb := b.toNat_lt
    have hdiv : (ofBE bs * 256 + b.toNat) / 256 = ofBE bs := by omega
    have hmod : (ofBE bs * 256 + b.toNat) % 256 = b.toNat := by omega
    rw [ofBE_append_singleton, List.length_append, List.length_singleton, toBE, hdiv, hmod, ih]
    simp

@[simp] lemma toBE_mod (w n : ℕ) : toBE w (n % 256 ^ w) = toBE w n := by
  have h := toBE_ofBE (toBE w n)
  rwa [ofBE_toBE, length_toBE] at h

lemma toBE_inj {w m n : ℕ} (h : toBE w m = toBE w n) : m % 256 ^ w = n % 256 ^ w := by
  rw [← ofBE_toBE, ← ofBE_toBE, h]

/-- The bytes of a number, each by its place. -/
lemma toBE_eq_map (w n : ℕ) :
    toBE w n = (List.range w).map fun i => UInt8.ofNat (n / 256 ^ (w - 1 - i)) := by
  induction w generalizing n with
  | zero => rfl
  | succ w ih =>
    have hlast : UInt8.ofNat (n % 256) = UInt8.ofNat (n / 256 ^ (w + 1 - 1 - w)) := by
      rw [Nat.add_sub_cancel, Nat.sub_self, pow_zero, Nat.div_one]
      exact UInt8.toNat_inj.1 (by simp)
    rw [toBE, ih, List.range_succ, List.map_append, List.map_singleton, hlast]
    refine congrArg (· ++ _) (List.map_congr_left fun i hi => ?_)
    rw [Nat.div_div_eq_div_mul, ← pow_succ',
      show w + 1 - 1 - i = w - 1 - i + 1 by have := List.mem_range.1 hi; omega]

end Bytes

end Turbobond
