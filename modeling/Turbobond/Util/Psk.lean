import Turbobond.Lib.Hex
import Turbobond.Util.Crypto

/-!
# The tunnel's key

`derive_key` of `turbobond/util/crypto.py`, with `bytes.fromhex` of Python.  The hash function,
BLAKE2b, comes from outside the repository and is a parameter.
-/

namespace Turbobond.Util

/-- BLAKE2b without a key: from the digest's size, the personalisation and the data. -/
abbrev Blake2b : Type := ℕ → Bytes → Bytes → Bytes

/-- `Py_ISSPACE`: white space of ASCII. -/
def isAsciiSpace (c : Char) : Bool := 9 ≤ c.toNat ∧ c.toNat ≤ 13 ∨ c = ' '

/-- What a hexadecimal digit of ASCII stands for. -/
def hexDigit (c : Char) : Option ℕ :=
  let n := c.toNat
  if 48 ≤ n ∧ n ≤ 57 then some (n - 48)
  else if 97 ≤ n ∧ n ≤ 102 then some (n - 87)
  else if 65 ≤ n ∧ n ≤ 70 then some (n - 55)
  else none

/-- `bytes.fromhex`, which skips white space before, between and after the bytes. -/
def fromhex (string : List Char) : Option Bytes := Hex.spaced isAsciiSpace hexDigit string

/-- The default `label` of `derive_key`. -/
def keyLabel : String := "turbobond-tunnel-v1"

def keyLen : ℕ := 32

/-- `derive_key`. -/
def deriveKey (blake2b : Blake2b) (pskHex : List Char) (label : String) : Except PyError Bytes :=
  match fromhex pskHex with
  | none => .error (.bond "concentrator PSK must be hex encoded")
  | some psk =>
    if psk.length < 16 then
      .error (.bond "concentrator PSK must be at least 16 bytes (32 hex chars)")
    else .ok (blake2b keyLen (label.toUTF8.data.toList.take 16) psk)

lemma toNat_of_isAsciiSpace {c : Char} (h : isAsciiSpace c = true) :
    9 ≤ c.toNat ∧ c.toNat ≤ 13 ∨ c.toNat = 32 := by
  rw [isAsciiSpace, decide_eq_true_eq] at h
  exact h.imp_right fun heq => congrArg Char.toNat heq

lemma hexDigit_of_isAsciiSpace (c : Char) (h : isAsciiSpace c = true) : hexDigit c = none := by
  have := toNat_of_isAsciiSpace h
  rw [hexDigit, if_neg (by omega), if_neg (by omega), if_neg (by omega)]

/-- A text is decoded word by word. -/
lemma fromhex_eq (s : List Char) :
    fromhex s = ((Text.words isAsciiSpace s).mapM (Hex.pairs hexDigit)).map List.flatten :=
  Hex.spaced_eq hexDigit_of_isAsciiSpace s

/-- The texts that are decoded: an even number of digits in each word. -/
lemma isSome_fromhex_iff {s : List Char} : (fromhex s).isSome ↔
    ∀ w ∈ Text.words isAsciiSpace s, Even w.length ∧ ∀ c ∈ w, (hexDigit c).isSome := by
  rw [fromhex_eq, Option.isSome_map]
  induction Text.words isAsciiSpace s with
  | nil => simp
  | cons w ws ih =>
    rw [List.forall_mem_cons, ← Hex.isSome_pairs_iff, ← ih, List.mapM_cons]
    cases Hex.pairs hexDigit w <;> cases List.mapM (Hex.pairs hexDigit) ws <;> simp

/-- A byte for every two digits. -/
lemma length_of_fromhex {s : List Char} {bytes : Bytes} (h : fromhex s = some bytes) :
    (Text.words isAsciiSpace s).flatten.length = 2 * bytes.length := by
  rw [fromhex_eq, Option.map_eq_some_iff] at h
  obtain ⟨parts, hparts, rfl⟩ := h
  generalize Text.words isAsciiSpace s = ws at hparts ⊢
  induction ws generalizing parts with
  | nil =>
    obtain rfl := Option.some.inj hparts
    rfl
  | cons w ws ih =>
    simp only [List.mapM_cons, Option.pure_def, Option.bind_eq_bind, Option.bind_eq_some_iff,
      Option.some.injEq] at hparts
    obtain ⟨part, hpart, rest, hrest, rfl⟩ := hparts
    have := Hex.length_of_pairs hpart
    have := ih rest hrest
    simp only [List.flatten_cons, List.length_append]
    omega

/-- Sixteen bytes are thirty-two digits. -/
lemma isSome_filter_iff {r : Option Bytes} {P : Prop} {digits : ℕ} (hsome : r.isSome ↔ P)
    (hlength : ∀ bytes, r = some bytes → digits = 2 * bytes.length) :
    (r.filter (16 ≤ ·.length)).isSome ↔ P ∧ 32 ≤ digits := by
  rw [← hsome]
  cases r with
  | none => simp
  | some bytes =>
    have hdigits := hlength bytes rfl
    by_cases hlong : 16 ≤ bytes.length
    · simp only [Option.filter, hlong, decide_true, if_true, Option.isSome_some, true_and, true_iff]
      omega
    · simp only [Option.filter, hlong, decide_false, Option.isSome_some, true_and]
      exact iff_of_false (by simp) (by omega)

/-- The key of a text is rejected, or made of the bytes it decodes to. -/
lemma toOption_deriveKey (blake2b : Blake2b) (s : List Char) (label : String) :
    (deriveKey blake2b s label).toOption =
      ((fromhex s).filter (16 ≤ ·.length)).map
        (blake2b keyLen (label.toUTF8.data.toList.take 16)) := by
  rw [deriveKey]
  cases fromhex s with
  | none => rfl
  | some psk =>
    by_cases hshort : psk.length < 16
    · simp [hshort, Except.toOption, Option.filter]
    · simp [hshort, Except.toOption, Option.filter, not_lt.1 hshort]

end Turbobond.Util
