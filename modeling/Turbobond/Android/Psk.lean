import Mathlib.Tactic.IntervalCases
import Turbobond.Android.Protocol
import Turbobond.Util.Psk

/-!
# The tunnel's key on Android

`deriveKey` of `Crypto.kt`, with the functions of Kotlin and Java it reads the key with, and when it
agrees with `derive_key` of `turbobond/util/crypto.py`.  A string of Kotlin is made of code units of
UTF-16; the digits and the white space are those of the basic plane of Unicode.
-/

namespace Turbobond.Android

/-- A `Char` of Kotlin. -/
abbrev CodeUnit : Type := BitVec 16

/-- The code units of a character. -/
def codeUnits (c : Char) : List CodeUnit :=
  let n := c.toNat
  if n < 0x10000 then [BitVec.ofNat 16 n]
  else [BitVec.ofNat 16 (0xD800 + (n - 0x10000) / 0x400),
    BitVec.ofNat 16 (0xDC00 + (n - 0x10000) % 0x400)]

def utf16 (s : List Char) : List CodeUnit := s.flatMap codeUnits

/-- `Char.isWhitespace`. -/
def isWhitespace (c : CodeUnit) : Bool :=
  let n := c.toNat
  9 ≤ n ∧ n ≤ 13 ∨ 28 ≤ n ∧ n ≤ 32 ∨ 0x2000 ≤ n ∧ n ≤ 0x200A ∨
    n ∈ [0xA0, 0x1680, 0x2028, 0x2029, 0x202F, 0x205F, 0x3000]

/-- `String.trim`. -/
def trim (s : List CodeUnit) : List CodeUnit := (s.dropWhile isWhitespace).rdropWhile isWhitespace

/-- The zeros of the decimal digits of Unicode, each with nine more digits after it. -/
def decimalZeros : List ℕ :=
  [0x30, 0x660, 0x6F0, 0x7C0, 0x966, 0x9E6, 0xA66, 0xAE6, 0xB66, 0xBE6, 0xC66, 0xCE6, 0xD66, 0xDE6,
    0xE50, 0xED0, 0xF20, 0x1040, 0x1090, 0x17E0, 0x1810, 0x1946, 0x19D0, 0x1A80, 0x1A90, 0x1B50,
    0x1BB0, 0x1C40, 0x1C50, 0xA620, 0xA8D0, 0xA900, 0xA9D0, 0xA9F0, 0xAA50, 0xABF0, 0xFF10]

/-- What a decimal digit or a Latin letter, also of full width, stands for as a digit. -/
def digitValue (n : ℕ) : Option ℕ :=
  match decimalZeros.find? fun first => first ≤ n ∧ n < first + 10 with
  | some first => some (n - first)
  | none =>
    if 0x41 ≤ n ∧ n ≤ 0x5A then some (n - 0x41 + 10)
    else if 0x61 ≤ n ∧ n ≤ 0x7A then some (n - 0x61 + 10)
    else if 0xFF21 ≤ n ∧ n ≤ 0xFF3A then some (n - 0xFF21 + 10)
    else if 0xFF41 ≤ n ∧ n ≤ 0xFF5A then some (n - 0xFF41 + 10)
    else none

/-- `Character.digit`, with `none` for its negative result. -/
def digit (c : CodeUnit) (radix : ℕ) : Option ℕ := (digitValue c.toNat).filter (· < radix)

def hexToBytesOrNull (s : List CodeUnit) : Option Bytes :=
  if s.length % 2 ≠ 0 then none else Hex.pairs (digit · 16) s

def kdfLabel : String := "turbobond-tunnel-v1"

def keyLen : ℕ := 32

/-- `ByteArray.copyOf`: cut, or filled up with zeros. -/
def copyOf (bytes : Bytes) (newSize : ℕ) : Bytes :=
  bytes.take newSize ++ List.replicate (newSize - bytes.length) 0

/-- `deriveKey`; the error is the message of the `BondException`. -/
def deriveKey (blake2b : Util.Blake2b) (pskHex : List CodeUnit) : Except String Bytes :=
  match hexToBytesOrNull (trim pskHex) with
  | none => .error "the pre-shared key must be hex encoded"
  | some psk =>
    if psk.length < 16 then
      .error "the pre-shared key must be at least 16 bytes (32 hex characters)"
    else .ok (blake2b keyLen (copyOf kdfLabel.toUTF8.data.toList 16) psk)

/-! ### Reading the text -/

lemma hexToBytesOrNull_eq (s : List CodeUnit) : hexToBytesOrNull s = Hex.pairs (digit · 16) s := by
  rw [hexToBytesOrNull]
  split_ifs with hodd
  · refine (Option.not_isSome_iff_eq_none.1 fun hsome => hodd ?_).symm
    exact Nat.even_iff.1 (Hex.isSome_pairs_iff.1 hsome).1
  · rfl

/-- The key of a text is rejected, or made of the bytes it decodes to, under the personalisation of
the other end. -/
lemma toOption_deriveKey (blake2b : Util.Blake2b) (s : List CodeUnit) :
    (deriveKey blake2b s).toOption =
      ((Hex.pairs (digit · 16) (trim s)).filter (16 ≤ ·.length)).map
        (blake2b Util.keyLen (Util.keyLabel.toUTF8.data.toList.take 16)) := by
  have hlabel : copyOf kdfLabel.toUTF8.data.toList 16 = Util.keyLabel.toUTF8.data.toList.take 16 :=
    by decide
  rw [deriveKey, hexToBytesOrNull_eq, hlabel]
  cases Hex.pairs (digit · 16) (trim s) with
  | none => rfl
  | some psk =>
    by_cases hshort : psk.length < 16
    · simp [hshort, Except.toOption, Option.filter]
    · simp [hshort, Except.toOption, Option.filter, not_lt.1 hshort, keyLen, Util.keyLen]

/-- A text is what trimming leaves, with white space around it. -/
lemma eq_append_trim (s : List CodeUnit) : ∃ lead trail, (∀ c ∈ lead, isWhitespace c = true) ∧
    (∀ c ∈ trail, isWhitespace c = true) ∧ s = lead ++ trim s ++ trail := by
  refine ⟨s.takeWhile isWhitespace, (s.dropWhile isWhitespace).rtakeWhile isWhitespace,
    fun c hc => List.mem_takeWhile_imp hc, fun c hc => List.mem_rtakeWhile_imp hc, ?_⟩
  rw [trim, List.append_assoc, List.rdropWhile_append_rtakeWhile, List.takeWhile_append_dropWhile]

/-- Trimming takes away the white space around a text that has none in itself. -/
lemma trim_surrounded {lead s trail : List CodeUnit} (hlead : ∀ c ∈ lead, isWhitespace c = true)
    (hs : ∀ c ∈ s, isWhitespace c = false) (htrail : ∀ c ∈ trail, isWhitespace c = true) :
    trim (lead ++ s ++ trail) = s := by
  have hkeep : s.rdropWhile isWhitespace = s := by
    rw [List.rdropWhile_eq_self_iff]
    exact fun hne => by simp [hs _ (List.getLast_mem hne)]
  rw [trim, List.append_assoc, List.dropWhile_append_of_pos hlead]
  cases s with
  | nil =>
    rw [List.nil_append, List.dropWhile_eq_nil_iff.2 htrail, List.rdropWhile_nil]
  | cons c s =>
    rw [List.cons_append, List.dropWhile_cons_of_neg (by simp [hs c List.mem_cons_self]),
      ← List.cons_append, Text.rdropWhile_append_self htrail hkeep]

/-- A digit of the other end is one code unit, and the same digit here. -/
lemma digit_of_hexDigit {c : Char} (h : (Util.hexDigit c).isSome) :
    codeUnits c = [BitVec.ofNat 16 c.toNat] ∧
      digit (BitVec.ofNat 16 c.toNat) 16 = Util.hexDigit c ∧
      isWhitespace (BitVec.ofNat 16 c.toNat) = false := by
  have hrange : 48 ≤ c.toNat ∧ c.toNat ≤ 57 ∨ 97 ≤ c.toNat ∧ c.toNat ≤ 102 ∨
      65 ≤ c.toNat ∧ c.toNat ≤ 70 := by
    by_contra hnot
    rw [Util.hexDigit, if_neg (by omega), if_neg (by omega), if_neg (by omega)] at h
    exact absurd h (by simp)
  simp only [codeUnits, Util.hexDigit]
  generalize c.toNat = n at hrange ⊢
  rcases hrange with ⟨hlow, hhigh⟩ | ⟨hlow, hhigh⟩ | ⟨hlow, hhigh⟩ <;> interval_cases n <;> decide

/-- So is its white space. -/
lemma isWhitespace_of_isAsciiSpace {c : Char} (h : Util.isAsciiSpace c = true) :
    codeUnits c = [BitVec.ofNat 16 c.toNat] ∧ isWhitespace (BitVec.ofNat 16 c.toNat) = true ∧
      digit (BitVec.ofNat 16 c.toNat) 16 = none := by
  have hrange := Util.toNat_of_isAsciiSpace h
  simp only [codeUnits]
  generalize c.toNat = n at hrange ⊢
  rcases hrange with ⟨hlow, hhigh⟩ | rfl
  · interval_cases n <;> decide
  · decide

/-! ### The texts of one word -/

/-- A text of digits and white space of ASCII. -/
def Plain (s : List Char) : Prop :=
  ∀ c ∈ s, (Util.hexDigit c).isSome ∨ Util.isAsciiSpace c = true

lemma utf16_of_plain {s : List Char} (h : Plain s) :
    utf16 s = s.map fun c => BitVec.ofNat 16 c.toNat := by
  induction s with
  | nil => rfl
  | cons c s ih =>
    obtain ⟨hc, hs⟩ := List.forall_mem_cons.1 h
    have hunit : codeUnits c = [BitVec.ofNat 16 c.toNat] :=
      hc.elim (fun hdigit => (digit_of_hexDigit hdigit).1)
        fun hspace => (isWhitespace_of_isAsciiSpace hspace).1
    rw [utf16, List.flatMap_cons, hunit, List.map_cons, ← ih hs]
    rfl

/-- A text of one word of digits is decoded to the same bytes at both ends. -/
lemma pairs_trim_of_words {s w : List Char} (h : Text.words Util.isAsciiSpace s = [w])
    (hw : ∀ c ∈ w, (Util.hexDigit c).isSome) :
    Hex.pairs (digit · 16) (trim (utf16 s)) = Util.fromhex s := by
  obtain ⟨lead, trail, hlead, htrail, -, rfl⟩ := Text.eq_of_words_eq_singleton h
  have hplain : Plain (lead ++ w ++ trail) := by
    intro c hc
    rcases List.mem_append.1 hc with hc | hc
    · exact (List.mem_append.1 hc).elim (fun hc => Or.inr (hlead c hc)) fun hc => Or.inl (hw c hc)
    · exact Or.inr (htrail c hc)
  have hspace : ∀ t : List Char, (∀ c ∈ t, Util.isAsciiSpace c = true) →
      ∀ x ∈ t.map fun c => BitVec.ofNat 16 c.toNat, isWhitespace x = true := by
    intro t ht x hx
    obtain ⟨c, hc, rfl⟩ := List.mem_map.1 hx
    exact (isWhitespace_of_isAsciiSpace (ht c hc)).2.1
  have hword : ∀ x ∈ w.map fun c => BitVec.ofNat 16 c.toNat, isWhitespace x = false := by
    intro x hx
    obtain ⟨c, hc, rfl⟩ := List.mem_map.1 hx
    exact (digit_of_hexDigit (hw c hc)).2.2
  have hpairs : Hex.pairs ((digit · 16) ∘ fun c => BitVec.ofNat 16 c.toNat) w =
      Hex.pairs Util.hexDigit w :=
    Hex.pairs_congr fun c hc => (digit_of_hexDigit (hw c hc)).2.1
  rw [utf16_of_plain hplain, List.map_append, List.map_append,
    trim_surrounded (hspace lead hlead) hword (hspace trail htrail), Hex.pairs_map, hpairs,
    Util.fromhex_eq, h, List.mapM_cons, List.mapM_nil]
  cases Hex.pairs Util.hexDigit w <;> simp

/-- A plain text that trimming leaves digits of is one word. -/
lemma words_of_plain {s : List Char} (h : Plain s) (hne : trim (utf16 s) ≠ [])
    (hdigits : ∀ c ∈ trim (utf16 s), (digit c 16).isSome) :
    ∃ w, Text.words Util.isAsciiSpace s = [w] ∧ ∀ c ∈ w, (Util.hexDigit c).isSome := by
  obtain ⟨lead, trail, hlead, htrail, heq⟩ := eq_append_trim (utf16 s)
  generalize trim (utf16 s) = t at hne hdigits heq
  rw [utf16_of_plain h] at heq
  obtain ⟨rest, trail', rfl, hrest, rfl⟩ := List.map_eq_append_iff.1 heq
  obtain ⟨lead', w, rfl, rfl, rfl⟩ := List.map_eq_append_iff.1 hrest
  -- A character of a plain text is white space at both ends, or a digit at both ends.
  have hspace : ∀ c, c ∈ lead' ++ w ++ trail' → isWhitespace (BitVec.ofNat 16 c.toNat) = true →
      Util.isAsciiSpace c = true := by
    intro c hc hwhite
    refine (h c hc).resolve_left fun hdigit => ?_
    exact absurd hwhite (by simp [(digit_of_hexDigit hdigit).2.2])
  have hdigit : ∀ c ∈ w, (Util.hexDigit c).isSome := by
    intro c hc
    refine (h c (by simp [hc])).resolve_right fun hs => ?_
    have hsome := hdigits _ (List.mem_map_of_mem hc)
    exact absurd hsome (by simp [(isWhitespace_of_isAsciiSpace hs).2.2])
  refine ⟨w, Text.words_of_surrounded (fun c hc => hspace c (by simp [hc])
    (hlead _ (List.mem_map_of_mem hc))) (by simpa using hne) (fun c hc => ?_) fun c hc =>
      hspace c (by simp [hc]) (htrail _ (List.mem_map_of_mem hc)), hdigit⟩
  cases hs : Util.isAsciiSpace c with
  | false => rfl
  | true => exact absurd (hdigit c hc) (by simp [Util.hexDigit_of_isAsciiSpace c hs])

/-! ### When the ends agree -/

/-- A text of two words or more, each of an even number of digits of ASCII, and of 32 digits or
more. -/
def Spaced (s : List Char) : Prop :=
  2 ≤ (Text.words Util.isAsciiSpace s).length ∧
    32 ≤ (Text.words Util.isAsciiSpace s).flatten.length ∧
    ∀ w ∈ Text.words Util.isAsciiSpace s, Even w.length ∧ ∀ c ∈ w, (Util.hexDigit c).isSome

/-- A text that trimming leaves an even number of digits of Unicode of, 32 or more, with a character
that is neither a digit nor white space of ASCII. -/
def Foreign (s : List Char) : Prop :=
  Even (trim (utf16 s)).length ∧ 32 ≤ (trim (utf16 s)).length ∧
    (∀ c ∈ trim (utf16 s), (digit c 16).isSome) ∧
    ∃ c ∈ s, Util.hexDigit c = none ∧ Util.isAsciiSpace c = false

/-- A text that `derive_key` takes is plain. -/
lemma plain_of_words {s : List Char}
    (h : ∀ w ∈ Text.words Util.isAsciiSpace s, Even w.length ∧ ∀ c ∈ w, (Util.hexDigit c).isSome) :
    Plain s := by
  intro c hc
  cases hspace : Util.isAsciiSpace c with
  | true => exact Or.inr rfl
  | false =>
    obtain ⟨w, hw, hmem⟩ := Text.exists_mem_words hc hspace
    exact Or.inl ((h w hw).2 c hmem)

/-- **One key at both ends.**  From one text, under one hash function, both ends derive the same key
or both reject it, if and only if the text is neither `Spaced`, which only `derive_key` takes, nor
`Foreign`, which only `deriveKey` takes. -/
theorem deriveKey_agree_iff (blake2b : Util.Blake2b) (s : List Char) :
    (deriveKey blake2b (utf16 s)).toOption = (Util.deriveKey blake2b s Util.keyLabel).toOption ↔
      ¬ Spaced s ∧ ¬ Foreign s := by
  have hkotlin := Util.isSome_filter_iff (@Hex.isSome_pairs_iff _ (digit · 16) (trim (utf16 s)))
    fun bytes => Hex.length_of_pairs
  have hpython := Util.isSome_filter_iff (@Util.isSome_fromhex_iff s)
    fun bytes => Util.length_of_fromhex
  rw [toOption_deriveKey, Util.toOption_deriveKey]
  by_cases hspaced : Spaced s
  · obtain ⟨htwo, hlong, hwords⟩ := hspaced
    refine iff_of_false (fun heq => ?_) fun h => h.1 ⟨htwo, hlong, hwords⟩
    have hsome := congrArg Option.isSome heq
    rw [Option.isSome_map, Option.isSome_map] at hsome
    obtain ⟨⟨-, hdigits⟩, hlen⟩ := hkotlin.1 (hsome ▸ hpython.2 ⟨hwords, hlong⟩)
    obtain ⟨w, hw, -⟩ := words_of_plain (plain_of_words hwords)
      (List.ne_nil_of_length_pos (by omega)) hdigits
    exact absurd htwo (by simp [hw])
  by_cases hforeign : Foreign s
  · obtain ⟨heven, hlong, hdigits, c, hc, hhex, hspace⟩ := hforeign
    refine iff_of_false (fun heq => ?_) fun h => h.2 ⟨heven, hlong, hdigits, c, hc, hhex, hspace⟩
    have hsome := congrArg Option.isSome heq
    rw [Option.isSome_map, Option.isSome_map] at hsome
    have hwords := (hpython.1 (hsome ▸ hkotlin.2 ⟨⟨heven, hdigits⟩, hlong⟩)).1
    exact absurd (plain_of_words hwords c hc) (by simp [hhex, hspace])
  refine iff_of_true (congrArg _ ?_) ⟨hspaced, hforeign⟩
  by_cases hone : ∃ w, Text.words Util.isAsciiSpace s = [w] ∧ ∀ c ∈ w, (Util.hexDigit c).isSome
  · obtain ⟨w, hw, hdigits⟩ := hone
    rw [pairs_trim_of_words hw hdigits]
  -- A text of no word, or of one that is not made of digits, is taken by neither.
  have hno : ¬ ((Hex.pairs (digit · 16) (trim (utf16 s))).filter (16 ≤ ·.length)).isSome := by
    intro h
    obtain ⟨⟨heven, hdigits⟩, hlong⟩ := hkotlin.1 h
    by_cases hplain : Plain s
    · exact hone (words_of_plain hplain (List.ne_nil_of_length_pos (by omega)) hdigits)
    · simp only [Plain, not_forall, not_or, exists_prop] at hplain
      obtain ⟨c, hc, hhex, hspace⟩ := hplain
      exact hforeign ⟨heven, hlong, hdigits, c, hc, by simpa using hhex, by simpa using hspace⟩
  have hno' : ¬ ((Util.fromhex s).filter (16 ≤ ·.length)).isSome := by
    intro h
    obtain ⟨hwords, hlong⟩ := hpython.1 h
    rcases hcase : Text.words Util.isAsciiSpace s with _ | ⟨w, _ | ⟨v, ws⟩⟩
    · exact absurd hlong (by simp [hcase])
    · exact hone ⟨w, hcase, (hwords w (by simp [hcase])).2⟩
    · exact hspaced ⟨by simp [hcase], hlong, hwords⟩
  rw [Option.not_isSome_iff_eq_none.1 hno, Option.not_isSome_iff_eq_none.1 hno']

/-- Sixteen bytes with a space after each. -/
def spacedKey : List Char := (List.replicate 16 ['0', 'a', ' ']).flatten

/-- Only `derive_key` takes it. -/
theorem deriveKey_spaced_differ :
    (deriveKey (fun _ _ data => data) (utf16 spacedKey)).toOption ≠
      (Util.deriveKey (fun _ _ data => data) spacedKey Util.keyLabel).toOption := by
  decide

end Turbobond.Android
