import Turbobond.Lib.Bytes

/-!
# Sealing datagrams

The `Sealer` of `turbobond/util/crypto.py`.  The cipher itself, ChaCha20-Poly1305 under the
tunnel's key, comes from outside the repository and is a parameter.
-/

namespace Turbobond

/-- What the program can raise in the datapath. -/
inductive PyError where
  /-- `turbobond.errors.BondError`. -/
  | bond (message : String)
  /-- `int.to_bytes` of a number that does not fit. -/
  | overflow
  deriving DecidableEq, Repr

namespace Util

/-- An authenticated cipher under one fixed key, and its documented behaviour: what was
encrypted decrypts under the same nonce and associated data, nothing but what encrypts to
it does, and the tag has 16 bytes. -/
structure Aead where
  encrypt (nonce plaintext aad : Bytes) : Bytes
  decrypt (nonce ciphertext aad : Bytes) : Option Bytes
  decrypt_encrypt (nonce plaintext aad : Bytes) :
    decrypt nonce (encrypt nonce plaintext aad) aad = some plaintext
  encrypt_of_decrypt {nonce ciphertext aad plaintext : Bytes} :
    decrypt nonce ciphertext aad = some plaintext → ciphertext = encrypt nonce plaintext aad
  length_encrypt (nonce plaintext aad : Bytes) :
    (encrypt nonce plaintext aad).length = plaintext.length + 16

/-- A cipher to compute with: it hides nothing, and its tag is made of the nonce and the
associated data. -/
def Aead.plain : Aead where
  encrypt nonce plaintext aad := plaintext ++ Bytes.toBE 16 (Bytes.ofBE nonce + Bytes.ofBE aad)
  decrypt nonce ciphertext aad :=
    let plaintext := ciphertext.take (ciphertext.length - 16)
    if ciphertext = plaintext ++ Bytes.toBE 16 (Bytes.ofBE nonce + Bytes.ofBE aad) then some plaintext
    else none
  decrypt_encrypt nonce plaintext aad := by simp
  encrypt_of_decrypt := by
    intro nonce ciphertext aad plaintext h
    simp only at h
    split at h
    · rename_i heq
      rw [← Option.some.inj h]
      exact heq
    · exact absurd h (by simp)
  length_encrypt nonce plaintext aad := by simp

structure Sealer where
  aead : Aead

namespace Sealer

/-- 12-byte nonce: 4-byte link id, 8-byte counter. -/
def nonce (linkId counter : ℕ) : Except PyError Bytes :=
  if linkId < 2 ^ 32 then .ok (Bytes.toBE 4 linkId ++ Bytes.toBE 8 (counter % 2 ^ 64))
  else .error .overflow

/-- `Sealer.seal`. -/
def «seal» (s : Sealer) (plaintext : Bytes) (linkId counter : ℕ) (aad : Bytes) :
    Except PyError Bytes := do
  let n ← nonce linkId counter
  return s.aead.encrypt n plaintext aad

/-- `Sealer.open`: the plaintext, or `none` when authentication fails or anything else goes
wrong. -/
def «open» (s : Sealer) (ciphertext : Bytes) (linkId counter : ℕ) (aad : Bytes) :
    Option Bytes :=
  match nonce linkId counter with
  | .ok n => s.aead.decrypt n ciphertext aad
  | .error _ => none

end Sealer

end Util

end Turbobond
