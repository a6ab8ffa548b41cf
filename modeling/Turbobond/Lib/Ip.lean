import Turbobond.Lib.Bytes
import Mathlib.Logic.Relation

/-!
# Where an IP packet carries its transport header

An IPv4 header says how long it is, and its fragment offset whether what follows it is the
start of the payload.  An IPv6 header is followed by a chain of extension headers, each of
which names the next one.
-/

namespace Turbobond.Ip

/-- A byte of the packet, `0` past its end. -/
def byteAt (p : Bytes) (i : ℕ) : ℕ := (p.getD i 0).toNat

/-- The two bytes from `i` on, as a number. -/
def wordAt (p : Bytes) (i : ℕ) : ℕ := Bytes.ofBE ((p.drop i).take 2)

def version (p : Bytes) : ℕ := byteAt p 0 / 16

/-- The length of an IPv4 header: its low four bits count words of four bytes. -/
def headerLen (p : Bytes) : ℕ := byteAt p 0 % 16 * 4

/-- The low thirteen bits of the flags and fragment offset of an IPv4 header. -/
def fragmentOffset (p : Bytes) : ℕ := wordAt p 6 % 2 ^ 13

/-- A header inside a packet: its protocol number and where it starts. -/
structure Header where
  kind : ℕ
  offset : ℕ
  deriving DecidableEq, Repr

/-- The IPv6 headers that name a next header and say where it starts: hop-by-hop options,
routing, fragment, authentication, destination options, mobility, host identity and shim6. -/
def extensions : List ℕ := [0, 43, 44, 51, 60, 135, 139, 140]

/-- The length of an extension header. -/
def extensionLen (p : Bytes) (h : Header) : ℕ :=
  if h.kind = 44 then 8
  else if h.kind = 51 then (byteAt p (h.offset + 1) + 2) * 4
  else (byteAt p (h.offset + 1) + 1) * 8

/-- `h'` follows the extension header `h`, which is whole.  Nothing follows a fragment header
whose offset, the high thirteen bits of its second word, is not zero. -/
def Follows (p : Bytes) (h h' : Header) : Prop :=
  h.kind ∈ extensions ∧ h.offset + extensionLen p h ≤ p.length ∧
    (h.kind = 44 → wordAt p (h.offset + 2) / 8 = 0) ∧
    h' = ⟨byteAt p h.offset, h.offset + extensionLen p h⟩

/-- The header `h` is reached from the packet's first byte by header length, fragment offset
and extension headers. -/
inductive Carries (p : Bytes) : Header → Prop
  | v4 (hv : version p = 4) (hlen : 20 ≤ headerLen p) (hfrag : fragmentOffset p = 0) :
      Carries p ⟨byteAt p 9, headerLen p⟩
  | v6 {h : Header} (hv : version p = 6)
      (hchain : Relation.ReflTransGen (Follows p) ⟨byteAt p 6, 40⟩ h) : Carries p h

variable {p : Bytes} {h h' : Header}

/-- A header that is no extension header is the last of its chain. -/
lemma eq_of_chain (hk : h.kind ∉ extensions) (hc : Relation.ReflTransGen (Follows p) h h') :
    h' = h := by
  rcases Relation.ReflTransGen.cases_head hc with rfl | ⟨_, hf, -⟩
  · rfl
  · exact absurd hf.1 hk

lemma Carries.of_v4 (hv : version p = 4) :
    Carries p h ↔ 20 ≤ headerLen p ∧ fragmentOffset p = 0 ∧ h = ⟨byteAt p 9, headerLen p⟩ := by
  constructor
  · rintro (⟨-, hlen, hfrag⟩ | ⟨hv6, -⟩)
    · exact ⟨hlen, hfrag, rfl⟩
    · omega
  · rintro ⟨hlen, hfrag, rfl⟩
    exact .v4 hv hlen hfrag

lemma Carries.of_v6 (hv : version p = 6) :
    Carries p h ↔ Relation.ReflTransGen (Follows p) ⟨byteAt p 6, 40⟩ h := by
  constructor
  · rintro (⟨hv4, -, -⟩ | ⟨-, hchain⟩)
    · omega
    · exact hchain
  · exact .v6 hv

lemma Carries.version_eq (hc : Carries p h) : version p = 4 ∨ version p = 6 := by
  rcases hc with ⟨hv, -, -⟩ | ⟨hv, -⟩
  · exact Or.inl hv
  · exact Or.inr hv

end Turbobond.Ip
