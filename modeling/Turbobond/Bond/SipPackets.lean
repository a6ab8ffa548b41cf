import Turbobond.Bond.Scheduler
import Turbobond.Lib.Ip

/-!
# Which packets the scheduler takes for SIP

`is_critical_packet` reads the ports behind the IPv4 header or the fixed IPv6 header.  It looks
neither at the fragment offset of an IPv4 header nor at IPv6 extension headers, and so it is
exact on all packets but later fragments and packets with their ports behind extension headers.
-/

namespace Turbobond.Bond

open Ip

/-- TCP, UDP and SCTP. -/
def portProtocols : List ℕ := [6, 17, 132]

/-- The header `h` starts with port fields that lie in the packet, and one of the two ports is
in the set. -/
def PortsIn (p : Bytes) (sipPorts : List ℤ) (h : Header) : Prop :=
  h.kind ∈ portProtocols ∧ h.offset + 4 ≤ p.length ∧
    ((wordAt p h.offset : ℤ) ∈ sipPorts ∨ (wordAt p (h.offset + 2) : ℤ) ∈ sipPorts)

/-- What `is_critical_packet` is for: a packet to or from a SIP port. -/
def IsSip (p : Bytes) (sipPorts : List ℤ) : Prop := ∃ h, Carries p h ∧ PortsIn p sipPorts h

/-- A later fragment of an IPv4 packet, whose payload has a port of the set where a first
fragment has its ports. -/
def LaterFragment (p : Bytes) (sipPorts : List ℤ) : Prop :=
  version p = 4 ∧ 20 ≤ headerLen p ∧ fragmentOffset p ≠ 0 ∧
    PortsIn p sipPorts ⟨byteAt p 9, headerLen p⟩

/-- An IPv6 packet to or from a SIP port, with extension headers before the transport header. -/
def BehindExtensions (p : Bytes) (sipPorts : List ℤ) : Prop :=
  version p = 6 ∧ byteAt p 6 ∈ extensions ∧
    ∃ h, Relation.ReflTransGen (Follows p) ⟨byteAt p 6, 40⟩ h ∧ PortsIn p sipPorts h

variable {p : Bytes} {sipPorts : List ℤ}

instance (h : Header) : Decidable (PortsIn p sipPorts h) := by unfold PortsIn; infer_instance

/-- A protocol with ports is no extension header. -/
lemma not_extension {kind : ℕ} (h : kind ∈ portProtocols) : kind ∉ extensions := by
  simp only [portProtocols, List.mem_cons, List.not_mem_nil, or_false] at h
  rcases h with rfl | rfl | rfl <;> decide

/-- The ports at a header, as `is_critical_packet` looks for them. -/
def portsMatch (p : Bytes) (sipPorts : List ℤ) (h : Header) : Bool :=
  if h.kind ∉ portProtocols then false
  else
    sipPorts.contains (wordAt p h.offset : ℤ) || sipPorts.contains (wordAt p (h.offset + 2) : ℤ)

lemma portsMatch_iff {h : Header} (hlen : h.offset + 4 ≤ p.length) :
    portsMatch p sipPorts h = true ↔ PortsIn p sipPorts h := by
  rw [portsMatch, PortsIn]
  by_cases hk : h.kind ∈ portProtocols <;> simp [hk, hlen]

lemma isCriticalPacket_eq (p : Bytes) (sipPorts : List ℤ) :
    isCriticalPacket p sipPorts =
      if p.length < 20 then false
      else if version p = 4 then
        if headerLen p < 20 ∨ p.length < headerLen p + 4 then false
        else portsMatch p sipPorts ⟨byteAt p 9, headerLen p⟩
      else if version p = 6 then
        if p.length < 44 then false else portsMatch p sipPorts ⟨byteAt p 6, 40⟩
      else false := rfl

/-- The places where `is_critical_packet` finds SIP ports. -/
lemma isCriticalPacket_iff :
    isCriticalPacket p sipPorts = true ↔
      (version p = 4 ∧ 20 ≤ headerLen p ∧ PortsIn p sipPorts ⟨byteAt p 9, headerLen p⟩) ∨
      (version p = 6 ∧ PortsIn p sipPorts ⟨byteAt p 6, 40⟩) := by
  rw [isCriticalPacket_eq]
  constructor
  · intro h
    split_ifs at h with hshort hv4 hlen4 hv6 hlen6
    · exact Or.inl ⟨hv4, by omega, (portsMatch_iff (show headerLen p + 4 ≤ p.length by omega)).1 h⟩
    · exact Or.inr ⟨hv6, (portsMatch_iff (show 40 + 4 ≤ p.length by omega)).1 h⟩
  · rintro (⟨hv4, hihl, hp⟩ | ⟨hv6, hp⟩)
    · have hend : headerLen p + 4 ≤ p.length := hp.2.1
      rw [if_neg (by omega), if_pos hv4, if_neg (by omega), portsMatch_iff hend]
      exact hp
    · have hend : 40 + 4 ≤ p.length := hp.2.1
      rw [if_neg (by omega), if_neg (by omega), if_pos hv6, if_neg (by omega),
        portsMatch_iff hend]
      exact hp

/-- An IPv4 packet is a SIP packet when it is a first fragment with SIP ports. -/
lemma isSip_of_v4 (hv : version p = 4) :
    IsSip p sipPorts ↔ 20 ≤ headerLen p ∧ fragmentOffset p = 0 ∧
      PortsIn p sipPorts ⟨byteAt p 9, headerLen p⟩ := by
  constructor
  · rintro ⟨h, hc, hp⟩
    obtain ⟨hlen, hfrag, rfl⟩ := (Carries.of_v4 hv).1 hc
    exact ⟨hlen, hfrag, hp⟩
  · rintro ⟨hlen, hfrag, hp⟩
    exact ⟨_, .v4 hv hlen hfrag, hp⟩

/-- An IPv6 packet is a SIP packet when the ports follow the fixed header, or when they are
behind extension headers. -/
lemma isSip_of_v6 (hv : version p = 6) :
    IsSip p sipPorts ↔
      PortsIn p sipPorts ⟨byteAt p 6, 40⟩ ∨ BehindExtensions p sipPorts := by
  constructor
  · rintro ⟨h, hc, hp⟩
    have hchain := (Carries.of_v6 hv).1 hc
    by_cases hext : byteAt p 6 ∈ extensions
    · exact Or.inr ⟨hv, hext, h, hchain, hp⟩
    · obtain rfl := eq_of_chain hext hchain
      exact Or.inl hp
  · rintro (hp | ⟨-, -, h, hchain, hp⟩)
    · exact ⟨_, .v6 hv .refl, hp⟩
    · exact ⟨h, .v6 hv hchain, hp⟩

/-- The classification is exact but for two kinds of packets: later IPv4 fragments that are
taken for SIP, and SIP packets with IPv6 extension headers that are not. -/
theorem isCriticalPacket_exact_iff (p : Bytes) (sipPorts : List ℤ) :
    (isCriticalPacket p sipPorts = true ↔ IsSip p sipPorts) ↔
      ¬ LaterFragment p sipPorts ∧ ¬ BehindExtensions p sipPorts := by
  rw [isCriticalPacket_iff]
  by_cases hv4 : version p = 4
  · rw [isSip_of_v4 hv4]
    have hnot : ¬ BehindExtensions p sipPorts := fun h => by have := h.1; omega
    have hnot6 : ¬ version p = 6 := by omega
    rw [LaterFragment]
    tauto
  by_cases hv6 : version p = 6
  · rw [isSip_of_v6 hv6, LaterFragment]
    have hnot : BehindExtensions p sipPorts → ¬ PortsIn p sipPorts ⟨byteAt p 6, 40⟩ := by
      rintro ⟨-, hext, -⟩ ⟨hk, -⟩
      exact not_extension hk hext
    tauto
  · have hno : ¬ IsSip p sipPorts := by
      rintro ⟨h, hc, -⟩
      rcases hc.version_eq with h | h
      · exact hv4 h
      · exact hv6 h
    simp [LaterFragment, BehindExtensions, hv4, hv6, hno]

/-- The second fragment of a datagram between two media ports: its payload begins with the
bytes `13 C4`, which read as 5060. -/
def mediaFragment : Bytes :=
  [0x45, 0, 0, 28, 0, 1, 0, 185, 64, 17, 0, 0, 10, 0, 0, 1, 10, 0, 0, 2,
    0x13, 0xC4, 0x80, 0, 0, 0, 0, 0]

/-- A UDP packet from port 5060 to port 5060 behind an empty hop-by-hop header. -/
def hopByHopSip : Bytes :=
  [0x60, 0, 0, 0, 0, 16, 0, 64] ++ List.replicate 32 0 ++
    [17, 0, 1, 4, 0, 0, 0, 0, 0x13, 0xC4, 0x13, 0xC4, 0, 8, 0, 0]

theorem isCriticalPacket_not_exact :
    (isCriticalPacket mediaFragment [5060, 5061] = true ∧ ¬ IsSip mediaFragment [5060, 5061]) ∧
      (isCriticalPacket hopByHopSip [5060, 5061] = false ∧ IsSip hopByHopSip [5060, 5061]) := by
  refine ⟨⟨by decide, fun h => ?_⟩, by decide, ?_⟩
  · obtain ⟨-, hfrag, -⟩ := (isSip_of_v4 (by decide)).1 h
    exact absurd hfrag (by decide)
  · have hstep : Follows hopByHopSip ⟨0, 40⟩ ⟨17, 48⟩ :=
      ⟨by decide, by decide, by decide, by decide⟩
    exact (isSip_of_v6 (by decide)).2
      (Or.inr ⟨by decide, by decide, ⟨17, 48⟩, .single hstep, by decide⟩)

end Turbobond.Bond
