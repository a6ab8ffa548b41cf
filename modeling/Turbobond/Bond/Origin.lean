import Turbobond.Bond.Nonces
import Turbobond.Bond.ServerReplay

/-!
# Where accepted datagrams come from

The network may record, delay, redirect and reflect datagrams, but only holders of the key
can make one that opens (`Authentic`).  Then whatever a client or the concentrator accepts
is, byte for byte, a datagram that one of them has sealed before, and is read as it was
sealed.  Which of them has sealed it is compared nowhere, and a client compares neither the
session nor the link it was sealed for.
-/

set_option linter.unusedSectionVars false

namespace Turbobond.Bond.System

open Config Links Util

variable {K : Type} [Field K] [LinearOrder K] [HasSqrt K]

/-- The datagram that an event delivers, to a client's socket or to the concentrator's. -/
def Event.delivered : Event K → Option Bytes
  | .client _ (.datagram _ data _) => some data
  | .client _ (.handshakeReply _ data _) => some data
  | .server (.datagram data _ _ _) => some data
  | _ => none

/-- A datagram is accepted: `_handle_datagram` and `handle_datagram` do not count it as
rejected, and `_handshake_link` takes it for the answer. -/
def Accepts (sys : System K) : Event K → Prop
  | .client i (.datagram linkId data now) => ∃ t ∈ sys.clients[i]?, ∃ _ ∈ t.sockets.get? linkId,
      (t.handleDatagram linkId data now).2.rxRejected = t.rxRejected
  | .client i (.handshakeReply linkId data _) => ∃ t ∈ sys.clients[i]?,
      ∃ _ ∈ t.sockets.get? linkId, ∃ f ∈ decodeFrame t.sealer data,
        f.type = .handshakeAck ∨ f.type = .keepalive
  | .server e => sys.server.Accepted e
  | _ => False

/-- Only holders of the key make datagrams that open: if the sealed part opens, with the
header as associated data, then it is what one of them sealed before, under this nonce and
with this header. -/
def Authentic (sealer : Sealer) (hist : List (Party × Effect)) (data : Bytes) : Prop :=
  ∀ t s l c p, parseHeader data = .ok (t, s, l, c) →
    sealer.open (data.drop headerLen) l c (data.take headerLen) = some p →
      ∃ x ∈ sealedBy hist, Sealer.nonce x.2.frame.linkId x.2.frame.counter = Sealer.nonce l c ∧
        plaintext x.2.frame = p ∧ x.2.frame.header = data.take headerLen

/-- What was sealed before may come again, anywhere. -/
lemma authentic_of_sealed {sealer : Sealer} {hist : List (Party × Effect)} {x : Party × Sealed}
    (hx : x ∈ sealedBy hist) (henc : encodeFrame sealer x.2.frame = .ok x.2.datagram) :
    Authentic sealer hist x.2.datagram := by
  intro t s l c p hparse hopen
  obtain ⟨-, hl, hd⟩ := encodeFrame_eq_ok_iff.1 henc
  have hhead := parseHeader_datagram sealer x.2.frame
  rw [← hd, hparse] at hhead
  simp only [Except.ok.injEq, Prod.mk.injEq] at hhead
  obtain ⟨-, -, rfl, rfl⟩ := hhead
  rw [hd, open_datagram sealer _ hl] at hopen
  refine ⟨x, hx, ?_, Option.some.inj hopen, by rw [hd, take_datagram]⟩
  rw [nonce_eq_iff hl (Nat.mod_lt _ (by norm_num)), Nat.mod_eq_of_lt hl, Nat.mod_mod]
  exact ⟨rfl, rfl⟩

/-- A run in which the network forges nothing. -/
def Unforged (events : List (Event K)) (sys : System K) : Prop :=
  Machine.Meets step (fun sys hist e => ∀ data, e.delivered = some data →
    Authentic sys.server.sealer hist data) events sys []

/-- An opened frame is one that was sealed, cut down to the widths of its fields. -/
lemma frame_of_authentic {sealer : Sealer} {hist : List (Party × Effect)} {data : Bytes} {f : Frame}
    (henc : ∀ x ∈ sealedBy hist, encodeFrame sealer x.2.frame = .ok x.2.datagram)
    (hauth : Authentic sealer hist data) (h : decodeFrame sealer data = some f) :
    ∃ x ∈ sealedBy hist, x.2.datagram = data ∧ f = x.2.frame.masked := by
  obtain ⟨hdata, hmasked, hl⟩ := eq_datagram_of_decodeFrame h
  rw [hdata] at hauth
  obtain ⟨x, hx, -, hplain, hheader⟩ :=
    hauth _ _ _ _ _ (parseHeader_datagram sealer f) (open_datagram sealer f hl)
  rw [take_datagram] at hheader
  have heq : x.2.frame.masked = f := by
    rw [masked_eq hheader hplain, hmasked]
  refine ⟨x, hx, ?_, heq.symm⟩
  obtain ⟨-, hlx, hdx⟩ := encodeFrame_eq_ok_iff.1 (henc x hx)
  rw [hdx, hdata, ← datagram_masked sealer hlx, heq]

/-- What is accepted opens under the key. -/
lemma decodes_of_accepts {sys : System K} {hist : List (Party × Effect)} (h : Inv sys hist)
    {e : Event K} {data : Bytes} (hdata : e.delivered = some data) (ha : Accepts sys e) :
    ∃ f, decodeFrame sys.server.sealer data = some f := by
  cases e with
  | join cfg sessionId links sip mode => exact absurd ha id
  | client i e =>
    cases e with
    | datagram linkId data' now =>
      obtain rfl := Option.some.inj hdata
      obtain ⟨t, ht, ls, hls, hrej⟩ := ha
      rw [Option.mem_def] at hls
      rw [← (h.bound i t ht).2]
      by_contra hnone
      rw [not_exists, ← Option.eq_none_iff_forall_ne_some] at hnone
      simp [BondingTunnel.handleDatagram, hls, hnone] at hrej
    | handshakeReply linkId data' now =>
      obtain rfl := Option.some.inj hdata
      obtain ⟨t, ht, -, -, f, hf, -⟩ := ha
      exact ⟨f, (h.bound i t ht).2 ▸ hf⟩
    | _ => exact absurd ha id
  | server e =>
    cases e with
    | datagram data' addr now sendOk =>
      obtain rfl := Option.some.inj hdata
      obtain ⟨f, hf, -⟩ := (ConcentratorServer.accepted_iff data' addr now sendOk).1 ha
      exact ⟨f, hf⟩
    | _ => exact absurd ha id

/-- In a run, whatever is accepted has been sealed before, in a way that suits the event. -/
def Binds (P : System K → Event K → Party × Sealed → Prop) (events : List (Event K))
    (sys : System K) : Prop :=
  Machine.Meets step (fun sys hist e => ∀ data, e.delivered = some data → Accepts sys e →
    ∃ x ∈ sealedBy hist, x.2.datagram = data ∧ P sys e x) events sys []

/-- The datagram is read as it was sealed, and the concentrator touches no link but the one
it was sealed for. -/
def ReadAsSealed (sys : System K) (e : Event K) (x : Party × Sealed) : Prop :=
  decodeFrame sys.server.sealer x.2.datagram = some x.2.frame.masked ∧
    ∀ e', e = .server e' → ∀ sid lid,
      ¬ (sid = x.2.frame.sessionId % 2 ^ 32 ∧ lid = x.2.frame.linkId % 2 ^ 32) →
        (sys.server.step e').2.peer? sid lid = sys.server.peer? sid lid

/-- **Origin.**  In every run in which the network forges nothing, each datagram that a client
or the concentrator accepts is one that a client or the concentrator has sealed before, and
is read as it was sealed. -/
theorem accepted_as_sealed (sealer : Sealer) (reorderTimeoutMs : ℚ) (events : List (Event K))
    (h : Unforged events (start K sealer reorderTimeoutMs)) :
    Binds ReadAsSealed events (start K sealer reorderTimeoutMs) := by
  refine Machine.Meets.imp (I := Inv) step (fun _ _ e h _ => h.step e) ?_ events
    (inv_start sealer reorderTimeoutMs) h
  intro sys hist e hinv hauth data hdata ha
  obtain ⟨f, hf⟩ := decodes_of_accepts hinv hdata ha
  obtain ⟨x, hx, rfl, rfl⟩ := frame_of_authentic hinv.encoded (hauth data hdata) hf
  refine ⟨x, hx, rfl, hf, ?_⟩
  rintro e' rfl sid lid hne
  cases e' with
  | datagram data' addr now sendOk =>
    obtain rfl := Option.some.inj hdata
    exact hinv.keyed.peer?_handleDatagram_of_ne hf addr now sendOk hne
  | _ => exact absurd ha id

/-- What would bind a datagram to its sender: a client reads what the concentrator has sealed,
and the concentrator what a client has. -/
def RightSender (_ : System K) : Event K → Party × Sealed → Prop
  | .client _ _, x => x.1 = .server
  | _, x => x.1 ≠ .server

/-- What would bind a datagram to its session: a client reads what was sealed for its own. -/
def RightSession (sys : System K) : Event K → Party × Sealed → Prop
  | .client i _, x => ∀ t ∈ sys.clients[i]?, x.2.frame.sessionId = t.sessionId
  | _, _ => True

/-- What would bind a datagram to its link: a client reads what was sealed for the link of the
socket. -/
def RightLink (_ : System K) : Event K → Party × Sealed → Prop
  | .client _ (.datagram linkId _ _), x => x.2.frame.linkId = linkId
  | .client _ (.handshakeReply linkId _ _), x => x.2.frame.linkId = linkId
  | _, _ => True

/-- Two clients start, the first with two links; it shakes hands over link 1, and a packet
comes back to it over the same link. -/
def twoClients : List (Event ℚ) :=
  [.join { enabled := true, host := "198.51.100.1" } 7
      [{ name := "wan0", interface := "wwan0", linkId := 1 },
        { name := "wan1", interface := "wwan1", linkId := 2 }] none .weighted,
    .join { enabled := true, host := "198.51.100.1" } 8
      [{ name := "wan0", interface := "wwan0", linkId := 1 }] none .weighted,
    .client 0 (.start fun _ => true),
    .client 1 (.start fun _ => true),
    .client 0 (.handshake 1 1000 true),
    .server (.datagram
      (datagram ⟨Aead.plain⟩ { type := .handshake, sessionId := 7, linkId := 1, counter := 1 })
      ("203.0.113.5", 40000) ⟨1000, 0⟩ true),
    .server (.downstream [0x45] 1000 true)]

/-- The datagrams of `twoClients`: the first client's handshake, and the packet for it. -/
def handshakeDatagram : Bytes :=
  datagram ⟨Aead.plain⟩ { type := .handshake, sessionId := 7, linkId := 1, counter := 1 }

def packetDatagram : Bytes :=
  datagram ⟨Aead.plain⟩
    { type := .data, sessionId := 7, linkId := 1, counter := 2, seq := 1, payload := [0x45] }

/-- Nothing is forged before an event or at it, and yet it accepts what it should not. -/
def Astray (P : System ℚ → Event ℚ → Party × Sealed → Prop) (e : Event ℚ) : Prop :=
  Unforged (twoClients ++ [e]) (start ℚ ⟨Aead.plain⟩ 90) ∧
    ¬ Binds P (twoClients ++ [e]) (start ℚ ⟨Aead.plain⟩ 90)

lemma unforged_twoClients : Unforged twoClients (start ℚ ⟨Aead.plain⟩ 90) := by
  refine ⟨nofun, nofun, nofun, nofun, nofun, ?_, nofun, trivial⟩
  intro data hdata
  have hsealed : ∃ x ∈ sealedBy (run (twoClients.take 5) (start ℚ ⟨Aead.plain⟩ 90)).1,
      x.2.datagram = handshakeDatagram := by
    decide +kernel
  obtain ⟨x, hx, hxd⟩ := hsealed
  obtain rfl : handshakeDatagram = data := Option.some.inj hdata
  have henc := (inv_run ⟨Aead.plain⟩ 90 (twoClients.take 5)).encoded x hx
  rw [← hxd]
  exact authentic_of_sealed hx henc

/-- One of the datagrams of `twoClients` may come to anyone next. -/
lemma unforged_of_sealed {e : Event ℚ} {data : Bytes} (hdata : e.delivered = some data)
    (hsealed : ∃ x ∈ sealedBy (run twoClients (start ℚ ⟨Aead.plain⟩ 90)).1, x.2.datagram = data) :
    Unforged (twoClients ++ [e]) (start ℚ ⟨Aead.plain⟩ 90) := by
  refine (Machine.meets_concat _ _ _ _ _).2 ⟨unforged_twoClients, fun data' hdata' => ?_⟩
  obtain ⟨x, hx, rfl⟩ := hsealed
  obtain rfl := Option.some.inj (hdata.symm.trans hdata')
  exact authentic_of_sealed hx ((inv_run ⟨Aead.plain⟩ 90 twoClients).encoded x hx)

/-- The packet for the first client comes to it. -/
theorem accepted_as_sealed_twoClients :
    Binds ReadAsSealed (twoClients ++ [.client 0 (.datagram 1 packetDatagram ⟨1001, 1⟩)])
      (start ℚ ⟨Aead.plain⟩ 90) :=
  accepted_as_sealed _ _ _ (unforged_of_sealed rfl (by decide +kernel))

lemma astray_of_sealed {P : System ℚ → Event ℚ → Party × Sealed → Prop} {e : Event ℚ} {data : Bytes}
    (hdata : e.delivered = some data)
    (hsealed : ∃ x ∈ sealedBy (run twoClients (start ℚ ⟨Aead.plain⟩ 90)).1, x.2.datagram = data)
    (ha : Accepts (run twoClients (start ℚ ⟨Aead.plain⟩ 90)).2 e)
    (hP : ∀ x ∈ sealedBy (run twoClients (start ℚ ⟨Aead.plain⟩ 90)).1, x.2.datagram = data →
      ¬ P (run twoClients (start ℚ ⟨Aead.plain⟩ 90)).2 e x) : Astray P e := by
  refine ⟨unforged_of_sealed hdata hsealed, fun hB => ?_⟩
  obtain ⟨x, hx, hxd, hPx⟩ := ((Machine.meets_concat _ _ _ _ _).1 hB).2 data hdata ha
  exact hP x hx hxd hPx

/-- After `twoClients`, the first client's handshake comes back to it, its packet comes to its
other link, to the other client and to the concentrator, and each is accepted. -/
theorem accepted_astray :
    Astray RightSender (.client 0 (.datagram 1 handshakeDatagram ⟨1001, 1⟩)) ∧
      Astray RightLink (.client 0 (.datagram 2 packetDatagram ⟨1001, 1⟩)) ∧
      Astray RightSession (.client 1 (.datagram 1 packetDatagram ⟨1001, 1⟩)) ∧
      Astray RightSender (.server (.datagram packetDatagram ("203.0.113.5", 40000) ⟨1001, 1⟩ true)) := by
  refine ⟨astray_of_sealed rfl ?_ ?_ ?_, astray_of_sealed rfl ?_ ?_ ?_,
    astray_of_sealed rfl ?_ ?_ ?_, astray_of_sealed rfl ?_ ?_ ?_⟩
  · decide +kernel
  · show ∃ t ∈ _, ∃ _ ∈ _, (_ : ℕ) = _
    decide +kernel
  · show ∀ x : Party × Sealed, x ∈ _ → _ → ¬ x.1 = Party.server
    decide +kernel
  · decide +kernel
  · show ∃ t ∈ _, ∃ _ ∈ _, (_ : ℕ) = _
    decide +kernel
  · show ∀ x : Party × Sealed, x ∈ _ → _ → ¬ x.2.frame.linkId = 2
    decide +kernel
  · decide +kernel
  · show ∃ t ∈ _, ∃ _ ∈ _, (_ : ℕ) = _
    decide +kernel
  · show ∀ x : Party × Sealed, x ∈ _ → _ → ¬ ∀ t : BondingTunnel ℚ, t ∈ (_ : Option _) →
      x.2.frame.sessionId = t.sessionId
    decide +kernel
  · decide +kernel
  · show (_ : ℕ) = _
    decide +kernel
  · show ∀ x : Party × Sealed, x ∈ _ → _ → ¬ x.1 ≠ Party.server
    decide +kernel

end Turbobond.Bond.System
