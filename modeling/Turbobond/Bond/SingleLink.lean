import Turbobond.Bond.Codec
import Turbobond.Bond.TunnelSteps

/-!
# A tunnel with one uplink

Its packets all take the one link, so the `k`-th packet is sealed with sequence number `k`
under counter `k`.
-/

set_option linter.unusedSectionVars false

namespace Turbobond.Bond

open Links Util

variable {K : Type} [Field K] [LinearOrder K] [HasSqrt K]

/-- With a single link, which is usable, every packet takes it, and the links stay. -/
lemma BondScheduler.select_single {s : BondScheduler K} {link : Link K} (hlinks : s.links = [link])
    (hu : link.usable = true) (packetLen : ℕ) (critical : Bool) :
    (s.select packetLen critical).1 = [link] ∧ (s.select packetLen critical).2.links = [link] := by
  have hcand : s.candidates = [link] := by
    rw [candidates, usableLinks, hlinks, List.filter_singleton, List.filter_singleton, hu]
    cases link.tunnelReady
    · simp
    · simp
  have hchoose : s.choose [link] packetLen critical = ([link], s) := if_pos rfl
  simp only [select, hcand, hchoose]
  exact ⟨rfl, hlinks⟩

/-- The frame of the `k`-th packet. -/
def packetFrame (sid k : ℕ) (packet : Bytes) : Frame :=
  { type := .data, sessionId := sid, linkId := 1, counter := k, seq := k, payload := packet }

namespace BondingTunnel

/-- A tunnel with one link, which is up, after `k` packets. -/
structure SingleLink (sealer : Sealer) (sid : ℕ) (t : BondingTunnel K) (k : ℕ) : Prop where
  sealer_eq : t.sealer = sealer
  session : t.sessionId = sid
  seq : t.seq = k
  idle : t.sending = []
  link : ∃ link, t.scheduler.links = [link] ∧ link.linkId = 1 ∧ link.usable = true
  socket : ∃ ls, t.sockets.get? 1 = some ls ∧ ls.link.linkId = 1 ∧ ls.counter = k

/-- A whole call of `_send_packet` with one copy to send. -/
def sendOne (packet : Bytes) : List (Event K) := [.packet packet, .copy 0 0 true, .copy 0 0 true]

/-- `_send_packet` chooses the one link. -/
lemma SingleLink.sendPacket {sealer : Sealer} {sid k : ℕ} {t : BondingTunnel K}
    (h : SingleLink sealer sid t k) (packet : Bytes) :
    ∃ scheduler, (∃ link, scheduler.links = [link] ∧ link.linkId = 1 ∧ link.usable = true) ∧
      t.sendPacket packet = { t with
        scheduler, seq := k + 1, sending := [{ seq := k + 1, packet, links := [1] }] } := by
  obtain ⟨link, hlinks, hid, hu⟩ := h.link
  obtain ⟨hchosen, hlinks'⟩ := BondScheduler.select_single hlinks hu packet.length
    (t.cfg.duplicateCritical && !t.sipPorts.isEmpty && isCriticalPacket packet t.sipPorts)
  refine ⟨_, ⟨link, hlinks', hid, hu⟩, ?_⟩
  simp only [BondingTunnel.sendPacket, hchosen, h.seq, h.idle, List.cons_ne_nil, if_false,
    List.nil_append, List.map_cons, List.map_nil, hid]

/-- A packet is sealed under the next number. -/
lemma SingleLink.sendOne {sealer : Sealer} {sid k : ℕ} {t : BondingTunnel K}
    (h : SingleLink sealer sid t k) {packet : Bytes} (hp : packet.length ≤ maxPayload) :
    SingleLink sealer sid (run (sendOne packet) t).2 (k + 1) ∧
      ∃ sent, (run (sendOne packet) t).1 = [.send sent] ∧
        sent.datagram = datagram sealer (packetFrame sid (k + 1) packet) := by
  obtain ⟨ls, hls, hlid, hcount⟩ := h.socket
  obtain ⟨scheduler, hlink, hpacket⟩ := h.sendPacket packet
  -- the copy is sealed under the next counter
  obtain ⟨out, tx, bytes, ts, htransmit, hout⟩ := BondingTunnel.transmit_cases
    { t with scheduler, seq := k + 1, sending := [{ seq := k + 1, packet, links := [] }] } 1 ls
    .data (k + 1) packet 0 true
  have hframe : outFrame { t with
      scheduler, seq := k + 1, sending := [{ seq := k + 1, packet, links := [] }] } ls .data (k + 1)
        packet = packetFrame sid (k + 1) packet := by
    simp only [outFrame, packetFrame, h.session, hlid, hcount]
  have henc : encodeFrame t.sealer (packetFrame sid (k + 1) packet) =
      .ok (datagram sealer (packetFrame sid (k + 1) packet)) := by
    rw [h.sealer_eq, encodeFrame_eq_ok_iff]
    exact ⟨hp, by norm_num [packetFrame], rfl⟩
  simp only [hframe, henc] at hout
  rcases hout with ⟨e, herr, -⟩ | ⟨d, hd, rfl⟩
  · exact absurd herr (by simp)
  obtain rfl := Except.ok.inj hd
  have hrun : run (BondingTunnel.sendOne packet) t = ([.send ⟨ls.ident, 0,
      packetFrame sid (k + 1) packet, datagram sealer (packetFrame sid (k + 1) packet), t.peer⟩],
      { t with
        scheduler, seq := k + 1, sending := []
        sockets := t.sockets.set 1 { ls with
          counter := ls.counter + 1, txPackets := tx, txBytes := bytes, lastTxTs := ts } }) := by
    simp only [run, BondingTunnel.sendOne, Machine.run_cons, Machine.run_nil, step, hpacket,
      sendCopy, List.getElem?_cons_zero, List.set_cons_zero, hls, htransmit]
    rfl
  rw [hrun]
  refine ⟨⟨h.sealer_eq, h.session, rfl, rfl, hlink, ?_⟩, _, rfl, rfl⟩
  exact ⟨_, Dict.get?_set_self _ _ _, hlid, by rw [← hcount]⟩

end BondingTunnel

end Turbobond.Bond
