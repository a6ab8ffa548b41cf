import Turbobond.Bond.TunnelSteps

/-!
# The tunnel's packets

What a step of the tunnel does to the packets on their way, in either direction: nothing, a
call of the reorder buffer, or giving a packet the next number.
-/

set_option linter.unusedSectionVars false

namespace Turbobond.Bond.BondingTunnel

open Links Util

variable {K : Type} [Field K] [LinearOrder K] {t t' : BondingTunnel K}

/-- The call that an event makes of the reorder buffer, if it is let through. -/
def Event.call? (sealer : Sealer) : Event K → Option (ReorderBuffer.Op Bytes)
  | .datagram _ data now =>
    match decodeFrame sealer data with
    | none => none
    | some f =>
      if f.type = .data ∧ f.payload ≠ [] then some (.push f.seq f.payload now.mono) else none
  | .tick now => some (.tick now)
  | _ => none

/-- The calls of `_send_packet` under way in `t'` were under way in `t`. -/
def Carried (t t' : BondingTunnel K) : Prop :=
  ∀ o ∈ t'.sending, ∃ o' ∈ t.sending, o'.seq = o.seq ∧ o'.packet = o.packet

lemma carried_of_subset (h : t'.sending ⊆ t.sending) : Carried t t' :=
  fun o ho => ⟨o, h ho, rfl, rfl⟩

/-- What a step can do to the packets, and what it writes. -/
inductive Turn (t : BondingTunnel K) : Event K → List Effect → BondingTunnel K → Prop
  | rest {e : Event K} {out : List Effect} {t' : BondingTunnel K}
      (hw : writes t.sessionId out = []) (hr : t'.reorder = t.reorder) (hs : t'.seq = t.seq)
      (ho : Carried t t') : Turn t e out t'
  | call {e : Event K} {out : List Effect} {t' : BondingTunnel K} (op : ReorderBuffer.Op Bytes)
      (hop : e.call? t.sealer = some op)
      (hw : writes t.sessionId out = payloads (t.reorder.step op).1)
      (hr : t'.reorder = (t.reorder.step op).2) (hs : t'.seq = t.seq) (ho : Carried t t') :
      Turn t e out t'
  | number {out : List Effect} {t' : BondingTunnel K} (packet : Bytes)
      (hw : writes t.sessionId out = []) (hr : t'.reorder = t.reorder) (hs : t'.seq = t.seq + 1)
      (ho : ∀ o ∈ t'.sending, o ∈ t.sending ∨ o.seq = t.seq + 1 ∧ o.packet = packet) :
      Turn t (.packet packet) out t'

lemma writes_transmit (sid : ℕ) (linkId : ℕ) (ls : LinkSocket K) (ft : FrameType) (seq : ℕ)
    (payload : Bytes) (now : Time) (sendOk : Bool) :
    writes sid (t.transmit linkId ls ft seq payload now sendOk).1 = [] := by
  obtain ⟨out, tx, bytes, ts, heq, ⟨e, -, rfl⟩ | ⟨d, -, rfl⟩⟩ :=
    t.transmit_cases linkId ls ft seq payload now sendOk
  · rw [heq]
    rfl
  · rw [heq]
    rfl

lemma writes_sendControl (sid : ℕ) (linkId : ℕ) (ft : FrameType) (now : Time) (sendOk : Bool) :
    writes sid (t.sendControl linkId ft now sendOk).1 = [] := by
  rw [sendControl]
  split
  · rfl
  · exact writes_transmit sid _ _ _ _ _ _ _

variable [HasSqrt K]

/-- **Packets.**  What a step does to the packets on their way. -/
theorem turn_step (t : BondingTunnel K) (e : Event K) : t.Turn e (t.step e).1 (t.step e).2 := by
  have hsame : ∀ {out : List Effect} {t' : BondingTunnel K}, writes t.sessionId out = [] →
      t'.reorder = t.reorder → t'.seq = t.seq → t'.sending = t.sending → t.Turn e out t' :=
    fun hw hr hs ho => .rest hw hr hs (carried_of_subset (ho ▸ List.Subset.refl _))
  have hcontrol : ∀ linkId ft now sendOk, t.Turn e (t.sendControl linkId ft now sendOk).1
      (t.sendControl linkId ft now sendOk).2 := by
    intro linkId ft now sendOk
    obtain ⟨sockets, h⟩ := t.sendControl_const linkId ft now sendOk
    exact hsame (writes_sendControl _ _ _ _ _) (by rw [h]) (by rw [h]) (by rw [h])
  cases e with
  | start bindable =>
    obtain ⟨scheduler, sockets, bound, h⟩ := foldl_bindLink_const bindable t.scheduler.links t
    simp only [step, start, h]
    split
    · exact hsame rfl rfl rfl rfl
    split
    · exact hsame rfl rfl rfl rfl
    split
    · exact hsame rfl rfl rfl rfl
    · exact hsame rfl rfl rfl rfl
  | handshake linkId now sendOk => exact hcontrol linkId .handshake now sendOk
  | handshakeReply linkId data now =>
    simp only [step, handshakeReply]
    split
    · split
      · exact hsame rfl rfl rfl rfl
      · exact hsame rfl rfl rfl rfl
    · exact hsame rfl rfl rfl rfl
  | packet packet =>
    simp only [step, sendPacket]
    split
    · exact hsame rfl rfl rfl rfl
    · -- the new call is the last of those under way
      refine .number packet rfl rfl rfl fun o ho => ?_
      rcases List.mem_append.1 ho with ho | ho
      · exact Or.inl ho
      · obtain rfl := List.mem_singleton.1 ho
        exact Or.inr ⟨rfl, rfl⟩
  | copy i now sendOk =>
    simp only [step, sendCopy]
    split
    · exact hsame rfl rfl rfl rfl
    · exact .rest rfl rfl rfl (carried_of_subset (List.eraseIdx_subset))
    · rename_i seq packet linkId rest hget
      -- its packet stays under its number, with one link less
      have hcarried : Carried t { t with
          sending := t.sending.set i { seq, packet, links := rest } } := by
        intro o ho
        rcases List.mem_or_eq_of_mem_set ho with ho | rfl
        · exact ⟨o, ho, rfl, rfl⟩
        · exact ⟨_, List.mem_of_getElem? hget, rfl, rfl⟩
      split
      · exact .rest rfl rfl rfl hcarried
      · rename_i ls hls
        obtain ⟨sockets, h⟩ := ({ t with
          sending := t.sending.set i { seq, packet, links := rest } } : BondingTunnel K).transmit_const
            linkId ls .data seq packet now sendOk
        have hw := writes_transmit (t := { t with
          sending := t.sending.set i { seq, packet, links := rest } }) t.sessionId linkId ls .data seq
            packet now sendOk
        rw [h]
        split
        · exact .rest hw rfl rfl fun o ho => hcarried o (List.eraseIdx_subset ho)
        · exact .rest hw rfl rfl hcarried
  | datagram linkId data now =>
    simp only [step, handleDatagram]
    split
    · exact hsame rfl rfl rfl rfl
    split
    · exact hsame rfl rfl rfl rfl
    rename_i f hdec
    split
    · exact hsame rfl rfl rfl rfl
    split
    · -- a packet: the one branch that reaches the buffer
      rename_i hdata
      refine .call (.push f.seq f.payload now.mono) ?_ ?_ rfl rfl
        (carried_of_subset (List.Subset.refl _))
      · simp only [Event.call?, hdec]
        exact if_pos hdata
      · exact (writes_write _ _ _).trans (if_pos rfl)
    split
    · exact hsame rfl rfl rfl rfl
    · exact hsame rfl rfl rfl rfl
  | keepalive linkId now sendOk =>
    obtain ⟨sockets, h⟩ := t.sendControl_const linkId .keepalive now sendOk
    have hw := writes_sendControl (t := t) t.sessionId linkId .keepalive now sendOk
    simp only [step, keepalive, h]
    split
    · exact hsame rfl rfl rfl rfl
    split
    · exact hsame rfl rfl rfl rfl
    split
    · exact hsame hw rfl rfl rfl
    · split
      · exact hsame hw rfl rfl rfl
      · exact hsame hw rfl rfl rfl
  | tick now =>
    exact .call (.tick now) rfl ((writes_write _ _ _).trans (if_pos rfl)) rfl rfl
      (carried_of_subset (List.Subset.refl _))
  | refresh links => exact hsame rfl rfl rfl rfl
  | observe linkId f => exact hsame rfl rfl rfl rfl
  | stop => exact .rest rfl rfl rfl (carried_of_subset (List.nil_subset _))
  | close linkId now sendOk =>
    obtain ⟨sockets, h⟩ := t.sendControl_const linkId .close now sendOk
    have hw := writes_sendControl (t := t) t.sessionId linkId .close now sendOk
    simp only [step, h]
    exact hsame hw rfl rfl rfl
  | clear => exact hsame rfl rfl rfl rfl

end Turbobond.Bond.BondingTunnel
