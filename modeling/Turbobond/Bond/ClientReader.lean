import Turbobond.Bond.SingleLink
import Turbobond.Bond.TunReader

/-!
# The client's reader

`_tun_reader` of `turbobond/bond/tunnel.py` goes on as long as every packet of the tunnel's MTU can be
sealed and the concentrator's address is well formed; the other tasks of the tunnel do not change that.
-/

set_option linter.unusedSectionVars false

namespace Turbobond.Bond

open Config Links Util

variable {K : Type} [Field K] [LinearOrder K]

namespace BondingTunnel

variable {t : BondingTunnel K} {r : TunReader (BondingTunnel K)}

/-- The ids of the links that have sockets fit on the wire. -/
def Ids (t : BondingTunnel K) : Prop :=
  ∀ l ls, t.sockets.get? l = some ls → ls.link.linkId < 2 ^ 32

lemma Ids.quiet {t' : BondingTunnel K} (h : Ids t) (hq : Quiet t t') : Ids t' := by
  intro l ls' hls'
  obtain ⟨ls, hls, -, -, hid⟩ := hq.socket l ls' hls'
  exact hid ▸ h l ls hls

lemma Ids.set {t' : BondingTunnel K} (h : Ids t) {l : ℕ} {ls : LinkSocket K}
    (hs : t'.sockets = t.sockets.set l ls) (hid : ls.link.linkId < 2 ^ 32) : Ids t' := by
  intro k ls' hls'
  rw [hs, Dict.get?_set] at hls'
  split at hls'
  · obtain rfl := Option.some.inj hls'
    exact hid
  · exact h k ls' hls'

lemma Ids.sendControl (h : Ids t) (linkId : ℕ) (ft : FrameType) (now : Time) (sendOk : Bool) :
    Ids (t.sendControl linkId ft now sendOk).2 := by
  rw [BondingTunnel.sendControl]
  cases hget : t.sockets.get? linkId with
  | none => exact h
  | some ls =>
    obtain ⟨out, tx, bytes, ts, heq, -⟩ := t.transmit_cases linkId ls ft 0 [] now sendOk
    simp only [heq]
    exact h.set rfl (h linkId ls hget)

/-- Binding the links gives sockets to links that are there. -/
lemma ids_foldl_bindLink (bindable : ℕ → Bool) (links : List (Link K))
    (hlinks : ∀ link ∈ links, link.linkId < 2 ^ 32) (h : Ids t) :
    Ids (links.foldl (fun t link => t.bindLink link (bindable link.linkId)) t) := by
  induction links generalizing t with
  | nil => exact h
  | cons link links ih =>
    rw [List.forall_mem_cons] at hlinks
    refine ih hlinks.2 ?_
    have hready : ∀ ready, Ids (t.modifyLink link.linkId fun link => { link with tunnelReady := ready }) :=
      fun ready => h.quiet (t.modifyLink_quiet link.linkId fun _ hid => hid)
    simp only [bindLink]
    split
    · exact h
    split
    · refine Ids.set (hready true) rfl ?_
      exact hlinks.1
    · exact hready false

variable [HasSqrt K]

/-- A tunnel that is started keeps its configuration and its key. -/
lemma start_const (t : BondingTunnel K) (bindable : ℕ → Bool) (hrunning : t.running = false) :
    (t.start bindable).2.cfg = t.cfg ∧ (t.start bindable).2.sealer = t.sealer ∧
      (t.start bindable).2.sending = t.sending ∧
      ((t.start bindable).2.running = true → t.cfg.enabled = true) := by
  obtain ⟨scheduler, sockets, bound, h⟩ := foldl_bindLink_const bindable t.scheduler.links t
  simp only [start, h, hrunning, Bool.false_eq_true, if_false]
  split
  · exact ⟨rfl, rfl, rfl, fun hr => absurd (hrunning.symm.trans hr) (by simp)⟩
  · rename_i henabled
    have henabled : t.cfg.enabled = true := by simpa using henabled
    split
    · exact ⟨rfl, rfl, rfl, fun _ => henabled⟩
    · exact ⟨rfl, rfl, rfl, fun _ => henabled⟩

lemma ids_start (bindable : ℕ → Bool) (hlinks : ∀ link ∈ t.scheduler.links, link.linkId < 2 ^ 32)
    (h : Ids t) : Ids (t.start bindable).2 := by
  have hfold := ids_foldl_bindLink bindable t.scheduler.links hlinks h
  simp only [start]
  split
  · exact h
  split
  · exact h
  split
  · exact hfold
  · exact hfold

/-- A task that is not the reader. -/
def Live.Elsewhere : Live K → Prop
  | .packet _ | .copy _ _ _ => False
  | _ => True

/-- The other tasks leave to the reader what is its own. -/
lemma live_const (t : BondingTunnel K) {e : Live K} (he : e.Elsewhere) :
    ∃ scheduler sockets reorder rxRejected,
      (t.live e).2 = { t with scheduler, sockets, reorder, rxRejected } := by
  cases e with
  | packet packet => exact he.elim
  | copy i now sendOk => exact he.elim
  | handshake linkId now sendOk =>
    obtain ⟨sockets, h⟩ := t.sendControl_const linkId .handshake now sendOk
    exact ⟨_, _, _, _, h⟩
  | handshakeReply linkId data now =>
    simp only [live, step, handshakeReply]
    split
    · split
      · exact ⟨_, _, _, _, rfl⟩
      · exact ⟨_, _, _, _, rfl⟩
    · exact ⟨_, _, _, _, rfl⟩
  | datagram linkId data now =>
    simp only [live, step, handleDatagram]
    split
    · exact ⟨_, _, _, _, rfl⟩
    split
    · exact ⟨_, _, _, _, rfl⟩
    split
    · exact ⟨_, _, _, _, rfl⟩
    split
    · exact ⟨_, _, _, _, rfl⟩
    split
    · exact ⟨_, _, _, _, rfl⟩
    · exact ⟨_, _, _, _, rfl⟩
  | keepalive linkId now sendOk =>
    obtain ⟨sockets, h⟩ := t.sendControl_const linkId .keepalive now sendOk
    simp only [live, step, keepalive, h]
    split
    · exact ⟨_, _, _, _, rfl⟩
    split
    · exact ⟨_, _, _, _, rfl⟩
    split
    · exact ⟨_, _, _, _, rfl⟩
    split
    · exact ⟨_, _, _, _, rfl⟩
    · exact ⟨_, _, _, _, rfl⟩
  | tick now => exact ⟨_, _, _, _, rfl⟩
  | refresh links => exact ⟨_, _, _, _, rfl⟩
  | measure linkId health uplinkMbps downlinkMbps => exact ⟨_, _, _, _, rfl⟩
  | transition linkId state => exact ⟨_, _, _, _, rfl⟩

/-- Nor do they give a socket to another link. -/
lemma Ids.live (h : Ids t) {e : Live K} (he : e.Elsewhere) : Ids (t.live e).2 := by
  cases e with
  | packet packet => exact he.elim
  | copy i now sendOk => exact he.elim
  | handshake linkId now sendOk => exact h.sendControl linkId .handshake now sendOk
  | handshakeReply linkId data now => exact h.quiet (t.handshakeReply_quiet linkId data now)
  | datagram linkId data now => exact h.quiet (t.handleDatagram_quiet linkId data now).1
  | keepalive linkId now sendOk =>
    have hsent := h.sendControl linkId .keepalive now sendOk
    simp only [BondingTunnel.live, step, keepalive]
    split
    · exact h
    split
    · exact h
    split
    · exact hsent
    · rename_i ls hget
      split
      · exact hsent.set rfl (hsent linkId ls hget)
      · exact hsent
  | tick now => exact h.quiet (.of_sockets rfl rfl)
  | refresh links => exact h.quiet (t.refreshLinks_quiet links)
  | measure linkId health uplinkMbps downlinkMbps =>
    exact h.quiet (t.modifyLink_quiet linkId fun _ hid => hid)
  | transition linkId state =>
    have hchanged : Ids (t.modifyLink linkId fun link => { link with state }) :=
      h.quiet (t.modifyLink_quiet linkId fun _ hid => hid)
    exact hchanged.quiet (refreshLinks_quiet _ _)

/-- What `_send_packet` does up to its loop: it drops the packet, or keeps it with its copies. -/
lemma sendPacket_cases (t : BondingTunnel K) (packet : Bytes) :
    (∃ scheduler, t.sendPacket packet =
        { t with scheduler, droppedNoLink := t.droppedNoLink + 1 }) ∨
      ∃ scheduler links, t.sendPacket packet = { t with
        scheduler, seq := t.seq + 1
        sending := t.sending ++ [{ seq := t.seq + 1, packet, links }] } := by
  simp only [sendPacket]
  split
  · exact Or.inl ⟨_, rfl⟩
  · exact Or.inr ⟨_, _, rfl⟩

/-- What a round of its loop does to the only call: nothing for a link without a socket; else it uses
up a counter, and sends the packet unless `encode_frame` raises. -/
lemma sendCopy_cases {seq linkId : ℕ} {packet : Bytes} {rest : List ℕ}
    (h : t.sending = [{ seq, packet, links := linkId :: rest }]) (now : Time) (sendOk : Bool) :
    (t.sockets.get? linkId = none ∧ t.sendCopy 0 now sendOk =
        ([], { t with sending := [{ seq, packet, links := rest }] })) ∨
      ∃ ls ls', t.sockets.get? linkId = some ls ∧ ls'.link = ls.link ∧
        ((∃ e, encodeFrame t.sealer (t.outFrame ls .data seq packet) = .error e ∧
            t.sendCopy 0 now sendOk =
              ([.raise e], { t with sockets := t.sockets.set linkId ls', sending := [] })) ∨
          ∃ d, encodeFrame t.sealer (t.outFrame ls .data seq packet) = .ok d ∧
            t.sendCopy 0 now sendOk =
              ([.send ⟨ls.ident, 0, t.outFrame ls .data seq packet, d, t.peer⟩],
                { t with
                  sockets := t.sockets.set linkId ls'
                  sending := [{ seq, packet, links := rest }] })) := by
  simp only [sendCopy, h, List.getElem?_cons_zero, List.set_cons_zero]
  cases hget : t.sockets.get? linkId with
  | none => exact Or.inl ⟨rfl, rfl⟩
  | some ls =>
    obtain ⟨out, tx, bytes, ts, htransmit, hout⟩ := BondingTunnel.transmit_cases
      { t with sending := [{ seq, packet, links := rest }] } linkId ls .data seq packet now sendOk
    refine Or.inr ⟨ls, { ls with
      counter := ls.counter + 1, txPackets := tx, txBytes := bytes, lastTxTs := ts }, rfl, rfl, ?_⟩
    simp only [htransmit]
    rcases hout with ⟨e, henc, rfl⟩ | ⟨d, henc, rfl⟩
    · exact Or.inl ⟨e, henc, rfl⟩
    · exact Or.inr ⟨d, henc, rfl⟩

/-- The callback moves packets that fit from the device to the queue. -/
lemma drain_cases {mtu : ℤ} (h : r.Fits mtu) (rounds : ℕ) :
    ∃ device queue dropped, drain rounds r =
        { r with device, queue, state := { r.state with droppedNoLink := dropped } } ∧
      (drain rounds r).Fits mtu := by
  induction rounds generalizing r with
  | zero => exact ⟨r.device, r.queue, r.state.droppedNoLink, rfl, h⟩
  | succ rounds ih =>
    rcases hread : r.device.read (r.state.cfg.tunnelMtu + 128) with ⟨o, device⟩
    obtain ⟨ho, hrx⟩ := h.read hread
    rcases o with - | ⟨- | ⟨b, bs⟩⟩
    · simp only [drain, hread]
      exact ⟨_, _, _, rfl, hrx, h.2⟩
    · simp only [drain, hread]
      exact ⟨_, _, _, rfl, hrx, h.2⟩
    · simp only [drain, hread]
      split
      · have hqueue : TunReader.Fits mtu { r with device, queue := r.queue ++ [b :: bs] } := by
          refine ⟨hrx, fun packet hpacket => ?_⟩
          rcases List.mem_append.1 hpacket with hold | hnew
          · exact h.2 packet hold
          · exact List.mem_singleton.1 hnew ▸ ho _ rfl
        obtain ⟨device', queue, dropped, heq, hfits⟩ := ih hqueue
        exact ⟨device', queue, dropped, heq, hfits⟩
      · exact ⟨_, _, _, rfl, hrx, h.2⟩

/-- What the reader of a client keeps: it goes on, with one call of `_send_packet` in hand at most. -/
structure Reading (cfg : ConcentratorConfig) (sealer : Sealer) (r : TunReader (BondingTunnel K)) :
    Prop where
  cfg_eq : r.state.cfg = cfg
  sealer_eq : r.state.sealer = sealer
  enabled : r.state.running = true → cfg.enabled = true
  ids : Ids r.state
  fits : r.Fits cfg.tunnelMtu
  idle : r.state.sending = [] → r.sent = []
  hand : ∀ call ∈ r.state.sending, r.state.sending = [call] ∧ cfg.enabled = true ∧
    (call.packet.length : ℤ) ≤ cfg.tunnelMtu ∧ ∀ sent ∈ r.sent, sent.Carries sealer call.packet
  goesOn : r.GoesOn sealer (r.state.sending.map Outgoing.packet)

/-- A client that is on can seal every packet of its MTU, and its address is well formed. -/
def Sendable (idna : Idna) (cfg : ConcentratorConfig) : Prop :=
  cfg.enabled = true → 0 ≤ cfg.tunnelMtu →
    cfg.tunnelMtu ≤ maxPayload ∧ takesHost idna cfg.host = true ∧ 0 ≤ cfg.port ∧ cfg.port ≤ 65535

/-- What may happen around the reader: no packet is longer than the MTU, and the other tasks are
not the reader. -/
def ReaderEvent.Admitted (mtu : ℤ) : ReaderEvent K → Prop
  | .arrive packet => (packet.length : ℤ) ≤ mtu
  | .task e => e.Elsewhere
  | _ => True

namespace Reading

variable {cfg : ConcentratorConfig} {sealer : Sealer}

lemma drain (h : Reading cfg sealer r) (rounds : ℕ) :
    Reading cfg sealer (BondingTunnel.drain rounds r) := by
  obtain ⟨device, queue, dropped, heq, hfits⟩ := drain_cases h.fits rounds
  rw [heq] at hfits ⊢
  exact ⟨h.cfg_eq, h.sealer_eq, h.enabled, h.ids, hfits, h.idle, h.hand,
    ⟨h.goesOn.alive, h.goesOn.taken, h.goesOn.carries⟩⟩

lemma takePacket (h : Reading cfg sealer r) : Reading cfg sealer (BondingTunnel.takePacket r) := by
  rw [BondingTunnel.takePacket]
  split
  · exact h
  rename_i hfree
  have hrunning : r.state.running = true := by
    by_contra hstopped
    exact hfree (Or.inr (Or.inl (by simpa using hstopped)))
  have hsending : r.state.sending = [] := by
    by_contra hbusy
    exact hfree (Or.inr (Or.inr hbusy))
  have htaken : r.taken = r.handled.map Handled.packet := by
    rw [h.goesOn.taken, hsending, List.map_nil, List.append_nil]
  split
  · exact h
  rename_i packet r' hnext
  obtain ⟨hlength, hfits, device, queue, rfl⟩ := h.fits.next hnext
  rcases r.state.sendPacket_cases packet with ⟨scheduler, heq⟩ | ⟨scheduler, links, heq⟩
  · -- no link takes the packet
    simp only [heq, hsending, if_true]
    refine ⟨h.cfg_eq, h.sealer_eq, h.enabled, h.ids, hfits, fun _ => h.idle hsending,
      fun call hcall => absurd hcall List.not_mem_nil,
      ⟨h.goesOn.alive, ?_, fun x hx => ?_⟩⟩
    · simp [htaken]
    · rcases List.mem_append.1 hx with hx | hx
      · exact h.goesOn.carries x hx
      · obtain rfl := List.mem_singleton.1 hx
        exact fun sent hsent => absurd hsent List.not_mem_nil
  · simp only [heq, hsending, List.nil_append, List.cons_ne_nil, if_false]
    refine ⟨h.cfg_eq, h.sealer_eq, h.enabled, h.ids, hfits, fun hnil => absurd hnil (by simp),
      fun call hcall => ?_, ⟨h.goesOn.alive, ?_, h.goesOn.carries⟩⟩
    · obtain rfl := List.mem_singleton.1 hcall
      refine ⟨rfl, h.enabled hrunning, hlength, fun sent hsent => ?_⟩
      exact absurd (h.idle hsending ▸ hsent) List.not_mem_nil
    · simp [htaken]

/-- A round of `_send_packet`, where the tunnel can seal and address what it sends. -/
lemma copyPacket {idna : Idna} (h : Reading cfg sealer r) (hsend : Sendable idna cfg) (now : Time)
    (delivery : Delivery) : Reading cfg sealer (BondingTunnel.copyPacket idna r now delivery) := by
  cases hsending : r.state.sending with
  | nil =>
    simp only [BondingTunnel.copyPacket, hsending]
    exact h
  | cons call others =>
    obtain ⟨hone, henabled, hlength, hsent⟩ := h.hand call (hsending ▸ List.mem_cons_self)
    obtain rfl : others = [] := (List.cons.inj (hsending.symm.trans hone)).2
    have htaken : r.taken = r.handled.map Handled.packet ++ [call.packet] := by
      rw [h.goesOn.taken, hone, List.map_singleton]
    obtain ⟨seq, packet, links⟩ := call
    cases links with
    | nil =>
      -- the call returns
      have hcopy : r.state.sendCopy 0 now false = ([], { r.state with sending := [] }) := by
        simp only [sendCopy, hone, List.getElem?_cons_zero, List.eraseIdx_cons_zero]
      simp only [BondingTunnel.copyPacket, hone, hcopy]
      refine ⟨h.cfg_eq, h.sealer_eq, h.enabled, h.ids, h.fits, fun _ => rfl,
        fun call hcall => absurd hcall List.not_mem_nil, ⟨h.goesOn.alive, ?_, fun x hx => ?_⟩⟩
      · simp [htaken]
      · rcases List.mem_append.1 hx with hx | hx
        · exact h.goesOn.carries x hx
        · obtain rfl := List.mem_singleton.1 hx
          exact hsent
    | cons linkId rest =>
      have hrest : ∀ sent : List Sealed, (∀ x ∈ sent, x.Carries sealer packet) →
          ∀ sockets, Ids { r.state with sockets } → Reading cfg sealer { r with
            state := { r.state with sockets, sending := [{ seq, packet, links := rest }] }, sent } :=
        fun sent hcarries sockets hids => ⟨h.cfg_eq, h.sealer_eq, h.enabled, hids, h.fits,
          fun hnil => absurd hnil (by simp),
          fun call hcall => by
            obtain rfl := List.mem_singleton.1 hcall
            exact ⟨rfl, henabled, hlength, hcarries⟩,
          ⟨h.goesOn.alive, htaken, h.goesOn.carries⟩⟩
      have hnonneg : 0 ≤ cfg.tunnelMtu := (Int.natCast_nonneg packet.length).trans hlength
      obtain ⟨hmtu, hhost, hport⟩ := hsend henabled hnonneg
      obtain ⟨ok, hdelivered⟩ := sockSendto_ok hhost hport delivery
      rw [← h.cfg_eq] at hdelivered
      simp only [BondingTunnel.copyPacket, hone, hdelivered, Except.toOption, Option.getD_some]
      rcases sendCopy_cases hone now ok with
        ⟨-, hcopy⟩ | ⟨ls, ls', hget, hlink, ⟨e, henc, -⟩ | ⟨d, henc, hcopy⟩⟩
      · -- the link has no socket
        simp only [hcopy, raised_nil, sends_nil, List.append_nil, ite_self]
        exact hrest r.sent hsent _ h.ids
      · have hsealed : encodeFrame r.state.sealer (r.state.outFrame ls .data seq packet) = .ok _ :=
          encodeFrame_eq_ok_iff.2
            ⟨by exact_mod_cast hlength.trans hmtu, h.ids linkId ls hget, rfl⟩
        exact absurd (hsealed.symm.trans henc) (by simp)
      · have hids : Ids { r.state with sockets := r.state.sockets.set linkId ls' } :=
          h.ids.set rfl (hlink ▸ h.ids linkId ls hget)
        simp only [hcopy, raised_send]
        refine hrest _ (fun x hx => ?_) _ hids
        split at hx
        · rcases List.mem_append.1 hx with hx | hx
          · exact hsent x hx
          · obtain rfl := List.mem_singleton.1 hx
            exact ⟨rfl, rfl, h.sealer_eq ▸ henc⟩
        · exact hsent x hx

/-- What one step keeps. -/
theorem step {idna : Idna} (h : Reading cfg sealer r) (hsend : Sendable idna cfg) {e : ReaderEvent K}
    (he : e.Admitted cfg.tunnelMtu) : Reading cfg sealer (readerStep idna r e) := by
  cases e with
  | arrive packet =>
    exact ⟨h.cfg_eq, h.sealer_eq, h.enabled, h.ids, h.fits.arrive he, h.idle, h.hand,
      ⟨h.goesOn.alive, h.goesOn.taken, h.goesOn.carries⟩⟩
  | drain =>
    rw [readerStep]
    split
    · exact h
    · exact h.drain drainRounds
  | take => exact h.takePacket
  | copy now delivery => exact h.copyPacket hsend now delivery
  | task e =>
    have hids := h.ids.live he
    obtain ⟨scheduler, sockets, reorder, rxRejected, heq⟩ := r.state.live_const he
    rw [heq] at hids
    rw [readerStep, heq]
    exact ⟨h.cfg_eq, h.sealer_eq, h.enabled, hids, h.fits, h.idle, h.hand,
      ⟨h.goesOn.alive, h.goesOn.taken, h.goesOn.carries⟩⟩

/-- What a run keeps. -/
theorem readerAfter {idna : Idna} (hsend : Sendable idna cfg) (events : List (ReaderEvent K))
    (hevents : ∀ e ∈ events, e.Admitted cfg.tunnelMtu) (h : Reading cfg sealer r) :
    Reading cfg sealer (BondingTunnel.readerAfter idna events r) := by
  induction events generalizing r with
  | nil => exact h
  | cons e events ih =>
    rw [List.forall_mem_cons] at hevents
    exact ih hevents.2 (h.step hsend hevents.1)

end Reading

variable (cfg : ConcentratorConfig) (sealer : Sealer) (sessionId : ℕ) (sip : Option SipConfig)
  (mode : SchedulerMode)

lemma links_new (links : List (Link K)) :
    (new cfg sealer sessionId links sip mode).scheduler.links = links :=
  scheduler_syncCounters_links { links, mode }

/-- What the reader keeps holds when it starts. -/
lemma reading_start {links : List (Link K)} (hlinks : ∀ link ∈ links, link.linkId < 2 ^ 32)
    (bindable : ℕ → Bool) (simulated : Bool) : Reading cfg sealer
      (startReader (new cfg sealer sessionId links sip mode) bindable simulated) := by
  obtain ⟨hcfg, hsealer, hsending, henabled⟩ :=
    start_const (new cfg sealer sessionId links sip mode) bindable rfl
  have hids : Ids ((new cfg sealer sessionId links sip mode).start bindable).2 := by
    refine ids_start bindable ?_ fun l ls hls => ?_
    · rwa [links_new]
    · exact absurd hls (by simp [new])
  have hnil : (startReader (new cfg sealer sessionId links sip mode) bindable
      simulated).state.sending = [] := hsending
  refine ⟨hcfg, hsealer, henabled, hids, ⟨by simp [startReader], by simp [startReader]⟩,
    fun _ => rfl, fun call hcall => absurd (hnil ▸ hcall) List.not_mem_nil,
    ⟨rfl, ?_, by simp [startReader]⟩⟩
  rw [hnil]
  rfl

/-- An uplink that is up. -/
def lone : Link K := { name := "wan", interface := "wan", linkId := 1, state := .up }

/-- A tunnel over it that has just been started. -/
lemma singleLink_lone (henabled : cfg.enabled = true) :
    SingleLink sealer sessionId
        ((new cfg sealer sessionId [(lone : Link K)] sip mode).start fun _ => true).2 0 ∧
      ((new cfg sealer sessionId [(lone : Link K)] sip mode).start fun _ => true).2.running = true ∧
      ((new cfg sealer sessionId [(lone : Link K)] sip mode).start fun _ => true).2.cfg = cfg := by
  have hlinks := links_new cfg sealer sessionId sip mode [(lone : Link K)]
  have hrunning : (new cfg sealer sessionId [(lone : Link K)] sip mode).running = false := rfl
  have hcfg : (new cfg sealer sessionId [(lone : Link K)] sip mode).cfg = cfg := rfl
  have hup : (lone : Link K).enabled = true := rfl
  simp only [start, hlinks, hrunning, hcfg, henabled, hup, List.foldl_cons, List.foldl_nil, bindLink,
    Bool.false_eq_true, if_false, if_true, Bool.not_true, List.filter_cons, List.filter_nil,
    Bool.and_true, List.cons_ne_nil]
  refine ⟨⟨rfl, rfl, rfl, rfl, ⟨{ lone with tunnelReady := true }, ?_, rfl, rfl⟩, ?_⟩, trivial, rfl⟩
  · simp only [modifyLink, hlinks, List.map_cons, List.map_nil, if_true]
  · exact ⟨_, Dict.get?_set_self _ _ _, rfl, rfl⟩

variable {cfg sealer sessionId sip mode}

/-- After a copy has been sent, the packet could be sealed and the address was well formed. -/
lemma of_copyPacket_alive {idna : Idna} {seq linkId : ℕ} {packet : Bytes} {rest : List ℕ}
    {ls : LinkSocket K} (h : r.state.sending = [{ seq, packet, links := linkId :: rest }])
    (hget : r.state.sockets.get? linkId = some ls) (now : Time)
    (halive : (copyPacket idna r now .sent).failure = none) :
    packet.length ≤ maxPayload ∧ takesHost idna r.state.cfg.host = true ∧
      0 ≤ r.state.cfg.port ∧ r.state.cfg.port ≤ 65535 := by
  simp only [copyPacket, h] at halive
  rcases sendCopy_cases h now ((sockSendto idna r.state.cfg.host r.state.cfg.port
      .sent).toOption.getD false) with
    ⟨hnone, -⟩ | ⟨ls', ls'', -, -, ⟨e, -, hcopy⟩ | ⟨d, henc, hcopy⟩⟩
  · exact absurd (hnone.symm.trans hget) (by simp)
  · simp only [hcopy, raised_raise] at halive
    exact absurd halive (by simp)
  · refine ⟨(encodeFrame_eq_ok_iff.1 henc).1, ?_⟩
    cases hsock : sockSendto idna r.state.cfg.host r.state.cfg.port .sent with
    | error e =>
      simp only [hsock] at hcopy
      simp only [hsock, hcopy, raised_send] at halive
      rw [if_neg (by simp [sends])] at halive
      exact absurd halive (by simp)
    | ok ok => exact of_sockSendto hsock

/-- The reader of a client goes on: whatever the links are, whichever can be bound, and whatever happens
around it. -/
def ReaderGoesOn (K : Type) [Field K] [LinearOrder K] [HasSqrt K] (idna : Idna)
    (cfg : ConcentratorConfig) (sealer : Sealer) (sessionId : ℕ) (sip : Option SipConfig)
    (mode : SchedulerMode) : Prop :=
  ∀ links : List (Link K), (∀ link ∈ links, link.linkId < 2 ^ 32) →
    ∀ (bindable : ℕ → Bool) (simulated : Bool) (events : List (ReaderEvent K)),
      (∀ e ∈ events, e.Admitted cfg.tunnelMtu) →
        ∀ r, r = readerAfter idna events
            (startReader (new cfg sealer sessionId links sip mode) bindable simulated) →
          r.GoesOn sealer (r.state.sending.map Outgoing.packet)

lemma readerGoesOn_of_sendable {idna : Idna} (h : Sendable idna cfg) :
    ReaderGoesOn K idna cfg sealer sessionId sip mode := by
  rintro links hlinks bindable simulated events hevents _ rfl
  have hstart := reading_start cfg sealer sessionId sip mode hlinks bindable simulated
  exact (hstart.readerAfter h events hevents).goesOn

/-- One packet, as long as the MTU lets it be, or just too long. -/
lemma sendable_of_readerGoesOn {idna : Idna}
    (h : ReaderGoesOn K idna cfg sealer sessionId sip mode) : Sendable idna cfg := by
  intro henabled hmtu
  obtain ⟨packet, hlength⟩ : ∃ packet : Bytes, (packet.length : ℤ) = min cfg.tunnelMtu 1601 :=
    ⟨List.replicate (min cfg.tunnelMtu 1601).toNat 0, by rw [List.length_replicate]; omega⟩
  obtain ⟨hlink, hrunning, hcfg⟩ :=
    singleLink_lone (K := K) cfg sealer sessionId sip mode henabled
  obtain ⟨scheduler, -, hpacket⟩ := hlink.sendPacket packet
  obtain ⟨ls, hget, -, -⟩ := hlink.socket
  have hgoes := h [lone] (by simp [lone]) (fun _ => true) true [.arrive packet, .take, .copy 0 .sent]
    (by simp [ReaderEvent.Admitted, hlength]) _ rfl
  generalize hstart : startReader (new cfg sealer sessionId [(lone : Link K)] sip mode)
    (fun _ => true) true = r at hgoes
  have hstate : r.state = ((new cfg sealer sessionId [lone] sip mode).start fun _ => true).2 :=
    hstart ▸ rfl
  have htake : takePacket (r.arrive packet) = { r with
      device := { r.device with rx := [] }, taken := r.taken ++ [packet]
      state := { r.state with
        scheduler, seq := 1, sending := [{ seq := 1, packet, links := [1] }] } } := by
    have hfree : ¬ ((r.arrive packet).failure ≠ none ∨ (r.arrive packet).state.running = false ∨
        (r.arrive packet).state.sending ≠ []) := by
      have hfailure : (r.arrive packet).failure = none := hstart ▸ rfl
      have hrun : (r.arrive packet).state.running = true := (congrArg _ hstate).trans hrunning
      have hidle : (r.arrive packet).state.sending = [] := (congrArg _ hstate).trans hlink.idle
      simp [hfailure, hrun, hidle]
    rw [takePacket, if_neg hfree, TunReader.next_arrive (hstart ▸ rfl) (hstart ▸ rfl)]
    simp only [hstate, hpacket, List.cons_ne_nil, if_false]
  have halive := hgoes.alive
  simp only [readerAfter, List.foldl_cons, List.foldl_nil, readerStep, htake] at halive
  obtain ⟨hle, hhost, hport⟩ := of_copyPacket_alive rfl (hstate ▸ hget) 0 halive
  have hcfg' : r.state.cfg = cfg := (congrArg _ hstate).trans hcfg
  simp only [hcfg'] at hhost hport
  rw [maxPayload] at hle ⊢
  exact ⟨by omega, hhost, hport⟩

end BondingTunnel

end Turbobond.Bond
