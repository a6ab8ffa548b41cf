import Turbobond.Bond.ClientReader
import Turbobond.Bond.SelfcheckRuns
import Turbobond.Config.Validate

/-!
# The concentrator's reader

`_tun_reader` of `turbobond/bond/server.py` goes on as long as every packet of its MTU can be sealed:
the links it seals them for have come with datagrams, so their ids fit.
-/

namespace Turbobond.Bond

open Config Links Util

namespace ConcentratorServer

variable {s : ConcentratorServer} {r : TunReader ConcentratorServer} {sealer : Sealer} {mtu : ℤ}

/-- The ids of the links that are known fit on the wire. -/
def Ids (s : ConcentratorServer) : Prop := ∀ sid lid p, s.peer? sid lid = some p → lid < 2 ^ 32

/-- A link becomes known by a datagram, which has four bytes for its id. -/
lemma Ids.step (h : Ids s) (hk : Keyed s) (e : Event) : Ids (s.step e).2 := by
  intro sid lid p hp
  cases e with
  | datagram data addr now sendOk =>
    rw [ConcentratorServer.step] at hp
    cases hdec : decodeFrame s.sealer data with
    | none =>
      rcases s.handleDatagram_cases data addr now sendOk with ⟨-, heq⟩ | ⟨f, hf, -⟩
      · rw [heq] at hp
        exact h sid lid p hp
      · exact absurd (hdec.symm.trans hf) (by simp)
    | some f =>
      by_cases hne : sid = f.sessionId ∧ lid = f.linkId
      · exact hne.2 ▸ (eq_datagram_of_decodeFrame hdec).2.2
      · rw [hk.peer?_handleDatagram_of_ne hdec addr now sendOk hne] at hp
        exact h sid lid p hp
  | downstream packet now sendOk =>
    rw [ConcentratorServer.step] at hp
    rcases dispatchDownstream_cases hk packet now sendOk with heq | ⟨x, x', q, hx, hq, -, rfl, heq⟩
    · rw [heq] at hp
      exact h sid lid p hp
    · obtain ⟨c, tx, hsend⟩ := s.send_snd { x with cursor := x.cursor + 1, seq := x.seq + 1 } q
        .data (x.seq + 1) packet sendOk
      rw [heq, peer?_store, hsend] at hp
      split at hp
      · rename_i hs
        split at hp
        · rename_i hl
          exact hl ▸ h _ _ q hq
        · exact h sid lid p (hs ▸ (peer?_of_session hx lid).trans hp)
      · exact h sid lid p hp
  | tick now =>
    rw [ConcentratorServer.step, peer?_reorderTick] at hp
    exact h sid lid p hp
  | reap now =>
    rcases s.peer?_reap now sid lid with hnone | heq
    · exact absurd (hnone.symm.trans hp) (by simp)
    · exact h sid lid p (heq.symm.trans hp)

/-- The callback moves packets that fit from the device to the queue. -/
lemma drain_cases (h : r.Fits mtu) (rounds : ℕ) :
    ∃ device queue, drain rounds r = { r with device, queue } ∧ (drain rounds r).Fits mtu := by
  induction rounds generalizing r with
  | zero => exact ⟨r.device, r.queue, rfl, h⟩
  | succ rounds ih =>
    rcases hread : r.device.read (r.device.mtu + 128) with ⟨o, device⟩
    obtain ⟨ho, hrx⟩ := h.read hread
    rcases o with - | ⟨- | ⟨b, bs⟩⟩
    · simp only [drain, hread]
      exact ⟨_, _, rfl, hrx, h.2⟩
    · simp only [drain, hread]
      exact ⟨_, _, rfl, hrx, h.2⟩
    · have hqueue : TunReader.Fits mtu { r with
          device, queue := if r.queue.length < queueSize then r.queue ++ [b :: bs] else r.queue } := by
        refine ⟨hrx, fun packet hpacket => ?_⟩
        simp only at hpacket
        split at hpacket
        · rcases List.mem_append.1 hpacket with hold | hnew
          · exact h.2 packet hold
          · exact List.mem_singleton.1 hnew ▸ ho _ rfl
        · exact h.2 packet hpacket
      obtain ⟨device', queue, heq, hfits⟩ := ih hqueue
      simp only [drain, hread]
      exact ⟨device', queue, heq, hfits⟩

/-- What the reader of a concentrator keeps: it goes on, with no packet in hand. -/
structure Reading (sealer : Sealer) (mtu : ℤ) (r : TunReader ConcentratorServer) : Prop where
  sealer_eq : r.state.sealer = sealer
  keyed : Keyed r.state
  ids : Ids r.state
  fits : r.Fits mtu
  goesOn : r.GoesOn sealer []

/-- What may happen around the reader: no packet is longer than the MTU, and the other tasks are
not the reader. -/
def ReaderEvent.Admitted (mtu : ℤ) : ReaderEvent → Prop
  | .arrive packet => (packet.length : ℤ) ≤ mtu
  | .task (.downstream _ _ _) => False
  | _ => True

/-- A packet is sealed for a link that is known, where it is not too long. -/
lemma raised_dispatchDownstream (hk : Keyed s) (hids : Ids s) {packet : Bytes}
    (hp : packet.length ≤ maxPayload) (now : Time) (sendOk : Bool) :
    raised (s.dispatchDownstream packet now sendOk).1 = none ∧
      ∀ sent ∈ sends (s.dispatchDownstream packet now sendOk).1, sent.Carries s.sealer packet := by
  rcases dispatchDownstream_cases hk packet now sendOk with heq | ⟨x, x', p, -, hp', -, -, heq⟩
  · rw [heq]
    exact ⟨rfl, fun sent hsent => absurd hsent List.not_mem_nil⟩
  · rw [heq]
    refine ⟨?_, fun sent hsent => ?_⟩
    · rcases s.send_cases x' p .data (x.seq + 1) packet sendOk with
        ⟨-, hsend⟩ | ⟨-, tx, out, hsend, ⟨e, henc, -⟩ | ⟨d, -, rfl⟩⟩
      · rw [hsend, raised_nil]
      · have hsealed : encodeFrame s.sealer (outFrame x' p .data (x.seq + 1) packet) = .ok _ :=
          encodeFrame_eq_ok_iff.2 ⟨hp, hids _ _ p hp', rfl⟩
        exact absurd (hsealed.symm.trans henc) (by simp)
      · rw [hsend, raised_send]
    · obtain ⟨hframe, henc, -⟩ := sends_send_sealed hsent
      exact ⟨by rw [hframe]; rfl, by rw [hframe]; rfl, henc⟩

namespace Reading

lemma drain (h : Reading sealer mtu r) (rounds : ℕ) :
    Reading sealer mtu (ConcentratorServer.drain rounds r) := by
  obtain ⟨device, queue, heq, hfits⟩ := drain_cases h.fits rounds
  rw [heq] at hfits ⊢
  exact ⟨h.sealer_eq, h.keyed, h.ids, hfits, ⟨h.goesOn.alive, h.goesOn.taken, h.goesOn.carries⟩⟩

lemma takePacket (h : Reading sealer mtu r) (hmtu : mtu ≤ maxPayload) (now : Time) (sendOk : Bool) :
    Reading sealer mtu (ConcentratorServer.takePacket r now sendOk) := by
  rw [ConcentratorServer.takePacket]
  split
  · exact h
  split
  · exact h
  rename_i packet r' hnext
  obtain ⟨hlength, hfits, device, queue, rfl⟩ := h.fits.next hnext
  have hp : packet.length ≤ maxPayload := by exact_mod_cast hlength.trans hmtu
  obtain ⟨hraised, hcarries⟩ := raised_dispatchDownstream h.keyed h.ids hp now sendOk
  simp only [hraised]
  refine ⟨?_, ?_, ?_, hfits, ⟨h.goesOn.alive, ?_, fun x hx => ?_⟩⟩
  · exact (step_sealer r.state (.downstream packet now sendOk)).trans h.sealer_eq
  · exact h.keyed.step (.downstream packet now sendOk)
  · exact h.ids.step h.keyed (.downstream packet now sendOk)
  · have htaken := h.goesOn.taken
    rw [List.append_nil] at htaken
    simp [htaken]
  · rcases List.mem_append.1 hx with hx | hx
    · exact h.goesOn.carries x hx
    · obtain rfl := List.mem_singleton.1 hx
      intro sent hsent
      cases sendOk with
      | true => exact h.sealer_eq ▸ hcarries sent hsent
      | false => exact absurd hsent List.not_mem_nil

/-- What one step keeps. -/
theorem step (h : Reading sealer mtu r) (hmtu : mtu ≤ maxPayload) {e : ReaderEvent}
    (he : e.Admitted mtu) : Reading sealer mtu (readerStep r e) := by
  cases e with
  | arrive packet =>
    exact ⟨h.sealer_eq, h.keyed, h.ids, h.fits.arrive he,
      ⟨h.goesOn.alive, h.goesOn.taken, h.goesOn.carries⟩⟩
  | drain =>
    rw [readerStep]
    split
    · exact h
    · exact h.drain drainRounds
  | take now sendOk => exact h.takePacket hmtu now sendOk
  | task e =>
    exact ⟨(step_sealer r.state e).trans h.sealer_eq, h.keyed.step e, h.ids.step h.keyed e, h.fits,
      ⟨h.goesOn.alive, h.goesOn.taken, h.goesOn.carries⟩⟩

/-- What a run keeps. -/
theorem readerAfter (hmtu : mtu ≤ maxPayload) (events : List ReaderEvent)
    (hevents : ∀ e ∈ events, e.Admitted mtu) (h : Reading sealer mtu r) :
    Reading sealer mtu (ConcentratorServer.readerAfter events r) := by
  induction events generalizing r with
  | nil => exact h
  | cons e events ih =>
    rw [List.forall_mem_cons] at hevents
    exact ih hevents.2 (h.step hmtu hevents.1)

end Reading

/-- A session that has a live link is enough for a packet to be sent. -/
lemma dispatchLoop_of_live {sessions : List Session} {x : Session} (hx : x ∈ sessions) {now : Time}
    (hlive : x.liveLinks now ≠ []) (packet : Bytes) (sendOk : Bool) :
    ∃ y p, (s.dispatchLoop packet now sendOk sessions).1 =
      (s.send y p .data y.seq packet sendOk).1 := by
  induction sessions with
  | nil => exact absurd hx List.not_mem_nil
  | cons y rest ih =>
    cases hpick : (y.liveLinks now)[y.cursor % (y.liveLinks now).length]? with
    | none =>
      have hnil : y.liveLinks now = [] := by
        by_contra hne
        have hpos := List.length_pos_iff.2 hne
        exact absurd (List.getElem?_eq_none_iff.1 hpick) (not_le.2 (Nat.mod_lt _ hpos))
      have hrest : x ∈ rest := (List.mem_cons.1 hx).resolve_left fun heq => hlive (heq ▸ hnil)
      simp only [dispatchLoop, Session.pickReturnLink, hpick]
      exact ih hrest
    | some p =>
      simp only [dispatchLoop, Session.pickReturnLink, hpick, Session.nextSeq]
      exact ⟨{ y with cursor := y.cursor + 1, seq := y.seq + 1 }, p, rfl⟩

/-- A packet that is too long is not sealed. -/
lemma raised_dispatchDownstream_of_long (htransport : s.transport = true) {sid : ℕ} {x : Session}
    (hx : s.sessions.get? sid = some x) {now : Time} (hlive : x.liveLinks now ≠ []) {packet : Bytes}
    (hp : maxPayload < packet.length) (sendOk : Bool) :
    raised (s.dispatchDownstream packet now sendOk).1 ≠ none := by
  have hmem : x ∈ s.sessions.values.insertionSort fun a b => b.created ≤ a.created :=
    (List.mem_insertionSort _).2 ((Dict.mem_values_iff _ _).2 ⟨sid, hx⟩)
  obtain ⟨y, p, hout⟩ := dispatchLoop_of_live (s := s) hmem hlive packet sendOk
  rw [dispatchDownstream, hout]
  rcases s.send_cases y p .data y.seq packet sendOk with
    ⟨hnone, -⟩ | ⟨-, tx, out, hsend, ⟨e, -, rfl⟩ | ⟨d, henc, -⟩⟩
  · exact absurd (hnone.symm.trans htransport) (by simp)
  · rw [hsend, raised_raise]
    exact Option.some_ne_none e
  · exact absurd (encodeFrame_eq_ok_iff.1 henc).1 (not_le.2 hp)

/-- What the dispatch of a packet raises ends the loop. -/
lemma failure_takePacket {r' : TunReader ConcentratorServer} {packet : Bytes}
    (hnext : r.next = some (packet, r')) {now : Time} {sendOk : Bool}
    (hraised : raised (r'.state.dispatchDownstream packet now sendOk).1 ≠ none) :
    (takePacket r now sendOk).failure ≠ none := by
  obtain ⟨e, he⟩ := Option.ne_none_iff_exists'.1 hraised
  rw [takePacket]
  split
  · assumption
  · simp [hnext, he]

/-- A handshake gives a session with a live link. -/
lemma live_of_handshake (sealer : Sealer) (reorderTimeoutMs : ℚ) (addr : Addr) (now : Clock) :
    ∃ x, ((start sealer reorderTimeoutMs).step
        (.datagram (datagram sealer checkFrame) addr now true)).2.sessions.get?
          checkFrame.sessionId = some x ∧ x.liveLinks now.wall ≠ [] := by
  have hk := keyed_start sealer reorderTimeoutMs []
  have hdec : decodeFrame (start sealer reorderTimeoutMs).sealer
      (datagram sealer checkFrame) = some checkFrame :=
    decodeFrame_datagram sealer checkFrame (by decide)
  rcases (start sealer reorderTimeoutMs).handleDatagram_cases
      (datagram sealer checkFrame) addr now true with
    ⟨hnone, -⟩ | ⟨f, hf, ⟨hcov, -⟩ | ⟨-, heq⟩⟩
  · exact absurd (hdec.symm.trans hnone) (by simp)
  · obtain rfl := Option.some.inj (hdec.symm.trans hf)
    have hempty : (start sealer reorderTimeoutMs).window checkFrame.sessionId checkFrame.linkId = {} :=
      rfl
    rw [arrival_replay, hempty] at hcov
    exact absurd hcov (by decide)
  · obtain rfl := Option.some.inj (hdec.symm.trans hf)
    have hpeer := peer?_handleFrame (s := (start sealer reorderTimeoutMs).tally)
      (hk.sessionId_sessionFor checkFrame.sessionId now)
      (hk.linkId_recorded checkFrame addr now)
      (fun lid => links_sessionFor checkFrame.sessionId lid now) now true
      checkFrame.sessionId checkFrame.linkId
    rw [if_pos ⟨rfl, rfl⟩, if_neg (by decide), peer?, Option.bind_eq_some_iff] at hpeer
    obtain ⟨x, hx, hlink⟩ := hpeer
    obtain ⟨c, tx, hreply⟩ := (start sealer reorderTimeoutMs).tally.reply_snd
      ((start sealer reorderTimeoutMs).sessionFor checkFrame.sessionId now)
      ((start sealer reorderTimeoutMs).recorded checkFrame addr now)
      checkFrame true
    have halive : PeerLink.alive ((start sealer reorderTimeoutMs).tally.reply
        ((start sealer reorderTimeoutMs).sessionFor checkFrame.sessionId now)
        ((start sealer reorderTimeoutMs).recorded checkFrame addr now)
        checkFrame true).2 now.wall = true := by
      rw [hreply]
      simp [PeerLink.alive, recorded, sessionIdleTimeoutS]
    refine ⟨x, by rw [step, heq]; exact hx, List.ne_nil_of_mem (List.mem_filter.2 ⟨?_, halive⟩)⟩
    exact (Dict.mem_values_iff _ _).2 ⟨_, hlink⟩

/-- The reader of a concentrator goes on, whatever happens around it. -/
def ReaderGoesOn (sealer : Sealer) (reorderTimeoutMs : ℚ) (mtu : ℤ) : Prop :=
  ∀ (simulated : Bool) (events : List ReaderEvent), (∀ e ∈ events, e.Admitted mtu) →
    (readerAfter events (startReader sealer reorderTimeoutMs mtu simulated)).GoesOn sealer []

lemma readerGoesOn_of_le {reorderTimeoutMs : ℚ} (h : mtu ≤ maxPayload) :
    ReaderGoesOn sealer reorderTimeoutMs mtu := by
  intro simulated events hevents
  have hstart : Reading sealer mtu (startReader sealer reorderTimeoutMs mtu simulated) :=
    ⟨rfl, keyed_start sealer reorderTimeoutMs [], fun sid lid p hp => absurd hp (by
      simp [startReader, start, peer?]), ⟨by simp [startReader], by simp [startReader]⟩,
      ⟨rfl, rfl, by simp [startReader]⟩⟩
  exact (hstart.readerAfter h events hevents).goesOn

/-- A handshake, and a packet that is just too long. -/
lemma le_of_readerGoesOn {reorderTimeoutMs : ℚ} (h : ReaderGoesOn sealer reorderTimeoutMs mtu) :
    mtu ≤ maxPayload := by
  by_contra hlong
  have hlong : (maxPayload : ℤ) < mtu := not_le.1 hlong
  obtain ⟨packet, hlength⟩ : ∃ packet : Bytes, packet.length = maxPayload + 1 :=
    ⟨List.replicate (maxPayload + 1) 0, List.length_replicate⟩
  have hgoes := h true [.task (.datagram (datagram sealer checkFrame) ("127.0.0.1", 50000)
    ⟨0, 0⟩ true), .arrive packet, .take 0 true] (by
      simp only [List.forall_mem_cons, ReaderEvent.Admitted, hlength]
      exact ⟨trivial, by push_cast; omega, trivial, by simp⟩)
  have hstart : (startReader sealer reorderTimeoutMs mtu true).state = start sealer reorderTimeoutMs :=
    rfl
  simp only [readerAfter, List.foldl_cons, List.foldl_nil, readerStep, hstart] at hgoes
  obtain ⟨x, hx, hlive⟩ := live_of_handshake sealer reorderTimeoutMs ("127.0.0.1", 50000) ⟨0, 0⟩
  have htransport := transport_step (start sealer reorderTimeoutMs)
    (.datagram (datagram sealer checkFrame) ("127.0.0.1", 50000) ⟨0, 0⟩ true)
  generalize ((start sealer reorderTimeoutMs).step (.datagram (datagram sealer checkFrame)
    ("127.0.0.1", 50000) ⟨0, 0⟩ true)).2 = s at hgoes hx htransport
  have hlonger : maxPayload < packet.length := by omega
  have hraised := raised_dispatchDownstream_of_long htransport hx hlive hlonger true
  have hnext := TunReader.next_arrive
    (r := { startReader sealer reorderTimeoutMs mtu true with state := s }) rfl rfl packet
  exact failure_takePacket hnext hraised hgoes.alive

end ConcentratorServer

section Both

variable {K : Type} [Field K] [LinearOrder K] [HasSqrt K]

end Both

/-- A client whose MTU leaves no room in a datagram. -/
def jumbo : ConcentratorConfig := { enabled := true, host := "203.0.113.5", tunnelMtu := 1700 }

end Turbobond.Bond
