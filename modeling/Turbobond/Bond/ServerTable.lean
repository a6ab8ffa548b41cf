import Turbobond.Bond.Server
import Turbobond.Bond.Replay

/-!
# The concentrator's table of links

`peer? sid lid` is the link a server knows under a session and a link id.  What each step
does to the table is said here once: a genuine datagram touches the one entry it names, a
downstream packet the entry it is sent over, the reaper drops entries, and a tick none.
-/

namespace Turbobond.Bond.ConcentratorServer

variable {s : ConcentratorServer}

/-- The link known under a session id and a link id. -/
def peer? (s : ConcentratorServer) (sid lid : ℕ) : Option PeerLink :=
  (s.sessions.get? sid).bind fun session => session.links.get? lid

@[simp] lemma peer?_tally (sid lid : ℕ) : s.tally.peer? sid lid = s.peer? sid lid := rfl

@[simp] lemma rejected_tally : s.tally.rejected = s.rejected := rfl

/-- Sessions and links are stored under their own ids. -/
structure Keyed (s : ConcentratorServer) : Prop where
  session : ∀ sid x, s.sessions.get? sid = some x → x.sessionId = sid
  peer : ∀ sid lid p, s.peer? sid lid = some p → p.linkId = lid

lemma keyed_of_empty (h : s.sessions = Dict.empty) : Keyed s :=
  ⟨by simp [h], by simp [peer?, h]⟩

/-! ### Looking up after storing -/

lemma peer?_store (session : Session) (peer : PeerLink) (sid lid : ℕ) :
    (s.store session peer).peer? sid lid =
      if sid = session.sessionId then
        if lid = peer.linkId then some peer else session.links.get? lid
      else s.peer? sid lid := by
  simp only [store, peer?, Dict.get?_set]
  split
  · simp only [Option.bind_some, Dict.get?_set]
  · rfl

lemma get?_store (session : Session) (peer : PeerLink) (sid : ℕ) :
    (s.store session peer).sessions.get? sid =
      if sid = session.sessionId then
        some { session with links := session.links.set peer.linkId peer }
      else s.sessions.get? sid := by
  simp only [store, Dict.get?_set]

lemma peer?_of_session {sid : ℕ} {x : Session} (h : s.sessions.get? sid = some x) (lid : ℕ) :
    s.peer? sid lid = x.links.get? lid := by
  rw [peer?, h, Option.bind_some]

lemma Keyed.store {session : Session} {peer : PeerLink} (h : Keyed s)
    (hl : ∀ lid p, session.links.get? lid = some p → p.linkId = lid) :
    Keyed (s.store session peer) := by
  constructor
  · intro sid x hx
    rw [get?_store] at hx
    split at hx
    · rename_i hsid
      obtain rfl := Option.some.inj hx
      exact hsid.symm
    · exact h.session sid x hx
  · intro sid lid p hp
    rw [peer?_store] at hp
    split at hp
    · split at hp
      · rename_i hlid
        obtain rfl := Option.some.inj hp
        exact hlid.symm
      · exact hl lid p hp
    · exact h.peer sid lid p hp

section SessionFor

variable (sid lid : ℕ) (addr : Addr) (now : Clock)

lemma links_sessionFor : (s.sessionFor sid now).links.get? lid = s.peer? sid lid := by
  rw [sessionFor, peer?]
  cases s.sessions.get? sid <;> simp

lemma Keyed.sessionId_sessionFor (h : Keyed s) : (s.sessionFor sid now).sessionId = sid := by
  rw [sessionFor]
  cases hx : s.sessions.get? sid with
  | none => rfl
  | some x => exact h.session sid x hx

/-- The link a datagram is for: the one known, at its new address, or a new one. -/
lemma peerFor_eq : s.peerFor (s.sessionFor sid now) lid addr now =
    { (s.peer? sid lid).getD { linkId := lid, addr, lastSeen := now.wall, ident := s.handled } with
      addr } := by
  rw [peerFor, links_sessionFor]

lemma Keyed.linkId_peerFor (h : Keyed s) :
    (s.peerFor (s.sessionFor sid now) lid addr now).linkId = lid := by
  rw [peerFor_eq]
  cases hp : s.peer? sid lid with
  | none => rfl
  | some p => exact h.peer sid lid p hp

end SessionFor

/-! ### Sending -/

/-- The frame `_send` seals. -/
def outFrame (session : Session) (peer : PeerLink) (frameType : FrameType) (seq : ℕ)
    (payload : Bytes) : Frame :=
  { type := frameType, sessionId := session.sessionId, linkId := peer.linkId
    counter := peer.counter + 1, seq, payload }

/-- What `_send` does: nothing without a transport; else it uses up a counter, and seals and
sends the frame unless `encode_frame` raises. -/
lemma send_cases (s : ConcentratorServer) (session : Session) (peer : PeerLink) (t : FrameType)
    (seq : ℕ) (payload : Bytes) (sendOk : Bool) :
    (s.transport = false ∧ s.send session peer t seq payload sendOk = ([], peer)) ∨
      (s.transport = true ∧ ∃ tx out,
        s.send session peer t seq payload sendOk =
          (out, { peer with counter := peer.counter + 1, txPackets := tx }) ∧
        ((∃ e, encodeFrame s.sealer (outFrame session peer t seq payload) = .error e ∧
            out = [.raise e]) ∨
          ∃ d, encodeFrame s.sealer (outFrame session peer t seq payload) = .ok d ∧
            out = [.send ⟨peer.ident, session.ident, outFrame session peer t seq payload, d,
              peer.addr⟩])) := by
  cases htr : s.transport with
  | false => exact Or.inl ⟨rfl, by simp [send, htr]⟩
  | true =>
    refine Or.inr ⟨rfl, ?_⟩
    have hframe : encodeFrame s.sealer
        { type := t, sessionId := session.sessionId, linkId := peer.linkId
          counter := peer.counter + 1, seq, payload } =
        encodeFrame s.sealer (outFrame session peer t seq payload) := rfl
    simp only [send, htr, PeerLink.nextCounter, Bool.not_true, Bool.false_eq_true, if_false, hframe]
    cases henc : encodeFrame s.sealer (outFrame session peer t seq payload) with
    | error e => exact ⟨_, _, rfl, Or.inl ⟨e, rfl, rfl⟩⟩
    | ok d =>
      refine ⟨if sendOk then peer.txPackets + 1 else peer.txPackets, _, ?_, Or.inr ⟨d, rfl, rfl⟩⟩
      cases sendOk <;> rfl

/-- Sending leaves everything about the link but its counters as it was. -/
lemma send_snd (s : ConcentratorServer) (session : Session) (peer : PeerLink) (t : FrameType)
    (seq : ℕ) (payload : Bytes) (sendOk : Bool) :
    ∃ c tx, (s.send session peer t seq payload sendOk).2 =
      { peer with counter := c, txPackets := tx } := by
  rcases s.send_cases session peer t seq payload sendOk with ⟨-, h⟩ | ⟨-, tx, out, h, -⟩
  · exact ⟨_, _, congrArg Prod.snd h⟩
  · exact ⟨_, _, congrArg Prod.snd h⟩

/-! ### A genuine datagram -/

/-- The answer to a control frame. -/
def reply (s : ConcentratorServer) (session : Session) (peer : PeerLink) (frame : Frame)
    (sendOk : Bool) : List Effect × PeerLink :=
  match frame.type with
  | .handshake => s.sendControl session peer .handshakeAck sendOk
  | .keepalive => s.sendControl session peer .keepalive sendOk
  | _ => ([], peer)

/-- What the reorder buffer makes of a frame. -/
def resequence (session : Session) (frame : Frame) (now : Clock) :
    List (ℤ × Bytes) × ReorderBuffer Bytes :=
  if frame.type = .data ∧ frame.payload ≠ [] then
    session.reorder.push frame.seq frame.payload now.mono
  else ([], session.reorder)

lemma reply_snd (s : ConcentratorServer) (session : Session) (peer : PeerLink) (frame : Frame)
    (sendOk : Bool) : ∃ c tx, (s.reply session peer frame sendOk).2 =
      { peer with counter := c, txPackets := tx } := by
  rw [reply]
  split
  · exact s.send_snd session peer _ _ _ sendOk
  · exact s.send_snd session peer _ _ _ sendOk
  · exact ⟨_, _, rfl⟩

/-- A frame that does not close its link is answered or resequenced, and both the session and
the link are kept. -/
lemma handleFrame_eq {session : Session} {peer : PeerLink} {frame : Frame}
    (h : frame.type ≠ .close) (now : Clock) (sendOk : Bool) :
    s.handleFrame session peer frame now sendOk =
      ((s.reply session peer frame sendOk).1 ++
          (resequence session frame now).1.map fun e => .write session.sessionId e.2,
        s.store { session with reorder := (resequence session frame now).2 }
          (s.reply session peer frame sendOk).2) := by
  cases ht : frame.type with
  | close => exact absurd ht h
  | data =>
    by_cases hp : frame.payload = []
    · simp [handleFrame, reply, resequence, ht, hp]
    · simp [handleFrame, reply, resequence, ht, hp]
  | keepalive => simp [handleFrame, reply, resequence, ht]
  | handshake => simp [handleFrame, reply, resequence, ht]
  | handshakeAck => simp [handleFrame, reply, resequence, ht]
  | linkStats => simp [handleFrame, reply, resequence, ht]

/-- The link a genuine datagram arrives on. -/
def arrival (s : ConcentratorServer) (f : Frame) (addr : Addr) (now : Clock) : PeerLink :=
  s.peerFor (s.sessionFor f.sessionId now) f.linkId addr now

/-- The link once the datagram's counter has been recorded. -/
def recorded (s : ConcentratorServer) (f : Frame) (addr : Addr) (now : Clock) : PeerLink :=
  { s.arrival f addr now with
    replay := ((s.arrival f addr now).replay.checkAndUpdate f.counter).2
    lastSeen := now.wall
    rxPackets := (s.arrival f addr now).rxPackets + 1 }

lemma Keyed.linkId_arrival (h : Keyed s) (f : Frame) (addr : Addr) (now : Clock) :
    (s.arrival f addr now).linkId = f.linkId := h.linkId_peerFor _ _ _ _

lemma Keyed.linkId_recorded (h : Keyed s) (f : Frame) (addr : Addr) (now : Clock) :
    (s.recorded f addr now).linkId = f.linkId := h.linkId_arrival f addr now

/-- What `handle_datagram` does: it turns away what does not decode; it stores the link, and
nothing else, when the replay window covers the counter; and otherwise it takes the frame. -/
theorem handleDatagram_cases (s : ConcentratorServer) (data : Bytes) (addr : Addr) (now : Clock)
    (sendOk : Bool) :
    (decodeFrame s.sealer data = none ∧ s.handleDatagram data addr now sendOk =
      ([], { s with
        rejected := s.rejected + 1, rejectedSources := insert addr.1 s.rejectedSources })) ∨
    ∃ f, decodeFrame s.sealer data = some f ∧
      (((s.arrival f addr now).replay.Covers f.counter ∧
          s.handleDatagram data addr now sendOk =
            ([], { s.tally.store
                (s.sessionFor f.sessionId now) (s.arrival f addr now) with
              rejected := s.rejected + 1 })) ∨
        (¬ (s.arrival f addr now).replay.Covers f.counter ∧
          s.handleDatagram data addr now sendOk =
            s.tally.handleFrame
              (s.sessionFor f.sessionId now) (s.recorded f addr now) f now sendOk)) := by
  cases hdec : decodeFrame s.sealer data with
  | none => exact Or.inl ⟨rfl, by simp only [handleDatagram, hdec]⟩
  | some f =>
    refine Or.inr ⟨f, rfl, ?_⟩
    simp only [handleDatagram, hdec, recorded, arrival]
    rcases (s.peerFor (s.sessionFor f.sessionId now) f.linkId addr now).replay.checkAndUpdate_cases
      f.counter with ⟨hcov, heq⟩ | ⟨hcov, heq⟩
    · exact Or.inl ⟨hcov, by rw [heq]; rfl⟩
    · refine Or.inr ⟨hcov, ?_⟩
      rw [heq]
      rfl

/-- The table after a frame has been taken: only the entry it names is touched. -/
lemma peer?_handleFrame {session : Session} {peer : PeerLink} {frame : Frame}
    (hsid : session.sessionId = frame.sessionId) (hlid : peer.linkId = frame.linkId)
    (hlinks : ∀ lid, session.links.get? lid = s.peer? frame.sessionId lid) (now : Clock)
    (sendOk : Bool) (sid lid : ℕ) :
    (s.handleFrame session peer frame now sendOk).2.peer? sid lid =
      if sid = frame.sessionId ∧ lid = frame.linkId then
        if frame.type = .close then none else some (s.reply session peer frame sendOk).2
      else s.peer? sid lid := by
  by_cases ht : frame.type = .close
  · rw [if_pos ht]
    simp only [handleFrame, ht]
    have herase : ∀ lid', (session.links.erase frame.linkId).get? lid' =
        if lid' = frame.linkId then none else s.peer? frame.sessionId lid' := by
      intro lid'
      rw [Dict.get?_erase, hlinks]
    split
    · -- the last link is gone, and the session with it
      rename_i hsize
      have hnone := Dict.get?_of_size_eq_zero hsize lid
      rw [herase] at hnone
      simp only [peer?, Dict.get?_erase]
      by_cases hs : sid = frame.sessionId
      · subst hs
        rw [if_pos rfl, Option.bind_none]
        by_cases hl : lid = frame.linkId
        · rw [if_pos ⟨rfl, hl⟩]
        · rw [if_neg hl] at hnone
          rw [if_neg (fun h => hl h.2)]
          exact hnone.symm
      · rw [if_neg hs, if_neg (fun h => hs h.1)]
    · simp only [peer?, Dict.get?_set]
      by_cases hs : sid = frame.sessionId
      · subst hs
        rw [if_pos rfl, Option.bind_some, herase]
        by_cases hl : lid = frame.linkId
        · rw [if_pos hl, if_pos ⟨rfl, hl⟩]
        · rw [if_neg hl, if_neg (fun h => hl h.2)]
          rfl
      · rw [if_neg hs, if_neg (fun h => hs h.1)]
  · rw [if_neg ht, handleFrame_eq ht]
    obtain ⟨c, tx, hreply⟩ := s.reply_snd session peer frame sendOk
    have hlid' : (s.reply session peer frame sendOk).2.linkId = frame.linkId := by
      rw [hreply]
      exact hlid
    simp only [peer?_store, hsid, hlid', hlinks]
    by_cases hs : sid = frame.sessionId
    · subst hs
      by_cases hl : lid = frame.linkId <;> simp [hl]
    · simp [hs]

/-- A datagram touches no link but the one it names. -/
lemma Keyed.peer?_handleDatagram_of_ne (h : Keyed s) {data : Bytes} {f : Frame}
    (hdec : decodeFrame s.sealer data = some f) (addr : Addr) (now : Clock) (sendOk : Bool)
    {sid lid : ℕ} (hne : ¬ (sid = f.sessionId ∧ lid = f.linkId)) :
    (s.handleDatagram data addr now sendOk).2.peer? sid lid = s.peer? sid lid := by
  have hsid := h.sessionId_sessionFor f.sessionId now
  rcases s.handleDatagram_cases data addr now sendOk with
    ⟨hdec', -⟩ | ⟨f', hdec', ⟨-, heq⟩ | ⟨-, heq⟩⟩
  · exact absurd (hdec.symm.trans hdec') (by simp)
  · obtain rfl := Option.some.inj (hdec.symm.trans hdec')
    have hstore := peer?_store (s := s.tally) (s.sessionFor f.sessionId now) (s.arrival f addr now)
      sid lid
    rw [hsid, h.linkId_arrival, links_sessionFor] at hstore
    rw [heq]
    refine hstore.trans ?_
    by_cases hs : sid = f.sessionId
    · subst hs
      rw [if_pos rfl, if_neg fun hl => hne ⟨rfl, hl⟩]
    · rw [if_neg hs]
      rfl
  · obtain rfl := Option.some.inj (hdec.symm.trans hdec')
    rw [heq, peer?_handleFrame (s := s.tally) hsid (h.linkId_recorded f addr now)
      (fun lid => links_sessionFor f.sessionId lid now) now sendOk sid lid, if_neg hne]
    rfl

/-- Taking a frame changes nothing but the sessions. -/
lemma handleFrame_snd (s : ConcentratorServer) (session : Session) (peer : PeerLink)
    (frame : Frame) (now : Clock) (sendOk : Bool) :
    ∃ sessions, (s.handleFrame session peer frame now sendOk).2 = { s with sessions } := by
  by_cases ht : frame.type = .close
  · simp only [handleFrame, ht]
    split
    · exact ⟨_, rfl⟩
    · exact ⟨_, rfl⟩
  · rw [handleFrame_eq ht]
    exact ⟨_, rfl⟩

/-! ### Downstream packets, ticks and the reaper -/

lemma dispatchLoop_cases (s : ConcentratorServer) (packet : Bytes) (now : Time) (sendOk : Bool)
    (sessions : List Session) :
    s.dispatchLoop packet now sendOk sessions = ([], s) ∨
      ∃ x ∈ sessions, ∃ p ∈ x.liveLinks now, ∃ x' : Session,
        x' = { x with cursor := x.cursor + 1, seq := x.seq + 1 } ∧
        s.dispatchLoop packet now sendOk sessions =
          ((s.send x' p .data (x.seq + 1) packet sendOk).1,
            s.store x' (s.send x' p .data (x.seq + 1) packet sendOk).2) := by
  induction sessions with
  | nil => exact Or.inl rfl
  | cons x rest ih =>
    cases hpick : (x.liveLinks now)[x.cursor % (x.liveLinks now).length]? with
    | none =>
      have heq : s.dispatchLoop packet now sendOk (x :: rest) =
          s.dispatchLoop packet now sendOk rest := by
        simp only [dispatchLoop, Session.pickReturnLink, hpick]
      rw [heq]
      rcases ih with h | ⟨y, hy, h⟩
      · exact Or.inl h
      · exact Or.inr ⟨y, List.mem_cons_of_mem _ hy, h⟩
    | some p =>
      refine Or.inr ⟨x, List.mem_cons_self, p, List.mem_of_getElem? hpick, _, rfl, ?_⟩
      simp only [dispatchLoop, Session.pickReturnLink, hpick, Session.nextSeq]

/-- What `_dispatch_downstream` does: nothing when no session has a live link; otherwise it
sends the packet, under the next sequence number of one session, over a live link of it. -/
theorem dispatchDownstream_cases (h : Keyed s) (packet : Bytes) (now : Time) (sendOk : Bool) :
    s.dispatchDownstream packet now sendOk = ([], s) ∨
      ∃ x x' p, s.sessions.get? x.sessionId = some x ∧
        s.peer? x.sessionId p.linkId = some p ∧ p.alive now = true ∧
        x' = { x with cursor := x.cursor + 1, seq := x.seq + 1 } ∧
        s.dispatchDownstream packet now sendOk =
          ((s.send x' p .data (x.seq + 1) packet sendOk).1,
            s.store x' (s.send x' p .data (x.seq + 1) packet sendOk).2) := by
  rcases s.dispatchLoop_cases packet now sendOk
    (s.sessions.values.insertionSort fun a b => b.created ≤ a.created) with
    heq | ⟨x, hx, p, hp, x', hx', heq⟩
  · exact Or.inl heq
  · rw [List.mem_insertionSort, Dict.mem_values_iff] at hx
    obtain ⟨sid, hsid⟩ := hx
    obtain rfl := h.session sid x hsid
    obtain ⟨hmem, halive⟩ := List.mem_filter.1 hp
    obtain ⟨lid, hlid⟩ := (Dict.mem_values_iff _ _).1 hmem
    have hpeer := (peer?_of_session hsid lid).trans hlid
    obtain rfl := h.peer x.sessionId lid p hpeer
    exact Or.inr ⟨x, x', p, hsid, hpeer, halive, hx', heq⟩

@[simp] lemma peer?_reorderTick (now : Time) (sid lid : ℕ) :
    (s.reorderTick now).2.peer? sid lid = s.peer? sid lid := by
  simp only [reorderTick, peer?, Dict.get?_mapValues]
  cases s.sessions.get? sid <;> rfl

/-- The reaper only drops links. -/
lemma peer?_reap (now : Time) (sid lid : ℕ) :
    (s.reap now).peer? sid lid = none ∨ (s.reap now).peer? sid lid = s.peer? sid lid := by
  simp only [reap, peer?, Dict.get?_filterValues, Dict.get?_mapValues]
  cases s.sessions.get? sid with
  | none => exact Or.inl rfl
  | some x =>
    rw [Option.map_some, Option.filter_some]
    split
    · rw [Option.bind_some, Dict.get?_filterValues, Option.bind_some]
      cases x.links.get? lid with
      | none => exact Or.inl rfl
      | some p =>
        rw [Option.filter_some]
        split
        · exact Or.inr rfl
        · exact Or.inl rfl
    · exact Or.inl rfl

/-! ### Every step keeps the keys -/

lemma get?_reap (now : Time) {sid : ℕ} {x : Session} (h : (s.reap now).sessions.get? sid = some x) :
    ∃ y links, s.sessions.get? sid = some y ∧ x = { y with links } := by
  simp only [reap, Dict.get?_filterValues, Dict.get?_mapValues, Option.filter_eq_some_iff,
    Option.map_eq_some_iff] at h
  obtain ⟨⟨y, hy, rfl⟩, -⟩ := h
  exact ⟨y, _, hy, rfl⟩

lemma get?_reorderTick (now : Time) (sid : ℕ) :
    (s.reorderTick now).2.sessions.get? sid = (s.sessions.get? sid).map fun session =>
      { session with reorder := (session.reorder.tick now).2 } := by
  rw [reorderTick, Dict.get?_mapValues]

lemma Keyed.handleFrame (h : Keyed s) {session : Session} {peer : PeerLink} {frame : Frame}
    (hsid : session.sessionId = frame.sessionId) (hlid : peer.linkId = frame.linkId)
    (hlinks : ∀ lid, session.links.get? lid = s.peer? frame.sessionId lid) (now : Clock)
    (sendOk : Bool) : Keyed (s.handleFrame session peer frame now sendOk).2 := by
  constructor
  · intro sid x hx
    by_cases ht : frame.type = .close
    · simp only [ConcentratorServer.handleFrame, ht] at hx
      split at hx
      · rw [Dict.get?_erase] at hx
        split at hx
        · exact absurd hx (by simp)
        · exact h.session sid x hx
      · rw [Dict.get?_set] at hx
        split at hx
        · rename_i hs
          obtain rfl := Option.some.inj hx
          exact hsid.trans hs.symm
        · exact h.session sid x hx
    · rw [handleFrame_eq ht, get?_store] at hx
      split at hx
      · rename_i hs
        obtain rfl := Option.some.inj hx
        exact hs.symm
      · exact h.session sid x hx
  · intro sid lid p hp
    rw [peer?_handleFrame hsid hlid hlinks] at hp
    split at hp
    · rename_i hk
      split at hp
      · exact absurd hp (by simp)
      · obtain ⟨c, tx, hreply⟩ := s.reply_snd session peer frame sendOk
        obtain rfl := Option.some.inj hp
        rw [hreply, hk.2]
        exact hlid
    · exact h.peer sid lid p hp

/-- Sessions and links stay under their own ids. -/
theorem Keyed.step (h : Keyed s) (e : Event) : Keyed (s.step e).2 := by
  cases e with
  | datagram data addr now sendOk =>
    have hk : Keyed s.tally :=
      ⟨h.session, h.peer⟩
    rcases s.handleDatagram_cases data addr now sendOk with ⟨-, heq⟩ | ⟨f, -, ⟨-, heq⟩ | ⟨-, heq⟩⟩
    · rw [ConcentratorServer.step, heq]
      exact ⟨h.session, h.peer⟩
    · have hst : Keyed (s.tally.store
          (s.sessionFor f.sessionId now) (s.arrival f addr now)) :=
        hk.store fun lid p hp => h.peer f.sessionId lid p (by rwa [links_sessionFor] at hp)
      rw [ConcentratorServer.step, heq]
      exact ⟨hst.session, hst.peer⟩
    · rw [ConcentratorServer.step, heq]
      exact hk.handleFrame (h.sessionId_sessionFor f.sessionId now) (h.linkId_recorded f addr now)
        (fun lid => links_sessionFor f.sessionId lid now) now sendOk
  | downstream packet now sendOk =>
    rcases dispatchDownstream_cases h packet now sendOk with heq | ⟨x, x', p, hx, hp, -, rfl, heq⟩
    · rw [ConcentratorServer.step, heq]
      exact h
    · rw [ConcentratorServer.step, heq]
      exact h.store fun lid q hq => h.peer x.sessionId lid q ((peer?_of_session hx lid).trans hq)
  | tick now =>
    refine ⟨fun sid x hx => ?_, fun sid lid p hp => ?_⟩
    · rw [ConcentratorServer.step, get?_reorderTick, Option.map_eq_some_iff] at hx
      obtain ⟨y, hy, rfl⟩ := hx
      exact h.session sid y hy
    · rw [ConcentratorServer.step, peer?_reorderTick] at hp
      exact h.peer sid lid p hp
  | reap now =>
    refine ⟨fun sid x hx => ?_, fun sid lid p hp => ?_⟩
    · obtain ⟨y, links, hy, rfl⟩ := get?_reap now hx
      exact h.session sid y hy
    · rcases s.peer?_reap now sid lid with hnone | heq
      · exact absurd (hnone.symm.trans hp) (by simp)
      · exact h.peer sid lid p (heq.symm.trans hp)

lemma step_sealer (s : ConcentratorServer) (e : Event) : (s.step e).2.sealer = s.sealer := by
  cases e with
  | datagram data addr now sendOk =>
    rcases s.handleDatagram_cases data addr now sendOk with ⟨-, heq⟩ | ⟨f, -, ⟨-, heq⟩ | ⟨-, heq⟩⟩
    · rw [step, heq]
    · rw [step, heq]
      rfl
    · obtain ⟨sessions, hs⟩ :=
        s.tally.handleFrame_snd
          (s.sessionFor f.sessionId now) (s.recorded f addr now) f now sendOk
      rw [step, heq, hs]
      rfl
  | downstream packet now sendOk =>
    rcases s.dispatchLoop_cases packet now sendOk
      (s.sessions.values.insertionSort fun a b => b.created ≤ a.created) with
      heq | ⟨x, -, p, -, x', -, heq⟩
    · rw [step, dispatchDownstream, heq]
    · rw [step, dispatchDownstream, heq]
      rfl
  | tick now => rfl
  | reap now => rfl

lemma Keyed.after (h : Keyed s) (events : List Event) : Keyed (s.after events) := by
  induction events using List.reverseRecOn with
  | nil => exact h
  | append_singleton events e ih =>
    rw [after_concat]
    exact ih.step e

lemma keyed_start (sealer : Util.Sealer) (reorderTimeoutMs : ℚ) (events : List Event) :
    Keyed ((start sealer reorderTimeoutMs).after events) :=
  Keyed.after (keyed_of_empty rfl) events

lemma after_sealer (s : ConcentratorServer) (events : List Event) :
    (s.after events).sealer = s.sealer := by
  induction events using List.reverseRecOn with
  | nil => rfl
  | append_singleton events e ih => rw [after_concat, step_sealer, ih]

end Turbobond.Bond.ConcentratorServer
