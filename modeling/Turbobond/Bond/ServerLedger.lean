import Turbobond.Bond.ServerTable

/-!
# The concentrator's counters

A step of the concentrator seals at most one datagram, for one link, whose counter it moves
on by one.  Links are numbered by the datagrams that made them, so the links of a
concentrator are a ledger in the sense of `Lib/Ledger.lean`.
-/

namespace Turbobond.Bond.ConcentratorServer

variable {s s' : ConcentratorServer} {out : List Effect}

/-- The link numbered `id` is known under the link id `l` and has reached `c`. -/
def Counting (s : ConcentratorServer) (id l c : ℕ) : Prop :=
  ∃ sid p, s.peer? sid l = some p ∧ p.ident = id ∧ p.counter = c

/-- No two links have one number. -/
structure Numbered (s : ConcentratorServer) : Prop where
  lt : ∀ sid lid p, s.peer? sid lid = some p → p.ident < s.handled
  inj : ∀ sid lid sid' lid' p p', s.peer? sid lid = some p → s.peer? sid' lid' = some p' →
    p.ident = p'.ident → sid = sid' ∧ lid = lid'

/-- What a step hands out, as a step of the ledger. -/
def Hands (s : ConcentratorServer) (out : List Effect) (s' : ConcentratorServer) : Prop :=
  LedgerStep s.Counting (s.handled ≤ ·) ((sends out).map Sealed.entry) (Lost out) s'.Counting
    (s'.handled ≤ ·)

/-- The link a step works on: the one known, or a new one. -/
def Works (s : ConcentratorServer) (sid lid : ℕ) (p : PeerLink) (handled' : ℕ) : Prop :=
  (∃ q, s.peer? sid lid = some q ∧ q.ident = p.ident ∧ q.counter = p.counter) ∨
    s.peer? sid lid = none ∧ p.ident = s.handled ∧ p.counter = 0 ∧ s.handled < handled'

/-- A link that sends at most one datagram: its counter stays and nothing goes out, or it
moves on by one and the datagram has the new count, unless it could not be sealed. -/
def Moves (p q : PeerLink) (out : List Effect) : Prop :=
  q.counter = p.counter ∧ sends out = [] ∨
    q.counter = p.counter + 1 ∧
      ((sends out).map Sealed.entry = [⟨p.ident, p.linkId, p.counter + 1⟩] ∨
        sends out = [] ∧ Lost out)

lemma Moves.sends_eq {p q : PeerLink} (h : Moves p q out) :
    sends out = [] ∨ (sends out).map Sealed.entry = [⟨p.ident, p.linkId, p.counter + 1⟩] := by
  rcases h with ⟨-, hnil⟩ | ⟨-, hone | ⟨hnil, -⟩⟩
  · exact Or.inl hnil
  · exact Or.inr hone
  · exact Or.inl hnil

/-- What is put out besides and seals nothing does not move the link. -/
lemma Moves.append {p q : PeerLink} (h : Moves p q out) {out' : List Effect}
    (hnil : sends out' = []) : Moves p q (out ++ out') := by
  rw [Moves, sends_append, hnil, List.append_nil]
  rcases h with h | ⟨hc, hone | ⟨hnil, e, he⟩⟩
  · exact Or.inl h
  · exact Or.inr ⟨hc, Or.inl hone⟩
  · exact Or.inr ⟨hc, Or.inr ⟨hnil, e, List.mem_append_left _ he⟩⟩

namespace Works

variable {sid lid n : ℕ} {p : PeerLink}

lemma source (h : s.Works sid lid p n) :
    Source s.Counting (s.handled ≤ ·) p.ident lid p.counter := by
  rcases h with ⟨q, hq, hid, hc⟩ | ⟨-, hid, hc, -⟩
  · exact Or.inl ⟨sid, q, hq, hid, hc⟩
  · exact Or.inr ⟨hid.ge, hc⟩

lemma ident_lt (h : s.Works sid lid p n) (hn : Numbered s) (hle : s.handled ≤ n) :
    p.ident < n := by
  rcases h with ⟨q, hq, hid, -⟩ | ⟨-, hid, -, hlt⟩
  · rw [← hid]
    exact (hn.lt sid lid q hq).trans_le hle
  · rwa [hid]

/-- No other link has the number of the one a step works on. -/
lemma eq_of_ident (h : s.Works sid lid p n) (hn : Numbered s) {sid' lid' : ℕ} {q : PeerLink}
    (hq : s.peer? sid' lid' = some q) (hid : q.ident = p.ident) : sid' = sid ∧ lid' = lid := by
  rcases h with ⟨q', hq', hid', -⟩ | ⟨-, hid', -, -⟩
  · exact hn.inj sid' lid' sid lid q q' hq hq' (hid.trans hid'.symm)
  · have := hn.lt sid' lid' q hq
    omega

end Works

/-- Working on one link gives no link the number of another. -/
lemma Numbered.of_works (hn : Numbered s) {sid lid : ℕ} {p : PeerLink} {o : Option PeerLink}
    (hp : s.Works sid lid p s'.handled) (hle : s.handled ≤ s'.handled)
    (htable : ∀ sid' lid', s'.peer? sid' lid' =
      if sid' = sid ∧ lid' = lid then o else s.peer? sid' lid')
    (ho : ∀ q, o = some q → q.ident = p.ident) : Numbered s' where
  lt := by
    intro sid' lid' q hq
    rw [htable] at hq
    split at hq
    · rw [ho q hq]
      exact hp.ident_lt hn hle
    · exact (hn.lt sid' lid' q hq).trans_le hle
  inj := by
    intro sid₁ lid₁ sid₂ lid₂ q₁ q₂ h₁ h₂ hid
    rw [htable] at h₁ h₂
    split at h₁ <;> split at h₂
    · rename_i hk₁ hk₂
      exact ⟨hk₁.1.trans hk₂.1.symm, hk₁.2.trans hk₂.2.symm⟩
    · rename_i hk₁ _
      have hk₂ := hp.eq_of_ident hn h₂ (by rw [← hid, ho q₁ h₁])
      exact ⟨hk₁.1.trans hk₂.1.symm, hk₁.2.trans hk₂.2.symm⟩
    · rename_i _ hk₂
      have hk₁ := hp.eq_of_ident hn h₁ (by rw [hid, ho q₂ h₂])
      exact ⟨hk₁.1.trans hk₂.1.symm, hk₁.2.trans hk₂.2.symm⟩
    · exact hn.inj sid₁ lid₁ sid₂ lid₂ q₁ q₂ h₁ h₂ hid

/-- A step that works on one link, hands out its next number or none, and leaves every other
link alone. -/
lemma hands_of_works (hn : Numbered s) {sid lid : ℕ} {p : PeerLink} {o : Option PeerLink}
    (hlid : p.linkId = lid) (hp : s.Works sid lid p s'.handled) (hle : s.handled ≤ s'.handled)
    (htable : ∀ sid' lid', s'.peer? sid' lid' =
      if sid' = sid ∧ lid' = lid then o else s.peer? sid' lid')
    (hnone : o = none → sends out = [])
    (ho : ∀ q, o = some q → q.ident = p.ident ∧ Moves p q out) :
    Hands s out s' ∧ Numbered s' := by
  subst hlid
  have hout : sends out = [] ∨
      (sends out).map Sealed.entry = [⟨p.ident, p.linkId, p.counter + 1⟩] := by
    cases o with
    | none => exact Or.inl (hnone rfl)
    | some q => exact (ho q rfl).2.sends_eq
  refine ⟨.single hp.source (hout.imp_left fun h => by rw [h, List.map_nil]) ?_ ?_,
    hn.of_works hp hle htable fun q hq => (ho q hq).1⟩
  · intro id hid
    have := hp.ident_lt hn hle
    exact ⟨hle.trans hid, by omega⟩
  · rintro id l c ⟨sid', q, hq, rfl, rfl⟩
    rw [htable] at hq
    split at hq
    · rename_i hk
      obtain ⟨hid, hmove⟩ := ho q hq
      refine Or.inr ⟨hid, hk.2, ?_⟩
      rcases hmove with ⟨hc, hnil⟩ | ⟨hc, hone | ⟨hnil, hlost⟩⟩
      · exact Or.inl ⟨hc, by rw [hnil, List.map_nil]⟩
      · exact Or.inr ⟨hc, Or.inl hone⟩
      · exact Or.inr ⟨hc, Or.inr ⟨by rw [hnil, List.map_nil], hlost⟩⟩
    · rename_i hk
      exact Or.inl ⟨⟨sid', q, hq, rfl, rfl⟩, fun hid => hk (hp.eq_of_ident hn hq hid)⟩

/-- A step that only drops links. -/
lemma hands_of_drops (hn : Numbered s) (hnil : sends out = []) (hh : s'.handled = s.handled)
    (htable : ∀ sid lid, s'.peer? sid lid = none ∨ s'.peer? sid lid = s.peer? sid lid) :
    Hands s out s' ∧ Numbered s' := by
  have hold : ∀ sid lid p, s'.peer? sid lid = some p → s.peer? sid lid = some p := by
    intro sid lid p hp
    rcases htable sid lid with hnone | heq
    · exact absurd (hnone.symm.trans hp) (by simp)
    · exact heq ▸ hp
  refine ⟨?_, ⟨?_, ?_⟩⟩
  · rw [Hands, hnil, hh]
    refine .idle (fun _ => id) ?_
    rintro id l c ⟨sid, p, hp, rfl, rfl⟩
    exact Or.inl ⟨sid, p, hold sid l p hp, rfl, rfl⟩
  · intro sid lid p hp
    rw [hh]
    exact hn.lt sid lid p (hold sid lid p hp)
  · intro sid lid sid' lid' p p' hp hp' hid
    exact hn.inj sid lid sid' lid' p p' (hold sid lid p hp) (hold sid' lid' p' hp') hid

/-- What `_send` puts out, and where it leaves the counter. -/
lemma moves_send (s : ConcentratorServer) (session : Session) (p : PeerLink) (t : FrameType)
    (seq : ℕ) (payload : Bytes) (sendOk : Bool) :
    Moves p (s.send session p t seq payload sendOk).2
      (s.send session p t seq payload sendOk).1 := by
  rcases s.send_cases session p t seq payload sendOk with
    ⟨-, heq⟩ | ⟨-, tx, out, heq, ⟨e, -, rfl⟩ | ⟨d, -, rfl⟩⟩
  · rw [heq]
    exact Or.inl ⟨rfl, rfl⟩
  · rw [heq]
    exact Or.inr ⟨rfl, Or.inr ⟨rfl, e, List.mem_cons_self⟩⟩
  · rw [heq]
    exact Or.inr ⟨rfl, Or.inl rfl⟩

lemma moves_reply (s : ConcentratorServer) (session : Session) (p : PeerLink) (frame : Frame)
    (sendOk : Bool) :
    Moves p (s.reply session p frame sendOk).2 (s.reply session p frame sendOk).1 := by
  rw [reply]
  split
  · exact s.moves_send session p _ _ _ sendOk
  · exact s.moves_send session p _ _ _ sendOk
  · exact Or.inl ⟨rfl, rfl⟩

lemma works_arrival (f : Frame) (addr : Addr) (now : Clock) :
    s.Works f.sessionId f.linkId (s.arrival f addr now) (s.handled + 1) := by
  rw [arrival, peerFor_eq]
  cases hp : s.peer? f.sessionId f.linkId with
  | none => exact Or.inr ⟨hp, rfl, rfl, Nat.lt_succ_self _⟩
  | some q => exact Or.inl ⟨q, hp, rfl, rfl⟩

lemma sends_reorderTick (s : ConcentratorServer) (now : Time) :
    sends (s.reorderTick now).1 = [] := by
  simp only [reorderTick, sends, List.filterMap_flatMap]
  exact List.flatMap_eq_nil_iff.2 fun x _ => sends_write x.sessionId _

/-- A refused datagram stores its link, at its new address, and seals nothing. -/
lemma hands_refused (hk : Keyed s) (hn : Numbered s) (f : Frame) (addr : Addr) (now : Clock)
    (rejected : ℕ) :
    let s' := { s.tally.store (s.sessionFor f.sessionId now) (s.arrival f addr now) with rejected }
    Hands s [] s' ∧ Numbered s' := by
  refine hands_of_works (o := some (s.arrival f addr now)) hn (hk.linkId_arrival f addr now)
    (works_arrival f addr now) (Nat.le_succ _) (fun sid lid => ?_) (fun _ => rfl) fun q hq => ?_
  · show (s.tally.store (s.sessionFor f.sessionId now) (s.arrival f addr now)).peer? sid lid = _
    rw [peer?_store, hk.sessionId_sessionFor, hk.linkId_arrival, links_sessionFor]
    by_cases hs : sid = f.sessionId
    · subst hs
      by_cases hl : lid = f.linkId <;> simp [hl]
    · simp [hs]
  · obtain rfl := Option.some.inj hq
    exact ⟨rfl, Or.inl ⟨rfl, rfl⟩⟩

/-- An accepted datagram is answered over its link, or closes it. -/
lemma hands_accepted (hk : Keyed s) (hn : Numbered s) (f : Frame) (addr : Addr) (now : Clock)
    (sendOk : Bool) :
    let r := s.tally.handleFrame (s.sessionFor f.sessionId now) (s.recorded f addr now) f now sendOk
    Hands s r.1 r.2 ∧ Numbered r.2 := by
  have hlinks : ∀ lid, (s.sessionFor f.sessionId now).links.get? lid =
      s.tally.peer? f.sessionId lid := fun lid => links_sessionFor f.sessionId lid now
  have htable := peer?_handleFrame (hk.sessionId_sessionFor f.sessionId now)
    (hk.linkId_recorded f addr now) hlinks now sendOk
  obtain ⟨sessions, hfields⟩ :=
    s.tally.handleFrame_snd (s.sessionFor f.sessionId now) (s.recorded f addr now) f now sendOk
  have hhandled : (s.tally.handleFrame (s.sessionFor f.sessionId now) (s.recorded f addr now)
      f now sendOk).2.handled = s.handled + 1 := by
    rw [hfields]
    rfl
  have hworks : s.Works f.sessionId f.linkId (s.recorded f addr now) (s.handled + 1) :=
    works_arrival f addr now
  rw [← hhandled] at hworks
  refine hands_of_works hn (hk.linkId_recorded f addr now) hworks (by omega) htable ?_ ?_
  · intro hnone
    split at hnone
    · rename_i ht
      simp only [handleFrame, ht]
      split <;> rfl
    · exact absurd hnone (by simp)
  · intro q hq
    split at hq
    · exact absurd hq (by simp)
    · rename_i ht
      obtain rfl := Option.some.inj hq
      obtain ⟨c, tx, hreply⟩ := s.tally.reply_snd (s.sessionFor f.sessionId now)
        (s.recorded f addr now) f sendOk
      refine ⟨by rw [hreply], ?_⟩
      rw [handleFrame_eq ht]
      exact (s.tally.moves_reply _ _ f sendOk).append (sends_write _ _)

/-- A downstream packet goes out over one link of one session. -/
lemma hands_send {x : Session} {p : PeerLink} (hn : Numbered s)
    (hx : s.sessions.get? x.sessionId = some x) (hp : s.peer? x.sessionId p.linkId = some p)
    (packet : Bytes) (sendOk : Bool) :
    let x' := { x with cursor := x.cursor + 1, seq := x.seq + 1 }
    let r := s.send x' p .data (x.seq + 1) packet sendOk
    Hands s r.1 (s.store x' r.2) ∧ Numbered (s.store x' r.2) := by
  intro x' r
  obtain ⟨c, tx, hsnd⟩ := s.send_snd x' p .data (x.seq + 1) packet sendOk
  have hident : r.2.ident = p.ident := by rw [show r.2 = _ from hsnd]
  have hlid : r.2.linkId = p.linkId := by rw [show r.2 = _ from hsnd]
  refine hands_of_works (o := some r.2) hn rfl (Or.inl ⟨p, hp, rfl, rfl⟩) le_rfl
    (fun sid lid => ?_) (fun hnone => absurd hnone (by simp)) fun q hq => ?_
  · rw [peer?_store, hlid]
    by_cases hs : sid = x.sessionId
    · subst hs
      by_cases hl : lid = p.linkId
      · simp [x', hl]
      · simp [x', hl, peer?_of_session hx]
    · simp [x', hs]
  · obtain rfl := Option.some.inj hq
    exact ⟨hident, s.moves_send x' p .data (x.seq + 1) packet sendOk⟩

/-- Every step of a concentrator is a step of the ledger. -/
theorem step_hands (hk : Keyed s) (hn : Numbered s) (e : Event) :
    Hands s (s.step e).1 (s.step e).2 ∧ Numbered (s.step e).2 := by
  cases e with
  | datagram data addr now sendOk =>
    rcases s.handleDatagram_cases data addr now sendOk with
      ⟨-, heq⟩ | ⟨f, -, ⟨-, heq⟩ | ⟨-, heq⟩⟩
    · rw [step, heq]
      exact hands_of_drops hn rfl rfl fun sid lid => Or.inr rfl
    · rw [step, heq]
      exact hands_refused hk hn f addr now _
    · rw [step, heq]
      exact hands_accepted hk hn f addr now sendOk
  | downstream packet now sendOk =>
    rcases dispatchDownstream_cases hk packet now sendOk with heq | ⟨x, x', p, hx, hp, -, rfl, heq⟩
    · rw [step, heq]
      exact hands_of_drops hn rfl rfl fun sid lid => Or.inr rfl
    · rw [step, heq]
      exact hands_send hn hx hp packet sendOk
  | tick now =>
    exact hands_of_drops hn (s.sends_reorderTick now) rfl fun sid lid =>
      Or.inr (peer?_reorderTick now sid lid)
  | reap now => exact hands_of_drops hn rfl rfl (s.peer?_reap now)

/-! ### What a step seals -/

lemma sends_send_sealed {session : Session} {p : PeerLink} {t : FrameType} {seq : ℕ}
    {payload : Bytes} {sendOk : Bool} {sent : Sealed}
    (h : sent ∈ sends (s.send session p t seq payload sendOk).1) :
    sent.frame = outFrame session p t seq payload ∧
      encodeFrame s.sealer sent.frame = .ok sent.datagram ∧ sent.holder = p.ident := by
  rcases s.send_cases session p t seq payload sendOk with
    ⟨-, heq⟩ | ⟨-, tx, out, heq, ⟨e, -, rfl⟩ | ⟨d, henc, rfl⟩⟩
  · rw [heq] at h
    exact absurd h List.not_mem_nil
  · rw [heq] at h
    exact absurd h (by simp [sends])
  · rw [heq] at h
    obtain rfl := List.mem_singleton.1 h
    exact ⟨rfl, henc, rfl⟩

lemma sends_reply_sealed {session : Session} {p : PeerLink} {frame : Frame} {sendOk : Bool}
    {sent : Sealed} (h : sent ∈ sends (s.reply session p frame sendOk).1) :
    encodeFrame s.sealer sent.frame = .ok sent.datagram ∧ sent.holder = p.ident ∧
      (sent.frame.type = .handshakeAck ∨ sent.frame.type = .keepalive) := by
  rw [reply] at h
  split at h
  · obtain ⟨hframe, henc, hid⟩ := sends_send_sealed h
    exact ⟨henc, hid, Or.inl (by rw [hframe]; rfl)⟩
  · obtain ⟨hframe, henc, hid⟩ := sends_send_sealed h
    exact ⟨henc, hid, Or.inr (by rw [hframe]; rfl)⟩
  · exact absurd h List.not_mem_nil

/-- Everything a concentrator seals is the answer to a control frame, or a downstream packet
with the next sequence number of a session. -/
theorem sends_step (hk : Keyed s) {e : Event} {sent : Sealed} (h : sent ∈ sends (s.step e).1) :
    encodeFrame s.sealer sent.frame = .ok sent.datagram ∧
      (sent.frame.type ≠ .data ∨ ∃ packet now sendOk x, e = .downstream packet now sendOk ∧
        s.sessions.get? x.sessionId = some x ∧ sent.frame.sessionId = x.sessionId ∧
          sent.frame.seq = x.seq + 1 ∧ sent.frame.payload = packet) := by
  cases e with
  | datagram data addr now sendOk =>
    rcases s.handleDatagram_cases data addr now sendOk with
      ⟨-, heq⟩ | ⟨f, -, ⟨-, heq⟩ | ⟨-, heq⟩⟩
    · rw [step, heq] at h
      exact absurd h List.not_mem_nil
    · rw [step, heq] at h
      exact absurd h List.not_mem_nil
    · rw [step, heq] at h
      by_cases ht : f.type = .close
      · simp only [handleFrame, ht] at h
        split at h <;> exact absurd h List.not_mem_nil
      · rw [handleFrame_eq ht, sends_append, sends_write, List.append_nil] at h
        obtain ⟨henc, -, htype⟩ := sends_reply_sealed h
        refine ⟨henc, Or.inl ?_⟩
        rcases htype with htype | htype <;> simp [htype]
  | downstream packet now sendOk =>
    rcases dispatchDownstream_cases hk packet now sendOk with heq | ⟨x, x', p, hx, -, -, rfl, heq⟩
    · rw [step, heq] at h
      exact absurd h List.not_mem_nil
    · rw [step, heq] at h
      obtain ⟨hframe, henc, -⟩ := sends_send_sealed h
      refine ⟨henc, Or.inr ⟨packet, now, sendOk, x, rfl, hx, ?_, ?_, ?_⟩⟩ <;> rw [hframe] <;> rfl
  | tick now =>
    rw [step, sends_reorderTick] at h
    exact absurd h List.not_mem_nil
  | reap now => exact absurd h List.not_mem_nil

end Turbobond.Bond.ConcentratorServer
