import Turbobond.Bond.ServerLedger

/-!
# The concentrator's sessions

A session is a stream in either direction: it puts the packets that come in into order, and
numbers those that go out.  What a step does to the streams of a session id is said here
once: there is none afterwards, or one that the step leaves alone, or whose reorder buffer
it calls, or that numbers a packet.
-/

namespace Turbobond.Bond

/-- What a session numbers and puts in order, and which of the sessions made under its id
it is. -/
structure Stream where
  ident : ℕ
  seq : ℕ
  reorder : ReorderBuffer Bytes

def Session.stream (x : Session) : Stream := ⟨x.ident, x.seq, x.reorder⟩

namespace ConcentratorServer

variable {s : ConcentratorServer}

def stream? (s : ConcentratorServer) (sid : ℕ) : Option Stream :=
  (s.sessions.get? sid).map Session.stream

/-- The stream of a session that is made now. -/
def newStream (s : ConcentratorServer) : Stream := ⟨s.handled, 0, .new s.reorderTimeoutMs 4096⟩

/-- The call that an event makes of the reorder buffer of a session, if it is let through. -/
def Event.call? (sealer : Util.Sealer) (sid : ℕ) : Event → Option (ReorderBuffer.Op Bytes)
  | .datagram data _ now _ =>
    match decodeFrame sealer data with
    | none => none
    | some f =>
      if f.sessionId = sid ∧ f.type = .data ∧ f.payload ≠ [] then
        some (.push f.seq f.payload now.mono)
      else none
  | .tick now => some (.tick now)
  | _ => none

/-- What a step can do to a stream, and what it puts out for the session. -/
inductive Turn (s : ConcentratorServer) (sid : ℕ) (x : Stream) :
    Event → List Effect → Stream → Prop
  | rest {e : Event} {out : List Effect} (hw : writes sid out = []) (hd : dataOf sid out = []) :
      Turn s sid x e out x
  | call {e : Event} {out : List Effect} (op : ReorderBuffer.Op Bytes)
      (hop : e.call? s.sealer sid = some op)
      (hw : writes sid out = payloads (x.reorder.step op).1) (hd : dataOf sid out = []) :
      Turn s sid x e out { x with reorder := (x.reorder.step op).2 }
  | number {out : List Effect} (packet : Bytes) (now : Time) (sendOk : Bool)
      (hw : writes sid out = [])
      (hd : dataOf sid out = [] ∨ ∃ sent, dataOf sid out = [sent] ∧ sent.stream = x.ident ∧
        sent.frame.seq = x.seq + 1 ∧ sent.frame.payload = packet) :
      Turn s sid x (.downstream packet now sendOk) out { x with seq := x.seq + 1 }

/-- The stream a step starts from: the one known, or a new one, made by the step. -/
def Feeds (s : ConcentratorServer) (sid : ℕ) (s' : ConcentratorServer) (x : Stream) : Prop :=
  s.stream? sid = some x ∨ s.stream? sid = none ∧ x = s.newStream ∧ s.handled < s'.handled

/-- What a step can do to the streams of a session id. -/
def Steps (s : ConcentratorServer) (sid : ℕ) (e : Event) : Prop :=
  ((s.step e).2.stream? sid = none ∧ writes sid (s.step e).1 = [] ∧
      dataOf sid (s.step e).1 = []) ∨
    ∃ x x', s.Feeds sid (s.step e).2 x ∧ (s.step e).2.stream? sid = some x' ∧
      s.Turn sid x e (s.step e).1 x'

lemma steps_of_eq {e : Event} {sid : ℕ} (h : (s.step e).2.stream? sid = s.stream? sid)
    (hw : writes sid (s.step e).1 = []) (hd : dataOf sid (s.step e).1 = []) : s.Steps sid e := by
  cases hx : s.stream? sid with
  | none => exact Or.inl ⟨h.trans hx, hw, hd⟩
  | some x => exact Or.inr ⟨x, x, Or.inl hx, h.trans hx, .rest hw hd⟩

lemma feeds_sessionFor {s' : ConcentratorServer} (sid : ℕ) (now : Clock)
    (h : s.handled < s'.handled) : s.Feeds sid s' (s.sessionFor sid now).stream := by
  rw [Feeds, stream?, sessionFor]
  cases hx : s.sessions.get? sid with
  | none => exact Or.inr ⟨rfl, rfl, h⟩
  | some x => exact Or.inl rfl

/-- What is known of a session's stream holds of the one a step starts from, if it holds of a
new one. -/
lemma Feeds.known {s' : ConcentratorServer} {sid : ℕ} {x : Stream} {P : Stream → Prop} {Q : Prop}
    (h : s.Feeds sid s' x)
    (hknown : s.stream? sid = none ∧ Q ∨ ∃ y, s.stream? sid = some y ∧ P y)
    (hnew : Q → P s.newStream) : P x := by
  rcases h with hx | ⟨hnone, rfl, -⟩
  · rcases hknown with ⟨hnone, -⟩ | ⟨y, hy, hP⟩
    · exact absurd (hnone.symm.trans hx) (by simp)
    · obtain rfl := Option.some.inj (hy.symm.trans hx)
      exact hP
  · rcases hknown with ⟨-, hQ⟩ | ⟨y, hy, -⟩
    · exact hnew hQ
    · exact absurd (hnone.symm.trans hy) (by simp)

lemma stream?_store (session : Session) (peer : PeerLink) (sid : ℕ) :
    (s.store session peer).stream? sid =
      if sid = session.sessionId then some session.stream else s.stream? sid := by
  rw [stream?, get?_store]
  split
  · rfl
  · rfl

/-- No packet is sealed but for a downstream one. -/
lemma dataOf_step (hk : Keyed s) {e : Event} (he : ∀ packet now sendOk, e ≠ .downstream packet now sendOk)
    (sid : ℕ) : dataOf sid (s.step e).1 = [] := by
  refine dataOf_eq_nil fun sent hsent htype => ?_
  rcases (sends_step hk hsent).2 with hne | ⟨packet, now, sendOk, -, rfl, -⟩
  · exact absurd htype hne
  · exact absurd rfl (he packet now sendOk)

lemma writes_send (session : Session) (p : PeerLink) (t : FrameType) (seq : ℕ) (payload : Bytes)
    (sendOk : Bool) (sid : ℕ) : writes sid (s.send session p t seq payload sendOk).1 = [] := by
  rcases s.send_cases session p t seq payload sendOk with
    ⟨-, heq⟩ | ⟨-, tx, out, heq, ⟨e, -, rfl⟩ | ⟨d, -, rfl⟩⟩
  · rw [heq]
    rfl
  · rw [heq]
    rfl
  · rw [heq]
    rfl

lemma writes_reply (session : Session) (p : PeerLink) (frame : Frame) (sendOk : Bool) (sid : ℕ) :
    writes sid (s.reply session p frame sendOk).1 = [] := by
  rw [reply]
  split
  · exact writes_send session p _ _ _ sendOk sid
  · exact writes_send session p _ _ _ sendOk sid
  · rfl

/-- A `CLOSE` takes its link away, and the session with the last of them. -/
lemma handleFrame_close {f : Frame} (ht : f.type = .close) (session : Session) (peer : PeerLink)
    (now : Clock) (sendOk : Bool) (sid : ℕ) :
    (s.handleFrame session peer f now sendOk).1 = [] ∧
      (s.handleFrame session peer f now sendOk).2.stream? sid =
        if sid = f.sessionId then
          if (session.links.erase f.linkId).size = 0 then none else some session.stream
        else s.stream? sid := by
  simp only [handleFrame, ht, stream?]
  split
  · rw [Dict.get?_erase]
    exact ⟨rfl, by split <;> rfl⟩
  · rw [Dict.get?_set]
    exact ⟨rfl, by split <;> rfl⟩

/-- Any other frame feeds the stream of its session, and what comes out is written. -/
lemma handleFrame_stream {session : Session} {f : Frame} (hsid : session.sessionId = f.sessionId)
    (ht : f.type ≠ .close) (peer : PeerLink) (now : Clock) (sendOk : Bool) (sid : ℕ) :
    writes sid (s.handleFrame session peer f now sendOk).1 =
        (if f.sessionId = sid then payloads (resequence session f now).1 else []) ∧
      (s.handleFrame session peer f now sendOk).2.stream? sid =
        if sid = f.sessionId then
          some { session.stream with reorder := (resequence session f now).2 }
        else s.stream? sid := by
  rw [handleFrame_eq ht, writes_append, writes_reply, writes_write, stream?_store, hsid,
    List.nil_append]
  exact ⟨rfl, rfl⟩

/-- What a datagram does to the streams of a session id. -/
lemma steps_datagram (hk : Keyed s) (sid : ℕ) (data : Bytes) (addr : Addr) (now : Clock)
    (sendOk : Bool) : s.Steps sid (.datagram data addr now sendOk) := by
  have hd := dataOf_step hk (e := .datagram data addr now sendOk) (by simp) sid
  rcases s.handleDatagram_cases data addr now sendOk with
    ⟨-, heq⟩ | ⟨f, hdec, ⟨-, heq⟩ | ⟨-, heq⟩⟩
  · exact steps_of_eq (by rw [step, heq]; rfl) (by rw [step, heq]; rfl) hd
  · -- the session is stored as it was
    have hsid := hk.sessionId_sessionFor f.sessionId now
    have hw : writes sid (s.step (.datagram data addr now sendOk)).1 = [] := by rw [step, heq]; rfl
    have hst : (s.step (.datagram data addr now sendOk)).2.stream? sid =
        (s.tally.store (s.sessionFor f.sessionId now) (s.arrival f addr now)).stream? sid := by
      rw [step, heq]
      rfl
    rw [stream?_store, hsid] at hst
    -- a datagram that is refused makes its session all the same
    by_cases hs : sid = f.sessionId
    · subst hs
      rw [if_pos rfl] at hst
      refine Or.inr ⟨_, _, feeds_sessionFor f.sessionId now ?_, hst, .rest hw hd⟩
      rw [step, heq]
      exact Nat.lt_succ_self _
    · rw [if_neg hs] at hst
      exact steps_of_eq hst hw hd
  · have hsid := hk.sessionId_sessionFor f.sessionId now
    have hfeeds : s.Feeds f.sessionId (s.step (.datagram data addr now sendOk)).2
        (s.sessionFor f.sessionId now).stream := by
      refine feeds_sessionFor f.sessionId now ?_
      obtain ⟨sessions, hs⟩ := s.tally.handleFrame_snd (s.sessionFor f.sessionId now)
        (s.recorded f addr now) f now sendOk
      rw [step, heq, hs]
      exact Nat.lt_succ_self _
    by_cases ht : f.type = .close
    · obtain ⟨hout, hst⟩ :=
        handleFrame_close (s := s.tally) ht (s.sessionFor f.sessionId now) (s.recorded f addr now)
          now sendOk sid
      rw [← heq] at hout hst
      have hw : writes sid (s.step (.datagram data addr now sendOk)).1 = [] := by
        rw [step, hout]
        rfl
      by_cases hs : sid = f.sessionId
      · subst hs
        rw [if_pos rfl] at hst
        split at hst
        · exact Or.inl ⟨hst, hw, hd⟩
        · exact Or.inr ⟨_, _, hfeeds, hst, .rest hw hd⟩
      · rw [if_neg hs] at hst
        exact steps_of_eq hst hw hd
    · obtain ⟨hw, hst⟩ :=
        handleFrame_stream (s := s.tally) hsid ht (s.recorded f addr now) now sendOk sid
      rw [← heq] at hw hst
      by_cases hs : sid = f.sessionId
      · subst hs
        rw [if_pos rfl] at hst hw
        refine Or.inr ⟨_, _, hfeeds, hst, ?_⟩
        by_cases hdata : f.type = .data ∧ f.payload ≠ []
        · rw [resequence, if_pos hdata] at hw ⊢
          exact .call (.push f.seq f.payload now.mono)
            (by simp only [Event.call?, hdec]; exact if_pos (by simpa using hdata)) hw hd
        · rw [resequence, if_neg hdata] at hw ⊢
          exact .rest hw hd
      · rw [if_neg (Ne.symm hs)] at hw
        rw [if_neg hs] at hst
        exact steps_of_eq hst hw hd

/-- What a downstream packet does to the streams of a session id. -/
lemma steps_downstream (hk : Keyed s) (sid : ℕ) (packet : Bytes) (now : Time) (sendOk : Bool) :
    s.Steps sid (.downstream packet now sendOk) := by
  rcases dispatchDownstream_cases hk packet now sendOk with heq | ⟨x, x', p, hx, -, -, rfl, heq⟩
  · exact steps_of_eq (by rw [step, heq]) (by rw [step, heq]; rfl) (by rw [step, heq]; rfl)
  · have hw : writes sid (s.step (.downstream packet now sendOk)).1 = [] := by
      rw [step, heq, writes_send]
    have hst : (s.step (.downstream packet now sendOk)).2.stream? sid =
        if sid = x.sessionId then some { x.stream with seq := x.seq + 1 } else s.stream? sid := by
      rw [step, heq, stream?_store]
      rfl
    by_cases hs : sid = x.sessionId
    · subst hs
      rw [if_pos rfl] at hst
      refine Or.inr ⟨x.stream, _, Or.inl (by rw [stream?, hx]; rfl), hst,
        .number packet now sendOk hw ?_⟩
      rw [step, heq]
      rcases s.send_cases { x with cursor := x.cursor + 1, seq := x.seq + 1 } p .data (x.seq + 1)
        packet sendOk with ⟨-, hsend⟩ | ⟨-, tx, out, hsend, ⟨e, -, rfl⟩ | ⟨d, -, rfl⟩⟩
      · rw [hsend]
        exact Or.inl rfl
      · rw [hsend]
        exact Or.inl rfl
      · rw [hsend]
        refine Or.inr ⟨_, List.filter_cons_of_pos ?_, rfl, rfl, rfl⟩
        simp [outFrame]
    · rw [if_neg hs] at hst
      refine steps_of_eq hst hw (dataOf_eq_nil fun sent hsent _ => ?_)
      rw [step, heq] at hsent
      rw [(sends_send_sealed hsent).1]
      exact Ne.symm hs

/-- **Streams.**  What a step can do to the streams of a session id. -/
theorem steps (hk : Keyed s) (sid : ℕ) (e : Event) : s.Steps sid e := by
  cases e with
  | datagram data addr now sendOk => exact steps_datagram hk sid data addr now sendOk
  | downstream packet now sendOk => exact steps_downstream hk sid packet now sendOk
  | tick now =>
    have hd := dataOf_step hk (e := .tick now) (by simp) sid
    -- the tick writes for every session, of which one has this id
    have hw : writes sid (s.step (.tick now)).1 =
        ((s.stream? sid).map fun x => payloads (x.reorder.tick now).1).getD [] := by
      rw [step, reorderTick, writes, List.filterMap_flatMap, s.sessions.flatMap_values sid, stream?,
        Option.map_map]
      · cases hx : s.sessions.get? sid with
        | none => rfl
        | some x =>
          have hwrites := writes_write sid x.sessionId (x.reorder.tick now).1
          rw [if_pos (hk.session sid x hx)] at hwrites
          exact hwrites
      · intro sid' x hne hx
        have hwrites := writes_write sid x.sessionId (x.reorder.tick now).1
        rwa [if_neg (by rw [hk.session sid' x hx]; exact hne)] at hwrites
    have hst : (s.step (.tick now)).2.stream? sid =
        (s.stream? sid).map fun x => { x with reorder := (x.reorder.tick now).2 } := by
      rw [step, stream?, get?_reorderTick, stream?, Option.map_map, Option.map_map]
      rfl
    cases hx : s.stream? sid with
    | none =>
      rw [hx] at hw hst
      exact Or.inl ⟨hst, hw, hd⟩
    | some x =>
      rw [hx] at hw hst
      exact Or.inr ⟨x, _, Or.inl hx, hst, .call (.tick now) rfl hw hd⟩
  | reap now =>
    have hd := dataOf_step hk (e := .reap now) (by simp) sid
    cases hx' : (s.reap now).sessions.get? sid with
    | none => exact Or.inl ⟨by rw [step, stream?, hx']; rfl, rfl, hd⟩
    | some x =>
      obtain ⟨y, links, hy, rfl⟩ := get?_reap now hx'
      exact steps_of_eq (by rw [step, stream?, hx', stream?, hy]; rfl) rfl hd

/-! ### The numbers of the packets -/

/-- The session of an id, the one numbered `id`, has given out `c` numbers. -/
def Numbering (s : ConcentratorServer) (sid id : ℕ) (_ : Unit) (c : ℕ) : Prop :=
  ∃ x, s.stream? sid = some x ∧ x.ident = id ∧ x.seq = c

/-- The log entry of a packet that was sealed. -/
def streamEntry (sent : Sealed) : Entry ℕ Unit := ⟨sent.stream, (), sent.frame.seq⟩

lemma handled_le (hk : Keyed s) (hn : Numbered s) (e : Event) : s.handled ≤ (s.step e).2.handled :=
  ((step_hands hk hn e).1.fresh_of _ le_rfl).1

/-- The sessions of one id are a ledger: each counts up from zero, and the packets bear its
numbers. -/
theorem stream_hands (hk : Keyed s) (hn : Numbered s) {sid : ℕ}
    (hlt : ∀ x, s.stream? sid = some x → x.ident < s.handled) (e : Event) :
    LedgerStep (s.Numbering sid) (s.handled ≤ ·) ((dataOf sid (s.step e).1).map streamEntry) True
        ((s.step e).2.Numbering sid) ((s.step e).2.handled ≤ ·) ∧
      ∀ x, (s.step e).2.stream? sid = some x → x.ident < (s.step e).2.handled := by
  have hle := handled_le hk hn e
  rcases steps hk sid e with ⟨hgone, -, hd⟩ | ⟨x, x', hfeeds, hx', hturn⟩
  · rw [hd, hgone]
    refine ⟨.idle (fun _ hid => hle.trans hid) ?_, by simp⟩
    rintro id l c ⟨x, hx, -⟩
    exact absurd (hgone.symm.trans hx) (by simp)
  · have hident : x.ident < (s.step e).2.handled := by
      rcases hfeeds with hx | ⟨-, rfl, hnew⟩
      · exact (hlt x hx).trans_le hle
      · exact hnew
    have hsrc : Source (s.Numbering sid) (s.handled ≤ ·) x.ident () x.seq := by
      rcases hfeeds with hx | ⟨-, rfl, -⟩
      · exact Or.inl ⟨x, hx, rfl, rfl⟩
      · exact Or.inr ⟨le_rfl, rfl⟩
    -- a step that numbers no packet
    have hkept : dataOf sid (s.step e).1 = [] → x'.ident = x.ident → x'.seq = x.seq →
        LedgerStep (s.Numbering sid) (s.handled ≤ ·) ((dataOf sid (s.step e).1).map streamEntry)
          True ((s.step e).2.Numbering sid) ((s.step e).2.handled ≤ ·) := by
      intro hd hid hseq
      rw [hd]
      refine .idle (fun _ hid => hle.trans hid) ?_
      rintro id l c ⟨y, hy, rfl, rfl⟩
      obtain rfl := Option.some.inj (hx'.symm.trans hy)
      rw [hid, hseq]
      exact hsrc
    have hlt' : x'.ident = x.ident →
        ∀ y, (s.step e).2.stream? sid = some y → y.ident < (s.step e).2.handled := by
      intro hid y hy
      obtain rfl := Option.some.inj (hx'.symm.trans hy)
      rwa [hid]
    cases hturn with
    | rest hw hd => exact ⟨hkept hd rfl rfl, hlt' rfl⟩
    | call op hop hw hd => exact ⟨hkept hd rfl rfl, hlt' rfl⟩
    | number packet now sendOk hw hd =>
      have hout : (dataOf sid (s.step (.downstream packet now sendOk)).1).map streamEntry = [] ∨
          (dataOf sid (s.step (.downstream packet now sendOk)).1).map streamEntry =
            [⟨x.ident, (), x.seq + 1⟩] := by
        rcases hd with hnil | ⟨sent, hone, hstream, hseq, -⟩
        · exact Or.inl (by rw [hnil, List.map_nil])
        · exact Or.inr (by rw [hone, List.map_singleton, streamEntry, hstream, hseq])
      refine ⟨.single hsrc hout ?_ ?_, hlt' rfl⟩
      · intro id hid
        exact ⟨hle.trans hid, (hident.trans_le hid).ne'⟩
      · rintro id l c ⟨y, hy, rfl, rfl⟩
        obtain rfl := Option.some.inj (hx'.symm.trans hy)
        exact Or.inr ⟨rfl, rfl, Or.inr ⟨rfl, hout.symm.imp_right fun h => ⟨h, trivial⟩⟩⟩

end ConcentratorServer

end Turbobond.Bond
