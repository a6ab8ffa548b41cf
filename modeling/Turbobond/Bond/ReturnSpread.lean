import Turbobond.Bond.ServerReader
import Turbobond.Bond.ServerSession
import Turbobond.Bond.ServerTwin
import Turbobond.Lib.RoundRobin

/-!
# The spread of packets over a client's links

`pick_return_link` counts the packets that it has found a link for, and `next_seq` numbers them.  The
two counts are kept apart and never differ, so that the number of a packet says which of the live
links it went over.
-/

namespace Turbobond.Bond.ConcentratorServer

/-- The session that `_dispatch_downstream` gives a packet to: the newest with a live link. -/
def next? (s : ConcentratorServer) (now : Time) : Option Session :=
  (newestFirst s.sessions.values).find? fun x => x.liveLinks now ≠ []

/-- A session that is there stays, and is given the packets, of which none is too long for a frame,
with live links that stay the same. -/
def Serves (sid : ℕ) (L : List ℕ) (s : ConcentratorServer) (e : Event) : Prop :=
  ((s.stream? sid).isSome → ((s.step e).2.stream? sid).isSome) ∧
    match e with
    | .downstream packet now _ => packet.length ≤ maxPayload ∧
        ((s.next? now).map fun x => (x.sessionId, (x.liveLinks now).map PeerLink.linkId)) =
          some (sid, L)
    | _ => True

instance (sid : ℕ) (L : List ℕ) (s : ConcentratorServer) (e : Event) :
    Decidable (Serves sid L s e) := by
  cases e <;> exact instDecidableAnd

/-- How many packets come down. -/
def downstreams (events : List Event) : ℕ :=
  events.countP fun
    | .downstream _ _ _ => true
    | _ => false

/-- A packet has been numbered for each turn of the cursor. -/
def InTurn (s : ConcentratorServer) : Prop :=
  ∀ sid x, s.sessions.get? sid = some x → x.cursor = x.seq

variable {s : ConcentratorServer}

/-! ### The cursor and the numbers -/

lemma InTurn.store (h : InTurn s) {x : Session} (hx : x.cursor = x.seq) (p : PeerLink) :
    InTurn (s.store x p) := by
  intro sid y hy
  rw [get?_store] at hy
  split at hy
  · rw [← Option.some.inj hy]
    exact hx
  · exact h sid y hy

lemma InTurn.sessionFor (h : InTurn s) (sid : ℕ) (now : Clock) :
    (s.sessionFor sid now).cursor = (s.sessionFor sid now).seq := by
  rw [ConcentratorServer.sessionFor]
  cases hx : s.sessions.get? sid with
  | none => rfl
  | some x => exact h sid x hx

lemma InTurn.handleFrame (h : InTurn s) {session : Session} (hx : session.cursor = session.seq)
    (peer : PeerLink) (f : Frame) (now : Clock) (sendOk : Bool) :
    InTurn (s.handleFrame session peer f now sendOk).2 := by
  by_cases ht : f.type = .close
  · simp only [ConcentratorServer.handleFrame, ht]
    split
    · intro sid x hsid
      exact h sid x (Dict.of_get?_erase hsid).2
    · intro sid x hsid
      rcases Dict.of_get?_set hsid with ⟨-, rfl⟩ | ⟨-, hsid⟩
      · exact hx
      · exact h sid x hsid
  · rw [handleFrame_eq ht]
    exact h.store (x := { session with reorder := (resequence session f now).2 }) hx _

lemma InTurn.step (h : InTurn s) (e : Event) : InTurn (s.step e).2 := by
  cases e with
  | datagram data addr now sendOk =>
    rw [ConcentratorServer.step]
    rcases s.handleDatagram_cases data addr now sendOk with ⟨-, heq⟩ | ⟨f, -, ⟨-, heq⟩ | ⟨-, heq⟩⟩
    · rw [heq]
      exact h
    · rw [heq]
      exact InTurn.store (s := s.tally) h (h.sessionFor f.sessionId now) _
    · rw [heq]
      exact InTurn.handleFrame (s := s.tally) h (h.sessionFor f.sessionId now) _ f now sendOk
  | downstream packet now sendOk =>
    rw [ConcentratorServer.step, dispatchDownstream]
    rcases s.dispatchLoop_cases packet now sendOk
      (s.sessions.values.insertionSort fun a b => b.created ≤ a.created) with
      heq | ⟨x, hx, p, -, x', rfl, heq⟩
    · rw [heq]
      exact h
    · rw [List.mem_insertionSort, Dict.mem_values_iff] at hx
      obtain ⟨sid, hsid⟩ := hx
      rw [heq]
      exact h.store (x := { x with cursor := x.cursor + 1, seq := x.seq + 1 })
        (congrArg (· + 1) (h sid x hsid)) _
  | tick now =>
    intro sid x hx
    rw [ConcentratorServer.step, get?_reorderTick, Option.map_eq_some_iff] at hx
    obtain ⟨y, hy, rfl⟩ := hx
    exact h sid y hy
  | reap now =>
    intro sid x hx
    obtain ⟨y, links, hy, rfl⟩ := get?_reap now hx
    exact h sid y hy

/-- What the concentrator keeps of what the numbers rest on. -/
structure Returning (s : ConcentratorServer) : Prop where
  keyed : Keyed s
  ids : Ids s
  transport : s.transport = true
  inTurn : InTurn s

lemma Returning.step (h : Returning s) (e : Event) : Returning (s.step e).2 :=
  ⟨h.keyed.step e, h.ids.step h.keyed e, (transport_step s e).trans h.transport, h.inTurn.step e⟩

lemma returning_start (sealer : Util.Sealer) (reorderTimeoutMs : ℚ) :
    Returning (start sealer reorderTimeoutMs) :=
  ⟨keyed_of_empty rfl, fun _ _ _ hp => absurd hp (by simp [peer?, start]), rfl,
    fun _ _ hx => absurd hx (by simp [start])⟩

lemma Returning.after (h : Returning s) (events : List Event) : Returning (s.after events) :=
  Machine.run_invariant_nil ConcentratorServer.step (I := fun s _ => Returning s)
    (fun _ _ e hs => hs.step e) events h

/-! ### One packet -/

/-- A packet goes over the link whose turn it is, of the newest session with a live link. -/
lemma dispatchLoop_of_find? {sessions : List Session} {now : Time} {x : Session}
    (hx : sessions.find? (fun x => x.liveLinks now ≠ []) = some x) (packet : Bytes) (sendOk : Bool) :
    ∃ p, (x.liveLinks now)[x.cursor % (x.liveLinks now).length]? = some p ∧
      (s.dispatchLoop packet now sendOk sessions).1 =
        (s.send { x with cursor := x.cursor + 1, seq := x.seq + 1 } p .data (x.seq + 1) packet
          sendOk).1 := by
  induction sessions with
  | nil => exact absurd hx (by simp)
  | cons y rest ih =>
    by_cases hlive : y.liveLinks now = []
    · rw [dispatchLoop, pickReturnLink_of_nil hlive]
      exact ih (by simpa [hlive] using hx)
    · obtain rfl : y = x := by simpa [hlive] using hx
      have hlt := Nat.mod_lt y.cursor (List.length_pos_iff.2 hlive)
      refine ⟨_, List.getElem?_eq_getElem hlt, ?_⟩
      simp only [dispatchLoop, Session.pickReturnLink, List.getElem?_eq_getElem hlt, Session.nextSeq]

/-- The number of the last packet of a session, zero if there is none. -/
def lastSeq (s : ConcentratorServer) (sid : ℕ) : ℕ := ((s.stream? sid).map Stream.seq).getD 0

/-- The links of a list are those of one session. -/
lemma Returning.nodup_linkIds (h : Returning s) {sid : ℕ} {x : Session}
    (hx : s.sessions.get? sid = some x) (now : Time) :
    ((x.liveLinks now).map PeerLink.linkId).Nodup := by
  have hkeys : x.links.values.map PeerLink.linkId = x.links.keys := by
    rw [Dict.values, Dict.keys, List.map_map]
    refine List.map_congr_left fun e he => ?_
    exact h.keyed.peer sid e.1 e.2
      ((peer?_of_session hx e.1).trans ((Dict.get?_eq_some_iff _ _ _).2 he))
  have hnodup : (x.links.values.map PeerLink.linkId).Nodup := hkeys ▸ x.links.keys_nodup
  exact hnodup.sublist (List.filter_sublist.map _)

lemma Returning.of_next? (h : Returning s) {now : Time} {x : Session} (hx : s.next? now = some x) :
    s.sessions.get? x.sessionId = some x := by
  have hmem := (List.mem_insertionSort _).1 (List.mem_of_find?_eq_some hx)
  obtain ⟨sid, hsid⟩ := (Dict.mem_values_iff _ _).1 hmem
  rwa [h.keyed.session sid x hsid]

/-- The packet that a session is given is numbered, and sealed for the link whose turn it is. -/
lemma Returning.dataOf_downstream (h : Returning s) {sid : ℕ} {L : List ℕ} {packet : Bytes}
    {now : Time} {sendOk : Bool} (hserves : Serves sid L s (.downstream packet now sendOk)) :
    ∃ sent, dataOf sid (s.step (.downstream packet now sendOk)).1 = [sent] ∧
      sent.frame.seq = s.lastSeq sid + 1 ∧
      L[s.lastSeq sid % L.length]? = some sent.frame.linkId := by
  obtain ⟨hlen, hnext⟩ := hserves.2
  obtain ⟨x, hx, heq⟩ := Option.map_eq_some_iff.1 hnext
  obtain ⟨rfl, rfl⟩ := Prod.mk.inj heq
  have hget := h.of_next? hx
  have hseq : s.lastSeq x.sessionId = x.seq := by
    rw [lastSeq, stream?, hget]
    rfl
  obtain ⟨p, hp, hout⟩ := dispatchLoop_of_find? (s := s) hx packet sendOk
  have hpeer : s.peer? x.sessionId p.linkId = some p := by
    obtain ⟨lid, hlid⟩ := (Dict.mem_values_iff _ _).1
      (List.mem_of_mem_filter (List.mem_of_getElem? hp))
    have hpeer := (peer?_of_session hget lid).trans hlid
    rwa [h.keyed.peer x.sessionId lid p hpeer]
  have hturn : ((x.liveLinks now).map PeerLink.linkId)[s.lastSeq x.sessionId %
      ((x.liveLinks now).map PeerLink.linkId).length]? = some p.linkId := by
    rw [List.length_map, List.getElem?_map, hseq, ← h.inTurn x.sessionId x hget, hp]
    rfl
  rw [ConcentratorServer.step, dispatchDownstream]
  change ∃ sent, dataOf x.sessionId (s.dispatchLoop packet now sendOk
    (newestFirst s.sessions.values)).1 = [sent] ∧ _
  rw [hout]
  rcases s.send_cases { x with cursor := x.cursor + 1, seq := x.seq + 1 } p .data (x.seq + 1)
    packet sendOk with ⟨hnone, -⟩ | ⟨-, tx, out, hsend, ⟨e, henc, -⟩ | ⟨d, -, rfl⟩⟩
  · exact absurd (hnone.symm.trans h.transport) (by simp)
  · have hsealed : encodeFrame s.sealer (outFrame
        { x with cursor := x.cursor + 1, seq := x.seq + 1 } p .data (x.seq + 1) packet) = .ok _ :=
      encodeFrame_eq_ok_iff.2 ⟨hlen, h.ids _ _ p hpeer, rfl⟩
    exact absurd (hsealed.symm.trans henc) (by simp)
  · rw [hsend]
    refine ⟨_, List.filter_cons_of_pos ?_, congrArg (· + 1) hseq.symm, hturn⟩
    simp [outFrame]

/-- A session that stays counts the packets that it is given. -/
lemma Returning.lastSeq_step (h : Returning s) {sid : ℕ} {L : List ℕ} {e : Event}
    (hserves : Serves sid L s e) : (s.step e).2.lastSeq sid = s.lastSeq sid + downstreams [e] := by
  -- a session that the step makes has numbered nothing, and nor has one that is not there
  have hknown : ∀ {x : Stream}, s.Feeds sid (s.step e).2 x → s.lastSeq sid = x.seq := by
    rintro x (hx | ⟨hnone, rfl, -⟩)
    · rw [lastSeq, hx]
      rfl
    · rw [lastSeq, hnone]
      rfl
  rcases steps h.keyed sid e with ⟨hnone, -, hnil⟩ | ⟨x, x', hfeeds, hx', hturn⟩
  · have hnone' : s.stream? sid = none := by
      by_contra hsome
      have hstays := hserves.1 (Option.isSome_iff_ne_none.2 hsome)
      rw [hnone] at hstays
      exact absurd hstays (by simp)
    rw [lastSeq, hnone, lastSeq, hnone']
    cases e with
    | downstream packet now sendOk =>
      obtain ⟨sent, hsent, -, -⟩ := h.dataOf_downstream hserves
      exact absurd (hnil.symm.trans hsent) (by simp)
    | _ => rfl
  · rw [hknown hfeeds, lastSeq, hx']
    cases e with
    | downstream packet now sendOk =>
      obtain ⟨sent, hsent, -, -⟩ := h.dataOf_downstream hserves
      cases hturn with
      | rest _ hnil => exact absurd (hnil.symm.trans hsent) (by simp)
      | call _ hop => exact absurd hop (by simp [Event.call?])
      | number => rfl
    | _ => cases hturn <;> rfl

/-! ### Runs -/

/-- While a session is served, its packets are numbered on and take turns over its links. -/
lemma Returning.dataOf_run {sid : ℕ} {L : List ℕ} (events : List Event) :
    ∀ {s : ConcentratorServer} {hist : List Effect}, Returning s →
      Machine.Meets ConcentratorServer.step (fun s _ e => Serves sid L s e) events s hist →
        (dataOf sid (run events s).1).map (fun sent => (sent.frame.seq, some sent.frame.linkId)) =
          (List.range' (s.lastSeq sid) (downstreams events)).map fun q =>
            (q + 1, L[q % L.length]?) := by
  induction events with
  | nil => exact fun _ _ => rfl
  | cons e events ih =>
    intro s hist h hmeets
    have hrest := ih (h.step e) hmeets.2
    have hcount : downstreams (e :: events) = downstreams [e] + downstreams events := by
      rw [downstreams, ← List.singleton_append, List.countP_append]
      rfl
    rw [run, Machine.run_cons, ← run, dataOf, sends_append, List.filter_append, ← dataOf, ← dataOf,
      List.map_append, hrest, h.lastSeq_step hmeets.1, hcount, ← List.range'_append_1,
      List.map_append]
    congr 1
    by_cases hdown : ∃ packet now sendOk, e = .downstream packet now sendOk
    · obtain ⟨packet, now, sendOk, rfl⟩ := hdown
      obtain ⟨sent, hsent, hseq, hlink⟩ := h.dataOf_downstream hmeets.1
      rw [hsent]
      simp [downstreams, hseq, hlink]
    · have hnil := dataOf_step h.keyed (e := e)
        (fun packet now sendOk he => hdown ⟨packet, now, sendOk, he⟩) sid
      rw [hnil]
      cases e with
      | downstream packet now sendOk => exact absurd ⟨packet, now, sendOk, rfl⟩ hdown
      | _ => rfl

/-- The links of a session that is served are distinct. -/
lemma Returning.nodup_of_served {sid : ℕ} {L : List ℕ} (events : List Event) :
    ∀ {s : ConcentratorServer} {hist : List Effect}, Returning s → downstreams events ≠ 0 →
      Machine.Meets ConcentratorServer.step (fun s _ e => Serves sid L s e) events s hist → L.Nodup := by
  induction events with
  | nil => exact fun _ hne _ => absurd rfl hne
  | cons e events ih =>
    intro s hist h hne hmeets
    cases e with
    | downstream packet now sendOk =>
      obtain ⟨-, hnext⟩ := hmeets.1.2
      obtain ⟨x, hx, heq⟩ := Option.map_eq_some_iff.1 hnext
      obtain ⟨rfl, rfl⟩ := Prod.mk.inj heq
      exact h.nodup_linkIds (h.of_next? hx) now
    | _ => exact ih (h.step _) hne hmeets.2

/-- A client shakes hands over a link. -/
def shake (link : ℕ) (addr : Addr) : Event :=
  .datagram (datagram ⟨Util.Aead.plain⟩
    { type := .handshake, sessionId := 7, linkId := link, counter := 1 }) addr ⟨0, 0⟩ true

/-- Three packets come down to a client with two links, of which the second is heard once more. -/
def threeDown : List Event :=
  [.downstream [1] 1 true, .downstream [2] 2 true,
    .datagram (datagram ⟨Util.Aead.plain⟩
      { type := .keepalive, sessionId := 7, linkId := 5, counter := 2 }) ("192.0.2.2", 41000) ⟨3, 3⟩
      true,
    .downstream [3] 4 true]

end Turbobond.Bond.ConcentratorServer
