import Turbobond.Bond.ServerLedger

/-!
# Two runs of a concentrator

To compare two runs, one of which gets datagrams that the other does not, what merely counts
is taken off: the identities of sessions and links, which number the datagrams handled, and
the rejections.  No step looks at any of these.
-/

namespace Turbobond.Bond

section Sorting

variable {α : Type} (r : α → α → Prop) [DecidableRel r] [IsTrans α r]

lemma filter_orderedInsert (p : α → Bool) (a : α) {l : List α} (h : l.Pairwise r) :
    (l.orderedInsert r a).filter p =
      if p a then (l.filter p).orderedInsert r a else l.filter p := by
  induction l with
  | nil => simp [List.filter_singleton]
  | cons b l ih =>
    have hl := (List.pairwise_cons.1 h).2
    have hb := (List.pairwise_cons.1 h).1
    by_cases hab : r a b
    · rw [List.orderedInsert_cons_of_le _ _ hab, List.filter_cons]
      split
      · -- `a` goes before whatever is left
        cases hf : (b :: l).filter p with
        | nil => rfl
        | cons c m =>
          have hc : c ∈ b :: l := (List.mem_filter.1 (hf ▸ List.mem_cons_self)).1
          have hac : r a c := by
            rcases List.mem_cons.1 hc with rfl | hc
            · exact hab
            · exact trans_of r hab (hb c hc)
          rw [List.orderedInsert_cons_of_le _ _ hac]
      · rfl
    · rw [List.orderedInsert_of_not_le _ _ hab, List.filter_cons, ih hl, List.filter_cons]
      by_cases hpb : p b = true
      · by_cases hpa : p a = true
        · simp only [if_pos hpb, if_pos hpa, List.orderedInsert_of_not_le _ _ hab]
        · simp only [if_pos hpb, if_neg hpa]
      · simp only [if_neg hpb]

/-- Sorting keeps what passes a test in order. -/
lemma filter_insertionSort [Std.Total r] (p : α → Bool) (l : List α) :
    (l.filter p).insertionSort r = (l.insertionSort r).filter p := by
  induction l with
  | nil => rfl
  | cons a l ih =>
    rw [List.insertionSort_cons, filter_orderedInsert r p a (List.pairwise_insertionSort r l),
      List.filter_cons]
    split
    · rw [List.insertionSort_cons, ih]
    · exact ih

end Sorting

/-- A link without its identity. -/
def PeerLink.anon (p : PeerLink) : PeerLink := { p with ident := 0 }

/-- A session without identities. -/
def Session.anon (x : Session) : Session :=
  { x with links := x.links.mapValues PeerLink.anon, ident := 0 }

/-- An effect without identities. -/
def Effect.anon : Effect → Effect
  | .send x => .send { x with holder := 0, stream := 0 }
  | e => e

namespace ConcentratorServer

/-- A concentrator without identities and counts. -/
def anon (s : ConcentratorServer) : ConcentratorServer :=
  { s with
    sessions := s.sessions.mapValues Session.anon
    rejected := 0, rejectedSources := ∅, handled := 0 }

variable (s : ConcentratorServer)

lemma anon_store (x : Session) (p : PeerLink) :
    (s.store x p).anon = s.anon.store x.anon p.anon := by
  simp only [store, anon, Dict.mapValues_set]
  simp only [Session.anon, Dict.mapValues_set, PeerLink.anon]

@[simp] lemma anon_tally : s.tally.anon = s.anon := rfl

lemma anon_sessionFor (sid : ℕ) (now : Clock) :
    s.anon.sessionFor sid now = (s.sessionFor sid now).anon := by
  simp only [sessionFor, anon, Dict.get?_mapValues]
  cases s.sessions.get? sid with
  | none => rfl
  | some x => rfl

lemma anon_peerFor (x : Session) (lid : ℕ) (addr : Addr) (now : Clock) :
    s.anon.peerFor x.anon lid addr now = (s.peerFor x lid addr now).anon := by
  simp only [peerFor, Session.anon, Dict.get?_mapValues]
  cases x.links.get? lid with
  | none => rfl
  | some p => rfl

lemma anon_send (x : Session) (p : PeerLink) (t : FrameType) (seq : ℕ) (payload : Bytes)
    (sendOk : Bool) :
    s.anon.send x.anon p.anon t seq payload sendOk =
      ((s.send x p t seq payload sendOk).1.map Effect.anon,
        (s.send x p t seq payload sendOk).2.anon) := by
  cases htr : s.transport with
  | false => simp [send, anon, htr]
  | true =>
    simp only [send, anon, Session.anon, PeerLink.anon, PeerLink.nextCounter, htr, Bool.not_true,
      Bool.false_eq_true, if_false]
    cases henc : encodeFrame s.sealer (outFrame x p t seq payload) with
    | error e =>
      rw [outFrame] at henc
      simp only [henc, List.map_singleton, Effect.anon]
    | ok d =>
      rw [outFrame] at henc
      simp only [henc, List.map_singleton, Effect.anon]
      cases sendOk <;> rfl

lemma anon_handleFrame (x : Session) (p : PeerLink) (f : Frame) (now : Clock) (sendOk : Bool) :
    s.anon.handleFrame x.anon p.anon f now sendOk =
      ((s.handleFrame x p f now sendOk).1.map Effect.anon,
        (s.handleFrame x p f now sendOk).2.anon) := by
  have hstore : ∀ (x : Session) (p : PeerLink), s.anon.store x.anon p.anon = (s.store x p).anon :=
    fun x p => (s.anon_store x p).symm
  cases ht : f.type with
  | handshake => simp only [handleFrame, ht, sendControl, anon_send, hstore]
  | keepalive => simp only [handleFrame, ht, sendControl, anon_send, hstore]
  | close =>
    simp only [handleFrame, ht, Session.anon, ← Dict.mapValues_erase, Dict.size_mapValues]
    by_cases hsize : (x.links.erase f.linkId).size = 0
    · simp only [if_pos hsize, anon, Dict.mapValues_erase, List.map_nil]
    · simp only [if_neg hsize, anon, Dict.mapValues_set, List.map_nil, Session.anon]
  | data =>
    by_cases hp : f.payload = []
    · simp only [handleFrame, ht, if_pos hp, hstore, List.map_nil]
    · simp only [handleFrame, ht, if_neg hp, anon_store, List.map_map]
      rfl
  | handshakeAck => simp only [handleFrame, ht, hstore, List.map_nil]
  | linkStats => simp only [handleFrame, ht, hstore, List.map_nil]

/-- `handle_datagram`, without the counts. -/
def receive (data : Bytes) (addr : Addr) (now : Clock) (sendOk : Bool) :
    List Effect × ConcentratorServer :=
  match decodeFrame s.sealer data with
  | none => ([], s)
  | some frame =>
    let session := s.sessionFor frame.sessionId now
    let peer := s.peerFor session frame.linkId addr now
    let (fresh, replay) := peer.replay.checkAndUpdate frame.counter
    let peer := { peer with replay }
    if !fresh then ([], s.store session peer)
    else
      s.handleFrame session { peer with lastSeen := now.wall, rxPackets := peer.rxPackets + 1 }
        frame now sendOk

lemma anon_receive (data : Bytes) (addr : Addr) (now : Clock) (sendOk : Bool) :
    s.anon.receive data addr now sendOk =
      ((s.handleDatagram data addr now sendOk).1.map Effect.anon,
        (s.handleDatagram data addr now sendOk).2.anon) := by
  cases hdec : decodeFrame s.sealer data with
  | none =>
    have hdec' : decodeFrame s.anon.sealer data = none := hdec
    simp only [receive, handleDatagram, hdec, hdec']
    rfl
  | some f =>
    have hdec' : decodeFrame s.anon.sealer data = some f := hdec
    simp only [receive, handleDatagram, hdec, hdec', anon_sessionFor, anon_peerFor]
    generalize s.sessionFor f.sessionId now = x
    generalize s.peerFor x f.linkId addr now = p
    by_cases hfresh : (p.replay.checkAndUpdate f.counter).1 = true
    · have hfresh' : (p.anon.replay.checkAndUpdate f.counter).1 = true := hfresh
      simp only [hfresh, hfresh', Bool.not_true, Bool.false_eq_true, if_false]
      exact s.tally.anon_handleFrame x
        { p with
          replay := (p.replay.checkAndUpdate f.counter).2
          lastSeen := now.wall
          rxPackets := p.rxPackets + 1 } f now sendOk
    · have hfresh' : ¬ (p.anon.replay.checkAndUpdate f.counter).1 = true := hfresh
      simp only [Bool.not_eq_true] at hfresh hfresh'
      simp only [hfresh, hfresh', Bool.not_false, if_true]
      have hstore := s.tally.anon_store x { p with replay := (p.replay.checkAndUpdate f.counter).2 }
      exact congrArg (Prod.mk []) hstore.symm

/-! ### Downstream packets, ticks and the reaper -/

lemma anon_liveLinks (x : Session) (now : Time) :
    x.anon.liveLinks now = (x.liveLinks now).map PeerLink.anon := by
  simp only [Session.liveLinks, Session.anon, Dict.values_mapValues, List.filter_map]
  rfl

lemma anon_pickReturnLink (x : Session) (now : Time) :
    x.anon.pickReturnLink now =
      ((x.pickReturnLink now).1.map PeerLink.anon, (x.pickReturnLink now).2.anon) := by
  have hcursor : x.anon.cursor = x.cursor := rfl
  simp only [Session.pickReturnLink, anon_liveLinks, List.length_map, List.getElem?_map, hcursor]
  cases (x.liveLinks now)[x.cursor % (x.liveLinks now).length]? with
  | none => rfl
  | some p => rfl

lemma anon_dispatchLoop (packet : Bytes) (now : Time) (sendOk : Bool) (l : List Session) :
    s.anon.dispatchLoop packet now sendOk (l.map Session.anon) =
      ((s.dispatchLoop packet now sendOk l).1.map Effect.anon,
        (s.dispatchLoop packet now sendOk l).2.anon) := by
  induction l with
  | nil => rfl
  | cons x l ih =>
    have hpick' := anon_pickReturnLink x now
    cases hpick : x.pickReturnLink now with
    | mk chosen x' =>
      rw [hpick] at hpick'
      cases chosen with
      | none => simp only [List.map_cons, dispatchLoop, hpick, hpick', Option.map_none, ih]
      | some p =>
        simp only [List.map_cons, dispatchLoop, hpick, hpick', Option.map_some]
        have hnext : x'.anon.nextSeq = (x'.nextSeq.1, x'.nextSeq.2.anon) := rfl
        rw [hnext, anon_send, anon_store]

lemma anon_dispatchDownstream (packet : Bytes) (now : Time) (sendOk : Bool) :
    s.anon.dispatchDownstream packet now sendOk =
      ((s.dispatchDownstream packet now sendOk).1.map Effect.anon,
        (s.dispatchDownstream packet now sendOk).2.anon) := by
  have hvalues : s.anon.sessions.values = s.sessions.values.map Session.anon :=
    Dict.values_mapValues _ _
  have hsort : (s.sessions.values.map Session.anon).insertionSort (fun a b => b.created ≤ a.created) =
      (s.sessions.values.insertionSort fun a b => b.created ≤ a.created).map Session.anon :=
    (List.map_insertionSort _ _ Session.anon _ fun _ _ _ _ => Iff.rfl).symm
  rw [dispatchDownstream, hvalues, hsort]
  exact s.anon_dispatchLoop packet now sendOk _

lemma anon_reorderTick (now : Time) :
    s.anon.reorderTick now =
      ((s.reorderTick now).1.map Effect.anon, (s.reorderTick now).2.anon) := by
  simp only [reorderTick, anon, Dict.values_mapValues, Dict.mapValues_mapValues, List.flatMap_map,
    List.map_flatMap, List.map_map]
  rfl

lemma anon_reap (now : Time) : s.anon.reap now = (s.reap now).anon := by
  have hlinks : ∀ x : Session, (x.anon.links.filterValues fun link => link.alive now) =
      (x.links.filterValues fun link => link.alive now).mapValues PeerLink.anon :=
    fun x => Dict.filterValues_mapValues _ _ _
  simp only [reap, anon, Dict.mapValues_mapValues, Dict.filterValues_mapValues, hlinks,
    Dict.size_mapValues]
  simp only [Session.anon]

/-! ### Steps and runs -/

variable {s} {t : ConcentratorServer}

/-- What a step puts out and leaves does not depend on identities and counts. -/
theorem step_congr (h : s.anon = t.anon) (e : Event) :
    (s.step e).1.map Effect.anon = (t.step e).1.map Effect.anon ∧
      (s.step e).2.anon = (t.step e).2.anon := by
  cases e with
  | datagram data addr now sendOk =>
    have hs := s.anon_receive data addr now sendOk
    rw [h, t.anon_receive] at hs
    exact (Prod.mk.inj hs).imp Eq.symm Eq.symm
  | downstream packet now sendOk =>
    have hs := s.anon_dispatchDownstream packet now sendOk
    rw [h, t.anon_dispatchDownstream] at hs
    exact (Prod.mk.inj hs).imp Eq.symm Eq.symm
  | tick now =>
    have hs := s.anon_reorderTick now
    rw [h, t.anon_reorderTick] at hs
    exact (Prod.mk.inj hs).imp Eq.symm Eq.symm
  | reap now =>
    have hs := s.anon_reap now
    rw [h, t.anon_reap] at hs
    exact ⟨rfl, hs.symm⟩

/-! ### Leaving out a session -/

/-- A concentrator without a session. -/
def without (s : ConcentratorServer) (sid : ℕ) : ConcentratorServer :=
  { s with sessions := s.sessions.erase sid }

variable {sid : ℕ}

lemma without_of_none (h : s.sessions.get? sid = none) : s.without sid = s := by
  rw [without, Dict.erase_of_get?_eq_none h]

lemma without_store {x : Session} (hx : x.sessionId ≠ sid) (p : PeerLink) :
    (s.without sid).store x p = (s.store x p).without sid := by
  simp only [store, without, Dict.erase_set_of_ne _ hx]

lemma without_handleFrame {x : Session} {f : Frame} (hx : x.sessionId ≠ sid) (hf : f.sessionId ≠ sid)
    (p : PeerLink) (now : Clock) (sendOk : Bool) :
    (s.without sid).handleFrame x p f now sendOk =
      ((s.handleFrame x p f now sendOk).1, (s.handleFrame x p f now sendOk).2.without sid) := by
  by_cases ht : f.type = .close
  · simp only [handleFrame, ht]
    by_cases hsize : (x.links.erase f.linkId).size = 0
    · simp only [if_pos hsize, without, Dict.erase_erase_comm]
    · simp only [if_neg hsize, without, Dict.erase_set_of_ne _ hf]
  · rw [handleFrame_eq ht, handleFrame_eq ht, without_store (by exact hx)]
    rfl

lemma without_sessionFor {sid' : ℕ} (h : sid' ≠ sid) (now : Clock) :
    (s.without sid).sessionFor sid' now = s.sessionFor sid' now := by
  simp only [sessionFor, without, Dict.get?_erase_of_ne _ h]

/-- A datagram for another session, or for none. -/
lemma without_handleDatagram (hk : Keyed s) {data : Bytes}
    (h : ∀ f, decodeFrame s.sealer data = some f → f.sessionId ≠ sid) (addr : Addr) (now : Clock)
    (sendOk : Bool) :
    (s.without sid).handleDatagram data addr now sendOk =
      ((s.handleDatagram data addr now sendOk).1,
        (s.handleDatagram data addr now sendOk).2.without sid) := by
  cases hdec : decodeFrame s.sealer data with
  | none =>
    have hdec' : decodeFrame (s.without sid).sealer data = none := hdec
    simp only [handleDatagram, hdec, hdec']
    rfl
  | some f =>
    have hf := h f hdec
    have hdec' : decodeFrame (s.without sid).sealer data = some f := hdec
    have hpeer : ∀ x, (s.without sid).peerFor x f.linkId addr now = s.peerFor x f.linkId addr now :=
      fun _ => rfl
    have hx : (s.sessionFor f.sessionId now).sessionId ≠ sid := by
      rwa [hk.sessionId_sessionFor]
    simp only [handleDatagram, hdec, hdec', without_sessionFor hf, hpeer]
    generalize s.sessionFor f.sessionId now = x at hx
    generalize s.peerFor x f.linkId addr now = p
    by_cases hfresh : (p.replay.checkAndUpdate f.counter).1 = true
    · simp only [hfresh, Bool.not_true, Bool.false_eq_true, if_false]
      exact without_handleFrame (s := s.tally) hx hf _ now sendOk
    · simp only [Bool.not_eq_true] at hfresh
      simp only [hfresh, Bool.not_false, if_true]
      have hstore := without_store (s := s.tally) hx
        { p with replay := (p.replay.checkAndUpdate f.counter).2 }
      refine congrArg (Prod.mk []) ?_
      exact congrArg (fun t : ConcentratorServer => { t with rejected := s.rejected + 1 }) hstore

/-- A datagram for the session. -/
lemma without_handleDatagram_self (hk : Keyed s) {data : Bytes} {f : Frame}
    (hdec : decodeFrame s.sealer data = some f) (hf : f.sessionId = sid) (addr : Addr)
    (now : Clock) (sendOk : Bool) :
    ((s.handleDatagram data addr now sendOk).2.without sid).anon = (s.without sid).anon := by
  have hx : (s.sessionFor f.sessionId now).sessionId = sid := by
    rw [hk.sessionId_sessionFor, hf]
  have hanon : ∀ s' : ConcentratorServer, s'.sealer = s.sealer →
      s'.reorderTimeoutMs = s.reorderTimeoutMs → s'.transport = s.transport →
      s'.sessions.erase sid = s.sessions.erase sid → (s'.without sid).anon = (s.without sid).anon := by
    intro s' h₁ h₂ h₃ h₄
    simp only [anon, without, h₁, h₂, h₃, h₄]
  have hset : ∀ x : Session, x.sessionId = sid → ∀ y : Session,
      (s.sessions.set x.sessionId y).erase sid = s.sessions.erase sid := by
    intro x hx y
    rw [hx, Dict.erase_set_self]
  rcases s.handleDatagram_cases data addr now sendOk with
    ⟨hnone, -⟩ | ⟨f', hdec', ⟨-, heq⟩ | ⟨-, heq⟩⟩
  · exact absurd (hdec.symm.trans hnone) (by simp)
  · obtain rfl := Option.some.inj (hdec.symm.trans hdec')
    rw [heq]
    exact hanon _ rfl rfl rfl (hset _ hx _)
  · obtain rfl := Option.some.inj (hdec.symm.trans hdec')
    rw [heq]
    by_cases ht : f.type = .close
    · simp only [handleFrame, ht]
      split
      · exact hanon _ rfl rfl rfl (by rw [hf]; exact Dict.erase_erase_self _ _)
      · exact hanon _ rfl rfl rfl (by rw [hf]; exact Dict.erase_set_self _ _ _)
    · rw [handleFrame_eq ht]
      exact hanon _ rfl rfl rfl (hset _ hx _)

lemma without_reorderTick (now : Time) :
    (s.without sid).reorderTick now =
      (((s.without sid).reorderTick now).1, (s.reorderTick now).2.without sid) := by
  simp only [reorderTick, without, Dict.mapValues_erase]

lemma without_reap (now : Time) : (s.without sid).reap now = (s.reap now).without sid := by
  simp only [reap, without, Dict.mapValues_erase, Dict.filterValues_erase]

/-! ### The session that return traffic takes -/

/-- The frames of packets on their way down, and where they go. -/
def returned (out : List Effect) : List (Frame × Addr) :=
  (sends out).filterMap fun x => if x.frame.type = .data then some (x.frame, x.addr) else none

@[simp] lemma returned_nil : returned [] = [] := rfl

lemma returned_append (out out' : List Effect) :
    returned (out ++ out') = returned out ++ returned out' := by
  rw [returned, sends, List.filterMap_append, List.filterMap_append, returned, returned, sends, sends]

lemma returned_anon (out : List Effect) : returned (out.map Effect.anon) = returned out := by
  simp only [returned, sends, List.filterMap_map, List.filterMap_filterMap]
  refine List.filterMap_congr fun e _ => ?_
  cases e <;> rfl

/-- A session does not get return traffic: none of its links is live, or a session with one was
made later, or at the same time and stands before it. -/
def Overtaken (s : ConcentratorServer) (sid : ℕ) (now : Time) : Prop :=
  ∀ x, s.sessions.get? sid = some x → x.liveLinks now = [] ∨
    ∃ y ∈ s.sessions.values, y.liveLinks now ≠ [] ∧ (x.created < y.created ∨
      x.created = y.created ∧ [y, x].Sublist s.sessions.values)

/-- Whenever a packet goes down, a session is overtaken. -/
def Clear (sid : ℕ) (s : ConcentratorServer) (_ : List Effect) : Event → Prop
  | .downstream _ now _ => s.Overtaken sid now
  | _ => True

lemma pickReturnLink_of_nil {x : Session} {now : Time} (h : x.liveLinks now = []) :
    x.pickReturnLink now = (none, x) := by
  simp [Session.pickReturnLink, h]

lemma pickReturnLink_of_ne_nil {x : Session} {now : Time} (h : x.liveLinks now ≠ []) :
    ∃ p x', x.pickReturnLink now = (some p, x') ∧ x'.sessionId = x.sessionId := by
  have hlt := Nat.mod_lt x.cursor (List.length_pos_iff.2 h)
  refine ⟨(x.liveLinks now)[x.cursor % (x.liveLinks now).length], { x with cursor := x.cursor + 1 },
    ?_, rfl⟩
  simp [Session.pickReturnLink, List.getElem?_eq_getElem hlt]

/-- Sessions that come after one with a live link do not matter, nor do those without. -/
lemma dispatchLoop_filter (s : ConcentratorServer) (packet : Bytes) (now : Time) (sendOk : Bool)
    (p : Session → Bool) (l : List Session)
    (h : ∀ x, l.find? (fun x => x.liveLinks now ≠ []) = some x → p x = true) :
    s.dispatchLoop packet now sendOk (l.filter p) = s.dispatchLoop packet now sendOk l := by
  induction l with
  | nil => rfl
  | cons x l ih =>
    by_cases hlive : x.liveLinks now = []
    · have hskip : ∀ l, s.dispatchLoop packet now sendOk (x :: l) =
          s.dispatchLoop packet now sendOk l := by
        intro l
        rw [dispatchLoop, pickReturnLink_of_nil hlive]
      have ih' := ih fun y hy => h y (by simpa [hlive] using hy)
      rw [hskip, List.filter_cons]
      split
      · rw [hskip, ih']
      · exact ih'
    · -- the packet goes over a link of this session
      have hp : p x = true := h x (by simp [hlive])
      obtain ⟨link, x', hpick, -⟩ := pickReturnLink_of_ne_nil hlive
      rw [List.filter_cons, if_pos hp]
      simp only [dispatchLoop, hpick]

lemma without_dispatchLoop (packet : Bytes) (now : Time) (sendOk : Bool) (l : List Session)
    (h : ∀ x ∈ l, x.sessionId ≠ sid) :
    (s.without sid).dispatchLoop packet now sendOk l =
      ((s.dispatchLoop packet now sendOk l).1,
        (s.dispatchLoop packet now sendOk l).2.without sid) := by
  induction l with
  | nil => rfl
  | cons x l ih =>
    by_cases hlive : x.liveLinks now = []
    · simp only [dispatchLoop, pickReturnLink_of_nil hlive]
      exact ih fun y hy => h y (List.mem_cons_of_mem _ hy)
    · obtain ⟨link, x', hpick, hx'⟩ := pickReturnLink_of_ne_nil hlive
      have hne : x'.sessionId ≠ sid := hx' ▸ h x List.mem_cons_self
      simp only [dispatchLoop, hpick]
      exact congrArg (Prod.mk _) (without_store (by exact hne) _)

/-- Sessions from the newest to the oldest. -/
def newestFirst (l : List Session) : List Session :=
  l.insertionSort fun a b => b.created ≤ a.created

lemma filter_newestFirst (p : Session → Bool) (l : List Session) :
    newestFirst (l.filter p) = (newestFirst l).filter p := by
  have : IsTrans Session fun a b => b.created ≤ a.created := ⟨fun _ _ _ h h' => h'.trans h⟩
  have : Std.Total fun a b : Session => b.created ≤ a.created := ⟨fun a b => le_total _ _⟩
  exact filter_insertionSort _ p l

lemma Keyed.sessionId_of_mem (h : Keyed s) {e : ℕ × Session} (he : e ∈ s.sessions.entries) :
    e.2.sessionId = e.1 :=
  h.session e.1 e.2 ((Dict.get?_eq_some_iff _ _ _).2 he)

/-- The values of the table without a session. -/
lemma Keyed.values_without (h : Keyed s) :
    (s.without sid).sessions.values = s.sessions.values.filter fun x => x.sessionId ≠ sid := by
  simp only [without, Dict.values, Dict.erase, List.filter_map]
  refine congrArg (List.map Prod.snd) (List.filter_congr fun e he => ?_)
  rw [Function.comp_apply, h.sessionId_of_mem he]

lemma Keyed.nodup_values (h : Keyed s) : s.sessions.values.Nodup := by
  have hkeys : s.sessions.values.map Session.sessionId = s.sessions.keys := by
    rw [Dict.values, Dict.keys, List.map_map]
    exact List.map_congr_left fun e he => h.sessionId_of_mem he
  exact List.Nodup.of_map _ (hkeys ▸ s.sessions.keys_nodup)

/-- An overtaken session is not the first with a live link. -/
lemma Keyed.find?_newestFirst (h : Keyed s) {now : Time} (ho : s.Overtaken sid now) {x : Session}
    (hx : (newestFirst s.sessions.values).find? (fun x => x.liveLinks now ≠ []) = some x) :
    x.sessionId ≠ sid := by
  rintro rfl
  have htrans : IsTrans Session fun a b => b.created ≤ a.created := ⟨fun _ _ _ h h' => h'.trans h⟩
  have htotal : Std.Total fun a b : Session => b.created ≤ a.created := ⟨fun a b => le_total _ _⟩
  have hnodup : (newestFirst s.sessions.values).Nodup :=
    (List.perm_insertionSort _ _).nodup_iff.2 h.nodup_values
  have hsorted := List.pairwise_insertionSort (fun a b : Session => b.created ≤ a.created)
    s.sessions.values
  obtain ⟨hlive, l₁, l₂, hl, hbefore⟩ := List.find?_eq_some_iff_append.1 hx
  have hmem : x ∈ s.sessions.values :=
    (List.mem_insertionSort _).1 (List.mem_of_find?_eq_some hx)
  obtain ⟨k, hk⟩ := (Dict.mem_values_iff _ _).1 hmem
  obtain rfl := h.session k x hk
  rcases ho x hk with hdead | ⟨y, hy, hylive, hcreated⟩
  · exact absurd hdead (by simpa using hlive)
  · -- the other session is not among those before `x`, which have no live link
    have hy₁ : y ∉ l₁ := fun hy₁ => by simpa [hylive] using hbefore y hy₁
    rw [newestFirst] at hl hnodup
    rcases hcreated with hlt | ⟨heq, hsub⟩
    · have hy₂ : y ∈ l₁ ++ x :: l₂ := hl ▸ (List.mem_insertionSort _).2 hy
      rcases List.mem_append.1 hy₂ with hy₂ | hy₂
      · exact hy₁ hy₂
      · rw [hl] at hsorted
        have hx₂ := (List.pairwise_cons.1 (List.pairwise_append.1 hsorted).2.1).1
        rcases List.mem_cons.1 hy₂ with rfl | hy₂
        · exact lt_irrefl _ hlt
        · exact absurd (hx₂ y hy₂) (not_le.2 hlt)
    · have hsub' := List.pair_sublist_insertionSort (r := fun a b : Session => b.created ≤ a.created)
        heq.le hsub
      rw [hl] at hsub' hnodup
      have hx₂ : x ∉ l₂ := (List.nodup_cons.1 (List.nodup_append.1 hnodup).2.1).1
      obtain ⟨a, b, hab, ha, hb⟩ := List.sublist_append_iff.1 hsub'
      cases a with
      | nil =>
        rw [List.nil_append] at hab
        rw [← hab] at hb
        rcases List.cons_sublist_cons'.1 hb with hb | ⟨-, hb⟩
        · exact hx₂ (hb.subset (by simp))
        · exact hx₂ (hb.subset (by simp))
      | cons c a =>
        obtain ⟨rfl, -⟩ := List.cons.inj hab
        exact hy₁ (ha.subset List.mem_cons_self)

/-- A packet goes down as if an overtaken session were not there. -/
lemma Keyed.without_dispatchDownstream (h : Keyed s) (packet : Bytes) {now : Time}
    (ho : s.Overtaken sid now) (sendOk : Bool) :
    (s.without sid).dispatchDownstream packet now sendOk =
      ((s.dispatchDownstream packet now sendOk).1,
        (s.dispatchDownstream packet now sendOk).2.without sid) := by
  have hloop : s.dispatchDownstream packet now sendOk = s.dispatchLoop packet now sendOk
      (newestFirst (s.without sid).sessions.values) := by
    rw [h.values_without, filter_newestFirst, dispatchLoop_filter]
    · rfl
    · exact fun x hx => by simpa using h.find?_newestFirst ho hx
  rw [hloop]
  refine without_dispatchLoop packet now sendOk _ fun x hx => ?_
  have hmem := (List.mem_insertionSort _).1 hx
  rw [h.values_without] at hmem
  simpa using (List.mem_filter.1 hmem).2

/-- The frame that an event carries. -/
def Event.frame? (sealer : Util.Sealer) : Event → Option Frame
  | .datagram data _ _ _ => decodeFrame sealer data
  | _ => none

/-- An event carries a frame of a session. -/
def Event.Names (sealer : Util.Sealer) (sid : ℕ) (e : Event) : Prop :=
  ∃ f, e.frame? sealer = some f ∧ f.sessionId = sid

/-- Packets go down in their own steps only. -/
lemma Keyed.returned_step (h : Keyed s) {e : Event}
    (he : ∀ packet now sendOk, e ≠ .downstream packet now sendOk) : returned (s.step e).1 = [] := by
  refine List.filterMap_eq_nil_iff.2 fun sent hsent => if_neg fun htype => ?_
  rcases (sends_step h hsent).2 with hne | ⟨packet, now, sendOk, -, rfl, -⟩
  · exact absurd htype hne
  · exact absurd rfl (he packet now sendOk)

/-- A step that has nothing to do with a session does as if the session were not there. -/
lemma Keyed.without_step (h : Keyed s) {e : Event} (he : ¬ e.Names s.sealer sid) {hist : List Effect}
    (hc : Clear sid s hist e) :
    returned ((s.without sid).step e).1 = returned (s.step e).1 ∧
      ((s.without sid).step e).2 = (s.step e).2.without sid := by
  cases e with
  | datagram data addr now sendOk =>
    have heq := without_handleDatagram h (fun f hf hsid => he ⟨f, hf, hsid⟩) addr now sendOk
    exact ⟨congrArg (fun x => returned x.1) heq, congrArg Prod.snd heq⟩
  | downstream packet now sendOk =>
    have heq := h.without_dispatchDownstream packet hc sendOk
    exact ⟨congrArg (fun x => returned x.1) heq, congrArg Prod.snd heq⟩
  | tick now =>
    have hnil : ∀ s : ConcentratorServer, returned (s.reorderTick now).1 = [] := by
      intro s
      rw [returned, sends_reorderTick]
      rfl
    exact ⟨(hnil _).trans (hnil _).symm, congrArg Prod.snd (without_reorderTick now)⟩
  | reap now => exact ⟨rfl, without_reap now⟩

/-- A step that carries a frame of a session changes nothing else, and sends no packet down. -/
lemma Keyed.without_step_self (h : Keyed s) {e : Event} (he : e.Names s.sealer sid) :
    returned (s.step e).1 = [] ∧ ((s.step e).2.without sid).anon = (s.without sid).anon := by
  obtain ⟨f, hf, hsid⟩ := he
  cases e with
  | datagram data addr now sendOk =>
    exact ⟨h.returned_step (by simp), without_handleDatagram_self h hf hsid addr now sendOk⟩
  | _ => exact absurd hf (by simp [Event.frame?])


/-- Two concentrators that are alike but for a session. -/
structure Alike (sid : ℕ) (s t : ConcentratorServer) : Prop where
  left : Keyed s
  right : Keyed t
  anon : (s.without sid).anon = (t.without sid).anon

lemma Alike.sealer_eq (h : Alike sid s t) : s.sealer = t.sealer := by
  have hsealer := congrArg ConcentratorServer.sealer h.anon
  exact hsealer

/-- Both make the same step. -/
lemma Alike.step (h : Alike sid s t) {e : Event} {hist hist' : List Effect}
    (hs : Clear sid s hist e) (ht : Clear sid t hist' e) :
    returned (s.step e).1 = returned (t.step e).1 ∧ Alike sid (s.step e).2 (t.step e).2 := by
  by_cases he : e.Names s.sealer sid
  · obtain ⟨hs₁, hs₂⟩ := h.left.without_step_self he
    obtain ⟨ht₁, ht₂⟩ := h.right.without_step_self (h.sealer_eq ▸ he)
    exact ⟨hs₁.trans ht₁.symm, h.left.step e, h.right.step e, hs₂.trans (h.anon.trans ht₂.symm)⟩
  · obtain ⟨hs₁, hs₂⟩ := h.left.without_step he hs
    obtain ⟨ht₁, ht₂⟩ := h.right.without_step (h.sealer_eq ▸ he) ht
    obtain ⟨hout, hanon⟩ := step_congr h.anon e
    rw [← returned_anon] at hs₁ ht₁
    refine ⟨?_, h.left.step e, h.right.step e, ?_⟩
    · rw [← hs₁, ← ht₁, hout]
    · rw [← hs₂, ← ht₂, hanon]

/-- One makes a step that carries a frame of the session. -/
lemma Alike.step_left (h : Alike sid s t) {e : Event} (he : e.Names s.sealer sid) :
    returned (s.step e).1 = [] ∧ Alike sid (s.step e).2 t := by
  obtain ⟨hs₁, hs₂⟩ := h.left.without_step_self he
  exact ⟨hs₁, h.left.step e, h.right, hs₂.trans h.anon⟩

lemma returned_run_cons (e : Event) (events : List Event) (s : ConcentratorServer) :
    returned (run (e :: events) s).1 =
      returned (s.step e).1 ++ returned (run events (s.step e).2).1 := by
  rw [run, Machine.run_cons, returned_append]
  rfl

/-- **Two runs.**  When some of the events that carry frames of a session are left out of a run,
the same packets go down the same way, as long as the session is overtaken in both runs. -/
theorem Alike.returned_filter (keep : Event → Bool) (events : List Event) :
    ∀ {s t : ConcentratorServer} {hist hist' : List Effect}, Alike sid s t →
      (∀ e, keep e = false → e.Names s.sealer sid) →
      Machine.Meets ConcentratorServer.step (Clear sid) events s hist →
      Machine.Meets ConcentratorServer.step (Clear sid) (events.filter keep) t hist' →
        returned (run events s).1 = returned (run (events.filter keep) t).1 := by
  induction events with
  | nil => exact fun _ _ _ _ => rfl
  | cons e events ih =>
    intro s t hist hist' h hkeep hs ht
    have hkeep' : ∀ e', keep e' = false → e'.Names (s.step e).2.sealer sid := by
      rw [step_sealer]
      exact hkeep
    rw [returned_run_cons]
    cases hk : keep e with
    | true =>
      rw [List.filter_cons, if_pos hk] at ht ⊢
      obtain ⟨hout, hnext⟩ := h.step hs.1 ht.1
      rw [returned_run_cons, hout, ih hnext hkeep' hs.2 ht.2]
    | false =>
      rw [List.filter_cons, if_neg (by simp [hk])] at ht ⊢
      obtain ⟨hout, hnext⟩ := h.step_left (hkeep e hk)
      rw [hout, List.nil_append, ih hnext hkeep' hs.2 ht]

end ConcentratorServer

end Turbobond.Bond
