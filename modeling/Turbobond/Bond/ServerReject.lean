import Turbobond.Bond.Codec
import Turbobond.Bond.ServerTable

/-!
# Rejected datagrams

`handle_datagram` finds or makes the session and the link, and moves the link to the address a
datagram came from, before the replay window has its say.  So a datagram that is rejected leaves
everything as it was only if there was nothing to make and nowhere to move.
-/

namespace Turbobond.Bond.ConcentratorServer

variable {s : ConcentratorServer}

/-- Nothing but the count of rejections and the sources it has logged. -/
def OnlyCounted (s s' : ConcentratorServer) : Prop :=
  s' = { s with
    rejected := s'.rejected, rejectedSources := s'.rejectedSources, handled := s'.handled }

/-- What a rejected frame would change is not there: the frame is for a link that is known and
comes from its address, or it is not rejected. -/
def Settled (s : ConcentratorServer) (f : Frame) (addr : Addr) : Prop :=
  match s.peer? f.sessionId f.linkId with
  | none => f.counter ≠ 0
  | some p => p.replay.Covers f.counter → p.addr = addr

lemma arrival_of_none {f : Frame} (h : s.peer? f.sessionId f.linkId = none) (addr : Addr)
    (now : Clock) : s.arrival f addr now =
      { linkId := f.linkId, addr, lastSeen := now.wall, ident := s.handled } := by
  rw [arrival, peerFor_eq, h]
  rfl

lemma arrival_of_some {f : Frame} {p : PeerLink} (h : s.peer? f.sessionId f.linkId = some p)
    (addr : Addr) (now : Clock) : s.arrival f addr now = { p with addr } := by
  rw [arrival, peerFor_eq, h]
  rfl

/-- A new link rejects no counter but zero. -/
lemma covers_new (counter : ℕ) : ({} : ReplayWindow).Covers counter ↔ counter = 0 := by
  rw [ReplayWindow.tracks_empty 4096 counter]
  simp

/-- A frame that is taken is not counted as rejected. -/
lemma rejected_handleFrame (session : Session) (peer : PeerLink) (f : Frame) (now : Clock)
    (sendOk : Bool) : (s.handleFrame session peer f now sendOk).2.rejected = s.rejected := by
  obtain ⟨sessions, h⟩ := s.handleFrame_snd session peer f now sendOk
  rw [h]

/-- Storing a link of a known session as it is. -/
lemma Keyed.store_self (h : Keyed s) {sid lid : ℕ} {x : Session} {p : PeerLink}
    (hx : s.sessions.get? sid = some x) (hp : x.links.get? lid = some p) :
    (s.store x p).sessions = s.sessions := by
  have hid := h.session sid x hx
  have hx' : s.sessions.get? x.sessionId = some x := by
    rw [hid]
    exact hx
  have hl : p.linkId = lid := h.peer sid lid p ((peer?_of_session hx lid).trans hp)
  rw [ConcentratorServer.store, hl, Dict.set_of_get? hp]
  exact Dict.set_of_get? hx'

lemma OnlyCounted.peer? {s' : ConcentratorServer} (h : OnlyCounted s s') (sid lid : ℕ) :
    s'.peer? sid lid = s.peer? sid lid := by
  rw [OnlyCounted] at h
  rw [h]
  rfl

/-- When the window refuses a counter, the link is there afterwards, at its new address. -/
lemma Keyed.peer?_refused (h : Keyed s) (f : Frame) (addr : Addr) (now : Clock) :
    (s.tally.store (s.sessionFor f.sessionId now) (s.arrival f addr now)).peer?
      f.sessionId f.linkId = some (s.arrival f addr now) := by
  rw [peer?_store, if_pos (h.sessionId_sessionFor f.sessionId now).symm,
    if_pos (h.linkId_arrival f addr now).symm]

/-- When the link is known and at its address, the refusal changes no session. -/
lemma Keyed.sessions_refused (h : Keyed s) {f : Frame} {p : PeerLink}
    (hp : s.peer? f.sessionId f.linkId = some p) (now : Clock) :
    (s.tally.store (s.sessionFor f.sessionId now) (s.arrival f p.addr now)).sessions =
      s.sessions := by
  obtain ⟨x, hx, hlink⟩ := Option.bind_eq_some_iff.1 hp
  have hfor : s.sessionFor f.sessionId now = x := by rw [sessionFor, hx, Option.getD_some]
  rw [hfor, arrival_of_some hp]
  exact h.store_self hx hlink

lemma settled_of_decode {data : Bytes} {f : Frame} (hdec : decodeFrame s.sealer data = some f)
    {addr : Addr} : (∀ f', decodeFrame s.sealer data = some f' → Settled s f' addr) ↔
      Settled s f addr := by
  rw [hdec]
  simp

/-- A rejected datagram changes nothing but the counts if and only if it does not authenticate,
or what it would change is not there. -/
lemma Keyed.rejection_iff (h : Keyed s) (data : Bytes) (addr : Addr) (now : Clock)
    (sendOk : Bool) :
    ((s.handleDatagram data addr now sendOk).2.rejected ≠ s.rejected →
        OnlyCounted s (s.handleDatagram data addr now sendOk).2) ↔
      ∀ f, decodeFrame s.sealer data = some f → Settled s f addr := by
  rcases s.handleDatagram_cases data addr now sendOk with
    ⟨hdec, heq⟩ | ⟨f, hdec, ⟨hcov, heq⟩ | ⟨hcov, heq⟩⟩
  · rw [heq]
    exact iff_of_true (fun _ => rfl) fun f hf => absurd (hdec.symm.trans hf) (by simp)
  · -- the window refuses the counter
    have hstored := h.peer?_refused f addr now
    rw [heq, settled_of_decode hdec]
    have hne : s.rejected + 1 ≠ s.rejected := Nat.succ_ne_self _
    cases hp : s.peer? f.sessionId f.linkId with
    | none =>
      -- a link has been made
      rw [arrival_of_none hp] at hcov
      have h₀ : f.counter = 0 := (covers_new _).1 hcov
      simp only [Settled, hp, h₀, ne_eq, not_true_eq_false, iff_false]
      intro hcounted
      have hsame := (hcounted hne).peer? f.sessionId f.linkId
      rw [hp] at hsame
      exact absurd (hstored.symm.trans hsame) (by simp)
    | some p =>
      rw [arrival_of_some hp] at hcov
      simp only [Settled, hp, show p.replay.Covers f.counter from hcov, true_imp_iff]
      constructor
      · intro hcounted
        have hsame := (hcounted hne).peer? f.sessionId f.linkId
        rw [hp] at hsame
        have hpeer := hsame.symm.trans hstored
        rw [arrival_of_some hp] at hpeer
        exact congrArg PeerLink.addr (Option.some.inj hpeer)
      · rintro rfl -
        have hsessions := h.sessions_refused hp now
        rw [OnlyCounted]
        simp only [hsessions]
        rfl
  · -- the frame is taken
    rw [heq, rejected_handleFrame, rejected_tally, settled_of_decode hdec]
    refine iff_of_true (fun hne => absurd rfl hne) ?_
    rw [Settled]
    split
    · rename_i hp
      rw [arrival_of_none hp] at hcov
      exact fun h₀ => hcov (Or.inl h₀)
    · rename_i p hp
      rw [arrival_of_some hp] at hcov
      exact fun hc => absurd hc hcov

/-- **Rejections.**  In every state of a concentrator, a rejected datagram changes nothing but
the counts if and only if it does not authenticate, or its frame is for a known link at the
address it comes from, or would not be rejected. -/
theorem rejection_only_counted_iff (sealer : Util.Sealer) (reorderTimeoutMs : ℚ)
    (events : List Event) (data : Bytes) (addr : Addr) (now : Clock) (sendOk : Bool) :
    let s := (start sealer reorderTimeoutMs).after events
    ((s.handleDatagram data addr now sendOk).2.rejected ≠ s.rejected →
        OnlyCounted s (s.handleDatagram data addr now sendOk).2) ↔
      ∀ f, decodeFrame sealer data = some f → Settled s f addr := by
  have h := (keyed_start sealer reorderTimeoutMs events).rejection_iff data addr now sendOk
  rwa [after_sealer] at h

/-- A handshake, as a client seals it. -/
def handshakeDatagram : Bytes :=
  datagram ⟨Util.Aead.plain⟩ { type := .handshake, sessionId := 7, linkId := 1, counter := 1 }

/-- A copy of a handshake, sent from elsewhere, is rejected and moves the link. -/
theorem rejection_moves_link :
    ¬ ∀ (events : List Event) (data : Bytes) (addr : Addr) (now : Clock) (sendOk : Bool),
      let s := (start ⟨Util.Aead.plain⟩ 90).after events
      (s.handleDatagram data addr now sendOk).2.rejected ≠ s.rejected →
        OnlyCounted s (s.handleDatagram data addr now sendOk).2 := by
  intro h
  have hcounted := h [.datagram handshakeDatagram ("198.51.100.7", 40000) ⟨1000, 0⟩ true]
    handshakeDatagram ("203.0.113.9", 9) ⟨1001, 1⟩ true (by decide +kernel)
  have hsame := congrArg (Option.map PeerLink.addr) (hcounted.peer? 7 1)
  exact absurd hsame (by decide +kernel)

end Turbobond.Bond.ConcentratorServer
