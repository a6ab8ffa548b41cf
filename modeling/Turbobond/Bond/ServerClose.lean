import Turbobond.Bond.ServerReject
import Turbobond.Bond.ServerTwin

/-!
# Closed sessions

When a session's last link says CLOSE, `handle_datagram` forgets the session, and its replay
windows with it.  A datagram that the client had sealed before and that arrives only now, or
arrives again, is then the first of a new session.
-/

namespace Turbobond.Bond.ConcentratorServer

variable {s : ConcentratorServer} {sid : ℕ}

instance (sealer : Util.Sealer) (sid : ℕ) : DecidablePred (Event.Names sealer sid) := fun e =>
  inferInstanceAs (Decidable (∃ f ∈ e.frame? sealer, f.sessionId = sid))

/-- An event is the CLOSE that ends a session. -/
def Closes (s : ConcentratorServer) (sid : ℕ) (e : Event) : Prop :=
  ((e.frame? s.sealer).any fun f => f.type = .close ∧ f.sessionId = sid) ∧
    s.sessions.get? sid ≠ none ∧ (s.step e).2.sessions.get? sid = none

instance : Decidable (s.Closes sid e) := inferInstanceAs (Decidable (_ ∧ _ ∧ _))

/-- What an event carries for a session is a CLOSE that its client has counted. -/
def Event.Ends (sealer : Util.Sealer) (sid : ℕ) (e : Event) : Prop :=
  ∀ f, e.frame? sealer = some f → f.sessionId = sid → f.type = .close ∧ f.counter ≠ 0

instance (sealer : Util.Sealer) (sid : ℕ) : DecidablePred (Event.Ends sealer sid) := fun e =>
  inferInstanceAs (Decidable (∀ f ∈ e.frame? sealer, f.sessionId = sid →
    f.type = .close ∧ f.counter ≠ 0))

/-! ### One step -/

lemma overtaken_of_none (h : s.sessions.get? sid = none) (now : Time) : s.Overtaken sid now :=
  fun _ hx => absurd (h.symm.trans hx) (by simp)

lemma clear_of_none (h : s.sessions.get? sid = none) (hist : List Effect) (e : Event) :
    Clear sid s hist e := by
  cases e with
  | downstream packet now sendOk => exact overtaken_of_none h now
  | _ => trivial

lemma get?_store_self (x : Session) (p : PeerLink) :
    (s.store x p).sessions.get? x.sessionId ≠ none := by
  simp [get?_store]

/-- Where a session is not, what does not name it does not make it. -/
lemma Keyed.get?_step_of_not_names (h : Keyed s) (hnone : s.sessions.get? sid = none) {e : Event}
    (he : ¬ e.Names s.sealer sid) : (s.step e).2.sessions.get? sid = none := by
  obtain ⟨-, hnext⟩ := h.without_step he (clear_of_none hnone [] e)
  rw [without_of_none hnone] at hnext
  rw [hnext]
  simp [without]

/-- A frame for a session that is not there makes it, unless it is a CLOSE. -/
lemma Keyed.get?_handleDatagram_iff (h : Keyed s) {data : Bytes} {f : Frame}
    (hnone : s.sessions.get? f.sessionId = none) (hdec : decodeFrame s.sealer data = some f)
    (addr : Addr) (now : Clock) (sendOk : Bool) :
    (s.handleDatagram data addr now sendOk).2.sessions.get? f.sessionId = none ↔
      f.type = .close ∧ f.counter ≠ 0 := by
  have hpeer : s.peer? f.sessionId f.linkId = none := by rw [peer?, hnone, Option.bind_none]
  have hid := h.sessionId_sessionFor f.sessionId now
  have hcov : (s.arrival f addr now).replay.Covers f.counter ↔ f.counter = 0 := by
    rw [arrival_of_none hpeer, covers_new]
  have hstored : ∀ (s : ConcentratorServer) (x : Session) (p : PeerLink),
      x.sessionId = f.sessionId → (s.store x p).sessions.get? f.sessionId ≠ none := by
    intro s x p hx
    rw [← hx]
    exact get?_store_self x p
  rcases s.handleDatagram_cases data addr now sendOk with
    ⟨hdec', -⟩ | ⟨f', hdec', ⟨hc, heq⟩ | ⟨hc, heq⟩⟩
  · exact absurd (hdec.symm.trans hdec') (by simp)
  · -- the link is made, and then the counter is refused
    obtain rfl := Option.some.inj (hdec.symm.trans hdec')
    rw [heq]
    exact iff_of_false (hstored s.tally _ _ hid) fun hclose => hclose.2 (hcov.1 hc)
  · obtain rfl := Option.some.inj (hdec.symm.trans hdec')
    have hcounter : f.counter ≠ 0 := fun hzero => hc (hcov.2 hzero)
    rw [heq]
    by_cases ht : f.type = .close
    · -- the session is made, and its only link closes again
      have hlinks : (s.sessionFor f.sessionId now).links = Dict.empty := by
        rw [sessionFor, hnone]
        rfl
      have hsize : (Dict.erase (Dict.empty : Dict ℕ PeerLink) f.linkId).size = 0 := rfl
      simp only [ConcentratorServer.handleFrame, ht, hlinks, if_pos hsize, Dict.get?_erase, if_true]
      exact iff_of_true trivial ⟨trivial, hcounter⟩
    · rw [handleFrame_eq ht]
      exact iff_of_false (hstored s.tally _ _ hid) fun hclose => ht hclose.1

lemma Keyed.get?_step_iff (h : Keyed s) (hnone : s.sessions.get? sid = none) (e : Event) :
    (s.step e).2.sessions.get? sid = none ↔ e.Ends s.sealer sid := by
  by_cases he : e.Names s.sealer sid
  · obtain ⟨f, hf, rfl⟩ := he
    have hends : e.Ends s.sealer f.sessionId ↔ f.type = .close ∧ f.counter ≠ 0 := by
      simp [Event.Ends, hf]
    cases e with
    | datagram data addr now sendOk =>
      exact (h.get?_handleDatagram_iff hnone hf addr now sendOk).trans hends.symm
    | _ => exact absurd hf (by simp [Event.frame?])
  · exact iff_of_true (h.get?_step_of_not_names hnone he) fun f hf hsid => absurd ⟨f, hf, hsid⟩ he

/-! ### Runs -/

/-- Every event of a run ends a session, as long as the sealer stays. -/
lemma meets_ends_iff (events : List Event) (s : ConcentratorServer) (hist : List Effect) :
    Machine.Meets ConcentratorServer.step (fun s _ e => e.Ends s.sealer sid) events s hist ↔
      ∀ e ∈ events, e.Ends s.sealer sid := by
  induction events generalizing s hist with
  | nil => simp [Machine.Meets]
  | cons e events ih => rw [Machine.Meets, List.forall_mem_cons, ih, step_sealer]

/-- A session that is not there stays away as long as only its CLOSEs come. -/
lemma Keyed.get?_after_iff (h : Keyed s) (hnone : s.sessions.get? sid = none) (events : List Event) :
    (∀ pre, pre <+: events → (s.after pre).sessions.get? sid = none) ↔
      ∀ e ∈ events, e.Ends s.sealer sid := by
  have hkept : (∀ pre, pre <+: events →
      Keyed (s.after pre) ∧ (s.after pre).sessions.get? sid = none) ↔
        ∀ e ∈ events, e.Ends s.sealer sid :=
    (Machine.forall_prefix_iff_meets ConcentratorServer.step (C := fun s e => e.Ends s.sealer sid)
      (P := fun s => Keyed s ∧ s.sessions.get? sid = none)
      (fun s e hs => (and_iff_right (hs.1.step e)).trans (hs.1.get?_step_iff hs.2 e)) events
      ⟨h, hnone⟩).trans (meets_ends_iff events s [])
  rw [← hkept]
  exact forall₂_congr fun pre _ => (and_iff_right (h.after pre)).symm

/-- And it gets no return traffic. -/
lemma Keyed.meets_clear (h : Keyed s) (hnone : s.sessions.get? sid = none) {events : List Event}
    (hends : ∀ e ∈ events, e.Ends s.sealer sid) (hist : List Effect) :
    Machine.Meets ConcentratorServer.step (Clear sid) events s hist :=
  Machine.Meets.imp ConcentratorServer.step
    (I := fun s _ => Keyed s ∧ s.sessions.get? sid = none)
    (fun _ _ e hs he => ⟨hs.1.step e, (hs.1.get?_step_iff hs.2 e).2 he⟩)
    (fun _ hist e hs _ => clear_of_none hs.2 hist e) events ⟨h, hnone⟩
    ((meets_ends_iff events s hist).2 hends)

/-- **Closed sessions.**  After the CLOSE of a session's last link, the session is not made again
and packets go down as if nothing of it came any more, if and only if all that still comes of it
is a CLOSE.  A client draws a new session id when it starts again, so whatever names the closed
session had been sealed before. -/
theorem closed_iff (sealer : Util.Sealer) (reorderTimeoutMs : ℚ) (before : List Event)
    (closing : Event) (later : List Event) (sid : ℕ)
    (hclose : ((start sealer reorderTimeoutMs).after before).Closes sid closing) :
    ((∀ pre, pre <+: later →
        ((start sealer reorderTimeoutMs).after (before ++ closing :: pre)).sessions.get? sid = none) ∧
      returned (run later ((start sealer reorderTimeoutMs).after (before ++ [closing]))).1 =
        returned (run (later.filter fun e => ¬ e.Names sealer sid)
          ((start sealer reorderTimeoutMs).after (before ++ [closing]))).1) ↔
      ∀ e ∈ later, e.Ends sealer sid := by
  obtain ⟨s, hs⟩ : ∃ s, (start sealer reorderTimeoutMs).after (before ++ [closing]) = s := ⟨_, rfl⟩
  have hkeyed : Keyed s := hs ▸ keyed_start sealer reorderTimeoutMs _
  have hsealer : s.sealer = sealer := by
    rw [← hs, after_sealer]
    rfl
  have hnone : s.sessions.get? sid = none := by
    rw [← hs, after_concat]
    exact hclose.2.2
  have hafter : ∀ pre, (start sealer reorderTimeoutMs).after (before ++ closing :: pre) =
      s.after pre := by
    intro pre
    rw [← hs, after, after, after, run, run, run, List.append_cons, Machine.run_append]
  rw [hs]
  simp only [hafter]
  subst hsealer
  rw [hkeyed.get?_after_iff hnone]
  refine and_iff_left_of_imp fun hends => ?_
  have halike : Alike sid s s := ⟨hkeyed, hkeyed, rfl⟩
  refine halike.returned_filter _ later (fun e he => ?_)
    (hkeyed.meets_clear hnone hends []) (hkeyed.meets_clear hnone (fun e he => ?_) [])
  · simpa using he
  · exact hends e (List.mem_of_mem_filter he)

/-- The datagrams of session 7 over its one link: it opens, sends a packet, and closes. -/
def opening : Bytes :=
  datagram ⟨Util.Aead.plain⟩ { type := .handshake, sessionId := 7, linkId := 1, counter := 1 }

def upload : Bytes :=
  datagram ⟨Util.Aead.plain⟩
    { type := .data, sessionId := 7, linkId := 1, counter := 2, seq := 1, payload := [42] }

def farewell : Bytes :=
  datagram ⟨Util.Aead.plain⟩ { type := .close, sessionId := 7, linkId := 1, counter := 3 }

/-- The same client, started again. -/
def reopening : Bytes :=
  datagram ⟨Util.Aead.plain⟩ { type := .handshake, sessionId := 8, linkId := 1, counter := 1 }

/-- After the last CLOSE has come twice, a packet goes down to the next session as if it had come
once. -/
theorem closed_farewell :
    returned (run [.datagram reopening ("198.51.100.7", 40001) ⟨1002, 2⟩ true,
        .datagram farewell ("198.51.100.7", 40000) ⟨1003, 3⟩ true, .downstream [1] 1004 true]
      ((start ⟨Util.Aead.plain⟩ 90).after
        [.datagram opening ("198.51.100.7", 40000) ⟨1000, 0⟩ true,
          .datagram farewell ("198.51.100.7", 40000) ⟨1001, 1⟩ true])).1 =
    returned (run ([.datagram reopening ("198.51.100.7", 40001) ⟨1002, 2⟩ true,
        .datagram farewell ("198.51.100.7", 40000) ⟨1003, 3⟩ true, .downstream [1] 1004 true].filter
          fun e => ¬ e.Names ⟨Util.Aead.plain⟩ 7)
      ((start ⟨Util.Aead.plain⟩ 90).after
        [.datagram opening ("198.51.100.7", 40000) ⟨1000, 0⟩ true,
          .datagram farewell ("198.51.100.7", 40000) ⟨1001, 1⟩ true])).1 :=
  ((closed_iff ⟨Util.Aead.plain⟩ 90 [.datagram opening ("198.51.100.7", 40000) ⟨1000, 0⟩ true]
    (.datagram farewell ("198.51.100.7", 40000) ⟨1001, 1⟩ true) _ 7 (by decide +kernel)).2
    (by decide +kernel)).2

/-- A packet that was overtaken by the CLOSE opens the session again, and takes the return traffic
from the client's next session. -/
theorem reopened_by_upload :
    ¬ ∀ (before later : List Event) (closing : Event) (f : Frame),
      let s := (start ⟨Util.Aead.plain⟩ 90).after before
      closing.frame? ⟨Util.Aead.plain⟩ = some f → s.Closes f.sessionId closing →
        (∀ e ∈ later, ∀ f' ∈ e.frame? ⟨Util.Aead.plain⟩, f'.sessionId = f.sessionId →
          f'.linkId = f.linkId ∧ f'.counter < f.counter) →
        (∀ pre, pre <+: later → ((s.step closing).2.after pre).sessions.get? f.sessionId = none) ∧
          returned (run later (s.step closing).2).1 =
            returned (run (later.filter fun e => ¬ e.Names ⟨Util.Aead.plain⟩ f.sessionId)
              (s.step closing).2).1 := by
  intro h
  have hsame := h [.datagram opening ("198.51.100.7", 40000) ⟨1000, 0⟩ true]
    [.datagram reopening ("198.51.100.7", 40001) ⟨1002, 2⟩ true,
      .datagram upload ("198.51.100.7", 40000) ⟨1003, 3⟩ true, .downstream [1] 1004 true]
    (.datagram farewell ("198.51.100.7", 40000) ⟨1001, 1⟩ true)
    { type := .close, sessionId := 7, linkId := 1, counter := 3 }
    (by decide +kernel) (by decide +kernel) (by decide +kernel)
  exact absurd hsame.2 (by decide +kernel)

end Turbobond.Bond.ConcentratorServer
