import Turbobond.Bond.Selfcheck
import Turbobond.Bond.ServerLedger
import Turbobond.Bond.ServerReplay

/-!
# Running the self-check again

The result of `check_handshake`, and when every run of it in the life of a concentrator succeeds.
Each run sends the same frame, which a concentrator that remembers the last one takes for a replay.
-/

namespace Turbobond.Bond

/-- The name of a member. -/
def FrameType.name : FrameType → String
  | data => "DATA"
  | keepalive => "KEEPALIVE"
  | handshake => "HANDSHAKE"
  | handshakeAck => "HANDSHAKE_ACK"
  | linkStats => "LINK_STATS"
  | close => "CLOSE"

namespace Selfcheck

inductive Status where
  | ok
  | warn
  | fail
  deriving DecidableEq

structure Result where
  status : Status
  title : String
  detail : String := ""
  deriving DecidableEq

/-- The result of a handshake that succeeds. -/
def succeeded : Result := { status := .ok, title := "handshake succeeded using the installed key" }

/-- What `check_handshake` makes of the first datagram that arrives at its socket, if one does. -/
def verdict (installed : Util.Sealer) : Option Bytes → Result
  | none =>
    { status := .fail
      title := "the concentrator did not answer its own handshake"
      detail := "it is listening but not replying; check the log" }
  | some data =>
    match decodeFrame installed data with
    | none =>
      { status := .fail
        title := "the reply did not authenticate"
        detail := "the running key differs from the installed one" }
    | some reply =>
      if reply.type ≠ .handshakeAck then
        { status := .warn, title := s!"unexpected reply {reply.type.name}" }
      else succeeded

end Selfcheck

namespace ConcentratorServer

open Selfcheck

/-- An event is a datagram that comes from an address. -/
def Event.From (addr : Addr) : Event → Prop
  | .datagram _ source _ _ => source = addr
  | _ => False

instance (addr : Addr) : DecidablePred (Event.From addr)
  | .datagram _ _ _ _ => inferInstanceAs (Decidable (_ = _))
  | .downstream _ _ _ | .tick _ | .reap _ => inferInstanceAs (Decidable False)

/-- A run of `check_handshake`: the address of its socket, what the concentrator handles before the
frame arrives, when that is, and what it handles until the timeout.  The address is its own as long
as it has the socket. -/
structure SelfCheck where
  addr : Addr
  meanwhile : List Event
  now : Clock
  later : List Event
  own : ∀ e ∈ meanwhile ++ later, ¬ e.From addr

/-- The datagrams that arrive at an address, among some effects. -/
def arrived (addr : Addr) (out : List Effect) : List Bytes :=
  ((sends out).filter fun sent => sent.addr = addr).map Sealed.datagram

/-- `check_handshake`, with a key, against a running concentrator; on the loopback no datagram is
lost. -/
def checkHandshake (installed : Util.Sealer) (s : ConcentratorServer) (c : SelfCheck) :
    Result × ConcentratorServer :=
  let frame := datagram installed checkFrame
  let (out, s) := run (c.meanwhile ++ .datagram frame c.addr c.now true :: c.later) s
  (verdict installed (arrived c.addr out).head?, s)

/-- The frame is sealed without an exception. -/
lemma encodeFrame_checkFrame (installed : Util.Sealer) :
    encodeFrame installed checkFrame = .ok (datagram installed checkFrame) :=
  encodeFrame_eq_ok_iff.2 ⟨by decide, by decide, rfl⟩

/-- What happens at a host that runs a concentrator. -/
inductive Action where
  | event (e : Event)
  | check (c : SelfCheck)

/-- One action, with the result of a self-check. -/
def act (installed : Util.Sealer) (s : ConcentratorServer) : Action → List Result × ConcentratorServer
  | .event e => ([], (s.step e).2)
  | .check c =>
    let (result, s) := s.checkHandshake installed c
    ([result], s)

/-- When the frame of a self-check arrives, the concentrator does not remember its counter on its
uplink, and has sent nothing to its socket before. -/
def Forgotten (s : ConcentratorServer) : Action → Prop
  | .event _ => True
  | .check c =>
    (∀ sent ∈ sends (run c.meanwhile s).1, sent.addr ≠ c.addr) ∧
      ¬ ((s.after c.meanwhile).window checkFrame.sessionId checkFrame.linkId).Covers
        checkFrame.counter

variable {s : ConcentratorServer}

/-! ### What is sent where -/

lemma transport_step (s : ConcentratorServer) (e : Event) : (s.step e).2.transport = s.transport := by
  cases e with
  | datagram data addr now sendOk =>
    rcases s.handleDatagram_cases data addr now sendOk with ⟨-, heq⟩ | ⟨f, -, ⟨-, heq⟩ | ⟨-, heq⟩⟩
    · rw [step, heq]
    · rw [step, heq]
      rfl
    · obtain ⟨sessions, hs⟩ :=
        s.tally.handleFrame_snd (s.sessionFor f.sessionId now) (s.recorded f addr now) f now sendOk
      rw [step, heq, hs]
      rfl
  | downstream packet now sendOk =>
    rcases s.dispatchLoop_cases packet now sendOk
      (s.sessions.values.insertionSort fun a b => b.created ≤ a.created) with
      heq | ⟨x, -, p, -, x', -, heq⟩
    · rw [step, dispatchDownstream, heq]
    · rw [step, dispatchDownstream, heq]
      rfl
  | tick now => rfl
  | reap now => rfl

lemma addr_of_sends_send {session : Session} {p : PeerLink} {t : FrameType} {seq : ℕ}
    {payload : Bytes} {sendOk : Bool} {sent : Sealed}
    (h : sent ∈ sends (s.send session p t seq payload sendOk).1) : sent.addr = p.addr := by
  rcases s.send_cases session p t seq payload sendOk with
    ⟨-, heq⟩ | ⟨-, tx, out, heq, ⟨e, -, rfl⟩ | ⟨d, -, rfl⟩⟩
  · rw [heq] at h
    exact absurd h List.not_mem_nil
  · rw [heq] at h
    exact absurd h (by simp [sends])
  · rw [heq] at h
    obtain rfl := List.mem_singleton.1 h
    rfl

/-- Only an answer to a datagram is anything else than a packet, and it goes where the datagram came
from. -/
lemma data_or_from_of_sends {e : Event} {sent : Sealed} (h : sent ∈ sends (s.step e).1) :
    sent.frame.type = .data ∨ e.From sent.addr := by
  cases e with
  | datagram data addr now sendOk =>
    right
    rcases s.handleDatagram_cases data addr now sendOk with
      ⟨-, heq⟩ | ⟨f, -, ⟨-, heq⟩ | ⟨-, heq⟩⟩
    · rw [step, heq] at h
      exact absurd h List.not_mem_nil
    · rw [step, heq] at h
      exact absurd h List.not_mem_nil
    · rw [step, heq] at h
      by_cases ht : f.type = .close
      · simp only [handleFrame, ht] at h
        split at h <;> exact absurd h List.not_mem_nil
      · rw [handleFrame_eq ht, sends_append, sends_write, List.append_nil, reply] at h
        split at h
        · exact (addr_of_sends_send h).symm
        · exact (addr_of_sends_send h).symm
        · exact absurd h List.not_mem_nil
  | downstream packet now sendOk =>
    left
    rw [step, dispatchDownstream] at h
    rcases s.dispatchLoop_cases packet now sendOk
      (s.sessions.values.insertionSort fun a b => b.created ≤ a.created) with
      heq | ⟨x, -, p, -, x', -, heq⟩
    · rw [heq] at h
      exact absurd h List.not_mem_nil
    · rw [heq] at h
      obtain ⟨hframe, -, -⟩ := sends_send_sealed h
      rw [hframe]
      rfl
  | tick now =>
    rw [step, sends_reorderTick] at h
    exact absurd h List.not_mem_nil
  | reap now => exact absurd h List.not_mem_nil

/-- What a run sends to an address that nothing comes from is a packet, and opens under the key. -/
lemma data_of_sends_run {addr : Addr} {events : List Event} (hk : Keyed s)
    (hown : ∀ e ∈ events, ¬ e.From addr) {sent : Sealed} (h : sent ∈ sends (run events s).1)
    (haddr : sent.addr = addr) :
    sent.frame.type = .data ∧ encodeFrame s.sealer sent.frame = .ok sent.datagram := by
  induction events generalizing s with
  | nil => exact absurd h List.not_mem_nil
  | cons e events ih =>
    rw [List.forall_mem_cons] at hown
    rw [run, Machine.run_cons, sends_append] at h
    rcases List.mem_append.1 h with h | h
    · refine ⟨(data_or_from_of_sends h).resolve_right fun hfrom => hown.1 (haddr ▸ hfrom), ?_⟩
      exact (sends_step hk h).1
    · have := ih (hk.step e) hown.2 h
      rwa [step_sealer] at this

/-- A datagram that is no answer to the handshake is no success. -/
lemma verdict_ne_of_data {installed : Util.Sealer} {sent : Sealed} (htype : sent.frame.type = .data)
    (hsealed : encodeFrame installed sent.frame = .ok sent.datagram) :
    verdict installed (some sent.datagram) ≠ succeeded := by
  obtain ⟨-, hl, heq⟩ := encodeFrame_eq_ok_iff.1 hsealed
  have hdec : decodeFrame installed sent.datagram = some sent.frame.masked := by
    rw [heq, decodeFrame_datagram _ _ hl]
  have hmasked : sent.frame.masked.type = .data := htype
  simp [verdict, hdec, hmasked, succeeded]

/-- What arrives from a run at an address of its own, first, is no success. -/
lemma verdict_ne_of_arrived {installed : Util.Sealer} {addr : Addr} {events : List Event}
    (hk : Keyed s) (hsealer : s.sealer = installed) (hown : ∀ e ∈ events, ¬ e.From addr) :
    verdict installed (arrived addr (run events s).1).head? ≠ succeeded := by
  cases hhead : (arrived addr (run events s).1).head? with
  | none => simp [verdict, succeeded]
  | some data =>
    obtain ⟨sent, hsent, rfl⟩ := List.mem_map.1 (List.mem_of_mem_head? hhead)
    obtain ⟨hmem, haddr⟩ := List.mem_filter.1 hsent
    obtain ⟨htype, hsealed⟩ := data_of_sends_run hk hown hmem (of_decide_eq_true haddr)
    exact verdict_ne_of_data htype (hsealer ▸ hsealed)

/-- The frame of the self-check is answered if and only if its counter is not remembered. -/
lemma arrived_check {installed : Util.Sealer} (hk : Keyed s) (hsealer : s.sealer = installed)
    (htransport : s.transport = true) (addr : Addr) (now : Clock) :
    ((s.window checkFrame.sessionId checkFrame.linkId).Covers checkFrame.counter ∧
      arrived addr (s.step (.datagram (datagram installed checkFrame) addr now true)).1 = []) ∨
    (¬ (s.window checkFrame.sessionId checkFrame.linkId).Covers checkFrame.counter ∧
      ∃ data, verdict installed (some data) = succeeded ∧
        arrived addr (s.step (.datagram (datagram installed checkFrame) addr now true)).1 = [data]) := by
  have hdec : decodeFrame s.sealer (datagram installed checkFrame) = some checkFrame := by
    rw [hsealer, decodeFrame_datagram _ _ (by decide)]
    rfl
  rcases s.handleDatagram_cases (datagram installed checkFrame) addr now true with
    ⟨hnone, -⟩ | ⟨f, hf, hcases⟩
  · exact absurd (hdec.symm.trans hnone) (by simp)
  · obtain rfl : checkFrame = f := Option.some.inj (hdec.symm.trans hf)
    rw [arrival_replay] at hcases
    rcases hcases with ⟨hcov, heq⟩ | ⟨hcov, heq⟩
    · exact Or.inl ⟨hcov, by rw [step, heq]; rfl⟩
    · refine Or.inr ⟨hcov, ?_⟩
      rw [step, heq, handleFrame_eq (by decide)]
      have hlink : (s.recorded checkFrame addr now).linkId < 2 ^ 32 := by
        rw [hk.linkId_recorded]
        decide
      have hreply : s.tally.reply (s.sessionFor checkFrame.sessionId now)
          (s.recorded checkFrame addr now) checkFrame true =
          s.tally.send (s.sessionFor checkFrame.sessionId now) (s.recorded checkFrame addr now)
            .handshakeAck 0 [] true := rfl
      rw [hreply]
      rcases s.tally.send_cases (s.sessionFor checkFrame.sessionId now)
        (s.recorded checkFrame addr now) .handshakeAck 0 [] true with
        ⟨hnone, -⟩ | ⟨-, tx, out, hsend, ⟨e, herror, -⟩ | ⟨d, hok, rfl⟩⟩
      · exact absurd (htransport.symm.trans hnone) (by simp)
      · have hok : encodeFrame s.tally.sealer (outFrame (s.sessionFor checkFrame.sessionId now)
            (s.recorded checkFrame addr now) .handshakeAck 0 []) = .ok _ :=
          encodeFrame_eq_ok_iff.2 ⟨Nat.zero_le _, hlink, rfl⟩
        exact absurd (hok.symm.trans herror) (by simp)
      · refine ⟨d, ?_, ?_⟩
        · obtain ⟨-, -, hd⟩ := encodeFrame_eq_ok_iff.1 hok
          have hdec' : decodeFrame installed d = some (Frame.masked (outFrame
              (s.sessionFor checkFrame.sessionId now) (s.recorded checkFrame addr now)
              .handshakeAck 0 [])) := by
            rw [hd, ← hsealer]
            exact decodeFrame_datagram _ _ hlink
          simp [verdict, hdec', Frame.masked, outFrame]
        · rw [hsend, arrived, sends_append, sends_write, List.append_nil]
          have haddr : (s.recorded checkFrame addr now).addr = addr := rfl
          simp [sends, haddr]

/-- What a host that runs a concentrator keeps. -/
structure Running (installed : Util.Sealer) (s : ConcentratorServer) : Prop where
  keyed : Keyed s
  sealer : s.sealer = installed
  transport : s.transport = true

lemma Running.step {installed : Util.Sealer} (h : Running installed s) (e : Event) :
    Running installed (s.step e).2 :=
  ⟨h.keyed.step e, (step_sealer s e).trans h.sealer, (transport_step s e).trans h.transport⟩

lemma Running.after {installed : Util.Sealer} (h : Running installed s) (events : List Event) :
    Running installed (s.after events) := by
  induction events using List.reverseRecOn with
  | nil => exact h
  | append_singleton events e ih =>
    rw [after_concat]
    exact ih.step e

lemma Running.act {installed : Util.Sealer} (h : Running installed s) (a : Action) :
    Running installed (s.act installed a).2 := by
  cases a with
  | event e => exact h.step e
  | check c => exact h.after _

/-- A self-check succeeds if and only if it finds itself forgotten. -/
lemma Running.checkHandshake_iff {installed : Util.Sealer} (h : Running installed s) (c : SelfCheck) :
    (s.checkHandshake installed c).1 = succeeded ↔ s.Forgotten (.check c) := by
  have hmeanwhile : ∀ e ∈ c.meanwhile, ¬ e.From c.addr :=
    fun e he => c.own e (List.mem_append_left _ he)
  have hlater : ∀ e ∈ c.later, ¬ e.From c.addr := fun e he => c.own e (List.mem_append_right _ he)
  have hafter := h.after c.meanwhile
  have hfirst := verdict_ne_of_arrived h.keyed h.sealer hmeanwhile
  have hcheck := arrived_check hafter.keyed hafter.sealer hafter.transport c.addr c.now
  have hthen := verdict_ne_of_arrived (hafter.step (.datagram (datagram installed checkFrame) c.addr
    c.now true)).keyed (hafter.step _).sealer hlater
  have hout : arrived c.addr (run (c.meanwhile ++ .datagram (datagram installed checkFrame) c.addr c.now
      true :: c.later) s).1 =
      arrived c.addr (run c.meanwhile s).1 ++
        (arrived c.addr ((s.after c.meanwhile).step (.datagram (datagram installed checkFrame) c.addr
          c.now true)).1 ++
        arrived c.addr (run c.later ((s.after c.meanwhile).step (.datagram
          (datagram installed checkFrame) c.addr c.now true)).2).1) := by
    simp only [arrived, run, ConcentratorServer.after, Machine.run_append, Machine.run_cons,
      sends_append, List.filter_append, List.map_append]
  have hquiet : (∀ sent ∈ sends (run c.meanwhile s).1, sent.addr ≠ c.addr) ↔
      arrived c.addr (run c.meanwhile s).1 = [] := by
    simp [arrived, List.filter_eq_nil_iff]
  rw [checkHandshake, Forgotten, hquiet]
  simp only [hout]
  cases harrived : arrived c.addr (run c.meanwhile s).1 with
  | cons data rest =>
    rw [harrived] at hfirst
    exact iff_of_false hfirst fun hnot => absurd hnot.1 (by simp)
  | nil =>
    rw [List.nil_append]
    rcases hcheck with ⟨hcov, hnil⟩ | ⟨hcov, data, hok, hdata⟩
    · rw [hnil, List.nil_append]
      exact iff_of_false hthen fun hnot => hnot.2 hcov
    · rw [hdata]
      exact iff_of_true hok ⟨rfl, hcov⟩

/-- **Self-checks over and over.**  In the life of a concentrator every run of the self-check
succeeds if and only if each finds itself forgotten when its frame arrives. -/
theorem checkHandshake_succeeds_iff (installed : Util.Sealer) (reorderTimeoutMs : ℚ)
    (actions : List Action) :
    (∀ result ∈ (Machine.run (act installed) actions (start installed reorderTimeoutMs)).1,
        result = succeeded) ↔
      Machine.Meets (act installed) (fun s _ a => s.Forgotten a) actions
        (start installed reorderTimeoutMs) [] := by
  refine Machine.forall_mem_run_iff_meets (act installed) (I := Running installed)
    (fun s a h => h.act a) (fun s a h => ?_) actions ⟨keyed_start installed reorderTimeoutMs [], rfl, rfl⟩
  cases a with
  | event e => exact iff_of_true (fun result hresult => absurd hresult List.not_mem_nil) trivial
  | check c =>
    rw [← h.checkHandshake_iff c]
    simp [act]

/-- A self-check against an idle concentrator. -/
def oneCheck (port : ℕ) (now : Clock) : SelfCheck where
  addr := ("127.0.0.1", port)
  meanwhile := []
  now
  later := []
  own := by simp

/-- The second of two self-checks, five seconds after the first, is not answered. -/
theorem checkHandshake_not_repeatable :
    ¬ ∀ result ∈ (Machine.run (act ⟨Util.Aead.plain⟩)
      [.check (oneCheck 50000 ⟨1000, 0⟩), .check (oneCheck 50001 ⟨1005, 5⟩)]
      (start ⟨Util.Aead.plain⟩ 90)).1, result = succeeded := by
  decide +kernel

end ConcentratorServer

end Turbobond.Bond
