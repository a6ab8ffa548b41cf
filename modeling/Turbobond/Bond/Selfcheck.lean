import Turbobond.Bond.Codec
import Turbobond.Bond.ServerTwin

/-!
# The self-check

The handshake that `check_handshake` of `turbobond/bond/selfcheck.py` sends to the running
concentrator.  It opens a session like any other, and the newest session with a live link gets
the return traffic.
-/

namespace Turbobond.Bond.ConcentratorServer

variable {s : ConcentratorServer}

/-- The frame that `check_handshake` has sealed. -/
def checkFrame : Frame :=
  { type := .handshake, sessionId := 0x7EC0DE, linkId := 1, counter := 1, seq := 0, payload := [] }

/-- An event is the arrival of the self-check's datagram. -/
def Event.IsCheck (sealer : Util.Sealer) : Event → Prop
  | .datagram data _ _ _ => encodeFrame sealer checkFrame = .ok data
  | _ => False

instance (sealer : Util.Sealer) : DecidablePred (Event.IsCheck sealer)
  | .datagram _ _ _ _ => inferInstanceAs (Decidable (_ = _))
  | .downstream _ _ _ | .tick _ | .reap _ => inferInstanceAs (Decidable False)

lemma names_of_isCheck {sealer : Util.Sealer} {e : Event} (h : e.IsCheck sealer) :
    e.Names sealer checkFrame.sessionId := by
  cases e with
  | datagram data addr now sendOk =>
    obtain ⟨-, hl, rfl⟩ := encodeFrame_eq_ok_iff.1 h
    exact ⟨_, decodeFrame_datagram sealer checkFrame hl, rfl⟩
  | _ => exact h.elim

/-- **Self-checks.**  From any state of a concentrator on, the same packets go down the same way
with self-checks as without, if at no packet the session of the self-check is the newest with a
live link. -/
theorem returned_of_checks (sealer : Util.Sealer) (reorderTimeoutMs : ℚ)
    (before events : List Event)
    (hwith : Machine.Meets step (Clear checkFrame.sessionId) events
      ((start sealer reorderTimeoutMs).after before) [])
    (hwithout : Machine.Meets step (Clear checkFrame.sessionId)
      (events.filter fun e => ¬ e.IsCheck sealer) ((start sealer reorderTimeoutMs).after before) []) :
    returned (run events ((start sealer reorderTimeoutMs).after before)).1 =
      returned (run (events.filter fun e => ¬ e.IsCheck sealer)
        ((start sealer reorderTimeoutMs).after before)).1 := by
  have hk := keyed_start sealer reorderTimeoutMs before
  have halike : Alike checkFrame.sessionId ((start sealer reorderTimeoutMs).after before) _ :=
    ⟨hk, hk, rfl⟩
  refine halike.returned_filter _ events (fun e he => ?_) hwith hwithout
  have hcheck : e.IsCheck sealer := by simpa using he
  rw [after_sealer]
  exact names_of_isCheck hcheck

lemma overtaken_of_silent {sid : ℕ} {now : Time}
    (h : (s.sessions.get? sid).all (fun x => (x.liveLinks now).isEmpty) = true) :
    s.Overtaken sid now := by
  intro x hx
  rw [hx] at h
  exact Or.inl (List.isEmpty_iff.1 h)

/-- A client's handshake and its keepalive, and the self-check. -/
def clientHandshake : Bytes :=
  datagram ⟨Util.Aead.plain⟩ { type := .handshake, sessionId := 7, linkId := 1, counter := 1 }

def clientKeepalive : Bytes :=
  datagram ⟨Util.Aead.plain⟩ { type := .keepalive, sessionId := 7, linkId := 1, counter := 2 }

def check : Bytes := datagram ⟨Util.Aead.plain⟩ checkFrame

/-- A self-check, and a packet over two minutes later. -/
def checkAndWait : List Event :=
  [.datagram check ("127.0.0.1", 50000) ⟨1001, 1⟩ true,
    .datagram clientKeepalive ("198.51.100.7", 40000) ⟨1100, 100⟩ true,
    .downstream [1] 1125 true]

theorem returned_checkAndWait :
    returned (run checkAndWait ((start ⟨Util.Aead.plain⟩ 90).after
        [.datagram clientHandshake ("198.51.100.7", 40000) ⟨1000, 0⟩ true])).1 =
      returned (run (checkAndWait.filter fun e => ¬ e.IsCheck ⟨Util.Aead.plain⟩)
        ((start ⟨Util.Aead.plain⟩ 90).after
          [.datagram clientHandshake ("198.51.100.7", 40000) ⟨1000, 0⟩ true])).1 := by
  refine returned_of_checks _ _ _ _ ?_ ?_
  · exact ⟨trivial, trivial, overtaken_of_silent (by decide +kernel), trivial⟩
  · have hfilter : (checkAndWait.filter fun e => ¬ e.IsCheck ⟨Util.Aead.plain⟩) =
        [.datagram clientKeepalive ("198.51.100.7", 40000) ⟨1100, 100⟩ true,
          .downstream [1] 1125 true] := by
      decide +kernel
    rw [hfilter]
    exact ⟨trivial, overtaken_of_silent (by decide +kernel), trivial⟩

/-- A packet right after a self-check goes to the self-check. -/
theorem check_takes_traffic :
    ¬ ∀ (before : List Event) (addr : Addr) (now : Clock) (sendOk : Bool) (events : List Event),
      let s := (start ⟨Util.Aead.plain⟩ 90).after before
      (∃ x ∈ s.sessions.values, x.liveLinks now.wall ≠ []) →
        returned (run (.datagram check addr now sendOk :: events) s).1 =
          returned (run events s).1 := by
  intro h
  have hsame := h [.datagram clientHandshake ("198.51.100.7", 40000) ⟨1000, 0⟩ true]
    ("127.0.0.1", 50000) ⟨1001, 1⟩ true [.downstream [1] 1002 true] ?_
  · exact absurd hsame (by decide +kernel)
  · have hlive : (((start ⟨Util.Aead.plain⟩ 90).after [.datagram clientHandshake
        ("198.51.100.7", 40000) ⟨1000, 0⟩ true]).sessions.values.any
          fun x => !(x.liveLinks 1001).isEmpty) = true := by
      decide +kernel
    obtain ⟨x, hx, hlive⟩ := List.any_eq_true.1 hlive
    exact ⟨x, hx, by simpa using hlive⟩

end Turbobond.Bond.ConcentratorServer
