import Turbobond.Bond.Effects
import Turbobond.Bond.Reorder

/-!
# The concentrator

The datapath of `turbobond/bond/server.py`: what `handle_datagram`, `_dispatch_downstream`,
the reorder ticker and the reaper do to the table of sessions, and what they put out.

The source mutates a `Session` or a `PeerLink` in place.  Here each is a value, stored back
under its key; the number `ident` says which of the objects made under one key it is, as
`id` does in Python.  Where a call reads a clock more than once, one reading stands for all.
Log lines are left out.
-/

namespace Turbobond.Bond

open Util

/-- `SESSION_IDLE_TIMEOUT_S`. -/
def sessionIdleTimeoutS : Time := 120

structure PeerLink where
  linkId : ℕ
  addr : Addr
  counter : ℕ := 0
  rxPackets : ℕ := 0
  txPackets : ℕ := 0
  lastSeen : Time
  replay : ReplayWindow := {}
  ident : ℕ
  deriving DecidableEq

namespace PeerLink

/-- `next_counter`. -/
def nextCounter (p : PeerLink) : ℕ × PeerLink :=
  (p.counter + 1, { p with counter := p.counter + 1 })

def alive (p : PeerLink) (now : Time) : Bool := now - p.lastSeen < sessionIdleTimeoutS

end PeerLink

structure Session where
  sessionId : ℕ
  links : Dict ℕ PeerLink := Dict.empty
  reorder : ReorderBuffer Bytes
  seq : ℕ := 0
  created : Time
  cursor : ℕ := 0
  ident : ℕ

namespace Session

/-- `next_seq`. -/
def nextSeq (s : Session) : ℕ × Session := (s.seq + 1, { s with seq := s.seq + 1 })

def liveLinks (s : Session) (now : Time) : List PeerLink :=
  s.links.values.filter fun link => link.alive now

/-- `pick_return_link`: spread downstream packets across the links the client has up. -/
def pickReturnLink (s : Session) (now : Time) : Option PeerLink × Session :=
  let live := s.liveLinks now
  match live[s.cursor % live.length]? with
  | none => (none, s)
  | some link => (some link, { s with cursor := s.cursor + 1 })

end Session

structure ConcentratorServer where
  sealer : Sealer
  reorderTimeoutMs : ℚ := 90
  sessions : Dict ℕ Session := Dict.empty
  /-- Whether `_transport` is there. -/
  transport : Bool := true
  rejected : ℕ := 0
  rejectedSources : Finset String := ∅
  /-- The number of genuine datagrams handled, which numbers the objects they make. -/
  handled : ℕ := 0

namespace ConcentratorServer

/-- A concentrator that has just started. -/
def start (sealer : Sealer) (reorderTimeoutMs : ℚ) : ConcentratorServer :=
  { sealer, reorderTimeoutMs }

/-- One more genuine datagram. -/
def tally (s : ConcentratorServer) : ConcentratorServer := { s with handled := s.handled + 1 }

/-- The session of an id, made if there is none. -/
def sessionFor (s : ConcentratorServer) (sessionId : ℕ) (now : Clock) : Session :=
  (s.sessions.get? sessionId).getD
    { sessionId, reorder := .new s.reorderTimeoutMs 4096, created := now.wall, ident := s.handled }

/-- The link of an id in a session, made if there is none, at the address it now sends from:
carrier NAT rebinds ports regularly. -/
def peerFor (s : ConcentratorServer) (session : Session) (linkId : ℕ) (addr : Addr)
    (now : Clock) : PeerLink :=
  { (session.links.get? linkId).getD { linkId, addr, lastSeen := now.wall, ident := s.handled } with
    addr }

/-- A session, and a link in it, as they are after a call that has changed them. -/
def store (s : ConcentratorServer) (session : Session) (peer : PeerLink) : ConcentratorServer :=
  { s with
    sessions := s.sessions.set session.sessionId
      { session with links := session.links.set peer.linkId peer } }

/-- `_send`. -/
def send (s : ConcentratorServer) (session : Session) (peer : PeerLink) (frameType : FrameType)
    (seq : ℕ) (payload : Bytes) (sendOk : Bool) : List Effect × PeerLink :=
  if !s.transport then ([], peer)
  else
    let (counter, peer) := peer.nextCounter
    let frame : Frame :=
      { type := frameType, sessionId := session.sessionId, linkId := peer.linkId, counter, seq
        payload }
    match encodeFrame s.sealer frame with
    | .error e => ([.raise e], peer)
    | .ok datagram =>
      ([.send { holder := peer.ident, stream := session.ident, frame, datagram, addr := peer.addr }],
        -- `sendto` may raise an `OSError`, which is suppressed
        if sendOk then { peer with txPackets := peer.txPackets + 1 } else peer)

/-- `_send_control`. -/
def sendControl (s : ConcentratorServer) (session : Session) (peer : PeerLink)
    (frameType : FrameType) (sendOk : Bool) : List Effect × PeerLink :=
  s.send session peer frameType 0 [] sendOk

/-- The rest of `handle_datagram`, once the replay window has let the frame through. -/
def handleFrame (s : ConcentratorServer) (session : Session) (peer : PeerLink) (frame : Frame)
    (now : Clock) (sendOk : Bool) : List Effect × ConcentratorServer :=
  match frame.type with
  | .handshake =>
    let (out, peer) := s.sendControl session peer .handshakeAck sendOk
    (out, s.store session peer)
  | .keepalive =>
    let (out, peer) := s.sendControl session peer .keepalive sendOk
    (out, s.store session peer)
  | .close =>
    let links := session.links.erase frame.linkId
    if links.size = 0 then ([], { s with sessions := s.sessions.erase frame.sessionId })
    else ([], { s with sessions := s.sessions.set frame.sessionId { session with links } })
  | .data =>
    if frame.payload = [] then ([], s.store session peer)
    else
      let (out, reorder) := session.reorder.push frame.seq frame.payload now.mono
      (out.map fun e => .write session.sessionId e.2, s.store { session with reorder } peer)
  | _ => ([], s.store session peer)

/-- `handle_datagram`: client to internet. -/
def handleDatagram (s : ConcentratorServer) (data : Bytes) (addr : Addr) (now : Clock)
    (sendOk : Bool) : List Effect × ConcentratorServer :=
  match decodeFrame s.sealer data with
  | none =>
    ([], { s with rejected := s.rejected + 1, rejectedSources := insert addr.1 s.rejectedSources })
  | some frame =>
    let session := s.sessionFor frame.sessionId now
    let peer := s.peerFor session frame.linkId addr now
    let s := s.tally
    let (fresh, replay) := peer.replay.checkAndUpdate frame.counter
    let peer := { peer with replay }
    if !fresh then ([], { s.store session peer with rejected := s.rejected + 1 })
    else
      let peer := { peer with lastSeen := now.wall, rxPackets := peer.rxPackets + 1 }
      s.handleFrame session peer frame now sendOk

/-- The loop of `_dispatch_downstream`, over the sessions from the newest to the oldest. -/
def dispatchLoop (s : ConcentratorServer) (packet : Bytes) (now : Time) (sendOk : Bool) :
    List Session → List Effect × ConcentratorServer
  | [] => ([], s)
  | session :: rest =>
    match session.pickReturnLink now with
    | (none, _) => s.dispatchLoop packet now sendOk rest
    | (some peer, session) =>
      let (seq, session) := session.nextSeq
      let (out, peer) := s.send session peer .data seq packet sendOk
      (out, s.store session peer)

/-- `_dispatch_downstream`: internet to client. -/
def dispatchDownstream (s : ConcentratorServer) (packet : Bytes) (now : Time) (sendOk : Bool) :
    List Effect × ConcentratorServer :=
  s.dispatchLoop packet now sendOk
    (s.sessions.values.insertionSort fun a b => b.created ≤ a.created)

/-- One round of `_reorder_ticker`. -/
def reorderTick (s : ConcentratorServer) (now : Time) : List Effect × ConcentratorServer :=
  (s.sessions.values.flatMap fun session =>
      (session.reorder.tick now).1.map fun e => .write session.sessionId e.2,
    { s with
      sessions := s.sessions.mapValues fun session =>
        { session with reorder := (session.reorder.tick now).2 } })

/-- One round of `_reaper`: drop links and sessions that have gone silent. -/
def reap (s : ConcentratorServer) (now : Time) : ConcentratorServer :=
  let sessions := s.sessions.mapValues fun session =>
    { session with links := session.links.filterValues fun link => link.alive now }
  { s with sessions := sessions.filterValues fun session => session.links.size ≠ 0 }

/-! ### Runs -/

/-- What can happen to a concentrator. -/
inductive Event where
  | datagram (data : Bytes) (addr : Addr) (now : Clock) (sendOk : Bool)
  | downstream (packet : Bytes) (now : Time) (sendOk : Bool)
  | tick (now : Time)
  | reap (now : Time)
  deriving DecidableEq

def step (s : ConcentratorServer) : Event → List Effect × ConcentratorServer
  | .datagram data addr now sendOk => s.handleDatagram data addr now sendOk
  | .downstream packet now sendOk => s.dispatchDownstream packet now sendOk
  | .tick now => s.reorderTick now
  | .reap now => ([], s.reap now)

def run (events : List Event) (s : ConcentratorServer) : List Effect × ConcentratorServer :=
  Machine.run step events s

/-- The state a list of events leads to. -/
def after (s : ConcentratorServer) (events : List Event) : ConcentratorServer := (run events s).2

@[simp] lemma after_nil (s : ConcentratorServer) : s.after [] = s := rfl

lemma after_concat (s : ConcentratorServer) (events : List Event) (e : Event) :
    s.after (events ++ [e]) = ((s.after events).step e).2 := by
  rw [after, run, Machine.run_concat]
  rfl

end ConcentratorServer

end Turbobond.Bond
