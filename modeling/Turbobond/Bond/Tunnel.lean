import Turbobond.Bond.Scheduler
import Turbobond.Bond.Server
import Turbobond.Config.Model

/-!
# The client's tunnel

The datapath of `turbobond/bond/tunnel.py`.  The methods are coroutines: wherever one awaits,
others may run, so each is cut at its awaits into steps, and the steps of all of them may
come in any order.  A call of `_send_packet` under way is kept in `sending`.

A `Link` is shared between the scheduler and its `LinkSocket`, and what one holder changes
the others see; `modifyLink` changes it in both places.
-/

namespace Turbobond.Bond

open Config Links Util

/-- The UDP socket dedicated to one uplink. -/
structure LinkSocket (K : Type) [Zero K] [One K] where
  link : Link K
  counter : ℕ := 0
  txPackets : ℕ := 0
  txBytes : ℕ := 0
  rxPackets : ℕ := 0
  rxBytes : ℕ := 0
  lastRxTs : Time := 0
  lastTxTs : Time := 0
  handshaken : Bool := false
  replay : ReplayWindow := {}
  ident : ℕ

/-- A call of `_send_packet` that still has copies to send, over these links. -/
structure Outgoing where
  seq : ℕ
  packet : Bytes
  links : List ℕ
  deriving DecidableEq

structure BondingTunnel (K : Type) [Zero K] [One K] where
  cfg : ConcentratorConfig
  sealer : Sealer
  sessionId : ℕ
  sipPorts : List ℤ
  scheduler : BondScheduler K
  reorder : ReorderBuffer Bytes
  sockets : Dict ℕ (LinkSocket K) := Dict.empty
  seq : ℕ := 0
  sending : List Outgoing := []
  running : Bool := false
  droppedNoLink : ℕ := 0
  rxRejected : ℕ := 0
  /-- The number of sockets made, which numbers them. -/
  bound : ℕ := 0

variable {K : Type} [Field K] [LinearOrder K]

/-- `next_counter`. -/
def LinkSocket.nextCounter (ls : LinkSocket K) : ℕ × LinkSocket K :=
  (ls.counter + 1, { ls with counter := ls.counter + 1 })

namespace BondingTunnel

/-- `BondingTunnel.__init__`, with the session id it draws. -/
def new (cfg : ConcentratorConfig) (sealer : Sealer) (sessionId : ℕ) (links : List (Link K))
    (sip : Option SipConfig) (mode : SchedulerMode) : BondingTunnel K :=
  { cfg, sealer, sessionId
    sipPorts := (sip.map fun sip => sip.signallingPorts ++ sip.tlsPorts).getD []
    scheduler := .new links mode
    reorder := .new cfg.reorderTimeoutMs cfg.reorderCapacity }

/-- The concentrator's address. -/
def peer (t : BondingTunnel K) : Addr := (t.cfg.host, t.cfg.port.toNat)

/-- Change the link of an id, in the scheduler's list and in its socket. -/
def modifyLink (t : BondingTunnel K) (linkId : ℕ) (f : Link K → Link K) : BondingTunnel K :=
  { t with
    scheduler := { t.scheduler with
      links := t.scheduler.links.map fun link => if link.linkId = linkId then f link else link }
    sockets := t.sockets.mapValues fun ls =>
      if ls.link.linkId = linkId then { ls with link := f ls.link } else ls }

/-- One round of the binding loop of `start`: `bound` says whether `_bind_link` succeeded. -/
def bindLink (t : BondingTunnel K) (link : Link K) (bound : Bool) : BondingTunnel K :=
  if !link.enabled then t
  else if bound then
    let t := t.modifyLink link.linkId fun link => { link with tunnelReady := true }
    { t with
      sockets := t.sockets.set link.linkId
        { link := { link with tunnelReady := true }, ident := t.bound }
      bound := t.bound + 1 }
  else t.modifyLink link.linkId fun link => { link with tunnelReady := false }

/-- `start`, up to the handshakes: open a socket for every enabled link that can be bound. -/
def start (t : BondingTunnel K) (bindable : ℕ → Bool) : List Effect × BondingTunnel K :=
  if t.running then ([], t)
  else if !t.cfg.enabled then ([.raise (.bond "bonding tunnel is disabled")], t)
  else
    let links := t.scheduler.links
    let t := links.foldl (fun t link => t.bindLink link (bindable link.linkId)) t
    if (links.filter fun link => link.enabled && bindable link.linkId) = [] then
      ([.raise (.bond "no uplink could be bound for the bonding tunnel")], t)
    else ([], { t with running := true })

/-- Seal a frame with the next counter of a socket and send it: the end of `_send_packet`'s
loop, and `_send_control`. -/
def transmit (t : BondingTunnel K) (linkId : ℕ) (ls : LinkSocket K) (frameType : FrameType)
    (seq : ℕ) (payload : Bytes) (now : Time) (sendOk : Bool) : List Effect × BondingTunnel K :=
  let (counter, ls) := ls.nextCounter
  let frame : Frame :=
    { type := frameType, sessionId := t.sessionId, linkId := ls.link.linkId, counter, seq, payload }
  match encodeFrame t.sealer frame with
  | .error e => ([.raise e], { t with sockets := t.sockets.set linkId ls })
  | .ok datagram =>
    let ls :=
      -- `_sendto` counts the datagram only when the socket took it
      if sendOk then
        { ls with
          txPackets := ls.txPackets + 1, txBytes := ls.txBytes + datagram.length, lastTxTs := now }
      else ls
    ([.send { holder := ls.ident, frame, datagram, addr := t.peer }],
      { t with sockets := t.sockets.set linkId ls })

/-- `_send_control`, on the link's socket. -/
def sendControl (t : BondingTunnel K) (linkId : ℕ) (frameType : FrameType) (now : Time)
    (sendOk : Bool) : List Effect × BondingTunnel K :=
  match t.sockets.get? linkId with
  | none => ([], t)
  | some ls => t.transmit linkId ls frameType 0 [] now sendOk

/-- `_send_packet`, up to its loop: the scheduler chooses the links, and the packet gets the
next sequence number. -/
def sendPacket [HasSqrt K] (t : BondingTunnel K) (packet : Bytes) : BondingTunnel K :=
  let critical :=
    t.cfg.duplicateCritical && !t.sipPorts.isEmpty && isCriticalPacket packet t.sipPorts
  let (chosen, scheduler) := t.scheduler.select packet.length critical
  let t := { t with scheduler }
  if chosen = [] then { t with droppedNoLink := t.droppedNoLink + 1 }
  else
    { t with
      seq := t.seq + 1
      sending := t.sending ++
        [{ seq := t.seq + 1, packet, links := chosen.map fun link => link.linkId }] }

/-- One round of the loop of the `i`-th call of `_send_packet` under way. -/
def sendCopy (t : BondingTunnel K) (i : ℕ) (now : Time) (sendOk : Bool) :
    List Effect × BondingTunnel K :=
  match t.sending[i]? with
  | none => ([], t)
  | some { links := [], .. } => ([], { t with sending := t.sending.eraseIdx i })
  | some { seq, packet, links := linkId :: rest } =>
    let t := { t with sending := t.sending.set i { seq, packet, links := rest } }
    match t.sockets.get? linkId with
    | none => ([], t)
    | some ls =>
      let (out, t) := t.transmit linkId ls .data seq packet now sendOk
      -- an exception ends the call
      if out.any Effect.isRaise then (out, { t with sending := t.sending.eraseIdx i }) else (out, t)

/-- The receiving half of a try of `_handshake_link`. -/
def handshakeReply (t : BondingTunnel K) (linkId : ℕ) (data : Bytes) (now : Time) :
    BondingTunnel K :=
  match t.sockets.get? linkId, decodeFrame t.sealer data with
  | some ls, some frame =>
    if frame.type = .handshakeAck ∨ frame.type = .keepalive then
      { t with
        sockets := t.sockets.set linkId { ls with handshaken := true, lastRxTs := now } }
    else t
  | _, _ => t

/-- `_handle_datagram`, for a datagram read from the socket of a link. -/
def handleDatagram (t : BondingTunnel K) (linkId : ℕ) (data : Bytes) (now : Clock) :
    List Effect × BondingTunnel K :=
  match t.sockets.get? linkId with
  | none => ([], t)
  | some ls =>
    match decodeFrame t.sealer data with
    | none => ([], { t with rxRejected := t.rxRejected + 1 })
    | some frame =>
      let (fresh, replay) := ls.replay.checkAndUpdate frame.counter
      if !fresh then ([], { t with rxRejected := t.rxRejected + 1 })
      else
        let ls := { ls with
          replay
          rxPackets := ls.rxPackets + 1
          rxBytes := ls.rxBytes + data.length
          lastRxTs := now.wall
          handshaken := true }
        if frame.type = .data ∧ frame.payload ≠ [] then
          let (out, reorder) := t.reorder.push frame.seq frame.payload now.mono
          (out.map fun e => .write t.sessionId e.2,
            { t with sockets := t.sockets.set linkId ls, reorder })
        else if frame.type = .close then
          ([], { t with sockets := t.sockets.set linkId { ls with handshaken := false } })
        else ([], { t with sockets := t.sockets.set linkId ls })

/-- A round of `_keepalive_loop` for one socket, up to the handshake that may follow it. -/
def keepalive (t : BondingTunnel K) (linkId : ℕ) (now : Time) (sendOk : Bool) :
    List Effect × BondingTunnel K :=
  match t.sockets.get? linkId with
  | none => ([], t)
  | some ls =>
    if !ls.link.enabled then ([], t)
    else
      let (out, t) := t.sendControl linkId .keepalive now sendOk
      match t.sockets.get? linkId with
      | none => (out, t)
      | some ls =>
        let stale := ls.lastRxTs ≠ 0 ∧ now - ls.lastRxTs > t.cfg.keepaliveS * 6
        if stale ∧ ls.handshaken then
          (out, { t with sockets := t.sockets.set linkId { ls with handshaken := false } })
        else (out, t)

/-- A round of `_reorder_ticker`. -/
def reorderTick (t : BondingTunnel K) (now : Time) : List Effect × BondingTunnel K :=
  let (out, reorder) := t.reorder.tick now
  (out.map fun e => .write t.sessionId e.2, { t with reorder })

/-- `refresh_links`. -/
def refreshLinks (t : BondingTunnel K) (links : List (Link K)) : BondingTunnel K :=
  let ready (link : Link K) : Link K :=
    { link with
      tunnelReady := ((t.sockets.get? link.linkId).map LinkSocket.handshaken).getD false }
  let links := links.map ready
  { t with
    scheduler := t.scheduler.setLinks links
    sockets := t.sockets.mapValues fun ls =>
      { ls with link := (links.find? fun link => link.linkId = ls.link.linkId).getD ls.link } }

/-! ### Runs -/

/-- What can happen to a tunnel. -/
inductive Event (K : Type) [Zero K] [One K] where
  | start (bindable : ℕ → Bool)
  /-- A try of a handshake is sent. -/
  | handshake (linkId : ℕ) (now : Time) (sendOk : Bool)
  /-- A handshake reads a datagram. -/
  | handshakeReply (linkId : ℕ) (data : Bytes) (now : Time)
  /-- The TUN device hands over a packet. -/
  | packet (packet : Bytes)
  | copy (i : ℕ) (now : Time) (sendOk : Bool)
  /-- The socket's reader reads a datagram. -/
  | datagram (linkId : ℕ) (data : Bytes) (now : Clock)
  | keepalive (linkId : ℕ) (now : Time) (sendOk : Bool)
  | tick (now : Time)
  | refresh (links : List (Link K))
  /-- The monitor changes a link. -/
  | observe (linkId : ℕ) (f : Link K → Link K)
  /-- `stop`: the tasks are cancelled, -/
  | stop
  /-- every link is closed, -/
  | close (linkId : ℕ) (now : Time) (sendOk : Bool)
  /-- and the sockets are dropped. -/
  | clear

variable [HasSqrt K]

def step (t : BondingTunnel K) : Event K → List Effect × BondingTunnel K
  | .start bindable => t.start bindable
  | .handshake linkId now sendOk => t.sendControl linkId .handshake now sendOk
  | .handshakeReply linkId data now => ([], t.handshakeReply linkId data now)
  | .packet packet => ([], t.sendPacket packet)
  | .copy i now sendOk => t.sendCopy i now sendOk
  | .datagram linkId data now => t.handleDatagram linkId data now
  | .keepalive linkId now sendOk => t.keepalive linkId now sendOk
  | .tick now => t.reorderTick now
  | .refresh links => ([], t.refreshLinks links)
  | .observe linkId f =>
    -- the id of a link never changes
    ([], t.modifyLink linkId fun link => { f link with linkId })
  | .stop => ([], { t with running := false, sending := [] })
  | .close linkId now sendOk =>
    let (out, t) := t.sendControl linkId .close now sendOk
    (out, t.modifyLink linkId fun link => { link with tunnelReady := false })
  | .clear => ([], { t with sockets := Dict.empty })

def run (events : List (Event K)) (t : BondingTunnel K) : List Effect × BondingTunnel K :=
  Machine.run step events t

end BondingTunnel

end Turbobond.Bond
