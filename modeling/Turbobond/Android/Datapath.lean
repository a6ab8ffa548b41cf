import Turbobond.Android.Protocol
import Turbobond.Android.ReorderSafety
import Turbobond.Android.Uplinks
import Turbobond.Bond.Effects

/-!
# The datapath on Android

The threads of `BondVpnService` between one `startTunnel` and its end: `tbond-pair`, `tbond-tun`,
`tbond-net`, `tbond-keepalive` and `tbond-watchdog`, and the callbacks of the uplinks.  They share
the uplinks, so a step here is no more than what one thread does between two reads or writes of what
another thread writes: a call of `send` looks at its uplink, reads the counter, and writes it back,
in three steps, between which the others go on.  What a thread reads from a socket or from the TUN
device is given with its step.

What a step puts out are the packets that `tbond-net` writes to the TUN device and the datagrams that
`send` seals, under the uplink that was asked to send them; one whose socket is closed is not sent.
-/

namespace Turbobond.Android

def mtu : ℕ := 1380
def reorderMs : ℤ := 90
def duplicateUnder : ℕ := 260
def silenceLimitMs : ℤ := 75000

/-- A call of `send`; the type of a greeting is chosen when its turn comes. -/
structure Call where
  uplink : ℕ
  type : Option FrameType
  seq : BitVec 64
  payload : Bytes

/-- Where a thread is in the calls of `send` it makes. -/
inductive Stage where
  | idle
  | called (type : FrameType) (call : Call)
  /-- The counter is read. -/
  | counted (type : FrameType) (call : Call) (counter : BitVec 64)

/-- A thread that sends: the call under way, and those it makes after it. -/
structure Sender where
  stage : Stage
  calls : List Call

/-- A thread that makes no calls. -/
def Sender.resting : Sender := ⟨.idle, []⟩

/-- The threads that send. -/
inductive Thread where
  | pair
  | tun
  | keepalive
  deriving DecidableEq

inductive Phase where
  | pairing
  | running
  | stopped
  /-- A thread has thrown what nobody catches. -/
  | crashed
  deriving DecidableEq

structure Datapath where
  sealer : Util.Sealer
  sessionId : BitVec 32
  address : Bond.Addr
  phase : Phase
  manager : UplinkManager
  senders : Thread → Sender
  sequence : BitVec 64
  cursor : BitVec 32
  reorder : ReorderBuffer Bytes
  lastHeard : ℤ

namespace Datapath

/-- What `startTunnel` begins with; the sequence numbers go on from the last start. -/
def start (sealer : Util.Sealer) (sessionId : BitVec 32) (address : Bond.Addr)
    (sequence : BitVec 64) : Datapath where
  sealer := sealer
  sessionId := sessionId
  address := address
  phase := .pairing
  manager := .started
  senders := fun _ => .resting
  sequence := sequence
  cursor := 0
  reorder := .new reorderMs 2048
  lastHeard := 0

inductive Event where
  | available (network : ℕ) (label : String) (protectedOk boundOk : Bool)
  | lost (network : ℕ)
  /-- `tbond-pair` begins a round of handshakes. -/
  | pairRound
  /-- It reads a datagram; the system then grants an interface or refuses it. -/
  | pairRead (uplink : ℕ) (data : Bytes) (now : ℤ) (granted : Bool)
  | pairTimedOut
  /-- `tbond-tun` reads a packet. -/
  | tunRead (data : Bytes)
  /-- `tbond-net` reads a datagram. -/
  | netRead (uplink : ℕ) (data : Bytes) (now : ℤ)
  /-- It has looked at all the uplinks. -/
  | netTick (now : ℤ)
  | keepaliveRound
  | watchdog (now : ℤ)
  /-- A thread makes its next call of `send`. -/
  | enter (thread : Thread)
  /-- It reads the counter of the uplink. -/
  | count (thread : Thread)
  /-- It writes the counter back, seals, and sends. -/
  | transmit (thread : Thread)
  | stop

def setSender (d : Datapath) (thread : Thread) (sender : Sender) : Datapath :=
  { d with senders := Function.update d.senders thread sender }

/-- `uplinkManager?.uplinks.orEmpty()`. -/
def links (d : Datapath) : List ℕ := d.manager.uplinks

def acked (d : Datapath) (uplink : ℕ) : Bool := (d.manager.made[uplink]?.map (·.acked)).getD false

/-- The thread has nothing to send. -/
def Resting (d : Datapath) (thread : Thread) : Bool :=
  match d.senders thread with
  | ⟨.idle, []⟩ => true
  | _ => false

/-- `stopTunnel`. -/
def stopTunnel (d : Datapath) : Datapath :=
  if d.phase = .pairing ∨ d.phase = .running then
    { d with phase := .stopped, manager := d.manager.stop }
  else d

/-- `fail`: a failure to pair has cleared the flag that `stopTunnel` looks at. -/
def fail (d : Datapath) : Datapath :=
  stopTunnel { d with phase := if d.phase = .pairing then .stopped else d.phase }

/-- The frame that a call of `send` seals. -/
def frame (d : Datapath) (type : FrameType) (call : Call) (linkId : BitVec 32)
    (counter : BitVec 64) : Frame :=
  { type, sessionId := d.sessionId, linkId, counter, seq := call.seq, payload := call.payload }

/-- A datagram is read by `uplink.socket.receive`, which throws when the socket is closed. -/
def received (d : Datapath) (uplink : ℕ) (data : Bytes) : Option Frame :=
  match d.manager.made[uplink]? with
  | none => none
  | some u => if u.closed then none else decode d.sealer data

/-- What `pumpTun` does with a packet it has read into its buffer. -/
def pumpTun (d : Datapath) (packet : Bytes) : Datapath :=
  let links := d.links
  if packet = [] ∨ links = [] then d
  else
    let seq := d.sequence
    let index := d.cursor.toInt.tmod links.length
    let d := { d with sequence := seq + 1, cursor := d.cursor + 1 }
    -- `IndexOutOfBoundsException`
    if index < 0 then { d with phase := .crashed }
    else
      match links[index.toNat]? with
      | none => { d with phase := .crashed }
      | some uplink =>
        let others :=
          if packet.length ≤ duplicateUnder ∧ 1 < links.length then links.filter (· ≠ uplink) else []
        d.setSender .tun
          ⟨.idle, (uplink :: others).map fun link => ⟨link, some .data, seq, packet⟩⟩

/-- The packets that the reorder buffer returns are written; what it throws nobody catches. -/
def resequence (d : Datapath) :
    Except Thrown (List (ℤ × Bytes) × ReorderBuffer Bytes) → List Bond.Effect × Datapath
  | .error _ => ([], { d with phase := .crashed })
  | .ok (out, reorder) => (out.map fun e => .write d.sessionId.toNat e.2, { d with reorder })

/-- What `pumpNetwork` does with a datagram. -/
def pumpNetwork (d : Datapath) (uplink : ℕ) (data : Bytes) (now : ℤ) : List Bond.Effect × Datapath :=
  match d.received uplink data with
  | none => ([], d)
  | some f =>
    let d := { d with
      manager := d.manager.update uplink fun u => { u with lastSeen := now }
      lastHeard := now }
    match f.type with
    | .handshakeAck =>
      ([], { d with manager := d.manager.update uplink fun u => { u with acked := true } })
    | .data =>
      if f.payload = [] then ([], d)
      else d.resequence (d.reorder.push f.seq.toInt f.payload now)
    | _ => ([], d)

/-- What `pairThenEstablish` does with a datagram, and `establish` after it. -/
def pairRead (d : Datapath) (uplink : ℕ) (data : Bytes) (now : ℤ) (granted : Bool) : Datapath :=
  match d.received uplink data with
  | none => d
  | some f =>
    if f.type = .handshakeAck then
      let d := { d with
        manager := d.manager.update uplink fun u => { u with acked := true, lastSeen := now } }
      if granted then { d with phase := .running, lastHeard := now } else d.fail
    else d

/-- A call of `send` is made. -/
def enter (d : Datapath) (thread : Thread) : Datapath :=
  match d.senders thread with
  | ⟨.idle, call :: calls⟩ =>
    let greeting := if d.acked call.uplink then .keepalive else .handshake
    d.setSender thread ⟨.called (call.type.getD greeting) call, calls⟩
  | _ => d

/-- The first half of `++counter`. -/
def count (d : Datapath) (thread : Thread) : Datapath :=
  match d.senders thread with
  | ⟨.called type call, calls⟩ =>
    match d.manager.made[call.uplink]? with
    | none => d
    | some u => d.setSender thread ⟨.counted type call u.counter, calls⟩
  | _ => d

/-- The second half of `++counter`, and the rest of `send`, which logs what it throws. -/
def transmit (d : Datapath) (thread : Thread) : List Bond.Effect × Datapath :=
  match d.senders thread with
  | ⟨.counted type call counter, calls⟩ =>
    match d.manager.made[call.uplink]? with
    | none => ([], d)
    | some u =>
      let counter := counter + 1
      let f := d.frame type call u.id counter
      let d := d.setSender thread ⟨.idle, calls⟩
      let d := { d with
        manager := d.manager.update call.uplink fun u => { u with counter := counter } }
      match encode d.sealer f with
      | .error _ => ([], d)
      | .ok datagram =>
        ([.send { holder := call.uplink, frame := f.toBond, datagram, addr := d.address }], d)
  | _ => ([], d)

/-- One step. -/
def step (d : Datapath) (e : Event) : List Bond.Effect × Datapath :=
  if d.phase = .crashed then ([], d)
  else
    match e with
    | .available network label protectedOk boundOk =>
      if d.manager.registered then
        ([], { d with manager := d.manager.onAvailable network label protectedOk boundOk })
      else ([], d)
    | .lost network =>
      if d.manager.registered then ([], { d with manager := d.manager.onLost network }) else ([], d)
    | .pairRound =>
      if d.phase = .pairing ∧ d.Resting .pair then
        ([], d.setSender .pair ⟨.idle, d.links.map fun link => ⟨link, some .handshake, 0, []⟩⟩)
      else ([], d)
    | .pairRead uplink data now granted =>
      if d.phase = .pairing ∧ d.Resting .pair then ([], d.pairRead uplink data now granted)
      else ([], d)
    | .pairTimedOut => if d.phase = .pairing ∧ d.Resting .pair then ([], d.fail) else ([], d)
    | .tunRead data =>
      if d.phase = .running ∧ d.Resting .tun then ([], d.pumpTun (data.take (mtu + 128)))
      else ([], d)
    | .netRead uplink data now =>
      if d.phase = .running then d.pumpNetwork uplink data now else ([], d)
    | .netTick now => if d.phase = .running then d.resequence (d.reorder.tick now) else ([], d)
    | .keepaliveRound =>
      if d.phase = .running ∧ d.Resting .keepalive then
        ([], d.setSender .keepalive ⟨.idle, d.links.map fun link => ⟨link, none, 0, []⟩⟩)
      else ([], d)
    | .watchdog now =>
      if d.phase = .running ∧ silenceLimitMs ≤ now - d.lastHeard then ([], d.fail) else ([], d)
    | .enter thread => ([], d.enter thread)
    | .count thread => ([], d.count thread)
    | .transmit thread => d.transmit thread
    | .stop => ([], d.stopTunnel)

def run (events : List Event) (d : Datapath) : List Bond.Effect × Datapath :=
  Machine.run step events d

end Datapath

end Turbobond.Android
