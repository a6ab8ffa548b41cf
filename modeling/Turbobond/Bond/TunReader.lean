import Turbobond.Bond.Live

/-!
# The readers of the TUN devices

The loops `_tun_reader` of `turbobond/bond/tunnel.py` and of `turbobond/bond/server.py`, with the
device of `turbobond/bond/tundev.py` and the queue they read from.  Neither loop has a handler, so
what a round raises ends it.

`socket.sendto` looks at the address before it sends.  The codec for names that are not plain ASCII is
a parameter.
-/

set_option linter.unusedSectionVars false

namespace Turbobond.Bond

open Config Links Util

/-! ### The device and the queue -/

/-- `TunDevice`, as far as it is read: the packets that the kernel has routed into it. -/
structure TunDevice where
  mtu : ℤ
  simulated : Bool
  rx : List Bytes := []

/-- `read`: one packet, cut off at a size if the device is a real one. -/
def TunDevice.read (d : TunDevice) (size : ℤ) : Option Bytes × TunDevice :=
  match d.rx with
  | [] => (none, d)
  | packet :: rx =>
    if d.simulated then (some packet, { d with rx })
    -- `os.read` refuses such a size, and the packet stays where it is
    else if size < 0 ∨ 2 ^ 63 ≤ size then (none, d)
    else (some (packet.take size.toNat), { d with rx })

/-- The `maxsize` of the queue. -/
def queueSize : ℕ := 4096

/-- How many packets a readiness callback reads at most. -/
def drainRounds : ℕ := 64

/-- An exception that ends a reader. -/
inductive Failure where
  /-- `encode_frame` raises it, -/
  | encode (error : PyError)
  /-- `sendto` does not take the host for a name, -/
  | host
  /-- or the port for a port. -/
  | port
  deriving DecidableEq

/-- A packet that has been dealt with, and the datagrams it went out in: none if it was dropped. -/
structure Handled where
  packet : Bytes
  sent : List Sealed

/-- A `_tun_reader`, of a tunnel or a concentrator. -/
structure TunReader (σ : Type) where
  state : σ
  device : TunDevice
  queue : List Bytes := []
  /-- The packets that the loop has taken. -/
  taken : List Bytes := []
  /-- What the packet in hand has gone out in so far. -/
  sent : List Sealed := []
  handled : List Handled := []
  failure : Option Failure := none

namespace TunReader

variable {σ : Type}

/-- The kernel routes a packet into the device. -/
def arrive (r : TunReader σ) (packet : Bytes) : TunReader σ :=
  { r with device := { r.device with rx := r.device.rx ++ [packet] } }

/-- The next packet of the loop, if there is one: from the queue, or from a simulated device. -/
def next (r : TunReader σ) : Option (Bytes × TunReader σ) :=
  if r.device.simulated then
    match r.device.read 2048 with
    | (none, _) => none
    | (some packet, device) => some (packet, { r with device, taken := r.taken ++ [packet] })
  else
    match r.queue with
    | [] => none
    | packet :: queue => some (packet, { r with queue, taken := r.taken ++ [packet] })

end TunReader

/-- The first exception among some effects. -/
def raised (out : List Effect) : Option PyError :=
  out.findSome? fun
    | .raise e => some e
    | _ => none

/-! ### Sending to an address -/

/-- The codec `idna`, for names that are not plain ASCII. -/
abbrev Idna : Type := String → Option Bytes

/-- Whether `socket` takes a text for the name of a host: it has to be encoded, and without a null
character. -/
def takesHost (idna : Idna) (host : String) : Bool :=
  if host.toList.all fun c => c.toNat < 128 then host.toList.all fun c => c.toNat ≠ 0
  else (idna host).any fun name => !name.contains 0

/-- What comes of sending a datagram. -/
inductive Delivery where
  | sent
  /-- The host is not found. -/
  | unresolved
  /-- The network, or the socket, refuses. -/
  | refused
  deriving DecidableEq

/-- `sock_sendto`: whether the socket took the datagram, or an `OSError` came back; and the other
exceptions.  A port need only fit into a C `int` until the host is found. -/
def sockSendto (idna : Idna) (host : String) (port : ℤ) (delivery : Delivery) :
    Except Failure Bool :=
  if !takesHost idna host then .error .host
  else if port < -2 ^ 31 ∨ 2 ^ 31 ≤ port then .error .port
  else if delivery = .unresolved then .ok false
  else if port < 0 ∨ 65535 < port then .error .port
  else .ok (delivery = .sent)

/-! ### The client's reader -/

variable {K : Type} [Field K] [LinearOrder K]

namespace BondingTunnel

/-- The rounds of `_drain_tun_into`. -/
def drain : ℕ → TunReader (BondingTunnel K) → TunReader (BondingTunnel K)
  | 0, r => r
  | rounds + 1, r =>
    match r.device.read (r.state.cfg.tunnelMtu + 128) with
    | (none, device) | (some [], device) => { r with device }
    | (some (b :: bs), device) =>
      if r.queue.length < queueSize then
        drain rounds { r with device, queue := r.queue ++ [b :: bs] }
      else
        { r with device, state := { r.state with droppedNoLink := r.state.droppedNoLink + 1 } }

/-- What happens around the reader of a started tunnel. -/
inductive ReaderEvent (K : Type) [Zero K] [One K] where
  | arrive (packet : Bytes)
  /-- The device is ready to be read. -/
  | drain
  /-- A round of the loop, up to the first copy of the packet. -/
  | take
  /-- A round of the loop of `_send_packet`, or its end. -/
  | copy (now : Time) (delivery : Delivery)
  /-- Another task. -/
  | task (e : Live K)

variable [HasSqrt K]

def takePacket (r : TunReader (BondingTunnel K)) : TunReader (BondingTunnel K) :=
  if r.failure ≠ none ∨ r.state.running = false ∨ r.state.sending ≠ [] then r
  else
    match r.next with
    | none => r
    | some (packet, r) =>
      let state := r.state.sendPacket packet
      if state.sending = [] then
        { r with state, handled := r.handled ++ [{ packet, sent := [] }] }
      else { r with state }

def copyPacket (idna : Idna) (r : TunReader (BondingTunnel K)) (now : Time) (delivery : Delivery) :
    TunReader (BondingTunnel K) :=
  match r.state.sending with
  | [] => r
  | { links := [], packet, .. } :: _ =>
    { r with
      state := (r.state.sendCopy 0 now false).2
      handled := r.handled ++ [{ packet, sent := r.sent }]
      sent := [] }
  | _ =>
    let delivered := sockSendto idna r.state.cfg.host r.state.cfg.port delivery
    let (out, state) := r.state.sendCopy 0 now (delivered.toOption.getD false)
    match raised out, delivered with
    | some e, _ => { r with state, failure := some (.encode e) }
    | none, .ok ok => { r with state, sent := if ok then r.sent ++ sends out else r.sent }
    | none, .error e =>
      -- without a socket nothing is sent
      if sends out = [] then { r with state }
      else { r with state := { state with sending := [] }, failure := some e }

def readerStep (idna : Idna) (r : TunReader (BondingTunnel K)) :
    ReaderEvent K → TunReader (BondingTunnel K)
  | .arrive packet => r.arrive packet
  | .drain => if r.device.simulated then r else drain drainRounds r
  | .take => takePacket r
  | .copy now delivery => copyPacket idna r now delivery
  | .task e => { r with state := (r.state.live e).2 }

/-- The reader, once `start` has been called. -/
def startReader (t : BondingTunnel K) (bindable : ℕ → Bool) (simulated : Bool) :
    TunReader (BondingTunnel K) :=
  { state := (t.start bindable).2, device := { mtu := t.cfg.tunnelMtu, simulated } }

/-- The state of the reader that a list of events leads to. -/
def readerAfter (idna : Idna) (events : List (ReaderEvent K)) (r : TunReader (BondingTunnel K)) :
    TunReader (BondingTunnel K) :=
  events.foldl (readerStep idna) r

end BondingTunnel

/-! ### The concentrator's reader -/

namespace ConcentratorServer

/-- The rounds of `_drain`. -/
def drain : ℕ → TunReader ConcentratorServer → TunReader ConcentratorServer
  | 0, r => r
  | rounds + 1, r =>
    match r.device.read (r.device.mtu + 128) with
    | (none, device) | (some [], device) => { r with device }
    | (some (b :: bs), device) =>
      -- `QueueFull` is suppressed
      drain rounds { r with
        device
        queue := if r.queue.length < queueSize then r.queue ++ [b :: bs] else r.queue }

/-- What happens around the reader of a concentrator. -/
inductive ReaderEvent where
  | arrive (packet : Bytes)
  /-- The device is ready to be read. -/
  | drain
  /-- A round of the loop. -/
  | take (now : Time) (sendOk : Bool)
  /-- A datagram, or another task. -/
  | task (e : Event)

def takePacket (r : TunReader ConcentratorServer) (now : Time) (sendOk : Bool) :
    TunReader ConcentratorServer :=
  if r.failure ≠ none then r
  else
    match r.next with
    | none => r
    | some (packet, r) =>
      let (out, state) := r.state.dispatchDownstream packet now sendOk
      match raised out with
      | some e => { r with state, failure := some (.encode e) }
      | none =>
        { r with
          state
          handled := r.handled ++ [{ packet, sent := if sendOk then sends out else [] }] }

def readerStep (r : TunReader ConcentratorServer) : ReaderEvent → TunReader ConcentratorServer
  | .arrive packet => r.arrive packet
  | .drain => if r.device.simulated then r else drain drainRounds r
  | .take now sendOk => takePacket r now sendOk
  | .task e => { r with state := (r.state.step e).2 }

/-- The reader of a concentrator that has just started. -/
def startReader (sealer : Sealer) (reorderTimeoutMs : ℚ) (mtu : ℤ) (simulated : Bool) :
    TunReader ConcentratorServer :=
  { state := .start sealer reorderTimeoutMs, device := { mtu, simulated } }

/-- The state of the reader that a list of events leads to. -/
def readerAfter (events : List ReaderEvent) (r : TunReader ConcentratorServer) :
    TunReader ConcentratorServer :=
  events.foldl readerStep r

end ConcentratorServer

/-! ### Going on -/

/-- A datagram carries a packet, under the seal. -/
def Sealed.Carries (sealer : Sealer) (packet : Bytes) (sent : Sealed) : Prop :=
  sent.frame.type = .data ∧ sent.frame.payload = packet ∧
    encodeFrame sealer sent.frame = .ok sent.datagram

namespace TunReader

variable {σ : Type} {r : TunReader σ} {mtu : ℤ}

/-- No exception has ended the loop, and every packet it has taken, but those in hand, was sealed and
sent on one link or more, or dropped. -/
structure GoesOn (sealer : Sealer) (hand : List Bytes) (r : TunReader σ) : Prop where
  alive : r.failure = none
  taken : r.taken = r.handled.map Handled.packet ++ hand
  carries : ∀ x ∈ r.handled, ∀ sent ∈ x.sent, sent.Carries sealer x.packet

/-- No packet that waits is longer than the MTU. -/
def Fits (mtu : ℤ) (r : TunReader σ) : Prop :=
  (∀ packet ∈ r.device.rx, (packet.length : ℤ) ≤ mtu) ∧ ∀ packet ∈ r.queue, (packet.length : ℤ) ≤ mtu

end TunReader

/-- What reading does: nothing, or it takes the first packet, or the beginning of it. -/
lemma TunDevice.read_cases (d : TunDevice) (size : ℤ) :
    d.read size = (none, d) ∨
      ∃ packet rx n, d.rx = packet :: rx ∧ d.read size = (some (packet.take n), { d with rx }) := by
  rw [TunDevice.read]
  cases hrx : d.rx with
  | nil => exact Or.inl rfl
  | cons packet rx =>
    simp only
    split
    · exact Or.inr ⟨packet, rx, packet.length, rfl, by rw [List.take_length]⟩
    split
    · exact Or.inl rfl
    · exact Or.inr ⟨packet, rx, size.toNat, rfl, rfl⟩

namespace TunReader

variable {σ : Type} {r : TunReader σ} {mtu : ℤ}

lemma Fits.arrive (h : r.Fits mtu) {packet : Bytes} (hp : (packet.length : ℤ) ≤ mtu) :
    (r.arrive packet).Fits mtu := by
  refine ⟨fun q hq => ?_, h.2⟩
  rcases List.mem_append.1 hq with hq | hq
  · exact h.1 q hq
  · rwa [List.mem_singleton.1 hq]

/-- What is read fits as well, and so does what is left. -/
lemma Fits.read (h : r.Fits mtu) {size : ℤ} {o : Option Bytes} {device : TunDevice}
    (hread : r.device.read size = (o, device)) :
    (∀ packet ∈ o, (packet.length : ℤ) ≤ mtu) ∧ ∀ packet ∈ device.rx, (packet.length : ℤ) ≤ mtu := by
  rcases r.device.read_cases size with heq | ⟨packet, rx, n, hrx, heq⟩
  · obtain ⟨rfl, rfl⟩ := Prod.mk.inj (heq.symm.trans hread)
    exact ⟨fun _ hp => absurd hp (by simp), h.1⟩
  · obtain ⟨rfl, rfl⟩ := Prod.mk.inj (heq.symm.trans hread)
    have hall := hrx ▸ h.1
    rw [List.forall_mem_cons] at hall
    refine ⟨fun q hq => ?_, hall.2⟩
    obtain rfl := Option.some.inj hq
    have hle : ((packet.take n).length : ℤ) ≤ packet.length := by exact_mod_cast packet.length_take_le' n
    exact hle.trans hall.1

/-- The loop takes a packet that fits, and the reader changes in nothing else. -/
lemma Fits.next (h : r.Fits mtu) {packet : Bytes} {r' : TunReader σ}
    (hnext : r.next = some (packet, r')) :
    (packet.length : ℤ) ≤ mtu ∧ r'.Fits mtu ∧
      ∃ device queue, r' = { r with device, queue, taken := r.taken ++ [packet] } := by
  rw [TunReader.next] at hnext
  split at hnext
  · split at hnext
    · exact absurd hnext (by simp)
    · rename_i packet' device hread
      obtain ⟨rfl, rfl⟩ := Prod.mk.inj (Option.some.inj hnext)
      obtain ⟨hp, hrx⟩ := h.read hread
      exact ⟨hp _ rfl, ⟨hrx, h.2⟩, device, r.queue, rfl⟩
  · split at hnext
    · exact absurd hnext (by simp)
    · rename_i packet' queue hqueue
      obtain ⟨rfl, rfl⟩ := Prod.mk.inj (Option.some.inj hnext)
      have hall := hqueue ▸ h.2
      rw [List.forall_mem_cons] at hall
      exact ⟨hall.1, ⟨h.1, hall.2⟩, r.device, queue, rfl⟩

/-- A packet that waits in a simulated device is the next one. -/
lemma next_arrive (hsim : r.device.simulated = true) (hrx : r.device.rx = []) (packet : Bytes) :
    (r.arrive packet).next =
      some (packet, { r with device := { r.device with rx := [] }, taken := r.taken ++ [packet] }) := by
  simp [TunReader.next, TunReader.arrive, TunDevice.read, hsim, hrx]

end TunReader

@[simp] lemma raised_nil : raised [] = none := rfl

@[simp] lemma raised_raise (e : PyError) : raised [.raise e] = some e := rfl

@[simp] lemma raised_send (sent : Sealed) : raised [.send sent] = none := rfl

/-- To a host and a port that are well formed, a datagram is sent, or the system refuses. -/
lemma sockSendto_ok {idna : Idna} {host : String} {port : ℤ} (hhost : takesHost idna host = true)
    (hport : 0 ≤ port ∧ port ≤ 65535) (delivery : Delivery) :
    ∃ ok, sockSendto idna host port delivery = .ok ok := by
  have hint : ¬ (port < -2 ^ 31 ∨ 2 ^ 31 ≤ port) := by omega
  have hrange : ¬ (port < 0 ∨ 65535 < port) := by omega
  rw [sockSendto, hhost, if_neg (by simp), if_neg hint, if_neg hrange]
  split
  · exact ⟨_, rfl⟩
  · exact ⟨_, rfl⟩

/-- A datagram is sent only to such a host and port. -/
lemma of_sockSendto {idna : Idna} {host : String} {port : ℤ} {ok : Bool}
    (h : sockSendto idna host port .sent = .ok ok) :
    takesHost idna host = true ∧ 0 ≤ port ∧ port ≤ 65535 := by
  rw [sockSendto] at h
  split at h
  · exact absurd h (by simp)
  rename_i hhost
  split at h
  · exact absurd h (by simp)
  rw [if_neg (by simp)] at h
  split at h
  · exact absurd h (by simp)
  · rename_i hport
    exact ⟨by simpa using hhost, by omega, by omega⟩

end Turbobond.Bond
