import Turbobond.Bond.Live

/-!
# Reading the sockets

`_read_socket` and, once the keepalive loop finds that a link has gone quiet, `_handshake_link`
both call `sock_recv` on the socket of the link.  A call takes what the kernel has queued for the
socket, and otherwise registers itself with the event loop, in place of whoever is registered.
-/

set_option linter.unusedSectionVars false

namespace Turbobond.Bond

open Config Links Util

/-- Who is registered for a socket. -/
inductive Waiter where
  | reader
  | handshake
  deriving DecidableEq

/-- Where a coroutine stands that reads a socket. -/
inductive Turn where
  /-- It calls `sock_recv` next. -/
  | ready
  | waiting
  /-- What it waited for is there. -/
  | got (data : Bytes)
  /-- It sleeps after an error. -/
  | sleeping
  deriving DecidableEq

/-- The socket of a link, with its reader. -/
structure Wire where
  queue : List Bytes := []
  registered : Option Waiter := none
  reader : Turn := .ready

/-- A call of `_handshake_link` by the keepalive loop, with the tries it has left. -/
structure Shaking where
  linkId : ℕ
  tries : ℕ
  turn : Turn

/-- `HANDSHAKE_RETRIES`. -/
def handshakeRetries : ℕ := 3

/-- What one `sock_recv` takes of a datagram. -/
def cut (data : Bytes) : Bytes := data.take maxDatagram

/-- `sock_recv`. -/
def Wire.sockRecv (w : Wire) (who : Waiter) : Option Bytes × Wire :=
  match w.queue with
  | data :: queue => (some (cut data), { w with queue })
  | [] => (none, { w with registered := some who })

/-- A started tunnel, and where those stand that read its sockets. -/
structure Reading (K : Type) [Zero K] [One K] where
  tunnel : BondingTunnel K
  wires : ℕ → Wire
  shaking : Option Shaking := none

variable {K : Type} [Field K] [LinearOrder K]

/-- The keepalive loop hands a link over to `_handshake_link`. -/
def BondingTunnel.goneQuiet (t : BondingTunnel K) (linkId : ℕ) (now : Time) : Bool :=
  match t.sockets.get? linkId with
  | none => false
  | some ls =>
    ls.link.enabled && ls.handshaken && ls.lastRxTs ≠ 0 && now - ls.lastRxTs > t.cfg.keepaliveS * 6

namespace Reading

def setWire (r : Reading K) (linkId : ℕ) (w : Wire) : Reading K :=
  { r with wires := Function.update r.wires linkId w }

/-- The end of a round of `_read_socket`: what is long enough goes to `_handle_datagram`. -/
def handOver (r : Reading K) (linkId : ℕ) (data : Bytes) (now : Clock) :
    List (ℕ × Bytes) × Reading K :=
  if data.length < headerLen then ([], r)
  else ([(linkId, data)], { r with tunnel := (r.tunnel.handleDatagram linkId data now).2 })

/-- The reader of a link runs until it has to wait. -/
def resume (r : Reading K) (linkId : ℕ) (now : Clock) : List (ℕ × Bytes) × Reading K :=
  let w := r.wires linkId
  match w.reader with
  | .ready =>
    match w.sockRecv .reader with
    | (some data, w) => (r.setWire linkId w).handOver linkId data now
    | (none, w) => ([], r.setWire linkId { w with reader := .waiting })
  | .got data => (r.setWire linkId { w with reader := .ready }).handOver linkId data now
  | .sleeping => ([], r.setWire linkId { w with reader := .ready })
  | .waiting => ([], r)

/-- The event loop finds the socket of a link readable: who is registered gets a datagram. -/
def poll (r : Reading K) (linkId : ℕ) : Reading K :=
  let w := r.wires linkId
  match w.queue, w.registered with
  | data :: queue, some .reader =>
    r.setWire linkId { queue, registered := none, reader := .got (cut data) }
  | data :: queue, some .handshake =>
    { r.setWire linkId { w with queue, registered := none } with
      shaking := r.shaking.map fun s => { s with turn := .got (cut data) } }
  | _, _ => r

/-- The reader's `sock_recv` raises an `OSError`. -/
def fault (r : Reading K) (linkId : ℕ) : Reading K :=
  let w := r.wires linkId
  match w.reader, w.registered with
  | .ready, _ => r.setWire linkId { w with reader := .sleeping }
  | .waiting, some .reader => r.setWire linkId { w with reader := .sleeping, registered := none }
  | _, _ => r

/-- The keepalive loop comes to a socket. -/
def keepalive (r : Reading K) (linkId : ℕ) (now : Time) (sendOk : Bool) : Reading K :=
  -- while it waits for a handshake, it comes to none
  if r.shaking.isSome then r
  else
    { r with
      tunnel := (r.tunnel.keepalive linkId now sendOk).2
      shaking :=
        if r.tunnel.goneQuiet linkId now then some ⟨linkId, handshakeRetries, .ready⟩ else none }

/-- `_handshake_link` looks at a datagram: whatever is not an answer is gone. -/
def examine (r : Reading K) (s : Shaking) (data : Bytes) (now : Time) : Reading K :=
  match decodeFrame r.tunnel.sealer data with
  | none => { r with shaking := some { s with turn := .ready } }
  | some frame =>
    if frame.type = .handshakeAck ∨ frame.type = .keepalive then
      { r with tunnel := r.tunnel.handshakeReply s.linkId data now, shaking := none }
    else { r with shaking := some { s with turn := .ready } }

/-- A try of `_handshake_link`. -/
def attempt (r : Reading K) (now : Time) (sendOk : Bool) : Reading K :=
  match r.shaking with
  | some ⟨linkId, tries + 1, .ready⟩ =>
    let (out, tunnel) := r.tunnel.sendControl linkId .handshake now sendOk
    let r := { r with tunnel }
    if out.any Effect.isRaise then { r with shaking := none }
    else
      match (r.wires linkId).sockRecv .handshake with
      | (some data, w) => (r.setWire linkId w).examine ⟨linkId, tries, .ready⟩ data now
      | (none, w) => { r.setWire linkId w with shaking := some ⟨linkId, tries, .waiting⟩ }
  | some ⟨_, 0, .ready⟩ => { r with shaking := none }
  | _ => r

/-- What `_handshake_link` waited for is there. -/
def answer (r : Reading K) (now : Time) : Reading K :=
  match r.shaking with
  | some ⟨linkId, tries, .got data⟩ => r.examine ⟨linkId, tries, .ready⟩ data now
  | _ => r

/-- `_handshake_link` has waited for too long, or its `sock_recv` raises an `OSError`. -/
def timeout (r : Reading K) : Reading K :=
  match r.shaking with
  | some ⟨linkId, tries, .waiting⟩ =>
    let w := r.wires linkId
    let registered := if w.registered = some .handshake then none else w.registered
    { r.setWire linkId { w with registered } with shaking := some ⟨linkId, tries, .ready⟩ }
  | _ => r

inductive Event (K : Type) [Zero K] [One K] where
  /-- The kernel delivers a datagram. -/
  | arrive (linkId : ℕ) (data : Bytes)
  | poll (linkId : ℕ)
  | resume (linkId : ℕ) (now : Clock)
  | fault (linkId : ℕ)
  | keepalive (linkId : ℕ) (now : Time) (sendOk : Bool)
  | attempt (now : Time) (sendOk : Bool)
  | answer (now : Time)
  | timeout
  /-- What has nothing to do with reading. -/
  | background (e : BondingTunnel.Live K)

/-- Neither reads a socket nor belongs to the keepalive loop. -/
def isBackground : BondingTunnel.Live K → Bool
  | .packet _ | .copy _ _ _ | .tick _ | .refresh _ | .measure _ _ _ _ | .transition _ _ => true
  | _ => false

variable [HasSqrt K]

/-- What is put out are the datagrams handed to `_handle_datagram`. -/
def step (r : Reading K) : Event K → List (ℕ × Bytes) × Reading K
  | .arrive linkId data =>
    let w := r.wires linkId
    ([], r.setWire linkId { w with queue := w.queue ++ [data] })
  | .poll linkId => ([], r.poll linkId)
  | .resume linkId now => r.resume linkId now
  | .fault linkId => ([], r.fault linkId)
  | .keepalive linkId now sendOk => ([], r.keepalive linkId now sendOk)
  | .attempt now sendOk => ([], r.attempt now sendOk)
  | .answer now => ([], r.answer now)
  | .timeout => ([], r.timeout)
  | .background e => ([], if isBackground e then { r with tunnel := (r.tunnel.live e).2 } else r)

def run (events : List (Event K)) (r : Reading K) : List (ℕ × Bytes) × Reading K :=
  Machine.run step events r

/-- A tunnel that has started: the readers are about to read, and the kernel may have queued
something already. -/
def start (tunnel : BondingTunnel K) (queues : ℕ → List Bytes) : Reading K :=
  { tunnel, wires := fun linkId => { queue := queues linkId } }

/-! ### What is handed over -/

/-- The datagrams the kernel delivers for a link. -/
def arrivals (linkId : ℕ) (events : List (Event K)) : List Bytes :=
  events.filterMap fun e =>
    match e with
    | .arrive k data => if k = linkId then some data else none
    | _ => none

/-- The datagrams of a link that are handed to `_handle_datagram`. -/
def handed (linkId : ℕ) (out : List (ℕ × Bytes)) : List Bytes :=
  out.filterMap fun x => if x.1 = linkId then some x.2 else none

lemma handed_append (linkId : ℕ) (out out' : List (ℕ × Bytes)) :
    handed linkId (out ++ out') = handed linkId out ++ handed linkId out' :=
  List.filterMap_append

lemma arrivals_append (linkId : ℕ) (events events' : List (Event K)) :
    arrivals linkId (events ++ events') = arrivals linkId events ++ arrivals linkId events' :=
  List.filterMap_append

/-- What is in the hands of a reader. -/
def held : Turn → List Bytes
  | .got data => [data]
  | _ => []

/-- What has been delivered on a wire, but not handed over. -/
def pending (w : Wire) : List Bytes := held w.reader ++ w.queue.map cut

/-- What `_read_socket` hands over of what it reads. -/
def longEnough (data : Bytes) : Bool := headerLen ≤ data.length

variable {r : Reading K} {linkId : ℕ} {received : List Bytes} {out : List (ℕ × Bytes)}

/-- No handshake of the link is being made. -/
def Undisturbed (r : Reading K) (linkId : ℕ) : Prop := ∀ s ∈ r.shaking, s.linkId ≠ linkId

/-- The reader of a link waits in its place, and everything received has been handed over or is
underway. -/
structure Keeps (linkId : ℕ) (received : List Bytes) (r : Reading K) (out : List (ℕ × Bytes)) :
    Prop where
  idle : r.Undisturbed linkId
  alone : (r.wires linkId).registered ≠ some .handshake
  awake : (r.wires linkId).reader = .waiting ↔ (r.wires linkId).registered = some .reader
  account : ∃ read, received = read ++ pending (r.wires linkId) ∧
    handed linkId out = read.filter longEnough

lemma keeps_start (tunnel : BondingTunnel K) (queues : ℕ → List Bytes) (linkId : ℕ) :
    Keeps linkId ((queues linkId).map cut) (start tunnel queues) [] :=
  ⟨by simp [Undisturbed, start], by simp [start], by simp [start], [], rfl, rfl⟩

/-- A step that leaves the wire alone. -/
lemma Keeps.of_wire {r' : Reading K} (h : Keeps linkId received r out)
    (hs : r'.Undisturbed linkId) (hw : r'.wires linkId = r.wires linkId) :
    Keeps linkId received r' out :=
  ⟨hs, hw ▸ h.alone, hw ▸ h.awake, hw ▸ h.account⟩

@[simp] lemma shaking_setWire (r : Reading K) (k : ℕ) (w : Wire) :
    (r.setWire k w).shaking = r.shaking := rfl

@[simp] lemma wires_setWire_self (r : Reading K) (k : ℕ) (w : Wire) :
    (r.setWire k w).wires k = w := Function.update_self _ _ _

lemma wires_setWire_of_ne (r : Reading K) {k k' : ℕ} (h : k' ≠ k) (w : Wire) :
    (r.setWire k w).wires k' = r.wires k' := Function.update_of_ne h _ _

@[simp] lemma wires_handOver (r : Reading K) (k : ℕ) (data : Bytes) (now : Clock) :
    (r.handOver k data now).2.wires = r.wires := by
  rw [handOver]
  split
  · rfl
  · rfl

@[simp] lemma shaking_handOver (r : Reading K) (k : ℕ) (data : Bytes) (now : Clock) :
    (r.handOver k data now).2.shaking = r.shaking := by
  rw [handOver]
  split
  · rfl
  · rfl

lemma handed_handOver (r : Reading K) (linkId k : ℕ) (data : Bytes) (now : Clock) :
    handed linkId (r.handOver k data now).1 =
      if k = linkId then [data].filter longEnough else [] := by
  rw [handOver]
  by_cases hshort : data.length < headerLen
  · have hnot : longEnough data = false := by simpa [longEnough] using hshort
    rw [if_pos hshort]
    simp [handed, hnot]
  · have hlong : longEnough data = true := by simpa [longEnough] using hshort
    rw [if_neg hshort]
    by_cases hk : k = linkId
    · simp [handed, hk, hlong]
    · simp [handed, hk]

/-- Its reader hands a datagram over. -/
lemma Keeps.handOver (h : Keeps linkId received r out) {w : Wire} {data : Bytes}
    (hpending : pending (r.wires linkId) = data :: pending w) (hready : w.reader = .ready)
    (halone : w.registered = none) (now : Clock) :
    Keeps linkId received ((r.setWire linkId w).handOver linkId data now).2
      (out ++ ((r.setWire linkId w).handOver linkId data now).1) := by
  obtain ⟨read, hreceived, hhanded⟩ := h.account
  refine ⟨by simpa [Undisturbed] using h.idle, by simp [halone], by simp [hready, halone],
    read ++ [data], ?_, ?_⟩
  · simp [hreceived, hpending]
  · rw [handed_append, handed_handOver, if_pos rfl, hhanded, List.filter_append]

/-- Its wire changes, and nothing is handed over. -/
lemma Keeps.setWire (h : Keeps linkId received r out) {w : Wire}
    (hpending : pending (r.wires linkId) = pending w) (halone : w.registered ≠ some .handshake)
    (hawake : w.reader = .waiting ↔ w.registered = some .reader) :
    Keeps linkId received (r.setWire linkId w) out := by
  obtain ⟨read, hreceived, hhanded⟩ := h.account
  refine ⟨h.idle, by simpa using halone, by simpa using hawake, read, ?_, hhanded⟩
  rw [wires_setWire_self, ← hpending]
  exact hreceived

/-- Nothing is registered for a reader that does not wait. -/
lemma Keeps.registered_of_ne (h : Keeps linkId received r out)
    (hne : (r.wires linkId).reader ≠ .waiting) : (r.wires linkId).registered = none := by
  have hreader := fun hr => hne (h.awake.2 hr)
  cases hreg : (r.wires linkId).registered with
  | none => rfl
  | some who =>
    cases who with
    | reader => exact absurd hreg hreader
    | handshake => exact absurd hreg h.alone

/-- Another reader runs. -/
lemma resume_of_ne (r : Reading K) {k : ℕ} (hk : linkId ≠ k) (now : Clock) :
    (r.resume k now).2.wires linkId = r.wires linkId ∧
      (r.resume k now).2.shaking = r.shaking ∧ handed linkId (r.resume k now).1 = [] := by
  have hne : ¬ k = linkId := hk.symm
  simp only [Reading.resume]
  split
  · split
    · simp [wires_setWire_of_ne r hk, handed_handOver, hne]
    · simp [wires_setWire_of_ne r hk, handed]
  · simp [wires_setWire_of_ne r hk, handed_handOver, hne]
  · simp [wires_setWire_of_ne r hk, handed]
  · simp [handed]

lemma Keeps.resume (h : Keeps linkId received r out) (k : ℕ) (now : Clock) :
    Keeps linkId received (r.resume k now).2 (out ++ (r.resume k now).1) := by
  by_cases hk : linkId = k
  · subst hk
    cases hreader : (r.wires linkId).reader with
    | ready =>
      have hreg := h.registered_of_ne (by simp [hreader])
      cases hqueue : (r.wires linkId).queue with
      | nil =>
        simp only [Reading.resume, hreader, Wire.sockRecv, hqueue, List.append_nil]
        exact h.setWire (by simp [pending, held, hreader, hqueue]) (by simp) (by simp)
      | cons data queue =>
        simp only [Reading.resume, hreader, Wire.sockRecv, hqueue]
        refine h.handOver ?_ ?_ ?_ now
        · simp [pending, held, hreader, hqueue]
        · rfl
        · exact hreg
    | waiting =>
      simp only [Reading.resume, hreader, List.append_nil]
      exact h
    | got data =>
      have hreg := h.registered_of_ne (by simp [hreader])
      simp only [Reading.resume, hreader]
      refine h.handOver ?_ ?_ ?_ now
      · simp [pending, held, hreader]
      · rfl
      · exact hreg
    | sleeping =>
      have hreg := h.registered_of_ne (by simp [hreader])
      simp only [Reading.resume, hreader, List.append_nil]
      exact h.setWire (by simp [pending, held, hreader]) (by simp [hreg]) (by simp [hreg])
  · obtain ⟨hw, hs, hout⟩ := r.resume_of_ne hk now
    have hidle : (r.resume k now).2.Undisturbed linkId := by
      rw [Undisturbed, hs]
      exact h.idle
    have hkept := h.of_wire hidle hw
    refine ⟨hkept.idle, hkept.alone, hkept.awake, ?_⟩
    rw [handed_append, hout, List.append_nil]
    exact hkept.account

lemma Keeps.poll (h : Keeps linkId received r out) (k : ℕ) :
    Keeps linkId received (r.poll k) out := by
  by_cases hk : linkId = k
  · subst hk
    simp only [Reading.poll]
    split
    · -- the reader that waits gets a datagram
      rename_i data queue hqueue hreg
      have hreader := h.awake.2 hreg
      exact h.setWire (by simp [pending, held, hreader, hqueue]) (by simp) (by simp)
    · rename_i hreg
      exact absurd hreg h.alone
    · exact h
  · simp only [Reading.poll]
    split
    · exact h.of_wire h.idle (wires_setWire_of_ne r hk _)
    · refine h.of_wire ?_ (wires_setWire_of_ne r hk _)
      intro s hs
      obtain ⟨s', hs', rfl⟩ := Option.mem_map.1 hs
      exact h.idle s' hs'
    · exact h

lemma Keeps.fault (h : Keeps linkId received r out) (k : ℕ) :
    Keeps linkId received (r.fault k) out := by
  by_cases hk : linkId = k
  · subst hk
    simp only [Reading.fault]
    split
    · rename_i hreader
      have hreg := h.registered_of_ne (by simp [hreader])
      exact h.setWire (by simp [pending, held, hreader]) (by simp [hreg]) (by simp [hreg])
    · rename_i hreader hreg
      exact h.setWire (by simp [pending, held, hreader]) (by simp) (by simp)
    · exact h
  · simp only [Reading.fault]
    split
    · exact h.of_wire h.idle (wires_setWire_of_ne r hk _)
    · exact h.of_wire h.idle (wires_setWire_of_ne r hk _)
    · exact h

/-- A datagram comes in for a link. -/
lemma Keeps.arrive (h : Keeps linkId received r out) (data : Bytes) :
    Keeps linkId (received ++ [cut data])
      (r.setWire linkId { r.wires linkId with queue := (r.wires linkId).queue ++ [data] }) out := by
  obtain ⟨read, hreceived, hhanded⟩ := h.account
  refine ⟨h.idle, by simpa using h.alone, by simpa using h.awake, read, ?_, hhanded⟩
  rw [wires_setWire_self, hreceived]
  simp [pending]

/-- The keepalive loop starts no handshake of the link. -/
def Quiet (linkId : ℕ) (r : Reading K) : Event K → Prop
  | .keepalive k now _ => k = linkId → r.tunnel.goneQuiet linkId now = false
  | _ => True

instance (linkId : ℕ) (r : Reading K) : DecidablePred (Quiet linkId r)
  | .keepalive _ _ _ => inferInstanceAs (Decidable (_ → _))
  | .arrive _ _ | .poll _ | .resume _ _ | .fault _ | .attempt _ _ | .answer _ | .timeout
  | .background _ => inferInstanceAs (Decidable True)

lemma arrivals_singleton_of_ne {e : Event K} (h : ∀ data, e ≠ .arrive linkId data) :
    arrivals linkId [e] = [] := by
  cases e with
  | arrive k data =>
    have hne : ¬ k = linkId := fun hk => h data (hk ▸ rfl)
    simp [arrivals, hne]
  | _ => rfl

lemma wires_examine (r : Reading K) (s : Shaking) (data : Bytes) (now : Time) :
    (r.examine s data now).wires = r.wires := by
  rw [examine]
  split
  · rfl
  · split
    · rfl
    · rfl

lemma linkId_of_mem_examine {s s' : Shaking} {data : Bytes} {now : Time}
    (h : s' ∈ (r.examine s data now).shaking) : s'.linkId = s.linkId := by
  rw [examine] at h
  split at h
  · rw [← Option.some.inj h]
  · split at h
    · exact absurd h (by simp)
    · rw [← Option.some.inj h]

lemma Keeps.keepalive (h : Keeps linkId received r out) {k : ℕ} {now : Time} {sendOk : Bool}
    (hquiet : r.Quiet linkId (.keepalive k now sendOk)) :
    Keeps linkId received (r.keepalive k now sendOk) out := by
  rw [Reading.keepalive]
  split
  · exact h
  · refine h.of_wire (fun s hs hk => ?_) rfl
    simp only [Option.mem_def] at hs
    split at hs
    · rename_i hgone
      obtain rfl := Option.some.inj hs
      have hnot := hquiet hk
      rw [← hk, hgone] at hnot
      exact absurd hnot (by simp)
    · exact absurd hs (by simp)

/-- A handshake of another link goes on. -/
lemma Keeps.attempt (h : Keeps linkId received r out) (now : Time) (sendOk : Bool) :
    Keeps linkId received (r.attempt now sendOk) out := by
  rw [Reading.attempt]
  split
  · rename_i k tries hs
    have hk : linkId ≠ k := (h.idle _ hs).symm
    simp only []
    split
    · exact h.of_wire (by simp [Undisturbed]) rfl
    · cases hrecv : (r.wires k).sockRecv .handshake with
      | mk data w =>
        cases data with
        | none =>
          refine h.of_wire (fun s hs => ?_) (wires_setWire_of_ne _ hk _)
          rw [← Option.some.inj hs]
          exact hk.symm
        | some data =>
          refine h.of_wire (fun s hs => ?_) ?_
          · rw [linkId_of_mem_examine hs]
            exact hk.symm
          · rw [wires_examine]
            exact wires_setWire_of_ne _ hk _
  · exact h.of_wire (by simp [Undisturbed]) rfl
  · exact h

lemma Keeps.answer (h : Keeps linkId received r out) (now : Time) :
    Keeps linkId received (r.answer now) out := by
  rw [Reading.answer]
  split
  · rename_i k tries data hs
    have hk : k ≠ linkId := h.idle _ hs
    refine h.of_wire (fun s hs' => ?_) (by rw [wires_examine])
    rw [linkId_of_mem_examine hs']
    exact hk
  · exact h

lemma Keeps.timeout (h : Keeps linkId received r out) : Keeps linkId received r.timeout out := by
  rw [Reading.timeout]
  split
  · rename_i k tries hs
    have hk : linkId ≠ k := (h.idle _ hs).symm
    refine h.of_wire (fun s hs' => ?_) (wires_setWire_of_ne r hk _)
    rw [← Option.some.inj hs']
    exact hk.symm
  · exact h

/-- One step of a run without such handshakes. -/
lemma Keeps.step (h : Keeps linkId received r out) {e : Event K} (he : r.Quiet linkId e) :
    Keeps linkId (received ++ (arrivals linkId [e]).map cut) (r.step e).2 (out ++ (r.step e).1) := by
  have hnone : arrivals linkId [e] = [] → Keeps linkId received (r.step e).2 (out ++ (r.step e).1) →
      Keeps linkId (received ++ (arrivals linkId [e]).map cut) (r.step e).2 (out ++ (r.step e).1) := by
    intro harrivals hkeeps
    rwa [harrivals, List.map_nil, List.append_nil]
  cases e with
  | arrive k data =>
    by_cases hk : linkId = k
    · subst hk
      have harrivals : arrivals linkId [(.arrive linkId data : Event K)] = [data] := by
        simp [arrivals]
      rw [harrivals]
      simpa only [Reading.step, List.append_nil, List.map_cons, List.map_nil] using h.arrive data
    · refine hnone (arrivals_singleton_of_ne fun data' heq => ?_) ?_
      · exact hk (Event.arrive.inj heq).1.symm
      · simp only [Reading.step, List.append_nil]
        exact h.of_wire h.idle (wires_setWire_of_ne r hk _)
  | poll k =>
    refine hnone rfl ?_
    simpa only [Reading.step, List.append_nil] using h.poll k
  | resume k now => exact hnone rfl (h.resume k now)
  | fault k =>
    refine hnone rfl ?_
    simpa only [Reading.step, List.append_nil] using h.fault k
  | keepalive k now sendOk =>
    refine hnone rfl ?_
    simp only [Reading.step, List.append_nil]
    exact h.keepalive he
  | attempt now sendOk =>
    refine hnone rfl ?_
    simpa only [Reading.step, List.append_nil] using h.attempt now sendOk
  | answer now =>
    refine hnone rfl ?_
    simpa only [Reading.step, List.append_nil] using h.answer now
  | timeout =>
    refine hnone rfl ?_
    simpa only [Reading.step, List.append_nil] using h.timeout
  | background e =>
    refine hnone rfl ?_
    simp only [Reading.step, List.append_nil]
    split
    · exact h.of_wire h.idle rfl
    · exact h

/-! ### Handing everything over -/

/-- The event loop gives the reader of a link its turns. -/
def turns (linkId : ℕ) (now : Clock) : ℕ → List (Event K)
  | 0 => []
  | n + 1 => .poll linkId :: .resume linkId now :: turns linkId now n

/-- A turn hands over the next datagram underway, unless the reader has to wake up first. -/
lemma Keeps.turn (h : Keeps linkId received r out) (now : Clock) :
    (((r.poll linkId).resume linkId now).2.wires linkId).reader ≠ .sleeping ∧
      ((r.wires linkId).reader ≠ .sleeping →
        pending (((r.poll linkId).resume linkId now).2.wires linkId) =
          (pending (r.wires linkId)).tail) := by
  have hstay : (r.wires linkId).reader ≠ .waiting → r.poll linkId = r := by
    intro hne
    rw [Reading.poll, h.registered_of_ne hne]
    split
    · rename_i hreg
      exact absurd hreg (by simp)
    · rename_i hreg
      exact absurd hreg (by simp)
    · rfl
  cases hreader : (r.wires linkId).reader with
  | ready =>
    rw [hstay (by simp [hreader])]
    cases hqueue : (r.wires linkId).queue with
    | nil => simp [Reading.resume, hreader, Wire.sockRecv, hqueue, pending, held]
    | cons data queue => simp [Reading.resume, hreader, Wire.sockRecv, hqueue, pending, held]
  | waiting =>
    have hreg := h.awake.1 hreader
    cases hqueue : (r.wires linkId).queue with
    | nil =>
      have hpoll : r.poll linkId = r := by simp only [Reading.poll, hqueue, hreg]
      simp [hpoll, Reading.resume, hreader, hqueue, pending, held]
    | cons data queue =>
      simp [Reading.poll, hqueue, hreg, Reading.resume, hreader, pending, held]
  | got data =>
    rw [hstay (by simp [hreader])]
    simp [Reading.resume, hreader, pending, held]
  | sleeping =>
    rw [hstay (by simp [hreader])]
    simp [Reading.resume, hreader]

/-- Enough turns hand over everything. -/
lemma Keeps.turns (n : ℕ) (now : Clock) : ∀ {r : Reading K} {out : List (ℕ × Bytes)},
    Keeps linkId received r out → (r.wires linkId).reader ≠ .sleeping →
      (pending (r.wires linkId)).length ≤ n →
        Keeps linkId received (run (Reading.turns linkId now n) r).2
          (out ++ (run (Reading.turns linkId now n) r).1) ∧
        pending ((run (Reading.turns linkId now n) r).2.wires linkId) = [] := by
  induction n with
  | zero =>
    intro r out h _ hlen
    exact ⟨by simpa [run, Reading.turns] using h, List.length_eq_zero_iff.1 (Nat.le_zero.1 hlen)⟩
  | succ n ih =>
    intro r out h hawake hlen
    obtain ⟨hawake', htail⟩ := h.turn now
    have hkept := (h.poll linkId).resume linkId now
    obtain ⟨hrest, hpending⟩ := ih hkept hawake' (by
      rw [htail hawake, List.length_tail]
      omega)
    rw [List.append_assoc] at hrest
    exact ⟨hrest, hpending⟩

/-- Every datagram of a link is handed over once: so far without loss, and in full once the reader
has had its turns. -/
def ExactlyOnce (r : Reading K) (events : List (Event K)) (linkId : ℕ) : Prop :=
  handed linkId (run events r).1 ++ pending ((run events r).2.wires linkId) =
      (r.wires linkId).queue ++ arrivals linkId events ∧
    ∀ now, ∃ n, handed linkId (run (events ++ turns linkId now n) r).1 =
      (r.wires linkId).queue ++ arrivals linkId events

lemma run_append (events events' : List (Event K)) (r : Reading K) :
    run (events ++ events') r =
      ((run events r).1 ++ (run events' (run events r).2).1, (run events' (run events r).2).2) :=
  Machine.run_append step events events' r

/-- A run without handshakes of the link. -/
lemma keeps_run (tunnel : BondingTunnel K) (queues : ℕ → List Bytes) (linkId : ℕ)
    (events : List (Event K))
    (hquiet : Machine.Meets step (fun r _ e => r.Quiet linkId e) events (start tunnel queues) []) :
    Keeps linkId ((queues linkId ++ arrivals linkId events).map cut)
      (run events (start tunnel queues)).2 (run events (start tunnel queues)).1 := by
  refine Machine.run_induction step
    (I := fun events r out => Keeps linkId ((queues linkId ++ arrivals linkId events).map cut) r out)
    ?_ (fun events e r out h he => ?_) events hquiet
  · have hnil : arrivals linkId ([] : List (Event K)) = [] := rfl
    rw [hnil, List.append_nil]
    exact keeps_start tunnel queues linkId
  · rw [arrivals_append, ← List.append_assoc, List.map_append]
    exact h.step he

/-- **Reading.**  In a run in which the keepalive loop starts no handshake of a link, every datagram
the kernel delivers for it is handed to `_handle_datagram` once, if all have the length of a header
and fit the read. -/
theorem read_exactly_once (tunnel : BondingTunnel K) (queues : ℕ → List Bytes)
    (events : List (Event K)) (linkId : ℕ)
    (hquiet : Machine.Meets step (fun r _ e => r.Quiet linkId e) events (start tunnel queues) [])
    (hlen : ∀ data ∈ queues linkId ++ arrivals linkId events,
      headerLen ≤ data.length ∧ data.length ≤ maxDatagram) :
    (start tunnel queues).ExactlyOnce events linkId := by
  have hcut : (queues linkId ++ arrivals linkId events).map cut =
      queues linkId ++ arrivals linkId events :=
    (List.map_congr_left fun data hdata => List.take_of_length_le (hlen data hdata).2).trans
      (List.map_id' _)
  have hkeeps := keeps_run tunnel queues linkId events hquiet
  rw [hcut] at hkeeps
  have hread : ∀ {r : Reading K} {out : List (ℕ × Bytes)},
      Keeps linkId (queues linkId ++ arrivals linkId events) r out →
        handed linkId out ++ pending (r.wires linkId) = queues linkId ++ arrivals linkId events := by
    intro r out h
    obtain ⟨read, hreceived, hhanded⟩ := h.account
    have hlong : read.filter longEnough = read := by
      refine List.filter_eq_self.2 fun data hdata => ?_
      have hmem : data ∈ queues linkId ++ arrivals linkId events :=
        hreceived ▸ List.mem_append_left _ hdata
      simpa [longEnough] using (hlen data hmem).1
    rw [hhanded, hlong, hreceived]
  refine ⟨hread hkeeps, fun now => ?_⟩
  have hturn := (hkeeps.poll linkId).resume linkId now
  obtain ⟨hall, hpending⟩ := hturn.turns _ now (hkeeps.turn now).1 le_rfl
  refine ⟨(pending ((((run events (start tunnel queues)).2.poll linkId).resume linkId
    now).2.wires linkId)).length + 1, ?_⟩
  have hdone := hread hall
  rw [hpending, List.append_nil, List.append_assoc] at hdone
  rw [run_append]
  exact hdone

/-- A tunnel with one link. -/
def oneLinkTunnel : BondingTunnel ℚ :=
  ((BondingTunnel.new { enabled := true, host := "vps" } ⟨Aead.plain⟩ 7
    [{ name := "wan1", interface := "eth0", linkId := 1, state := .up }] none .weighted).start
      fun _ => true).2

/-- The concentrator answers a keepalive, and the reader waits for more. -/
def answered : List (Event ℚ) :=
  [.resume 1 ⟨1000, 0⟩,
    .arrive 1 (datagram ⟨Aead.plain⟩ { type := .keepalive, sessionId := 7, linkId := 1, counter := 1 }),
    .poll 1, .resume 1 ⟨1000, 0⟩, .resume 1 ⟨1000, 0⟩]

theorem read_exactly_once_answered :
    (start oneLinkTunnel fun _ => []).ExactlyOnce answered 1 :=
  read_exactly_once oneLinkTunnel (fun _ => []) answered 1 (by decide +kernel) (by decide +kernel)

/-- After a long silence the keepalive loop handshakes the link, and a packet comes in. -/
def interrupted : List (Event ℚ) :=
  answered ++ [.keepalive 1 2000 true, .attempt 2000 true,
    .arrive 1 (datagram ⟨Aead.plain⟩
      { type := .data, sessionId := 7, linkId := 1, counter := 2, seq := 1, payload := [69] }),
    .poll 1, .answer 2000]

/-- The packet is gone. -/
theorem lost_interrupted :
    ¬ ∀ events : List (Event ℚ), (∀ data ∈ arrivals 1 events,
      headerLen ≤ data.length ∧ data.length ≤ maxDatagram) →
        (start oneLinkTunnel fun _ => []).ExactlyOnce events 1 := by
  intro h
  have honce := (h interrupted (by decide +kernel)).1
  exact absurd honce (by decide +kernel)

/-! ### After a handshake -/

/-- The reader of a link waits, but is not registered. -/
def Orphaned (r : Reading K) (linkId : ℕ) : Prop :=
  (r.wires linkId).reader = .waiting ∧ (r.wires linkId).registered ≠ some .reader

lemma Orphaned.of_wire {r' : Reading K} (h : r.Orphaned linkId) {w : Wire} (k : ℕ)
    (hw : r'.wires = Function.update r.wires k w)
    (hreader : w.reader = (r.wires k).reader)
    (hreg : w.registered = some .reader → (r.wires k).registered = some .reader) :
    r'.Orphaned linkId := by
  rw [Orphaned, hw]
  by_cases hk : linkId = k
  · subst hk
    rw [Function.update_self]
    exact ⟨hreader.trans h.1, fun hr => h.2 (hreg hr)⟩
  · rw [Function.update_of_ne hk]
    exact h

/-- An orphaned reader stays one, whatever happens, and hands nothing over. -/
lemma Orphaned.step (h : r.Orphaned linkId) (e : Event K) :
    (r.step e).2.Orphaned linkId ∧ handed linkId (r.step e).1 = [] := by
  cases e with
  | arrive k data => exact ⟨h.of_wire k rfl rfl id, rfl⟩
  | poll k =>
    refine ⟨?_, rfl⟩
    simp only [Reading.step, poll]
    split
    · -- only a registered reader is called, and this one is not
      rename_i data queue hqueue hreg
      by_cases hk : linkId = k
      · exact absurd (hk ▸ hreg) h.2
      · rw [Orphaned, wires_setWire_of_ne r hk]
        exact h
    · exact h.of_wire k rfl rfl (by simp)
    · exact h
  | resume k now =>
    by_cases hk : linkId = k
    · subst hk
      simp only [Reading.step, Reading.resume, h.1]
      exact ⟨h, rfl⟩
    · obtain ⟨hw, -, hnone⟩ := r.resume_of_ne hk now
      refine ⟨?_, hnone⟩
      rw [Reading.step, Orphaned, hw]
      exact h
  | fault k =>
    refine ⟨?_, rfl⟩
    simp only [Reading.step, Reading.fault]
    split
    · rename_i hreader
      by_cases hk : linkId = k
      · exact absurd (hreader.symm.trans (hk ▸ h.1)) (by simp)
      · rw [Orphaned, wires_setWire_of_ne r hk]
        exact h
    · rename_i hreader hreg
      by_cases hk : linkId = k
      · exact absurd (hk ▸ hreg) h.2
      · rw [Orphaned, wires_setWire_of_ne r hk]
        exact h
    · exact h
  | keepalive k now sendOk =>
    refine ⟨?_, rfl⟩
    simp only [Reading.step, Reading.keepalive]
    split
    · exact h
    · exact h
  | attempt now sendOk =>
    refine ⟨?_, rfl⟩
    simp only [Reading.step, attempt]
    split
    · rename_i k tries _
      split
      · exact h
      · -- either it finds an answer, or it registers itself
        simp only [Wire.sockRecv]
        cases hqueue : (r.wires k).queue with
        | nil => exact h.of_wire k rfl rfl (by simp)
        | cons data queue =>
          refine h.of_wire k (w := { r.wires k with queue }) ?_ rfl id
          rw [wires_examine]
          rfl
    · exact h
    · exact h
  | answer now =>
    refine ⟨?_, rfl⟩
    simp only [Reading.step, answer]
    split
    · rw [Orphaned, wires_examine]
      exact h
    · exact h
  | timeout =>
    refine ⟨?_, rfl⟩
    simp only [Reading.step, timeout]
    split
    · rename_i k tries _
      refine h.of_wire k rfl rfl ?_
      intro hreg
      -- giving up can only take the handshake's own registration away
      by_cases hshake : (r.wires k).registered = some .handshake
      · rw [if_pos hshake] at hreg
        exact absurd hreg (by simp)
      · rwa [if_neg hshake] at hreg
    · exact h
  | background e =>
    refine ⟨?_, rfl⟩
    simp only [Reading.step]
    split
    · exact h
    · exact h

/-- Once its registration has been replaced, a reader hands nothing over any more. -/
theorem Orphaned.run (h : r.Orphaned linkId) (events : List (Event K)) :
    handed linkId (Reading.run events r).1 = [] := by
  induction events generalizing r with
  | nil => rfl
  | cons e events ih =>
    obtain ⟨hnext, hnone⟩ := h.step e
    rw [Reading.run, Machine.run_cons, handed_append, hnone, List.nil_append]
    exact ih hnext

/-- A handshake of a link whose reader waits leaves the reader without its registration: nothing
that comes in for the link later is handed over. -/
theorem deaf_of_attempt {tries : ℕ} (hs : r.shaking = some ⟨linkId, tries + 1, .ready⟩)
    (hwaiting : (r.wires linkId).reader = .waiting) (hqueue : (r.wires linkId).queue = [])
    (now : Time) (sendOk : Bool)
    (hsent : (r.tunnel.sendControl linkId .handshake now sendOk).1.any Effect.isRaise = false)
    (events : List (Event K)) :
    handed linkId (Reading.run (.attempt now sendOk :: events) r).1 = [] := by
  have horphaned : (r.attempt now sendOk).Orphaned linkId := by
    rw [Reading.attempt, hs]
    simp only [hsent, Bool.false_eq_true, if_false, Wire.sockRecv, hqueue]
    rw [Orphaned, wires_setWire_self]
    exact ⟨hwaiting, by simp⟩
  exact horphaned.run events

end Reading

end Turbobond.Bond
