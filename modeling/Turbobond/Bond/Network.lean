import Turbobond.Bond.InOrder
import Turbobond.Bond.TunnelReplay

/-!
# A network that loses datagrams

A client and the concentrator over a network that may lose datagrams but neither copies nor
reorders them: each direction is a queue, of which any number of datagrams may be lost before
the next one arrives.
-/

set_option linter.unusedSectionVars false

namespace Turbobond.Bond

open Config Links Util Turbobond.Bond.System

/-- A client and the concentrator, and the datagrams under way between them. -/
structure Network (K : Type) [Zero K] [One K] where
  sys : System K
  sessionId : ℕ
  /-- To the concentrator. -/
  up : List Sealed := []
  /-- To the client. -/
  down : List Sealed := []
  /-- What the client's sockets have read, with the number of the socket; nothing looks at it. -/
  arrived : List (ℕ × Sealed) := []

variable {K : Type} [Field K] [LinearOrder K]

/-- The datagrams the first client has sealed. -/
def sentUp (out : List (Party × Effect)) : List Sealed :=
  (sealedBy out).filterMap fun x => if x.1 = .client 0 then some x.2 else none

/-- The datagrams the concentrator has sealed for a session. -/
def sentDown (sid : ℕ) (out : List (Party × Effect)) : List Sealed :=
  (sealedBy out).filterMap fun x =>
    if x.1 = .server ∧ x.2.frame.sessionId = sid then some x.2 else none

namespace Network

inductive Event (K : Type) [Zero K] [One K] where
  /-- The client does anything but read. -/
  | client (e : BondingTunnel.Event K)
  /-- The concentrator does anything but read. -/
  | server (e : ConcentratorServer.Event)
  /-- The concentrator reads the next datagram that is not lost. -/
  | rise (lost : ℕ) (addr : Addr) (now : Clock) (sendOk : Bool)
  /-- The next datagram that is not lost is read from the socket of its link, -/
  | fall (lost : ℕ) (now : Clock)
  /-- or by a handshake that waits on the socket. -/
  | answer (lost : ℕ) (now : Time)

/-- What a socket of the client reads. -/
def reads (w : Network K) (x : Sealed) : List (ℕ × Sealed) :=
  match w.sys.clients[0]? with
  | none => []
  | some t =>
    match t.sockets.get? x.frame.linkId with
    | none => []
    | some ls => [(ls.ident, x)]

variable [HasSqrt K]

/-- A tunnel that is about to start, and a concentrator that has. -/
def start (sealer : Sealer) (reorderTimeoutMs : ℚ) (cfg : ConcentratorConfig) (sessionId : ℕ)
    (links : List (Link K)) (sip : Option SipConfig) (mode : SchedulerMode) : Network K :=
  { sys := paired sealer reorderTimeoutMs cfg sessionId links sip mode, sessionId }

/-- One end does something, and what it seals is under way. -/
def act (w : Network K) (e : System.Event K) : List (Party × Effect) × Network K :=
  let (out, sys) := w.sys.step e
  (out, { w with sys, up := w.up ++ sentUp out, down := w.down ++ sentDown w.sessionId out })

def step (w : Network K) : Event K → List (Party × Effect) × Network K
  | .client e => if (System.Event.client 0 e).delivered.isSome then ([], w) else w.act (.client 0 e)
  | .server e =>
    if (System.Event.server (K := K) e).delivered.isSome then ([], w) else w.act (.server e)
  | .rise lost addr now sendOk =>
    match w.up.drop lost with
    | [] => ([], { w with up := [] })
    | x :: up => { w with up }.act (.server (.datagram x.datagram addr now sendOk))
  | .fall lost now =>
    match w.down.drop lost with
    | [] => ([], { w with down := [] })
    | x :: down =>
      { w with down, arrived := w.arrived ++ w.reads x }.act
        (.client 0 (.datagram x.frame.linkId x.datagram now))
  | .answer lost now =>
    match w.down.drop lost with
    | [] => ([], { w with down := [] })
    | x :: down =>
      { w with down }.act (.client 0 (.handshakeReply x.frame.linkId x.datagram now))

def run (events : List (Event K)) (w : Network K) : List (Party × Effect) × Network K :=
  Machine.run step events w

end Network

/-! ### What was sealed for a session -/

lemma sentDown_append (sid : ℕ) (out out' : List (Party × Effect)) :
    sentDown sid (out ++ out') = sentDown sid out ++ sentDown sid out' := by
  rw [sentDown, sealedBy_append, List.filterMap_append, sentDown, sentDown]

lemma sentDown_client (sid i : ℕ) (out : List Effect) :
    sentDown sid (out.map fun x => (.client i, x)) = [] := by
  rw [sentDown, sealedBy_map, List.filterMap_map]
  exact List.filterMap_eq_nil_iff.2 fun x _ => by simp

lemma mem_sentDown {sid : ℕ} {out : List (Party × Effect)} {x : Sealed} :
    x ∈ sentDown sid out ↔ (.server, x) ∈ sealedBy out ∧ x.frame.sessionId = sid := by
  simp only [sentDown, List.mem_filterMap, Option.ite_none_right_eq_some, Option.some.injEq]
  constructor
  · rintro ⟨⟨party, y⟩, hy, ⟨rfl, hsid⟩, rfl⟩
    exact ⟨hy, hsid⟩
  · rintro ⟨hx, hsid⟩
    exact ⟨_, hx, ⟨rfl, hsid⟩, rfl⟩

/-- A frame that carries a packet. -/
def Sealed.IsData (x : Sealed) : Prop := x.frame.type = .data

instance (x : Sealed) : Decidable x.IsData := inferInstanceAs (Decidable (_ = _))

lemma filter_sentDown_server (sid : ℕ) (out : List Effect) :
    (sentDown sid (out.map fun x => (.server, x))).filter (fun x => x.IsData) = dataOf sid out := by
  rw [sentDown, sealedBy_map, List.filterMap_map, dataOf]
  induction sends out with
  | nil => rfl
  | cons x l ih =>
    by_cases hs : x.frame.sessionId = sid
    · by_cases ht : x.frame.type = .data
      · simpa [List.filterMap_cons, hs, Sealed.IsData, ht] using ih
      · simpa [List.filterMap_cons, hs, Sealed.IsData, ht] using ih
    · simpa [List.filterMap_cons, hs] using ih

end Turbobond.Bond
