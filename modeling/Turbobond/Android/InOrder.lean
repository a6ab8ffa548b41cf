import Turbobond.Android.DatapathSteps
import Turbobond.Android.ReorderFed
import Turbobond.Bond.Origin
import Turbobond.Bond.ReorderFed
import Turbobond.Bond.ServerSession

/-!
# Order between a phone and the concentrator

The Android client numbers packets from wherever the last start left off and copies small ones over
every radio, and its reorder buffer is not the one of the concentrator.  While the session stays at
the concentrator, the packets written at either end are all the same a sublist of those handed over
at the other, whatever the threads of the phone and the network do.
-/

namespace Turbobond.Android

open Bond (Party Sealed Effect ConcentratorServer)
open Bond.System (sealedBy writesBy)

/-- A phone, the first of the concentrator's clients, and the concentrator. -/
structure Bonded where
  phone : Datapath
  server : ConcentratorServer

namespace Bonded

inductive Event where
  | phone (e : Datapath.Event)
  | server (e : ConcentratorServer.Event)

def step (sys : Bonded) : Event → List (Party × Effect) × Bonded
  | .phone e =>
    let (out, phone) := sys.phone.step e
    (out.map fun x => (.client 0, x), { sys with phone })
  | .server e =>
    let (out, server) := sys.server.step e
    (out.map fun x => (.server, x), { sys with server })

def run (events : List Event) (sys : Bonded) : List (Party × Effect) × Bonded :=
  Machine.run step events sys

lemma step_phone (sys : Bonded) (e : Datapath.Event) :
    sys.step (.phone e) = ((sys.phone.step e).1.map fun x => (.client 0, x),
      { sys with phone := (sys.phone.step e).2 }) := rfl

lemma step_server (sys : Bonded) (e : ConcentratorServer.Event) :
    sys.step (.server e) = ((sys.server.step e).1.map fun x => (.server, x),
      { sys with server := (sys.server.step e).2 }) := rfl

/-- The packets that the TUN device of the phone hands over. -/
def handed (events : List Event) : List Bytes :=
  events.filterMap fun
    | .phone (.tunRead data) => some (data.take (mtu + 128))
    | _ => none

/-- The packets handed to `_dispatch_downstream`. -/
def dispatched (events : List Event) : List Bytes :=
  events.filterMap fun
    | .server (.downstream packet _ _) => some packet
    | _ => none

/-- The session stays once it is made, and what either end reads of it was sealed at the other, for
the session. -/
structure Connected (sid : ℕ) (sys : Bonded) (hist : List (Party × Effect)) (e : Event) : Prop where
  alive : (sys.server.stream? sid).isSome → ((sys.step e).2.server.stream? sid).isSome
  upstream : ∀ data addr now sendOk f, e = .server (.datagram data addr now sendOk) →
    Bond.decodeFrame sys.server.sealer data = some f → f.sessionId = sid →
      ∃ x ∈ sealedBy hist, x.1 = .client 0 ∧ x.2.datagram = data
  downstream : ∀ uplink data now f, e = .phone (.netRead uplink data now) →
    decode sys.phone.sealer data = some f →
      ∃ x ∈ sealedBy hist, x.1 = .server ∧ x.2.frame.sessionId = sid ∧ x.2.datagram = data

lemma handed_append (events events' : List Event) :
    handed (events ++ events') = handed events ++ handed events' := List.filterMap_append

lemma dispatched_append (events events' : List Event) :
    dispatched (events ++ events') = dispatched events ++ dispatched events' :=
  List.filterMap_append

/-! ### What both ends keep -/

/-- Both ends share the key, the concentrator's sessions are in order, and what was sealed was
encoded under the key. -/
structure Sound (sys : Bonded) (hist : List (Party × Effect)) : Prop where
  key : sys.phone.sealer = sys.server.sealer
  keyed : ConcentratorServer.Keyed sys.server
  encoded : ∀ x ∈ sealedBy hist, Bond.encodeFrame sys.server.sealer x.2.frame = .ok x.2.datagram

lemma Sound.step {sys : Bonded} {hist : List (Party × Effect)} (h : Sound sys hist) (e : Event) :
    Sound (sys.step e).2 (hist ++ (sys.step e).1) := by
  cases e with
  | phone e =>
    refine ⟨(sys.phone.sealer_step e).trans h.key, h.keyed, fun x hx => ?_⟩
    rw [Bond.System.sealedBy_append, List.mem_append] at hx
    rcases hx with hx | hx
    · exact h.encoded x hx
    · rw [step_phone, Bond.System.sealedBy_map] at hx
      obtain ⟨sent, hsent, rfl⟩ := List.mem_map.1 hx
      obtain ⟨_, _, _, _, _, _, -, -, -, -, -, henc⟩ := Datapath.sends_step hsent
      rw [h.key] at henc
      exact henc
  | server e =>
    have hsealer := sys.server.step_sealer e
    refine ⟨h.key.trans hsealer.symm, h.keyed.step e, fun x hx => ?_⟩
    rw [Bond.System.sealedBy_append, List.mem_append] at hx
    change Bond.encodeFrame (sys.server.step e).2.sealer _ = _
    rw [hsealer]
    rcases hx with hx | hx
    · exact h.encoded x hx
    · rw [step_server, Bond.System.sealedBy_map] at hx
      obtain ⟨sent, hsent, rfl⟩ := List.mem_map.1 hx
      exact (ConcentratorServer.sends_step h.keyed hsent).1

/-- What was sealed decodes to its frame, cut down to the widths of its fields. -/
lemma Sound.masked {sys : Bonded} {hist : List (Party × Effect)} (h : Sound sys hist)
    {x : Party × Sealed} (hx : x ∈ sealedBy hist) {f : Bond.Frame}
    (hf : Bond.decodeFrame sys.server.sealer x.2.datagram = some f) : f = x.2.frame.masked := by
  obtain ⟨-, hl, hd⟩ := Bond.encodeFrame_eq_ok_iff.1 (h.encoded x hx)
  rw [hd, Bond.decodeFrame_datagram _ _ hl] at hf
  exact (Option.some.inj hf).symm

/-- A session that stays and is not there afterwards was not there before. -/
lemma Connected.stream?_of_gone {sid : ℕ} {sys : Bonded} {hist : List (Party × Effect)}
    {e : ConcentratorServer.Event} (hc : Connected sid sys hist (.server e))
    (hgone : (sys.server.step e).2.stream? sid = none) : sys.server.stream? sid = none := by
  by_contra hne
  have halive : ((sys.server.step e).2.stream? sid).isSome :=
    hc.alive (Option.isSome_iff_ne_none.2 hne)
  rw [hgone] at halive
  exact absurd halive (by simp)

/-! ### Upstream -/

/-- The packet stands in the list under the number, where the first has the number `first`. -/
def Counted (first : ℕ) (l : List Bytes) (n : ℤ) (packet : Bytes) : Prop :=
  Numbered l (n - first + 1) packet

lemma Counted.append {first : ℕ} {l : List Bytes} {n : ℤ} {packet : Bytes}
    (h : Counted first l n packet) (more : List Bytes) : Counted first (l ++ more) n packet :=
  Numbered.append h more

lemma Counted.concat (first : ℕ) (l : List Bytes) (packet : Bytes) :
    Counted first (l ++ [packet]) (first + l.length : ℕ) packet := by
  have hnext := Numbered.concat l packet
  rw [Counted]
  push_cast at hnext ⊢
  rwa [add_sub_cancel_left]

/-- What was released under increasing numbers is a sublist. -/
lemma sublist_of_counted {first : ℕ} {l : List Bytes} {released : List (ℤ × Bytes)}
    (hsorted : (released.map Prod.fst).Pairwise (· < ·))
    (hcounted : ∀ e ∈ released, Counted first l e.1 e.2) : (Bond.payloads released).Sublist l := by
  have hsub : ((released.map fun e => (e.1 - (first : ℤ) + 1, e.2)).map Prod.snd).Sublist l :=
    sublist_of_numbered ?_ ?_
  · rw [List.map_map] at hsub
    exact hsub
  · rw [List.map_map]
    rw [List.pairwise_map] at hsorted ⊢
    exact hsorted.imp fun hlt => by
      simp only [Function.comp_apply]
      omega
  · intro e he
    obtain ⟨e₀, he₀, rfl⟩ := List.mem_map.1 he
    exact hcounted e₀ he₀

/-- The packets numbered so far on the phone, and what has become of them. -/
structure Upstream (first sid : ℕ) (events : List Event) (sys : Bonded)
    (hist : List (Party × Effect)) (sent : List Bytes) (released : List (ℤ × Bytes)) : Prop where
  sub : sent.Sublist (handed events)
  next : sys.phone.sequence = BitVec.ofNat 64 (first + sent.length)
  typed : ∀ thread, (sys.phone.senders thread).Typed
  calls : ∀ thread, ∀ call ∈ (sys.phone.senders thread).pending, call.type = some .data →
    Counted first sent call.seq.toNat call.payload
  sealed : ∀ x ∈ sealedBy hist, x.1 = .client 0 → x.2.frame.type = .data →
    x.2.frame.seq < 2 ^ 64 ∧ Counted first sent x.2.frame.seq x.2.frame.payload
  written : writesBy .server sid hist = Bond.payloads released
  stream : (sys.server.stream? sid = none ∧ released = []) ∨
    ∃ x, sys.server.stream? sid = some x ∧ x.reorder.Fed (Counted first sent) released

namespace Upstream

variable {first sid : ℕ} {events : List Event} {sys : Bonded} {hist : List (Party × Effect)}
  {sent : List Bytes} {released : List (ℤ × Bytes)}

lemma sub_concat (h : Upstream first sid events sys hist sent released) (e : Event) :
    sent.Sublist (handed (events ++ [e])) := by
  rw [handed_append]
  exact h.sub.trans (List.sublist_append_left _ _)

/-- What the phone seals is asked for in a call under way. -/
lemma sealed_step (h : Upstream first sid events sys hist sent released) {e : Datapath.Event}
    {x : Sealed} (hx : x ∈ Bond.sends (sys.phone.step e).1) (htype : x.frame.type = .data) :
    x.frame.seq < 2 ^ 64 ∧ Counted first sent x.frame.seq x.frame.payload := by
  obtain ⟨thread, type, call, counter, calls, u, -, hsender, -, -, hframe, -⟩ :=
    Datapath.sends_step hx
  have htyped := h.typed thread
  rw [hsender] at htyped
  have hdata : type = .data := by
    rw [hframe] at htype
    change type.toBond = .data at htype
    cases type with
    | data => rfl
    | _ => exact absurd htype (by simp [FrameType.toBond])
  have hcall : call.type = some .data := by
    rcases htyped with hcall | hne
    · rw [hcall, hdata]
    · exact absurd hdata hne
  rw [hframe]
  exact ⟨call.seq.isLt, h.calls thread call (by rw [hsender]; exact List.mem_cons_self) hcall⟩

/-- A step of the phone in which it numbers some packets. -/
lemma of_update (h : Upstream first sid events sys hist sent released) {e : Datapath.Event}
    (more : List Bytes) (hsub : (sent ++ more).Sublist (handed (events ++ [.phone e])))
    (hnext : (sys.phone.step e).2.sequence = BitVec.ofNat 64 (first + (sent ++ more).length))
    (htyped : ∀ thread, ((sys.phone.step e).2.senders thread).Typed)
    (hcalls : ∀ thread, ∀ call ∈ ((sys.phone.step e).2.senders thread).pending,
      call.type = some .data → Counted first (sent ++ more) call.seq.toNat call.payload) :
    Upstream first sid (events ++ [.phone e]) (sys.step (.phone e)).2
      (hist ++ (sys.step (.phone e)).1) (sent ++ more) released := by
  refine ⟨hsub, hnext, htyped, hcalls, fun x hx hparty htype => ?_, ?_, ?_⟩
  · rw [Bond.System.sealedBy_append, List.mem_append] at hx
    rcases hx with hx | hx
    · obtain ⟨hlt, hcounted⟩ := h.sealed x hx hparty htype
      exact ⟨hlt, hcounted.append more⟩
    · rw [step_phone, Bond.System.sealedBy_map] at hx
      obtain ⟨y, hy, rfl⟩ := List.mem_map.1 hx
      obtain ⟨hlt, hcounted⟩ := h.sealed_step hy htype
      exact ⟨hlt, hcounted.append more⟩
  · rw [Bond.System.writesBy_append, step_phone, Bond.System.writesBy_map, if_neg (by simp),
      List.append_nil]
    exact h.written
  · rcases h.stream with hnone | ⟨x, hx, hfed⟩
    · exact Or.inl hnone
    · exact Or.inr ⟨x, hx, hfed.mono fun n p hp => hp.append more⟩

/-- A step in which one thread goes on with its calls. -/
lemma of_sender (h : Upstream first sid events sys hist sent released) {e : Datapath.Event}
    (thread : Thread) (sender : Sender)
    (hs : (sys.phone.step e).2.senders = Function.update sys.phone.senders thread sender)
    (hq : (sys.phone.step e).2.sequence = sys.phone.sequence) (htyped : sender.Typed)
    (hcalls : ∀ call ∈ sender.pending, call.type = some .data →
      call ∈ (sys.phone.senders thread).pending) :
    Upstream first sid (events ++ [.phone e]) (sys.step (.phone e)).2
      (hist ++ (sys.step (.phone e)).1) sent released := by
  have := h.of_update (e := e) [] (by rw [List.append_nil]; exact h.sub_concat _)
    (by rw [List.append_nil, hq]; exact h.next) (fun t => ?_) fun t call hcall htype => ?_
  · rwa [List.append_nil] at this
  · rw [hs]
    by_cases heq : t = thread
    · subst heq
      rw [Function.update_self]
      exact htyped
    · rw [Function.update_of_ne heq]
      exact h.typed t
  · rw [List.append_nil]
    rw [hs] at hcall
    by_cases heq : t = thread
    · subst heq
      rw [Function.update_self] at hcall
      exact h.calls t call (hcalls call hcall htype) htype
    · rw [Function.update_of_ne heq] at hcall
      exact h.calls t call hcall htype

/-- The phone's step: it may number a packet, and seals copies of numbered ones. -/
lemma of_phone (h : Upstream first sid events sys hist sent released) (e : Datapath.Event)
    (hlen : first + (handed (events ++ [.phone e])).length ≤ 2 ^ 64) :
    ∃ sent', Upstream first sid (events ++ [.phone e]) (sys.step (.phone e)).2
      (hist ++ (sys.step (.phone e)).1) sent' released := by
  obtain ⟨out, d', heq, hturn⟩ := sys.phone.exists_turn e
  have hself : ∀ thread, Function.update sys.phone.senders thread (sys.phone.senders thread) =
      sys.phone.senders := fun thread => Function.update_eq_self _ _
  cases hturn with
  | rest hm hs hq hr =>
    refine ⟨sent, h.of_sender .tun (sys.phone.senders .tun) ?_ ?_
      (h.typed _) fun call hcall _ => hcall⟩
    · rw [heq, hself]
      exact hs
    · rw [heq]
      exact hq.1
  | @greet _ thread calls hrest hcalls =>
    refine ⟨sent, h.of_sender thread ⟨.idle, calls⟩ ?_ ?_ trivial ?_⟩
    · rw [heq]
      rfl
    · rw [heq]
      rfl
    · exact fun call hcall htype => absurd htype (hcalls call hcall).1
  | @number data packet calls _ hpacket hrunning hrest hcalls hm hs hq hr =>
    have hsub : (sent ++ [packet]).Sublist (handed (events ++ [.phone (.tunRead data)])) := by
      rw [handed_append, hpacket.1]
      exact h.sub.append (List.Sublist.refl _)
    have hseq : sys.phone.sequence.toNat = first + sent.length := by
      have hle := hsub.length_le
      rw [List.length_append, List.length_singleton] at hle
      rw [h.next, BitVec.toNat_ofNat]
      exact Nat.mod_eq_of_lt (by omega)
    refine ⟨sent ++ [packet], h.of_update [packet] hsub ?_ (fun t => ?_) fun t call hcall htype => ?_⟩
    · rw [heq]
      change d'.sequence = _
      rw [hq.1, h.next, List.length_append, List.length_singleton, ← Nat.add_assoc,
        BitVec.ofNat_add (first + sent.length) 1]
      rfl
    · rw [heq]
      change (d'.senders t).Typed
      rw [hs]
      by_cases ht : t = .tun
      · subst ht
        rw [Function.update_self]
        trivial
      · rw [Function.update_of_ne ht]
        exact h.typed t
    · rw [heq] at hcall
      change call ∈ (d'.senders t).pending at hcall
      rw [hs] at hcall
      by_cases ht : t = .tun
      · subst ht
        rw [Function.update_self] at hcall
        obtain ⟨-, hcallseq, rfl⟩ := hcalls call hcall
        rw [hcallseq, hseq]
        exact Counted.concat first sent _
      · rw [Function.update_of_ne ht] at hcall
        exact (h.calls t call hcall htype).append _
  | call op hop hcall hm hs hq hr =>
    refine ⟨sent, h.of_sender .tun (sys.phone.senders .tun) ?_ ?_
      (h.typed _) fun call hcall _ => hcall⟩
    · rw [heq, hself]
      exact hs
    · rw [heq]
      exact hq.1
  | @enter thread call calls hsender type htype =>
    refine ⟨sent, h.of_sender thread ⟨.called type call, calls⟩ ?_ ?_ htype ?_⟩
    · rw [heq]
      rfl
    · rw [heq]
      rfl
    · intro call' hcall _
      rw [hsender]
      exact hcall
  | @count thread type call calls u hsender hu =>
    have htyped := h.typed thread
    rw [hsender] at htyped
    refine ⟨sent, h.of_sender thread ⟨.counted type call u.counter, calls⟩ ?_ ?_ htyped ?_⟩
    · rw [heq]
      rfl
    · rw [heq]
      rfl
    · intro call' hcall _
      rw [hsender]
      exact hcall
  | @transmit thread type call counter calls u _ _ hsender hu hm hs hq hr hout =>
    refine ⟨sent, h.of_sender thread ⟨.idle, calls⟩ ?_ ?_ trivial ?_⟩
    · rw [heq]
      exact hs
    · rw [heq]
      exact hq.1
    · intro call' hcall _
      rw [hsender]
      exact List.mem_cons_of_mem _ hcall

/-- What the concentrator reads of the session is a packet under its number. -/
lemma feeds (h : Upstream first sid events sys hist sent released) (hsound : Sound sys hist)
    {e : ConcentratorServer.Event} (hc : Connected sid sys hist (.server e))
    {op : Bond.ReorderBuffer.Op Bytes} (hop : e.call? sys.server.sealer sid = some op) :
    op.FeedsBy (Counted first sent) := by
  cases e with
  | datagram data addr now sendOk =>
    simp only [ConcentratorServer.Event.call?] at hop
    split at hop
    · exact absurd hop (by simp)
    rename_i f hf
    split at hop
    · rename_i hdata
      obtain rfl := Option.some.inj hop
      obtain ⟨x, hx, hparty, rfl⟩ := hc.upstream data addr now sendOk f rfl hf hdata.1
      have hmasked := hsound.masked hx hf
      subst hmasked
      obtain ⟨hlt, hcounted⟩ := h.sealed x hx hparty hdata.2.1
      have hseq : x.2.frame.seq % 2 ^ 64 = x.2.frame.seq := Nat.mod_eq_of_lt hlt
      rw [Bond.ReorderBuffer.Op.FeedsBy]
      simp only [Bond.Frame.masked, hseq]
      exact hcounted
    · exact absurd hop (by simp)
  | tick now =>
    obtain rfl := Option.some.inj hop
    trivial
  | downstream packet now sendOk => exact absurd hop (by simp [ConcentratorServer.Event.call?])
  | reap now => exact absurd hop (by simp [ConcentratorServer.Event.call?])

/-- The concentrator's step: it may call the session's reorder buffer. -/
lemma of_server (h : Upstream first sid events sys hist sent released) (hsound : Sound sys hist)
    (e : ConcentratorServer.Event) (hc : Connected sid sys hist (.server e)) :
    ∃ released', Upstream first sid (events ++ [.server e]) (sys.step (.server e)).2
      (hist ++ (sys.step (.server e)).1) sent released' := by
  have hkeep : ∀ more : List (ℤ × Bytes), Bond.writes sid (sys.server.step e).1 = Bond.payloads more →
      (((sys.server.step e).2.stream? sid = none ∧ released ++ more = []) ∨
        ∃ x, (sys.server.step e).2.stream? sid = some x ∧
          x.reorder.Fed (Counted first sent) (released ++ more)) →
      Upstream first sid (events ++ [.server e]) (sys.step (.server e)).2
        (hist ++ (sys.step (.server e)).1) sent (released ++ more) := by
    intro more hw hstream
    refine ⟨h.sub_concat _, h.next, h.typed, h.calls, fun x hx hparty htype => ?_, ?_, hstream⟩
    · rw [Bond.System.sealedBy_append, List.mem_append] at hx
      rcases hx with hx | hx
      · exact h.sealed x hx hparty htype
      · rw [step_server, Bond.System.sealedBy_map] at hx
        obtain ⟨y, -, rfl⟩ := List.mem_map.1 hx
        exact absurd hparty (by simp)
    · rw [Bond.System.writesBy_append, step_server, Bond.System.writesBy_map, if_pos rfl, hw,
        h.written, Bond.payloads, Bond.payloads, Bond.payloads, List.map_append]
  rcases ConcentratorServer.steps hsound.keyed sid e with ⟨hgone, hw, -⟩ | ⟨x, x', hfeeds, hx', hturn⟩
  · rcases h.stream with ⟨-, hnil⟩ | ⟨x, hx, -⟩
    · exact ⟨_, hkeep [] hw (Or.inl ⟨hgone, by rw [hnil]; rfl⟩)⟩
    · exact absurd ((hc.stream?_of_gone hgone).symm.trans hx) (by simp)
  · have hfed : x.reorder.Fed (Counted first sent) released := by
      refine hfeeds.known h.stream fun hnil => ?_
      rw [hnil]
      exact .new _ _ _
    -- only a call releases anything, and what it feeds the buffer is numbered
    cases hturn with
    | rest hw hd => exact ⟨_, hkeep [] hw (Or.inr ⟨x, hx', by rw [List.append_nil]; exact hfed⟩)⟩
    | number packet now sendOk hw hd =>
      exact ⟨_, hkeep [] hw (Or.inr ⟨_, hx', by rw [List.append_nil]; exact hfed⟩)⟩
    | call op hop hw hd => exact ⟨_, hkeep _ hw (Or.inr ⟨_, hx', hfed.step (h.feeds hsound hc hop)⟩)⟩

lemma sublist (h : Upstream first sid events sys hist sent released) :
    (writesBy .server sid hist).Sublist (handed events) := by
  rw [h.written]
  rcases h.stream with ⟨-, hnil⟩ | ⟨x, -, hfed⟩
  · rw [hnil]
    exact List.nil_sublist _
  · exact (sublist_of_counted hfed.inv.sorted hfed.released).trans h.sub

end Upstream

/-! ### Downstream -/

/-- The packets numbered so far in the session, and what has become of them. -/
structure Downstream (sid : ℕ) (events : List Event) (sys : Bonded)
    (hist : List (Party × Effect)) (sent : List Bytes) (returned : List (ℤ × Bytes)) : Prop where
  sub : sent.Sublist (dispatched events)
  stream : (sys.server.stream? sid = none ∧ sent = []) ∨
    ∃ x, sys.server.stream? sid = some x ∧ x.seq = sent.length
  sealed : ∀ x ∈ sealedBy hist, x.1 = .server → x.2.frame.sessionId = sid →
    x.2.frame.type = .data → Numbered sent x.2.frame.seq x.2.frame.payload
  session : sys.phone.sessionId.toNat = sid
  written : writesBy (.client 0) sid hist = Bond.payloads returned
  fed : sys.phone.reorder.Fed (Numbered sent) returned

namespace Downstream

variable {sid : ℕ} {events : List Event} {sys : Bonded} {hist : List (Party × Effect)}
  {sent : List Bytes} {returned : List (ℤ × Bytes)}

lemma sub_concat (h : Downstream sid events sys hist sent returned) (e : Event) :
    sent.Sublist (dispatched (events ++ [e])) := by
  rw [dispatched_append]
  exact h.sub.trans (List.sublist_append_left _ _)

/-- The concentrator's step: it may number a packet, and seals numbered ones. -/
lemma of_server (h : Downstream sid events sys hist sent returned) (hsound : Sound sys hist)
    (e : ConcentratorServer.Event) (hc : Connected sid sys hist (.server e)) :
    ∃ sent', Downstream sid (events ++ [.server e]) (sys.step (.server e)).2
      (hist ++ (sys.step (.server e)).1) sent' returned := by
  have hkeep : ∀ more : List Bytes, (sent ++ more).Sublist (dispatched (events ++ [.server e])) →
      (((sys.server.step e).2.stream? sid = none ∧ sent ++ more = []) ∨
        ∃ x, (sys.server.step e).2.stream? sid = some x ∧ x.seq = (sent ++ more).length) →
      (∀ s ∈ Bond.dataOf sid (sys.server.step e).1,
        Numbered (sent ++ more) s.frame.seq s.frame.payload) →
      Downstream sid (events ++ [.server e]) (sys.step (.server e)).2
        (hist ++ (sys.step (.server e)).1) (sent ++ more) returned := by
    intro more hsub hstream hdata
    refine ⟨hsub, hstream, fun x hx hparty hsid htype => ?_, h.session, ?_,
      h.fed.mono fun n p hp => hp.append more⟩
    · rw [Bond.System.sealedBy_append, List.mem_append] at hx
      rcases hx with hx | hx
      · exact (h.sealed x hx hparty hsid htype).append more
      · rw [step_server, Bond.System.sealedBy_map] at hx
        obtain ⟨y, hy, rfl⟩ := List.mem_map.1 hx
        exact hdata y (Bond.mem_dataOf.2 ⟨hy, htype, hsid⟩)
    · rw [Bond.System.writesBy_append, step_server, Bond.System.writesBy_map, if_neg (by simp),
        List.append_nil]
      exact h.written
  have hsame : Bond.dataOf sid (sys.server.step e).1 = [] →
      (((sys.server.step e).2.stream? sid = none ∧ sent = []) ∨
        ∃ x, (sys.server.step e).2.stream? sid = some x ∧ x.seq = sent.length) →
      Downstream sid (events ++ [.server e]) (sys.step (.server e)).2
        (hist ++ (sys.step (.server e)).1) sent returned := by
    intro hd hstream
    have hkept := hkeep []
    rw [List.append_nil] at hkept
    exact hkept (h.sub_concat _) hstream (by simp [hd])
  rcases ConcentratorServer.steps hsound.keyed sid e with ⟨hgone, -, hd⟩ | ⟨x, x', hfeeds, hx', hturn⟩
  · rcases h.stream with ⟨-, hnil⟩ | ⟨x, hx, -⟩
    · exact ⟨sent, hsame hd (Or.inl ⟨hgone, hnil⟩)⟩
    · exact absurd ((hc.stream?_of_gone hgone).symm.trans hx) (by simp)
  · have hseq : x.seq = sent.length := by
      refine hfeeds.known h.stream fun hnil => ?_
      rw [hnil]
      rfl
    -- only a downstream packet is numbered, and it gets the next number
    cases hturn with
    | rest hw hd => exact ⟨sent, hsame hd (Or.inr ⟨x, hx', hseq⟩)⟩
    | call op hop hw hd => exact ⟨sent, hsame hd (Or.inr ⟨_, hx', hseq⟩)⟩
    | number packet now sendOk hw hd =>
      refine ⟨sent ++ [packet], hkeep [packet] ?_ (Or.inr ⟨_, hx', ?_⟩) fun s hs => ?_⟩
      · rw [dispatched_append]
        exact h.sub.append (List.Sublist.refl _)
      · rw [List.length_append, List.length_singleton, ← hseq]
      · rcases hd with hnil | ⟨s₀, hone, -, hs₀, rfl⟩
        · rw [hnil] at hs
          exact absurd hs List.not_mem_nil
        · rw [hone] at hs
          obtain rfl := List.mem_singleton.1 hs
          rw [hs₀, hseq]
          exact Numbered.concat sent _

/-- What the phone reads is a packet under its number, as long as that is a `Long`. -/
lemma feeds (h : Downstream sid events sys hist sent returned) (hsound : Sound sys hist)
    (hlen : sent.length < 2 ^ 63 - 1) {uplink : ℕ} {data : Bytes} {now : ℤ}
    (hc : Connected sid sys hist (.phone (.netRead uplink data now))) {f : Frame}
    (hf : decode sys.phone.sealer data = some f) (htype : f.type = .data) :
    (ReorderBuffer.Op.push f.seq.toInt f.payload now).Valid ∧
      (ReorderBuffer.Op.push f.seq.toInt f.payload now).FeedsBy (Numbered sent) := by
  obtain ⟨x, hx, hparty, hsid, rfl⟩ := hc.downstream uplink data now f rfl hf
  have hbond := decode_eq sys.phone.sealer x.2.datagram
  rw [hf, hsound.key] at hbond
  have hmasked := hsound.masked hx hbond.symm
  have hnum : Numbered sent x.2.frame.seq x.2.frame.payload := by
    refine h.sealed x hx hparty hsid ?_
    have htype' := congrArg Bond.Frame.type hmasked
    change f.type.toBond = x.2.frame.type at htype'
    rw [← htype', htype]
    rfl
  have hle := hnum.le_length
  have hseq : f.seq.toNat = x.2.frame.seq := by
    have hseq' := congrArg Bond.Frame.seq hmasked
    change f.seq.toNat = x.2.frame.seq % 2 ^ 64 at hseq'
    rw [hseq', Nat.mod_eq_of_lt (by omega)]
  have hpayload : f.payload = x.2.frame.payload := congrArg Bond.Frame.payload hmasked
  have hint : f.seq.toInt = x.2.frame.seq := by
    rw [BitVec.toInt_eq_toNat_of_lt (by omega), hseq]
  rw [hint, hpayload]
  exact ⟨⟨Int.natCast_nonneg _, by norm_num [maxLong]; omega⟩, hnum⟩

/-- The phone's step: it may call its reorder buffer, which throws nothing. -/
lemma of_phone (h : Downstream sid events sys hist sent returned) (hsound : Sound sys hist)
    (hlen : sent.length < 2 ^ 63 - 1) (e : Datapath.Event)
    (hc : Connected sid sys hist (.phone e)) :
    ∃ returned', Downstream sid (events ++ [.phone e]) (sys.step (.phone e)).2
      (hist ++ (sys.step (.phone e)).1) sent returned' := by
  have hsealed : ∀ x ∈ sealedBy (hist ++ (sys.step (.phone e)).1), x.1 = .server →
      x.2.frame.sessionId = sid → x.2.frame.type = .data →
        Numbered sent x.2.frame.seq x.2.frame.payload := by
    intro x hx hparty
    rw [Bond.System.sealedBy_append, List.mem_append] at hx
    rcases hx with hx | hx
    · exact h.sealed x hx hparty
    · rw [step_phone, Bond.System.sealedBy_map] at hx
      obtain ⟨y, -, rfl⟩ := List.mem_map.1 hx
      exact absurd hparty (by simp)
  have hsession : (sys.step (.phone e)).2.phone.sessionId.toNat = sid := by
    rw [step_phone]
    exact (congrArg BitVec.toNat (sys.phone.sessionId_step e)).trans h.session
  have hwritten : ∀ more : List (ℤ × Bytes),
      Bond.writes sid (sys.phone.step e).1 = Bond.payloads more →
      writesBy (.client 0) sid (hist ++ (sys.step (.phone e)).1) =
        Bond.payloads (returned ++ more) := by
    intro more hw
    rw [Bond.System.writesBy_append, step_phone, Bond.System.writesBy_map, if_pos rfl, hw, h.written,
      Bond.payloads, Bond.payloads, Bond.payloads, List.map_append]
  have hquiet : Bond.writes sid (sys.phone.step e).1 = [] →
      (sys.phone.step e).2.reorder = sys.phone.reorder →
      ∃ returned', Downstream sid (events ++ [.phone e]) (sys.step (.phone e)).2
        (hist ++ (sys.step (.phone e)).1) sent returned' := by
    intro hw hr
    refine ⟨returned ++ [], h.sub_concat _, h.stream, hsealed, hsession, hwritten [] hw, ?_⟩
    rw [List.append_nil]
    change (sys.phone.step e).2.reorder.Fed _ _
    rw [hr]
    exact h.fed
  obtain ⟨out, d', heq, hturn⟩ := sys.phone.exists_turn e
  rw [heq] at hquiet hwritten
  cases hturn with
  | rest hm hs hq hr => exact hquiet rfl hr
  | greet => exact hquiet rfl rfl
  | number _ _ _ _ _ _ _ hr => exact hquiet rfl hr
  | enter => exact hquiet rfl rfl
  | count => exact hquiet rfl rfl
  | transmit _ _ _ _ _ hr hout =>
    rcases hout with ⟨rfl, -⟩ | ⟨-, datagram, -, rfl⟩
    · exact hquiet rfl hr
    · exact hquiet rfl hr
  | call op hop hcall hm hs hq hr =>
    have hfeeds : op.Valid ∧ op.FeedsBy (Numbered sent) := by
      rcases hop with ⟨now, rfl, rfl⟩ | ⟨uplink, data, now, f, rfl, hf, htype, -, rfl⟩
      · exact ⟨trivial, trivial⟩
      · exact h.feeds hsound hlen hc hf htype
    obtain ⟨hok, hfed⟩ := h.fed.call hfeeds.1 hfeeds.2
    obtain rfl := Except.ok.inj (hcall.symm.trans hok)
    refine ⟨_, h.sub_concat _, h.stream, hsealed, hsession,
      hwritten (sys.phone.reorder.step op).1 ?_, ?_⟩
    · rw [Bond.writes_write, if_pos h.session]
    · change (sys.phone.step e).2.reorder.Fed _ _
      rw [heq]
      change d'.reorder.Fed _ _
      rw [hr]
      exact hfed

lemma sublist (h : Downstream sid events sys hist sent returned) :
    (writesBy (.client 0) sid hist).Sublist (dispatched events) := by
  rw [h.written]
  exact (sublist_of_numbered h.fed.inv.sorted h.fed.returned).trans h.sub

end Downstream

/-! ### Both directions -/

/-- A phone that begins to pair, and a concentrator that has started. -/
def paired (sealer : Util.Sealer) (sessionId : BitVec 32) (address : Bond.Addr)
    (sequence : BitVec 64) (reorderTimeoutMs : ℚ) : Bonded where
  phone := .start sealer sessionId address sequence
  server := .start sealer reorderTimeoutMs

/-- What holds after some steps. -/
structure Flows (first sid : ℕ) (events : List Event) (sys : Bonded) (hist : List (Party × Effect)) :
    Prop where
  sound : Sound sys hist
  upstream : first + (handed events).length ≤ 2 ^ 64 →
    ∃ sent released, Upstream first sid events sys hist sent released
  downstream : (dispatched events).length < 2 ^ 63 - 1 →
    ∃ sent returned, Downstream sid events sys hist sent returned

lemma flows_paired (sealer : Util.Sealer) (sessionId : BitVec 32) (address : Bond.Addr)
    (sequence : BitVec 64) (reorderTimeoutMs : ℚ) :
    Flows sequence.toNat sessionId.toNat []
      (paired sealer sessionId address sequence reorderTimeoutMs) [] where
  sound := ⟨rfl, ConcentratorServer.keyed_of_empty rfl, by simp [sealedBy]⟩
  upstream := fun _ => ⟨[], [],
    { sub := List.nil_sublist _
      next := by simp [paired, Datapath.start]
      typed := fun _ => trivial
      calls := by simp [paired, Datapath.start, Sender.resting, Sender.pending]
      sealed := by simp [sealedBy]
      written := rfl
      stream := Or.inl ⟨rfl, rfl⟩ }⟩
  downstream := fun _ => ⟨[], [],
    { sub := List.nil_sublist _
      stream := Or.inl ⟨rfl, rfl⟩
      sealed := by simp [sealedBy]
      session := rfl
      written := rfl
      fed := .new _ _ (by decide) }⟩

lemma Flows.step {first sid : ℕ} {events : List Event} {sys : Bonded} {hist : List (Party × Effect)}
    (h : Flows first sid events sys hist) {e : Event} (hc : Connected sid sys hist e) :
    Flows first sid (events ++ [e]) (sys.step e).2 (hist ++ (sys.step e).1) := by
  refine ⟨h.sound.step e, fun hlen => ?_, fun hlen => ?_⟩
  · have hlen' : first + (handed events).length ≤ 2 ^ 64 := by
      rw [handed_append, List.length_append] at hlen
      omega
    obtain ⟨sent, released, hup⟩ := h.upstream hlen'
    cases e with
    | phone e =>
      obtain ⟨sent', hup'⟩ := hup.of_phone e hlen
      exact ⟨sent', released, hup'⟩
    | server e =>
      obtain ⟨released', hup'⟩ := hup.of_server h.sound e hc
      exact ⟨sent, released', hup'⟩
  · have hlen' : (dispatched events).length < 2 ^ 63 - 1 := by
      rw [dispatched_append, List.length_append] at hlen
      omega
    obtain ⟨sent, returned, hdown⟩ := h.downstream hlen'
    cases e with
    | phone e =>
      obtain ⟨returned', hdown'⟩ := hdown.of_phone h.sound (hdown.sub.length_le.trans_lt hlen') e hc
      exact ⟨sent, returned', hdown'⟩
    | server e =>
      obtain ⟨sent', hdown'⟩ := hdown.of_server h.sound e hc
      exact ⟨sent', returned, hdown'⟩

/-- **Order on Android.**  Whatever the threads of the phone, its radios and the network do, while the
session stays at the concentrator the packets it writes are a sublist of those that the TUN device of
the phone handed over, and the packets the phone writes are a sublist of those dispatched to it, as
long as no number has been used twice. -/
theorem phone_in_order (sealer : Util.Sealer) (sessionId : BitVec 32) (address : Bond.Addr)
    (sequence : BitVec 64) (reorderTimeoutMs : ℚ) (events : List Event)
    (h : Machine.Meets step (Connected sessionId.toNat) events
      (paired sealer sessionId address sequence reorderTimeoutMs) []) :
    let out := (run events (paired sealer sessionId address sequence reorderTimeoutMs)).1
    (sequence.toNat + (handed events).length ≤ 2 ^ 64 →
        (writesBy .server sessionId.toNat out).Sublist (handed events)) ∧
      ((dispatched events).length < 2 ^ 63 - 1 →
        (writesBy (.client 0) sessionId.toNat out).Sublist (dispatched events)) := by
  have hflows := Machine.run_induction step (C := Connected sessionId.toNat)
    (I := Flows sequence.toNat sessionId.toNat)
    (flows_paired sealer sessionId address sequence reorderTimeoutMs)
    (fun _ _ _ _ hflows hc => hflows.step hc) events h
  refine ⟨fun hlen => ?_, fun hlen => ?_⟩
  · obtain ⟨_, _, hup⟩ := hflows.upstream hlen
    exact hup.sublist
  · obtain ⟨_, _, hdown⟩ := hflows.downstream hlen
    exact hdown.sublist

/-! ### A run of both ends -/

/-- The phone reads nothing from its sockets once it is paired. -/
def Deaf : Datapath.Event → Bool
  | .netRead .. => false
  | _ => true

lemma connected_of_deaf {sid : ℕ} {sys : Bonded} {hist : List (Party × Effect)} {e : Datapath.Event}
    (he : Deaf e = true) : Connected sid sys hist (.phone e) := by
  refine ⟨id, by simp, fun uplink data now f heq => ?_⟩
  obtain rfl := Event.phone.inj heq
  exact absurd he (by simp [Deaf])

lemma meets_deaf {sid : ℕ} {events : List Datapath.Event} (h : ∀ e ∈ events, Deaf e = true)
    (sys : Bonded) (hist : List (Party × Effect)) :
    Machine.Meets step (Connected sid) (events.map .phone) sys hist := by
  induction events generalizing sys hist with
  | nil => trivial
  | cons e events ih =>
    exact ⟨connected_of_deaf (h e List.mem_cons_self),
      ih (fun e' he' => h e' (List.mem_cons_of_mem _ he')) _ _⟩

/-- A phone with one radio pairs, and sends a packet. -/
def onePacket : List Datapath.Event :=
  [.available 0 "wifi" true true, .pairRound, .enter .pair, .count .pair, .transmit .pair,
    .pairRead 0
      (Bond.datagram ⟨Util.Aead.plain⟩
        { type := .handshakeAck, sessionId := 7, linkId := 1, counter := 1 }) 1000 true,
    .tunRead [1], .enter .tun, .count .tun, .transmit .tun]

/-- The datagram of the packet. -/
def onePacketDatagram : Bytes :=
  Bond.datagram ⟨Util.Aead.plain⟩
    { type := .data, sessionId := 7, linkId := 1, counter := 2, seq := 0, payload := [1] }

/-- It arrives, and is written when the session has learnt where its stream starts. -/
def onePacketRun : List Event :=
  onePacket.map .phone ++
    [.server (.datagram onePacketDatagram ("203.0.113.5", 40000) ⟨1000, 0⟩ true), .server (.tick 1)]

lemma meets_onePacketRun : Machine.Meets step (Connected 7) onePacketRun
    (paired ⟨Util.Aead.plain⟩ 7 ("198.51.100.1", 8443) 0 90) [] := by
  rw [onePacketRun, Machine.meets_append]
  refine ⟨meets_deaf (by decide) _ _, ⟨fun _ => ?_, fun data addr now sendOk f heq _ _ => ?_, by simp⟩,
    ⟨fun _ => ?_, by simp, by simp⟩, trivial⟩
  · decide +kernel
  · obtain ⟨rfl, -⟩ := ConcentratorServer.Event.datagram.inj (Event.server.inj heq)
    decide +kernel
  · decide +kernel

theorem phone_in_order_onePacket :
    (writesBy .server 7 (run onePacketRun
      (paired ⟨Util.Aead.plain⟩ 7 ("198.51.100.1", 8443) 0 90)).1).Sublist (handed onePacketRun) :=
  (phone_in_order ⟨Util.Aead.plain⟩ 7 ("198.51.100.1", 8443) 0 90 onePacketRun meets_onePacketRun).1
    (by decide)

end Bonded

end Turbobond.Android
