import Turbobond.Bond.Origin
import Turbobond.Bond.ReorderSafety
import Turbobond.Bond.ServerSession
import Turbobond.Bond.SingleLink
import Turbobond.Bond.TunnelStream

/-!
# Order from end to end

While a session stays at the concentrator, the packets written at either end of the bond are
a sublist of those handed over at the other, whatever the network loses, copies, delays and
reorders: a packet has one number, all its copies carry it, and the reorder buffer releases
increasing numbers.  A number has 64 bits, so this is about fewer than `2 ^ 64` packets.
-/

set_option linter.unusedSectionVars false

namespace Turbobond.Bond.System

open Config Links Util

variable {K : Type} [Field K] [LinearOrder K] [HasSqrt K]

/-- A tunnel that is about to start, and a concentrator that has. -/
def paired (sealer : Sealer) (reorderTimeoutMs : ℚ) (cfg : ConcentratorConfig) (sessionId : ℕ)
    (links : List (Link K)) (sip : Option SipConfig) (mode : SchedulerMode) : System K :=
  ((start K sealer reorderTimeoutMs).step (.join cfg sessionId links sip mode)).2

/-- The packets handed to the first client's `_send_packet`. -/
def handed (events : List (Event K)) : List Bytes :=
  events.filterMap fun
    | .client 0 (.packet packet) => some packet
    | _ => none

/-- The packets handed to `_dispatch_downstream`. -/
def dispatched (events : List (Event K)) : List Bytes :=
  events.filterMap fun
    | .server (.downstream packet _ _) => some packet
    | _ => none

/-- The session stays once it is made, and whatever either end reads of it was sealed at the
other, for the session. -/
structure Connected (sid : ℕ) (sys : System K) (hist : List (Party × Effect)) (e : Event K) :
    Prop where
  alive : (sys.server.stream? sid).isSome → ((sys.step e).2.server.stream? sid).isSome
  upstream : ∀ data addr now sendOk f, e = .server (.datagram data addr now sendOk) →
    decodeFrame sys.server.sealer data = some f → f.sessionId = sid →
      ∃ x ∈ sealedBy hist, x.1 = .client 0 ∧ x.2.datagram = data
  downstream : ∀ linkId data now f, e = .client 0 (.datagram linkId data now) →
    decodeFrame sys.server.sealer data = some f →
      ∃ x ∈ sealedBy hist, x.1 = .server ∧ x.2.frame.sessionId = sid ∧ x.2.datagram = data

/-- A session that stays and is not there afterwards was not there before. -/
lemma Connected.stream?_of_gone {sid : ℕ} {sys : System K} {hist : List (Party × Effect)}
    {e : ConcentratorServer.Event} (hc : Connected sid sys hist (.server e))
    (hgone : (sys.server.step e).2.stream? sid = none) : sys.server.stream? sid = none := by
  by_contra hne
  have halive : ((sys.server.step e).2.stream? sid).isSome :=
    hc.alive (Option.isSome_iff_ne_none.2 hne)
  rw [hgone] at halive
  exact absurd halive (by simp)

/-- A datagram that was sealed decodes to its frame, as far as the numbers fit. -/
lemma decodes_sealed {sys : System K} {hist : List (Party × Effect)} (h : Inv sys hist)
    {x : Party × Sealed} (hx : x ∈ sealedBy hist) {f : Frame}
    (hf : decodeFrame sys.server.sealer x.2.datagram = some f) : f = x.2.frame.masked := by
  obtain ⟨-, hl, hd⟩ := encodeFrame_eq_ok_iff.1 (h.encoded x hx)
  rw [hd, decodeFrame_datagram _ _ hl] at hf
  exact (Option.some.inj hf).symm

/-- The frame of a sealed packet feeds a reorder buffer with the packet under its number. -/
lemma feeds_sealed {sent : List Bytes} (hlen : sent.length < 2 ^ 64) {x : Sealed} {f : Frame}
    (hf : f = x.frame.masked) (hnum : Numbered sent x.frame.seq x.frame.payload) (now : Time) :
    (ReorderBuffer.Op.push (f.seq : ℤ) f.payload now).Feeds sent := by
  have hle := hnum.le_length
  subst hf
  have hseq : x.frame.seq % 2 ^ 64 = x.frame.seq := Nat.mod_eq_of_lt (by omega)
  rw [ReorderBuffer.Op.Feeds]
  simp only [Frame.masked, hseq]
  exact hnum

/-- The packets of one direction: all those sealed stand in `sent` under their numbers, and
`released` are the ones written. -/
structure Flow (mine : Party × Sealed → Prop) (receiver : Party) (sid : ℕ)
    (hist : List (Party × Effect)) (sent : List Bytes) (released : List (ℤ × Bytes)) : Prop where
  sealed : ∀ x ∈ sealedBy hist, mine x → x.2.frame.type = .data →
    Numbered sent x.2.frame.seq x.2.frame.payload
  written : writesBy receiver sid hist = payloads released

namespace Flow

variable {mine : Party × Sealed → Prop} {receiver : Party} {sid : ℕ} {hist : List (Party × Effect)}
  {sent : List Bytes} {released : List (ℤ × Bytes)}

lemma append (h : Flow mine receiver sid hist sent released) (more : List Bytes) :
    Flow mine receiver sid hist (sent ++ more) released :=
  ⟨fun x hx hm ht => (h.sealed x hx hm ht).append more, h.written⟩

lemma step (h : Flow mine receiver sid hist sent released) {party : Party} {out : List Effect}
    (more : List (ℤ × Bytes))
    (hd : ∀ s ∈ sends out, mine (party, s) → s.frame.type = .data →
      Numbered sent s.frame.seq s.frame.payload)
    (hw : party = receiver → writes sid out = payloads more) (hne : party ≠ receiver → more = []) :
    Flow mine receiver sid (hist ++ out.map fun x => (party, x)) sent (released ++ more) := by
  constructor
  · intro x hx hm ht
    rw [sealedBy_append, sealedBy_map, List.mem_append] at hx
    rcases hx with hx | hx
    · exact h.sealed x hx hm ht
    · obtain ⟨s, hs, rfl⟩ := List.mem_map.1 hx
      exact hd s hs hm ht
  · rw [writesBy_append, writesBy_map, h.written, payloads, payloads, List.map_append]
    by_cases hp : party = receiver
    · rw [if_pos hp, hw hp, payloads]
    · rw [if_neg hp, hne hp, List.map_nil]

/-- A step that writes nothing. -/
lemma quiet (h : Flow mine receiver sid hist sent released) (party : Party) (out : List Effect)
    (hd : ∀ s ∈ sends out, mine (party, s) → s.frame.type = .data →
      Numbered sent s.frame.seq s.frame.payload)
    (hw : party = receiver → writes sid out = []) :
    Flow mine receiver sid (hist ++ out.map fun x => (party, x)) sent released := by
  have := h.step [] hd hw fun _ => rfl
  rwa [List.append_nil] at this

end Flow

/-! ### Upstream -/

/-- The packets numbered so far at the client, and what has become of them. -/
structure Upstream (sid : ℕ) (events : List (Event K)) (sys : System K)
    (hist : List (Party × Effect)) (sent : List Bytes) (released : List (ℤ × Bytes)) : Prop where
  sub : sent.Sublist (handed events)
  client : ∃ t, sys.clients[0]? = some t ∧ t.seq = sent.length ∧
    ∀ o ∈ t.sending, Numbered sent o.seq o.packet
  flow : Flow (fun x => x.1 = .client 0) .server sid hist sent released
  stream : (sys.server.stream? sid = none ∧ released = []) ∨
    ∃ x, sys.server.stream? sid = some x ∧ x.reorder.Ordered sent released

lemma handed_append (events events' : List (Event K)) :
    handed (events ++ events') = handed events ++ handed events' := List.filterMap_append

namespace Upstream

variable {sid : ℕ} {events : List (Event K)} {sys sys' : System K} {hist : List (Party × Effect)}
  {sent : List Bytes} {released : List (ℤ × Bytes)} {t : BondingTunnel K}

lemma sub_concat (h : Upstream sid events sys hist sent released) (e : Event K) :
    sent.Sublist (handed (events ++ [e])) := by
  rw [handed_append]
  exact h.sub.trans (List.sublist_append_left _ _)

/-- The client's step: it may number a packet, and seals copies of numbered ones. -/
lemma of_client (h : Upstream sid events sys hist sent released) (ht : sys.clients[0]? = some t)
    (e : BondingTunnel.Event K) (ht' : sys'.clients[0]? = some (t.step e).2)
    (hserver : sys'.server = sys.server) :
    ∃ sent', Upstream sid (events ++ [.client 0 e]) sys'
      (hist ++ (t.step e).1.map fun x => (.client 0, x)) sent' released := by
  obtain ⟨t₀, ht₀, hseq, hsending⟩ := h.client
  obtain rfl := Option.some.inj (ht₀.symm.trans ht)
  have hflow := h.flow.quiet (.client 0) (t₀.step e).1 (fun s hs _ htype => by
    rcases (BondingTunnel.sends_step hs).2.2 with hne | ⟨o, ho, hoseq, hopacket⟩
    · exact absurd htype hne
    · rw [hoseq, hopacket]
      exact hsending o ho) (by simp)
  -- the calls under way carry numbered packets, so what they seal is numbered
  have hkept : (t₀.step e).2.seq = t₀.seq → t₀.Carried (t₀.step e).2 →
      Upstream sid (events ++ [.client 0 e]) sys'
        (hist ++ (t₀.step e).1.map fun x => (.client 0, x)) sent released := by
    refine fun hs ho => ⟨h.sub_concat _, ⟨_, ht', hs.trans hseq, fun o' ho' => ?_⟩, hflow,
      hserver ▸ h.stream⟩
    obtain ⟨o, ho, hs, hp⟩ := ho o' ho'
    rw [← hs, ← hp]
    exact hsending o ho
  cases t₀.turn_step e with
  | rest hw hr hs ho => exact ⟨sent, hkept hs ho⟩
  | call op hop hw hr hs ho => exact ⟨sent, hkept hs ho⟩
  | number packet hw hr hs ho =>
    refine ⟨sent ++ [packet], ?_, ⟨_, ht', ?_, fun o' ho' => ?_⟩, hflow.append _, ?_⟩
    · rw [handed_append]
      exact h.sub.append (List.Sublist.refl _)
    · rw [hs, hseq, List.length_append, List.length_singleton]
    · rcases ho o' ho' with ho' | ⟨hs', rfl⟩
      · exact (hsending o' ho').append _
      · rw [hs', hseq]
        exact Numbered.concat sent _
    · rw [hserver]
      rcases h.stream with hnone | ⟨x, hx, hord⟩
      · exact Or.inl hnone
      · exact Or.inr ⟨x, hx, hord.append _⟩

/-- What the concentrator reads of the session is a packet under its number. -/
lemma feeds (h : Upstream sid events sys hist sent released) (hinv : Inv sys hist)
    (hlen : sent.length < 2 ^ 64) {e : ConcentratorServer.Event}
    (hc : Connected sid sys hist (.server e)) {op : ReorderBuffer.Op Bytes}
    (hop : e.call? sys.server.sealer sid = some op) : op.Feeds sent := by
  cases e with
  | datagram data addr now sendOk =>
    simp only [ConcentratorServer.Event.call?] at hop
    split at hop
    · exact absurd hop (by simp)
    rename_i f hf
    split at hop
    · rename_i hdata
      obtain rfl := Option.some.inj hop
      obtain ⟨x, hx, hparty, rfl⟩ := hc.upstream data addr now sendOk f rfl hf hdata.1
      have hmasked := decodes_sealed hinv hx hf
      have htype : x.2.frame.type = .data := by
        rw [← hdata.2.1, hmasked]
        rfl
      exact feeds_sealed hlen hmasked (h.flow.sealed x hx hparty htype) _
    · exact absurd hop (by simp)
  | tick now =>
    obtain rfl := Option.some.inj hop
    trivial
  | downstream packet now sendOk => exact absurd hop (by simp [ConcentratorServer.Event.call?])
  | reap now => exact absurd hop (by simp [ConcentratorServer.Event.call?])

/-- The concentrator's step: it may call the session's reorder buffer. -/
lemma of_server (h : Upstream sid events sys hist sent released) (hinv : Inv sys hist)
    (hlen : sent.length < 2 ^ 64) (e : ConcentratorServer.Event)
    (hc : Connected sid sys hist (.server e)) (hclients : sys'.clients[0]? = sys.clients[0]?)
    (hserver : sys'.server = (sys.server.step e).2) :
    ∃ released', Upstream sid (events ++ [.server e]) sys'
      (hist ++ (sys.server.step e).1.map fun x => (.server, x)) sent released' := by
  have hd : ∀ s ∈ sends (sys.server.step e).1, (Party.server, s).1 = .client 0 →
      s.frame.type = .data → Numbered sent s.frame.seq s.frame.payload :=
    fun s _ hparty => absurd hparty (by simp)
  have hclient := hclients ▸ h.client
  rcases ConcentratorServer.steps hinv.keyed sid e with ⟨hgone, hw, -⟩ | ⟨x, x', hfeeds, hx', hturn⟩
  · rcases h.stream with ⟨-, hnil⟩ | ⟨x, hx, -⟩
    · exact ⟨released, h.sub_concat _, hclient, h.flow.quiet _ _ hd fun _ => hw,
        Or.inl ⟨hserver ▸ hgone, hnil⟩⟩
    · exact absurd ((hc.stream?_of_gone hgone).symm.trans hx) (by simp)
  · have hord : x.reorder.Ordered sent released := by
      refine hfeeds.known h.stream fun hnil => ?_
      rw [hnil]
      exact ReorderBuffer.Ordered.new sent _ _
    -- only a call releases anything, and what it feeds the buffer is numbered
    cases hturn with
    | rest hw hd' =>
      exact ⟨released, h.sub_concat _, hclient, h.flow.quiet _ _ hd fun _ => hw,
        Or.inr ⟨x, hserver ▸ hx', hord⟩⟩
    | number packet now sendOk hw hd' =>
      exact ⟨released, h.sub_concat _, hclient, h.flow.quiet _ _ hd fun _ => hw,
        Or.inr ⟨{ x with seq := x.seq + 1 }, hserver ▸ hx', hord⟩⟩
    | call op hop hw hd' =>
      exact ⟨_, h.sub_concat _, hclient, h.flow.step _ hd (fun _ => hw) (by simp),
        Or.inr ⟨_, hserver ▸ hx', hord.step (h.feeds hinv hlen hc hop)⟩⟩

theorem step (h : Upstream sid events sys hist sent released) (hinv : Inv sys hist) (e : Event K)
    (hc : Connected sid sys hist e) (hlen : (handed (events ++ [e])).length < 2 ^ 64) :
    ∃ sent' released', Upstream sid (events ++ [e]) (sys.step e).2 (hist ++ (sys.step e).1) sent'
      released' := by
  obtain ⟨t, ht, -⟩ := h.client
  rcases step_cases ht e with ⟨e', rfl, hout, ht', hserver⟩ | ⟨e', rfl, hout, ht', hserver⟩ |
    ⟨ht', hserver, i, out, hi, hout⟩
  · rw [hout]
    obtain ⟨sent', h'⟩ := h.of_client ht e' ht' hserver
    exact ⟨sent', released, h'⟩
  · rw [hout]
    have hlen' := (h.sub_concat (.server e')).length_le.trans_lt hlen
    obtain ⟨released', h'⟩ := h.of_server hinv hlen' e' hc (ht'.trans ht.symm) hserver
    exact ⟨sent, released', h'⟩
  · -- another client's step
    rw [hout]
    refine ⟨sent, released, h.sub_concat _, (ht'.trans ht.symm) ▸ h.client, ?_, hserver ▸ h.stream⟩
    exact h.flow.quiet _ _ (fun s _ hparty => absurd (Party.client.inj hparty) hi) (by simp)

end Upstream

/-! ### Downstream -/

/-- The packets numbered so far in the session, and what has become of them. -/
structure Downstream (sid : ℕ) (events : List (Event K)) (sys : System K)
    (hist : List (Party × Effect)) (sent : List Bytes) (released : List (ℤ × Bytes)) : Prop where
  sub : sent.Sublist (dispatched events)
  stream : (sys.server.stream? sid = none ∧ sent = []) ∨
    ∃ x, sys.server.stream? sid = some x ∧ x.seq = sent.length
  flow : Flow (fun x => x.1 = .server ∧ x.2.frame.sessionId = sid) (.client 0) sid hist sent released
  client : ∃ t, sys.clients[0]? = some t ∧ t.sessionId = sid ∧ t.reorder.Ordered sent released

lemma dispatched_append (events events' : List (Event K)) :
    dispatched (events ++ events') = dispatched events ++ dispatched events' :=
  List.filterMap_append

namespace Downstream

variable {sid : ℕ} {events : List (Event K)} {sys sys' : System K} {hist : List (Party × Effect)}
  {sent : List Bytes} {released : List (ℤ × Bytes)} {t : BondingTunnel K}

lemma sub_concat (h : Downstream sid events sys hist sent released) (e : Event K) :
    sent.Sublist (dispatched (events ++ [e])) := by
  rw [dispatched_append]
  exact h.sub.trans (List.sublist_append_left _ _)

/-- The concentrator's step: it may number a packet, and seals numbered ones. -/
lemma of_server (h : Downstream sid events sys hist sent released) (hinv : Inv sys hist)
    (e : ConcentratorServer.Event) (hc : Connected sid sys hist (.server e))
    (hclients : sys'.clients[0]? = sys.clients[0]?) (hserver : sys'.server = (sys.server.step e).2) :
    ∃ sent', Downstream sid (events ++ [.server e]) sys'
      (hist ++ (sys.server.step e).1.map fun x => (.server, x)) sent' released := by
  have hclient := hclients ▸ h.client
  have hnone : ∀ {l : List Bytes}, dataOf sid (sys.server.step e).1 = [] →
      ∀ s ∈ sends (sys.server.step e).1,
        (Party.server, s).1 = .server ∧ (Party.server, s).2.frame.sessionId = sid →
          s.frame.type = .data → Numbered l s.frame.seq s.frame.payload := by
    intro l hnil s hs hmine htype
    have := mem_dataOf.2 ⟨hs, htype, hmine.2⟩
    rw [hnil] at this
    exact absurd this List.not_mem_nil
  rcases ConcentratorServer.steps hinv.keyed sid e with
    ⟨hgone, -, hd⟩ | ⟨x, x', hfeeds, hx', hturn⟩
  · rcases h.stream with ⟨-, hnil⟩ | ⟨x, hx, -⟩
    · exact ⟨sent, h.sub_concat _, Or.inl ⟨hserver ▸ hgone, hnil⟩,
        h.flow.quiet _ _ (hnone hd) (by simp), hclient⟩
    · exact absurd ((hc.stream?_of_gone hgone).symm.trans hx) (by simp)
  · have hseq : x.seq = sent.length := by
      refine hfeeds.known h.stream fun hnil => ?_
      rw [hnil]
      rfl
    -- only a downstream packet is numbered, and it gets the next number
    cases hturn with
    | rest hw hd =>
      exact ⟨sent, h.sub_concat _, Or.inr ⟨x, hserver ▸ hx', hseq⟩,
        h.flow.quiet _ _ (hnone hd) (by simp), hclient⟩
    | call op hop hw hd =>
      exact ⟨sent, h.sub_concat _,
        Or.inr ⟨{ x with reorder := (x.reorder.step op).2 }, hserver ▸ hx', hseq⟩,
        h.flow.quiet _ _ (hnone hd) (by simp), hclient⟩
    | number packet now sendOk hw hd =>
      refine ⟨sent ++ [packet], ?_, Or.inr ⟨_, hserver ▸ hx', ?_⟩, ?_, ?_⟩
      · rw [dispatched_append]
        exact h.sub.append (List.Sublist.refl _)
      · rw [List.length_append, List.length_singleton, hseq]
      · refine (h.flow.append [packet]).quiet _ _ ?_ (by simp)
        rcases hd with hnil | ⟨s₀, hone, -, hs₀, rfl⟩
        · exact hnone hnil
        · intro s hs hmine htype
          have hmem := mem_dataOf.2 ⟨hs, htype, hmine.2⟩
          rw [hone] at hmem
          obtain rfl := List.mem_singleton.1 hmem
          rw [hs₀, hseq]
          exact Numbered.concat sent _
      · obtain ⟨t, ht, hsid, hord⟩ := hclient
        exact ⟨t, ht, hsid, hord.append _⟩

/-- What the client reads is a packet under its number. -/
lemma feeds (h : Downstream sid events sys hist sent released) (hinv : Inv sys hist)
    (hlen : sent.length < 2 ^ 64) {e : BondingTunnel.Event K}
    (hc : Connected sid sys hist (.client 0 e)) {op : ReorderBuffer.Op Bytes}
    (hop : e.call? sys.server.sealer = some op) : op.Feeds sent := by
  cases e with
  | datagram linkId data now =>
    simp only [BondingTunnel.Event.call?] at hop
    split at hop
    · exact absurd hop (by simp)
    rename_i f hf
    split at hop
    · rename_i hdata
      obtain rfl := Option.some.inj hop
      obtain ⟨x, hx, hparty, hsid, rfl⟩ := hc.downstream linkId data now f rfl hf
      have hmasked := decodes_sealed hinv hx hf
      have htype : x.2.frame.type = .data := by
        rw [← hdata.1, hmasked]
        rfl
      exact feeds_sealed hlen hmasked (h.flow.sealed x hx ⟨hparty, hsid⟩ htype) _
    · exact absurd hop (by simp)
  | tick now =>
    obtain rfl := Option.some.inj hop
    trivial
  | _ => exact absurd hop (by simp [BondingTunnel.Event.call?])

/-- The client's step: it may call its reorder buffer. -/
lemma of_client (h : Downstream sid events sys hist sent released) (hinv : Inv sys hist)
    (hlen : sent.length < 2 ^ 64) (ht : sys.clients[0]? = some t) (e : BondingTunnel.Event K)
    (hc : Connected sid sys hist (.client 0 e)) (ht' : sys'.clients[0]? = some (t.step e).2)
    (hserver : sys'.server = sys.server) :
    ∃ released', Downstream sid (events ++ [.client 0 e]) sys'
      (hist ++ (t.step e).1.map fun x => (.client 0, x)) sent released' := by
  obtain ⟨t₀, ht₀, hsid, hord⟩ := h.client
  obtain rfl := Option.some.inj (ht₀.symm.trans ht)
  have hd : ∀ s ∈ sends (t₀.step e).1, (Party.client 0, s).1 = .server ∧
      (Party.client 0, s).2.frame.sessionId = sid → s.frame.type = .data →
        Numbered sent s.frame.seq s.frame.payload := fun s _ hmine => absurd hmine.1 (by simp)
  have hstream := hserver ▸ h.stream
  obtain ⟨hsealer, hsid'⟩ := t₀.step_const e
  rw [hsid] at hsid'
  have hquiet : writes t₀.sessionId (t₀.step e).1 = [] → (t₀.step e).2.reorder = t₀.reorder →
      Downstream sid (events ++ [.client 0 e]) sys'
        (hist ++ (t₀.step e).1.map fun x => (.client 0, x)) sent released := fun hw hr =>
    ⟨h.sub_concat _, hstream, h.flow.quiet _ _ hd fun _ => hsid ▸ hw, _, ht', hsid', hr ▸ hord⟩
  cases t₀.turn_step e with
  | rest hw hr hs ho => exact ⟨released, hquiet hw hr⟩
  | number packet hw hr hs ho => exact ⟨released, hquiet hw hr⟩
  | call op hop hw hr hs ho =>
    rw [(hinv.bound 0 t₀ ht).2] at hop
    refine ⟨_, h.sub_concat _, hstream, h.flow.step _ hd (fun _ => hsid ▸ hw) (by simp), _, ht', hsid', ?_⟩
    rw [hr]
    exact hord.step (h.feeds hinv hlen hc hop)

theorem step (h : Downstream sid events sys hist sent released) (hinv : Inv sys hist) (e : Event K)
    (hc : Connected sid sys hist e) (hlen : (dispatched (events ++ [e])).length < 2 ^ 64) :
    ∃ sent' released', Downstream sid (events ++ [e]) (sys.step e).2 (hist ++ (sys.step e).1) sent'
      released' := by
  obtain ⟨t, ht, -⟩ := h.client
  rcases step_cases ht e with ⟨e', rfl, hout, ht', hserver⟩ | ⟨e', rfl, hout, ht', hserver⟩ |
    ⟨ht', hserver, i, out, hi, hout⟩
  · rw [hout]
    have hlen' := (h.sub_concat (.client 0 e')).length_le.trans_lt hlen
    obtain ⟨released', h'⟩ := h.of_client hinv hlen' ht e' hc ht' hserver
    exact ⟨sent, released', h'⟩
  · rw [hout]
    obtain ⟨sent', h'⟩ := h.of_server hinv e' hc (ht'.trans ht.symm) hserver
    exact ⟨sent', released, h'⟩
  · -- another client's step
    rw [hout]
    refine ⟨sent, released, h.sub_concat _, hserver ▸ h.stream, ?_, (ht'.trans ht.symm) ▸ h.client⟩
    exact h.flow.quiet _ _ (fun s _ hmine => absurd hmine.1 (by simp))
      fun hparty => absurd (Party.client.inj hparty) hi

end Downstream

/-! ### Runs -/

lemma Upstream.written {sid : ℕ} {events : List (Event K)} {sys : System K}
    {hist : List (Party × Effect)} {sent : List Bytes} {released : List (ℤ × Bytes)}
    (h : Upstream sid events sys hist sent released) :
    (writesBy .server sid hist).Sublist (handed events) := by
  rw [h.flow.written]
  rcases h.stream with ⟨-, rfl⟩ | ⟨x, -, hord⟩
  · exact List.nil_sublist _
  · exact hord.sublist.trans h.sub

lemma Downstream.written {sid : ℕ} {events : List (Event K)} {sys : System K}
    {hist : List (Party × Effect)} {sent : List Bytes} {released : List (ℤ × Bytes)}
    (h : Downstream sid events sys hist sent released) :
    (writesBy (.client 0) sid hist).Sublist (dispatched events) := by
  obtain ⟨t, -, -, hord⟩ := h.client
  rw [h.flow.written]
  exact hord.sublist.trans h.sub

section Paired

variable (sealer : Sealer) (reorderTimeoutMs : ℚ) (cfg : ConcentratorConfig) (sessionId : ℕ)
  (links : List (Link K)) (sip : Option SipConfig) (mode : SchedulerMode)

lemma inv_paired : Inv (paired sealer reorderTimeoutMs cfg sessionId links sip mode) [] :=
  (inv_start sealer reorderTimeoutMs).step _

lemma upstream_paired : Upstream sessionId []
    (paired sealer reorderTimeoutMs cfg sessionId links sip mode) [] [] [] where
  sub := List.nil_sublist _
  client := ⟨_, rfl, rfl, by simp [BondingTunnel.new]⟩
  flow := ⟨by simp [sealedBy], rfl⟩
  stream := Or.inl ⟨rfl, rfl⟩

lemma downstream_paired : Downstream sessionId []
    (paired sealer reorderTimeoutMs cfg sessionId links sip mode) [] [] [] where
  sub := List.nil_sublist _
  stream := Or.inl ⟨rfl, rfl⟩
  flow := ⟨by simp [sealedBy], rfl⟩
  client := ⟨_, rfl, rfl, ReorderBuffer.Ordered.new [] _ _⟩

/-- **Order from end to end.**  In every run of a tunnel and a concentrator in which the
session stays, whatever the network does to the datagrams of either end, the packets written
at each end are a sublist of those handed over at the other, as long as these are fewer than
`2 ^ 64`. -/
theorem bond_in_order (events : List (Event K))
    (hc : Machine.Meets step (Connected sessionId) events
      (paired sealer reorderTimeoutMs cfg sessionId links sip mode) []) :
    let out := (run events (paired sealer reorderTimeoutMs cfg sessionId links sip mode)).1
    ((handed events).length < 2 ^ 64 →
        (writesBy .server sessionId out).Sublist (handed events)) ∧
      ((dispatched events).length < 2 ^ 64 →
        (writesBy (.client 0) sessionId out).Sublist (dispatched events)) := by
  have hrun := Machine.run_induction step (C := Connected sessionId)
    (I := fun events sys hist => Inv sys hist ∧
      ((handed events).length < 2 ^ 64 →
        ∃ sent released, Upstream sessionId events sys hist sent released) ∧
      ((dispatched events).length < 2 ^ 64 →
        ∃ sent released, Downstream sessionId events sys hist sent released))
    ⟨inv_paired .., fun _ => ⟨_, _, upstream_paired ..⟩, fun _ => ⟨_, _, downstream_paired ..⟩⟩
    ?_ events hc
  · obtain ⟨-, hU, hD⟩ := hrun
    constructor
    · intro hlen
      obtain ⟨sent, released, hU⟩ := hU hlen
      exact hU.written
    · intro hlen
      obtain ⟨sent, released, hD⟩ := hD hlen
      exact hD.written
  · rintro events e sys hist ⟨hinv, hU, hD⟩ hc
    refine ⟨hinv.step e, fun hlen => ?_, fun hlen => ?_⟩
    · rw [handed_append, List.length_append] at hlen
      obtain ⟨sent, released, hU⟩ := hU (by omega)
      exact hU.step hinv e hc (by rwa [handed_append, List.length_append])
    · rw [dispatched_append, List.length_append] at hlen
      obtain ⟨sent, released, hD⟩ := hD (by omega)
      exact hD.step hinv e hc (by rwa [dispatched_append, List.length_append])

end Paired

/-! ### Runs over one uplink -/

/-- A step of a client that reads nothing. -/
lemma connected_of_silent {sid : ℕ} {sys : System K} {hist : List (Party × Effect)} {i : ℕ}
    {e : BondingTunnel.Event K} (he : (Event.client i e).delivered = none) :
    Connected sid sys hist (.client i e) where
  alive := by
    simp only [step]
    split
    · exact id
    · exact id
  upstream := by simp
  downstream := by
    intro linkId data now f heq
    obtain ⟨rfl, rfl⟩ := Event.client.inj heq
    exact absurd he (by simp [Event.delivered])

/-- A read of the concentrator that keeps the session. -/
lemma connected_of_read {sid : ℕ} {sys : System K} {hist : List (Party × Effect)} {data : Bytes}
    {addr : Addr} {now : Clock} {sendOk : Bool} {s : ConcentratorServer} (hs : sys.server = s)
    (halive : ((s.step (.datagram data addr now sendOk)).2.stream? sid).isSome = true)
    (hsealed : ∃ x ∈ sealedBy hist, x.1 = .client 0 ∧ x.2.datagram = data) :
    Connected sid sys hist (.server (.datagram data addr now sendOk)) where
  alive := fun _ => by
    subst hs
    exact halive
  upstream := by
    intro data' addr' now' sendOk' f heq _ _
    cases heq
    exact hsealed
  downstream := by simp

/-- A tick of the concentrator. -/
lemma connected_of_tick {sid : ℕ} {sys : System K} {hist : List (Party × Effect)} (now : Time) :
    Connected sid sys hist (.server (.tick now)) where
  alive := by
    simp only [step, ConcentratorServer.step, ConcentratorServer.stream?,
      ConcentratorServer.get?_reorderTick, Option.isSome_map]
    exact id
  upstream := by simp
  downstream := by simp

lemma run_client (events : List (BondingTunnel.Event K)) (t : BondingTunnel K)
    (server : ConcentratorServer) :
    run (events.map fun e => .client 0 e) ⟨[t], server⟩ =
      ((t.run events).1.map fun x => (.client 0, x), ⟨[(t.run events).2], server⟩) := by
  induction events generalizing t with
  | nil => rfl
  | cons e events ih =>
    have hstep : (⟨[t], server⟩ : System K).step (.client 0 e) =
        ((t.step e).1.map fun x => (.client 0, x), ⟨[(t.step e).2], server⟩) := rfl
    rw [List.map_cons, run, Machine.run_cons, hstep, ← run, ih, BondingTunnel.run,
      BondingTunnel.run, Machine.run_cons, List.map_append]

lemma step_server (sys : System K) (e : ConcentratorServer.Event) :
    sys.step (.server e) = ((sys.server.step e).1.map fun x => (.server, x),
      { sys with server := (sys.server.step e).2 }) := rfl

lemma run_server (events : List ConcentratorServer.Event) (sys : System K) :
    run (events.map fun e => .server e) sys =
      ((sys.server.run events).1.map fun x => (.server, x),
        { sys with server := (sys.server.run events).2 }) := by
  induction events generalizing sys with
  | nil => rfl
  | cons e events ih =>
    rw [List.map_cons, run, Machine.run_cons, step_server, ← run, ih, ConcentratorServer.run,
      ConcentratorServer.run, Machine.run_cons, List.map_append]

/-- All packets sent, one after the other. -/
def sendAll (packets : List Bytes) : List (Event K) :=
  packets.flatMap fun packet => (BondingTunnel.sendOne packet).map fun e => .client 0 e

/-- What the network meets when a tunnel with one link sends packets: the `i`-th is sealed
under number `i`. -/
lemma run_sendAll {sealer : Sealer} {sid : ℕ} (server : ConcentratorServer) (packets : List Bytes) :
    ∀ {t : BondingTunnel K} {k : ℕ} (hist : List (Party × Effect)), t.SingleLink sealer sid k →
      (∀ packet ∈ packets, packet.length ≤ maxPayload) →
      ∃ t' out, run (sendAll packets) ⟨[t], server⟩ = (out, ⟨[t'], server⟩) ∧
        Machine.Meets step (Connected sid) (sendAll packets) ⟨[t], server⟩ hist ∧
        writesBy .server sid out = [] ∧ handed (sendAll packets : List (Event K)) = packets ∧
        ∀ i packet, packets[i]? = some packet → ∃ x ∈ sealedBy out, x.1 = .client 0 ∧
          x.2.datagram = datagram sealer (packetFrame sid (k + i + 1) packet) := by
  induction packets with
  | nil => exact fun _ _ _ => ⟨_, _, rfl, trivial, rfl, rfl, by simp⟩
  | cons packet packets ih =>
    intro t k hist h hlen
    obtain ⟨h', sent, hout, hd⟩ := h.sendOne (hlen packet List.mem_cons_self)
    have hone := run_client (BondingTunnel.sendOne packet) t server
    rw [hout] at hone
    obtain ⟨t', out, hrun, hmeets, hwrites, hhanded, hsealed⟩ := ih
      (hist ++ [(.client 0, .send sent)]) h' fun p hp => hlen p (List.mem_cons_of_mem _ hp)
    -- the first packet, and then the rest of them
    have hcons : (sendAll (packet :: packets) : List (Event K)) =
        ((BondingTunnel.sendOne packet).map fun e => .client 0 e) ++ sendAll packets :=
      List.flatMap_cons
    rw [run] at hone hrun
    refine ⟨t', [(.client 0, .send sent)] ++ out, ?_, ?_, ?_, ?_, ?_⟩
    · rw [hcons, run, Machine.run_append, hone, hrun]
      rfl
    · rw [hcons, Machine.meets_append, hone]
      exact ⟨⟨connected_of_silent rfl, connected_of_silent rfl, connected_of_silent rfl, trivial⟩,
        hmeets⟩
    · rw [writesBy_append, hwrites]
      rfl
    · rw [hcons, handed_append, hhanded]
      rfl
    · intro i p hi
      rw [sealedBy_append]
      cases i with
      | zero =>
        obtain rfl := Option.some.inj hi
        exact ⟨(.client 0, sent), List.mem_append_left _ List.mem_cons_self, rfl, hd⟩
      | succ i =>
        obtain ⟨x, hx, hparty, hxd⟩ := hsealed i p hi
        refine ⟨x, List.mem_append_right _ hx, hparty, ?_⟩
        rw [hxd, show k + (i + 1) + 1 = k + 1 + i + 1 by omega]

/-- A tunnel with one link, which is up. -/
def soleLink : Link ℚ := { name := "wan0", interface := "wwan0", linkId := 1, state := .up }

def soleConfig : ConcentratorConfig := { enabled := true, host := "198.51.100.1" }

lemma singleLink_start : BondingTunnel.SingleLink ⟨Aead.plain⟩ 7
    ((BondingTunnel.new soleConfig ⟨Aead.plain⟩ 7 [soleLink] none .weighted).start fun _ => true).2
    0 where
  sealer_eq := rfl
  session := rfl
  seq := rfl
  idle := rfl
  link := ⟨_, rfl, rfl, rfl⟩
  socket := ⟨_, rfl, rfl, rfl⟩

lemma step_start : (paired ⟨Aead.plain⟩ 90 soleConfig 7 [soleLink] none .weighted).step
    (.client 0 (.start fun _ => true)) = ([], ⟨[((BondingTunnel.new soleConfig ⟨Aead.plain⟩ 7
      [soleLink] none .weighted).start fun _ => true).2], .start ⟨Aead.plain⟩ 90⟩) := rfl

/-- The second of two packets arrives. -/
def secondArrives : List (Event ℚ) :=
  .client 0 (.start fun _ => true) :: (sendAll [[1], [2]] ++
    [.server (.datagram (datagram ⟨Aead.plain⟩ (packetFrame 7 2 [2])) ("203.0.113.5", 40000)
      ⟨1000, 0⟩ true)])

lemma meets_secondArrives : Machine.Meets step (Connected 7) secondArrives
    (paired ⟨Aead.plain⟩ 90 soleConfig 7 [soleLink] none .weighted) [] := by
  obtain ⟨t', out, hrun, hmeets, -, -, hsealed⟩ := run_sendAll
    (.start ⟨Aead.plain⟩ 90) [[1], [2]] [] singleLink_start (by simp [maxPayload])
  rw [run] at hrun
  refine ⟨connected_of_silent rfl, ?_⟩
  rw [step_start, Machine.meets_append, hrun]
  exact ⟨hmeets, connected_of_read (s := .start ⟨Aead.plain⟩ 90) rfl (by decide +kernel)
    (hsealed 1 [2] rfl), trivial⟩

theorem bond_in_order_secondArrives :
    (writesBy .server 7 (run secondArrives
      (paired ⟨Aead.plain⟩ 90 soleConfig 7 [soleLink] none .weighted)).1).Sublist
        (handed secondArrives) :=
  (bond_in_order _ _ _ _ _ _ _ _ meets_secondArrives).1 (by decide +kernel)

/-- Two datagrams are read, of numbers that differ by `2 ^ 64 - 1`, and the buffer is ticked. -/
def readLate : List ConcentratorServer.Event :=
  [.datagram (datagram ⟨Aead.plain⟩ (packetFrame 7 (2 ^ 64 + 1) [2])) ("203.0.113.5", 40000)
      ⟨1000, 0⟩ true,
    .datagram (datagram ⟨Aead.plain⟩ (packetFrame 7 2 [1])) ("203.0.113.5", 40000) ⟨1000, 0⟩ true,
    .tick 1]

lemma meets_readLate {t : BondingTunnel ℚ} {hist : List (Party × Effect)}
    (hlast : ∃ x ∈ sealedBy hist, x.1 = .client 0 ∧
      x.2.datagram = datagram ⟨Aead.plain⟩ (packetFrame 7 (2 ^ 64 + 1) [2]))
    (hfirst : ∃ x ∈ sealedBy hist, x.1 = .client 0 ∧
      x.2.datagram = datagram ⟨Aead.plain⟩ (packetFrame 7 2 [1])) :
    Machine.Meets step (Connected 7) (readLate.map fun e => .server e)
      ⟨[t], .start ⟨Aead.plain⟩ 90⟩ hist := by
  refine ⟨connected_of_read (s := .start ⟨Aead.plain⟩ 90) rfl (by decide +kernel) hlast,
    connected_of_read (s := ((ConcentratorServer.start ⟨Aead.plain⟩ 90).step
      (.datagram (datagram ⟨Aead.plain⟩ (packetFrame 7 (2 ^ 64 + 1) [2])) ("203.0.113.5", 40000)
        ⟨1000, 0⟩ true)).2) (by rw [step_server]) (by decide +kernel) ?_, connected_of_tick 1,
    trivial⟩
  · obtain ⟨x, hx, hparty, hd⟩ := hfirst
    exact ⟨x, by rw [sealedBy_append]; exact List.mem_append_left _ hx, hparty, hd⟩

/-- After `2 ^ 64 + 1` packets the last one bears the number of the first, and the concentrator
writes it before the second. -/
theorem out_of_order_after_wrap :
    ¬ ∀ events, Machine.Meets step (Connected 7) events
        (paired ⟨Aead.plain⟩ 90 soleConfig 7 [soleLink] none .weighted) [] →
      (writesBy .server 7 (run events
        (paired ⟨Aead.plain⟩ 90 soleConfig 7 [soleLink] none .weighted)).1).Sublist
          (handed events) := by
  intro h
  obtain ⟨n, hn⟩ : ∃ n, n + 2 = 2 ^ 64 := ⟨2 ^ 64 - 2, by norm_num⟩
  let packets : List Bytes := [0] :: [1] :: (List.replicate n [0] ++ [[2]])
  have hlen : ∀ packet ∈ packets, packet.length ≤ maxPayload := by
    intro packet hp
    simp only [packets, List.mem_cons, List.mem_append, List.mem_replicate, List.not_mem_nil,
      or_false] at hp
    rcases hp with rfl | rfl | ⟨-, rfl⟩ | rfl <;> exact (by decide : 1 ≤ maxPayload)
  obtain ⟨t', out, hrun, hmeets, hwrites, hhanded, hsealed⟩ :=
    run_sendAll (.start ⟨Aead.plain⟩ 90) packets [] singleLink_start hlen
  have hfirst := hsealed 1 [1] rfl
  have hlast := hsealed (n + 2) [2] (by simp [packets])
  rw [zero_add, show n + 2 + 1 = 2 ^ 64 + 1 by omega] at hlast
  rw [zero_add] at hfirst
  have hread := run_server readLate (⟨[t'], .start ⟨Aead.plain⟩ 90⟩ : System ℚ)
  rw [run] at hrun hread
  have hsub := h (.client 0 (.start fun _ => true) ::
    (sendAll packets ++ readLate.map fun e => .server e)) ?_
  · rw [run, Machine.run_cons, step_start, Machine.run_append, hrun, hread, List.nil_append,
      writesBy_append, hwrites, writesBy_map, if_pos rfl, List.nil_append] at hsub
    have hwritten : writes 7 ((ConcentratorServer.start ⟨Aead.plain⟩ 90).run readLate).1 =
        [[2], [1]] := by
      decide +kernel
    have hhanded' : handed (.client 0 (.start fun _ => true) ::
        (sendAll packets ++ readLate.map fun e => .server e) : List (Event ℚ)) = packets := by
      rw [← List.singleton_append, handed_append, handed_append, hhanded]
      exact List.append_nil _
    rw [hhanded', hwritten] at hsub
    -- there is no `[1]` after the only `[2]`
    have hnot : [1] ∉ List.replicate n ([0] : Bytes) ++ [[2]] := by
      simp [List.mem_replicate]
    rcases List.cons_sublist_cons'.1 hsub with hsub | ⟨heq, -⟩
    · rcases List.cons_sublist_cons'.1 hsub with hsub | ⟨heq, -⟩
      · exact hnot (hsub.subset (by simp))
      · exact absurd heq (by decide)
    · exact absurd heq (by decide)
  · refine ⟨connected_of_silent rfl, ?_⟩
    rw [step_start, Machine.meets_append, hrun]
    exact ⟨hmeets, meets_readLate hlast hfirst⟩

end Turbobond.Bond.System
