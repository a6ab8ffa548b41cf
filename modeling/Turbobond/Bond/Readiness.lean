import Turbobond.Bond.Live

/-!
# Ready links

A packet may go over the links that are usable and marked ready, or over any usable link when
none is marked.  `refresh_links` marks the links whose sockets are handshaken, and a link that is
paired later stays unmarked until the next refresh; a link without a socket is never marked, but
is used all the same when no link is marked.
-/

set_option linter.unusedSectionVars false

namespace Turbobond.Bond.BondingTunnel

open Config Links Util

variable {K : Type} [Field K] [LinearOrder K] [HasSqrt K] {t t' : BondingTunnel K}

lemma mem_usableLinks {s : BondScheduler K} {link : Link K} :
    link ∈ s.usableLinks ↔ link ∈ s.links ∧ link.usable = true ∧ link.tunnelReady = true := by
  rw [BondScheduler.usableLinks, List.mem_filter, Bool.and_eq_true]

/-- Some usable link is marked ready. -/
def AnyReady (t : BondingTunnel K) : Prop :=
  ∃ link ∈ t.scheduler.links, link.usable = true ∧ link.tunnelReady = true

instance (t : BondingTunnel K) : Decidable t.AnyReady :=
  inferInstanceAs (Decidable (∃ link ∈ t.scheduler.links, _))

lemma usableLinks_ne_nil_iff : t.scheduler.usableLinks ≠ [] ↔ t.AnyReady := by
  rw [ne_eq, List.eq_nil_iff_forall_not_mem, not_forall_not]
  exact exists_congr fun _ => mem_usableLinks

lemma mem_candidates {link : Link K} (hl : link ∈ t.scheduler.links) (hu : link.usable = true) :
    link ∈ t.scheduler.candidates ↔ (t.AnyReady → link.tunnelReady = true) := by
  by_cases h : t.scheduler.usableLinks ≠ []
  · have hready := usableLinks_ne_nil_iff.1 h
    simp [BondScheduler.candidates, h, mem_usableLinks, hl, hu, hready]
  · have hready : ¬ t.AnyReady := fun hready => h (usableLinks_ne_nil_iff.2 hready)
    simp only [ne_eq, not_not] at h
    simp [BondScheduler.candidates, h, hl, hu, hready]

/-! ### Paired links are in the bond -/

/-- Every usable link whose socket is handshaken is a candidate. -/
def Bonded (t : BondingTunnel K) : Prop :=
  ∀ link ∈ t.scheduler.links, link.usable = true → t.pairing link.linkId = some true →
    link ∈ t.scheduler.candidates

/-- When a link is paired, it is marked already, unless no usable link is. -/
def Timely (t : BondingTunnel K) (e : Live K) : Prop :=
  ∀ linkId, t.pairedBy e = some linkId → t.AnyReady → ∀ link ∈ t.scheduler.links,
    link.linkId = linkId → link.usable = true → link.tunnelReady = true

lemma bonded_iff : t.Bonded ↔ (t.AnyReady → ∀ link ∈ t.scheduler.links, link.usable = true →
    t.pairing link.linkId = some true → link.tunnelReady = true) := by
  constructor
  · exact fun h hready link hl hu hp => (mem_candidates hl hu).1 (h link hl hu hp) hready
  · exact fun h link hl hu hp => (mem_candidates hl hu).2 fun hready => h hready link hl hu hp

lemma anyReady_congr (h : t'.scheduler.links = t.scheduler.links) : t'.AnyReady ↔ t.AnyReady := by
  rw [AnyReady, h, AnyReady]

/-- One step: a bond of all paired links stays one if and only if the link that is paired is marked
in time. -/
lemma bonded_live_iff (h : t.Bonded) (e : Live K) : (t.live e).2.Bonded ↔ t.Timely e := by
  rw [bonded_iff] at h ⊢
  rw [Timely]
  generalize hpaired : t.pairedBy e = paired
  have hmoves := hpaired ▸ t.moves_live e
  generalize (t.live e).2 = t' at hmoves
  cases hmoves with
  | still hstill =>
    rw [anyReady_congr hstill.links, hstill.links, hstill.pairing]
    exact iff_of_true h (by simp)
  | pairs linkId hs hl hp =>
    rw [anyReady_congr hl, hl, hp]
    constructor
    · intro hafter linkId' hlinkId hready link hmem hid hu
      obtain rfl := Option.some.inj hlinkId
      exact hafter hready link hmem hu (by rw [hid, Function.update_self])
    · intro htimely hready link hmem hu hpair
      -- of the links that were paired before, nothing has changed
      by_cases hid : link.linkId = linkId
      · exact htimely linkId rfl hready link hmem hid hu
      · rw [Function.update_of_ne hid] at hpair
        exact h hready link hmem hu hpair
  | unpairs linkId hs hl hp =>
    rw [anyReady_congr hl, hl, hp]
    refine iff_of_true (fun hready link hmem hu hpair => ?_) (by simp)
    by_cases hid : link.linkId = linkId
    · rw [hid, Function.update_self] at hpair
      exact absurd hpair (by simp)
    · rw [Function.update_of_ne hid] at hpair
      exact h hready link hmem hu hpair
  | marks links hl hp =>
    rw [hl, hp]
    refine iff_of_true (fun _ link hmem _ hpair => ?_) (by simp)
    obtain ⟨link, -, rfl⟩ := List.mem_map.1 hmem
    -- `refresh_links` marks whatever is paired
    have hpair' : t.pairing link.linkId = some true := hpair
    simp [mark, hpair']
  | measures f hl hid hu hr hp =>
    rw [hl, hp]
    refine iff_of_true (fun hready link hmem husable hpair => ?_) (by simp)
    obtain ⟨link, hlink, rfl⟩ := List.mem_map.1 hmem
    rw [hid] at hpair
    rw [hu] at husable
    rw [hr]
    refine h ?_ link hlink husable hpair
    obtain ⟨other, hother, husable', hready'⟩ := hready
    rw [hl] at hother
    obtain ⟨other, hmem', rfl⟩ := List.mem_map.1 hother
    exact ⟨other, hmem', hu other ▸ husable', hr other ▸ hready'⟩

/-! ### A tunnel that has just started -/

/-- No socket is handshaken. -/
def Fresh (t : BondingTunnel K) : Prop := ∀ linkId, t.pairing linkId ≠ some true

lemma fresh_bindLink (h : t.Fresh) (link : Link K) (ok : Bool) : (t.bindLink link ok).Fresh := by
  have hmodified : ∀ ready, (t.modifyLink link.linkId fun link =>
      { link with tunnelReady := ready }).Fresh := by
    intro ready linkId
    rw [pairing_modifyLink]
    exact h linkId
  simp only [bindLink]
  split
  · exact h
  split
  · intro linkId
    rw [pairing_set (t := t.modifyLink link.linkId fun link => { link with tunnelReady := true }) rfl]
    split
    · simp
    · exact hmodified true linkId
  · exact hmodified false

lemma fresh_start (h : t.Fresh) (bindable : ℕ → Bool) : (t.start bindable).2.Fresh := by
  have hfold : ∀ (links : List (Link K)) (t : BondingTunnel K), t.Fresh →
      (links.foldl (fun t link => t.bindLink link (bindable link.linkId)) t).Fresh := by
    intro links
    induction links with
    | nil => exact fun t h => h
    | cons link links ih => exact fun t h => ih _ (fresh_bindLink h link _)
  simp only [start]
  split
  · exact h
  split
  · exact h
  split
  · exact hfold _ t h
  · exact hfold _ t h

lemma fresh_new (cfg : ConcentratorConfig) (sealer : Sealer) (sessionId : ℕ) (links : List (Link K))
    (sip : Option SipConfig) (mode : SchedulerMode) :
    (new cfg sealer sessionId links sip mode).Fresh := by
  intro linkId
  simp [new, pairing]

/-- **Paired links.**  In every state of a run of a started tunnel every usable link whose socket
is handshaken is a candidate, if and only if no link is paired while others are marked ready and it
is not. -/
theorem bonded_run_iff (cfg : ConcentratorConfig) (sealer : Sealer) (sessionId : ℕ)
    (links : List (Link K)) (sip : Option SipConfig) (mode : SchedulerMode) (bindable : ℕ → Bool)
    (events : List (Live K)) :
    (∀ before, before <+: events →
        (((new cfg sealer sessionId links sip mode).start bindable).2.lives before).Bonded) ↔
      Machine.Meets live (fun t _ e => t.Timely e) events
        ((new cfg sealer sessionId links sip mode).start bindable).2 [] := by
  have hfresh := fresh_start (fresh_new cfg sealer sessionId links sip mode) bindable
  exact Machine.forall_prefix_iff_meets live (P := Bonded) (C := Timely)
    (fun t e h => bonded_live_iff h e) events fun link _ _ hpair =>
      absurd hpair (hfresh link.linkId)

/-- Two uplinks, and a tunnel over them. -/
def twoLinks : List (Link ℚ) :=
  [{ name := "wan1", interface := "eth0", linkId := 1, state := .up },
    { name := "wan2", interface := "eth1", linkId := 2, state := .up }]

def twoLinkTunnel (bindable : ℕ → Bool) : BondingTunnel ℚ :=
  ((new { enabled := true, host := "vps" } ⟨Util.Aead.plain⟩ 7 twoLinks none .weighted).start
    bindable).2

/-- Only the first handshake is answered in time, the links are refreshed, and then the answer to
a keepalive on the second arrives. -/
def latePairing : List (Live ℚ) :=
  [.handshakeReply 1 (datagram ⟨Util.Aead.plain⟩
      { type := .handshakeAck, sessionId := 7, linkId := 1, counter := 1 }) 1000,
    .transition 2 .degraded,
    .datagram 2 (datagram ⟨Util.Aead.plain⟩
      { type := .keepalive, sessionId := 7, linkId := 2, counter := 1 }) ⟨1010, 10⟩]

/-- The second link stays out of the bond. -/
theorem left_out_latePairing :
    ¬ ∀ events : List (Live ℚ), ((twoLinkTunnel fun _ => true).lives events).Bonded := by
  intro h
  have hbonded := bonded_iff.1 (h latePairing)
  exact absurd hbonded (by decide +kernel)

/-! ### Packets go where there is a socket -/

/-- A usable link that is marked has a socket. -/
def Marked (t : BondingTunnel K) : Prop :=
  ∀ link ∈ t.scheduler.links, link.usable = true → link.tunnelReady = true →
    t.HasSocket link.linkId

lemma marked_live (h : t.Marked) (e : Live K) : (t.live e).2.Marked := by
  have hmoves := t.moves_live e
  generalize t.pairedBy e = paired at hmoves
  generalize (t.live e).2 = t' at hmoves
  have hupdate : ∀ (linkId : ℕ) (paired : Bool),
      t'.pairing = Function.update t.pairing linkId (some paired) →
        t'.scheduler.links = t.scheduler.links → t'.Marked := by
    intro linkId paired hp hl link hmem hu hr
    rw [hl] at hmem
    have hsocket := h link hmem hu hr
    rw [hasSocket_iff] at hsocket ⊢
    rw [hp]
    by_cases hid : link.linkId = linkId
    · rw [hid, Function.update_self]
      simp
    · rwa [Function.update_of_ne hid]
  cases hmoves with
  | still hstill =>
    intro link hmem hu hr
    rw [hstill.links] at hmem
    rw [hasSocket_iff, hstill.pairing, ← hasSocket_iff]
    exact h link hmem hu hr
  | pairs linkId hs hl hp => exact hupdate linkId true hp hl
  | unpairs linkId hs hl hp => exact hupdate linkId false hp hl
  | marks links hl hp =>
    intro link hmem _ hr
    rw [hl] at hmem
    obtain ⟨link, -, rfl⟩ := List.mem_map.1 hmem
    have hr' : (t.pairing link.linkId).getD false = true := hr
    have hid : (t.mark link).linkId = link.linkId := rfl
    rw [hasSocket_iff, hp, hid]
    intro hnone
    rw [hnone] at hr'
    exact absurd hr' (by simp)
  | measures f hl hid hu hr hp =>
    intro link hmem husable hready
    rw [hl] at hmem
    obtain ⟨link, hlink, rfl⟩ := List.mem_map.1 hmem
    rw [hasSocket_iff, hp, hid, ← hasSocket_iff]
    exact h link hlink (hu link ▸ husable) (hr link ▸ hready)

lemma marked_lives (h : t.Marked) (events : List (Live K)) : (t.lives events).Marked := by
  induction events generalizing t with
  | nil => exact h
  | cons e events ih => exact ih (marked_live h e)

/-- In the binding loop of `start`, after some of the links: the enabled ones among them are marked
only if they have a socket. -/
def Binding (done : List (Link K)) (t : BondingTunnel K) : Prop :=
  ∀ link ∈ t.scheduler.links, (∃ l ∈ done, l.linkId = link.linkId ∧ l.enabled = true) →
    link.tunnelReady = true → t.HasSocket link.linkId

lemma binding_bindLink {done : List (Link K)} (h : t.Binding done) (l : Link K) (ok : Bool) :
    (t.bindLink l ok).Binding (done ++ [l]) := by
  have hkeep : ∀ ready, ∀ link ∈ (t.modifyLink l.linkId fun link =>
      { link with tunnelReady := ready }).scheduler.links,
      (∃ l' ∈ done ++ [l], l'.linkId = link.linkId ∧ l'.enabled = true) →
        link.tunnelReady = true → link.linkId = l.linkId ∧ ready = true ∨
          t.HasSocket link.linkId := by
    intro ready link hmem hdone hr
    obtain ⟨old, hold, rfl⟩ := List.mem_map.1 hmem
    by_cases hid : old.linkId = l.linkId
    · rw [if_pos hid] at hr ⊢
      exact Or.inl ⟨hid, hr⟩
    · rw [if_neg hid] at hr hdone ⊢
      obtain ⟨l', hl', hid', hen'⟩ := hdone
      rcases List.mem_append.1 hl' with hl' | hl'
      · exact Or.inr (h old hold ⟨l', hl', hid', hen'⟩ hr)
      · rw [List.mem_singleton.1 hl'] at hid'
        exact absurd hid'.symm hid
  simp only [bindLink]
  split
  · -- a disabled link is passed over
    rename_i hdis
    rintro link hmem ⟨l', hl', hid', hen'⟩ hr
    rcases List.mem_append.1 hl' with hl' | hl'
    · exact h link hmem ⟨l', hl', hid', hen'⟩ hr
    · rw [List.mem_singleton.1 hl'] at hen'
      simp [hen'] at hdis
  split
  · intro link hmem hdone hr
    rw [HasSocket, Dict.get?_set]
    split
    · rfl
    · rename_i hne
      rcases hkeep true link hmem hdone hr with ⟨hid, -⟩ | hsocket
      · exact absurd hid hne
      · rw [hasSocket_iff, ← pairing_modifyLink t l.linkId fun link =>
          { link with tunnelReady := true }, ← hasSocket_iff] at hsocket
        exact hsocket
  · intro link hmem hdone hr
    rcases hkeep false link hmem hdone hr with ⟨-, hfalse⟩ | hsocket
    · exact absurd hfalse (by simp)
    · rw [hasSocket_iff, pairing_modifyLink, ← hasSocket_iff]
      exact hsocket

/-- Binding changes nothing of a link but its mark. -/
lemma mem_links_bindLink {l link : Link K} {ok : Bool}
    (h : link ∈ (t.bindLink l ok).scheduler.links) :
    ∃ old ∈ t.scheduler.links, old.linkId = link.linkId ∧ old.enabled = link.enabled := by
  have hmodified : ∀ ready, link ∈ (t.modifyLink l.linkId fun link =>
      { link with tunnelReady := ready }).scheduler.links →
      ∃ old ∈ t.scheduler.links, old.linkId = link.linkId ∧ old.enabled = link.enabled := by
    intro ready hmem
    obtain ⟨old, hold, rfl⟩ := List.mem_map.1 hmem
    refine ⟨old, hold, ?_⟩
    split
    · exact ⟨rfl, rfl⟩
    · exact ⟨rfl, rfl⟩
  simp only [bindLink] at h
  split at h
  · exact ⟨link, h, rfl, rfl⟩
  split at h
  · exact hmodified true h
  · exact hmodified false h

/-- The whole loop. -/
lemma binding_foldl (bindable : ℕ → Bool) (rest : List (Link K)) :
    ∀ (done : List (Link K)) (t : BondingTunnel K), t.Binding done →
      (rest.foldl (fun t link => t.bindLink link (bindable link.linkId)) t).Binding (done ++ rest) ∧
        ∀ link ∈ (rest.foldl (fun t link => t.bindLink link (bindable link.linkId)) t).scheduler.links,
          ∃ old ∈ t.scheduler.links, old.linkId = link.linkId ∧ old.enabled = link.enabled := by
  induction rest with
  | nil =>
    intro done t h
    rw [List.append_nil]
    exact ⟨h, fun link hmem => ⟨link, hmem, rfl, rfl⟩⟩
  | cons l rest ih =>
    intro done t h
    obtain ⟨hbinding, hlinks⟩ := ih (done ++ [l]) (t.bindLink l (bindable l.linkId))
      (binding_bindLink h l _)
    rw [List.append_assoc] at hbinding
    refine ⟨hbinding, fun link hmem => ?_⟩
    obtain ⟨mid, hmid, hid, hen⟩ := hlinks link hmem
    obtain ⟨old, hold, hid', hen'⟩ := mem_links_bindLink hmid
    exact ⟨old, hold, hid'.trans hid, hen'.trans hen⟩

lemma marked_start (h : t.running = false) (bindable : ℕ → Bool)
    (hstart : (t.start bindable).2.running = true) : (t.start bindable).2.Marked := by
  have hnone : t.Binding [] := fun _ _ ⟨_, hl, _⟩ => absurd hl List.not_mem_nil
  obtain ⟨hbinding, hlinks⟩ := binding_foldl bindable t.scheduler.links [] t hnone
  have hmarked : (t.scheduler.links.foldl
      (fun t link => t.bindLink link (bindable link.linkId)) t).Marked := by
    intro link hmem hu hr
    obtain ⟨old, hold, hid, hen⟩ := hlinks link hmem
    rw [Link.usable, Bool.and_eq_true] at hu
    exact hbinding link hmem ⟨old, hold, hid, hen.trans hu.1⟩ hr
  by_cases hcfg : t.cfg.enabled = true
  · simp only [start, h, hcfg, Bool.not_true, Bool.false_eq_true, if_false]
    split
    · exact hmarked
    · exact hmarked
  · simp [start, h, hcfg] at hstart

/-- `_send_packet` sends a packet over every link when it is critical. -/
def critical (t : BondingTunnel K) (packet : Bytes) : Bool :=
  t.cfg.duplicateCritical && !t.sipPorts.isEmpty && isCriticalPacket packet t.sipPorts

/-- The call of `_send_packet` comes to a link with a socket, and seals a copy for it. -/
def Transmits (t : BondingTunnel K) (packet : Bytes) : Prop :=
  ∃ o, (t.sendPacket packet).sending = t.sending ++ [o] ∧ o.packet = packet ∧
    ∃ linkId ∈ o.links, t.HasSocket linkId

lemma transmits_iff (t : BondingTunnel K) (packet : Bytes) : t.Transmits packet ↔
    ∃ link ∈ (t.scheduler.select packet.length (t.critical packet)).1, t.HasSocket link.linkId := by
  rw [Transmits]
  by_cases hnone : (t.scheduler.select packet.length (t.critical packet)).1 = []
  · have hsend : (t.sendPacket packet).sending = t.sending := by
      rw [critical] at hnone
      simp only [sendPacket, hnone, if_true]
    simp [hnone, hsend]
  · have hsend : (t.sendPacket packet).sending = t.sending ++ [{
        seq := t.seq + 1, packet,
        links := (t.scheduler.select packet.length (t.critical packet)).1.map Link.linkId }] := by
      rw [critical] at hnone
      simp only [sendPacket, if_neg hnone]
      rfl
    simp only [hsend, List.append_cancel_left_eq, List.cons.injEq, and_true]
    constructor
    · rintro ⟨o, rfl, -, linkId, hmem, hs⟩
      obtain ⟨link, hlink, rfl⟩ := List.mem_map.1 hmem
      exact ⟨link, hlink, hs⟩
    · rintro ⟨link, hlink, hs⟩
      exact ⟨_, rfl, rfl, link.linkId, List.mem_map_of_mem hlink, hs⟩

/-- When its turn comes, the copy for a link with a socket is sealed and sent there, unless
`encode_frame` raises. -/
lemma sendCopy_of_hasSocket {i : ℕ} {o : Outgoing} {linkId : ℕ} {rest : List ℕ}
    (h : t.sending[i]? = some o) (ho : o.links = linkId :: rest) (hs : t.HasSocket linkId)
    (now : Time) (sendOk : Bool) :
    (∃ e, (t.sendCopy i now sendOk).1 = [.raise e]) ∨
      ∃ sent, (t.sendCopy i now sendOk).1 = [.send sent] ∧ sent.frame.type = .data ∧
        sent.frame.payload = o.packet := by
  obtain ⟨ls, hls⟩ := Option.isSome_iff_exists.1 hs
  obtain ⟨seq, packet, links⟩ := o
  obtain rfl : links = linkId :: rest := ho
  obtain ⟨out, tx, bytes, ts, heq, hout⟩ := transmit_cases
    { t with sending := t.sending.set i { seq, packet, links := rest } } linkId ls .data seq packet
    now sendOk
  simp only [sendCopy, h, hls, heq]
  rcases hout with ⟨e, -, rfl⟩ | ⟨d, -, rfl⟩
  · exact Or.inl ⟨e, rfl⟩
  · exact Or.inr ⟨_, rfl, rfl, rfl⟩

/-- The usable link with the lowest latency, as the scheduler tells it. -/
def quickest (t : BondingTunnel K) : Option (Link K) :=
  t.scheduler.candidates.argmin fun link => max link.health.rttMs (1 / ((100 : ℕ) : K))

/-- No usable link is marked, one of them has no socket, and the packet goes over one link only;
the quickest, if that is what counts, is one without a socket. -/
def Stranded (t : BondingTunnel K) (packet : Bytes) : Prop :=
  ¬ t.AnyReady ∧
    (∃ link ∈ t.scheduler.links, link.usable = true ∧ ¬ t.HasSocket link.linkId) ∧
    t.critical packet = false ∧ t.scheduler.mode ≠ .redundant ∧
    (t.scheduler.mode = .lowestLatency → ∀ link ∈ t.quickest, ¬ t.HasSocket link.linkId)

lemma Marked.transmits_iff_of_socket (h : t.Marked) (packet : Bytes)
    (hsocket : ∃ link ∈ t.scheduler.links, link.usable = true ∧ t.HasSocket link.linkId) :
    (¬ t.Stranded packet → t.Transmits packet) ∧
      (t.Stranded packet → t.scheduler.mode = .lowestLatency → ¬ t.Transmits packet) := by
  obtain ⟨bound, hbound, husable, hs⟩ := hsocket
  have hmem : ∀ link ∈ t.scheduler.candidates, link ∈ t.scheduler.links ∧ link.usable = true ∧
      (t.AnyReady → link.tunnelReady = true) := by
    intro link hlink
    have husable := BondScheduler.usable_of_mem_candidates hlink
    have hl : link ∈ t.scheduler.links := by
      rw [BondScheduler.candidates] at hlink
      split at hlink
      · exact List.mem_of_mem_filter hlink
      · exact List.mem_of_mem_filter hlink
    exact ⟨hl, husable, (mem_candidates hl husable).1 hlink⟩
  have hne : t.scheduler.candidates ≠ [] := by
    by_cases hready : t.AnyReady
    · obtain ⟨link, hl, hu, hr⟩ := hready
      exact List.ne_nil_of_mem ((mem_candidates hl hu).2 fun _ => hr)
    · exact List.ne_nil_of_mem ((mem_candidates hbound husable).2 fun hready' => absurd hready' hready)
  obtain ⟨hselect, -⟩ := BondScheduler.select_of_ne_nil hne packet.length (t.critical packet)
  obtain ⟨-, hchoice⟩ :=
    BondScheduler.choose_cases hne t.scheduler packet.length (t.critical packet)
  rw [transmits_iff, hselect]
  constructor
  · intro hnot
    by_cases hready : t.AnyReady
    · -- whatever is chosen is marked
      rcases hchoice with ⟨hall, -⟩ | ⟨link, hlink, hone, -⟩
      · obtain ⟨link, rest, hcons⟩ := List.exists_cons_of_ne_nil hne
        have hlink : link ∈ t.scheduler.candidates := hcons ▸ List.mem_cons_self
        obtain ⟨hl, hu, hr⟩ := hmem link hlink
        rw [hall]
        exact ⟨link, hlink, h link hl hu (hr hready)⟩
      · obtain ⟨hl, hu, hr⟩ := hmem link hlink
        exact ⟨link, hone ▸ List.mem_singleton_self _, h link hl hu (hr hready)⟩
    · -- nobody is marked, so the link with the socket is a candidate among others
      have hcand : bound ∈ t.scheduler.candidates :=
        (mem_candidates hbound husable).2 fun hready' => absurd hready' hready
      rcases hchoice with ⟨hall, -⟩ | ⟨link, hlink, hone, -, hcritical, hmode, hquick⟩
      · rw [hall]
        exact ⟨bound, hcand, hs⟩
      · refine ⟨link, hone ▸ List.mem_singleton_self _, ?_⟩
        by_contra hbare
        obtain ⟨hl, hu, -⟩ := hmem link hlink
        refine hnot ⟨hready, ⟨link, hl, hu, hbare⟩, hcritical, hmode, fun hlowest other hother => ?_⟩
        have hquickest : t.quickest = some link := hquick hlowest
        obtain rfl : other = link := Option.some.inj (hother.symm.trans hquickest)
        exact hbare
  · rintro ⟨hready, ⟨bare, hbare, hbareUsable, hbareNot⟩, hcritical, -, hquick⟩ hlowest
    rintro ⟨link, hlink, hlinkSocket⟩
    rcases hchoice with ⟨-, hone | hcritical' | hredundant⟩ | ⟨chosen, hchosen, hsingle, -, -, -, hmin⟩
    · -- there are at least two candidates
      have hcand : ∀ link ∈ t.scheduler.links, link.usable = true → link ∈ t.scheduler.candidates :=
        fun link hl hu => (mem_candidates hl hu).2 fun hready' => absurd hready' hready
      obtain ⟨only, honly⟩ := List.length_eq_one_iff.1 hone
      have hb := hcand bound hbound husable
      have hb' := hcand bare hbare hbareUsable
      rw [honly, List.mem_singleton] at hb hb'
      exact hbareNot (hb' ▸ hb ▸ hs)
    · exact absurd (hcritical.symm.trans hcritical') (by simp)
    · exact absurd (hlowest.symm.trans hredundant) (by simp)
    · rw [hsingle, List.mem_singleton] at hlink
      have hquickest : t.quickest = some chosen := hmin hlowest
      exact hquick hlowest chosen hquickest (hlink ▸ hlinkSocket)

end Turbobond.Bond.BondingTunnel
