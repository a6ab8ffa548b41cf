import Turbobond.Android.DatapathSteps

/-!
# The nonces of the datapath on Android

A nonce is the id of an uplink and a counter.  Ids are not used twice, but `nextCounter` increments
a volatile counter in two steps, and `tbond-tun` and `tbond-keepalive` both call it for the same
uplinks: a nonce is used twice if and only if an increment is lost.
-/

namespace Turbobond.Android.Datapath

/-- What was sealed, by nonce. -/
def nonces (out : List Bond.Effect) : List (ℕ × ℕ) :=
  (Bond.sends out).map fun sent => (sent.frame.linkId, sent.frame.counter)

/-- A thread that writes a counter back has read what the counter still is. -/
def Exclusive (d : Datapath) : Event → Prop
  | .transmit thread =>
    match d.senders thread with
    | ⟨.counted _ call counter, _⟩ =>
      d.phase = .crashed ∨ d.manager.made[call.uplink]?.map (·.counter) = some counter
    | _ => True
  | _ => True

/-- An uplink counts under its id. -/
def Counting (d : Datapath) (uplink l c : ℕ) : Prop :=
  ∃ u : PinnedUplink, d.manager.made[uplink]? = some u ∧ u.id.toNat = l ∧ u.counter.toNat = c

def Unmade (d : Datapath) (uplink : ℕ) : Prop := d.manager.made.length ≤ uplink

/-- What holds after some steps, of what was sealed and of the calls of `send` under way. -/
structure Counts (n : ℕ) (d : Datapath) (hist : List Bond.Effect) : Prop where
  ledger : Ledger d.Counting d.Unmade False ((Bond.sends hist).map Bond.Sealed.entry)
  short : ∀ thread, ∀ call ∈ (d.senders thread).pending, call.payload.length ≤ maxPayload
  le : ∀ (i : ℕ) (u : PinnedUplink), d.manager.made[i]? = some u → u.counter.toNat ≤ n
  read : ∀ thread type call counter calls, d.senders thread = ⟨.counted type call counter, calls⟩ →
    ∃ u : PinnedUplink, d.manager.made[call.uplink]? = some u ∧ counter.toNat ≤ u.counter.toNat

variable {d : Datapath}

lemma counts_start (sealer : Util.Sealer) (sessionId : BitVec 32) (address : Bond.Addr)
    (sequence : BitVec 64) : Counts 0 (start sealer sessionId address sequence) [] where
  ledger := .empty (by simp [Counting, start, UplinkManager.started])
  short := by simp [start, Sender.resting, Sender.pending]
  le := by simp [start, UplinkManager.started]
  read := by simp [start, Sender.resting]

/-- The uplinks count on where the counters stay. -/
lemma source_of_kept {m m' : UplinkManager} (h : m.Kept m') {d d' : Datapath} (hm : d.manager = m)
    (hm' : d'.manager = m') (uplink l c : ℕ) (hc : d'.Counting uplink l c) :
    Source d.Counting d.Unmade uplink l c := by
  obtain ⟨u', hu', hid, hcounter⟩ := hc
  rw [hm'] at hu'
  rcases h.new uplink u' hu' with ⟨u, hu, hid', hcounter'⟩ | ⟨hlength, hzero⟩
  · exact Or.inl ⟨u, by rw [hm]; exact hu, by rw [← hid']; exact hid, by rw [← hcounter']; exact hcounter⟩
  · refine Or.inr ⟨by rw [Unmade, hm]; exact hlength, ?_⟩
    rw [← hcounter, hzero]
    rfl

namespace Counts

variable {n : ℕ} {hist : List Bond.Effect}

/-- A step that counts nothing. -/
lemma quiet (h : Counts n d hist) {d' : Datapath} {out : List Bond.Effect}
    (hout : Bond.sends out = []) (hm : d.manager.Kept d'.manager)
    (hshort : ∀ thread, ∀ call ∈ (d'.senders thread).pending, call.payload.length ≤ maxPayload)
    (hread : ∀ thread type call counter calls,
      d'.senders thread = ⟨.counted type call counter, calls⟩ →
        ∃ u : PinnedUplink, d.manager.made[call.uplink]? = some u ∧ counter.toNat ≤ u.counter.toNat) :
    Counts (n + 1) d' (hist ++ out) := by
  refine ⟨?_, hshort, fun i u' hu' => ?_, fun thread type call counter calls hs => ?_⟩
  · rw [Bond.sends_append, hout, List.append_nil, ← List.append_nil (List.map _ _)]
    refine h.ledger.step (.idle (fun i hi => ?_) fun i l c hc => ?_) id
    · exact le_trans hm.length hi
    · exact source_of_kept hm rfl rfl i l c hc
  · rcases hm.new i u' hu' with ⟨u, hu, -, hcounter⟩ | ⟨-, hzero⟩
    · rw [hcounter]
      exact (h.le i u hu).trans (Nat.le_succ n)
    · rw [hzero]
      exact Nat.zero_le _
  · obtain ⟨u, hu, hle⟩ := hread thread type call counter calls hs
    obtain ⟨u', hu', -, hcounter⟩ := hm.old _ u hu
    exact ⟨u', hu', by rw [hcounter]; exact hle⟩

/-- A step of one thread that counts nothing. -/
lemma quiet_update (h : Counts n d hist) {d' : Datapath} {thread : Thread} {sender : Sender}
    (hm : d'.manager = d.manager) (hs : d'.senders = Function.update d.senders thread sender)
    (hshort : ∀ call ∈ sender.pending, call.payload.length ≤ maxPayload)
    (hread : ∀ type call counter calls, sender = ⟨.counted type call counter, calls⟩ →
      ∃ u : PinnedUplink, d.manager.made[call.uplink]? = some u ∧ counter.toNat ≤ u.counter.toNat) :
    Counts (n + 1) d' (hist ++ []) := by
  refine h.quiet rfl (by rw [hm]; exact .refl _) (fun t call hcall => ?_)
    fun t type call counter calls ht => ?_
  · rw [hs] at hcall
    by_cases heq : t = thread
    · subst heq
      rw [Function.update_self] at hcall
      exact hshort call hcall
    · rw [Function.update_of_ne heq] at hcall
      exact h.short t call hcall
  · rw [hs] at ht
    by_cases heq : t = thread
    · subst heq
      rw [Function.update_self] at ht
      exact hread type call counter calls ht
    · rw [Function.update_of_ne heq] at ht
      exact h.read t type call counter calls ht

/-- What is sealed under the counter that an uplink has. -/
lemma transmit (h : Counts n d hist) (hn : n + 1 < 2 ^ 64) {d' : Datapath} {thread : Thread}
    {type : FrameType} {call : Call} {calls : List Call} {u : PinnedUplink}
    {datagram : Bytes} (hsender : d.senders thread = ⟨.counted type call u.counter, calls⟩)
    (hu : d.manager.made[call.uplink]? = some u)
    (hm : d'.manager = d.manager.update call.uplink fun u' => { u' with counter := u.counter + 1 })
    (hs : d'.senders = Function.update d.senders thread ⟨.idle, calls⟩) :
    Counts (n + 1) d' (hist ++
      [.send { holder := call.uplink, datagram, addr := d.address,
               frame := (d.frame type call u.id (u.counter + 1)).toBond }]) := by
  have hle := h.le _ u hu
  have hnext : (u.counter + 1).toNat = u.counter.toNat + 1 := by
    rw [BitVec.toNat_add_of_lt]
    · rfl
    · exact lt_of_le_of_lt (Nat.add_le_add_right hle 1) hn
  have hmade : ∀ (i : ℕ) (u' : PinnedUplink), d'.manager.made[i]? = some u' →
      i ≠ call.uplink ∧ d.manager.made[i]? = some u' ∨
        i = call.uplink ∧ u' = { u with counter := u.counter + 1 } := by
    intro i u' hu'
    rw [hm, UplinkManager.get?_update] at hu'
    split_ifs at hu' with hi
    · subst hi
      rw [hu] at hu'
      exact Or.inr ⟨rfl, (Option.some.inj hu').symm⟩
    · exact Or.inl ⟨Ne.symm hi, hu'⟩
  have hentry : (Bond.sends [.send { holder := call.uplink, datagram, addr := d.address,
                                     frame := (d.frame type call u.id (u.counter + 1)).toBond }]).map
      Bond.Sealed.entry = [⟨call.uplink, u.id.toNat, u.counter.toNat + 1⟩] := by
    rw [← hnext]
    rfl
  refine ⟨?_, fun t c hc => ?_, fun i u' hu' => ?_, fun t type' call' counter' calls' ht => ?_⟩
  · rw [Bond.sends_append, List.map_append]
    refine h.ledger.step (.single (h := call.uplink) (l := u.id.toNat) (c := u.counter.toNat)
      (Or.inl ⟨u, hu, rfl, rfl⟩) (Or.inr hentry) (fun i hi => ?_) fun i l c hc => ?_) id
    · rw [Unmade, hm, UplinkManager.length_update] at hi
      refine ⟨hi, ?_⟩
      rintro rfl
      exact absurd (List.getElem?_eq_some_iff.1 hu).1 (not_lt.2 hi)
    · obtain ⟨u', hu', hid, hcounter⟩ := hc
      rcases hmade i u' hu' with ⟨hne, hold⟩ | ⟨rfl, rfl⟩
      · exact Or.inl ⟨⟨u', hold, hid, hcounter⟩, hne⟩
      · refine Or.inr ⟨rfl, hid.symm, Or.inr ⟨hcounter.symm.trans hnext, Or.inl hentry⟩⟩
  · rw [hs] at hc
    by_cases heq : t = thread
    · subst heq
      rw [Function.update_self] at hc
      refine h.short t c ?_
      rw [hsender]
      exact List.mem_cons_of_mem _ hc
    · rw [Function.update_of_ne heq] at hc
      exact h.short t c hc
  · rcases hmade i u' hu' with ⟨-, hold⟩ | ⟨rfl, rfl⟩
    · exact (h.le i u' hold).trans (Nat.le_succ n)
    · rw [hnext]
      exact Nat.add_le_add_right hle 1
  · rw [hs] at ht
    by_cases heq : t = thread
    · subst heq
      rw [Function.update_self] at ht
      exact absurd (congrArg Sender.stage ht) (by simp)
    · rw [Function.update_of_ne heq] at ht
      obtain ⟨u₁, hu₁, hle₁⟩ := h.read t type' call' counter' calls' ht
      rw [hm, UplinkManager.get?_update]
      split_ifs with hi
      · rw [← hi, hu] at hu₁
        obtain rfl := Option.some.inj hu₁
        exact ⟨_, by rw [← hi, hu]; rfl, hle₁.trans (by rw [hnext]; exact Nat.le_succ _)⟩
      · exact ⟨u₁, hu₁, hle₁⟩

/-- One step in which no increment is lost. -/
theorem step (h : Counts n d hist) (hn : n + 1 < 2 ^ 64) {e : Event} (he : d.Exclusive e) :
    Counts (n + 1) (d.step e).2 (hist ++ (d.step e).1) := by
  by_cases hcrashed : d.phase = .crashed
  · have hstep : d.step e = ([], d) := by rw [Datapath.step.eq_def, if_pos hcrashed]
    rw [hstep]
    exact h.quiet rfl (.refl _) h.short h.read
  obtain ⟨out, d', heq, hturn⟩ := d.exists_turn e
  rw [heq]
  cases hturn with
  | rest hm hs hq hr =>
    exact h.quiet rfl hm.kept (fun t => by rw [hs]; exact h.short t) fun t => by
      rw [hs]
      exact h.read t
  | greet hrest hcalls =>
    refine h.quiet_update rfl rfl (fun call hcall => ?_) (by simp)
    rw [(hcalls call hcall).2]
    exact Nat.zero_le _
  | number hpacket hrunning hrest hcalls hm hs hq hr =>
    refine h.quiet_update hm hs (fun call hcall => ?_) (by simp)
    rw [(hcalls call hcall).2.2, hpacket.1]
    exact (List.length_take_le _ _).trans (by decide)
  | call op hop hcall hm hs hq hr =>
    exact h.quiet (Bond.sends_write _ _) hm.kept (fun t => by rw [hs]; exact h.short t) fun t => by
      rw [hs]
      exact h.read t
  | @enter thread call calls hsender type htype =>
    refine h.quiet_update rfl rfl (fun call' hcall => h.short thread call' ?_) (by simp)
    rw [hsender]
    exact hcall
  | @count thread _ _ _ _ hsender hu =>
    refine h.quiet_update rfl rfl (fun call hcall => h.short thread call ?_) ?_
    · rw [hsender]
      exact hcall
    · intro type call counter calls heq
      obtain ⟨hstage, -⟩ := Sender.mk.inj heq
      obtain ⟨-, rfl, rfl⟩ := Stage.counted.inj hstage
      exact ⟨_, hu, le_rfl⟩
  | @transmit thread type call counter calls u _ _ hsender hu hm hs hq hr hsent =>
    rw [Exclusive, hsender] at he
    rcases he with he | he
    · exact absurd he hcrashed
    rw [hu] at he
    obtain rfl := Option.some.inj he
    rcases hsent with ⟨-, hlong⟩ | ⟨-, datagram, -, rfl⟩
    · have hshort := h.short thread call (by rw [hsender]; exact List.mem_cons_self)
      exact absurd hshort (not_le.2 hlong)
    · exact h.transmit hn hsender hu hm hs

/-- What `transmit` seals. -/
lemma sends_transmit (hcrashed : d.phase ≠ .crashed) {thread : Thread} {type : FrameType} {call : Call}
    {counter : BitVec 64} {calls : List Call} {u : PinnedUplink}
    (hsender : d.senders thread = ⟨.counted type call counter, calls⟩)
    (hu : d.manager.made[call.uplink]? = some u) (hshort : call.payload.length ≤ maxPayload) :
    nonces (d.step (.transmit thread)).1 = [(u.id.toNat, (counter + 1).toNat)] := by
  have hok : ∃ datagram, encode d.sealer (d.frame type call u.id (counter + 1)) = .ok datagram :=
    ⟨_, if_neg (not_lt.2 hshort)⟩
  obtain ⟨datagram, hok⟩ := hok
  rw [Datapath.step.eq_def, if_neg hcrashed]
  simp only [Datapath.transmit, hsender, hu, setSender_sealer, hok]
  rfl

/-- A lost increment uses a nonce again. -/
lemma exclusive_of_nodup (h : Counts n d hist) (hn : n + 1 < 2 ^ 64) {e : Event}
    (hnodup : (nonces (hist ++ (d.step e).1)).Nodup) : d.Exclusive e := by
  by_contra hlost
  cases e with
  | transmit thread =>
    rw [Exclusive] at hlost
    split at hlost
    · rename_i type call counter calls hsender
      rw [not_or] at hlost
      obtain ⟨u, hu, hle⟩ := h.read thread type call counter calls hsender
      have hne : u.counter ≠ counter := fun heq => hlost.2 (by rw [hu, ← heq]; rfl)
      have hlt : counter.toNat < u.counter.toNat :=
        lt_of_le_of_ne hle fun heq => hne (BitVec.eq_of_toNat_eq heq.symm)
      have hshort := h.short thread call (by rw [hsender]; exact List.mem_cons_self)
      have hnext : (counter + 1).toNat = counter.toNat + 1 := by
        have hbound := h.le _ u hu
        rw [BitVec.toNat_add_of_lt]
        · rfl
        · change counter.toNat + 1 < 2 ^ 64
          omega
      -- the number that is written back has been handed out before
      have hold := h.ledger.full id call.uplink u.id.toNat u.counter.toNat ⟨u, hu, rfl, rfl⟩
        (counter.toNat + 1) (Nat.succ_le_succ (Nat.zero_le _)) hlt
      obtain ⟨sent, hsent, hentry⟩ := List.mem_map.1 hold
      have hmem : (u.id.toNat, (counter + 1).toNat) ∈ nonces hist := by
        refine List.mem_map.2 ⟨sent, hsent, ?_⟩
        rw [hnext, show sent.frame.linkId = _ from congrArg Entry.label hentry,
          show sent.frame.counter = _ from congrArg Entry.number hentry]
      rw [nonces, Bond.sends_append, List.map_append] at hnodup
      refine List.disjoint_of_nodup_append hnodup hmem ?_
      rw [← nonces, sends_transmit hlost.1 hsender hu hshort]
      exact List.mem_cons_self
    · exact hlost trivial
  | _ => exact hlost trivial

end Counts

/-! ### Runs -/

lemma run_concat (events : List Event) (e : Event) (d : Datapath) :
    run (events ++ [e]) d =
      ((run events d).1 ++ ((run events d).2.step e).1, ((run events d).2.step e).2) :=
  Machine.run_concat step events e d

/-- An uplink that has sealed something has been made, and its id is that of its place. -/
structure Made (d : Datapath) (hist : List Bond.Effect) : Prop where
  tracks : d.manager.Tracks
  made : ∀ sent ∈ Bond.sends hist, sent.holder < d.manager.made.length ∧
    sent.frame.linkId = (sent.holder + 1) % 2 ^ 32 ∧ sent.frame.counter < 2 ^ 64

lemma Made.step {hist : List Bond.Effect} (h : Made d hist) (e : Event) :
    Made (d.step e).2 (hist ++ (d.step e).1) := by
  refine ⟨tracks_step h.tracks e, fun sent hsent => ?_⟩
  rw [Bond.sends_append, List.mem_append] at hsent
  rcases hsent with hsent | hsent
  · obtain ⟨hlt, hid⟩ := h.made sent hsent
    exact ⟨hlt.trans_le (d.length_made_step e), hid⟩
  · obtain ⟨_, _, call, _, _, u, -, -, hu, hholder, hframe, -⟩ := sends_step hsent
    rw [hholder]
    refine ⟨(List.getElem?_eq_some_iff.1 hu).1.trans_le (d.length_made_step e), ?_⟩
    rw [hframe]
    refine ⟨?_, BitVec.isLt _⟩
    change u.id.toNat = _
    rw [h.tracks.ids _ u hu, BitVec.toNat_ofNat]

lemma made_run (sealer : Util.Sealer) (sessionId : BitVec 32) (address : Bond.Addr)
    (sequence : BitVec 64) (events : List Event) :
    Made (run events (start sealer sessionId address sequence)).2
      (run events (start sealer sessionId address sequence)).1 :=
  Machine.run_invariant_nil step (I := Made) (fun _ _ e h => h.step e) events
    ⟨.started, by simp⟩

/-- What the concentrator answers to the first handshake. -/
def acknowledgement : Bytes :=
  Bond.datagram ⟨Util.Aead.plain⟩
    { type := .handshakeAck, sessionId := 7, linkId := 1, counter := 1 }

/-- A packet while a greeting is half sent: its thread has read the counter before the first, and
writes it back after it. -/
def lostIncrement : List Event :=
  [.available 0 "wifi" true true, .pairRound, .enter .pair, .count .pair, .transmit .pair,
    .pairRead 0 acknowledgement 1000 true,
    .keepaliveRound, .enter .keepalive, .count .keepalive, .tunRead [1], .enter .tun, .count .tun,
    .transmit .tun, .transmit .keepalive]

end Turbobond.Android.Datapath
