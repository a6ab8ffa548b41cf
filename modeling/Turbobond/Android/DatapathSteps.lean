import Turbobond.Android.Datapath

/-!
# What a step of the datapath on Android does

A step is described by what it does to the uplinks, to the calls of `send` that the threads still
have to make, and to the reorder buffer.
-/

namespace Turbobond.Android

/-- The calls of `send` that a thread has not finished. -/
def Sender.pending : Sender → List Call
  | ⟨.idle, calls⟩ => calls
  | ⟨.called _ call, calls⟩ => call :: calls
  | ⟨.counted _ call _, calls⟩ => call :: calls

/-- The type of the frame of the call under way is the one asked for, or a greeting's. -/
def Sender.Typed : Sender → Prop
  | ⟨.idle, _⟩ => True
  | ⟨.called type call, _⟩ => call.type = some type ∨ type ≠ .data
  | ⟨.counted type call _, _⟩ => call.type = some type ∨ type ≠ .data

namespace UplinkManager

/-- What a thread does to the uplinks, but for counting. -/
inductive Changes : UplinkManager → UplinkManager → Prop
  | refl (m : UplinkManager) : Changes m m
  | trans {m m' m'' : UplinkManager} : Changes m m' → Changes m' m'' → Changes m m''
  | update (m : UplinkManager) (uplink : ℕ) {f : PinnedUplink → PinnedUplink}
      (hid : ∀ u, (f u).id = u.id) (hcounter : ∀ u, (f u).counter = u.counter)
      (hnetwork : ∀ u, (f u).network = u.network) (hclosed : ∀ u, (f u).closed = u.closed) :
      Changes m (m.update uplink f)
  | available (m : UplinkManager) (network : ℕ) (label : String) (protectedOk boundOk : Bool) :
      Changes m (m.onAvailable network label protectedOk boundOk)
  | lost (m : UplinkManager) (network : ℕ) : Changes m (m.onLost network)
  | stop (m : UplinkManager) : Changes m m.stop

lemma Changes.tracks {m m' : UplinkManager} (h : Changes m m') (hm : m.Tracks) : m'.Tracks := by
  induction h with
  | refl => exact hm
  | trans _ _ ih ih' => exact ih' (ih hm)
  | update m uplink hid _ hnetwork hclosed => exact hm.update hid hnetwork hclosed uplink
  | available m network label protectedOk boundOk => exact hm.onAvailable _ _ _ _
  | lost m network => exact hm.onLost network
  | stop m => exact hm.stop

/-- The uplinks stay, each with its id and its counter, and new ones have counted nothing. -/
structure Kept (m m' : UplinkManager) : Prop where
  old : ∀ (i : ℕ) (u : PinnedUplink), m.made[i]? = some u →
    ∃ u' : PinnedUplink, m'.made[i]? = some u' ∧ u'.id = u.id ∧ u'.counter = u.counter
  new : ∀ (i : ℕ) (u' : PinnedUplink), m'.made[i]? = some u' →
    (∃ u : PinnedUplink, m.made[i]? = some u ∧ u'.id = u.id ∧ u'.counter = u.counter) ∨
      m.made.length ≤ i ∧ u'.counter = 0
  length : m.made.length ≤ m'.made.length

namespace Kept

variable {m m' m'' : UplinkManager}

lemma trans (h : Kept m m') (h' : Kept m' m'') : Kept m m'' := by
  refine ⟨fun i u hu => ?_, fun i u'' hu'' => ?_, h.length.trans h'.length⟩
  · obtain ⟨u', hu', hid, hcounter⟩ := h.old i u hu
    obtain ⟨u'', hu'', hid', hcounter'⟩ := h'.old i u' hu'
    exact ⟨u'', hu'', hid'.trans hid, hcounter'.trans hcounter⟩
  · rcases h'.new i u'' hu'' with ⟨u', hu', hid', hcounter'⟩ | ⟨hlength, hcounter⟩
    · rcases h.new i u' hu' with ⟨u, hu, hid, hcounter⟩ | ⟨hlength, hcounter⟩
      · exact Or.inl ⟨u, hu, hid'.trans hid, hcounter'.trans hcounter⟩
      · exact Or.inr ⟨hlength, hcounter'.trans hcounter⟩
    · exact Or.inr ⟨h.length.trans hlength, hcounter⟩

/-- Changes of the other fields. -/
lemma of_get? {f : ℕ → PinnedUplink → PinnedUplink} (hid : ∀ i u, (f i u).id = u.id)
    (hcounter : ∀ i u, (f i u).counter = u.counter)
    (h : ∀ i, m'.made[i]? = m.made[i]?.map (f i)) : Kept m m' := by
  refine ⟨fun i u hu => ⟨f i u, by rw [h, hu]; rfl, hid i u, hcounter i u⟩, fun i u' hu' => ?_, ?_⟩
  · rw [h] at hu'
    obtain ⟨u, hu, rfl⟩ := Option.map_eq_some_iff.1 hu'
    exact Or.inl ⟨u, hu, hid i u, hcounter i u⟩
  · by_contra hlt
    have hnone := h m'.made.length
    rw [List.getElem?_eq_none le_rfl, List.getElem?_eq_getElem (not_le.1 hlt)] at hnone
    exact absurd hnone (by simp)

lemma refl (m : UplinkManager) : Kept m m :=
  of_get? (f := fun _ u => u) (fun _ _ => rfl) (fun _ _ => rfl) (by simp)

lemma update {f : PinnedUplink → PinnedUplink} (hid : ∀ u, (f u).id = u.id)
    (hcounter : ∀ u, (f u).counter = u.counter) (m : UplinkManager) (uplink : ℕ) :
    Kept m (m.update uplink f) := by
  refine of_get? (f := fun i u => if uplink = i then f u else u) (fun i u => ?_) (fun i u => ?_)
    fun i => ?_
  · split_ifs
    · exact hid u
    · rfl
  · split_ifs
    · exact hcounter u
    · rfl
  · rw [get?_update]
    split_ifs
    · rfl
    · simp

lemma available (m : UplinkManager) (network : ℕ) (label : String) (protectedOk boundOk : Bool) :
    Kept m (m.onAvailable network label protectedOk boundOk) := by
  rw [UplinkManager.onAvailable]
  split_ifs
  · exact refl m
  · exact refl m
  · exact refl m
  refine ⟨fun i u hu => ⟨u, ?_, rfl, rfl⟩, fun i u' hu' => ?_, ?_⟩
  · rw [List.getElem?_append_left (List.getElem?_eq_some_iff.1 hu).1]
    exact hu
  · rcases Nat.lt_or_ge i m.made.length with hlt | hge
    · rw [List.getElem?_append_left hlt] at hu'
      exact Or.inl ⟨u', hu', rfl, rfl⟩
    · rw [List.getElem?_append_right hge] at hu'
      have hmem := List.mem_of_getElem? hu'
      rw [List.mem_singleton.1 hmem]
      exact Or.inr ⟨hge, rfl⟩
  · rw [List.length_append]
    exact Nat.le_add_right _ _

lemma lost (m : UplinkManager) (network : ℕ) : Kept m (m.onLost network) := by
  rw [UplinkManager.onLost]
  cases m.byNetwork.get? network with
  | none => exact refl m
  | some uplink =>
    have hclose : Kept m (m.close uplink) :=
      update (f := fun u => { u with closed := true }) (fun _ => rfl) (fun _ => rfl) m uplink
    exact ⟨hclose.old, hclose.new, hclose.length⟩

lemma stop (m : UplinkManager) : Kept m m.stop := by
  refine of_get? (f := fun i u => if i ∈ m.byNetwork.values then { u with closed := true } else u)
    (fun i u => ?_) (fun i u => ?_) fun i => get?_foldl_close _ _ i
  · split_ifs
    · rfl
    · rfl
  · split_ifs
    · rfl
    · rfl

end Kept

lemma Changes.kept {m m' : UplinkManager} (h : Changes m m') : Kept m m' := by
  induction h with
  | refl m => exact .refl m
  | trans _ _ ih ih' => exact ih.trans ih'
  | update m uplink hid hcounter _ _ => exact .update hid hcounter m uplink
  | available m network label protectedOk boundOk => exact .available m _ _ _ _
  | lost m network => exact .lost m network
  | stop m => exact .stop m

end UplinkManager

namespace Datapath

variable {d : Datapath}

lemma resting_iff {thread : Thread} : d.Resting thread = true ↔ d.senders thread = .resting := by
  rw [Resting]
  split
  · rename_i heq
    exact iff_of_true rfl heq
  · rename_i hne
    exact iff_of_false (by simp) hne

@[simp] lemma setSender_senders (d : Datapath) (thread : Thread) (sender : Sender) :
    (d.setSender thread sender).senders = Function.update d.senders thread sender := rfl

@[simp] lemma setSender_sealer (d : Datapath) (thread : Thread) (sender : Sender) :
    (d.setSender thread sender).sealer = d.sealer := rfl

@[simp] lemma setSender_manager (d : Datapath) (thread : Thread) (sender : Sender) :
    (d.setSender thread sender).manager = d.manager := rfl

/-- What one step does. -/
inductive Turn (d : Datapath) : Event → List Bond.Effect → Datapath → Prop
  /-- The threads have nothing more to send. -/
  | rest {e : Event} {d' : Datapath} (hm : d.manager.Changes d'.manager) (hs : d'.senders = d.senders)
      (hq : d'.sequence = d.sequence ∧ d'.cursor = d.cursor) (hr : d'.reorder = d.reorder) :
      Turn d e [] d'
  /-- A round of greetings begins. -/
  | greet {e : Event} {thread : Thread} {calls : List Call}
      (hrest : d.senders thread = .resting)
      (hcalls : ∀ call ∈ calls, call.type ≠ some .data ∧ call.payload = []) :
      Turn d e [] (d.setSender thread ⟨.idle, calls⟩)
  /-- A packet is numbered. -/
  | number {data packet : Bytes} {calls : List Call} {d' : Datapath}
      (hpacket : packet = data.take (mtu + 128) ∧ packet ≠ [])
      (hrunning : d.phase = .running ∧ d.links ≠ []) (hrest : d.senders .tun = .resting)
      (hcalls : ∀ call ∈ calls, call.type = some .data ∧ call.seq = d.sequence ∧
        call.payload = packet)
      (hm : d'.manager = d.manager)
      (hs : d'.senders = Function.update d.senders .tun ⟨.idle, calls⟩)
      (hq : d'.sequence = d.sequence + 1 ∧ d'.cursor = d.cursor + 1) (hr : d'.reorder = d.reorder) :
      Turn d (.tunRead data) [] d'
  /-- The reorder buffer is called. -/
  | call {e : Event} {d' : Datapath} (op : ReorderBuffer.Op Bytes)
      (hop : (∃ now, e = .netTick now ∧ op = .tick now) ∨
        ∃ uplink data now f, e = .netRead uplink data now ∧ decode d.sealer data = some f ∧
          f.type = .data ∧ f.payload ≠ [] ∧ op = .push f.seq.toInt f.payload now)
      {r : List (ℤ × Bytes) × ReorderBuffer Bytes} (hcall : d.reorder.call op = .ok r)
      (hm : d.manager.Changes d'.manager) (hs : d'.senders = d.senders)
      (hq : d'.sequence = d.sequence ∧ d'.cursor = d.cursor) (hr : d'.reorder = r.2) :
      Turn d e (r.1.map fun e => .write d.sessionId.toNat e.2) d'
  | enter {thread : Thread} {call : Call} {calls : List Call}
      (hsender : d.senders thread = ⟨.idle, call :: calls⟩) (type : FrameType)
      (htype : call.type = some type ∨ type ≠ .data) :
      Turn d (.enter thread) [] (d.setSender thread ⟨.called type call, calls⟩)
  | count {thread : Thread} {type : FrameType} {call : Call} {calls : List Call} {u : PinnedUplink}
      (hsender : d.senders thread = ⟨.called type call, calls⟩)
      (hu : d.manager.made[call.uplink]? = some u) :
      Turn d (.count thread) [] (d.setSender thread ⟨.counted type call u.counter, calls⟩)
  | transmit {thread : Thread} {type : FrameType} {call : Call} {counter : BitVec 64}
      {calls : List Call} {u : PinnedUplink} {out : List Bond.Effect} {d' : Datapath}
      (hsender : d.senders thread = ⟨.counted type call counter, calls⟩)
      (hu : d.manager.made[call.uplink]? = some u)
      (hm : d'.manager = d.manager.update call.uplink fun u => { u with counter := counter + 1 })
      (hs : d'.senders = Function.update d.senders thread ⟨.idle, calls⟩)
      (hq : d'.sequence = d.sequence ∧ d'.cursor = d.cursor) (hr : d'.reorder = d.reorder)
      (hout : out = [] ∧ maxPayload < call.payload.length ∨ call.payload.length ≤ maxPayload ∧
        ∃ datagram, encode d.sealer (d.frame type call u.id (counter + 1)) = .ok datagram ∧
          out = [.send { holder := call.uplink, datagram, addr := d.address,
                         frame := (d.frame type call u.id (counter + 1)).toBond }]) :
      Turn d (.transmit thread) out d'

/-- A step that leaves the datapath alone. -/
lemma Turn.same (d : Datapath) (e : Event) : Turn d e [] d := .rest (.refl _) rfl ⟨rfl, rfl⟩ rfl

lemma changes_stopTunnel (d : Datapath) : d.manager.Changes d.stopTunnel.manager := by
  rw [stopTunnel]
  split_ifs
  · exact .stop _
  · exact .refl _

lemma stopTunnel_fields (d : Datapath) : d.stopTunnel.senders = d.senders ∧
    (d.stopTunnel.sequence = d.sequence ∧ d.stopTunnel.cursor = d.cursor) ∧
      d.stopTunnel.reorder = d.reorder := by
  rw [stopTunnel]
  split_ifs
  · exact ⟨rfl, ⟨rfl, rfl⟩, rfl⟩
  · exact ⟨rfl, ⟨rfl, rfl⟩, rfl⟩

lemma turn_stopTunnel {d₁ : Datapath} (e : Event) (hm : d.manager.Changes d₁.manager)
    (hs : d₁.senders = d.senders) (hq : d₁.sequence = d.sequence ∧ d₁.cursor = d.cursor)
    (hr : d₁.reorder = d.reorder) : Turn d e [] d₁.stopTunnel := by
  obtain ⟨hs', ⟨hq', hc'⟩, hr'⟩ := d₁.stopTunnel_fields
  exact .rest (hm.trans d₁.changes_stopTunnel) (hs'.trans hs) ⟨hq'.trans hq.1, hc'.trans hq.2⟩
    (hr'.trans hr)

/-- What the reorder buffer returns is written. -/
lemma turn_resequence {e : Event} {d₁ : Datapath} (op : ReorderBuffer.Op Bytes)
    (hop : (∃ now, e = .netTick now ∧ op = .tick now) ∨
      ∃ uplink data now f, e = .netRead uplink data now ∧ decode d.sealer data = some f ∧
        f.type = .data ∧ f.payload ≠ [] ∧ op = .push f.seq.toInt f.payload now)
    (hm : d.manager.Changes d₁.manager) (hs : d₁.senders = d.senders)
    (hq : d₁.sequence = d.sequence ∧ d₁.cursor = d.cursor) (hr : d₁.reorder = d.reorder)
    (hid : d₁.sessionId = d.sessionId) :
    Turn d e (d₁.resequence (d.reorder.call op)).1 (d₁.resequence (d.reorder.call op)).2 := by
  cases hcall : d.reorder.call op with
  | error thrown => exact .rest hm hs hq hr
  | ok r =>
    rw [resequence, hid]
    exact .call op hop hcall hm hs hq rfl

lemma turn_pumpTun (hrunning : d.phase = .running) (hrest : d.senders .tun = .resting)
    (data : Bytes) :
    Turn d (.tunRead data) [] (d.pumpTun (data.take (mtu + 128))) := by
  rw [pumpTun]
  by_cases hnone : data.take (mtu + 128) = [] ∨ d.links = []
  · rw [if_pos hnone]
    exact .same d _
  rw [if_neg hnone]
  rw [not_or] at hnone
  -- a packet that is numbered and then crashes the thread has no calls
  have hkeep : Function.update d.senders .tun ⟨.idle, []⟩ = d.senders :=
    Function.update_eq_self_iff.2 hrest.symm
  simp only
  split
  · exact .number ⟨rfl, hnone.1⟩ ⟨hrunning, hnone.2⟩ hrest (List.forall_mem_nil _) rfl hkeep.symm
      ⟨rfl, rfl⟩ rfl
  split
  · exact .number ⟨rfl, hnone.1⟩ ⟨hrunning, hnone.2⟩ hrest (List.forall_mem_nil _) rfl hkeep.symm
      ⟨rfl, rfl⟩ rfl
  · refine .number ⟨rfl, hnone.1⟩ ⟨hrunning, hnone.2⟩ hrest (fun call hcall => ?_) rfl rfl
      ⟨rfl, rfl⟩ rfl
    obtain ⟨link, -, rfl⟩ := List.mem_map.1 hcall
    exact ⟨rfl, rfl, rfl⟩

lemma received_eq_some {uplink : ℕ} {data : Bytes} {f : Frame} (h : d.received uplink data = some f) :
    decode d.sealer data = some f := by
  rw [received] at h
  split at h
  · exact absurd h (by simp)
  · split_ifs at h
    exact h

lemma turn_pumpNetwork (d : Datapath) (uplink : ℕ) (data : Bytes) (now : ℤ) :
    Turn d (.netRead uplink data now) (d.pumpNetwork uplink data now).1
      (d.pumpNetwork uplink data now).2 := by
  rw [pumpNetwork]
  cases hf : d.received uplink data with
  | none => exact .same d _
  | some f =>
    have hseen : d.manager.Changes (d.manager.update uplink fun u => { u with lastSeen := now }) :=
      .update _ _ (fun _ => rfl) (fun _ => rfl) (fun _ => rfl) fun _ => rfl
    simp only
    cases htype : f.type with
    | handshakeAck =>
      exact .rest (hseen.trans (.update _ _ (f := fun u => { u with acked := true }) (fun _ => rfl)
        (fun _ => rfl) (fun _ => rfl) fun _ => rfl)) rfl ⟨rfl, rfl⟩ rfl
    | data =>
      simp only
      split_ifs with hempty
      · exact .rest hseen rfl ⟨rfl, rfl⟩ rfl
      · exact turn_resequence (.push f.seq.toInt f.payload now)
          (Or.inr ⟨uplink, data, now, f, rfl, received_eq_some hf, htype, hempty, rfl⟩) hseen
          rfl ⟨rfl, rfl⟩ rfl rfl
    | keepalive => exact .rest hseen rfl ⟨rfl, rfl⟩ rfl
    | handshake => exact .rest hseen rfl ⟨rfl, rfl⟩ rfl
    | linkStats => exact .rest hseen rfl ⟨rfl, rfl⟩ rfl
    | close => exact .rest hseen rfl ⟨rfl, rfl⟩ rfl

lemma turn_pairRead (d : Datapath) (uplink : ℕ) (data : Bytes) (now : ℤ) (granted : Bool) :
    Turn d (.pairRead uplink data now granted) [] (d.pairRead uplink data now granted) := by
  rw [pairRead]
  have hack : d.manager.Changes
      (d.manager.update uplink fun u => { u with acked := true, lastSeen := now }) :=
    .update _ _ (fun _ => rfl) (fun _ => rfl) (fun _ => rfl) fun _ => rfl
  cases d.received uplink data with
  | none => exact .same d _
  | some f =>
    simp only
    split_ifs
    · exact .rest hack rfl ⟨rfl, rfl⟩ rfl
    · exact turn_stopTunnel _ hack rfl ⟨rfl, rfl⟩ rfl
    · exact .same d _

lemma turn_enter (d : Datapath) (thread : Thread) :
    Turn d (.enter thread) [] (d.enter thread) := by
  rw [enter]
  split
  · rename_i call calls hsender
    refine .enter hsender _ ?_
    cases call.type with
    | some type => exact Or.inl rfl
    | none =>
      right
      change (if d.acked call.uplink then FrameType.keepalive else .handshake) ≠ .data
      split_ifs <;> decide
  · exact .same d _

lemma turn_count (d : Datapath) (thread : Thread) :
    Turn d (.count thread) [] (d.count thread) := by
  rw [count]
  split
  · rename_i type call calls hsender
    split
    · exact .same d _
    · rename_i u hu
      exact .count hsender hu
  · exact .same d _

lemma turn_transmit (d : Datapath) (thread : Thread) :
    Turn d (.transmit thread) (d.transmit thread).1 (d.transmit thread).2 := by
  rw [transmit]
  split
  · rename_i type call counter calls hsender
    split
    · exact .same d _
    · rename_i u hu
      simp only [setSender_sealer, setSender_manager]
      by_cases hlength : maxPayload < call.payload.length
      · have herror : ∃ message, encode d.sealer (d.frame type call u.id (counter + 1)) =
            .error message := ⟨_, if_pos hlength⟩
        obtain ⟨message, herror⟩ := herror
        rw [herror]
        exact .transmit hsender hu rfl rfl ⟨rfl, rfl⟩ rfl (Or.inl ⟨rfl, hlength⟩)
      · have hok : ∃ datagram, encode d.sealer (d.frame type call u.id (counter + 1)) =
            .ok datagram := ⟨_, if_neg hlength⟩
        obtain ⟨datagram, hok⟩ := hok
        rw [hok]
        exact .transmit hsender hu rfl rfl ⟨rfl, rfl⟩ rfl
          (Or.inr ⟨not_lt.1 hlength, datagram, hok, rfl⟩)
  · exact .same d _

/-- **Steps.**  What one step does. -/
theorem turn_step (d : Datapath) (e : Event) : Turn d e (d.step e).1 (d.step e).2 := by
  rw [step.eq_def]
  by_cases hcrashed : d.phase = .crashed
  · rw [if_pos hcrashed]
    exact .same d e
  rw [if_neg hcrashed]
  cases e with
  | available network label protectedOk boundOk =>
    simp only
    split_ifs
    · exact .rest (.available _ _ _ _ _) rfl ⟨rfl, rfl⟩ rfl
    · exact .same d _
  | lost network =>
    simp only
    split_ifs
    · exact .rest (.lost _ _) rfl ⟨rfl, rfl⟩ rfl
    · exact .same d _
  | pairRound =>
    simp only
    split_ifs with h
    · refine .greet (resting_iff.1 h.2) fun call hcall => ?_
      obtain ⟨link, -, rfl⟩ := List.mem_map.1 hcall
      exact ⟨by simp, rfl⟩
    · exact .same d _
  | pairRead uplink data now granted =>
    simp only
    split_ifs
    · exact turn_pairRead d uplink data now granted
    · exact .same d _
  | pairTimedOut =>
    simp only
    split_ifs
    · exact turn_stopTunnel _ (.refl _) rfl ⟨rfl, rfl⟩ rfl
    · exact .same d _
  | tunRead data =>
    simp only
    split_ifs with h
    · exact turn_pumpTun h.1 (resting_iff.1 h.2) data
    · exact .same d _
  | netRead uplink data now =>
    simp only
    split_ifs
    · exact turn_pumpNetwork d uplink data now
    · exact .same d _
  | netTick now =>
    simp only
    split_ifs
    · exact turn_resequence (.tick now) (Or.inl ⟨now, rfl, rfl⟩) (.refl _) rfl ⟨rfl, rfl⟩ rfl rfl
    · exact .same d _
  | keepaliveRound =>
    simp only
    split_ifs with h
    · refine .greet (resting_iff.1 h.2) fun call hcall => ?_
      obtain ⟨link, -, rfl⟩ := List.mem_map.1 hcall
      exact ⟨by simp, rfl⟩
    · exact .same d _
  | watchdog now =>
    simp only
    split_ifs
    · exact turn_stopTunnel _ (.refl _) rfl ⟨rfl, rfl⟩ rfl
    · exact .same d _
  | enter thread => exact turn_enter d thread
  | count thread => exact turn_count d thread
  | transmit thread => exact turn_transmit d thread
  | stop => exact turn_stopTunnel _ (.refl _) rfl ⟨rfl, rfl⟩ rfl

lemma exists_turn (d : Datapath) (e : Event) : ∃ out d', d.step e = (out, d') ∧ Turn d e out d' :=
  ⟨_, _, rfl, turn_step d e⟩

/-- What was sealed was asked for in a call of `send`. -/
lemma sends_step {e : Event} {sent : Bond.Sealed} (h : sent ∈ Bond.sends (d.step e).1) :
    ∃ (thread : Thread) (type : FrameType) (call : Call) (counter : BitVec 64) (calls : List Call)
      (u : PinnedUplink), e = .transmit thread ∧
        d.senders thread = ⟨.counted type call counter, calls⟩ ∧
        d.manager.made[call.uplink]? = some u ∧ sent.holder = call.uplink ∧
        sent.frame = (d.frame type call u.id (counter + 1)).toBond ∧
        Bond.encodeFrame d.sealer sent.frame = .ok sent.datagram := by
  obtain ⟨out, d', heq, hturn⟩ := d.exists_turn e
  rw [heq] at h
  cases hturn with
  | rest => exact absurd h List.not_mem_nil
  | greet => exact absurd h List.not_mem_nil
  | number => exact absurd h List.not_mem_nil
  | call =>
    rw [Bond.sends_write] at h
    exact absurd h List.not_mem_nil
  | enter => exact absurd h List.not_mem_nil
  | count => exact absurd h List.not_mem_nil
  | transmit hsender hu _ _ _ _ hout =>
    rcases hout with ⟨rfl, -⟩ | ⟨-, datagram, hdatagram, rfl⟩
    · exact absurd h List.not_mem_nil
    · obtain rfl := List.mem_singleton.1 h
      exact ⟨_, _, _, _, _, _, rfl, hsender, hu, rfl, rfl, (encode_eq_ok_iff _ _ _).1 hdatagram⟩

/-- A step changes the uplinks or counts under one. -/
lemma changes_step (d : Datapath) (e : Event) :
    d.manager.Changes (d.step e).2.manager ∨
      ∃ uplink counter, (d.step e).2.manager =
        d.manager.update uplink fun u => { u with counter := counter } := by
  obtain ⟨out, d', heq, hturn⟩ := d.exists_turn e
  rw [heq]
  cases hturn with
  | rest hm => exact Or.inl hm
  | greet => exact Or.inl (.refl _)
  | number _ _ _ _ hm =>
    rw [hm]
    exact Or.inl (.refl _)
  | call _ _ _ hm => exact Or.inl hm
  | enter => exact Or.inl (.refl _)
  | count => exact Or.inl (.refl _)
  | transmit _ _ hm => exact Or.inr ⟨_, _, hm⟩

lemma tracks_step {d : Datapath} (h : d.manager.Tracks) (e : Event) :
    (d.step e).2.manager.Tracks := by
  rcases d.changes_step e with hm | ⟨uplink, counter, hm⟩
  · exact hm.tracks h
  · rw [hm]
    exact h.update (f := fun u => { u with counter := counter }) (fun _ => rfl) (fun _ => rfl)
      (fun _ => rfl) uplink

lemma length_made_step (d : Datapath) (e : Event) :
    d.manager.made.length ≤ (d.step e).2.manager.made.length := by
  rcases d.changes_step e with hm | ⟨uplink, counter, hm⟩
  · exact hm.kept.length
  · rw [hm, UplinkManager.length_update]

/-! ### What no step changes -/

/-- What a start fixes. -/
def fixed (d : Datapath) : Util.Sealer × BitVec 32 × Bond.Addr := (d.sealer, d.sessionId, d.address)

lemma fixed_stopTunnel (d : Datapath) : d.stopTunnel.fixed = d.fixed := by
  rw [stopTunnel]
  split_ifs
  · rfl
  · rfl

lemma fixed_resequence (d : Datapath)
    (r : Except Thrown (List (ℤ × Bytes) × ReorderBuffer Bytes)) :
    (d.resequence r).2.fixed = d.fixed := by
  cases r with
  | error thrown => rfl
  | ok r => rfl

lemma fixed_pumpTun (d : Datapath) (packet : Bytes) : (d.pumpTun packet).fixed = d.fixed := by
  rw [pumpTun]
  by_cases hnone : packet = [] ∨ d.links = []
  · rw [if_pos hnone]
  rw [if_neg hnone]
  simp only
  split
  · rfl
  split
  · rfl
  · rfl

lemma fixed_pumpNetwork (d : Datapath) (uplink : ℕ) (data : Bytes) (now : ℤ) :
    (d.pumpNetwork uplink data now).2.fixed = d.fixed := by
  rw [pumpNetwork]
  split
  · rfl
  split
  · rfl
  · split_ifs
    · rfl
    · exact fixed_resequence _ _
  · rfl

lemma fixed_pairRead (d : Datapath) (uplink : ℕ) (data : Bytes) (now : ℤ) (granted : Bool) :
    (d.pairRead uplink data now granted).fixed = d.fixed := by
  rw [pairRead]
  split
  · rfl
  split_ifs
  · rfl
  · exact fixed_stopTunnel _
  · rfl

lemma fixed_enter (d : Datapath) (thread : Thread) : (d.enter thread).fixed = d.fixed := by
  rw [enter]
  split <;> rfl

lemma fixed_count (d : Datapath) (thread : Thread) : (d.count thread).fixed = d.fixed := by
  rw [count]
  split
  · split <;> rfl
  · rfl

lemma fixed_transmit (d : Datapath) (thread : Thread) : (d.transmit thread).2.fixed = d.fixed := by
  rw [transmit]
  split
  · split
    · rfl
    · simp only
      split <;> rfl
  · rfl

@[simp] lemma fixed_step (d : Datapath) (e : Event) : (d.step e).2.fixed = d.fixed := by
  rw [step.eq_def]
  by_cases hcrashed : d.phase = .crashed
  · rw [if_pos hcrashed]
  rw [if_neg hcrashed]
  cases e with
  | available network label protectedOk boundOk => simp only; split_ifs <;> rfl
  | lost network => simp only; split_ifs <;> rfl
  | pairRound => simp only; split_ifs <;> rfl
  | pairRead uplink data now granted =>
    simp only
    split_ifs
    · exact fixed_pairRead _ _ _ _ _
    · rfl
  | pairTimedOut =>
    simp only
    split_ifs
    · exact fixed_stopTunnel _
    · rfl
  | tunRead data =>
    simp only
    split_ifs
    · exact fixed_pumpTun _ _
    · rfl
  | netRead uplink data now =>
    simp only
    split_ifs
    · exact fixed_pumpNetwork _ _ _ _
    · rfl
  | netTick now =>
    simp only
    split_ifs
    · exact fixed_resequence _ _
    · rfl
  | keepaliveRound => simp only; split_ifs <;> rfl
  | watchdog now =>
    simp only
    split_ifs
    · exact fixed_stopTunnel _
    · rfl
  | enter thread => exact fixed_enter d thread
  | count thread => exact fixed_count d thread
  | transmit thread => exact fixed_transmit d thread
  | stop => exact fixed_stopTunnel d

lemma sealer_step (d : Datapath) (e : Event) : (d.step e).2.sealer = d.sealer :=
  congrArg Prod.fst (d.fixed_step e)

lemma sessionId_step (d : Datapath) (e : Event) : (d.step e).2.sessionId = d.sessionId :=
  congrArg (fun x => x.2.1) (d.fixed_step e)

end Datapath

end Turbobond.Android
