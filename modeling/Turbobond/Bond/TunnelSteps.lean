import Turbobond.Bond.Tunnel
import Turbobond.Bond.Codec
import Turbobond.Bond.Replay

/-!
# What the tunnel's steps do to its sockets

A step seals at most one datagram, over one socket, whose counter it moves on by one; every
other socket keeps its counter.  Sockets are numbered as they are made, so the sockets of a
tunnel are a ledger in the sense of `Lib/Ledger.lean`.
-/

set_option linter.unusedSectionVars false

namespace Turbobond.Bond

open Links Util

variable {K : Type} [Field K] [LinearOrder K]

namespace BondingTunnel

variable {t t' : BondingTunnel K}

/-- The socket numbered `id` sends for link `l` and has reached `c`. -/
def Counting (t : BondingTunnel K) (id l c : ℕ) : Prop :=
  ∃ ls, t.sockets.get? l = some ls ∧ ls.ident = id ∧ ls.counter = c

/-- The socket of each link is stored under the link's id, and no two have one number. -/
structure Bound (t : BondingTunnel K) : Prop where
  key : ∀ l ls, t.sockets.get? l = some ls → ls.link.linkId = l
  ident_lt : ∀ l ls, t.sockets.get? l = some ls → ls.ident < t.bound
  ident_inj : ∀ l l' ls ls', t.sockets.get? l = some ls → t.sockets.get? l' = some ls' →
    ls.ident = ls'.ident → l = l'

lemma bound_of_empty (h : t.sockets = Dict.empty) : Bound t :=
  ⟨by simp [h], by simp [h], by simp [h]⟩

/-- The sockets of `t'` were there before, with the same numbers and counters. -/
structure Quiet (t t' : BondingTunnel K) : Prop where
  bound_eq : t'.bound = t.bound
  socket : ∀ l ls', t'.sockets.get? l = some ls' → ∃ ls, t.sockets.get? l = some ls ∧
    ls.ident = ls'.ident ∧ ls.counter = ls'.counter ∧ ls.link.linkId = ls'.link.linkId

namespace Quiet

lemma of_sockets (hb : t'.bound = t.bound) (hs : t'.sockets = t.sockets) : Quiet t t' :=
  ⟨hb, fun _ ls' h => ⟨ls', hs ▸ h, rfl, rfl, rfl⟩⟩

lemma refl (t : BondingTunnel K) : Quiet t t := of_sockets rfl rfl

/-- One socket changed, but neither its number nor its counter. -/
lemma set {l : ℕ} {ls ls' : LinkSocket K} (hget : t.sockets.get? l = some ls)
    (hs : t'.sockets = t.sockets.set l ls') (hb : t'.bound = t.bound)
    (hid : ls.ident = ls'.ident) (hc : ls.counter = ls'.counter)
    (hl : ls.link.linkId = ls'.link.linkId) : Quiet t t' := by
  refine ⟨hb, fun k ls'' h => ?_⟩
  rw [hs, Dict.get?_set] at h
  split at h
  · rename_i hk
    obtain rfl := Option.some.inj h
    exact ⟨ls, hk ▸ hget, hid, hc, hl⟩
  · exact ⟨ls'', h, rfl, rfl, rfl⟩

/-- All sockets changed, but neither their numbers nor their counters. -/
lemma mapValues {f : LinkSocket K → LinkSocket K} (hs : t'.sockets = t.sockets.mapValues f)
    (hb : t'.bound = t.bound) (hid : ∀ ls, (f ls).ident = ls.ident)
    (hc : ∀ ls, (f ls).counter = ls.counter) (hl : ∀ ls, (f ls).link.linkId = ls.link.linkId) :
    Quiet t t' := by
  refine ⟨hb, fun k ls' h => ?_⟩
  rw [hs, Dict.get?_mapValues, Option.map_eq_some_iff] at h
  obtain ⟨ls, hls, rfl⟩ := h
  exact ⟨ls, hls, (hid ls).symm, (hc ls).symm, (hl ls).symm⟩

lemma counting (h : Quiet t t') {id l c : ℕ} (hc : t'.Counting id l c) : t.Counting id l c := by
  obtain ⟨ls', hget, rfl, rfl⟩ := hc
  obtain ⟨ls, hls, hid, hcount, -⟩ := h.socket l ls' hget
  exact ⟨ls, hls, hid, hcount⟩

lemma bound (h : Quiet t t') (hb : Bound t) : Bound t' where
  key := by
    intro l ls' hget
    obtain ⟨ls, hls, -, -, hl⟩ := h.socket l ls' hget
    exact hl ▸ hb.key l ls hls
  ident_lt := by
    intro l ls' hget
    obtain ⟨ls, hls, hid, -⟩ := h.socket l ls' hget
    rw [h.bound_eq, ← hid]
    exact hb.ident_lt l ls hls
  ident_inj := by
    intro l l' ls ls' hget hget' heq
    obtain ⟨ls₁, hls₁, hid₁, -⟩ := h.socket l ls hget
    obtain ⟨ls₂, hls₂, hid₂, -⟩ := h.socket l' ls' hget'
    exact hb.ident_inj l l' ls₁ ls₂ hls₁ hls₂ (by rw [hid₁, hid₂, heq])

end Quiet

/-- What a step hands out, as a step of the ledger. -/
def Hands (t : BondingTunnel K) (out : List Effect) (t' : BondingTunnel K) : Prop :=
  LedgerStep t.Counting (t.bound ≤ ·) ((sends out).map Sealed.entry) (Lost out) t'.Counting
    (t'.bound ≤ ·)

lemma Quiet.hands (h : Quiet t t') {out : List Effect} (hout : sends out = []) :
    Hands t out t' := by
  rw [Hands, hout, h.bound_eq]
  exact .idle (fun _ => id) fun id l c hc => Or.inl (h.counting hc)

lemma Hands.quiet {t'' : BondingTunnel K} {out : List Effect} (h : Hands t out t')
    (hq : Quiet t' t'') : Hands t out t'' where
  fresh_of := fun id hid => h.fresh_of id (by rw [hq.bound_eq] at hid; exact hid)
  live_of := fun id l c hc => h.live_of id l c (hq.counting hc)
  out_of := h.out_of

/-- Changing one socket's counts keeps the numbering. -/
lemma Bound.set (hb : Bound t) {linkId : ℕ} {ls ls' : LinkSocket K}
    (hget : t.sockets.get? linkId = some ls) (hid : ls'.ident = ls.ident)
    (hkey : ls'.link.linkId = linkId) :
    Bound { t with sockets := t.sockets.set linkId ls' } where
  key := by
    intro l u hu
    rw [Dict.get?_set] at hu
    split at hu
    · rename_i hl
      obtain rfl := Option.some.inj hu
      exact hkey.trans hl.symm
    · exact hb.key l u hu
  ident_lt := by
    intro l u hu
    rw [Dict.get?_set] at hu
    split at hu
    · obtain rfl := Option.some.inj hu
      rw [hid]
      exact hb.ident_lt linkId ls hget
    · exact hb.ident_lt l u hu
  ident_inj := by
    intro l l' u u' hu hu' heq
    rw [Dict.get?_set] at hu hu'
    split at hu <;> split at hu'
    · rename_i hl hl'
      exact hl.trans hl'.symm
    · rename_i hl _
      obtain rfl := Option.some.inj hu
      exact hl.trans (hb.ident_inj linkId l' ls u' hget hu' (hid ▸ heq))
    · rename_i _ hl'
      obtain rfl := Option.some.inj hu'
      exact (hb.ident_inj l linkId u ls hu hget (heq.trans hid)).trans hl'.symm
    · exact hb.ident_inj l l' u u' hu hu' heq

/-! ### Sealing a datagram -/

/-- The frame a socket seals next. -/
def outFrame (t : BondingTunnel K) (ls : LinkSocket K) (frameType : FrameType) (seq : ℕ)
    (payload : Bytes) : Frame :=
  { type := frameType, sessionId := t.sessionId, linkId := ls.link.linkId
    counter := ls.counter + 1, seq, payload }

/-- What sealing and sending does: it uses up the socket's next counter, and sends the
datagram unless `encode_frame` raises. -/
lemma transmit_cases (t : BondingTunnel K) (linkId : ℕ) (ls : LinkSocket K) (ft : FrameType)
    (seq : ℕ) (payload : Bytes) (now : Time) (sendOk : Bool) :
    ∃ out tx bytes ts, t.transmit linkId ls ft seq payload now sendOk =
        (out, { t with sockets := t.sockets.set linkId { ls with
          counter := ls.counter + 1, txPackets := tx, txBytes := bytes, lastTxTs := ts } }) ∧
      ((∃ e, encodeFrame t.sealer (t.outFrame ls ft seq payload) = .error e ∧ out = [.raise e]) ∨
        ∃ d, encodeFrame t.sealer (t.outFrame ls ft seq payload) = .ok d ∧
          out = [.send ⟨ls.ident, 0, t.outFrame ls ft seq payload, d, t.peer⟩]) := by
  have hframe : encodeFrame t.sealer
      { type := ft, sessionId := t.sessionId, linkId := ls.link.linkId
        counter := ls.counter + 1, seq, payload } =
      encodeFrame t.sealer (t.outFrame ls ft seq payload) := rfl
  simp only [transmit, LinkSocket.nextCounter, hframe]
  cases henc : encodeFrame t.sealer (t.outFrame ls ft seq payload) with
  | error e => exact ⟨_, _, _, _, rfl, Or.inl ⟨e, rfl, rfl⟩⟩
  | ok d =>
    cases sendOk with
    | true => exact ⟨_, _, _, _, rfl, Or.inr ⟨d, rfl, rfl⟩⟩
    | false => exact ⟨_, _, _, _, rfl, Or.inr ⟨d, rfl, rfl⟩⟩

lemma transmit_hands (hb : Bound t) {linkId : ℕ} {ls : LinkSocket K}
    (hget : t.sockets.get? linkId = some ls) (ft : FrameType) (seq : ℕ) (payload : Bytes)
    (now : Time) (sendOk : Bool) :
    Hands t (t.transmit linkId ls ft seq payload now sendOk).1
        (t.transmit linkId ls ft seq payload now sendOk).2 ∧
      Bound (t.transmit linkId ls ft seq payload now sendOk).2 := by
  obtain ⟨out, tx, bytes, ts, heq, hout⟩ :=
    t.transmit_cases linkId ls ft seq payload now sendOk
  rw [heq]
  have hkey := hb.key linkId ls hget
  -- either way the counter is used up, and what is sent carries it
  have hsent : sends out = [] ∧ Lost out ∨ (sends out).map Sealed.entry =
      [⟨ls.ident, linkId, ls.counter + 1⟩] := by
    rcases hout with ⟨e, -, rfl⟩ | ⟨d, -, rfl⟩
    · exact Or.inl ⟨rfl, e, List.mem_cons_self⟩
    · refine Or.inr ?_
      simp [sends, Sealed.entry, outFrame, hkey]
  refine ⟨?_, hb.set hget rfl hkey⟩
  refine .single (Or.inl ⟨ls, hget, rfl, rfl⟩) ?_ ?_ ?_
  · exact hsent.imp_left fun h => by rw [h.1, List.map_nil]
  · intro id hid
    have hlt : ls.ident < id := (hb.ident_lt linkId ls hget).trans_le hid
    exact ⟨hid, hlt.ne'⟩
  · rintro id l c ⟨ls', hls', rfl, rfl⟩
    rw [Dict.get?_set] at hls'
    split at hls'
    · rename_i hl
      obtain rfl := Option.some.inj hls'
      refine Or.inr ⟨rfl, hl, Or.inr ⟨rfl, ?_⟩⟩
      rcases hsent with ⟨hnil, hlost⟩ | hone
      · exact Or.inr ⟨by rw [hnil, List.map_nil], hlost⟩
      · exact Or.inl hone
    · rename_i hl
      exact Or.inl ⟨⟨ls', hls', rfl, rfl⟩, fun hid => hl (hb.ident_inj l linkId ls' ls hls' hget hid)⟩

/-! ### The other steps -/

lemma modifyLink_quiet (t : BondingTunnel K) (linkId : ℕ) {f : Link K → Link K}
    (hf : ∀ link, link.linkId = linkId → (f link).linkId = linkId) :
    Quiet t (t.modifyLink linkId f) := by
  have hs : (t.modifyLink linkId f).sockets = t.sockets.mapValues fun ls =>
      if ls.link.linkId = linkId then { ls with link := f ls.link } else ls := rfl
  refine Quiet.mapValues hs rfl (fun ls => ?_) (fun ls => ?_) fun ls => ?_
  · split <;> rfl
  · split <;> rfl
  · split
    · rename_i h
      exact (hf _ h).trans h.symm
    · rfl

/-- The sockets of `t'` were there before, with the same numbers and counters, or they are
new and have counted nothing. -/
structure Renewed (t t' : BondingTunnel K) : Prop where
  bound : Bound t'
  bound_le : t.bound ≤ t'.bound
  source : ∀ id l c, t'.Counting id l c → Source t.Counting (t.bound ≤ ·) id l c

lemma Renewed.hands (h : Renewed t t') {out : List Effect} (hout : sends out = []) :
    Hands t out t' := by
  rw [Hands, hout]
  exact .idle (fun _ hid => h.bound_le.trans hid) h.source

lemma bindLink_renewed {t₀ : BondingTunnel K} (h : Renewed t₀ t) (link : Link K) (ok : Bool) :
    Renewed t₀ (t.bindLink link ok) := by
  have hquiet : ∀ ready, Quiet t (t.modifyLink link.linkId fun link =>
      { link with tunnelReady := ready }) := fun ready => modifyLink_quiet t _ fun _ hl => hl
  have hkept : ∀ {t' : BondingTunnel K}, Quiet t t' → Renewed t₀ t' := fun hq =>
    ⟨hq.bound h.bound, h.bound_le.trans hq.bound_eq.ge, fun id l c hc => h.source id l c
      (hq.counting hc)⟩
  simp only [bindLink]
  split
  · exact h
  split
  · -- the new socket gets the next number
    have h₁ := hkept (hquiet true)
    have hb₁ := h₁.bound
    refine ⟨⟨?_, ?_, ?_⟩, h₁.bound_le.trans (Nat.le_succ _), ?_⟩
    · intro l ls hget
      rw [Dict.get?_set] at hget
      split at hget
      · rename_i hl
        obtain rfl := Option.some.inj hget
        exact hl.symm
      · exact hb₁.key l ls hget
    · intro l ls hget
      rw [Dict.get?_set] at hget
      split at hget
      · obtain rfl := Option.some.inj hget
        exact Nat.lt_succ_self t.bound
      · exact (hb₁.ident_lt l ls hget).trans (Nat.lt_succ_self t.bound)
    · intro l l' ls ls' hget hget' hid
      rw [Dict.get?_set] at hget hget'
      split at hget <;> split at hget'
      · rename_i hl hl'
        exact hl.trans hl'.symm
      · obtain rfl := Option.some.inj hget
        exact absurd hid (hb₁.ident_lt l' ls' hget').ne'
      · obtain rfl := Option.some.inj hget'
        exact absurd hid (hb₁.ident_lt l ls hget).ne
      · exact hb₁.ident_inj l l' ls ls' hget hget' hid
    · rintro id l c ⟨ls, hget, rfl, rfl⟩
      rw [Dict.get?_set] at hget
      split at hget
      · obtain rfl := Option.some.inj hget
        exact Or.inr ⟨h.bound_le, rfl⟩
      · exact h₁.source _ _ _ ⟨ls, hget, rfl, rfl⟩
  · exact hkept (hquiet false)

lemma foldl_bindLink_renewed {t₀ : BondingTunnel K} (bindable : ℕ → Bool) (links : List (Link K)) :
    ∀ t, Renewed t₀ t →
      Renewed t₀ (links.foldl (fun t link => t.bindLink link (bindable link.linkId)) t) := by
  induction links with
  | nil => exact fun t h => h
  | cons link links ih => exact fun t h => ih _ (bindLink_renewed h link _)

lemma start_renewed (hb : Bound t) (bindable : ℕ → Bool) : Renewed t (t.start bindable).2 := by
  have hrefl : Renewed t t := ⟨hb, le_rfl, fun _ _ _ hc => Or.inl hc⟩
  simp only [start]
  split
  · exact hrefl
  split
  · exact hrefl
  have h := foldl_bindLink_renewed bindable t.scheduler.links t hrefl
  split
  · exact h
  · exact ⟨⟨h.bound.key, h.bound.ident_lt, h.bound.ident_inj⟩, h.bound_le, h.source⟩

lemma sends_start (t : BondingTunnel K) (bindable : ℕ → Bool) :
    sends (t.start bindable).1 = [] := by
  simp only [start]
  split
  · rfl
  split
  · rfl
  split <;> rfl

lemma sendControl_hands (hb : Bound t) (linkId : ℕ) (ft : FrameType) (now : Time)
    (sendOk : Bool) :
    Hands t (t.sendControl linkId ft now sendOk).1 (t.sendControl linkId ft now sendOk).2 ∧
      Bound (t.sendControl linkId ft now sendOk).2 := by
  rw [sendControl]
  cases hget : t.sockets.get? linkId with
  | none => exact ⟨(Quiet.refl t).hands rfl, hb⟩
  | some ls => exact transmit_hands hb hget ft 0 [] now sendOk

lemma handleDatagram_quiet (t : BondingTunnel K) (linkId : ℕ) (data : Bytes) (now : Clock) :
    Quiet t (t.handleDatagram linkId data now).2 ∧
      sends (t.handleDatagram linkId data now).1 = [] := by
  rw [handleDatagram]
  cases hget : t.sockets.get? linkId with
  | none => exact ⟨Quiet.refl t, rfl⟩
  | some ls =>
    cases hdec : decodeFrame t.sealer data with
    | none => exact ⟨Quiet.of_sockets rfl rfl, rfl⟩
    | some frame =>
      simp only
      split
      · exact ⟨Quiet.of_sockets rfl rfl, rfl⟩
      split
      · exact ⟨Quiet.set hget rfl rfl rfl rfl rfl, sends_write _ _⟩
      split
      · exact ⟨Quiet.set hget rfl rfl rfl rfl rfl, rfl⟩
      · exact ⟨Quiet.set hget rfl rfl rfl rfl rfl, rfl⟩

lemma handshakeReply_quiet (t : BondingTunnel K) (linkId : ℕ) (data : Bytes) (now : Time) :
    Quiet t (t.handshakeReply linkId data now) := by
  simp only [handshakeReply]
  split
  · rename_i ls frame hget hdec
    split
    · exact Quiet.set hget rfl rfl rfl rfl rfl
    · exact Quiet.refl t
  · exact Quiet.refl t

lemma refreshLinks_quiet (t : BondingTunnel K) (links : List (Link K)) :
    Quiet t (t.refreshLinks links) := by
  rw [refreshLinks]
  generalize hlinks : links.map _ = links'
  refine Quiet.mapValues (f := fun ls => { ls with
    link := (links'.find? fun link => link.linkId = ls.link.linkId).getD ls.link })
    rfl rfl (fun ls => rfl) (fun ls => rfl) fun ls => ?_
  cases hfind : links'.find? fun link => link.linkId = ls.link.linkId with
  | none => rfl
  | some link => simpa only [hfind, Option.getD_some, decide_eq_true_eq] using List.find?_some hfind

variable [HasSqrt K]

lemma sendPacket_quiet (t : BondingTunnel K) (packet : Bytes) : Quiet t (t.sendPacket packet) := by
  simp only [sendPacket]
  split
  · exact Quiet.of_sockets rfl rfl
  · exact Quiet.of_sockets rfl rfl

lemma sendCopy_hands (hb : Bound t) (i : ℕ) (now : Time) (sendOk : Bool) :
    Hands t (t.sendCopy i now sendOk).1 (t.sendCopy i now sendOk).2 ∧
      Bound (t.sendCopy i now sendOk).2 := by
  simp only [sendCopy]
  split
  · exact ⟨(Quiet.refl t).hands rfl, hb⟩
  · have hq : Quiet t { t with sending := t.sending.eraseIdx i } := Quiet.of_sockets rfl rfl
    exact ⟨hq.hands rfl, hq.bound hb⟩
  · rename_i seq packet linkId rest _
    have hq : Quiet t { t with sending := t.sending.set i { seq, packet, links := rest } } :=
      Quiet.of_sockets rfl rfl
    cases hget : t.sockets.get? linkId with
    | none => exact ⟨hq.hands rfl, hq.bound hb⟩
    | some ls =>
      have h := transmit_hands (hq.bound hb) hget .data seq packet now sendOk
      simp only
      split
      · have hq' : ∀ t' : BondingTunnel K, Quiet t' { t' with sending := t'.sending.eraseIdx i } :=
          fun t' => Quiet.of_sockets rfl rfl
        exact ⟨h.1.quiet (hq' _), (hq' _).bound h.2⟩
      · exact h

lemma keepalive_hands (hb : Bound t) (linkId : ℕ) (now : Time) (sendOk : Bool) :
    Hands t (t.keepalive linkId now sendOk).1 (t.keepalive linkId now sendOk).2 ∧
      Bound (t.keepalive linkId now sendOk).2 := by
  simp only [keepalive]
  split
  · exact ⟨(Quiet.refl t).hands rfl, hb⟩
  split
  · exact ⟨(Quiet.refl t).hands rfl, hb⟩
  have h := sendControl_hands hb linkId .keepalive now sendOk
  split
  · exact h
  · rename_i ls hget
    split
    · have hq : Quiet (t.sendControl linkId .keepalive now sendOk).2
          { (t.sendControl linkId .keepalive now sendOk).2 with
            sockets := (t.sendControl linkId .keepalive now sendOk).2.sockets.set linkId
              { ls with handshaken := false } } := Quiet.set hget rfl rfl rfl rfl rfl
      exact ⟨h.1.quiet hq, hq.bound h.2⟩
    · exact h

/-- Every step of a tunnel is a step of the ledger. -/
theorem step_hands (hb : Bound t) (e : Event K) :
    Hands t (t.step e).1 (t.step e).2 ∧ Bound (t.step e).2 := by
  have hquiet : ∀ {t' : BondingTunnel K} {out}, Quiet t t' → sends out = [] →
      Hands t out t' ∧ Bound t' := fun hq hout => ⟨hq.hands hout, hq.bound hb⟩
  cases e with
  | start bindable =>
    have h := start_renewed hb bindable
    exact ⟨h.hands (t.sends_start bindable), h.bound⟩
  | handshake linkId now sendOk => exact sendControl_hands hb linkId .handshake now sendOk
  | handshakeReply linkId data now => exact hquiet (t.handshakeReply_quiet linkId data now) rfl
  | packet packet => exact hquiet (t.sendPacket_quiet packet) rfl
  | copy i now sendOk => exact sendCopy_hands hb i now sendOk
  | datagram linkId data now =>
    obtain ⟨hq, hout⟩ := t.handleDatagram_quiet linkId data now
    exact hquiet hq hout
  | keepalive linkId now sendOk => exact keepalive_hands hb linkId now sendOk
  | tick now => exact hquiet (Quiet.of_sockets rfl rfl) (sends_write _ _)
  | refresh links => exact hquiet (t.refreshLinks_quiet links) rfl
  | observe linkId f => exact hquiet (t.modifyLink_quiet linkId fun _ _ => rfl) rfl
  | stop => exact hquiet (Quiet.of_sockets rfl rfl) rfl
  | close linkId now sendOk =>
    have h := sendControl_hands hb linkId .close now sendOk
    have hq := (t.sendControl linkId .close now sendOk).2.modifyLink_quiet linkId
      (f := fun link => { link with tunnelReady := false }) fun _ hl => hl
    exact ⟨h.1.quiet hq, hq.bound h.2⟩
  | clear => exact hquiet ⟨rfl, by simp [step]⟩ rfl

/-! ### What a step seals -/

lemma sends_transmit {linkId : ℕ} {ls : LinkSocket K} {ft : FrameType} {seq : ℕ} {payload : Bytes}
    {now : Time} {sendOk : Bool} {sent : Sealed}
    (h : sent ∈ sends (t.transmit linkId ls ft seq payload now sendOk).1) :
    sent.frame = t.outFrame ls ft seq payload ∧
      encodeFrame t.sealer sent.frame = .ok sent.datagram := by
  obtain ⟨out, tx, bytes, ts, heq, ⟨e, -, rfl⟩ | ⟨d, henc, rfl⟩⟩ :=
    t.transmit_cases linkId ls ft seq payload now sendOk
  · rw [heq] at h
    exact absurd h (by simp [sends])
  · rw [heq] at h
    obtain rfl := List.mem_singleton.1 h
    exact ⟨rfl, henc⟩

lemma sends_sendControl {linkId : ℕ} {ft : FrameType} {now : Time} {sendOk : Bool} {sent : Sealed}
    (h : sent ∈ sends (t.sendControl linkId ft now sendOk).1) :
    encodeFrame t.sealer sent.frame = .ok sent.datagram ∧ sent.frame.sessionId = t.sessionId ∧
      sent.frame.type = ft := by
  rw [sendControl] at h
  split at h
  · exact absurd h List.not_mem_nil
  · obtain ⟨hframe, henc⟩ := sends_transmit h
    exact ⟨henc, by rw [hframe]; rfl, by rw [hframe]; rfl⟩

/-- Everything a tunnel seals, it seals for its own session; a control frame, or the packet
of a call of `_send_packet` under way, with the call's sequence number. -/
theorem sends_step {e : Event K} {sent : Sealed} (h : sent ∈ sends (t.step e).1) :
    encodeFrame t.sealer sent.frame = .ok sent.datagram ∧ sent.frame.sessionId = t.sessionId ∧
      (sent.frame.type ≠ .data ∨ ∃ o ∈ t.sending,
        sent.frame.seq = o.seq ∧ sent.frame.payload = o.packet) := by
  have hcontrol : ∀ {linkId ft now sendOk}, ft ≠ .data →
      sent ∈ sends (t.sendControl linkId ft now sendOk).1 →
      encodeFrame t.sealer sent.frame = .ok sent.datagram ∧ sent.frame.sessionId = t.sessionId ∧
        (sent.frame.type ≠ .data ∨ ∃ o ∈ t.sending,
          sent.frame.seq = o.seq ∧ sent.frame.payload = o.packet) := by
    intro linkId ft now sendOk hft hsent
    obtain ⟨henc, hsid, htype⟩ := sends_sendControl hsent
    exact ⟨henc, hsid, Or.inl (htype ▸ hft)⟩
  cases e with
  | start bindable => exact absurd h (by rw [step, sends_start]; exact List.not_mem_nil)
  | handshake linkId now sendOk => exact hcontrol (by decide) h
  | handshakeReply linkId data now => exact absurd h List.not_mem_nil
  | packet packet => exact absurd h List.not_mem_nil
  | copy i now sendOk =>
    simp only [step, sendCopy] at h
    split at h
    · exact absurd h List.not_mem_nil
    · exact absurd h List.not_mem_nil
    · rename_i seq packet linkId rest hget
      split at h
      · exact absurd h List.not_mem_nil
      · rename_i ls hls
        have h' : sent ∈ sends (({ t with
            sending := t.sending.set i { seq, packet, links := rest } } : BondingTunnel K).transmit
              linkId ls .data seq packet now sendOk).1 := by
          split at h <;> exact h
        obtain ⟨hframe, henc⟩ := sends_transmit h'
        refine ⟨henc, by rw [hframe]; rfl, Or.inr ⟨_, List.mem_of_getElem? hget, ?_, ?_⟩⟩
        · rw [hframe]
          rfl
        · rw [hframe]
          rfl
  | datagram linkId data now =>
    exact absurd h (by rw [step, (t.handleDatagram_quiet linkId data now).2]; exact List.not_mem_nil)
  | keepalive linkId now sendOk =>
    simp only [step, keepalive] at h
    split at h
    · exact absurd h List.not_mem_nil
    split at h
    · exact absurd h List.not_mem_nil
    split at h
    · exact hcontrol (by decide) h
    · split at h <;> exact hcontrol (by decide) h
  | tick now =>
    exact absurd h (by simp only [step, reorderTick, sends_write]; exact List.not_mem_nil)
  | refresh links => exact absurd h List.not_mem_nil
  | observe linkId f => exact absurd h List.not_mem_nil
  | stop => exact absurd h List.not_mem_nil
  | close linkId now sendOk => exact hcontrol (by decide) h
  | clear => exact absurd h List.not_mem_nil

/-! ### What no step changes -/

/-- Binding links changes the sockets and the links. -/
lemma foldl_bindLink_const (bindable : ℕ → Bool) (links : List (Link K)) : ∀ t : BondingTunnel K,
    ∃ scheduler sockets bound,
      links.foldl (fun t link => t.bindLink link (bindable link.linkId)) t =
        { t with scheduler, sockets, bound } := by
  induction links with
  | nil => exact fun t => ⟨t.scheduler, t.sockets, t.bound, rfl⟩
  | cons link links ih =>
    intro t
    obtain ⟨scheduler, sockets, bound, h⟩ := ih (t.bindLink link (bindable link.linkId))
    refine ⟨scheduler, sockets, bound, ?_⟩
    rw [List.foldl_cons, h]
    simp only [bindLink]
    split
    · rfl
    · split <;> rfl

lemma transmit_const (t : BondingTunnel K) (linkId : ℕ) (ls : LinkSocket K) (ft : FrameType)
    (seq : ℕ) (payload : Bytes) (now : Time) (sendOk : Bool) :
    ∃ sockets, (t.transmit linkId ls ft seq payload now sendOk).2 = { t with sockets } := by
  obtain ⟨out, tx, bytes, ts, heq, -⟩ := t.transmit_cases linkId ls ft seq payload now sendOk
  exact ⟨_, by rw [heq]⟩

lemma sendControl_const (t : BondingTunnel K) (linkId : ℕ) (ft : FrameType) (now : Time)
    (sendOk : Bool) : ∃ sockets, (t.sendControl linkId ft now sendOk).2 = { t with sockets } := by
  rw [sendControl]
  split
  · exact ⟨t.sockets, rfl⟩
  · exact t.transmit_const _ _ _ _ _ _ _

/-- A tunnel keeps its key and its session. -/
lemma step_const (t : BondingTunnel K) (e : Event K) :
    (t.step e).2.sealer = t.sealer ∧ (t.step e).2.sessionId = t.sessionId := by
  cases e with
  | start bindable =>
    obtain ⟨scheduler, sockets, bound, h⟩ := foldl_bindLink_const bindable t.scheduler.links t
    simp only [step, start, h]
    split
    · exact ⟨rfl, rfl⟩
    split
    · exact ⟨rfl, rfl⟩
    split <;> exact ⟨rfl, rfl⟩
  | handshake linkId now sendOk =>
    obtain ⟨sockets, h⟩ := t.sendControl_const linkId .handshake now sendOk
    rw [step, h]
    exact ⟨rfl, rfl⟩
  | handshakeReply linkId data now =>
    simp only [step, handshakeReply]
    split
    · split <;> exact ⟨rfl, rfl⟩
    · exact ⟨rfl, rfl⟩
  | packet packet =>
    simp only [step, sendPacket]
    split <;> exact ⟨rfl, rfl⟩
  | copy i now sendOk =>
    simp only [step, sendCopy]
    split
    · exact ⟨rfl, rfl⟩
    · exact ⟨rfl, rfl⟩
    · split
      · exact ⟨rfl, rfl⟩
      · rename_i seq packet linkId rest _ _ ls _
        obtain ⟨sockets, h⟩ := ({ t with
          sending := t.sending.set i { seq, packet, links := rest } } : BondingTunnel K).transmit_const
            linkId ls .data seq packet now sendOk
        rw [h]
        split <;> exact ⟨rfl, rfl⟩
  | datagram linkId data now =>
    simp only [step, handleDatagram]
    split
    · exact ⟨rfl, rfl⟩
    split
    · exact ⟨rfl, rfl⟩
    split
    · exact ⟨rfl, rfl⟩
    split
    · exact ⟨rfl, rfl⟩
    split <;> exact ⟨rfl, rfl⟩
  | keepalive linkId now sendOk =>
    obtain ⟨sockets, h⟩ := t.sendControl_const linkId .keepalive now sendOk
    simp only [step, keepalive, h]
    split
    · exact ⟨rfl, rfl⟩
    split
    · exact ⟨rfl, rfl⟩
    split
    · exact ⟨rfl, rfl⟩
    · split <;> exact ⟨rfl, rfl⟩
  | tick now => exact ⟨rfl, rfl⟩
  | refresh links => exact ⟨rfl, rfl⟩
  | observe linkId f => exact ⟨rfl, rfl⟩
  | stop => exact ⟨rfl, rfl⟩
  | close linkId now sendOk =>
    obtain ⟨sockets, h⟩ := t.sendControl_const linkId .close now sendOk
    simp only [step, h]
    exact ⟨rfl, rfl⟩
  | clear => exact ⟨rfl, rfl⟩

end BondingTunnel

end Turbobond.Bond
