import Turbobond.Bond.TunnelSteps

/-!
# The tunnel's replay windows

Each socket has its own window, empty when the socket is made, and only a datagram read from
the socket changes it.
-/

set_option linter.unusedSectionVars false

namespace Turbobond.Bond.BondingTunnel

open Links Util

variable {K : Type} [Field K] [LinearOrder K] {t t' t'' : BondingTunnel K}

/-- Nothing was read between `t` and `t'`: the sockets of `t'` are those of `t`, with the same
windows, or new ones with empty windows, and nothing was rejected. -/
structure Unread (t t' : BondingTunnel K) : Prop where
  bound_le : t.bound ≤ t'.bound
  socket : ∀ l ls', t'.sockets.get? l = some ls' →
    (∃ ls, t.sockets.get? l = some ls ∧ ls'.ident = ls.ident ∧ ls'.replay = ls.replay) ∨
      t.bound ≤ ls'.ident ∧ ls'.replay = {}
  rejected : t'.rxRejected = t.rxRejected

namespace Unread

lemma of_sockets (hb : t'.bound = t.bound) (hs : t'.sockets = t.sockets)
    (hr : t'.rxRejected = t.rxRejected) : Unread t t' :=
  ⟨hb.ge, fun _ ls' h => Or.inl ⟨ls', hs ▸ h, rfl, rfl⟩, hr⟩

lemma refl (t : BondingTunnel K) : Unread t t := of_sockets rfl rfl rfl

lemma set {l : ℕ} {ls ls' : LinkSocket K} (hget : t.sockets.get? l = some ls)
    (hs : t'.sockets = t.sockets.set l ls') (hb : t'.bound = t.bound)
    (hid : ls'.ident = ls.ident) (hreplay : ls'.replay = ls.replay)
    (hr : t'.rxRejected = t.rxRejected) : Unread t t' := by
  refine ⟨hb.ge, fun k ls'' h => ?_, hr⟩
  rw [hs, Dict.get?_set] at h
  split at h
  · rename_i hk
    obtain rfl := Option.some.inj h
    exact Or.inl ⟨ls, hk ▸ hget, hid, hreplay⟩
  · exact Or.inl ⟨ls'', h, rfl, rfl⟩

lemma mapValues {f : LinkSocket K → LinkSocket K} (hs : t'.sockets = t.sockets.mapValues f)
    (hb : t'.bound = t.bound) (hid : ∀ ls, (f ls).ident = ls.ident)
    (hreplay : ∀ ls, (f ls).replay = ls.replay) (hr : t'.rxRejected = t.rxRejected) :
    Unread t t' := by
  refine ⟨hb.ge, fun k ls' h => ?_, hr⟩
  rw [hs, Dict.get?_mapValues, Option.map_eq_some_iff] at h
  obtain ⟨ls, hls, rfl⟩ := h
  exact Or.inl ⟨ls, hls, hid ls, hreplay ls⟩

lemma trans (h : Unread t t') (h' : Unread t' t'') : Unread t t'' where
  bound_le := h.bound_le.trans h'.bound_le
  socket := by
    intro l ls'' hget
    rcases h'.socket l ls'' hget with ⟨ls', hls', hid', hreplay'⟩ | ⟨hid', hreplay'⟩
    · rcases h.socket l ls' hls' with ⟨ls, hls, hid, hreplay⟩ | ⟨hid, hreplay⟩
      · exact Or.inl ⟨ls, hls, hid'.trans hid, hreplay'.trans hreplay⟩
      · exact Or.inr ⟨hid'.symm ▸ hid, hreplay'.trans hreplay⟩
    · exact Or.inr ⟨h.bound_le.trans hid', hreplay'⟩
  rejected := h'.rejected.trans h.rejected

end Unread

lemma transmit_unread {linkId : ℕ} {ls : LinkSocket K} (hls : t.sockets.get? linkId = some ls)
    (ft : FrameType) (seq : ℕ) (payload : Bytes) (now : Time) (sendOk : Bool) :
    Unread t (t.transmit linkId ls ft seq payload now sendOk).2 := by
  obtain ⟨out, tx, bytes, ts, heq, -⟩ := t.transmit_cases linkId ls ft seq payload now sendOk
  rw [heq]
  exact .set hls rfl rfl rfl rfl rfl

lemma sendControl_unread (t : BondingTunnel K) (linkId : ℕ) (ft : FrameType) (now : Time)
    (sendOk : Bool) : Unread t (t.sendControl linkId ft now sendOk).2 := by
  rw [sendControl]
  split
  · exact .refl t
  · rename_i ls hls
    exact transmit_unread hls _ _ _ _ _

lemma modifyLink_unread (t : BondingTunnel K) (linkId : ℕ) (f : Link K → Link K) :
    Unread t (t.modifyLink linkId f) := by
  refine .mapValues (f := fun ls =>
    if ls.link.linkId = linkId then { ls with link := f ls.link } else ls) rfl rfl ?_ ?_ rfl
  · intro ls
    split <;> rfl
  · intro ls
    split <;> rfl

lemma bindLink_unread (t : BondingTunnel K) (link : Link K) (ok : Bool) :
    Unread t (t.bindLink link ok) := by
  simp only [bindLink]
  split
  · exact .refl t
  split
  · -- the new socket gets the next number and an empty window
    have h := t.modifyLink_unread link.linkId fun link => { link with tunnelReady := true }
    refine ⟨h.bound_le.trans (Nat.le_succ _), fun l ls hget => ?_, h.rejected⟩
    rw [Dict.get?_set] at hget
    split at hget
    · obtain rfl := Option.some.inj hget
      exact Or.inr ⟨le_rfl, rfl⟩
    · exact h.socket l ls hget
  · exact t.modifyLink_unread _ _

lemma foldl_bindLink_unread (bindable : ℕ → Bool) (links : List (Link K)) :
    ∀ t : BondingTunnel K,
      Unread t (links.foldl (fun t link => t.bindLink link (bindable link.linkId)) t) := by
  induction links with
  | nil => exact fun t => .refl t
  | cons link links ih => exact fun t => (t.bindLink_unread link _).trans (ih _)

/-- What `_handle_datagram` does: it rejects what does not decode and what the socket's window
covers, and otherwise records the counter, and pushes a packet. -/
theorem handleDatagram_cases (t : BondingTunnel K) (linkId : ℕ) (data : Bytes) (now : Clock) :
    (t.sockets.get? linkId = none ∧ t.handleDatagram linkId data now = ([], t)) ∨
      ∃ ls, t.sockets.get? linkId = some ls ∧
        ((decodeFrame t.sealer data = none ∧
            t.handleDatagram linkId data now = ([], { t with rxRejected := t.rxRejected + 1 })) ∨
          ∃ f, decodeFrame t.sealer data = some f ∧
            ((ls.replay.Covers f.counter ∧
                t.handleDatagram linkId data now = ([], { t with rxRejected := t.rxRejected + 1 })) ∨
              (¬ ls.replay.Covers f.counter ∧ ∃ ls' : LinkSocket K, ls'.ident = ls.ident ∧
                ls'.replay = (ls.replay.checkAndUpdate f.counter).2 ∧
                (t.handleDatagram linkId data now).2 = { t with
                  sockets := t.sockets.set linkId ls'
                  reorder :=
                    if f.type = .data ∧ f.payload ≠ [] then
                      (t.reorder.push f.seq f.payload now.mono).2
                    else t.reorder }))) := by
  cases hls : t.sockets.get? linkId with
  | none => exact Or.inl ⟨rfl, by simp only [handleDatagram, hls]⟩
  | some ls =>
    refine Or.inr ⟨ls, rfl, ?_⟩
    cases hf : decodeFrame t.sealer data with
    | none => exact Or.inl ⟨rfl, by simp only [handleDatagram, hls, hf]⟩
    | some f =>
      refine Or.inr ⟨f, rfl, ?_⟩
      rcases ls.replay.checkAndUpdate_cases f.counter with ⟨hcov, heq⟩ | ⟨hcov, heq⟩
      · exact Or.inl ⟨hcov, by simp only [handleDatagram, hls, hf, heq]; rfl⟩
      · -- a packet, a sign of life from the other end, or neither
        refine Or.inr ⟨hcov, ?_⟩
        simp only [handleDatagram, hls, hf, heq, Bool.not_true, Bool.false_eq_true, if_false]
        split
        · refine ⟨_, ?_, ?_, rfl⟩ <;> rfl
        · split
          · refine ⟨_, ?_, ?_, rfl⟩ <;> rfl
          · refine ⟨_, ?_, ?_, rfl⟩ <;> rfl

variable [HasSqrt K]

/-- Only a datagram that is read changes a window or is rejected. -/
theorem step_unread {e : Event K} (he : ∀ linkId data now, e ≠ .datagram linkId data now) :
    Unread t (t.step e).2 := by
  cases e with
  | start bindable =>
    have h := foldl_bindLink_unread bindable t.scheduler.links t
    simp only [step, start]
    split
    · exact .refl t
    split
    · exact .refl t
    split
    · exact h
    · exact ⟨h.bound_le, h.socket, h.rejected⟩
  | handshake linkId now sendOk => exact t.sendControl_unread linkId .handshake now sendOk
  | handshakeReply linkId data now =>
    -- the answer is decoded, but it meets no window
    simp only [step, handshakeReply]
    split
    · rename_i ls f hls hf
      split
      · exact .set hls rfl rfl rfl rfl rfl
      · exact .refl t
    · exact .refl t
  | packet packet =>
    simp only [step, sendPacket]
    split
    · exact .of_sockets rfl rfl rfl
    · exact .of_sockets rfl rfl rfl
  | copy i now sendOk =>
    simp only [step, sendCopy]
    split
    · exact .refl t
    · exact .of_sockets rfl rfl rfl
    · rename_i seq packet linkId rest hget
      split
      · exact .of_sockets rfl rfl rfl
      · rename_i ls hls
        have h := transmit_unread (t := { t with
          sending := t.sending.set i { seq, packet, links := rest } }) hls .data seq packet now sendOk
        split
        · exact ⟨h.bound_le, h.socket, h.rejected⟩
        · exact ⟨h.bound_le, h.socket, h.rejected⟩
  | datagram linkId data now => exact absurd rfl (he linkId data now)
  | keepalive linkId now sendOk =>
    have h := t.sendControl_unread linkId .keepalive now sendOk
    simp only [step, keepalive]
    split
    · exact .refl t
    split
    · exact .refl t
    split
    · exact h
    · rename_i ls hls
      split
      · exact h.trans (.set hls rfl rfl rfl rfl rfl)
      · exact h
  | tick now => exact .of_sockets rfl rfl rfl
  | refresh links =>
    rw [step, refreshLinks]
    generalize links.map _ = links'
    exact .mapValues (f := fun ls => { ls with
      link := (links'.find? fun link => link.linkId = ls.link.linkId).getD ls.link })
      rfl rfl (fun _ => rfl) (fun _ => rfl) rfl
  | observe linkId f => exact t.modifyLink_unread _ _
  | stop => exact .of_sockets rfl rfl rfl
  | close linkId now sendOk =>
    exact (t.sendControl_unread linkId .close now sendOk).trans (modifyLink_unread _ _ _)
  | clear => exact ⟨le_rfl, by simp [step], rfl⟩

end Turbobond.Bond.BondingTunnel
