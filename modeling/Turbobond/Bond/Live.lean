import Turbobond.Bond.SchedulerSteps
import Turbobond.Bond.TunnelSteps

/-!
# A started tunnel

What happens to a tunnel between `start` and `stop`, and what it does to the two things that
decide where packets may go: the marks on the links, and the sockets.  A link changes its state
in `_transition` of `turbobond/links/monitor.py`, which has the supervisor refresh the tunnel
before anything else runs.
-/

set_option linter.unusedSectionVars false

namespace Turbobond.Bond.BondingTunnel

open Config Links Util

variable {K : Type} [Field K] [LinearOrder K]

/-- A socket is there for a link. -/
def HasSocket (t : BondingTunnel K) (linkId : ℕ) : Prop := (t.sockets.get? linkId).isSome

instance (t : BondingTunnel K) : DecidablePred t.HasSocket :=
  fun linkId => inferInstanceAs (Decidable ((t.sockets.get? linkId).isSome = true))

/-- Whether the socket of a link is handshaken, if there is one. -/
def pairing (t : BondingTunnel K) (linkId : ℕ) : Option Bool :=
  (t.sockets.get? linkId).map LinkSocket.handshaken

lemma hasSocket_iff {t : BondingTunnel K} {linkId : ℕ} :
    t.HasSocket linkId ↔ t.pairing linkId ≠ none := by
  rw [HasSocket, pairing, ne_eq, Option.map_eq_none_iff, Option.isSome_iff_ne_none]

/-- `_transition`, when the state is a new one, and the callback. -/
def transition (t : BondingTunnel K) (linkId : ℕ) (state : LinkState) : BondingTunnel K :=
  let changed := t.modifyLink linkId fun link => { link with state }
  changed.refreshLinks changed.scheduler.links

/-- The measurements of `probe_link`. -/
def measure (t : BondingTunnel K) (linkId : ℕ) (health : LinkHealth K)
    (uplinkMbps downlinkMbps : K) : BondingTunnel K :=
  t.modifyLink linkId fun link => { link with health, uplinkMbps, downlinkMbps }

/-- What can happen to a started tunnel. -/
inductive Live (K : Type) [Zero K] [One K] where
  | handshake (linkId : ℕ) (now : Time) (sendOk : Bool)
  | handshakeReply (linkId : ℕ) (data : Bytes) (now : Time)
  | packet (packet : Bytes)
  | copy (i : ℕ) (now : Time) (sendOk : Bool)
  | datagram (linkId : ℕ) (data : Bytes) (now : Clock)
  | keepalive (linkId : ℕ) (now : Time) (sendOk : Bool)
  | tick (now : Time)
  | refresh (links : List (Link K))
  | measure (linkId : ℕ) (health : LinkHealth K) (uplinkMbps downlinkMbps : K)
  | transition (linkId : ℕ) (state : LinkState)

variable [HasSqrt K]

def live (t : BondingTunnel K) : Live K → List Effect × BondingTunnel K
  | .handshake linkId now sendOk => t.step (.handshake linkId now sendOk)
  | .handshakeReply linkId data now => t.step (.handshakeReply linkId data now)
  | .packet packet => t.step (.packet packet)
  | .copy i now sendOk => t.step (.copy i now sendOk)
  | .datagram linkId data now => t.step (.datagram linkId data now)
  | .keepalive linkId now sendOk => t.step (.keepalive linkId now sendOk)
  | .tick now => t.step (.tick now)
  | .refresh links => t.step (.refresh links)
  | .measure linkId health uplinkMbps downlinkMbps =>
    ([], t.measure linkId health uplinkMbps downlinkMbps)
  | .transition linkId state => ([], t.transition linkId state)

/-- The state a list of events leads to. -/
def lives (t : BondingTunnel K) (events : List (Live K)) : BondingTunnel K :=
  (Machine.run live events t).2

@[simp] lemma lives_nil (t : BondingTunnel K) : t.lives [] = t := rfl

/-! ### What leaves links and pairings alone -/

variable {t t' t'' : BondingTunnel K} {linkId : ℕ}

/-- Neither the links nor the pairings have changed. -/
structure Still (t t' : BondingTunnel K) : Prop where
  links : t'.scheduler.links = t.scheduler.links
  pairing : t'.pairing = t.pairing

namespace Still

lemma refl (t : BondingTunnel K) : Still t t := ⟨rfl, rfl⟩

lemma trans (h : Still t t') (h' : Still t' t'') : Still t t'' :=
  ⟨h'.links.trans h.links, h'.pairing.trans h.pairing⟩

lemma of_sockets (hl : t'.scheduler.links = t.scheduler.links) (hs : t'.sockets = t.sockets) :
    Still t t' := by
  refine ⟨hl, funext fun k => ?_⟩
  rw [BondingTunnel.pairing, hs, BondingTunnel.pairing]

end Still

/-- Setting a socket sets its pairing. -/
lemma pairing_set {ls : LinkSocket K} (hs : t'.sockets = t.sockets.set linkId ls) (k : ℕ) :
    t'.pairing k = if k = linkId then some ls.handshaken else t.pairing k := by
  rw [pairing, hs, Dict.get?_set]
  split
  · rfl
  · rfl

lemma pairing_of_get? {ls : LinkSocket K} (h : t.sockets.get? linkId = some ls) :
    t.pairing linkId = some ls.handshaken := by
  rw [pairing, h, Option.map_some]

lemma transmit_still {ls : LinkSocket K} (h : t.sockets.get? linkId = some ls) (ft : FrameType)
    (seq : ℕ) (payload : Bytes) (now : Time) (sendOk : Bool) :
    Still t (t.transmit linkId ls ft seq payload now sendOk).2 := by
  obtain ⟨out, tx, bytes, ts, heq, -⟩ := t.transmit_cases linkId ls ft seq payload now sendOk
  rw [heq]
  refine ⟨rfl, funext fun k => (pairing_set rfl k).trans ?_⟩
  split
  · rename_i hk
    rw [hk, pairing_of_get? h]
  · rfl

lemma sendControl_still (t : BondingTunnel K) (linkId : ℕ) (ft : FrameType) (now : Time)
    (sendOk : Bool) : Still t (t.sendControl linkId ft now sendOk).2 := by
  rw [sendControl]
  split
  · exact .refl t
  · rename_i ls h
    exact transmit_still h _ _ _ _ _

lemma sendCopy_still (t : BondingTunnel K) (i : ℕ) (now : Time) (sendOk : Bool) :
    Still t (t.sendCopy i now sendOk).2 := by
  simp only [sendCopy]
  split
  · exact .refl t
  · exact .of_sockets rfl rfl
  · rename_i seq packet lid rest _
    have hstill : Still t { t with sending := t.sending.set i { seq, packet, links := rest } } :=
      .of_sockets rfl rfl
    split
    · exact hstill
    · rename_i ls h
      have hsent := hstill.trans (transmit_still
        (t := { t with sending := t.sending.set i { seq, packet, links := rest } })
        h .data seq packet now sendOk)
      split
      · exact hsent.trans (.of_sockets rfl rfl)
      · exact hsent

lemma sendPacket_still (t : BondingTunnel K) (packet : Bytes) : Still t (t.sendPacket packet) := by
  have hlinks := fun critical => (t.scheduler.select_works packet.length critical).links_eq
  simp only [sendPacket]
  split
  · exact .of_sockets (hlinks _) rfl
  · exact .of_sockets (hlinks _) rfl

/-! ### What does not -/

/-- The link that an event pairs: a handshake or the reader of its socket takes a datagram. -/
def pairedBy (t : BondingTunnel K) : Live K → Option ℕ
  | .handshakeReply linkId data _ =>
    match t.sockets.get? linkId, decodeFrame t.sealer data with
    | some _, some frame =>
      if frame.type = .handshakeAck ∨ frame.type = .keepalive then some linkId else none
    | _, _ => none
  | .datagram linkId data _ =>
    match t.sockets.get? linkId, decodeFrame t.sealer data with
    | some ls, some frame =>
      if (ls.replay.checkAndUpdate frame.counter).1 ∧ frame.type ≠ .close then some linkId else none
    | _, _ => none
  | _ => none

/-- A link with the mark that `refresh_links` puts on it. -/
def mark (t : BondingTunnel K) (link : Link K) : Link K :=
  { link with tunnelReady := (t.pairing link.linkId).getD false }

/-- What an event does to links and pairings; `paired` is the link it pairs. -/
inductive Moves (t t' : BondingTunnel K) : Option ℕ → Prop
  | still (h : Still t t') : Moves t t' none
  | pairs (linkId : ℕ) (hs : t.HasSocket linkId) (hl : t'.scheduler.links = t.scheduler.links)
      (hp : t'.pairing = Function.update t.pairing linkId (some true)) : Moves t t' (some linkId)
  | unpairs (linkId : ℕ) (hs : t.HasSocket linkId) (hl : t'.scheduler.links = t.scheduler.links)
      (hp : t'.pairing = Function.update t.pairing linkId (some false)) : Moves t t' none
  | marks (links : List (Link K)) (hl : t'.scheduler.links = links.map t.mark)
      (hp : t'.pairing = t.pairing) : Moves t t' none
  | measures (f : Link K → Link K) (hl : t'.scheduler.links = t.scheduler.links.map f)
      (hid : ∀ link, (f link).linkId = link.linkId) (hu : ∀ link, (f link).usable = link.usable)
      (hr : ∀ link, (f link).tunnelReady = link.tunnelReady) (hp : t'.pairing = t.pairing) :
      Moves t t' none

lemma pairing_set_eq {ls : LinkSocket K} {paired : Bool}
    (hs : t'.sockets = t.sockets.set linkId ls) (h : ls.handshaken = paired) :
    t'.pairing = Function.update t.pairing linkId (some paired) := by
  funext k
  rw [pairing_set hs, Function.update_apply, h]

lemma moves_handshakeReply (t : BondingTunnel K) (linkId : ℕ) (data : Bytes) (now : Time) :
    Moves t (t.handshakeReply linkId data now) (t.pairedBy (.handshakeReply linkId data now)) := by
  cases hget : t.sockets.get? linkId with
  | none =>
    simp only [handshakeReply, pairedBy, hget]
    exact .still (.refl t)
  | some ls =>
    cases hdec : decodeFrame t.sealer data with
    | none =>
      simp only [handshakeReply, pairedBy, hget, hdec]
      exact .still (.refl t)
    | some frame =>
      by_cases htype : frame.type = .handshakeAck ∨ frame.type = .keepalive
      · simp only [handshakeReply, pairedBy, hget, hdec, if_pos htype]
        exact .pairs linkId (by simp [HasSocket, hget]) rfl (pairing_set_eq rfl rfl)
      · simp only [handshakeReply, pairedBy, hget, hdec, if_neg htype]
        exact .still (.refl t)

lemma moves_datagram (t : BondingTunnel K) (linkId : ℕ) (data : Bytes) (now : Clock) :
    Moves t (t.handleDatagram linkId data now).2 (t.pairedBy (.datagram linkId data now)) := by
  cases hget : t.sockets.get? linkId with
  | none =>
    simp only [handleDatagram, pairedBy, hget]
    exact .still (.refl t)
  | some ls =>
    have hs : t.HasSocket linkId := by simp [HasSocket, hget]
    cases hdec : decodeFrame t.sealer data with
    | none =>
      simp only [handleDatagram, pairedBy, hget, hdec]
      exact .still (.of_sockets rfl rfl)
    | some frame =>
      cases hfresh : (ls.replay.checkAndUpdate frame.counter).1 with
      | false =>
        simp only [handleDatagram, pairedBy, hget, hdec, hfresh, Bool.not_false, if_true,
          Bool.false_eq_true, false_and, if_false]
        exact .still (.of_sockets rfl rfl)
      | true =>
        simp only [handleDatagram, pairedBy, hget, hdec, hfresh, Bool.not_true, Bool.false_eq_true,
          if_false, true_and]
        by_cases hclose : frame.type = .close
        · have hdata : ¬ (frame.type = .data ∧ frame.payload ≠ []) := by simp [hclose]
          simp only [if_neg hdata, if_pos hclose, if_neg (not_not.2 hclose)]
          exact .unpairs linkId hs rfl (pairing_set_eq rfl rfl)
        · simp only [if_pos hclose, if_neg hclose]
          split
          · exact .pairs linkId hs rfl (pairing_set_eq rfl rfl)
          · exact .pairs linkId hs rfl (pairing_set_eq rfl rfl)

lemma moves_keepalive (t : BondingTunnel K) (linkId : ℕ) (now : Time) (sendOk : Bool) :
    Moves t (t.keepalive linkId now sendOk).2 none := by
  simp only [keepalive]
  split
  · exact .still (.refl t)
  split
  · exact .still (.refl t)
  have hsent := t.sendControl_still linkId .keepalive now sendOk
  split
  · exact .still hsent
  · rename_i ls hget
    split
    · have hs : t.HasSocket linkId := by
        rw [hasSocket_iff, ← hsent.pairing, ← hasSocket_iff, HasSocket, hget]
        rfl
      refine .unpairs linkId hs hsent.links ?_
      rw [← hsent.pairing]
      exact pairing_set_eq rfl rfl
    · exact .still hsent

lemma pairing_mapValues {f : LinkSocket K → LinkSocket K} (hs : t'.sockets = t.sockets.mapValues f)
    (hf : ∀ ls, (f ls).handshaken = ls.handshaken) : t'.pairing = t.pairing := by
  funext k
  rw [pairing, hs, Dict.get?_mapValues, Option.map_map, pairing]
  exact congrArg (fun g => Option.map g (t.sockets.get? k)) (funext hf)

lemma pairing_modifyLink (t : BondingTunnel K) (linkId : ℕ) (f : Link K → Link K) :
    (t.modifyLink linkId f).pairing = t.pairing := by
  refine pairing_mapValues (t := t) (f := fun ls =>
    if ls.link.linkId = linkId then { ls with link := f ls.link } else ls) rfl fun ls => ?_
  split
  · rfl
  · rfl

lemma scheduler_syncCounters_links (s : BondScheduler K) : s.syncCounters.links = s.links := by
  have hworks : BondScheduler.Works s s.syncCounters :=
    BondScheduler.foldl_works _ (fun s link => s.works_setCounters _ _) s.links s
  exact hworks.links_eq

lemma links_refreshLinks (t : BondingTunnel K) (links : List (Link K)) :
    (t.refreshLinks links).scheduler.links = links.map t.mark := by
  simp only [refreshLinks, BondScheduler.setLinks, scheduler_syncCounters_links]
  rfl

lemma pairing_refreshLinks (t : BondingTunnel K) (links : List (Link K)) :
    (t.refreshLinks links).pairing = t.pairing := by
  funext k
  simp only [pairing, refreshLinks, Dict.get?_mapValues, Option.map_map]
  rfl

lemma mark_congr (h : t'.pairing = t.pairing) : t'.mark = t.mark := by
  funext link
  rw [mark, h, mark]

lemma moves_measure (t : BondingTunnel K) (linkId : ℕ) (health : LinkHealth K)
    (uplinkMbps downlinkMbps : K) :
    Moves t (t.measure linkId health uplinkMbps downlinkMbps) none := by
  refine .measures (fun link => if link.linkId = linkId then
    { link with health, uplinkMbps, downlinkMbps } else link) rfl (fun link => ?_) (fun link => ?_)
    (fun link => ?_) (t.pairing_modifyLink _ _)
  · split
    · rfl
    · rfl
  · split
    · rfl
    · rfl
  · split
    · rfl
    · rfl

lemma moves_transition (t : BondingTunnel K) (linkId : ℕ) (state : LinkState) :
    Moves t (t.transition linkId state) none := by
  have hpairing := t.pairing_modifyLink linkId fun link => { link with state }
  refine .marks (t.modifyLink linkId fun link => { link with state }).scheduler.links ?_
    ((pairing_refreshLinks _ _).trans hpairing)
  rw [← mark_congr hpairing]
  exact links_refreshLinks _ _

/-- What an event does to links and pairings. -/
theorem moves_live (t : BondingTunnel K) (e : Live K) : Moves t (t.live e).2 (t.pairedBy e) := by
  cases e with
  | handshake linkId now sendOk => exact .still (t.sendControl_still linkId .handshake now sendOk)
  | handshakeReply linkId data now => exact t.moves_handshakeReply linkId data now
  | packet packet => exact .still (t.sendPacket_still packet)
  | copy i now sendOk => exact .still (t.sendCopy_still i now sendOk)
  | datagram linkId data now => exact t.moves_datagram linkId data now
  | keepalive linkId now sendOk => exact t.moves_keepalive linkId now sendOk
  | tick now => exact .still (.of_sockets rfl rfl)
  | refresh links => exact .marks links (t.links_refreshLinks links) (t.pairing_refreshLinks links)
  | measure linkId health uplinkMbps downlinkMbps =>
    exact t.moves_measure linkId health uplinkMbps downlinkMbps
  | transition linkId state => exact t.moves_transition linkId state

end Turbobond.Bond.BondingTunnel
