import Turbobond.Bond.ServerLedger
import Turbobond.Bond.TunnelSteps

/-!
# The whole bond

Any number of client tunnels and one concentrator, which share one key.  A tunnel may join at
any time, and a client that is started again joins as a new one; what its sockets and the
concentrator's read is given with the event, so the network may deliver anything.
-/

namespace Turbobond.Bond

open Config Links Util

/-- The two kinds of holders of the key. -/
inductive Party where
  | client (i : ℕ)
  | server
  deriving DecidableEq

structure System (K : Type) [Zero K] [One K] where
  clients : List (BondingTunnel K) := []
  server : ConcentratorServer

namespace System

/-- No client yet. -/
def start (K : Type) [Zero K] [One K] (sealer : Sealer) (reorderTimeoutMs : ℚ) : System K :=
  { server := .start sealer reorderTimeoutMs }

inductive Event (K : Type) [Zero K] [One K] where
  /-- A tunnel is made, under the concentrator's key. -/
  | join (cfg : ConcentratorConfig) (sessionId : ℕ) (links : List (Link K))
      (sip : Option SipConfig) (mode : SchedulerMode)
  | client (i : ℕ) (e : BondingTunnel.Event K)
  | server (e : ConcentratorServer.Event)

variable {K : Type} [Field K] [LinearOrder K]

/-- What was sealed, and by whom, among some effects. -/
def sealedBy (out : List (Party × Effect)) : List (Party × Sealed) :=
  out.filterMap fun
    | (party, .send sent) => some (party, sent)
    | _ => none

section Step

variable [HasSqrt K]

def step (sys : System K) : Event K → List (Party × Effect) × System K
  | .join cfg sessionId links sip mode =>
    ([], { sys with
      clients := sys.clients ++ [.new cfg sys.server.sealer sessionId links sip mode] })
  | .client i e =>
    match sys.clients[i]? with
    | none => ([], sys)
    | some t =>
      let (out, t) := t.step e
      (out.map fun x => (.client i, x), { sys with clients := sys.clients.set i t })
  | .server e =>
    let (out, server) := sys.server.step e
    (out.map fun x => (.server, x), { sys with server })

def run (events : List (Event K)) (sys : System K) : List (Party × Effect) × System K :=
  Machine.run step events sys

end Step

/-! ### What was sealed -/

lemma sealedBy_append (out out' : List (Party × Effect)) :
    sealedBy (out ++ out') = sealedBy out ++ sealedBy out' := List.filterMap_append

lemma sealedBy_map (party : Party) (out : List Effect) :
    sealedBy (out.map fun x => (party, x)) = (sends out).map fun sent => (party, sent) := by
  rw [sealedBy, sends, List.filterMap_map, List.map_filterMap]
  refine List.filterMap_congr fun e _ => ?_
  cases e <;> rfl

/-- An event of a client that has not joined does nothing. -/
lemma step_client_of_none [HasSqrt K] {sys : System K} {i : ℕ} (hi : sys.clients[i]? = none)
    (e : BondingTunnel.Event K) : sys.step (.client i e) = ([], sys) := by
  simp only [step, hi]

lemma step_client [HasSqrt K] {sys : System K} {i : ℕ} {t : BondingTunnel K}
    (ht : sys.clients[i]? = some t) (e : BondingTunnel.Event K) :
    sys.step (.client i e) = ((t.step e).1.map fun x => (.client i, x),
      { sys with clients := sys.clients.set i (t.step e).2 }) := by
  simp only [step, ht]

lemma clients_step [HasSqrt K] {sys : System K} {i : ℕ} {t : BondingTunnel K}
    (ht : sys.clients[i]? = some t) (e : BondingTunnel.Event K) :
    (sys.step (.client i e)).2.clients[i]? = some (t.step e).2 := by
  rw [step_client ht]
  exact List.getElem?_set_self (List.getElem?_eq_some_iff.1 ht).1

/-- A step as the first client sees it: its own, the concentrator's, or one that concerns
neither. -/
lemma step_cases [HasSqrt K] {sys : System K} {t : BondingTunnel K} (ht : sys.clients[0]? = some t)
    (e : Event K) :
    (∃ e', e = .client 0 e' ∧ (sys.step e).1 = (t.step e').1.map (fun x => (.client 0, x)) ∧
        (sys.step e).2.clients[0]? = some (t.step e').2 ∧ (sys.step e).2.server = sys.server) ∨
      (∃ e', e = .server e' ∧ (sys.step e).1 = (sys.server.step e').1.map (fun x => (.server, x)) ∧
        (sys.step e).2.clients[0]? = some t ∧ (sys.step e).2.server = (sys.server.step e').2) ∨
      ((sys.step e).2.clients[0]? = some t ∧ (sys.step e).2.server = sys.server ∧
        ∃ (i : ℕ) (out : List Effect), i ≠ 0 ∧ (sys.step e).1 = out.map (fun x => (.client i, x))) := by
  have hlt := (List.getElem?_eq_some_iff.1 ht).1
  cases e with
  | join cfg sessionId links sip mode =>
    refine Or.inr (Or.inr ⟨?_, rfl, 1, [], one_ne_zero, rfl⟩)
    exact (List.getElem?_append_left hlt).trans ht
  | server e => exact Or.inr (Or.inl ⟨e, rfl, rfl, ht, rfl⟩)
  | client i e =>
    by_cases hi : i = 0
    · subst hi
      refine Or.inl ⟨e, rfl, ?_, clients_step ht e, ?_⟩
      · rw [step_client ht]
      · rw [step_client ht]
    · refine Or.inr (Or.inr ?_)
      cases hu : sys.clients[i]? with
      | none =>
        rw [step_client_of_none hu]
        exact ⟨ht, rfl, i, [], hi, rfl⟩
      | some u =>
        rw [step_client hu]
        exact ⟨(List.getElem?_set_ne hi).trans ht, rfl, i, _, hi, rfl⟩

/-- The packets a party has written to its TUN device for a session. -/
def writesBy (party : Party) (sid : ℕ) (out : List (Party × Effect)) : List Bytes :=
  writes sid ((out.filter fun x => x.1 = party).map Prod.snd)

lemma writesBy_append (party : Party) (sid : ℕ) (out out' : List (Party × Effect)) :
    writesBy party sid (out ++ out') = writesBy party sid out ++ writesBy party sid out' := by
  rw [writesBy, List.filter_append, List.map_append, writes_append, writesBy, writesBy]

lemma writesBy_map (party party' : Party) (sid : ℕ) (out : List Effect) :
    writesBy party sid (out.map fun x => (party', x)) =
      if party' = party then writes sid out else [] := by
  rw [writesBy, List.filter_map, List.map_map]
  split
  · rename_i h
    rw [List.filter_eq_self.2 fun _ _ => by simpa using h]
    simp only [Function.comp_def, List.map_id']
  · rename_i h
    rw [List.filter_eq_nil_iff.2 fun _ _ => by simpa using h]
    rfl

/-- The log of what was sealed, as the ledger keeps it. -/
def entries (out : List (Party × Effect)) : List (Entry (Party × ℕ) ℕ) :=
  (sealedBy out).map fun x => ⟨(x.1, x.2.holder), x.2.frame.linkId, x.2.frame.counter⟩

end System

end Turbobond.Bond
