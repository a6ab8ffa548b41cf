import Turbobond.Bond.System

/-!
# Nonces

Every `LinkSocket` and every `PeerLink` counts its datagrams from one, and the nonce is made
of the link id and this count.  So the nonces of a run are pairwise distinct when each link
id is used by one such object only; and, as long as no count was used up in vain, only then.
-/

set_option linter.unusedSectionVars false

namespace Turbobond.Bond.System

open Links Util

variable {K : Type} [Field K] [LinearOrder K] [HasSqrt K]

/-- The holder numbered `id` of a party counts under link id `l` and has reached `c`. -/
def Counting (sys : System K) : Party → ℕ → ℕ → ℕ → Prop
  | .server => sys.server.Counting
  | .client i => fun id l c => ∃ t, sys.clients[i]? = some t ∧ t.Counting id l c

/-- A number no holder of a party has had. -/
def Fresh (sys : System K) : Party → ℕ → Prop
  | .server => (sys.server.handled ≤ ·)
  | .client i => fun id => ∀ t, sys.clients[i]? = some t → t.bound ≤ id

section Clients

variable {sys : System K} {i : ℕ} {t : BondingTunnel K}

lemma counting_client (ht : sys.clients[i]? = some t) :
    sys.Counting (.client i) = t.Counting := by
  funext id l c
  simp [Counting, ht]

lemma fresh_client (ht : sys.clients[i]? = some t) : sys.Fresh (.client i) = (t.bound ≤ ·) := by
  funext id
  simp [Fresh, ht]

/-- What another party counts does not depend on a client's state. -/
lemma counting_set_client (sys : System K) (u : BondingTunnel K) {party : Party}
    (hp : party ≠ .client i) :
    Counting { sys with clients := sys.clients.set i u } party = sys.Counting party := by
  cases party with
  | server => rfl
  | client j =>
    have hj : i ≠ j := fun hij => hp (hij ▸ rfl)
    funext id l c
    simp [Counting, List.getElem?_set_ne hj]

lemma fresh_set_client (sys : System K) (u : BondingTunnel K) {party : Party}
    (hp : party ≠ .client i) :
    Fresh { sys with clients := sys.clients.set i u } party = sys.Fresh party := by
  cases party with
  | server => rfl
  | client j =>
    have hj : i ≠ j := fun hij => hp (hij ▸ rfl)
    funext id
    simp [Fresh, List.getElem?_set_ne hj]

lemma getElem?_join {u : BondingTunnel K} (h : (sys.clients ++ [u])[i]? = some t) :
    sys.clients[i]? = some t ∨ t = u := by
  rw [List.getElem?_append] at h
  split at h
  · exact Or.inl h
  · exact Or.inr (List.mem_singleton.1 (List.mem_of_getElem? h))

/-- A new client has no sockets, so nobody counts who did not before. -/
lemma ledgerStep_join (sys : System K) {u : BondingTunnel K}
    (hu : ∀ linkId, u.sockets.get? linkId = none) (lost : Prop) :
    LedgerStep (fun x : Party × ℕ => sys.Counting x.1 x.2) (fun x => sys.Fresh x.1 x.2) [] lost
      (fun x => Counting { sys with clients := sys.clients ++ [u] } x.1 x.2)
      (fun x => Fresh { sys with clients := sys.clients ++ [u] } x.1 x.2) := by
  refine .idle ?_ ?_
  · rintro ⟨party, id⟩ hf
    cases party with
    | server => exact hf
    | client i =>
      intro t ht
      refine hf t ?_
      rw [List.getElem?_append_left (List.getElem?_eq_some_iff.1 ht).1]
      exact ht
  · rintro ⟨party, id⟩ l c hc
    refine Or.inl ?_
    cases party with
    | server => exact hc
    | client i =>
      obtain ⟨t, ht, ls, hls, hcount⟩ := hc
      rcases getElem?_join ht with ht | rfl
      · exact ⟨t, ht, ls, hls, hcount⟩
      · exact absurd ((hu l).symm.trans hls) (by simp)

end Clients

/-- A counter was used up without a datagram. -/
def LostIn (out : List (Party × Effect)) : Prop := ∃ party e, (party, Effect.raise e) ∈ out

/-- The parties after a run, and the log of what they have sealed. -/
structure Inv (sys : System K) (hist : List (Party × Effect)) : Prop where
  bound : ∀ (i : ℕ) (t : BondingTunnel K), sys.clients[i]? = some t →
    t.Bound ∧ t.sealer = sys.server.sealer
  keyed : sys.server.Keyed
  numbered : sys.server.Numbered
  ledger : Ledger (fun x : Party × ℕ => sys.Counting x.1 x.2) (fun x => sys.Fresh x.1 x.2)
    (LostIn hist) (entries hist)
  encoded : ∀ x ∈ sealedBy hist, encodeFrame sys.server.sealer x.2.frame = .ok x.2.datagram

lemma entries_append (out out' : List (Party × Effect)) :
    entries (out ++ out') = entries out ++ entries out' := by
  simp only [entries, sealedBy_append, List.map_append]

lemma entries_map (party : Party) (out : List Effect) :
    entries (out.map fun x => (party, x)) =
      ((sends out).map Sealed.entry).map fun a => ⟨(party, a.holder), a.label, a.number⟩ := by
  simp only [entries, sealedBy_map, List.map_map]
  rfl

lemma lostIn_map {party : Party} {out : List Effect} (h : Lost out) :
    LostIn (out.map fun x => (party, x)) := by
  obtain ⟨e, he⟩ := h
  exact ⟨party, e, List.mem_map_of_mem he⟩

lemma inv_start (sealer : Sealer) (reorderTimeoutMs : ℚ) :
    Inv (start K sealer reorderTimeoutMs) [] where
  bound := by simp [start]
  keyed := ConcentratorServer.keyed_of_empty rfl
  numbered := ⟨by simp [start, ConcentratorServer.start, ConcentratorServer.peer?],
    by simp [start, ConcentratorServer.start, ConcentratorServer.peer?]⟩
  ledger := by
    refine Ledger.empty ?_
    rintro ⟨party, id⟩ l c h
    cases party with
    | server =>
      obtain ⟨sid, p, hp, -⟩ := h
      simp [start, ConcentratorServer.start, ConcentratorServer.peer?] at hp
    | client i =>
      obtain ⟨t, ht, -⟩ := h
      simp [start] at ht
  encoded := by simp [sealedBy]

/-- A step of one party's ledger keeps the log in step. -/
lemma ledger_step {sys sys' : System K} {hist : List (Party × Effect)} (h : Inv sys hist)
    (party : Party) {out : List Effect}
    (hs : LedgerStep (sys.Counting party) (sys.Fresh party) ((sends out).map Sealed.entry)
      (Lost out) (sys'.Counting party) (sys'.Fresh party))
    (hc : ∀ p, p ≠ party → sys'.Counting p = sys.Counting p)
    (hf : ∀ p, p ≠ party → sys'.Fresh p = sys.Fresh p) :
    Ledger (fun x : Party × ℕ => sys'.Counting x.1 x.2) (fun x => sys'.Fresh x.1 x.2)
      (LostIn (hist ++ out.map fun x => (party, x)))
      (entries (hist ++ out.map fun x => (party, x))) := by
  rw [entries_append, entries_map]
  have hlift := hs.lift party (fun p hp _ _ _ hl => hc p hp ▸ hl) fun p hp _ hl => hf p hp ▸ hl
  refine h.ledger.step (hlift.of_lost fun hlost => ?_) ?_
  · obtain ⟨p, e, he⟩ := lostIn_map hlost
    exact ⟨p, e, List.mem_append_right _ he⟩
  · rintro ⟨p, e, he⟩
    exact ⟨p, e, List.mem_append_left _ he⟩

/-- What was sealed stays encoded under the key. -/
lemma encoded_append {sealer : Sealer} {hist : List (Party × Effect)} {party : Party}
    {out : List Effect} (h : ∀ x ∈ sealedBy hist, encodeFrame sealer x.2.frame = .ok x.2.datagram)
    (hout : ∀ sent ∈ sends out, encodeFrame sealer sent.frame = .ok sent.datagram) :
    ∀ x ∈ sealedBy (hist ++ out.map fun x => (party, x)),
      encodeFrame sealer x.2.frame = .ok x.2.datagram := by
  intro x hx
  rw [sealedBy_append, sealedBy_map, List.mem_append] at hx
  rcases hx with hx | hx
  · exact h x hx
  · obtain ⟨sent, hsent, rfl⟩ := List.mem_map.1 hx
    exact hout sent hsent

/-- Every step keeps the parties and their log in step. -/
theorem Inv.step {sys : System K} {hist : List (Party × Effect)} (h : Inv sys hist)
    (e : Event K) : Inv (sys.step e).2 (hist ++ (sys.step e).1) := by
  cases e with
  | join cfg sessionId links sip mode =>
    have hnew := BondingTunnel.bound_of_empty
      (t := (.new cfg sys.server.sealer sessionId links sip mode : BondingTunnel K)) rfl
    rw [System.step, List.append_nil]
    refine ⟨?_, h.keyed, h.numbered, ?_, h.encoded⟩
    · intro i t ht
      rcases getElem?_join ht with ht | rfl
      · exact h.bound i t ht
      · exact ⟨hnew, rfl⟩
    · rw [← List.append_nil (entries hist)]
      exact h.ledger.step (ledgerStep_join sys (fun _ => rfl) _) id
  | client i e =>
    cases ht : sys.clients[i]? with
    | none =>
      rw [step_client_of_none ht, List.append_nil]
      exact h
    | some t =>
      obtain ⟨hb, hsealer⟩ := h.bound i t ht
      obtain ⟨hhands, hb'⟩ := BondingTunnel.step_hands hb e
      obtain ⟨hsealer', -⟩ := t.step_const e
      have hself := clients_step ht e
      rw [step_client ht] at hself ⊢
      -- the client's part of the ledger moves, and no other
      refine ⟨?_, h.keyed, h.numbered, ?_, ?_⟩
      · intro j u hu
        by_cases hj : i = j
        · subst hj
          obtain rfl := Option.some.inj (hself.symm.trans hu)
          exact ⟨hb', hsealer'.trans hsealer⟩
        · exact h.bound j u (by rwa [List.getElem?_set_ne hj] at hu)
      · refine ledger_step h (.client i) ?_ (fun _ => counting_set_client sys _)
          fun _ => fresh_set_client sys _
        rw [counting_client ht, fresh_client ht, counting_client hself, fresh_client hself]
        exact hhands
      · refine encoded_append h.encoded fun sent hsent => ?_
        rw [← hsealer]
        exact (BondingTunnel.sends_step hsent).1
  | server e =>
    obtain ⟨hhands, hn'⟩ := ConcentratorServer.step_hands h.keyed h.numbered e
    have hsealer := sys.server.step_sealer e
    refine ⟨?_, h.keyed.step e, hn', ?_, ?_⟩
    · intro i t ht
      obtain ⟨hb, hs⟩ := h.bound i t ht
      exact ⟨hb, hs.trans hsealer.symm⟩
    · refine ledger_step h .server hhands ?_ ?_
      · intro p hp
        cases p with
        | server => exact absurd rfl hp
        | client i => rfl
      · intro p hp
        cases p with
        | server => exact absurd rfl hp
        | client i => rfl
    · simp only [System.step, hsealer]
      exact encoded_append h.encoded fun sent hsent =>
        (ConcentratorServer.sends_step h.keyed hsent).1

/-- The parties and their log after a run. -/
theorem inv_run (sealer : Sealer) (reorderTimeoutMs : ℚ) (events : List (Event K)) :
    Inv (run events (start K sealer reorderTimeoutMs)).2
      (run events (start K sealer reorderTimeoutMs)).1 := by
  have h := Machine.run_invariant (I := Inv) System.step (fun _ _ e h => h.step e) events
    (inv_start sealer reorderTimeoutMs)
  rwa [List.nil_append] at h

/-! ### Distinct nonces -/

/-- The nonces a run has sealed under. -/
def nonces (out : List (Party × Effect)) : List (Except PyError Bytes) :=
  (sealedBy out).map fun x => Sealer.nonce x.2.frame.linkId x.2.frame.counter

/-- Each link id is used by one `LinkSocket` or `PeerLink` only, over the whole run. -/
def OneHolder (out : List (Party × Effect)) : Prop :=
  ∀ x ∈ sealedBy out, ∀ y ∈ sealedBy out, x.2.frame.linkId = y.2.frame.linkId →
    x.1 = y.1 ∧ x.2.holder = y.2.holder

/-- No counter has gone past `2 ^ 64`. -/
def Unwrapped (out : List (Party × Effect)) : Prop :=
  ∀ x ∈ sealedBy out, x.2.frame.counter ≤ 2 ^ 64

/-- Nonces are distinct exactly when the pairs of link id and count, modulo `2 ^ 64`, are. -/
lemma nodup_nonces_iff {sys : System K} {hist : List (Party × Effect)} (h : Inv sys hist) :
    (nonces hist).Nodup ↔ ((entries hist).map fun a => (a.label, a.number % 2 ^ 64)).Nodup := by
  rw [nonces, entries, List.map_map, List.Nodup, List.Nodup, List.pairwise_map, List.pairwise_map]
  refine List.Pairwise.iff_of_mem fun {x y} hx hy => not_congr ?_
  obtain ⟨-, hlx, -⟩ := encodeFrame_eq_ok_iff.1 (h.encoded x hx)
  obtain ⟨-, hly, -⟩ := encodeFrame_eq_ok_iff.1 (h.encoded y hy)
  rw [nonce_eq_iff hlx hly]
  exact Prod.mk.injEq .. ▸ Iff.rfl

/-- **Nonces.**  Over any run of any number of clients and the concentrator, all datagrams are
sealed under different nonces if every link id is used by one `LinkSocket` or `PeerLink`
only and none of them counts past `2 ^ 64`; and in a run that uses up no counter in vain,
only then. -/
theorem nonces_distinct (sealer : Sealer) (reorderTimeoutMs : ℚ) (events : List (Event K)) :
    let out := (run events (start K sealer reorderTimeoutMs)).1
    (OneHolder out ∧ Unwrapped out → (nonces out).Nodup) ∧
      (¬ LostIn out → (nonces out).Nodup → OneHolder out ∧ Unwrapped out) := by
  have h := inv_run sealer reorderTimeoutMs events
  intro out
  constructor
  · rintro ⟨hone, hunwrapped⟩
    rw [nodup_nonces_iff h]
    refine h.ledger.nodup_of_one_holder ?_ ?_
    · intro a ha b hb hab
      obtain ⟨x, hx, rfl⟩ := List.mem_map.1 ha
      obtain ⟨y, hy, rfl⟩ := List.mem_map.1 hb
      obtain ⟨h₁, h₂⟩ := hone x hx y hy hab
      exact Prod.ext h₁ h₂
    · intro a ha
      obtain ⟨x, hx, rfl⟩ := List.mem_map.1 ha
      exact hunwrapped x hx
  · intro hlost hnd
    rw [nodup_nonces_iff h] at hnd
    obtain ⟨hone, hunwrapped⟩ := h.ledger.one_holder_of_nodup hlost (by norm_num) hnd
    constructor
    · intro x hx y hy hxy
      exact Prod.mk.inj (hone _ (List.mem_map_of_mem hx) _ (List.mem_map_of_mem hy) hxy)
    · exact fun x hx => hunwrapped _ (List.mem_map_of_mem hx)

/-- One client with one uplink, up to the answer to its handshake. -/
def handshakeRun : List (Event ℚ) :=
  [.join { enabled := true, host := "198.51.100.1" } 7
      [{ name := "wan0", interface := "wwan0", linkId := 1 }] none .weighted,
    .client 0 (.start fun _ => true),
    .client 0 (.handshake 1 1000 true),
    .server (.datagram
      (datagram ⟨Aead.plain⟩ { type := .handshake, sessionId := 7, linkId := 1, counter := 1 })
      ("203.0.113.5", 40000) ⟨1000, 0⟩ true)]

/-- The handshake and its answer are sealed under one nonce. -/
theorem handshake_nonce_reused :
    ¬ (nonces (run handshakeRun (start ℚ ⟨Aead.plain⟩ 90)).1).Nodup := by
  decide +kernel

end Turbobond.Bond.System
