import Turbobond.Bond.Network

/-!
# The bond across silence

The concentrator forgets a link or a session that falls silent, and counts from one again
when it comes back, while the client forgets neither a counter nor a sequence number.  What
comes down is taken as long as its numbers do not clash with what the client remembers of
links and sessions that the concentrator has forgotten.
-/

set_option linter.unusedSectionVars false

namespace Turbobond.Bond.Network

open Config Links Util Turbobond.Bond.System

variable {K : Type} [Field K] [LinearOrder K]

/-- No datagram was refused by a replay window, and no packet discarded by the reorder buffer. -/
structure Undisturbed (t : BondingTunnel K) : Prop where
  rejected : t.rxRejected = 0
  duplicates : t.reorder.stats.duplicates = 0
  lateDrops : t.reorder.stats.lateDrops = 0

/-! ### What the client has received -/

/-- The counters read from a socket. -/
def counters (arrived : List (ℕ × Sealed)) (id : ℕ) : Set ℕ :=
  {c | ∃ a ∈ arrived, a.1 = id ∧ a.2.frame.counter = c}

lemma counters_concat_self (arrived : List (ℕ × Sealed)) (id : ℕ) (x : Sealed) :
    counters (arrived ++ [(id, x)]) id = insert x.frame.counter (counters arrived id) := by
  ext c
  simp only [counters, List.mem_append, List.mem_singleton, Set.mem_ofPred_eq, Set.mem_insert_iff]
  constructor
  · rintro ⟨a, ha | rfl, haid, rfl⟩
    · exact Or.inr ⟨a, ha, haid, rfl⟩
    · exact Or.inl rfl
  · rintro (rfl | ⟨a, ha, haid, rfl⟩)
    · exact ⟨_, Or.inr rfl, rfl, rfl⟩
    · exact ⟨a, Or.inl ha, haid, rfl⟩

lemma counters_concat_of_ne (arrived : List (ℕ × Sealed)) {id id' : ℕ} (h : id' ≠ id) (x : Sealed) :
    counters (arrived ++ [(id', x)]) id = counters arrived id := by
  ext c
  simp only [counters, List.mem_append, List.mem_singleton, Set.mem_ofPred_eq]
  constructor
  · rintro ⟨a, ha | rfl, haid, rfl⟩
    · exact ⟨a, ha, haid, rfl⟩
    · exact absurd haid h
  · rintro ⟨a, ha, haid, rfl⟩
    exact ⟨a, Or.inl ha, haid, rfl⟩

/-- A tunnel and the datagrams its sockets have read, if all were taken. -/
structure Receives (arrived : List (ℕ × Sealed)) (t : BondingTunnel K) : Prop where
  old : ∀ a ∈ arrived, a.1 < t.bound
  window : ∀ l ls, t.sockets.get? l = some ls → ls.replay.size = 4096 ∧
    ls.replay.Tracks (counters arrived ls.ident)
  buffer : ∃ released, t.reorder.Inv released
  below : ∀ n : ℤ, (∀ a ∈ arrived, a.2.IsData → (a.2.frame.seq : ℤ) < n) → t.reorder.Below n

section Receives

variable {arrived : List (ℕ × Sealed)} {t t' : BondingTunnel K}

/-- A step that reads nothing. -/
lemma Receives.unread (h : Receives arrived t) (hu : t.Unread t')
    (hr : t'.reorder = t.reorder ∨ ∃ now, t'.reorder = (t.reorder.tick now).2) :
    Receives arrived t' ∧ (Undisturbed t → Undisturbed t') := by
  obtain ⟨released, hinv⟩ := h.buffer
  have hwindow : ∀ l ls, t'.sockets.get? l = some ls → ls.replay.size = 4096 ∧
      ls.replay.Tracks (counters arrived ls.ident) := by
    intro l ls hls
    rcases hu.socket l ls hls with ⟨ls₀, hls₀, hid, hreplay⟩ | ⟨hid, hreplay⟩
    · rw [hid, hreplay]
      exact h.window l ls₀ hls₀
    · -- a new socket, from which nothing was read
      have hempty : counters arrived ls.ident = ∅ := by
        rw [Set.eq_empty_iff_forall_notMem]
        rintro c ⟨a, ha, haid, -⟩
        exact absurd (haid ▸ h.old a ha) (not_lt.2 hid)
      rw [hreplay, hempty]
      exact ⟨rfl, ReplayWindow.tracks_empty 4096⟩
  have hold : ∀ a ∈ arrived, a.1 < t'.bound := fun a ha => (h.old a ha).trans_le hu.bound_le
  rcases hr with hr | ⟨now, hr⟩
  · refine ⟨⟨hold, hwindow, hr ▸ h.buffer, hr ▸ h.below⟩, fun hd => ⟨?_, ?_, ?_⟩⟩
    · rw [hu.rejected, hd.rejected]
    · rw [hr, hd.duplicates]
    · rw [hr, hd.lateDrops]
  · have he := ReorderBuffer.drain_emits hinv.tidy now
    refine ⟨⟨hold, hwindow, ⟨_, hr ▸ hinv.step (.tick now)⟩, fun n hn => ?_⟩, fun hd => ⟨?_, ?_, ?_⟩⟩
    · rw [hr]
      exact (h.below n hn).tick hinv.tidy now
    · rw [hu.rejected, hd.rejected]
    · rw [hr, ReorderBuffer.tick, he.duplicates, hd.duplicates]
    · rw [hr, ReorderBuffer.tick, he.lateDrops, hd.lateDrops]

/-- The arrival of a datagram whose counter is new to its socket and not too low, with a packet
that outnumbers those read before. -/
lemma Receives.arrive (h : Receives arrived t) (hb : t.Bound) (hd : Undisturbed t) {x : Sealed}
    {ls : LinkSocket K} (hls : t.sockets.get? x.frame.linkId = some ls)
    (hdec : decodeFrame t.sealer x.datagram = some x.frame.masked) (hpos : 1 ≤ x.frame.counter)
    (hcounter : x.frame.counter < 2 ^ 64) (hseq : x.frame.seq < 2 ^ 64)
    (habove : ∀ a ∈ arrived, a.1 = ls.ident →
      a.2.frame.counter ≠ x.frame.counter ∧ a.2.frame.counter < x.frame.counter + 4096)
    (hdata : x.IsData → ∀ a ∈ arrived, a.2.IsData → a.2.frame.seq < x.frame.seq) (now : Clock) :
    Receives (arrived ++ [(ls.ident, x)])
        (t.handleDatagram x.frame.linkId x.datagram now).2 ∧
      Undisturbed (t.handleDatagram x.frame.linkId x.datagram now).2 := by
  obtain ⟨hsize, htracks⟩ := h.window _ ls hls
  have hc : x.frame.masked.counter = x.frame.counter := Nat.mod_eq_of_lt hcounter
  have hs : x.frame.masked.seq = x.frame.seq := Nat.mod_eq_of_lt hseq
  -- so the window takes it, and the other branches of the read are closed
  have hcov : ¬ ls.replay.Covers x.frame.masked.counter := by
    rw [hc, htracks, hsize]
    rintro (h₀ | ⟨c, ⟨a, ha, haid, rfl⟩, hle⟩)
    · omega
    · have := habove a ha haid
      omega
  rcases t.handleDatagram_cases x.frame.linkId x.datagram now with
    ⟨hnone, -⟩ | ⟨ls₀, hls₀, ⟨hnone, -⟩ | ⟨f, hf, ⟨hcov', -⟩ | ⟨-, ls', hid, hreplay, heq⟩⟩⟩
  · exact absurd (hls.symm.trans hnone) (by simp)
  · exact absurd (hdec.symm.trans hnone) (by simp)
  · obtain rfl := Option.some.inj (hls.symm.trans hls₀)
    obtain rfl := Option.some.inj (hdec.symm.trans hf)
    exact absurd hcov' hcov
  obtain rfl := Option.some.inj (hls.symm.trans hls₀)
  obtain rfl := Option.some.inj (hdec.symm.trans hf)
  rw [heq]
  have hwindow : ∀ l ls₁, (t.sockets.set x.frame.linkId ls').get? l = some ls₁ →
      ls₁.replay.size = 4096 ∧
        ls₁.replay.Tracks (counters (arrived ++ [(ls.ident, x)]) ls₁.ident) := by
    intro l ls₁ hls₁
    rw [Dict.get?_set] at hls₁
    split at hls₁
    · obtain rfl := Option.some.inj hls₁
      rw [hreplay, hid, counters_concat_self, ← hc]
      exact ⟨(ReplayWindow.covers_checkAndUpdate hcov).1.trans hsize, htracks.checkAndUpdate hcov⟩
    · rename_i hl
      obtain ⟨hsize₁, htracks₁⟩ := h.window l ls₁ hls₁
      have hne : ls.ident ≠ ls₁.ident := fun hid =>
        hl (hb.ident_inj _ _ ls ls₁ hls hls₁ hid).symm
      rw [counters_concat_of_ne arrived hne]
      exact ⟨hsize₁, htracks₁⟩
  have hold : ∀ a ∈ arrived ++ [(ls.ident, x)], a.1 < t.bound := by
    intro a ha
    rcases List.mem_append.1 ha with ha | ha
    · exact h.old a ha
    · rw [List.mem_singleton.1 ha]
      exact hb.ident_lt _ ls hls
  obtain ⟨released, hinv⟩ := h.buffer
  by_cases hpush : x.frame.masked.type = .data ∧ x.frame.masked.payload ≠ []
  · -- the packet is pushed under a number above all others
    have hbelow : t.reorder.Below x.frame.masked.seq := by
      refine h.below _ fun a ha ht => ?_
      rw [hs]
      exact_mod_cast hdata hpush.1 a ha ht
    obtain ⟨hdup, hlate, hbelow'⟩ := hbelow.push hinv x.frame.masked.payload now.mono
    simp only [if_pos hpush]
    refine ⟨⟨hold, hwindow, ⟨_, hinv.step (.push _ _ _)⟩, fun n hn => hbelow'.mono ?_⟩,
      hd.rejected, hdup.trans hd.duplicates, hlate.trans hd.lateDrops⟩
    have := hn _ (List.mem_append_right _ (List.mem_singleton_self _)) hpush.1
    rw [hs]
    exact this
  · simp only [if_neg hpush]
    exact ⟨⟨hold, hwindow, h.buffer, fun n hn => h.below n fun a ha =>
      hn a (List.mem_append_left _ ha)⟩, hd.rejected, hd.duplicates, hd.lateDrops⟩

end Receives

/-! ### What the concentrator has sealed -/

/-- Of two datagrams of one link the later has the larger counter, and of two packets of one
session the later has the larger number. -/
structure Later (a b : Sealed) : Prop where
  counter : a.holder = b.holder → a.frame.counter < b.frame.counter
  seq : a.IsData → b.IsData → a.stream = b.stream → a.frame.seq < b.frame.seq

variable [HasSqrt K]

/-- The network and what the concentrator has sealed for the client's session: some has arrived
and some is under way, in the order in which it was sealed. -/
structure Sent (w : Network K) (hist : List (Party × Effect)) : Prop where
  base : System.Inv w.sys hist
  known : ∀ x, w.sys.server.stream? w.sessionId = some x → x.ident < w.sys.server.handled
  streams : Ledger (w.sys.server.Numbering w.sessionId) (w.sys.server.handled ≤ ·) True
    (((sentDown w.sessionId hist).filter fun x => x.IsData).map ConcentratorServer.streamEntry)
  order : (w.arrived.map Prod.snd ++ w.down).Sublist (sentDown w.sessionId hist)

section Sent

variable {w : Network K} {hist : List (Party × Effect)}

/-- What was sealed later outnumbers what was sealed before. -/
lemma Sent.later (h : Sent w hist) : (w.arrived.map Prod.snd ++ w.down).Pairwise Later := by
  have hcounter : (sentDown w.sessionId hist).Pairwise fun a b =>
      a.holder = b.holder → a.frame.counter < b.frame.counter := by
    have hsorted := h.base.ledger.sorted
    rw [entries, List.pairwise_map] at hsorted
    refine hsorted.filterMap _ fun x y hxy a ha b hb hab => ?_
    rw [Option.ite_none_right_eq_some] at ha hb
    obtain ⟨⟨hx, -⟩, ha⟩ := ha
    obtain ⟨⟨hy, -⟩, hb⟩ := hb
    obtain rfl := Option.some.inj ha
    obtain rfl := Option.some.inj hb
    exact (hxy (by rw [hx, hy, hab])).2
  have hseq : (sentDown w.sessionId hist).Pairwise fun a b =>
      a.IsData → b.IsData → a.stream = b.stream → a.frame.seq < b.frame.seq := by
    have hsorted := h.streams.sorted
    rw [List.pairwise_map, List.pairwise_filter] at hsorted
    refine hsorted.imp fun {a b} hab ha hb hstream => ?_
    exact (hab (by simpa using ha) (by simpa using hb) hstream).2
  exact (hcounter.and hseq).sublist h.order |>.imp fun hab => ⟨hab.1, hab.2⟩

/-- Losing datagrams, and reading what follows. -/
lemma Sent.drop (h : Sent w hist) (down : List Sealed) (arrived : List (ℕ × Sealed))
    (hdown : (arrived.map Prod.snd ++ down).Sublist w.down) :
    Sent { w with down, arrived := w.arrived ++ arrived } hist := by
  refine { h with order := ?_ }
  rw [List.map_append, List.append_assoc]
  exact (hdown.append_left _).trans h.order

/-- One end does something. -/
lemma Sent.act (h : Sent w hist) {t : BondingTunnel K} (ht : w.sys.clients[0]? = some t)
    (e : System.Event K) : Sent (w.act e).2 (hist ++ (w.act e).1) := by
  have hbase := h.base.step e
  have horder : (w.arrived.map Prod.snd ++ (w.down ++ sentDown w.sessionId (w.sys.step e).1)).Sublist
      (sentDown w.sessionId (hist ++ (w.sys.step e).1)) := by
    rw [sentDown_append, ← List.append_assoc]
    exact h.order.append (List.Sublist.refl _)
  -- a step of a client seals nothing for the session
  have hclient : ∀ (i : ℕ) (out : List Effect),
      (w.sys.step e).1 = out.map (fun x => (.client i, x)) →
      (w.sys.step e).2.server = w.sys.server → Sent (w.act e).2 (hist ++ (w.act e).1) := by
    intro i out hout hserver
    refine ⟨hbase, ?_, ?_, horder⟩
    · rw [Network.act]
      simp only [hserver]
      exact h.known
    · rw [Network.act]
      simp only [hserver, sentDown_append, hout, sentDown_client, List.append_nil]
      exact h.streams
  rcases step_cases ht e with ⟨e', -, hout, -, hserver⟩ | ⟨e', -, hout, -, hserver⟩ |
    ⟨-, hserver, i, out, -, hout⟩
  · exact hclient 0 _ hout hserver
  · obtain ⟨hhands, hknown⟩ := ConcentratorServer.stream_hands h.base.keyed h.base.numbered
      h.known e'
    refine ⟨hbase, ?_, ?_, horder⟩
    · rw [Network.act]
      simp only [hserver]
      exact hknown
    · have hledger := h.streams.step hhands id
      rw [Network.act]
      simp only [hserver, sentDown_append, hout, List.filter_append, List.map_append,
        filter_sentDown_server]
      exact hledger
  · exact hclient i out hout hserver

/-- A datagram under way decodes to its frame, under a counter that is not zero. -/
lemma Sent.underway (h : Sent w hist) {t : BondingTunnel K} (ht : w.sys.clients[0]? = some t)
    {x : Sealed} (hx : x ∈ w.down) :
    decodeFrame t.sealer x.datagram = some x.frame.masked ∧ 1 ≤ x.frame.counter := by
  obtain ⟨hsealed, -⟩ := mem_sentDown.1 (h.order.subset (List.mem_append_right _ hx))
  obtain ⟨-, hl, hd⟩ := encodeFrame_eq_ok_iff.1 (h.base.encoded _ hsealed)
  rw [(h.base.bound 0 t ht).2, hd]
  exact ⟨decodeFrame_datagram _ _ hl, h.base.ledger.positive _ (List.mem_map_of_mem hsealed)⟩

end Sent

/-! ### Runs -/

/-- A datagram for a socket clears what the client remembers: of what other links of the
concentrator sealed, the socket has read nothing with the same counter or one 4096 or more above
it, and no packet of another session has come with the same number or one above it. -/
structure Clears (arrived : List (ℕ × Sealed)) (id : ℕ) (x : Sealed) : Prop where
  counter_lt : x.frame.counter < 2 ^ 64
  seq_lt : x.frame.seq < 2 ^ 64
  counter : ∀ a ∈ arrived, a.1 = id → a.2.holder ≠ x.holder →
    a.2.frame.counter ≠ x.frame.counter ∧ a.2.frame.counter < x.frame.counter + 4096
  seq : ∀ a ∈ arrived, x.IsData → a.2.IsData → a.2.stream ≠ x.stream → a.2.frame.seq < x.frame.seq

instance (arrived : List (ℕ × Sealed)) (id : ℕ) (x : Sealed) : Decidable (Clears arrived id x) :=
  decidable_of_iff (_ ∧ _ ∧ _ ∧ _)
    ⟨fun h => ⟨h.1, h.2.1, h.2.2.1, h.2.2.2⟩, fun h => ⟨h.1, h.2, h.3, h.4⟩⟩

/-- What the client is about to read, if anything, clears what it remembers. -/
def Remembered (w : Network K) (_ : List (Party × Effect)) : Event K → Prop
  | .fall lost _ => ∀ x ∈ (w.down.drop lost).head?, ∀ a ∈ w.reads x, Clears w.arrived a.1 x
  | _ => True

instance (w : Network K) (hist : List (Party × Effect)) : ∀ e, Decidable (w.Remembered hist e)
  | .fall _ _ => inferInstanceAs (Decidable (∀ x ∈ _, _))
  | .client _ | .server _ | .rise _ _ _ _ | .answer _ _ => inferInstanceAs (Decidable True)

/-- The network, and the client as it has read everything that arrived. -/
structure Survives (w : Network K) (hist : List (Party × Effect)) : Prop where
  sent : Sent w hist
  client : ∃ t, w.sys.clients[0]? = some t ∧ Receives w.arrived t ∧ Undisturbed t

section Survives

variable {w : Network K} {hist : List (Party × Effect)}

lemma Survives.client_act (h : Survives w hist) {e : BondingTunnel.Event K}
    (he : ∀ linkId data now, e ≠ .datagram linkId data now) :
    Survives (w.act (.client 0 e)).2 (hist ++ (w.act (.client 0 e)).1) := by
  obtain ⟨t, ht, hreceives, hd⟩ := h.client
  have hr : (t.step e).2.reorder = t.reorder ∨
      ∃ now, (t.step e).2.reorder = (t.reorder.tick now).2 := by
    cases t.turn_step e with
    | rest _ hr => exact Or.inl hr
    | number _ _ hr => exact Or.inl hr
    | call op hop _ hr =>
      cases e with
      | tick now =>
        obtain rfl := Option.some.inj hop
        exact Or.inr ⟨now, hr⟩
      | datagram linkId data now => exact absurd rfl (he linkId data now)
      | _ => exact absurd hop (by simp [BondingTunnel.Event.call?])
  have hunread := hreceives.unread (BondingTunnel.step_unread he) hr
  refine ⟨h.sent.act ht _, _, ?_, hunread.1, hunread.2 hd⟩
  exact clients_step ht e

lemma Survives.server_act (h : Survives w hist) (e : ConcentratorServer.Event) :
    Survives (w.act (.server e)).2 (hist ++ (w.act (.server e)).1) := by
  obtain ⟨t, ht, hclient⟩ := h.client
  exact ⟨h.sent.act ht _, t, ht, hclient⟩

/-- The client reads a datagram that clears what it remembers. -/
lemma Survives.fall (h : Survives w hist) {x : Sealed} {down : List Sealed}
    (hdown : (x :: down).Sublist w.down) (hclear : ∀ a ∈ w.reads x, Clears w.arrived a.1 x)
    (now : Clock) :
    let w' := { w with down, arrived := w.arrived ++ w.reads x }
    let read := .client 0 (.datagram x.frame.linkId x.datagram now)
    Survives (w'.act read).2 (hist ++ (w'.act read).1) := by
  obtain ⟨t, ht, hreceives, hd⟩ := h.client
  let read : BondingTunnel.Event K := .datagram x.frame.linkId x.datagram now
  cases hls : t.sockets.get? x.frame.linkId with
  | none =>
    have hreads : w.reads x = [] := by simp only [reads, ht, hls]
    have hnoop : (t.step read).2 = t := by
      simp only [read, BondingTunnel.step, BondingTunnel.handleDatagram, hls]
    have hsent := h.sent.drop down (w.reads x)
      (hreads ▸ (List.sublist_cons_self x down).trans hdown)
    refine ⟨hsent.act ht _, t, (clients_step ht read).trans (congrArg some hnoop), ?_, hd⟩
    show Receives (w.arrived ++ w.reads x) t
    rw [hreads, List.append_nil]
    exact hreceives
  | some ls =>
    have hreads : w.reads x = [(ls.ident, x)] := by simp only [reads, ht, hls]
    have hsent := h.sent.drop down (w.reads x) (hreads ▸ hdown)
    have hx : x ∈ w.down := hdown.subset List.mem_cons_self
    have hlater : ∀ a ∈ w.arrived, Later a.2 x := fun a ha =>
      (List.pairwise_append.1 h.sent.later).2.2 a.2 (List.mem_map_of_mem ha) x hx
    obtain ⟨hdec, hpos⟩ := h.sent.underway ht hx
    have hc := hclear (ls.ident, x) (hreads ▸ List.mem_singleton_self _)
    have harrive := hreceives.arrive (h.sent.base.bound 0 t ht).1 hd hls hdec hpos hc.counter_lt
      hc.seq_lt ?_ ?_ now
    · refine ⟨hsent.act ht _, (t.step read).2, clients_step ht read, ?_, harrive.2⟩
      show Receives (w.arrived ++ w.reads x) (t.step read).2
      rw [hreads]
      exact harrive.1
    · intro a ha haid
      by_cases hholder : a.2.holder = x.holder
      · have := (hlater a ha).counter hholder
        omega
      · exact hc.counter a ha haid hholder
    · intro hxd a ha had
      by_cases hstream : a.2.stream = x.stream
      · exact (hlater a ha).seq had hxd hstream
      · exact hc.seq a ha hxd had hstream

/-- A step of the network. -/
lemma Survives.step (h : Survives w hist) {e : Event K} (hc : w.Remembered hist e) :
    Survives (w.step e).2 (hist ++ (w.step e).1) := by
  have hlost : Survives { w with down := [] } hist := by
    refine ⟨?_, h.client⟩
    simpa using h.sent.drop _ [] (List.nil_sublist _)
  cases e with
  | client e =>
    rw [Network.step]
    split
    · simpa using h
    · rename_i hread
      refine h.client_act fun linkId data now heq => hread ?_
      rw [heq]
      rfl
  | server e =>
    rw [Network.step]
    split
    · simpa using h
    · exact h.server_act e
  | rise lost addr now sendOk =>
    simp only [Network.step]
    split
    · simpa using (⟨{ h.sent with }, h.client⟩ : Survives { w with up := [] } hist)
    · rename_i x up hup
      exact (⟨{ h.sent with }, h.client⟩ : Survives { w with up } hist).server_act _
  | fall lost now =>
    simp only [Network.step]
    split
    · simpa using hlost
    · rename_i x down hdrop
      exact h.fall (hdrop ▸ List.drop_sublist _ _) (hc x (by simp [hdrop])) now
  | answer lost now =>
    simp only [Network.step]
    split
    · simpa using hlost
    · rename_i x down hdrop
      have hdown : down.Sublist w.down :=
        (List.sublist_cons_self x down).trans (hdrop ▸ List.drop_sublist _ _)
      have hs : Survives { w with down } hist := by
        refine ⟨?_, h.client⟩
        simpa using h.sent.drop _ [] hdown
      exact hs.client_act fun _ _ _ => by simp

end Survives

variable (sealer : Sealer) (reorderTimeoutMs : ℚ) (cfg : ConcentratorConfig) (sessionId : ℕ)
  (links : List (Link K)) (sip : Option SipConfig) (mode : SchedulerMode)

lemma survives_start :
    Survives (start sealer reorderTimeoutMs cfg sessionId links sip mode) [] := by
  have hnone : (start sealer reorderTimeoutMs cfg sessionId links sip mode).sys.server.stream?
      sessionId = none := rfl
  refine ⟨⟨inv_paired .., ?_, .empty ?_, List.nil_sublist _⟩, _, rfl, ?_, ⟨rfl, rfl, rfl⟩⟩
  · exact fun x hx => absurd (hnone.symm.trans hx) (by simp)
  · rintro id - c ⟨x, hx, -⟩
    exact absurd (hnone.symm.trans hx) (by simp)
  · exact ⟨by simp [start], by simp [BondingTunnel.new], ⟨[], ReorderBuffer.inv_new _ _⟩,
      fun n _ => .new _ _ n⟩

/-- **Silence.**  In every run in which whatever the client reads clears what it remembers, it
refuses no datagram and discards no packet. -/
theorem undisturbed_of_remembered (events : List (Event K))
    (hc : Machine.Meets step Remembered events
      (start sealer reorderTimeoutMs cfg sessionId links sip mode) []) :
    ∃ t, (run events
        (start sealer reorderTimeoutMs cfg sessionId links sip mode)).2.sys.clients[0]? = some t ∧
      Undisturbed t := by
  obtain ⟨t, ht, -, hd⟩ := (Machine.run_invariant_of_meets step (I := Survives)
    (fun _ _ _ h hc => h.step hc) events (survives_start ..) hc).client
  exact ⟨t, ht, hd⟩

/-- A handshake is answered, and the concentrator falls silent and comes back. -/
def comesBack : List (Event ℚ) :=
  [.client (.start fun _ => true), .client (.handshake 1 1000 true),
    .rise 0 ("203.0.113.5", 40000) ⟨1000, 0⟩ true, .answer 0 1000,
    .server (.reap 1200),
    .client (.keepalive 1 1200 true),
    .rise 0 ("203.0.113.5", 40000) ⟨1200, 200⟩ true, .fall 0 ⟨1200, 200⟩]

theorem undisturbed_comesBack :
    ∃ t, (run comesBack
        (start ⟨Aead.plain⟩ 90 soleConfig 7 [soleLink] none .weighted)).2.sys.clients[0]? = some t ∧
      Undisturbed t :=
  undisturbed_of_remembered _ _ _ _ _ _ _ _ (by decide +kernel)

/-- The client reads the answers to two keepalives, the concentrator falls silent, and the
client reads the answers to two more. -/
def forgets : List (Event ℚ) :=
  [.client (.start fun _ => true),
    .client (.handshake 1 1000 true),
    .rise 0 ("203.0.113.5", 40000) ⟨1000, 0⟩ true, .answer 0 1000,
    .client (.keepalive 1 1010 true),
    .rise 0 ("203.0.113.5", 40000) ⟨1010, 10⟩ true, .fall 0 ⟨1010, 10⟩,
    .server (.reap 1200),
    .client (.keepalive 1 1200 true),
    .rise 0 ("203.0.113.5", 40000) ⟨1200, 200⟩ true, .fall 0 ⟨1200, 200⟩,
    .client (.keepalive 1 1210 true),
    .rise 0 ("203.0.113.5", 40000) ⟨1210, 210⟩ true, .fall 0 ⟨1210, 210⟩]

/-- The second answer of the link made anew is refused as a replay. -/
theorem disturbed_forgets :
    ¬ ∀ events : List (Event ℚ),
      ∃ t, (run events
          (start ⟨Aead.plain⟩ 90 soleConfig 7 [soleLink] none .weighted)).2.sys.clients[0]? = some t ∧
        Undisturbed t := by
  intro h
  obtain ⟨t, ht, hd⟩ := h forgets
  have hrejected : ((run forgets (start ⟨Aead.plain⟩ 90 soleConfig 7 [soleLink] none
      .weighted)).2.sys.clients[0]?.map fun t => t.rxRejected) = some 1 := by
    decide +kernel
  rw [ht] at hrejected
  exact absurd (hd.rejected.symm.trans (Option.some.inj hrejected)) (by decide)

end Turbobond.Bond.Network
