import Turbobond.Bond.Codec
import Turbobond.Bond.ServerTable

/-!
# Replays at the concentrator

A link's replay window stands for the counters accepted on it since the link was made
(`acceptedSince`): a `CLOSE` and the reaper forget it, and the next datagram starts an empty
one.  So a datagram is accepted at most once exactly when the server still remembers it, or
something as good, whenever a copy arrives.
-/

namespace Turbobond.Bond.ConcentratorServer

variable {s : ConcentratorServer}

/-- The replay window a datagram on a link meets: a link that is not known gets a new one. -/
def window (s : ConcentratorServer) (sid lid : ℕ) : ReplayWindow :=
  ((s.peer? sid lid).map PeerLink.replay).getD {}

/-- A datagram is accepted: `handle_datagram` does not count it as rejected. -/
def Accepted (s : ConcentratorServer) : Event → Prop
  | .datagram data addr now sendOk =>
    (s.handleDatagram data addr now sendOk).2.rejected = s.rejected
  | _ => False

/-- An event is the acceptance of a counter on a link. -/
def AcceptedOn (s : ConcentratorServer) (e : Event) (sid lid counter : ℕ) : Prop :=
  s.Accepted e ∧ ∃ data addr now sendOk f, e = .datagram data addr now sendOk ∧
    decodeFrame s.sealer data = some f ∧
      f.sessionId = sid ∧ f.linkId = lid ∧ f.counter = counter

lemma arrival_replay (f : Frame) (addr : Addr) (now : Clock) :
    (s.arrival f addr now).replay = s.window f.sessionId f.linkId := by
  rw [arrival, peerFor_eq, window]
  cases s.peer? f.sessionId f.linkId <;> rfl

lemma accepted_iff (data : Bytes) (addr : Addr) (now : Clock) (sendOk : Bool) :
    s.Accepted (.datagram data addr now sendOk) ↔
      ∃ f, decodeFrame s.sealer data = some f ∧
        ¬ (s.window f.sessionId f.linkId).Covers f.counter := by
  rw [Accepted]
  rcases s.handleDatagram_cases data addr now sendOk with
    ⟨hdec, heq⟩ | ⟨f, hdec, ⟨hcov, heq⟩ | ⟨hcov, heq⟩⟩
  · simp [heq, hdec]
  · rw [arrival_replay] at hcov
    simp [heq, hdec, hcov]
  · rw [arrival_replay] at hcov
    obtain ⟨sessions, hs⟩ :=
      s.tally.handleFrame_snd
        (s.sessionFor f.sessionId now) (s.recorded f addr now) f now sendOk
    simp [heq, hs, hdec, hcov]

/-- What is accepted: a datagram of the link that its window does not cover. -/
lemma acceptedOn_iff {data : Bytes} {addr : Addr} {now : Clock} {sendOk : Bool} {sid lid d : ℕ} :
    s.AcceptedOn (.datagram data addr now sendOk) sid lid d ↔
      ∃ f, decodeFrame s.sealer data = some f ∧ f.sessionId = sid ∧ f.linkId = lid ∧
        f.counter = d ∧ ¬ (s.window sid lid).Covers d := by
  constructor
  · rintro ⟨hacc, data', addr', now', sendOk', f, he, hdec, rfl, rfl, rfl⟩
    cases he
    obtain ⟨f', hdec', hcov⟩ := (accepted_iff data addr now sendOk).1 hacc
    obtain rfl := Option.some.inj (hdec.symm.trans hdec')
    exact ⟨f, hdec, rfl, rfl, rfl, hcov⟩
  · rintro ⟨f, hdec, rfl, rfl, rfl, hcov⟩
    exact ⟨(accepted_iff data addr now sendOk).2 ⟨f, hdec, hcov⟩, data, addr, now, sendOk, f, rfl,
      hdec, rfl, rfl, rfl⟩

/-- Storing the link of an arrival gives no link another window. -/
lemma window_store_arrival (h : Keyed s) (f : Frame) (addr : Addr) (now : Clock) (sid lid : ℕ) :
    (s.tally.store (s.sessionFor f.sessionId now) (s.arrival f addr now)).window sid lid =
      s.window sid lid := by
  rw [window, peer?_store, h.sessionId_sessionFor, h.linkId_arrival, links_sessionFor]
  by_cases hs : sid = f.sessionId
  · subst hs
    by_cases hl : lid = f.linkId
    · subst hl
      rw [if_pos rfl, if_pos rfl, Option.map_some, Option.getD_some, arrival_replay]
    · rw [if_pos rfl, if_neg hl, window]
  · rw [if_neg hs]
    rfl

/-- An accepted datagram forgets its link, with a `CLOSE`, or its window records the counter. -/
lemma window_handleFrame (h : Keyed s) (f : Frame) (addr : Addr) (now : Clock) (sendOk : Bool) :
    let s' := (s.tally.handleFrame (s.sessionFor f.sessionId now) (s.recorded f addr now) f now
      sendOk).2
    s'.peer? f.sessionId f.linkId = none ∨
      s'.window f.sessionId f.linkId =
        ((s.window f.sessionId f.linkId).checkAndUpdate f.counter).2 := by
  intro s'
  have hpeer := peer?_handleFrame (s := s.tally) (h.sessionId_sessionFor f.sessionId now)
    (h.linkId_recorded f addr now) (fun lid => links_sessionFor f.sessionId lid now) now
    sendOk f.sessionId f.linkId
  rw [if_pos ⟨rfl, rfl⟩] at hpeer
  by_cases ht : f.type = .close
  · rw [if_pos ht] at hpeer
    exact Or.inl hpeer
  · rw [if_neg ht] at hpeer
    obtain ⟨c, tx, hreply⟩ :=
      s.tally.reply_snd (s.sessionFor f.sessionId now) (s.recorded f addr now) f sendOk
    right
    rw [window, hpeer, hreply, Option.map_some, Option.getD_some, recorded, arrival_replay]

/-- What a step does to the window of a link: the link is forgotten, or the step accepts a
counter and the window records it, or the window stays as it was. -/
lemma window_step (h : Keyed s) (e : Event) (sid lid : ℕ) :
    (s.step e).2.peer? sid lid = none ∨
      (∃ c, (∀ d, s.AcceptedOn e sid lid d ↔ d = c) ∧ ¬ (s.window sid lid).Covers c ∧
        (s.step e).2.window sid lid = ((s.window sid lid).checkAndUpdate c).2) ∨
      ((∀ d, ¬ s.AcceptedOn e sid lid d) ∧
        (s.step e).2.window sid lid = s.window sid lid) := by
  cases e with
  | datagram data addr now sendOk =>
    simp only [acceptedOn_iff]
    rcases s.handleDatagram_cases data addr now sendOk with
      ⟨hdec, heq⟩ | ⟨f, hdec, ⟨hcov, heq⟩ | ⟨hcov, heq⟩⟩
    · refine Or.inr (Or.inr ⟨?_, by rw [step, heq]; rfl⟩)
      rintro d ⟨f, hdec', -⟩
      exact absurd (hdec.symm.trans hdec') (by simp)
    · -- refused: the link is stored with the window it had
      rw [arrival_replay] at hcov
      refine Or.inr (Or.inr ⟨?_, ?_⟩)
      · rintro d ⟨f', hdec', rfl, rfl, rfl, hcov'⟩
        obtain rfl := Option.some.inj (hdec.symm.trans hdec')
        exact hcov' hcov
      · rw [step, heq]
        exact window_store_arrival h f addr now sid lid
    · -- accepted
      rw [arrival_replay] at hcov
      by_cases hk : sid = f.sessionId ∧ lid = f.linkId
      · obtain ⟨rfl, rfl⟩ := hk
        rw [step, heq]
        refine (window_handleFrame h f addr now sendOk).imp_right fun hw => Or.inl ?_
        refine ⟨f.counter, fun d => ⟨?_, ?_⟩, hcov, hw⟩
        · rintro ⟨f', hdec', -, -, hd, -⟩
          obtain rfl := Option.some.inj (hdec.symm.trans hdec')
          exact hd.symm
        · rintro rfl
          exact ⟨f, hdec, rfl, rfl, rfl, hcov⟩
      · refine Or.inr (Or.inr ⟨?_, ?_⟩)
        · rintro d ⟨f', hdec', hs, hl, -⟩
          obtain rfl := Option.some.inj (hdec.symm.trans hdec')
          exact hk ⟨hs.symm, hl.symm⟩
        · rw [window, step, h.peer?_handleDatagram_of_ne hdec addr now sendOk hk, window]
  | downstream packet now sendOk =>
    refine Or.inr (Or.inr ⟨fun d hd => hd.1, ?_⟩)
    rcases dispatchDownstream_cases h packet now sendOk with heq | ⟨x, x', p, hx, hp, -, rfl, heq⟩
    · rw [step, heq]
    · obtain ⟨c, tx, hsend⟩ := s.send_snd { x with cursor := x.cursor + 1, seq := x.seq + 1 } p
        .data (x.seq + 1) packet sendOk
      rw [step, heq, window, peer?_store, hsend]
      by_cases hs : sid = x.sessionId
      · subst hs
        rw [if_pos rfl]
        by_cases hl : lid = p.linkId
        · subst hl
          rw [if_pos rfl, window, hp]
          rfl
        · rw [if_neg hl, window, peer?_of_session hx]
      · rw [if_neg hs, window]
  | tick now =>
    refine Or.inr (Or.inr ⟨fun d hd => hd.1, ?_⟩)
    rw [window, step, peer?_reorderTick, window]
  | reap now =>
    rcases s.peer?_reap now sid lid with hnone | heq
    · exact Or.inl hnone
    · refine Or.inr (Or.inr ⟨fun d hd => hd.1, ?_⟩)
      rw [window, step, heq, window]

/-! ### What a link remembers -/

/-- The counters accepted on a link since it was last made: accepted at some point of the
run, with the link in the table ever since. -/
def acceptedSince (s₀ : ConcentratorServer) (events : List Event) (sid lid : ℕ) : Set ℕ :=
  {c | ∃ pre e post, events = pre ++ e :: post ∧ (s₀.after pre).AcceptedOn e sid lid c ∧
    ∀ mid, mid <+: post → (s₀.after (pre ++ e :: mid)).peer? sid lid ≠ none}

section AcceptedSince

variable {s₀ : ConcentratorServer} {events : List Event} {sid lid : ℕ}

lemma acceptedSince_of_none (h : (s₀.after events).peer? sid lid = none) :
    s₀.acceptedSince events sid lid = ∅ := by
  refine Set.eq_empty_iff_forall_notMem.2 fun c => ?_
  rintro ⟨pre, e, post, rfl, -, hpresent⟩
  exact hpresent post List.prefix_rfl h

lemma mem_acceptedSince_concat (e : Event)
    (h : (s₀.after (events ++ [e])).peer? sid lid ≠ none) (c : ℕ) :
    c ∈ s₀.acceptedSince (events ++ [e]) sid lid ↔
      (s₀.after events).AcceptedOn e sid lid c ∨ c ∈ s₀.acceptedSince events sid lid := by
  constructor
  · rintro ⟨pre, e', post, heq, hacc, hpresent⟩
    rcases List.eq_nil_or_concat post with rfl | ⟨post, e'', rfl⟩
    · obtain ⟨rfl, he⟩ := List.append_inj' heq rfl
      obtain rfl : e = e' := by simpa using he
      exact Or.inl hacc
    · rw [List.concat_eq_append, ← List.cons_append, ← List.append_assoc] at heq
      obtain ⟨rfl, -⟩ := List.append_inj' heq rfl
      refine Or.inr ⟨pre, e', post, rfl, hacc, fun mid hmid => hpresent mid ?_⟩
      rw [List.concat_eq_append]
      exact hmid.trans (List.prefix_append _ _)
  · rintro (hacc | ⟨pre, e', post, rfl, hacc, hpresent⟩)
    · refine ⟨events, e, [], rfl, hacc, fun mid hmid => ?_⟩
      rw [List.prefix_nil.1 hmid]
      exact h
    · refine ⟨pre, e', post ++ [e], by simp, hacc, fun mid hmid => ?_⟩
      rcases List.prefix_concat_iff.1 hmid with rfl | hmid
      · simpa using h
      · exact hpresent mid hmid

end AcceptedSince

/-- A window stands for what its link remembers. -/
theorem window_tracks (sealer : Util.Sealer) (reorderTimeoutMs : ℚ) (events : List Event)
    (sid lid : ℕ) :
    (((start sealer reorderTimeoutMs).after events).window sid lid).Tracks
        ((start sealer reorderTimeoutMs).acceptedSince events sid lid) ∧
      (((start sealer reorderTimeoutMs).after events).window sid lid).size = 4096 := by
  induction events using List.reverseRecOn with
  | nil =>
    rw [acceptedSince_of_none rfl]
    exact ⟨ReplayWindow.tracks_empty 4096, rfl⟩
  | append_singleton events e ih =>
    by_cases hnone : ((start sealer reorderTimeoutMs).after (events ++ [e])).peer? sid lid = none
    · rw [acceptedSince_of_none hnone, window, hnone]
      exact ⟨ReplayWindow.tracks_empty 4096, rfl⟩
    · have hmem := mem_acceptedSince_concat e hnone
      have hkeyed := keyed_start sealer reorderTimeoutMs events
      have hafter := after_concat (start sealer reorderTimeoutMs) events e
      rcases window_step hkeyed e sid lid with h | ⟨c, hacc, hcov, heq⟩ | ⟨hacc, heq⟩
      · rw [hafter] at hnone
        exact absurd h hnone
      · have hset : (start sealer reorderTimeoutMs).acceptedSince (events ++ [e]) sid lid =
            insert c ((start sealer reorderTimeoutMs).acceptedSince events sid lid) := by
          ext d
          rw [hmem d, hacc d, Set.mem_insert_iff]
        rw [hset, hafter, heq]
        exact ⟨ih.1.checkAndUpdate hcov,
          (ReplayWindow.covers_checkAndUpdate hcov).1.trans ih.2⟩
      · have hset : (start sealer reorderTimeoutMs).acceptedSince (events ++ [e]) sid lid =
            (start sealer reorderTimeoutMs).acceptedSince events sid lid := by
          ext d
          rw [hmem d]
          exact or_iff_right (hacc d)
        rw [hset, hafter, heq]
        exact ih

/-! ### At most one acceptance -/

/-- An event is the arrival of a datagram, from wherever and whenever. -/
def Event.Carries (e : Event) (data : Bytes) : Prop :=
  ∃ addr now sendOk, e = .datagram data addr now sendOk

/-- In no run of these events does a datagram pass twice. -/
def AcceptedOnce (s₀ : ConcentratorServer) (events : List Event) (data : Bytes) : Prop :=
  ∀ pre e mid e', pre ++ e :: (mid ++ [e']) <+: events → e.Carries data → e'.Carries data →
    (s₀.after pre).Accepted e → ¬ (s₀.after (pre ++ e :: mid)).Accepted e'

/-- Whenever a copy of an accepted datagram arrives, the link it names has accepted, since it
was last made, the datagram's counter or one that is 4096 or more above it. -/
def CopiesRemembered (s₀ : ConcentratorServer) (events : List Event) (data : Bytes) : Prop :=
  ∀ pre e mid e', pre ++ e :: (mid ++ [e']) <+: events → e.Carries data → e'.Carries data →
    (s₀.after pre).Accepted e → ∀ f, decodeFrame s₀.sealer data = some f →
      ∃ c ∈ s₀.acceptedSince (pre ++ e :: mid) f.sessionId f.linkId,
        f.counter = c ∨ f.counter + 4096 ≤ c

/-- **Replay protection.**  Over any run of a concentrator, a datagram is accepted at most
once if and only if each copy of it arrives while the link remembers it, or a counter far
enough above it. -/
theorem accepted_once_iff (sealer : Util.Sealer) (reorderTimeoutMs : ℚ) (events : List Event)
    (data : Bytes) :
    AcceptedOnce (start sealer reorderTimeoutMs) events data ↔
      CopiesRemembered (start sealer reorderTimeoutMs) events data := by
  refine forall₄_congr fun pre e mid e' => forall_congr' fun _ => forall_congr' fun he =>
    forall_congr' fun he' => forall_congr' fun hacc => ?_
  obtain ⟨addr, now, sendOk, rfl⟩ := he
  obtain ⟨addr', now', sendOk', rfl⟩ := he'
  obtain ⟨f, hdec, hcov⟩ := (accepted_iff _ _ _ _).1 hacc
  rw [after_sealer] at hdec
  have hne : f.counter ≠ 0 := fun h₀ => hcov (Or.inl h₀)
  obtain ⟨htracks, hsize⟩ := window_tracks sealer reorderTimeoutMs
    (pre ++ .datagram data addr now sendOk :: mid) f.sessionId f.linkId
  have hiff := htracks f.counter
  rw [hsize, or_iff_right hne] at hiff
  rw [accepted_iff, after_sealer]
  constructor
  · intro hrefused f' hdec'
    obtain rfl := Option.some.inj (hdec.symm.trans hdec')
    by_contra hforgotten
    exact hrefused ⟨f, hdec, fun hc => hforgotten (hiff.1 hc)⟩
  · rintro hremembered ⟨f', hdec', hcov'⟩
    obtain rfl := Option.some.inj (hdec.symm.trans hdec')
    exact hcov' (hiff.2 (hremembered f hdec))

/-- A keepalive and the `CLOSE` of its link, as a client seals them. -/
def keepaliveDatagram : Bytes :=
  datagram ⟨Util.Aead.plain⟩ { type := .keepalive, sessionId := 7, linkId := 1, counter := 1 }

def closeDatagram : Bytes :=
  datagram ⟨Util.Aead.plain⟩ { type := .close, sessionId := 7, linkId := 1, counter := 2 }

/-- After the `CLOSE` a copy of the keepalive is accepted again. -/
theorem accepted_twice_after_close :
    ¬ AcceptedOnce (start ⟨Util.Aead.plain⟩ 90)
      [.datagram keepaliveDatagram ("198.51.100.7", 40000) ⟨1000, 0⟩ true,
        .datagram closeDatagram ("198.51.100.7", 40000) ⟨1001, 1⟩ true,
        .datagram keepaliveDatagram ("203.0.113.9", 9) ⟨1002, 2⟩ true] keepaliveDatagram := by
  intro h
  refine h [] _ [.datagram closeDatagram ("198.51.100.7", 40000) ⟨1001, 1⟩ true] _
    List.prefix_rfl ⟨_, _, _, rfl⟩ ⟨_, _, _, rfl⟩ ?_ ?_
  · show (_ : ℕ) = _
    decide +kernel
  · show (_ : ℕ) = _
    decide +kernel

end Turbobond.Bond.ConcentratorServer
