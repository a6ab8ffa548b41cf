import Turbobond.App.Stages
import Turbobond.Lib.Feed
import Turbobond.Lib.Machine

/-!
# The stream of an activation

`_on_progress` numbers what an activation reports, on from the activation before, and `start` forgets
the reports of that one.  `/api/activation/stream` sends a browser what is new, one report at a time, and
is suspended at each one and between two rounds, while the activation goes on.
-/

namespace Turbobond.App

open Stages (Phase)

structure ProgressEvent where
  ts : ℚ
  phase : Phase
  message : String
  fraction : ℚ
  deriving DecidableEq

/-- `MAX_EVENTS`. -/
def maxEvents : ℕ := 500

/-- What the stream reads of the `ActivationController` and its supervisor. -/
structure ActivationFeed where
  running : Bool := false
  /-- `state.events` and `_seq`. -/
  events : Feed ProgressEvent := {}
  /-- `supervisor.phase`. -/
  phase : Phase := .idle

namespace ActivationFeed

inductive Event where
  /-- `_on_progress`. -/
  | progress (event : ProgressEvent)
  | start
  /-- The end of `_run`, or `stop`. -/
  | finish (phase : Phase)
  deriving DecidableEq

def step (f : ActivationFeed) : Event → ActivationFeed
  | .progress event => { f with events := f.events.push maxEvents event, phase := event.phase }
  | .start => if f.running then f else { f with running := true, events := f.events.clear }
  | .finish phase => { f with running := false, phase }

def after (f : ActivationFeed) (events : List Event) : ActivationFeed := events.foldl step f

end ActivationFeed

/-- Where the generator `_events` is. -/
inductive StreamPlace where
  /-- Before a round. -/
  | polling
  /-- At a `yield`, with the rest of the round. -/
  | sending (rest : List (ℕ × ProgressEvent))
  | ended
  deriving DecidableEq

structure ActivationStream where
  seq : ℕ := 0
  place : StreamPlace := .polling

inductive StreamMessage where
  | event (seq : ℕ) (event : ProgressEvent)
  | done (phase : Phase)
  deriving DecidableEq

namespace ActivationStream

/-- The rest of a round, up to where the generator is suspended. -/
def send (st : ActivationStream) (f : ActivationFeed) :
    List (ℕ × ProgressEvent) → List StreamMessage × ActivationStream
  | e :: rest => ([.event e.1 e.2], ⟨max st.seq e.1, .sending rest⟩)
  | [] =>
    if !f.running ∧ 0 < st.seq then ([.done f.phase], { st with place := .ended })
    else ([], { st with place := .polling })

/-- The generator goes on.  `expired` says that the deadline has passed. -/
def turn (st : ActivationStream) (f : ActivationFeed) (expired : Bool) :
    List StreamMessage × ActivationStream :=
  match st.place with
  | .polling =>
    if expired then ([], { st with place := .ended }) else st.send f (f.events.since st.seq)
  | .sending rest => st.send f rest
  | .ended => ([], st)

end ActivationStream

/-- An activation that is watched. -/
structure Watched where
  feed : ActivationFeed
  stream : ActivationStream := {}

namespace Watched

inductive Event where
  | activation (e : ActivationFeed.Event)
  | turn (expired : Bool)
  deriving DecidableEq

def step (w : Watched) : Event → List StreamMessage × Watched
  | .activation e => ([], { w with feed := w.feed.step e })
  | .turn expired =>
    let (out, stream) := w.stream.turn w.feed expired
    (out, { w with stream })

def run (events : List Event) (w : Watched) : List StreamMessage × Watched :=
  Machine.run step events w

/-- What an activation has reported. -/
def reported (events : List ActivationFeed.Event) : List ProgressEvent :=
  events.filterMap fun
    | .progress event => some event
    | _ => none

/-- The events of the activation. -/
def activation (events : List Event) : List ActivationFeed.Event :=
  events.filterMap fun
    | .activation e => some e
    | .turn _ => none

/-- The reports that were sent. -/
def sent (out : List StreamMessage) : List (ℕ × ProgressEvent) :=
  out.filterMap fun
    | .event seq event => some (seq, event)
    | .done _ => none

/-- A round finds all reports that came after the last one sent, if any was sent and any is there. -/
def KeepsUp (w : Watched) : Event → Prop
  | .turn false => w.stream.place = .polling → 0 < w.stream.seq → w.feed.events.kept ≠ [] →
      w.feed.events.last ≤ w.stream.seq + w.feed.events.kept.length
  | _ => True

instance (w : Watched) (e : Event) : Decidable (w.KeepsUp e) := by
  unfold KeepsUp
  split <;> infer_instance

/-- One after the other. -/
def Consecutive (l : List (ℕ × ProgressEvent)) : Prop := (l.map Prod.fst).IsChain fun m n => n = m + 1

variable {w : Watched} {all : List ProgressEvent} {out : List StreamMessage} {ok : Prop}

/-! ### The reports -/

lemma exists_keeps {f : ActivationFeed} (h : ∃ k, f.events.Keeps all k) (e : ActivationFeed.Event) :
    ∃ k, (f.step e).events.Keeps (all ++ reported [e]) k := by
  obtain ⟨k, hk⟩ := h
  cases e with
  | progress event => exact ⟨_, hk.push maxEvents event⟩
  | start =>
    have hall : all ++ reported [.start] = all := List.append_nil all
    rw [hall, ActivationFeed.step]
    split
    · exact ⟨k, hk⟩
    · exact ⟨_, hk.clear⟩
  | finish phase =>
    have hall : all ++ reported [.finish phase] = all := List.append_nil all
    rw [hall]
    exact ⟨k, hk⟩

lemma exists_keeps_after (events : List ActivationFeed.Event) :
    ∃ k, (({} : ActivationFeed).after events).events.Keeps (reported events) k := by
  induction events using List.reverseRecOn with
  | nil => exact ⟨0, Feed.keeps_new⟩
  | append_singleton events e ih =>
    have hall : reported (events ++ [e]) = reported events ++ reported [e] := List.filterMap_append
    rw [ActivationFeed.after, List.foldl_append, hall]
    exact exists_keeps ih e

/-! ### The stream -/

/-- The reports that are still to be sent in a round are the next ones. -/
def Pending (all : List ProgressEvent) (seq : ℕ) : StreamPlace → Prop
  | .sending rest => 0 < seq ∧ ∃ n ≤ all.length, rest = between all seq n
  | _ => True

/-- The message that ends the stream is the last, and comes after some report. -/
def Ends (w : Watched) (out : List StreamMessage) : Prop :=
  (∀ phase, .done phase ∉ out) ∨ ∃ pre phase, out = pre ++ [.done phase] ∧ sent pre ≠ [] ∧
    (∀ phase, .done phase ∉ pre) ∧ w.stream.place = .ended

/-- What holds after some events.  `ok` says that every round so far has found what came after the last
report sent. -/
structure Inv (all : List ProgressEvent) (w : Watched) (out : List StreamMessage) (ok : Prop) : Prop where
  keeps : ∃ k, w.feed.events.Keeps all k
  reads : Reads all 0 w.stream.seq (sent out)
  last : ∀ n ∈ ((sent out).map Prod.fst).getLast?, n = w.stream.seq
  sent_eq_nil : sent out = [] ↔ w.stream.seq = 0
  pending : Pending all w.stream.seq w.stream.place
  consecutive : Consecutive (sent out) ↔ ok
  ends : Ends w out

lemma sent_append (out out' : List StreamMessage) : sent (out ++ out') = sent out ++ sent out' :=
  List.filterMap_append

namespace Inv

/-- A new report changes nothing for the stream. -/
lemma activation (h : Inv all w out ok) (e : ActivationFeed.Event) :
    Inv (all ++ reported [e]) { w with feed := w.feed.step e } out ok := by
  refine ⟨exists_keeps h.keeps e, h.reads.grow _, h.last, h.sent_eq_nil, ?_, h.consecutive, h.ends⟩
  have hpending := h.pending
  change Pending _ w.stream.seq w.stream.place
  cases hplace : w.stream.place with
  | sending rest =>
    rw [hplace] at hpending
    obtain ⟨hpos, n, hn, hrest⟩ := hpending
    refine ⟨hpos, n, hn.trans (by simp), ?_⟩
    rw [between_append_left _ _ (Or.inl hn)]
    exact hrest
  | _ => trivial

/-- The next report is the one right after the last. -/
lemma isChain_next_iff (h : Inv all w out ok) (n : ℕ) (a : ProgressEvent) :
    ((([(n, a)] : List (ℕ × ProgressEvent)).map Prod.fst).IsChain (fun m n => n = m + 1) ∧
      ∀ x ∈ ((sent out).map Prod.fst).getLast?,
        ∀ y ∈ ([(n, a)].map Prod.fst).head?, y = x + 1) ↔
      w.stream.seq = 0 ∨ n = w.stream.seq + 1 := by
  by_cases hnil : sent out = []
  · refine iff_of_true ⟨List.isChain_singleton _, ?_⟩ (Or.inl (h.sent_eq_nil.1 hnil))
    rw [hnil]
    simp
  · have hpos : w.stream.seq ≠ 0 := fun hzero => hnil (h.sent_eq_nil.2 hzero)
    obtain ⟨last, hlast⟩ : ∃ last, ((sent out).map Prod.fst).getLast? = some last :=
      ⟨_, List.getLast?_eq_some_getLast (by simpa using hnil)⟩
    obtain rfl := h.last last hlast
    rw [hlast, or_iff_right hpos]
    simp

/-- What a round, or the rest of one, keeps. -/
lemma send (h : Inv all w out ok) (hplace : w.stream.place ≠ .ended) {j n : ℕ} (hj : w.stream.seq ≤ j)
    (hn : n ≤ all.length) {ok' : Prop} (hold : n ≤ j → (ok' ↔ ok))
    (hnew : j < n → (ok' ↔ ok ∧ (w.stream.seq = 0 ∨ j = w.stream.seq))) :
    Inv all { w with stream := (w.stream.send w.feed (between all j n)).2 }
      (out ++ (w.stream.send w.feed (between all j n)).1) ok' := by
  have hnone : ∀ phase, .done phase ∉ out := by
    rcases h.ends with hnone | ⟨pre, phase, -, -, -, hended⟩
    · exact hnone
    · exact absurd hended hplace
  rcases le_or_gt n j with hle | hlt
  · have hnil : between all j n = [] := between_eq_nil (by omega)
    rw [hnil, ActivationStream.send]
    split
    · rename_i hdone
      have hsent : sent (out ++ [.done w.feed.phase]) = sent out := by
        rw [sent_append]
        exact List.append_nil _
      refine ⟨h.keeps, hsent ▸ h.reads, hsent ▸ h.last, hsent ▸ h.sent_eq_nil, trivial, ?_, ?_⟩
      · rw [hsent, h.consecutive, hold hle]
      · refine Or.inr ⟨out, w.feed.phase, rfl, ?_, hnone, rfl⟩
        rw [Ne, h.sent_eq_nil]
        omega
    · rw [List.append_nil]
      exact ⟨h.keeps, h.reads, h.last, h.sent_eq_nil, trivial, h.consecutive.trans (hold hle).symm,
        Or.inl hnone⟩
  · obtain ⟨a, hone, hcons⟩ := exists_between_eq_cons hlt hn
    rw [hcons, ActivationStream.send]
    have hsent : sent (out ++ [.event (j + 1) a]) = sent out ++ between all j (j + 1) := by
      rw [sent_append, hone]
      rfl
    have hseq : max w.stream.seq (j + 1) = j + 1 := by omega
    simp only [hseq]
    refine ⟨h.keeps, ?_, ?_, ?_, ⟨Nat.succ_pos j, n, hn, rfl⟩, ?_, Or.inl fun phase hmem => ?_⟩
    · rw [hsent]
      exact h.reads.read hj (Nat.lt_succ_self j) (Nat.succ_le_of_lt (hlt.trans_le hn))
    · rw [hsent, hone]
      simp
    · rw [hsent, hone]
      simp
    · rw [hsent, hone, Consecutive, List.map_append, List.isChain_append, hnew hlt, ← h.consecutive,
        Consecutive]
      refine and_congr_right fun _ => ?_
      rw [h.isChain_next_iff]
      omega
    · rcases List.mem_append.1 hmem with hmem | hmem
      · exact hnone phase hmem
      · exact absurd hmem (by simp)

/-- A round finds all if the controller has forgotten nothing past the last report sent. -/
lemma keepsUp_iff {k : ℕ} (hk : w.feed.events.Keeps all k) (hplace : w.stream.place = .polling) :
    w.KeepsUp (.turn false) ↔ (0 < w.stream.seq → k < all.length → k ≤ w.stream.seq) := by
  have hlen := hk.length
  have hkept : w.feed.events.kept ≠ [] ↔ k < all.length := by
    rw [← List.length_pos_iff, hlen]
    omega
  rw [KeepsUp, hkept, hlen, hk.last]
  constructor
  · intro h hpos hlt
    have := h hplace hpos hlt
    omega
  · intro h _ hpos hlt
    have := h hpos hlt
    omega

lemma turn (h : Inv all w out ok) (expired : Bool) :
    Inv all (w.step (.turn expired)).2 (out ++ (w.step (.turn expired)).1)
      (ok ∧ w.KeepsUp (.turn expired)) := by
  have hidle : w.stream.place ≠ .polling ∨ expired = true →
      (ok ∧ w.KeepsUp (.turn expired)) = ok := by
    intro hcase
    refine propext (and_iff_left ?_)
    cases expired with
    | true => trivial
    | false => exact fun hplace => absurd hplace (hcase.resolve_right (by simp))
  rw [step, ActivationStream.turn]
  cases hplace : w.stream.place with
  | polling =>
    cases expired with
    | true =>
      rw [hidle (Or.inr rfl)]
      simp only [if_true, List.append_nil]
      refine ⟨h.keeps, h.reads, h.last, h.sent_eq_nil, trivial, h.consecutive, ?_⟩
      exact h.ends.imp_right fun ⟨pre, phase, hout, hne, hnone, _⟩ => ⟨pre, phase, hout, hne, hnone, rfl⟩
    | false =>
      obtain ⟨k, hk⟩ := h.keeps
      have hsince : w.feed.events.since w.stream.seq =
          between all (max k w.stream.seq) all.length := hk.since_eq _
      have hkeeps := keepsUp_iff hk hplace
      simp only [Bool.false_eq_true, if_false, hsince]
      refine h.send (by rw [hplace]; simp) (le_max_right _ _) le_rfl ?_ ?_
      · intro hold
        refine and_iff_left (hkeeps.2 fun _ hk => ?_)
        omega
      · intro hnew
        rw [hkeeps]
        refine and_congr_right fun _ => ?_
        omega
  | sending rest =>
    have hpending := h.pending
    rw [hplace] at hpending
    obtain ⟨hpos, n, hn, rfl⟩ := hpending
    rw [hidle (Or.inl (by rw [hplace]; simp))]
    exact h.send (by rw [hplace]; simp) le_rfl hn (fun _ => Iff.rfl)
      fun _ => (and_iff_left (Or.inr rfl)).symm
  | ended =>
    rw [hidle (Or.inl (by rw [hplace]; simp))]
    simp only [List.append_nil]
    exact h

lemma step (h : Inv all w out ok) (e : Event) :
    Inv (all ++ reported (Watched.activation [e])) (w.step e).2 (out ++ (w.step e).1)
      (ok ∧ w.KeepsUp e) := by
  cases e with
  | activation e =>
    rw [Watched.step, List.append_nil, show (ok ∧ w.KeepsUp (.activation e)) = ok from and_true ok]
    exact h.activation e
  | turn expired =>
    have hall : all ++ reported (Watched.activation [.turn expired]) = all := List.append_nil all
    rw [hall]
    exact h.turn expired

end Inv

lemma activation_concat (events : List Event) (e : Event) :
    activation (events ++ [e]) = activation events ++ activation [e] := List.filterMap_append

lemma reported_append (events events' : List ActivationFeed.Event) :
    reported (events ++ events') = reported events ++ reported events' := List.filterMap_append

lemma inv_run (before : List ActivationFeed.Event) (events : List Event) :
    Inv (reported (before ++ activation events))
      (run events { feed := ({} : ActivationFeed).after before }).2
      (run events { feed := ({} : ActivationFeed).after before }).1
      (Machine.Meets step (fun w _ e => KeepsUp w e) events
        { feed := ({} : ActivationFeed).after before } []) := by
  induction events using List.reverseRecOn with
  | nil =>
    have hall : before ++ activation [] = before := List.append_nil before
    rw [hall]
    exact ⟨exists_keeps_after before, .new _ 0, by simp [run, sent], by simp [run, sent], trivial,
      iff_of_true List.isChain_nil trivial, Or.inl (by simp [run])⟩
  | append_singleton events e ih =>
    rw [run, Machine.run_concat, Machine.meets_concat, activation_concat, ← List.append_assoc,
      reported_append (before ++ activation events)]
    exact ih.step e

/-- **The stream.**  Whatever an activation has done before and does while its stream is read, the
stream sends its reports in order and none twice, and nothing after the message that it is done, which
comes after some report.  The reports are consecutive if and only if at every round after the first
reports the controller, unless it has none, still had all that came after the last one sent. -/
theorem stream_in_order (before : List ActivationFeed.Event) (events : List Event) :
    let start : Watched := { feed := ({} : ActivationFeed).after before }
    let out := (run events start).1
    (sent out).Sublist (enumerated (reported (before ++ activation events))) ∧
      (Consecutive (sent out) ↔ Machine.Meets step (fun w _ e => KeepsUp w e) events start []) ∧
      ∀ pre phase post, out = pre ++ .done phase :: post → post = [] ∧ sent pre ≠ [] := by
  intro start out
  have hinv := inv_run before events
  refine ⟨?_, hinv.consecutive, fun pre phase post hout => ?_⟩
  · exact hinv.reads.sublist.trans (List.take_sublist _ _)
  · rcases hinv.ends with hnone | ⟨pre', phase', hout', hne, hnone, -⟩
    · refine absurd ?_ (hnone phase)
      rw [show (run events start).1 = _ from hout]
      simp
    · -- the first of the messages that end the stream is the last message
      rw [show (run events start).1 = _ from hout] at hout'
      rcases List.append_eq_append_iff.1 hout' with ⟨mid, rfl, heq⟩ | ⟨mid, rfl, heq⟩
      · cases mid with
        | nil => exact ⟨(List.cons.inj heq).2, by simpa using hne⟩
        | cons m mid =>
          refine absurd ?_ (hnone phase)
          rw [(List.cons.inj heq).1]
          simp
      · cases mid with
        | nil => exact ⟨(List.cons.inj heq.symm).2, by simpa using hne⟩
        | cons m mid => exact absurd (List.cons.inj heq).2 (by simp)

/-- A report that a browser has not been sent when the next activation starts is lost to it. -/
example :
    let report : ProgressEvent := ⟨0, .preflight, "checking dependencies", 1 / 20⟩
    let ran := run [.activation .start, .activation (.progress report), .turn false,
      .activation (.progress report), .activation (.finish .failed), .activation .start,
      .activation (.progress report), .turn false, .turn false] { feed := {} }
    (sent ran.1).map Prod.fst = [1, 3] := by decide +kernel

end Watched

end Turbobond.App
