import Turbobond.Lib.Feed
import Turbobond.Lib.Machine

/-!
# The log on the dashboard

`RingBufferHandler` keeps the last log records of the gateway, and `refreshLogs` of the page asks for
those after the last that it has shown.  The page refreshes on a timer, whether or not the request
before has been answered, and keeps what it has shown when the gateway restarts and numbers its records
from one again.
-/

namespace Turbobond.App

/-- What `emit` keeps of a log record, with its message put together. -/
structure LogRecord where
  ts : ℚ
  level : String
  logger : String
  message : String
  deriving DecidableEq

/-- `_MAX_RECORDS`. -/
def maxRecords : ℕ := 2000

/-- What `refreshLogs` asks for at most. -/
def refreshLimit : ℕ := 200

/-- The lines that the page keeps. -/
def maxLines : ℕ := 400

structure RingBufferHandler where
  records : Feed LogRecord := {}
  deriving DecidableEq

namespace RingBufferHandler

def emit (h : RingBufferHandler) (record : LogRecord) : RingBufferHandler :=
  { records := h.records.push maxRecords record }

/-- `tail`. -/
def tail (h : RingBufferHandler) (afterSeq limit : ℤ) : List (ℕ × LogRecord) :=
  let items := h.records.since afterSeq
  -- a slice that starts at `-limit`, which is the front for a limit that is not positive
  if 0 < limit then items.drop (items.length - limit.toNat) else items.drop (-limit).toNat

end RingBufferHandler

/-- A request of `refreshLogs`: on its way to the gateway, or back from it. -/
inductive LogRequest where
  | asked (after : ℕ)
  | answered (records : List (ℕ × LogRecord))
  deriving DecidableEq

/-- The gateway and a page that shows its log. -/
structure LogView where
  handler : RingBufferHandler := {}
  lastLogSeq : ℕ := 0
  /-- The lines in the view. -/
  view : List (ℕ × LogRecord) := []
  requests : List LogRequest := []

namespace LogView

inductive Event where
  | emit (record : LogRecord)
  | refresh
  /-- The gateway answers a request. -/
  | serve (i : ℕ)
  /-- A request fails, on the way there or back. -/
  | lose (i : ℕ)
  /-- The page takes an answer. -/
  | receive (i : ℕ)
  deriving DecidableEq

/-- The rest of `refreshLogs`, once there is an answer. -/
def append (v : LogView) (records : List (ℕ × LogRecord)) : LogView :=
  if records = [] then v
  else
    let view := v.view ++ records
    { v with
      lastLogSeq := latest records v.lastLogSeq
      view := view.drop (view.length - maxLines) }

/-- An event, with the lines that it adds to the view. -/
def step (v : LogView) : Event → List (ℕ × LogRecord) × LogView
  | .emit record => ([], { v with handler := v.handler.emit record })
  | .refresh => ([], { v with requests := v.requests ++ [.asked v.lastLogSeq] })
  | .serve i =>
    match v.requests[i]? with
    | some (.asked after) =>
      ([], { v with requests := v.requests.set i (.answered (v.handler.tail after refreshLimit)) })
    | _ => ([], v)
  | .lose i =>
    match v.requests[i]? with
    | some (.asked _) => ([], { v with requests := v.requests.eraseIdx i })
    | _ => ([], v)
  | .receive i =>
    match v.requests[i]? with
    | some (.answered records) =>
      (records, ({ v with requests := v.requests.eraseIdx i }).append records)
    | _ => ([], v)

def run (events : List Event) (v : LogView) : List (ℕ × LogRecord) × LogView :=
  Machine.run step events v

/-- The records of the gateway. -/
def emitted (events : List Event) : List LogRecord :=
  events.filterMap fun
    | .emit record => some record
    | _ => none

/-- A page that has shown records up to a number, and a gateway that has just started. -/
def opened (base : ℕ) : LogView := { lastLogSeq := base }

/-- The page refreshes when no request is on its way. -/
def Alone (v : LogView) (e : Event) : Prop := e = .refresh → v.requests = []

/-- A request is answered when there are no more new records than it asks for. -/
def FewNew (v : LogView) : Event → Prop
  | .serve i =>
    match v.requests[i]? with
    | some (.asked after) => v.handler.records.last ≤ after + refreshLimit
    | _ => True
  | _ => True

instance (v : LogView) (e : Event) : Decidable (v.Alone e) := inferInstanceAs (Decidable (_ → _))

/-- No answer is on its way. -/
def Settled (v : LogView) : Prop := ∀ records, .answered records ∉ v.requests

variable {v : LogView} {base : ℕ} {all : List LogRecord} {shown : List (ℕ × LogRecord)}

/-- What the gateway answers: the records after the last one shown, or the last so many. -/
lemma tail_eq {h : RingBufferHandler} (hk : h.records.Keeps all (all.length - maxRecords)) (pos : ℕ) :
    h.tail pos refreshLimit = between all (max pos (all.length - refreshLimit)) all.length := by
  have hstart : max (all.length - maxRecords) pos +
      (all.length - max (all.length - maxRecords) pos - refreshLimit) =
        max pos (all.length - refreshLimit) := by
    simp only [maxRecords, refreshLimit]
    omega
  rw [RingBufferHandler.tail, hk.since_eq, if_pos (by simp [refreshLimit]), Int.toNat_natCast,
    length_between, Nat.min_self, between, List.drop_drop, hstart, between]

/-- The last lines of what is left of some and of others are those of all. -/
lemma drop_append_drop (l l' : List (ℕ × LogRecord)) (n : ℕ) :
    (l.drop (l.length - n) ++ l').drop ((l.drop (l.length - n) ++ l').length - n) =
      (l ++ l').drop ((l ++ l').length - n) := by
  rw [← List.drop_append_of_le_length (Nat.sub_le l.length n), List.drop_drop, List.length_drop,
    List.length_append]
  congr 1
  omega

/-- There is no request on its way, or one, and what it is answered.  `complete` says that no record is
missing from what is shown, and `few` that no answer so far has left one out. -/
def Waiting (all : List LogRecord) (pos : ℕ) (complete few : Prop) (requests : List LogRequest) : Prop :=
  (requests = [] ∨ requests = [.asked pos]) ∧ (complete ↔ few) ∨
    ∃ n ≤ all.length, requests = [.answered (between all (max pos (n - refreshLimit)) n)] ∧
      (complete ∧ n ≤ pos + refreshLimit ↔ few)

/-- What holds after some events, where requests do not overlap. -/
structure Inv (base : ℕ) (all : List LogRecord) (v : LogView) (shown : List (ℕ × LogRecord))
    (few : Prop) : Prop where
  keeps : v.handler.records.Keeps all (all.length - maxRecords)
  reads : Reads all base v.lastLogSeq shown
  view : v.view = shown.drop (shown.length - maxLines)
  waiting : Waiting all v.lastLogSeq (shown = between all base v.lastLogSeq) few v.requests

namespace Inv

variable {few : Prop}

lemma emit (h : Inv base all v shown few) (record : LogRecord) :
    Inv base (all ++ [record]) { v with handler := v.handler.emit record } shown few := by
  have hsame : between (all ++ [record]) base v.lastLogSeq = between all base v.lastLogSeq :=
    between_append_left _ _ h.reads.bound
  refine ⟨?_, h.reads.grow [record], h.view, ?_⟩
  · have hk := h.keeps.push maxRecords record
    have hmax : max (all.length - maxRecords) (all.length + 1 - maxRecords) =
        (all ++ [record]).length - maxRecords := by
      rw [List.length_append, List.length_singleton]
      omega
    rwa [hmax] at hk
  · rw [hsame]
    rcases h.waiting with hidle | ⟨n, hn, hrequests, hiff⟩
    · exact Or.inl hidle
    · refine Or.inr ⟨n, hn.trans (by simp), ?_, hiff⟩
      rw [between_append_left _ _ (Or.inl hn)]
      exact hrequests

lemma refresh (h : Inv base all v shown few) (halone : v.requests = []) :
    Inv base all { v with requests := v.requests ++ [.asked v.lastLogSeq] } shown few := by
  refine ⟨h.keeps, h.reads, h.view, Or.inl ⟨Or.inr ?_, ?_⟩⟩
  · change v.requests ++ _ = _
    rw [halone, List.nil_append]
  · rcases h.waiting with ⟨-, hiff⟩ | ⟨n, -, hrequests, -⟩
    · exact hiff
    · exact absurd (halone.symm.trans hrequests) (by simp)

/-- A request that is on its way to the gateway is the only one, and asks for what comes after the last
record shown. -/
lemma of_asked (h : Inv base all v shown few) {i after : ℕ} (hi : v.requests[i]? = some (.asked after)) :
    i = 0 ∧ v.requests = [.asked after] ∧ after = v.lastLogSeq ∧
      (shown = between all base v.lastLogSeq ↔ few) := by
  rcases h.waiting with ⟨hnil | hasked, hiff⟩ | ⟨n, -, hrequests, -⟩
  · rw [hnil] at hi
    exact absurd hi (by simp)
  · rw [hasked, List.getElem?_singleton] at hi
    split at hi
    · rename_i hzero
      obtain rfl := LogRequest.asked.inj (Option.some.inj hi)
      exact ⟨hzero, hasked, rfl, hiff⟩
    · exact absurd hi (by simp)
  · rw [hrequests, List.getElem?_singleton] at hi
    split at hi
    · exact absurd (Option.some.inj hi) (by simp)
    · exact absurd hi (by simp)

lemma of_answered (h : Inv base all v shown few) {i : ℕ} {records : List (ℕ × LogRecord)}
    (hi : v.requests[i]? = some (.answered records)) :
    i = 0 ∧ v.requests = [.answered records] ∧ ∃ n ≤ all.length,
      records = between all (max v.lastLogSeq (n - refreshLimit)) n ∧
      (shown = between all base v.lastLogSeq ∧ n ≤ v.lastLogSeq + refreshLimit ↔ few) := by
  rcases h.waiting with ⟨hnil | hasked, -⟩ | ⟨n, hn, hrequests, hiff⟩
  · rw [hnil] at hi
    exact absurd hi (by simp)
  · rw [hasked, List.getElem?_singleton] at hi
    split at hi
    · exact absurd (Option.some.inj hi) (by simp)
    · exact absurd hi (by simp)
  · rw [hrequests, List.getElem?_singleton] at hi
    split at hi
    · rename_i hzero
      obtain rfl := LogRequest.answered.inj (Option.some.inj hi)
      exact ⟨hzero, hrequests, n, hn, rfl, hiff⟩
    · exact absurd hi (by simp)

lemma serve (h : Inv base all v shown few) (i : ℕ) :
    Inv base all (v.step (.serve i)).2 shown (few ∧ v.FewNew (.serve i)) := by
  rw [step, FewNew]
  split
  · rename_i after hi
    obtain ⟨rfl, hrequests, rfl, hiff⟩ := h.of_asked hi
    refine ⟨h.keeps, h.reads, h.view, Or.inr ⟨all.length, le_rfl, ?_, ?_⟩⟩
    · change v.requests.set 0 _ = _
      rw [hrequests, tail_eq h.keeps]
      rfl
    · rw [h.keeps.last]
      exact and_congr_left' hiff
  · rename_i hnone
    refine ⟨h.keeps, h.reads, h.view, ?_⟩
    rw [and_true]
    exact h.waiting

lemma lose (h : Inv base all v shown few) (i : ℕ) : Inv base all (v.step (.lose i)).2 shown few := by
  rw [step]
  split
  · rename_i after hi
    obtain ⟨rfl, hrequests, -, hiff⟩ := h.of_asked hi
    refine ⟨h.keeps, h.reads, h.view, Or.inl ⟨Or.inl ?_, hiff⟩⟩
    change v.requests.eraseIdx 0 = _
    rw [hrequests]
    rfl
  · exact h

lemma receive (h : Inv base all v shown few) (i : ℕ) :
    Inv base all (v.step (.receive i)).2 (shown ++ (v.step (.receive i)).1) few := by
  rw [step]
  split
  · rename_i records hi
    obtain ⟨rfl, hrequests, n, hn, rfl, hiff⟩ := h.of_answered hi
    have hidle : ∀ w : LogView, w.requests = v.requests.eraseIdx 0 → w.requests = [] := by
      intro w hw
      rw [hw, hrequests]
      rfl
    simp only [append]
    rcases le_or_gt n v.lastLogSeq with hold | hnew
    · -- nothing is new
      have hnil : between all (max v.lastLogSeq (n - refreshLimit)) n = [] :=
        between_eq_nil (by omega)
      rw [hnil, if_pos rfl, List.append_nil]
      refine ⟨h.keeps, h.reads, h.view, Or.inl ⟨Or.inl (hidle _ rfl), ?_⟩⟩
      rw [← hiff]
      exact ⟨fun hc => ⟨hc, hold.trans (Nat.le_add_right _ _)⟩, And.left⟩
    · have hj : max v.lastLogSeq (n - refreshLimit) < n := by
        simp only [refreshLimit]
        omega
      have hne : between all (max v.lastLogSeq (n - refreshLimit)) n ≠ [] := by
        rw [← List.length_pos_iff, length_between]
        omega
      have hlast : latest (between all (max v.lastLogSeq (n - refreshLimit)) n) v.lastLogSeq = n :=
        latest_between hnew.le hj hn
      rw [if_neg hne, hlast]
      refine ⟨h.keeps, h.reads.read (le_max_left _ _) hj hn, ?_, Or.inl ⟨Or.inl (hidle _ rfl), ?_⟩⟩
      · have hview := drop_append_drop shown
          (between all (max v.lastLogSeq (n - refreshLimit)) n) maxLines
        rw [← h.view] at hview
        simpa only using hview
      · rw [h.reads.read_eq_iff (le_max_left _ _) hj hn, ← hiff]
        refine and_congr_right fun _ => ?_
        omega
  · rw [List.append_nil]
    exact h

end Inv

lemma emitted_concat (events : List Event) (e : Event) :
    emitted (events ++ [e]) = emitted events ++ emitted [e] := List.filterMap_append

lemma Inv.step {few : Prop} (h : Inv base all v shown few) {e : Event} (halone : v.Alone e) :
    Inv base (all ++ emitted [e]) (v.step e).2 (shown ++ (v.step e).1) (few ∧ v.FewNew e) := by
  cases e with
  | emit record =>
    rw [LogView.step, List.append_nil, show (few ∧ v.FewNew (.emit record)) = few from and_true few]
    exact h.emit record
  | refresh =>
    have hall : all ++ emitted [.refresh] = all := List.append_nil all
    rw [LogView.step, List.append_nil, show (few ∧ v.FewNew .refresh) = few from and_true few, hall]
    exact h.refresh (halone rfl)
  | serve i =>
    have hall : all ++ emitted [.serve i] = all := List.append_nil all
    have hout : (v.step (.serve i)).1 = [] := by
      rw [LogView.step]
      split <;> rfl
    rw [hall, hout, List.append_nil]
    exact h.serve i
  | lose i =>
    have hall : all ++ emitted [.lose i] = all := List.append_nil all
    have hout : (v.step (.lose i)).1 = [] := by
      rw [LogView.step]
      split <;> rfl
    rw [hall, hout, List.append_nil, show (few ∧ v.FewNew (.lose i)) = few from and_true few]
    exact h.lose i
  | receive i =>
    have hall : all ++ emitted [.receive i] = all := List.append_nil all
    rw [hall, show (few ∧ v.FewNew (.receive i)) = few from and_true few]
    exact h.receive i

lemma inv_opened (base : ℕ) : Inv base [] (opened base) [] True := by
  have hkeeps : Feed.Keeps (opened base).handler.records [] 0 := Feed.keeps_new
  refine ⟨?_, .new [] base, by simp [opened], Or.inl ⟨Or.inl rfl, ?_⟩⟩
  · simpa using hkeeps
  · exact iff_of_true (between_eq_nil (by simp)).symm trivial

lemma inv_run (base : ℕ) (events : List Event)
    (h : Machine.Meets step (fun v _ e => Alone v e) events (opened base) []) :
    Inv base (emitted events) (run events (opened base)).2 (run events (opened base)).1
      (Machine.Meets step (fun v _ e => FewNew v e) events (opened base) []) := by
  induction events using List.reverseRecOn with
  | nil => exact inv_opened base
  | append_singleton events e ih =>
    obtain ⟨hevents, halone⟩ := (Machine.meets_concat step events e (opened base) []).1 h
    rw [run, Machine.run_concat, Machine.meets_concat, emitted_concat]
    exact (ih hevents).step halone

/-- **The log.**  While no refresh overlaps another, and whatever else happens, the lines shown are
records of the gateway in order and none twice, all past the number that the page began with, and the
view has the last of them.  Once no answer is on its way, none is missing if and only if every answer so
far was to a request with at most 200 new records. -/
theorem log_in_order (base : ℕ) (events : List Event)
    (h : Machine.Meets step (fun v _ e => Alone v e) events (opened base) []) :
    let v := (run events (opened base)).2
    let shown := (run events (opened base)).1
    shown.Sublist (between (emitted events) base v.lastLogSeq) ∧
      v.view = shown.drop (shown.length - maxLines) ∧
      (v.Settled → (shown = between (emitted events) base v.lastLogSeq ↔
        Machine.Meets step (fun v _ e => FewNew v e) events (opened base) [])) := by
  intro v shown
  have hinv := inv_run base events h
  refine ⟨hinv.reads.sublist, hinv.view, fun hsettled => ?_⟩
  rcases hinv.waiting with ⟨-, hiff⟩ | ⟨n, -, hrequests, -⟩
  · exact hiff
  · have hmem : LogRequest.answered (between (emitted events) (max v.lastLogSeq (n - refreshLimit)) n) ∈
        v.requests := by
      rw [hrequests]
      exact List.mem_cons_self
    exact absurd hmem (hsettled _)

/-- A record. -/
def line (message : String) : LogRecord := ⟨0, "INFO", "turbobond", message⟩

/-- The page shows two records, and then a third. -/
def threeLines : List Event :=
  [.emit (line "a"), .emit (line "b"), .refresh, .serve 0, .emit (line "c"), .receive 0, .refresh,
    .lose 0, .refresh, .serve 0, .receive 0]

theorem log_in_order_threeLines :
    let v := (run threeLines (opened 0)).2
    let shown := (run threeLines (opened 0)).1
    shown.Sublist (between (emitted threeLines) 0 v.lastLogSeq) ∧
      v.view = shown.drop (shown.length - maxLines) ∧
      (v.Settled → (shown = between (emitted threeLines) 0 v.lastLogSeq ↔
        Machine.Meets step (fun v _ e => FewNew v e) threeLines (opened 0) [])) :=
  log_in_order 0 threeLines (by decide +kernel)

end LogView

end Turbobond.App
