import Turbobond.Lib.Machine
import Mathlib.Tactic

/-!
# The shadowsocks client

`start`, `_spawn`, `_supervise` and `stop` of `turbobond/transport/shadowsocks.py`, each cut at the
points where it waits.  A step performs one piece; which one comes next, and how long a wait takes, is
left open.
-/

namespace Turbobond.Transport

/-- Where `_supervise` waits: for the stop event, for the end of a back-off, or for a new client to
fail. -/
inductive Point where
  | waiting
  | backoff
  | spawning
  | finished
  deriving DecidableEq

structure SupervisorTask where
  point : Point := .waiting
  cancelled : Bool := false
  deriving DecidableEq

/-- Where a call of `stop` waits: for the supervisor, or for its child. -/
inductive StopCall where
  | joining (task : ℕ)
  | reaping (pid : ℕ)
  deriving DecidableEq

def StopCall.isReaping : StopCall → Bool
  | .joining _ => false
  | .reaping _ => true

/-- The manager with its children and its calls that are under way. -/
structure ShadowsocksManager where
  /-- `_process` -/
  process : Option ℕ := none
  /-- `_stop` -/
  stopSet : Bool := false
  /-- `_supervisor`, by its place among the tasks. -/
  supervisor : Option ℕ := none
  tasks : List SupervisorTask := []
  /-- Calls of `start` that wait for a new client to fail. -/
  starts : ℕ := 0
  stops : List StopCall := []
  alive : List ℕ := []
  spawned : ℕ := 0
  deriving DecidableEq

inductive Event where
  /-- `start`: whether the configuration is usable, whether the binary and the configuration file can
  be prepared, and whether the client can be executed. -/
  | start (usable prepared opened : Bool)
  | startWakes
  | dies (pid : ℕ)
  /-- A supervisor goes on: whether its wait for the stop event has timed out, and whether a client
  can be executed. -/
  | superviseWakes (task : ℕ) (timeout opened : Bool)
  | stop
  /-- A call of `stop` goes on, its wait for the child over in time or not. -/
  | stopWakes (call : ℕ) (timeout : Bool)
  deriving DecidableEq

/-- What is seen of the calls. -/
inductive Report where
  | started
  | stopped
  deriving DecidableEq

namespace ShadowsocksManager

variable (dryRun : Bool) (s : ShadowsocksManager)

/-- `running` -/
def running : Bool := s.process.any (· ∈ s.alive)

/-- `Popen`, in `_spawn`. -/
def popen : ShadowsocksManager :=
  { s with process := some s.spawned, alive := s.spawned :: s.alive, spawned := s.spawned + 1 }

def setPoint (task : ℕ) (point : Point) : ShadowsocksManager :=
  { s with tasks := s.tasks.modify task fun t => { t with point } }

/-- The rest of `start`, after `_spawn`. -/
def finishStart : ShadowsocksManager :=
  if s.supervisor = none then
    { s with stopSet := false, supervisor := some s.tasks.length, tasks := s.tasks ++ [{}] }
  else { s with stopSet := false }

/-- `start`, up to its wait. -/
def start (usable prepared opened : Bool) : ShadowsocksManager :=
  if !usable then s
  else if s.running then s
  else if !prepared then s
  else if dryRun then s.finishStart
  else if !opened then s
  else { s.popen with starts := s.starts + 1 }

/-- `start` goes on: it has failed if the client has exited or has been taken away. -/
def startWakes : ShadowsocksManager :=
  if s.starts = 0 then s
  else
    let s := { s with starts := s.starts - 1 }
    if s.running then s.finishStart else s

/-- The head of the loop of `_supervise`. -/
def loop (task : ℕ) : ShadowsocksManager :=
  s.setPoint task (if s.stopSet then .finished else .waiting)

/-- `_supervise` goes on. -/
def superviseWakes (task : ℕ) (timeout opened : Bool) : ShadowsocksManager :=
  match s.tasks[task]? with
  | none => s
  | some t =>
    if t.cancelled then s.setPoint task .finished
    else
      match t.point with
      | .waiting =>
        if timeout then
          if dryRun || s.running then s.loop task else s.setPoint task .backoff
        else if s.stopSet then s.setPoint task .finished
        else s
      -- nothing looks whether there is a client by now
      | .backoff => if opened then s.popen.setPoint task .spawning else s.loop task
      | .spawning => if s.process = none then s.setPoint task .finished else s.loop task
      | .finished => s

def isFinished (task : ℕ) : Bool := (s.tasks[task]?).all fun t => t.point = .finished

/-- `stop`, from where the supervisor is gone. -/
def take : List Report × ShadowsocksManager :=
  match s.process with
  | none => ([.stopped], { s with supervisor := none })
  | some pid =>
    if pid ∈ s.alive then
      ([], { s with supervisor := none, process := none, stops := s.stops ++ [.reaping pid] })
    else ([.stopped], { s with supervisor := none, process := none })

/-- `stop`, up to its first wait. -/
def stop : List Report × ShadowsocksManager :=
  match s.supervisor with
  | none => { s with stopSet := true }.take
  | some task =>
    if s.isFinished task then { s with stopSet := true }.take
    else
      ([], { s with
        stopSet := true
        tasks := s.tasks.modify task fun t => { t with cancelled := true }
        stops := s.stops ++ [.joining task] })

/-- `stop` goes on: a child that has not exited in time is killed. -/
def stopWakes (call : ℕ) (timeout : Bool) : List Report × ShadowsocksManager :=
  match s.stops[call]? with
  | none => ([], s)
  | some (.joining task) =>
    if s.isFinished task then { s with stops := s.stops.eraseIdx call }.take else ([], s)
  | some (.reaping pid) =>
    if pid ∉ s.alive then ([.stopped], { s with stops := s.stops.eraseIdx call })
    else if timeout then
      ([.stopped], { s with stops := s.stops.eraseIdx call, alive := s.alive.erase pid })
    else ([], s)

def step : Event → List Report × ShadowsocksManager
  | .start usable prepared opened => ([.started], s.start dryRun usable prepared opened)
  | .startWakes => ([], s.startWakes)
  | .dies pid => ([], { s with alive := s.alive.erase pid })
  | .superviseWakes task timeout opened => ([], s.superviseWakes dryRun task timeout opened)
  | .stop => s.stop
  | .stopWakes call timeout => s.stopWakes call timeout

/-- At most one client is alive, and none is after a stop has completed with no later start. -/
structure AtMostOne (reports : List Report) : Prop where
  one : s.alive.length ≤ 1
  none : reports.getLast? = some .stopped → s.alive = []

/-- What a step must be like: no start goes on to spawn while a stop waits for its child, no supervisor
comes out of a back-off while a client is running, and no stop is called while another is under
way. -/
def Suits : Event → Prop
  | .start usable prepared opened =>
    usable = true → prepared = true → (dryRun || opened) = true → s.running = false →
      ∀ call ∈ s.stops, call.isReaping = false
  | .superviseWakes task _ opened =>
    s.tasks[task]? = some { point := .backoff, cancelled := false } → opened = true → s.running = false
  | .stop => s.stops = []
  | _ => True

instance : ∀ e, Decidable (s.Suits dryRun e)
  | .start _ _ _ => inferInstanceAs (Decidable (_ → _ → _ → _ → ∀ call ∈ s.stops, _))
  | .superviseWakes _ _ _ => inferInstanceAs (Decidable (_ → _ → _))
  | .stop => inferInstanceAs (Decidable (_ = _))
  | .startWakes | .dies _ | .stopWakes _ _ => inferInstanceAs (Decidable True)

/-! ### What every run keeps -/

/-- The client that is alive is the one the manager has, or a stop waits for it; only the supervisor
that the manager has is not finished, and a stop that waits for it has cancelled it. -/
structure Sound : Prop where
  oneStop : s.stops.length ≤ 1
  tasks : ∀ i t, s.tasks[i]? = some t → t.point = .finished ∨ s.supervisor = some i
  joining : ∀ i, .joining i ∈ s.stops →
    s.supervisor = some i ∧ ∀ t, s.tasks[i]? = some t → t.cancelled = true
  reaping : ∀ pid, .reaping pid ∈ s.stops → s.process = none ∧ s.supervisor = none
  alive : ∀ pid ∈ s.alive, s.process = some pid ∨ .reaping pid ∈ s.stops
  nodup : s.alive.Nodup
  fresh : ∀ pid ∈ s.alive, pid < s.spawned

/-- After a stop nothing is left that could spawn. -/
def Quiet (reports : List Report) : Prop :=
  reports.getLast? = some .stopped → s.process = none ∧ s.supervisor = none ∧ s.stops = []

variable {dryRun s} {reports : List Report}

lemma Sound.length_alive_le (h : s.Sound) : s.alive.length ≤ 1 := by
  have hsame : ∀ p ∈ s.alive, ∀ q ∈ s.alive, p = q := by
    intro p hp q hq
    rcases h.alive p hp with hpp | hpr
    · rcases h.alive q hq with hqp | hqr
      · exact Option.some.inj (hpp.symm.trans hqp)
      · exact absurd hpp (by simp [(h.reaping q hqr).1])
    · rcases h.alive q hq with hqp | hqr
      · exact absurd hqp (by simp [(h.reaping p hpr).1])
      · -- there is one stop only
        obtain ⟨call, hcall⟩ := List.length_eq_one_iff.1
          (le_antisymm h.oneStop (List.length_pos_of_mem hpr))
        rw [hcall, List.mem_singleton] at hpr hqr
        exact StopCall.reaping.inj (hpr.trans hqr.symm)
  match halive : s.alive, h.nodup with
  | [], _ => simp
  | [p], _ => simp
  | p :: q :: _, hnodup =>
    rw [halive] at hsame
    have hne : p ≠ q := fun heq => (List.nodup_cons.1 hnodup).1 (by simp [heq])
    exact absurd (hsame p (by simp) q (by simp)) hne

lemma Sound.alive_eq_nil (h : s.Sound) (hreaping : ∀ pid, .reaping pid ∉ s.stops)
    (hrunning : s.running = false) : s.alive = [] := by
  refine List.eq_nil_iff_forall_not_mem.2 fun pid hpid => ?_
  rcases h.alive pid hpid with hprocess | hstop
  · simp [running, hprocess, hpid] at hrunning
  · exact hreaping pid hstop

lemma not_reaping_of_forall (h : ∀ call ∈ s.stops, call.isReaping = false) (pid : ℕ) :
    .reaping pid ∉ s.stops := fun hmem => absurd (h _ hmem) (by simp [StopCall.isReaping])

lemma Sound.not_reaping_of_process (h : s.Sound) (hprocess : s.process ≠ none) (pid : ℕ) :
    .reaping pid ∉ s.stops := fun hmem => hprocess (h.reaping pid hmem).1

lemma Sound.not_reaping_of_supervisor (h : s.Sound) (hsupervisor : s.supervisor ≠ none) (pid : ℕ) :
    .reaping pid ∉ s.stops := fun hmem => hsupervisor (h.reaping pid hmem).2

lemma process_ne_none_of_running (h : s.running = true) : s.process ≠ none := by
  rintro hnone
  simp [running, hnone] at h

lemma Sound.popen (h : s.Sound) (hreaping : ∀ pid, .reaping pid ∉ s.stops)
    (hrunning : s.running = false) : s.popen.Sound where
  oneStop := h.oneStop
  tasks := h.tasks
  joining := h.joining
  reaping pid hmem := absurd hmem (hreaping pid)
  alive pid hpid := by
    rw [ShadowsocksManager.popen, h.alive_eq_nil hreaping hrunning] at hpid
    exact .inl (congrArg some (List.mem_singleton.1 hpid).symm)
  nodup := by
    rw [ShadowsocksManager.popen, h.alive_eq_nil hreaping hrunning]
    exact List.nodup_singleton _
  fresh pid hpid := by
    rw [ShadowsocksManager.popen, h.alive_eq_nil hreaping hrunning] at hpid
    rw [List.mem_singleton.1 hpid]
    exact Nat.lt_succ_self _

lemma Sound.finishStart (h : s.Sound) (hreaping : ∀ pid, .reaping pid ∉ s.stops) :
    s.finishStart.Sound := by
  rw [ShadowsocksManager.finishStart]
  split_ifs with hnone
  · refine ⟨h.oneStop, fun i t ht => ?_, fun i hi => ?_, fun pid hpid => absurd hpid (hreaping pid),
      h.alive, h.nodup, h.fresh⟩
    · rw [List.getElem?_append] at ht
      split_ifs at ht with hlt
      · left
        exact (h.tasks i t ht).resolve_right (by simp [hnone])
      · right
        have hi := (List.getElem?_eq_some_iff.1 ht).1
        rw [List.length_singleton] at hi
        exact congrArg some (by omega)
    · exact absurd (h.joining i hi).1 (by simp [hnone])
  · exact ⟨h.oneStop, h.tasks, h.joining, fun pid hpid => absurd hpid (hreaping pid), h.alive, h.nodup,
      h.fresh⟩

/-- A point of a task changes: it is finished, or the task is the one that the manager has. -/
lemma Sound.setPoint (h : s.Sound) {task : ℕ} {point : Point}
    (hpoint : point = .finished ∨ s.supervisor = some task) : (s.setPoint task point).Sound := by
  refine ⟨h.oneStop, fun i t ht => ?_, fun i hi => ⟨(h.joining i hi).1, fun t ht => ?_⟩, h.reaping,
    h.alive, h.nodup, h.fresh⟩
  · rw [ShadowsocksManager.setPoint, List.getElem?_modify] at ht
    obtain ⟨t', ht', rfl⟩ := Option.map_eq_some_iff.1 ht
    by_cases heq : task = i
    · subst heq
      rw [if_pos rfl]
      exact hpoint
    · rw [if_neg heq]
      exact h.tasks i t' ht'
  · rw [ShadowsocksManager.setPoint, List.getElem?_modify] at ht
    obtain ⟨t', ht', rfl⟩ := Option.map_eq_some_iff.1 ht
    have hcancelled := (h.joining i hi).2 t' ht'
    split_ifs
    · exact hcancelled
    · exact hcancelled

lemma Sound.dies (h : s.Sound) (pid : ℕ) :
    Sound { s with alive := s.alive.erase pid } :=
  ⟨h.oneStop, h.tasks, h.joining, h.reaping, fun p hp => h.alive p (List.mem_of_mem_erase hp),
    h.nodup.erase _, fun p hp => h.fresh p (List.mem_of_mem_erase hp)⟩

lemma Sound.start (h : s.Sound) {usable prepared opened : Bool}
    (hsuits : s.Suits dryRun (.start usable prepared opened)) :
    (s.start dryRun usable prepared opened).Sound := by
  rw [ShadowsocksManager.start]
  split_ifs with husable hrunning hprepared hdry hopened
  · exact h
  · exact h
  · exact h
  · exact h.finishStart (not_reaping_of_forall (hsuits (by simpa using husable)
      (by simpa using hprepared) (by simp [hdry]) (by simpa using hrunning)))
  · exact h
  · have hreaping := not_reaping_of_forall (hsuits (by simpa using husable)
      (by simpa using hprepared) (by simp at hopened; simp [hopened]) (by simpa using hrunning))
    obtain ⟨honeStop, htasks, hjoining, hreaping', halive, hnodup, hfresh⟩ :=
      h.popen hreaping (by simpa using hrunning)
    exact ⟨honeStop, htasks, hjoining, hreaping', halive, hnodup, hfresh⟩

lemma Sound.startWakes (h : s.Sound) : s.startWakes.Sound := by
  have hwoken : Sound { s with starts := s.starts - 1 } :=
    ⟨h.oneStop, h.tasks, h.joining, h.reaping, h.alive, h.nodup, h.fresh⟩
  rw [ShadowsocksManager.startWakes]
  by_cases hstarts : s.starts = 0
  · rw [if_pos hstarts]
    exact h
  · rw [if_neg hstarts]
    dsimp only
    split_ifs with hrunning
    · exact hwoken.finishStart (hwoken.not_reaping_of_process (process_ne_none_of_running hrunning))
    · exact hwoken

lemma Sound.loop (h : s.Sound) {task : ℕ} (hsupervisor : s.supervisor = some task) :
    (s.loop task).Sound := h.setPoint (.inr hsupervisor)

lemma Sound.superviseWakes (h : s.Sound) {task : ℕ} {timeout opened : Bool}
    (hsuits : s.Suits dryRun (.superviseWakes task timeout opened)) :
    (s.superviseWakes dryRun task timeout opened).Sound := by
  rw [ShadowsocksManager.superviseWakes]
  cases ht : s.tasks[task]? with
  | none => exact h
  | some t =>
    have hown : t.point ≠ .finished → s.supervisor = some task := (h.tasks task t ht).resolve_left
    dsimp only
    by_cases hcancelled : t.cancelled = true
    · rw [if_pos hcancelled]
      exact h.setPoint (.inl rfl)
    · rw [if_neg hcancelled]
      cases hpoint : t.point with
      | waiting =>
        have hsupervisor := hown (by simp [hpoint])
        dsimp only
        split_ifs
        · exact h.loop hsupervisor
        · exact h.setPoint (.inr hsupervisor)
        · exact h.setPoint (.inl rfl)
        · exact h
      | backoff =>
        have hsupervisor := hown (by simp [hpoint])
        dsimp only
        split_ifs with hopened
        · -- no client is running, and no stop waits for one
          have hbackoff : t = { point := .backoff, cancelled := false } := by
            cases t
            simp_all
          have hspawned := h.popen (h.not_reaping_of_supervisor (by simp [hsupervisor]))
            (hsuits (hbackoff ▸ ht) hopened)
          exact hspawned.setPoint (.inr hsupervisor)
        · exact h.loop hsupervisor
      | spawning =>
        have hsupervisor := hown (by simp [hpoint])
        dsimp only
        split_ifs
        · exact h.setPoint (.inl rfl)
        · exact h.loop hsupervisor
      | finished => exact h

/-! ### Stopping -/

/-- A stop whose supervisor is gone takes the client away: then it waits for it, or it has completed
and nothing is left. -/
lemma Sound.take (h : s.Sound) (hstops : s.stops = [])
    (hfinished : ∀ (i : ℕ) (t : SupervisorTask), s.tasks[i]? = some t → t.point = .finished) :
    s.take.2.Sound ∧ s.take.2.Quiet s.take.1 := by
  have htasks : ∀ (i : ℕ) (t : SupervisorTask), s.tasks[i]? = some t →
      t.point = .finished ∨ (none : Option ℕ) = some i := fun i t ht => .inl (hfinished i t ht)
  rw [ShadowsocksManager.take]
  split
  · rename_i hprocess
    refine ⟨⟨h.oneStop, htasks, ?_, ?_, h.alive, h.nodup, h.fresh⟩, fun _ =>
      ⟨hprocess, rfl, hstops⟩⟩
    · simp [hstops]
    · simp [hstops]
  · rename_i pid hprocess
    have hothers : ∀ p ∈ s.alive, p = pid := fun p hp =>
      (h.alive p hp).elim (fun heq => Option.some.inj (heq.symm.trans hprocess))
        (by simp [hstops])
    split_ifs with halive
    · refine ⟨⟨by simp [hstops], htasks, ?_, ?_, fun p hp => .inr ?_, h.nodup, h.fresh⟩, ?_⟩
      · simp [hstops]
      · simp [hstops]
      · simp [hstops, hothers p hp]
      · exact fun hlast => absurd hlast (by simp)
    · refine ⟨⟨h.oneStop, htasks, ?_, ?_, fun p hp => absurd (hothers p hp ▸ hp) halive, h.nodup,
        h.fresh⟩, fun _ => ⟨rfl, rfl, hstops⟩⟩
      · simp [hstops]
      · simp [hstops]

lemma Sound.finished (h : s.Sound) {task : ℕ} (hsupervisor : s.supervisor = some task)
    (hdone : s.isFinished task = true) (i : ℕ) (t : SupervisorTask) (ht : s.tasks[i]? = some t) :
    t.point = .finished := by
  rcases h.tasks i t ht with hfinished | hi
  · exact hfinished
  · obtain rfl : task = i := Option.some.inj (hsupervisor.symm.trans hi)
    simpa [isFinished, ht] using hdone

lemma Sound.stop (h : s.Sound) (hstops : s.stops = []) :
    s.stop.2.Sound ∧ s.stop.2.Quiet s.stop.1 := by
  have hset : Sound { s with stopSet := true } :=
    ⟨h.oneStop, h.tasks, h.joining, h.reaping, h.alive, h.nodup, h.fresh⟩
  rw [ShadowsocksManager.stop]
  cases hsupervisor : s.supervisor with
  | none =>
    exact hset.take hstops fun i t ht => (h.tasks i t ht).resolve_right (by simp [hsupervisor])
  | some task =>
    dsimp only
    split_ifs with hdone
    · exact hset.take hstops (h.finished hsupervisor hdone)
    · refine ⟨⟨by simp [hstops], fun i t ht => ?_, fun i hi => ?_, fun pid hpid => ?_, fun pid hpid => ?_,
        h.nodup, h.fresh⟩, fun hlast => absurd hlast (by simp)⟩
      · rw [List.getElem?_modify] at ht
        obtain ⟨t', ht', rfl⟩ := Option.map_eq_some_iff.1 ht
        have htask := h.tasks i t' ht'
        rw [hsupervisor] at htask
        split_ifs
        · exact htask
        · exact htask
      · simp only [hstops, List.nil_append, List.mem_singleton, StopCall.joining.injEq] at hi
        subst hi
        refine ⟨rfl, fun t ht => ?_⟩
        rw [List.getElem?_modify] at ht
        obtain ⟨t', -, rfl⟩ := Option.map_eq_some_iff.1 ht
        rw [if_pos rfl]
      · simp [hstops] at hpid
      · exact (h.alive pid hpid).imp_right fun hmem => by simp [hstops] at hmem

/-- A stop that waits is the only one. -/
lemma Sound.eraseIdx_stops (h : s.Sound) {call : ℕ} {c : StopCall} (hcall : s.stops[call]? = some c) :
    s.stops = [c] ∧ s.stops.eraseIdx call = [] := by
  obtain ⟨hlt, hget⟩ := List.getElem?_eq_some_iff.1 hcall
  obtain ⟨c', hstops⟩ := List.length_eq_one_iff.1 (le_antisymm h.oneStop (by omega))
  have hzero : call = 0 := by
    rw [hstops] at hlt
    exact Nat.lt_one_iff.1 hlt
  subst hzero
  simp only [hstops, List.getElem?_cons_zero, Option.some.injEq] at hcall
  exact ⟨by rw [hstops, hcall], by rw [hstops]; rfl⟩

lemma Sound.stopWakes (h : s.Sound) (call : ℕ) (timeout : Bool) :
    (s.stopWakes call timeout).2.Sound ∧
      ((s.stopWakes call timeout).1 = [.stopped] →
        (s.stopWakes call timeout).2.Quiet (s.stopWakes call timeout).1) := by
  rw [ShadowsocksManager.stopWakes]
  cases hcall : s.stops[call]? with
  | none => exact ⟨h, fun hout => absurd hout (by simp)⟩
  | some c =>
    obtain ⟨hstops, herase⟩ := h.eraseIdx_stops hcall
    cases c with
    | joining task =>
      dsimp only
      split_ifs with hdone
      · have hsupervisor := (h.joining task (by simp [hstops])).1
        have hresumed : Sound { s with stops := s.stops.eraseIdx call } := by
          refine ⟨by simp [herase], h.tasks, by simp [herase], by simp [herase], fun pid hpid => ?_,
            h.nodup, h.fresh⟩
          exact (h.alive pid hpid).imp_right fun hmem => by simp [hstops] at hmem
        have htaken := hresumed.take herase (h.finished hsupervisor hdone)
        exact ⟨htaken.1, fun _ => htaken.2⟩
      · exact ⟨h, fun hout => absurd hout (by simp)⟩
    | reaping pid =>
      obtain ⟨hprocess, hsupervisor⟩ := h.reaping pid (by simp [hstops])
      have hothers : ∀ p ∈ s.alive, p = pid := fun p hp =>
        (h.alive p hp).elim (fun heq => absurd heq (by simp [hprocess])) (by simp [hstops])
      dsimp only
      by_cases halive : pid ∈ s.alive
      · rw [if_neg (not_not.2 halive)]
        split_ifs
        · have hgone : s.alive.erase pid = [] := by
            refine List.eq_nil_iff_forall_not_mem.2 fun p hp => ?_
            exact (h.nodup.mem_erase_iff.1 hp).1 (hothers p (List.mem_of_mem_erase hp))
          exact ⟨⟨by simp [herase], h.tasks, by simp [herase], by simp [herase], by simp [hgone],
            by simp [hgone], by simp [hgone]⟩, fun _ _ => ⟨hprocess, hsupervisor, herase⟩⟩
        · exact ⟨h, fun hout => absurd hout (by simp)⟩
      · rw [if_pos halive]
        refine ⟨⟨by simp [herase], h.tasks, by simp [herase], by simp [herase], fun p hp => ?_, h.nodup,
          h.fresh⟩, fun _ _ => ⟨hprocess, hsupervisor, herase⟩⟩
        exact absurd (hothers p hp ▸ hp) halive

/-! ### Runs -/

lemma take_fst : s.take.1 = [] ∨ s.take.1 = [.stopped] := by
  rw [ShadowsocksManager.take]
  split
  · exact .inr rfl
  · split_ifs
    · exact .inl rfl
    · exact .inr rfl

lemma stop_fst : s.stop.1 = [] ∨ s.stop.1 = [.stopped] := by
  rw [ShadowsocksManager.stop]
  split
  · exact take_fst
  · split_ifs
    · exact take_fst
    · exact .inl rfl

lemma stopWakes_fst (call : ℕ) (timeout : Bool) :
    (s.stopWakes call timeout).1 = [] ∨ (s.stopWakes call timeout).1 = [.stopped] := by
  rw [ShadowsocksManager.stopWakes]
  split
  · exact .inl rfl
  · split_ifs
    · exact take_fst
    · exact .inl rfl
  · split_ifs
    · exact .inr rfl
    · exact .inl rfl
    · exact .inr rfl

lemma quiet_append {out : List Report} (hout : out = [.stopped]) (h : s.Quiet out) :
    s.Quiet (reports ++ out) := fun _ => h (by rw [hout]; rfl)

/-- What is quiet stays quiet, until there is a start. -/
lemma Sound.quiet_step (h : s.Sound) (hquiet : s.Quiet reports) {e : Event}
    (hsuits : s.Suits dryRun e) :
    (s.step dryRun e).2.Quiet (reports ++ (s.step dryRun e).1) := by
  cases e with
  | start usable prepared opened =>
    intro hlast
    simp [step] at hlast
  | startWakes =>
    intro hlast
    obtain ⟨hprocess, hsupervisor, hstops⟩ := hquiet (by simpa [step] using hlast)
    have hrunning : ∀ n, running { s with starts := n } = false := fun n => by simp [running, hprocess]
    simp only [step, ShadowsocksManager.startWakes, hrunning, Bool.false_eq_true, if_false]
    split_ifs
    · exact ⟨hprocess, hsupervisor, hstops⟩
    · exact ⟨hprocess, hsupervisor, hstops⟩
  | dies pid =>
    intro hlast
    exact hquiet (by simpa [step] using hlast)
  | superviseWakes task timeout opened =>
    intro hlast
    have hbefore := hquiet (by simpa [step] using hlast)
    simp only [step, ShadowsocksManager.superviseWakes]
    cases ht : s.tasks[task]? with
    | none => exact hbefore
    | some t =>
      have hfinished := (h.tasks task t ht).resolve_right (by simp [hbefore.2.1])
      simp only [hfinished]
      split_ifs
      · exact hbefore
      · exact hbefore
  | stop =>
    rcases stop_fst (s := s) with hout | hout
    · intro hlast
      rw [step, hout, List.append_nil] at hlast
      obtain ⟨hprocess, hsupervisor, -⟩ := hquiet hlast
      rw [ShadowsocksManager.stop, hsupervisor] at hout
      simp [ShadowsocksManager.take, hprocess] at hout
    · exact quiet_append hout (h.stop hsuits).2
  | stopWakes call timeout =>
    rcases stopWakes_fst (s := s) call timeout with hout | hout
    · intro hlast
      rw [step, hout, List.append_nil] at hlast
      have hbefore := hquiet hlast
      rw [step, ShadowsocksManager.stopWakes, hbefore.2.2]
      exact hbefore
    · exact quiet_append hout ((h.stopWakes call timeout).2 hout)

lemma Sound.step (h : s.Sound) {e : Event} (hsuits : s.Suits dryRun e) :
    (s.step dryRun e).2.Sound := by
  cases e with
  | start usable prepared opened => exact h.start hsuits
  | startWakes => exact h.startWakes
  | dies pid => exact h.dies pid
  | superviseWakes task timeout opened => exact h.superviseWakes hsuits
  | stop => exact (h.stop hsuits).1
  | stopWakes call timeout => exact (h.stopWakes call timeout).1

lemma sound_start : Sound {} where
  oneStop := by simp
  tasks := by simp
  joining := by simp
  reaping := by simp
  alive := by simp
  nodup := by simp
  fresh := by simp

/-- **One client.**  In a run whose steps are as they must be, at most one client is alive, and none
after a stop has completed with no later start. -/
theorem atMostOne_run (dryRun : Bool) (events : List Event)
    (hmeets : Machine.Meets (step dryRun) (fun s _ e => s.Suits dryRun e) events {} []) :
    let ran := Machine.run (step dryRun) events {}
    ran.2.AtMostOne ran.1 := by
  intro ran
  have hkept := Machine.run_invariant_of_meets (step dryRun)
    (I := fun s reports => s.Sound ∧ s.Quiet reports)
    (fun s reports e h hsuits => ⟨h.1.step hsuits, h.1.quiet_step h.2 hsuits⟩) events
    ⟨sound_start, fun hlast => absurd hlast (by simp)⟩ hmeets
  obtain ⟨hsound, hquiet⟩ : ran.2.Sound ∧ ran.2.Quiet ran.1 := hkept
  refine ⟨hsound.length_alive_le, fun hlast => ?_⟩
  obtain ⟨hprocess, -, hstops⟩ := hquiet hlast
  exact hsound.alive_eq_nil (by simp [hstops]) (by simp [running, hprocess])

/-- The client dies, is started again after a back-off, and is stopped. -/
def restarted : List Event :=
  [.start true true true, .startWakes, .dies 0, .superviseWakes 0 true true,
    .superviseWakes 0 true true, .stop, .superviseWakes 0 false true, .stopWakes 0 false, .dies 1,
    .stopWakes 0 false]

theorem atMostOne_restarted :
    let ran := Machine.run (step false) restarted {}
    ran.1 = [.started, .stopped] ∧ ran.2.AtMostOne ran.1 :=
  ⟨by decide, atMostOne_run false restarted (by decide)⟩

/-- The client dies, and is started again during the back-off. -/
def startedTwice : List Event :=
  [.start true true true, .startWakes, .dies 0, .superviseWakes 0 true true, .start true true true,
    .startWakes, .superviseWakes 0 true true]

/-- The supervisor comes out of its back-off and spawns a second client; a stop ends only that one. -/
theorem not_atMostOne_startedTwice :
    (Machine.run (step false) startedTwice {}).2.alive = [2, 1] ∧
      let ran := Machine.run (step false) (startedTwice ++
        [.stop, .superviseWakes 0 false true, .stopWakes 0 false, .dies 2, .stopWakes 0 false]) {}
      ran.1.getLast? = some .stopped ∧ ran.2.alive = [1] := by
  decide

end ShadowsocksManager

end Turbobond.Transport
