import Turbobond.App.Activation

/-!
# What activation and deactivation leave running

The supervisor refers to one subsystem of each kind, and `deactivate` stops the ones it refers to.
As long as nothing that runs is replaced, and nothing is made while something is being stopped, what
runs is what the supervisor refers to.
-/

namespace Turbobond.App.Lifecycle

/-- No subsystem of a kind runs. -/
def Down (s : Lifecycle) (part : Subsystem) : Prop := ∀ id, (s.services part id).running = false

/-- No device-tracking task runs. -/
def Untracked (s : Lifecycle) : Prop := ∀ task, s.devices task = false

/-- Nothing runs. -/
def Still (s : Lifecycle) : Prop := (∀ part, s.Down part) ∧ s.Untracked

/-- No request is in progress. -/
def Idle (s : Lifecycle) : Prop := s.activations = Dict.empty ∧ s.deactivations = Dict.empty

instance (s : Lifecycle) : Decidable s.Idle := inferInstanceAs (Decidable (_ ∧ _))

/-- At most one subsystem of each kind and at most one device-tracking task run, and none does after
a `deactivate`. -/
structure LeaksNothing (s : Lifecycle) (completed : List Request) : Prop where
  once : ∀ part id id', (s.services part id).running = true →
    (s.services part id').running = true → id = id'
  tracked_once : ∀ task task', s.devices task = true → s.devices task' = true → task = task'
  still : completed.getLast? = some .deactivate → s.Still

/-! ### Runs without replacement -/

/-- Nothing has been made yet. -/
def early : Point → Bool
  | .created | .preflight | .router | .discovery => true
  | _ => false

/-- What a stage makes when it goes on. -/
def creates : Point → Result → Bool → Option Subsystem
  | .discovery, .returns, _ => some .monitor
  | .routing, .returns, true => some .tunnel
  | .lan, .returns, _ => some .selector
  | _, _, _ => none

/-- No stage makes a subsystem while the one before it runs or a `deactivate` is in progress, and
`stop` comes only when an activation that has made something is the one the controller knows of. -/
def Careful (s : Lifecycle) : Event → Prop
  | .advance i result bonding =>
    ∀ a ∈ s.activations.get? i, a.cancelled = false → ∀ part ∈ creates a.point result bonding,
      s.deactivations = Dict.empty ∧
        ∀ id ∈ s.supervisor.parts part, (s.services part id).running = false
  | .stop =>
    ∀ x ∈ s.activations.entries, x.2.cancelled = false →
      early x.2.point = true ∨ s.controller.task = some x.1
  | _ => True

instance (s : Lifecycle) : DecidablePred s.Careful
  | .advance _ _ _ => inferInstanceAs (Decidable (∀ _ ∈ _, _ → ∀ _ ∈ _, _ ∧ ∀ _ ∈ _, _))
  | .stop => inferInstanceAs (Decidable (∀ _ ∈ _, _ → _))
  | .start | .teardown _ _ => inferInstanceAs (Decidable True)

/-- What a call of `deactivate` has yet to stop, or has stopped. -/
def Covers (s : Lifecycle) : Teardown → Prop
  | .tracking task => ∀ task', s.devices task' = true → task' = task
  | .stopping current rest => s.Untracked ∧
      ∀ part id, (s.services part id).running = true → some (part, id) ∈ current :: rest
  | .restoring => s.Still

/-- An activation has begun with its stages. -/
def Busy (s : Lifecycle) : Prop := ∃ i a, s.activations.get? i = some a ∧ a.point ≠ .created

/-- Every activation that will go on has made nothing yet. -/
def AllEarly (s : Lifecycle) : Prop :=
  ∀ i a, s.activations.get? i = some a → a.cancelled = false → early a.point = true

/-- What holds between two steps of a run without replacement. -/
structure Inv (s : Lifecycle) (completed : List Request) : Prop where
  fresh : ∀ i a, s.activations.get? i = some a → i < s.nextId
  owned : ∀ part id, (s.services part id).running = true → s.supervisor.parts part = some id
  tracked : ∀ task, s.devices task = true → s.supervisor.deviceTask = some task
  locked : ∀ i a, s.activations.get? i = some a → a.point ≠ .created →
    s.supervisor.activating = true
  alone : ∀ i i' a a', s.activations.get? i = some a → s.activations.get? i' = some a' →
    a.point ≠ .created → a'.point ≠ .created → i = i'
  starting : ∀ i a part id, s.activations.get? i = some a → a.cancelled = false →
    a.point = .starting part id → s.supervisor.parts part = some id ∧ s.Down part
  allEarly : ∀ j d, s.deactivations.get? j = some d → s.AllEarly
  covers : ∀ j d, s.deactivations.get? j = some d → s.Covers d
  quiet : completed.getLast? = some .deactivate → s.Still ∨ s.Busy

variable {s : Lifecycle} {completed : List Request} {i : ℕ} {a : Activation}

lemma Inv.leaksNothing (h : Inv s completed) (hidle : s.Idle) : s.LeaksNothing completed where
  once part id id' hid hid' := Option.some.inj ((h.owned part id hid).symm.trans (h.owned part id' hid'))
  tracked_once task task' ht ht' :=
    Option.some.inj ((h.tracked task ht).symm.trans (h.tracked task' ht'))
  still hlast := by
    rcases h.quiet hlast with hstill | ⟨i, a, ha, -⟩
    · exact hstill
    · rw [hidle.1, Dict.get?_empty] at ha
      exact absurd ha (by simp)

lemma inv_start : Inv {} [] where
  fresh _ _ ha := absurd ha (by simp)
  owned _ _ hid := absurd hid (by simp)
  tracked _ ht := absurd ht (by simp)
  locked _ _ ha := absurd ha (by simp)
  alone _ _ _ _ ha := absurd ha (by simp)
  starting _ _ _ _ ha := absurd ha (by simp)
  allEarly _ _ hd := absurd hd (by simp)
  covers _ _ hd := absurd hd (by simp)
  quiet hlast := absurd hlast (by simp)

/-! ### Activation -/

/-- An activation that has made something goes on only while nothing is being stopped. -/
lemma Inv.no_deactivation (h : Inv s completed) (ha : s.activations.get? i = some a)
    (hgoes : a.cancelled = false) (hlate : early a.point = false) (j : ℕ) :
    s.deactivations.get? j = none := by
  cases hd : s.deactivations.get? j with
  | none => rfl
  | some d => exact absurd (h.allEarly j d hd i a ha hgoes) (by simp [hlate])

/-- An activation goes on, to a point where it waits for no subsystem. -/
lemma Inv.moveTo (h : Inv s completed) (ha : s.activations.get? i = some a)
    (hbegun : a.point ≠ .created) {p : Point} (hp : p ≠ .created)
    (hstarting : ∀ part id, p ≠ .starting part id)
    (hearly : ∀ j d, s.deactivations.get? j = some d → early p = true) :
    Inv (s.moveTo i p) completed := by
  refine { h with fresh := ?_, locked := ?_, alone := ?_, starting := ?_, allEarly := ?_, quiet := ?_ }
  · intro k b hk
    rcases Dict.of_get?_set hk with ⟨rfl, -⟩ | ⟨-, hb⟩
    · exact h.fresh k a ha
    · exact h.fresh k b hb
  · exact fun _ _ _ _ => h.locked i a ha hbegun
  · intro k k' b b' hk hk' hb hb'
    rcases Dict.of_get?_set hk with ⟨rfl, -⟩ | ⟨-, hb₁⟩
    · rcases Dict.of_get?_set hk' with ⟨rfl, -⟩ | ⟨-, hb₂⟩
      · rfl
      · exact h.alone _ _ _ _ ha hb₂ hbegun hb'
    · rcases Dict.of_get?_set hk' with ⟨rfl, -⟩ | ⟨-, hb₂⟩
      · exact h.alone _ _ _ _ hb₁ ha hb hbegun
      · exact h.alone _ _ _ _ hb₁ hb₂ hb hb'
  · intro k b part id hk hgoes hpoint
    rcases Dict.of_get?_set hk with ⟨rfl, rfl⟩ | ⟨-, hb⟩
    · exact absurd hpoint (hstarting part id)
    · exact h.starting k b part id hb hgoes hpoint
  · intro j d hd k b hk hgoes
    rcases Dict.of_get?_set hk with ⟨rfl, rfl⟩ | ⟨-, hb⟩
    · exact hearly j d hd
    · exact h.allEarly j d hd k b hb hgoes
  · intro _
    refine .inr ⟨i, { point := p }, ?_, hp⟩
    rw [Lifecycle.moveTo, Dict.get?_set_self]

/-- The first step of an activation that gets the lock. -/
lemma Inv.enter (h : Inv s completed) (ha : s.activations.get? i = some a)
    (hfree : s.supervisor.activating = false) :
    Inv ({ s with supervisor := { s.supervisor with activating := true } }.moveTo i .preflight)
      completed := by
  -- nobody else has begun
  have hnone : ∀ k b, s.activations.get? k = some b → b.point = .created := by
    intro k b hk
    by_contra hb
    exact absurd (h.locked k b hk hb) (by simp [hfree])
  refine { h with fresh := ?_, locked := ?_, alone := ?_, starting := ?_, allEarly := ?_, quiet := ?_ }
  · intro k b hk
    rcases Dict.of_get?_set hk with ⟨rfl, -⟩ | ⟨-, hb⟩
    · exact h.fresh k a ha
    · exact h.fresh k b hb
  · exact fun _ _ _ _ => rfl
  · intro k k' b b' hk hk' hb hb'
    rcases Dict.of_get?_set hk with ⟨rfl, -⟩ | ⟨-, hb₁⟩
    · rcases Dict.of_get?_set hk' with ⟨rfl, -⟩ | ⟨-, hb₂⟩
      · rfl
      · exact absurd (hnone k' b' hb₂) hb'
    · exact absurd (hnone k b hb₁) hb
  · intro k b part id hk hgoes hpoint
    rcases Dict.of_get?_set hk with ⟨rfl, rfl⟩ | ⟨-, hb⟩
    · exact absurd hpoint (by simp)
    · exact h.starting k b part id hb hgoes hpoint
  · intro j d hd k b hk hgoes
    rcases Dict.of_get?_set hk with ⟨rfl, rfl⟩ | ⟨-, hb⟩
    · rfl
    · exact h.allEarly j d hd k b hb hgoes
  · intro _
    refine .inr ⟨i, { point := .preflight }, ?_, by simp⟩
    rw [Lifecycle.moveTo, Dict.get?_set_self]

/-- The end of an activation; the lock is kept only for another. -/
lemma Inv.leave (h : Inv s completed) (ha : s.activations.get? i = some a)
    {supervisor : Supervisor} (controller : ActivationController)
    (hparts : supervisor.parts = s.supervisor.parts)
    (hdevice : supervisor.deviceTask = s.supervisor.deviceTask)
    (hlock : supervisor.activating = s.supervisor.activating ∨ a.point ≠ .created) :
    Inv { s with supervisor, controller, activations := s.activations.erase i }
      (completed ++ [.activate]) := by
  refine ⟨?_, ?_, ?_, ?_, ?_, ?_, ?_, h.covers, ?_⟩
  · exact fun k b hk => h.fresh k b (Dict.of_get?_erase hk).2
  · exact fun part id hid => (congrFun hparts part).trans (h.owned part id hid)
  · exact fun task ht => hdevice.trans (h.tracked task ht)
  · intro k b hk hb
    obtain ⟨hne, hb₁⟩ := Dict.of_get?_erase hk
    rcases hlock with hlock | hbegun
    · exact hlock.trans (h.locked k b hb₁ hb)
    · exact absurd (h.alone _ _ _ _ hb₁ ha hb hbegun) hne
  · exact fun k k' b b' hk hk' =>
      h.alone k k' b b' (Dict.of_get?_erase hk).2 (Dict.of_get?_erase hk').2
  · intro k b part id hk hgoes hpoint
    obtain ⟨hpart, hdown⟩ := h.starting k b part id (Dict.of_get?_erase hk).2 hgoes hpoint
    exact ⟨(congrFun hparts part).trans hpart, hdown⟩
  · exact fun j d hd k b hk => h.allEarly j d hd k b (Dict.of_get?_erase hk).2
  · simp

lemma Inv.complete (h : Inv s completed) (ha : s.activations.get? i = some a)
    (hbegun : a.point ≠ .created) :
    Inv (s.complete i).2 (completed ++ (s.complete i).1) :=
  h.leave ha _ rfl rfl (.inr hbegun)

lemma Inv.finish (h : Inv s completed) (ha : s.activations.get? i = some a) :
    Inv (s.finish i).2 (completed ++ (s.finish i).1) :=
  h.leave ha _ rfl rfl (.inl rfl)

lemma Inv.proceed (h : Inv s completed) (ha : s.activations.get? i = some a)
    (hbegun : a.point ≠ .created) {p : Point} (hp : p ≠ .created)
    (hstarting : ∀ part id, p ≠ .starting part id)
    (hearly : ∀ j d, s.deactivations.get? j = some d → early p = true) (result : Result) :
    Inv (s.proceed i result p).2 (completed ++ (s.proceed i result p).1) := by
  rw [Lifecycle.proceed]
  split
  · rw [List.append_nil]
    exact h.moveTo ha hbegun hp hstarting hearly
  · exact h.complete ha hbegun

lemma running_setService (s : Lifecycle) (part part' : Subsystem) (id id' : ℕ) (service : Service)
    (h : ((s.setService part id service).services part' id').running = true) :
    (part' = part ∧ id' = id ∧ service.running = true) ∨
      ((part', id') ≠ (part, id) ∧ (s.services part' id').running = true) := by
  rw [Lifecycle.setService] at h
  by_cases hpart : part' = part
  · subst hpart
    simp only [Function.update_self] at h
    by_cases hid : id' = id
    · subst hid
      rw [Function.update_self] at h
      exact .inl ⟨rfl, rfl, h⟩
    · rw [Function.update_of_ne hid] at h
      exact .inr ⟨by simp [hid], h⟩
  · simp only [Function.update_of_ne hpart] at h
    exact .inr ⟨by simp [hpart], h⟩

/-- The subsystem that the supervisor refers to starts. -/
lemma Inv.launch (h : Inv s completed) {part : Subsystem} {id : ℕ}
    (hpart : s.supervisor.parts part = some id)
    (hnone : ∀ j, s.deactivations.get? j = none)
    (hwait : ∀ k b id', s.activations.get? k = some b → b.cancelled = false →
      b.point ≠ .starting part id')
    (hbusy : completed.getLast? = some .deactivate → s.Busy) :
    Inv (s.launch part id) completed := by
  refine { h with owned := ?_, starting := ?_, allEarly := ?_, covers := ?_, quiet := ?_ }
  · intro part' id' hid
    rcases running_setService s part part' id id' _ hid with ⟨rfl, rfl, -⟩ | ⟨-, hrunning⟩
    · exact hpart
    · exact h.owned part' id' hrunning
  · intro k b part' id' hk hgoes hpoint
    obtain ⟨hpart', hdown⟩ := h.starting k b part' id' hk hgoes hpoint
    have hne : part' ≠ part := by
      rintro rfl
      exact hwait k b id' hk hgoes hpoint
    refine ⟨hpart', fun id'' => ?_⟩
    simp only [Lifecycle.launch, Lifecycle.setService, Function.update_of_ne hne]
    exact hdown id''
  · exact fun j d hd => absurd (hd.symm.trans (hnone j)) (by simp)
  · exact fun j d hd => absurd (hd.symm.trans (hnone j)) (by simp)
  · exact fun hlast => .inr (hbusy hlast)

/-- The supervisor refers to no subsystem of a kind any more. -/
lemma Inv.clear (h : Inv s completed) {part : Subsystem} (hdown : s.Down part)
    (hwait : ∀ k b id', s.activations.get? k = some b → b.cancelled = false →
      b.point ≠ .starting part id') :
    Inv (s.setParts (Function.update s.supervisor.parts part none)) completed := by
  refine { h with owned := ?_, starting := ?_ }
  · intro part' id' hid
    have hne : part' ≠ part := by
      rintro rfl
      exact absurd hid (by simp [Lifecycle.setParts, hdown id'])
    exact (Function.update_of_ne hne _ _).trans (h.owned part' id' hid)
  · intro k b part' id' hk hgoes hpoint
    obtain ⟨hpart', hdown'⟩ := h.starting k b part' id' hk hgoes hpoint
    have hne : part' ≠ part := by
      rintro rfl
      exact hwait k b id' hk hgoes hpoint
    exact ⟨(Function.update_of_ne hne _ _).trans hpart', hdown'⟩

/-- A stage makes a subsystem of a kind of which none runs. -/
lemma Inv.create (h : Inv s completed) (ha : s.activations.get? i = some a)
    (hbegun : a.point ≠ .created) {part : Subsystem} (hdown : s.Down part)
    (hnone : ∀ j, s.deactivations.get? j = none) : Inv (s.create i part) completed := by
  have hrunning : ∀ part' id', ((s.create i part).services part' id').running = true →
      part' ≠ part ∧ (s.services part' id').running = true := by
    intro part' id' hid
    rcases running_setService _ part part' s.nextId id' {} hid with ⟨-, -, hrunning⟩ | ⟨-, hrunning⟩
    · exact absurd hrunning (by simp)
    · refine ⟨?_, hrunning⟩
      rintro rfl
      exact absurd hrunning (by simp [Lifecycle.setParts, hdown id'])
  refine ⟨?_, ?_, h.tracked, ?_, ?_, ?_, ?_, ?_, ?_⟩
  · intro k b hk
    have hlt : k < s.nextId := by
      rcases Dict.of_get?_set hk with ⟨rfl, -⟩ | ⟨-, hb⟩
      · exact h.fresh k a ha
      · exact h.fresh k b hb
    exact Nat.lt_succ_of_lt hlt
  · intro part' id' hid
    obtain ⟨hne, hrun⟩ := hrunning part' id' hid
    exact (Function.update_of_ne hne _ _).trans (h.owned part' id' hrun)
  · exact fun _ _ _ _ => h.locked i a ha hbegun
  · intro k k' b b' hk hk' hb hb'
    rcases Dict.of_get?_set hk with ⟨rfl, -⟩ | ⟨-, hb₁⟩
    · rcases Dict.of_get?_set hk' with ⟨rfl, -⟩ | ⟨-, hb₂⟩
      · rfl
      · exact h.alone _ _ _ _ ha hb₂ hbegun hb'
    · rcases Dict.of_get?_set hk' with ⟨rfl, -⟩ | ⟨-, hb₂⟩
      · exact h.alone _ _ _ _ hb₁ ha hb hbegun
      · exact h.alone _ _ _ _ hb₁ hb₂ hb hb'
  · intro k b part' id' hk hgoes hpoint
    rcases Dict.of_get?_set hk with ⟨rfl, rfl⟩ | ⟨hne, hb⟩
    · obtain ⟨rfl, rfl⟩ := Point.starting.inj hpoint
      refine ⟨Function.update_self _ _ _, fun id'' => ?_⟩
      by_contra hrun
      exact (hrunning part id'' (by simpa using hrun)).1 rfl
    · -- nobody else has begun
      exact absurd (h.alone _ _ _ _ hb ha (by simp [hpoint]) hbegun) hne
  · exact fun j d hd => absurd (hd.symm.trans (hnone j)) (by simp)
  · exact fun j d hd => absurd (hd.symm.trans (hnone j)) (by simp)
  · intro _
    refine .inr ⟨i, { point := .starting part s.nextId }, ?_, by simp⟩
    exact Dict.get?_set_self _ _ _

lemma Inv.startDeviceTracking (h : Inv s completed) (hnone : ∀ j, s.deactivations.get? j = none)
    (hbusy : s.Busy) : Inv s.startDeviceTracking completed := by
  rw [Lifecycle.startDeviceTracking]
  cases htask : s.supervisor.deviceTask with
  | some task => exact h
  | none =>
    refine { h with fresh := ?_, tracked := ?_, covers := ?_, quiet := ?_ }
    · exact fun k b hk => Nat.lt_succ_of_lt (h.fresh k b hk)
    · intro task ht
      by_cases hnew : task = s.nextId
      · rw [hnew]
      · simp only [Function.update_of_ne hnew] at ht
        exact absurd (h.tracked task ht) (by simp [htask])
    · exact fun j d hd => absurd (hd.symm.trans (hnone j)) (by simp)
    · exact fun _ => .inr hbusy

/-- No other activation waits for a subsystem. -/
lemma Inv.not_starting (h : Inv s completed) (ha : s.activations.get? i = some a)
    (hbegun : a.point ≠ .created) {k : ℕ} {b : Activation} (hk : s.activations.get? k = some b)
    (hne : k ≠ i) (part : Subsystem) (id : ℕ) : b.point ≠ .starting part id :=
  fun hb => hne (h.alone _ _ _ _ hk ha (by simp [hb]) hbegun)

/-- A subsystem has started, and its stage goes on. -/
lemma Inv.launch_moveTo (h : Inv s completed) (ha : s.activations.get? i = some a)
    (hgoes : a.cancelled = false) {part : Subsystem} {id : ℕ} (hpoint : a.point = .starting part id)
    {p : Point} (hp : p ≠ .created) (hstarting : ∀ part id, p ≠ .starting part id) :
    Inv ((s.launch part id).moveTo i p) completed := by
  have hbegun : a.point ≠ .created := by simp [hpoint]
  have hnone := h.no_deactivation ha hgoes (by rw [hpoint]; rfl)
  have hmoved : Inv (s.moveTo i p) completed :=
    h.moveTo ha hbegun hp hstarting fun j d hd => absurd (hd.symm.trans (hnone j)) (by simp)
  have hlaunched : Inv ((s.moveTo i p).launch part id) completed := by
    refine hmoved.launch (h.starting i a part id ha hgoes hpoint).1 hnone ?_ ?_
    · intro k b id' hk _
      rcases Dict.of_get?_set hk with ⟨rfl, rfl⟩ | ⟨hne, hb⟩
      · exact hstarting part id'
      · exact h.not_starting ha hbegun hb hne part id'
    · exact fun _ => ⟨i, { point := p }, Dict.get?_set_self _ _ _, hp⟩
  exact hlaunched

/-- A subsystem has started, and the activation ends. -/
lemma Inv.launch_complete (h : Inv s completed) (ha : s.activations.get? i = some a)
    (hgoes : a.cancelled = false) {part : Subsystem} {id : ℕ}
    (hpoint : a.point = .starting part id) :
    Inv ((s.launch part id).complete i).2 (completed ++ ((s.launch part id).complete i).1) := by
  have hbegun : a.point ≠ .created := by simp [hpoint]
  have hnone := h.no_deactivation ha hgoes (by rw [hpoint]; rfl)
  have hlaunched : Inv ((s.complete i).2.launch part id) (completed ++ (s.complete i).1) := by
    refine (h.complete ha hbegun).launch (h.starting i a part id ha hgoes hpoint).1 hnone ?_ ?_
    · intro k b id' hk _
      obtain ⟨hne, hb⟩ := Dict.of_get?_erase hk
      exact h.not_starting ha hbegun hb hne part id'
    · simp [Lifecycle.complete, Lifecycle.finish]
  exact hlaunched

/-- What `Careful` says of a stage that makes a subsystem. -/
lemma Inv.create_of_creates (h : Inv s completed) (ha : s.activations.get? i = some a)
    (hbegun : a.point ≠ .created) {part : Subsystem}
    (hcareful : s.deactivations = Dict.empty ∧
      ∀ id ∈ s.supervisor.parts part, (s.services part id).running = false) :
    Inv (s.create i part) completed := by
  refine h.create ha hbegun (fun id => ?_) fun j => ?_
  · by_contra hid
    have hrunning : (s.services part id).running = true := by simpa using hid
    exact hid (hcareful.2 id (h.owned part id hrunning))
  · rw [hcareful.1, Dict.get?_empty]

lemma Inv.resume (h : Inv s completed) (ha : s.activations.get? i = some a)
    (hgoes : a.cancelled = false) (result : Result) (bonding : Bool)
    (hcareful : ∀ part ∈ creates a.point result bonding, s.deactivations = Dict.empty ∧
      ∀ id ∈ s.supervisor.parts part, (s.services part id).running = false) :
    Inv (s.resume i result bonding a.point).2
      (completed ++ (s.resume i result bonding a.point).1) := by
  -- past the start, an activation that goes on excludes every deactivation
  have hlate : ∀ {p : Point}, early a.point = false →
      ∀ j d, s.deactivations.get? j = some d → early p = true := by
    intro p hpoint j d hd
    exact absurd (hd.symm.trans (h.no_deactivation ha hgoes hpoint j)) (by simp)
  cases hpoint : a.point with
  | created =>
    rw [Lifecycle.resume]
    split
    · exact h.finish ha
    · rename_i hfree
      rw [List.append_nil]
      exact h.enter ha (by simpa using hfree)
  | preflight => exact h.proceed ha (by simp [hpoint]) (by simp) (by simp) (fun _ _ _ => rfl) result
  | router => exact h.proceed ha (by simp [hpoint]) (by simp) (by simp) (fun _ _ _ => rfl) result
  | discovery =>
    rw [Lifecycle.resume]
    split
    · rename_i hresult
      rw [List.append_nil]
      exact h.create_of_creates ha (by simp [hpoint]) (hcareful .monitor (by simp [hpoint, hresult, creates]))
    · exact h.complete ha (by simp [hpoint])
  | starting part id =>
    cases part with
    | monitor =>
      rw [Lifecycle.resume, Lifecycle.proceed]
      split
      · rw [List.append_nil]
        exact h.launch_moveTo ha hgoes hpoint (by simp) (by simp)
      · exact h.launch_complete ha hgoes hpoint
    | tunnel =>
      cases result with
      | returns =>
        simp only [Lifecycle.resume, List.append_nil]
        exact h.launch_moveTo ha hgoes hpoint (by simp) (by simp)
      | turboBondError =>
        simp only [Lifecycle.resume, List.append_nil]
        have hmoved : Inv (s.moveTo i .bond) completed :=
          h.moveTo ha (by simp [hpoint]) (by simp) (by simp) (hlate (by rw [hpoint]; rfl))
        -- the tunnel raised before it ran, so nothing is lost with its name
        have hcleared : Inv ((s.moveTo i .bond).setParts
            (Function.update s.supervisor.parts .tunnel none)) completed := by
          refine hmoved.clear (h.starting i a _ id ha hgoes hpoint).2 fun k b id' hk _ => ?_
          rcases Dict.of_get?_set hk with ⟨rfl, rfl⟩ | ⟨hne, hb⟩
          · simp
          · exact h.not_starting ha (by simp [hpoint]) hb hne .tunnel id'
        exact hcleared
      | exception => exact h.complete ha (by simp [hpoint])
    | selector =>
      rw [Lifecycle.resume]
      split
      · rw [List.append_nil]
        exact h.launch_moveTo ha hgoes hpoint (by simp) (by simp)
      · exact h.complete ha (by simp [hpoint])
  | optimization =>
    exact h.proceed ha (by simp [hpoint]) (by simp) (by simp) (hlate (by rw [hpoint]; rfl)) result
  | routing =>
    rw [Lifecycle.resume]
    split
    · rename_i hresult
      rw [List.append_nil]
      exact h.create_of_creates ha (by simp [hpoint])
        (hcareful .tunnel (by simp [hpoint, hresult, creates]))
    · exact h.proceed ha (by simp [hpoint]) (by simp) (by simp) (hlate (by rw [hpoint]; rfl)) result
  | bond =>
    exact h.proceed ha (by simp [hpoint]) (by simp) (by simp) (hlate (by rw [hpoint]; rfl)) result
  | transport =>
    rw [Lifecycle.resume, List.append_nil]
    exact h.moveTo ha (by simp [hpoint]) (by simp) (by simp) (hlate (by rw [hpoint]; rfl))
  | sip =>
    exact h.proceed ha (by simp [hpoint]) (by simp) (by simp) (hlate (by rw [hpoint]; rfl)) result
  | lan =>
    rw [Lifecycle.resume]
    split
    · rename_i hresult
      rw [List.append_nil]
      exact h.create_of_creates ha (by simp [hpoint])
        (hcareful .selector (by simp [hpoint, hresult, creates]))
    · exact h.complete ha (by simp [hpoint])
  | search =>
    rw [Lifecycle.resume]
    split
    · -- the tracking starts with the last step, while nobody deactivates
      have hbegun : a.point ≠ .created := by simp [hpoint]
      have htracked := h.startDeviceTracking
        (h.no_deactivation ha hgoes (by rw [hpoint]; rfl)) ⟨i, a, ha, hbegun⟩
      have ha' : s.startDeviceTracking.activations.get? i = some a := by
        rw [Lifecycle.startDeviceTracking]
        split
        · exact ha
        · exact ha
      exact htracked.complete ha' hbegun
    · exact h.complete ha (by simp [hpoint])

lemma Inv.advance (h : Inv s completed) (result : Result) (bonding : Bool)
    (hcareful : s.Careful (.advance i result bonding)) :
    Inv (s.advance i result bonding).2 (completed ++ (s.advance i result bonding).1) := by
  rw [Lifecycle.advance]
  split
  · rwa [List.append_nil]
  · rename_i a ha
    split
    · split
      · exact h.leave ha _ rfl rfl (.inl rfl)
      · rename_i hbegun
        exact h.complete ha hbegun
    · rename_i hgoes
      have hgoes' : a.cancelled = false := by simpa using hgoes
      exact h.resume ha hgoes' result bonding (hcareful a ha hgoes')

/-! ### Deactivation -/

lemma Untracked.mono {s' : Lifecycle} (h : s.Untracked)
    (hdevices : ∀ task, s'.devices task = true → s.devices task = true) : s'.Untracked := by
  intro task
  by_contra ht
  exact absurd (hdevices task (by simpa using ht)) (by simp [h task])

lemma Still.mono {s' : Lifecycle} (h : s.Still)
    (hservices : ∀ part id, (s'.services part id).running = true →
      (s.services part id).running = true)
    (hdevices : ∀ task, s'.devices task = true → s.devices task = true) : s'.Still := by
  refine ⟨fun part id => ?_, h.2.mono hdevices⟩
  by_contra hid
  exact absurd (hservices part id (by simpa using hid)) (by simp [h.1 part id])

lemma Covers.mono {s' : Lifecycle} {d : Teardown} (h : s.Covers d)
    (hservices : ∀ part id, (s'.services part id).running = true →
      (s.services part id).running = true)
    (hdevices : ∀ task, s'.devices task = true → s.devices task = true) : s'.Covers d := by
  cases d with
  | tracking task => exact fun task' ht => h task' (hdevices task' ht)
  | stopping current rest =>
    exact ⟨h.1.mono hdevices, fun part id hid => h.2 part id (hservices part id hid)⟩
  | restoring => exact Still.mono h hservices hdevices

/-- A change of what runs and of the requests to stop it, while every activation that will go on has
made nothing yet. -/
lemma Inv.of_allEarly (h : Inv s completed) (hearly : s.AllEarly) {s' : Lifecycle}
    {completed' : List Request} (hactivations : s'.activations = s.activations)
    (hnext : s.nextId ≤ s'.nextId)
    (hlock : s'.supervisor.activating = s.supervisor.activating)
    (howned : ∀ part id, (s'.services part id).running = true →
      s'.supervisor.parts part = some id)
    (htracked : ∀ task, s'.devices task = true → s'.supervisor.deviceTask = some task)
    (hcovers : ∀ j d, s'.deactivations.get? j = some d → s'.Covers d)
    (hquiet : completed'.getLast? = some .deactivate → s'.Still ∨ s.Busy) :
    Inv s' completed' := by
  refine ⟨?_, howned, htracked, ?_, ?_, ?_, ?_, hcovers, ?_⟩
  · intro k b hk
    rw [hactivations] at hk
    exact (h.fresh k b hk).trans_le hnext
  · intro k b hk hb
    rw [hactivations] at hk
    exact hlock.trans (h.locked k b hk hb)
  · intro k k' b b' hk hk'
    rw [hactivations] at hk hk'
    exact h.alone k k' b b' hk hk'
  · intro k b part id hk hgoes hpoint
    rw [hactivations] at hk
    exact absurd (hearly k b hk hgoes) (by simp [hpoint, early])
  · intro _ _ _ k b hk
    rw [hactivations] at hk
    exact hearly k b hk
  · intro hlast
    rcases hquiet hlast with hstill | ⟨k, b, hk, hb⟩
    · exact .inl hstill
    · exact .inr ⟨k, b, by rwa [hactivations], hb⟩

/-- What stands in the table of the requests after one of them has gone on. -/
lemma covers_set {j : ℕ} {d : Teardown} {t : Dict ℕ Teardown} {s' : Lifecycle}
    (hnew : s'.Covers d) (hold : ∀ k e, t.get? k = some e → s'.Covers e) :
    ∀ k e, (t.set j d).get? k = some e → s'.Covers e := by
  intro k e he
  rcases Dict.of_get?_set he with ⟨-, rfl⟩ | ⟨-, he⟩
  · exact hnew
  · exact hold k e he

/-- A `deactivate` calls the next `stop`, when everything that runs is among those to come. -/
lemma Inv.callStop (h : Inv s completed) (hearly : s.AllEarly) (huntracked : s.Untracked)
    {rest : List (Option (Subsystem × ℕ))}
    (hrest : ∀ part id, (s.services part id).running = true → some (part, id) ∈ rest) (j : ℕ) :
    Inv (s.callStop j rest) completed := by
  cases rest with
  | nil =>
    have hstill : s.Still := by
      refine ⟨fun part id => ?_, huntracked⟩
      by_contra hid
      exact absurd (hrest part id (by simpa using hid)) (by simp)
    exact h.of_allEarly hearly rfl le_rfl rfl h.owned h.tracked
      (covers_set (d := .restoring) hstill h.covers) fun hlast => h.quiet hlast
  | cons job rest =>
    cases job with
    | none =>
      exact h.of_allEarly hearly rfl le_rfl rfl h.owned h.tracked
        (covers_set (d := .stopping none rest) ⟨huntracked, hrest⟩ h.covers)
        fun hlast => h.quiet hlast
    | some x =>
      obtain ⟨part, id⟩ := x
      have hservices : ∀ part' id', ((s.callStop j (some (part, id) :: rest)).services part'
          id').running = true → (s.services part' id').running = true := by
        intro part' id' hid
        rcases running_setService s part part' id id' _ hid with ⟨rfl, rfl, hrunning⟩ | ⟨-, hrunning⟩
        · exact hrunning
        · exact hrunning
      refine h.of_allEarly hearly rfl le_rfl rfl
        (fun part' id' hid => h.owned part' id' (hservices part' id' hid)) h.tracked
        (covers_set ⟨huntracked, fun part' id' hid => ?_⟩ fun k d hd =>
          (h.covers k d hd).mono hservices fun _ ht => ht)
        fun hlast => ?_
      · -- what ran before the call is waited for
        have hrunning := hservices part' id' hid
        rcases List.mem_cons.1 (hrest part' id' hrunning) with hhead | htail
        · obtain ⟨rfl, rfl⟩ := Prod.mk.inj (Option.some.inj hhead)
          simp [hrunning]
        · exact List.mem_cons_of_mem _ htail
      · exact (h.quiet hlast).imp_left fun hstill => hstill.mono hservices fun _ ht => ht

lemma mem_stops {part : Subsystem} {id : ℕ} (h : s.supervisor.parts part = some id) :
    some (part, id) ∈ s.stops := by
  cases part with
  | monitor => simp [stops, h]
  | tunnel => simp [stops, h]
  | selector => simp [stops, h]

/-- The end of a `stop`. -/
lemma ended_less (s : Lifecycle) (current : Option (Subsystem × ℕ)) :
    ∃ services, s.ended current = { s with services } ∧
      ∀ part id, (services part id).running = true →
        some (part, id) ≠ current ∧ (s.services part id).running = true := by
  cases current with
  | none => exact ⟨s.services, rfl, fun _ _ hid => ⟨by simp, hid⟩⟩
  | some x =>
    obtain ⟨part₀, id₀⟩ := x
    refine ⟨_, rfl, fun part id hid => ?_⟩
    rcases running_setService s part₀ part id₀ id _ hid with ⟨-, -, hrunning⟩ | ⟨hne, hrunning⟩
    · exact absurd hrunning (by simp)
    · exact ⟨fun heq => hne (Option.some.inj heq), hrunning⟩

/-- The beginning of a call of `deactivate`. -/
lemma Inv.deactivate (h : Inv s completed) (hearly : s.AllEarly) :
    Inv s.deactivate completed := by
  have hnext : Inv { s with nextId := s.nextId + 1 } completed :=
    h.of_allEarly hearly rfl (Nat.le_succ _) rfl h.owned h.tracked h.covers h.quiet
  rw [Lifecycle.deactivate]
  cases htask : s.supervisor.deviceTask with
  | some task =>
    refine hnext.of_allEarly hearly rfl le_rfl rfl h.owned h.tracked
      (covers_set (d := .tracking task) (fun task' ht => ?_) h.covers) h.quiet
    exact Option.some.inj ((h.tracked task' ht).symm.trans htask)
  | none =>
    refine hnext.callStop hearly (fun task => ?_) (fun part id hid => ?_) s.nextId
    · by_contra ht
      exact absurd (h.tracked task (by simpa using ht)) (by simp [htask])
    · exact mem_stops (h.owned part id hid)

lemma Inv.teardown (h : Inv s completed) (j : ℕ) (result : Result) :
    Inv (s.teardown j result).2 (completed ++ (s.teardown j result).1) := by
  rw [Lifecycle.teardown]
  split
  · rwa [List.append_nil]
  · -- the device tracking has ended
    rename_i task hd
    have hearly := h.allEarly j _ hd
    have huntracked : ∀ task', Function.update s.devices task false task' = false := by
      intro task'
      by_cases ht : task' = task
      · rw [ht, Function.update_self]
      · rw [Function.update_of_ne ht]
        by_contra hrunning
        exact ht (h.covers j _ hd task' (by simpa using hrunning))
    have hless : ∀ task', Function.update s.devices task false task' = true →
        s.devices task' = true := fun task' ht => absurd ht (by simp [huntracked task'])
    have hended : Inv { s with
        supervisor := { s.supervisor with deviceTask := none }
        devices := Function.update s.devices task false } completed :=
      h.of_allEarly hearly rfl le_rfl rfl h.owned
        (fun task' ht => absurd ht (by simp [huntracked task']))
        (fun k d hk => (h.covers k d hk).mono (fun _ _ hid => hid) hless)
        fun hlast => (h.quiet hlast).imp_left fun hstill => hstill.mono (fun _ _ hid => hid) hless
    rw [List.append_nil]
    exact hended.callStop hearly huntracked (fun part id hid => mem_stops (h.owned part id hid)) j
  · -- a `stop` has returned
    rename_i current rest hd
    have hearly := h.allEarly j _ hd
    obtain ⟨huntracked, hcurrent⟩ := h.covers j _ hd
    obtain ⟨services, hs, hless⟩ := ended_less s current
    rw [hs, List.append_nil]
    have hrunning : ∀ part id, (services part id).running = true →
        (s.services part id).running = true := fun part id hid => (hless part id hid).2
    have hended : Inv { s with services } completed :=
      h.of_allEarly hearly rfl le_rfl rfl
        (fun part id hid => h.owned part id (hrunning part id hid)) h.tracked
        (fun k d hk => (h.covers k d hk).mono hrunning fun _ ht => ht)
        fun hlast => (h.quiet hlast).imp_left fun hstill => hstill.mono hrunning fun _ ht => ht
    refine hended.callStop hearly huntracked (fun part id hid => ?_) j
    obtain ⟨hne, hid⟩ := hless part id hid
    exact (List.mem_cons.1 (hcurrent part id hid)).resolve_left hne
  · -- everything has been stopped
    rename_i hd
    have hearly := h.allEarly j _ hd
    have hstill : s.Still := h.covers j _ hd
    have hcovers : ∀ k d, (s.deactivations.erase j).get? k = some d → s.Covers d :=
      fun k d hk => h.covers k d (Dict.of_get?_erase hk).2
    split
    · refine h.of_allEarly hearly rfl le_rfl rfl (fun part id hid => ?_) h.tracked hcovers
        fun _ => .inl hstill
      exact absurd hid (by simp [Lifecycle.setParts, hstill.1 part id])
    · exact h.of_allEarly hearly rfl le_rfl rfl h.owned h.tracked hcovers fun _ => .inl hstill

/-! ### The controller -/

/-- An activation is made. -/
lemma Inv.start (h : Inv s completed) : Inv s.start completed := by
  rw [Lifecycle.start]
  split
  · exact h
  · -- nobody has the name it gets
    have hget : ∀ k b, (s.activations.set s.nextId {}).get? k = some b → b.point ≠ .created →
        s.activations.get? k = some b := by
      intro k b hk hb
      rcases Dict.of_get?_set hk with ⟨-, rfl⟩ | ⟨-, hk⟩
      · exact absurd rfl hb
      · exact hk
    refine { h with
      fresh := ?_, locked := ?_, alone := ?_, starting := ?_, allEarly := ?_, quiet := ?_ }
    · intro k b hk
      rcases Dict.of_get?_set hk with ⟨rfl, -⟩ | ⟨-, hk⟩
      · exact Nat.lt_succ_self _
      · exact Nat.lt_succ_of_lt (h.fresh k b hk)
    · exact fun k b hk hb => h.locked k b (hget k b hk hb) hb
    · exact fun k k' b b' hk hk' hb hb' =>
        h.alone k k' b b' (hget k b hk hb) (hget k' b' hk' hb') hb hb'
    · intro k b part id hk hgoes hpoint
      exact h.starting k b part id (hget k b hk (by simp [hpoint])) hgoes hpoint
    · intro j d hd k b hk hgoes
      rcases Dict.of_get?_set hk with ⟨-, rfl⟩ | ⟨-, hk⟩
      · rfl
      · exact h.allEarly j d hd k b hk hgoes
    · intro hlast
      rcases h.quiet hlast with hstill | ⟨k, b, hk, hb⟩
      · exact .inl hstill
      · refine .inr ⟨k, b, ?_, hb⟩
        rw [Dict.get?_set_of_ne _ (h.fresh k b hk).ne]
        exact hk

/-- The activation that the controller knows of is cancelled. -/
lemma Inv.cancel (h : Inv s completed) : Inv s.cancel completed := by
  rw [Lifecycle.cancel]
  split
  · exact h
  · rename_i i htask
    split
    · exact h
    · rename_i a ha
      -- it stays where it is
      have hget : ∀ k b, (s.activations.set i { a with cancelled := true }).get? k = some b →
          ∃ b', s.activations.get? k = some b' ∧ b'.point = b.point ∧
            (b.cancelled = false → b'.cancelled = false) := by
        intro k b hk
        rcases Dict.of_get?_set hk with ⟨rfl, rfl⟩ | ⟨-, hk⟩
        · exact ⟨a, ha, rfl, fun hgoes => absurd hgoes (by simp)⟩
        · exact ⟨b, hk, rfl, id⟩
      refine { h with
        fresh := ?_, locked := ?_, alone := ?_, starting := ?_, allEarly := ?_, quiet := ?_ }
      · intro k b hk
        obtain ⟨b', hb', -, -⟩ := hget k b hk
        exact h.fresh k b' hb'
      · intro k b hk hb
        obtain ⟨b', hb', hpoint, -⟩ := hget k b hk
        exact h.locked k b' hb' (hpoint ▸ hb)
      · intro k₁ k₂ b₁ b₂ hk₁ hk₂ hb₁ hb₂
        obtain ⟨b₁', hb₁', hpoint₁, -⟩ := hget k₁ b₁ hk₁
        obtain ⟨b₂', hb₂', hpoint₂, -⟩ := hget k₂ b₂ hk₂
        exact h.alone k₁ k₂ b₁' b₂' hb₁' hb₂' (hpoint₁ ▸ hb₁) (hpoint₂ ▸ hb₂)
      · intro k b part id hk hgoes hpoint
        obtain ⟨b', hb', hpoint', hgoes'⟩ := hget k b hk
        exact h.starting k b' part id hb' (hgoes' hgoes) (hpoint'.trans hpoint)
      · intro j d hd k b hk hgoes
        obtain ⟨b', hb', hpoint, hgoes'⟩ := hget k b hk
        exact hpoint ▸ h.allEarly j d hd k b' hb' (hgoes' hgoes)
      · intro hlast
        rcases h.quiet hlast with hstill | ⟨k, b, hk, hb⟩
        · exact .inl hstill
        · by_cases hki : k = i
          · refine .inr ⟨k, { a with cancelled := true }, ?_, ?_⟩
            · rw [hki, Dict.get?_set_self]
            · rw [hki, ha] at hk
              exact Option.some.inj hk ▸ hb
          · exact .inr ⟨k, b, (Dict.get?_set_of_ne _ hki _).trans hk, hb⟩

/-- After the cancellation, every activation that will go on has made nothing yet. -/
lemma allEarly_cancel (hcareful : s.Careful .stop) : s.cancel.AllEarly := by
  have hgoes : ∀ k b, s.activations.get? k = some b → b.cancelled = false →
      early b.point = true ∨ s.controller.task = some k := fun k b hk =>
    hcareful (k, b) ((Dict.get?_eq_some_iff _ _ _).1 hk)
  intro k b hk hb
  rw [Lifecycle.cancel] at hk
  cases htask : s.controller.task with
  | none =>
    rw [htask] at hk
    exact (hgoes k b hk hb).resolve_right (by simp [htask])
  | some i =>
    rw [htask] at hk
    cases ha : s.activations.get? i with
    | none =>
      simp only [ha] at hk
      refine (hgoes k b hk hb).resolve_right fun hki => ?_
      rw [htask] at hki
      rw [Option.some.inj hki, hk] at ha
      exact absurd ha (by simp)
    | some a =>
      simp only [ha] at hk
      rcases Dict.of_get?_set hk with ⟨-, rfl⟩ | ⟨hne, hk⟩
      · exact absurd hb (by simp)
      · refine (hgoes k b hk hb).resolve_right fun hki => hne ?_
        exact (Option.some.inj (htask.symm.trans hki)).symm

lemma Inv.step (h : Inv s completed) {e : Event} (hcareful : s.Careful e) :
    Inv (s.step e).2 (completed ++ (s.step e).1) := by
  cases e with
  | start =>
    rw [Lifecycle.step, List.append_nil]
    exact h.start
  | stop =>
    rw [Lifecycle.step, List.append_nil]
    exact h.cancel.deactivate (allEarly_cancel hcareful)
  | advance i result bonding => exact h.advance result bonding hcareful
  | teardown j result => exact h.teardown j result

/-- **Activation and deactivation.**  In a run in which nothing that runs is replaced and nothing is
made while something is being stopped, whenever no request is in progress, at most one subsystem of
each kind and at most one device-tracking task run, and none after a `deactivate`. -/
theorem leaks_nothing (events : List Event)
    (hcareful : Machine.Meets step (fun s _ e => s.Careful e) events {} [])
    (hidle : (run events {}).2.Idle) : (run events {}).2.LeaksNothing (run events {}).1 := by
  have hinv : Inv (run events {}).2 ([] ++ (run events {}).1) :=
    Machine.run_invariant_of_meets step (fun _ _ _ h hc => h.step hc) events inv_start hcareful
  exact hinv.leaksNothing hidle

/-- Everything an activation waits for returns. -/
def activates (i : ℕ) (bonding : Bool) : List Event :=
  List.replicate 14 (.advance i .returns bonding)

/-- An activation with a tunnel, and a `deactivate` after it. -/
def activateDeactivate : List Event :=
  .start :: activates 0 true ++ .stop :: List.replicate 8 (.teardown 5 .returns)

theorem leaks_nothing_activateDeactivate : (run activateDeactivate {}).2.LeaksNothing
    (run activateDeactivate {}).1 :=
  leaks_nothing activateDeactivate (by decide +kernel) (by decide +kernel)

/-- Two activations without a tunnel, and a `deactivate` after them. -/
def reactivateDeactivate : List Event :=
  .start :: activates 0 false ++ .start :: activates 4 false ++
    .stop :: List.replicate 8 (.teardown 7 .returns)

/-- The monitor of the first activation is still running. -/
theorem leaks_reactivateDeactivate :
    ¬ ∀ events : List Event, (run events {}).2.Idle →
      (run events {}).2.LeaksNothing (run events {}).1 := by
  intro h
  have hleaks := h reactivateDeactivate (by decide +kernel)
  have hdown := (hleaks.still (by decide +kernel)).1 .monitor 1
  exact absurd hdown (by decide +kernel)

end Turbobond.App.Lifecycle
