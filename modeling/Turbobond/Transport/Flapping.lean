import Turbobond.Transport.Selector
import Mathlib.Tactic

/-!
# The selector does not flap

How far apart two automatic switches are, and where they go.
-/

namespace Turbobond.Transport

open Config

/-- What one cycle of the selector meets: the checks of the routes and what the callback of a
switch returns, if there is one. -/
structure Cycle where
  checks : RouteName → Check
  outcome : Option (Except String Unit)
  now : Time

/-- A callback with a known outcome. -/
def onSwitch (outcome : Option (Except String Unit)) : Option (OnSwitch Unit) :=
  outcome.map fun result _ _ env => (result, env)

/-- What is asked of the selector: by its loop, by the operator, by a change of the policy. -/
inductive Command where
  | checkAll (checks : RouteName → Check)
  | evaluate (cycle : Cycle)
  | switchTo (name : RouteName) (outcome : Option (Except String Unit)) (now : Time)
  | setPreferred (name : RouteName) (outcome : Option (Except String Unit)) (now : Time)
  | configure (policy : RoutePolicy)

/-- The check of a route has found it available and healthy. -/
def Check.Passes (asks : Bool) (c : Check) : Prop :=
  (asks = true → ∃ reason, c.availability = .ok (true, reason)) ∧
    ∃ probe, c.probe = .ok probe ∧ RouteStatus.Good probe

/-- What a check makes of a status: it passes, or it is one more failure, or it raises and leaves
the counts alone. -/
inductive Checked (passes : Prop) (old new : RouteStatus) : Prop
  | passed (h : passes) (havailable : new.available = true) (hfail : new.consecutiveFailures = 0)
    (hsucc : new.consecutiveSuccesses = old.consecutiveSuccesses + 1)
  | failed (hsick : new.healthy = false)
    (hfail : new.consecutiveFailures = old.consecutiveFailures + 1)
    (hsucc : new.consecutiveSuccesses = 0)
  | raised (hsick : new.healthy = false)
    (hfail : new.consecutiveFailures = old.consecutiveFailures)
    (hsucc : new.consecutiveSuccesses = old.consecutiveSuccesses)

namespace RouteStatus

lemma checked_probed {status : RouteStatus} (h : status.available = true)
    (probe : Except String RouteProbe) :
    Checked (∃ result, probe = .ok result ∧ Good result) status (settle (status.probed probe)) := by
  cases probe with
  | error exc => exact .raised rfl rfl rfl
  | ok result =>
    simp only [probed, settle, take]
    by_cases hgood : Good result
    · rw [if_pos hgood]
      exact .passed ⟨result, rfl, hgood⟩ h rfl rfl
    · rw [if_neg hgood]
      exact .failed rfl rfl rfl

lemma checked_check (status : RouteStatus) (asks : Bool) (c : Check) :
    Checked (c.Passes asks) status (settle (status.check asks c)) := by
  -- what remains where the route is available
  have hprobe : ∀ status' : RouteStatus, status'.available = true →
      status'.consecutiveFailures = status.consecutiveFailures →
      status'.consecutiveSuccesses = status.consecutiveSuccesses →
      (asks = true → ∃ reason, c.availability = .ok (true, reason)) →
      Checked (c.Passes asks) status (settle (status'.probed c.probe)) := by
    intro status' havailable hf hs hanswer
    cases checked_probed havailable c.probe with
    | passed h ha hf' hs' => exact .passed ⟨hanswer, h⟩ ha hf' (hs ▸ hs')
    | failed hh hf' hs' => exact .failed hh (hf ▸ hf') hs'
    | raised hh hf' hs' => exact .raised hh (hf ▸ hf') (hs ▸ hs')
  simp only [check, ask]
  cases asks with
  | false => exact hprobe _ rfl rfl rfl fun h => absurd h (by simp)
  | true =>
    cases hanswer : c.availability with
    | error exc => exact .raised rfl rfl rfl
    | ok answer =>
      obtain ⟨available, reason⟩ := answer
      cases available with
      | false => exact .failed rfl rfl rfl
      | true => exact hprobe _ rfl rfl rfl fun _ => ⟨reason, hanswer⟩

end RouteStatus

namespace RouteSelector

/-- One cycle. -/
def cycle (s : RouteSelector) (c : Cycle) : RouteSelector :=
  (s.evaluate (onSwitch c.outcome) () c.checks c.now).1

/-- A sequence of cycles. -/
def cycles (s : RouteSelector) (cs : List Cycle) : RouteSelector := cs.foldl cycle s

def command (s : RouteSelector) : Command → RouteSelector
  | .checkAll checks => s.checkAll checks
  | .evaluate c => s.cycle c
  | .switchTo name outcome now => (s.switchTo (onSwitch outcome) () name now).2.1
  | .setPreferred name outcome now => (s.setPreferred (onSwitch outcome) () name now).2.1
  | .configure policy => { s with policy }

def commands (s : RouteSelector) (l : List Command) : RouteSelector := l.foldl command s

/-- A cycle switches automatically. -/
def Switches (s : RouteSelector) (c : Cycle) : Prop := (s.cycle c).active ≠ s.active

instance (s : RouteSelector) (c : Cycle) : Decidable (s.Switches c) :=
  inferInstanceAs (Decidable (_ ≠ _))

variable {s : RouteSelector}

/-! ### What a switch can do -/

/-- `switch_to` changes the active route or nothing; the counts, the policy and the preferred route
stay in any case. -/
structure Switched (s s' : RouteSelector) (name : RouteName) : Prop where
  active : s'.active = s.active ∨ s'.active = name
  preferred : s'.preferred = s.preferred
  policy : s'.policy = s.policy
  asks : s'.asks = s.asks
  failures : ∀ route,
    (s'.statuses route).consecutiveFailures = (s.statuses route).consecutiveFailures
  successes : ∀ route,
    (s'.statuses route).consecutiveSuccesses = (s.statuses route).consecutiveSuccesses

lemma Switched.refl (s : RouteSelector) (name : RouteName) : Switched s s name :=
  ⟨.inl rfl, rfl, rfl, rfl, fun _ => rfl, fun _ => rfl⟩

lemma switched_switchTo {σ : Type} (callback : Option (OnSwitch σ)) (s : RouteSelector) (env : σ)
    (name : RouteName) (now : Time) : Switched s (s.switchTo callback env name now).2.1 name := by
  simp only [switchTo]
  split
  · exact .refl s name
  · split
    · exact .refl s name
    · split
      · exact ⟨.inr rfl, rfl, rfl, rfl, fun _ => rfl, fun _ => rfl⟩
      · split
        · exact .refl s name
        · exact ⟨.inr rfl, rfl, rfl, rfl, fun _ => rfl, fun _ => rfl⟩

/-- All that a cycle can do after its checks: nothing, a failover, or a return to the preferred
route. -/
lemma cycle_cases (s : RouteSelector) (c : Cycle) :
    s.cycle c = s.checkAll c.checks ∨
    (s.policy.failoverAfterFailures ≤
        ((s.checkAll c.checks).statuses s.active).consecutiveFailures ∧
      ((s.checkAll c.checks).statuses (otherRoute s.active)).healthy = true ∧
      Switched (s.checkAll c.checks) (s.cycle c) (otherRoute s.active)) ∨
    (s.active ≠ s.preferred ∧
      recoveryThreshold ≤ ((s.checkAll c.checks).statuses s.preferred).consecutiveSuccesses ∧
      ((s.checkAll c.checks).statuses s.preferred).healthy = true ∧
      Switched (s.checkAll c.checks) (s.cycle c) s.preferred) := by
  rw [cycle, evaluate]
  split
  · exact .inl rfl
  · split
    · rename_i hfail
      simp only []
      split
      · rename_i hgood
        refine .inr (.inl ⟨hfail, ?_, switched_switchTo ..⟩)
        exact (Bool.and_eq_true_iff.1 hgood).2
      · exact .inl rfl
    · split
      · rename_i hne
        simp only []
        split
        · rename_i hgood
          obtain ⟨hgood, hmany⟩ := Bool.and_eq_true_iff.1 hgood
          refine .inr (.inr ⟨hne, of_decide_eq_true hmany, ?_, switched_switchTo ..⟩)
          exact (Bool.and_eq_true_iff.1 hgood).2
        · exact .inl rfl
      · exact .inl rfl

lemma switched_cycle (s : RouteSelector) (c : Cycle) :
    ∃ name, Switched (s.checkAll c.checks) (s.cycle c) name := by
  obtain heq | ⟨-, -, h⟩ | ⟨-, -, -, h⟩ := cycle_cases s c
  · exact ⟨s.active, heq ▸ .refl _ _⟩
  · exact ⟨_, h⟩
  · exact ⟨_, h⟩

lemma preferred_cycle (s : RouteSelector) (c : Cycle) : (s.cycle c).preferred = s.preferred := by
  obtain ⟨name, h⟩ := switched_cycle s c
  exact h.preferred

lemma policy_cycle (s : RouteSelector) (c : Cycle) : (s.cycle c).policy = s.policy := by
  obtain ⟨name, h⟩ := switched_cycle s c
  exact h.policy

/-- A cycle adds at most one to each count. -/
lemma counts_cycle (s : RouteSelector) (c : Cycle) (route : RouteName) :
    ((s.cycle c).statuses route).consecutiveFailures ≤
        (s.statuses route).consecutiveFailures + 1 ∧
      ((s.cycle c).statuses route).consecutiveSuccesses ≤
        (s.statuses route).consecutiveSuccesses + 1 := by
  obtain ⟨name, h⟩ := switched_cycle s c
  rw [h.failures, h.successes]
  cases RouteStatus.checked_check (s.statuses route) s.asks (c.checks route) with
  | passed _ _ hf hs => exact ⟨hf ▸ Nat.zero_le _, hs.le⟩
  | failed _ hf hs => exact ⟨hf.le, hs ▸ Nat.zero_le _⟩
  | raised _ hf hs => exact ⟨hf.le.trans (Nat.le_succ _), hs.le.trans (Nat.le_succ _)⟩

/-- A route that a cycle finds healthy has passed its check, and has no failures. -/
lemma passes_of_healthy {checks : RouteName → Check} {route : RouteName}
    (h : ((s.checkAll checks).statuses route).healthy = true) :
    (checks route).Passes s.asks ∧
      ((s.checkAll checks).statuses route).consecutiveFailures = 0 := by
  cases RouteStatus.checked_check (s.statuses route) s.asks (checks route) with
  | passed hpass _ hf _ => exact ⟨hpass, hf⟩
  | failed hsick _ _ => exact absurd (hsick.symm.trans h) (by simp)
  | raised hsick _ _ => exact absurd (hsick.symm.trans h) (by simp)

/-- A cycle that switches goes to a route that has passed its check in it: either the active route
has failed often enough, or the preferred one has recovered. -/
lemma cases_of_switches {c : Cycle} (h : s.Switches c) :
    (c.checks (s.cycle c).active).Passes s.asks ∧
    ((s.cycle c).statuses (s.cycle c).active).consecutiveFailures = 0 ∧
    ((s.policy.failoverAfterFailures ≤ ((s.cycle c).statuses s.active).consecutiveFailures ∧
        (s.cycle c).active = otherRoute s.active) ∨
      ((s.cycle c).active = s.preferred ∧
        recoveryThreshold ≤ ((s.cycle c).statuses s.preferred).consecutiveSuccesses)) := by
  obtain heq | ⟨hfail, hgood, hsw⟩ | ⟨-, hmany, hgood, hsw⟩ := cycle_cases s c
  · exact absurd (congrArg RouteSelector.active heq) h
  · have hactive := hsw.active.resolve_left h
    obtain ⟨hpass, hzero⟩ := passes_of_healthy hgood
    rw [hactive, hsw.failures, hsw.failures]
    exact ⟨hpass, hzero, .inl ⟨hfail, rfl⟩⟩
  · have hactive := hsw.active.resolve_left h
    obtain ⟨hpass, hzero⟩ := passes_of_healthy hgood
    rw [hactive, hsw.failures, hsw.successes]
    exact ⟨hpass, hzero, .inr ⟨rfl, hmany⟩⟩

/-! ### From cycle to cycle -/

/-- A route that has failed last has no successes to show, and the other way round. -/
def Steady (s : RouteSelector) : Prop :=
  ∀ route, (s.statuses route).consecutiveFailures = 0 ∨ (s.statuses route).consecutiveSuccesses = 0

lemma Steady.checkAll (h : s.Steady) (checks : RouteName → Check) : (s.checkAll checks).Steady := by
  intro route
  cases RouteStatus.checked_check (s.statuses route) s.asks (checks route) with
  | passed _ _ hf _ => exact .inl hf
  | failed _ _ hs => exact .inr hs
  | raised _ hf hs => exact (h route).imp hf.trans hs.trans

lemma Steady.of_switched {s' : RouteSelector} {name : RouteName} (h : s.Steady)
    (hsw : Switched s s' name) : s'.Steady := by
  intro route
  rw [hsw.failures, hsw.successes]
  exact h route

lemma Steady.cycle (h : s.Steady) (c : Cycle) : (s.cycle c).Steady := by
  obtain ⟨name, hsw⟩ := switched_cycle s c
  exact (h.checkAll c.checks).of_switched hsw

lemma Steady.command (h : s.Steady) (c : Command) : (s.command c).Steady := by
  cases c with
  | checkAll checks => exact h.checkAll checks
  | evaluate c => exact h.cycle c
  | switchTo name outcome now => exact h.of_switched (switched_switchTo ..)
  | setPreferred name outcome now =>
    have h' : Steady { s with preferred := name
                              policy := { s.policy with defaultRoute := name } } := h
    exact h'.of_switched (switched_switchTo ..)
  | configure policy => exact h

lemma steady_commands (policy : RoutePolicy) (asks : Bool) (l : List Command) :
    ((new policy asks).commands l).Steady := by
  induction l using List.reverseRecOn with
  | nil => exact fun _ => .inl rfl
  | append_singleton l c ih =>
    rw [commands, List.foldl_append]
    exact ih.command c

/-- No cycle of a sequence switches. -/
def Quiet (s : RouteSelector) : List Cycle → Prop
  | [] => True
  | c :: cs => ¬ s.Switches c ∧ (s.cycle c).Quiet cs

instance Quiet.decidable : ∀ (s : RouteSelector) (cs : List Cycle), Decidable (s.Quiet cs)
  | _, [] => inferInstanceAs (Decidable True)
  | s, c :: cs => @instDecidableAnd _ _ _ (Quiet.decidable (s.cycle c) cs)

/-- As long as nothing switches, the active route and the preferred one stay, and each count grows
by at most one in a cycle. -/
lemma cycles_quiet {cs : List Cycle} (h : s.Quiet cs) :
    (s.cycles cs).active = s.active ∧ (s.cycles cs).preferred = s.preferred ∧
    (s.cycles cs).policy = s.policy ∧
    ∀ route, ((s.cycles cs).statuses route).consecutiveFailures ≤
        (s.statuses route).consecutiveFailures + cs.length ∧
      ((s.cycles cs).statuses route).consecutiveSuccesses ≤
        (s.statuses route).consecutiveSuccesses + cs.length := by
  induction cs generalizing s with
  | nil => exact ⟨rfl, rfl, rfl, fun _ => ⟨le_rfl, le_rfl⟩⟩
  | cons c cs ih =>
    obtain ⟨hactive, hpreferred, hpolicy, hcounts⟩ := ih h.2
    rw [cycles, List.foldl_cons]
    refine ⟨hactive.trans (not_not.1 h.1), hpreferred.trans (preferred_cycle ..),
      hpolicy.trans (policy_cycle ..), fun route => ?_⟩
    have hcycle := counts_cycle s c route
    have hafter := hcounts route
    rw [List.length_cons]
    rw [cycles] at hafter
    omega

lemma otherRoute_eq_iff {a b : RouteName} : otherRoute a = b ↔ a ≠ b := by
  cases a <;> cases b <;> simp [otherRoute]

/-- What a switch leaves to the next one: no failures of the new route and, where that is not the
preferred one, no successes of the preferred one. -/
lemma counts_of_switches {c : Cycle} (hsteady : s.Steady) (hk : 1 ≤ s.policy.failoverAfterFailures)
    (h : s.Switches c) :
    ((s.cycle c).statuses (s.cycle c).active).consecutiveFailures = 0 ∧
      ((s.cycle c).active ≠ s.preferred →
        ((s.cycle c).statuses s.preferred).consecutiveSuccesses = 0) := by
  obtain ⟨-, hzero, ⟨hfail, hother⟩ | ⟨hpreferred, -⟩⟩ := cases_of_switches h
  · refine ⟨hzero, fun hne => ?_⟩
    -- there are two routes, so the preferred one is the one that has failed
    have hold : s.preferred = s.active := by
      by_contra hne'
      exact hne (hother.trans (otherRoute_eq_iff.2 (Ne.symm hne')))
    rw [hold]
    refine (hsteady.cycle c s.active).resolve_left fun hzero' => ?_
    rw [hzero'] at hfail
    simp only [Nat.cast_zero] at hfail
    omega
  · exact ⟨hzero, fun hne => absurd hpreferred hne⟩

/-- After any commands: every automatic switch goes to a route whose check has passed in that very
cycle, and two consecutive ones are far enough apart, the second being the `(n + 1)`-th cycle
after the first where `n` cycles in between do not switch. -/
theorem switches_apart (policy : RoutePolicy) (asks : Bool) (l : List Command)
    (hk : 1 ≤ ((new policy asks).commands l).policy.failoverAfterFailures) :
    let s := (new policy asks).commands l
    (∀ c, s.Switches c → (c.checks (s.cycle c).active).Passes s.asks) ∧
    ∀ first between second, s.Switches first → (s.cycle first).Quiet between →
      ((s.cycle first).cycles between).Switches second →
      min s.policy.failoverAfterFailures (recoveryThreshold : ℤ) ≤ between.length + 1 := by
  have hsteady := steady_commands policy asks l
  generalize (new policy asks).commands l = s at *
  refine ⟨fun c h => (cases_of_switches h).1, fun first between second hfirst hquiet hsecond => ?_⟩
  obtain ⟨hzero, hrecover⟩ := counts_of_switches hsteady hk hfirst
  obtain ⟨hactive, hpreferred, hpolicy, hcounts⟩ := cycles_quiet hquiet
  have hgrow := fun route => counts_cycle ((s.cycle first).cycles between) second route
  obtain ⟨-, -, ⟨hfail, -⟩ | ⟨hback, hmany⟩⟩ := cases_of_switches hsecond
  · -- a failover: the route of the first switch has failed in each cycle since then
    refine min_le_of_left_le ?_
    rw [hpolicy, policy_cycle, hactive] at hfail
    have h1 := (hgrow (s.cycle first).active).1
    have h2 := (hcounts (s.cycle first).active).1
    omega
  · -- a return: the preferred route has been healthy in each cycle since then
    refine min_le_of_right_le ?_
    have hne : (s.cycle first).active ≠ s.preferred := fun heq => hsecond <| by
      rw [hback, hpreferred, preferred_cycle, hactive, heq]
    rw [hpreferred, preferred_cycle] at hmany
    have h0 := hrecover hne
    have h1 := (hgrow s.preferred).2
    have h2 := (hcounts s.preferred).2
    omega

/-- A cycle in which the shadow route is fine and the direct one is fine or not available. -/
def outage (direct : Bool) : Cycle where
  checks
    | .direct =>
      { availability := .ok (direct, "no bond"), now := 0
        probe := .ok { reachable := true, rttMs := 20, lossPct := 0 } }
    | .shadow =>
      { availability := .ok (true, ""), now := 0
        probe := .ok { reachable := true, rttMs := 28, lossPct := 0 } }
  outcome := some (.ok ())
  now := 0

/-- After three failures the selector leaves the direct route, and returns in the fourth cycle in
which it is fine. -/
theorem switches_apart_of_outage :
    let s := (new {} true).commands [.evaluate (outage false), .evaluate (outage false)]
    s.Switches (outage false) ∧ (s.cycle (outage false)).active = .shadow ∧
      ((outage false).checks .shadow).Passes s.asks ∧
      min s.policy.failoverAfterFailures (recoveryThreshold : ℤ) ≤
        [outage true, outage true, outage true].length + 1 := by
  have happly := switches_apart {} true [.evaluate (outage false), .evaluate (outage false)]
    (by decide +kernel)
  have hfirst : ((new {} true).commands [.evaluate (outage false),
      .evaluate (outage false)]).Switches (outage false) := by decide +kernel
  have hactive : (((new {} true).commands [.evaluate (outage false),
      .evaluate (outage false)]).cycle (outage false)).active = .shadow := by decide +kernel
  refine ⟨hfirst, hactive, hactive ▸ happly.1 _ hfirst, happly.2 _ _ (outage true) hfirst ?_ ?_⟩
  · decide +kernel
  · decide +kernel

end RouteSelector

end Turbobond.Transport
