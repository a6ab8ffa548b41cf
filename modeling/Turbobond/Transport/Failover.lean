import Turbobond.Transport.Flapping

/-!
# Failing over

How many bad checks of the active route it takes to leave it.  A check that raises leaves the route
unhealthy and is not counted.
-/

namespace Turbobond.Transport

open Config

/-- A check raises: the question for the availability does, or the probe after it. -/
def Check.Raises (asks : Bool) (c : Check) : Bool :=
  match if asks then c.availability else .ok (true, "") with
  | .error _ => true
  | .ok (false, _) => false
  | .ok (true, _) => !c.probe.isOk

/-- What a check that leaves the route unhealthy adds to its failures. -/
lemma RouteStatus.failures_of_unhealthy {status : RouteStatus} {asks : Bool} {c : Check}
    (h : (settle (status.check asks c)).healthy = false) :
    (settle (status.check asks c)).consecutiveFailures =
      status.consecutiveFailures + if c.Raises asks then 0 else 1 := by
  -- what remains where the route is available
  have hprobe : ∀ status' : RouteStatus,
      status'.consecutiveFailures = status.consecutiveFailures →
      (settle (status'.probed c.probe)).healthy = false →
      (settle (status'.probed c.probe)).consecutiveFailures =
        status.consecutiveFailures + if !c.probe.isOk then 0 else 1 := by
    intro status' hfail hsick
    cases hresult : c.probe with
    | error exc => exact hfail
    | ok probe =>
      simp only [hresult, probed, settle, take] at hsick ⊢
      by_cases hgood : Good probe
      · simp [hgood] at hsick
      · simp [hgood, hfail, Except.isOk, Except.toBool]
  simp only [check, ask] at h ⊢
  cases asks with
  | false => exact hprobe _ rfl h
  | true =>
    cases hanswer : c.availability with
    | error exc => simp [Check.Raises, hanswer, settle]
    | ok answer =>
      obtain ⟨available, reason⟩ := answer
      rw [hanswer] at h
      cases available with
      | false => simp [Check.Raises, hanswer, settle]
      | true =>
        simp only [Check.Raises, hanswer, if_true]
        exact hprobe _ rfl h

namespace RouteSelector

variable {s : RouteSelector}

/-- Each of a sequence of cycles finds the route unhealthy that is active at its beginning. -/
def Sick (s : RouteSelector) : List Cycle → Prop
  | [] => True
  | c :: cs => ((s.checkAll c.checks).statuses s.active).healthy = false ∧ (s.cycle c).Sick cs

instance Sick.decidable : ∀ (s : RouteSelector) (cs : List Cycle), Decidable (s.Sick cs)
  | _, [] => inferInstanceAs (Decidable True)
  | s, c :: cs => @instDecidableAnd _ _ _ (Sick.decidable (s.cycle c) cs)

lemma sick_append (s : RouteSelector) (cs cs' : List Cycle) :
    s.Sick (cs ++ cs') ↔ s.Sick cs ∧ (s.cycles cs).Sick cs' := by
  induction cs generalizing s with
  | nil => simp [Sick, cycles]
  | cons c cs ih =>
    rw [List.cons_append, Sick, Sick, ih, and_assoc]
    rfl

/-- The failures of a route that are counted in a sequence of cycles. -/
def counted (asks : Bool) (route : RouteName) (cs : List Cycle) : ℕ :=
  cs.countP fun c => !(c.checks route).Raises asks

lemma asks_cycle (s : RouteSelector) (c : Cycle) : (s.cycle c).asks = s.asks := by
  obtain ⟨name, h⟩ := switched_cycle s c
  exact h.asks

lemma kept_cycles (s : RouteSelector) (cs : List Cycle) :
    (s.cycles cs).policy = s.policy ∧ (s.cycles cs).asks = s.asks := by
  induction cs generalizing s with
  | nil => exact ⟨rfl, rfl⟩
  | cons c cs ih =>
    obtain ⟨hpolicy, hasks⟩ := ih (s.cycle c)
    exact ⟨hpolicy.trans (policy_cycle s c), hasks.trans (asks_cycle s c)⟩

/-- A route found healthy has one more success. -/
lemma successes_of_healthy {checks : RouteName → Check} {route : RouteName}
    (h : ((s.checkAll checks).statuses route).healthy = true) :
    ((s.checkAll checks).statuses route).consecutiveSuccesses =
      (s.statuses route).consecutiveSuccesses + 1 := by
  cases RouteStatus.checked_check (s.statuses route) s.asks (checks route) with
  | passed _ _ _ hs => exact hs
  | failed hsick _ _ => exact absurd (hsick.symm.trans h) (by simp)
  | raised hsick _ _ => exact absurd (hsick.symm.trans h) (by simp)

/-- Checks that find the active route unhealthy count that or do not. -/
lemma failures_checkAll {c : Cycle} (h : ((s.checkAll c.checks).statuses s.active).healthy = false) :
    ((s.checkAll c.checks).statuses s.active).consecutiveFailures =
      (s.statuses s.active).consecutiveFailures + counted s.asks s.active [c] := by
  refine (RouteStatus.failures_of_unhealthy h).trans ?_
  cases hraises : (c.checks s.active).Raises s.asks <;> simp [counted, hraises]

lemma failures_cycle {c : Cycle} (h : ((s.checkAll c.checks).statuses s.active).healthy = false) :
    ((s.cycle c).statuses s.active).consecutiveFailures =
      (s.statuses s.active).consecutiveFailures + counted s.asks s.active [c] := by
  obtain ⟨name, hsw⟩ := switched_cycle s c
  rw [hsw.failures, failures_checkAll h]

/-- The failures of the active route after cycles that all find it unhealthy: those before them and
the counted ones if no cycle switches, and fewer than there are cycles if one does. -/
lemma failures_cycles {cs : List Cycle} (h : s.Sick cs) :
    (s.Quiet cs → (s.cycles cs).active = s.active ∧
      ((s.cycles cs).statuses s.active).consecutiveFailures =
        (s.statuses s.active).consecutiveFailures + counted s.asks s.active cs) ∧
    (¬ s.Quiet cs →
      ((s.cycles cs).statuses (s.cycles cs).active).consecutiveFailures < cs.length) := by
  induction cs generalizing s with
  | nil => exact ⟨fun _ => ⟨rfl, rfl⟩, fun hnot => absurd trivial hnot⟩
  | cons c cs ih =>
    obtain ⟨hquiet, hloud⟩ := ih h.2
    have hcycles : s.cycles (c :: cs) = (s.cycle c).cycles cs := rfl
    rw [hcycles, List.length_cons]
    by_cases hswitch : s.Switches c
    · refine ⟨fun hq => absurd hswitch hq.1, fun _ => ?_⟩
      by_cases hq : (s.cycle c).Quiet cs
      · obtain ⟨hactive, hcount⟩ := hquiet hq
        have hle : counted (s.cycle c).asks (s.cycle c).active cs ≤ cs.length := List.countP_le_length
        rw [hactive, hcount, (cases_of_switches hswitch).2.1]
        omega
      · exact (hloud hq).trans (Nat.lt_succ_self _)
    · have hsame : (s.cycle c).active = s.active := not_not.1 hswitch
      refine ⟨fun hq => ?_, fun hq => ?_⟩
      · obtain ⟨hactive, hcount⟩ := hquiet hq.2
        refine ⟨hactive.trans hsame, ?_⟩
        rw [hsame] at hcount
        rw [hcount, failures_cycle h.1, asks_cycle, counted, counted, counted,
          List.countP_cons (l := cs), List.countP_singleton]
        omega
      · exact (hloud fun hq' => hq ⟨hswitch, hq'⟩).trans (Nat.lt_succ_self _)

/-- A switch to a route that is available, with a callback that does not raise. -/
lemma active_switchTo {outcome : Option (Except String Unit)} (houtcome : ∀ exc, outcome ≠ some (.error exc))
    {name : RouteName} (h : (s.statuses name).available = true) (now : Time) :
    (s.switchTo (onSwitch outcome) () name now).2.1.active = name := by
  simp only [switchTo]
  split_ifs with hsame hguard
  · exact hsame
  · simp [h] at hguard
  · rcases outcome with _ | exc | ⟨⟩
    · rfl
    · exact absurd rfl (houtcome exc)
    · rfl

/-- The decision of a cycle that finds the other route fine. -/
lemma active_cycle_iff {c : Cycle} (hauto : s.policy.autoFailover = true)
    (houtcome : ∀ exc, c.outcome ≠ some (.error exc))
    (havailable : ((s.checkAll c.checks).statuses (otherRoute s.active)).available = true)
    (hhealthy : ((s.checkAll c.checks).statuses (otherRoute s.active)).healthy = true) :
    (s.cycle c).active = otherRoute s.active ↔
      s.policy.failoverAfterFailures ≤
          ((s.checkAll c.checks).statuses s.active).consecutiveFailures ∨
        s.preferred = otherRoute s.active ∧ recoveryThreshold ≤
          ((s.checkAll c.checks).statuses (otherRoute s.active)).consecutiveSuccesses := by
  have hpolicy : (s.checkAll c.checks).policy = s.policy := rfl
  have hactive : (s.checkAll c.checks).active = s.active := rfl
  have hpreferred : (s.checkAll c.checks).preferred = s.preferred := rfl
  rw [cycle, evaluate]
  rw [← hpolicy] at hauto ⊢
  rw [← hactive] at havailable hhealthy ⊢
  rw [← hpreferred]
  generalize s.checkAll c.checks = t at *
  have hswitch := active_switchTo (s := t) houtcome havailable c.now
  rw [if_neg (by simp [hauto])]
  by_cases hfail : t.policy.failoverAfterFailures ≤ (t.statuses t.active).consecutiveFailures
  · rw [if_pos hfail]
    simp only [havailable, hhealthy, Bool.and_self, if_true]
    exact iff_of_true hswitch (Or.inl hfail)
  have hne : t.active ≠ otherRoute t.active := fun heq => otherRoute_eq_iff.1 heq.symm rfl
  rw [if_neg hfail]
  by_cases hback : t.preferred = otherRoute t.active
  · rw [if_pos (hback ▸ hne)]
    simp only [hback, havailable, hhealthy, Bool.and_self, Bool.true_and, decide_eq_true_eq]
    split_ifs with hmany
    · exact iff_of_true hswitch (Or.inr ⟨trivial, hmany⟩)
    · exact iff_of_false hne fun h => h.elim hfail fun h => hmany h.2
  · have hhome : t.active = t.preferred := by
      by_contra hnot
      exact hback (otherRoute_eq_iff.2 hnot).symm
    rw [if_neg (not_not.2 hhome)]
    exact iff_of_false hne fun h => h.elim hfail fun h => hback h.1

/-- **Failing over.**  After as many cycles that find the active route unhealthy as the policy asks
for, in the last of which the other route is fine and the callback does not raise, the other route is
active if and only if no cycle before the last one has switched and the failures of the route before
them and those checks of it that do not raise are as many, or the other route is the preferred one
and has recovered. -/
theorem failover_iff (s : RouteSelector) (before : List Cycle) (last : Cycle)
    (hauto : s.policy.autoFailover = true)
    (hlength : ((before ++ [last]).length : ℤ) = s.policy.failoverAfterFailures)
    (hsick : s.Sick (before ++ [last]))
    (hfine : (((s.cycles before).checkAll last.checks).statuses
        (otherRoute (s.cycles before).active)).available = true ∧
      (((s.cycles before).checkAll last.checks).statuses
        (otherRoute (s.cycles before).active)).healthy = true)
    (houtcome : ∀ exc, last.outcome ≠ some (.error exc)) :
    (s.cycles (before ++ [last])).active = otherRoute (s.cycles before).active ↔
      s.Quiet before ∧ s.policy.failoverAfterFailures ≤
          (s.statuses s.active).consecutiveFailures + counted s.asks s.active (before ++ [last]) ∨
        (s.cycles before).preferred = otherRoute (s.cycles before).active ∧ recoveryThreshold ≤
          ((s.cycles before).statuses
            (otherRoute (s.cycles before).active)).consecutiveSuccesses + 1 := by
  obtain ⟨hbefore, hlast, -⟩ := (sick_append s before [last]).1 hsick
  obtain ⟨hquiet, hloud⟩ := failures_cycles hbefore
  have hcycles : s.cycles (before ++ [last]) = (s.cycles before).cycle last := by
    rw [cycles, List.foldl_append]
    rfl
  have hkept : (s.cycles before).policy = s.policy ∧ (s.cycles before).asks = s.asks :=
    kept_cycles s before
  have hsuccesses := successes_of_healthy hfine.2
  rw [hcycles, active_cycle_iff (by rw [hkept.1]; exact hauto) houtcome hfine.1 hfine.2, hsuccesses,
    hkept.1]
  refine or_congr_left ?_
  rw [failures_checkAll hlast, hkept.2]
  by_cases hq : s.Quiet before
  · obtain ⟨hactive, hsum⟩ := hquiet hq
    rw [hactive, hsum, counted, counted, counted, List.countP_append]
    push_cast
    simp only [hq, true_and, add_assoc]
  · refine iff_of_false ?_ fun h => hq h.1
    have hfew := hloud hq
    have hone : counted s.asks (s.cycles before).active [last] ≤ 1 := List.countP_le_length
    rw [List.length_append, List.length_singleton] at hlength
    omega

theorem failover_iff_outage :
    ((new {} true).cycles ([outage false, outage false] ++ [outage false])).active =
        otherRoute ((new {} true).cycles [outage false, outage false]).active ↔
      (new {} true).Quiet [outage false, outage false] ∧
          (new {} true).policy.failoverAfterFailures ≤
            ((new {} true).statuses (new {} true).active).consecutiveFailures +
              counted (new {} true).asks (new {} true).active
                ([outage false, outage false] ++ [outage false]) ∨
        ((new {} true).cycles [outage false, outage false]).preferred =
            otherRoute ((new {} true).cycles [outage false, outage false]).active ∧
          recoveryThreshold ≤ (((new {} true).cycles [outage false, outage false]).statuses
            (otherRoute ((new {} true).cycles
              [outage false, outage false]).active)).consecutiveSuccesses + 1 :=
  failover_iff (new {} true) [outage false, outage false] (outage false) (by decide) (by decide)
    (by decide +kernel) (by decide +kernel) (by simp [outage])

/-- A cycle in which the check of the direct route raises. -/
def faulty : Cycle where
  checks
    | .direct => { (outage true).checks .direct with availability := .error "timed out" }
    | .shadow => (outage true).checks .shadow
  outcome := some (.ok ())
  now := 0

/-- However often the check of the direct route raises, the selector stays with it. -/
theorem failover_missed :
    ¬ ∀ (s : RouteSelector) (before : List Cycle) (last : Cycle), s.policy.autoFailover = true →
      ((before ++ [last]).length : ℤ) = s.policy.failoverAfterFailures →
      s.Sick (before ++ [last]) →
      (((s.cycles before).checkAll last.checks).statuses
          (otherRoute (s.cycles before).active)).available = true ∧
        (((s.cycles before).checkAll last.checks).statuses
          (otherRoute (s.cycles before).active)).healthy = true →
      (∀ exc, last.outcome ≠ some (.error exc)) →
      (s.cycles (before ++ [last])).active = otherRoute (s.cycles before).active := by
  intro h
  have hswitched := h (new {} true) [faulty, faulty] faulty (by decide) (by decide)
    (by decide +kernel) (by decide +kernel) (by simp [faulty])
  exact absurd hswitched (by decide +kernel)

end RouteSelector

end Turbobond.Transport
