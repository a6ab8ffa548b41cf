import Mathlib.Tactic
import Turbobond.Lib.Machine
import Turbobond.Links.Model

/-!
# The link monitor

`turbobond/links/monitor.py`: each probe of an uplink updates its health, and its state is decided
from the health and the state before.
-/

namespace Turbobond.Links

/-- So many consecutive failures make a link go down. -/
def failThreshold : ℕ := 2

/-- So many consecutive failures make a link degraded. -/
def degradeThreshold : ℕ := 1

/-- So many consecutive successes are asked of a link that was down. -/
def recoverThreshold : ℕ := 3

def degradedLossPct : ℚ := 8

def degradedRttMs : ℚ := 400

def degradedJitterMs : ℚ := 80

/-- What one probe cycle finds: the result of `probe_best`, the capacity measured after it and the
clock.  A loss is a share of the packets sent, so it is never negative. -/
structure Probe where
  reachable : Bool
  rttMs : ℚ := 0
  jitterMs : ℚ := 0
  lossPct : ℚ := 100
  error : String := ""
  rxMbps : ℚ := 0
  txMbps : ℚ := 0
  now : Time := 0
  loss_nonneg : 0 ≤ lossPct := by norm_num

/-- The measurements are too poor for the state `UP`. -/
def LinkHealth.Poor (h : LinkHealth ℚ) : Prop :=
  degradedLossPct ≤ h.lossPct ∨ degradedRttMs ≤ h.rttMs ∨ degradedJitterMs ≤ h.jitterMs

instance (h : LinkHealth ℚ) : Decidable h.Poor :=
  inferInstanceAs (Decidable (_ ∨ _ ∨ _))

namespace LinkMonitor

/-- `_evaluate`. -/
def evaluate (link : Link ℚ) : LinkState :=
  let health := link.health
  if failThreshold ≤ health.consecutiveFailures then .down
  else if degradeThreshold ≤ health.consecutiveFailures then .degraded
  else if health.Poor then .degraded
  else if (link.state = .down ∨ link.state = .unknown) ∧
      health.consecutiveSuccesses < recoverThreshold then
    if health.consecutiveSuccesses ≠ 0 then .degraded else .down
  else .up

/-- `_transition`: a change is put out for the callback, with the link as it is by then and the
old and the new state. -/
def transition (link : Link ℚ) (newState : LinkState) :
    List (Link ℚ × LinkState × LinkState) × Link ℚ :=
  let oldState := link.state
  if oldState = newState then ([], link)
  else
    let link := { link with state := newState }
    ([(link, oldState, newState)], link)

/-- The part of `probe_link` that records what the probe has found. -/
def record (link : Link ℚ) (probe : Probe) : Link ℚ :=
  let health :=
    if probe.reachable then
      link.health.recordSuccess probe.rttMs probe.jitterMs probe.lossPct probe.now
    else
      link.health.recordFailure (if probe.error = "" then "unreachable" else probe.error) probe.now
  { link with
    health := { health with rxMbps := probe.rxMbps, txMbps := probe.txMbps }
    -- observed throughput is a lower bound on capacity, never an upper one
    uplinkMbps := if link.uplinkMbps < probe.txMbps then probe.txMbps else link.uplinkMbps
    downlinkMbps := if link.downlinkMbps < probe.rxMbps then probe.rxMbps else link.downlinkMbps }

def probeLink (link : Link ℚ) (probe : Probe) :
    List (Link ℚ × LinkState × LinkState) × Link ℚ :=
  if !link.enabled then transition link .disabled
  else
    let link := record link probe
    transition link (evaluate link)

/-- A sequence of probes of one link. -/
def run (probes : List Probe) (link : Link ℚ) :
    List (Link ℚ × LinkState × LinkState) × Link ℚ :=
  Machine.run probeLink probes link

@[simp] lemma transition_snd (link : Link ℚ) (newState : LinkState) :
    (transition link newState).2 = { link with state := newState } := by
  rw [transition]
  split
  · rename_i h
    rw [← h]
  · rfl

@[simp] lemma enabled_record (link : Link ℚ) (probe : Probe) :
    (record link probe).enabled = link.enabled := rfl

@[simp] lemma state_record (link : Link ℚ) (probe : Probe) :
    (record link probe).state = link.state := rfl

lemma health_probeLink {link : Link ℚ} (h : link.enabled = true) (probe : Probe) :
    (probeLink link probe).2.health = (record link probe).health := by
  simp [probeLink, h]

lemma state_probeLink {link : Link ℚ} (h : link.enabled = true) (probe : Probe) :
    (probeLink link probe).2.state = evaluate (record link probe) := by
  simp [probeLink, h]

@[simp] lemma enabled_probeLink (link : Link ℚ) (probe : Probe) :
    (probeLink link probe).2.enabled = link.enabled := by
  rw [probeLink]
  split
  · simp
  · simp

/-- A link comes up only with measurements that are not poor and, from `DOWN` or `UNKNOWN`, after
enough successes. -/
lemma evaluate_eq_up_iff {link : Link ℚ} :
    evaluate link = .up ↔ link.health.consecutiveFailures = 0 ∧ ¬ link.health.Poor ∧
      ((link.state = .down ∨ link.state = .unknown) →
        recoverThreshold ≤ link.health.consecutiveSuccesses) := by
  rw [evaluate]
  by_cases hdown : failThreshold ≤ link.health.consecutiveFailures
  · rw [if_pos hdown]
    refine iff_of_false (by simp) fun h => ?_
    rw [h.1] at hdown
    exact absurd hdown (by decide)
  rw [if_neg hdown]
  by_cases hdegraded : degradeThreshold ≤ link.health.consecutiveFailures
  · rw [if_pos hdegraded]
    refine iff_of_false (by simp) fun h => ?_
    rw [h.1] at hdegraded
    exact absurd hdegraded (by decide)
  rw [if_neg hdegraded]
  have hfail : link.health.consecutiveFailures = 0 := Nat.lt_one_iff.1 (not_le.1 hdegraded)
  by_cases hpoor : link.health.Poor
  · rw [if_pos hpoor]
    exact iff_of_false (by simp) fun h => h.2.1 hpoor
  rw [if_neg hpoor]
  by_cases hwait : (link.state = .down ∨ link.state = .unknown) ∧
      link.health.consecutiveSuccesses < recoverThreshold
  · rw [if_pos hwait]
    refine iff_of_false ?_ fun h => absurd (h.2.2 hwait.1) hwait.2.not_ge
    split
    · simp
    · simp
  · rw [if_neg hwait]
    exact iff_of_true rfl ⟨hfail, hpoor, fun hstate => not_lt.1 fun hfew => hwait ⟨hstate, hfew⟩⟩

/-- After a success a link is up or degraded. -/
lemma evaluate_of_success {link : Link ℚ} (hfail : link.health.consecutiveFailures = 0)
    (hsucc : link.health.consecutiveSuccesses ≠ 0) :
    evaluate link = .up ∨ evaluate link = .degraded := by
  rw [evaluate, hfail, if_neg (by decide), if_neg (by decide), if_pos hsucc]
  split
  · exact .inr rfl
  · split
    · exact .inr rfl
    · exact .inl rfl

end LinkMonitor

end Turbobond.Links
