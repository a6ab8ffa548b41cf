import Turbobond.Config.Model
import Turbobond.Lib.Time

/-!
# The route selector

`turbobond/transport/selector.py`: the checks of the two routes, the switch from one to the other
and the decision that each cycle makes.
-/

namespace Turbobond.Transport

open Config

/-- So many healthy probes are asked of the preferred route before the selector returns to it. -/
def recoveryThreshold : ℕ := 4

/-- A route whose probes lose this share of the packets, in percent, is not healthy. -/
def unhealthyLossPct : ℚ := 50

structure RouteStatus where
  available : Bool := false
  healthy : Bool := false
  active : Bool := false
  rttMs : ℚ := 0
  lossPct : ℚ := 0
  consecutiveFailures : ℕ := 0
  consecutiveSuccesses : ℕ := 0
  lastCheckTs : Time := 0
  reason : String := ""
  deriving DecidableEq

/-- The result of `probe_best`, as far as the selector reads it. -/
structure RouteProbe where
  reachable : Bool
  rttMs : ℚ := 0
  lossPct : ℚ := 100
  error : String := ""
  deriving DecidableEq

/-- What one check of a route meets: the answer of the availability check and the probe, or what
they raise. -/
structure Check where
  availability : Except String (Bool × String)
  probe : Except String RouteProbe
  now : Time

/-- The selector with its policy, which it shares with the configuration.  `asks` is whether it has
been given an availability check. -/
structure RouteSelector where
  policy : RoutePolicy
  asks : Bool
  active : RouteName
  preferred : RouteName
  switches : ℕ
  lastSwitchTs : Time
  statuses : RouteName → RouteStatus

/-- The route to fail over to. -/
def otherRoute : RouteName → RouteName
  | .direct => .shadow
  | .shadow => .direct

/-- The callback of a switch, from the old route to the new one, on what it acts on. -/
abbrev OnSwitch (σ : Type) : Type := RouteName → RouteName → σ → Except String Unit × σ

namespace RouteStatus

/-- The part of `check_route` that asks whether the route is available; false where the check ends
with that. -/
def ask (status : RouteStatus) (asks : Bool) (availability : Except String (Bool × String)) :
    Except String Bool × RouteStatus :=
  if asks then
    match availability with
    | .error exc => (.error exc, status)
    | .ok (available, reason) =>
      let status := { status with available, reason }
      if available then (.ok true, status)
      else
        (.ok false, { status with
          healthy := false
          consecutiveSuccesses := 0
          consecutiveFailures := status.consecutiveFailures + 1 })
  else (.ok true, { status with available := true })

/-- The probe has found the route to be healthy. -/
def Good (probe : RouteProbe) : Prop := probe.reachable = true ∧ probe.lossPct < unhealthyLossPct

instance (probe : RouteProbe) : Decidable (Good probe) := inferInstanceAs (Decidable (_ ∧ _))

/-- The part of `check_route` that takes a probe into account. -/
def take (status : RouteStatus) (probe : RouteProbe) : RouteStatus :=
  let status := { status with rttMs := probe.rttMs, lossPct := probe.lossPct }
  if Good probe then
    { status with
      healthy := true
      consecutiveFailures := 0
      consecutiveSuccesses := status.consecutiveSuccesses + 1
      reason := "" }
  else
    { status with
      healthy := false
      consecutiveSuccesses := 0
      consecutiveFailures := status.consecutiveFailures + 1
      reason := if probe.error = "" then "no reply from any probe target" else probe.error }

/-- The part of `check_route` that probes the route. -/
def probed (status : RouteStatus) : Except String RouteProbe → Except String Unit × RouteStatus
  | .error exc => (.error exc, status)
  | .ok probe => (.ok (), status.take probe)

/-- `check_route`: what it raises, and the status it leaves. -/
def check (status : RouteStatus) (asks : Bool) (c : Check) : Except String Unit × RouteStatus :=
  let status := { status with lastCheckTs := c.now }
  match status.ask asks c.availability with
  | (.error exc, status) => (.error exc, status)
  | (.ok false, status) => (.ok (), status)
  | (.ok true, status) => status.probed c.probe

/-- What `check_all` makes of a check: one that raises leaves the route unhealthy. -/
def settle : Except String Unit × RouteStatus → RouteStatus
  | (.ok (), status) => status
  | (.error exc, status) => { status with healthy := false, reason := exc }

end RouteStatus

namespace RouteSelector

variable {σ : Type}

/-- `RouteSelector.__init__`. -/
def new (policy : RoutePolicy) (asks : Bool) : RouteSelector where
  policy
  asks
  active := policy.defaultRoute
  preferred := policy.defaultRoute
  switches := 0
  lastSwitchTs := 0
  statuses name := { active := name = policy.defaultRoute }

def checkAll (s : RouteSelector) (checks : RouteName → Check) : RouteSelector :=
  { s with statuses := fun name =>
      RouteStatus.settle ((s.statuses name).check s.asks (checks name)) }

/-- The end of `switch_to`, where the callback has not raised. -/
def activate (s : RouteSelector) (name : RouteName) (now : Time) : RouteSelector :=
  { s with
    active := name
    switches := s.switches + 1
    lastSwitchTs := now
    statuses := fun route => { s.statuses route with active := route = name } }

/-- `switch_to`, of a name in `ROUTES`. -/
def switchTo (onSwitch : Option (OnSwitch σ)) (s : RouteSelector) (env : σ) (name : RouteName)
    (now : Time) : Bool × RouteSelector × σ :=
  if s.active = name then (true, s, env)
  else if !(s.statuses name).available && s.asks then (false, s, env)
  else
    match onSwitch with
    | none => (true, s.activate name now, env)
    | some callback =>
      match callback s.active name env with
      | (.error _, env) => (false, s, env)
      | (.ok (), env) => (true, s.activate name now, env)

def setPreferred (onSwitch : Option (OnSwitch σ)) (s : RouteSelector) (env : σ) (name : RouteName)
    (now : Time) : Bool × RouteSelector × σ :=
  switchTo onSwitch
    { s with preferred := name, policy := { s.policy with defaultRoute := name } } env name now

/-- `evaluate`: one decision cycle. -/
def evaluate (onSwitch : Option (OnSwitch σ)) (s : RouteSelector) (env : σ)
    (checks : RouteName → Check) (now : Time) : RouteSelector × σ :=
  let s := s.checkAll checks
  if !s.policy.autoFailover then (s, env)
  else if s.policy.failoverAfterFailures ≤ (s.statuses s.active).consecutiveFailures then
    let alternate := s.statuses (otherRoute s.active)
    if alternate.available && alternate.healthy then
      (s.switchTo onSwitch env (otherRoute s.active) now).2
    else (s, env)
  else if s.active ≠ s.preferred then
    let preferred := s.statuses s.preferred
    if preferred.available && preferred.healthy &&
        recoveryThreshold ≤ preferred.consecutiveSuccesses then
      (s.switchTo onSwitch env s.preferred now).2
    else (s, env)
  else (s, env)

end RouteSelector

end Turbobond.Transport
