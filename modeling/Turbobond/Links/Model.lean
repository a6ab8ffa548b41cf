import Turbobond.Lib.Time
import Mathlib.Algebra.Order.Field.Basic

/-!
# Uplinks

The runtime model of one uplink, `turbobond/links/model.py`.  Rates, delays and weights are
elements of an ordered field with a square root, in place of floats.
-/

namespace Turbobond.Links

/-- What `x ** 0.5` means. -/
class HasSqrt (K : Type) where
  sqrt : K → K

/-- Exact on squares, rounded down to a multiple of `1 / x.den` elsewhere. -/
instance : HasSqrt ℚ := ⟨fun x => (Nat.sqrt (x.num.toNat * x.den) : ℚ) / x.den⟩

inductive LinkState where
  | unknown
  | up
  | degraded
  | down
  | disabled
  deriving DecidableEq, Repr

/-- Rolling health signal for one uplink. -/
structure LinkHealth (K : Type) [Zero K] where
  rttMs : K := 0
  jitterMs : K := 0
  lossPct : K := 0
  rxMbps : K := 0
  txMbps : K := 0
  consecutiveFailures : ℕ := 0
  consecutiveSuccesses : ℕ := 0
  lastOkTs : Time := 0
  lastCheckTs : Time := 0
  error : String := ""

/-- One WAN uplink participating in the bond. -/
structure Link (K : Type) [Zero K] [One K] where
  name : String
  interface : String
  gateway : String := ""
  sourceIp : String := ""
  weight : K := 1
  uplinkMbps : K := 0
  downlinkMbps : K := 0
  metered : Bool := false
  enabled : Bool := true
  tableId : ℤ := 0
  linkId : ℕ := 0
  state : LinkState := .unknown
  health : LinkHealth K := {}
  /-- Set once the bonding tunnel has a live socket bound to this interface. -/
  tunnelReady : Bool := false

variable {K : Type} [Field K] [LinearOrder K]

namespace LinkHealth

/-- `_EWMA_ALPHA`. -/
def ewmaAlpha : K := 3 / 10

/-- `record_success`. -/
def recordSuccess (h : LinkHealth K) (rttMs jitterMs lossPct : K) (now : Time) : LinkHealth K :=
  { h with
    rttMs := if h.rttMs = 0 then rttMs else ewmaAlpha * rttMs + (1 - ewmaAlpha) * h.rttMs
    jitterMs :=
      if h.jitterMs = 0 then jitterMs else ewmaAlpha * jitterMs + (1 - ewmaAlpha) * h.jitterMs
    lossPct := ewmaAlpha * lossPct + (1 - ewmaAlpha) * h.lossPct
    consecutiveFailures := 0
    consecutiveSuccesses := h.consecutiveSuccesses + 1
    lastOkTs := now
    lastCheckTs := now
    error := "" }

/-- `record_failure`. -/
def recordFailure (h : LinkHealth K) (error : String) (now : Time) : LinkHealth K :=
  { h with
    consecutiveSuccesses := 0
    consecutiveFailures := h.consecutiveFailures + 1
    lossPct := min 100 (h.lossPct * (7 / 10) + 100 * (3 / 10))
    lastCheckTs := now
    error := if error = "" then h.error else error }

end LinkHealth

namespace Link

def usable (link : Link K) : Bool :=
  link.enabled && (link.state = .up || link.state = .degraded)

def healthy (link : Link K) : Bool := link.enabled && link.state = .up

/-- Scheduling weight adjusted for measured quality: capacity dominates, then loss, then
latency, and a metered link is held back. -/
def effectiveWeight [HasSqrt K] (link : Link K) : K :=
  if !link.usable then 0
  else
    let base := link.weight
    let base := if link.uplinkMbps > 0 then base * max (1 / 10) (link.uplinkMbps / 10) else base
    let lossFactor := max (1 / 20) (1 - HasSqrt.sqrt (link.health.lossPct / 100))
    let rtt := max link.health.rttMs 1
    let latencyFactor := 1 / (1 + rtt / 100)
    let base := if link.metered then base * (1 / 4) else base
    let base := if link.state = .degraded then base * (2 / 5) else base
    max (1 / 1000) (base * lossFactor * latencyFactor)

/-- What the capacity multiplies the weight with. -/
def capacityFactor (uplinkMbps : K) : K :=
  if uplinkMbps > 0 then max (1 / 10) (uplinkMbps / 10) else 1

/-- The share of its weight that a link keeps for its kind, its loss and its delay. -/
def keptShare [HasSqrt K] (link : Link K) : K :=
  (if link.metered then 1 / 4 else 1) * (if link.state = .degraded then 2 / 5 else 1) *
    max (1 / 20) (1 - HasSqrt.sqrt (link.health.lossPct / 100)) *
    (1 / (1 + max link.health.rttMs 1 / 100))

/-- The capacity was not measured, is now found to be below ten, and the weight is above its
floor. -/
def Deflates [HasSqrt K] (link : Link K) (uplinkMbps : K) : Prop :=
  link.uplinkMbps = 0 ∧ 0 < uplinkMbps ∧ uplinkMbps < 10 ∧ 1 / 1000 < link.weight * link.keptShare

end Link

end Turbobond.Links
