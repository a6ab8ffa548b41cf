import Turbobond.Lib.Bytes
import Turbobond.Lib.Dict
import Turbobond.Links.Model
import Mathlib.Data.List.MinMax

/-!
# Choosing an uplink for each packet

The scheduler of `turbobond/bond/scheduler.py`.  Its lock makes every method one step.
-/

namespace Turbobond.Bond

open Links

inductive SchedulerMode where
  | weighted
  | lowestLatency
  | redundant
  deriving DecidableEq, Repr

/-- Bytes handed out per scheduling round: `DEFAULT_QUANTUM`. -/
def defaultQuantum : ℕ := 1500

structure LinkCounters (K : Type) [Zero K] where
  packets : ℕ := 0
  bytes : ℕ := 0
  deficit : K := 0
  drops : ℕ := 0

structure SchedulerStats (K : Type) [Zero K] where
  totalPackets : ℕ := 0
  totalBytes : ℕ := 0
  duplicatedPackets : ℕ := 0
  droppedPackets : ℕ := 0
  perLink : Dict ℕ (LinkCounters K) := Dict.empty

structure BondScheduler (K : Type) [Zero K] [One K] where
  links : List (Link K)
  mode : SchedulerMode := .weighted
  quantum : ℕ := defaultQuantum
  stats : SchedulerStats K := {}
  cursor : ℕ := 0

variable {K : Type} [Field K] [LinearOrder K]

namespace BondScheduler

/-- `self.stats.per_link.setdefault(link_id, LinkCounters())`. -/
def counters (s : BondScheduler K) (linkId : ℕ) : LinkCounters K :=
  (s.stats.perLink.get? linkId).getD {}

/-- The scheduler with the counters of a link changed. -/
def setCounters (s : BondScheduler K) (linkId : ℕ) (c : LinkCounters K) : BondScheduler K :=
  { s with stats := { s.stats with perLink := s.stats.perLink.set linkId c } }

/-- `_sync_counters`. -/
def syncCounters (s : BondScheduler K) : BondScheduler K :=
  s.links.foldl (fun s link => s.setCounters link.linkId (s.counters link.linkId)) s

/-- `BondScheduler.__init__`. -/
def new (links : List (Link K)) (mode : SchedulerMode) : BondScheduler K :=
  syncCounters { links, mode }

/-- `set_links`. -/
def setLinks (s : BondScheduler K) (links : List (Link K)) : BondScheduler K :=
  syncCounters { s with links, cursor := 0 }

def usableLinks (s : BondScheduler K) : List (Link K) :=
  s.links.filter fun link => link.usable && link.tunnelReady

/-- `_candidates`: the links whose tunnel socket is live, or any usable link when none is. -/
def candidates (s : BondScheduler K) : List (Link K) :=
  let ready := s.usableLinks
  if ready ≠ [] then ready else s.links.filter Link.usable

/-- One pass of `_weighted_pick` over the candidates, from the cursor on: the first link that
can afford the packet pays for it and is taken. -/
def takeTurn (candidates : List (Link K)) (packetLen : ℕ) :
    List ℕ → BondScheduler K → Option (Link K) × BondScheduler K
  | [], s => (none, s)
  | offset :: rest, s =>
    let index := (s.cursor + offset) % candidates.length
    match candidates[index]? with
    | none => takeTurn candidates packetLen rest s
    | some link =>
      let c := s.counters link.linkId
      if c.deficit ≥ packetLen then
        let s := s.setCounters link.linkId { c with deficit := c.deficit - packetLen }
        (some link, { s with cursor := (index + 1) % candidates.length })
      else takeTurn candidates packetLen rest (s.setCounters link.linkId c)

variable [HasSqrt K]

/-- Nobody could afford the packet: credit everyone in proportion to weight. -/
def credit (candidates : List (Link K)) (totalWeight : K) (s : BondScheduler K) :
    BondScheduler K :=
  candidates.foldl (fun s link =>
    let c := s.counters link.linkId
    let share := link.effectiveWeight / totalWeight
    s.setCounters link.linkId
      { c with deficit := c.deficit + s.quantum * share * candidates.length }) s

/-- The rounds of `_weighted_pick`. -/
def pickRounds (candidates : List (Link K)) (totalWeight : K) (packetLen : ℕ) :
    ℕ → BondScheduler K → Option (Link K) × BondScheduler K
  | 0, s => (candidates.argmax Link.effectiveWeight, s)
  | rounds + 1, s =>
    match takeTurn candidates packetLen (List.range candidates.length) s with
    | (some link, s) => (some link, s)
    | (none, s) => pickRounds candidates totalWeight packetLen rounds (credit candidates totalWeight s)

/-- `_weighted_pick`: deficit weighted round-robin.  `none` only when there is no candidate. -/
def weightedPick (s : BondScheduler K) (candidates : List (Link K)) (packetLen : ℕ) :
    Option (Link K) × BondScheduler K :=
  let totalWeight := (candidates.map Link.effectiveWeight).sum
  if totalWeight ≤ 0 then (candidates.head?, s)
  else pickRounds candidates totalWeight packetLen (candidates.length * 2 + 2) s

/-- The links `select` chooses from one or more candidates. -/
def choose (s : BondScheduler K) (candidates : List (Link K)) (packetLen : ℕ) (critical : Bool) :
    List (Link K) × BondScheduler K :=
  if candidates.length = 1 then (candidates, s)
  else if critical || s.mode = .redundant then (candidates, s)
  else if s.mode = .lowestLatency then
    ((candidates.argmin fun link => max link.health.rttMs (1 / ((100 : ℕ) : K))).toList, s)
  else
    let (link, s) := s.weightedPick candidates packetLen
    (link.toList, s)

/-- `select`: the links that should carry a packet, none if there is nowhere to send it. -/
def select (s : BondScheduler K) (packetLen : ℕ) (critical : Bool) :
    List (Link K) × BondScheduler K :=
  let candidates := s.candidates
  if candidates = [] then
    ([], { s with stats := { s.stats with droppedPackets := s.stats.droppedPackets + 1 } })
  else
    let (chosen, s) := s.choose candidates packetLen critical
    let s := { s with
      stats := { s.stats with
        totalPackets := s.stats.totalPackets + 1
        totalBytes := s.stats.totalBytes + packetLen
        duplicatedPackets :=
          if chosen.length > 1 then s.stats.duplicatedPackets + 1
          else s.stats.duplicatedPackets } }
    (chosen, chosen.foldl (fun s link =>
      let c := s.counters link.linkId
      s.setCounters link.linkId
        { c with packets := c.packets + 1, bytes := c.bytes + packetLen }) s)

end BondScheduler

/-- `is_critical_packet`: SIP signalling, by the ports of the transport header. -/
def isCriticalPacket (packet : Bytes) (sipPorts : List ℤ) : Bool :=
  let byte (i : ℕ) : ℕ := (packet.getD i 0).toNat
  let ports (protocol offset : ℕ) : Bool :=
    -- TCP, UDP and SCTP all start with source and destination port
    if protocol ∉ [6, 17, 132] then false
    else
      let srcPort := Bytes.ofBE ((packet.drop offset).take 2)
      let dstPort := Bytes.ofBE ((packet.drop (offset + 2)).take 2)
      sipPorts.contains (srcPort : ℤ) || sipPorts.contains (dstPort : ℤ)
  if packet.length < 20 then false
  else if byte 0 / 16 = 4 then
    let ihl := byte 0 % 16 * 4
    if ihl < 20 ∨ packet.length < ihl + 4 then false else ports (byte 9) ihl
  else if byte 0 / 16 = 6 then
    if packet.length < 44 then false else ports (byte 6) 40
  else false

end Turbobond.Bond
