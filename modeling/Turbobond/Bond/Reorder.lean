import Turbobond.Lib.Dict
import Turbobond.Lib.Machine
import Turbobond.Lib.Time
import Mathlib.Data.Finset.Card

/-!
# The reorder buffer

`turbobond/bond/reorder.py`: the receive side of the bond holds early arrivals until the
packets before them have come, or until their deadline.

Two representations differ from the source. The heap of `heapq` is a priority queue of
which only the least element is ever looked at, so it is kept as its sorted list. And the
packets an operation releases are listed with their sequence numbers, where the source
returns the payloads alone; `payloads` forgets the numbers again.

Clock readings and the timeout are exact rationals.
-/

namespace Turbobond.Bond

structure ReorderStats where
  delivered : ℕ := 0
  reordered : ℕ := 0
  duplicates : ℕ := 0
  lateDrops : ℕ := 0
  gapSkips : ℤ := 0
  overflowFlushes : ℕ := 0
  maxHeld : ℕ := 0
  deriving DecidableEq

structure ReorderBuffer (P : Type) where
  timeoutS : Time
  capacity : ℕ
  stats : ReorderStats := {}
  /-- The pending sequence numbers, least first. -/
  heap : List ℤ := []
  /-- The payload and the deadline of each pending packet. -/
  pending : Dict ℤ (P × Time) := Dict.empty
  seen : Finset ℤ := ∅
  nextSeq : ℤ := 0
  started : Bool := false
  /-- Still learning the lowest sequence number in flight; nothing is delivered yet. -/
  priming : Bool := false
  primeDeadline : Time := 0

/-- The payloads of the released packets, which is what the source returns. -/
def payloads {P : Type} (out : List (ℤ × P)) : List P := out.map Prod.snd

namespace ReorderBuffer

variable {P : Type}

/-- `ReorderBuffer.__init__`. -/
def new (timeoutMs : ℚ) (capacity : ℤ) : ReorderBuffer P :=
  { timeoutS := max 0 (timeoutMs / 1000), capacity := (max 8 capacity).toNat }

/-- `_advance`: account for a delivery and prune the set of delivered numbers. -/
def advance (b : ReorderBuffer P) (deliveredSeq : ℤ) : ReorderBuffer P :=
  let b := { b with
    stats := { b.stats with delivered := b.stats.delivered + 1 }
    nextSeq := deliveredSeq + 1
    seen := insert deliveredSeq b.seen }
  if b.seen.card > b.capacity * 4 then
    { b with seen := b.seen.filter fun s => s ≥ b.nextSeq - b.capacity * 2 }
  else b

/-- Take the least number off the heap, and its packet out of `_pending`. -/
def pop (b : ReorderBuffer P) (head : ℤ) (rest : List ℤ) : ReorderBuffer P :=
  { b with heap := rest, pending := b.pending.erase head }

/-- Count the slots given up in front of a packet whose deadline has passed. -/
def skip (b : ReorderBuffer P) (skipped : ℤ) : ReorderBuffer P :=
  { b with stats := { b.stats with gapSkips := b.stats.gapSkips + skipped } }

/-- The loop of `_drain`: release every packet that is in order or overdue.  The list is
the heap of the buffer.  A number without a payload would be a `KeyError` in the source;
the heap holds exactly the pending numbers (`Tidy`), so that branch is never taken. -/
def drainLoop (now : Time) : List ℤ → ReorderBuffer P → List (ℤ × P) × ReorderBuffer P
  | [], b => ([], b)
  | head :: rest, b =>
    if head < b.nextSeq then drainLoop now rest (b.pop head rest)
    else
      match b.pending.get? head with
      | none => drainLoop now rest (b.pop head rest)
      | some (payload, deadline) =>
        if head = b.nextSeq then
          let (out, b) := drainLoop now rest ((b.pop head rest).advance head)
          ((head, payload) :: out, b)
        else if now ≥ deadline then
          -- the gap has lasted until the deadline of the packet behind it
          let (out, b) :=
            drainLoop now rest (((b.skip (head - b.nextSeq)).pop head rest).advance head)
          ((head, payload) :: out, b)
        else ([], b)

/-- `_drain`. -/
def drain (b : ReorderBuffer P) (now : Time) : List (ℤ × P) × ReorderBuffer P :=
  if b.priming ∧ now < b.primeDeadline then ([], b)
  else drainLoop now b.heap { b with priming := false }

/-- The loop of `_force_flush` and of `flush`: release at most `target` packets, oldest
first, whether or not they are in order. -/
def flushLoop : ℕ → List ℤ → ReorderBuffer P → List (ℤ × P) × ReorderBuffer P
  | 0, _, b => ([], b)
  | _ + 1, [], b => ([], b)
  | target + 1, head :: rest, b =>
    match b.pending.get? head with
    | none => flushLoop target rest (b.pop head rest)
    | some (payload, _) =>
      if head < b.nextSeq then flushLoop target rest (b.pop head rest)
      else
        let (out, b) := flushLoop target rest ((b.pop head rest).advance head)
        ((head, payload) :: out, b)

/-- `_force_flush`: release the oldest packets until half the capacity is left. -/
def forceFlush (b : ReorderBuffer P) : List (ℤ × P) × ReorderBuffer P :=
  flushLoop (b.pending.size - b.capacity / 2) b.heap { b with
    priming := false
    stats := { b.stats with overflowFlushes := b.stats.overflowFlushes + 1 } }

/-- The opening of `push`: start the stream at its first packet, or rewind its start
while the buffer is still priming. -/
def locate (b : ReorderBuffer P) (seq : ℤ) (now : Time) : ReorderBuffer P :=
  if !b.started then
    { b with
      started := true, nextSeq := seq, priming := true, primeDeadline := now + b.timeoutS }
  else if b.priming && seq < b.nextSeq then { b with nextSeq := seq }
  else b

/-- Hold a packet until it can be released. -/
def hold (b : ReorderBuffer P) (seq : ℤ) (payload : P) (now : Time) : ReorderBuffer P :=
  let pending := b.pending.set seq (payload, now + b.timeoutS)
  { b with
    pending := pending
    heap := b.heap.orderedInsert (· ≤ ·) seq
    stats := { b.stats with
      maxHeld := max b.stats.maxHeld pending.size
      reordered := if seq = b.nextSeq then b.stats.reordered else b.stats.reordered + 1 } }

/-- A second copy of something already held or delivered. -/
def countDuplicate (b : ReorderBuffer P) : ReorderBuffer P :=
  { b with stats := { b.stats with duplicates := b.stats.duplicates + 1 } }

/-- A packet whose slot has already been passed. -/
def countLate (b : ReorderBuffer P) : ReorderBuffer P :=
  { b with stats := { b.stats with lateDrops := b.stats.lateDrops + 1 } }

/-- The end of `push`: release what is deliverable, and flush when over capacity. -/
def settle (b : ReorderBuffer P) (now : Time) : List (ℤ × P) × ReorderBuffer P :=
  let (released, b) := b.drain now
  if b.pending.size > b.capacity then
    let (flushed, b) := b.forceFlush
    (released ++ flushed, b)
  else (released, b)

/-- `push`. -/
def push (b : ReorderBuffer P) (seq : ℤ) (payload : P) (now : Time) :
    List (ℤ × P) × ReorderBuffer P :=
  let b := b.locate seq now
  if b.pending.has seq || decide (seq ∈ b.seen) then
    ([], b.countDuplicate)
  else if seq < b.nextSeq then ([], b.countLate)
  else (b.hold seq payload now).settle now

/-- `tick`. -/
def tick (b : ReorderBuffer P) (now : Time) : List (ℤ × P) × ReorderBuffer P := b.drain now

/-- `flush`. -/
def flush (b : ReorderBuffer P) : List (ℤ × P) × ReorderBuffer P :=
  flushLoop b.heap.length b.heap { b with priming := false }

/-- `reset`. -/
def reset (b : ReorderBuffer P) : ReorderBuffer P :=
  { b with
    heap := [], pending := Dict.empty, seen := ∅, nextSeq := 0, started := false
    priming := false, primeDeadline := 0 }

/-! ### Runs -/

/-- One call of the buffer's interface. -/
inductive Op (P : Type) where
  | push (seq : ℤ) (payload : P) (now : Time)
  | tick (now : Time)
  | flush

/-- The clock reading a call is given, if it is given one. -/
def Op.now? : Op P → Option Time
  | .push _ _ now => some now
  | .tick now => some now
  | .flush => none

/-- Perform one call. -/
def step (b : ReorderBuffer P) : Op P → List (ℤ × P) × ReorderBuffer P
  | .push seq payload now => b.push seq payload now
  | .tick now => b.tick now
  | .flush => b.flush

/-- Perform a list of calls: everything they returned, in order, and the last state. -/
def run (ops : List (Op P)) (b : ReorderBuffer P) : List (ℤ × P) × ReorderBuffer P :=
  Machine.run step ops b

/-- The pushes among a list of calls. -/
def pushes (ops : List (Op P)) : List (ℤ × P × Time) :=
  ops.filterMap fun
    | .push seq payload now => some (seq, payload, now)
    | _ => none

/-- The packet a call adds to the buffer: the one pushed, unless the call counted it in
`duplicates` or in `late_drops`. -/
def acceptedBy (b : ReorderBuffer P) : Op P → List (ℤ × P × Time)
  | .push seq payload now =>
    let b' := (b.push seq payload now).2
    if b'.stats.duplicates = b.stats.duplicates ∧ b'.stats.lateDrops = b.stats.lateDrops then
      [(seq, payload, now)]
    else []
  | _ => []

/-- The packets accepted by a list of calls, with the time of their arrival. -/
def accepted : List (Op P) → ReorderBuffer P → List (ℤ × P × Time)
  | [], _ => []
  | op :: ops, b => b.acceptedBy op ++ accepted ops (b.step op).2

@[simp] lemma run_nil (b : ReorderBuffer P) : run [] b = ([], b) := rfl

lemma run_cons (op : Op P) (ops : List (Op P)) (b : ReorderBuffer P) :
    run (op :: ops) b =
      ((b.step op).1 ++ (run ops (b.step op).2).1, (run ops (b.step op).2).2) := rfl

lemma run_append (ops ops' : List (Op P)) (b : ReorderBuffer P) :
    run (ops ++ ops') b =
      ((run ops b).1 ++ (run ops' (run ops b).2).1, (run ops' (run ops b).2).2) :=
  Machine.run_append step ops ops' b

end ReorderBuffer

end Turbobond.Bond
