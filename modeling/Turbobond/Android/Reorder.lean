import Turbobond.Lib.Dict
import Turbobond.Lib.Machine

/-!
# The reorder buffer on Android

`ReorderBuffer` of `Reorder.kt`: one deadline serves all the packets that are held, and when it
passes the buffer skips to the oldest of them.

A `Long` is an integer, and a sum of two wraps around.  Of the `TreeMap` only the least key is
looked at in order, so it is a dictionary whose least key is looked up.  As in the buffer of
`turbobond/bond/reorder.py`, the packets that a call returns are listed with their numbers.
-/

namespace Turbobond.Android

/-- `Long.MAX_VALUE`. -/
def maxLong : ℤ := 2 ^ 63 - 1

/-- A sum as a `Long`. -/
def wrap (n : ℤ) : ℤ := n.bmod (2 ^ 64)

lemma wrap_range (n : ℤ) : -2 ^ 63 ≤ wrap n ∧ wrap n ≤ maxLong := by
  have hle := Int.le_bmod (x := n) (m := 2 ^ 64) (by norm_num)
  have hlt := Int.bmod_lt (x := n) (m := 2 ^ 64) (by norm_num)
  norm_num [wrap, maxLong] at hle hlt ⊢
  omega

lemma wrap_of_le {n : ℤ} (h : -2 ^ 63 ≤ n) (h' : n ≤ maxLong) : wrap n = n :=
  Int.bmod_eq_of_le (by norm_num; omega) (by norm_num [maxLong] at h' ⊢; omega)

/-- What a call of the buffer could throw. -/
inductive Thrown where
  /-- `NoSuchElementException`, of `firstKey` on an empty map. -/
  | noSuchElement
  deriving DecidableEq

structure ReorderBuffer (P : Type) where
  timeoutMs : ℤ := 90
  capacity : ℤ := 2048
  pending : Dict ℤ P := Dict.empty
  nextSeq : ℤ := -1
  deadline : ℤ := 0

namespace ReorderBuffer

variable {P : Type}

/-- A buffer as it is constructed. -/
def new (timeoutMs capacity : ℤ) : ReorderBuffer P := { timeoutMs, capacity }

/-- `pending.firstKey()`. -/
def firstKey (pending : Dict ℤ P) : Except Thrown ℤ :=
  match pending.keys.min? with
  | some first => .ok first
  | none => .error .noSuchElement

/-- `deadline = now + timeoutMs`. -/
def wait (b : ReorderBuffer P) (now : ℤ) : ReorderBuffer P :=
  { b with deadline := wrap (now + b.timeoutMs) }

/-- The loop of `drainContiguous`; each round takes one packet out. -/
def drainLoop : ℕ → ReorderBuffer P → List (ℤ × P) × ReorderBuffer P
  | 0, b => ([], b)
  | fuel + 1, b =>
    match b.pending.get? b.nextSeq with
    | none => ([], b)
    | some packet =>
      let (out, b') := drainLoop fuel { b with
        pending := b.pending.erase b.nextSeq
        nextSeq := wrap (b.nextSeq + 1) }
      ((b.nextSeq, packet) :: out, b')

def drainContiguous (b : ReorderBuffer P) : List (ℤ × P) × ReorderBuffer P :=
  drainLoop b.pending.size b

/-- `flushOldest`: give up on the missing packet, skip to the oldest held, and carry on. -/
def flushOldest (b : ReorderBuffer P) (now : ℤ) :
    Except Thrown (List (ℤ × P) × ReorderBuffer P) := do
  let first ← firstKey b.pending
  let (out, b) := { b with nextSeq := first }.drainContiguous
  return (out, b.wait now)

/-- The opening of `push`: the stream starts at the first packet to arrive. -/
def opened (b : ReorderBuffer P) (seq now : ℤ) : ReorderBuffer P :=
  if b.nextSeq < 0 then { b with nextSeq := seq }.wait now else b

/-- `pending[seq] = packet`, and the deadline of a packet that is alone. -/
def put (b : ReorderBuffer P) (seq : ℤ) (packet : P) (now : ℤ) : ReorderBuffer P :=
  let b := { b with pending := b.pending.set seq packet }
  if b.pending.size = 1 then b.wait now else b

def push (b : ReorderBuffer P) (seq : ℤ) (packet : P) (now : ℤ) :
    Except Thrown (List (ℤ × P) × ReorderBuffer P) :=
  let b := b.opened seq now
  if seq < b.nextSeq then .ok ([], b)
  else
    let (ready, b) := (b.put seq packet now).drainContiguous
    if ready ≠ [] then .ok (ready, b.wait now)
    else if b.capacity ≤ b.pending.size then b.flushOldest now
    else if b.deadline ≤ now then b.flushOldest now
    else .ok ([], b)

def tick (b : ReorderBuffer P) (now : ℤ) : Except Thrown (List (ℤ × P) × ReorderBuffer P) :=
  if b.pending.size = 0 ∨ now < b.deadline then .ok ([], b) else b.flushOldest now

def reset (b : ReorderBuffer P) : ReorderBuffer P :=
  { b with pending := Dict.empty, nextSeq := -1, deadline := 0 }

lemma reset_eq_new (b : ReorderBuffer P) : b.reset = new b.timeoutMs b.capacity := rfl

/-! ### Runs -/

/-- One call of the buffer. -/
inductive Op (P : Type) where
  | push (seq : ℤ) (packet : P) (now : ℤ)
  | tick (now : ℤ)

def call (b : ReorderBuffer P) : Op P → Except Thrown (List (ℤ × P) × ReorderBuffer P)
  | .push seq packet now => b.push seq packet now
  | .tick now => b.tick now

/-- Perform a list of calls: what they return, and the buffer they leave. -/
def calls : List (Op P) → ReorderBuffer P → Except Thrown (List (ℤ × P) × ReorderBuffer P)
  | [], b => .ok ([], b)
  | op :: ops, b => do
    let (out, b) ← b.call op
    let (out', b) ← calls ops b
    return (out ++ out', b)

/-! ### Draining -/

/-- The buffer stands at a number, which may be the one after the last `Long`, and holds none
before it. -/
structure Ahead (b : ReorderBuffer P) (start : ℤ) : Prop where
  nextSeq : b.nextSeq = wrap start
  range : -2 ^ 63 ≤ start ∧ start ≤ maxLong + 1
  le : ∀ s ∈ b.pending.keys, start ≤ s
  le_max : ∀ s ∈ b.pending.keys, s ≤ maxLong

/-- What `drainContiguous` does: the numbers from the one it stands at up to the first that is
missing come out in order, each with its packet. -/
structure Drains (b : ReorderBuffer P) (start : ℤ) (out : List (ℤ × P)) (b' : ReorderBuffer P)
    (stop : ℤ) : Prop where
  sorted : (out.map Prod.fst).Pairwise (· < ·)
  mem_iff : ∀ s, s ∈ out.map Prod.fst ↔ start ≤ s ∧ s < stop
  packets : ∀ e ∈ out, b.pending.get? e.1 = some e.2
  get? : ∀ s, b'.pending.get? s = if s < stop then none else b.pending.get? s
  size : out.length + b'.pending.size = b.pending.size
  le : start ≤ stop ∧ stop ≤ maxLong + 1
  nextSeq : b'.nextSeq = wrap stop
  stops : stop ∉ b.pending.keys
  timeoutMs : b'.timeoutMs = b.timeoutMs
  capacity : b'.capacity = b.capacity
  deadline : b'.deadline = b.deadline

/-- Nothing comes out where the number that it stands at is missing. -/
lemma Ahead.drains_nil {b : ReorderBuffer P} {start : ℤ} (h : b.Ahead start)
    (hget : start ∉ b.pending.keys) : Drains b start [] b start := by
  refine ⟨List.Pairwise.nil, fun s => by simp, by simp, fun s => ?_, by simp, ⟨le_rfl, h.range.2⟩,
    h.nextSeq, hget, rfl, rfl, rfl⟩
  split_ifs with hlt
  · refine (Dict.get?_eq_none_iff _ _).2 fun hs => ?_
    exact absurd (h.le s hs) (not_le.2 hlt)
  · rfl

/-- One round of the loop. -/
lemma Ahead.next {b : ReorderBuffer P} {start : ℤ} (h : b.Ahead start)
    (hmem : start ∈ b.pending.keys) :
    b.nextSeq = start ∧ Ahead { b with
      pending := b.pending.erase b.nextSeq, nextSeq := wrap (b.nextSeq + 1) } (start + 1) := by
  have hmax := h.le_max start hmem
  have hrange := h.range
  have hnext : b.nextSeq = start := h.nextSeq.trans (wrap_of_le hrange.1 hmax)
  refine ⟨hnext, by simp only [hnext], by omega, fun s hs => ?_, fun s hs => ?_⟩
  · obtain ⟨hne, hs⟩ := (Dict.mem_keys_erase _ _ _).1 hs
    exact lt_of_le_of_ne (h.le s hs) fun heq => hne (heq ▸ hnext.symm)
  · exact h.le_max s ((Dict.mem_keys_erase _ _ _).1 hs).2

/-- One round of the loop and what the rounds after it do. -/
lemma Drains.cons {b b' : ReorderBuffer P} {start stop n : ℤ} {out : List (ℤ × P)} {packet : P}
    (hget : b.pending.get? start = some packet)
    (hd : Drains { b with pending := b.pending.erase start, nextSeq := n } (start + 1) out b' stop) :
    Drains b start ((start, packet) :: out) b' stop := by
  have hle := hd.le
  refine ⟨?_, fun s => ?_, fun e he => ?_, fun s => ?_, ?_, by omega, hd.nextSeq, fun hmem => ?_,
    hd.timeoutMs, hd.capacity, hd.deadline⟩
  · rw [List.map_cons, List.pairwise_cons]
    refine ⟨fun s hs => ?_, hd.sorted⟩
    have hfrom := ((hd.mem_iff s).1 hs).1
    omega
  · rw [List.map_cons, List.mem_cons, hd.mem_iff]
    simp only
    omega
  · rcases List.mem_cons.1 he with rfl | he
    · exact hget
    · have hpacket := hd.packets e he
      rw [Dict.get?_erase] at hpacket
      split_ifs at hpacket
      exact hpacket
  · rw [hd.get?]
    split_ifs with hlt
    · rfl
    · exact Dict.get?_erase_of_ne _ (by omega)
  · have hperm := (b.pending.entries_perm_erase hget).length_eq
    have hsize := hd.size
    simp only [Dict.size, List.length_cons] at hperm hsize ⊢
    omega
  · exact hd.stops ((Dict.mem_keys_erase _ _ _).2 ⟨by omega, hmem⟩)

lemma drainLoop_drains {b : ReorderBuffer P} {start : ℤ} (h : b.Ahead start) {fuel : ℕ}
    (hfuel : b.pending.size ≤ fuel) :
    ∃ stop, Drains b start (drainLoop fuel b).1 (drainLoop fuel b).2 stop := by
  induction fuel generalizing b start with
  | zero =>
    have hnone := Dict.get?_of_size_eq_zero (Nat.le_zero.1 hfuel) start
    exact ⟨start, h.drains_nil ((Dict.get?_eq_none_iff _ _).1 hnone)⟩
  | succ fuel ih =>
    rw [drainLoop]
    by_cases hmem : start ∈ b.pending.keys
    · obtain ⟨hnext, hahead⟩ := h.next hmem
      obtain ⟨packet, hget⟩ := (Dict.mem_keys_iff _ _).1 hmem
      have hperm := (b.pending.entries_perm_erase hget).length_eq
      have hsize : (b.pending.erase start).size ≤ fuel := by
        simp only [Dict.size, List.length_cons] at hperm hfuel ⊢
        omega
      simp only [hnext, hget] at hahead ⊢
      obtain ⟨stop, hd⟩ := ih hahead hsize
      exact ⟨stop, hd.cons hget⟩
    · have hnone : b.pending.get? b.nextSeq = none := by
        refine (Dict.get?_eq_none_iff _ _).2 fun hmem' => ?_
        have hle := h.le _ hmem'
        have hle' := h.le_max _ hmem'
        have hwrap : wrap start = start := wrap_of_le h.range.1 (by omega)
        rw [h.nextSeq, hwrap] at hmem'
        exact hmem hmem'
      rw [hnone]
      exact ⟨start, h.drains_nil hmem⟩

lemma drainContiguous_drains {b : ReorderBuffer P} {start : ℤ} (h : b.Ahead start) :
    ∃ stop, Drains b start b.drainContiguous.1 b.drainContiguous.2 stop :=
  drainLoop_drains h le_rfl

lemma drainContiguous_of_get?_eq_none {b : ReorderBuffer P} (h : b.pending.get? b.nextSeq = none) :
    b.drainContiguous = ([], b) := by
  rw [drainContiguous]
  cases b.pending.size with
  | zero => rfl
  | succ fuel => rw [drainLoop, h]

lemma drainContiguous_ne_nil {b : ReorderBuffer P} {packet : P}
    (h : b.pending.get? b.nextSeq = some packet) : b.drainContiguous.1 ≠ [] := by
  rw [drainContiguous]
  cases hsize : b.pending.size with
  | zero => rw [Dict.get?_of_size_eq_zero hsize] at h; exact absurd h (by simp)
  | succ fuel => simp [drainLoop, h]

/-! ### What a call does -/

/-- The least of the numbers held. -/
def Least (b : ReorderBuffer P) (first : ℤ) : Prop :=
  first ∈ b.pending.keys ∧ ∀ s ∈ b.pending.keys, first ≤ s

lemma exists_least {b : ReorderBuffer P} (h : b.pending.size ≠ 0) : ∃ first, b.Least first := by
  have hne : b.pending.keys ≠ [] := fun hnil => h (by rw [← Dict.length_keys, hnil, List.length_nil])
  cases hmin : b.pending.keys.min? with
  | none => exact absurd (List.min?_eq_none_iff.1 hmin) hne
  | some first => exact ⟨first, List.min?_eq_some_iff.1 hmin⟩

lemma with_nextSeq {b : ReorderBuffer P} {n : ℤ} (h : b.nextSeq = n) : { b with nextSeq := n } = b := by
  subst h
  rfl

/-- All that can be released from a number on comes out, and the wait starts again. -/
def release (b : ReorderBuffer P) (first now : ℤ) : List (ℤ × P) × ReorderBuffer P :=
  let (out, b) := { b with nextSeq := first }.drainContiguous
  (out, b.wait now)

lemma flushOldest_eq {b : ReorderBuffer P} {first : ℤ} (h : b.Least first) (now : ℤ) :
    b.flushOldest now = .ok (b.release first now) := by
  rw [flushOldest, firstKey, List.min?_eq_some_iff.2 h]
  rfl

@[simp] lemma opened_pending (b : ReorderBuffer P) (seq now : ℤ) :
    (b.opened seq now).pending = b.pending := by
  rw [opened]
  split_ifs
  · rfl
  · rfl

@[simp] lemma opened_capacity (b : ReorderBuffer P) (seq now : ℤ) :
    (b.opened seq now).capacity = b.capacity := by
  rw [opened]
  split_ifs
  · rfl
  · rfl

@[simp] lemma opened_timeoutMs (b : ReorderBuffer P) (seq now : ℤ) :
    (b.opened seq now).timeoutMs = b.timeoutMs := by
  rw [opened]
  split_ifs
  · rfl
  · rfl

@[simp] lemma put_nextSeq (b : ReorderBuffer P) (seq : ℤ) (packet : P) (now : ℤ) :
    (b.put seq packet now).nextSeq = b.nextSeq := by
  rw [put]
  split_ifs
  · rfl
  · rfl

@[simp] lemma put_pending (b : ReorderBuffer P) (seq : ℤ) (packet : P) (now : ℤ) :
    (b.put seq packet now).pending = b.pending.set seq packet := by
  rw [put]
  split_ifs
  · rfl
  · rfl

@[simp] lemma put_capacity (b : ReorderBuffer P) (seq : ℤ) (packet : P) (now : ℤ) :
    (b.put seq packet now).capacity = b.capacity := by
  rw [put]
  split_ifs
  · rfl
  · rfl

@[simp] lemma put_timeoutMs (b : ReorderBuffer P) (seq : ℤ) (packet : P) (now : ℤ) :
    (b.put seq packet now).timeoutMs = b.timeoutMs := by
  rw [put]
  split_ifs
  · rfl
  · rfl

lemma put_deadline (b : ReorderBuffer P) (seq : ℤ) (packet : P) (now : ℤ) :
    (b.put seq packet now).deadline =
      if (b.pending.set seq packet).size = 1 then wrap (now + b.timeoutMs) else b.deadline := by
  rw [put]
  split_ifs
  · rfl
  · rfl

lemma mem_keys_put {b : ReorderBuffer P} {seq s : ℤ} {packet : P} {now : ℤ} :
    s ∈ (b.put seq packet now).pending.keys ↔ s = seq ∨ s ∈ b.pending.keys := by
  rw [put_pending]
  exact Dict.mem_keys_set _ _ _ _

lemma size_put_ne_zero (b : ReorderBuffer P) (seq : ℤ) (packet : P) (now : ℤ) :
    (b.put seq packet now).pending.size ≠ 0 := by
  intro h
  have hmem : seq ∈ (b.put seq packet now).pending.keys := mem_keys_put.2 (Or.inl rfl)
  rw [← Dict.length_keys, List.length_eq_zero_iff] at h
  exact absurd (h ▸ hmem) List.not_mem_nil

/-- `push`, of a packet that is not late: everything from the oldest packet on is released if
nothing is missing before the new one, if the buffer is full, or if the wait is over. -/
lemma push_of_le {b : ReorderBuffer P} {seq now first : ℤ} {packet : P}
    (hle : (b.opened seq now).nextSeq ≤ seq)
    (hahead : ∀ s ∈ b.pending.keys, (b.opened seq now).nextSeq < s)
    (hleast : ((b.opened seq now).put seq packet now).Least first) :
    let held := (b.opened seq now).put seq packet now
    b.push seq packet now =
      if seq = held.nextSeq ∨ held.capacity ≤ held.pending.size ∨ held.deadline ≤ now then
        .ok (held.release first now)
      else .ok ([], held) := by
  simp only [push, not_lt.2 hle, if_false, put_nextSeq]
  by_cases hseq : seq = (b.opened seq now).nextSeq
  · have hmem := (Dict.mem_keys_iff _ _).1 (mem_keys_put.2 (Or.inl rfl) :
      seq ∈ ((b.opened seq now).put seq packet now).pending.keys)
    obtain ⟨packet', hget⟩ := hmem
    have hfirst : first = seq := by
      refine le_antisymm (hleast.2 seq (mem_keys_put.2 (Or.inl rfl))) ?_
      rcases mem_keys_put.1 hleast.1 with heq | hmem
      · exact heq.ge
      · rw [opened_pending] at hmem
        exact hseq ▸ (hahead first hmem).le
    have hnext : ((b.opened seq now).put seq packet now).nextSeq = seq := by
      rw [put_nextSeq, ← hseq]
    rw [if_pos (drainContiguous_ne_nil (by rw [hnext]; exact hget)), if_pos (Or.inl hseq), release,
      hfirst]
    rw [with_nextSeq hnext]
  · have hnone : ((b.opened seq now).put seq packet now).pending.get?
        ((b.opened seq now).put seq packet now).nextSeq = none := by
      refine (Dict.get?_eq_none_iff _ _).2 fun hmem => ?_
      rw [put_nextSeq] at hmem
      rcases mem_keys_put.1 hmem with heq | hmem
      · exact hseq heq.symm
      · rw [opened_pending] at hmem
        exact absurd (hahead _ hmem) (lt_irrefl _)
    simp only [drainContiguous_of_get?_eq_none hnone, ne_eq, not_true_eq_false, if_false, hseq,
      false_or, flushOldest_eq hleast]
    by_cases hfull : ((b.opened seq now).put seq packet now).capacity ≤
        ((b.opened seq now).put seq packet now).pending.size
    · simp only [hfull, if_true, true_or]
    · simp only [hfull, if_false, false_or]

/-! ### The buffer between calls -/

/-- What holds between calls: no number is held that has been passed, and none before the stream has
a start. -/
structure Tidy (b : ReorderBuffer P) : Prop where
  range : -2 ^ 63 ≤ b.nextSeq ∧ b.nextSeq ≤ maxLong
  fresh : b.nextSeq < 0 → b.pending.keys = []
  lt : ∀ s ∈ b.pending.keys, b.nextSeq < s
  le_max : ∀ s ∈ b.pending.keys, s ≤ maxLong

/-- What holds within a call, once its packet is in the map. -/
structure Within (b : ReorderBuffer P) : Prop where
  range : -2 ^ 63 ≤ b.nextSeq ∧ b.nextSeq ≤ maxLong
  alone : b.nextSeq < 0 → ∀ s ∈ b.pending.keys, s = b.nextSeq
  le : ∀ s ∈ b.pending.keys, b.nextSeq ≤ s
  le_max : ∀ s ∈ b.pending.keys, s ≤ maxLong

/-- The number of a call, if it has one, is a `Long`. -/
def Op.IsLong : Op P → Prop
  | .push seq _ _ => -2 ^ 63 ≤ seq ∧ seq ≤ maxLong
  | .tick _ => True

lemma tidy_new (timeoutMs capacity : ℤ) : (new timeoutMs capacity : ReorderBuffer P).Tidy :=
  ⟨by norm_num [new, maxLong], fun _ => rfl, by simp [new], by simp [new]⟩

/-- A release from the oldest packet on. -/
lemma Within.release_drains {b : ReorderBuffer P} {first : ℤ} (h : b.Within)
    (hfirst : b.Least first) (now : ℤ) :
    ∃ b' stop, Drains { b with nextSeq := first } first (b.release first now).1 b' stop ∧
      (b.release first now).2 = b'.wait now ∧ first < stop := by
  have hle := h.le first hfirst.1
  have hmax := h.le_max first hfirst.1
  have hrange := h.range
  have hahead : Ahead { b with nextSeq := first } first :=
    ⟨(wrap_of_le (by omega) hmax).symm, by omega, hfirst.2, h.le_max⟩
  obtain ⟨stop, hd⟩ := drainContiguous_drains hahead
  refine ⟨_, stop, hd, rfl, lt_of_le_of_ne hd.le.1 fun heq => hd.stops ?_⟩
  exact heq ▸ hfirst.1

/-- What a release leaves of the numbers held. -/
lemma Drains.mem_keys {b b' : ReorderBuffer P} {start stop : ℤ} {out : List (ℤ × P)}
    (hd : Drains b start out b' stop) (s : ℤ) :
    s ∈ b'.pending.keys ↔ stop < s ∧ s ∈ b.pending.keys := by
  rw [Dict.mem_keys_iff, hd.get?]
  constructor
  · rintro ⟨packet, hget⟩
    split_ifs at hget with hlt
    have hmem : s ∈ b.pending.keys := (Dict.mem_keys_iff _ _).2 ⟨packet, hget⟩
    exact ⟨lt_of_le_of_ne (not_lt.1 hlt) fun heq => hd.stops (heq ▸ hmem), hmem⟩
  · rintro ⟨hlt, hmem⟩
    rw [if_neg (not_lt.2 hlt.le)]
    exact (Dict.mem_keys_iff _ _).1 hmem

lemma Within.tidy_release {b : ReorderBuffer P} {first : ℤ} (h : b.Within)
    (hfirst : b.Least first) (now : ℤ) : (b.release first now).2.Tidy := by
  obtain ⟨b', stop, hd, hrelease, hlt⟩ := h.release_drains hfirst now
  rw [hrelease]
  have hkeys : ∀ s ∈ b'.pending.keys, stop < s ∧ s ∈ b.pending.keys := fun s hs =>
    (hd.mem_keys s).1 hs
  have hle := h.le first hfirst.1
  have hrange := h.range
  have hnext : ∀ s ∈ b'.pending.keys, b'.nextSeq = stop := by
    intro s hs
    obtain ⟨hlt', hmem⟩ := hkeys s hs
    have hmax := h.le_max s hmem
    rw [hd.nextSeq]
    exact wrap_of_le (by omega) (by omega)
  refine ⟨by rw [wait, hd.nextSeq]; exact wrap_range stop, fun hneg => ?_, fun s hs => ?_,
    fun s hs => h.le_max s (hkeys s hs).2⟩
  · refine List.eq_nil_iff_forall_not_mem.2 fun s hs => ?_
    have hneg' : b'.nextSeq < 0 := hneg
    have hstop := hnext s hs
    obtain ⟨hlt', hmem⟩ := hkeys s hs
    have halone := h.alone (by omega) s hmem
    have halone' := h.alone (by omega) first hfirst.1
    omega
  · have hstop := hnext s hs
    have hlt' := (hkeys s hs).1
    change b'.nextSeq < s
    omega

/-- The packet of a push is in the map. -/
lemma Tidy.put {b : ReorderBuffer P} (h : b.Tidy) {seq : ℤ}
    (hseq : -2 ^ 63 ≤ seq ∧ seq ≤ maxLong) (packet : P) (now : ℤ)
    (hle : (b.opened seq now).nextSeq ≤ seq) :
    (∀ s ∈ b.pending.keys, (b.opened seq now).nextSeq < s) ∧
      ((b.opened seq now).put seq packet now).Within := by
  by_cases hfresh : b.nextSeq < 0
  · have hnil := h.fresh hfresh
    have hnext : (b.opened seq now).nextSeq = seq := by rw [opened, if_pos hfresh]; rfl
    have hmem : ∀ s ∈ ((b.opened seq now).put seq packet now).pending.keys, s = seq := by
      intro s hs
      rcases mem_keys_put.1 hs with rfl | hs
      · rfl
      · rw [opened_pending, hnil] at hs
        exact absurd hs List.not_mem_nil
    refine ⟨fun s hs => absurd (hnil ▸ hs) List.not_mem_nil, ?_, ?_, ?_, ?_⟩
    · rw [put_nextSeq, hnext]
      exact hseq
    · intro _ s hs
      rw [put_nextSeq, hnext, hmem s hs]
    · intro s hs
      rw [put_nextSeq, hnext, hmem s hs]
    · intro s hs
      rw [hmem s hs]
      exact hseq.2
  · have hsame : b.opened seq now = b := if_neg hfresh
    rw [hsame] at hle ⊢
    refine ⟨h.lt, ?_, ?_, ?_, ?_⟩
    · rw [put_nextSeq]
      exact h.range
    · intro hneg
      rw [put_nextSeq] at hneg
      exact absurd hneg hfresh
    · intro s hs
      rw [put_nextSeq]
      rcases mem_keys_put.1 hs with rfl | hs
      · exact hle
      · exact (h.lt s hs).le
    · intro s hs
      rcases mem_keys_put.1 hs with rfl | hs
      · exact hseq.2
      · exact h.le_max s hs

/-- What a push does between calls: its packet is late, or it is in the map and everything from the
oldest packet on is released, or it is held. -/
lemma Tidy.push_cases {b : ReorderBuffer P} (h : b.Tidy) {seq : ℤ}
    (hseq : -2 ^ 63 ≤ seq ∧ seq ≤ maxLong) (packet : P) (now : ℤ) :
    let held := (b.opened seq now).put seq packet now
    (0 ≤ b.nextSeq ∧ seq < b.nextSeq ∧ b.push seq packet now = .ok ([], b)) ∨
      (∃ first, (b.opened seq now).nextSeq ≤ seq ∧ held.Within ∧ held.Least first ∧
        (seq = held.nextSeq ∨ held.capacity ≤ held.pending.size ∨ held.deadline ≤ now) ∧
        b.push seq packet now = .ok (held.release first now)) ∨
      (0 ≤ b.nextSeq ∧ b.nextSeq < seq ∧ held.Tidy ∧ held.pending.size < held.capacity ∧
        now < held.deadline ∧ b.push seq packet now = .ok ([], held)) := by
  intro held
  by_cases hle : (b.opened seq now).nextSeq ≤ seq
  · obtain ⟨hahead, hwithin⟩ := h.put hseq packet now hle
    obtain ⟨first, hfirst⟩ := exists_least (size_put_ne_zero (b.opened seq now) seq packet now)
    have hpush := push_of_le hle hahead hfirst
    by_cases hrelease : seq = held.nextSeq ∨ held.capacity ≤ held.pending.size ∨ held.deadline ≤ now
    · exact Or.inr (Or.inl ⟨first, hle, hwithin, hfirst, hrelease, hpush.trans (if_pos hrelease)⟩)
    · have heq := hpush.trans (if_neg hrelease)
      rw [not_or, not_or, not_le, not_le] at hrelease
      obtain ⟨hne, hroom, hwait⟩ := hrelease
      rw [put_nextSeq] at hne
      have hold : 0 ≤ b.nextSeq := by
        by_contra hneg
        exact hne (by rw [opened, if_pos (not_le.1 hneg)]; rfl)
      have hsame : b.opened seq now = b := if_neg (not_lt.2 hold)
      have hlt : b.nextSeq < seq := lt_of_le_of_ne (hsame ▸ hle) fun heq => hne (hsame.symm ▸ heq.symm)
      refine Or.inr (Or.inr ⟨hold, hlt, ⟨hwithin.range, fun hneg => ?_, fun s hs => ?_,
        hwithin.le_max⟩, hroom, hwait, heq⟩)
      · rw [put_nextSeq, hsame] at hneg
        exact absurd hold (not_le.2 hneg)
      · rw [put_nextSeq, hsame]
        rcases mem_keys_put.1 hs with rfl | hs
        · exact hlt
        · exact h.lt s (hsame ▸ hs)
  · refine Or.inl ?_
    have hold : 0 ≤ b.nextSeq := by
      by_contra hneg
      exact hle (by rw [opened, if_pos (not_le.1 hneg)]; exact le_rfl)
    have hsame : b.opened seq now = b := if_neg (not_lt.2 hold)
    rw [hsame] at hle
    refine ⟨hold, not_le.1 hle, ?_⟩
    rw [push, hsame, if_pos (not_le.1 hle)]

/-- What a tick does between calls. -/
lemma Tidy.tick_cases {b : ReorderBuffer P} (h : b.Tidy) (now : ℤ) :
    ((b.pending.size = 0 ∨ now < b.deadline) ∧ b.tick now = .ok ([], b)) ∨
      ∃ first, b.Within ∧ b.Least first ∧ b.deadline ≤ now ∧
        b.tick now = .ok (b.release first now) := by
  by_cases hwait : b.pending.size = 0 ∨ now < b.deadline
  · exact Or.inl ⟨hwait, if_pos hwait⟩
  · obtain ⟨hne, hdue⟩ := not_or.1 hwait
    obtain ⟨first, hfirst⟩ := exists_least hne
    refine Or.inr ⟨first, ⟨h.range, fun hneg s hs => ?_, fun s hs => (h.lt s hs).le, h.le_max⟩,
      hfirst, not_lt.1 hdue, ?_⟩
    · exact absurd (h.fresh hneg ▸ hs) List.not_mem_nil
    · rw [tick, if_neg hwait, flushOldest_eq hfirst]

/-! ### Runs -/

/-- What a call returns, and the buffer it leaves. -/
def step (b : ReorderBuffer P) (op : Op P) : List (ℤ × P) × ReorderBuffer P :=
  match b.call op with
  | .ok r => r
  | .error _ => ([], b)

def run (ops : List (Op P)) (b : ReorderBuffer P) : List (ℤ × P) × ReorderBuffer P :=
  Machine.run step ops b

lemma step_push {b : ReorderBuffer P} {seq now : ℤ} {packet : P}
    {r : List (ℤ × P) × ReorderBuffer P} (h : b.push seq packet now = .ok r) :
    b.step (.push seq packet now) = r := by
  rw [step, call, h]

lemma step_tick {b : ReorderBuffer P} {now : ℤ} {r : List (ℤ × P) × ReorderBuffer P}
    (h : b.tick now = .ok r) : b.step (.tick now) = r := by
  rw [step, call, h]

lemma run_concat (ops : List (Op P)) (op : Op P) (b : ReorderBuffer P) :
    run (ops ++ [op]) b =
      ((run ops b).1 ++ ((run ops b).2.step op).1, ((run ops b).2.step op).2) :=
  Machine.run_concat step ops op b

/-- No call throws, and what holds between calls keeps holding. -/
lemma Tidy.call {b : ReorderBuffer P} (h : b.Tidy) {op : Op P} (hop : op.IsLong) :
    b.call op = .ok (b.step op) ∧ (b.step op).2.Tidy := by
  cases op with
  | push seq packet now =>
    rcases h.push_cases hop packet now with ⟨-, -, heq⟩ | ⟨first, -, hwithin, hfirst, -, heq⟩ |
      ⟨-, -, htidy, -, -, heq⟩
    · rw [step_push heq]
      exact ⟨heq, h⟩
    · rw [step_push heq]
      exact ⟨heq, hwithin.tidy_release hfirst now⟩
    · rw [step_push heq]
      exact ⟨heq, htidy⟩
  | tick now =>
    rcases h.tick_cases now with ⟨-, heq⟩ | ⟨first, hwithin, hfirst, -, heq⟩
    · rw [step_tick heq]
      exact ⟨heq, h⟩
    · rw [step_tick heq]
      exact ⟨heq, hwithin.tidy_release hfirst now⟩

/-- The buffer's settings stay. -/
lemma Tidy.settings {b : ReorderBuffer P} (h : b.Tidy) {op : Op P} (hop : op.IsLong) :
    (b.step op).2.timeoutMs = b.timeoutMs ∧ (b.step op).2.capacity = b.capacity := by
  cases op with
  | push seq packet now =>
    rcases h.push_cases hop packet now with ⟨-, -, heq⟩ | ⟨first, -, hwithin, hfirst, -, heq⟩ |
      ⟨-, -, -, -, -, heq⟩
    · rw [step_push heq]
      exact ⟨rfl, rfl⟩
    · obtain ⟨b', stop, hd, hrelease, -⟩ := hwithin.release_drains hfirst now
      rw [step_push heq, hrelease]
      exact ⟨hd.timeoutMs.trans (by simp), hd.capacity.trans (by simp)⟩
    · rw [step_push heq]
      exact ⟨by simp, by simp⟩
  | tick now =>
    rcases h.tick_cases now with ⟨-, heq⟩ | ⟨first, hwithin, hfirst, -, heq⟩
    · rw [step_tick heq]
      exact ⟨rfl, rfl⟩
    · obtain ⟨b', stop, hd, hrelease, -⟩ := hwithin.release_drains hfirst now
      rw [step_tick heq, hrelease]
      exact ⟨hd.timeoutMs, hd.capacity⟩

/-- A run throws nothing, keeps what holds between calls, and keeps the settings. -/
lemma Tidy.run {b : ReorderBuffer P} (h : b.Tidy) {ops : List (Op P)}
    (hops : ∀ op ∈ ops, op.IsLong) :
    calls ops b = .ok (run ops b) ∧ (run ops b).2.Tidy ∧
      (run ops b).2.timeoutMs = b.timeoutMs ∧ (run ops b).2.capacity = b.capacity := by
  induction ops generalizing b with
  | nil => exact ⟨rfl, h, rfl, rfl⟩
  | cons op ops ih =>
    obtain ⟨heq, htidy⟩ := h.call (hops op List.mem_cons_self)
    obtain ⟨htimeout, hcapacity⟩ := h.settings (hops op List.mem_cons_self)
    obtain ⟨heq', htidy', htimeout', hcapacity'⟩ :=
      ih htidy fun op' hop' => hops op' (List.mem_cons_of_mem _ hop')
    refine ⟨?_, htidy', htimeout'.trans htimeout, hcapacity'.trans hcapacity⟩
    rw [calls, heq]
    change (do
      let (out', b') ← calls ops (b.step op).2
      return ((b.step op).1 ++ out', b')) = _
    rw [heq']
    rfl

end ReorderBuffer

end Turbobond.Android
