import Mathlib.Data.List.TakeWhile
import Mathlib.Logic.Function.Basic
import Mathlib.Tactic

/-!
# Traffic control

The queueing discipline at the root of a network device, and the `u32` filters attached to it.  The
filters are tried in the order of their priorities, and the first that matches names the band of a
packet; without one, a `prio` discipline goes by the priority that the packet has on the host.
-/

namespace Turbobond.TrafficControl

/-- What the filters read of an IPv4 packet, and its priority on the host. -/
structure Packet where
  tos : ℕ
  protocol : ℕ
  dport : ℕ
  priority : ℕ := 0
  deriving DecidableEq

inductive Field where
  | tos
  | protocol
  | dport
  deriving DecidableEq

namespace Field

def bits : Field → ℕ
  | .tos => 8
  | .protocol => 8
  | .dport => 16

def of (p : Packet) : Field → ℕ
  | .tos => p.tos
  | .protocol => p.protocol
  | .dport => p.dport

end Field

/-- A key of a `u32` filter: the field has the value, where the mask has a one. -/
structure Key where
  field : Field
  value : ℤ
  mask : ℕ
  deriving DecidableEq

namespace Key

def wellFormed (k : Key) : Bool := 0 ≤ k.value ∧ k.value < 2 ^ k.field.bits

lemma wellFormed_iff {k : Key} : k.wellFormed = true ↔ 0 ≤ k.value ∧ k.value < 2 ^ k.field.bits :=
  decide_eq_true_iff

def holds (k : Key) (p : Packet) : Bool := k.field.of p &&& k.mask = k.value.toNat &&& k.mask

lemma holds_iff {k : Key} {p : Packet} :
    k.holds p = true ↔ k.field.of p &&& k.mask = k.value.toNat &&& k.mask := decide_eq_true_iff

end Key

structure Filter where
  prio : ℕ
  keys : List Key
  /-- The minor number of `flowid`. -/
  flow : ℕ
  deriving DecidableEq

def Filter.matches (f : Filter) (p : Packet) : Bool := f.keys.all fun k => k.holds p

/-- A queueing discipline that was made by a command.  One that was not given a handle has one that no
command names. -/
structure Qdisc where
  handle : Option ℕ
  kind : String
  filters : List Filter := []
  deriving DecidableEq

/-- The bands that `prio` puts the priorities of the host in, unless it is told otherwise. -/
def priomap : List ℕ := [1, 2, 2, 2, 1, 2, 0, 0, 1, 1, 1, 1, 1, 1, 1, 1]

namespace Qdisc

def verdict (q : Qdisc) (p : Packet) : Option ℕ := (q.filters.find? fun f => f.matches p).map Filter.flow

/-- The band of a packet, where the discipline is a `prio` with three bands. -/
def band (q : Qdisc) (p : Packet) : ℕ :=
  match q.verdict p with
  | some flow => if 1 ≤ flow ∧ flow ≤ 3 then flow - 1 else priomap.getD 0 0
  | none => priomap.getD (p.priority % 16) 0

/-- A filter comes after those of its priority. -/
def add (q : Qdisc) (f : Filter) : Qdisc :=
  { q with filters := q.filters.takeWhile (fun g => g.prio ≤ f.prio) ++
      f :: q.filters.dropWhile fun g => g.prio ≤ f.prio }

end Qdisc

/-- The disciplines at the roots of the devices.  `none` is the kernel's own. -/
abbrev Devices := String → Option Qdisc

inductive Command where
  | replace (dev : String) (handle : Option ℕ) (kind : String)
  | del (dev : String)
  | add (dev : String) (parent : ℕ) (filter : Filter)
  deriving DecidableEq

/-- What the kernel, or `tc` itself, never accepts. -/
def refuses (d : Devices) : Command → Bool
  | .replace dev handle kind =>
    (d dev).any fun q => handle.isSome && q.handle = handle && q.kind ≠ kind
  | .del dev => (d dev).isNone
  | .add dev parent filter =>
    !((d dev).any fun q => q.handle = some parent) || !(filter.keys.all fun k => k.wellFormed)

/-- What a command does.  To replace a discipline by one of its kind only changes its parameters. -/
def exec (d : Devices) : Command → Devices
  | .replace dev handle kind =>
    match d dev with
    | some q =>
      if q.kind = kind ∧ (handle = none ∨ handle = q.handle) then d
      else Function.update d dev (some { handle, kind })
    | none => Function.update d dev (some { handle, kind })
  | .del dev => Function.update d dev none
  | .add dev _ filter => Function.update d dev ((d dev).map fun q => q.add filter)

/-- A command, which may fail in any case: whether it succeeds, and the devices after it. -/
def attempt (possible : Bool) (d : Devices) (c : Command) : Bool × Devices :=
  if possible && !refuses d c then (true, exec d c) else (false, d)

def Command.dev : Command → String
  | .replace dev _ _ => dev
  | .del dev => dev
  | .add dev _ _ => dev

/-! ### One command -/

variable {d : Devices} {dev dev' : String} {q : Qdisc}

lemma attempt_of_ne {c : Command} (h : dev' ≠ c.dev) (possible : Bool) :
    (attempt possible d c).2 dev' = d dev' := by
  have hexec : exec d c dev' = d dev' := by
    cases c with
    | replace dev handle kind =>
      cases hq : d dev with
      | none =>
        rw [exec, hq]
        exact Function.update_of_ne h _ _
      | some q =>
        rw [exec, hq]
        simp only
        split_ifs
        · rfl
        · exact Function.update_of_ne h _ _
    | del dev => exact Function.update_of_ne h _ _
    | add dev parent f => exact Function.update_of_ne h _ _
  rw [attempt]
  split
  · exact hexec
  · rfl

lemma attempt_add_of_wellFormed {parent : ℕ} (hq : d dev = some q) (hhandle : q.handle = some parent)
    {f : Filter} (hf : f.keys.all (fun k => k.wellFormed) = true) :
    attempt true d (.add dev parent f) = (true, Function.update d dev (some (q.add f))) := by
  have hrefuses : refuses d (.add dev parent f) = false := by simp [refuses, hq, hhandle, hf]
  simp [attempt, hrefuses, exec, hq]

/-- A filter is added where it is well formed. -/
lemma attempt_add {parent : ℕ} (hq : d dev = some q) (hhandle : q.handle = some parent)
    (possible : Bool) (f : Filter) :
    (attempt possible d (.add dev parent f)).2 dev =
      some (if possible && f.keys.all fun k => k.wellFormed then q.add f else q) := by
  have hrefuses : refuses d (.add dev parent f) = !f.keys.all fun k => k.wellFormed := by
    simp [refuses, hq, hhandle]
  rw [attempt, hrefuses, Bool.not_not]
  split
  · simp [exec, hq]
  · exact hq

/-- A discipline of another kind, or under another handle, takes the place of the one there. -/
lemma attempt_replace {handle : Option ℕ} {kind : String} (h : ∀ q, d dev = some q →
      (handle = none ∨ q.handle ≠ handle) ∧ (q.kind ≠ kind ∨ handle ≠ none)) (possible : Bool) :
    attempt possible d (.replace dev handle kind) =
      if possible then (true, Function.update d dev (some { handle, kind })) else (false, d) := by
  have hrefuses : refuses d (.replace dev handle kind) = false := by
    cases hq : d dev with
    | none => simp [refuses, hq]
    | some q =>
      rcases (h q hq).1 with rfl | hne
      · simp [refuses, hq]
      · simp [refuses, hq, hne]
  have hexec : exec d (.replace dev handle kind) = Function.update d dev (some { handle, kind }) := by
    rw [exec]
    split
    · rename_i q hq
      obtain ⟨hhandle, hkind⟩ := h q hq
      rw [if_neg]
      rintro ⟨rfl, heq⟩
      rcases hkind with hkind | hsome
      · exact hkind rfl
      · rcases heq with heq | rfl
        · exact hsome heq
        · exact hhandle.elim hsome fun hne => hne rfl
    · rfl
  rw [attempt, hrefuses, Bool.not_false, Bool.and_true, hexec]

/-- A discipline of the kind there, under its handle or none, leaves it as it is. -/
lemma attempt_replace_same {handle : Option ℕ} (hq : d dev = some q)
    (hhandle : handle = none ∨ handle = q.handle) (possible : Bool) :
    attempt possible d (.replace dev handle q.kind) = (possible, d) := by
  have hrefuses : refuses d (.replace dev handle q.kind) = false := by simp [refuses, hq]
  have hexec : exec d (.replace dev handle q.kind) = d := by simp [exec, hq, hhandle]
  rw [attempt, hrefuses, Bool.not_false, Bool.and_true, hexec]
  cases possible <;> rfl

/-! ### Filters in the order of their priorities -/

/-- The filters stand in the order of their priorities. -/
def Qdisc.Sorted (q : Qdisc) : Prop := q.filters.Pairwise fun f g => f.prio ≤ g.prio

lemma Qdisc.mem_add {f g : Filter} : g ∈ (q.add f).filters ↔ g = f ∨ g ∈ q.filters := by
  rw [add, List.mem_append, List.mem_cons, or_left_comm, ← List.mem_append,
    List.takeWhile_append_dropWhile]

lemma Qdisc.Sorted.add (h : q.Sorted) (f : Filter) : (q.add f).Sorted := by
  have hsplit := List.takeWhile_append_dropWhile (p := fun g : Filter => g.prio ≤ f.prio) (l := q.filters)
  rw [Sorted, ← hsplit, List.pairwise_append] at h
  obtain ⟨hbefore, hafter, hcross⟩ := h
  have hlow : ∀ g ∈ q.filters.takeWhile (fun g => g.prio ≤ f.prio), g.prio ≤ f.prio := fun g hg => by
    simpa using List.mem_takeWhile_imp hg
  -- the filters after it begin with one of a higher priority
  have hhigh : ∀ g ∈ q.filters.dropWhile (fun g => g.prio ≤ f.prio), f.prio ≤ g.prio := by
    intro g hg
    cases hdrop : q.filters.dropWhile fun g => g.prio ≤ f.prio with
    | nil =>
      rw [hdrop] at hg
      exact absurd hg List.not_mem_nil
    | cons a rest =>
      have hne : q.filters.dropWhile (fun g => g.prio ≤ f.prio) ≠ [] := by simp [hdrop]
      have hhead := List.head_dropWhile_not _ hne
      rw [hdrop] at hafter hg
      simp only [hdrop, List.head_cons, decide_eq_false_iff_not, not_le] at hhead
      rcases List.mem_cons.1 hg with rfl | hg
      · exact hhead.le
      · exact hhead.le.trans ((List.pairwise_cons.1 hafter).1 g hg)
  refine List.pairwise_append.2 ⟨hbefore, List.pairwise_cons.2 ⟨hhigh, hafter⟩, fun g hg g' hg' => ?_⟩
  rcases List.mem_cons.1 hg' with rfl | hg'
  · exact hlow g hg
  · exact hcross g hg g' hg'

/-- The filter that decides has no higher priority than any that matches. -/
lemma Qdisc.Sorted.find?_le (h : q.Sorted) {p : Packet} {f g : Filter}
    (hf : q.filters.find? (fun f => f.matches p) = some f) (hg : g ∈ q.filters)
    (hmatch : g.matches p = true) : f.prio ≤ g.prio := by
  obtain ⟨-, before, after, heq, hnone⟩ := List.find?_eq_some_iff_append.1 hf
  rw [Sorted, heq, List.pairwise_append, List.pairwise_cons] at h
  rw [heq, List.mem_append, List.mem_cons] at hg
  rcases hg with hg | rfl | hg
  · exact absurd hmatch (by simpa using hnone g hg)
  · exact le_rfl
  · exact h.2.1.1 g hg

end Turbobond.TrafficControl
