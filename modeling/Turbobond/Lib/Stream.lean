import Turbobond.Lib.Bytes
import Mathlib.Tactic.Lemma

/-!
# Talking over a stream

A program reads from a stream, which arrives in pieces, and writes to it; it may give up.  What it
makes of the stream does not depend on the pieces: `Realises` says when a program ends with a result,
and what it leaves to be read and has written by then, in terms of the bytes alone.  There is one rule
for each way to build a program.
-/

namespace Turbobond

/-- One end of a connection: the pieces that are still to be read, and what was written. -/
structure Conn where
  input : List Bytes
  output : Bytes := []

/-- A connection without its pieces. -/
@[ext]
structure Wire where
  rest : Bytes
  written : Bytes

def Conn.wire (c : Conn) : Wire := ⟨c.input.flatten, c.output⟩

/-- Read one byte; `none` at the end of the stream. -/
def readByte : List Bytes → Option UInt8 × List Bytes
  | [] => (none, [])
  | [] :: pieces => readByte pieces
  | (b :: piece) :: pieces => (some b, piece :: pieces)

/-- Read at least one byte and at most `n` of them, what there is of them in the next piece; `none`
at the end of the stream. -/
def readSome (n : ℕ) : List Bytes → Option Bytes × List Bytes
  | [] => (none, [])
  | [] :: pieces => readSome n pieces
  | piece :: pieces => (some (piece.take n), piece.drop n :: pieces)

lemma readByte_flatten (pieces : List Bytes) :
    match readByte pieces with
    | (none, rest) => pieces.flatten = [] ∧ rest.flatten = []
    | (some b, rest) => pieces.flatten = b :: rest.flatten := by
  induction pieces with
  | nil => exact ⟨rfl, rfl⟩
  | cons piece pieces ih =>
    cases piece with
    | nil => exact ih
    | cons b piece => simp [readByte]

lemma readSome_flatten {n : ℕ} (hn : 0 < n) (pieces : List Bytes) :
    match readSome n pieces with
    | (none, rest) => pieces.flatten = [] ∧ rest.flatten = []
    | (some got, rest) => pieces.flatten = got ++ rest.flatten ∧ 0 < got.length ∧ got.length ≤ n := by
  induction pieces with
  | nil => exact ⟨rfl, rfl⟩
  | cons piece pieces ih =>
    cases piece with
    | nil => exact ih
    | cons b piece =>
      refine ⟨?_, ?_, List.length_take_le ..⟩
      · rw [List.flatten_cons, List.flatten_cons, ← List.append_assoc, List.take_append_drop]
      · simp [hn]

/-- A program that talks over a connection. -/
abbrev Dialogue : Type → Type := OptionT (StateM Conn)

/-- Whatever the pieces, a program ends with exactly these results. -/
def Realises {α : Type} (x : Dialogue α) (R : Wire → α → Wire → Prop) : Prop :=
  ∀ c a w, (∃ c', x.run.run c = (some a, c') ∧ c'.wire = w) ↔ R c.wire a w

namespace Realises

variable {α β : Type} {x : Dialogue α} {f : α → Dialogue β} {R S : Wire → α → Wire → Prop}
  {T : α → Wire → β → Wire → Prop}

lemma congr (h : Realises x R) (hiff : ∀ v a w, R v a w ↔ S v a w) : Realises x S :=
  fun c a w => (h c a w).trans (hiff _ _ _)

/-- One step, by what it does to each connection. -/
lemma of_run (h : ∀ c, (∃ a c', x.run.run c = (some a, c') ∧
      ∀ b w, R c.wire b w ↔ a = b ∧ c'.wire = w) ∨
    (∃ c', x.run.run c = (none, c') ∧ ∀ b w, ¬ R c.wire b w)) : Realises x R := by
  intro c b w
  rcases h c with ⟨a, c₁, hrun, hR⟩ | ⟨c₁, hrun, hR⟩
  · rw [hrun, hR]
    constructor
    · rintro ⟨c', h, rfl⟩
      cases h
      exact ⟨rfl, rfl⟩
    · rintro ⟨rfl, rfl⟩
      exact ⟨c₁, rfl, rfl⟩
  · rw [hrun]
    constructor
    · rintro ⟨c', h, -⟩
      cases h
    · intro hb
      exact absurd hb (hR b w)

lemma pure (a : α) : Realises (Pure.pure a) fun v b w => b = a ∧ w = v := by
  intro c b w
  constructor
  · rintro ⟨c', h, rfl⟩
    cases h
    exact ⟨rfl, rfl⟩
  · rintro ⟨rfl, rfl⟩
    exact ⟨c, rfl, rfl⟩

lemma failure : Realises (failure : Dialogue α) fun _ _ _ => False := by
  intro c b w
  constructor
  · rintro ⟨c', h, -⟩
    cases h
  · exact False.elim

lemma bind (hx : Realises x R) (hf : ∀ a, Realises (f a) (T a)) :
    Realises (x >>= f) fun v b w => ∃ a u, R v a u ∧ T a u b w := by
  intro c b w
  have hrun : (x >>= f).run.run c = match x.run.run c with
      | (some a, c) => (f a).run.run c
      | (none, c) => (none, c) := by
    rw [OptionT.run_bind, Option.elimM, StateT.run_bind]
    rcases x.run.run c with ⟨_ | a, c'⟩
    · rfl
    · rfl
  rw [hrun]
  constructor
  · rintro ⟨c', h, hw⟩
    rcases hrun' : x.run.run c with ⟨_ | a, c₁⟩
    · rw [hrun'] at h
      cases h
    · rw [hrun'] at h
      exact ⟨a, c₁.wire, (hx c a _).1 ⟨c₁, hrun', rfl⟩, (hf a c₁ b w).1 ⟨c', h, hw⟩⟩
  · rintro ⟨a, u, hR, hT⟩
    obtain ⟨c₁, hrun', rfl⟩ := (hx c a u).2 hR
    rw [hrun']
    exact (hf a c₁ b w).2 hT

lemma ite {p : Prop} [Decidable p] {y : Dialogue α} (hx : p → Realises x R)
    (hy : ¬ p → Realises y S) :
    Realises (if p then x else y) fun v a w => (p ∧ R v a w) ∨ (¬ p ∧ S v a w) := by
  intro c a w
  by_cases hp : p
  · rw [if_pos hp, hx hp c a w]
    simp [hp]
  · rw [if_neg hp, hy hp c a w]
    simp [hp]

end Realises

end Turbobond
