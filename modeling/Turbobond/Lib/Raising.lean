import Mathlib.Data.List.Basic

/-!
# Computations that may raise and keep a log

A computation runs on a state that holds a log; it returns, or it raises an exception, and what it has
done to the state by then stays.  `ReturnsIff` says exactly when it returns, and what it has appended
to the log by then.  There is one rule for each way to build a computation, so the condition of a
whole program is put together from those of its parts.
-/

namespace Turbobond

variable {ε σ ρ α β : Type}

/-- A call that ends with an exception which is suppressed has no value. -/
def suppress (handles : ε → Bool) : Except ε α → Except ε (Option α)
  | .ok a => .ok (some a)
  | .error e => if handles e then .ok none else .error e

/-- A call raises nothing but such exceptions. -/
def RaisesOnly (handles : ε → Bool) (call : Except ε α) : Prop :=
  ∀ e, call = .error e → handles e = true

/-- A call returns. -/
def Returns (call : Except ε α) : Prop := ∃ a, call = .ok a

lemma returns_suppress_iff {handles : ε → Bool} {call : Except ε α} :
    Returns (suppress handles call) ↔ RaisesOnly handles call := by
  cases call with
  | ok a => simp [suppress, Returns, RaisesOnly]
  | error e =>
    by_cases h : handles e = true
    · simp [suppress, Returns, RaisesOnly, h]
    · simp [suppress, Returns, RaisesOnly, h]

/-- What becomes of a call in a computation. -/
def call (outcome : Except ε α) : EStateM ε σ α := fun s =>
  match outcome with
  | .ok a => .ok a s
  | .error e => .error e s

/-- A computation as a call of another one. -/
def outcome (x : EStateM ε σ α) (s : σ) : Except ε α :=
  match x.run s with
  | .ok a _ => .ok a
  | .error e _ => .error e

/-- From every state, a computation returns if and only if the condition holds; then it has appended
the entries to the log. -/
structure ReturnsIff (log : σ → List ρ) (x : EStateM ε σ α) (c : Prop) (entries : List ρ) : Prop where
  returns : c → ∀ s, ∃ a s', x.run s = .ok a s' ∧ log s' = log s ++ entries
  raises : ¬ c → ∀ s, ∃ e s', x.run s = .error e s'

namespace ReturnsIff

variable {log : σ → List ρ} {x : EStateM ε σ α} {f : α → EStateM ε σ β} {c d : Prop}
  {entries entries' : List ρ}

lemma congr (h : ReturnsIff log x c entries) (hiff : c ↔ d) : ReturnsIff log x d entries :=
  propext hiff ▸ h

lemma pure (a : α) : ReturnsIff log (Pure.pure a : EStateM ε σ α) True [] where
  returns _ s := ⟨a, s, by simp⟩
  raises h := absurd trivial h

lemma throw (e : ε) : ReturnsIff log (MonadExcept.throw e : EStateM ε σ α) False entries where
  returns h := h.elim
  raises _ s := ⟨e, s, rfl⟩

/-- An update of the state that appends to the log. -/
lemma modify {g : σ → σ} (h : ∀ s, log (g s) = log s ++ entries) :
    ReturnsIff log (modify g : EStateM ε σ PUnit) True entries where
  returns _ s := ⟨⟨⟩, g s, by simp, h s⟩
  raises h := absurd trivial h

lemma call (outcome : Except ε α) :
    ReturnsIff log (call outcome : EStateM ε σ α) (Returns outcome) [] where
  returns h s := by
    obtain ⟨a, rfl⟩ := h
    exact ⟨a, s, rfl, by simp⟩
  raises h s := by
    cases outcome with
    | ok a => exact absurd ⟨a, rfl⟩ h
    | error e => exact ⟨e, s, rfl⟩

/-- One computation after the other, where the second one does as well whatever the first returns. -/
lemma bind (hx : ReturnsIff log x c entries) (hf : ∀ a, ReturnsIff log (f a) d entries') :
    ReturnsIff log (x >>= f) (c ∧ d) (entries ++ entries') where
  returns := by
    rintro ⟨hc, hd⟩ s
    obtain ⟨a, s₁, hrun, hlog⟩ := hx.returns hc s
    obtain ⟨b, s₂, hrun', hlog'⟩ := (hf a).returns hd s₁
    refine ⟨b, s₂, ?_, ?_⟩
    · simp [hrun, hrun']
    · rw [hlog', hlog, List.append_assoc]
  raises h s := by
    by_cases hc : c
    · obtain ⟨a, s₁, hrun, -⟩ := hx.returns hc s
      obtain ⟨e, s₂, hrun'⟩ := (hf a).raises (fun hd => h ⟨hc, hd⟩) s₁
      exact ⟨e, s₂, by simp [hrun, hrun']⟩
    · obtain ⟨e, s₁, hrun⟩ := hx.raises hc s
      exact ⟨e, s₁, by simp [hrun]⟩

/-- What comes first appends nothing. -/
lemma bind_nil (hx : ReturnsIff log x c []) (hf : ∀ a, ReturnsIff log (f a) d entries) :
    ReturnsIff log (x >>= f) (c ∧ d) entries :=
  hx.bind hf

/-- What comes first may append something, and then the computation raises. -/
lemma bind_throw (hx : ReturnsIff log x c entries) (e : ε) :
    ReturnsIff log (x >>= fun _ => MonadExcept.throw e : EStateM ε σ β) False entries' :=
  have h : ReturnsIff log (x >>= fun _ => MonadExcept.throw e : EStateM ε σ β) (c ∧ False)
      (entries ++ []) := hx.bind fun _ => .throw e
  { returns := False.elim, raises := fun _ => h.raises fun hfalse => hfalse.2 }

/-- A call whose value the rest depends on. -/
lemma call_bind {outcome : Except ε α} {c : α → Prop}
    (hf : ∀ a, ReturnsIff log (f a) (c a) entries) :
    ReturnsIff log (Turbobond.call outcome >>= f) (∃ a, outcome = .ok a ∧ c a) entries where
  returns := by
    rintro ⟨a, rfl, hc⟩ s
    obtain ⟨b, s', hrun, hlog⟩ := (hf a).returns hc s
    exact ⟨b, s', hrun, hlog⟩
  raises h s := by
    cases outcome with
    | ok a =>
      obtain ⟨e, s', hrun⟩ := (hf a).raises (fun hc => h ⟨a, rfl, hc⟩) s
      exact ⟨e, s', hrun⟩
    | error e => exact ⟨e, s, rfl⟩

lemma ite {b : Prop} {_ : Decidable b} {y : EStateM ε σ α} (hx : b → ReturnsIff log x c entries)
    (hy : ¬ b → ReturnsIff log y d entries) :
    ReturnsIff log (if b then x else y) ((b → c) ∧ (¬ b → d)) entries := by
  by_cases hb : b
  · rw [if_pos hb]
    exact (hx hb).congr ⟨fun h => ⟨fun _ => h, absurd hb⟩, fun h => h.1 hb⟩
  · rw [if_neg hb]
    exact (hy hb).congr ⟨fun h => ⟨fun h' => absurd h' hb, fun _ => h⟩, fun h => h.2 hb⟩

end ReturnsIff

end Turbobond
