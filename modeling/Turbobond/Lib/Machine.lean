import Mathlib.Data.List.Induction

/-!
# Machines

A machine takes events one at a time; each event puts out a list of effects and leaves a
state.  A run lists the effects of its events in order.  What is said of runs here follows
from what is said of one step, and the history of a run, everything put out before, may
appear in what is said.
-/

namespace Turbobond.Machine

variable {σ ε ω : Type} (step : σ → ε → List ω × σ)

/-- Perform a list of events: everything they put out, in order, and the last state. -/
def run : List ε → σ → List ω × σ
  | [], s => ([], s)
  | e :: es, s =>
    let (out, s) := step s e
    let (out', s) := run es s
    (out ++ out', s)

@[simp] lemma run_nil (s : σ) : run step [] s = ([], s) := rfl

lemma run_cons (e : ε) (es : List ε) (s : σ) :
    run step (e :: es) s =
      ((step s e).1 ++ (run step es (step s e).2).1, (run step es (step s e).2).2) := rfl

lemma run_append (es es' : List ε) (s : σ) :
    run step (es ++ es') s =
      ((run step es s).1 ++ (run step es' (run step es s).2).1,
        (run step es' (run step es s).2).2) := by
  induction es generalizing s with
  | nil => rfl
  | cons e es ih =>
    rw [List.cons_append, run_cons, run_cons, ih]
    simp only [List.append_assoc]

lemma run_concat (es : List ε) (e : ε) (s : σ) :
    run step (es ++ [e]) s =
      ((run step es s).1 ++ (step (run step es s).2 e).1, (step (run step es s).2 e).2) := by
  rw [run_append, run_cons, run_nil, List.append_nil]

/-- Every event of a run meets a condition, in the state and with the history it meets. -/
def Meets (C : σ → List ω → ε → Prop) : List ε → σ → List ω → Prop
  | [], _, _ => True
  | e :: es, s, hist => C s hist e ∧ Meets C es (step s e).2 (hist ++ (step s e).1)

instance Meets.decidable {C : σ → List ω → ε → Prop} [∀ s hist e, Decidable (C s hist e)] :
    ∀ (es : List ε) (s : σ) (hist : List ω), Decidable (Meets step C es s hist)
  | [], _, _ => inferInstanceAs (Decidable True)
  | e :: es, s, hist =>
    @instDecidableAnd _ _ _ (Meets.decidable es (step s e).2 (hist ++ (step s e).1))

lemma meets_append {C : σ → List ω → ε → Prop} (es es' : List ε) (s : σ) (hist : List ω) :
    Meets step C (es ++ es') s hist ↔
      Meets step C es s hist ∧ Meets step C es' (run step es s).2 (hist ++ (run step es s).1) := by
  induction es generalizing s hist with
  | nil => simp [Meets]
  | cons e es ih =>
    rw [List.cons_append, Meets, Meets, ih, run_cons, and_assoc, List.append_assoc]

lemma meets_concat {C : σ → List ω → ε → Prop} (es : List ε) (e : ε) (s : σ) (hist : List ω) :
    Meets step C (es ++ [e]) s hist ↔
      Meets step C es s hist ∧ C (run step es s).2 (hist ++ (run step es s).1) e := by
  rw [meets_append, Meets, Meets, and_true]

/-- Two conditions that agree are met by the same runs. -/
lemma meets_congr {C D : σ → List ω → ε → Prop} (h : ∀ s hist e, C s hist e ↔ D s hist e)
    (es : List ε) (s : σ) (hist : List ω) : Meets step C es s hist ↔ Meets step D es s hist := by
  induction es generalizing s hist with
  | nil => exact Iff.rfl
  | cons e es ih => exact and_congr (h s hist e) (ih _ _)

/-- What one step keeps, whenever its condition is met, a run keeps whose steps all meet
theirs. -/
theorem run_invariant_of_meets {C : σ → List ω → ε → Prop} {I : σ → List ω → Prop}
    (hstep : ∀ s hist e, I s hist → C s hist e → I (step s e).2 (hist ++ (step s e).1))
    (es : List ε) {s : σ} {hist : List ω} (h : I s hist) (hC : Meets step C es s hist) :
    I (run step es s).2 (hist ++ (run step es s).1) := by
  induction es generalizing s hist with
  | nil => simpa using h
  | cons e es ih =>
    rw [run_cons, ← List.append_assoc]
    exact ih (hstep s hist e h hC.1) hC.2

/-- Along a run whose steps meet a condition that keeps `I`, whatever follows from the two
is met as well. -/
theorem Meets.imp {C D : σ → List ω → ε → Prop} {I : σ → List ω → Prop}
    (hstep : ∀ s hist e, I s hist → C s hist e → I (step s e).2 (hist ++ (step s e).1))
    (hD : ∀ s hist e, I s hist → C s hist e → D s hist e)
    (es : List ε) {s : σ} {hist : List ω} (h : I s hist) (hC : Meets step C es s hist) :
    Meets step D es s hist := by
  induction es generalizing s hist with
  | nil => trivial
  | cons e es ih => exact ⟨hD s hist e h hC.1, ih (hstep s hist e h hC.1) hC.2⟩

/-- The same, of an invariant that speaks of the events so far as well. -/
theorem run_induction {C : σ → List ω → ε → Prop} {I : List ε → σ → List ω → Prop} {s : σ}
    (hstart : I [] s [])
    (hstep : ∀ es e s hist, I es s hist → C s hist e →
      I (es ++ [e]) (step s e).2 (hist ++ (step s e).1))
    (es : List ε) (hC : Meets step C es s []) : I es (run step es s).2 (run step es s).1 := by
  induction es using List.reverseRecOn with
  | nil => exact hstart
  | append_singleton es e ih =>
    obtain ⟨hes, he⟩ := (meets_concat step es e s []).1 hC
    rw [run_concat]
    exact hstep es e _ _ (ih hes) he

/-- What every step keeps, every run keeps. -/
theorem run_invariant {I : σ → List ω → Prop}
    (hstep : ∀ s hist e, I s hist → I (step s e).2 (hist ++ (step s e).1))
    (es : List ε) {s : σ} {hist : List ω} (h : I s hist) :
    I (run step es s).2 (hist ++ (run step es s).1) := by
  induction es generalizing s hist with
  | nil => simpa using h
  | cons e es ih =>
    rw [run_cons, ← List.append_assoc]
    exact ih (hstep s hist e h)

/-- What every step keeps, every run keeps that has nothing before it. -/
theorem run_invariant_nil {I : σ → List ω → Prop}
    (hstep : ∀ s hist e, I s hist → I (step s e).2 (hist ++ (step s e).1))
    (es : List ε) {s : σ} (h : I s []) : I (run step es s).2 (run step es s).1 :=
  run_invariant step hstep es h

/-- Where a step that meets a condition keeps `I`, and one that does not breaks `P`, which follows
from `I`, a run stays in `P` if and only if all its steps meet theirs. -/
theorem forall_prefix_iff_meets_of_invariant {C : σ → ε → Prop} {I P : σ → Prop}
    (hI : ∀ s, I s → P s) (hkeep : ∀ s e, I s → C s e → I (step s e).2)
    (hbreak : ∀ s e, I s → P (step s e).2 → C s e) (es : List ε) {s : σ} {hist : List ω} (h : I s) :
    (∀ pre, pre <+: es → P (run step pre s).2) ↔ Meets step (fun s _ e => C s e) es s hist := by
  induction es generalizing s hist with
  | nil =>
    refine iff_of_true (fun pre hpre => ?_) trivial
    rw [List.prefix_nil.1 hpre]
    exact hI s h
  | cons e es ih =>
    have hcons : (∀ pre, pre <+: e :: es → P (run step pre s).2) ↔
        ∀ pre, pre <+: es → P (run step pre (step s e).2).2 := by
      constructor
      · exact fun hall pre hpre => hall (e :: pre) ((List.prefix_cons_inj e).2 hpre)
      · intro hall pre hpre
        rcases List.prefix_cons_iff.1 hpre with rfl | ⟨rest, rfl, hrest⟩
        · exact hI s h
        · exact hall rest hrest
    rw [hcons, Meets]
    constructor
    · intro hall
      have hC := hbreak s e h (hall [] List.nil_prefix)
      exact ⟨hC, (ih (hkeep s e h hC)).1 hall⟩
    · exact fun hmeets => (ih (hkeep s e h hmeets.1)).2 hmeets.2

/-- Where a step keeps `P` if and only if it meets a condition, a run stays in `P` if and only if
all its steps meet theirs. -/
theorem forall_prefix_iff_meets {C : σ → ε → Prop} {P : σ → Prop}
    (hstep : ∀ s e, P s → (P (step s e).2 ↔ C s e)) (es : List ε) {s : σ} {hist : List ω} (h : P s) :
    (∀ pre, pre <+: es → P (run step pre s).2) ↔ Meets step (fun s _ e => C s e) es s hist :=
  forall_prefix_iff_meets_of_invariant step (fun _ => id) (fun s e hs => (hstep s e hs).2)
    (fun s e hs => (hstep s e hs).1) es h

/-- Where what a step puts out is all `P` if and only if the step meets a condition, what a run puts
out is all `P` if and only if all its steps meet theirs. -/
theorem forall_mem_run_iff_meets {C : σ → ε → Prop} {I : σ → Prop} {P : ω → Prop}
    (hkeep : ∀ s e, I s → I (step s e).2)
    (hstep : ∀ s e, I s → ((∀ o ∈ (step s e).1, P o) ↔ C s e)) (es : List ε) {s : σ}
    {hist : List ω} (h : I s) :
    (∀ o ∈ (run step es s).1, P o) ↔ Meets step (fun s _ e => C s e) es s hist := by
  induction es generalizing s hist with
  | nil => exact iff_of_true (fun o ho => absurd ho List.not_mem_nil) trivial
  | cons e es ih => rw [run_cons, List.forall_mem_append, hstep s e h, Meets, ih (hkeep s e h)]

/-! ### Histories -/

/-- Every entry of a history is warranted by the entries before it. -/
def Audited (P : List ω → ω → Prop) (history : List ω) : Prop :=
  ∀ before entry after, history = before ++ entry :: after → P before entry

variable {P : List ω → ω → Prop} {history more : List ω}

lemma audited_nil : Audited P [] := fun before entry after h => absurd h (by simp)

/-- A history goes on with entries that are warranted. -/
lemma Audited.append (h : Audited P history)
    (hmore : ∀ before entry after, more = before ++ entry :: after → P (history ++ before) entry) :
    Audited P (history ++ more) := by
  intro before entry after heq
  rcases List.append_eq_append_iff.1 heq with ⟨rest, rfl, hrest⟩ | ⟨rest, rfl, hrest⟩
  · exact hmore rest entry after hrest
  · cases rest with
    | nil => simpa using hmore [] entry after hrest.symm
    | cons first rest =>
      obtain ⟨rfl, rfl⟩ := List.cons.inj hrest
      exact h before entry rest rfl

lemma Audited.concat (h : Audited P history) {entry : ω} (hentry : P history entry) :
    Audited P (history ++ [entry]) := by
  refine h.append fun before entry' after heq => ?_
  cases before with
  | nil =>
    obtain ⟨rfl, -⟩ := List.cons.inj heq
    simpa using hentry
  | cons first before =>
    have hnil := (List.cons.inj heq).2
    exact absurd hnil (by simp)

end Turbobond.Machine
