import Mathlib.Data.List.Basic
import Mathlib.Logic.Function.Basic
import Mathlib.Tactic.Common

/-!
# Policy routing

A host keeps a list of rules, in the order of their priorities, and tables of routes.  A command adds
or deletes one rule, adds or replaces one route, or flushes a table; additions may be refused.

A program that installs rules and routes is undone by a list of commands that only delete and flush.
They bring the host back to what it was if every command that the program has issued either installs
what one of them takes away, or has changed nothing that was there before.
-/

namespace Turbobond

/-- Where a rule stands, and which rules a command that deletes one stands for. -/
class PolicyRule (ρ : Type) where
  priority : ρ → ℕ
  /-- What the first rule names, the second one has. -/
  selects : ρ → ρ → Bool

/-- A table holds one route for each key. -/
class KeyedRoute (π : Type) (κ : outParam Type) where
  key : π → κ

open PolicyRule (priority selects)
open KeyedRoute (key)

structure RouteHost (τ ρ π : Type) where
  rules : List ρ
  routes : τ → List π

inductive RouteCommand (τ ρ π : Type) where
  | addRule (r : ρ)
  /-- The first rule that is selected goes. -/
  | delRule (r : ρ)
  | addRoute (t : τ) (p : π)
  | replaceRoute (t : τ) (p : π)
  | flush (t : τ)
  deriving DecidableEq

variable {τ ρ π κ : Type}

/-- A rule comes after those of its priority. -/
def insertRule [PolicyRule ρ] (r : ρ) (rules : List ρ) : List ρ :=
  rules.takeWhile (fun q => priority q ≤ priority r) ++
    r :: rules.dropWhile fun q => priority q ≤ priority r

/-- A route takes the place of the one with its key, or comes last. -/
def replaceFirst [KeyedRoute π κ] [DecidableEq κ] (p : π) : List π → List π
  | [] => [p]
  | q :: routes => if key q = key p then p :: routes else q :: replaceFirst p routes

namespace RouteHost

variable [DecidableEq τ] [DecidableEq ρ] [PolicyRule ρ] [DecidableEq κ] [KeyedRoute π κ]

/-- One command: whether it succeeds, and the host after it. -/
def exec (accepts : RouteCommand τ ρ π → Bool) (h : RouteHost τ ρ π) :
    RouteCommand τ ρ π → Bool × RouteHost τ ρ π
  | .addRule r =>
    if accepts (.addRule r) && r ∉ h.rules then (true, { h with rules := insertRule r h.rules })
    else (false, h)
  | .delRule r => (h.rules.any (selects r), { h with rules := h.rules.eraseP (selects r) })
  | .addRoute t p =>
    if accepts (.addRoute t p) && (h.routes t).all fun q => key q ≠ key p then
      (true, { h with routes := Function.update h.routes t (h.routes t ++ [p]) })
    else (false, h)
  | .replaceRoute t p =>
    if accepts (.replaceRoute t p) then
      (true, { h with routes := Function.update h.routes t (replaceFirst p (h.routes t)) })
    else (false, h)
  | .flush t => (true, { h with routes := Function.update h.routes t [] })

/-- One command after the other, whether they succeed or not. -/
def execAll (accepts : RouteCommand τ ρ π → Bool) (cs : List (RouteCommand τ ρ π))
    (h : RouteHost τ ρ π) : RouteHost τ ρ π :=
  cs.foldl (fun h c => (h.exec accepts c).2) h

end RouteHost

/-! ### Lists of rules and of routes -/

section Lists

lemma filter_insertRule [PolicyRule ρ] {f : ρ → Bool} {r : ρ} (hr : f r = false) (rules : List ρ) :
    (insertRule r rules).filter f = rules.filter f := by
  rw [insertRule, List.filter_append, List.filter_cons_of_neg (by simp [hr]), ← List.filter_append,
    List.takeWhile_append_dropWhile]

lemma mem_insertRule [PolicyRule ρ] {r q : ρ} {rules : List ρ} :
    q ∈ insertRule r rules ↔ q = r ∨ q ∈ rules := by
  rw [insertRule, List.mem_append, List.mem_cons, or_left_comm, ← List.mem_append,
    List.takeWhile_append_dropWhile]

lemma countP_insertRule [PolicyRule ρ] (f : ρ → Bool) (r : ρ) (rules : List ρ) :
    (insertRule r rules).countP f = rules.countP f + if f r = true then 1 else 0 := by
  rw [insertRule, List.countP_append, List.countP_cons, ← Nat.add_assoc, ← List.countP_append,
    List.takeWhile_append_dropWhile]

lemma filter_eraseP {p f : ρ → Bool} {l : List ρ} (h : ∀ a ∈ l, p a = true → f a = false) :
    (l.eraseP p).filter f = l.filter f := by
  obtain heq | ⟨a, l₁, l₂, -, ha, rfl, heq⟩ := List.exists_or_eq_self_of_eraseP p l
  · rw [heq]
  · have hfa : f a = false := h a (by simp) ha
    rw [heq, List.filter_append, List.filter_append, List.filter_cons_of_neg (by simp [hfa])]

/-- Where at most one rule is selected, none is left once it has been deleted. -/
lemma countP_eraseP_self {p : ρ → Bool} {l : List ρ} (h : l.countP p ≤ 1) :
    (l.eraseP p).countP p = 0 := by
  obtain heq | ⟨a, l₁, l₂, -, ha, rfl, heq⟩ := List.exists_or_eq_self_of_eraseP p l
  · rw [heq, List.countP_eq_zero]
    exact List.eraseP_eq_self_iff.1 heq
  · rw [List.countP_append, List.countP_cons_of_pos ha] at h
    rw [heq, List.countP_append]
    omega

lemma replaceFirst_of_find? [KeyedRoute π κ] [DecidableEq κ] {p : π} {routes : List π}
    (h : routes.find? (fun q => key q = key p) = some p) : replaceFirst p routes = routes := by
  induction routes with
  | nil => simp at h
  | cons q routes ih =>
    rw [replaceFirst]
    by_cases hkey : key q = key p
    · rw [List.find?_cons_of_pos (by simp [hkey]), Option.some_inj] at h
      rw [if_pos hkey, h]
    · rw [List.find?_cons_of_neg (by simp [hkey])] at h
      rw [if_neg hkey, ih h]

/-- The route has the place of its key, and other keys keep theirs. -/
lemma find?_replaceFirst [KeyedRoute π κ] [DecidableEq κ] (p : π) (routes : List π) (k : κ) :
    (replaceFirst p routes).find? (fun q => key q = k) =
      if key p = k then some p else routes.find? fun q => key q = k := by
  induction routes with
  | nil => by_cases hk : key p = k <;> simp [replaceFirst, hk]
  | cons q routes ih =>
    rw [replaceFirst]
    by_cases hkey : key q = key p
    · rw [if_pos hkey]
      by_cases hk : key p = k
      · simp [hk]
      · simp [hk, hkey]
    · rw [if_neg hkey]
      by_cases hq : key q = k
      · have hk : key p ≠ k := fun h => hkey (hq.trans h.symm)
        simp [hq, hk]
      · rw [List.find?_cons_of_neg (by simp [hq]), ih, List.find?_cons_of_neg (by simp [hq])]

end Lists

/-! ### Undoing a program -/

namespace RouteCommand

/-- The command only takes away. -/
def IsRemoval : RouteCommand τ ρ π → Prop
  | .delRule _ | .flush _ => True
  | .addRule _ | .addRoute .. | .replaceRoute .. => False

variable [PolicyRule ρ] [DecidableEq κ] [KeyedRoute π κ]

/-- On the host as it was at first, a command either deals with what `undo` takes away, or changes
nothing. -/
def Harmless (undo : List (RouteCommand τ ρ π)) (h₀ : RouteHost τ ρ π)
    (accepts : RouteCommand τ ρ π → Bool) : RouteCommand τ ρ π → Prop
  | .addRule r => .delRule r ∈ undo ∨ accepts (.addRule r) = false ∨ r ∈ h₀.rules
  | .delRule r => ∀ q ∈ h₀.rules, selects r q = false
  | .addRoute t p =>
    .flush t ∈ undo ∨ accepts (.addRoute t p) = false ∨ ∃ q ∈ h₀.routes t, key q = key p
  | .replaceRoute t p =>
    .flush t ∈ undo ∨ accepts (.replaceRoute t p) = false ∨
      (h₀.routes t).find? (fun q => key q = key p) = some p
  | .flush t => .flush t ∈ undo ∨ h₀.routes t = []

end RouteCommand

namespace RouteHost

variable [PolicyRule ρ] [DecidableEq κ] [KeyedRoute π κ]

/-- The rule is one that `undo` deletes a rule like. -/
def selected (undo : List (RouteCommand τ ρ π)) (q : ρ) : Bool :=
  undo.any fun c => match c with
    | .delRule r => selects r q
    | _ => false

/-- A list of commands that only take away, and that name the rules they delete completely. -/
structure Undo (undo : List (RouteCommand τ ρ π)) : Prop where
  removal : ∀ c ∈ undo, c.IsRemoval
  refl : ∀ r, .delRule r ∈ undo → selects r r = true
  exact : ∀ r q, .delRule r ∈ undo → .delRule q ∈ undo → selects r q = true → r = q

/-- There is nothing on the host that `undo` takes away. -/
structure Clean (undo : List (RouteCommand τ ρ π)) (h : RouteHost τ ρ π) : Prop where
  rules : ∀ q ∈ h.rules, selected undo q = false
  routes : ∀ t, .flush t ∈ undo → h.routes t = []

/-- Beside what `undo` takes away the host is as it was, and `undo` takes away every rule of its own. -/
structure Kept (undo : List (RouteCommand τ ρ π)) (h₀ h : RouteHost τ ρ π) : Prop where
  others : h.rules.filter (fun q => !selected undo q) = h₀.rules
  known : ∀ q ∈ h.rules, selected undo q = true → .delRule q ∈ undo
  once : ∀ r, .delRule r ∈ undo → h.rules.countP (selects r) ≤ 1
  routes : ∀ t, .flush t ∉ undo → h.routes t = h₀.routes t

variable {undo : List (RouteCommand τ ρ π)} {accepts : RouteCommand τ ρ π → Bool}
  {h₀ h : RouteHost τ ρ π}

lemma selected_eq_true_iff {q : ρ} :
    selected undo q = true ↔ ∃ r, .delRule r ∈ undo ∧ selects r q = true := by
  rw [selected, List.any_eq_true]
  constructor
  · rintro ⟨c, hc, hq⟩
    cases c with
    | delRule r => exact ⟨r, hc, hq⟩
    | _ => simp at hq
  · rintro ⟨r, hr, hq⟩
    exact ⟨.delRule r, hr, hq⟩

/-- A host with nothing of its own on it is kept. -/
lemma Clean.kept (hclean : Clean undo h) : Kept undo h h where
  others := List.filter_eq_self.2 fun q hq => by simp [hclean.rules q hq]
  known q hq hselected := by simp [hclean.rules q hq] at hselected
  once r hr := by
    rw [List.countP_eq_zero.2 fun q hq hselects => ?_]
    · exact Nat.zero_le 1
    · have := selected_eq_true_iff.2 ⟨r, hr, hselects⟩
      simp [hclean.rules q hq] at this
  routes _ _ := rfl

namespace Kept

/-- A rule of the host at first is still there. -/
lemma mem_rules (hkept : Kept undo h₀ h) {q : ρ} (hq : q ∈ h₀.rules) : q ∈ h.rules := by
  rw [← hkept.others] at hq
  exact (List.mem_filter.1 hq).1

/-- A rule that `undo` does not take away was there at first. -/
lemma mem_first (hkept : Kept undo h₀ h) {q : ρ} (hq : q ∈ h.rules)
    (hselected : selected undo q = false) : q ∈ h₀.rules := by
  rw [← hkept.others, List.mem_filter]
  exact ⟨hq, by simp [hselected]⟩

/-- Adding a rule that `undo` deletes. -/
lemma insertRule (hundo : Undo undo) (hkept : Kept undo h₀ h) {r : ρ} (hr : .delRule r ∈ undo)
    (hnew : r ∉ h.rules) : Kept undo h₀ { h with rules := insertRule r h.rules } where
  others := by
    have hselected := selected_eq_true_iff.2 ⟨r, hr, hundo.refl r hr⟩
    rw [filter_insertRule (by simp [hselected]), hkept.others]
  known q hq hselected := by
    obtain rfl | hq := mem_insertRule.1 hq
    · exact hr
    · exact hkept.known q hq hselected
  once q hq := by
    rw [countP_insertRule]
    by_cases hselects : selects q r = true
    · obtain rfl := hundo.exact q r hq hr hselects
      -- another rule that it selects would be the rule itself
      have hnone : h.rules.countP (selects q) = 0 := by
        rw [List.countP_eq_zero]
        intro q' hq' hselects'
        have hknown := hkept.known q' hq' (selected_eq_true_iff.2 ⟨q, hq, hselects'⟩)
        exact hnew (hundo.exact q q' hq hknown hselects' ▸ hq')
      simp [hnone, hselects]
    · simpa [hselects] using hkept.once q hq
  routes := hkept.routes

/-- Deleting a rule like none of those at first. -/
lemma eraseP (hkept : Kept undo h₀ h) {r : ρ} (hr : ∀ q ∈ h₀.rules, selects r q = false) :
    Kept undo h₀ { h with rules := h.rules.eraseP (selects r) } where
  others := by
    rw [filter_eraseP, hkept.others]
    intro q hq hselects
    by_contra hselected
    have := hr q (hkept.mem_first hq (by simpa using hselected))
    simp [hselects] at this
  known q hq hselected := hkept.known q (List.mem_of_mem_eraseP hq) hselected
  once q hq := Nat.le_trans List.eraseP_sublist.countP_le (hkept.once q hq)
  routes := hkept.routes

variable [DecidableEq τ]

/-- Changing a table that `undo` flushes. -/
lemma update (hkept : Kept undo h₀ h) {t : τ} (ht : .flush t ∈ undo) (routes : List π) :
    Kept undo h₀ { h with routes := Function.update h.routes t routes } where
  others := hkept.others
  known := hkept.known
  once := hkept.once
  routes t' ht' := by
    have hne : t' ≠ t := fun heq => ht' (heq ▸ ht)
    rw [← hkept.routes t' ht']
    exact Function.update_of_ne hne ..

variable [DecidableEq ρ]

/-- A harmless command keeps the host. -/
theorem exec (hundo : Undo undo) (hkept : Kept undo h₀ h) {c : RouteCommand τ ρ π}
    (hc : c.Harmless undo h₀ accepts) : Kept undo h₀ (h.exec accepts c).2 := by
  cases c with
  | addRule r =>
    rw [RouteHost.exec]
    split
    next hadd =>
      simp only [Bool.and_eq_true, decide_eq_true_eq] at hadd
      obtain hr | hrefused | hmem := hc
      · exact hkept.insertRule hundo hr hadd.2
      · rw [hrefused] at hadd
        exact absurd hadd.1 (by simp)
      · exact absurd (hkept.mem_rules hmem) hadd.2
    next => exact hkept
  | delRule r => exact hkept.eraseP hc
  | addRoute t p =>
    rw [RouteHost.exec]
    split
    next hadd =>
      simp only [Bool.and_eq_true, List.all_eq_true, decide_eq_true_eq] at hadd
      by_cases ht : .flush t ∈ undo
      · exact hkept.update ht _
      · obtain ht' | hrefused | ⟨q, hq, hkey⟩ := hc
        · exact absurd ht' ht
        · rw [hrefused] at hadd
          exact absurd hadd.1 (by simp)
        · rw [← hkept.routes t ht] at hq
          exact absurd hkey (hadd.2 q hq)
    next => exact hkept
  | replaceRoute t p =>
    rw [RouteHost.exec]
    split
    next hreplace =>
      by_cases ht : .flush t ∈ undo
      · exact hkept.update ht _
      · obtain ht' | hrefused | hfind := hc
        · exact absurd ht' ht
        · rw [hrefused] at hreplace
          exact absurd hreplace (by simp)
        · rw [← hkept.routes t ht] at hfind
          rw [replaceFirst_of_find? hfind, Function.update_eq_self]
          exact hkept
    next => exact hkept
  | flush t =>
    by_cases ht : .flush t ∈ undo
    · exact hkept.update ht []
    · have hempty : h.routes t = [] := by
        rw [hkept.routes t ht]
        exact hc.resolve_left ht
      rw [RouteHost.exec, ← hempty, Function.update_eq_self]
      exact hkept

theorem execAll (hundo : Undo undo) (hkept : Kept undo h₀ h) {cs : List (RouteCommand τ ρ π)}
    (hcs : ∀ c ∈ cs, c.Harmless undo h₀ accepts) : Kept undo h₀ (h.execAll accepts cs) := by
  induction cs generalizing h with
  | nil => exact hkept
  | cons c cs ih =>
    exact ih (hkept.exec hundo (hcs c (List.mem_cons_self ..)))
      fun c hc => hcs c (List.mem_cons_of_mem _ hc)

end Kept

/-- The commands that undo are themselves harmless on a clean host. -/
lemma Clean.harmless (hundo : Undo undo) (hclean : Clean undo h₀) {c : RouteCommand τ ρ π}
    (hc : c ∈ undo) : c.Harmless undo h₀ accepts := by
  cases c with
  | delRule r =>
    intro q hq
    by_contra hselects
    have hselected := selected_eq_true_iff.2 ⟨r, hc, by simpa using hselects⟩
    rw [hclean.rules q hq] at hselected
    cases hselected
  | flush t => exact .inl hc
  | addRule r => exact (hundo.removal _ hc).elim
  | addRoute t p => exact (hundo.removal _ hc).elim
  | replaceRoute t p => exact (hundo.removal _ hc).elim

variable [DecidableEq τ] [DecidableEq ρ]

/-- What is selected at most once is gone once the commands that only take away have deleted it. -/
lemma countP_execAll {cs : List (RouteCommand τ ρ π)} (hcs : ∀ c ∈ cs, c.IsRemoval) {r : ρ} {n : ℕ}
    (hn : n ≤ 1) (h : RouteHost τ ρ π) (hcount : h.rules.countP (selects r) ≤ n)
    (hr : n = 0 ∨ .delRule r ∈ cs) : (h.execAll accepts cs).rules.countP (selects r) = 0 := by
  induction cs generalizing h n with
  | nil =>
    obtain rfl | hr := hr
    · exact Nat.le_zero.1 hcount
    · cases hr
  | cons c cs ih =>
    have hrest : ∀ c ∈ cs, c.IsRemoval := fun c hc => hcs c (List.mem_cons_of_mem _ hc)
    by_cases heq : c = .delRule r
    · subst heq
      refine ih hrest (Nat.zero_le 1) _ ?_ (.inl rfl)
      exact Nat.le_of_eq (countP_eraseP_self (Nat.le_trans hcount hn))
    · have hr' : n = 0 ∨ .delRule r ∈ cs := hr.imp_right fun hmem => by
        obtain heq' | hmem := List.mem_cons.1 hmem
        · exact absurd heq'.symm heq
        · exact hmem
      refine ih hrest hn _ (Nat.le_trans ?_ hcount) hr'
      cases c with
      | delRule q => exact List.eraseP_sublist.countP_le
      | flush t => exact Nat.le_refl _
      | addRule q => exact (hcs _ (List.mem_cons_self ..)).elim
      | addRoute t p => exact (hcs _ (List.mem_cons_self ..)).elim
      | replaceRoute t p => exact (hcs _ (List.mem_cons_self ..)).elim

/-- A rule that the host takes is there afterwards, whether it was there before or not. -/
lemma mem_exec_addRule {r : ρ} (haccepts : accepts (.addRule r) = true) (h : RouteHost τ ρ π) :
    r ∈ (h.exec accepts (.addRule r)).2.rules := by
  by_cases hmem : r ∈ h.rules
  · simp [exec, hmem]
  · simp [exec, hmem, haccepts, mem_insertRule]

/-- A rule stays if the commands that only take away select others. -/
lemma mem_rules_execAll {cs : List (RouteCommand τ ρ π)} (hcs : ∀ c ∈ cs, c.IsRemoval) {q : ρ}
    (hq : selected cs q = false) {h : RouteHost τ ρ π} (hmem : q ∈ h.rules) :
    q ∈ (h.execAll accepts cs).rules := by
  induction cs generalizing h with
  | nil => exact hmem
  | cons c cs ih =>
    simp only [selected, List.any_cons, Bool.or_eq_false_iff] at hq
    refine ih (fun c hc => hcs c (List.mem_cons_of_mem _ hc)) hq.2 ?_
    cases c with
    | delRule r => exact (List.mem_eraseP_of_neg (by simp [hq.1])).2 hmem
    | flush t => exact hmem
    | addRule r => exact (hcs _ (List.mem_cons_self ..)).elim
    | addRoute t p => exact (hcs _ (List.mem_cons_self ..)).elim
    | replaceRoute t p => exact (hcs _ (List.mem_cons_self ..)).elim

/-- A table stays as it is if the commands that only take away flush others. -/
lemma routes_execAll_of_not_mem {cs : List (RouteCommand τ ρ π)} (hcs : ∀ c ∈ cs, c.IsRemoval)
    {t : τ} (ht : .flush t ∉ cs) (h : RouteHost τ ρ π) :
    (h.execAll accepts cs).routes t = h.routes t := by
  induction cs generalizing h with
  | nil => rfl
  | cons c cs ih =>
    rw [List.mem_cons, not_or] at ht
    refine (ih (fun c hc => hcs c (List.mem_cons_of_mem _ hc)) ht.2 _).trans ?_
    cases c with
    | delRule r => rfl
    | flush t' => exact Function.update_of_ne (fun heq => ht.1 (by rw [heq])) ..
    | addRule r => exact (hcs _ (List.mem_cons_self ..)).elim
    | addRoute t p => exact (hcs _ (List.mem_cons_self ..)).elim
    | replaceRoute t p => exact (hcs _ (List.mem_cons_self ..)).elim

/-- A table is empty once the commands that only take away have flushed it. -/
lemma routes_execAll {cs : List (RouteCommand τ ρ π)} (hcs : ∀ c ∈ cs, c.IsRemoval) {t : τ}
    (h : RouteHost τ ρ π) (ht : h.routes t = [] ∨ .flush t ∈ cs) :
    (h.execAll accepts cs).routes t = [] := by
  induction cs generalizing h with
  | nil => exact ht.resolve_right (by simp)
  | cons c cs ih =>
    refine ih (fun c hc => hcs c (List.mem_cons_of_mem _ hc)) _ ?_
    cases c with
    | delRule q => exact ht.imp_right fun hmem => by simpa using hmem
    | flush t' =>
      by_cases heq : t = t'
      · subst heq
        exact .inl (Function.update_self ..)
      · refine ht.imp (fun hempty => ?_) fun hmem => by simpa [heq] using hmem
        exact (Function.update_of_ne heq ..).trans hempty
    | addRule q => exact (hcs _ (List.mem_cons_self ..)).elim
    | addRoute t p => exact (hcs _ (List.mem_cons_self ..)).elim
    | replaceRoute t p => exact (hcs _ (List.mem_cons_self ..)).elim

/-- A kept host is brought back to what it was. -/
theorem Kept.restored (hundo : Undo undo) (hclean : Clean undo h₀) (hkept : Kept undo h₀ h) :
    h.execAll accepts undo = h₀ := by
  have hafter : Kept undo h₀ (h.execAll accepts undo) :=
    hkept.execAll hundo fun c hc => hclean.harmless hundo hc
  have hnone : ∀ q ∈ (h.execAll accepts undo).rules, selected undo q = false := by
    intro q hq
    by_contra hselected
    have hmem : .delRule q ∈ undo := hafter.known q hq (by simpa using hselected)
    have hzero : (h.execAll accepts undo).rules.countP (selects q) = 0 :=
      countP_execAll hundo.removal (Nat.le_refl 1) h (hkept.once q hmem) (.inr hmem)
    exact List.countP_eq_zero.1 hzero q hq (hundo.refl q hmem)
  have hrules : (h.execAll accepts undo).rules = h₀.rules := by
    rw [← hafter.others, List.filter_eq_self.2 fun q hq => by simp [hnone q hq]]
  have hroutes : (h.execAll accepts undo).routes = h₀.routes := by
    funext t
    by_cases ht : .flush t ∈ undo
    · rw [routes_execAll hundo.removal h (.inr ht), hclean.routes t ht]
    · exact hafter.routes t ht
  cases hhost : h.execAll accepts undo
  cases h₀
  rw [hhost] at hrules hroutes
  exact congrArg₂ _ hrules hroutes

end RouteHost

end Turbobond
