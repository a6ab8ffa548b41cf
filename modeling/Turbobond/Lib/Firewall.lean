import Turbobond.Lib.Dict
import Mathlib.Data.Fintype.Sum
import Mathlib.Logic.Function.Basic

/-!
# Chains of rules

A firewall keeps its rules in chains: those that are built in, which are always there, and those
that were made and may be taken away again.  A command changes one chain, or it fails and changes
nothing.

Adding a rule and deleting it again leaves a chain as it was only where the chain did not hold the
rule before: a deletion takes the first copy.
-/

namespace Turbobond

/-- A chain, built in or made. -/
inductive Chain (β υ : Type) where
  | builtin (b : β)
  | user (u : υ)
  deriving DecidableEq

/-- What is known of a rule without a packet: whether it is well formed, and the chain it jumps to. -/
class RuleSyntax (ρ : Type) (υ : outParam Type) where
  wellFormed : ρ → Bool
  target : ρ → Option υ

structure Firewall (β υ ρ : Type) where
  builtin : β → List ρ
  user : Dict υ (List ρ)

inductive FirewallCommand (β υ ρ : Type) where
  /-- `-N` -/
  | new (u : υ)
  /-- `-F` -/
  | flush (c : Chain β υ)
  /-- `-A` -/
  | append (c : Chain β υ) (r : ρ)
  /-- `-I`, at the first place -/
  | insert (c : Chain β υ) (r : ρ)
  /-- `-D` -/
  | delete (c : Chain β υ) (r : ρ)
  /-- `-C` -/
  | check (c : Chain β υ) (r : ρ)
  /-- `-X` -/
  | remove (u : υ)

namespace Firewall

variable {β υ ρ : Type}

@[ext] lemma ext' {fw fw' : Firewall β υ ρ} (hbuiltin : ∀ b, fw.builtin b = fw'.builtin b)
    (huser : fw.user = fw'.user) : fw = fw' := by
  cases fw
  cases fw'
  simp only [mk.injEq]
  exact ⟨funext hbuiltin, huser⟩

variable [DecidableEq β] [DecidableEq υ] [DecidableEq ρ] [Fintype β] [RuleSyntax ρ υ]

/-- The rules of a chain, if there is one of that name. -/
def get? (fw : Firewall β υ ρ) : Chain β υ → Option (List ρ)
  | .builtin b => some (fw.builtin b)
  | .user u => fw.user.get? u

def set (fw : Firewall β υ ρ) (rules : List ρ) : Chain β υ → Firewall β υ ρ
  | .builtin b => { fw with builtin := Function.update fw.builtin b rules }
  | .user u => { fw with user := fw.user.set u rules }

/-- A rule can be added: it is well formed and the chain it jumps to exists. -/
def accepts (fw : Firewall β υ ρ) (r : ρ) : Bool :=
  RuleSyntax.wellFormed r && (RuleSyntax.target r).all fw.user.has

/-- Some rule jumps to the chain. -/
def Referenced (fw : Firewall β υ ρ) (u : υ) : Prop :=
  (∃ b, ∃ r ∈ fw.builtin b, RuleSyntax.target r = some u) ∨
    ∃ rules ∈ fw.user.values, ∃ r ∈ rules, RuleSyntax.target r = some u

instance (fw : Firewall β υ ρ) (u : υ) : Decidable (fw.Referenced u) :=
  inferInstanceAs (Decidable (_ ∨ _))

/-- Change the rules of a chain, if there is one and the change is possible. -/
def change (fw : Firewall β υ ρ) (c : Chain β υ) (f : List ρ → Option (List ρ)) :
    Bool × Firewall β υ ρ :=
  match (fw.get? c).bind f with
  | some rules => (true, fw.set rules c)
  | none => (false, fw)

/-- Whether a command succeeds, and what it leaves. -/
def exec (fw : Firewall β υ ρ) : FirewallCommand β υ ρ → Bool × Firewall β υ ρ
  | .new u => if fw.user.has u then (false, fw) else (true, fw.set [] (.user u))
  | .flush c => fw.change c fun _ => some []
  | .append c r => fw.change c fun rules => if fw.accepts r then some (rules ++ [r]) else none
  | .insert c r => fw.change c fun rules => if fw.accepts r then some (r :: rules) else none
  | .delete c r => fw.change c fun rules => if r ∈ rules then some (rules.erase r) else none
  | .check c r => ((fw.get? c).any (r ∈ ·), fw)
  | .remove u =>
    if fw.user.get? u = some [] ∧ ¬ fw.Referenced u then (true, { fw with user := fw.user.erase u })
    else (false, fw)

/-- Commands one after the other, each whether or not the ones before it failed. -/
def execAll (fw : Firewall β υ ρ) (cs : List (FirewallCommand β υ ρ)) : Firewall β υ ρ :=
  cs.foldl (fun fw c => (fw.exec c).2) fw

omit [DecidableEq β] [DecidableEq ρ] [Fintype β] [RuleSyntax ρ υ] in
@[simp] lemma get?_builtin (fw : Firewall β υ ρ) (b : β) :
    fw.get? (.builtin b) = some (fw.builtin b) := rfl

@[simp] lemma execAll_nil (fw : Firewall β υ ρ) : fw.execAll [] = fw := rfl

@[simp] lemma execAll_cons (fw : Firewall β υ ρ) (c : FirewallCommand β υ ρ)
    (cs : List (FirewallCommand β υ ρ)) : fw.execAll (c :: cs) = (fw.exec c).2.execAll cs := rfl

lemma execAll_append (fw : Firewall β υ ρ) (cs cs' : List (FirewallCommand β υ ρ)) :
    fw.execAll (cs ++ cs') = (fw.execAll cs).execAll cs' := List.foldl_append

/-! ### Rules of built-in chains -/

/-- A rule is checked for, and added to a built-in chain if it is not there. -/
def ensure (fw : Firewall β υ ρ) (b : β) (r : ρ) : Firewall β υ ρ :=
  if (fw.exec (.check (.builtin b) r)).1 then fw else (fw.exec (.append (.builtin b) r)).2

/-- A rule is deleted from a built-in chain, if it is there. -/
def discard (fw : Firewall β υ ρ) (b : β) (r : ρ) : Firewall β υ ρ :=
  (fw.exec (.delete (.builtin b) r)).2

/-- `fw` is `base` with more rules at the end of its built-in chains. -/
structure Extends (base fw : Firewall β υ ρ) (extra : β → List ρ) : Prop where
  builtin : ∀ b, fw.builtin b = base.builtin b ++ extra b
  user : fw.user = base.user

variable {base fw : Firewall β υ ρ} {extra : β → List ρ} {b b' : β} {r r' : ρ}

lemma exec_append_builtin (h : fw.accepts r = true) :
    fw.exec (.append (.builtin b) r) = (true, fw.set (fw.builtin b ++ [r]) (.builtin b)) := by
  simp [exec, change, h]

lemma exec_delete_builtin (h : r ∈ fw.builtin b) :
    fw.exec (.delete (.builtin b) r) =
      (true, fw.set ((fw.builtin b).erase r) (.builtin b)) := by
  simp [exec, change, h]

lemma exec_delete_builtin_of_notMem (h : r ∉ fw.builtin b) :
    fw.exec (.delete (.builtin b) r) = (false, fw) := by
  simp [exec, change, h]

lemma ensure_of_mem (h : r ∈ fw.builtin b) : fw.ensure b r = fw := by
  simp [ensure, exec, h]

lemma ensure_of_notMem (h : r ∉ fw.builtin b) (hr : fw.accepts r = true) :
    fw.ensure b r = fw.set (fw.builtin b ++ [r]) (.builtin b) := by
  rw [ensure, exec_append_builtin hr]
  simp [exec, h]

lemma builtin_ensure_of_ne (h : b' ≠ b) : (fw.ensure b r).builtin b' = fw.builtin b' := by
  by_cases hmem : r ∈ fw.builtin b
  · rw [ensure_of_mem hmem]
  · by_cases hr : fw.accepts r = true
    · rw [ensure_of_notMem hmem hr]
      exact Function.update_of_ne h _ _
    · simp [ensure, exec, change, hmem, hr]

lemma builtin_discard :
    (fw.discard b r).builtin b' =
      if b' = b then (fw.builtin b).erase r else fw.builtin b' := by
  by_cases h : r ∈ fw.builtin b
  · rw [discard, exec_delete_builtin h]
    simp [set, Function.update_apply]
  · rw [discard, exec_delete_builtin_of_notMem h, List.erase_of_not_mem h]
    by_cases hb : b' = b
    · rw [if_pos hb, hb]
    · rw [if_neg hb]

lemma user_discard : (fw.discard b r).user = fw.user := by
  by_cases h : r ∈ fw.builtin b
  · rw [discard, exec_delete_builtin h]
    rfl
  · rw [discard, exec_delete_builtin_of_notMem h]

/-- No chain gets more than one copy of a rule, except those it had. -/
lemma count_ensure_le : ((fw.ensure b r).builtin b').count r' ≤ max 1 ((fw.builtin b').count r') := by
  by_cases h : r ∈ fw.builtin b
  · rw [ensure_of_mem h]
    exact le_max_right _ _
  · by_cases hr : fw.accepts r = true
    · rw [ensure_of_notMem h hr]
      by_cases hb : b' = b
      · subst hb
        have hzero := List.count_eq_zero_of_not_mem h
        by_cases heq : r' = r
        · simp [set, heq, hzero]
        · simp [set, List.count_append, Ne.symm heq]
      · simp [set, Function.update_of_ne hb]
    · simp [ensure, exec, change, h, hr]

lemma count_discard_le : ((fw.discard b r).builtin b').count r' ≤ (fw.builtin b').count r' := by
  rw [builtin_discard]
  split_ifs with hb
  · rw [hb]
    exact List.Sublist.count_le _ List.erase_sublist
  · exact le_rfl

lemma count_discard_self : ((fw.discard b r).builtin b).count r = (fw.builtin b).count r - 1 := by
  rw [builtin_discard, if_pos rfl, List.count_erase_self]

omit [DecidableEq β] [DecidableEq υ] [DecidableEq ρ] [Fintype β] [RuleSyntax ρ υ] in
lemma Extends.refl : Extends base base fun _ => [] := ⟨fun _ => (List.append_nil _).symm, rfl⟩

omit [DecidableEq β] [DecidableEq υ] [DecidableEq ρ] [Fintype β] [RuleSyntax ρ υ] in
lemma Extends.eq (h : Extends base fw extra) (hnil : ∀ b, extra b = []) : fw = base :=
  ext' (fun b => by rw [h.builtin, hnil, List.append_nil]) h.user

/-- A rule that the base does not hold is added after it, if it is not there already. -/
lemma Extends.ensure (h : Extends base fw extra) (hb : r ∉ base.builtin b)
    (hr : fw.accepts r = true) :
    Extends base (fw.ensure b r)
      (Function.update extra b (if r ∈ extra b then extra b else extra b ++ [r])) := by
  by_cases hmem : r ∈ extra b
  · rw [ensure_of_mem (by rw [h.builtin]; exact List.mem_append_right _ hmem), if_pos hmem,
      Function.update_eq_self]
    exact h
  · rw [ensure_of_notMem (by simp [h.builtin, hb, hmem]) hr, if_neg hmem]
    refine ⟨fun b' => ?_, h.user⟩
    by_cases heq : b' = b
    · subst heq
      simp [set, h.builtin]
    · simp [set, Function.update_of_ne heq, h.builtin]

/-- Such a rule is deleted from what was added, and the base stays as it is. -/
lemma Extends.discard (h : Extends base fw extra) (hb : r ∉ base.builtin b) :
    Extends base (fw.discard b r) (Function.update extra b ((extra b).erase r)) := by
  refine ⟨fun b' => ?_, user_discard.trans h.user⟩
  rw [builtin_discard]
  by_cases heq : b' = b
  · subst heq
    rw [if_pos rfl, Function.update_self, h.builtin, List.erase_append_right _ hb]
  · rw [if_neg heq, Function.update_of_ne heq, h.builtin]

/-! ### Additions -/

/-- A command that adds a rule to a built-in chain. -/
def IsAddition : FirewallCommand β υ ρ → Prop
  | .append (.builtin _) _ | .insert (.builtin _) _ => True
  | _ => False

/-- What such a command makes of the rules of a built-in chain, if `ok` rules are accepted. -/
def addTo (ok : ρ → Bool) (b : β) : FirewallCommand β υ ρ → List ρ → List ρ
  | .append (.builtin b') r, l => if b' = b ∧ ok r = true then l ++ [r] else l
  | .insert (.builtin b') r, l => if b' = b ∧ ok r = true then r :: l else l
  | _, l => l

omit [DecidableEq β] [DecidableEq ρ] [Fintype β] in
lemma accepts_congr {fw fw' : Firewall β υ ρ} (h : fw.user = fw'.user) (r : ρ) :
    fw.accepts r = fw'.accepts r := by
  rw [accepts, accepts, h]

omit [DecidableEq β] [DecidableEq ρ] [Fintype β] in
/-- A rule that jumps nowhere is accepted if it is well formed. -/
lemma accepts_of_target_eq_none (h : RuleSyntax.target r = none) :
    fw.accepts r = RuleSyntax.wellFormed r := by
  rw [accepts, h, Option.all_none, Bool.and_true]

variable (fw) in
lemma exec_addition {c : FirewallCommand β υ ρ} (hc : IsAddition c) :
    (∀ b, (fw.exec c).2.builtin b = addTo fw.accepts b c (fw.builtin b)) ∧
      (fw.exec c).2.user = fw.user := by
  have hcases : ∀ (b' : β) (r : ρ) (f : List ρ → List ρ),
      (∀ b, (fw.change (.builtin b') fun l => if fw.accepts r then some (f l) else none).2.builtin b =
          if b' = b ∧ fw.accepts r = true then f (fw.builtin b) else fw.builtin b) ∧
        (fw.change (.builtin b') fun l => if fw.accepts r then some (f l) else none).2.user =
          fw.user := by
    intro b' r f
    by_cases hr : fw.accepts r = true
    · refine ⟨fun b => ?_, by simp [change, hr, set]⟩
      by_cases hb : b' = b
      · subst hb
        simp [change, hr, set]
      · simp [change, hr, set, hb, Function.update_of_ne (Ne.symm hb)]
    · simp [change, hr]
  cases c with
  | append c r =>
    cases c with
    | builtin b' => exact hcases b' r (· ++ [r])
    | user u => exact hc.elim
  | insert c r =>
    cases c with
    | builtin b' => exact hcases b' r (r :: ·)
    | user u => exact hc.elim
  | _ => exact hc.elim

variable (fw) in
/-- Additions one after the other: each chain is added to on its own. -/
lemma execAll_additions {cs : List (FirewallCommand β υ ρ)} (hcs : ∀ c ∈ cs, IsAddition c) :
    (∀ b, (fw.execAll cs).builtin b =
        cs.foldl (fun l c => addTo fw.accepts b c l) (fw.builtin b)) ∧
      (fw.execAll cs).user = fw.user := by
  induction cs generalizing fw with
  | nil => exact ⟨fun _ => rfl, rfl⟩
  | cons c cs ih =>
    obtain ⟨hbuiltin, huser⟩ := ih (fw.exec c).2 fun c hc => hcs c (List.mem_cons_of_mem _ hc)
    obtain ⟨hbuiltin', huser'⟩ := exec_addition fw (hcs c List.mem_cons_self)
    rw [execAll_cons]
    refine ⟨fun b => ?_, huser.trans huser'⟩
    rw [hbuiltin, List.foldl_cons, hbuiltin', funext (accepts_congr huser')]

/-- Rules appended to a chain that was made, one after the other. -/
lemma execAll_append_user {u : υ} (old : List ρ) (hu : fw.user.get? u = some old) (rs : List ρ) :
    fw.execAll (rs.map fun r => .append (.user u) r) =
      { fw with user := fw.user.set u (old ++ rs.filter fw.accepts) } := by
  induction rs generalizing fw old with
  | nil => simp [Dict.set_of_get? hu]
  | cons r rs ih =>
    rw [List.map_cons, execAll_cons]
    by_cases hr : fw.accepts r = true
    · have hexec : (fw.exec (.append (.user u) r)).2 =
          { fw with user := fw.user.set u (old ++ [r]) } := by
        simp [exec, change, get?, hu, hr, set]
      have hkey : u ∈ fw.user.keys := (Dict.mem_keys_iff _ _).2 ⟨old, hu⟩
      have hsame : ∀ r', Firewall.accepts { fw with user := fw.user.set u (old ++ [r]) } r' =
          fw.accepts r' := by
        intro r'
        rw [accepts, accepts]
        congr 2
        funext u'
        rw [Bool.eq_iff_iff, Dict.has_iff, Dict.has_iff, Dict.mem_keys_set]
        exact or_iff_right_of_imp fun heq => heq ▸ hkey
      rw [hexec, ih (old ++ [r]) (Dict.get?_set_self _ _ _), funext hsame,
        List.filter_cons_of_pos hr]
      simp [Dict.set_set_self]
    · have hexec : (fw.exec (.append (.user u) r)).2 = fw := by
        simp [exec, change, get?, hu, hr]
      rw [hexec, ih old hu, List.filter_cons_of_neg hr]

end Firewall

end Turbobond
