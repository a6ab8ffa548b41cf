import Mathlib.Data.List.Nodup
import Mathlib.Data.List.Pairwise
import Mathlib.Tactic

/-!
# Counters handed out by many holders

Holders come and go; each counts up from zero under a label of its own, and every number
handed out is entered in a log, with the holder and the label.  A number may also be lost:
counted but not entered.

Two holders that count under one label hand out the same numbers, so the pairs of label and
number are pairwise distinct when every label has one holder, and, as long as no number was
lost, only then.
-/

namespace Turbobond

variable {H L : Type}

/-- An entry of the log: the holder, the label it counts under, and the number. -/
structure Entry (H L : Type) where
  holder : H
  label : L
  number : ℕ

/-- The log against the holders that are live: `live h l c` says that `h` counts under `l`
and has reached `c`. -/
structure Ledger (live : H → L → ℕ → Prop) (fresh : H → Prop) (lost : Prop)
    (log : List (Entry H L)) : Prop where
  /-- A holder enters ever larger numbers, under one label. -/
  sorted : log.Pairwise fun a b => a.holder = b.holder → a.label = b.label ∧ a.number < b.number
  positive : ∀ a ∈ log, 1 ≤ a.number
  bounded : ∀ h l c, live h l c → ∀ a ∈ log, a.holder = h → a.label = l ∧ a.number ≤ c
  unused : ∀ h, fresh h → ∀ a ∈ log, a.holder ≠ h
  /-- Unless a number was lost, a live holder has entered all numbers up to its own, -/
  full : ¬ lost → ∀ h l c, live h l c → ∀ k, 1 ≤ k → k ≤ c → ⟨h, l, k⟩ ∈ log
  /-- and with each number entered all below it are. -/
  closed : ¬ lost → ∀ a ∈ log, ∀ k, 1 ≤ k → k ≤ a.number → ⟨a.holder, a.label, k⟩ ∈ log

/-- Where a live holder comes from: it was live before, or it is new and has counted nothing. -/
def Source (live : H → L → ℕ → Prop) (fresh : H → Prop) (h : H) (l : L) (c : ℕ) : Prop :=
  live h l c ∨ fresh h ∧ c = 0

/-- One step of the holders: nothing is handed out, or one number by one holder, which moves
to it, while the others stay where they are. -/
structure LedgerStep (live : H → L → ℕ → Prop) (fresh : H → Prop) (out : List (Entry H L))
    (lost : Prop) (live' : H → L → ℕ → Prop) (fresh' : H → Prop) : Prop where
  fresh_of : ∀ h, fresh' h → fresh h ∧ ∀ a ∈ out, a.holder ≠ h
  live_of : ∀ h l c, live' h l c →
    (Source live fresh h l c ∧ ∀ a ∈ out, a.holder ≠ h) ∨
      ∃ c₀, c = c₀ + 1 ∧ Source live fresh h l c₀ ∧ (out = [⟨h, l, c⟩] ∨ out = [] ∧ lost)
  out_of : ∀ a ∈ out, out = [a] ∧ ∃ c₀, a.number = c₀ + 1 ∧ Source live fresh a.holder a.label c₀

lemma LedgerStep.of_lost {live live' : H → L → ℕ → Prop} {fresh fresh' : H → Prop}
    {out : List (Entry H L)} {lost lost' : Prop}
    (hs : LedgerStep live fresh out lost live' fresh') (h : lost → lost') :
    LedgerStep live fresh out lost' live' fresh' where
  fresh_of := hs.fresh_of
  live_of := by
    intro x l c hx
    rcases hs.live_of x l c hx with hkept | ⟨c₀, hc, hsrc, hone | ⟨hnil, hlost⟩⟩
    · exact Or.inl hkept
    · exact Or.inr ⟨c₀, hc, hsrc, Or.inl hone⟩
    · exact Or.inr ⟨c₀, hc, hsrc, Or.inr ⟨hnil, h hlost⟩⟩
  out_of := hs.out_of

/-- A step that hands nothing out. -/
lemma LedgerStep.idle {live live' : H → L → ℕ → Prop} {fresh fresh' : H → Prop} {lost : Prop}
    (hfresh : ∀ h, fresh' h → fresh h)
    (hlive : ∀ h l c, live' h l c → Source live fresh h l c) :
    LedgerStep live fresh [] lost live' fresh' where
  fresh_of := fun h hf => ⟨hfresh h hf, by simp⟩
  live_of := fun h l c hc => Or.inl ⟨hlive h l c hc, by simp⟩
  out_of := by simp

/-- A step of one holder: it stays, or it counts on and hands out its new number, unless that
is lost; and no other holder moves. -/
lemma LedgerStep.single {live live' : H → L → ℕ → Prop} {fresh fresh' : H → Prop}
    {out : List (Entry H L)} {lost : Prop} {h : H} {l : L} {c : ℕ} (hsrc : Source live fresh h l c)
    (hout : out = [] ∨ out = [⟨h, l, c + 1⟩]) (hfresh : ∀ x, fresh' x → fresh x ∧ x ≠ h)
    (hlive : ∀ x m k, live' x m k → live x m k ∧ x ≠ h ∨
      x = h ∧ m = l ∧ (k = c ∧ out = [] ∨ k = c + 1 ∧ (out = [⟨h, l, c + 1⟩] ∨ out = [] ∧ lost))) :
    LedgerStep live fresh out lost live' fresh' := by
  have hholder : ∀ a ∈ out, a = ⟨h, l, c + 1⟩ := by
    intro a ha
    rcases hout with hnil | hone
    · exact absurd ha (by simp [hnil])
    · rw [hone] at ha
      exact List.mem_singleton.1 ha
  refine ⟨?_, ?_, ?_⟩
  · intro x hx
    obtain ⟨hf, hne⟩ := hfresh x hx
    refine ⟨hf, fun a ha hah => hne ?_⟩
    rw [← hah, hholder a ha]
  · intro x m k hx
    rcases hlive x m k hx with ⟨hold, hne⟩ | ⟨rfl, rfl, ⟨rfl, hnil⟩ | ⟨rfl, hcase⟩⟩
    · refine Or.inl ⟨Or.inl hold, fun a ha hah => hne ?_⟩
      rw [← hah, hholder a ha]
    · exact Or.inl ⟨hsrc, by simp [hnil]⟩
    · exact Or.inr ⟨c, rfl, hsrc, hcase⟩
  · intro a ha
    obtain rfl := hholder a ha
    rcases hout with hnil | hone
    · exact absurd ha (by simp [hnil])
    · exact ⟨hone, c, rfl, hsrc⟩

/-- When holders belong to parties, a step of one party's ledger is a step of the ledger of
all of them. -/
lemma LedgerStep.lift {I : Type} {live live' : I → H → L → ℕ → Prop} {fresh fresh' : I → H → Prop}
    {out : List (Entry H L)} {lost : Prop} (i : I)
    (hs : LedgerStep (live i) (fresh i) out lost (live' i) (fresh' i))
    (hlive : ∀ j, j ≠ i → ∀ h l c, live' j h l c → live j h l c)
    (hfresh : ∀ j, j ≠ i → ∀ h, fresh' j h → fresh j h) :
    LedgerStep (fun x : I × H => live x.1 x.2) (fun x => fresh x.1 x.2)
      (out.map fun a => ⟨(i, a.holder), a.label, a.number⟩) lost
      (fun x => live' x.1 x.2) (fun x => fresh' x.1 x.2) where
  fresh_of := by
    rintro ⟨j, h⟩ hfr
    by_cases hj : j = i
    · subst hj
      obtain ⟨hfr₀, hout⟩ := hs.fresh_of h hfr
      refine ⟨hfr₀, fun a ha heq => ?_⟩
      obtain ⟨b, hb, rfl⟩ := List.mem_map.1 ha
      exact hout b hb (Prod.mk.inj heq).2
    · refine ⟨hfresh j hj h hfr, fun a ha heq => ?_⟩
      obtain ⟨b, hb, rfl⟩ := List.mem_map.1 ha
      exact hj (Prod.mk.inj heq).1.symm
  live_of := by
    rintro ⟨j, h⟩ l c hlv
    by_cases hj : j = i
    · subst hj
      rcases hs.live_of h l c hlv with ⟨hsrc, hout⟩ | ⟨c₀, hc, hsrc, hone | ⟨hnil, hlost⟩⟩
      · refine Or.inl ⟨hsrc, fun a ha heq => ?_⟩
        obtain ⟨b, hb, rfl⟩ := List.mem_map.1 ha
        exact hout b hb (Prod.mk.inj heq).2
      · exact Or.inr ⟨c₀, hc, hsrc, Or.inl (by rw [hone]; rfl)⟩
      · exact Or.inr ⟨c₀, hc, hsrc, Or.inr ⟨by rw [hnil]; rfl, hlost⟩⟩
    · refine Or.inl ⟨Or.inl (hlive j hj h l c hlv), fun a ha heq => ?_⟩
      obtain ⟨b, hb, rfl⟩ := List.mem_map.1 ha
      exact hj (Prod.mk.inj heq).1.symm
  out_of := by
    intro a ha
    obtain ⟨b, hb, rfl⟩ := List.mem_map.1 ha
    obtain ⟨hone, c₀, hnum, hsrc⟩ := hs.out_of b hb
    exact ⟨by rw [hone]; rfl, c₀, hnum, hsrc⟩

namespace Ledger

variable {live live' : H → L → ℕ → Prop} {fresh fresh' : H → Prop} {lost lost' : Prop}
  {log out : List (Entry H L)}

/-- With nothing entered and nothing counted. -/
lemma empty (h : ∀ x l c, ¬ live x l c) : Ledger live fresh lost ([] : List (Entry H L)) where
  sorted := List.Pairwise.nil
  positive := by simp
  bounded := by simp
  unused := by simp
  full := fun _ x l c hx => absurd hx (h x l c)
  closed := by simp

/-- What a source has entered lies at or below where it is. -/
lemma source_bounded (hL : Ledger live fresh lost log) {h : H} {l : L} {c : ℕ}
    (hs : Source live fresh h l c) : ∀ a ∈ log, a.holder = h → a.label = l ∧ a.number ≤ c := by
  rcases hs with hlive | ⟨hfresh, -⟩
  · exact hL.bounded h l c hlive
  · exact fun a ha hah => absurd hah (hL.unused h hfresh a ha)

lemma source_full (hL : Ledger live fresh lost log) (hlost : ¬ lost) {h : H} {l : L} {c : ℕ}
    (hs : Source live fresh h l c) : ∀ k, 1 ≤ k → k ≤ c → ⟨h, l, k⟩ ∈ log := by
  rcases hs with hlive | ⟨-, rfl⟩
  · exact hL.full hlost h l c hlive
  · intro k h₁ h₂
    omega

theorem step (hL : Ledger live fresh lost log)
    (hs : LedgerStep live fresh out lost' live' fresh') (hlost : lost → lost') :
    Ledger live' fresh' lost' (log ++ out) where
  sorted := by
    refine List.pairwise_append.2 ⟨hL.sorted, ?_, ?_⟩
    · cases out with
      | nil => exact List.Pairwise.nil
      | cons a out =>
        rw [(hs.out_of a List.mem_cons_self).1]
        exact List.pairwise_singleton _ _
    · intro a ha b hb hab
      obtain ⟨-, c₀, hnum, hsrc⟩ := hs.out_of b hb
      obtain ⟨hlabel, hle⟩ := hL.source_bounded hsrc a ha hab
      exact ⟨hlabel, by omega⟩
  positive := by
    intro a ha
    rcases List.mem_append.1 ha with ha | ha
    · exact hL.positive a ha
    · obtain ⟨-, c₀, hnum, -⟩ := hs.out_of a ha
      omega
  bounded := by
    intro h l c hlive a ha hah
    rcases hs.live_of h l c hlive with ⟨hsrc, hout⟩ | ⟨c₀, rfl, hsrc, hout⟩
    · rcases List.mem_append.1 ha with ha | ha
      · exact hL.source_bounded hsrc a ha hah
      · exact absurd hah (hout a ha)
    · rcases List.mem_append.1 ha with ha | ha
      · obtain ⟨hlabel, hle⟩ := hL.source_bounded hsrc a ha hah
        exact ⟨hlabel, by omega⟩
      · rcases hout with rfl | ⟨rfl, -⟩
        · obtain rfl := List.mem_singleton.1 ha
          exact ⟨rfl, le_rfl⟩
        · exact absurd ha List.not_mem_nil
  unused := by
    intro h hfresh a ha
    obtain ⟨hfresh₀, hout⟩ := hs.fresh_of h hfresh
    rcases List.mem_append.1 ha with ha | ha
    · exact hL.unused h hfresh₀ a ha
    · exact hout a ha
  full := by
    intro hl h l c hlive k h₁ h₂
    have hl₀ : ¬ lost := fun hlost₀ => hl (hlost hlost₀)
    rw [List.mem_append]
    rcases hs.live_of h l c hlive with ⟨hsrc, -⟩ | ⟨c₀, rfl, hsrc, rfl | ⟨-, hlost'⟩⟩
    · exact Or.inl (hL.source_full hl₀ hsrc k h₁ h₂)
    · rcases Nat.lt_or_ge k (c₀ + 1) with hk | hk
      · exact Or.inl (hL.source_full hl₀ hsrc k h₁ (by omega))
      · obtain rfl : k = c₀ + 1 := by omega
        exact Or.inr List.mem_cons_self
    · exact absurd hlost' hl
  closed := by
    intro hl a ha k h₁ h₂
    have hl₀ : ¬ lost := fun hlost₀ => hl (hlost hlost₀)
    rw [List.mem_append]
    rcases List.mem_append.1 ha with ha | ha
    · exact Or.inl (hL.closed hl₀ a ha k h₁ h₂)
    · obtain ⟨-, c₀, hnum, hsrc⟩ := hs.out_of a ha
      rcases Nat.lt_or_ge k a.number with hk | hk
      · exact Or.inl (hL.source_full hl₀ hsrc k h₁ (by omega))
      · obtain rfl : k = a.number := by omega
        exact Or.inr ha

/-- The numbers under a label, read modulo `m`, are distinct when every label has one holder
and no number goes past `m`. -/
theorem nodup_of_one_holder (hL : Ledger live fresh lost log) {m : ℕ}
    (hone : ∀ a ∈ log, ∀ b ∈ log, a.label = b.label → a.holder = b.holder)
    (hm : ∀ a ∈ log, a.number ≤ m) :
    (log.map fun a => (a.label, a.number % m)).Nodup := by
  refine List.pairwise_map.2 (hL.sorted.imp_of_mem fun {a b} ha hb hab => ?_)
  intro heq
  obtain ⟨hlabel, hmod⟩ := Prod.mk.inj heq
  have hlt := (hab (hone a ha b hb hlabel)).2
  have hpos := hL.positive a ha
  have hle := hm b hb
  -- below `m` the residue is the number, and only `m` itself has residue zero
  rw [Nat.mod_eq_of_lt (show a.number < m by omega)] at hmod
  rcases Nat.lt_or_ge b.number m with hb' | hb'
  · rw [Nat.mod_eq_of_lt hb'] at hmod
    omega
  · obtain rfl : b.number = m := by omega
    rw [Nat.mod_self] at hmod
    omega

/-- As long as no number was lost, they are distinct only then. -/
theorem one_holder_of_nodup (hL : Ledger live fresh lost log) (hlost : ¬ lost) {m : ℕ}
    (hm : 0 < m) (hnd : (log.map fun a => (a.label, a.number % m)).Nodup) :
    (∀ a ∈ log, ∀ b ∈ log, a.label = b.label → a.holder = b.holder) ∧
      ∀ a ∈ log, a.number ≤ m := by
  have hinj := List.inj_on_of_nodup_map hnd
  constructor
  · intro a ha b hb hlabel
    have ha₁ := hL.closed hlost a ha 1 le_rfl (hL.positive a ha)
    have hb₁ := hL.closed hlost b hb 1 le_rfl (hL.positive b hb)
    have := hinj ha₁ hb₁ (by simp [hlabel])
    simpa using congrArg Entry.holder this
  · intro a ha
    by_contra hlt
    have hk := hL.closed hlost a ha (a.number - m) (by omega) (by omega)
    have := hinj hk ha (by
      have : (a.number - m) % m = a.number % m := (Nat.mod_eq_sub_mod (by omega)).symm
      simp [this])
    have := congrArg Entry.number this
    simp only at this
    omega

end Ledger

end Turbobond
