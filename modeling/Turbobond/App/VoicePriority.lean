import Turbobond.Lib.Machine
import Turbobond.Sip.Qos

/-!
# Voice priority over time

Two subsystems put a queueing discipline at the root of an uplink: the provisioner of
`turbobond/router/provision.py`, at activation and again at every sweep of its search, and
`apply_sip_qos`.  Neither knows of the other.
-/

namespace Turbobond.App

open Config Util TrafficControl Sip

/-- The disciplines that `apply_qdisc` tries. -/
def candidates (qdisc : String) : List String := ["cake", qdisc, "fq_codel"]

/-- The commands of `apply_qdisc` for one uplink, up to the first that passes; `possible` says of each
candidate whether the kernel has it. -/
def installQdisc (host : Host) (iface : String) (possible : String → Bool) :
    List String → Devices → Bool × Devices
  | [], d => (false, d)
  | candidate :: rest, d =>
    let (ok, d) := tc host (possible candidate) d (.replace iface none candidate)
    if ok then (true, d) else installQdisc host iface possible rest d

/-- `apply_qdisc`. -/
def applyQdisc (host : Host) (qdisc : String) (plan : List (String × (String → Bool))) (d : Devices) :
    Dict String Bool × Devices :=
  if !host.which "tc" && !host.dryRun then
    (plan.foldl (fun results e => results.set e.1 true) Dict.empty, d)
  else
    plan.foldl
      (fun (results, d) e =>
        let (applied, d) := installQdisc host e.1 e.2 (candidates qdisc) d
        (results.set e.1 applied, d))
      (Dict.empty, d)

namespace VoicePriority

inductive Event where
  /-- `RouterProvisioner.apply`, once the router and the kernel have their settings. -/
  | apply (plan : List (String × (String → Bool)))
  /-- `RouterProvisioner.search_once`.  `reached` says that no call to the router has ended it. -/
  | searchOnce (reached : Bool) (plan : List (String × (String → Bool)))
  | applySipQos (plan : List (String × SipPlan))
  | teardownQos (plan : List (String × Bool))

/-- What an event does to the devices, with the configuration as it is then. -/
def step (host : Host) (cfg : AppConfig) (d : Devices) : Event → Devices
  | .apply plan => if plan = [] then d else (applyQdisc host cfg.optimization.qdisc plan d).2
  | .searchOnce reached plan =>
    if !reached || !cfg.optimization.bandSearch then d
    else if plan = [] then d
    else (applyQdisc host cfg.optimization.qdisc plan d).2
  | .applySipQos plan => (Sip.applySipQos host cfg.sip plan d).2
  | .teardownQos plan => Sip.teardownQos host plan d

/-- A run, in which every event finds its own configuration. -/
def run (host : Host) (events : List (AppConfig × Event)) (d : Devices) : Devices :=
  events.foldl (fun d e => step host e.1 d e.2) d

/-- The first candidate that the kernel has takes the place of what is at the root. -/
def Displaced (possible : String → Bool) (qdisc : String) : Prop :=
  ∃ kind, (candidates qdisc).find? possible = some kind ∧ kind ≠ "prio"

/-- An event displaces the queue for voice on an uplink. -/
def Displaces (cfg : AppConfig) (iface : String) : Event → Prop
  | .apply plan => ∃ e ∈ plan, e.1 = iface ∧ Displaced e.2 cfg.optimization.qdisc
  | .searchOnce reached plan => reached = true ∧ cfg.optimization.bandSearch = true ∧
      ∃ e ∈ plan, e.1 = iface ∧ Displaced e.2 cfg.optimization.qdisc
  | .applySipQos _ => False
  | .teardownQos plan => (iface, true) ∈ plan

/-- An event gives a mark its filter on an uplink. -/
def Grants (cfg : AppConfig) (iface : String) (dscp : ℤ) : Event → Prop
  | .applySipQos plan => ∃ e ∈ plan, e.1 = iface ∧ e.2.Marks cfg.sip dscp
  | _ => False

variable {host : Host} {d : Devices} {iface : String} {dscp : ℤ} {has : Prop}

/-! ### One uplink -/

lemma installQdisc_of_ne {iface' : String} (h : iface' ≠ iface) (possible : String → Bool)
    (kinds : List String) (d : Devices) : (installQdisc host iface possible kinds d).2 iface' = d iface' := by
  induction kinds generalizing d with
  | nil => rfl
  | cons kind rest ih =>
    have htc : (tc host (possible kind) d (.replace iface none kind)).2 iface' = d iface' := by
      by_cases hlive : Live host
      · rw [tc_of_live hlive]
        exact attempt_of_ne h _
      · rw [tc_of_not_live hlive]
    simp only [installQdisc]
    split
    · exact htc
    · rw [ih, htc]

/-- A discipline takes the place of the queue for voice, unless it is a `prio` as well. -/
lemma standing_replace (h : Standing dscp has (d iface)) (kind : String) :
    ∃ d', attempt true d (.replace iface none kind) = (true, d') ∧
      Standing dscp (has ∧ kind = "prio") (d' iface) := by
  by_cases hsame : ∃ q, d iface = some q ∧ q.kind = kind
  · obtain ⟨q, hq, rfl⟩ := hsame
    refine ⟨d, attempt_replace_same hq (Or.inl rfl) true, ?_⟩
    rcases h with ⟨hplain, hhas⟩ | ⟨q', hq', hrooted, hmem⟩
    · exact Or.inl ⟨hplain, fun hboth => hhas hboth.1⟩
    · obtain rfl := Option.some.inj (hq.symm.trans hq')
      exact Or.inr ⟨q, hq, hrooted, hmem.trans (and_iff_left hrooted.kind).symm⟩
  · have hother : ∀ q, d iface = some q →
        ((none : Option ℕ) = none ∨ q.handle ≠ none) ∧ (q.kind ≠ kind ∨ (none : Option ℕ) ≠ none) :=
      fun q hq => ⟨Or.inl rfl, Or.inl fun hkind => hsame ⟨q, hq, hkind⟩⟩
    refine ⟨_, attempt_replace hother true, Or.inl ⟨?_, ?_⟩⟩
    · intro q hq
      rw [Function.update_self] at hq
      obtain rfl := Option.some.inj hq
      exact ⟨rfl, rfl⟩
    · rintro ⟨hhas, rfl⟩
      rcases h with ⟨-, hnot⟩ | ⟨q, hq, hrooted, -⟩
      · exact hnot hhas
      · exact hsame ⟨q, hq, hrooted.kind⟩

lemma standing_installQdisc (h : Standing dscp has (d iface)) (hlive : Live host)
    (possible : String → Bool) (kinds : List String) :
    Standing dscp (has ∧ ¬ ∃ kind, kinds.find? possible = some kind ∧ kind ≠ "prio")
      ((installQdisc host iface possible kinds d).2 iface) := by
  induction kinds with
  | nil => exact h.congr (by simp)
  | cons kind rest ih =>
    rw [installQdisc, tc_of_live hlive]
    cases hpossible : possible kind with
    | true =>
      obtain ⟨d', heq, hstanding⟩ := standing_replace h kind
      rw [heq]
      refine hstanding.congr (and_congr_right fun _ => ?_)
      simp [hpossible]
    | false =>
      have hfind : (kind :: rest).find? possible = rest.find? possible := by
        rw [List.find?_cons_of_neg (by simp [hpossible])]
      rw [hfind]
      simpa [attempt] using ih

/-! ### All uplinks -/

lemma standing_applyQdisc (hlive : Live host) (qdisc : String) (plan : List (String × (String → Bool)))
    (h : Standing dscp has (d iface)) :
    Standing dscp (has ∧ ¬ ∃ e ∈ plan, e.1 = iface ∧ Displaced e.2 qdisc)
      ((applyQdisc host qdisc plan d).2 iface) := by
  have hgo : (!host.which "tc" && !host.dryRun) = false := by simp [hlive.2]
  rw [applyQdisc, hgo, if_neg (by simp)]
  -- the loop, whatever it has reported so far
  generalize (Dict.empty : Dict String Bool) = results
  induction plan generalizing d has results with
  | nil => exact h.congr (by simp)
  | cons e plan ih =>
    rw [List.foldl_cons]
    by_cases hiface : e.1 = iface
    · subst hiface
      refine (ih (standing_installQdisc h hlive e.2 (candidates qdisc)) _).congr ?_
      simp only [List.exists_mem_cons_iff, true_and, not_or, Displaced, and_assoc]
    · have hsame : (installQdisc host e.1 e.2 (candidates qdisc) d).2 iface = d iface :=
        installQdisc_of_ne (Ne.symm hiface) _ _ _
      refine (ih (hsame ▸ h) _).congr ?_
      simp only [List.exists_mem_cons_iff, hiface, false_and, false_or]

lemma standing_del (h : Standing dscp has (d iface)) (possible : Bool) :
    Standing dscp (has ∧ ¬ possible = true) ((attempt possible d (.del iface)).2 iface) := by
  rw [attempt]
  split
  · rename_i hdone
    rw [Bool.and_eq_true] at hdone
    exact Or.inl ⟨by simp [Plain, exec], fun hboth => hboth.2 hdone.1⟩
  · rename_i hfail
    refine h.congr (and_iff_left_of_imp fun hhas hpossible => ?_).symm
    -- there is something to delete where a mark has a filter
    rcases h with ⟨-, hnot⟩ | ⟨q, hq, -, -⟩
    · exact hnot hhas
    · exact hfail (by simp [refuses, hq, hpossible])

lemma standing_teardownQos (hlive : Live host) (plan : List (String × Bool))
    (h : Standing dscp has (d iface)) :
    Standing dscp (has ∧ ¬ (iface, true) ∈ plan) (Sip.teardownQos host plan d iface) := by
  rw [Sip.teardownQos]
  induction plan generalizing d has with
  | nil => exact h.congr (by simp)
  | cons e plan ih =>
    obtain ⟨iface', possible⟩ := e
    rw [List.foldl_cons]
    simp only [tc_of_live hlive]
    simp only [tc_of_live hlive] at ih
    by_cases hiface : iface' = iface
    · subst hiface
      refine (ih (standing_del h possible)).congr ?_
      simp only [List.mem_cons, Prod.mk.injEq, true_and, not_or, and_assoc, eq_comm]
    · have hsame := attempt_of_ne (d := d) (c := .del iface') (Ne.symm hiface) possible
      refine (ih (hsame ▸ h)).congr ?_
      simp only [List.mem_cons, Prod.mk.injEq, Ne.symm hiface, false_and, false_or]

lemma standing_applySipQos (hmark : IsMark dscp) (hlive : Live host) (cfg : SipConfig)
    (plan : List (String × SipPlan)) (h : Standing dscp has (d iface)) :
    Standing dscp (has ∨ ∃ e ∈ plan, e.1 = iface ∧ e.2.Marks cfg dscp)
      ((Sip.applySipQos host cfg plan d).2 iface) := by
  rw [Sip.applySipQos]
  split_ifs with hnil hmissing
  · exact h.congr (by simp [hnil])
  · exact absurd hmissing (by simp [hlive.2])
  · -- the loop, whatever it has reported so far
    clear hnil
    generalize ({} : QosReport) = report
    induction plan generalizing d has report with
    | nil => exact h.congr (by simp)
    | cons e plan ih =>
      obtain ⟨iface', plan'⟩ := e
      have hrest : ∀ {has' : Prop} {d' : Devices} (report report' : QosReport) (ok : Bool),
          Standing dscp has' (d' iface) →
          Standing dscp (has' ∨ ∃ e ∈ plan, e.1 = iface ∧ e.2.Marks cfg dscp)
            ((if ok then shapeUplinks host cfg plan report d'
              else shapeUplinks host cfg plan report' d').2 iface) := by
        intro has' d' report report' ok h'
        split
        · exact ih h' _
        · exact ih h' _
      simp only [shapeUplinks]
      by_cases hiface : iface' = iface
      · subst hiface
        refine (hrest _ _ _ (h.shapeUplink hmark hlive plan')).congr ?_
        simp only [List.exists_mem_cons_iff, true_and, or_assoc]
      · have hsame : (shapeUplink host cfg iface' plan' d).2 iface = d iface :=
          shapeUplink_of_ne (Ne.symm hiface) _ _
        refine (hrest _ _ _ (hsame ▸ h)).congr ?_
        simp only [List.exists_mem_cons_iff, hiface, false_and, false_or]

/-! ### Runs -/

lemma standing_step (hmark : IsMark dscp) (hlive : Live host) (cfg : AppConfig) (e : Event)
    (h : Standing dscp has (d iface)) :
    Standing dscp (has ∧ ¬ Displaces cfg iface e ∨ Grants cfg iface dscp e) (step host cfg d e iface) := by
  cases e with
  | apply plan =>
    rw [step]
    split_ifs with hnil
    · exact h.congr (by simp [Displaces, Grants, hnil])
    · refine (standing_applyQdisc hlive _ plan h).congr ?_
      simp only [Displaces, Grants, or_false]
  | searchOnce reached plan =>
    rw [step]
    split_ifs with hskip hnil
    · refine h.congr ?_
      have hnone : ¬ (reached = true ∧ cfg.optimization.bandSearch = true) := fun hboth =>
        absurd hskip (by simp [hboth.1, hboth.2])
      simp only [Displaces, Grants, or_false, ← and_assoc, hnone, false_and, not_false_iff, and_true]
    · exact h.congr (by simp [Displaces, Grants, hnil])
    · have hreached : reached = true ∧ cfg.optimization.bandSearch = true := by simpa using hskip
      refine (standing_applyQdisc hlive _ plan h).congr ?_
      simp only [Displaces, Grants, or_false, hreached, true_and]
  | applySipQos plan =>
    refine (standing_applySipQos hmark hlive cfg.sip plan h).congr ?_
    simp [Displaces, Grants]
  | teardownQos plan =>
    refine (standing_teardownQos hlive plan h).congr ?_
    simp [Displaces, Grants]

/-- A split of a list at an element after which nothing of a kind follows. -/
lemma exists_split_concat {α : Type} {P Q : α → Prop} (l : List α) (a : α) :
    (∃ before e after, l ++ [a] = before ++ e :: after ∧ P e ∧ ∀ x ∈ after, ¬ Q x) ↔
      (∃ before e after, l = before ++ e :: after ∧ P e ∧ ∀ x ∈ after, ¬ Q x) ∧ ¬ Q a ∨ P a := by
  constructor
  · rintro ⟨before, e, after, heq, he, hafter⟩
    rcases List.eq_nil_or_concat after with rfl | ⟨after', x, rfl⟩
    · obtain ⟨-, hlast⟩ := List.append_inj' heq rfl
      obtain rfl := (List.cons.inj hlast).1
      exact Or.inr he
    · rw [List.concat_eq_append] at heq hafter
      rw [← List.cons_append, ← List.append_assoc] at heq
      obtain ⟨hinit, hlast⟩ := List.append_inj' heq rfl
      obtain rfl := (List.cons.inj hlast).1
      exact Or.inl ⟨⟨before, e, after', hinit, he, fun y hy => hafter y (List.mem_append_left _ hy)⟩,
        hafter a (List.mem_append_right _ List.mem_cons_self)⟩
  · rintro (⟨⟨before, e, after, rfl, he, hafter⟩, ha⟩ | ha)
    · refine ⟨before, e, after ++ [a], by simp, he, fun x hx => ?_⟩
      rcases List.mem_append.1 hx with hx | hx
      · exact hafter x hx
      · rwa [List.mem_singleton.1 hx]
    · exact ⟨l, a, [], rfl, ha, by simp⟩

/-- **Voice priority.**  Where `tc` runs, whatever it accepts, all packets with a mark are in the top
band of an uplink if and only if some `apply_sip_qos` has given the mark its filter there, and nothing
since, be it an activation or a sweep of the search, has put another discipline in its place. -/
theorem voice_first_iff (host : Host) (hlive : Live host) (d : Devices) (hplain : ∀ iface, Plain (d iface))
    (events : List (AppConfig × Event)) (iface : String) (dscp : ℤ) (hmark : IsMark dscp) :
    (∀ p, Marked dscp p → First (run host events d) iface p) ↔
      ∃ before e after, events = before ++ e :: after ∧ Grants e.1 iface dscp e.2 ∧
        ∀ e' ∈ after, ¬ Displaces e'.1 iface e'.2 := by
  refine Standing.first_iff hmark ?_
  induction events using List.reverseRecOn with
  | nil => exact Or.inl ⟨hplain iface, by simp⟩
  | append_singleton events e ih =>
    rw [run, List.foldl_append]
    refine (standing_step hmark hlive e.1 e.2 ih).congr ?_
    exact (exists_split_concat events e).symm

/-- An activation, and a sweep three minutes later. -/
def activationAndSweep : List (AppConfig × VoicePriority.Event) :=
  [({}, .apply [("wwan0", fun _ => true)]), ({}, .applySipQos [("wwan0", {})]),
    ({}, .searchOnce true [("wwan0", fun _ => true)])]

theorem voice_first_iff_activationAndSweep :
    (∀ p, Marked 46 p → First (run untouched activationAndSweep fun _ => none) "wwan0" p) ↔
      ∃ before e after, activationAndSweep = before ++ e :: after ∧ Grants e.1 "wwan0" 46 e.2 ∧
        ∀ e' ∈ after, ¬ Displaces e'.1 "wwan0" e'.2 :=
  voice_first_iff untouched ⟨rfl, rfl⟩ (fun _ => none) (by simp [Plain]) activationAndSweep "wwan0" 46
    (by decide)

/-- The sweep has undone what the activation has done for voice. -/
example : (run untouched activationAndSweep fun _ => none) "wwan0" = some ⟨none, "cake", []⟩ := by
  decide +kernel

end VoicePriority

end Turbobond.App
