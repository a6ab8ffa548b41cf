import Turbobond.Lib.Machine
import Turbobond.Lib.Text
import Turbobond.Util.Iptables

/-!
# The firewall rules of the concentrator

`_enable_forwarding`, `_ensure_rule` and `_remove_firewall_rules` of `turbobond/bond/server.py`, over
the life of a service that may crash at any time and is started again.
-/

namespace Turbobond.Bond

open Util Netfilter

/-- What the rules of a concentrator depend on, with the interface of the default route. -/
structure Forwarding where
  deviceName : String := "tbond-srv"
  localCidr : String := "10.77.0.1/30"
  egressInterface : String := ""
  defaultEgress : String := ""

namespace Forwarding

variable (f : Forwarding)

def egress : String := if f.egressInterface ≠ "" then f.egressInterface else f.defaultEgress

def subnet : String :=
  String.ofList (Text.beforeLast '.' (Text.beforeLast '/' f.localCidr.toList)) ++ ".0/24"

/-- `_firewall_rules`, as `_enable_forwarding` sets it. -/
def firewallRules : List (List String) :=
  if f.egress = "" then []
  else
    [["-t", "nat", "POSTROUTING", "-s", f.subnet, "-o", f.egress, "-j", "MASQUERADE"],
      ["FORWARD", "-i", f.deviceName, "-o", f.egress, "-j", "ACCEPT"],
      ["FORWARD", "-i", f.egress, "-o", f.deviceName, "-j", "ACCEPT"],
      ["-t", "mangle", "FORWARD",
        "-p", "tcp", "--tcp-flags", "SYN,RST", "SYN",
        "-j", "TCPMSS", "--clamp-mss-to-pmtu"]]

/-- `_rule_command`. -/
def ruleCommand (rule : List String) (action : String) : List String :=
  if rule.take 1 = ["-t"] then "iptables" :: rule.take 2 ++ [action] ++ rule.drop 2
  else ["iptables", action] ++ rule

/-- The chain of each of the rules, and what it says. -/
def rules : List ((Table × Hook) × Rule String) :=
  if f.egress = "" then []
  else
    [((.nat, .postrouting), ⟨[.address .source f.subnet, .outInterface f.egress], .masquerade⟩),
      ((.filter, .forward), ⟨[.inInterface f.deviceName, .outInterface f.egress], .accept⟩),
      ((.filter, .forward), ⟨[.inInterface f.egress, .outInterface f.deviceName], .accept⟩),
      ((.mangle, .forward), ⟨[.protocol .tcp, .syn], .clampMss⟩)]

/-- The commands that the source runs for its rules are those on the rules as they are read here. -/
lemma map_ruleCommand :
    f.firewallRules.map (ruleCommand · "-C") =
        f.rules.map (fun r => Iptables.Command.args (.check (.builtin r.1) r.2)) ∧
      f.firewallRules.map (ruleCommand · "-A") =
        f.rules.map (fun r => Iptables.Command.args (.append (.builtin r.1) r.2)) ∧
      f.firewallRules.map (ruleCommand · "-D") =
        f.rules.map (fun r => Iptables.Command.args (.delete (.builtin r.1) r.2)) := by
  by_cases h : f.egress = ""
  · simp [firewallRules, rules, h]
  · simp only [firewallRules, rules, h, if_false]
    exact ⟨rfl, rfl, rfl⟩

/-- `_ensure_rule`. -/
def ensureRule (host : Host) (r : (Table × Hook) × Rule String) (fw : Iptables) : Iptables :=
  if !(runIptables host (.check (.builtin r.1) r.2) fw).1.ok then
    (runIptables host (.append (.builtin r.1) r.2) fw).2
  else fw

/-- The part of `_remove_firewall_rules` for one rule. -/
def removeRule (host : Host) (r : (Table × Hook) × Rule String) (fw : Iptables) : Iptables :=
  (runIptables host (.delete (.builtin r.1) r.2) fw).2

end Forwarding

/-- Where the process of the concentrator is: what `start` has still to ensure, and what `stop` has
still to remove. -/
inductive Stage where
  /-- There is no process: none has been started, or the last one has crashed. -/
  | down
  | starting (rest : List ((Table × Hook) × Rule String))
  | serving
  | stopping (rest : List ((Table × Hook) × Rule String))
  | stopped

structure Service where
  fw : Iptables
  stage : Stage

inductive ServiceEvent where
  | start
  /-- The process gets on with what it is at by one rule. -/
  | advance
  | crash
  | stop

namespace Service

/-- The process that is started reads the rules from its options, which are those of the unit. -/
def step (f : Forwarding) (host : Host) (s : Service) : ServiceEvent → List Empty × Service
  | .start =>
    match s.stage with
    | .down | .stopped => ([], { s with stage := .starting f.rules })
    | _ => ([], s)
  | .advance =>
    match s.stage with
    | .starting [] => ([], { s with stage := .serving })
    | .starting (r :: rest) => ([], ⟨Forwarding.ensureRule host r s.fw, .starting rest⟩)
    | .stopping [] => ([], { s with stage := .stopped })
    | .stopping (r :: rest) => ([], ⟨Forwarding.removeRule host r s.fw, .stopping rest⟩)
    | _ => ([], s)
  | .crash =>
    match s.stage with
    | .starting _ | .serving | .stopping _ => ([], { s with stage := .down })
    | _ => ([], s)
  | .stop =>
    match s.stage with
    | .serving => ([], { s with stage := .stopping f.rules })
    | _ => ([], s)

def run (f : Forwarding) (host : Host) (events : List ServiceEvent) (fw : Iptables) : Service :=
  (Machine.run (step f host) events ⟨fw, .down⟩).2

end Service

/-! ### What a step does to the rules -/

variable {f : Forwarding} {host : Host} {s : Service} {fw base : Iptables}

lemma Forwarding.accepts_of_mem {r : (Table × Hook) × Rule String} (h : r ∈ f.rules) (fw : Iptables) :
    fw.accepts r.2 = true := by
  by_cases hegress : f.egress = ""
  · simp [rules, hegress] at h
  · simp only [rules, hegress, if_false, List.mem_cons, List.not_mem_nil, or_false] at h
    obtain rfl | rfl | rfl | rfl := h <;> rfl

lemma Forwarding.ensureRule_of_executes (h : executesIptables host = true)
    (r : (Table × Hook) × Rule String) : ensureRule host r fw = fw.ensure r.1 r.2 := by
  rw [ensureRule, ok_runIptables h, runIptables_of_executes h, Firewall.ensure]
  cases (fw.exec (.check (.builtin r.1) r.2)).1 <;> rfl

lemma Forwarding.removeRule_of_executes (h : executesIptables host = true)
    (r : (Table × Hook) × Rule String) : removeRule host r fw = fw.discard r.1 r.2 :=
  runIptables_of_executes h

/-- The rules that `start` is about to ensure or `stop` to remove are those of the options. -/
def Stage.WithinRules (f : Forwarding) : Stage → Prop
  | .starting rest | .stopping rest => rest ⊆ f.rules
  | _ => True

/-- The rules that the process and those before it may have left. -/
def Stage.left (f : Forwarding) : Stage → List ((Table × Hook) × Rule String)
  | .stopping rest => rest
  | .stopped => []
  | _ => f.rules

/-- All that an event can do: it changes the stage alone, one rule is ensured, or one is removed. -/
lemma Service.step_cases (f : Forwarding) (host : Host) (s : Service) (e : ServiceEvent) :
    (∃ stage, (step f host s e).2 = ⟨s.fw, stage⟩ ∧
      (s.stage.WithinRules f → stage.WithinRules f ∧ s.stage.left f ⊆ stage.left f)) ∨
    (∃ r rest, s.stage = .starting (r :: rest) ∧
      (step f host s e).2 = ⟨Forwarding.ensureRule host r s.fw, .starting rest⟩) ∨
    ∃ r rest, s.stage = .stopping (r :: rest) ∧
      (step f host s e).2 = ⟨Forwarding.removeRule host r s.fw, .stopping rest⟩ := by
  obtain ⟨fw, stage⟩ := s
  have hstays : (step f host ⟨fw, stage⟩ e).2 = ⟨fw, stage⟩ → ∃ stage',
      (step f host ⟨fw, stage⟩ e).2 = ⟨fw, stage'⟩ ∧
        (stage.WithinRules f → stage'.WithinRules f ∧ stage.left f ⊆ stage'.left f) :=
    fun h => ⟨stage, h, fun hin => ⟨hin, List.Subset.refl _⟩⟩
  cases e with
  | start =>
    left
    cases stage with
    | down => exact ⟨_, rfl, fun _ => ⟨List.Subset.refl _, List.Subset.refl _⟩⟩
    | stopped => exact ⟨_, rfl, fun _ => ⟨List.Subset.refl _, List.nil_subset _⟩⟩
    | _ => exact hstays rfl
  | advance =>
    cases stage with
    | starting rest =>
      cases rest with
      | nil => exact .inl ⟨_, rfl, fun _ => ⟨trivial, List.Subset.refl _⟩⟩
      | cons r rest => exact .inr (.inl ⟨r, rest, rfl, rfl⟩)
    | stopping rest =>
      cases rest with
      | nil => exact .inl ⟨_, rfl, fun _ => ⟨trivial, List.Subset.refl _⟩⟩
      | cons r rest => exact .inr (.inr ⟨r, rest, rfl, rfl⟩)
    | _ => exact .inl (hstays rfl)
  | crash =>
    left
    cases stage with
    | starting rest => exact ⟨_, rfl, fun _ => ⟨trivial, List.Subset.refl _⟩⟩
    | serving => exact ⟨_, rfl, fun _ => ⟨trivial, List.Subset.refl _⟩⟩
    | stopping rest => exact ⟨_, rfl, fun hin => ⟨trivial, hin⟩⟩
    | _ => exact hstays rfl
  | stop =>
    left
    cases stage with
    | serving => exact ⟨_, rfl, fun _ => ⟨List.Subset.refl _, List.Subset.refl _⟩⟩
    | _ => exact hstays rfl

/-! ### What a run does to the rules -/

/-- What holds of the rules and the stage at first, and is kept by each of the three kinds of steps,
holds after every run. -/
lemma Service.run_induction {P : Iptables → Stage → Prop} (hstart : P base .down)
    (hstage : ∀ fw stage stage', stage.WithinRules f → stage.left f ⊆ stage'.left f → P fw stage →
      P fw stage')
    (hensure : ∀ fw r rest, r ∈ f.rules → P fw (.starting (r :: rest)) →
      P (Forwarding.ensureRule host r fw) (.starting rest))
    (hremove : ∀ fw r rest, r ∈ f.rules → P fw (.stopping (r :: rest)) →
      P (Forwarding.removeRule host r fw) (.stopping rest))
    (events : List ServiceEvent) :
    P (run f host events base).fw (run f host events base).stage := by
  have hstep : ∀ (s : Service) (hist : List Empty) (e : ServiceEvent),
      s.stage.WithinRules f ∧ P s.fw s.stage →
      (step f host s e).2.stage.WithinRules f ∧ P (step f host s e).2.fw (step f host s e).2.stage := by
    rintro s - e ⟨hin, hP⟩
    obtain ⟨stage, heq, hkeep⟩ | ⟨r, rest, hs, heq⟩ | ⟨r, rest, hs, heq⟩ := step_cases f host s e
    · rw [heq]
      exact ⟨(hkeep hin).1, hstage _ _ _ hin (hkeep hin).2 hP⟩
    · rw [hs] at hin hP
      rw [heq]
      exact ⟨(List.cons_subset.1 hin).2, hensure _ _ _ (List.cons_subset.1 hin).1 hP⟩
    · rw [hs] at hin hP
      rw [heq]
      exact ⟨(List.cons_subset.1 hin).2, hremove _ _ _ (List.cons_subset.1 hin).1 hP⟩
  exact (Machine.run_invariant_nil (step f host)
    (I := fun s _ => s.stage.WithinRules f ∧ P s.fw s.stage) hstep events (s := ⟨base, .down⟩)
    ⟨trivial, hstart⟩).2

/-- Without `iptables`, or in dry-run mode, nothing changes. -/
lemma Service.fw_run_of_not_executes (h : executesIptables host = false)
    (events : List ServiceEvent) : (run f host events base).fw = base := by
  refine run_induction (P := fun fw _ => fw = base) rfl (fun _ _ _ _ _ heq => heq) ?_ ?_ events
  · intro fw r rest _ heq
    simp only [Forwarding.ensureRule, runIptables_of_not_executes h, heq, ite_self]
  · intro fw r rest _ heq
    rw [Forwarding.removeRule, runIptables_of_not_executes h, heq]

section Executed

variable (hexec : executesIptables host = true)
include hexec

/-- No chain ever gets a second copy of a rule. -/
lemma Service.count_le (events : List ServiceEvent) (b : Table × Hook) (r : Rule String) :
    ((run f host events base).fw.builtin b).count r ≤ max 1 ((base.builtin b).count r) := by
  refine run_induction (P := fun fw _ => (fw.builtin b).count r ≤ max 1 ((base.builtin b).count r))
    (le_max_right _ _) (fun _ _ _ _ _ h => h) ?_ ?_ events
  · intro fw r' rest _ h
    rw [Forwarding.ensureRule_of_executes hexec]
    exact Firewall.count_ensure_le.trans (max_le (le_max_left _ _) h)
  · intro fw r' rest _ h
    rw [Forwarding.removeRule_of_executes hexec]
    exact Firewall.count_discard_le.trans h

/-- Where the rules are not there at first, what is there later is what may have been left of them,
each once, after the rules there were. -/
lemma Service.extends_of_absent (habsent : ∀ r ∈ f.rules, r.2 ∉ base.builtin r.1)
    (events : List ServiceEvent) :
    ∃ extra, base.Extends (run f host events base).fw extra ∧ (∀ b, (extra b).Nodup) ∧
      ∀ b, ∀ r ∈ extra b, (b, r) ∈ (run f host events base).stage.left f := by
  refine run_induction (P := fun fw stage => ∃ extra, base.Extends fw extra ∧
    (∀ b, (extra b).Nodup) ∧ ∀ b, ∀ r ∈ extra b, (b, r) ∈ stage.left f) ?_ ?_ ?_ ?_ events
  · exact ⟨fun _ => [], .refl, fun _ => List.nodup_nil, fun _ _ h => absurd h List.not_mem_nil⟩
  · rintro fw stage stage' - hleft ⟨extra, hext, hnodup, hin⟩
    exact ⟨extra, hext, hnodup, fun b r hr => hleft (hin b r hr)⟩
  · rintro fw ⟨b, r⟩ rest hr ⟨extra, hext, hnodup, hin⟩
    rw [Forwarding.ensureRule_of_executes hexec]
    refine ⟨_, hext.ensure (habsent _ hr) (Forwarding.accepts_of_mem hr fw), fun b' => ?_, ?_⟩
    · by_cases hb : b' = b
      · subst hb
        rw [Function.update_self]
        split_ifs with hmem
        · exact hnodup b'
        · exact List.nodup_append.2 ⟨hnodup b', List.nodup_singleton r, by
            rintro a ha _ hsingle rfl
            rw [List.mem_singleton.1 hsingle] at ha
            exact hmem ha⟩
      · rw [Function.update_of_ne hb]
        exact hnodup b'
    · intro b' r' hr'
      by_cases hb : b' = b
      · subst hb
        rw [Function.update_self] at hr'
        split_ifs at hr' with hmem
        · exact hin b' r' hr'
        · rcases List.mem_append.1 hr' with hold | hnew
          · exact hin b' r' hold
          · rw [List.mem_singleton.1 hnew]
            exact hr
      · rw [Function.update_of_ne hb] at hr'
        exact hin b' r' hr'
  · rintro fw ⟨b, r⟩ rest hr ⟨extra, hext, hnodup, hin⟩
    rw [Forwarding.removeRule_of_executes hexec]
    refine ⟨_, hext.discard (habsent _ hr), fun b' => ?_, fun b' r' hr' => ?_⟩
    · by_cases hb : b' = b
      · subst hb
        rw [Function.update_self]
        exact (hnodup b').erase r
      · rw [Function.update_of_ne hb]
        exact hnodup b'
    · by_cases hb : b' = b
      · subst hb
        rw [Function.update_self] at hr'
        -- the rule that is removed was there once
        obtain ⟨hne, hmem⟩ := (hnodup b').mem_erase_iff.1 hr'
        exact (List.mem_cons.1 (hin b' r' hmem)).resolve_left fun heq => hne (Prod.mk.inj heq).2
      · rw [Function.update_of_ne hb] at hr'
        exact (List.mem_cons.1 (hin b' r' hr')).resolve_left fun heq => hb (Prod.mk.inj heq).1

/-- Of a rule that is there at first no copy is ever added, and a stop removes one. -/
lemma Service.count_of_present {r : (Table × Hook) × Rule String} (hr : r ∈ f.rules)
    (hpresent : r.2 ∈ base.builtin r.1) (events : List ServiceEvent) :
    ((run f host events base).fw.builtin r.1).count r.2 ≤ (base.builtin r.1).count r.2 ∧
      (r ∉ (run f host events base).stage.left f →
        ((run f host events base).fw.builtin r.1).count r.2 < (base.builtin r.1).count r.2) := by
  have hpos : 1 ≤ (base.builtin r.1).count r.2 := List.one_le_count_iff.2 hpresent
  refine run_induction (P := fun fw stage => (fw.builtin r.1).count r.2 ≤ (base.builtin r.1).count r.2 ∧
    (r ∉ stage.left f → (fw.builtin r.1).count r.2 < (base.builtin r.1).count r.2)) ?_ ?_ ?_ ?_ events
  · exact ⟨le_rfl, fun hnot => absurd hr hnot⟩
  · rintro fw stage stage' - hleft ⟨hle, hlt⟩
    exact ⟨hle, fun hnot => hlt fun hin => hnot (hleft hin)⟩
  · rintro fw r' rest - ⟨hle, -⟩
    rw [Forwarding.ensureRule_of_executes hexec]
    exact ⟨Firewall.count_ensure_le.trans (max_le hpos hle), fun hnot => absurd hr hnot⟩
  · rintro fw r' rest - ⟨hle, hlt⟩
    rw [Forwarding.removeRule_of_executes hexec]
    refine ⟨Firewall.count_discard_le.trans hle, fun hnot => ?_⟩
    by_cases heq : r = r'
    · rw [← heq, Firewall.count_discard_self]
      omega
    · exact Firewall.count_discard_le.trans_lt (hlt fun hin =>
        (List.mem_cons.1 hin).elim heq hnot)

end Executed

/-- A start, a crash in the middle of it, a restart and a stop. -/
def crashAndStop : List ServiceEvent :=
  [.start, .advance, .advance, .crash, .start] ++ List.replicate 5 .advance ++ [.stop] ++
    List.replicate 5 .advance

/-- A concentrator behind `eth0`. -/
def behindEth0 : Forwarding := { egressInterface := "eth0" }

/-- A host that clamps the segment size of what it forwards. -/
def clamping : Iptables where
  builtin b := if b = (.mangle, .forward) then [⟨[.protocol .tcp, .syn], .clampMss⟩] else []
  user := Dict.empty

end Turbobond.Bond
