import Turbobond.Sip.Chains

/-!
# Applying the policy for voice, and removing it

`apply` and `teardown` of `turbobond/sip/firewall.py` on `iptables`, over calls with one configuration
after the other.
-/

namespace Turbobond.Sip

open Config Util Netfilter

/-- What commands other than those of `iptables` return, if they are executed. -/
structure FirewallOutcomes where
  sysctl : CommandResult := {}
  /-- `modprobe -r`, of a module. -/
  modprobe : String → CommandResult := fun _ => {}
  /-- `nft -f`, all or nothing. -/
  load : CommandResult := {}

structure FirewallReport where
  backend : Backend
  applied : Bool := false
  wideOpen : Bool := false
  signallingPorts : List ℤ := []
  rtpRange : String := ""
  algDisabled : Bool := false
  helpersUnloaded : List String := []
  rulesInstalled : ℕ := 0
  errors : List String := []
  ruleset : List String := []
  deriving DecidableEq

def FirewallReport.ok (report : FirewallReport) : Bool := report.applied && report.errors.isEmpty

variable (cfg : SipConfig) (host : Host) (o : FirewallOutcomes)

/-- `disable_kernel_alg`: whether the helper is off, and the modules that are unloaded. -/
def disableKernelAlg : Bool × List String :=
  ((run host "sysctl" o.sysctl).passed,
    sipHelperModules.filter fun module => (run host "modprobe" (o.modprobe module)).passed)

/-- How often a word occurs in a text. -/
def occurrences (word text : String) : ℕ :=
  text.toList.tails.countP fun rest => word.toList.isPrefixOf rest

/-- Deletions of a hook until one fails, at most so many. -/
def unhook (b : Table × Hook) : ℕ → Iptables → Iptables
  | 0, fw => fw
  | n + 1, fw =>
    let (result, fw) := runIptables host (.delete (.builtin b) hookRule) fw
    if result.ok then unhook b n fw else fw

/-- `_flush_iptables`. -/
def flushIptables (fw : Iptables) : Iptables :=
  runAllIptables host [.flush (.user iptChain), .remove iptChain]
    (hooked.foldl (fun fw b => unhook host b 4 fw) fw)

/-- One of the commands of `apply`: the rules that are installed and the failures are counted, and a
chain that is there already is not a failure. -/
def install (c : Iptables.Command) (s : (ℕ × ℕ) × Iptables) : (ℕ × ℕ) × Iptables :=
  let (result, fw) := runIptables host c s.2
  (if result.passed then (s.1.1 + 1, s.1.2)
    else if "-N" ∈ Iptables.Command.args c then s.1
    else (s.1.1, s.1.2 + 1), fw)

/-- `apply`. -/
def apply (fw : Iptables) : FirewallReport × Iptables :=
  let report : FirewallReport :=
    { backend := backendInUse host, wideOpen := cfg.wideOpen, signallingPorts := allPorts cfg
      rtpRange := rtpRange cfg }
  if !cfg.enabled then
    ({ report with errors := ["SIP handling is disabled in the configuration"] }, fw)
  else
    let report :=
      if cfg.disableAlg then
        { report with
          algDisabled := (disableKernelAlg host o).1
          helpersUnloaded := (disableKernelAlg host o).2 }
      else report
    match report.backend with
    | .nftables =>
      let result := run host "nft" o.load
      let ruleset := buildNftRuleset cfg
      let text := "\n".intercalate ruleset
      (if result.passed then
          { report with
            ruleset, applied := true
            rulesInstalled := occurrences "accept" text + occurrences "notrack" text }
        else
          { report with
            ruleset
            errors := ["nft rejected the ruleset: " ++ result.stderr.trimAscii.toString] }, fw)
    | .iptables =>
      let ((installed, failures), fw) :=
        (iptCommands cfg).foldl (fun s c => install host c s) ((0, 0), flushIptables host fw)
      ({ report with
          rulesInstalled := installed
          applied := 0 < installed
          errors :=
            if failures = 0 then [] else [toString failures ++ " iptables rule(s) were rejected"] }, fw)
    | .none =>
      ({ report with
          errors := ["neither nft nor iptables is installed, so SIP rules were not applied"] }, fw)

/-- `teardown`. -/
def teardown (fw : Iptables) : Iptables :=
  match backendInUse host with
  | .iptables => flushIptables host fw
  | _ => fw

/-- What calls of `apply` leave, one after the other, each with its configuration. -/
def applyAll (calls : List (SipConfig × FirewallOutcomes)) (fw : Iptables) : Iptables :=
  calls.foldl (fun fw call => (apply call.1 host call.2 fw).2) fw

/-- There is nothing of the policy: neither its chain nor a rule that jumps to it. -/
structure Untouched (fw : Iptables) : Prop where
  chain : fw.user.get? iptChain = none
  unreferenced : ¬ fw.Referenced iptChain

/-- All calls leave what the last one alone leaves, and a teardown leaves what there was. -/
structure Converges (calls : List (SipConfig × FirewallOutcomes)) (fw : Iptables) : Prop where
  last : ∀ call ∈ calls.getLast?, applyAll host calls fw = (apply call.1 host call.2 fw).2
  removed : teardown host (applyAll host calls fw) = fw

variable {cfg host o} {fw base : Iptables}

lemma executesIptables_of_backendInUse (h : backendInUse host = .iptables) :
    executesIptables host = true := by
  unfold backendInUse at h
  split at h
  · exact absurd h (by simp)
  · rename_i hdry
    split at h
    · exact absurd h (by simp)
    · split at h
      · rename_i hiptables
        simp [executesIptables, hdry, hiptables]
      · exact absurd h (by simp)

/-! ### What a call does -/

variable (host) in
lemma snd_foldl_install (cs : List Iptables.Command) (s : (ℕ × ℕ) × Iptables) :
    (cs.foldl (fun s c => install host c s) s).2 = runAllIptables host cs s.2 := by
  induction cs generalizing s with
  | nil => rfl
  | cons c cs ih => exact ih _

/-- A call flushes what there is and runs its commands. -/
lemma apply_snd (hb : backendInUse host = .iptables) (henabled : cfg.enabled = true) :
    (apply cfg host o fw).2 = (flushIptables host fw).execAll (iptCommands cfg) := by
  have hfold := snd_foldl_install host (iptCommands cfg) ((0, 0), flushIptables host fw)
  rw [runAllIptables_of_executes (executesIptables_of_backendInUse hb)] at hfold
  rw [apply, henabled, hb, ← hfold]
  cases cfg.disableAlg with
  | true => rfl
  | false => rfl

lemma apply_snd_of_disabled (hdisabled : cfg.enabled = false) : (apply cfg host o fw).2 = fw := by
  rw [apply, hdisabled]
  rfl

lemma unhook_of_notMem (hexec : executesIptables host = true) {b : Table × Hook}
    (h : hookRule ∉ fw.builtin b) (n : ℕ) : unhook host b n fw = fw := by
  cases n with
  | zero => rfl
  | succ n =>
    have hfails := Firewall.exec_delete_builtin_of_notMem h
    have hok : (runIptables host (.delete (.builtin b) hookRule) fw).1.ok = false := by
      rw [ok_runIptables hexec, hfails]
    simp only [unhook, hok, Bool.false_eq_true, if_false]
    rw [runIptables_of_executes hexec, hfails]

/-- A hook that is there once is deleted. -/
lemma unhook_of_cons (hexec : executesIptables host = true) {b : Table × Hook}
    {l : List (Rule String)} (h : fw.builtin b = hookRule :: l) (hl : hookRule ∉ l) (n : ℕ) :
    unhook host b (n + 1) fw = fw.set l (.builtin b) := by
  have hdelete : fw.exec (.delete (.builtin b) hookRule) = (true, fw.set l (.builtin b)) := by
    rw [Firewall.exec_delete_builtin (by rw [h]; exact List.mem_cons_self), h, List.erase_cons_head]
  have hok : (runIptables host (.delete (.builtin b) hookRule) fw).1.ok = true := by
    rw [ok_runIptables hexec, hdelete]
  simp only [unhook, hok, if_true]
  rw [runIptables_of_executes hexec, hdelete]
  exact unhook_of_notMem hexec (by simpa [Firewall.set] using hl) n

lemma Untouched.hookRule_notMem (h : Untouched fw) (b : Table × Hook) :
    hookRule ∉ fw.builtin b := fun hmem => h.unreferenced (.inl ⟨b, hookRule, hmem, rfl⟩)

/-- There is nothing to flush. -/
lemma flushIptables_of_untouched (hexec : executesIptables host = true) (h : Untouched fw) :
    flushIptables host fw = fw := by
  have hhooks : hooked.foldl (fun fw b => unhook host b 4 fw) fw = fw := by
    simp only [hooked, List.foldl_cons, List.foldl_nil]
    rw [unhook_of_notMem hexec (h.hookRule_notMem _), unhook_of_notMem hexec (h.hookRule_notMem _),
      unhook_of_notMem hexec (h.hookRule_notMem _)]
  rw [flushIptables, hhooks, runAllIptables_of_executes hexec]
  simp [Firewall.exec, Firewall.change, Firewall.get?, h.chain]

/-- The policy is installed over `base`: what the chains without a hook hold may be anything that
does not jump to its chain. -/
structure Installed (base fw : Iptables) : Prop where
  hooks : ∀ b ∈ hooked, fw.builtin b = hookRule :: base.builtin b
  others : ∀ b, b ∉ hooked → ∀ r ∈ fw.builtin b, r.target ≠ some iptChain
  user : ∃ rules, fw.user = base.user.set iptChain rules

/-- The hooks are deleted, one built-in chain after the other. -/
lemma foldl_unhook (hexec : executesIptables host = true) (hbase : Untouched base)
    {bs : List (Table × Hook)} (hnodup : bs.Nodup)
    (hhooks : ∀ b ∈ bs, fw.builtin b = hookRule :: base.builtin b) :
    bs.foldl (fun fw b => unhook host b 4 fw) fw =
      { fw with builtin := fun b => if b ∈ bs then base.builtin b else fw.builtin b } := by
  induction bs generalizing fw with
  | nil => rfl
  | cons b bs ih =>
    obtain ⟨hb, hnodup⟩ := List.nodup_cons.1 hnodup
    have hfirst := unhook_of_cons hexec (hhooks b List.mem_cons_self) (hbase.hookRule_notMem b) 3
    have hrest : ∀ b' ∈ bs, (fw.set (base.builtin b) (.builtin b)).builtin b' =
        hookRule :: base.builtin b' := by
      intro b' hmem
      have hne : b' ≠ b := fun heq => hb (heq ▸ hmem)
      exact (Function.update_of_ne hne _ _).trans (hhooks b' (List.mem_cons_of_mem _ hmem))
    rw [List.foldl_cons, hfirst, ih hnodup hrest]
    refine Firewall.ext' (fun b' => ?_) rfl
    by_cases hb' : b' = b
    · subst hb'
      simp [Firewall.set, hb]
    · simp [Firewall.set, hb']

/-- A flush takes its chain and the hooks away, and leaves the other chains. -/
lemma flushIptables_of_installed (hexec : executesIptables host = true) (hbase : Untouched base)
    (h : Installed base fw) :
    flushIptables host fw =
      { builtin := fun b => if b ∈ hooked then base.builtin b else fw.builtin b
        user := base.user } := by
  obtain ⟨rules, huser⟩ := h.user
  set unhooked : Iptables :=
    { builtin := fun b => if b ∈ hooked then base.builtin b else fw.builtin b, user := fw.user }
    with hunhooked
  have hhooks : hooked.foldl (fun fw b => unhook host b 4 fw) fw = unhooked :=
    foldl_unhook hexec hbase (by decide) h.hooks
  have hflush : (unhooked.exec (.flush (.user iptChain))).2 =
      { unhooked with user := base.user.set iptChain [] } := by
    simp [hunhooked, Firewall.exec, Firewall.change, Firewall.get?, huser, Firewall.set,
      Dict.set_set_self]
  have hunreferenced :
      ¬ Firewall.Referenced { unhooked with user := base.user.set iptChain [] } iptChain := by
    rintro (⟨b, r, hr, htarget⟩ | ⟨rules', hrules', r, hr, htarget⟩)
    · by_cases hb : b ∈ hooked
      · exact hbase.unreferenced (.inl ⟨b, r, (if_pos hb).subst (motive := (r ∈ ·)) hr, htarget⟩)
      · exact h.others b hb r ((if_neg hb).subst (motive := (r ∈ ·)) hr) htarget
    · obtain ⟨u, hu⟩ := (Dict.mem_values_iff _ _).1 hrules'
      rcases Dict.of_get?_set hu with ⟨-, rfl⟩ | ⟨-, hu⟩
      · exact absurd hr List.not_mem_nil
      · exact hbase.unreferenced
          (.inr ⟨rules', (Dict.mem_values_iff _ _).2 ⟨u, hu⟩, r, hr, htarget⟩)
  rw [flushIptables, hhooks, runAllIptables_of_executes hexec]
  simp only [Firewall.execAll_cons, Firewall.execAll_nil]
  rw [hflush, Firewall.exec, if_pos ⟨Dict.get?_set_self _ _ _, hunreferenced⟩]
  simp only [Dict.erase_set_self, Dict.erase_of_get?_eq_none hbase.chain, hunhooked]

/-! ### What calls leave -/

/-- The configurations of the calls that are not turned off. -/
def enabledConfigs (calls : List (SipConfig × FirewallOutcomes)) : List SipConfig :=
  (calls.map Prod.fst).filter (·.enabled)

/-- What a flush leaves, where nothing of the policy is there or it is installed. -/
lemma flushIptables_eq (hexec : executesIptables host = true) (hbase : Untouched base)
    (h : fw = base ∨ Installed base fw) :
    flushIptables host fw =
      { builtin := fun b => if b ∈ hooked then base.builtin b else fw.builtin b
        user := base.user } := by
  rcases h with rfl | h
  · rw [flushIptables_of_untouched hexec hbase]
    exact Firewall.ext' (fun b => by simp) rfl
  · exact flushIptables_of_installed hexec hbase h

lemma front_hooked {b : Table × Hook} (hb : b ∈ hooked) : front cfg b = [hookRule] := by
  simp only [hooked, List.mem_cons, List.not_mem_nil, or_false] at hb
  rcases hb with rfl | rfl | rfl
  · rfl
  · rfl
  · rfl

lemma back_hooked {b : Table × Hook} (hb : b ∈ hooked) : back cfg b = [] := by
  simp only [hooked, List.mem_cons, List.not_mem_nil, or_false] at hb
  rcases hb with rfl | rfl | rfl
  · rfl
  · rfl
  · rfl

/-- Only the hooks jump to the chain of the policy. -/
lemma target_of_mem_front {b : Table × Hook} (hb : b ∉ hooked) {r : Rule String}
    (hr : r ∈ front cfg b ∨ r ∈ back cfg b) : r.target = none := by
  obtain ⟨table, hook⟩ := b
  rw [front.eq_def, back.eq_def, ifFew, ifFew] at hr
  cases table with
  | filter => cases hook <;> simp_all [hooked]
  | nat => cases hook <;> simp at hr
  | mangle =>
    cases hook <;> simp at hr
    rcases hr with rfl | ⟨-, rfl⟩
    · rfl
    · rfl
  | raw =>
    cases hook <;> simp at hr
    all_goals
      obtain ⟨-, rfl | ⟨-, rfl | rfl⟩⟩ := hr
      · rfl
      · rfl
      · rfl

/-- A call that is not turned off adds its rules around those of each chain, the hooks apart that the
flush has deleted before. -/
lemma apply_of_enabled (hb : backendInUse host = .iptables) (henabled : cfg.enabled = true)
    (hbase : Untouched base) (h : fw = base ∨ Installed base fw) :
    (∀ b, (apply cfg host o fw).2.builtin b =
        front cfg b ++ (if b ∈ hooked then base.builtin b else fw.builtin b) ++ back cfg b) ∧
      (apply cfg host o fw).2.user = base.user.set iptChain (ownRules cfg) := by
  rw [apply_snd hb henabled, flushIptables_eq (executesIptables_of_backendInUse hb) hbase h]
  exact execAll_iptCommands _ _ hbase.chain

lemma installed_apply (hb : backendInUse host = .iptables) (henabled : cfg.enabled = true)
    (hbase : Untouched base) (h : fw = base ∨ Installed base fw) :
    Installed base (apply cfg host o fw).2 := by
  obtain ⟨hbuiltin, huser⟩ := apply_of_enabled (o := o) hb henabled hbase h
  refine ⟨fun b hmem => ?_, fun b hmem r hr => ?_, ownRules cfg, huser⟩
  · rw [hbuiltin, front_hooked hmem, back_hooked hmem, if_pos hmem, List.append_nil]
    rfl
  · rw [hbuiltin, if_neg hmem, List.mem_append, List.mem_append] at hr
    rcases hr with (hr | hr) | hr
    · rw [target_of_mem_front hmem (.inl hr)]
      exact fun h => by cases h
    · rcases h with rfl | h
      · exact fun htarget => hbase.unreferenced (.inl ⟨b, r, hr, htarget⟩)
      · exact h.others b hmem r hr
    · rw [target_of_mem_front hmem (.inr hr)]
      exact fun h => by cases h

lemma applyAll_concat (calls : List (SipConfig × FirewallOutcomes))
    (call : SipConfig × FirewallOutcomes) (fw : Iptables) :
    applyAll host (calls ++ [call]) fw = (apply call.1 host call.2 (applyAll host calls fw)).2 := by
  simp [applyAll]

/-- The policy is installed over what there was once a call was not turned off. -/
lemma installed_applyAll (hb : backendInUse host = .iptables) (hbase : Untouched base)
    (calls : List (SipConfig × FirewallOutcomes)) :
    applyAll host calls base = base ∨ Installed base (applyAll host calls base) := by
  induction calls using List.reverseRecOn with
  | nil => exact .inl rfl
  | append_singleton calls call ih =>
    rw [applyAll_concat]
    cases henabled : call.1.enabled with
    | true => exact .inr (installed_apply hb henabled hbase ih)
    | false =>
      rw [apply_snd_of_disabled henabled]
      exact ih

/-- The chains without a hook keep what each call has added, the last call outermost. -/
theorem builtin_applyAll (hb : backendInUse host = .iptables) (hbase : Untouched base)
    (calls : List (SipConfig × FirewallOutcomes)) {b : Table × Hook} (hmem : b ∉ hooked) :
    (applyAll host calls base).builtin b =
      (enabledConfigs calls).reverse.flatMap (front · b) ++ base.builtin b ++
        (enabledConfigs calls).flatMap (back · b) := by
  induction calls using List.reverseRecOn with
  | nil => simp [applyAll, enabledConfigs]
  | append_singleton calls call ih =>
    rw [applyAll_concat]
    cases henabled : call.1.enabled with
    | true =>
      have hlast : enabledConfigs (calls ++ [call]) = enabledConfigs calls ++ [call.1] := by
        simp [enabledConfigs, henabled]
      rw [(apply_of_enabled hb henabled hbase (installed_applyAll hb hbase calls)).1, if_neg hmem, ih,
        hlast]
      simp
    | false =>
      have hlast : enabledConfigs (calls ++ [call]) = enabledConfigs calls := by
        simp [enabledConfigs, henabled]
      rw [apply_snd_of_disabled henabled, ih, hlast]

/-- In the chains of the filter table the policy converges, and a teardown takes it away. -/
theorem filter_converges (hb : backendInUse host = .iptables) (hbase : Untouched base)
    (calls : List (SipConfig × FirewallOutcomes)) {call : SipConfig × FirewallOutcomes}
    (henabled : call.1.enabled = true) :
    (∀ b ∈ hooked, (applyAll host (calls ++ [call]) base).builtin b =
        (apply call.1 host call.2 base).2.builtin b) ∧
      (applyAll host (calls ++ [call]) base).user = (apply call.1 host call.2 base).2.user ∧
      (∀ b ∈ hooked, (teardown host (applyAll host (calls ++ [call]) base)).builtin b =
        base.builtin b) ∧
      (teardown host (applyAll host (calls ++ [call]) base)).user = base.user := by
  have hinstalled := installed_applyAll hb hbase (calls ++ [call])
  obtain ⟨hbuiltin, huser⟩ :=
    apply_of_enabled (o := call.2) hb henabled hbase (installed_applyAll hb hbase calls)
  obtain ⟨hbuiltin', huser'⟩ := apply_of_enabled (o := call.2) hb henabled hbase (.inl rfl)
  rw [teardown, hb]
  dsimp only
  rw [flushIptables_eq (executesIptables_of_backendInUse hb) hbase hinstalled, applyAll_concat]
  refine ⟨fun b hmem => ?_, huser.trans huser'.symm, fun b hmem => if_pos hmem, rfl⟩
  rw [hbuiltin, hbuiltin', if_pos hmem, if_pos hmem]

/-- The policy converges and can be removed on `iptables` if and only if it is turned off in every
call: the rules outside the filter table are added by each call and deleted by none. -/
theorem converges_iff (hb : backendInUse host = .iptables) (hbase : Untouched base)
    (calls : List (SipConfig × FirewallOutcomes)) :
    Converges host calls base ↔ ∀ call ∈ calls, call.1.enabled = false := by
  constructor
  · intro h
    have hremoved := h.removed
    rw [teardown, hb] at hremoved
    dsimp only at hremoved
    rw [flushIptables_eq (executesIptables_of_backendInUse hb) hbase
      (installed_applyAll hb hbase calls)] at hremoved
    have hmangle : (applyAll host calls base).builtin (.mangle, .output) =
        base.builtin (.mangle, .output) :=
      congrFun (congrArg Firewall.builtin hremoved) (.mangle, .output)
    rw [builtin_applyAll hb hbase calls (by decide), List.append_assoc] at hmangle
    have hlength := congrArg List.length hmangle
    simp only [List.length_append] at hlength
    have hnil : (enabledConfigs calls).flatMap (back · (.mangle, .output)) = [] :=
      List.eq_nil_of_length_eq_zero (by omega)
    intro call hmem
    by_contra henabled
    have hconfig : call.1 ∈ enabledConfigs calls :=
      List.mem_filter.2 ⟨List.mem_map_of_mem hmem, by simpa using henabled⟩
    -- the value for media is always written
    exact absurd (List.flatMap_eq_nil_iff.1 hnil _ hconfig) (List.cons_ne_nil _ _)
  · intro hdisabled
    have hsame : applyAll host calls base = base := by
      induction calls using List.reverseRecOn with
      | nil => rfl
      | append_singleton calls call ih =>
        rw [applyAll_concat, ih fun c hc => hdisabled c (List.mem_append_left _ hc)]
        exact apply_snd_of_disabled (hdisabled call (by simp))
    refine ⟨fun call hlast => ?_, ?_⟩
    · rw [hsame, apply_snd_of_disabled (hdisabled call (List.mem_of_mem_getLast? hlast))]
    · rw [hsame, teardown, hb]
      exact flushIptables_of_untouched (executesIptables_of_backendInUse hb) hbase

/-- A host with `iptables` and without `nft`. -/
def iptablesHost : Host := { dryRun := false, which := fun binary => binary = "iptables" }

/-- No rules at all. -/
def noRules : Iptables := ⟨fun _ => [], Dict.empty⟩

lemma untouched_noRules : Untouched noRules := by
  refine ⟨rfl, ?_⟩
  rintro (⟨b, r, hr, -⟩ | ⟨rules, hrules, -⟩)
  · exact absurd hr List.not_mem_nil
  · exact absurd hrules List.not_mem_nil

/-- A policy that is turned off leaves no rules. -/
theorem converges_of_disabled :
    Converges iptablesHost [({ enabled := false }, {})] noRules :=
  (converges_iff rfl untouched_noRules _).2 (by simp)

/-- The policy of the defaults is not taken away again. -/
theorem not_converges_default : ¬ Converges iptablesHost [({}, {})] noRules := by
  intro h
  have hmangle := congrFun (congrArg Firewall.builtin h.removed) (.mangle, .output)
  have hinstalled : applyAll iptablesHost [({}, {})] noRules = noRules ∨
      Installed noRules (applyAll iptablesHost [({}, {})] noRules) :=
    installed_applyAll rfl untouched_noRules [({}, {})]
  rw [teardown, show backendInUse iptablesHost = .iptables from rfl] at hmangle
  dsimp only at hmangle
  rw [flushIptables_eq rfl untouched_noRules hinstalled] at hmangle
  have hrules := builtin_applyAll (show backendInUse iptablesHost = .iptables from rfl)
    untouched_noRules [({}, {})] (b := (.mangle, .output)) (by decide)
  exact absurd (hrules.symm.trans hmangle) (List.append_ne_nil_of_right_ne_nil _ (List.cons_ne_nil _ _))

end Turbobond.Sip
