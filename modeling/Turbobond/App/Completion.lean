import Turbobond.App.Stages

/-!
# Whether an activation completes

Which exceptions of the optional subsystems end an activation: exactly those that the stage which
makes the call does not handle.
-/

namespace Turbobond.App.Stages

open Config Links Util Router

/-- All ten stages are recorded in their order, and the activation has ended in an active phase. -/
def Completes (s : Progress) : Prop :=
  s.stages.map StageResult.phase = Phase.all ∧ (s.phase = .active ∨ s.phase = .degraded)

instance (s : Progress) : Decidable (Completes s) := inferInstanceAs (Decidable (_ ∧ _))

/-! ### The essential calls -/

/-- Preflight passes. -/
def PreflightPasses (calls : Calls) : Prop :=
  ∃ report, calls.runPreflight = .ok report ∧ report.ok = true

/-- The links stage finds a usable uplink. -/
def LinksFound (calls : Calls) : Prop :=
  ∃ links, calls.discoverLinks = .ok links ∧ links ≠ [] ∧ Returns calls.startMonitor ∧
    ∃ link ∈ calls.links .links, link.usable = true

/-- The default route is installed, through the tunnel if it is wanted and starts. -/
def BondReturns (cfg : AppConfig) (calls : Calls) : Prop :=
  if (cfg.concentrator.enabled && cfg.concentrator.host ≠ "" && calls.tunnelSupported) = true then
    match calls.startTunnel with
    | .ok _ => Returns calls.installTunnelDefault ∧ Returns calls.addBypassRoutes
    | .error e => e.isTurboBondError = true ∧ Returns calls.installEcmpDefault
  else Returns calls.installEcmpDefault

/-- What carries traffic comes up: nothing raises but the optional subsystems. -/
structure Carried (cfg : AppConfig) (calls : Calls) : Prop where
  preflight : PreflightPasses calls
  links : LinksFound calls
  routing : Returns calls.programLinkTables ∧ Returns calls.configureEndpoints
  bond : BondReturns cfg calls
  pin : (resolveSipLink (calls.links .sip) cfg.sip).isSome = true → Returns calls.pinTrafficToLink
  selector : Returns calls.startSelector

/-! ### The optional calls -/

/-- The router stage: `connect` returns if it is called, and what turns the SIP ALG off raises nothing
but a `TurboBondError`. -/
def RouterHandled (cfg : AppConfig) (calls : RouterCalls) : Prop :=
  cfg.router.manage = true → ∃ status, calls.connect = .ok status ∧
    (status.reachable = true →
      (cfg.sip.enabled && cfg.sip.disableAlg && status.authenticated) = true →
        RaisesOnly Exn.isTurboBondError calls.setSipAlg ∧
          RaisesOnly Exn.isTurboBondError calls.status)

/-- The tuning stage: the router raises nothing but a `RouterError`, the file of the kernel parameters
nothing but an `OSError`, and the commands that are run return. -/
def TuningHandled (cfg : AppConfig) (calls : Calls) : Prop :=
  (routerProfile cfg.optimization ≠ [] →
      RaisesOnly Exn.isRouterError calls.tuning.applyOptimization) ∧
    (cfg.optimization.turbo = true → Returns calls.tuning.applySysctls ∧
      RaisesOnly Exn.isOSError calls.tuning.persist) ∧
    (usableInterfaces (calls.links .optimization) ≠ [] → Returns calls.tuning.applyQdisc)

/-- The transport stage, which handles whatever `start` raises: the snapshot of a client that has
started returns. -/
def ShadowsocksHandled (cfg : AppConfig) (calls : ShadowsocksCalls) : Prop :=
  shadowsocksUsable cfg.shadowsocks = true → Returns calls.start → Returns calls.snapshot

def SipHandled (calls : SipCalls) : Prop := Returns calls.apply ∧ Returns calls.applySipQos

/-- The LAN stage: the gateway comes up and the neighbours are read, and the router raises nothing but
a `TurboBondError`. -/
def LanHandled (cfg : AppConfig) (calls : LanCalls) : Prop :=
  cfg.lan.enabled = true → Returns calls.gateway ∧ Returns calls.apply ∧
    Returns calls.readNeighbours ∧
      (cfg.router.manage = true → RaisesOnly Exn.isTurboBondError calls.devices ∧
        RaisesOnly Exn.isTurboBondError calls.status)

/-- Whatever an optional subsystem raises has a handler in the stage that calls it. -/
structure Handled (cfg : AppConfig) (calls : Calls) : Prop where
  router : RouterHandled cfg calls.router
  tuning : TuningHandled cfg calls
  shadowsocks : ShadowsocksHandled cfg calls.shadowsocks
  sip : SipHandled calls.sip
  lan : LanHandled cfg calls.lan
  search : Returns calls.tuning.startSearchLoop

/-! ### What the stages record -/

/-- The phases of the stages that are recorded. -/
def recorded (s : Progress) : List Phase := s.stages.map StageResult.phase

variable {cfg : AppConfig} {calls : Calls}

lemma progress_returns (phase : Phase) : ReturnsIff recorded (progress phase) True [] :=
  .modify fun s => by simp [recorded]

lemma record_returns (phase : Phase) (ok : Bool) (detail : String) (degraded : Bool) :
    ReturnsIff recorded (record phase ok detail degraded) True [phase] :=
  .modify fun s => by simp [recorded]

lemma stagePreflight_returns :
    ReturnsIff recorded (stagePreflight calls) (PreflightPasses calls) [.preflight] := by
  rw [stagePreflight]
  refine .congr (.bind_nil (progress_returns .preflight) fun _ => .call_bind fun report =>
    .ite (fun _ => record_returns ..) fun _ => .bind_throw (record_returns ..) _) ?_
  simp [PreflightPasses]

lemma disableAlg_returns {calls : RouterCalls} (status : RouterStatus) :
    ReturnsIff recorded (disableAlg cfg calls status)
      ((cfg.sip.enabled && cfg.sip.disableAlg && status.authenticated) = true →
        RaisesOnly Exn.isTurboBondError calls.setSipAlg ∧
          RaisesOnly Exn.isTurboBondError calls.status) [] := by
  rw [disableAlg]
  refine .congr (.ite (fun _ => .bind_nil (.call _) fun _ => .bind_nil (.call _) fun _ => .pure _)
    fun _ => .pure _) ?_
  simp only [returns_suppress_iff, and_true, implies_true]

lemma stageRouter_returns {calls : RouterCalls} :
    ReturnsIff recorded (stageRouter cfg calls) (RouterHandled cfg calls) [.router] := by
  rw [stageRouter]
  refine .congr (.bind_nil (progress_returns .router) fun _ => .ite (fun _ => record_returns ..)
    fun _ => .call_bind fun status => .ite (fun _ => record_returns ..)
      fun _ => .bind_nil (disableAlg_returns status) fun _ => record_returns ..) ?_
  simp [RouterHandled]

lemma stageLinks_returns :
    ReturnsIff recorded (stageLinks calls) (LinksFound calls) [.links] := by
  rw [stageLinks]
  refine .congr (.bind_nil (progress_returns .links) fun _ => .call_bind fun links =>
    .ite (fun _ => .bind_throw (record_returns ..) _) fun _ => .bind_nil (.call _) fun _ =>
      .ite (fun _ => .bind_throw (record_returns ..) _) fun _ => record_returns ..) ?_
  refine (iff_of_eq (true_and _)).trans (exists_congr fun links => and_congr_right fun _ => ?_)
  by_cases hne : links = []
  · simp [hne]
  · simp [hne]

lemma tuneRouter_returns {opt : OptimizationConfig} {calls : TuningCalls} :
    ReturnsIff recorded (tuneRouter opt calls)
      (routerProfile opt ≠ [] → RaisesOnly Exn.isRouterError calls.applyOptimization) [] := by
  rw [tuneRouter]
  refine .congr (.ite (fun _ => .pure _) fun _ => .bind_nil (.call _) fun _ => .pure _) ?_
  simp only [returns_suppress_iff, and_true, implies_true, true_and, ne_eq]

lemma tuneKernel_returns {opt : OptimizationConfig} {calls : TuningCalls} :
    ReturnsIff recorded (tuneKernel opt calls)
      (opt.turbo = true → Returns calls.applySysctls ∧ RaisesOnly Exn.isOSError calls.persist)
      [] := by
  rw [tuneKernel]
  refine .congr (.ite (fun _ => .bind_nil (.call _) fun _ => .bind_nil (.call _) fun _ => .pure _)
    fun _ => .pure _) ?_
  simp only [returns_suppress_iff, and_true, implies_true]

lemma tuneQueues_returns {calls : TuningCalls} {interfaces : List String} :
    ReturnsIff recorded (tuneQueues calls interfaces)
      (interfaces ≠ [] → Returns calls.applyQdisc) [] := by
  rw [tuneQueues]
  refine .congr (.ite (fun _ => .pure _) fun _ => .bind_nil (.call _) fun _ => .pure _) ?_
  simp only [and_true, implies_true, true_and, ne_eq]

lemma stageOptimization_returns :
    ReturnsIff recorded (stageOptimization cfg calls) (TuningHandled cfg calls) [.optimization] := by
  rw [stageOptimization]
  refine .congr (.bind_nil (progress_returns .optimization) fun _ => .bind_nil
    (.bind_nil tuneRouter_returns fun _ => .bind_nil tuneKernel_returns fun _ =>
      .bind_nil tuneQueues_returns fun _ => .pure _) fun _ => record_returns ..) ?_
  simp only [TuningHandled, and_true, true_and]

lemma stageRouting_returns : ReturnsIff recorded (stageRouting calls)
    (Returns calls.programLinkTables ∧ Returns calls.configureEndpoints) [.routing] := by
  rw [stageRouting]
  refine .congr (.bind_nil (progress_returns .routing) fun _ => .bind_nil (.call _) fun _ =>
    .bind_nil (.call _) fun _ => record_returns ..) ?_
  simp only [and_true, true_and]

lemma stageEcmp_returns :
    ReturnsIff recorded (stageEcmp calls) (Returns calls.installEcmpDefault) [.bond] := by
  rw [stageEcmp]
  refine .congr (.bind_nil (progress_returns .bond) fun _ => .bind_nil (.call _) fun _ =>
    .bind_nil (.modify fun s => by simp [recorded]) fun _ => record_returns ..) ?_
  simp only [and_true, true_and]

lemma stageTunnel_returns : ReturnsIff recorded (stageTunnel calls)
    (Returns calls.installTunnelDefault ∧ Returns calls.addBypassRoutes) [.bond] := by
  rw [stageTunnel]
  refine .congr (.bind_nil (.call _) fun _ => .bind_nil (.call _) fun _ =>
    .bind_nil (.modify fun s => by simp [recorded]) fun _ => record_returns ..) ?_
  simp only [and_true]

lemma bondStarted_returns (started : Option Unit) :
    ReturnsIff recorded (bondStarted calls started)
      (if started.isSome then Returns calls.installTunnelDefault ∧ Returns calls.addBypassRoutes
        else Returns calls.installEcmpDefault) [.bond] := by
  cases started with
  | none =>
    refine .congr (.bind_nil (.modify fun s => by simp [recorded]) fun _ => stageEcmp_returns) ?_
    simp
  | some _ => exact stageTunnel_returns.congr (by simp)

lemma stageBond_returns :
    ReturnsIff recorded (stageBond cfg calls) (BondReturns cfg calls) [.bond] := by
  rw [stageBond, BondReturns]
  refine .congr (.ite (fun _ => .bind_nil (progress_returns .bond) fun _ =>
    .bind_nil (.modify fun s => by simp [recorded]) fun _ => .call_bind bondStarted_returns)
      fun _ => stageEcmp_returns) ?_
  split
  next hwanted =>
    simp only [hwanted, true_and, forall_const, not_true, false_implies, and_true]
    cases calls.startTunnel with
    | ok _ => simp [suppress]
    | error e =>
      by_cases he : e.isTurboBondError = true
      · simp [suppress, he]
      · simp [suppress, he]
  next hwanted => exact ⟨fun h => h.2 hwanted, fun h => ⟨fun h' => absurd h' hwanted, fun _ => h⟩⟩

lemma stageTransport_returns {calls : ShadowsocksCalls} : ReturnsIff recorded
    (stageTransport cfg calls) (ShadowsocksHandled cfg calls) [.transport] := by
  have hstarted : ReturnsIff recorded (transportStarted cfg calls calls.start)
      (Returns calls.start → Returns calls.snapshot) [.transport] := by
    cases hstart : calls.start with
    | error e => exact (record_returns ..).congr (by simp [Returns])
    | ok _ =>
      refine .congr (.bind_nil (.call _) fun _ => record_returns ..) ?_
      simp [Returns]
  rw [stageTransport]
  refine .congr (.bind_nil (progress_returns .transport) fun _ => .ite (fun _ => record_returns ..)
    fun _ => .ite (fun _ => record_returns ..) fun _ => hstarted) ?_
  simp [ShadowsocksHandled, shadowsocksUsable]

lemma pinSip_returns : ReturnsIff recorded (pinSip cfg calls)
    ((resolveSipLink (calls.links .sip) cfg.sip).isSome = true → Returns calls.pinTrafficToLink)
    [] := by
  rw [pinSip]
  refine .congr (.ite (fun _ => .bind_nil (.call _) fun _ => .pure _) fun _ => .pure _) ?_
  simp only [and_true, implies_true]

lemma stageSip_returns : ReturnsIff recorded (stageSip cfg calls)
    (((resolveSipLink (calls.links .sip) cfg.sip).isSome = true → Returns calls.pinTrafficToLink) ∧
      SipHandled calls.sip) [.sip] := by
  rw [stageSip]
  refine .congr (.bind_nil (progress_returns .sip) fun _ => .bind_nil pinSip_returns fun _ =>
    .bind_nil (.call _) fun _ => .bind_nil (.call _) fun _ => record_returns ..) ?_
  simp only [SipHandled, and_true, true_and]

lemma refreshDevices_returns {calls : LanCalls} : ReturnsIff recorded (refreshDevices cfg calls)
    (Returns calls.readNeighbours ∧
      (cfg.router.manage = true → RaisesOnly Exn.isTurboBondError calls.devices ∧
        RaisesOnly Exn.isTurboBondError calls.status)) [] := by
  rw [refreshDevices]
  refine .congr (.bind_nil (.call _) fun _ => .ite (fun _ => .bind_nil (.call _) fun _ =>
    .bind_nil (.call _) fun _ => .pure _) fun _ => .pure _) ?_
  simp only [returns_suppress_iff, and_true, implies_true]

lemma stageLan_returns {calls : LanCalls} :
    ReturnsIff recorded (stageLan cfg calls) (LanHandled cfg calls) [.lan] := by
  rw [stageLan]
  refine .congr (.bind_nil (progress_returns .lan) fun _ => .ite (fun _ => record_returns ..)
    fun _ => .bind_nil (.call _) fun _ => .bind_nil (.call _) fun _ =>
      .bind_nil refreshDevices_returns fun _ => record_returns ..) ?_
  simp [LanHandled]

lemma stageSelector_returns : ReturnsIff recorded (stageSelector calls)
    (Returns calls.startSelector ∧ Returns calls.tuning.startSearchLoop) [.selector] := by
  rw [stageSelector]
  refine .congr (.bind_nil (progress_returns .selector) fun _ => .bind_nil (.call _) fun _ =>
    .bind_nil (.call _) fun _ => record_returns ..) ?_
  simp only [and_true, true_and]

/-! ### What an activation records -/

/-- The stages return together exactly if nothing is raised that has no handler, and then they have
recorded themselves in their order. -/
theorem runStages_returns : ReturnsIff recorded (runStages cfg calls)
    (Carried cfg calls ∧ Handled cfg calls) Phase.all := by
  rw [runStages]
  refine .congr (.bind stagePreflight_returns fun _ => .bind stageRouter_returns fun _ =>
    .bind stageLinks_returns fun _ => .bind stageOptimization_returns fun _ =>
    .bind stageRouting_returns fun _ => .bind stageBond_returns fun _ =>
    .bind stageTransport_returns fun _ => .bind stageSip_returns fun _ =>
    .bind stageLan_returns fun _ => stageSelector_returns) ?_
  constructor
  · rintro ⟨hpreflight, hrouter, hlinks, htuning, hrouting, hbond, hshadowsocks, ⟨hpin, hsip⟩, hlan,
      hselector, hsearch⟩
    exact ⟨⟨hpreflight, hlinks, hrouting, hbond, hpin, hselector⟩,
      ⟨hrouter, htuning, hshadowsocks, hsip, hlan, hsearch⟩⟩
  · rintro ⟨hc, hh⟩
    exact ⟨hc.preflight, hh.router, hc.links, hh.tuning, hc.routing, hc.bond, hh.shadowsocks,
      ⟨hc.pin, hh.sip⟩, hh.lan, hc.selector, hh.search⟩

/-- An activation whose stages return completes. -/
lemma completes_of_returns (hc : Carried cfg calls) (hh : Handled cfg calls) (s : Progress) :
    Completes (activate cfg calls s).2 := by
  obtain ⟨_, s', hrun, hlog⟩ :=
    runStages_returns.returns ⟨hc, hh⟩ { s with stages := [], lastError := "" }
  rw [activate, hrun]
  refine ⟨by simpa [recorded] using hlog, ?_⟩
  simp only []
  split
  · exact .inl rfl
  · exact .inr rfl

/-- An activation that a stage ends fails. -/
lemma failed_of_raises (h : ¬ (Carried cfg calls ∧ Handled cfg calls)) (s : Progress) :
    (activate cfg calls s).2.phase = .failed := by
  obtain ⟨e, s', hrun⟩ := runStages_returns.raises h { s with stages := [], lastError := "" }
  rw [activate, hrun]

lemma not_completes_of_failed {s : Progress} (h : s.phase = .failed) : ¬ Completes s := by
  rintro ⟨-, hphase⟩
  rw [h] at hphase
  simp at hphase

def wan : Link ℚ := { name := "wan", interface := "eth0", gateway := "192.168.1.1", state := .up }

/-- A host with one working uplink, on which all calls return but those to the router. -/
def withRouter (router : RouterCalls) (tuning : TuningCalls) : Calls where
  router := router
  tuning := tuning
  discoverLinks := .ok [wan]
  links _ := [wan]

lemma carried_withRouter {cfg : AppConfig} (hconcentrator : cfg.concentrator.enabled = false)
    (router : RouterCalls) (tuning : TuningCalls) : Carried cfg (withRouter router tuning) where
  preflight := ⟨{}, rfl, rfl⟩
  links := ⟨[wan], rfl, by simp, ⟨(), rfl⟩, wan, List.mem_singleton_self _, rfl⟩
  routing := ⟨⟨{}, rfl⟩, ⟨true, rfl⟩⟩
  bond := by
    rw [BondReturns, hconcentrator]
    exact ⟨{}, rfl⟩
  pin _ := ⟨true, rfl⟩
  selector := ⟨(), rfl⟩

/-- `require_auth`. -/
def notSignedIn : Exn :=
  .turboBond .routerAuth "not signed in to the router web administrator"
    (some "Enter the router admin password on the turbobond sign-in screen.")

/-- The router does not answer, so nobody is signed in when the settings are to be applied. -/
def silentRouter : Calls :=
  withRouter { connect := .ok { error := "could not read the router state tree" } }
    { applyOptimization := .error notSignedIn }

lemma handled_silentRouter : Handled {} silentRouter where
  router _ := ⟨_, rfl, fun h => by simp at h⟩
  tuning := ⟨fun _ e he => by cases he; rfl, fun _ => ⟨⟨[], rfl⟩, fun _ => nofun⟩,
    fun _ => ⟨[], rfl⟩⟩
  shadowsocks h := by simp [shadowsocksUsable] at h
  sip := ⟨⟨{}, rfl⟩, ⟨(), rfl⟩⟩
  lan _ := ⟨⟨(), rfl⟩, ⟨{}, rfl⟩, ⟨(), rfl⟩, fun _ => ⟨fun _ => nofun, fun _ => nofun⟩⟩
  search := ⟨(), rfl⟩

/-- A state tree as the texts at its dotted paths. -/
instance : StateTree (List (String × String)) where
  buildStatus tree := .ok
    { model := (tree.lookup "general.model").getD ""
      firmware := (tree.lookup "general.FWVersion").getD "" }
  signedIn tree := tree.lookup "session.userRole" = some "Admin"

/-- The router takes the password, and does not answer the next request. -/
def lostAfterLogin : Exchange (List (String × String)) where
  first _ := .tree [("general.model", "MR7400")]
  attempts := [(.status 200, fun _ => .tree [("session.userRole", "Admin")])]
  again _ := .httpError "ReadTimeout"

def lostRouter : Calls :=
  withRouter { connect := outcome (connect "http://192.168.1.1" "secret" lostAfterLogin) { model := [] } }
    {}

end Turbobond.App.Stages
