import Turbobond.Config.Reload
import Turbobond.Links.Discovery

/-!
# Changes of the configuration

The operations of the API that change the configuration, each as it is left in memory.
-/

namespace Turbobond.App

open Config Links

/-- What the sign-in form says of the configuration. -/
structure SignInRequest where
  routerPassword : Option String := none
  routerHost : Option String := none
  concentratorHost : Option String := none
  concentratorPort : Option ℤ := none
  concentratorPsk : Option String := none
  shadowsocksHost : Option String := none
  shadowsocksPort : Option ℤ := none
  shadowsocksPassword : Option String := none
  shadowsocksMethod : Option String := none

/-- A setting that is neither missing nor empty. -/
def text (value : Option String) : Option String := value.filter fun s => s ≠ ""

/-- A setting that is neither missing nor zero. -/
def number (value : Option ℤ) : Option ℤ := value.filter fun n => n ≠ 0

/-- Apply a setting, if there is one. -/
def given {α : Type} (value : Option α) (update : AppConfig → α → AppConfig) (cfg : AppConfig) :
    AppConfig :=
  match value with
  | some a => update cfg a
  | none => cfg

/-- `_apply_signin_settings`. -/
def applySigninSettings (cfg : AppConfig) (payload : SignInRequest) : AppConfig :=
  cfg
  |> given (text payload.routerPassword) (fun cfg password =>
    { cfg with router := { cfg.router with password } })
  |> given (text payload.routerHost) (fun cfg host =>
    { cfg with router := { cfg.router with host } })
  |> given (text payload.concentratorHost) (fun cfg host =>
    { cfg with concentrator := { cfg.concentrator with host, enabled := true } })
  |> given (number payload.concentratorPort) (fun cfg port =>
    { cfg with concentrator := { cfg.concentrator with port } })
  |> given (text payload.concentratorPsk) (fun cfg pskHex =>
    { cfg with concentrator := { cfg.concentrator with pskHex } })
  |> given (text payload.shadowsocksHost) (fun cfg host =>
    { cfg with shadowsocks := { cfg.shadowsocks with host, enabled := true } })
  |> given (number payload.shadowsocksPort) (fun cfg port =>
    { cfg with shadowsocks := { cfg.shadowsocks with port } })
  |> given (text payload.shadowsocksPassword) (fun cfg password =>
    { cfg with shadowsocks := { cfg.shadowsocks with password } })
  |> given (text payload.shadowsocksMethod) (fun cfg method =>
    { cfg with shadowsocks := { cfg.shadowsocks with method } })

/-- `patch_config`; an error is answered with status 400. -/
def patchConfig (p : Pydantic) (cfg : AppConfig) (values : Fields) : Except String AppConfig :=
  match AppConfig.modelValidate p ((cfg.modelDump p).patch values) with
  | .ok updated => .ok (cfg.absorb updated).assignTableIds
  | .error exc => .error exc

/-- The activation puts the links it has found into the configuration, if they pass. -/
def persistLinks (cfg : AppConfig) (found : List (Link ℚ)) : AppConfig :=
  match (linksToConfig (assignIds found)).mapM LinkConfig.check with
  | .ok links => { cfg with links }
  | .error _ => cfg

inductive Operation where
  /-- `ensure_secret`, with a new secret. -/
  | ensureSecret (secret : String)
  /-- `_enrol`, with the hash of the password. -/
  | enrol (username passwordHash : String)
  | changePassword (passwordHash : String)
  | signin (payload : SignInRequest)
  | patch (values : Fields)
  /-- `set_preferred`, on behalf of `select_route`. -/
  | selectRoute (route : RouteName)
  | setDeviceRoute (device : String) (route : RouteName)
  | persistLinks (found : List (Link ℚ))
  /-- `ensure_psk`, with a new key. -/
  | ensurePsk (key : String)

/-- What an operation leaves in memory. -/
def apply (p : Pydantic) (cfg : AppConfig) : Operation → AppConfig
  | .ensureSecret secret =>
    if cfg.auth.sessionSecret = "" then
      { cfg with auth := { cfg.auth with sessionSecret := secret } }
    else cfg
  | .enrol username passwordHash =>
    if cfg.auth.passwordHash = "" then
      { cfg with auth := { cfg.auth with
          username := if username = "" then cfg.auth.username else username
          passwordHash } }
    else cfg
  | .changePassword passwordHash => { cfg with auth := { cfg.auth with passwordHash } }
  | .signin payload => applySigninSettings cfg payload
  | .patch values => ((patchConfig p cfg values).toOption).getD cfg
  | .selectRoute route => { cfg with routes := { cfg.routes with defaultRoute := route } }
  | .setDeviceRoute device route =>
    { cfg with lan := { cfg.lan with deviceRoutes := cfg.lan.deviceRoutes.set device route } }
  | .persistLinks found => persistLinks cfg found
  | .ensurePsk key =>
    if cfg.concentrator.pskHex = "" then
      { cfg with concentrator := { cfg.concentrator with pskHex := key } }
    else cfg

/-- A sequence of operations. -/
def applyAll (p : Pydantic) (operations : List Operation) (cfg : AppConfig) : AppConfig :=
  operations.foldl (apply p) cfg

/-! ### What the operations keep -/

/-- Everything that `load_config` checks or completes, apart from the host of the router and the
endpoint of the shadow route. -/
structure Kept (cfg : AppConfig) : Prop where
  optimization : cfg.optimization.Valid
  links : ∀ link ∈ cfg.links, link.Valid
  ids : ∀ link ∈ cfg.links, link.tableId ≠ 0
  concentrator : cfg.concentrator.Valid
  sip : cfg.sip.Valid

variable {p : Pydantic} {cfg : AppConfig}

lemma kept_assignTableIds (h : cfg.Valid) : Kept cfg.assignTableIds where
  optimization := h.optimization
  links link hlink := by
    obtain ⟨link', hmem, heq⟩ := AppConfig.exists_of_mem_assignIds hlink
    rw [heq]
    exact h.links link' hmem
  ids link hlink := AppConfig.tableId_ne_zero_of_mem_assignIds (by norm_num) hlink
  concentrator := h.concentrator
  sip := h.sip

lemma valid_of_modelValidate {fields : Fields} (h : AppConfig.modelValidate p fields = .ok cfg) :
    cfg.Valid := by
  rw [AppConfig.modelValidate] at h
  cases hread : AppConfig.read p fields with
  | none => simp [hread] at h
  | some c =>
    cases hcheck : c.check with
    | error e => simp [hread, hcheck] at h
    | ok c' =>
      obtain ⟨hvalid, host, -, rfl⟩ := AppConfig.check_eq_ok.1 hcheck
      simp only [hread, hcheck, Except.ok.injEq] at h
      subst h
      exact ⟨hvalid.optimization, hvalid.links, hvalid.concentrator, hvalid.shadowsocks, hvalid.sip⟩

lemma kept_loadConfig {path dir : String} {file : File}
    (h : loadConfig p path dir file = .ok cfg) : Kept cfg := by
  cases file with
  | missing =>
    obtain rfl := Except.ok.inj h
    have hvalid := (AppConfig.check_eq_ok.1 check_default).1
    exact kept_assignTableIds
      ⟨hvalid.optimization, hvalid.links, hvalid.concentrator, hvalid.shadowsocks, hvalid.sip⟩
  | broken exc => exact absurd h (by simp [loadConfig])
  | text value =>
    rw [loadConfig] at h
    split at h
    · rename_i raw _
      simp only [] at h
      cases hread : AppConfig.modelValidate p
          (if (raw.lookup "config_dir").isNone then raw ++ [("config_dir", .str dir)] else raw) with
      | error exc => simp [hread, Except.map, Except.mapError] at h
      | ok c =>
        simp only [hread, Except.map, Except.mapError, Except.ok.injEq] at h
        subst h
        exact kept_assignTableIds (valid_of_modelValidate hread)
    · exact absurd h (by simp)

lemma Kept.given {α : Type} {value : Option α} {update : AppConfig → α → AppConfig} (h : Kept cfg)
    (hupdate : ∀ cfg a, Kept cfg → value = some a → Kept (update cfg a)) :
    Kept (given value update cfg) := by
  cases value with
  | none => exact h
  | some a => exact hupdate cfg a h rfl

lemma ne_empty_of_text {value : Option String} {s : String} (h : text value = some s) : s ≠ "" := by
  simpa using (Option.filter_eq_some_iff.1 h).2

lemma Kept.router (h : Kept cfg) (router : RouterConfig) : Kept { cfg with router } :=
  ⟨h.optimization, h.links, h.ids, h.concentrator, h.sip⟩

lemma Kept.shadowsocks (h : Kept cfg) (shadowsocks : ShadowsocksConfig) :
    Kept { cfg with shadowsocks } :=
  ⟨h.optimization, h.links, h.ids, h.concentrator, h.sip⟩

lemma Kept.setConcentrator (h : Kept cfg) {concentrator : ConcentratorConfig}
    (hvalid : concentrator.Valid) : Kept { cfg with concentrator } :=
  ⟨h.optimization, h.links, h.ids, hvalid, h.sip⟩

lemma Kept.applySigninSettings (h : Kept cfg) (payload : SignInRequest) :
    Kept (applySigninSettings cfg payload) := by
  refine Kept.given ?_ fun _ _ h _ => h.shadowsocks _
  refine Kept.given ?_ fun _ _ h _ => h.shadowsocks _
  refine Kept.given ?_ fun _ _ h _ => h.shadowsocks _
  refine Kept.given ?_ fun _ _ h _ => h.shadowsocks _
  refine Kept.given ?_ fun _ _ h _ => h.setConcentrator h.concentrator
  refine Kept.given ?_ fun _ _ h _ => h.setConcentrator h.concentrator
  refine Kept.given ?_ fun _ _ h hhost => h.setConcentrator fun _ => ne_empty_of_text hhost
  refine Kept.given ?_ fun _ _ h _ => h.router _
  exact h.given fun _ _ h _ => h.router _

lemma Kept.patchConfig (h : Kept cfg) (values : Fields) :
    Kept (((patchConfig p cfg values).toOption).getD cfg) := by
  rw [App.patchConfig]
  split
  · rename_i updated hupdated
    have hvalid := valid_of_modelValidate hupdated
    have habsorbed : (cfg.absorb updated).Valid :=
      ⟨hvalid.optimization, hvalid.links, hvalid.concentrator, hvalid.shadowsocks, hvalid.sip⟩
    exact kept_assignTableIds habsorbed
  · exact h

lemma Kept.persistLinks (h : Kept cfg) (found : List (Link ℚ)) : Kept (persistLinks cfg found) := by
  rw [App.persistLinks]
  split
  · rename_i links hlinks
    obtain ⟨hvalid, rfl⟩ := mapM_check_eq_ok.1 hlinks
    exact ⟨h.optimization, hvalid, fun _ hlink => tableId_ne_zero_of_mem_linksToConfig hlink,
      h.concentrator, h.sip⟩
  · exact h

lemma Kept.apply (h : Kept cfg) (operation : Operation) : Kept (apply p cfg operation) := by
  cases operation with
  | ensureSecret secret =>
    rw [App.apply]
    split
    · exact ⟨h.optimization, h.links, h.ids, h.concentrator, h.sip⟩
    · exact h
  | enrol username passwordHash =>
    rw [App.apply]
    split
    · exact ⟨h.optimization, h.links, h.ids, h.concentrator, h.sip⟩
    · exact h
  | changePassword passwordHash => exact ⟨h.optimization, h.links, h.ids, h.concentrator, h.sip⟩
  | signin payload => exact h.applySigninSettings payload
  | patch values => exact h.patchConfig values
  | selectRoute route => exact ⟨h.optimization, h.links, h.ids, h.concentrator, h.sip⟩
  | setDeviceRoute device route => exact ⟨h.optimization, h.links, h.ids, h.concentrator, h.sip⟩
  | persistLinks found => exact h.persistLinks found
  | ensurePsk key =>
    rw [App.apply]
    split
    · exact h.setConcentrator h.concentrator
    · exact h

lemma Kept.applyAll (h : Kept cfg) (operations : List Operation) :
    Kept (applyAll p operations cfg) := by
  induction operations generalizing cfg with
  | nil => exact h
  | cons operation operations ih => exact ih (h.apply operation)

/-- **Reloading.**  A configuration that the app reaches is read back from its file as it is, if
and only if the host of the router is as the loader leaves it and an enabled shadow route with a
host has a password. -/
theorem reloads_applyAll_iff {path dir : String} {file : File} {start : AppConfig}
    (hstart : loadConfig p path dir file = .ok start) (operations : List Operation)
    (path' dir' : String) :
    (applyAll p operations start).Reloads p path' dir' ↔
      (applyAll p operations start).router.Normal ∧
        (applyAll p operations start).shadowsocks.Valid := by
  have hkept : Kept (applyAll p operations start) := (kept_loadConfig hstart).applyAll operations
  rw [AppConfig.reloads_iff]
  constructor
  · exact fun h => ⟨h.1, h.2.1.shadowsocks⟩
  · exact fun h =>
      ⟨h.1, ⟨hkept.optimization, hkept.links, hkept.concentrator, h.2, hkept.sip⟩, hkept.ids⟩

/-- A reader that converts nothing. -/
def strict : Pydantic where
  readBool
    | .bool b => some b
    | _ => none
  readInt
    | .int n => some n
    | _ => none
  readFloat
    | .float x => some x
    | _ => none
  readStr
    | .str s => some s
    | _ => none
  readList
    | .list items => some items
    | _ => none
  readDict
    | .dict fields => some fields
    | _ => none
  readPath
    | .str s => some s
    | _ => none
  readBool_bool _ := rfl
  readInt_int _ := rfl
  readFloat_float _ := rfl
  readStr_str _ := rfl
  readList_list _ := rfl
  readDict_dict _ := rfl
  readPath_str _ := rfl
  mismatch _ := "validation error"
  invalid e := e

/-- A new installation. -/
def installed : AppConfig := ({ configDir := "/etc/turbobond" } : AppConfig).assignTableIds

/-- The first sign-in, with the whole form filled in. -/
def firstSignIn : List Operation :=
  [.ensureSecret "secret", .enrol "admin" "hash",
    .signin {
      routerHost := some "192.168.1.1"
      shadowsocksHost := some "198.51.100.1"
      shadowsocksPassword := some "password" }]

theorem reloads_firstSignIn : (applyAll strict firstSignIn installed).Reloads strict
    "/etc/turbobond/turbobond.yaml" "/etc/turbobond" := by
  have hstart : loadConfig strict "/etc/turbobond/turbobond.yaml" "/etc/turbobond" .missing =
      .ok installed := rfl
  exact (reloads_applyAll_iff hstart firstSignIn _ _).2 ⟨by decide +kernel, by decide +kernel⟩

/-- A first sign-in that names a shadowsocks server and gives no password for it. -/
def withoutPassword : List Operation :=
  [.ensureSecret "secret", .enrol "admin" "hash",
    .signin { shadowsocksHost := some "198.51.100.1" }]

/-- The app does not start again with the file that this leaves. -/
theorem not_reloads_withoutPassword :
    ¬ ∀ operations, (applyAll strict operations installed).Reloads strict
      "/etc/turbobond/turbobond.yaml" "/etc/turbobond" := by
  intro h
  have hvalid := ((AppConfig.reloads_iff _ _ _ _).1 (h withoutPassword)).2.1.shadowsocks
  exact absurd hvalid (by decide +kernel)

end Turbobond.App
