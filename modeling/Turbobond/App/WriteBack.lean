import Turbobond.App.Settings
import Turbobond.Config.Redact

/-!
# Writing back what was shown

`GET /api/config` shows the configuration with its secrets masked, and `PATCH /api/config` takes
values of the same shape.  What happens to a configuration that is sent back as it was shown.
-/

namespace Turbobond.App

open Config

/-- `PATCH /api/config`, with the answer of `GET /api/config` as its values. -/
def writeBack (p : Pydantic) (cfg : AppConfig) : AppConfig := apply p cfg (.patch (cfg.redacted p))

variable {p : Pydantic} {cfg : AppConfig}

/-- What was shown replaces all that there was, so the validators see the masked configuration. -/
lemma read_redacted (p : Pydantic) (cfg : AppConfig) :
    ∃ configDir stateDir runDir, AppConfig.read p ((cfg.modelDump p).patch (cfg.redacted p)) =
      some { cfg.masked with configDir, stateDir, runDir } := by
  obtain ⟨configDir, hconfig⟩ := Option.isSome_iff_exists.1 (p.readPath_str cfg.configDir)
  obtain ⟨stateDir, hstate⟩ := Option.isSome_iff_exists.1 (p.readPath_str cfg.stateDir)
  obtain ⟨runDir, hrun⟩ := Option.isSome_iff_exists.1 (p.readPath_str cfg.runDir)
  refine ⟨configDir, stateDir, runDir, ?_⟩
  have hdevices : cfg.masked.lan.deviceRoutes = cfg.lan.deviceRoutes := rfl
  rw [AppConfig.redacted_eq, AppConfig.modelDump_patch hdevices, AppConfig.modelDump,
    AppConfig.read_fields]
  exact Option.bind_eq_some_iff.2 ⟨configDir, hconfig, Option.bind_eq_some_iff.2 ⟨stateDir, hstate,
    Option.bind_eq_some_iff.2 ⟨runDir, hrun, rfl⟩⟩⟩

/-- A configuration that passes the checks has masks for secrets afterwards, and its host is
stripped once more. -/
lemma writeBack_of_valid (hvalid : cfg.Valid) {host : String}
    (hhost : RouterConfig.stripHost cfg.router.host = .ok host) :
    writeBack p cfg =
      ({ cfg.masked with router := { cfg.masked.router with host } } : AppConfig).assignTableIds := by
  obtain ⟨configDir, stateDir, runDir, hread⟩ := read_redacted p cfg
  let read : AppConfig := { cfg.masked with configDir, stateDir, runDir }
  have hmasked := AppConfig.valid_masked.2 hvalid
  have hcheck : read.check = .ok { read with router := { read.router with host } } :=
    AppConfig.check_eq_ok.2 ⟨⟨hmasked.optimization, hmasked.links, hmasked.concentrator,
      hmasked.shadowsocks, hmasked.sip⟩, host, hhost, rfl⟩
  have hvalidate : AppConfig.modelValidate p ((cfg.modelDump p).patch (cfg.redacted p)) =
      .ok { read with router := { read.router with host } } := by
    rw [AppConfig.modelValidate, hread]
    simp only [read] at hcheck
    simp only [hcheck, read]
  rw [writeBack, apply, patchConfig, hvalidate]
  rfl

/-- A configuration that does not pass the checks is not written back. -/
lemma writeBack_of_refused (h : ∀ c, cfg.check ≠ .ok c) : writeBack p cfg = cfg := by
  obtain ⟨configDir, stateDir, runDir, hread⟩ := read_redacted p cfg
  have hcheck : ∀ c, ({ cfg.masked with configDir, stateDir, runDir } : AppConfig).check ≠ .ok c := by
    intro c hc
    obtain ⟨hvalid, host, hhost, -⟩ := AppConfig.check_eq_ok.1 hc
    have hmasked : cfg.masked.Valid := ⟨hvalid.optimization, hvalid.links, hvalid.concentrator,
      hvalid.shadowsocks, hvalid.sip⟩
    exact h _ (AppConfig.check_eq_ok.2 ⟨AppConfig.valid_masked.1 hmasked, host, hhost, rfl⟩)
  rw [writeBack, apply, patchConfig, AppConfig.modelValidate, hread]
  simp only []
  cases hcheck' : ({ cfg.masked with configDir, stateDir, runDir } : AppConfig).check with
  | ok c => exact absurd hcheck' (hcheck c)
  | error e => rfl

/-- **Writing back.**  A configuration that is sent back as it was shown stays as it is if and only
if it is refused, or has no secret but masks, a host that is stripped already, and table ids for all
its links. -/
theorem writeBack_eq_self_iff (p : Pydantic) (cfg : AppConfig) :
    writeBack p cfg = cfg ↔ ((∃ c, cfg.check = .ok c) →
      (∀ secret ∈ cfg.secrets, secret = "" ∨ secret = secretMask) ∧ cfg.router.Normal ∧
        ∀ link ∈ cfg.links, link.tableId ≠ 0) := by
  by_cases hpasses : ∃ c, cfg.check = .ok c
  · obtain ⟨c, hcheck⟩ := hpasses
    obtain ⟨hvalid, host, hhost, -⟩ := AppConfig.check_eq_ok.1 hcheck
    rw [writeBack_of_valid hvalid hhost]
    constructor
    · intro h _
      have hstripped : host = cfg.router.host := congrArg (fun c => c.router.host) h
      subst hstripped
      have hids : ∀ link ∈ cfg.links, link.tableId ≠ 0 := by
        intro link hlink
        have hlinks : AppConfig.assignIds _ 200 cfg.links = cfg.links := congrArg AppConfig.links h
        rw [← hlinks] at hlink
        exact AppConfig.tableId_ne_zero_of_mem_assignIds (by norm_num) hlink
      have hassigned : cfg.masked.assignTableIds = cfg.masked :=
        AppConfig.assignTableIds_eq_self.2 hids
      have hmasked : cfg.masked = cfg := hassigned.symm.trans h
      exact ⟨AppConfig.masked_eq_self.1 hmasked, hhost, hids⟩
    · intro h
      obtain ⟨hsecrets, hnormal, hids⟩ := h ⟨c, hcheck⟩
      have hstripped : host = cfg.router.host := Except.ok.inj (hhost.symm.trans hnormal)
      subst hstripped
      rw [AppConfig.masked_eq_self.2 hsecrets]
      exact AppConfig.assignTableIds_eq_self.2 hids
  · refine iff_of_true (writeBack_of_refused fun c hc => hpasses ⟨c, hc⟩) fun h => absurd h hpasses

/-- A configuration after the first sign-in. -/
def enrolled : AppConfig := { installed with auth := { passwordHash := "$argon2id$v=19$" } }

/-- The password that was set is gone. -/
theorem not_writeBack_enrolled : ¬ ∀ fields cfg,
    AppConfig.modelValidate strict fields = .ok cfg → writeBack strict cfg = cfg := by
  intro h
  have hcheck : enrolled.check = .ok enrolled := by decide +kernel
  obtain ⟨hvalid, -⟩ := AppConfig.check_eq_ok.1 hcheck
  have hread : AppConfig.modelValidate strict (enrolled.modelDump strict) = .ok enrolled := by
    rw [AppConfig.modelValidate, AppConfig.modelDump, AppConfig.read_fields]
    exact hcheck
  have hsame := h _ _ hread
  rw [writeBack_of_valid hvalid rfl] at hsame
  exact absurd (congrArg (fun c => c.auth.passwordHash) hsame) (by decide +kernel)

end Turbobond.App
