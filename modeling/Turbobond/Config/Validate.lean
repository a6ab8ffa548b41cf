import Turbobond.Config.Model
import Mathlib.Data.List.DropRight

/-!
# Checking a configuration

The validators of the models, and what a configuration is like that has passed them.  A validator
of a field gives the field back, perhaps normalised; the host of the router is the only field that
is.  A field that is not given is not checked by the source; here it is, since every default passes
its check unchanged.
-/

namespace Turbobond.Config

/-! ### Strings -/

/-- `str.isspace`, of a character. -/
def isSpace (c : Char) : Bool :=
  let n := c.val.toNat
  9 ≤ n ∧ n ≤ 13 ∨ 28 ≤ n ∧ n ≤ 32 ∨ 8192 ≤ n ∧ n ≤ 8202 ∨
    n ∈ [133, 160, 5760, 8232, 8233, 8239, 8287, 12288]

/-- `str.strip`, without an argument. -/
def strip (s : List Char) : List Char := (s.dropWhile isSpace).rdropWhile isSpace

/-- `str.rstrip`, of one character. -/
def rstrip (s : List Char) (c : Char) : List Char := s.rdropWhile (· = c)

/-- A string without a prefix, if it starts with it. -/
def dropPrefix (s pre : List Char) : List Char := if pre <+: s then s.drop pre.length else s

/-! ### The validators -/

namespace RouterConfig

/-- `_strip_host`. -/
def stripHost (value : String) : Except String String :=
  let value := rstrip (strip value.toList) '/'
  let value := ["http://", "https://"].foldl (fun value pre => dropPrefix value pre.toList) value
  if value = [] then .error "router host must not be empty" else .ok (String.ofList value)

def check (c : RouterConfig) : Except String RouterConfig :=
  (stripHost c.host).map fun host => { c with host }

/-- The host is as `_strip_host` leaves it. -/
def Normal (c : RouterConfig) : Prop := stripHost c.host = .ok c.host

instance (c : RouterConfig) : Decidable c.Normal := inferInstanceAs (Decidable (_ = _))

end RouterConfig

namespace OptimizationConfig

def Valid (c : OptimizationConfig) : Prop := c.wanMtu = 0 ∨ 576 ≤ c.wanMtu ∧ c.wanMtu ≤ 9216

instance (c : OptimizationConfig) : Decidable c.Valid := inferInstanceAs (Decidable (_ ∨ _))

/-- `_check_mtu`. -/
def check (c : OptimizationConfig) : Except String OptimizationConfig :=
  if c.wanMtu ≠ 0 ∧ ¬ (576 ≤ c.wanMtu ∧ c.wanMtu ≤ 9216) then
    .error "wan_mtu must be 0 (auto) or between 576 and 9216"
  else .ok c

end OptimizationConfig

namespace LinkConfig

def Valid (c : LinkConfig) : Prop := 0 < c.weight

instance (c : LinkConfig) : Decidable c.Valid := inferInstanceAs (Decidable (_ < _))

/-- `_positive_weight`. -/
def check (c : LinkConfig) : Except String LinkConfig :=
  if c.weight ≤ 0 then .error "link weight must be > 0" else .ok c

end LinkConfig

namespace ConcentratorConfig

def Valid (c : ConcentratorConfig) : Prop := c.enabled = true → c.host ≠ ""

instance (c : ConcentratorConfig) : Decidable c.Valid := inferInstanceAs (Decidable (_ → _))

/-- `_require_host`. -/
def check (c : ConcentratorConfig) : Except String ConcentratorConfig :=
  if c.enabled ∧ c.host = "" then
    .error "concentrator.host is required when concentrator.enabled is true"
  else .ok c

end ConcentratorConfig

namespace ShadowsocksConfig

def Valid (c : ShadowsocksConfig) : Prop := c.enabled = true → c.host ≠ "" → c.password ≠ ""

instance (c : ShadowsocksConfig) : Decidable c.Valid := inferInstanceAs (Decidable (_ → _ → _))

/-- `_needs_endpoint`. -/
def check (c : ShadowsocksConfig) : Except String ShadowsocksConfig :=
  if c.enabled ∧ c.host ≠ "" ∧ c.password = "" then
    .error "shadowsocks.password is required when a host is configured"
  else .ok c

end ShadowsocksConfig

namespace SipConfig

def Valid (c : SipConfig) : Prop :=
  (1 ≤ c.rtpPortStart ∧ c.rtpPortStart ≤ c.rtpPortEnd ∧ c.rtpPortEnd ≤ 65535) ∧
    ∀ port ∈ c.signallingPorts ++ c.tlsPorts, 1 ≤ port ∧ port ≤ 65535

instance (c : SipConfig) : Decidable c.Valid := inferInstanceAs (Decidable (_ ∧ _))

/-- `_validate_ports`. -/
def check (c : SipConfig) : Except String SipConfig :=
  if ¬ (1 ≤ c.rtpPortStart ∧ c.rtpPortStart ≤ c.rtpPortEnd ∧ c.rtpPortEnd ≤ 65535) then
    .error "invalid RTP port range"
  else
    match (c.signallingPorts ++ c.tlsPorts).find? fun port => ¬ (1 ≤ port ∧ port ≤ 65535) with
    | some port => .error s!"invalid SIP port {port}"
    | none => .ok c

end SipConfig

/-- All validators, in the order of the fields. -/
def AppConfig.check (c : AppConfig) : Except String AppConfig := do
  let router ← c.router.check
  let optimization ← c.optimization.check
  let links ← c.links.mapM LinkConfig.check
  let concentrator ← c.concentrator.check
  let shadowsocks ← c.shadowsocks.check
  let sip ← c.sip.check
  return { c with router, optimization, links, concentrator, shadowsocks, sip }

/-- Every default passes its check. -/
lemma check_default : ({} : AppConfig).check = .ok {} := by decide +kernel

/-! ### What has passed -/

lemma ite_error_eq_ok {α : Type} {p : Prop} [Decidable p] {e : String} {a b : α} :
    ((if p then .error e else .ok a : Except String α) = .ok b) ↔ ¬ p ∧ b = a := by
  by_cases hp : p
  · simp [hp]
  · simp [hp, eq_comm]

lemma bind_eq_ok {α β : Type} {x : Except String α} {f : α → Except String β} {b : β} :
    x >>= f = .ok b ↔ ∃ a, x = .ok a ∧ f a = .ok b := by
  cases x with
  | error e => simp [bind, Except.bind]
  | ok a => simp [bind, Except.bind]

lemma RouterConfig.check_eq_ok {c c' : RouterConfig} :
    c.check = .ok c' ↔ ∃ host, stripHost c.host = .ok host ∧ c' = { c with host } := by
  rw [check]
  cases stripHost c.host with
  | error e => simp [Except.map]
  | ok host => simp [Except.map, eq_comm]

lemma OptimizationConfig.check_eq_ok {c c' : OptimizationConfig} :
    c.check = .ok c' ↔ c.Valid ∧ c' = c := by
  rw [check, ite_error_eq_ok, Valid, not_and_or, not_not, not_not]

lemma LinkConfig.check_eq_ok {c c' : LinkConfig} : c.check = .ok c' ↔ c.Valid ∧ c' = c := by
  rw [check, ite_error_eq_ok, Valid, not_le]

lemma ConcentratorConfig.check_eq_ok {c c' : ConcentratorConfig} :
    c.check = .ok c' ↔ c.Valid ∧ c' = c := by
  rw [check, ite_error_eq_ok, Valid, not_and]

lemma ShadowsocksConfig.check_eq_ok {c c' : ShadowsocksConfig} :
    c.check = .ok c' ↔ c.Valid ∧ c' = c := by
  rw [check, ite_error_eq_ok, Valid, not_and, not_and]

lemma SipConfig.check_eq_ok {c c' : SipConfig} : c.check = .ok c' ↔ c.Valid ∧ c' = c := by
  rw [check, Valid]
  by_cases hrange : 1 ≤ c.rtpPortStart ∧ c.rtpPortStart ≤ c.rtpPortEnd ∧ c.rtpPortEnd ≤ 65535
  · rw [if_neg (not_not.2 hrange)]
    cases hfind : (c.signallingPorts ++ c.tlsPorts).find? fun port => ¬ (1 ≤ port ∧ port ≤ 65535) with
    | none =>
      have hall : ∀ port ∈ c.signallingPorts ++ c.tlsPorts, 1 ≤ port ∧ port ≤ 65535 := by
        intro port hport
        simpa using List.find?_eq_none.1 hfind port hport
      simp only [Except.ok.injEq, hrange, true_and]
      exact ⟨fun h => ⟨hall, h.symm⟩, fun h => h.2.symm⟩
    | some port =>
      have hfound := List.find?_some hfind
      have hbad : ¬ (1 ≤ port ∧ port ≤ 65535) := of_decide_eq_true hfound
      refine iff_of_false (by simp) fun h => ?_
      exact hbad (h.1.2 port (List.mem_of_find?_eq_some hfind))
  · rw [if_pos hrange]
    exact iff_of_false (by simp) fun h => hrange h.1.1

lemma mapM_check_eq_ok {links links' : List LinkConfig} :
    links.mapM LinkConfig.check = .ok links' ↔ (∀ link ∈ links, link.Valid) ∧ links' = links := by
  induction links generalizing links' with
  | nil => simp [pure, Except.pure, eq_comm]
  | cons link links ih =>
    rw [List.mapM_cons]
    simp only [bind_eq_ok, LinkConfig.check_eq_ok, ih, List.forall_mem_cons]
    constructor
    · rintro ⟨_, ⟨hlink, rfl⟩, _, ⟨hlinks, rfl⟩, h⟩
      exact ⟨⟨hlink, hlinks⟩, (Except.ok.inj h).symm⟩
    · rintro ⟨⟨hlink, hlinks⟩, rfl⟩
      exact ⟨link, ⟨hlink, rfl⟩, links, ⟨hlinks, rfl⟩, rfl⟩

/-- All checks but that of the router's host. -/
structure AppConfig.Valid (c : AppConfig) : Prop where
  optimization : c.optimization.Valid
  links : ∀ link ∈ c.links, link.Valid
  concentrator : c.concentrator.Valid
  shadowsocks : c.shadowsocks.Valid
  sip : c.sip.Valid

/-- A configuration passes if and only if all is valid, and then only the host has changed. -/
lemma AppConfig.check_eq_ok {c c' : AppConfig} :
    c.check = .ok c' ↔ c.Valid ∧
      ∃ host, RouterConfig.stripHost c.router.host = .ok host ∧
        c' = { c with router := { c.router with host } } := by
  rw [check]
  simp only [bind_eq_ok, RouterConfig.check_eq_ok, OptimizationConfig.check_eq_ok, mapM_check_eq_ok,
    ConcentratorConfig.check_eq_ok, ShadowsocksConfig.check_eq_ok, SipConfig.check_eq_ok]
  constructor
  · rintro ⟨_, ⟨host, hhost, rfl⟩, _, ⟨hoptimization, rfl⟩, _, ⟨hlinks, rfl⟩, _, ⟨hconcentrator, rfl⟩,
      _, ⟨hshadowsocks, rfl⟩, _, ⟨hsip, rfl⟩, h⟩
    exact ⟨⟨hoptimization, hlinks, hconcentrator, hshadowsocks, hsip⟩, host, hhost,
      (Except.ok.inj h).symm⟩
  · rintro ⟨hvalid, host, hhost, rfl⟩
    exact ⟨_, ⟨host, hhost, rfl⟩, _, ⟨hvalid.optimization, rfl⟩, _, ⟨hvalid.links, rfl⟩, _,
      ⟨hvalid.concentrator, rfl⟩, _, ⟨hvalid.shadowsocks, rfl⟩, _, ⟨hvalid.sip, rfl⟩, rfl⟩

end Turbobond.Config
