import Turbobond.Bond.Routing
import Turbobond.Lib.RoutePolicy

/-!
# What policy routing leaves behind

The installers and the `teardown` of `turbobond/bond/routing.py` as commands on the rules and tables of
a kernel, on a host that has `ip` and runs it.  Addresses and prefixes are texts, and a command that
the kernel cannot make sense of is one that it refuses.
-/

namespace Turbobond.Bond.PolicyRouting

open Links RouteHost
open Routing (Nexthop nexthop markSip)

def prioLinkSource : ℕ := 1000

def prioSipPin : ℕ := 900

def tableBond : ℤ := 100

def tableSip : ℤ := 101

/-- The table of the commands that name none. -/
def tableMain : ℤ := 254

structure Rule where
  source : Option String := none
  fwmark : Option ℤ := none
  /-- What else a rule asks of a packet, which no command here names. -/
  other : String := ""
  table : ℤ
  priority : ℕ
  deriving DecidableEq

attribute [ext] Rule

instance : PolicyRule Rule where
  priority := Rule.priority
  selects r q := (r.source = none || r.source = q.source) && (r.fwmark = none || r.fwmark = q.fwmark) &&
    (r.other = "" || r.other = q.other) && r.table = q.table && r.priority = q.priority

structure Route where
  dst : String
  metric : ℕ := 0
  hops : List Nexthop
  scope : String := ""
  src : String := ""
  deriving DecidableEq

instance : KeyedRoute Route (String × ℕ) where
  key p := (p.dst, p.metric)

abbrev Kernel := RouteHost ℤ Rule Route

abbrev Command := RouteCommand ℤ Rule Route

/-! ### Rules and routes -/

def sourceRule (link : Link ℚ) : Rule where
  source := some link.sourceIp
  table := link.tableId
  priority := prioLinkSource

def markRule (link : Link ℚ) : Rule where
  fwmark := some (0x100 + link.tableId)
  table := link.tableId
  priority := prioLinkSource + 1

def tableRule (table : ℤ) : Rule where
  table := table
  priority := 32000

def pinRule (mark : ℤ) (link : Link ℚ) : Rule where
  fwmark := some mark
  table := link.tableId
  priority := prioSipPin

/-- The next hop of a route out of a link. -/
def hop (link : Link ℚ) : Nexthop := { via := link.gateway, dev := link.interface, weight := 1 }

/-- A route out of a link. -/
def via (dst : String) (link : Link ℚ) : Route := { dst := dst, hops := [hop link] }

/-- `rule del` and `rule add`. -/
def reinstall (r : Rule) : List Command := [.delRule r, .addRule r]

/-- The link with the largest weight of those that are usable. -/
def best (links : List (Link ℚ)) : Option (Link ℚ) :=
  (links.filter Link.usable).argmax Link.effectiveWeight

/-- The multipath default route. -/
def multipath (links : List (Link ℚ)) : Route :=
  let usable := links.filter Link.usable
  let total := (usable.map Link.effectiveWeight).sum
  { dst := "default", hops := usable.map (nexthop (if total = 0 then 1 else total)) }

/-! ### The installers -/

section Installers

variable (subnetOf : String → String) (accepts : Command → Bool)

/-- The body of the loop of `program_link_tables`, where `subnetOf` stands for `_subnet_of`. -/
def linkCommands (link : Link ℚ) : List Command :=
  [.flush link.tableId, .addRoute link.tableId (via "default" link)] ++
  (if link.sourceIp = "" then []
  else
    (if subnetOf link.sourceIp = "" then []
    else [.addRoute link.tableId
      { dst := subnetOf link.sourceIp
        hops := [{ via := "", dev := link.interface, weight := 1 }]
        scope := "link"
        src := link.sourceIp }]) ++
    reinstall (sourceRule link)) ++
  reinstall (markRule link)

/-- The links that have a table of their own. -/
def programmed (link : Link ℚ) : Bool := link.enabled && link.tableId ≠ 0

/-- `program_link_tables`. -/
def programLinkTables (links : List (Link ℚ)) (k : Kernel) : Kernel :=
  k.execAll accepts ((links.filter programmed).flatMap (linkCommands subnetOf))

/-- `install_ecmp_default`. -/
def installEcmpDefault (links : List (Link ℚ)) (k : Kernel) : Kernel :=
  match best links with
  | none => k
  | some link =>
    let (ok, k) := k.exec accepts (.replaceRoute tableBond (multipath links))
    if ok then k.execAll accepts (reinstall (tableRule tableBond))
    else
      let (ok, k) := k.exec accepts (.replaceRoute tableBond (via "default" link))
      if ok then k.execAll accepts (reinstall (tableRule tableBond)) else k

/-- The routes to the concentrator in the tables of the links. -/
def concentratorCommands (concentratorHost : String) (links : List (Link ℚ)) : List Command :=
  (links.filter fun link => link.usable && link.tableId ≠ 0).map fun link =>
    .replaceRoute link.tableId (via (concentratorHost ++ "/32") link)

/-- The routes in the main table, to the concentrator or past the tunnel. -/
def mainCommands (dsts : List String) (links : List (Link ℚ)) : List Command :=
  match best links with
  | none => []
  | some link => dsts.map fun dst => .replaceRoute tableMain (via dst link)

/-- The default route through the tunnel. -/
def tunnelRoute (tunDevice peerIp : String) : Route :=
  { dst := "default", hops := [{ via := peerIp, dev := tunDevice, weight := 1 }] }

/-- `install_tunnel_default`. -/
def installTunnelDefault (tunDevice peerIp concentratorHost : String) (links : List (Link ℚ))
    (k : Kernel) : Kernel :=
  let k := k.execAll accepts (concentratorCommands concentratorHost links)
  let k := k.execAll accepts (mainCommands [concentratorHost ++ "/32"] links)
  let (ok, k) := k.exec accepts (.replaceRoute tableBond (tunnelRoute tunDevice peerIp))
  if ok then k.execAll accepts (reinstall (tableRule tableBond)) else k

/-- `add_bypass_routes`. -/
def addBypassRoutes (cidrs : List String) (links : List (Link ℚ)) (k : Kernel) : Kernel :=
  k.execAll accepts (mainCommands cidrs links)

/-- `pin_traffic_to_link`. -/
def pinTrafficToLink (link : Link ℚ) (mark : ℤ) (k : Kernel) : Kernel :=
  if link.tableId = 0 then k else k.execAll accepts (reinstall (pinRule mark link))

end Installers

/-- The commands of `teardown`. -/
def teardownCommands (links : List (Link ℚ)) : List Command :=
  ((links.filter fun link => link.tableId ≠ 0).flatMap fun link =>
    (if link.sourceIp = "" then [] else [.delRule (sourceRule link)]) ++
      [.delRule (markRule link), .flush link.tableId]) ++
  [tableBond, tableSip].flatMap fun table => [.delRule (tableRule table), .flush table]

/-- `teardown`. -/
def teardown (links : List (Link ℚ)) (k : Kernel) : Kernel :=
  k.execAll (fun _ => true) (teardownCommands links)

/-! ### Activations -/

/-- How the default route of the bond is installed. -/
inductive BondRoute where
  | ecmp
  | tunnel (tunDevice peerIp concentratorHost : String) (directCidrs : List String)

/-- One activation: the links it finds, and the one that it pins voice traffic to, with the additions
that the kernel takes. -/
structure Activation where
  links : List (Link ℚ)
  bond : BondRoute
  pin : Option (Link ℚ)
  accepts : Command → Bool

variable (subnetOf : String → String)

namespace Activation

def installBond (a : Activation) (k : Kernel) : Kernel :=
  match a.bond with
  | .ecmp => installEcmpDefault a.accepts a.links k
  | .tunnel tunDevice peerIp concentratorHost directCidrs =>
    addBypassRoutes a.accepts directCidrs a.links
      (installTunnelDefault a.accepts tunDevice peerIp concentratorHost a.links k)

def installPin (a : Activation) (k : Kernel) : Kernel :=
  match a.pin with
  | none => k
  | some link => pinTrafficToLink a.accepts link markSip k

/-- What an activation does to the kernel. -/
def apply (a : Activation) (k : Kernel) : Kernel :=
  a.installPin (a.installBond (programLinkTables subnetOf a.accepts a.links k))

/-- The commands that the installation of the bond's default route may issue. -/
def bondCommands (a : Activation) : List Command :=
  reinstall (tableRule tableBond) ++
  match a.bond with
  | .ecmp =>
    match best a.links with
    | none => []
    | some link =>
      [.replaceRoute tableBond (multipath a.links), .replaceRoute tableBond (via "default" link)]
  | .tunnel tunDevice peerIp concentratorHost directCidrs =>
    .replaceRoute tableBond (tunnelRoute tunDevice peerIp) ::
      (concentratorCommands concentratorHost a.links ++
        mainCommands ((concentratorHost ++ "/32") :: directCidrs) a.links)

def pinCommands (a : Activation) : List Command :=
  match a.pin with
  | none => []
  | some link => if link.tableId = 0 then [] else reinstall (pinRule markSip link)

/-- The commands that an activation may issue. -/
def commands (a : Activation) : List Command :=
  (a.links.filter programmed).flatMap (linkCommands subnetOf) ++ a.bondCommands ++ a.pinCommands

/-- Every command that the activation may issue deals with what the teardown of the links takes away,
or changes nothing that the kernel had at first. -/
def Spares (links : List (Link ℚ)) (k₀ : Kernel) (a : Activation) : Prop :=
  ∀ c ∈ a.commands subnetOf, c.Harmless (teardownCommands links) k₀ a.accepts

end Activation

/-- A sequence of activations. -/
def activations (as : List Activation) (k : Kernel) : Kernel :=
  as.foldl (fun k a => a.apply subnetOf k) k

/-! ### What the teardown knows -/

variable {subnetOf : String → String} {accepts : Command → Bool} {links : List (Link ℚ)}
  {k₀ k : Kernel}

lemma mem_teardownCommands_iff {c : Command} : c ∈ teardownCommands links ↔
    (∃ link ∈ links, link.tableId ≠ 0 ∧ ((link.sourceIp ≠ "" ∧ c = .delRule (sourceRule link)) ∨
      c = .delRule (markRule link) ∨ c = .flush link.tableId)) ∨
    ∃ table ∈ [tableBond, tableSip], c = .delRule (tableRule table) ∨ c = .flush table := by
  simp only [teardownCommands, List.mem_append, List.mem_flatMap, List.mem_filter,
    List.mem_cons, List.not_mem_nil, or_false, decide_eq_true_eq]
  refine or_congr (exists_congr fun link => ?_) Iff.rfl
  by_cases hsource : link.sourceIp = ""
  · simp [hsource, and_assoc]
  · simp [hsource, and_assoc]

/-- A rule that its priority and its table determine but for the source address. -/
structure Complete (r : Rule) : Prop where
  source : r.source = none ↔ r.priority ≠ prioLinkSource
  fwmark : r.fwmark = if r.priority = prioLinkSource + 1 then some (0x100 + r.table) else none
  other : r.other = ""

lemma complete_of_mem {r : Rule} (hr : .delRule r ∈ teardownCommands links) : Complete r := by
  obtain ⟨link, -, -, ⟨-, heq⟩ | heq | heq⟩ | ⟨table, -, heq | heq⟩ := mem_teardownCommands_iff.1 hr
  · cases heq
    exact ⟨by simp [sourceRule], by simp [sourceRule, prioLinkSource], rfl⟩
  · cases heq
    exact ⟨by simp [markRule], by simp [markRule], rfl⟩
  · cases heq
  · cases heq
    exact ⟨by simp [tableRule, prioLinkSource], by simp [tableRule, prioLinkSource], rfl⟩
  · cases heq

/-- A complete rule selects no other one. -/
lemma Complete.eq_of_selects {r q : Rule} (hr : Complete r) (hq : Complete q)
    (h : PolicyRule.selects r q = true) : r = q := by
  simp only [PolicyRule.selects, Bool.and_eq_true, Bool.or_eq_true, decide_eq_true_eq] at h
  obtain ⟨⟨⟨⟨hsource, -⟩, -⟩, htable⟩, hpriority⟩ := h
  have hsource' : r.source = q.source := by
    obtain hnone | heq := hsource
    · rw [hnone, eq_comm, hq.source, ← hpriority]
      exact hr.source.1 hnone
    · exact heq
  have hfwmark : r.fwmark = q.fwmark := by rw [hr.fwmark, hq.fwmark, hpriority, htable]
  have hother : r.other = q.other := by rw [hr.other, hq.other]
  exact Rule.ext hsource' hfwmark hother htable hpriority

/-- The teardown names the rules it deletes completely. -/
lemma undo_teardownCommands : Undo (teardownCommands links) where
  removal c hc := by
    obtain ⟨link, -, -, ⟨-, rfl⟩ | rfl | rfl⟩ | ⟨table, -, rfl | rfl⟩ :=
      mem_teardownCommands_iff.1 hc <;> trivial
  refl r _ := by simp [PolicyRule.selects]
  exact r q hr hq h := (complete_of_mem hr).eq_of_selects (complete_of_mem hq) h

/-! ### What an activation leaves -/

lemma mainCommands_cons (dst : String) (dsts : List String) (links : List (Link ℚ)) :
    mainCommands (dst :: dsts) links = mainCommands [dst] links ++ mainCommands dsts links := by
  simp only [mainCommands]
  cases best links with
  | none => rfl
  | some link => rfl

/-- The commands that install a default route and, if that succeeds, the rule of its table. -/
lemma kept_installDefault {undo : List Command} (hundo : Undo undo) {k k' : Kernel}
    (hroute : Kept undo k₀ k) (hroute' : Kept undo k₀ k') (ok : Bool)
    (hrule : ∀ c ∈ reinstall (tableRule tableBond), c.Harmless undo k₀ accepts) :
    Kept undo k₀ (if ok then k.execAll accepts (reinstall (tableRule tableBond)) else k') := by
  cases ok with
  | true => exact hroute.execAll hundo hrule
  | false => exact hroute'

namespace Activation

variable {a : Activation}

lemma apply_of_pin {link : Link ℚ} (hpin : a.pin = some link) : a.apply subnetOf k =
    pinTrafficToLink a.accepts link markSip
      (a.installBond (programLinkTables subnetOf a.accepts a.links k)) := by
  rw [apply, installPin, hpin]

lemma kept_installBond {undo : List Command} (hundo : Undo undo)
    (h : ∀ c ∈ a.bondCommands, c.Harmless undo k₀ a.accepts) (hkept : Kept undo k₀ k) :
    Kept undo k₀ (a.installBond k) := by
  have hrule : ∀ c ∈ reinstall (tableRule tableBond), c.Harmless undo k₀ a.accepts :=
    fun c hc => h c (List.mem_append_left _ hc)
  rw [bondCommands] at h
  rw [installBond]
  cases hbond : a.bond with
  | ecmp =>
    rw [hbond] at h
    simp only [installEcmpDefault]
    cases hbest : best a.links with
    | none => exact hkept
    | some link =>
      simp only [hbest] at h
      have hmultipath := hkept.exec hundo (h (.replaceRoute tableBond (multipath a.links)) (by simp))
      have hsingle := hmultipath.exec hundo (h (.replaceRoute tableBond (via "default" link)) (by simp))
      exact kept_installDefault hundo hmultipath
        (kept_installDefault hundo hsingle hsingle _ hrule) _ hrule
  | tunnel tunDevice peerIp concentratorHost directCidrs =>
    simp only [hbond, List.mem_append, List.mem_cons] at h
    simp only [addBypassRoutes, installTunnelDefault]
    have hlinks : Kept undo k₀
        (k.execAll a.accepts (concentratorCommands concentratorHost a.links)) :=
      hkept.execAll hundo fun c hc => h c (by simp [hc])
    have hmain : Kept undo k₀ ((k.execAll a.accepts (concentratorCommands concentratorHost
        a.links)).execAll a.accepts (mainCommands [concentratorHost ++ "/32"] a.links)) :=
      hlinks.execAll hundo fun c hc => h c (by rw [mainCommands_cons, List.mem_append]; simp [hc])
    have hroute := hmain.exec hundo
      (h (.replaceRoute tableBond (tunnelRoute tunDevice peerIp)) (by simp))
    refine (kept_installDefault hundo hroute hroute _ hrule).execAll hundo fun c hc => ?_
    exact h c (by rw [mainCommands_cons, List.mem_append]; simp [hc])

lemma kept_apply {undo : List Command} (hundo : Undo undo)
    (h : ∀ c ∈ a.commands subnetOf, c.Harmless undo k₀ a.accepts) (hkept : Kept undo k₀ k) :
    Kept undo k₀ (a.apply subnetOf k) := by
  simp only [commands, List.mem_append] at h
  have hlinks : Kept undo k₀ (programLinkTables subnetOf a.accepts a.links k) :=
    hkept.execAll hundo fun c hc => h c (.inl (.inl hc))
  have hbond := kept_installBond hundo (fun c hc => h c (.inl (.inr hc))) hlinks
  cases hpin : a.pin with
  | none =>
    rw [apply, installPin, hpin]
    exact hbond
  | some link =>
    rw [apply_of_pin hpin, pinTrafficToLink]
    split
    · exact hbond
    next hid =>
      refine hbond.execAll hundo fun c hc => h c (.inr ?_)
      simpa only [pinCommands, hpin, if_neg hid] using hc

end Activation

/-- What every activation of a sequence keeps. -/
lemma kept_activations {undo : List Command} (hundo : Undo undo) {as : List Activation}
    (h : ∀ a ∈ as, ∀ c ∈ a.commands subnetOf, c.Harmless undo k₀ a.accepts)
    (hkept : Kept undo k₀ k) : Kept undo k₀ (activations subnetOf as k) := by
  induction as generalizing k with
  | nil => exact hkept
  | cons a as ih =>
    exact ih (fun a ha => h a (List.mem_cons_of_mem _ ha))
      (Activation.kept_apply hundo (h a (List.mem_cons_self ..)) hkept)

/-- The teardown of the last activation's links brings the kernel back to what it was, if nothing that
it takes away was there at first and every activation deals with that alone or changes nothing. -/
theorem teardown_activations (subnetOf : String → String) (as : List Activation) (last : Activation)
    (k : Kernel) (hclean : Clean (teardownCommands last.links) k)
    (hspares : ∀ a ∈ as ++ [last], a.Spares subnetOf last.links k) :
    teardown last.links (activations subnetOf (as ++ [last]) k) = k :=
  (kept_activations undo_teardownCommands hspares hclean.kept).restored undo_teardownCommands hclean

/-! ### Activations that are undone -/

lemma harmless_reinstall (hclean : Clean (teardownCommands links) k) {r : Rule}
    (hr : .delRule r ∈ teardownCommands links) {c : Command} (hc : c ∈ reinstall r) :
    c.Harmless (teardownCommands links) k accepts := by
  simp only [reinstall, List.mem_cons, List.not_mem_nil, or_false] at hc
  obtain rfl | rfl := hc
  · exact hclean.harmless undo_teardownCommands hr
  · exact .inl hr

lemma flush_tableBond_mem : .flush tableBond ∈ teardownCommands links :=
  mem_teardownCommands_iff.2 (.inr ⟨tableBond, by simp, .inr rfl⟩)

lemma delRule_tableBond_mem : .delRule (tableRule tableBond) ∈ teardownCommands links :=
  mem_teardownCommands_iff.2 (.inr ⟨tableBond, by simp, .inl rfl⟩)

/-- What is programmed for a link is taken away if the teardown knows its table and its address. -/
lemma harmless_linkCommands (hclean : Clean (teardownCommands links) k) {link link' : Link ℚ}
    (hlink' : link' ∈ links) (htable : link'.tableId = link.tableId)
    (hsource : link'.sourceIp = link.sourceIp) (hid : link.tableId ≠ 0) {c : Command}
    (hc : c ∈ linkCommands subnetOf link) : c.Harmless (teardownCommands links) k accepts := by
  have hid' : link'.tableId ≠ 0 := htable ▸ hid
  have hflush : .flush link.tableId ∈ teardownCommands links :=
    mem_teardownCommands_iff.2 (.inl ⟨link', hlink', hid', .inr (.inr (by rw [htable]))⟩)
  have hmark : .delRule (markRule link) ∈ teardownCommands links :=
    mem_teardownCommands_iff.2 (.inl ⟨link', hlink', hid', .inr (.inl (by simp [markRule, htable]))⟩)
  simp only [linkCommands, List.mem_append] at hc
  obtain (hc | hc) | hc := hc
  · simp only [List.mem_cons, List.not_mem_nil, or_false] at hc
    obtain rfl | rfl := hc
    · exact .inl hflush
    · exact .inl hflush
  · split at hc
    · cases hc
    next hne =>
      obtain hc | hc := List.mem_append.1 hc
      · split at hc
        · cases hc
        · obtain rfl := List.mem_singleton.1 hc
          exact .inl hflush
      · have hrule : .delRule (sourceRule link) ∈ teardownCommands links :=
          mem_teardownCommands_iff.2 (.inl ⟨link', hlink', hid', .inl
            ⟨hsource ▸ hne, by simp [sourceRule, htable, hsource]⟩⟩)
        exact harmless_reinstall hclean hrule hc
  · exact harmless_reinstall hclean hmark hc

/-- Activations of links that the last one has as well, with the same tables and addresses, are undone
as long as they use the multipath route and do not pin voice traffic to a table. -/
theorem spares_of_links {a : Activation} (hclean : Clean (teardownCommands links) k)
    (hlinks : ∀ link ∈ a.links, programmed link = true →
      ∃ link' ∈ links, link'.tableId = link.tableId ∧ link'.sourceIp = link.sourceIp)
    (hbond : a.bond = .ecmp) (hpin : ∀ link ∈ a.pin, link.tableId = 0) :
    a.Spares subnetOf links k := by
  intro c hc
  simp only [Activation.commands, List.mem_append] at hc
  obtain (hc | hc) | hc := hc
  · obtain ⟨link, hlink, hc⟩ := List.mem_flatMap.1 hc
    obtain ⟨hmem, hprogrammed⟩ := List.mem_filter.1 hlink
    obtain ⟨link', hlink', htable, hsource⟩ := hlinks link hmem hprogrammed
    have hid : link.tableId ≠ 0 := by simpa [programmed] using (Bool.and_eq_true_iff.1 hprogrammed).2
    exact harmless_linkCommands hclean hlink' htable hsource hid hc
  · rw [Activation.bondCommands, hbond] at hc
    obtain hc | hc := List.mem_append.1 hc
    · exact harmless_reinstall hclean delRule_tableBond_mem hc
    · simp only at hc
      split at hc
      · cases hc
      · simp only [List.mem_cons, List.not_mem_nil, or_false] at hc
        obtain rfl | rfl := hc
        · exact .inl flush_tableBond_mem
        · exact .inl flush_tableBond_mem
  · rw [Activation.pinCommands] at hc
    cases hlink : a.pin with
    | none => simp [hlink] at hc
    | some link => simp [hlink, hpin link hlink] at hc

/-! ### What the teardown leaves behind -/

/-- A pin survives every teardown, of whatever links. -/
theorem pin_remains (accepts : Command → Bool) {link : Link ℚ} {mark : ℤ} (hid : link.tableId ≠ 0)
    (haccepts : accepts (.addRule (pinRule mark link)) = true) (links : List (Link ℚ)) (k : Kernel) :
    pinRule mark link ∈ (teardown links (pinTrafficToLink accepts link mark k)).rules := by
  refine mem_rules_execAll undo_teardownCommands.removal ?_ ?_
  · by_contra hselected
    obtain ⟨r, hr, hselects⟩ := selected_eq_true_iff.1 (by simpa using hselected)
    have hpriority : r.priority = prioSipPin := by
      simp only [PolicyRule.selects, Bool.and_eq_true, decide_eq_true_eq] at hselects
      exact hselects.2
    obtain ⟨link', -, -, ⟨-, heq⟩ | heq | heq⟩ | ⟨table, -, heq | heq⟩ :=
      mem_teardownCommands_iff.1 hr <;> cases heq <;> cases hpriority
  · rw [pinTrafficToLink, if_neg hid]
    exact mem_exec_addRule haccepts _

/-- The route to a destination in the main table, among those that the kernel takes from now on. -/
lemma find?_mainCommands {link : Link ℚ} {dst : String}
    (haccepts : accepts (.replaceRoute tableMain (via dst link)) = true) (dsts : List String)
    (k : Kernel) (h : dst ∈ dsts ∨
      (k.routes tableMain).find? (fun p => KeyedRoute.key p = (dst, 0)) = some (via dst link)) :
    ((k.execAll accepts (dsts.map fun dst => .replaceRoute tableMain (via dst link))).routes
      tableMain).find? (fun p => KeyedRoute.key p = (dst, 0)) = some (via dst link) := by
  induction dsts generalizing k with
  | nil => exact h.resolve_left (by simp)
  | cons dst' dsts ih =>
    refine ih _ ?_
    by_cases heq : dst' = dst
    · subst heq
      right
      simp only [exec, haccepts, if_true, Function.update_self, find?_replaceFirst]
      exact if_pos rfl
    · refine h.imp (fun hmem => by simpa [Ne.symm heq] using hmem) fun hfind => ?_
      simp only [exec]
      split
      · simp only [Function.update_self, find?_replaceFirst]
        rw [if_neg fun hkey => heq (Prod.ext_iff.1 hkey).1]
        exact hfind
      · exact hfind

/-- A route past the tunnel survives the teardown of links that have other tables. -/
theorem main_remains {dsts : List String} {dst : String} (hdst : dst ∈ dsts) {link : Link ℚ}
    (hbest : best links = some link)
    (haccepts : accepts (.replaceRoute tableMain (via dst link)) = true) {last : List (Link ℚ)}
    (hlast : ∀ link ∈ last, link.tableId ≠ tableMain) (k : Kernel) :
    ((teardown last (k.execAll accepts (mainCommands dsts links))).routes tableMain).find?
      (fun p => KeyedRoute.key p = (dst, 0)) = some (via dst link) := by
  have hflush : .flush tableMain ∉ teardownCommands last := by
    intro hmem
    obtain ⟨link', hlink', -, ⟨-, heq⟩ | heq | heq⟩ | ⟨table, htable, heq | heq⟩ :=
      mem_teardownCommands_iff.1 hmem
    · cases heq
    · cases heq
    · rw [RouteCommand.flush.injEq] at heq
      exact hlast link' hlink' heq.symm
    · cases heq
    · rw [RouteCommand.flush.injEq] at heq
      subst heq
      simp [tableMain, tableBond, tableSip] at htable
  rw [teardown, routes_execAll_of_not_mem undo_teardownCommands.removal hflush, mainCommands, hbest]
  exact find?_mainCommands haccepts dsts k (.inl hdst)

/-! ### The default route of the bond -/

/-- The next hops of the default route in the table of the bond. -/
def bondDefault (k : Kernel) : List Nexthop :=
  (((k.routes tableBond).find? fun p => KeyedRoute.key p = ("default", 0)).map Route.hops).getD []

/-- What `ip` returns for an addition. -/
def resultOf (accepts : Command → Bool) (c : Command) : Util.CommandResult :=
  { returncode := if accepts c then 0 else 2 }

/-- The results of the commands that install the multipath route. -/
def outcomes (accepts : Command → Bool) (links : List (Link ℚ)) : Routing.Outcomes where
  multipath := resultOf accepts (.replaceRoute tableBond (multipath links))
  single := ((best links).map fun link =>
    resultOf accepts (.replaceRoute tableBond (via "default" link))).getD {}

lemma passed_resultOf (c : Command) : (resultOf accepts c).passed = accepts c := by
  cases h : accepts c <;> simp [resultOf, h, Util.CommandResult.passed, Util.CommandResult.ok]

lemma done_resultOf (c : Command) : (resultOf accepts c).done = accepts c := by
  cases h : accepts c <;> simp [resultOf, h, Util.CommandResult.done, Util.CommandResult.ok]

lemma bondDefault_replaceRoute (p : Route) (hp : KeyedRoute.key p = ("default", 0))
    (haccepts : accepts (.replaceRoute tableBond p) = true) :
    bondDefault (k.exec accepts (.replaceRoute tableBond p)).2 = p.hops := by
  simp only [bondDefault, exec, haccepts, if_true, Function.update_self, find?_replaceFirst, hp]
  rfl

lemma bondDefault_reinstall (r : Rule) : bondDefault (k.execAll accepts (reinstall r)) = bondDefault k := by
  simp only [bondDefault, execAll, reinstall, List.foldl_cons, List.foldl_nil, exec]
  split <;> rfl

/-- The default route that the bond's table gets is the one of the model that looks at nothing else. -/
theorem bondDefault_installEcmpDefault {host : Util.Host} (hdry : host.dryRun = false)
    (hip : host.which "ip" = true) {r : Routing.Kernel} (hr : r.bondDefault = bondDefault k) :
    (Routing.installEcmpDefault host links (outcomes accepts links) r).2.bondDefault =
      bondDefault (installEcmpDefault accepts links k) := by
  have hrun : ∀ c, Util.run host "ip" (resultOf accepts c) = resultOf accepts c := fun c => by
    simp [Util.run, hdry, hip, resultOf]
  have havailable : Routing.iproute2Available host = true := by simp [Routing.iproute2Available, hip]
  rw [Routing.installEcmpDefault, installEcmpDefault]
  cases hbest : best links with
  | none =>
    have hbest' : (links.filter Link.usable).argmax Link.effectiveWeight = none := hbest
    simp [havailable, hbest', hr]
  | some link =>
    have hbest' : (links.filter Link.usable).argmax Link.effectiveWeight = some link := hbest
    simp only [havailable, hbest', outcomes, hbest, Option.map_some, Option.getD_some, hrun,
      passed_resultOf, done_resultOf]
    by_cases hmultipath : accepts (.replaceRoute tableBond (multipath links)) = true
    · have hnew := bondDefault_replaceRoute (k := k) (multipath links) rfl hmultipath
      have hok : (k.exec accepts (.replaceRoute tableBond (multipath links))).1 = true := by
        simp [exec, hmultipath]
      simp only [hmultipath, Bool.not_true, Bool.false_eq_true, if_false, if_true, hok,
        bondDefault_reinstall, hnew]
      rfl
    · have hsame : k.exec accepts (.replaceRoute tableBond (multipath links)) = (false, k) := by
        simp [exec, hmultipath]
      simp only [hmultipath, Bool.not_true, Bool.false_eq_true, if_false, hsame]
      by_cases hsingle : accepts (.replaceRoute tableBond (via "default" link)) = true
      · have hnew := bondDefault_replaceRoute (k := k) (via "default" link) rfl hsingle
        have hok : (k.exec accepts (.replaceRoute tableBond (via "default" link))).1 = true := by
          simp [exec, hsingle]
        simp only [hsingle, if_true, hok, bondDefault_reinstall, hnew]
        rfl
      · have hsame' : k.exec accepts (.replaceRoute tableBond (via "default" link)) = (false, k) := by
          simp [exec, hsingle]
        simp only [hsingle, Bool.false_eq_true, if_false, hsame', hr]

/-! ### A host with one uplink -/

/-- An uplink with a table of its own. -/
def wan : Link ℚ where
  name := "wan"
  interface := "eth0"
  gateway := "192.168.1.1"
  sourceIp := "192.168.1.7"
  tableId := 201
  state := .up

/-- The rules that every kernel has, and a default route. -/
def booted : Kernel where
  rules := [{ table := 255, priority := 0 }, { table := 254, priority := 32766 },
    { table := 253, priority := 32767 }]
  routes table := if table = tableMain then [via "default" wan] else []

lemma clean_booted : Clean (teardownCommands [wan]) booted where
  rules := by decide
  routes t ht := by
    obtain ⟨link, hlink, -, ⟨-, heq⟩ | heq | heq⟩ | ⟨table, htable, heq | heq⟩ :=
      mem_teardownCommands_iff.1 ht
    · cases heq
    · cases heq
    · cases heq
      obtain rfl := List.mem_singleton.1 hlink
      rfl
    · cases heq
    · cases heq
      simp only [List.mem_cons, List.not_mem_nil, or_false] at htable
      obtain rfl | rfl := htable
      · rfl
      · rfl

/-- An activation of the uplink with the multipath route. -/
def multipathActivation (pin : Option (Link ℚ)) : Activation where
  links := [wan]
  bond := .ecmp
  pin := pin
  accepts _ := true

theorem teardown_activations_unpinned :
    teardown [wan] (activations (fun _ => "192.168.1.0/24")
      ([multipathActivation none] ++ [multipathActivation none]) booted) = booted :=
  teardown_activations _ [multipathActivation none] (multipathActivation none) booted clean_booted
    fun a ha => by
      obtain rfl : a = multipathActivation none := by simpa using ha
      exact spares_of_links clean_booted (fun link hlink _ => ⟨link, hlink, rfl, rfl⟩) rfl
        fun link hlink => by cases hlink

/-- The rule that pins voice traffic stays in the kernel. -/
theorem not_teardown_activations_pinned :
    Clean (teardownCommands [wan]) booted ∧
      teardown [wan] (activations (fun _ => "192.168.1.0/24") [multipathActivation (some wan)] booted)
        ≠ booted := by
  refine ⟨clean_booted, fun h => ?_⟩
  have hmem : pinRule markSip wan ∈ (teardown [wan] (activations (fun _ => "192.168.1.0/24")
      [multipathActivation (some wan)] booted)).rules := by
    rw [activations, List.foldl_cons, List.foldl_nil, Activation.apply_of_pin rfl]
    exact pin_remains _ (by decide) rfl [wan] _
  rw [h] at hmem
  exact absurd hmem (by decide)

end Turbobond.Bond.PolicyRouting
