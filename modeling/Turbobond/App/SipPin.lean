import Turbobond.App.Steering
import Turbobond.Lib.Machine

/-!
# The pin of voice traffic

Whether marked voice traffic follows a working uplink when links change.
-/

namespace Turbobond.App

open Config Links Util Bond

/-- Some usable link has the interface. -/
def Working (links : List (Link ℚ)) (dev : String) : Prop :=
  ∃ link ∈ links, link.interface = dev ∧ link.usable = true

instance (links : List (Link ℚ)) (dev : String) : Decidable (Working links dev) :=
  inferInstanceAs (Decidable (∃ link ∈ links, _ ∧ _))

namespace Steering

/-- The interface that voice traffic leaves by. -/
def sipUplink (s : Steering) : Option String := s.kernel.routed Routing.markSip

/-- A change of a link makes the uplink of voice traffic unusable while some link is usable. -/
def Loses (s : Steering) (i : ℕ) (new : LinkState) : Prop :=
  (∃ dev ∈ s.sipUplink, Working s.links dev ∧ ¬ Working (moved s.links i new) dev) ∧
    ∃ link ∈ moved s.links i new, link.usable = true

/-- After the callback of a change that makes the uplink of voice traffic unusable, voice traffic
leaves by a working uplink again. -/
def Follows (host : Host) (s : Steering) (e : SteeringEvent × StepOutcomes) : Prop :=
  match e.1 with
  | .changeState i new => s.Loses i new →
    ∃ dev ∈ (s.changeState host e.2 i new).sipUplink,
      Working (s.changeState host e.2 i new).links dev
  | _ => True

/-- The change takes down the link that voice traffic is pinned to by name, the rule of its
replacement can be deleted, and without that rule an older one leads to a working uplink. -/
def Uncovers (host : Host) (s : Steering) (o : StepOutcomes) (i : ℕ) (new : LinkState) : Prop :=
  new = .down ∧ (run host "ip" o.routing.ruleDel).done = true ∧
    ∃ link ∈ s.links[i]?, s.sip.pinToLink = link.name ∧
      ∃ replacement ∈ resolveSipLink (moved s.links i new) s.sip, replacement.tableId ≠ 0 ∧
        ∃ dev ∈ (s.kernel.delRule Routing.markSip replacement.tableId).routed Routing.markSip,
          Working (moved s.links i new) dev

/-- No change makes the uplink of voice traffic unusable, unless it uncovers another one. -/
def Spared (host : Host) (s : Steering) (e : SteeringEvent × StepOutcomes) : Prop :=
  match e.1 with
  | .changeState i new => s.Loses i new → s.Uncovers host e.2 i new
  | _ => True

variable {host : Host} {o : StepOutcomes} {s : Steering} {i : ℕ} {new : LinkState}

lemma moved_of_same {links : List (Link ℚ)} {i : ℕ} {new : LinkState}
    (h : ∀ link ∈ links[i]?, link.state = new) : moved links i new = links := by
  refine List.ext_getElem? fun j => ?_
  rw [moved, List.getElem?_modify]
  by_cases hij : i = j
  · subst hij
    cases hlink : links[i]? with
    | none => rfl
    | some link =>
      have hsame : { link with state := new } = link := by rw [← h link hlink]
      simp [hsame]
  · simp [hij]

/-- A change that makes the uplink of voice traffic unusable moves a link. -/
lemma Loses.exists_link (h : s.Loses i new) : ∃ link, s.links[i]? = some link ∧ link.state ≠ new := by
  obtain ⟨⟨dev, -, hbefore, hafter⟩, -⟩ := h
  by_contra hnone
  have hsame : ∀ link ∈ s.links[i]?, link.state = new := fun link hlink =>
    not_not.1 fun hne => hnone ⟨link, hlink, hne⟩
  rw [moved_of_same hsame] at hafter
  exact hafter hbefore

/-- What the pin of a replacement makes of the uplink of voice traffic, where that has become
unusable: it works again only if an older rule is uncovered that leads to a working one. -/
lemma working_pinTrafficToLink_iff {links : List (Link ℚ)} {k : Routing.Kernel} {dev : String}
    (hdev : k.routed Routing.markSip = some dev) (hdead : ¬ Working links dev)
    (replacement : Link ℚ) (o : Routing.Outcomes) :
    (∃ dev ∈ (Routing.pinTrafficToLink host replacement Routing.markSip o k).2.routed Routing.markSip,
        Working links dev) ↔
      (run host "ip" o.ruleDel).done = true ∧ replacement.tableId ≠ 0 ∧
        ∃ dev ∈ (k.delRule Routing.markSip replacement.tableId).routed Routing.markSip,
          Working links dev := by
  by_cases hid : replacement.tableId = 0
  · refine iff_of_false ?_ fun h => h.2.1 hid
    rw [Routing.pinTrafficToLink, if_pos hid]
    rintro ⟨dev', hdev', hworks⟩
    obtain rfl := Option.some.inj (hdev.symm.trans hdev')
    exact hdead hworks
  rw [Routing.Kernel.routed, Routing.linkTable_pinTrafficToLink,
    Routing.fwmark_pinTrafficToLink host replacement _ o k hid, List.findSome?_append]
  by_cases hdel : (run host "ip" o.ruleDel).done = true
  · rw [if_pos hdel]
    have herased : (k.delRule Routing.markSip replacement.tableId).routed Routing.markSip =
        ((k.fwmark Routing.markSip).erase replacement.tableId).findSome? k.linkTable := by
      simp [Routing.Kernel.routed, Routing.Kernel.delRule]
    cases hrest : (k.delRule Routing.markSip replacement.tableId).routed Routing.markSip with
    | some dev' =>
      rw [← herased, hrest, Option.some_or]
      exact ⟨fun h => ⟨hdel, hid, h⟩, fun h => h.2.2⟩
    | none =>
      -- all that is left is the table of the replacement, and it leads nowhere else
      have htable := Routing.linkTable_of_routed_erase hdev hrest
      rw [← herased, hrest, Option.none_or]
      refine iff_of_false ?_ fun h => ?_
      · rintro ⟨dev', hdev', hworks⟩
        split at hdev'
        · rw [List.findSome?_singleton, htable] at hdev'
          obtain rfl := Option.some.inj hdev'
          exact hdead hworks
        · exact absurd hdev' (by simp)
      · obtain ⟨-, -, dev', hdev', -⟩ := h
        exact absurd hdev' (by simp)
  · rw [if_neg hdel]
    refine iff_of_false ?_ fun h => hdel h.1
    rintro ⟨dev', hdev', hworks⟩
    rw [Routing.Kernel.routed] at hdev
    rw [hdev, Option.some_or] at hdev'
    obtain rfl := Option.some.inj hdev'
    exact hdead hworks

/-- The exact condition of one change. -/
lemma follows_iff_spared (host : Host) (s : Steering) (e : SteeringEvent × StepOutcomes) :
    Follows host s e ↔ Spared host s e := by
  obtain ⟨e, o⟩ := e
  cases e with
  | changeState i new =>
    refine forall_congr' fun hloses => ?_
    obtain ⟨link, hlink, hne⟩ := hloses.exists_link
    obtain ⟨⟨dev, hdev, -, hdead⟩, -⟩ := hloses
    obtain ⟨kernel, htable, hmark, -, hcases⟩ := onLinkStateChange_cases host o
      { s with links := moved s.links i new } { link with state := new } new
    have hrouted : kernel.routed Routing.markSip = some dev := by
      rw [Routing.Kernel.routed, htable, hmark]
      exact hdev
    have hstep : s.changeState host o i new = onLinkStateChange host o
        { s with links := moved s.links i new } { link with state := new } new := by
      rw [changeState, hlink]
      exact if_neg hne
    rw [hstep, Uncovers, hlink]
    obtain ⟨heq, hfree⟩ | ⟨⟨hdown, hpinned⟩, replacement, hreplacement, heq⟩ := hcases
    · -- the pin stays where it is
      rw [heq]
      refine iff_of_false ?_ ?_
      · rintro ⟨dev', hdev', hworks⟩
        obtain rfl := Option.some.inj (hrouted.symm.trans hdev')
        exact hdead hworks
      · rintro ⟨hdown, -, link', ⟨⟩, hpinned, replacement, hreplacement, -⟩
        exact hfree replacement hreplacement ⟨hdown, hpinned⟩
    · have herase : (kernel.delRule Routing.markSip replacement.tableId).routed Routing.markSip =
          (s.kernel.delRule Routing.markSip replacement.tableId).routed Routing.markSip := by
        simp only [Routing.Kernel.routed, Routing.Kernel.delRule, htable, hmark]
      rw [heq]
      refine (working_pinTrafficToLink_iff hrouted hdead replacement o.routing).trans ?_
      rw [herase]
      constructor
      · rintro ⟨hdel, hid, hrest⟩
        exact ⟨hdown, hdel, link, rfl, hpinned, replacement, hreplacement, hid, hrest⟩
      · rintro ⟨-, hdel, -, -, -, replacement', hreplacement', hid, hrest⟩
        obtain rfl := Option.some.inj (hreplacement.symm.trans hreplacement')
        exact ⟨hdel, hid, hrest⟩
  | _ => exact Iff.rfl

instance (s : Steering) (i : ℕ) (new : LinkState) : Decidable (s.Loses i new) :=
  inferInstanceAs (Decidable ((∃ dev ∈ s.sipUplink, _ ∧ _) ∧ _))

/-- Voice traffic follows a working uplink throughout a run if and only if every change of the run
spares its uplink. -/
theorem sip_follows_iff (host : Host) (s : Steering)
    (events : List (SteeringEvent × StepOutcomes)) :
    Machine.Meets (Steering.step host) (fun s _ e => Follows host s e) events s [] ↔
      Machine.Meets (Steering.step host) (fun s _ e => Spared host s e) events s [] :=
  Machine.meets_congr _ (fun s _ e => follows_iff_spared host s e) events s []

/-- Two working uplinks, and voice traffic pinned to the first one by its name. -/
def pinned : Steering where
  links :=
    [{ name := "wan1", interface := "eth0", tableId := 200, state := .up },
      { name := "wan2", interface := "eth1", tableId := 201, state := .up }]
  sip := { pinToLink := "wan1" }
  bondMode := .ecmp
  gateway := none
  devicesDefault := .direct
  kernel :=
    { bondDefault := []
      linkTable := fun table =>
        if table = 200 then some "eth0" else if table = 201 then some "eth1" else none
      fwmark := fun mark => if mark = Routing.markSip then [200] else [] }
  table := none

/-- The first uplink goes down, and voice traffic stays on it. -/
theorem not_sip_follows :
    ¬ Machine.Meets (Steering.step { dryRun := false, which := fun _ => true })
      (fun s _ e => Follows { dryRun := false, which := fun _ => true } s e)
      [(.changeState 0 .down, {})] pinned [] := by
  rintro ⟨hfollows, -⟩
  obtain ⟨dev, hdev, hworks⟩ := hfollows (by decide +kernel)
  have huplink : (pinned.changeState { dryRun := false, which := fun _ => true } {} 0 .down).sipUplink =
      some "eth0" := by decide +kernel
  obtain rfl := Option.some.inj (huplink.symm.trans hdev)
  exact absurd hworks (by decide +kernel)

end Steering

end Turbobond.App
