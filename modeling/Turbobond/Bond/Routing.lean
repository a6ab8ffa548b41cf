import Turbobond.Links.Model
import Turbobond.Util.Cmd
import Mathlib.Data.List.MinMax
import Mathlib.Data.Rat.Floor

/-!
# Policy routing

`turbobond/bond/routing.py`: the multipath default route of the bond and the rules that pin marked
traffic to one uplink, with what the kernel holds of them.
-/

namespace Turbobond.Bond.Routing

open Links Util

def markSip : ℕ := 0x13

/-- `round`, of a float to an integer: halves go to the even neighbour. -/
def roundHalfEven (x : ℚ) : ℤ :=
  let d := x - ⌊x⌋
  if d < 1 / 2 then ⌊x⌋
  else if 1 / 2 < d then ⌊x⌋ + 1
  else if ⌊x⌋ % 2 = 0 then ⌊x⌋
  else ⌊x⌋ + 1

/-- A next hop of a default route. -/
structure Nexthop where
  via : String
  dev : String
  weight : ℤ
  deriving DecidableEq

/-- What the kernel holds: the default route of the bond's table, the interface of the default route
of each link's table, and, for each firewall mark, the tables that its rules look up.  The rules for
a mark are all added with one priority, so they are tried in the order in which they were added. -/
structure Kernel where
  bondDefault : List Nexthop
  linkTable : ℤ → Option String
  fwmark : ℕ → List ℤ

/-- What the commands of a call return if they are executed. -/
structure Outcomes where
  /-- `ip route replace default`, with all the next hops and with the best one. -/
  multipath : CommandResult := {}
  single : CommandResult := {}
  /-- `ip rule del fwmark` and `ip rule add fwmark`. -/
  ruleDel : CommandResult := {}
  ruleAdd : CommandResult := {}

structure RoutingReport where
  defaultRoute : String := ""
  ecmpMembers : List String := []
  errors : List String := []
  deriving DecidableEq

/-- `iproute2_available`. -/
def iproute2Available (host : Host) : Bool := host.dryRun || host.which "ip"

/-- The next hop of a link in the multipath route. -/
def nexthop (totalWeight : ℚ) (link : Link ℚ) : Nexthop where
  via := link.gateway
  dev := link.interface
  weight := max 1 (min 255 (roundHalfEven (link.effectiveWeight / totalWeight * 100)))

/-- `install_ecmp_default`, for the bond's table. -/
def installEcmpDefault (host : Host) (links : List (Link ℚ)) (o : Outcomes) (k : Kernel) :
    RoutingReport × Kernel :=
  if !iproute2Available host then ({ errors := ["iproute2 ('ip') is not installed"] }, k)
  else
    let usable := links.filter Link.usable
    match usable.argmax Link.effectiveWeight with
    | none => ({ errors := ["no usable uplink for the default route"] }, k)
    | some best =>
      let total := (usable.map Link.effectiveWeight).sum
      let hops := usable.map (nexthop (if total = 0 then 1 else total))
      let members := usable.map fun link =>
        let weight := (nexthop (if total = 0 then 1 else total) link).weight
        s!"{link.name}(w={weight})"
      let result := run host "ip" o.multipath
      if result.passed then
        ({ defaultRoute := " ".intercalate members, ecmpMembers := members },
          if result.done then { k with bondDefault := hops } else k)
      else
        let fallback := run host "ip" o.single
        if fallback.passed then
          let members := [s!"{best.name}(single)"]
          ({ defaultRoute := " ".intercalate members, ecmpMembers := members },
            if fallback.done then
              { k with bondDefault := [{ via := best.gateway, dev := best.interface, weight := 1 }] }
            else k)
        else
          ({ ecmpMembers := members
             errors := ["default route install failed: " ++ fallback.stderr.trimAscii.toString] }, k)

/-- `ip rule del fwmark`: the first rule of the mark for the table goes. -/
def Kernel.delRule (k : Kernel) (mark : ℕ) (table : ℤ) : Kernel :=
  { k with fwmark := Function.update k.fwmark mark ((k.fwmark mark).erase table) }

/-- `ip rule add fwmark`: a rule is added after those of the mark. -/
def Kernel.addRule (k : Kernel) (mark : ℕ) (table : ℤ) : Kernel :=
  { k with fwmark := Function.update k.fwmark mark (k.fwmark mark ++ [table]) }

/-- `pin_traffic_to_link`. -/
def pinTrafficToLink (host : Host) (link : Link ℚ) (mark : ℕ) (o : Outcomes) (k : Kernel) :
    Bool × Kernel :=
  if link.tableId = 0 then (false, k)
  else
    let k := if (run host "ip" o.ruleDel).done then k.delRule mark link.tableId else k
    let result := run host "ip" o.ruleAdd
    (result.passed, if result.done then k.addRule mark link.tableId else k)

/-- The interface that traffic with a mark leaves by: that of the first rule whose table has a
default route. -/
def Kernel.routed (k : Kernel) (mark : ℕ) : Option String := (k.fwmark mark).findSome? k.linkTable

/-! ### What the commands leave in the kernel -/

/-- The multipath route is rebuilt from the usable links, falls back on the best of them, or stays. -/
lemma installEcmpDefault_cases (host : Host) (links : List (Link ℚ)) (o : Outcomes) (k : Kernel) :
    (installEcmpDefault host links o k).2 = k ∨
    ((run host "ip" o.multipath).done = true ∧
      ∃ total, (installEcmpDefault host links o k).2 =
        { k with bondDefault := (links.filter Link.usable).map (nexthop total) }) ∨
    ((run host "ip" o.multipath).passed = false ∧ (run host "ip" o.single).done = true ∧
      ∃ best ∈ (links.filter Link.usable).argmax Link.effectiveWeight,
        (installEcmpDefault host links o k).2 =
          { k with bondDefault := [{ via := best.gateway, dev := best.interface, weight := 1 }] }) := by
  rw [installEcmpDefault]
  split
  · exact .inl rfl
  · cases hbest : (links.filter Link.usable).argmax Link.effectiveWeight with
    | none => exact .inl (by simp only [hbest])
    | some best =>
      simp only [hbest]
      by_cases hpassed : (run host "ip" o.multipath).passed = true
      · by_cases hdone : (run host "ip" o.multipath).done = true
        · exact .inr (.inl ⟨hdone, _, by rw [if_pos hpassed]; exact if_pos hdone⟩)
        · exact .inl (by rw [if_pos hpassed]; exact if_neg hdone)
      · have hfailed : (run host "ip" o.multipath).passed = false := by simpa using hpassed
        rw [if_neg hpassed]
        by_cases hfallback : (run host "ip" o.single).passed = true
        · by_cases hdone : (run host "ip" o.single).done = true
          · exact .inr (.inr ⟨hfailed, hdone, best, rfl, by rw [if_pos hfallback]; exact if_pos hdone⟩)
          · exact .inl (by rw [if_pos hfallback]; exact if_neg hdone)
        · exact .inl (by rw [if_neg hfallback])

lemma linkTable_installEcmpDefault (host : Host) (links : List (Link ℚ)) (o : Outcomes)
    (k : Kernel) : (installEcmpDefault host links o k).2.linkTable = k.linkTable := by
  obtain heq | ⟨-, _, heq⟩ | ⟨-, -, _, -, heq⟩ := installEcmpDefault_cases host links o k <;> rw [heq]

lemma fwmark_installEcmpDefault (host : Host) (links : List (Link ℚ)) (o : Outcomes)
    (k : Kernel) : (installEcmpDefault host links o k).2.fwmark = k.fwmark := by
  obtain heq | ⟨-, _, heq⟩ | ⟨-, -, _, -, heq⟩ := installEcmpDefault_cases host links o k <;> rw [heq]

/-- The rules that a pin leaves for its mark: those for the table of the link lose the first of them
if it can be deleted, and gain one at the end if it can be added. -/
lemma fwmark_pinTrafficToLink (host : Host) (link : Link ℚ) (mark : ℕ) (o : Outcomes) (k : Kernel)
    (hid : link.tableId ≠ 0) :
    (pinTrafficToLink host link mark o k).2.fwmark mark =
      (if (run host "ip" o.ruleDel).done then (k.fwmark mark).erase link.tableId
        else k.fwmark mark) ++
      (if (run host "ip" o.ruleAdd).done then [link.tableId] else []) := by
  rw [pinTrafficToLink, if_neg hid]
  by_cases hadd : (run host "ip" o.ruleAdd).done = true
  · by_cases hdel : (run host "ip" o.ruleDel).done = true
    · simp [hadd, hdel, Kernel.addRule, Kernel.delRule]
    · simp [hadd, hdel, Kernel.addRule]
  · by_cases hdel : (run host "ip" o.ruleDel).done = true
    · simp [hadd, hdel, Kernel.delRule]
    · simp [hadd, hdel]

lemma linkTable_pinTrafficToLink (host : Host) (link : Link ℚ) (mark : ℕ) (o : Outcomes)
    (k : Kernel) : (pinTrafficToLink host link mark o k).2.linkTable = k.linkTable := by
  rw [pinTrafficToLink]
  split
  · rfl
  · simp only []
    split <;> split <;> rfl

/-- Where a rule leads out and none of the others does, it is the only one to. -/
lemma linkTable_of_routed_erase {k : Kernel} {mark : ℕ} {dev : String} {table : ℤ}
    (h : k.routed mark = some dev) (hnone : (k.delRule mark table).routed mark = none) :
    k.linkTable table = some dev := by
  obtain ⟨t, hmem, ht⟩ := List.exists_of_findSome?_eq_some h
  by_cases heq : t = table
  · rwa [← heq]
  · have herase : t ∈ (k.fwmark mark).erase table := (List.mem_erase_of_ne heq).2 hmem
    rw [Kernel.routed, List.findSome?_eq_none_iff] at hnone
    have hno := hnone t (by simpa [Kernel.delRule] using herase)
    exact absurd (ht.symm.trans hno) (by simp)

/-- A pin changes the rules of its mark and nothing else. -/
lemma pinTrafficToLink_bondDefault (host : Host) (link : Link ℚ) (mark : ℕ) (o : Outcomes)
    (k : Kernel) : (pinTrafficToLink host link mark o k).2.bondDefault = k.bondDefault := by
  rw [pinTrafficToLink]
  split
  · rfl
  · simp only []
    split
    · split
      · rfl
      · rfl
    · split
      · rfl
      · rfl

end Turbobond.Bond.Routing
