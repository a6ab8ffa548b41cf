import Turbobond.Links.Autodiscovery

/-!
# The ids of the uplinks

Table ids are given out twice: to the configured links when a configuration is loaded, and to all
links when they are discovered.  Both allocators work on the ids alone, and both do what `allocate`
does.
-/

namespace Turbobond.Links

open Config

variable {K : Type} [Zero K] [One K] {used : List ℤ} {nextTable : ℤ} {index : ℕ}
  {links : List (Link K)}

/-- Links without link ids are numbered. -/
lemma map_linkId_assignIdsFrom (h : ∀ link ∈ links, link.linkId = 0) :
    (assignIdsFrom used nextTable index links).map Link.linkId = List.range' index links.length := by
  induction links generalizing used nextTable index with
  | nil => rfl
  | cons link links ih =>
    have hlinks : ∀ link ∈ links, link.linkId = 0 := fun l hl => h l (List.mem_cons_of_mem _ hl)
    rw [assignIdsFrom, if_pos (h link List.mem_cons_self), List.length_cons, List.range'_succ]
    split
    · rw [List.map_cons, ih hlinks]
    · rw [List.map_cons, ih hlinks]

/-- Links with ids are left alone. -/
lemma assignIdsFrom_of_ne_zero (h : ∀ link ∈ links, link.tableId ≠ 0 ∧ link.linkId ≠ 0) :
    assignIdsFrom used nextTable index links = links := by
  induction links generalizing index with
  | nil => rfl
  | cons link links ih =>
    obtain ⟨htable, hlink⟩ := h link List.mem_cons_self
    rw [assignIdsFrom, if_pos htable, ih fun l hl => h l (List.mem_cons_of_mem _ hl)]
    simp only [if_neg hlink]

/-- The ids that the allocators count as used contain those that were given. -/
lemma mem_used {ids : List ℤ} : ∀ id ∈ ids, id ≠ 0 → id ∈ ids.filter fun id => id ≠ 0 :=
  fun _ hid hne => List.mem_filter.2 ⟨hid, by simpa using hne⟩

/-- Uplinks that `_autodiscover` finds have no ids yet. -/
lemma ids_of_mem_autodiscover {host : HostNetwork} {exclude : List String} {link : Link ℚ}
    (h : link ∈ host.autodiscover exclude) : link.tableId = 0 ∧ link.linkId = 0 := by
  obtain ⟨e, -, rfl⟩ := List.mem_map.1 h
  exact ⟨rfl, rfl⟩

/-- Whatever uplinks are found in addition to the configured ones: after both allocators have run, the
ids of all links are distinct and none is zero, the table ids that were given are kept, and neither
allocator changes anything when it runs again. -/
theorem ids_unique_stable (host : HostNetwork) (cfg : AppConfig) (found : List (Link ℚ))
    (hfound : ∀ link ∈ found, link.tableId = 0 ∧ link.linkId = 0)
    (hdistinct : ((cfg.links.map LinkConfig.tableId).filter fun id => id ≠ 0).Nodup) :
    let cfg' := cfg.assignTableIds
    let links := assignIds (cfg'.links.map host.configuredLink ++ found)
    ((links.map Link.tableId).Nodup ∧ ∀ link ∈ links, link.tableId ≠ 0) ∧
      ((links.map Link.linkId).Nodup ∧ ∀ link ∈ links, link.linkId ≠ 0) ∧
      Keeps (cfg.links.map LinkConfig.tableId ++ found.map Link.tableId) (links.map Link.tableId) ∧
      cfg'.assignTableIds = cfg' ∧ assignIds links = links := by
  intro cfg' links
  -- the configured links
  have hcfg : cfg'.links.map LinkConfig.tableId = allocate AppConfig.freshId
      ((cfg.links.map LinkConfig.tableId).filter fun id => id ≠ 0) 200
      (cfg.links.map LinkConfig.tableId) := AppConfig.map_tableId_assignIds ..
  have hcfgne : ∀ link ∈ cfg'.links, link.tableId ≠ 0 := fun link hlink =>
    AppConfig.tableId_ne_zero_of_mem_assignIds (by norm_num) hlink
  have hcfgnodup : (cfg'.links.map LinkConfig.tableId).Nodup := by
    rw [hcfg]
    exact nodup_allocate AppConfig.freshId_notMem mem_used hdistinct
  -- all links, before they are numbered
  have hbefore : (cfg'.links.map host.configuredLink ++ found).map Link.tableId =
      cfg'.links.map LinkConfig.tableId ++ found.map Link.tableId := by
    rw [List.map_append, List.map_map]
    rfl
  have hgiven : (((cfg'.links.map host.configuredLink ++ found).map Link.tableId).filter
      fun id => id ≠ 0).Nodup := by
    have hzero : (found.map Link.tableId).filter (fun id => id ≠ 0) = [] := by
      rw [List.filter_eq_nil_iff]
      intro id hid
      obtain ⟨link, hlink, rfl⟩ := List.mem_map.1 hid
      simp [(hfound link hlink).1]
    rw [hbefore, List.filter_append, hzero, List.append_nil]
    exact hcfgnodup.filter _
  have hlinkId : links.map Link.linkId =
      List.range' 1 (cfg'.links.map host.configuredLink ++ found).length := by
    refine map_linkId_assignIdsFrom fun link hlink => ?_
    rcases List.mem_append.1 hlink with hlink | hlink
    · obtain ⟨lc, -, rfl⟩ := List.mem_map.1 hlink
      rfl
    · exact (hfound link hlink).2
  have hlinkne : ∀ link ∈ links, link.linkId ≠ 0 := by
    intro link hlink
    have hmem : link.linkId ∈ links.map Link.linkId := List.mem_map_of_mem hlink
    rw [hlinkId, List.mem_range'_1] at hmem
    omega
  have htablene : ∀ link ∈ links, link.tableId ≠ 0 := fun link hlink =>
    tableId_ne_zero_of_mem_assignIdsFrom (by norm_num) hlink
  have htable : links.map Link.tableId = allocate AppConfig.freshId _ 200 _ := map_tableId_assignIdsFrom
  refine ⟨⟨?_, htablene⟩, ⟨?_, hlinkne⟩, ?_, AppConfig.assignTableIds_eq_self.2 hcfgne,
    assignIdsFrom_of_ne_zero fun link hlink => ⟨htablene link hlink, hlinkne link hlink⟩⟩
  · rw [htable]
    exact nodup_allocate AppConfig.freshId_notMem mem_used hgiven
  · rw [hlinkId]
    exact List.nodup_range'
  · have hconfigured : Keeps (cfg.links.map LinkConfig.tableId)
        (cfg'.links.map LinkConfig.tableId) := by
      rw [hcfg]
      exact keeps_allocate
    have hall : Keeps (cfg'.links.map LinkConfig.tableId ++ found.map Link.tableId)
        (links.map Link.tableId) := by
      rw [htable, ← hbefore]
      exact keeps_allocate
    exact (hconfigured.append (.refl _)).trans hall

/-- A loaded configuration and an uplink that was found besides. -/
theorem ids_unique_stable_one :
    let cfg' := ({ links := [{ name := "a", interface := "eth0" },
      { name := "c", interface := "eth2", tableId := 201 }] } : AppConfig).assignTableIds
    let links := assignIds (cfg'.links.map
      (HostNetwork.configuredLink ⟨[], fun _ => "", fun _ => none, fun _ => none, fun _ => true⟩) ++
      [{ name := "wwan0", interface := "wwan0" }])
    (links.map Link.tableId).Nodup :=
  (ids_unique_stable _ _ _ (by simp) (by decide)).1.1

end Turbobond.Links
