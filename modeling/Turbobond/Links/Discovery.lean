import Turbobond.Config.Reload
import Turbobond.Links.Model

/-!
# Discovered links

What `turbobond/links/discovery.py` does to the links it has found: it numbers them, and it writes
them back into the configuration.
-/

namespace Turbobond.Links

open Config

variable {K : Type} [Zero K] [One K]

/-- The loop of `_assign_ids`. -/
def assignIdsFrom (used : List ℤ) (nextTable : ℤ) (index : ℕ) : List (Link K) → List (Link K)
  | [] => []
  | link :: links =>
    let linkId := if link.linkId = 0 then index else link.linkId
    if link.tableId ≠ 0 then
      { link with linkId } :: assignIdsFrom used nextTable (index + 1) links
    else
      let nextTable := AppConfig.freeId used used.length nextTable
      { link with tableId := nextTable, linkId } ::
        assignIdsFrom (nextTable :: used) (nextTable + 1) (index + 1) links

/-- `_assign_ids`. -/
def assignIds (links : List (Link K)) : List (Link K) :=
  assignIdsFrom ((links.map Link.tableId).filter fun id => id ≠ 0) 200 1 links

/-- `links_to_config`, before the checks of the models it makes. -/
def linksToConfig (links : List (Link ℚ)) : List LinkConfig :=
  links.map fun link =>
    { name := link.name
      interface := link.interface
      gateway := link.gateway
      weight := link.weight
      uplinkMbps := link.uplinkMbps
      downlinkMbps := link.downlinkMbps
      metered := link.metered
      enabled := link.enabled
      tableId := link.tableId }

/-- The loop of `_assign_ids`, as far as table ids go. -/
lemma map_tableId_assignIdsFrom {used : List ℤ} {nextTable : ℤ} {index : ℕ} {links : List (Link K)} :
    (assignIdsFrom used nextTable index links).map Link.tableId =
      allocate AppConfig.freshId used nextTable (links.map Link.tableId) := by
  induction links generalizing used nextTable index with
  | nil => rfl
  | cons link links ih =>
    rw [assignIdsFrom, List.map_cons, allocate]
    split
    · rw [List.map_cons, ih]
    · rw [List.map_cons, ih]
      rfl

lemma tableId_ne_zero_of_mem_assignIdsFrom {used : List ℤ} {nextTable : ℤ} (hnext : 0 < nextTable)
    {index : ℕ} {links : List (Link K)} {link : Link K}
    (h : link ∈ assignIdsFrom used nextTable index links) : link.tableId ≠ 0 := by
  have hmem := List.mem_map_of_mem (f := Link.tableId) h
  rw [map_tableId_assignIdsFrom] at hmem
  exact ne_zero_of_mem_allocate AppConfig.le_freshId hnext hmem

/-- The links that are written back have table ids. -/
lemma tableId_ne_zero_of_mem_linksToConfig {links : List (Link ℚ)} {link : LinkConfig}
    (h : link ∈ linksToConfig (assignIds links)) : link.tableId ≠ 0 := by
  obtain ⟨found, hfound, rfl⟩ := List.mem_map.1 h
  exact tableId_ne_zero_of_mem_assignIdsFrom (by norm_num) hfound

end Turbobond.Links
