import Turbobond.Config.Store
import Turbobond.Lib.Allocation

/-!
# Reading a configuration back

What `load_config` makes of the file that `save_config` has written.
-/

namespace Turbobond.Config

namespace AppConfig

/-! ### Table ids -/

lemma le_freeId (used : List ℤ) (fuel : ℕ) (nextId : ℤ) : nextId ≤ freeId used fuel nextId := by
  induction fuel generalizing nextId with
  | zero => exact le_rfl
  | succ fuel ih =>
    rw [freeId]
    split
    · exact (Int.le_add_one le_rfl).trans (ih (nextId + 1))
    · exact le_rfl

/-- The search ends, when it may go on for as long as there are used ids ahead. -/
lemma freeId_notMem (used : List ℤ) (fuel : ℕ) (nextId : ℤ)
    (hfuel : (used.filter fun id => nextId ≤ id).length ≤ fuel) :
    freeId used fuel nextId ∉ used := by
  induction fuel generalizing nextId with
  | zero =>
    intro hmem
    have hnil := List.length_eq_zero_iff.1 (Nat.le_zero.1 hfuel)
    exact absurd (List.filter_eq_nil_iff.1 hnil nextId hmem) (by simp)
  | succ fuel ih =>
    rw [freeId]
    split
    · rename_i hmem
      refine ih (nextId + 1) ?_
      -- one used id is behind now
      have hless : (used.filter fun id => nextId + 1 ≤ id).length <
          (used.filter fun id => nextId ≤ id).length := by
        have hsub : (used.filter fun id => nextId + 1 ≤ id) =
            (used.filter fun id => nextId ≤ id).filter fun id => nextId + 1 ≤ id := by
          rw [List.filter_filter]
          refine List.filter_congr fun id _ => ?_
          simp only [decide_eq_decide, Bool.and_eq_decide, decide_eq_true_eq]
          omega
        rw [hsub]
        exact List.length_filter_lt_length_iff_exists.2
          ⟨nextId, List.mem_filter.2 ⟨hmem, by simp⟩, by simp⟩
      omega
    · assumption

/-- The id that is given out next, when `nextId` is the counter. -/
def freshId (used : List ℤ) (nextId : ℤ) : ℤ := freeId used used.length nextId

lemma le_freshId (used : List ℤ) (nextId : ℤ) : nextId ≤ freshId used nextId :=
  le_freeId used used.length nextId

lemma freshId_notMem (used : List ℤ) (nextId : ℤ) : freshId used nextId ∉ used :=
  freeId_notMem used used.length nextId (List.length_filter_le ..)

/-- The loop of `assign_table_ids`, as far as ids go. -/
lemma map_tableId_assignIds (used : List ℤ) (nextId : ℤ) (links : List LinkConfig) :
    (assignIds used nextId links).map LinkConfig.tableId =
      allocate freshId used nextId (links.map LinkConfig.tableId) := by
  induction links generalizing used nextId with
  | nil => rfl
  | cons link links ih =>
    rw [assignIds, List.map_cons, allocate]
    split
    · rw [List.map_cons, ih]
    · rw [List.map_cons, ih]
      rfl

lemma assignIds_of_ne_zero (used : List ℤ) (nextId : ℤ) {links : List LinkConfig}
    (h : ∀ link ∈ links, link.tableId ≠ 0) : assignIds used nextId links = links := by
  induction links with
  | nil => rfl
  | cons link links ih =>
    rw [assignIds, if_pos (h link (by simp)), ih fun link' h' => h link' (by simp [h'])]

lemma tableId_ne_zero_of_mem_assignIds {used : List ℤ} {nextId : ℤ} (hnext : 0 < nextId)
    {links : List LinkConfig} {link : LinkConfig} (h : link ∈ assignIds used nextId links) :
    link.tableId ≠ 0 := by
  have hmem := List.mem_map_of_mem (f := LinkConfig.tableId) h
  rw [map_tableId_assignIds] at hmem
  exact ne_zero_of_mem_allocate le_freshId hnext hmem

/-- The table ids are all that `assign_table_ids` changes. -/
lemma exists_of_mem_assignIds {used : List ℤ} {nextId : ℤ} {links : List LinkConfig}
    {link : LinkConfig} (h : link ∈ assignIds used nextId links) :
    ∃ link' ∈ links, link = { link' with tableId := link.tableId } := by
  induction links generalizing used nextId with
  | nil => exact absurd h (by simp [assignIds])
  | cons link' links ih =>
    rw [assignIds] at h
    have hrest : ∀ {used nextId}, link ∈ assignIds used nextId links →
        ∃ link'' ∈ link' :: links, link = { link'' with tableId := link.tableId } := by
      intro used nextId h
      obtain ⟨link'', hmem, heq⟩ := ih h
      exact ⟨link'', by simp [hmem], heq⟩
    split at h
    · rcases List.mem_cons.1 h with rfl | h
      · exact ⟨link, by simp, rfl⟩
      · exact hrest h
    · rcases List.mem_cons.1 h with rfl | h
      · exact ⟨link', by simp, rfl⟩
      · exact hrest h

/-- A link is filled in: it has a table id, the one that it had if it had one. -/
def FilledIn (link link' : LinkConfig) : Prop :=
  link' = { link with tableId := link'.tableId } ∧ link'.tableId ≠ 0 ∧
    (link.tableId ≠ 0 → link' = link)

lemma forall₂_assignIds {used : List ℤ} {nextId : ℤ} (hnext : 0 < nextId) (links : List LinkConfig) :
    List.Forall₂ FilledIn links (assignIds used nextId links) := by
  induction links generalizing used nextId with
  | nil => exact .nil
  | cons link links ih =>
    have hfree := hnext.trans_le (le_freeId used used.length nextId)
    rw [assignIds]
    split
    · rename_i hid
      exact .cons ⟨rfl, hid, fun _ => rfl⟩ (ih hnext)
    · rename_i hid
      exact .cons ⟨rfl, hfree.ne', fun h => absurd h hid⟩ (ih (by omega))

/-- Nothing is assigned if and only if every link has a table id. -/
lemma assignTableIds_eq_self {c : AppConfig} :
    c.assignTableIds = c ↔ ∀ link ∈ c.links, link.tableId ≠ 0 := by
  constructor
  · intro h link hlink
    have hlinks : assignIds _ 200 c.links = c.links := congrArg links h
    rw [← hlinks] at hlink
    exact tableId_ne_zero_of_mem_assignIds (by norm_num) hlink
  · intro h
    rw [assignTableIds]
    exact congrArg (fun links => { c with links }) (assignIds_of_ne_zero _ 200 h)

/-! ### The reading -/

/-- Two configurations agree in everything but their directories. -/
def SameSettings (c c' : AppConfig) : Prop :=
  c' = { c with configDir := c'.configDir, stateDir := c'.stateDir, runDir := c'.runDir }

/-- `load_config` reads what `save_config` has written, as it was. -/
def Reloads (p : Pydantic) (path dir : String) (c : AppConfig) : Prop :=
  ∃ c', loadConfig p path dir (saveConfig p c) = .ok c' ∧ c.SameSettings c'

/-- A configuration as `load_config` reads it, before the checks: the directories are others. -/
def relocated (c : AppConfig) (configDir : String) : AppConfig :=
  { c with
    configDir, stateDir := ({} : AppConfig).stateDir, runDir := ({} : AppConfig).runDir }

/-- What `load_config` comes to, of a file that `save_config` has written. -/
lemma loadConfig_saveConfig (p : Pydantic) (path dir : String) (c : AppConfig) :
    ∃ configDir, ∀ c', loadConfig p path dir (saveConfig p c) = .ok c' ↔
      ∃ c₁, (c.relocated configDir).check = .ok c₁ ∧ c' = c₁.assignTableIds := by
  obtain ⟨configDir, hdir⟩ := Option.isSome_iff_exists.1 (p.readPath_str dir)
  have hread : read p (c.fields p ++ [("config_dir", .str dir)]) = some (c.relocated configDir) := by
    have hconfig : ∀ d, p.path [("config_dir", .str dir)] "config_dir" d = some configDir :=
      fun _ => hdir
    have hstate : ∀ d, p.path [("config_dir", .str dir)] "state_dir" d = some d := fun _ => rfl
    have hrun : ∀ d, p.path [("config_dir", .str dir)] "run_dir" d = some d := fun _ => rfl
    rw [read_fields]
    simp only [hconfig, hstate, hrun, Option.bind_eq_bind, Option.bind_some]
    rfl
  refine ⟨configDir, fun c' => ?_⟩
  have hload : loadConfig p path dir (saveConfig p c) =
      ((modelValidate p (c.fields p ++ [("config_dir", .str dir)])).map assignTableIds).mapError
        fun exc => { message := s!"invalid configuration in {path}: {exc}" } := rfl
  rw [hload, modelValidate, hread]
  cases hcheck : (c.relocated configDir).check with
  | error e => simp [hcheck, Except.map, Except.mapError]
  | ok c₁ => simp [hcheck, Except.map, Except.mapError, eq_comm]

/-- A configuration is read back as it is if and only if its host is normal, it passes the other
checks, and its links have table ids. -/
theorem reloads_iff (p : Pydantic) (path dir : String) (c : AppConfig) :
    c.Reloads p path dir ↔
      c.router.Normal ∧ c.Valid ∧ ∀ link ∈ c.links, link.tableId ≠ 0 := by
  obtain ⟨configDir, hload⟩ := loadConfig_saveConfig p path dir c
  simp only [Reloads, hload, check_eq_ok]
  constructor
  · rintro ⟨c', ⟨c₁, ⟨hvalid, host, hhost, rfl⟩, rfl⟩, hsame⟩
    have hrouter : { c.router with host } = c.router := congrArg router hsame
    have hlinks : assignIds _ 200 c.links = c.links := congrArg links hsame
    refine ⟨?_, ⟨hvalid.optimization, hvalid.links, hvalid.concentrator, hvalid.shadowsocks,
      hvalid.sip⟩, fun link hlink => ?_⟩
    · have heq : host = c.router.host := congrArg RouterConfig.host hrouter
      rw [RouterConfig.Normal, ← heq]
      exact heq ▸ hhost
    · rw [← hlinks] at hlink
      exact tableId_ne_zero_of_mem_assignIds (by norm_num) hlink
  · rintro ⟨hnormal, hvalid, hids⟩
    refine ⟨_, ⟨_, ⟨⟨hvalid.optimization, hvalid.links, hvalid.concentrator, hvalid.shadowsocks,
      hvalid.sip⟩, _, hnormal, rfl⟩, rfl⟩, ?_⟩
    have hlinks : ∀ used, assignIds used 200 c.links = c.links :=
      fun used => assignIds_of_ne_zero used 200 hids
    simp [SameSettings, assignTableIds, relocated, hlinks]

end AppConfig

end Turbobond.Config
