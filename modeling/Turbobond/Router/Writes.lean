import Turbobond.Router.Settings

/-!
# What a confirmed write has written

A write that is confirmed was applied, unless the name it was confirmed under is one that the router
neither knows nor shows: such a name reads back as nothing, which counts as written, and from then on
it is the only one tried.
-/

namespace Turbobond.Router

/-! ### What a call writes -/

namespace World

variable {py} {r : Firmware py} {w : World} {key logicalName : String} {value : Value}

/-- The loop of `set_setting` ends at such a key: the router knows it, or it cannot be read, or it
has the value already. -/
def settles (r : Firmware py) (tree : Value) (value : Value) (key : String) : Bool :=
  key ≠ "" && (r.knows key || confirms py (dig py tree key) value)

lemma postConfig_tree : (w.postConfig r key value).tree = r.applied w.tree key value := by
  have htoken (tree : Value) (text : String) :
      (if r.knows "token" then r.write tree "token" text else tree) = tree := by
    rw [r.knows_token]
    rfl
  simp only [postConfig, payload, Firmware.post, Firmware.applied]
  split_ifs with hempty hkey hkey' hknows hknows
  · rw [List.foldl_cons, List.foldl_nil, if_pos hkey]
  · rw [List.foldl_cons, List.foldl_nil, if_neg hkey]
  · rw [hkey', r.knows_token] at hknows
    exact absurd hknows (by simp)
  · rw [List.foldl_cons, List.foldl_nil, htoken]
  · rw [List.foldl_cons, List.foldl_cons, List.foldl_nil, htoken, if_pos hknows]
  · rw [List.foldl_cons, List.foldl_cons, List.foldl_nil, htoken, if_neg hknows]

/-- What is read back confirms the write exactly at a key where the loop ends. -/
lemma confirms_applied (hkey : key ≠ "") :
    confirms py (dig py (r.applied w.tree key value) key) value = settles r w.tree value key := by
  cases hknows : r.knows key with
  | true => simp [Firmware.applied, settles, hknows, hkey, r.confirms_write]
  | false => simp [Firmware.applied, settles, hknows, hkey]

/-- A key where the loop goes on is not applied. -/
lemma applied_of_not_settles (hkey : key ≠ "") (h : settles r w.tree value key = false) :
    r.applied w.tree key value = w.tree := by
  have hknows : r.knows key = false := by
    simp only [settles, Bool.and_eq_false_iff, Bool.or_eq_false_iff, decide_eq_false_iff_not] at h
    rcases h with h | h
    · exact absurd hkey h
    · exact h.1
  rw [Firmware.applied, hknows]
  rfl

/-- The loop of `set_setting` ends at the first key where it can, which was posted by then; if there
is none, nothing has changed. -/
lemma trySetting_spec (logicalName : String) (value : Value) (keys : List String) (w : World) :
    match keys.find? (settles r w.tree value) with
    | none => (trySetting r logicalName value keys w).1 = false ∧
        (trySetting r logicalName value keys w).2.tree = w.tree ∧
        (trySetting r logicalName value keys w).2.admin.writeKeyCache = w.admin.writeKeyCache
    | some key => (trySetting r logicalName value keys w).1 = true ∧
        (trySetting r logicalName value keys w).2.tree = r.applied w.tree key value ∧
        (trySetting r logicalName value keys w).2.admin.writeKeyCache =
          w.admin.writeKeyCache.set logicalName key := by
  induction keys generalizing w with
  | nil => exact ⟨rfl, rfl, rfl⟩
  | cons key keys ih =>
    rw [trySetting]
    by_cases hkey : key = ""
    · have hnot : settles r w.tree value key = false := by simp [settles, hkey]
      rw [if_pos hkey, List.find?_cons_of_neg (by simp [hnot])]
      exact ih w
    rw [if_neg hkey]
    have hconfirm : ((w.postConfig r key value).confirmWritten r key value).1
        = settles r w.tree value key := by
      rw [← confirms_applied hkey, ← postConfig_tree]
      rfl
    have htree : ((w.postConfig r key value).confirmWritten r key value).2.tree
        = r.applied w.tree key value := postConfig_tree
    have hcache : ((w.postConfig r key value).confirmWritten r key value).2.admin.writeKeyCache
        = w.admin.writeKeyCache := rfl
    revert hconfirm htree hcache
    rcases (w.postConfig r key value).confirmWritten r key value with ⟨written, w'⟩
    rintro rfl htree hcache
    cases hsettles : settles r w.tree value key with
    | true =>
      rw [List.find?_cons_of_pos hsettles]
      exact ⟨rfl, htree, congrArg (Dict.set · logicalName key) hcache⟩
    | false =>
      have htree' : w'.tree = w.tree := htree.trans (applied_of_not_settles hkey hsettles)
      rw [List.find?_cons_of_neg (by simp [hsettles])]
      have := ih w'
      rwa [htree', hcache] at this

/-- The names that worked once are names of their settings. -/
def CachedAliases (w : World) : Prop :=
  ∀ logicalName key, w.admin.writeKeyCache.get? logicalName = some key → key ∈ aliases logicalName

lemma CachedAliases.mem_aliases (h : CachedAliases w) (hkey : key ∈ w.candidates logicalName) :
    key ∈ aliases logicalName := by
  rw [candidates] at hkey
  split at hkey
  · rename_i cached hcached
    split_ifs at hkey with hempty
    · exact hkey
    · rw [List.mem_singleton] at hkey
      rw [hkey]
      exact h _ _ hcached
  · exact hkey

lemma CachedAliases.setSetting (h : CachedAliases w) (r : Firmware py) (logicalName : String)
    (value : Value) : CachedAliases (w.setSetting r logicalName value).2 := by
  intro name key hget
  have hspec := trySetting_spec (r := r) logicalName value (w.candidates logicalName) w
  split at hspec
  · rw [World.setSetting, hspec.2.2] at hget
    exact h name key hget
  · rename_i tried hfind
    rw [World.setSetting, hspec.2.2, Dict.get?_set] at hget
    split_ifs at hget with hname
    · cases hget
      rw [hname]
      exact h.mem_aliases (List.mem_of_find?_eq_some hfind)
    · exact h name key hget

lemma CachedAliases.step (h : CachedAliases w) (action : Action py) :
    CachedAliases (w.step action) := by
  cases action with
  | change tree => exact h
  | session authenticated => exact h
  | read r => exact h
  | setSetting r logicalName value => exact h.setSetting r logicalName value
  | setSipAlg r enabled =>
    rw [World.step, setSipAlg, requireAuth]
    by_cases hauth : w.admin.authenticated = true
    · rw [if_pos hauth]
      cases hmodel : sipAlgEnabled py w.admin.model with
      | none => exact h
      | some current =>
        by_cases hcurrent : current = enabled
        · simp only [hcurrent, if_true]
          exact h
        · simp only [hcurrent, if_false]
          exact h.setSetting r "sip_alg" (.bool enabled)
    · rw [if_neg hauth]
      exact h

lemma cachedAliases_after (tree : Value) (actions : List (Action py)) :
    CachedAliases (after tree actions) := by
  have hrun : ∀ (actions : List (Action py)) (w : World), CachedAliases w →
      CachedAliases (actions.foldl World.step w) := by
    intro actions
    induction actions with
    | nil => exact fun _ h => h
    | cons action actions ih => exact fun w h => ih _ (h.step action)
  refine hrun actions _ fun logicalName key hget => ?_
  simp at hget

/-! ### Confirmed writes -/

/-- Some path of a setting can be read. -/
def Exposed (py : PyText) (tree : Value) (logicalName : String) : Prop :=
  ∃ path ∈ aliases logicalName, Present py tree path

/-- A confirmed write of a setting that can be read, before or after: a path has the value. -/
def Written (r : Firmware py) (w : World) (logicalName : String) (value : Value) : Prop :=
  let (confirmed, w') := w.setSetting r logicalName value
  confirmed = true → Exposed py w.tree logicalName ∨ Exposed py w'.tree logicalName →
    ∃ path ∈ aliases logicalName, Shows py w'.tree path value

/-- After `set_sip_alg(False)` has returned `True`, the next `status` does not say that the SIP ALG
is on. -/
def SipAlgOff (r : Firmware py) (w : World) : Prop :=
  ∀ w', w.setSipAlg r false = .ok (true, w') →
    sipAlgEnabled py (w'.fetchModel r).admin.model ≠ some true

/-- The first name at which `set_setting` can end is one that the router neither knows nor shows,
while another path of the setting can be read and none has the value. -/
def Mistaken (r : Firmware py) (w : World) (logicalName : String) (value : Value) : Prop :=
  ∃ key, (w.candidates logicalName).find? (settles r w.tree value) = some key ∧
    r.knows key = false ∧ ¬ Present py w.tree key ∧ Exposed py w.tree logicalName ∧
    ∀ path ∈ aliases logicalName, ¬ Shows py w.tree path value

/-- The router says that the SIP ALG is on, though the tree that was read last does not; or the
tree says so, and the router still does once `false` is posted under the first name at which
`set_setting` can end. -/
def StillOn (r : Firmware py) (w : World) : Prop :=
  w.admin.authenticated = true ∧
    ((sipAlgEnabled py w.admin.model ≠ some true ∧ sipAlgEnabled py w.tree = some true) ∨
      (sipAlgEnabled py w.admin.model = some true ∧
        ∃ key, (w.candidates "sip_alg").find? (settles r w.tree (.bool false)) = some key ∧
          sipAlgEnabled py (r.applied w.tree key (.bool false)) = some true))

lemma written_iff (h : CachedAliases w) (logicalName : String) (value : Value) :
    Written r w logicalName value ↔ ¬ Mistaken r w logicalName value := by
  have hspec := trySetting_spec (r := r) logicalName value (w.candidates logicalName) w
  rw [Written, Mistaken]
  split at hspec
  · rename_i hfind
    simp [World.setSetting, hspec.1, hfind]
  rename_i key hfind
  have hkey : key ∈ aliases logicalName := h.mem_aliases (List.mem_of_find?_eq_some hfind)
  have hsettles : settles r w.tree value key = true := List.find?_some hfind
  obtain ⟨hconfirmed, htree, -⟩ := hspec
  simp only [World.setSetting, hconfirmed, htree, hfind, true_imp_iff, Option.some.injEq,
    exists_eq_left']
  cases hknows : r.knows key with
  | true =>
    -- the router has applied the setting
    simp only [Bool.true_eq_false, false_and, not_false_eq_true, iff_true]
    intro hexposed
    rw [Firmware.applied, hknows] at hexposed ⊢
    refine r.shows_write w.tree logicalName key value hkey hknows ?_
    rcases hexposed with ⟨path, hpath, hpresent⟩ | ⟨path, hpath, hpresent⟩
    · exact ⟨path, hpath, Or.inl hpresent⟩
    · exact ⟨path, hpath, Or.inr hpresent⟩
  | false =>
    -- nothing has changed, and the key is not there, or it has the value already
    have hsame : r.applied w.tree key value = w.tree := by rw [Firmware.applied, hknows]; rfl
    have hconfirms : confirms py (dig py w.tree key) value = true := by
      simpa [settles, hknows] using (Bool.and_eq_true_iff.1 hsettles).2
    rw [hsame, or_self]
    constructor
    · rintro hwritten ⟨-, -, hexposed, hnone⟩
      obtain ⟨path, hpath, hshows⟩ := hwritten hexposed
      exact hnone path hpath hshows
    · intro hnot hexposed
      by_contra hnone
      push Not at hnone
      exact hnot ⟨rfl, fun hpresent => hnone key hkey ⟨hpresent, hconfirms⟩, hexposed, hnone⟩

/-- What `status` reads is the tree of the router. -/
lemma sipAlgEnabled_fetchModel (r : Firmware py) (w : World) :
    sipAlgEnabled py (w.fetchModel r).admin.model = sipAlgEnabled py w.tree := rfl

lemma setSipAlg_of_not_authenticated (h : w.admin.authenticated = false) (enabled : Bool) :
    ∃ e, w.setSipAlg r enabled = .error e := by
  rw [setSipAlg, requireAuth, h]
  exact ⟨_, rfl⟩

/-- The setting is written when the tree that was read last says that it is on. -/
lemma setSipAlg_false_of_on (h : w.admin.authenticated = true)
    (hon : sipAlgEnabled py w.admin.model = some true) :
    w.setSipAlg r false = .ok (w.setSetting r "sip_alg" (.bool false)) := by
  rw [setSipAlg, requireAuth, h, hon]
  rfl

/-- Otherwise it is not touched. -/
lemma setSipAlg_false_of_not_on (h : w.admin.authenticated = true)
    (hoff : sipAlgEnabled py w.admin.model ≠ some true) : w.setSipAlg r false = .ok (true, w) := by
  rw [setSipAlg, requireAuth, h]
  cases hmodel : sipAlgEnabled py w.admin.model with
  | none => rfl
  | some current =>
    cases current with
    | true => exact absurd hmodel hoff
    | false => rfl

lemma sipAlgOff_iff (r : Firmware py) (w : World) : SipAlgOff r w ↔ ¬ StillOn r w := by
  rw [SipAlgOff, StillOn]
  cases hauth : w.admin.authenticated with
  | false =>
    obtain ⟨e, he⟩ := setSipAlg_of_not_authenticated (r := r) hauth false
    simp [he]
  | true =>
    by_cases hmodel : sipAlgEnabled py w.admin.model = some true
    · rw [setSipAlg_false_of_on hauth hmodel]
      have hspec := trySetting_spec (r := r) "sip_alg" (.bool false) (w.candidates "sip_alg") w
      split at hspec
      · rename_i hfind
        obtain ⟨hconfirmed, -, -⟩ := hspec
        simp [World.setSetting, hfind, hmodel, Prod.ext_iff, hconfirmed]
      · rename_i key hfind
        obtain ⟨hconfirmed, htree, -⟩ := hspec
        simp [World.setSetting, hfind, hmodel, Prod.ext_iff, hconfirmed, sipAlgEnabled_fetchModel,
          htree]
    · rw [setSipAlg_false_of_not_on hauth hmodel]
      simp [hmodel, sipAlgEnabled_fetchModel]

/-- Whatever happened before, and whatever router it is: a confirmed write has really happened
exactly when no mistaken name confirmed it, and the SIP ALG is seen to be off after
`set_sip_alg(False)` exactly when neither an old tree nor a mistaken or overridden name stood in
for the router. -/
theorem confirmed_writes_iff (tree : Value) (actions : List (Action py)) (r : Firmware py) :
    (∀ logicalName value, Written r (after tree actions) logicalName value ↔
        ¬ Mistaken r (after tree actions) logicalName value) ∧
      (SipAlgOff r (after tree actions) ↔ ¬ StillOn r (after tree actions)) :=
  ⟨written_iff (cachedAliases_after tree actions), sipAlgOff_iff r _⟩

end World

/-! ### A router that knows one name -/

/-- The loop of `plant`. -/
def plantParts (value : Value) : Value → List String → Value
  | _, [] => value
  | .dict fields, part :: parts =>
    .dict (Fields.set part (plantParts value ((fields.lookup part).getD .null) parts) fields)
  | _, part :: parts => .dict [(part, plantParts value .null parts)]

/-- `plant`, which here does not change the tree in place. -/
def plant (tree : Value) (dotted : String) (value : Value) : Value :=
  plantParts value tree (parts dotted)

variable (py : PyText)

lemma digParts_plantParts (value tree : Value) (parts : List String) :
    digParts py (plantParts value tree parts) parts = value := by
  induction parts generalizing tree with
  | nil => cases tree <;> rfl
  | cons part parts ih =>
    cases tree with
    | dict fields => simp [plantParts, digParts, ih]
    | _ => simp [plantParts, digParts, ih]

lemma dig_plant (tree : Value) (dotted : String) (value : Value) :
    dig py (plant tree dotted value) dotted = value := digParts_plantParts py value tree _

/-- Two values with the same text and the same truth value confirm each other. -/
lemma confirms_str {text : String} {expected : Value}
    (hbool : asBool py expected ≠ none → asBool py (.str text) = asBool py expected)
    (hplain : asBool py expected = none → plain py (.str text) = plain py expected) :
    confirms py (.str text) expected = true := by
  rw [confirms]
  · cases h : asBool py expected with
    | none => simp [hplain h]
    | some b => simp [hbool (by simp [h]), h]
  · simp

/-- The text of a form says the value that it was made of. -/
lemma confirms_formValue (value : Value) :
    confirms py (.str (formValue py value)) value = true := by
  cases value with
  | bool b =>
    have hstrip : String.ofList (Config.strip (if b then "true" else "false").toList)
        = if b then "true" else "false" := by
      cases b <;> decide
    have hplain : plain py (.str (formValue py (.bool b))) = if b then "true" else "false" :=
      (congrArg py.lower hstrip).trans (py.lower_bool b)
    refine confirms_str py (fun _ => ?_) fun h => by simp [asBool] at h
    have htruth : asBool py (.str (formValue py (.bool b))) =
        if plain py (.str (formValue py (.bool b))) ∈ ["1", "true", "on", "enabled", "yes"] then
          some true
        else if plain py (.str (formValue py (.bool b))) ∈ ["0", "false", "off", "disabled", "no"]
        then some false else none := rfl
    rw [htruth, hplain, asBool]
    cases b <;> decide
  | null => exact confirms_str py (fun h => absurd rfl h) fun _ => rfl
  | int n => exact confirms_str py (fun _ => rfl) fun _ => rfl
  | float x => exact confirms_str py (fun _ => rfl) fun _ => rfl
  | str s => exact confirms_str py (fun _ => rfl) fun _ => rfl
  | list items => exact confirms_str py (fun _ => rfl) fun _ => rfl
  | dict fields => exact confirms_str py (fun _ => rfl) fun _ => rfl
  | other repr => exact confirms_str py (fun _ => rfl) fun _ => rfl

/-- A router that knows one key, stores the text and shows it under the key. -/
def Firmware.ofKey (known : String) (h : known ≠ "token") : Firmware py where
  knows key := key = known
  write tree key text := plant tree key (.str text)
  secToken _ := ""
  knows_token := by simpa using Ne.symm h
  confirms_write tree key value _ := by
    rw [dig_plant]
    exact confirms_formValue py value
  shows_write tree name key value hkey _ _ := by
    refine ⟨key, hkey, ?_, ?_⟩
    · rw [Present, dig_plant]
      simp
    · rw [dig_plant]
      exact confirms_formValue py value

/-- Python, as far as ASCII texts go. -/
def asciiText : PyText where
  lower s := String.ofList (s.toList.map Char.toLower)
  repr _ := ""
  int _ := none
  lower_bool b := by cases b <;> decide

/-- A router with its SIP ALG on that knows only the third name. -/
def thirdName : Firmware asciiText := .ofKey asciiText "firewall.sipalg" (by decide)

def thirdNameTree : Value := .dict [("firewall", .dict [("sipalg", .bool true)])]

/-- The first name is confirmed, and the router still has its SIP ALG on. -/
theorem confirmed_not_written :
    let w := World.after thirdNameTree [.session true, .read thirdName]
    ¬ World.Written thirdName w "sip_alg" (.bool false) ∧ ¬ World.SipAlgOff thirdName w := by
  intro w
  have halias : dig asciiText thirdNameTree "firewall.sipalg" = .bool true := rfl
  constructor
  · intro hwritten
    have hexposed : World.Exposed asciiText thirdNameTree "sip_alg" :=
      ⟨"firewall.sipalg", by decide, by simp [Present, halias]⟩
    obtain ⟨path, hpath, hpresent, hconfirms⟩ := hwritten rfl (Or.inl hexposed)
    change path ∈ ["router.sipalg.enabled", "router.sipALG", "firewall.sipalg", "router.SIPALG"]
      at hpath
    simp only [List.mem_cons, List.not_mem_nil, or_false] at hpath
    -- only the third path can be read, and there the value is still the old one
    rcases hpath with rfl | rfl | rfl | rfl
    · exact hpresent rfl
    · exact hpresent rfl
    · exact absurd hconfirms (by decide)
    · exact hpresent rfl
  · intro hoff
    exact hoff _ (show w.setSipAlg thirdName false = _ from rfl) rfl

end Turbobond.Router
