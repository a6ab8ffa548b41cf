import Turbobond.Android.Service
import Turbobond.Lib.Dict

/-!
# The uplinks on Android

`UplinkManager` of `Uplinks.kt`: one socket for each radio that can be used, kept outside the tunnel
and pinned to its radio.  What the system answers when a socket is protected and bound is given with
the callback.  A socket that the manager does not keep is closed where it was made.
-/

namespace Turbobond.Android

/-- The `Uplink` of `Uplinks.kt`. -/
structure PinnedUplink extends Uplink where
  id : BitVec 32
  network : ℕ
  counter : BitVec 64
  lastSeen : ℤ
  /-- `socket.isClosed`. -/
  closed : Bool

/-- `Uplink(id, transport, network, socket)`. -/
def PinnedUplink.new (id : BitVec 32) (transport : String) (network : ℕ) : PinnedUplink where
  transport := transport
  acked := false
  id := id
  network := network
  counter := 0
  lastSeen := 0
  closed := false

structure UplinkManager where
  /-- Every uplink made.  An uplink is known by its place here, also when its network is lost: a
  thread may still hold it. -/
  made : List PinnedUplink
  byNetwork : Dict ℕ ℕ
  nextId : BitVec 32
  /-- The callbacks are registered. -/
  registered : Bool

namespace UplinkManager

/-- A manager that has started. -/
def started : UplinkManager where
  made := []
  byNetwork := Dict.empty
  nextId := 1
  registered := true

def idOf (m : UplinkManager) (uplink : ℕ) : ℤ := (m.made[uplink]?.map (·.id.toInt)).getD 0

/-- `byNetwork.values.sortedBy { it.id }`. -/
def uplinks (m : UplinkManager) : List ℕ :=
  m.byNetwork.values.insertionSort fun i j => m.idOf i ≤ m.idOf j

/-- Change the fields of an uplink. -/
def update (m : UplinkManager) (uplink : ℕ) (f : PinnedUplink → PinnedUplink) : UplinkManager :=
  { m with made := m.made.modify uplink f }

/-- `socket.close()`. -/
def close (m : UplinkManager) (uplink : ℕ) : UplinkManager :=
  m.update uplink fun u => { u with closed := true }

/-- `onAvailable`, with what `protect` and `bindSocket` answer. -/
def onAvailable (m : UplinkManager) (network : ℕ) (label : String) (protectedOk boundOk : Bool) :
    UplinkManager :=
  if m.byNetwork.has network then m
  else if !protectedOk then m
  else if !boundOk then m
  else
    { m with
      made := m.made ++ [.new m.nextId label network]
      byNetwork := m.byNetwork.set network m.made.length
      nextId := m.nextId + 1 }

def onLost (m : UplinkManager) (network : ℕ) : UplinkManager :=
  match m.byNetwork.get? network with
  | none => m
  | some uplink => { m.close uplink with byNetwork := m.byNetwork.erase network }

def stop (m : UplinkManager) : UplinkManager :=
  let m := { m with registered := false }
  { m.byNetwork.values.foldl close m with byNetwork := Dict.empty }

/-! ### Fields -/

@[simp] lemma update_byNetwork (m : UplinkManager) (uplink : ℕ) (f : PinnedUplink → PinnedUplink) :
    (m.update uplink f).byNetwork = m.byNetwork := rfl

@[simp] lemma update_nextId (m : UplinkManager) (uplink : ℕ) (f : PinnedUplink → PinnedUplink) :
    (m.update uplink f).nextId = m.nextId := rfl

@[simp] lemma length_update (m : UplinkManager) (uplink : ℕ) (f : PinnedUplink → PinnedUplink) :
    (m.update uplink f).made.length = m.made.length := List.length_modify _ _ _

lemma get?_update (m : UplinkManager) (uplink i : ℕ) (f : PinnedUplink → PinnedUplink) :
    (m.update uplink f).made[i]? =
      if uplink = i then m.made[i]?.map f else m.made[i]? := by
  rw [update, List.getElem?_modify]
  split_ifs <;> cases m.made[i]? <;> rfl

/-- Where a field is left alone, it is the same for all uplinks. -/
lemma map_get?_update {α : Type} (g : PinnedUplink → α) {f : PinnedUplink → PinnedUplink}
    (hf : ∀ u, g (f u) = g u) (m : UplinkManager) (uplink i : ℕ) :
    (m.update uplink f).made[i]?.map g = m.made[i]?.map g := by
  rw [get?_update]
  split_ifs
  · cases m.made[i]? with
    | none => rfl
    | some u => exact congrArg some (hf u)
  · rfl

/-- The uplinks of a manager whose sockets are used are the same. -/
lemma uplinks_update {f : PinnedUplink → PinnedUplink} (hf : ∀ u, (f u).id = u.id)
    (m : UplinkManager) (uplink : ℕ) : (m.update uplink f).uplinks = m.uplinks := by
  have hid : (m.update uplink f).idOf = m.idOf := by
    funext i
    rw [idOf, idOf, map_get?_update (fun u => u.id.toInt) (fun u => by rw [hf u])]
  rw [uplinks, uplinks, hid, update_byNetwork]

lemma mem_uplinks {m : UplinkManager} {uplink : ℕ} :
    uplink ∈ m.uplinks ↔ ∃ network, m.byNetwork.get? network = some uplink := by
  rw [uplinks, (List.perm_insertionSort _ _).mem_iff, Dict.mem_values_iff]

/-! ### What the manager keeps -/

/-- The open sockets are those of the networks that are up, and every uplink made has an id of its
own. -/
structure Tracks (m : UplinkManager) : Prop where
  tracked : ∀ network i, m.byNetwork.get? network = some i →
    ∃ u, m.made[i]? = some u ∧ u.network = network ∧ u.closed = false
  opened : ∀ i u, m.made[i]? = some u → u.closed = false → m.byNetwork.get? u.network = some i
  ids : ∀ i u, m.made[i]? = some u → u.id = BitVec.ofNat 32 (i + 1)
  nextId : m.nextId = BitVec.ofNat 32 (m.made.length + 1)

namespace Tracks

variable {m : UplinkManager}

lemma started : UplinkManager.started.Tracks :=
  ⟨by simp [UplinkManager.started], by simp [UplinkManager.started],
    by simp [UplinkManager.started], rfl⟩

/-- What is known of the uplinks' ids, networks and sockets is known after any change of the rest. -/
lemma update (h : m.Tracks) {f : PinnedUplink → PinnedUplink} (hid : ∀ u, (f u).id = u.id)
    (hnetwork : ∀ u, (f u).network = u.network) (hclosed : ∀ u, (f u).closed = u.closed)
    (uplink : ℕ) : (m.update uplink f).Tracks := by
  have hold : ∀ (i : ℕ) (u : PinnedUplink), (m.update uplink f).made[i]? = some u →
      ∃ u₀ : PinnedUplink, m.made[i]? = some u₀ ∧ u.id = u₀.id ∧ u.network = u₀.network ∧
        u.closed = u₀.closed := by
    intro i u hu
    rw [get?_update] at hu
    split_ifs at hu
    · obtain ⟨u₀, hu₀, rfl⟩ := Option.map_eq_some_iff.1 hu
      exact ⟨u₀, hu₀, hid u₀, hnetwork u₀, hclosed u₀⟩
    · exact ⟨u, hu, rfl, rfl, rfl⟩
  refine ⟨fun network i hi => ?_, fun i u hu hopen => ?_, fun i u hu => ?_, ?_⟩
  · obtain ⟨u, hu, hnet, hopen⟩ := h.tracked network i hi
    rw [get?_update]
    split_ifs
    · exact ⟨f u, by rw [hu]; rfl, (hnetwork u).trans hnet, (hclosed u).trans hopen⟩
    · exact ⟨u, hu, hnet, hopen⟩
  · obtain ⟨u₀, hu₀, -, hnet, hclosed₀⟩ := hold i u hu
    rw [hnet]
    exact h.opened i u₀ hu₀ (hclosed₀.symm.trans hopen)
  · obtain ⟨u₀, hu₀, hid₀, -⟩ := hold i u hu
    exact hid₀.trans (h.ids i u₀ hu₀)
  · rw [length_update]
    exact h.nextId

lemma onAvailable (h : m.Tracks) (network : ℕ) (label : String) (protectedOk boundOk : Bool) :
    (m.onAvailable network label protectedOk boundOk).Tracks := by
  rw [UplinkManager.onAvailable]
  split_ifs with hhas
  · exact h
  · exact h
  · exact h
  rw [Dict.has_iff, Dict.mem_keys_iff] at hhas
  have hfresh : m.byNetwork.get? network = none := by
    cases hget : m.byNetwork.get? network with
    | none => rfl
    | some i => exact absurd ⟨i, hget⟩ hhas
  -- an uplink is an old one or the new one
  have hcases : ∀ i u, (m.made ++ [PinnedUplink.new m.nextId label network])[i]? = some u →
      m.made[i]? = some u ∨ i = m.made.length ∧ u = .new m.nextId label network := by
    intro i u hu
    rcases Nat.lt_trichotomy i m.made.length with hlt | rfl | hgt
    · rw [List.getElem?_append_left hlt] at hu
      exact Or.inl hu
    · rw [List.getElem?_concat_length] at hu
      exact Or.inr ⟨rfl, (Option.some.inj hu).symm⟩
    · rw [List.getElem?_append_right hgt.le] at hu
      rw [List.getElem?_eq_none (by simp; omega)] at hu
      exact absurd hu (by simp)
  have hold : ∀ i u, m.made[i]? = some u →
      (m.made ++ [PinnedUplink.new m.nextId label network])[i]? = some u := fun i u hu => by
    rw [List.getElem?_append_left (List.getElem?_eq_some_iff.1 hu).1]
    exact hu
  refine ⟨fun network' i hi => ?_, fun i u hu hopen => ?_, fun i u hu => ?_, ?_⟩
  · rw [Dict.get?_set] at hi
    split_ifs at hi with heq
    · obtain rfl := Option.some.inj hi
      exact ⟨_, List.getElem?_concat_length, heq.symm, rfl⟩
    · obtain ⟨u, hu, hrest⟩ := h.tracked network' i hi
      exact ⟨u, hold i u hu, hrest⟩
  · rcases hcases i u hu with hu | ⟨rfl, rfl⟩
    · have hget := h.opened i u hu hopen
      change (m.byNetwork.set network m.made.length).get? u.network = some i
      rw [Dict.get?_set_of_ne _ (fun heq => ?_)]
      · exact hget
      · rw [heq, hfresh] at hget
        exact absurd hget (by simp)
    · exact Dict.get?_set_self _ _ _
  · rcases hcases i u hu with hu | ⟨rfl, rfl⟩
    · exact h.ids i u hu
    · exact h.nextId
  · change m.nextId + 1 = _
    rw [List.length_append, List.length_singleton, h.nextId, BitVec.ofNat_add (m.made.length + 1) 1]
    rfl

lemma onLost (h : m.Tracks) (network : ℕ) : (m.onLost network).Tracks := by
  rw [UplinkManager.onLost]
  cases hget : m.byNetwork.get? network with
  | none => exact h
  | some lost =>
    have hold : ∀ (i : ℕ) (u : PinnedUplink), (m.close lost).made[i]? = some u →
        ∃ u₀ : PinnedUplink, m.made[i]? = some u₀ ∧ u.id = u₀.id ∧ u.network = u₀.network ∧
          (u.closed = false → i ≠ lost ∧ u₀.closed = false) := by
      intro i u hu
      rw [close, get?_update] at hu
      split_ifs at hu with hi
      · obtain ⟨u₀, hu₀, rfl⟩ := Option.map_eq_some_iff.1 hu
        exact ⟨u₀, hu₀, rfl, rfl, by simp⟩
      · exact ⟨u, hu, rfl, rfl, fun hopen => ⟨Ne.symm hi, hopen⟩⟩
    refine ⟨fun network' i hi => ?_, fun i u hu hopen => ?_, fun i u hu => ?_, ?_⟩
    · obtain ⟨hne, hi⟩ := Dict.of_get?_erase hi
      obtain ⟨u, hu, hnet, hopen⟩ := h.tracked network' i hi
      refine ⟨u, ?_, hnet, hopen⟩
      change (m.close lost).made[i]? = some u
      rw [close, get?_update, if_neg]
      · exact hu
      · -- an uplink is of one network
        rintro rfl
        obtain ⟨u', hu', hnet', -⟩ := h.tracked network lost hget
        obtain rfl := Option.some.inj (hu.symm.trans hu')
        exact hne (hnet.symm.trans hnet')
    · obtain ⟨u₀, hu₀, -, hnet, himp⟩ := hold i u hu
      obtain ⟨hi, hopen₀⟩ := himp hopen
      have hget' := h.opened i u₀ hu₀ hopen₀
      change (m.byNetwork.erase network).get? u.network = some i
      rw [hnet, Dict.get?_erase_of_ne _ fun heq => hi ?_]
      · exact hget'
      · rw [heq, hget] at hget'
        exact (Option.some.inj hget').symm
    · obtain ⟨u₀, hu₀, hid, -⟩ := hold i u hu
      exact hid.trans (h.ids i u₀ hu₀)
    · change m.nextId = BitVec.ofNat 32 ((m.close lost).made.length + 1)
      rw [close, length_update]
      exact h.nextId

/-- An uplink is in use once. -/
lemma nodup_values (h : m.Tracks) : m.byNetwork.values.Nodup := by
  refine List.pairwise_map.2 ((List.pairwise_map.1 m.byNetwork.nodup).imp_of_mem ?_)
  intro e e' he he' hne heq
  have hget := (Dict.get?_eq_some_iff _ _ _).2 he
  have hget' := (Dict.get?_eq_some_iff _ _ _).2 he'
  obtain ⟨u, hu, hnet, -⟩ := h.tracked _ _ hget
  obtain ⟨u', hu', hnet', -⟩ := h.tracked _ _ hget'
  rw [heq] at hu
  obtain rfl := Option.some.inj (hu.symm.trans hu')
  exact hne (hnet.symm.trans hnet')

lemma nodup_uplinks (h : m.Tracks) : m.uplinks.Nodup :=
  (List.perm_insertionSort _ _).nodup_iff.2 h.nodup_values

end Tracks

/-- What closing some sockets leaves of an uplink. -/
lemma get?_foldl_close (l : List ℕ) (m : UplinkManager) (i : ℕ) :
    (l.foldl close m).made[i]? =
      m.made[i]?.map fun u => if i ∈ l then { u with closed := true } else u := by
  induction l generalizing m with
  | nil => simp
  | cons lost l ih =>
    rw [List.foldl_cons, ih, close, get?_update]
    cases m.made[i]? with
    | none => simp
    | some u =>
      by_cases hi : lost = i
      · by_cases hl : i ∈ l <;> simp [hi, hl]
      · simp [hi, Ne.symm hi]

lemma foldl_close (l : List ℕ) (m : UplinkManager) :
    (l.foldl close m).nextId = m.nextId ∧ (l.foldl close m).made.length = m.made.length ∧
      (l.foldl close m).registered = m.registered := by
  induction l generalizing m with
  | nil => exact ⟨rfl, rfl, rfl⟩
  | cons lost l ih =>
    obtain ⟨hnext, hlength, hregistered⟩ := ih (m.close lost)
    exact ⟨hnext, hlength.trans (length_update _ _ _), hregistered⟩

/-- A manager that has stopped holds no socket open. -/
lemma closed_stop {m : UplinkManager} (h : m.Tracks) {i : ℕ} {u : PinnedUplink}
    (hu : m.stop.made[i]? = some u) : u.closed = true := by
  rw [stop, get?_foldl_close] at hu
  obtain ⟨u₀, hu₀, rfl⟩ := Option.map_eq_some_iff.1 hu
  split_ifs with hi
  · rfl
  · by_contra hopen
    have hopen₀ : u₀.closed = false := by simpa using hopen
    exact hi ((Dict.mem_values_iff _ _).2 ⟨_, h.opened i u₀ hu₀ hopen₀⟩)

lemma Tracks.stop {m : UplinkManager} (h : m.Tracks) : m.stop.Tracks := by
  obtain ⟨hnext, hlength, -⟩ := foldl_close m.byNetwork.values { m with registered := false }
  refine ⟨by simp [UplinkManager.stop], fun i u hu hopen => ?_, fun i u hu => ?_, ?_⟩
  · rw [closed_stop h hu] at hopen
    exact absurd hopen (by simp)
  · rw [UplinkManager.stop, get?_foldl_close] at hu
    obtain ⟨u₀, hu₀, rfl⟩ := Option.map_eq_some_iff.1 hu
    rw [← h.ids i u₀ hu₀]
    split_ifs
    · rfl
    · rfl
  · change (m.byNetwork.values.foldl close { m with registered := false }).nextId = _
    rw [hnext, h.nextId]
    exact congrArg (fun n => BitVec.ofNat 32 (n + 1)) hlength.symm

end UplinkManager

end Turbobond.Android
