import Turbobond.Lib.Patch

/-!
# Records, slot by slot

The codec of a record reads and writes each slot under its key.  What a patch makes of a record is
then what it makes of the slots: a slot that it spares stays as it is, a slot that it names is read
from the patch, and the same patch again changes nothing.
-/

namespace Turbobond

namespace Codec

variable {α β : Type}

/-- What reading makes of a tree, as a tree. -/
def normal (c : Codec α) (w : Value) : Option Value := (c.read w).map c.dump

/-- A codec whose trees are no mappings. -/
def Plain (c : Codec α) : Prop := ∀ a, ¬ (c.dump a).IsDict

/-- A patch changes what a codec has written where it does not spare it, and once. -/
structure Local (c : Codec α) : Prop where
  spared : ∀ {w : Value} {a a' : α}, w.Distinct → c.read ((c.dump a).patch w) = some a' →
    ∀ {path}, w.Spares path → (c.dump a').find path = (c.dump a).find path
  again : ∀ {w : Value} {a a' : α}, w.Distinct → c.read ((c.dump a).patch w) = some a' →
    c.read ((c.dump a').patch w) = some a'

/-- What a patch has at a path, a reader makes into what is there afterwards. -/
def Takes (c : Codec α) (path : List String) (reader : Value → Option Value) : Prop :=
  ∀ ⦃w : Value⦄ ⦃a a' : α⦄, w.Distinct → c.read ((c.dump a).patch w) = some a' →
    ∀ ⦃u⦄, w.find path = some u → ¬ u.IsDict →
      ∃ u', reader u = some u' ∧ (c.dump a').find path = some u'

lemma Plain.isLocal {c : Codec α} (hc : c.Plain) : c.Local where
  spared := by
    intro w a a' _ _ path hpath
    cases path with
    | nil => exact absurd hpath w.not_spares_nil
    | cons key path =>
      rw [Value.find_cons_of_not_isDict (hc a'), Value.find_cons_of_not_isDict (hc a)]
  again := by
    intro w a a' _ h
    rw [Value.patch_of_not_isDict (hc a)] at h
    rw [Value.patch_of_not_isDict (hc a'), h]

lemma takes_nil (c : Codec α) : c.Takes [] c.normal := by
  intro w a a' _ h u hu hleaf
  obtain rfl := Option.some.inj hu
  rw [Value.patch_leaf _ hleaf] at h
  exact ⟨c.dump a', by rw [normal, h, Option.map_some], Value.find_nil _⟩

/-! ### Records -/

/-- A slot of a record. -/
structure Slot (β : Type) where
  key : String
  {α : Type}
  codec : Codec α
  get : β → α

/-- A slot as it is written. -/
def Slot.dump (slot : Slot β) (b : β) : Value := slot.codec.dump (slot.get b)

/-- A slot is read as it is in a record. -/
def Slot.Reads (slot : Slot β) (fields : Fields) (b : β) : Prop :=
  slot.codec.required fields slot.key = some (slot.get b)

/-- A codec of records with given slots. -/
structure Record (c : Codec β) (slots : List (Slot β)) : Prop where
  dump_eq : ∀ b, c.dump b = .dict (slots.map fun slot => (slot.key, slot.dump b))
  nodup : (slots.map Slot.key).Nodup
  read_iff : ∀ {fields : Fields} {b : β}, (∀ slot ∈ slots, (fields.lookup slot.key).isSome) →
    (c.read (.dict fields) = some b ↔ ∀ slot ∈ slots, slot.Reads fields b)

lemma field_eq_required {c : Codec α} {fields : Fields} {key : String}
    (h : (fields.lookup key).isSome) (default : α) :
    c.field fields key default = c.required fields key := by
  obtain ⟨w, hw⟩ := Option.isSome_iff_exists.1 h
  rw [field, required, hw]
  rfl

lemma bind_field_eq_some {c : Codec α} {fields : Fields} {key : String}
    (h : (fields.lookup key).isSome) {default : α} {f : α → Option β} {b : β} :
    (c.field fields key default >>= f) = some b ↔
      ∃ a, c.required fields key = some a ∧ f a = some b := by
  rw [field_eq_required h]
  exact Option.bind_eq_some_iff

/-- What a patch leaves of a field that was there. -/
lemma required_patch {c : Codec α} {fields patch : Fields} (hpatch : Fields.Distinct patch)
    {key : String} {a : α} (h : fields.lookup key = some (c.dump a)) :
    c.required (fields.patch patch) key =
      match patch.lookup key with
      | none => some a
      | some w => c.read ((c.dump a).patch w) := by
  rw [required, Fields.lookup_patch hpatch, h]
  cases patch.lookup key with
  | none => exact c.read_dump a
  | some w => rfl

/-- The slots of the record are the fields of a mapping. -/
lemma lookup_slots {slots : List (Slot β)} (hnodup : (slots.map Slot.key).Nodup) {slot : Slot β}
    (hslot : slot ∈ slots) (b : β) :
    (slots.map fun slot => (slot.key, slot.dump b)).lookup slot.key = some (slot.dump b) := by
  induction slots with
  | nil => exact absurd hslot (by simp)
  | cons slot' slots ih =>
    rw [List.map_cons, List.nodup_cons] at hnodup
    rcases List.mem_cons.1 hslot with rfl | hslot
    · simp
    · have hne : slot.key ≠ slot'.key := by
        intro heq
        exact hnodup.1 (heq ▸ List.mem_map_of_mem hslot)
      rw [List.map_cons, List.lookup_cons, beq_false_of_ne hne]
      exact ih hnodup.2 hslot

section Slots

variable {slot : Slot β} {fields fields' patch : Fields} {b b' : β}

/-- A slot that a patch spares stays as it is. -/
lemma Slot.find_of_spares (hslot : slot.codec.Local) (hpatch : Fields.Distinct patch)
    (hfields : fields.lookup slot.key = some (slot.dump b)) (h : slot.Reads (fields.patch patch) b')
    {path : List String} (hspares : Fields.Spares patch slot.key path) :
    (slot.dump b').find path = (slot.dump b).find path := by
  rw [Slot.Reads, required_patch hpatch hfields] at h
  cases hw : patch.lookup slot.key with
  | none =>
    rw [hw] at h
    rw [dump, dump, Option.some.inj h]
  | some w =>
    rw [hw] at h
    exact hslot.spared (Fields.distinct_of_lookup hpatch hw) h
      ((Fields.spares_iff hpatch).1 hspares w hw)

/-- A slot is read again as it was. -/
lemma Slot.reads_again (hslot : slot.codec.Local) (hpatch : Fields.Distinct patch)
    (hfields : fields.lookup slot.key = some (slot.dump b)) (h : slot.Reads (fields.patch patch) b')
    (hfields' : fields'.lookup slot.key = some (slot.dump b')) :
    slot.Reads (fields'.patch patch) b' := by
  rw [Slot.Reads, required_patch hpatch hfields] at h
  rw [Slot.Reads, required_patch hpatch hfields']
  cases hw : patch.lookup slot.key with
  | none => rfl
  | some w =>
    rw [hw] at h
    exact hslot.again (Fields.distinct_of_lookup hpatch hw) h

/-- A slot takes what the patch has for it. -/
lemma Slot.takes {path : List String} {reader : Value → Option Value}
    (hslot : slot.codec.Takes path reader) (hpatch : Fields.Distinct patch)
    (hfields : fields.lookup slot.key = some (slot.dump b)) (h : slot.Reads (fields.patch patch) b')
    {u : Value} (hu : (Value.dict patch).find (slot.key :: path) = some u) (hleaf : ¬ u.IsDict) :
    ∃ u', reader u = some u' ∧ (slot.dump b').find path = some u' := by
  rw [Value.find_dict_cons] at hu
  obtain ⟨w, hw, hu⟩ := Option.bind_eq_some_iff.1 hu
  rw [Slot.Reads, required_patch hpatch hfields, hw] at h
  exact hslot (Fields.distinct_of_lookup hpatch hw) h hu hleaf

/-- A part that is no mapping is read from the patch that names it. -/
lemma Slot.reads_iff_of_named (hslot : slot.codec.Plain) (hpatch : Fields.Distinct patch)
    (hfields : fields.lookup slot.key = some (slot.dump b)) {w : Value}
    (hw : patch.lookup slot.key = some w) :
    slot.Reads (fields.patch patch) b' ↔ slot.codec.read w = some (slot.get b') := by
  rw [Slot.Reads, required_patch hpatch hfields, hw]
  simp only [Value.patch_of_not_isDict (hslot (slot.get b))]

end Slots

lemma dump_injective (c : Codec α) : Function.Injective c.dump := by
  intro a a' h
  have hread := congrArg c.read h
  rw [read_dump, read_dump] at hread
  exact Option.some.inj hread

lemma read_of_normal {c : Codec α} {w : Value} {a : α} (h : c.normal w = some (c.dump a)) :
    c.read w = some a := by
  obtain ⟨a', hread, hdump⟩ := Option.map_eq_some_iff.1 h
  rw [hread, c.dump_injective hdump]

namespace Record

variable {c : Codec β} {slots : List (Slot β)} (hc : c.Record slots)

include hc

lemma lookup {slot : Slot β} (hslot : slot ∈ slots) (b : β) :
    (slots.map fun slot => (slot.key, slot.dump b)).lookup slot.key = some (slot.dump b) :=
  lookup_slots hc.nodup hslot b

/-- A patch leaves every slot of a record there. -/
lemma read_patch_iff {patch : Fields} (hpatch : Fields.Distinct patch) {b b' : β} :
    c.read ((c.dump b).patch (.dict patch)) = some b' ↔
      ∀ slot ∈ slots, slot.Reads
        (Fields.patch (slots.map fun slot => (slot.key, slot.dump b)) patch) b' := by
  rw [hc.dump_eq, Value.patch_dict]
  refine hc.read_iff fun slot hslot => ?_
  rw [Fields.lookup_patch hpatch, hc.lookup hslot]
  cases patch.lookup slot.key <;> rfl

/-- What stands at a path of a record. -/
lemma find_dump {slot : Slot β} (hslot : slot ∈ slots) (b : β) (path : List String) :
    (c.dump b).find (slot.key :: path) = (slot.dump b).find path := by
  rw [hc.dump_eq, Value.find_dict_cons, hc.lookup hslot, Option.bind_some]

lemma find_dump_of_notMem {key : String} (hkey : key ∉ slots.map Slot.key) (b : β)
    (path : List String) : (c.dump b).find (key :: path) = none := by
  have hnone : (slots.map fun slot => (slot.key, slot.dump b)).lookup key = none := by
    refine List.lookup_eq_none_iff.2 fun x hx => ?_
    obtain ⟨slot, hslot, rfl⟩ := List.mem_map.1 hx
    have hne : key ≠ slot.key := fun heq => hkey (heq ▸ List.mem_map_of_mem hslot)
    simpa using hne
  rw [hc.dump_eq, Value.find_dict_cons, hnone, Option.bind_none]

/-- Patches act on a record path by path if they do so on its slots. -/
lemma isLocal (hslots : ∀ slot ∈ slots, slot.codec.Local) : c.Local where
  spared := by
    intro w b b' hw h path hpath
    cases w with
    | dict patch =>
      cases path with
      | nil => exact absurd hpath (Value.not_spares_nil _)
      | cons key path =>
        rw [Value.Spares] at hpath
        by_cases hkey : key ∈ slots.map Slot.key
        · obtain ⟨slot, hslot, rfl⟩ := List.mem_map.1 hkey
          rw [hc.find_dump hslot, hc.find_dump hslot]
          exact Slot.find_of_spares (hslots slot hslot) hw (hc.lookup hslot b)
            ((hc.read_patch_iff hw).1 h slot hslot) hpath
        · rw [hc.find_dump_of_notMem hkey, hc.find_dump_of_notMem hkey]
    | _ => exact absurd hpath (Value.not_spares_of_not_isDict (by rintro ⟨⟩) _)
  again := by
    intro w b b' hw h
    cases w with
    | dict patch =>
      refine (hc.read_patch_iff hw).2 fun slot hslot => ?_
      exact Slot.reads_again (hslots slot hslot) hw (hc.lookup hslot b)
        ((hc.read_patch_iff hw).1 h slot hslot) (hc.lookup hslot b')
    | _ =>
      rw [Value.patch_leaf _ (by rintro ⟨⟩)] at h ⊢
      exact h

/-- A record takes what its slot takes. -/
lemma takes {slot : Slot β} (hslot : slot ∈ slots) {path : List String}
    {reader : Value → Option Value} (htakes : slot.codec.Takes path reader) :
    c.Takes (slot.key :: path) reader := by
  intro w b b' hw h u hu hleaf
  cases w with
  | dict patch =>
    rw [hc.find_dump hslot]
    exact Slot.takes htakes hw (hc.lookup hslot b) ((hc.read_patch_iff hw).1 h slot hslot) hu hleaf
  | _ => exact absurd hu (by rw [Value.find_cons_of_not_isDict (by rintro ⟨⟩)]; simp)

/-- What another record of the kind is, is what it is after being put in. -/
lemma patch_dump {b b' : β}
    (h : ∀ slot ∈ slots, (slot.dump b).patch (slot.dump b') = slot.dump b') :
    (c.dump b).patch (c.dump b') = c.dump b' := by
  rw [hc.dump_eq, hc.dump_eq, Value.patch_dict]
  congr 1
  refine Fields.patch_eq_of_forall₂ ?_ ?_
  · simpa [Function.comp_def] using hc.nodup
  · rw [List.forall₂_map_left_iff, List.forall₂_map_right_iff, List.forall₂_same]
    exact fun slot hslot => ⟨rfl, h slot hslot⟩

lemma isLocal_of_plain (hplain : ∀ slot ∈ slots, slot.codec.Plain) : c.Local :=
  hc.isLocal fun slot hslot => (hplain slot hslot).isLocal

/-- A record without mappings takes the place of any other. -/
lemma patch_dump_of_plain (hplain : ∀ slot ∈ slots, slot.codec.Plain) (b b' : β) :
    (c.dump b).patch (c.dump b') = c.dump b' :=
  hc.patch_dump fun slot hslot => Value.patch_of_not_isDict (hplain slot hslot (slot.get b)) _

end Record

end Codec

/-! ### Mappings -/

namespace Fields

lemma map_fst_set_of_mem {key : String} (value : Value) {fields : Fields}
    (h : key ∈ fields.map Prod.fst) : (fields.set key value).map Prod.fst = fields.map Prod.fst := by
  induction fields with
  | nil => exact absurd h (by simp)
  | cons x fields ih =>
    obtain ⟨k, v⟩ := x
    rw [set]
    split
    · rename_i hk
      rw [List.map_cons, List.map_cons, hk]
    · rename_i hk
      rcases List.mem_cons.1 h with heq | h
      · exact absurd heq.symm hk
      · rw [List.map_cons, List.map_cons, ih h]

lemma mem_map_fst_set {key k : String} {value : Value} {fields : Fields} :
    k ∈ (fields.set key value).map Prod.fst ↔ k = key ∨ k ∈ fields.map Prod.fst := by
  induction fields with
  | nil => simp [set]
  | cons x fields ih =>
    obtain ⟨k', v⟩ := x
    rw [set]
    split
    · rename_i hk
      simp [hk]
    · rw [List.map_cons, List.mem_cons, ih, List.map_cons, List.mem_cons, or_left_comm]

lemma nodup_set {fields : Fields} (h : (fields.map Prod.fst).Nodup) (key : String) (value : Value) :
    ((fields.set key value).map Prod.fst).Nodup := by
  induction fields with
  | nil => simp [set]
  | cons x fields ih =>
    obtain ⟨k, v⟩ := x
    rw [List.map_cons, List.nodup_cons] at h
    rw [set]
    split
    · rename_i hk
      rw [List.map_cons, List.nodup_cons, ← hk]
      exact h
    · rename_i hk
      rw [List.map_cons, List.nodup_cons, mem_map_fst_set]
      exact ⟨not_or.2 ⟨hk, h.1⟩, ih h.2⟩

lemma nodup_patch {fields : Fields} (h : (fields.map Prod.fst).Nodup) (patch : Fields) :
    ((fields.patch patch).map Prod.fst).Nodup := by
  induction patch generalizing fields with
  | nil => exact h
  | cons x patch ih =>
    rw [Fields.patch]
    exact ih (nodup_set h _ _)

lemma mem_map_fst_patch {patch fields : Fields} {k : String} :
    k ∈ (fields.patch patch).map Prod.fst ↔ k ∈ fields.map Prod.fst ∨ k ∈ patch.map Prod.fst := by
  induction patch generalizing fields with
  | nil => simp [Fields.patch]
  | cons x patch ih =>
    rw [Fields.patch, ih, mem_map_fst_set, List.map_cons, List.mem_cons, or_comm (a := k = x.1),
      or_assoc]

/-- A patch of keys that are there leaves the keys in their order. -/
lemma map_fst_patch_of_subset {patch fields : Fields}
    (h : ∀ k ∈ patch.map Prod.fst, k ∈ fields.map Prod.fst) :
    (fields.patch patch).map Prod.fst = fields.map Prod.fst := by
  induction patch generalizing fields with
  | nil => rfl
  | cons x patch ih =>
    have hset := map_fst_set_of_mem (((fields.lookup x.1).getD .null).patch x.2) (h x.1 (by simp))
    rw [Fields.patch, ih, hset]
    intro k hk
    rw [hset]
    exact h k (by simp [hk])

end Fields

namespace Lax

variable {α : Type} {l : Lax} {c : Codec α}

lemma mapM_entries_iff {fields : Fields} {entries : List (String × α)} :
    (fields.mapM fun x => (c.read x.2).map fun a => (x.1, a)) = some entries ↔
      List.Forall₂ (fun x e => x.1 = e.1 ∧ c.read x.2 = some e.2) fields entries := by
  induction fields generalizing entries with
  | nil => simp [eq_comm]
  | cons x fields ih =>
    simp only [List.mapM_cons, Option.bind_eq_bind, Option.pure_def, Option.bind_eq_some_iff,
      Option.map_eq_some_iff, Option.some.injEq, List.forall₂_cons_left_iff]
    constructor
    · rintro ⟨e, ⟨a, ha, rfl⟩, entries', hentries, rfl⟩
      exact ⟨_, entries', ⟨rfl, ha⟩, ih.1 hentries, rfl⟩
    · rintro ⟨e, entries', ⟨hkey, ha⟩, hentries, rfl⟩
      exact ⟨e, ⟨e.2, ha, by rw [hkey]⟩, entries', ih.2 hentries, rfl⟩

lemma map_fst_of_forall₂ {fields : Fields} {entries : List (String × α)}
    (h : List.Forall₂ (fun x e => x.1 = e.1 ∧ c.read x.2 = some e.2) fields entries) :
    entries.map Prod.fst = fields.map Prod.fst := by
  induction h with
  | nil => rfl
  | cons hxe _ ih => rw [List.map_cons, List.map_cons, ih, hxe.1]

/-- A mapping is read entry by entry. -/
lemma read_dict_eq_some {fields : Fields} (hnodup : (fields.map Prod.fst).Nodup)
    {d : Dict String α} :
    (l.dict c).read (.dict fields) = some d ↔
      List.Forall₂ (fun x e => x.1 = e.1 ∧ c.read x.2 = some e.2) fields d.entries := by
  rw [← mapM_entries_iff]
  have hread : (l.dict c).read (.dict fields) =
      (fields.mapM fun x => (c.read x.2).map fun a => (x.1, a)).bind fun entries =>
        some (entries.foldl (fun d e => d.set e.1 e.2) Dict.empty) := by
    simp only [dict, readDict_dict, Option.bind_eq_bind, Option.bind_some, Option.pure_def]
  rw [hread]
  cases hentries : fields.mapM fun x => (c.read x.2).map fun a => (x.1, a) with
  | none => simp
  | some entries =>
    -- the keys are those of the fields, so that storing them one after the other keeps them all
    have hkeys := map_fst_of_forall₂ (mapM_entries_iff.1 hentries)
    have hfold := Dict.foldl_set_entries ⟨entries, hkeys ▸ hnodup⟩
    simp only [Option.bind_some, hfold, Option.some.injEq]
    exact ⟨fun h => h ▸ rfl, fun h => Dict.ext_entries h⟩

/-- What stands in entries that have been read. -/
lemma lookup_dump_entries {fields : Fields} {entries : List (String × α)}
    (h : List.Forall₂ (fun x e => x.1 = e.1 ∧ c.read x.2 = some e.2) fields entries) (key : String) :
    (entries.map fun e => (e.1, c.dump e.2)).lookup key = (fields.lookup key).bind c.normal := by
  induction h with
  | nil => rfl
  | @cons x e fields entries hxe _ ih =>
    obtain ⟨k, v⟩ := x
    obtain ⟨k', a⟩ := e
    obtain ⟨hk, ha⟩ := hxe
    dsimp only at hk ha
    subst hk
    by_cases hkey : key = k
    · subst hkey
      simp [Codec.normal, ha]
    · rw [List.map_cons, List.lookup_cons, List.lookup_cons, beq_false_of_ne hkey]
      exact ih

/-- Entries are read in their order if they are read key by key. -/
lemma forall₂_iff_lookup {fields : Fields} {entries : List (String × α)}
    (hkeys : fields.map Prod.fst = entries.map Prod.fst) (hnodup : (entries.map Prod.fst).Nodup) :
    List.Forall₂ (fun x e => x.1 = e.1 ∧ c.read x.2 = some e.2) fields entries ↔
      ∀ e ∈ entries, (fields.lookup e.1).bind c.read = some e.2 := by
  induction entries generalizing fields with
  | nil => simp [List.map_eq_nil_iff.1 hkeys]
  | cons e entries ih =>
    cases fields with
    | nil => exact absurd hkeys (by simp)
    | cons x fields =>
      obtain ⟨k, v⟩ := x
      rw [List.map_cons, List.map_cons, List.cons.injEq] at hkeys
      rw [List.map_cons, List.nodup_cons] at hnodup
      obtain ⟨rfl, hkeys⟩ := hkeys
      have hrest : ∀ e' ∈ entries, ((e.1, v) :: fields).lookup e'.1 = fields.lookup e'.1 := by
        intro e' he'
        have hne : e'.1 ≠ e.1 := fun heq => hnodup.1 (heq ▸ List.mem_map_of_mem he')
        rw [List.lookup_cons, beq_false_of_ne hne]
      rw [List.forall₂_cons, ih hkeys hnodup.2, List.forall_mem_cons, List.lookup_cons_self,
        Option.bind_some]
      refine and_congr (and_iff_right rfl) ⟨fun h e' he' => ?_, fun h e' he' => ?_⟩
      · rw [hrest e' he', h e' he']
      · rw [← hrest e' he', h e' he']

/-- A mapping as it is written. -/
def entriesOf (c : Codec α) (d : Dict String α) : Fields := d.entries.map fun e => (e.1, c.dump e.2)

lemma dump_dict (d : Dict String α) : (l.dict c).dump d = .dict (entriesOf c d) := rfl

lemma map_fst_entriesOf (d : Dict String α) : (entriesOf c d).map Prod.fst = d.keys := by
  simp [entriesOf, Dict.keys, Function.comp_def]

lemma nodup_entriesOf (d : Dict String α) : ((entriesOf c d).map Prod.fst).Nodup :=
  (map_fst_entriesOf d).symm ▸ d.keys_nodup

lemma forall₂_entriesOf (d : Dict String α) :
    List.Forall₂ (fun x e => x.1 = e.1 ∧ c.read x.2 = some e.2) (entriesOf c d) d.entries := by
  rw [entriesOf, List.forall₂_map_left_iff, List.forall₂_same]
  exact fun e _ => ⟨rfl, c.read_dump e.2⟩

/-- Of what a mapping without mappings has under a key, nothing is kept when it is replaced. -/
lemma patch_lookup_entriesOf (hc : c.Plain) (d : Dict String α) (key : String) (w : Value) :
    (((entriesOf c d).lookup key).getD .null).patch w = w := by
  refine Value.patch_of_not_isDict ?_ w
  cases h : (entriesOf c d).lookup key with
  | none => rintro ⟨⟩
  | some v =>
    have hsame := lookup_dump_entries (forall₂_entriesOf (c := c) d) key
    rw [← entriesOf, h, Option.bind_some] at hsame
    obtain ⟨a, -, rfl⟩ := Option.map_eq_some_iff.1 hsame.symm
    exact hc a

lemma find_normal (hc : c.Plain) (o : Option Value) (key : String) (path : List String) :
    ((o.bind c.normal).bind fun v => v.find (key :: path)) = none := by
  cases ho : o.bind c.normal with
  | none => rfl
  | some v =>
    obtain ⟨w, -, hw⟩ := Option.bind_eq_some_iff.1 ho
    obtain ⟨a, -, rfl⟩ := Option.map_eq_some_iff.1 hw
    exact Value.find_cons_of_not_isDict (hc a) key path

/-- What stands in a mapping that has been read. -/
lemma find_dump_dict {fields : Fields} {d : Dict String α}
    (h : List.Forall₂ (fun x e => x.1 = e.1 ∧ c.read x.2 = some e.2) fields d.entries) (key : String)
    (path : List String) :
    ((l.dict c).dump d).find (key :: path) =
      ((fields.lookup key).bind c.normal).bind fun v => v.find path := by
  rw [dump_dict, Value.find_dict_cons, entriesOf, lookup_dump_entries h]

/-- Patches act on a mapping key by key. -/
lemma isLocal_dict (hc : c.Plain) : (l.dict c).Local where
  spared := by
    intro w d d' hw h path hpath
    cases w with
    | dict patch =>
      rw [dump_dict, Value.patch_dict] at h
      have hread := (read_dict_eq_some (Fields.nodup_patch (nodup_entriesOf d) patch)).1 h
      cases path with
      | nil => exact absurd hpath (Value.not_spares_nil _)
      | cons key path =>
        have hspares := (Fields.spares_iff hw).1 hpath
        rw [find_dump_dict hread, find_dump_dict (forall₂_entriesOf d), Fields.lookup_patch hw]
        cases hkey : patch.lookup key with
        | none => rfl
        | some v =>
          cases path with
          | nil => exact absurd (hspares v hkey) (Value.not_spares_nil _)
          | cons key' path => rw [find_normal hc, find_normal hc]
    | _ => exact absurd hpath (Value.not_spares_of_not_isDict (by rintro ⟨⟩) _)
  again := by
    intro w d d' hw h
    cases w with
    | dict patch =>
      rw [dump_dict, Value.patch_dict] at h ⊢
      have hnodup := Fields.nodup_patch (nodup_entriesOf (c := c) d) patch
      have hread := (read_dict_eq_some hnodup).1 h
      have hkeys : d'.keys = ((entriesOf c d).patch patch).map Prod.fst := map_fst_of_forall₂ hread
      -- the keys of the patch are there now
      have hsame : ((entriesOf c d').patch patch).map Prod.fst = d'.keys := by
        rw [Fields.map_fst_patch_of_subset, map_fst_entriesOf]
        intro k hk
        rw [map_fst_entriesOf, hkeys]
        exact Fields.mem_map_fst_patch.2 (.inr hk)
      refine (read_dict_eq_some (Fields.nodup_patch (nodup_entriesOf d') patch)).2 ?_
      refine (forall₂_iff_lookup hsame d'.keys_nodup).2 fun e he => ?_
      have hbefore := (forall₂_iff_lookup hkeys.symm d'.keys_nodup).1 hread e he
      have hafter := (forall₂_iff_lookup (map_fst_entriesOf d') d'.keys_nodup).1
        (forall₂_entriesOf (c := c) d') e he
      rw [Fields.lookup_patch hw] at hbefore ⊢
      cases hkey : patch.lookup e.1 with
      | none => exact hafter
      | some v =>
        simp only [hkey, patch_lookup_entriesOf hc] at hbefore ⊢
        exact hbefore
    | _ =>
      rw [Value.patch_leaf _ (by rintro ⟨⟩)] at h ⊢
      exact h

/-- A mapping takes what a patch has under a key. -/
lemma takes_dict (hc : c.Plain) (key : String) : (l.dict c).Takes [key] c.normal := by
  intro w d d' hw h u hu _
  cases w with
  | dict patch =>
    rw [Value.find_dict_cons] at hu
    obtain ⟨v, hkey, hv⟩ := Option.bind_eq_some_iff.1 hu
    obtain rfl := Option.some.inj ((Value.find_nil v).symm.trans hv)
    rw [dump_dict, Value.patch_dict] at h
    have hread := (read_dict_eq_some (Fields.nodup_patch (nodup_entriesOf d) patch)).1 h
    have hlookup : ((entriesOf c d).patch patch).lookup key = some v := by
      rw [Fields.lookup_patch hw, hkey]
      exact congrArg some (patch_lookup_entriesOf hc d key v)
    have hmem : key ∈ d'.entries.map Prod.fst := by
      rw [map_fst_of_forall₂ hread]
      by_contra hnot
      rw [List.lookup_eq_none_iff.2 fun x hx => by
        simpa using fun heq : key = x.1 => hnot (heq ▸ List.mem_map_of_mem hx)] at hlookup
      exact absurd hlookup (by simp)
    obtain ⟨e, he, rfl⟩ := List.mem_map.1 hmem
    have hentry := (forall₂_iff_lookup (map_fst_of_forall₂ hread).symm d'.keys_nodup).1 hread e he
    rw [hlookup, Option.bind_some] at hentry
    have hnormal : c.normal v = some (c.dump e.2) := by rw [Codec.normal, hentry, Option.map_some]
    refine ⟨c.dump e.2, hnormal, ?_⟩
    rw [find_dump_dict hread, hlookup, Option.bind_some, hnormal, Option.bind_some, Value.find_nil]
  | _ => exact absurd hu (by rw [Value.find_cons_of_not_isDict (by rintro ⟨⟩)]; simp)

/-- A mapping that is put into itself. -/
lemma patch_dump_dict_self (hc : c.Plain) (d : Dict String α) :
    ((l.dict c).dump d).patch ((l.dict c).dump d) = (l.dict c).dump d := by
  rw [dump_dict, Value.patch_dict]
  congr 1
  refine Fields.patch_eq_of_forall₂ (nodup_entriesOf d) ?_
  rw [entriesOf, List.forall₂_map_left_iff, List.forall₂_map_right_iff, List.forall₂_same]
  exact fun e _ => ⟨rfl, Value.patch_of_not_isDict (hc e.2) _⟩

/-! ### What is no mapping -/

variable (l c)

@[simp] lemma plain_bool : l.bool.Plain := by rintro a ⟨⟩

@[simp] lemma plain_int : l.int.Plain := by rintro a ⟨⟩

@[simp] lemma plain_float : l.float.Plain := by rintro a ⟨⟩

@[simp] lemma plain_str : l.str.Plain := by rintro a ⟨⟩

@[simp] lemma plain_list : (l.list c).Plain := by rintro a ⟨⟩

end Lax

end Turbobond
