import Turbobond.Lib.Codec

/-!
# Patches

What a patch does to a tree, path by path.  A patch puts in what stands at its leaves; it spares
the paths on which, and under which, none of its leaves lies.
-/

namespace Turbobond

/-- What stands in a tree at a path. -/
def Value.find : Value → List String → Option Value
  | v, [] => some v
  | .dict fields, key :: path => (fields.lookup key).bind fun v => v.find path
  | _, _ :: _ => none

/-- A tree that is a mapping. -/
def Value.IsDict : Value → Prop
  | .dict _ => True
  | _ => False

mutual

/-- Nothing that a patch puts in lies at a path, on the way to it or under it. -/
def Value.Spares : Value → List String → Prop
  | .dict patch, key :: path => Fields.Spares patch key path
  | _, _ => False

/-- The same, for what stands under a key. -/
def Fields.Spares : List (String × Value) → String → List String → Prop
  | [], _, _ => True
  | (k, v) :: patch, key, path => (k = key → v.Spares path) ∧ Fields.Spares patch key path

end

mutual

/-- No mapping of a tree has a key twice. -/
def Value.Distinct : Value → Prop
  | .dict fields => Fields.Distinct fields
  | _ => True

/-- No key stands twice in a mapping, or in one below it. -/
def Fields.Distinct : List (String × Value) → Prop
  | [] => True
  | (key, value) :: fields =>
    List.lookup key fields = none ∧ value.Distinct ∧ Fields.Distinct fields

end

namespace Value

/-- What is put in the place of something that is no mapping is there as it is. -/
lemma patch_of_not_isDict {target : Value} (h : ¬ target.IsDict) (w : Value) :
    target.patch w = w := by
  cases w with
  | dict patch =>
    cases target with
    | dict fields => exact absurd trivial h
    | _ => rw [Value.patch]; rintro fields ⟨⟩
  | _ => rw [Value.patch]; rintro fields ⟨⟩

/-- What is no mapping replaces what was there. -/
lemma patch_leaf (target : Value) {w : Value} (h : ¬ w.IsDict) : target.patch w = w := by
  cases w with
  | dict patch => exact absurd trivial h
  | _ => rw [Value.patch]; rintro fields ⟨⟩

lemma patch_dict (fields patch : Fields) :
    (dict fields).patch (dict patch) = dict (Fields.patch fields patch) := by
  rw [Value.patch]

lemma find_cons_of_not_isDict {v : Value} (h : ¬ v.IsDict) (key : String) (path : List String) :
    v.find (key :: path) = none := by
  cases v with
  | dict fields => exact absurd trivial h
  | _ => rw [find]; rintro fields ⟨⟩

@[simp] lemma find_nil (v : Value) : v.find [] = some v := by
  cases v <;> rw [find]

@[simp] lemma find_dict_cons (fields : Fields) (key : String) (path : List String) :
    (dict fields).find (key :: path) = (fields.lookup key).bind fun v => v.find path := by
  rw [find]

lemma not_spares_nil (w : Value) : ¬ w.Spares [] := by
  cases w <;> simp [Spares]

lemma not_spares_of_not_isDict {w : Value} (h : ¬ w.IsDict) (path : List String) :
    ¬ w.Spares path := by
  cases w with
  | dict patch => exact absurd trivial h
  | _ => cases path <;> simp [Spares]

end Value

namespace Fields

lemma distinct_of_lookup {patch : Fields} (hpatch : Fields.Distinct patch) {key : String} {w : Value}
    (h : patch.lookup key = some w) : w.Distinct := by
  induction patch with
  | nil => exact absurd h (by simp)
  | cons x patch ih =>
    obtain ⟨k, v⟩ := x
    rw [Distinct] at hpatch
    rw [List.lookup_cons] at h
    split at h
    · exact Option.some.inj h ▸ hpatch.2.1
    · exact ih hpatch.2.2 h

/-- Without a key that stands twice, a path is spared if what stands under its first key spares the
rest. -/
lemma spares_iff {patch : Fields} (hpatch : Fields.Distinct patch) {key : String} {path : List String} :
    Fields.Spares patch key path ↔ ∀ w, patch.lookup key = some w → w.Spares path := by
  induction patch with
  | nil => simp [Spares]
  | cons x patch ih =>
    obtain ⟨k, v⟩ := x
    rw [Distinct] at hpatch
    rw [Spares, ih hpatch.2.2]
    by_cases hk : key = k
    · subst hk
      simp [hpatch.1]
    · rw [List.lookup_cons, beq_false_of_ne hk]
      simp [Ne.symm hk]

/-- What stands under a key after a patch. -/
lemma lookup_patch {patch : Fields} (hpatch : Fields.Distinct patch) (fields : Fields) (key : String) :
    (Fields.patch fields patch).lookup key =
      match patch.lookup key with
      | none => fields.lookup key
      | some w => some (((fields.lookup key).getD .null).patch w) := by
  induction patch generalizing fields with
  | nil => rfl
  | cons x patch ih =>
    obtain ⟨k, v⟩ := x
    rw [Distinct] at hpatch
    rw [Fields.patch, ih hpatch.2.2]
    by_cases hk : key = k
    · subst hk
      simp [hpatch.1]
    · rw [lookup_set_of_ne hk, List.lookup_cons, beq_false_of_ne hk]

/-- What the patch does not name stays. -/
lemma lookup_patch_of_eq_none {patch : Fields} {key : String} (h : patch.lookup key = none)
    (fields : Fields) : (Fields.patch fields patch).lookup key = fields.lookup key := by
  induction patch generalizing fields with
  | nil => rfl
  | cons x patch ih =>
    obtain ⟨k, v⟩ := x
    by_cases hk : key = k
    · exact absurd h (by simp [hk])
    · rw [List.lookup_cons, beq_false_of_ne hk] at h
      rw [Fields.patch, ih h, lookup_set_of_ne hk]

/-- What there was is still there, patched or not. -/
lemma isSome_lookup_patch {fields : Fields} {key : String} (h : (fields.lookup key).isSome)
    (patch : Fields) : ((Fields.patch fields patch).lookup key).isSome := by
  induction patch generalizing fields with
  | nil => exact h
  | cons x patch ih =>
    obtain ⟨k, v⟩ := x
    rw [Fields.patch]
    by_cases hk : key = k
    · exact ih (by simp [hk])
    · exact ih (by rwa [lookup_set_of_ne hk])

lemma lookup_append_of_ne {key : String} {done : Fields} (h : ∀ x ∈ done, x.1 ≠ key)
    (fields : Fields) : (done ++ fields).lookup key = fields.lookup key := by
  have hnone : done.lookup key = none :=
    List.lookup_eq_none_iff.2 fun x hx => by simpa using (h x hx).symm
  rw [List.lookup_append, hnone, Option.none_or]

lemma set_append_of_ne {key : String} {done : Fields} (h : ∀ x ∈ done, x.1 ≠ key) (value : Value)
    (fields : Fields) : Fields.set key value (done ++ fields) = done ++ fields.set key value := by
  induction done with
  | nil => rfl
  | cons x done ih =>
    obtain ⟨k, v⟩ := x
    have hk : k ≠ key := h (k, v) (by simp)
    rw [List.cons_append, set, if_neg hk, ih fun x hx => h x (by simp [hx])]
    rfl

/-- A mapping that a patch gives anew, key by key and in the same order. -/
lemma patch_eq_of_forall₂ {fields patch : Fields} (hkeys : (patch.map Prod.fst).Nodup)
    (h : List.Forall₂ (fun x y => x.1 = y.1 ∧ x.2.patch y.2 = y.2) fields patch) :
    Fields.patch fields patch = patch := by
  -- the keys that are done stand in front
  have hgo : ∀ done : Fields, (∀ x ∈ done, x.1 ∉ patch.map Prod.fst) →
      Fields.patch (done ++ fields) patch = done ++ patch := by
    induction h with
    | nil => exact fun done _ => by rw [Fields.patch]
    | @cons x y fields patch hxy _ ih =>
      intro done hdone
      obtain ⟨k, v⟩ := x
      obtain ⟨k', v'⟩ := y
      obtain ⟨hk, hv⟩ := hxy
      dsimp only at hk hv
      subst hk
      rw [List.map_cons, List.nodup_cons] at hkeys
      have hnew : ∀ x ∈ done, x.1 ≠ k := fun x hx h => hdone x hx (by simp [h])
      have hset : Fields.set k v' ((k, v) :: fields) = (k, v') :: fields := by simp [set]
      rw [Fields.patch, lookup_append_of_ne hnew, List.lookup_cons_self, Option.getD_some, hv,
        set_append_of_ne hnew, hset]
      have hrest := ih hkeys.2 (done ++ [(k, v')]) fun x hx => by
        rcases List.mem_append.1 hx with hx | hx
        · exact fun hmem => hdone x hx (by simp [hmem])
        · obtain rfl := List.mem_singleton.1 hx
          exact hkeys.1
      simpa using hrest
  simpa using hgo [] (by simp)

end Fields

end Turbobond
