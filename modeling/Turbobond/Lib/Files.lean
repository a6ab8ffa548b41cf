import Turbobond.Lib.Bytes
import Mathlib.Tactic

/-!
# Files under names

A name refers to a file, and a file that is renamed, or truncated, or left without a name, is still the
one that was opened.
-/

namespace Turbobond

structure FileData where
  content : Bytes := []
  mode : ℕ
  deriving DecidableEq

/-- A directory without hard links, and the files by their numbers. -/
structure Files (N : Type) where
  dir : N → Option ℕ
  data : ℕ → FileData
  /-- Numbers from here on are not used yet. -/
  next : ℕ
  fresh : ∀ name i, dir name = some i → i < next
  apart : ∀ name name' i, dir name = some i → dir name' = some i → name = name'

namespace Files

variable {N : Type} [DecidableEq N] (f : Files N)

/-- The file under a name. -/
def file? (name : N) : Option FileData := (f.dir name).map f.data

/-- Replace what a file holds. -/
def put (i : ℕ) (d : FileData) : Files N := { f with data := Function.update f.data i d }

/-- A new file, under a name that refers to none. -/
def create (name : N) (mode : ℕ) : Files N where
  dir := Function.update f.dir name (some f.next)
  data := Function.update f.data f.next { mode }
  next := f.next + 1
  fresh := by
    intro name' i h
    rw [Function.update_apply] at h
    split at h
    · obtain rfl := Option.some.inj h
      omega
    · have := f.fresh name' i h
      omega
  apart := by
    intro name₁ name₂ i h₁ h₂
    rw [Function.update_apply] at h₁ h₂
    split at h₁ <;> split at h₂
    · rename_i heq₁ heq₂
      rw [heq₁, heq₂]
    · have := f.fresh name₂ i h₂
      simp only [Option.some.injEq] at h₁
      omega
    · have := f.fresh name₁ i h₁
      simp only [Option.some.injEq] at h₂
      omega
    · exact f.apart name₁ name₂ i h₁ h₂

/-- `open(name, "w")`: the number of the file, which is new and has a mode, or is truncated. -/
def openW (name : N) (mode : ℕ) : ℕ × Files N :=
  match f.dir name with
  | some i => (i, f.put i { f.data i with content := [] })
  | none => (f.next, f.create name mode)

/-- Some bytes with others put over them from an offset on; a gap is filled with zeros. -/
def overlay (content : Bytes) (offset : ℕ) (bytes : Bytes) : Bytes :=
  content.take offset ++ List.replicate (offset - content.length) 0 ++ bytes ++
    content.drop (offset + bytes.length)

/-- Write to a file that is open. -/
def write (i offset : ℕ) (bytes : Bytes) : Files N :=
  f.put i { f.data i with content := overlay (f.data i).content offset bytes }

/-- `chmod`, where there is a file. -/
def chmod (name : N) (mode : ℕ) : Option (Files N) :=
  (f.dir name).map fun i => f.put i { f.data i with mode }

/-- A file, under another name and no longer under its own. -/
def move {src : N} {i : ℕ} (dst : N) (h : f.dir src = some i) : Files N :=
  { f with
    dir := Function.update (Function.update f.dir dst (some i)) src none
    fresh := by
      intro name j hj
      rw [Function.update_apply] at hj
      split at hj
      · exact absurd hj (by simp)
      · rw [Function.update_apply] at hj
        split at hj
        · obtain rfl := Option.some.inj hj
          exact f.fresh src i h
        · exact f.fresh name j hj
    apart := by
      intro name name' j hj hj'
      rw [Function.update_apply] at hj hj'
      split at hj
      · exact absurd hj (by simp)
      split at hj'
      · exact absurd hj' (by simp)
      rename_i hne hne'
      rw [Function.update_apply] at hj hj'
      split at hj <;> split at hj'
      · rename_i heq heq'
        rw [heq, heq']
      · obtain rfl := Option.some.inj hj
        exact absurd (f.apart name' src i hj' h) hne'
      · obtain rfl := Option.some.inj hj'
        exact absurd (f.apart name src i hj h) hne
      · exact f.apart name name' j hj hj' }

/-- `replace`, where there is a file. -/
def rename (src dst : N) : Option (Files N) :=
  match h : f.dir src with
  | none => none
  | some _ => some (f.move dst h)

variable {f} {name name' : N} {i offset : ℕ}

omit [DecidableEq N] in
@[simp] lemma dir_put (i : ℕ) (d : FileData) : (f.put i d).dir = f.dir := rfl

omit [DecidableEq N] in
lemma file?_put (i : ℕ) (d : FileData) (name : N) :
    (f.put i d).file? name = if f.dir name = some i then some d else f.file? name := by
  rw [file?, file?, dir_put, put]
  cases hdir : f.dir name with
  | none => simp
  | some j =>
    by_cases hj : j = i
    · simp [hj]
    · simp [hj]

omit [DecidableEq N] in
/-- What is put into a file does not show under another name. -/
lemma file?_put_of_ne (hdir : f.dir name = some i) (hne : name' ≠ name) (d : FileData) :
    (f.put i d).file? name' = f.file? name' := by
  rw [file?_put, if_neg]
  exact fun h => hne (f.apart name' name i h hdir)

omit [DecidableEq N] in
lemma file?_put_self (hdir : f.dir name = some i) (d : FileData) :
    (f.put i d).file? name = some d := by
  rw [file?_put, if_pos hdir]

lemma file?_create_of_ne (hne : name' ≠ name) (mode : ℕ) :
    (f.create name mode).file? name' = f.file? name' := by
  have hdir : (f.create name mode).dir name' = f.dir name' := Function.update_of_ne hne _ _
  rw [file?, file?, hdir]
  cases h : f.dir name' with
  | none => rfl
  | some i =>
    have hi : i ≠ f.next := (f.fresh name' i h).ne
    simp [create, hi]

lemma file?_create_self (name : N) (mode : ℕ) : (f.create name mode).file? name = some { mode } := by
  simp [file?, create]

lemma dir_openW (name : N) (mode : ℕ) :
    (f.openW name mode).2.dir name = some (f.openW name mode).1 := by
  rw [openW]
  cases hdir : f.dir name with
  | none => exact Function.update_self name _ f.dir
  | some i => exact hdir

/-- A file that is opened to be written is empty, and has the mode it had or that of a new one. -/
lemma file?_openW_self (name : N) (mode : ℕ) :
    (f.openW name mode).2.file? name =
      some { mode := ((f.file? name).map FileData.mode).getD mode } := by
  rw [openW]
  cases hdir : f.dir name with
  | none =>
    have hfile : f.file? name = none := by rw [file?, hdir, Option.map_none]
    rw [hfile]
    exact file?_create_self name mode
  | some i =>
    have hfile : f.file? name = some (f.data i) := by rw [file?, hdir, Option.map_some]
    rw [hfile]
    exact file?_put_self hdir _

lemma file?_openW_of_ne (hne : name' ≠ name) (mode : ℕ) :
    (f.openW name mode).2.file? name' = f.file? name' := by
  rw [openW]
  cases hdir : f.dir name with
  | none => exact file?_create_of_ne hne mode
  | some i => exact file?_put_of_ne hdir hne _

lemma dir_move_self {src dst : N} (h : f.dir src = some i) : (f.move dst h).dir src = none :=
  Function.update_self _ _ _

lemma file?_move_self {src dst : N} (h : f.dir src = some i) : (f.move dst h).file? src = none := by
  rw [file?, dir_move_self h, Option.map_none]

lemma file?_move {src dst : N} (h : f.dir src = some i) (hne : dst ≠ src) :
    (f.move dst h).file? dst = some (f.data i) := by
  have hdir : (f.move dst h).dir dst = some i := by
    simp [move, Function.update_of_ne hne]
  rw [file?, hdir]
  rfl

lemma rename_eq {src : N} (h : f.dir src = some i) (dst : N) :
    f.rename src dst = some (f.move dst h) := by
  rw [rename]
  split
  · rename_i hnone
    rw [h] at hnone
    exact absurd hnone (by simp)
  · rename_i j hj
    obtain rfl : i = j := Option.some.inj (h.symm.trans hj)
    rfl

/-! ### Files that are not under a name -/

/-- Files that are not under a name stay as they are, and do not come under it. -/
def Spares (name : N) (f f' : Files N) : Prop :=
  ∀ i, i < f.next → f.dir name ≠ some i → i < f'.next ∧ f'.dir name ≠ some i ∧ f'.data i = f.data i

omit [DecidableEq N] in
lemma Spares.refl (name : N) (f : Files N) : Spares name f f := fun _ hi hname => ⟨hi, hname, rfl⟩

omit [DecidableEq N] in
lemma spares_put (hdir : f.dir name = some i) (d : FileData) : Spares name f (f.put i d) := by
  intro j hj hname
  have hne : j ≠ i := by
    rintro rfl
    exact hname hdir
  exact ⟨hj, hname, Function.update_of_ne hne _ _⟩

lemma spares_openW (name : N) (mode : ℕ) : Spares name f (f.openW name mode).2 := by
  intro j hj hname
  rw [openW]
  cases hdir : f.dir name with
  | none =>
    refine ⟨Nat.lt_succ_of_lt hj, ?_, Function.update_of_ne hj.ne _ _⟩
    have hself : (f.create name mode).dir name = some f.next := Function.update_self _ _ _
    rw [hself]
    exact fun h => hj.ne' (Option.some.inj h)
  | some i => exact spares_put hdir _ j hj hname

lemma spares_move {dst : N} (h : f.dir name = some i) : Spares name f (f.move dst h) := by
  intro j hj _
  refine ⟨hj, ?_, rfl⟩
  rw [dir_move_self h]
  simp

/-! ### What is written -/

omit [DecidableEq N] in
lemma data_write (i offset : ℕ) (bytes : Bytes) : (f.write i offset bytes).data i =
    { f.data i with content := overlay (f.data i).content offset bytes } :=
  Function.update_self _ _ _

omit [DecidableEq N] in
/-- Writing leaves the permissions as they are. -/
lemma mode_write (i offset : ℕ) (bytes : Bytes) (name : N) :
    ((f.write i offset bytes).file? name).map FileData.mode =
      (f.file? name).map FileData.mode := by
  rw [write, file?_put]
  split
  · rename_i hdir
    simp [file?, hdir]
  · rfl

/-- What stands before the offset is kept, and what is written follows it. -/
lemma overlay_of_length {content : Bytes} (h : content.length = offset) (bytes : Bytes) :
    overlay content offset bytes = content ++ bytes := by
  subst h
  simp [overlay]

/-- The next bytes of a text, after those that are written. -/
lemma overlay_take {text : Bytes} (h : offset ≤ text.length) (n : ℕ) :
    overlay (text.take offset) offset ((text.drop offset).take n) =
      text.take (offset + ((text.drop offset).take n).length) := by
  rw [overlay_of_length (List.length_take_of_le h), List.take_add,
    ← List.prefix_iff_eq_take.1 (List.take_prefix n (text.drop offset))]

end Files

end Turbobond
