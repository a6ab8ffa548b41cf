import Turbobond.Lib.Dict
import Mathlib.Algebra.Order.Field.Rat

/-!
# Trees of values

What a YAML or a JSON text says is a tree.  A codec writes the values of a type as trees and reads
them back; it may read other trees as well.  Codecs of records are put together from the codecs of
their fields: each is read under its name, and a field that is not there has its default.
-/

namespace Turbobond

/-- A tree of values. -/
inductive Value where
  | null
  | bool (b : Bool)
  | int (n : ℤ)
  | float (x : ℚ)
  | str (s : String)
  | list (items : List Value)
  | dict (fields : List (String × Value))
  /-- What neither of these is, as a date. -/
  | other (repr : String)

/-- The fields of a mapping, in order. -/
abbrev Fields : Type := List (String × Value)

namespace Fields

/-- Store a value under a key: in place when the key is present, at the end when it is not. -/
def set (key : String) (value : Value) : Fields → Fields
  | [] => [(key, value)]
  | (k, v) :: fields => if k = key then (key, value) :: fields else (k, v) :: set key value fields

@[simp] lemma lookup_set_self (key : String) (value : Value) (fields : Fields) :
    (fields.set key value).lookup key = some value := by
  induction fields with
  | nil => simp [set]
  | cons x fields ih =>
    obtain ⟨k, v⟩ := x
    rw [set]
    split
    · simp
    · rename_i hk
      rw [List.lookup_cons, beq_false_of_ne (Ne.symm hk)]
      exact ih

lemma lookup_set_of_ne {key key' : String} (h : key' ≠ key) (value : Value) (fields : Fields) :
    (fields.set key value).lookup key' = fields.lookup key' := by
  induction fields with
  | nil => simp [set, h]
  | cons x fields ih =>
    obtain ⟨k, v⟩ := x
    rw [set]
    split
    · rename_i hk
      subst hk
      rw [List.lookup_cons, List.lookup_cons, beq_false_of_ne h]
    · rw [List.lookup_cons, List.lookup_cons, ih]

end Fields

mutual

/-- Put a patch into a tree: mappings are merged key by key, anything else is replaced. -/
def Value.patch (target : Value) : Value → Value
  | .dict patch =>
    match target with
    | .dict fields => .dict (Fields.patch fields patch)
    | _ => .dict patch
  | value => value

/-- Put the fields of a patch into a mapping, in order. -/
def Fields.patch (fields : Fields) : List (String × Value) → Fields
  | [] => fields
  | (key, value) :: patch =>
    Fields.patch (fields.set key (((fields.lookup key).getD .null).patch value)) patch

end

/-- A writer of trees, with a reader that reads what was written. -/
structure Codec (α : Type) where
  dump : α → Value
  read : Value → Option α
  read_dump : ∀ a, read (dump a) = some a

namespace Codec

attribute [simp] read_dump

variable {α : Type} (c : Codec α)

/-- The field of a record under a name. -/
def field (fields : Fields) (key : String) (default : α) : Option α :=
  match fields.lookup key with
  | none => some default
  | some v => c.read v

/-- A field that has no default. -/
def required (fields : Fields) (key : String) : Option α := (fields.lookup key).bind c.read

/-- A field that is there is read as it was written. -/
lemma bind_field {β : Type} {c : Codec α} {fields : Fields} {key : String} {a default : α}
    {f : α → Option β} (h : fields.lookup key = some (c.dump a)) :
    (c.field fields key default >>= f) = f a := by
  rw [field, h]
  simp

lemma bind_required {β : Type} {c : Codec α} {fields : Fields} {key : String} {a : α}
    {f : α → Option β} (h : fields.lookup key = some (c.dump a)) :
    (c.required fields key >>= f) = f a := by
  rw [required, h]
  simp

end Codec

/-- A reader that converts: what it makes of a value of the type asked for is that value. -/
structure Lax where
  readBool : Value → Option Bool
  readInt : Value → Option ℤ
  readFloat : Value → Option ℚ
  readStr : Value → Option String
  readList : Value → Option (List Value)
  readDict : Value → Option Fields
  readBool_bool : ∀ b, readBool (.bool b) = some b
  readInt_int : ∀ n, readInt (.int n) = some n
  readFloat_float : ∀ x, readFloat (.float x) = some x
  readStr_str : ∀ s, readStr (.str s) = some s
  readList_list : ∀ items, readList (.list items) = some items
  readDict_dict : ∀ fields, readDict (.dict fields) = some fields

namespace Lax

variable (l : Lax)

attribute [simp] readBool_bool readInt_int readFloat_float readStr_str readList_list readDict_dict

def bool : Codec Bool := ⟨.bool, l.readBool, l.readBool_bool⟩

def int : Codec ℤ := ⟨.int, l.readInt, l.readInt_int⟩

def float : Codec ℚ := ⟨.float, l.readFloat, l.readFloat_float⟩

def str : Codec String := ⟨.str, l.readStr, l.readStr_str⟩

lemma mapM_read {α : Type} (c : Codec α) (items : List α) :
    (items.map c.dump).mapM c.read = some items := by
  induction items with
  | nil => rfl
  | cons a items ih => simp [ih]

lemma bind_readDict {β : Type} {fields : Fields} {f : Fields → Option β} :
    (l.readDict (.dict fields) >>= f) = f fields := by
  simp

/-- Lists of what a codec reads. -/
def list {α : Type} (c : Codec α) : Codec (List α) where
  dump items := .list (items.map c.dump)
  read v := (l.readList v).bind fun items => items.mapM c.read
  read_dump items := by rw [readList_list, Option.bind_some, mapM_read]

/-- Mappings to what a codec reads. -/
def dict {α : Type} (c : Codec α) : Codec (Dict String α) where
  dump d := .dict (d.entries.map fun e => (e.1, c.dump e.2))
  read v := do
    let fields ← l.readDict v
    let entries ← fields.mapM fun e => (c.read e.2).map fun a => (e.1, a)
    return entries.foldl (fun d e => d.set e.1 e.2) Dict.empty
  read_dump d := by
    have hentries : (d.entries.map fun e => (e.1, c.dump e.2)).mapM
        (fun e => (c.read e.2).map fun a => (e.1, a)) = some d.entries := by
      induction d.entries with
      | nil => rfl
      | cons e entries ih => simp [ih]
    simp only [readDict_dict, hentries, Option.bind_eq_bind, Option.bind_some, Dict.foldl_set_entries]
    rfl

end Lax

end Turbobond
