import Turbobond.Config.Slots

/-!
# The configuration that is shown

`redacted` writes a configuration with a mask in the place of every secret that is set.  What is
shown is thus what would be written of a configuration whose secrets are masks.
-/

namespace Turbobond.Config

open Codec

/-- What is shown of a secret that is set. -/
def secretMask : String := "********"

/-- Put the mask in the place of what stands at a path, if it is set. -/
def maskAt (data : Fields) : List String → Fields
  | [] => data
  | [key] => if truthy ((data.lookup key).getD .null) then data.set key (.str secretMask) else data
  | key :: path =>
    match data.lookup key with
    | some (.dict node) => data.set key (.dict (maskAt node path))
    | _ => data

def hide (secret : String) : String := if secret = "" then "" else secretMask

lemma hide_eq_self {secret : String} : hide secret = secret ↔ secret = "" ∨ secret = secretMask := by
  rw [hide]
  split
  · rename_i h
    simp [h]
  · rename_i h
    simp [h, eq_comm]

@[simp] lemma hide_eq_empty {secret : String} : hide secret = "" ↔ secret = "" := by
  rw [hide]
  split
  · rename_i h
    simp [h]
  · rename_i h
    simp [h, secretMask]

lemma set_of_lookup {fields : Fields} {key : String} {value : Value}
    (h : fields.lookup key = some value) : fields.set key value = fields := by
  induction fields with
  | nil => exact absurd h (by simp)
  | cons x fields ih =>
    obtain ⟨k, v⟩ := x
    rw [Fields.set]
    split
    · rename_i hk
      subst hk
      rw [List.lookup_cons_self] at h
      rw [Option.some.inj h]
    · rename_i hk
      rw [List.lookup_cons, beq_false_of_ne (Ne.symm hk)] at h
      rw [ih h]

/-- The mask at a path of two keys. -/
lemma maskAt_pair {data node : Fields} {key key' secret : String}
    (h : data.lookup key = some (.dict node)) (h' : node.lookup key' = some (.str secret)) :
    maskAt data [key, key'] = data.set key (.dict (node.set key' (.str (hide secret)))) := by
  rw [maskAt, h]
  · simp only [maskAt, h', Option.getD_some, truthy, decide_eq_true_eq]
    by_cases hset : secret = ""
    · subst hset
      rw [if_neg (by simp), hide, if_pos rfl, set_of_lookup h', set_of_lookup h]
    · rw [if_pos hset, hide, if_neg hset]
  · simp

namespace AppConfig

/-- The paths of the secrets. -/
def secretPaths : List (List String) := [
  ["auth", "password_hash"], ["auth", "session_secret"], ["router", "password"],
  ["shadowsocks", "password"], ["concentrator", "psk_hex"]]

/-- `redacted`. -/
def redacted (p : Pydantic) (c : AppConfig) : Fields := secretPaths.foldl maskAt (c.modelDump p)

/-- The secrets. -/
def secrets (c : AppConfig) : List String := [
  c.auth.passwordHash, c.auth.sessionSecret, c.router.password, c.shadowsocks.password,
  c.concentrator.pskHex]

/-- A configuration with masks in the place of its secrets. -/
def masked (c : AppConfig) : AppConfig := { c with
  auth := { c.auth with
    passwordHash := hide c.auth.passwordHash, sessionSecret := hide c.auth.sessionSecret }
  router := { c.router with password := hide c.router.password }
  shadowsocks := { c.shadowsocks with password := hide c.shadowsocks.password }
  concentrator := { c.concentrator with pskHex := hide c.concentrator.pskHex } }

/-- What is shown is the dump of the masked configuration. -/
lemma redacted_eq (p : Pydantic) (c : AppConfig) : c.redacted p = c.masked.modelDump p := by
  let c₁ : AppConfig := { c with auth := { c.auth with passwordHash := hide c.auth.passwordHash } }
  let c₂ : AppConfig := { c₁ with auth := { c₁.auth with sessionSecret := hide c.auth.sessionSecret } }
  let c₃ : AppConfig := { c₂ with router := { c.router with password := hide c.router.password } }
  let c₄ : AppConfig := { c₃ with
    shadowsocks := { c.shadowsocks with password := hide c.shadowsocks.password } }
  have h₁ : maskAt (c.modelDump p) ["auth", "password_hash"] = c₁.modelDump p :=
    (maskAt_pair rfl rfl).trans rfl
  have h₂ : maskAt (c₁.modelDump p) ["auth", "session_secret"] = c₂.modelDump p :=
    (maskAt_pair rfl rfl).trans rfl
  have h₃ : maskAt (c₂.modelDump p) ["router", "password"] = c₃.modelDump p :=
    (maskAt_pair rfl rfl).trans rfl
  have h₄ : maskAt (c₃.modelDump p) ["shadowsocks", "password"] = c₄.modelDump p :=
    (maskAt_pair rfl rfl).trans rfl
  have h₅ : maskAt (c₄.modelDump p) ["concentrator", "psk_hex"] = c.masked.modelDump p :=
    (maskAt_pair rfl rfl).trans rfl
  simp only [redacted, secretPaths, List.foldl_cons, List.foldl_nil, h₁, h₂, h₃, h₄, h₅]

lemma valid_masked {c : AppConfig} : c.masked.Valid ↔ c.Valid := by
  have hshadowsocks : c.masked.shadowsocks.Valid ↔ c.shadowsocks.Valid := by
    simp [masked, ShadowsocksConfig.Valid]
  constructor
  · exact fun h => ⟨h.optimization, h.links, h.concentrator, hshadowsocks.1 h.shadowsocks, h.sip⟩
  · exact fun h => ⟨h.optimization, h.links, h.concentrator, hshadowsocks.2 h.shadowsocks, h.sip⟩

/-- Masking changes nothing if no secret is set to anything but a mask. -/
lemma masked_eq_self {c : AppConfig} :
    c.masked = c ↔ ∀ secret ∈ c.secrets, secret = "" ∨ secret = secretMask := by
  simp only [secrets, List.forall_mem_cons, List.not_mem_nil, false_imp_iff, implies_true, and_true,
    ← hide_eq_self]
  constructor
  · intro h
    have hauth := congrArg auth h
    exact ⟨congrArg AuthConfig.passwordHash hauth, congrArg AuthConfig.sessionSecret hauth,
      congrArg (fun c => c.router.password) h, congrArg (fun c => c.shadowsocks.password) h,
      congrArg (fun c => c.concentrator.pskHex) h⟩
  · rintro ⟨h₁, h₂, h₃, h₄, h₅⟩
    rw [masked, h₁, h₂, h₃, h₄, h₅]

end AppConfig

end Turbobond.Config
