import Turbobond.App.Lockout
import Turbobond.App.Settings

/-!
# Changing the password

`change_password` puts the hash of the new password into the configuration in memory, has the
configuration written and then drops the other sessions.  What it leaves behind is said here of the
manager and of the disk, for every step of `save_config` that can raise.
-/

namespace Turbobond.App

open Config

/-- The steps of `save_config` that can raise. -/
inductive SaveStep where
  | mkdir
  /-- `model_dump` and `safe_dump`. -/
  | dump
  /-- `write_text`, with what it leaves in the temporary file. -/
  | writeText (left : File)
  | chmod
  | replace

/-- The file of the configuration and the temporary one beside it. -/
structure Disk where
  path : File
  tmp : File

/-- `save_config`, with the step that raises and what it raises, if one does. -/
def saveConfigTo (p : Pydantic) (cfg : AppConfig) (disk : Disk) :
    Option (SaveStep × String) → Except String Unit × Disk
  | some (.mkdir, exc) | some (.dump, exc) => (.error exc, disk)
  | some (.writeText left, exc) => (.error exc, { disk with tmp := left })
  | some (.chmod, exc) | some (.replace, exc) => (.error exc, { disk with tmp := saveConfig p cfg })
  | none => (.ok (), { path := saveConfig p cfg, tmp := .missing })

/-- The manager, the rest of the configuration it belongs to, and the disk. -/
structure Gateway where
  manager : AuthManager
  cfg : AppConfig
  disk : Disk

/-- `change_password`, with what it does to the disk. -/
def Gateway.changePassword (pkg : Packages) (p : Pydantic) (g : Gateway) (session : Session)
    (current password passwordHash : String) (fault : Option (SaveStep × String)) :
    Except AuthError Unit × Gateway :=
  let save := saveConfigTo p { g.cfg with auth := { g.manager.auth with passwordHash } } g.disk fault
  match g.manager.changePassword pkg session current password passwordHash save.1 with
  -- it has not come to `save_config`
  | (.error .wrongCurrent, manager) => (.error .wrongCurrent, { g with manager })
  | (.error .shortNew, manager) => (.error .shortNew, { g with manager })
  | (result, manager) => (result, { g with manager, disk := save.2 })

/-- The hash of the password that a file says. -/
def storedHash : File → Option Value
  | .text (.dict fields) =>
    match fields.lookup "auth" with
    | some (.dict auth) => auth.lookup "password_hash"
    | _ => none
  | _ => none

/-- The password is changed, in memory and in the file, and no session but the caller's is left; or
an exception leaves the password and the sessions as they were. -/
def AllOrNothing (session : Session) (passwordHash : String) (before : Gateway) :
    Except AuthError Unit × Gateway → Prop
  | (.ok (), after) =>
    after.manager.auth.passwordHash = passwordHash ∧
      storedHash after.disk.path = some (.str passwordHash) ∧
      ∀ sid other, after.manager.sessions.get? sid = some other →
        before.manager.sessions.get? session.sid = some other
  | (.error _, after) =>
    after.manager.auth.passwordHash = before.manager.auth.passwordHash ∧
      storedHash after.disk.path = storedHash before.disk.path ∧
      after.manager.sessions = before.manager.sessions

/-- A file that was written says the hash. -/
lemma storedHash_saveConfig (p : Pydantic) (cfg : AppConfig) :
    storedHash (saveConfig p cfg) = some (.str cfg.auth.passwordHash) := rfl

/-- A step that raises leaves the file as it was. -/
lemma saveConfigTo_some (p : Pydantic) (cfg : AppConfig) (disk : Disk) (fault : SaveStep × String) :
    (saveConfigTo p cfg disk (some fault)).1 = .error fault.2 ∧
      (saveConfigTo p cfg disk (some fault)).2.path = disk.path := by
  obtain ⟨step, exc⟩ := fault
  cases step <;> exact ⟨rfl, rfl⟩

namespace AuthManager

variable {pkg : Packages} {m : AuthManager} {current password : String}

lemma changePassword_of_wrong (h : verifyPassword pkg current m.auth.passwordHash = false)
    (session : Session) (password passwordHash : String) (saved : Except String Unit) :
    m.changePassword pkg session current password passwordHash saved = (.error .wrongCurrent, m) := by
  simp [changePassword, h]

lemma changePassword_of_short (h : verifyPassword pkg current m.auth.passwordHash = true)
    (hshort : password.length < 8) (session : Session) (passwordHash : String)
    (saved : Except String Unit) :
    m.changePassword pkg session current password passwordHash saved = (.error .shortNew, m) := by
  simp [changePassword, h, hshort]

/-- What an exception of `save_config` leaves. -/
lemma changePassword_of_error (h : verifyPassword pkg current m.auth.passwordHash = true)
    (hlong : ¬ password.length < 8) (session : Session) (passwordHash exc : String) :
    m.changePassword pkg session current password passwordHash (.error exc) =
      (.error (.notSaved exc), { m with auth := { m.auth with passwordHash } }) := by
  simp [changePassword, h, hlong]

/-- What a change leaves that is completed. -/
lemma changePassword_of_ok (h : verifyPassword pkg current m.auth.passwordHash = true)
    (hlong : ¬ password.length < 8) (session : Session) (passwordHash : String) :
    ∃ sessions, m.changePassword pkg session current password passwordHash (.ok ()) =
        (.ok (), { m with auth := { m.auth with passwordHash }, sessions }) ∧
      ∀ sid other, sessions.get? sid = some other → m.sessions.get? session.sid = some other := by
  cases hkeep : m.sessions.get? session.sid with
  | none => exact ⟨.empty, by simp [changePassword, h, hlong, hkeep], by simp⟩
  | some keep =>
    refine ⟨Dict.empty.set keep.sid keep, by simp [changePassword, h, hlong, hkeep], ?_⟩
    intro sid other hget
    obtain ⟨-, rfl⟩ | ⟨-, hget⟩ := Dict.of_get?_set hget
    · rfl
    · exact absurd hget (by simp)

end AuthManager

/-- **Changing the password.**  A change is all or nothing if and only if it does not come to
`save_config`, or that does not raise, or the hash is the old one. -/
theorem changePassword_allOrNothing_iff (pkg : Packages) (p : Pydantic) (g : Gateway)
    (session : Session) (current password passwordHash : String)
    (fault : Option (SaveStep × String)) :
    AllOrNothing session passwordHash g
        (g.changePassword pkg p session current password passwordHash fault) ↔
      verifyPassword pkg current g.manager.auth.passwordHash = false ∨ password.length < 8 ∨
        fault = none ∨ passwordHash = g.manager.auth.passwordHash := by
  simp only [Gateway.changePassword]
  cases hverify : verifyPassword pkg current g.manager.auth.passwordHash with
  | false =>
    rw [AuthManager.changePassword_of_wrong hverify]
    exact iff_of_true ⟨rfl, rfl, rfl⟩ (Or.inl rfl)
  | true =>
    by_cases hshort : password.length < 8
    · rw [AuthManager.changePassword_of_short hverify hshort]
      exact iff_of_true ⟨rfl, rfl, rfl⟩ (Or.inr (Or.inl hshort))
    · cases fault with
      | none =>
        obtain ⟨sessions, heq, hrevoked⟩ :=
          AuthManager.changePassword_of_ok hverify hshort session passwordHash
        rw [saveConfigTo, heq]
        exact iff_of_true ⟨rfl, rfl, hrevoked⟩ (Or.inr (Or.inr (Or.inl rfl)))
      | some fault =>
        obtain ⟨herror, hpath⟩ := saveConfigTo_some p
          { g.cfg with auth := { g.manager.auth with passwordHash } } g.disk fault
        rw [herror, AuthManager.changePassword_of_error hverify hshort]
        simp [hshort, AllOrNothing, hpath]

/-- A session of the operator. -/
def operator : Session where
  sid := "s"
  username := "admin"
  created := 0
  lastSeen := 0
  csrf := "c"
  remote := "192.168.1.7"

/-- An enrolled gateway where it is signed in. -/
def signedIn : Gateway where
  manager :=
    { auth := { passwordHash := "$argon2id$password" }, secret := "", failures := .empty,
      sessions := Dict.empty.set "s" operator }
  cfg := {}
  disk := { path := .missing, tmp := .missing }

/-- A full disk leaves the new password in force. -/
theorem changePassword_not_allOrNothing :
    ¬ AllOrNothing operator "$argon2id$another one" signedIn
      (signedIn.changePassword AuthManager.readable strict operator "password" "another one"
        "$argon2id$another one" (some (.writeText .missing, "No space left on device"))) := by
  intro h
  exact absurd h.1 (by decide)

end Turbobond.App
