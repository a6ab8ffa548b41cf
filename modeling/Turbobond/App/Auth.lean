import Turbobond.Config.Model
import Turbobond.Lib.Codec
import Turbobond.Lib.Machine
import Turbobond.Lib.Time

/-!
# Signing in

The manager of the sessions: the account, the table of sessions and, for each remote address,
the times of the failures that still count.  What a call takes from outside, a clock reading, a
fresh id, the hash of a password, is part of the call.
-/

namespace Turbobond.App

open Config

/-- A key is locked by this many failures. -/
def maxFailures : ℕ := 8

/-- A failure counts for this many seconds. -/
def lockoutS : Time := 300

structure Session where
  sid : String
  username : String
  created : Time
  lastSeen : Time
  csrf : String
  remote : String
  deriving DecidableEq

inductive AuthError where
  | lockedOut (seconds : ℤ)
  | passwordRequired
  | shortPassword
  | wrongCredentials
  | wrongCurrent
  | shortNew
  /-- `save_config` has raised. -/
  | notSaved (exc : String)
  deriving DecidableEq

def AuthError.message : AuthError → String
  | lockedOut seconds => s!"too many failed sign-in attempts; try again in {seconds} seconds"
  | passwordRequired => "a password is required"
  | shortPassword => "choose a password of at least 8 characters"
  | wrongCredentials => "that username or password is not correct"
  | wrongCurrent => "the current password is not correct"
  | shortNew => "choose a new password of at least 8 characters"
  | notSaved exc => exc

def AuthError.remedy : AuthError → String
  | shortPassword => "This password protects a gateway that can reconfigure your network."
  | _ => ""

/-- What the serializer makes of a cookie. -/
inductive Loaded where
  | signatureExpired
  | badSignature
  | data (value : Value)

/-- The packages that the manager relies on. -/
structure Packages where
  /-- The PBKDF2 check, of a password against a stored hash of that kind. -/
  pbkdf2 : String → String → Bool
  /-- `PasswordHasher.verify`, false where it raises. -/
  argon2 : String → String → Bool
  /-- `URLSafeTimedSerializer.loads`, with the secret, the cookie, `max_age` and the clock. -/
  loads : String → String → ℤ → Time → Loaded
  /-- `URLSafeTimedSerializer.dumps`, with the secret and the clock. -/
  dumps : String → Value → Time → String
  /-- `str`, of a value out of a cookie. -/
  str : Value → String

/-- `a or b`, of two strings. -/
def orDefault (a b : String) : String := if a = "" then b else a

def verifyPassword (pkg : Packages) (password stored : String) : Bool :=
  if stored = "" then false
  else if "pbkdf2_sha256$".toList.isPrefixOf stored.toList then pkg.pbkdf2 password stored
  else pkg.argon2 password stored

/-- `auth` is the section of the configuration that the manager reads and writes. -/
structure AuthManager where
  auth : AuthConfig
  secret : String
  sessions : Dict String Session
  failures : Dict String (List Time)
  deriving DecidableEq

/-- One call of `sign_in`.  `checked` and `recorded` are the clock readings of `_locked_out` and
`_record_failure`; the password is verified at some time in between. -/
structure Attempt where
  username : String
  password : String
  remote : String
  checked : Time
  verified : Time
  recorded : Time
  /-- The fields of the session that a success opens. -/
  sid : String
  created : Time
  lastSeen : Time
  csrf : String
  /-- What `hash_password` makes of the password on enrolment. -/
  passwordHash : String
  deriving DecidableEq

def Attempt.key (a : Attempt) : String := orDefault a.remote "unknown"

namespace AuthManager

/-- `AuthManager.__init__`, where `fresh` is the secret that `ensure_secret` would draw. -/
def new (auth : AuthConfig) (fresh : String) : AuthManager :=
  let secret := orDefault auth.sessionSecret fresh
  { auth := { auth with sessionSecret := secret }, secret, sessions := .empty, failures := .empty }

def enrolled (m : AuthManager) : Bool := m.auth.passwordHash ≠ ""

/-- `_enrol`; a configuration that cannot be saved is only logged. -/
def enrol (m : AuthManager) (username password passwordHash : String) :
    Except AuthError AuthManager :=
  if password.length < 8 then .error .shortPassword
  else .ok { m with auth := { m.auth with
    username := orDefault username m.auth.username
    passwordHash } }

/-- The times stored for a key. -/
def attempts (m : AuthManager) (key : String) : List Time := (m.failures.get? key).getD []

/-- The failures of a key that count at a time. -/
def counted (m : AuthManager) (key : String) (now : Time) : List Time :=
  (m.attempts key).filter fun t => now - t < lockoutS

/-- `_locked_out`: the seconds that remain of a lockout, or 0. -/
def lockedOut (m : AuthManager) (key : String) (now : Time) : Time × AuthManager :=
  let attempts := m.counted key now
  let m := { m with failures := m.failures.set key attempts }
  match attempts with
  | first :: _ => (if maxFailures ≤ attempts.length then lockoutS - (now - first) else 0, m)
  | [] => (0, m)

def recordFailure (m : AuthManager) (key : String) (now : Time) : AuthManager :=
  { m with failures := m.failures.set key (m.attempts key ++ [now]) }

/-- The end of `sign_in`: a session is opened. -/
def openSession (m : AuthManager) (a : Attempt) : Session × AuthManager :=
  let session : Session :=
    { sid := a.sid, username := m.auth.username, created := a.created, lastSeen := a.lastSeen,
      csrf := a.csrf, remote := a.remote }
  (session, { m with
    failures := m.failures.erase a.key
    sessions := m.sessions.set a.sid session })

def signIn (pkg : Packages) (m : AuthManager) (a : Attempt) :
    Except AuthError Session × AuthManager :=
  let (remaining, m) := m.lockedOut a.key a.checked
  if 0 < remaining then (.error (.lockedOut ⌊remaining⌋), m)
  else if a.password = "" then (.error .passwordRequired, m)
  else if !m.enrolled then
    match m.enrol a.username a.password a.passwordHash with
    | .error e => (.error e, m)
    | .ok m =>
      let (session, m) := m.openSession a
      (.ok session, m)
  else if orDefault a.username m.auth.username ≠ m.auth.username ∨
      !verifyPassword pkg a.password m.auth.passwordHash then
    (.error .wrongCredentials, m.recordFailure a.key a.recorded)
  else
    let (session, m) := m.openSession a
    (.ok session, m)

def issueCookie (pkg : Packages) (m : AuthManager) (session : Session) (now : Time) : String :=
  pkg.dumps m.secret (.dict [("sid", .str session.sid), ("u", .str session.username)]) now

/-- `resolve`, with the clock readings of the serializer, of the check of the age and of
`last_seen`. -/
def resolve (pkg : Packages) (m : AuthManager) (token : Option String) (loaded now seen : Time) :
    Option Session × AuthManager :=
  match token.filter fun t => t ≠ "" with
  | none => (none, m)
  | some token =>
    match pkg.loads m.secret token m.auth.sessionTtlS loaded with
    | .data (.dict data) =>
      match m.sessions.get? (pkg.str ((data.lookup "sid").getD (.str ""))) with
      | none => (none, m)
      | some session =>
        if (m.auth.sessionTtlS : Time) < now - session.created then
          (none, { m with sessions := m.sessions.erase session.sid })
        else
          let session := { session with lastSeen := seen }
          (some session, { m with sessions := m.sessions.set session.sid session })
    | _ => (none, m)

def signOut (m : AuthManager) : Option Session → AuthManager
  | some session => { m with sessions := m.sessions.erase session.sid }
  | none => m

def signOutAll (m : AuthManager) : ℕ × AuthManager :=
  (m.sessions.size, { m with sessions := .empty })

/-- `change_password`, where `saved` is what becomes of `save_config`. -/
def changePassword (pkg : Packages) (m : AuthManager) (session : Session)
    (current password passwordHash : String) (saved : Except String Unit) :
    Except AuthError Unit × AuthManager :=
  if !verifyPassword pkg current m.auth.passwordHash then (.error .wrongCurrent, m)
  else if password.length < 8 then (.error .shortNew, m)
  else
    let m := { m with auth := { m.auth with passwordHash } }
    match saved with
    | .error exc => (.error (.notSaved exc), m)
    | .ok () =>
      -- every other session is invalidated by a password change
      match m.sessions.get? session.sid with
      | some keep => (.ok (), { m with sessions := Dict.empty.set keep.sid keep })
      | none => (.ok (), { m with sessions := .empty })

end AuthManager

inductive Call where
  | signIn (a : Attempt)
  | resolve (token : Option String) (loaded now seen : Time)
  | signOut (session : Option Session)
  | signOutAll
  | changePassword (session : Session) (current password passwordHash : String)
      (saved : Except String Unit)
  /-- The section of the configuration is changed from outside. -/
  | configure (auth : AuthConfig)

/-- What a call returns. -/
inductive Answer where
  | signIn (result : Except AuthError Session)
  | resolve (result : Option Session)
  | signOut
  | signOutAll (count : ℕ)
  | changePassword (result : Except AuthError Unit)
  | configure

/-- One call: what is put out is the call with its answer. -/
def AuthManager.step (pkg : Packages) (m : AuthManager) (call : Call) :
    List (Call × Answer) × AuthManager :=
  match call with
  | .signIn a =>
    let (result, m) := m.signIn pkg a
    ([(call, .signIn result)], m)
  | .resolve token loaded now seen =>
    let (result, m) := m.resolve pkg token loaded now seen
    ([(call, .resolve result)], m)
  | .signOut session => ([(call, .signOut)], m.signOut session)
  | .signOutAll =>
    let (count, m) := m.signOutAll
    ([(call, .signOutAll count)], m)
  | .changePassword session current password passwordHash saved =>
    let (result, m) := m.changePassword pkg session current password passwordHash saved
    ([(call, .changePassword result)], m)
  | .configure auth => ([(call, .configure)], { m with auth })

/-- A sequence of calls: the calls with their answers, and the last state. -/
def AuthManager.run (pkg : Packages) (calls : List Call) (m : AuthManager) :
    List (Call × Answer) × AuthManager :=
  Machine.run (AuthManager.step pkg) calls m

end Turbobond.App
