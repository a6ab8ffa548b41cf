import Turbobond.App.Auth
import Turbobond.App.Settings

/-!
# The requests of the API

A request passes the guards of its endpoint before the endpoint handles it.  The guards run in
threads of a pool, so any number of requests can be on their way at once and overtake each other
between two of their steps.  A request whose body cannot be parsed is answered before any of this.
-/

namespace Turbobond.App

open Config Links

namespace Api

/-- What an endpoint depends on: nothing, `SessionDep` or `GuardedDep`. -/
inductive Guard where
  | anyone
  | session
  | csrf
  deriving DecidableEq

/-- The endpoints, with what a request tells them. -/
inductive Endpoint where
  /-- `docs_url` and `openapi_url`. -/
  | docs
  | index
  | static
  | favicon
  | bootstrap
  | health
  /-- With the rest of what `sign_in` takes from outside. -/
  | signin (a : Attempt) (payload : SignInRequest) (activate : Bool)
  | signout
  | changePassword (current password : String)
  | sessionInfo
  | activate
  | deactivate
  | activationState
  | activationStream
  | status
  | routerStatus
  | links
  | routes
  | selectRoute (route : RouteName)
  | devices
  | setDeviceRoute (device : String) (route : RouteName)
  | sipStatus
  | logs
  | commands
  | getConfig
  | patchConfig (values : Fields)
  | downloadConcentrator
  | downloadConfig
  | downloadDiagnostics

def Endpoint.guard : Endpoint → Guard
  | docs | index | static | favicon | bootstrap | health | signin _ _ _ => .anyone
  | changePassword _ _ | activate | deactivate | selectRoute _ | setDeviceRoute _ _
  | patchConfig _ => .csrf
  | signout | sessionInfo | activationState | activationStream | status | routerStatus | links
  | routes | devices | sipStatus | logs | commands | getConfig | downloadConcentrator
  | downloadConfig | downloadDiagnostics => .session

structure Request where
  endpoint : Endpoint
  /-- `SESSION_COOKIE` and `CSRF_HEADER`, if they are sent. -/
  cookie : Option String := none
  csrf : Option String := none
  /-- The model of the body accepts it. -/
  valid : Bool := true

/-- `check_csrf`, false where it raises. -/
def checkCsrf (session : Session) : Option String → Bool
  | some token => token ≠ "" ∧ token = session.csrf
  | none => false

/-- What a handler takes from outside. -/
structure HandlerOutcomes where
  /-- What becomes of `save_config`. -/
  saved : Except String Unit := .ok ()
  /-- What `set_preferred` returns, if there is a selector. -/
  selected : Option Bool := none
  /-- What `hash_password` makes of a new password. -/
  passwordHash : String := ""
  /-- What `ensure_psk` draws. -/
  key : String := ""

/-- What a handler does beyond its answer. -/
inductive Action where
  | config (operation : Operation)
  /-- `activation.start()` and `activation.stop()`. -/
  | start
  | stop

inductive Output where
  | arrived (id : ℕ) (request : Request)
  /-- A call of the manager on behalf of a request. -/
  | call (id : ℕ) (entry : Call × Answer)
  | act (id : ℕ) (action : Action)
  /-- The activation puts the links it has found into the configuration. -/
  | persisted (found : List (Link ℚ))
  | respond (id : ℕ) (status : ℕ)

/-- A request on its way, with the session that its cookie has resolved to. -/
structure Pending where
  request : Request
  session : Option Session
  /-- `csrf_guard` has not run yet. -/
  unchecked : Bool

end Api

open Api in
structure Api where
  /-- The configuration, apart from the section of the manager. -/
  cfg : AppConfig
  manager : AuthManager
  /-- `state.activation.start()` has been called. -/
  started : Bool := false
  pending : Dict ℕ Pending := .empty
  next : ℕ := 0

namespace Api

variable (pkg : Packages) (p : Pydantic)

/-- `create_app`, where `fresh` is the secret that `ensure_secret` would draw. -/
def create (cfg : AppConfig) (fresh : String) : Api := { cfg, manager := .new cfg.auth fresh }

/-- The configuration as a whole. -/
def config (s : Api) : AppConfig := { s.cfg with auth := s.manager.auth }

/-- An operation on the configuration. -/
def perform (s : Api) (operation : Operation) : Api :=
  let cfg := apply p s.config operation
  { s with cfg, manager := { s.manager with auth := cfg.auth } }

/-- Cookies are resolved by `current_session`. -/
def arrive (s : Api) (request : Request) (loaded now seen : Time) : List Output × Api :=
  let id := s.next
  let s := { s with next := id + 1 }
  match request.endpoint.guard with
  | .anyone =>
    ([.arrived id request], { s with pending := s.pending.set id ⟨request, none, false⟩ })
  | guard =>
    let (session, manager) := s.manager.resolve pkg request.cookie loaded now seen
    let s := { s with manager }
    let out := [.arrived id request,
      .call id (.resolve request.cookie loaded now seen, .resolve session)]
    match session with
    | none => (out ++ [.respond id 401], s)
    | some session =>
      (out, { s with pending := s.pending.set id ⟨request, some session, guard = .csrf⟩ })

/-- `csrf_guard`. -/
def check (s : Api) (id : ℕ) : List Output × Api :=
  match s.pending.get? id with
  | some ⟨request, some session, true⟩ =>
    if checkCsrf session request.csrf then
      ([], { s with pending := s.pending.set id ⟨request, some session, false⟩ })
    else ([.respond id 403], { s with pending := s.pending.erase id })
  | _ => ([], s)

/-- The answer of a handler that ends with `save_config`. -/
def saving (o : HandlerOutcomes) : ℕ :=
  match o.saved with
  | .ok () => 200
  | .error _ => 500

/-- The handler of `/api/signin`. -/
def signin (s : Api) (id : ℕ) (a : Attempt) (payload : SignInRequest) (activate : Bool) :
    List Output × Api :=
  let enrol := !s.manager.enrolled
  let (result, manager) := s.manager.signIn pkg a
  let s := { s with manager }
  let call := .call id (.signIn a, .signIn result)
  match result with
  | .error _ => ([call, .respond id 401], s)
  | .ok _ =>
    let enrolment := if enrol then [.act id (.config (.enrol a.username a.passwordHash))] else []
    let s := s.perform p (.signin payload)
    if activate && s.cfg.autoActivateOnLogin then
      ([call] ++ enrolment ++ [.act id (.config (.signin payload)), .act id .start, .respond id 200],
        { s with started := true })
    else ([call] ++ enrolment ++ [.act id (.config (.signin payload)), .respond id 200], s)

/-- The handler of `/api/password`. -/
def changePassword (s : Api) (id : ℕ) (session : Session) (current password : String)
    (o : HandlerOutcomes) : List Output × Api :=
  let (result, manager) :=
    s.manager.changePassword pkg session current password o.passwordHash o.saved
  let s := { s with manager }
  let call := .call id
    (.changePassword session current password o.passwordHash o.saved, .changePassword result)
  let changed := .act id (.config (.changePassword o.passwordHash))
  match result with
  | .ok () => ([call, changed, .respond id 200], s)
  -- it has come to `save_config`
  | .error (.notSaved _) => ([call, changed, .respond id 500], s)
  | .error _ => ([call, .respond id 400], s)

/-- The handler of an endpoint.  The guards have left a session where the endpoint depends on one. -/
def handler (s : Api) (id : ℕ) (session : Option Session) (o : HandlerOutcomes) :
    Endpoint → List Output × Api
  | .signin a payload activate => s.signin pkg p id a payload activate
  | .signout =>
    ([.call id (.signOut session, .signOut), .respond id 200],
      { s with manager := s.manager.signOut session })
  | .changePassword current password =>
    match session with
    | some session => s.changePassword pkg id session current password o
    | none => ([], s)
  | .activate => ([.act id .start, .respond id 200], { s with started := true })
  | .deactivate => ([.act id .stop, .respond id 200], s)
  | .selectRoute route =>
    match o.selected with
    | none => ([.respond id 409], s)
    | some ok =>
      ([.act id (.config (.selectRoute route)), .respond id (if ok then saving o else 409)],
        s.perform p (.selectRoute route))
  | .setDeviceRoute device route =>
    ([.act id (.config (.setDeviceRoute device route)), .respond id (saving o)],
      s.perform p (.setDeviceRoute device route))
  | .patchConfig values =>
    match App.patchConfig p s.config values with
    | .error _ => ([.respond id 400], s)
    | .ok _ => ([.act id (.config (.patch values)), .respond id (saving o)],
        s.perform p (.patch values))
  | .downloadConcentrator =>
    ([.act id (.config (.ensurePsk o.key)), .respond id (saving o)], s.perform p (.ensurePsk o.key))
  -- the others only read
  | _ => ([.respond id 200], s)

/-- A request whose guards have run is handled. -/
def handle (s : Api) (id : ℕ) (o : HandlerOutcomes) : List Output × Api :=
  match s.pending.get? id with
  | some ⟨request, session, false⟩ =>
    let s := { s with pending := s.pending.erase id }
    if request.valid then s.handler pkg p id session o request.endpoint
    else ([.respond id 422], s)
  | _ => ([], s)

inductive Event where
  | arrive (request : Request) (loaded now seen : Time)
  | check (id : ℕ)
  | handle (id : ℕ) (o : HandlerOutcomes)
  /-- The step of an activation that looks for links is done. -/
  | discovered (found : List (Link ℚ))

def step (s : Api) : Event → List Output × Api
  | .arrive request loaded now seen => s.arrive pkg request loaded now seen
  | .check id => s.check id
  | .handle id o => s.handle pkg p id o
  | .discovered found =>
    if s.started then ([.persisted found], s.perform p (.persistLinks found)) else ([], s)

def run (events : List Event) (s : Api) : List Output × Api := Machine.run (step pkg p) events s

end Api

end Turbobond.App
