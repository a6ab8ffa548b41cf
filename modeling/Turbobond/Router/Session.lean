import Turbobond.Lib.Raising
import Turbobond.Util.Errors
import Mathlib.Tactic.Lemma

/-!
# The session with the router

`NighthawkAdmin` of `turbobond/router/netgear_m7pro.py` as far as signing in and reading the status
go, over what the router answers and outside dry-run mode.
-/

namespace Turbobond.Router

open Util

structure RouterStatus where
  reachable : Bool := false
  authenticated : Bool := false
  model : String := ""
  firmware : String := ""
  error : String := ""
  deriving DecidableEq

/-- What the client looks for in the state tree of a router. -/
class StateTree (M : Type) where
  /-- `_build_status`, which converts numbers as the router writes them. -/
  buildStatus : M → Except Exn RouterStatus
  /-- A marker of a signed-in session or a privileged subtree is there. -/
  signedIn : M → Bool

/-- How a request for the state tree ends. -/
inductive Response (M : Type) where
  /-- `httpx.HTTPError` -/
  | httpError (text : String)
  | raised (e : Exn)
  /-- A status other than 200. -/
  | status (code : ℕ)
  /-- The body is no JSON. -/
  | invalid (text : String)
  /-- The body is JSON but no object. -/
  | noObject
  | tree (m : M)

/-- How a form post ends. -/
inductive Posted where
  | httpError
  | raised (e : Exn)
  | status (code : ℕ)

/-- What the router answers while the client signs in. -/
structure Exchange (M : Type) where
  first : String → Response M
  /-- The posts of `_login`, each with the state tree that is read after it. -/
  attempts : List (Posted × (String → Response M))
  again : String → Response M

structure Session (M : Type) where
  /-- `_model`, the state tree that was read last. -/
  model : M
  authenticated : Bool := false

def modelJsonPaths : List String :=
  ["/api/model.json", "/model.json", "/api/model.json?internalapi=1"]

variable {M : Type}

/-- The loop of `fetch_model` over the paths, with the text of `last_error`. -/
def fetchFrom (baseUrl : String) (answer : String → Response M) :
    List String → String → Except Exn M
  | [], lastError => .error (.turboBond .router
      s!"could not read the router state tree from {baseUrl}: {lastError}"
      (some ("Confirm the router is reachable at that address and that the app's host is on its LAN. "
        ++ "For a Nighthawk hotspot the default is http://192.168.1.1.")))
  | path :: paths, lastError =>
    match answer path with
    | .httpError text | .invalid text => fetchFrom baseUrl answer paths text
    | .raised e => .error e
    | .status code => fetchFrom baseUrl answer paths s!"GET {path} returned HTTP {code}"
    | .noObject => fetchFrom baseUrl answer paths lastError
    | .tree m => .ok m

/-- `fetch_model`, without its effect on the session. -/
def fetched (baseUrl : String) (answer : String → Response M) : Except Exn M :=
  fetchFrom baseUrl answer modelJsonPaths "None"

/-- `fetch_model`. -/
def fetchModel (baseUrl : String) (answer : String → Response M) :
    EStateM Exn (Session M) Unit := do
  let model ← call (fetched baseUrl answer)
  modify fun s => { s with model }

variable [StateTree M]

def buildStatus : EStateM Exn (Session M) RouterStatus := do
  call (StateTree.buildStatus (← get).model)

/-- `_verify_session`. -/
def verifySession (baseUrl : String) (answer : String → Response M) :
    EStateM Exn (Session M) Bool :=
  match fetched baseUrl answer with
  | .ok model => do
    modify fun s => { s with model }
    return StateTree.signedIn model
  | .error e => if e.isRouterError then return false else throw e

/-- `_login`. -/
def login (baseUrl : String) : List (Posted × (String → Response M)) → EStateM Exn (Session M) Bool
  | [] => return false
  | (posted, answer) :: attempts =>
    match posted with
    | .httpError => login baseUrl attempts
    | .raised e => throw e
    | .status code =>
      if 500 ≤ code then login baseUrl attempts
      else do
        if ← verifySession baseUrl answer then return true
        login baseUrl attempts

def connect (baseUrl password : String) (x : Exchange M) : EStateM Exn (Session M) RouterStatus :=
  match fetched baseUrl x.first with
  | .error e => if e.isRouterError then return { error := e.message } else throw e
  | .ok model => do
    modify fun s => { s with model }
    if password = "" then
      return { (← buildStatus) with reachable := true, authenticated := false }
    else
      let ok ← login baseUrl x.attempts
      modify fun s => { s with authenticated := ok }
      -- unlike the first read of the state tree, this one has no handler
      if ok then fetchModel baseUrl x.again
      let status ← buildStatus
      let status := { status with reachable := true, authenticated := ok }
      return if ok then status else { status with error := "router rejected the administrator password" }

def status (baseUrl : String) (answer : String → Response M) :
    EStateM Exn (Session M) RouterStatus :=
  match fetched baseUrl answer with
  | .error e => if e.isRouterError then return { error := e.message } else throw e
  | .ok model => do
    modify fun s => { s with model }
    let authenticated := (← get).authenticated
    return { (← buildStatus) with reachable := true, authenticated }

omit [StateTree M] in
/-- A router that does not answer is a `RouterError`. -/
lemma fetchFrom_unreadable {baseUrl : String} {answer : String → Response M} {paths : List String}
    (h : ∀ path ∈ paths, ∃ text, answer path = .httpError text) (lastError : String) :
    ∃ e, fetchFrom baseUrl answer paths lastError = .error e ∧ e.isRouterError = true := by
  induction paths generalizing lastError with
  | nil => exact ⟨_, rfl, rfl⟩
  | cons path paths ih =>
    obtain ⟨text, htext⟩ := h path (List.mem_cons_self ..)
    rw [fetchFrom, htext]
    exact ih (fun path hpath => h path (List.mem_cons_of_mem _ hpath)) text

/-- A router that cannot be read once the session is verified makes `connect` raise. -/
theorem connect_raises {baseUrl password : String} {x : Exchange M} {s s' : Session M} {m : M}
    (hfirst : fetched baseUrl x.first = .ok m) (hpassword : password ≠ "")
    (hlogin : (login baseUrl x.attempts).run { s with model := m } = .ok true s') {e : Exn}
    (hagain : fetched baseUrl x.again = .error e) :
    ∃ s'', (connect baseUrl password x).run s = .error e s'' := by
  refine ⟨{ s' with authenticated := true }, ?_⟩
  simp only [connect, hfirst, if_neg hpassword, EStateM.run_bind, EStateM.run_modify, hlogin,
    if_true, fetchModel, hagain]
  rfl

/-- `status` never raises a `RouterError` of its own: what it raises comes from a request or from
`_build_status`. -/
theorem status_error {baseUrl : String} {answer : String → Response M} {s s' : Session M} {e : Exn}
    (h : (status baseUrl answer).run s = .error e s') :
    (fetched baseUrl answer = .error e ∧ e.isRouterError = false) ∨
      ∃ m, fetched baseUrl answer = .ok m ∧ StateTree.buildStatus m = .error e := by
  rw [status] at h
  cases hfetched : fetched baseUrl answer with
  | error e' =>
    rw [hfetched] at h
    by_cases hrouter : e'.isRouterError = true
    · simp [hrouter] at h
    · simp only [hrouter] at h
      cases h
      exact .inl ⟨rfl, by simpa using hrouter⟩
  | ok m =>
    rw [hfetched] at h
    refine .inr ⟨m, rfl, ?_⟩
    cases hbuild : StateTree.buildStatus m with
    | ok built =>
      simp only [buildStatus, EStateM.run_bind, EStateM.run_modify, EStateM.run_get, hbuild] at h
      cases h
    | error e' =>
      simp only [buildStatus, EStateM.run_bind, EStateM.run_modify, EStateM.run_get, hbuild] at h
      cases h
      rfl

end Turbobond.Router
