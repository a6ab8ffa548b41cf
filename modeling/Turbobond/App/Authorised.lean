import Turbobond.App.Api
import Turbobond.App.PasswordChange
import Turbobond.App.Sessions

/-!
# What the API does, and for whom

However the requests overtake each other: what one of them does is what its endpoint is for, and its
guards have let it through.  That they have says something of the time when the cookie was resolved,
and the session can be revoked before the endpoint handles the request.
-/

namespace Turbobond.App

open Config Links

namespace AuthManager

variable {pkg : Packages} {m m' : AuthManager}

/-- The table of sessions decides. -/
lemma Rooted.of_sessions {history : List (Call × Answer)} (h : m.Rooted history)
    (hsessions : m'.sessions = m.sessions) : m'.Rooted history := by
  rw [Rooted, hsessions]
  exact h

lemma resolve_auth (pkg : Packages) (m : AuthManager) (token : Option String)
    (loaded now seen : Time) : (m.resolve pkg token loaded now seen).2.auth = m.auth := by
  rw [resolve]
  split
  · rfl
  · split
    · split
      · rfl
      · split <;> rfl
    · rfl

/-- An account is enrolled by the first sign-in that is accepted. -/
lemma signIn_auth (pkg : Packages) (m : AuthManager) (a : Attempt) :
    (∃ e, (m.signIn pkg a).1 = .error e ∧ (m.signIn pkg a).2.auth = m.auth) ∨
    ∃ session, (m.signIn pkg a).1 = .ok session ∧
      (m.signIn pkg a).2.auth =
        if m.enrolled then m.auth
        else { m.auth with
          username := orDefault a.username m.auth.username, passwordHash := a.passwordHash } := by
  rw [signIn]
  simp only [lockedOut_snd]
  by_cases hlocked : 0 < (m.lockedOut a.key a.checked).1
  · rw [if_pos hlocked]
    exact .inl ⟨_, rfl, rfl⟩
  rw [if_neg hlocked]
  by_cases hempty : a.password = ""
  · rw [if_pos hempty]
    exact .inl ⟨_, rfl, rfl⟩
  rw [if_neg hempty]
  have henrolled : ∀ failures, ({ m with failures } : AuthManager).enrolled = m.enrolled :=
    fun _ => rfl
  rw [henrolled]
  cases hm : m.enrolled with
  | false =>
    by_cases hshort : a.password.length < 8
    · rw [enrol, if_pos hshort]
      exact .inl ⟨_, rfl, rfl⟩
    · rw [enrol, if_neg hshort]
      exact .inr ⟨_, rfl, rfl⟩
  | true =>
    simp only [Bool.not_true, Bool.false_eq_true, if_false, if_true]
    split
    · exact .inl ⟨_, rfl, rfl⟩
    · exact .inr ⟨_, rfl, rfl⟩

/-- `change_password` has come to `save_config`, or it has changed nothing. -/
lemma changePassword_auth (pkg : Packages) (m : AuthManager) (session : Session)
    (current password passwordHash : String) (saved : Except String Unit) :
    let r := m.changePassword pkg session current password passwordHash saved
    (r.1 = .error .wrongCurrent ∨ r.1 = .error .shortNew) ∧ r.2.auth = m.auth ∨
      (r.1 = .ok () ∨ ∃ exc, r.1 = .error (.notSaved exc)) ∧
        r.2.auth = { m.auth with passwordHash } := by
  intro r
  cases hverify : verifyPassword pkg current m.auth.passwordHash with
  | false =>
    have hr : r = _ := changePassword_of_wrong hverify session password passwordHash saved
    rw [hr]
    exact .inl ⟨.inl rfl, rfl⟩
  | true =>
    by_cases hshort : password.length < 8
    · have hr : r = _ := changePassword_of_short hverify hshort session passwordHash saved
      rw [hr]
      exact .inl ⟨.inr rfl, rfl⟩
    · cases saved with
      | error exc =>
        have hr : r = _ := changePassword_of_error hverify hshort session passwordHash exc
        rw [hr]
        exact .inr ⟨.inr ⟨exc, rfl⟩, rfl⟩
      | ok _ =>
        obtain ⟨sessions, heq, -⟩ := changePassword_of_ok hverify hshort session passwordHash
        have hr : r = _ := heq
        rw [hr]
        exact .inr ⟨.inl rfl, rfl⟩

end AuthManager

/-- A session that a sign-in has opened and that nothing has revoked since. -/
def SignedIn (history : List (Call × Answer)) (session : Session) : Prop :=
  ∃ before a opened after, history = before ++ (.signIn a, .signIn (.ok opened)) :: after ∧
    session = { opened with lastSeen := session.lastSeen } ∧ opened.created = a.created ∧
    ∀ entry ∈ after, ¬ Revokes session.sid entry

namespace Api

variable {pkg : Packages} {p : Pydantic}

/-- What an endpoint is for. -/
inductive Endpoint.Does : Endpoint → Action → Prop
  | enrol {a payload activate} :
    Does (.signin a payload activate) (.config (.enrol a.username a.passwordHash))
  | signin {a payload activate} : Does (.signin a payload activate) (.config (.signin payload))
  | signinStart {a payload} : Does (.signin a payload true) .start
  | changePassword {current password passwordHash} :
    Does (.changePassword current password) (.config (.changePassword passwordHash))
  | activate : Does .activate .start
  | deactivate : Does .deactivate .stop
  | selectRoute {route} : Does (.selectRoute route) (.config (.selectRoute route))
  | setDeviceRoute {device route} :
    Does (.setDeviceRoute device route) (.config (.setDeviceRoute device route))
  | patchConfig {values} : Does (.patchConfig values) (.config (.patch values))
  | downloadConcentrator {key} : Does .downloadConcentrator (.config (.ensurePsk key))

/-! ### Histories -/

/-- The calls of the manager. -/
def calls (history : List Output) : List (Call × Answer) :=
  history.filterMap fun
    | .call _ entry => some entry
    | _ => none

/-- The operations on the configuration. -/
def operations (history : List Output) : List Operation :=
  history.filterMap fun
    | .act _ (.config operation) => some operation
    | .persisted found => some (.persistLinks found)
    | _ => none

lemma applyAll_append (cfg : AppConfig) (operations more : List Operation) :
    applyAll p (operations ++ more) cfg = applyAll p more (applyAll p operations cfg) :=
  List.foldl_append

/-- The ids of the requests. -/
def arrivals (history : List Output) : List ℕ :=
  history.filterMap fun
    | .arrived id _ => some id
    | _ => none

lemma calls_append (history more : List Output) :
    calls (history ++ more) = calls history ++ calls more := List.filterMap_append

lemma operations_append (history more : List Output) :
    operations (history ++ more) = operations history ++ operations more := List.filterMap_append

lemma arrivals_append (history more : List Output) :
    arrivals (history ++ more) = arrivals history ++ arrivals more := List.filterMap_append

/-- The cookie of a request has resolved to a session that was live then, and not too old under the
configuration of that time. -/
def Resolved (p : Pydantic) (cfg : AppConfig) (history : List Output) (id : ℕ) (request : Request)
    (session : Session) : Prop :=
  ∃ before loaded now seen after,
    history = before ++
      .call id (.resolve request.cookie loaded now seen, .resolve (some session)) :: after ∧
    SignedIn (calls before) session ∧
    now - session.created ≤ ((applyAll p (operations before) cfg).auth.sessionTtlS : Time)

/-- What lets a request through to its endpoint: a password, a session, or a session with its
token. -/
inductive Cleared (p : Pydantic) (cfg : AppConfig) (history : List Output) (id : ℕ)
    (request : Request) : Prop
  | password {a payload activate session} (h : request.endpoint = .signin a payload activate)
    (hcall : .call id (.signIn a, .signIn (.ok session)) ∈ history)
  | session {session} (h : request.endpoint.guard = .session)
    (hresolved : Resolved p cfg history id request session)
  | csrf {session} (h : request.endpoint.guard = .csrf)
    (hresolved : Resolved p cfg history id request session)
    (htoken : checkCsrf session request.csrf = true)

/-- What a history has to say of an entry that is to follow it: an action is one of the endpoint of
a request that is let through, and links are only looked for after an activation has been started. -/
def Warranted (p : Pydantic) (cfg : AppConfig) (history : List Output) : Output → Prop
  | .act id action => ∃ request, .arrived id request ∈ history ∧ request.valid = true ∧
      Cleared p cfg history id request ∧ request.endpoint.Does action
  | .persisted _ => ∃ id, .act id .start ∈ history
  | _ => True

/-! ### What a handler does -/

/-- The state follows what a request puts out, and no request arrives or leaves. -/
structure Agrees (p : Pydantic) (s : Api) (out : List Output) (s' : Api) : Prop where
  rooted : ∀ history, s.manager.Rooted history → s'.manager.Rooted (history ++ calls out)
  config : s'.config = applyAll p (operations out) s.config
  arrivals : arrivals out = []
  requested : ∀ found, .persisted found ∉ out
  pending : s'.pending = s.pending
  next : s'.next = s.next
  started : s'.started = true → s.started = true ∨ ∃ id, .act id .start ∈ out

namespace Agrees

variable {s s' s'' : Api} {out out' : List Output}

lemma trans (h : Agrees p s out s') (h' : Agrees p s' out' s'') : Agrees p s (out ++ out') s'' where
  rooted history hm := by
    rw [calls_append, ← List.append_assoc]
    exact h'.rooted _ (h.rooted history hm)
  config := by
    rw [h'.config, h.config, operations_append, applyAll_append]
  arrivals := by rw [arrivals_append, h.arrivals, h'.arrivals, List.append_nil]
  requested found hmem :=
    (List.mem_append.1 hmem).elim (h.requested found) (h'.requested found)
  pending := h'.pending.trans h.pending
  next := h'.next.trans h.next
  started hs := by
    rcases h'.started hs with hs | ⟨id, hid⟩
    · rcases h.started hs with hs | ⟨id, hid⟩
      · exact .inl hs
      · exact .inr ⟨id, List.mem_append_left _ hid⟩
    · exact .inr ⟨id, List.mem_append_right _ hid⟩

lemma idle (s : Api) : Agrees p s [] s :=
  ⟨fun history h => by simpa [calls] using h, rfl, rfl, by simp, rfl, rfl, .inl⟩

lemma respond (s : Api) (id status : ℕ) : Agrees p s [.respond id status] s :=
  ⟨fun history h => by simpa [calls] using h, rfl, rfl, by simp, rfl, rfl, .inl⟩

/-- A call of the manager that leaves its section of the configuration alone. -/
lemma call {call : Call} {answer : Answer} {manager : AuthManager} (id : ℕ)
    (hstep : s.manager.step pkg call = ([(call, answer)], manager))
    (hauth : manager.auth = s.manager.auth) :
    Agrees p s [.call id (call, answer)] { s with manager } where
  rooted history h := by
    have hrooted : (s.manager.step pkg call).2.Rooted (history ++ (s.manager.step pkg call).1) :=
      h.step call
    rwa [hstep] at hrooted
  config := by
    change ({ s.cfg with auth := manager.auth } : AppConfig) = s.config
    rw [hauth]
    rfl
  arrivals := rfl
  requested := by simp
  pending := rfl
  next := rfl
  started := .inl

/-- A call of the manager that changes its section of the configuration, as an operation does. -/
lemma callAct {call : Call} {answer : Answer} {manager : AuthManager} {operation : Operation} (id : ℕ)
    (hstep : s.manager.step pkg call = ([(call, answer)], manager))
    (hcfg : ({ s.cfg with auth := manager.auth } : AppConfig) = apply p s.config operation) :
    Agrees p s [.call id (call, answer), .act id (.config operation)] { s with manager } where
  rooted history h := by
    have hrooted : (s.manager.step pkg call).2.Rooted (history ++ (s.manager.step pkg call).1) :=
      h.step call
    rwa [hstep] at hrooted
  config := hcfg
  arrivals := rfl
  requested := by simp
  pending := rfl
  next := rfl
  started := .inl

lemma perform (s : Api) (id : ℕ) (operation : Operation) :
    Agrees p s [.act id (.config operation)] (s.perform p operation) where
  rooted history h := by
    have hsessions : (s.perform p operation).manager.sessions = s.manager.sessions := rfl
    simpa [calls] using h.of_sessions hsessions
  config := rfl
  arrivals := rfl
  requested := by simp
  pending := rfl
  next := rfl
  started := .inl

/-- An operation whose request is then answered. -/
lemma performed (s : Api) (id status : ℕ) (operation : Operation) :
    Agrees p s [.act id (.config operation), .respond id status] (s.perform p operation) :=
  (perform s id operation).trans (respond _ id status)

lemma start (s : Api) (id : ℕ) : Agrees p s [.act id .start] { s with started := true } where
  rooted history h := by
    have hsessions : ({ s with started := true } : Api).manager.sessions = s.manager.sessions := rfl
    simpa [calls] using h.of_sessions hsessions
  config := rfl
  arrivals := rfl
  requested := by simp
  pending := rfl
  next := rfl
  started _ := .inr ⟨id, by simp⟩

lemma stop (s : Api) (id : ℕ) : Agrees p s [.act id .stop] s :=
  ⟨fun history h => by simpa [calls] using h, rfl, rfl, by simp, rfl, rfl, .inl⟩

end Agrees

lemma agrees_signin (s : Api) (id : ℕ) (a : Attempt) (payload : SignInRequest) (activate : Bool) :
    Agrees p s (s.signin pkg p id a payload activate).1 (s.signin pkg p id a payload activate).2 := by
  have hstep : s.manager.step pkg (.signIn a) =
      ([(.signIn a, .signIn (s.manager.signIn pkg a).1)], (s.manager.signIn pkg a).2) := rfl
  rcases AuthManager.signIn_auth pkg s.manager a with ⟨e, hresult, hauth⟩ | ⟨session, hresult, hauth⟩
  · rw [signin]
    simp only [hresult]
    rw [hresult] at hstep
    exact (Agrees.call id hstep hauth).trans (Agrees.respond _ id 401)
  · rw [signin]
    simp only [hresult]
    rw [hresult] at hstep
    have hopened : Agrees p s ([.call id (.signIn a, .signIn (.ok session))] ++
        if !s.manager.enrolled then [.act id (.config (.enrol a.username a.passwordHash))] else [])
        { s with manager := (s.manager.signIn pkg a).2 } := by
      cases henrolled : s.manager.enrolled with
      | true =>
        rw [henrolled] at hauth
        exact Agrees.call id hstep hauth
      | false =>
        refine Agrees.callAct id hstep ?_
        have hempty : s.config.auth.passwordHash = "" := by
          change s.manager.auth.passwordHash = ""
          simpa [AuthManager.enrolled] using henrolled
        rw [apply, if_pos hempty, hauth, henrolled]
        rfl
    split
    · exact hopened.trans ((Agrees.perform _ id _).trans
        ((Agrees.start _ id).trans (Agrees.respond _ id 200)))
    · exact hopened.trans (Agrees.performed _ id 200 _)

lemma agrees_changePassword (s : Api) (id : ℕ) (session : Session) (current password : String)
    (o : HandlerOutcomes) :
    Agrees p s (s.changePassword pkg id session current password o).1
      (s.changePassword pkg id session current password o).2 := by
  have hstep : ∀ result,
      (s.manager.changePassword pkg session current password o.passwordHash o.saved).1 = result →
      s.manager.step pkg (.changePassword session current password o.passwordHash o.saved) =
        ([(.changePassword session current password o.passwordHash o.saved,
            .changePassword result)],
          (s.manager.changePassword pkg session current password o.passwordHash o.saved).2) := by
    rintro _ rfl
    rfl
  rw [changePassword]
  rcases AuthManager.changePassword_auth pkg s.manager session current password o.passwordHash
    o.saved with ⟨hresult | hresult, hauth⟩ | ⟨hresult | ⟨exc, hresult⟩, hauth⟩
  · simp only [hresult]
    exact (Agrees.call id (hstep _ hresult) hauth).trans (Agrees.respond _ id 400)
  · simp only [hresult]
    exact (Agrees.call id (hstep _ hresult) hauth).trans (Agrees.respond _ id 400)
  · simp only [hresult]
    exact (Agrees.callAct id (hstep _ hresult) (by rw [hauth]; rfl)).trans
      (Agrees.respond _ id 200)
  · simp only [hresult]
    exact (Agrees.callAct id (hstep _ hresult) (by rw [hauth]; rfl)).trans
      (Agrees.respond _ id 500)

lemma agrees_handler (s : Api) (id : ℕ) (session : Option Session) (o : HandlerOutcomes)
    (endpoint : Endpoint) :
    Agrees p s (s.handler pkg p id session o endpoint).1 (s.handler pkg p id session o endpoint).2 := by
  cases endpoint with
  | signin a payload activate => exact agrees_signin s id a payload activate
  | signout =>
    have hstep : s.manager.step pkg (.signOut session) =
        ([(.signOut session, .signOut)], s.manager.signOut session) := rfl
    have hauth : (s.manager.signOut session).auth = s.manager.auth := by cases session <;> rfl
    exact (Agrees.call id hstep hauth).trans (Agrees.respond _ id 200)
  | changePassword current password =>
    cases session with
    | some session => exact agrees_changePassword s id session current password o
    | none => exact Agrees.idle s
  | activate => exact (Agrees.start s id).trans (Agrees.respond _ id 200)
  | deactivate => exact (Agrees.stop s id).trans (Agrees.respond _ id 200)
  | selectRoute route =>
    cases hselected : o.selected with
    | none =>
      simp only [handler, hselected]
      exact Agrees.respond s id 409
    | some ok =>
      simp only [handler, hselected]
      exact Agrees.performed s id _ _
  | setDeviceRoute device route => exact Agrees.performed s id _ _
  | patchConfig values =>
    rw [handler]
    split
    · exact Agrees.respond s id 400
    · exact Agrees.performed s id _ _
  | downloadConcentrator => exact Agrees.performed s id _ _
  | _ => exact Agrees.respond s id 200

/-- A sign-in acts once the password has been accepted. -/
lemma act_of_signin {s : Api} {id id' : ℕ} {a : Attempt} {payload : SignInRequest} {activate : Bool}
    {action : Action} (h : .act id' action ∈ (s.signin pkg p id a payload activate).1) :
    id' = id ∧ (Endpoint.signin a payload activate).Does action ∧ ∃ session rest,
      (s.signin pkg p id a payload activate).1 = .call id (.signIn a, .signIn (.ok session)) :: rest := by
  rw [signin] at h ⊢
  rcases AuthManager.signIn_auth pkg s.manager a with ⟨e, hresult, -⟩ | ⟨session, hresult, -⟩
  · simp [hresult] at h
  · simp only [hresult] at h ⊢
    have henrol : ∀ b : Bool, Output.act id' action ∈
        (if b then [Output.act id (.config (.enrol a.username a.passwordHash))] else []) →
        id' = id ∧ (Endpoint.signin a payload activate).Does action := by
      intro b hb
      cases b with
      | false => exact absurd hb (by simp)
      | true =>
        obtain ⟨rfl, rfl⟩ := Output.act.inj (List.mem_singleton.1 hb)
        exact ⟨rfl, .enrol⟩
    split at h
    · rename_i hstart
      rw [if_pos hstart]
      obtain rfl : activate = true := (Bool.and_eq_true _ _ ▸ hstart).1
      simp only [List.mem_append, List.mem_cons, List.not_mem_nil, or_false, reduceCtorEq,
        Output.act.injEq, false_or] at h
      rcases h with h | ⟨rfl, rfl⟩ | ⟨rfl, rfl⟩
      · exact ⟨(henrol _ h).1, (henrol _ h).2, session, _, rfl⟩
      · exact ⟨rfl, .signin, session, _, rfl⟩
      · exact ⟨rfl, .signinStart, session, _, rfl⟩
    · rename_i hstart
      rw [if_neg hstart]
      simp only [List.mem_append, List.mem_cons, List.not_mem_nil, or_false, reduceCtorEq,
        Output.act.injEq, false_or] at h
      rcases h with h | ⟨rfl, rfl⟩
      · exact ⟨(henrol _ h).1, (henrol _ h).2, session, _, rfl⟩
      · exact ⟨rfl, .signin, session, _, rfl⟩

lemma act_of_changePassword {s : Api} {id id' : ℕ} {session : Session} {current password : String}
    {o : HandlerOutcomes} {action : Action}
    (h : .act id' action ∈ (s.changePassword pkg id session current password o).1) :
    id' = id ∧ (Endpoint.changePassword current password).Does action := by
  rw [changePassword] at h
  simp only [] at h
  split at h
  · simp only [List.mem_cons, List.not_mem_nil, or_false, reduceCtorEq, Output.act.injEq,
      false_or] at h
    obtain ⟨rfl, rfl⟩ := h
    exact ⟨rfl, .changePassword⟩
  · simp only [List.mem_cons, List.not_mem_nil, or_false, reduceCtorEq, Output.act.injEq,
      false_or] at h
    obtain ⟨rfl, rfl⟩ := h
    exact ⟨rfl, .changePassword⟩
  · simp at h

/-- A handler does what its endpoint is for. -/
lemma act_of_handler {s : Api} {id id' : ℕ} {session : Option Session} {o : HandlerOutcomes}
    {endpoint : Endpoint} {action : Action}
    (h : .act id' action ∈ (s.handler pkg p id session o endpoint).1) :
    id' = id ∧ endpoint.Does action := by
  cases endpoint with
  | signin a payload activate => exact ⟨(act_of_signin h).1, (act_of_signin h).2.1⟩
  | changePassword current password =>
    cases session with
    | some session => exact act_of_changePassword h
    | none => exact absurd h (by simp [handler])
  | selectRoute route =>
    rw [handler] at h
    split at h
    · simp at h
    · obtain ⟨rfl, rfl⟩ : id' = id ∧ action = .config (.selectRoute route) := by simpa using h
      exact ⟨rfl, .selectRoute⟩
  | patchConfig values =>
    rw [handler] at h
    split at h
    · simp at h
    · obtain ⟨rfl, rfl⟩ : id' = id ∧ action = .config (.patch values) := by simpa using h
      exact ⟨rfl, .patchConfig⟩
  | activate =>
    obtain ⟨rfl, rfl⟩ : id' = id ∧ action = .start := by simpa [handler] using h
    exact ⟨rfl, .activate⟩
  | deactivate =>
    obtain ⟨rfl, rfl⟩ : id' = id ∧ action = .stop := by simpa [handler] using h
    exact ⟨rfl, .deactivate⟩
  | setDeviceRoute device route =>
    obtain ⟨rfl, rfl⟩ : id' = id ∧ action = .config (.setDeviceRoute device route) := by
      simpa [handler] using h
    exact ⟨rfl, .setDeviceRoute⟩
  | downloadConcentrator =>
    obtain ⟨rfl, rfl⟩ : id' = id ∧ action = .config (.ensurePsk o.key) := by
      simpa [handler] using h
    exact ⟨rfl, .downloadConcentrator⟩
  | _ => exact absurd h (by simp [handler])

/-! ### Runs -/

section

variable {cfg : AppConfig} {s s' : Api} {history out : List Output} {id : ℕ} {request : Request}
  {session : Session} {held : Option Session}

lemma Resolved.mono (h : Resolved p cfg history id request session) (more : List Output) :
    Resolved p cfg (history ++ more) id request session := by
  obtain ⟨before, loaded, now, seen, after, rfl, hlive, hage⟩ := h
  exact ⟨before, loaded, now, seen, after ++ more, by simp, hlive, hage⟩

lemma Cleared.mono (h : Cleared p cfg history id request) (more : List Output) :
    Cleared p cfg (history ++ more) id request := by
  cases h with
  | password h hcall => exact .password h (List.mem_append_left _ hcall)
  | session h hresolved => exact .session h (hresolved.mono more)
  | csrf h hresolved htoken => exact .csrf h (hresolved.mono more) htoken

/-- A request that is on its way has arrived, and a guard that has run has let it through. -/
structure OnItsWay (p : Pydantic) (cfg : AppConfig) (history : List Output) (id : ℕ)
    (pending : Pending) : Prop where
  arrived : .arrived id pending.request ∈ history
  resolved : pending.request.endpoint.guard ≠ .anyone → ∃ session,
    pending.session = some session ∧ Resolved p cfg history id pending.request session ∧
      (pending.request.endpoint.guard = .csrf → pending.unchecked = false →
        checkCsrf session pending.request.csrf = true)

lemma OnItsWay.mono {pending : Pending} (h : OnItsWay p cfg history id pending)
    (more : List Output) : OnItsWay p cfg (history ++ more) id pending where
  arrived := List.mem_append_left _ h.arrived
  resolved hguard := by
    obtain ⟨session, hsession, hresolved, htoken⟩ := h.resolved hguard
    exact ⟨session, hsession, hresolved.mono more, htoken⟩

lemma OnItsWay.cleared {pending : Pending} (h : OnItsWay p cfg history id pending)
    (hguard : pending.request.endpoint.guard ≠ .anyone) (hchecked : pending.unchecked = false) :
    Cleared p cfg history id pending.request := by
  obtain ⟨session, -, hresolved, htoken⟩ := h.resolved hguard
  cases hg : pending.request.endpoint.guard with
  | anyone => exact absurd hg hguard
  | session => exact .session hg hresolved
  | csrf => exact .csrf hg hresolved (htoken hg hchecked)

/-- Of the endpoints that depend on nothing, one does something. -/
lemma Endpoint.Does.signin_of_anyone {endpoint : Endpoint} {action : Action}
    (h : endpoint.Does action) (hguard : endpoint.guard = .anyone) :
    ∃ a payload activate, endpoint = .signin a payload activate := by
  cases h with
  | enrol => exact ⟨_, _, _, rfl⟩
  | signin => exact ⟨_, _, _, rfl⟩
  | signinStart => exact ⟨_, _, _, rfl⟩
  | _ => exact absurd hguard (by simp [Endpoint.guard])

/-- What a handler puts out is warranted by the request and what it has put out before. -/
lemma OnItsWay.warranted_handler (h : OnItsWay p cfg history id ⟨request, held, false⟩)
    (hvalid : request.valid = true) {o : HandlerOutcomes} {before after : List Output} {entry : Output}
    (heq : (s.handler pkg p id held o request.endpoint).1 = before ++ entry :: after) :
    Warranted p cfg (history ++ before) entry := by
  have hmem : entry ∈ (s.handler pkg p id held o request.endpoint).1 := by
    rw [heq]
    exact List.mem_append_right _ List.mem_cons_self
  cases entry with
  | act id' action =>
    obtain ⟨rfl, hdoes⟩ := act_of_handler hmem
    refine ⟨request, List.mem_append_left _ h.arrived, hvalid, ?_, hdoes⟩
    by_cases hguard : request.endpoint.guard = .anyone
    · obtain ⟨a, payload, activate, hsignin⟩ := hdoes.signin_of_anyone hguard
      rw [hsignin] at heq hmem
      obtain ⟨-, -, session, rest, hcall⟩ := act_of_signin hmem
      -- the call of the manager is put out before the action
      obtain ⟨first, rfl⟩ : ∃ first, before = .call id' (.signIn a, .signIn (.ok session)) :: first := by
        have hhead := hcall.symm.trans heq
        cases before with
        | nil => exact absurd (List.cons.inj hhead).1 (by simp)
        | cons first rest => exact ⟨rest, by rw [(List.cons.inj hhead).1]⟩
      exact .password hsignin (List.mem_append_right _ List.mem_cons_self)
    · exact (h.cleared hguard rfl).mono before
  | persisted found =>
    exact absurd hmem ((agrees_handler s id held o request.endpoint).requested found)
  | _ => trivial

/-- What holds after any events. -/
structure Inv (p : Pydantic) (cfg : AppConfig) (s : Api) (history : List Output) : Prop where
  rooted : s.manager.Rooted (calls history)
  config : s.config = applyAll p (operations history) cfg
  arrivals : arrivals history = List.range s.next
  pending : ∀ id pending, s.pending.get? id = some pending → OnItsWay p cfg history id pending
  started : s.started = true → ∃ id, .act id .start ∈ history
  audited : Machine.Audited (Warranted p cfg) history

namespace Inv

/-- A step whose outputs are warranted. -/
lemma agree (h : Inv p cfg s history) (ha : Agrees p s out s')
    (hout : ∀ before entry after, out = before ++ entry :: after →
      Warranted p cfg (history ++ before) entry) : Inv p cfg s' (history ++ out) where
  rooted := by
    rw [calls_append]
    exact ha.rooted _ h.rooted
  config := by
    rw [ha.config, h.config, operations_append, applyAll_append]
  arrivals := by rw [arrivals_append, ha.arrivals, List.append_nil, h.arrivals, ha.next]
  pending id pending hget := (h.pending id pending (by rwa [ha.pending] at hget)).mono out
  started hs := by
    rcases ha.started hs with hs | ⟨id, hid⟩
    · obtain ⟨id, hid⟩ := h.started hs
      exact ⟨id, List.mem_append_left _ hid⟩
    · exact ⟨id, List.mem_append_right _ hid⟩
  audited := h.audited.append hout

/-- A request is answered without more ado. -/
lemma respond (h : Inv p cfg s history) (id status : ℕ) :
    Inv p cfg s (history ++ [.respond id status]) := by
  refine h.agree (Agrees.respond s id status) fun before entry after heq => ?_
  obtain ⟨-, rfl, -⟩ : before = [] ∧ entry = .respond id status ∧ after = [] := by
    cases before with
    | nil => simpa [eq_comm] using heq
    | cons first rest => simp at heq
  trivial

/-- A request is no longer on its way. -/
lemma erase (h : Inv p cfg s history) (id : ℕ) :
    Inv p cfg { s with pending := s.pending.erase id } history where
  rooted := h.rooted
  config := h.config
  arrivals := h.arrivals
  pending id' pending hget := h.pending id' pending (Dict.of_get?_erase hget).2
  started := h.started
  audited := h.audited

/-- A request goes on its way, or a further guard has let it through. -/
lemma set (h : Inv p cfg s history) {pending : Pending} (hway : OnItsWay p cfg history id pending) :
    Inv p cfg { s with pending := s.pending.set id pending } history where
  rooted := h.rooted
  config := h.config
  arrivals := h.arrivals
  pending id' pending' hget := by
    obtain ⟨rfl, rfl⟩ | ⟨-, hget⟩ := Dict.of_get?_set hget
    · exact hway
    · exact h.pending id' pending' hget
  started := h.started
  audited := h.audited

lemma check (h : Inv p cfg s history) (id : ℕ) :
    Inv p cfg (s.check id).2 (history ++ (s.check id).1) := by
  rw [Api.check]
  split
  · rename_i request session hget
    have hway := h.pending id _ hget
    split
    · rename_i htoken
      rw [List.append_nil]
      refine h.set ⟨hway.arrived, fun hguard => ?_⟩
      obtain ⟨session', hsession, hresolved, -⟩ := hway.resolved hguard
      obtain rfl := Option.some.inj hsession
      exact ⟨session, rfl, hresolved, fun _ _ => htoken⟩
    · exact (h.erase id).respond id 403
  · simpa using h

lemma handle (h : Inv p cfg s history) (id : ℕ) (o : HandlerOutcomes) :
    Inv p cfg (s.handle pkg p id o).2 (history ++ (s.handle pkg p id o).1) := by
  rw [Api.handle]
  split
  · rename_i request session hget
    have hway := h.pending id _ hget
    simp only []
    split
    · rename_i hvalid
      exact (h.erase id).agree (agrees_handler _ id session o request.endpoint)
        fun before entry after heq => hway.warranted_handler hvalid heq
    · exact (h.erase id).respond id 422
  · simpa using h

lemma discovered (h : Inv p cfg s history) (found : List (Link ℚ)) (hs : s.started = true) :
    Inv p cfg (s.perform p (.persistLinks found)) (history ++ [.persisted found]) where
  rooted := by
    have hsessions : (s.perform p (.persistLinks found)).manager.sessions = s.manager.sessions := rfl
    rw [calls_append]
    simpa [calls] using h.rooted.of_sessions hsessions
  config := by
    rw [operations_append, applyAll_append, ← h.config]
    rfl
  arrivals := by
    rw [arrivals_append, h.arrivals]
    exact List.append_nil _
  pending id pending hget := (h.pending id pending hget).mono _
  started hs := by
    obtain ⟨id, hid⟩ := h.started hs
    exact ⟨id, List.mem_append_left _ hid⟩
  audited := by
    refine h.audited.append fun before entry after heq => ?_
    obtain ⟨rfl, rfl, -⟩ : before = [] ∧ entry = .persisted found ∧ after = [] := by
      cases before with
      | nil => simpa [eq_comm] using heq
      | cons first rest => simp at heq
    rw [List.append_nil]
    exact h.started hs

/-- A request has arrived, and its cookie has been resolved if its endpoint depends on that. -/
lemma arrived (h : Inv p cfg s history) (request : Request) (resolution : List (Call × Answer))
    {manager : AuthManager} (hrooted : manager.Rooted (calls history ++ resolution))
    (hauth : manager.auth = s.manager.auth) :
    Inv p cfg { s with next := s.next + 1, manager }
      (history ++ .arrived s.next request :: resolution.map (.call s.next)) := by
  have hcalls : calls (.arrived s.next request :: resolution.map (.call s.next)) = resolution := by
    simp [calls, List.filterMap_map]
  have hoperations : operations (.arrived s.next request :: resolution.map (.call s.next)) = [] := by
    simp [operations, List.filterMap_map]
  have harrivals : Api.arrivals (.arrived s.next request :: resolution.map (.call s.next)) =
      [s.next] := by
    simp [Api.arrivals, List.filterMap_map]
  refine ⟨?_, ?_, ?_, fun id pending hget => (h.pending id pending hget).mono _, fun hs => ?_, ?_⟩
  · rwa [calls_append, hcalls]
  · rw [operations_append, hoperations, List.append_nil, ← h.config]
    change ({ s.cfg with auth := manager.auth } : AppConfig) = s.config
    rw [hauth]
    rfl
  · rw [arrivals_append, harrivals, h.arrivals]
    exact List.range_succ.symm
  · obtain ⟨id, hid⟩ := h.started hs
    exact ⟨id, List.mem_append_left _ hid⟩
  · refine h.audited.append fun before entry after heq => ?_
    have hmem : entry ∈ Output.arrived s.next request :: resolution.map (.call s.next) := by
      rw [heq]
      exact List.mem_append_right _ List.mem_cons_self
    rcases List.mem_cons.1 hmem with rfl | hmem
    · trivial
    · obtain ⟨call, -, rfl⟩ := List.mem_map.1 hmem
      trivial

/-- What `resolve` has made of a cookie. -/
lemma resolved (h : Inv p cfg s history) (id : ℕ) {loaded now seen : Time}
    (hsome : (s.manager.resolve pkg request.cookie loaded now seen).1 = some session) :
    Resolved p cfg (history ++ [.arrived id request,
      .call id (.resolve request.cookie loaded now seen, .resolve (some session))]) id request
      session := by
  obtain ⟨sid, session', hget, rfl, hage⟩ := AuthManager.resolve_eq_some hsome
  obtain ⟨rfl, before, a, opened, after, hhistory, hopened, hcreated, hafter⟩ :=
    h.rooted sid session' hget
  refine ⟨history ++ [.arrived id request], loaded, now, seen, [], by simp, ?_, ?_⟩
  · refine ⟨before, a, opened, after, ?_, ?_, hcreated, hafter⟩
    · rw [calls_append, hhistory]
      exact List.append_nil _
    · rw [hopened]
  · have httl : (applyAll p (operations (history ++ [.arrived id request])) cfg).auth =
        s.manager.auth := by
      rw [operations_append]
      change (applyAll p (operations history ++ []) cfg).auth = _
      rw [List.append_nil, ← h.config]
      rfl
    rw [httl]
    exact hage

lemma arrive (h : Inv p cfg s history) (request : Request) (loaded now seen : Time) :
    Inv p cfg (s.arrive pkg request loaded now seen).2
      (history ++ (s.arrive pkg request loaded now seen).1) := by
  have hrooted : (s.manager.resolve pkg request.cookie loaded now seen).2.Rooted (calls history ++
      [(.resolve request.cookie loaded now seen,
        .resolve (s.manager.resolve pkg request.cookie loaded now seen).1)]) :=
    h.rooted.step (.resolve request.cookie loaded now seen)
  have harrived := h.arrived request _ hrooted (AuthManager.resolve_auth pkg s.manager ..)
  -- the request goes on its way with the session of its cookie
  have hset : ∀ session unchecked,
      (s.manager.resolve pkg request.cookie loaded now seen).1 = some session →
      (request.endpoint.guard = .csrf → unchecked = true) →
      OnItsWay p cfg (history ++ [.arrived s.next request, .call s.next
        (.resolve request.cookie loaded now seen, .resolve (some session))]) s.next
        ⟨request, some session, unchecked⟩ := by
    intro session unchecked hsome hunchecked
    refine ⟨by simp, fun _ => ⟨session, rfl, h.resolved s.next hsome, fun hcsrf hchecked => ?_⟩⟩
    exact absurd ((hunchecked hcsrf).symm.trans hchecked) (by simp)
  rw [Api.arrive]
  cases hguard : request.endpoint.guard with
  | anyone =>
    have hplain := h.arrived request [] (by simpa using h.rooted) rfl
    exact hplain.set ⟨by simp, fun hne => absurd hguard hne⟩
  | session =>
    cases hr : (s.manager.resolve pkg request.cookie loaded now seen).1 with
    | none =>
      rw [hr] at harrived
      simpa [hguard, hr] using harrived.respond s.next 401
    | some session =>
      rw [hr] at harrived
      simpa [hguard, hr] using harrived.set (hset session false hr (by simp [hguard]))
  | csrf =>
    cases hr : (s.manager.resolve pkg request.cookie loaded now seen).1 with
    | none =>
      rw [hr] at harrived
      simpa [hguard, hr] using harrived.respond s.next 401
    | some session =>
      rw [hr] at harrived
      simpa [hguard, hr] using harrived.set (hset session true hr fun _ => rfl)

lemma step (h : Inv p cfg s history) (e : Event) :
    Inv p cfg (s.step pkg p e).2 (history ++ (s.step pkg p e).1) := by
  cases e with
  | arrive request loaded now seen => exact h.arrive request loaded now seen
  | check id => exact h.check id
  | handle id o => exact h.handle id o
  | discovered found =>
    rw [Api.step]
    split
    · rename_i hs
      exact h.discovered found hs
    · simpa using h

end Inv

lemma inv_create (cfg : AppConfig) (fresh : String) :
    Inv p (create cfg fresh).config (create cfg fresh) [] where
  rooted _ _ hget := absurd hget (by simp [create, AuthManager.new])
  config := rfl
  arrivals := rfl
  pending _ _ hget := absurd hget (by simp [create])
  started hs := absurd hs (by simp [create])
  audited := Machine.audited_nil

lemma inv_run (pkg : Packages) (p : Pydantic) (cfg : AppConfig) (fresh : String)
    (events : List Event) :
    Inv p (create cfg fresh).config ((create cfg fresh).run pkg p events).2
      ((create cfg fresh).run pkg p events).1 :=
  Machine.run_invariant_nil (step pkg p) (fun _ _ e h => h.step e) events (inv_create cfg fresh)

end

/-- **The guards.**  Whatever requests come, and however they overtake each other: the configuration is
what the actions of the requests and the links that were found have made of it, no two requests share
an id, every action is one that the endpoint of its request is for, and the request has been let
through: by a password, or by a session that was live when its cookie was resolved, with the token of
that session where `GuardedDep` is asked for.  Links are persisted only once an activation has been
started. -/
theorem authorised_run (pkg : Packages) (p : Pydantic) (cfg : AppConfig) (fresh : String)
    (events : List Event) :
    let start := (create cfg fresh).config
    let history := ((create cfg fresh).run pkg p events).1
    let s := ((create cfg fresh).run pkg p events).2
    s.config = applyAll p (operations history) start ∧ (arrivals history).Nodup ∧
      Machine.Audited (Warranted p start) history := by
  intro start history s
  have h : Inv p start s history := inv_run pkg p cfg fresh events
  refine ⟨h.config, ?_, h.audited⟩
  rw [h.arrivals]
  exact List.nodup_range

/-- A sign-in; then a request to activate that a sign-out overtakes once its cookie is resolved, one
without the token of the session, and one that comes after the sign-out. -/
def overtaken : List Event :=
  let a : Attempt :=
    { username := "admin", password := "password", remote := "192.168.1.7", checked := 1, verified := 1,
      recorded := 1, sid := "s", created := 1, lastSeen := 1, csrf := "c",
      passwordHash := "$argon2id$password" }
  let activate : Request := { endpoint := .activate, cookie := some "s", csrf := some "c" }
  [.arrive { endpoint := .signin a {} false } 0 0 0, .handle 0 {},
    .arrive activate 2 2 2, .arrive { activate with csrf := none } 2 2 2,
    .arrive { endpoint := .signout, cookie := some "s" } 2 2 2, .handle 3 {},
    .check 2, .handle 2 {}, .check 1, .handle 1 {}, .arrive activate 3 3 3]

/-- The answers, in order. -/
example : (((create {} "").run AuthManager.readable strict overtaken).1.filterMap fun
    | .respond id status => some (id, status)
    | _ => none) = [(0, 200), (3, 200), (2, 403), (1, 200), (4, 401)] := by decide +kernel

end Api

end Turbobond.App
