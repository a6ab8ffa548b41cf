import Turbobond.App.Lockout

/-!
# Revoked sessions

A session that is in the table has been opened by a sign-in, and nothing since then has revoked
it.
-/

namespace Turbobond.App

/-- An entry of the history that ends the session with an id: it is signed out, all are, or
another session has completed a change of the password. -/
inductive Revokes (sid : String) : Call × Answer → Prop
  | signOut {session : Session} {answer : Answer} (h : session.sid = sid) :
    Revokes sid (.signOut (some session), answer)
  | signOutAll {answer : Answer} : Revokes sid (.signOutAll, answer)
  | changePassword {session : Session} {current password passwordHash : String}
      {saved : Except String Unit} (h : session.sid ≠ sid) :
    Revokes sid (.changePassword session current password passwordHash saved,
      .changePassword (.ok ()))

lemma Revokes.of_changePassword {sid : String} {session : Session}
    {current password passwordHash : String} {saved : Except String Unit}
    {result : Except AuthError Unit}
    (h : Revokes sid (.changePassword session current password passwordHash saved,
      .changePassword result)) : result = .ok () ∧ session.sid ≠ sid := by
  cases h with
  | changePassword hne => exact ⟨rfl, hne⟩

namespace AuthManager

variable {pkg : Packages} {m : AuthManager}

/-- Every session is stored under its own id. -/
def Keyed (m : AuthManager) : Prop :=
  ∀ sid session, m.sessions.get? sid = some session → session.sid = sid

/-- A session after a call was there before it, but for the time it was last seen, and the call
has not revoked it, or it is the one that the call has opened. -/
def Descends (m : AuthManager) (entry : Call × Answer) (sid : String) (session : Session) : Prop :=
  (∃ session', m.sessions.get? sid = some session' ∧
    session = { session' with lastSeen := session.lastSeen } ∧ ¬ Revokes sid entry) ∨
  ∃ a, entry = (.signIn a, .signIn (.ok session)) ∧ session.sid = sid ∧ session.created = a.created

/-- What `sign_in` does to the table of sessions. -/
lemma signIn_sessions (pkg : Packages) (m : AuthManager) (a : Attempt) :
    (m.signIn pkg a).2.sessions = m.sessions ∨
    ∃ session, (m.signIn pkg a).1 = .ok session ∧ session.sid = a.sid ∧
      session.created = a.created ∧
      (m.signIn pkg a).2.sessions = m.sessions.set a.sid session := by
  rw [signIn]
  simp only [lockedOut_snd]
  by_cases hlocked : 0 < (m.lockedOut a.key a.checked).1
  · rw [if_pos hlocked]
    exact .inl rfl
  rw [if_neg hlocked]
  by_cases hempty : a.password = ""
  · rw [if_pos hempty]
    exact .inl rfl
  rw [if_neg hempty]
  split
  · by_cases hshort : a.password.length < 8
    · rw [enrol, if_pos hshort]
      exact .inl rfl
    · rw [enrol, if_neg hshort]
      exact .inr ⟨_, rfl, rfl, rfl, rfl⟩
  · split
    · exact .inl rfl
    · exact .inr ⟨_, rfl, rfl, rfl, rfl⟩

/-- `resolve` drops a session or marks it as seen. -/
lemma Keyed.resolve_sessions (h : m.Keyed) (pkg : Packages) (token : Option String)
    (loaded now seen : Time) {sid : String} {session : Session}
    (hget : (m.resolve pkg token loaded now seen).2.sessions.get? sid = some session) :
    ∃ session', m.sessions.get? sid = some session' ∧
      session = { session' with lastSeen := session.lastSeen } := by
  rw [resolve] at hget
  split at hget
  · exact ⟨session, hget, rfl⟩
  · split at hget
    · split at hget
      · exact ⟨session, hget, rfl⟩
      · rename_i token' _ data _ found hfound
        split at hget
        · exact ⟨session, (Dict.of_get?_erase hget).2, rfl⟩
        · obtain ⟨rfl, rfl⟩ | ⟨-, hget⟩ := Dict.of_get?_set hget
          · exact ⟨found, by rw [h _ _ hfound]; exact hfound, rfl⟩
          · exact ⟨session, hget, rfl⟩
    · exact ⟨session, hget, rfl⟩

/-- `change_password` keeps its own session and, where it is not completed, the others. -/
lemma Keyed.changePassword_sessions (h : m.Keyed) (pkg : Packages) (session' : Session)
    (current password passwordHash : String) (saved : Except String Unit) {sid : String}
    {session : Session}
    (hget : (m.changePassword pkg session' current password passwordHash saved).2.sessions.get? sid =
      some session) :
    m.sessions.get? sid = some session ∧
      ((m.changePassword pkg session' current password passwordHash saved).1 = .ok () →
        session'.sid = sid) := by
  rw [changePassword] at hget ⊢
  split
  · rename_i hwrong
    rw [if_pos hwrong] at hget
    exact ⟨hget, fun hok => absurd hok (by simp)⟩
  · rename_i hright
    rw [if_neg hright] at hget
    split
    · rename_i hshort
      rw [if_pos hshort] at hget
      exact ⟨hget, fun hok => absurd hok (by simp)⟩
    · rename_i hlong
      rw [if_neg hlong] at hget
      cases saved with
      | error exc => exact ⟨hget, fun hok => absurd hok (by simp)⟩
      | ok _ =>
        simp only [] at hget ⊢
        cases hkeep : m.sessions.get? session'.sid with
        | none => simp [hkeep] at hget
        | some keep =>
          simp only [hkeep] at hget
          obtain ⟨rfl, rfl⟩ | ⟨-, hget⟩ := Dict.of_get?_set hget
          · have hsid := h _ _ hkeep
            exact ⟨by rw [hsid]; exact hkeep, fun _ => hsid.symm⟩
          · exact absurd hget (by simp)

lemma Keyed.descends (h : m.Keyed) (call : Call) {sid : String} {session : Session}
    (hget : (m.step pkg call).2.sessions.get? sid = some session) :
    session.sid = sid ∧ ∃ answer, (m.step pkg call).1 = [(call, answer)] ∧
      m.Descends (call, answer) sid session := by
  -- a call that leaves the table alone, and revokes nothing
  have hsame : ∀ answer, (m.step pkg call).1 = [(call, answer)] →
      m.sessions.get? sid = some session → ¬ Revokes sid (call, answer) →
      session.sid = sid ∧ ∃ answer, (m.step pkg call).1 = [(call, answer)] ∧
        m.Descends (call, answer) sid session := fun answer hout hm hnot =>
    ⟨h sid session hm, answer, hout, .inl ⟨session, hm, rfl, hnot⟩⟩
  cases call with
  | signIn a =>
    obtain hs | ⟨opened, hres, hsid, hcreated, hs⟩ := signIn_sessions pkg m a
    · exact hsame _ rfl (by rw [← hs]; exact hget) (by rintro ⟨⟩)
    · have hget' : (m.sessions.set a.sid opened).get? sid = some session := by
        rw [← hs]
        exact hget
      obtain ⟨rfl, rfl⟩ | ⟨-, hget'⟩ := Dict.of_get?_set hget'
      · refine ⟨hsid, .signIn (.ok session), ?_, .inr ⟨a, rfl, hsid, hcreated⟩⟩
        simp only [step, hres]
      · exact hsame _ rfl hget' (by rintro ⟨⟩)
  | resolve token loaded now seen =>
    obtain ⟨session', hget', heq⟩ := h.resolve_sessions pkg token loaded now seen hget
    refine ⟨?_, _, rfl, .inl ⟨session', hget', heq, by rintro ⟨⟩⟩⟩
    rw [heq]
    exact h sid session' hget'
  | signOut session' =>
    cases session' with
    | none => exact hsame _ rfl hget (by rintro ⟨⟩)
    | some session' =>
      obtain ⟨hne, hget'⟩ := Dict.of_get?_erase hget
      exact hsame _ rfl hget' (by rintro ⟨hsid⟩; exact hne hsid.symm)
  | signOutAll => exact absurd hget (by simp [step, signOutAll])
  | changePassword session' current password passwordHash saved =>
    obtain ⟨hget', hok⟩ := h.changePassword_sessions pkg session' current password passwordHash saved
      hget
    refine hsame _ rfl hget' fun hrev => ?_
    obtain ⟨hres, hne⟩ := hrev.of_changePassword
    exact hne (hok hres)
  | configure auth => exact hsame _ rfl hget (by rintro ⟨⟩)

/-- Each session in the table goes back to a sign-in, and nothing has revoked it since. -/
def Rooted (m : AuthManager) (history : List (Call × Answer)) : Prop :=
  ∀ sid session, m.sessions.get? sid = some session →
    session.sid = sid ∧ ∃ before a opened after,
      history = before ++ (.signIn a, .signIn (.ok opened)) :: after ∧
      session = { opened with lastSeen := session.lastSeen } ∧ opened.created = a.created ∧
      ∀ entry ∈ after, ¬ Revokes sid entry

lemma Rooted.step {history : List (Call × Answer)} (h : m.Rooted history) (call : Call) :
    (m.step pkg call).2.Rooted (history ++ (m.step pkg call).1) := by
  intro sid session hget
  have hkeyed : m.Keyed := fun sid session hget => (h sid session hget).1
  obtain ⟨hsid, answer, hout, ⟨session', hget', heq, hnot⟩ | ⟨a, hentry, -, hcreated⟩⟩ :=
    hkeyed.descends call hget
  · -- the session was there: the call is one more entry that has not revoked it
    obtain ⟨-, before, a, opened, after, rfl, heq', hcreated, hafter⟩ := h sid session' hget'
    refine ⟨hsid, before, a, opened, after ++ [(call, answer)], ?_, ?_, hcreated, ?_⟩
    · rw [hout, List.append_assoc, List.cons_append]
    · rw [heq, heq']
    · intro entry hentry
      rcases List.mem_append.1 hentry with hentry | hentry
      · exact hafter entry hentry
      · rwa [List.mem_singleton.1 hentry]
  · -- the call has opened it
    refine ⟨hsid, history, a, session, [], ?_, rfl, hcreated, by simp⟩
    rw [hout, hentry]

lemma rooted_run (pkg : Packages) (auth : Config.AuthConfig) (fresh : String) (calls : List Call) :
    ((new auth fresh).run pkg calls).2.Rooted ((new auth fresh).run pkg calls).1 := by
  induction calls using List.reverseRecOn with
  | nil => exact fun sid session hget => absurd hget (by simp [run, new])
  | append_singleton calls call ih =>
    rw [run_concat]
    exact ih.step call

/-- All that `resolve` says of a session it returns. -/
lemma resolve_eq_some {token : Option String} {loaded now seen : Time} {session : Session}
    (h : (m.resolve pkg token loaded now seen).1 = some session) :
    ∃ sid session', m.sessions.get? sid = some session' ∧
      session = { session' with lastSeen := seen } ∧
      now - session'.created ≤ (m.auth.sessionTtlS : Time) := by
  rw [resolve] at h
  split at h
  · exact absurd h (by simp)
  · split at h
    · split at h
      · exact absurd h (by simp)
      · rename_i session' hget
        split at h
        · exact absurd h (by simp)
        · rename_i hage
          exact ⟨_, session', hget, (Option.some.inj h).symm, not_lt.1 hage⟩
    · exact absurd h (by simp)

/-- The cookie of a session in the table resolves to it, as long as the serializer gives back what
was signed and the session is not too old. -/
lemma resolve_issueCookie {session : Session} {issued loaded now seen : Time}
    (hloads : pkg.loads m.secret (m.issueCookie pkg session issued) m.auth.sessionTtlS loaded =
      .data (.dict [("sid", .str session.sid), ("u", .str session.username)]))
    (hstr : pkg.str (.str session.sid) = session.sid) (hne : m.issueCookie pkg session issued ≠ "")
    (hget : m.sessions.get? session.sid = some session)
    (hage : now - session.created ≤ (m.auth.sessionTtlS : Time)) :
    (m.resolve pkg (some (m.issueCookie pkg session issued)) loaded now seen).1 =
      some { session with lastSeen := seen } := by
  have hsid : ([("sid", Value.str session.sid), ("u", .str session.username)] : Fields).lookup "sid" =
      some (.str session.sid) := rfl
  simp only [resolve, Option.filter, hne, ne_eq, not_false_eq_true, decide_true, if_true, hloads,
    hsid, Option.getD_some, hstr, hget, if_neg hage.not_gt]

/-- Sessions can be revoked.  After any calls, a cookie resolves only to a session that a sign-in
has opened no more than `session_ttl_s` seconds ago and that nothing has revoked since. -/
theorem resolve_live (pkg : Packages) (auth : Config.AuthConfig) (fresh : String)
    (calls : List Call) (token : Option String) (loaded now seen : Time) (session : Session) :
    let history := ((new auth fresh).run pkg calls).1
    let m := ((new auth fresh).run pkg calls).2
    (m.resolve pkg token loaded now seen).1 = some session →
    ∃ before a opened after, history = before ++ (.signIn a, .signIn (.ok opened)) :: after ∧
      session = { opened with lastSeen := seen } ∧ opened.created = a.created ∧
      now - opened.created ≤ (m.auth.sessionTtlS : Time) ∧
      ∀ entry ∈ after, ¬ Revokes session.sid entry := by
  intro history m h
  obtain ⟨sid, session', hget, rfl, hage⟩ := resolve_eq_some h
  obtain ⟨hsid, before, a, opened, after, hhist, heq, hcreated, hafter⟩ :=
    rooted_run pkg auth fresh calls sid session' hget
  refine ⟨before, a, opened, after, hhist, ?_, hcreated, ?_, ?_⟩
  · rw [heq]
  · rw [heq] at hage
    exact hage
  · rwa [hsid]

/-- One address signs in and comes back with its cookie. -/
theorem resolve_live_of_signIn :
    let history := ((new { passwordHash := "$argon2id$guess" } "").run readable [guess 10]).1
    let m := ((new { passwordHash := "$argon2id$guess" } "").run readable [guess 10]).2
    ∃ session a opened, (m.resolve readable (some "s") 20 20 20).1 = some session ∧
      (.signIn a, .signIn (.ok opened)) ∈ history ∧ session.sid = opened.sid := by
  intro history m
  have hres : (m.resolve readable (some "s") 20 20 20).1 =
      some { sid := "s", username := "admin", created := 10, lastSeen := 20, csrf := "c",
             remote := "192.168.1.7" } := by
    decide +kernel
  obtain ⟨before, a, opened, after, hhist, heq, -⟩ :=
    resolve_live readable { passwordHash := "$argon2id$guess" } "" [guess 10] (some "s") 20 20 20 _
      hres
  refine ⟨_, a, opened, hres, ?_, by rw [heq]⟩
  rw [show history = _ from hhist]
  exact List.mem_append_right _ List.mem_cons_self

end AuthManager

end Turbobond.App
