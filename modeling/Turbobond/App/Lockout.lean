import Turbobond.App.Auth
import Turbobond.Lib.Window

/-!
# The lockout

Whatever is called, and whenever, the failures of a key stay few and lock that key alone.
-/

namespace Turbobond.App.AuthManager

open Window

variable {pkg : Packages} {m : AuthManager} {key : String} {now : Time}

/-! ### What a call does to the failures -/

lemma counted_eq (m : AuthManager) (key : String) (now : Time) :
    m.counted key now = recent lockoutS now (m.attempts key) := rfl

@[simp] lemma lockedOut_snd (m : AuthManager) (key : String) (now : Time) :
    (m.lockedOut key now).2 = { m with failures := m.failures.set key (m.counted key now) } := by
  rw [lockedOut]
  cases m.counted key now with
  | nil => rfl
  | cons first rest => rfl

/-- A key is locked exactly when enough of its failures count. -/
lemma lockedOut_pos_iff : 0 < (m.lockedOut key now).1 ↔ maxFailures ≤ (m.counted key now).length := by
  have hcount : ∀ t ∈ m.counted key now, now - t < lockoutS := fun t ht => (mem_recent.1 ht).2
  rw [lockedOut]
  cases hc : m.counted key now with
  | nil => simp [maxFailures]
  | cons first rest =>
    have hfirst : 0 < lockoutS - (now - first) := sub_pos.2 (hcount first (by simp [hc]))
    by_cases hlen : maxFailures ≤ (first :: rest).length
    · simp only [if_pos hlen]
      exact iff_of_true hfirst hlen
    · simp only [if_neg hlen]
      exact iff_of_false (lt_irrefl _) hlen

lemma lockedOut_nonneg (m : AuthManager) (key : String) (now : Time) :
    0 ≤ (m.lockedOut key now).1 := by
  have hcount : ∀ t ∈ m.counted key now, now - t < lockoutS := fun t ht => (mem_recent.1 ht).2
  rw [lockedOut]
  cases hc : m.counted key now with
  | nil => exact le_rfl
  | cons first rest =>
    have hfirst : 0 ≤ lockoutS - (now - first) := (sub_pos.2 (hcount first (by simp [hc]))).le
    simp only []
    split
    · exact hfirst
    · exact le_rfl

/-- The lockout is read off the failures of the key. -/
lemma lockedOut_congr {m' : AuthManager} (h : m'.attempts key = m.attempts key) :
    (m'.lockedOut key now).1 = (m.lockedOut key now).1 := by
  have hcounted : m'.counted key now = m.counted key now := by rw [counted, counted, h]
  simp only [lockedOut, hcounted]
  cases m.counted key now with
  | nil => rfl
  | cons first rest => rfl

/-- All that `sign_in` can do: refuse for another reason than the credentials, record a failure
of a key that is not locked, or forget the failures of the key. -/
lemma signIn_cases (pkg : Packages) (m : AuthManager) (a : Attempt) :
    (∃ e, (m.signIn pkg a).1 = .error e ∧ e ≠ .wrongCredentials ∧
      (maxFailures ≤ (m.counted a.key a.checked).length → ∃ seconds, e = .lockedOut seconds) ∧
      (m.signIn pkg a).2.failures = m.failures.set a.key (m.counted a.key a.checked)) ∨
    ((m.signIn pkg a).1 = .error .wrongCredentials ∧
      (m.counted a.key a.checked).length < maxFailures ∧
      (m.signIn pkg a).2.failures = (m.failures.set a.key (m.counted a.key a.checked)).set a.key
        (m.counted a.key a.checked ++ [a.recorded])) ∨
    (∃ session, (m.signIn pkg a).1 = .ok session ∧
      (m.counted a.key a.checked).length < maxFailures ∧
      (m.signIn pkg a).2.failures =
        (m.failures.set a.key (m.counted a.key a.checked)).erase a.key) := by
  rw [signIn]
  by_cases hlocked : maxFailures ≤ (m.counted a.key a.checked).length
  · left
    simp only [if_pos (lockedOut_pos_iff.2 hlocked), lockedOut_snd]
    exact ⟨.lockedOut ⌊(m.lockedOut a.key a.checked).1⌋, rfl, by simp, fun _ => ⟨_, rfl⟩, trivial⟩
  · have hfree : (m.counted a.key a.checked).length < maxFailures := not_le.1 hlocked
    simp only [if_neg (mt lockedOut_pos_iff.1 hlocked), lockedOut_snd]
    by_cases hempty : a.password = ""
    · rw [if_pos hempty]
      exact .inl ⟨_, rfl, by simp, fun h => absurd h hlocked, rfl⟩
    rw [if_neg hempty]
    split
    · -- nobody has enrolled yet
      by_cases hshort : a.password.length < 8
      · rw [enrol, if_pos hshort]
        exact .inl ⟨_, rfl, by simp, fun h => absurd h hlocked, rfl⟩
      · rw [enrol, if_neg hshort]
        exact .inr (.inr ⟨_, rfl, hfree, rfl⟩)
    · split
      · refine .inr (.inl ⟨rfl, hfree, ?_⟩)
        simp only [recordFailure, attempts, Dict.get?_set_self, Option.getD_some]
      · exact .inr (.inr ⟨_, rfl, hfree, rfl⟩)

end Turbobond.App.AuthManager

namespace Turbobond.App

open Window

/-- The clock readings of a sign-in, in their order. -/
def Call.readings : Call → List Time
  | .signIn a => [a.checked, a.verified, a.recorded]
  | _ => []

/-- The clock does not go back. -/
def Clocked (calls : List Call) : Prop := (calls.flatMap Call.readings).Pairwise (· ≤ ·)

instance (calls : List Call) : Decidable (Clocked calls) :=
  inferInstanceAs (Decidable (List.Pairwise _ _))

lemma Clocked.of_append {calls calls' : List Call} (h : Clocked (calls ++ calls')) :
    Clocked calls ∧ Clocked calls' ∧
      ∀ t ∈ calls.flatMap Call.readings, ∀ t' ∈ calls'.flatMap Call.readings, t ≤ t' := by
  rw [Clocked, List.flatMap_append] at h
  exact List.pairwise_append.1 h

lemma Clocked.timely {calls : List Call} (h : Clocked calls) {a : Attempt}
    (ha : .signIn a ∈ calls) : a.checked ≤ a.verified ∧ a.verified ≤ a.recorded := by
  obtain ⟨before, after, rfl⟩ := List.append_of_mem ha
  rw [← List.singleton_append] at h
  have hone : Clocked [.signIn a] := h.of_append.2.1.of_append.1
  simp only [Clocked, List.flatMap_cons, List.flatMap_nil, Call.readings, List.append_nil,
    List.pairwise_cons] at hone
  exact ⟨hone.1 _ (by simp), hone.2.1 _ (by simp)⟩

/-- A call is a sign-in under a key. -/
def Call.Under (key : String) (call : Call) : Prop := ∃ a, call = .signIn a ∧ a.key = key

/-- The sign-ins under a key whose credentials were found wrong. -/
def wrongPasswords (key : String) (history : List (Call × Answer)) : List Attempt :=
  history.filterMap fun
    | (.signIn a, .signIn (.error .wrongCredentials)) => if a.key = key then some a else none
    | _ => none

/-- A sign-in under a key has succeeded. -/
def Succeeded (key : String) (history : List (Call × Answer)) : Prop :=
  ∃ a session, (.signIn a, .signIn (.ok session)) ∈ history ∧ a.key = key

namespace AuthManager

variable {pkg : Packages} {m : AuthManager} {key : String}

/-- What a sign-in does to the failures of its own key, and what it answers. -/
lemma step_signIn_cases (pkg : Packages) (m : AuthManager) (a : Attempt) :
    (∃ e, (m.step pkg (.signIn a)).1 = [(.signIn a, .signIn (.error e))] ∧ e ≠ .wrongCredentials ∧
      (maxFailures ≤ (m.counted a.key a.checked).length → ∃ seconds, e = .lockedOut seconds) ∧
      (m.step pkg (.signIn a)).2.attempts a.key = m.counted a.key a.checked) ∨
    ((m.step pkg (.signIn a)).1 = [(.signIn a, .signIn (.error .wrongCredentials))] ∧
      (m.counted a.key a.checked).length < maxFailures ∧
      (m.step pkg (.signIn a)).2.attempts a.key = m.counted a.key a.checked ++ [a.recorded]) ∨
    (∃ session, (m.step pkg (.signIn a)).1 = [(.signIn a, .signIn (.ok session))] ∧
      (m.counted a.key a.checked).length < maxFailures ∧
      (m.step pkg (.signIn a)).2.attempts a.key = []) := by
  simp only [step, attempts]
  obtain ⟨e, hres, hne, hlocked, hf⟩ | ⟨hres, hfree, hf⟩ | ⟨session, hres, hfree, hf⟩ :=
    signIn_cases pkg m a
  · exact .inl ⟨e, by rw [hres], hne, hlocked, by rw [hf, Dict.get?_set_self, Option.getD_some]⟩
  · exact .inr (.inl ⟨by rw [hres], hfree, by rw [hf, Dict.get?_set_self, Option.getD_some]⟩)
  · exact .inr (.inr ⟨session, by rw [hres], hfree, by rw [hf, Dict.get?_erase_self]; rfl⟩)

/-- Nothing but the sign-ins under a key touches its failures. -/
lemma step_attempts_of_not_under {call : Call} (h : ¬ call.Under key) :
    (m.step pkg call).2.attempts key = m.attempts key := by
  cases call with
  | signIn a =>
    have hne : key ≠ a.key := fun heq => h ⟨a, rfl, heq.symm⟩
    simp only [step, attempts]
    obtain ⟨e, -, -, -, hf⟩ | ⟨-, -, hf⟩ | ⟨session, -, -, hf⟩ := signIn_cases pkg m a
    · rw [hf, Dict.get?_set_of_ne _ hne]
    · rw [hf, Dict.get?_set_of_ne _ hne, Dict.get?_set_of_ne _ hne]
    · rw [hf, Dict.get?_erase_of_ne _ hne, Dict.get?_set_of_ne _ hne]
  | resolve token loaded now seen =>
    simp only [step, resolve]
    split
    · rfl
    · split
      · split
        · rfl
        · split
          · rfl
          · rfl
      · rfl
  | signOut session => cases session <;> rfl
  | signOutAll => rfl
  | changePassword session current password passwordHash saved =>
    simp only [step, changePassword]
    split
    · rfl
    · split
      · rfl
      · cases saved with
        | error exc => rfl
        | ok _ =>
          simp only []
          split
          · rfl
          · rfl
  | configure auth => rfl

lemma exists_answer (pkg : Packages) (m : AuthManager) (call : Call) :
    ∃ answer, (m.step pkg call).1 = [(call, answer)] := by
  cases call <;> exact ⟨_, rfl⟩

/-- The history of a run is its calls, each with an answer. -/
lemma map_fst_run (calls : List Call) : (m.run pkg calls).1.map Prod.fst = calls := by
  induction calls using List.reverseRecOn with
  | nil => rfl
  | append_singleton calls call ih =>
    obtain ⟨answer, hanswer⟩ := exists_answer pkg (m.run pkg calls).2 call
    rw [run] at ih hanswer ⊢
    rw [Machine.run_concat, List.map_append, ih, hanswer]
    rfl

lemma run_concat (calls : List Call) (call : Call) :
    m.run pkg (calls ++ [call]) =
      ((m.run pkg calls).1 ++ ((m.run pkg calls).2.step pkg call).1,
        ((m.run pkg calls).2.step pkg call).2) :=
  Machine.run_concat ..

lemma run_append (calls calls' : List Call) :
    m.run pkg (calls ++ calls') =
      ((m.run pkg calls).1 ++ ((m.run pkg calls).2.run pkg calls').1,
        ((m.run pkg calls).2.run pkg calls').2) :=
  Machine.run_append ..

lemma mem_wrongPasswords {history : List (Call × Answer)} {a : Attempt} :
    a ∈ wrongPasswords key history ↔
      (.signIn a, .signIn (.error .wrongCredentials)) ∈ history ∧ a.key = key := by
  rw [wrongPasswords, List.mem_filterMap]
  constructor
  · rintro ⟨entry, hmem, hsome⟩
    split at hsome
    · split at hsome
      · rename_i hkey
        obtain rfl := Option.some.inj hsome
        exact ⟨hmem, hkey⟩
      · exact absurd hsome (by simp)
    · exact absurd hsome (by simp)
  · rintro ⟨hmem, hkey⟩
    exact ⟨_, hmem, if_pos hkey⟩

lemma wrongPasswords_of_not_under {call : Call} (h : ¬ call.Under key) :
    wrongPasswords key (m.step pkg call).1 = [] := by
  obtain ⟨answer, hanswer⟩ := exists_answer pkg m call
  refine List.eq_nil_iff_forall_not_mem.2 fun a ha => h ?_
  obtain ⟨hmem, hkey⟩ := mem_wrongPasswords.1 ha
  rw [hanswer, List.mem_singleton] at hmem
  exact ⟨a, (Prod.mk.inj hmem).1.symm, hkey⟩

/-- Calls that are no sign-ins under a key leave its lockout as it was. -/
lemma run_attempts_of_not_under {calls : List Call} (h : ∀ call ∈ calls, ¬ call.Under key) :
    (m.run pkg calls).2.attempts key = m.attempts key := by
  induction calls using List.reverseRecOn with
  | nil => rfl
  | append_singleton calls call ih =>
    rw [run_concat, step_attempts_of_not_under (h call (by simp)),
      ih fun c hc => h c (List.mem_append_left _ hc)]

/-! ### Few failures are kept -/

/-- No key has more failures than lock it. -/
def Few (m : AuthManager) : Prop := ∀ key, (m.attempts key).length ≤ maxFailures

lemma Few.step (h : m.Few) (call : Call) : (m.step pkg call).2.Few := by
  intro key
  by_cases hunder : call.Under key
  · obtain ⟨a, rfl, rfl⟩ := hunder
    have hcounted : (m.counted a.key a.checked).length ≤ maxFailures :=
      recent_sublist.length_le.trans (h a.key)
    obtain ⟨e, -, -, -, hatt⟩ | ⟨-, hfree, hatt⟩ | ⟨session, -, -, hatt⟩ :=
      step_signIn_cases pkg m a
    · rwa [hatt]
    · rw [hatt, List.length_append]
      exact hfree
    · rw [hatt]
      exact Nat.zero_le _
  · rw [step_attempts_of_not_under hunder]
    exact h key

lemma few_run (pkg : Packages) (auth : Config.AuthConfig) (fresh : String) (calls : List Call) :
    ((new auth fresh).run pkg calls).2.Few := by
  induction calls using List.reverseRecOn with
  | nil => exact fun _ => Nat.zero_le _
  | append_singleton calls call ih =>
    rw [run_concat]
    exact ih.step call

/-! ### A stretch of calls without a success -/

/-- The failures of the stretch that count at a time are all among those stored, and each was let
in while few of them counted. -/
lemma run_wrongPasswords {calls : List Call} (hclock : Clocked calls)
    (hnone : ¬ Succeeded key (m.run pkg calls).1) :
    Limited Attempt.checked Attempt.recorded lockoutS maxFailures
      (wrongPasswords key (m.run pkg calls).1) ∧
    ∀ now, (∀ t ∈ calls.flatMap Call.readings, t ≤ now) →
      (recent lockoutS now ((wrongPasswords key (m.run pkg calls).1).map Attempt.recorded)).Sublist
        (recent lockoutS now ((m.run pkg calls).2.attempts key)) := by
  induction calls using List.reverseRecOn with
  | nil =>
    exact ⟨fun before hit h => by simp [run, wrongPasswords] at h,
      fun now _ => by simp [run, wrongPasswords, recent]⟩
  | append_singleton calls call ih =>
    rw [run_concat] at hnone ⊢
    obtain ⟨hclock', -, hlater⟩ := hclock.of_append
    obtain ⟨hlimited, hstored⟩ := ih hclock' fun h => hnone <| by
      obtain ⟨a, session, hmem, hkey⟩ := h
      exact ⟨a, session, List.mem_append_left _ hmem, hkey⟩
    generalize m.run pkg calls = r at *
    have hbefore : ∀ now, (∀ t ∈ (calls ++ [call]).flatMap Call.readings, t ≤ now) →
        ∀ t ∈ calls.flatMap Call.readings, t ≤ now := by
      intro now hnow t ht
      exact hnow t (by rw [List.flatMap_append]; exact List.mem_append_left _ ht)
    have hwrong : wrongPasswords key (r.1 ++ (r.2.step pkg call).1) =
        wrongPasswords key r.1 ++ wrongPasswords key (r.2.step pkg call).1 := List.filterMap_append ..
    simp only [hwrong]
    by_cases hunder : call.Under key
    · obtain ⟨a, rfl, rfl⟩ := hunder
      have hchecked : ∀ t ∈ calls.flatMap Call.readings, t ≤ a.checked := fun t ht =>
        hlater t ht a.checked (by simp [Call.readings])
      have hpast : ∀ now, (∀ t ∈ (calls ++ [Call.signIn a]).flatMap Call.readings, t ≤ now) →
          a.checked ≤ now := fun now hnow => hnow a.checked (by simp [Call.readings])
      obtain ⟨e, hout, hne, -, hatt⟩ | ⟨hout, hfree, hatt⟩ | ⟨session, hout, -, -⟩ :=
        step_signIn_cases pkg r.2 a
      · have hnil : wrongPasswords a.key [(Call.signIn a, Answer.signIn (.error e))] = [] := by
          refine List.eq_nil_iff_forall_not_mem.2 fun a' ha' => hne ?_
          have heq := List.mem_singleton.1 (mem_wrongPasswords.1 ha').1
          simp only [Prod.mk.injEq, Answer.signIn.injEq, Except.error.injEq] at heq
          exact heq.2.symm
        rw [hout, hnil, List.append_nil]
        refine ⟨hlimited, fun now hnow => ?_⟩
        rw [hatt, counted_eq, recent_recent (hpast now hnow)]
        exact hstored now (hbefore now hnow)
      · have hone : wrongPasswords a.key
            [(Call.signIn a, Answer.signIn (.error .wrongCredentials))] = [a] := by
          simp [wrongPasswords]
        rw [hout, hone]
        refine ⟨hlimited.concat ?_, fun now hnow => ?_⟩
        · -- the failures of the stretch are among those that count when this one is let in
          exact ((hstored a.checked hchecked).length_le).trans_lt hfree
        · rw [hatt, List.map_append, recent_append, recent_append, counted_eq,
            recent_recent (hpast now hnow)]
          exact (hstored now (hbefore now hnow)).append (List.Sublist.refl _)
      · -- there is no success in the stretch
        exact absurd ⟨a, session, List.mem_append_right _ (by rw [hout]; simp), rfl⟩ hnone
    · rw [wrongPasswords_of_not_under hunder, List.append_nil]
      refine ⟨hlimited, fun now hnow => ?_⟩
      simp only [step_attempts_of_not_under hunder]
      exact hstored now (hbefore now hnow)

/-! ### A locked key -/

/-- As long as the oldest failure of a locked key counts, the key stays as it is and every sign-in
under it is refused. -/
lemma run_locked (pkg : Packages) {oldest : Time} {calls : List Call} (hlen : (m.attempts key).length = maxFailures)
    (hle : ∀ t ∈ m.attempts key, oldest ≤ t)
    (hcalls : ∀ a, .signIn a ∈ calls → a.key = key → a.checked < oldest + lockoutS) :
    (m.run pkg calls).2.attempts key = m.attempts key ∧
    ∀ a answer, (.signIn a, answer) ∈ (m.run pkg calls).1 → a.key = key →
      ∃ seconds, answer = .signIn (.error (.lockedOut seconds)) := by
  induction calls using List.reverseRecOn with
  | nil => exact ⟨rfl, fun a answer h => absurd h List.not_mem_nil⟩
  | append_singleton calls call ih =>
    obtain ⟨hatt, hanswers⟩ := ih fun a ha => hcalls a (List.mem_append_left _ ha)
    rw [run_concat]
    generalize m.run pkg calls = r at *
    by_cases hunder : call.Under key
    · obtain ⟨a, rfl, rfl⟩ := hunder
      have hcounted : r.2.counted a.key a.checked = m.attempts a.key := by
        rw [counted_eq, hatt]
        exact recent_of_forall_le hle (hcalls a (by simp) rfl)
      have hfull : maxFailures ≤ (r.2.counted a.key a.checked).length := by rw [hcounted, hlen]
      obtain ⟨e, hout, -, hlocked, hatt'⟩ | ⟨-, hfree, -⟩ | ⟨session, -, hfree, -⟩ :=
        step_signIn_cases pkg r.2 a
      · refine ⟨hatt'.trans hcounted, fun a' answer hmem hkey => ?_⟩
        rcases List.mem_append.1 hmem with hmem | hmem
        · exact hanswers a' answer hmem hkey
        · obtain ⟨seconds, rfl⟩ := hlocked hfull
          rw [hout, List.mem_singleton] at hmem
          exact ⟨seconds, (Prod.mk.inj hmem).2⟩
      · exact absurd hfull hfree.not_ge
      · exact absurd hfull hfree.not_ge
    · refine ⟨(step_attempts_of_not_under hunder).trans hatt, fun a answer hmem hkey => ?_⟩
      rcases List.mem_append.1 hmem with hmem | hmem
      · exact hanswers a answer hmem hkey
      · obtain ⟨answer', hout⟩ := exists_answer pkg r.2 call
        rw [hout, List.mem_singleton] at hmem
        exact absurd ⟨a, (Prod.mk.inj hmem).1.symm, hkey⟩ hunder

/-- The bound of the lockout.  After any calls, and whatever follows them: between two successes
under a key no window of `lockoutS` seconds holds more than `maxFailures` sign-ins with wrong
credentials; what is called under other keys does not change what remains of the lockout; and a
locked key, refused as long as its oldest failure counts, is locked no longer from then on. -/
theorem lockout_bound (pkg : Packages) (auth : Config.AuthConfig) (fresh : String)
    (earlier calls : List Call) (key : String) (hclock : Clocked (earlier ++ calls)) :
    let m := ((new auth fresh).run pkg earlier).2
    let history := (m.run pkg calls).1
    let m' := (m.run pkg calls).2
    (¬ Succeeded key history → ∀ start : Time,
      (wrongPasswords key history).countP
        (fun a => decide (start ≤ a.verified ∧ a.verified < start + lockoutS)) ≤ maxFailures) ∧
    ((∀ call ∈ calls, ¬ call.Under key) → ∀ now : Time,
      (m'.lockedOut key now).1 = (m.lockedOut key now).1) ∧
    ∀ now oldest : Time, 0 < (m.lockedOut key now).1 →
      (oldest ∈ m.counted key now ∧ ∀ t ∈ m.counted key now, oldest ≤ t) →
      (∀ a, .signIn a ∈ calls → a.key = key → a.checked < oldest + lockoutS) →
      (∀ a answer, (.signIn a, answer) ∈ history → a.key = key →
        ∃ seconds, answer = .signIn (.error (.lockedOut seconds))) ∧
      ∀ later : Time, oldest + lockoutS ≤ later → (m'.lockedOut key later).1 = 0 := by
  simp only []
  refine ⟨fun hnone start => ?_, fun hother now => ?_, fun now oldest hlocked holdest hcalls => ?_⟩
  · have hclock' := hclock.of_append.2.1
    refine (run_wrongPasswords hclock' hnone).1.countP_le (fun a ha => ?_) start
    have hmem := List.mem_map_of_mem (f := Prod.fst) (mem_wrongPasswords.1 ha).1
    rw [map_fst_run] at hmem
    exact hclock'.timely hmem
  · exact lockedOut_congr (run_attempts_of_not_under hother)
  · have hfew := few_run pkg auth fresh earlier key
    generalize ((new auth fresh).run pkg earlier).2 = m at *
    -- a locked key has all its failures counted
    have hall : m.counted key now = m.attempts key :=
      recent_eq_self (lockedOut_pos_iff.1 hlocked) hfew
    rw [hall] at holdest
    have hlen : (m.attempts key).length = maxFailures :=
      le_antisymm hfew (hall ▸ lockedOut_pos_iff.1 hlocked)
    obtain ⟨hatt, hanswers⟩ := run_locked pkg hlen holdest.2 hcalls
    refine ⟨hanswers, fun later hlater => ?_⟩
    refine le_antisymm (not_lt.1 fun hpos => ?_) (lockedOut_nonneg _ _ _)
    have hfull := lockedOut_pos_iff.1 hpos
    rw [counted_eq, hatt] at hfull
    exact absurd hfull (hlen ▸ length_recent_lt holdest.1 hlater).not_ge

/-- Packages whose hashes and cookies can be read. -/
def readable : Packages where
  pbkdf2 _ _ := false
  argon2 password stored := stored == "$argon2id$" ++ password
  loads _ cookie _ _ := .data (.dict [("sid", .str cookie), ("u", .str "admin")])
  dumps _ payload _ :=
    match payload with
    | .dict ((_, .str sid) :: _) => sid
    | _ => ""
  str
    | .str s => s
    | _ => ""

/-- A guess from one address, at one time. -/
def guess (t : Time) : Call :=
  .signIn
    { username := "admin", password := "guess", remote := "192.168.1.7", checked := t, verified := t,
      recorded := t, sid := "s", created := t, lastSeen := t, csrf := "c",
      passwordHash := "$argon2id$guess" }

/-- Eight guesses lock the address; one more at 299 seconds does not keep it locked. -/
theorem lockout_bound_of_guesses :
    let m := ((new { passwordHash := "$argon2id$password" } "").run readable
      ([0, 1, 2, 3, 4, 5, 6, 7].map guess)).2
    0 < (m.lockedOut "192.168.1.7" 8).1 ∧
      ((m.run readable [guess 299]).2.lockedOut "192.168.1.7" 300).1 = 0 := by
  have hcounted : (((new { passwordHash := "$argon2id$password" } "").run readable
      ([0, 1, 2, 3, 4, 5, 6, 7].map guess)).2.counted "192.168.1.7" 8) =
        [0, 1, 2, 3, 4, 5, 6, 7] := by
    decide +kernel
  have hlocked := lockedOut_pos_iff.2 (by rw [hcounted]; exact le_rfl)
  refine ⟨hlocked, ?_⟩
  refine ((lockout_bound readable { passwordHash := "$argon2id$password" } ""
    ([0, 1, 2, 3, 4, 5, 6, 7].map guess) [guess 299] "192.168.1.7" (by decide +kernel)).2.2
    8 0 hlocked ?_ ?_).2 300 ?_
  · rw [hcounted]
    decide +kernel
  · intro a ha _
    obtain rfl := Call.signIn.inj (List.mem_singleton.1 ha)
    decide +kernel
  · decide +kernel

end AuthManager

end Turbobond.App
