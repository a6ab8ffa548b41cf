import Turbobond.Links.Monitor

/-!
# Recovery of a link

When a link comes up again, and how many successful probes it takes.
-/

namespace Turbobond.Links

/-- The last probes, as many as recovery asks for, have all succeeded. -/
def Sustained (probes : List Probe) : Prop :=
  ∃ earlier recent, probes = earlier ++ recent ∧ recent.length = recoverThreshold ∧
    ∀ probe ∈ recent, probe.reachable = true

lemma Sustained.of_le (earlier : List Probe) {recent : List Probe}
    (hlen : recoverThreshold ≤ recent.length) (hall : ∀ probe ∈ recent, probe.reachable = true) :
    Sustained (earlier ++ recent) := by
  refine ⟨earlier ++ recent.take (recent.length - recoverThreshold),
    recent.drop (recent.length - recoverThreshold), ?_, ?_, ?_⟩
  · rw [List.append_assoc, List.take_append_drop]
  · rw [List.length_drop]
    omega
  · exact fun probe hprobe => hall probe (List.mem_of_mem_drop hprobe)

/-- The state of a link after some probes. -/
def stateAfter (link : Link ℚ) (probes : List Probe) : LinkState :=
  (LinkMonitor.run probes link).2.state

/-- Each time the link comes up, and has been down or unknown and not up since then, the successes
have been sustained. -/
def RecoversSustained (link : Link ℚ) (probes : List Probe) : Prop :=
  ∀ before since, before ++ since <+: probes →
    stateAfter link before = .down ∨ stateAfter link before = .unknown →
    (∀ between, between <+: since → between ≠ [] → between ≠ since →
      stateAfter link (before ++ between) ≠ .up) →
    stateAfter link (before ++ since) = .up → Sustained (before ++ since)

/-- The mean that two measurements of a new link are smoothed to. -/
def smoothed (first second : ℚ) : ℚ :=
  if first = 0 then second else 3 / 10 * second + 7 / 10 * first

/-- A link that is down or unknown at first succeeds twice, with good measurements. -/
def Hasty (start : LinkState) : List Probe → Prop
  | first :: second :: _ =>
    (start = .down ∨ start = .unknown) ∧ first.reachable = true ∧ second.reachable = true ∧
      3 / 10 * second.lossPct + 7 / 10 * (3 / 10 * first.lossPct) < degradedLossPct ∧
      smoothed first.rttMs second.rttMs < degradedRttMs ∧
      smoothed first.jitterMs second.jitterMs < degradedJitterMs
  | _ => False

namespace LinkMonitor

variable {link : Link ℚ}

lemma run_concat (probes : List Probe) (probe : Probe) :
    (run (probes ++ [probe]) link).2 = (probeLink (run probes link).2 probe).2 := by
  rw [run, Machine.run_concat]
  rfl

lemma enabled_run (probes : List Probe) : (run probes link).2.enabled = link.enabled := by
  induction probes using List.reverseRecOn with
  | nil => rfl
  | append_singleton probes probe ih => rw [run_concat, enabled_probeLink, ih]

/-- A failure leaves a loss of at least 30 percent, and a success no less than seven tenths of what
there was. -/
structure Trail (probes : List Probe) (health : LinkHealth ℚ) : Prop where
  loss_nonneg : 0 ≤ health.lossPct
  split : ∃ earlier recent, probes = earlier ++ recent ∧ (∀ probe ∈ recent, probe.reachable = true) ∧
    recent.length = health.consecutiveSuccesses ∧
    (earlier ≠ [] → 30 * (7 / 10) ^ recent.length ≤ health.lossPct)

lemma Trail.record {probes : List Probe} (h : Trail probes link.health) (probe : Probe) :
    Trail (probes ++ [probe]) (record link probe).health := by
  obtain ⟨hnonneg, earlier, recent, rfl, hall, hlen, hloss⟩ := h
  have hprobe := probe.loss_nonneg
  by_cases hreach : probe.reachable = true
  · simp only [LinkMonitor.record, hreach, if_true, LinkHealth.recordSuccess, LinkHealth.ewmaAlpha]
    refine ⟨by norm_num; positivity, earlier, recent ++ [probe], by simp, ?_, by simp [hlen], ?_⟩
    · intro p hp
      rcases List.mem_append.1 hp with hp | hp
      · exact hall p hp
      · rwa [List.mem_singleton.1 hp]
    · intro hne
      have := hloss hne
      rw [List.length_append, List.length_singleton, pow_succ]
      norm_num
      linarith
  · simp only [LinkMonitor.record, hreach, if_false, LinkHealth.recordFailure, Bool.false_eq_true]
    refine ⟨le_min (by norm_num) (by positivity), earlier ++ recent ++ [probe], [], by simp, by simp,
      rfl, fun _ => ?_⟩
    simp only [List.length_nil, pow_zero]
    exact le_min (by norm_num) (by linarith)

/-- What the health of a new link says of the probes so far. -/
lemma trail_run (henabled : link.enabled = true) (hfresh : link.health = {}) (probes : List Probe) :
    Trail probes (run probes link).2.health := by
  induction probes using List.reverseRecOn with
  | nil => exact ⟨by simp [run, hfresh], [], [], rfl, by simp, by simp [run, hfresh], by simp⟩
  | append_singleton probes probe ih =>
    rw [run_concat, health_probeLink (by rw [enabled_run, henabled])]
    exact ih.record probe

/-- Measurements that are not poor take three successes after a failure. -/
lemma Trail.sustained {probes : List Probe} {health : LinkHealth ℚ} (h : Trail probes health)
    (hgood : ¬ health.Poor) : Sustained probes ∨ ∀ probe ∈ probes, probe.reachable = true := by
  obtain ⟨-, earlier, recent, rfl, hall, hlen, hloss⟩ := h
  by_cases hearlier : earlier = []
  · right
    rwa [hearlier, List.nil_append]
  · left
    have hlow : health.lossPct < 8 := not_le.1 fun hhigh => hgood (.inl hhigh)
    have hmany : recoverThreshold ≤ recent.length := by
      by_contra hfew
      have hpow : (7 / 10 : ℚ) ^ 2 ≤ (7 / 10) ^ recent.length :=
        pow_le_pow_of_le_one (by norm_num) (by norm_num)
          (Nat.le_of_lt_succ (not_le.1 hfew))
      have := hloss hearlier
      norm_num at hpow
      linarith
    exact .of_le earlier hmany hall

lemma stateAfter_concat (henabled : link.enabled = true) (probes : List Probe) (probe : Probe) :
    stateAfter link (probes ++ [probe]) = evaluate (record (run probes link).2 probe) := by
  rw [stateAfter, run_concat, state_probeLink (by rw [enabled_run, henabled])]

/-- A new link that is down or unknown is degraded by its first success. -/
lemma stateAfter_first (henabled : link.enabled = true) (hfresh : link.health = {}) {first : Probe}
    (hfirst : first.reachable = true) :
    (stateAfter link [first] = .up ∨ stateAfter link [first] = .degraded) ∧
      (stateAfter link [first] = .up → link.state ≠ .down ∧ link.state ≠ .unknown) := by
  have hstate : stateAfter link [first] = evaluate (record link first) :=
    stateAfter_concat henabled [] first
  have hhealth : (record link first).health.consecutiveFailures = 0 ∧
      (record link first).health.consecutiveSuccesses = 1 := by
    simp [record, hfirst, LinkHealth.recordSuccess, hfresh]
  rw [hstate]
  refine ⟨evaluate_of_success hhealth.1 (by rw [hhealth.2]; decide), fun hup => ?_⟩
  have hmany := (evaluate_eq_up_iff.1 hup).2.2
  rw [hhealth.2, state_record] at hmany
  exact ⟨fun h => absurd (hmany (.inl h)) (by decide), fun h => absurd (hmany (.inr h)) (by decide)⟩

/-- What two successes make of the health of a new link. -/
lemma health_second (henabled : link.enabled = true) (hfresh : link.health = {})
    {first second : Probe} (hfirst : first.reachable = true) (hsecond : second.reachable = true) :
    (record (run [first] link).2 second).health.consecutiveFailures = 0 ∧
      ((record (run [first] link).2 second).health.Poor ↔
        ¬ (3 / 10 * second.lossPct + 7 / 10 * (3 / 10 * first.lossPct) < degradedLossPct ∧
          smoothed first.rttMs second.rttMs < degradedRttMs ∧
          smoothed first.jitterMs second.jitterMs < degradedJitterMs)) := by
  have hrun : (run [first] link).2.health = (record link first).health :=
    health_probeLink henabled first
  simp only [record, hfirst, hsecond, if_true, LinkHealth.recordSuccess, LinkHealth.ewmaAlpha,
    hfresh] at hrun ⊢
  rw [hrun]
  refine ⟨trivial, ?_⟩
  simp only [LinkHealth.Poor, smoothed, not_and_or, not_lt]
  norm_num

/-- A link that comes up with its second probe has not recovered after sustained success. -/
lemma not_recoversSustained_of_two {first second : Probe}
    (hstart : link.state = .down ∨ link.state = .unknown) (hone : stateAfter link [first] ≠ .up)
    (htwo : stateAfter link [first, second] = .up) (rest : List Probe) :
    ¬ RecoversSustained link (first :: second :: rest) := by
  intro h
  have hbetween : ∀ between, between <+: [first, second] → between ≠ [] →
      between ≠ [first, second] → stateAfter link ([] ++ between) ≠ .up := by
    intro between hpre hnil hall
    rcases List.prefix_cons_iff.1 hpre with rfl | ⟨t, rfl, ht⟩
    · exact absurd rfl hnil
    · rcases List.prefix_cons_iff.1 ht with rfl | ⟨t', rfl, ht'⟩
      · exact hone
      · obtain rfl := List.prefix_nil.1 ht'
        exact absurd rfl hall
  obtain ⟨earlier, recent, heq, hlen, -⟩ := h [] [first, second] ⟨rest, rfl⟩ hstart hbetween htwo
  have hlength := congrArg List.length heq
  simp only [List.nil_append, List.length_append, hlen, List.length_cons, List.length_nil,
    recoverThreshold] at hlength
  omega

/-- A new link that starts down or unknown and begins with two good successes does not recover
after sustained success. -/
lemma not_recoversSustained_of_hasty (henabled : link.enabled = true) (hfresh : link.health = {})
    {probes : List Probe} (hhasty : Hasty link.state probes) : ¬ RecoversSustained link probes := by
  match probes, hhasty with
  | first :: second :: rest, ⟨hstart, hfirst, hsecond, hgood⟩ =>
    obtain ⟨hone, hup⟩ := stateAfter_first henabled hfresh hfirst
    have hne : stateAfter link [first] ≠ .up := fun h => by
      obtain ⟨hdown, hunknown⟩ := hup h
      exact hstart.elim hdown hunknown
    have hdegraded := hone.resolve_left hne
    obtain ⟨hfail, hpoor⟩ := health_second henabled hfresh hfirst hsecond
    have htwo : stateAfter link [first, second] = .up := by
      rw [show [first, second] = [first] ++ [second] from rfl, stateAfter_concat henabled,
        evaluate_eq_up_iff]
      refine ⟨hfail, fun h => hpoor.1 h hgood, fun h => ?_⟩
      rw [state_record] at h
      rw [stateAfter] at hdegraded
      simp [hdegraded] at h
    exact not_recoversSustained_of_two hstart hne htwo rest

/-- A new link that comes up again with fewer successes than sustain it comes up with its second
one, which is hasty. -/
lemma hasty_of_few (henabled : link.enabled = true) (hfresh : link.health = {})
    {probes before since : List Probe} (hpre : before ++ since <+: probes) (hsince : since ≠ [])
    (hstart : stateAfter link before = .down ∨ stateAfter link before = .unknown)
    (hup : stateAfter link (before ++ since) = .up)
    (hgood : ¬ (run (before ++ since) link).2.health.Poor)
    (hall : ∀ probe ∈ before ++ since, probe.reachable = true)
    (hfew : ¬ recoverThreshold ≤ (before ++ since).length) : Hasty link.state probes := by
  match before, since with
  | [], [] => exact absurd rfl hsince
  | [], [first] =>
    obtain ⟨hdown, hunknown⟩ := (stateAfter_first henabled hfresh (hall first (by simp))).2 hup
    exact absurd hstart (not_or.2 ⟨hdown, hunknown⟩)
  | [], [first, second] =>
    obtain ⟨rest, rfl⟩ := hpre
    have hfirst := hall first (by simp)
    have hsecond := hall second (by simp)
    have hpoor := (health_second henabled hfresh hfirst hsecond).2
    have hrun : (run ([first] ++ [second]) link).2.health =
        (record (run [first] link).2 second).health := by
      rw [run_concat, health_probeLink (by rw [enabled_run, henabled])]
    rw [List.nil_append, show [first, second] = [first] ++ [second] from rfl, hrun, hpoor,
      not_not] at hgood
    exact ⟨hstart, hfirst, hsecond, hgood⟩
  | [_], [] => exact absurd rfl hsince
  | [first], [second] =>
    -- after one success the link is neither down nor unknown
    obtain h | h := (stateAfter_first henabled hfresh (hall first (by simp))).1
    · simp [h] at hstart
    · simp [h] at hstart
  | [_, _], [] => exact absurd rfl hsince
  | first :: second :: third :: _, _ => simp [recoverThreshold] at hfew
  | first :: second :: [], third :: _ => simp [recoverThreshold] at hfew
  | [first], second :: third :: _ => simp [recoverThreshold] at hfew
  | [], first :: second :: third :: _ => simp [recoverThreshold] at hfew

/-- The exact condition: a new link recovers only after sustained success if and only if it is not
so that it starts down or unknown and its first two probes are good successes. -/
theorem recoversSustained_iff (link : Link ℚ) (henabled : link.enabled = true)
    (hfresh : link.health = {}) (probes : List Probe) :
    RecoversSustained link probes ↔ ¬ Hasty link.state probes := by
  constructor
  · exact fun hrecovers hhasty =>
      not_recoversSustained_of_hasty henabled hfresh hhasty hrecovers
  · intro hnot before since hpre hstart _ hup
    have hsince : since ≠ [] := by
      rintro rfl
      rw [List.append_nil] at hup
      simp [hup] at hstart
    have hgood : ¬ (run (before ++ since) link).2.health.Poor := by
      obtain heq | ⟨init, probe, heq⟩ := List.eq_nil_or_concat' (before ++ since)
      · exact absurd (List.append_eq_nil_iff.1 heq).2 hsince
      · rw [heq, stateAfter_concat henabled, evaluate_eq_up_iff] at hup
        rw [heq, run_concat, health_probeLink (by rw [enabled_run, henabled])]
        exact hup.2.1
    obtain hsustained | hall := (trail_run henabled hfresh (before ++ since)).sustained hgood
    · exact hsustained
    by_cases hlen : recoverThreshold ≤ (before ++ since).length
    · exact .of_le [] hlen hall
    · exact absurd (hasty_of_few henabled hfresh hpre hsince hstart hup hgood hall hlen) hnot

/-- A probe without loss. -/
def answered : Probe := { reachable := true, rttMs := 20, jitterMs := 2, lossPct := 0 }

def lost : Probe := { reachable := false }

/-- A link that two failures have taken down recovers after sustained success only. -/
theorem recoversSustained_of_lost :
    RecoversSustained { name := "wan1", interface := "eth0", state := .up }
      [lost, lost, answered, answered, answered, answered, answered, answered, answered] :=
  (recoversSustained_iff _ rfl rfl _).2 fun h => absurd h.1 (by decide)

/-- A link that was down when it was found comes up with its second success. -/
theorem recovers_after_two :
    ¬ RecoversSustained { name := "wan1", interface := "eth0", state := .down }
      [answered, answered] :=
  not_recoversSustained_of_two (.inl rfl) (by decide +kernel) (by decide +kernel) []

end LinkMonitor

end Turbobond.Links
