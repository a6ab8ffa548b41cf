import Turbobond.Config.Model
import Turbobond.Lib.TrafficControl
import Turbobond.Util.Cmd

/-!
# Voice prioritisation

`turbobond/sip/qos.py`: a priority queue on every uplink, with the media in the top band, the signalling
in the next one, and what has no mark but goes to the port of some media in the top band as well.
-/

namespace Turbobond.Sip

open Config Util TrafficControl

/-- `BAND_MEDIA`. -/
def bandMedia : ℕ := 0

/-- `BAND_SIGNALLING`. -/
def bandSignalling : ℕ := 1

structure QosReport where
  interfaces : Dict String Bool := Dict.empty
  errors : List String := []

/-- `_tc`, where `possible` says that the kernel has what the command needs. -/
def tc (host : Host) (possible : Bool) (d : Devices) (c : Command) : Bool × Devices :=
  let (ok, d') := attempt possible d c
  let result := run host "tc" { returncode := if ok then 0 else 2 }
  (result.passed, if result.done then d' else d)

/-- What carries a mark, in the top six bits of the TOS byte. -/
def byMark (prio : ℕ) (dscp : ℤ) (band : ℕ) : Filter := ⟨prio, [⟨.tos, dscp * 4, 0xfc⟩], band + 1⟩

def mediaFilter (cfg : SipConfig) : Filter := byMark 1 cfg.dscpMedia bandMedia

def signallingFilter (cfg : SipConfig) : Filter := byMark 2 cfg.dscpSignalling bandSignalling

/-- RTP without a usable mark, by its port. -/
def rtpFilter (cfg : SipConfig) : Filter :=
  ⟨3, [⟨.protocol, 17, 0xff⟩, ⟨.dport, cfg.rtpPortStart, 0xc000⟩], bandMedia + 1⟩

/-- Which of the commands for an uplink are possible. -/
structure SipPlan where
  replace : Bool := true
  media : Bool := true
  signalling : Bool := true
  rtp : Bool := true
  deriving DecidableEq

/-- The commands for one uplink.  What becomes of the filters is not looked at. -/
def shapeUplink (host : Host) (cfg : SipConfig) (iface : String) (plan : SipPlan) (d : Devices) :
    Bool × Devices :=
  let (ok, d) := tc host plan.replace d (.replace iface (some 1) "prio")
  if !ok then (false, d)
  else
    let (_, d) := tc host plan.media d (.add iface 1 (mediaFilter cfg))
    let (_, d) := tc host plan.signalling d (.add iface 1 (signallingFilter cfg))
    let (_, d) := tc host plan.rtp d (.add iface 1 (rtpFilter cfg))
    (true, d)

/-- The loop of `apply_sip_qos`. -/
def shapeUplinks (host : Host) (cfg : SipConfig) :
    List (String × SipPlan) → QosReport → Devices → QosReport × Devices
  | [], report, d => (report, d)
  | (iface, plan) :: rest, report, d =>
    let (ok, d) := shapeUplink host cfg iface plan d
    let report := { report with interfaces := report.interfaces.set iface ok }
    if ok then shapeUplinks host cfg rest report d
    else
      shapeUplinks host cfg rest
        { report with
          errors := report.errors ++ ["could not install the priority qdisc on " ++ iface] } d

/-- `apply_sip_qos`. -/
def applySipQos (host : Host) (cfg : SipConfig) (plan : List (String × SipPlan)) (d : Devices) :
    QosReport × Devices :=
  if plan = [] then ({}, d)
  else if !host.which "tc" && !host.dryRun then
    ({ errors := ["tc (iproute2) is not installed, so voice prioritisation was skipped"] }, d)
  else shapeUplinks host cfg plan {} d

/-- `teardown_qos`. -/
def teardownQos (host : Host) (plan : List (String × Bool)) (d : Devices) : Devices :=
  plan.foldl (fun d (iface, possible) => (tc host possible d (.del iface)).2) d

/-! ### Commands -/

variable {host : Host} {cfg : SipConfig} {d : Devices}

/-- A host on which `tc` changes something. -/
def Live (host : Host) : Prop := host.dryRun = false ∧ host.which "tc" = true

lemma tc_of_live (h : Live host) (possible : Bool) (d : Devices) (c : Command) :
    tc host possible d c = attempt possible d c := by
  simp only [tc, attempt, run, h.1, h.2, Bool.not_true, Bool.false_eq_true, if_false]
  split
  · rfl
  · rfl

lemma tc_of_not_live (h : ¬ Live host) (possible : Bool) (d : Devices) (c : Command) :
    (tc host possible d c).2 = d := by
  have hskipped : ∀ executed, (run host "tc" executed).done = false := by
    intro executed
    rw [run]
    by_cases hdry : host.dryRun = true
    · simp [hdry, CommandResult.done]
    · have hwhich : host.which "tc" = false := by
        by_contra hwhich
        exact h ⟨by simpa using hdry, by simpa using hwhich⟩
      simp [hdry, hwhich, CommandResult.done]
  rw [tc]
  simp [hskipped]

/-! ### What the filters say -/

/-- A packet carries a mark. -/
def Marked (dscp : ℤ) (p : Packet) : Prop := p.tos &&& 0xfc = (dscp * 4).toNat

/-- A packet goes to the port that the filter for RTP looks for, as far as it looks. -/
def ToRtp (cfg : SipConfig) (p : Packet) : Prop :=
  p.protocol &&& 0xff = 17 ∧ p.dport &&& 0xc000 = cfg.rtpPortStart.toNat &&& 0xc000

instance (dscp : ℤ) (p : Packet) : Decidable (Marked dscp p) := inferInstanceAs (Decidable (_ = _))

instance (cfg : SipConfig) (p : Packet) : Decidable (ToRtp cfg p) := inferInstanceAs (Decidable (_ ∧ _))

/-- The marks that fit in the TOS byte. -/
def IsMark (dscp : ℤ) : Prop := 0 ≤ dscp ∧ dscp < 64

instance (dscp : ℤ) : Decidable (IsMark dscp) := inferInstanceAs (Decidable (_ ∧ _))

lemma wellFormed_byMark (prio : ℕ) (dscp : ℤ) (band : ℕ) :
    (byMark prio dscp band).keys.all (fun k => k.wellFormed) = true ↔ IsMark dscp := by
  rw [byMark, List.all_cons, List.all_nil, Bool.and_true, Key.wellFormed_iff, IsMark]
  norm_num [Field.bits]
  omega

/-- The low bits of a mark are clear. -/
lemma IsMark.land {dscp : ℤ} (h : IsMark dscp) : (dscp * 4).toNat &&& 0xfc = (dscp * 4).toNat := by
  obtain ⟨n, rfl⟩ := Int.eq_ofNat_of_zero_le h.1
  have hlt : n < 64 := by exact_mod_cast h.2
  have heq : ((n : ℤ) * 4).toNat = n * 4 := by omega
  rw [heq]
  clear heq h
  revert n
  decide

lemma matches_byMark {dscp : ℤ} (h : IsMark dscp) (prio band : ℕ) (p : Packet) :
    (byMark prio dscp band).matches p = true ↔ Marked dscp p := by
  simp only [Filter.matches, byMark, List.all_cons, List.all_nil, Bool.and_true, Key.holds_iff, h.land]
  exact Iff.rfl

lemma matches_rtpFilter (cfg : SipConfig) (p : Packet) :
    (rtpFilter cfg).matches p = true ↔ ToRtp cfg p := by
  simp only [Filter.matches, rtpFilter, List.all_cons, List.all_nil, Bool.and_true, Bool.and_eq_true,
    Key.holds_iff]
  exact Iff.rfl

/-! ### The queue of an uplink -/

/-- A queue that has been given nothing but the filters for voice. -/
structure Rooted (q : Qdisc) : Prop where
  handle : q.handle = some 1
  kind : q.kind = "prio"
  sorted : q.Sorted
  filters : ∀ f ∈ q.filters, (∃ dscp, IsMark dscp ∧ f = byMark 1 dscp bandMedia) ∨
    (∃ dscp, IsMark dscp ∧ f = byMark 2 dscp bandSignalling) ∨ ∃ cfg, f = rtpFilter cfg

variable {q : Qdisc}

lemma Rooted.add (h : Rooted q) {f : Filter}
    (hf : (∃ dscp, IsMark dscp ∧ f = byMark 1 dscp bandMedia) ∨
      (∃ dscp, IsMark dscp ∧ f = byMark 2 dscp bandSignalling) ∨ ∃ cfg, f = rtpFilter cfg) :
    Rooted (q.add f) := by
  refine ⟨h.handle, h.kind, h.sorted.add f, fun g hg => ?_⟩
  rcases Qdisc.mem_add.1 hg with rfl | hg
  · exact hf
  · exact h.filters g hg

/-- What has the mark of a media filter is in the top band. -/
lemma Rooted.band_of_mem (h : Rooted q) {dscp : ℤ} (hmark : IsMark dscp)
    (hmem : byMark 1 dscp bandMedia ∈ q.filters) {p : Packet} (hp : Marked dscp p) :
    q.band p = bandMedia := by
  have hmatch := (matches_byMark hmark 1 bandMedia p).2 hp
  obtain ⟨f, hf⟩ : ∃ f, q.filters.find? (fun f => f.matches p) = some f := by
    rw [← Option.isSome_iff_exists, List.find?_isSome]
    exact ⟨_, hmem, hmatch⟩
  -- the filter that decides is one for media, as no other has a priority as low
  have hle := h.sorted.find?_le hf hmem hmatch
  rcases h.filters f (List.mem_of_find?_eq_some hf) with ⟨_, _, rfl⟩ | ⟨_, _, rfl⟩ | ⟨cfg, rfl⟩
  · rw [Qdisc.band, Qdisc.verdict, hf]
    rfl
  · exact absurd hle (by simp [byMark])
  · exact absurd hle (by simp [byMark, rtpFilter])

/-- A mark without a media filter of its own is not enough. -/
lemma Rooted.exists_of_not_mem (h : Rooted q) {dscp : ℤ} (hmark : IsMark dscp)
    (hmem : byMark 1 dscp bandMedia ∉ q.filters) : ∃ p, Marked dscp p ∧ q.band p ≠ bandMedia := by
  let p : Packet := { tos := (dscp * 4).toNat, protocol := 6, dport := 0 }
  have hp : Marked dscp p := hmark.land
  refine ⟨p, hp, ?_⟩
  rw [Qdisc.band, Qdisc.verdict]
  cases hf : q.filters.find? fun f => f.matches p with
  | none => exact (by decide : priomap.getD (0 % 16) 0 ≠ bandMedia)
  | some f =>
    have hmatch := List.find?_some hf
    rcases h.filters f (List.mem_of_find?_eq_some hf) with ⟨dscp', hmark', rfl⟩ | ⟨_, _, rfl⟩ | ⟨cfg, rfl⟩
    · have hp' : Marked dscp' p := (matches_byMark hmark' 1 bandMedia p).1 hmatch
      have heq : dscp' = dscp := by
        have hsame := hp'.symm.trans hp
        obtain ⟨hpos, -⟩ := hmark
        obtain ⟨hpos', -⟩ := hmark'
        omega
      exact absurd (heq ▸ List.mem_of_find?_eq_some hf) hmem
    · exact (by decide : bandSignalling ≠ bandMedia)
    · exact absurd ((matches_rtpFilter cfg p).1 hmatch).1 (by decide : ¬ 6 &&& 0xff = 17)

/-- What is at the root of an uplink that no command for voice has touched: the kernel's own, or a
discipline under no handle that is named, without filters. -/
def Plain (q? : Option Qdisc) : Prop := ∀ q, q? = some q → q.handle = none ∧ q.filters = []

/-- What is at the root of an uplink, and whether a mark has a media filter there. -/
def Standing (dscp : ℤ) (has : Prop) (q? : Option Qdisc) : Prop :=
  (Plain q? ∧ ¬ has) ∨ ∃ q, q? = some q ∧ Rooted q ∧ (byMark 1 dscp bandMedia ∈ q.filters ↔ has)

lemma Standing.congr {dscp : ℤ} {has has' : Prop} {q? : Option Qdisc} (h : Standing dscp has q?)
    (hiff : has ↔ has') : Standing dscp has' q? := by
  rwa [← propext hiff]

/-- The packets that are in the top band of an uplink. -/
def First (d : Devices) (iface : String) (p : Packet) : Prop :=
  ∃ q, d iface = some q ∧ q.kind = "prio" ∧ q.band p = bandMedia

/-- All that carries a mark is in the top band of an uplink exactly if the mark has a filter there. -/
lemma Standing.first_iff {dscp : ℤ} (hmark : IsMark dscp) {has : Prop} {iface : String}
    (h : Standing dscp has (d iface)) : (∀ p, Marked dscp p → First d iface p) ↔ has := by
  rcases h with ⟨hplain, hhas⟩ | ⟨q, hq, hrooted, hmem⟩
  · refine iff_of_false (fun hall => ?_) hhas
    obtain ⟨q, hq, -, hband⟩ := hall { tos := (dscp * 4).toNat, protocol := 6, dport := 0 } hmark.land
    rw [Qdisc.band, Qdisc.verdict, (hplain q hq).2] at hband
    exact absurd hband (by decide : priomap.getD (0 % 16) 0 ≠ bandMedia)
  · rw [← hmem]
    constructor
    · intro hall
      by_contra hnot
      obtain ⟨p, hp, hband⟩ := hrooted.exists_of_not_mem hmark hnot
      obtain ⟨q', hq', -, hband'⟩ := hall p hp
      obtain rfl := Option.some.inj (hq.symm.trans hq')
      exact hband hband'
    · intro hin p hp
      exact ⟨q, hq, hrooted.kind, hrooted.band_of_mem hmark hin hp⟩

/-- One more filter. -/
lemma exists_rooted_add {iface : String} (hq : d iface = some q) (hrooted : Rooted q) (possible : Bool)
    {f : Filter}
    (hf : f.keys.all (fun k => k.wellFormed) = true →
      (∃ dscp, IsMark dscp ∧ f = byMark 1 dscp bandMedia) ∨
        (∃ dscp, IsMark dscp ∧ f = byMark 2 dscp bandSignalling) ∨ ∃ cfg, f = rtpFilter cfg) :
    ∃ q', (attempt possible d (.add iface 1 f)).2 iface = some q' ∧ Rooted q' ∧
      ∀ g, g ∈ q'.filters ↔
        (g = f ∧ possible = true ∧ f.keys.all (fun k => k.wellFormed) = true) ∨ g ∈ q.filters := by
  refine ⟨_, attempt_add hq hrooted.handle possible f, ?_⟩
  by_cases hadd : (possible && f.keys.all fun k => k.wellFormed) = true
  · rw [if_pos hadd]
    rw [Bool.and_eq_true] at hadd
    refine ⟨hrooted.add (hf hadd.2), fun g => ?_⟩
    rw [Qdisc.mem_add, and_iff_left hadd]
  · rw [if_neg hadd]
    rw [Bool.and_eq_true] at hadd
    exact ⟨hrooted, fun g => (or_iff_right fun hg => hadd hg.2).symm⟩

lemma shapeUplink_of_ne {iface iface' : String} (h : iface' ≠ iface) (plan : SipPlan) (d : Devices) :
    (shapeUplink host cfg iface plan d).2 iface' = d iface' := by
  have htc : ∀ (possible : Bool) (d : Devices) (c : Command), c.dev = iface →
      (tc host possible d c).2 iface' = d iface' := by
    intro possible d c hc
    by_cases hlive : Live host
    · rw [tc_of_live hlive]
      exact attempt_of_ne (hc ▸ h) possible
    · rw [tc_of_not_live hlive]
  simp only [shapeUplink]
  split
  · exact htc _ _ _ rfl
  · simp only [htc _ _ (.add iface 1 _) rfl, htc _ _ (.replace iface (some 1) "prio") rfl]

/-- A mark that an uplink is given a media filter for. -/
def SipPlan.Marks (plan : SipPlan) (cfg : SipConfig) (dscp : ℤ) : Prop :=
  plan.replace = true ∧ plan.media = true ∧ cfg.dscpMedia = dscp

/-- What `apply_sip_qos` does to one uplink. -/
lemma Standing.shapeUplink {dscp : ℤ} (hmark : IsMark dscp) {has : Prop} {iface : String}
    (h : Standing dscp has (d iface)) (hlive : Live host) (plan : SipPlan) :
    Standing dscp (has ∨ plan.Marks cfg dscp) ((Sip.shapeUplink host cfg iface plan d).2 iface) := by
  -- the queue with which the filters begin
  obtain hfail | ⟨d₁, q₁, hreplace, heq, hq₁, hrooted₁, hmem₁⟩ : plan.replace = false ∨
      ∃ d₁ q₁, plan.replace = true ∧
        attempt plan.replace d (.replace iface (some 1) "prio") = (true, d₁) ∧ d₁ iface = some q₁ ∧
        Rooted q₁ ∧ (byMark 1 dscp bandMedia ∈ q₁.filters ↔ has) := by
    cases hreplace : plan.replace with
    | false => exact Or.inl rfl
    | true =>
      rcases h with ⟨hplain, hhas⟩ | ⟨q, hq, hrooted, hmem⟩
      · have hnew : ∀ q, d iface = some q →
            ((some 1 : Option ℕ) = none ∨ q.handle ≠ some 1) ∧ (q.kind ≠ "prio" ∨ (some 1 : Option ℕ) ≠ none) := by
          intro q hq
          exact ⟨Or.inr (by simp [(hplain q hq).1]), Or.inr (by simp)⟩
        refine Or.inr ⟨_, ⟨some 1, "prio", []⟩, rfl, attempt_replace hnew true,
          Function.update_self _ _ _, ⟨rfl, rfl, List.Pairwise.nil, by simp⟩, ?_⟩
        exact iff_of_false List.not_mem_nil hhas
      · have hsame := attempt_replace_same hq (Or.inr hrooted.handle.symm) true
        rw [hrooted.kind] at hsame
        exact Or.inr ⟨d, q, rfl, hsame, hq, hrooted, hmem⟩
  · have hsame : Sip.shapeUplink host cfg iface plan d = (false, d) := by
      simp [Sip.shapeUplink, tc_of_live hlive, hfail, attempt]
    rw [hsame]
    refine h.congr (or_iff_left fun hmarks => ?_).symm
    exact absurd (hfail.symm.trans hmarks.1) (by simp)
  · obtain ⟨q₂, hq₂, hrooted₂, hmem₂⟩ := exists_rooted_add hq₁ hrooted₁ plan.media (f := mediaFilter cfg)
      fun hwf => Or.inl ⟨_, (wellFormed_byMark _ _ _).1 hwf, rfl⟩
    obtain ⟨q₃, hq₃, hrooted₃, hmem₃⟩ := exists_rooted_add hq₂ hrooted₂ plan.signalling
      (f := signallingFilter cfg) fun hwf => Or.inr (Or.inl ⟨_, (wellFormed_byMark _ _ _).1 hwf, rfl⟩)
    obtain ⟨q₄, hq₄, hrooted₄, hmem₄⟩ := exists_rooted_add hq₃ hrooted₃ plan.rtp (f := rtpFilter cfg)
      fun _ => Or.inr (Or.inr ⟨cfg, rfl⟩)
    refine Or.inr ⟨q₄, ?_, hrooted₄, ?_⟩
    · simp only [Sip.shapeUplink, tc_of_live hlive, heq, Bool.not_true, Bool.false_eq_true, if_false]
      exact hq₄
    · -- of the three filters only the first can be the one for the mark
      rw [hmem₄, hmem₃, hmem₂, hmem₁]
      have hsig : byMark 1 dscp bandMedia ≠ signallingFilter cfg := by simp [byMark, signallingFilter]
      have hrtp : byMark 1 dscp bandMedia ≠ rtpFilter cfg := by simp [byMark, rtpFilter]
      have hmedia : byMark 1 dscp bandMedia = mediaFilter cfg ↔ cfg.dscpMedia = dscp := by
        simp [byMark, mediaFilter, eq_comm]
      have hwf : (byMark 1 dscp bandMedia).keys.all (fun k => k.wellFormed) = true :=
        (wellFormed_byMark _ _ _).2 hmark
      constructor
      · rintro (⟨heq, -⟩ | ⟨heq, -⟩ | ⟨heq, hpossible, -⟩ | hhas)
        · exact absurd heq hrtp
        · exact absurd heq hsig
        · exact Or.inr ⟨hreplace, hpossible, hmedia.1 heq⟩
        · exact Or.inl hhas
      · rintro (hhas | ⟨-, hpossible, hdscp⟩)
        · exact Or.inr (Or.inr (Or.inr hhas))
        · exact Or.inr (Or.inr (Or.inl ⟨hmedia.2 hdscp, hpossible, hmedia.2 hdscp ▸ hwf⟩))

/-! ### The ports of RTP -/

lemma wellFormed_rtpFilter (h : 1 ≤ cfg.rtpPortStart ∧ cfg.rtpPortStart ≤ 65535) :
    (rtpFilter cfg).keys.all (fun k => k.wellFormed) = true := by
  simp only [rtpFilter, List.all_cons, List.all_nil, Bool.and_true, Bool.and_eq_true,
    Key.wellFormed_iff]
  norm_num [Field.bits]
  omega

/-- The queue that a first `apply_sip_qos` gives an uplink. -/
lemma shapeUplink_of_plain {iface : String} (hlive : Live host) (hplain : Plain (d iface))
    (hmedia : IsMark cfg.dscpMedia) (hsignalling : IsMark cfg.dscpSignalling)
    (hports : 1 ≤ cfg.rtpPortStart ∧ cfg.rtpPortStart ≤ 65535) :
    shapeUplink host cfg iface {} d = (true, Function.update d iface
      (some ⟨some 1, "prio", [mediaFilter cfg, signallingFilter cfg, rtpFilter cfg]⟩)) := by
  have hnew : ∀ q, d iface = some q →
      ((some 1 : Option ℕ) = none ∨ q.handle ≠ some 1) ∧ (q.kind ≠ "prio" ∨ (some 1 : Option ℕ) ≠ none) := by
    intro q hq
    exact ⟨Or.inr (by simp [(hplain q hq).1]), Or.inr (by simp)⟩
  have hadd : ∀ (q : Qdisc) (f : Filter), q.handle = some 1 → f.keys.all (fun k => k.wellFormed) = true →
      attempt true (Function.update d iface (some q)) (.add iface 1 f) =
        (true, Function.update d iface (some (q.add f))) := by
    intro q f hq hf
    rw [attempt_add_of_wellFormed (Function.update_self _ _ _) hq hf, Function.update_idem]
  simp only [shapeUplink, tc_of_live hlive, attempt_replace hnew, if_true, Bool.not_true,
    Bool.false_eq_true, if_false]
  rw [hadd _ (mediaFilter cfg) rfl ((wellFormed_byMark _ _ _).2 hmedia),
    hadd _ (signallingFilter cfg) rfl ((wellFormed_byMark _ _ _).2 hsignalling),
    hadd _ (rtpFilter cfg) rfl (wellFormed_rtpFilter hports)]
  rfl

/-- The band of a packet there. -/
lemma band_shaped (hmedia : IsMark cfg.dscpMedia) (hsignalling : IsMark cfg.dscpSignalling) (p : Packet) :
    (⟨some 1, "prio", [mediaFilter cfg, signallingFilter cfg, rtpFilter cfg]⟩ : Qdisc).band p =
      if Marked cfg.dscpMedia p then bandMedia
      else if Marked cfg.dscpSignalling p then bandSignalling
      else if ToRtp cfg p then bandMedia
      else priomap.getD (p.priority % 16) 0 := by
  have hm : (mediaFilter cfg).matches p = decide (Marked cfg.dscpMedia p) := by
    rw [Bool.eq_iff_iff, decide_eq_true_iff]
    exact matches_byMark hmedia 1 bandMedia p
  have hs : (signallingFilter cfg).matches p = decide (Marked cfg.dscpSignalling p) := by
    rw [Bool.eq_iff_iff, decide_eq_true_iff]
    exact matches_byMark hsignalling 2 bandSignalling p
  have hr : (rtpFilter cfg).matches p = decide (ToRtp cfg p) := by
    rw [Bool.eq_iff_iff, decide_eq_true_iff]
    exact matches_rtpFilter cfg p
  simp only [Qdisc.band, Qdisc.verdict, List.find?, hm, hs, hr]
  split_ifs with h₁ h₂ h₃
  · simp only [h₁, decide_true]
    rfl
  · simp only [h₁, h₂, decide_true, decide_false]
    rfl
  · simp only [h₁, h₂, h₃, decide_true, decide_false]
    rfl
  · simp only [h₁, h₂, h₃, decide_false]
    rfl

lemma land_shiftLeft (n m k : ℕ) : n &&& m <<< k = (n >>> k &&& m) <<< k := by
  refine Nat.eq_of_testBit_eq fun i => ?_
  by_cases hi : k ≤ i
  · simp [Nat.testBit_shiftLeft, Nat.testBit_shiftRight, hi]
  · simp [Nat.testBit_shiftLeft, hi]

/-- The mask of the filter leaves the top two bits of a port. -/
lemma land_mask {n : ℕ} (h : n < 2 ^ 16) : n &&& 0xc000 = n / 2 ^ 14 * 2 ^ 14 := by
  have hlow : n >>> 14 &&& 3 = n >>> 14 := by
    rw [show (3 : ℕ) = 2 ^ 2 - 1 from rfl, Nat.and_two_pow_sub_one_eq_mod, Nat.shiftRight_eq_div_pow]
    omega
  rw [show (0xc000 : ℕ) = 3 <<< 14 from rfl, land_shiftLeft, hlow, Nat.shiftLeft_eq, Nat.shiftRight_eq_div_pow]

lemma toRtp_iff (hports : 1 ≤ cfg.rtpPortStart ∧ cfg.rtpPortStart ≤ 65535) {p : Packet}
    (hudp : p.protocol = 17) (hport : p.dport < 2 ^ 16) :
    ToRtp cfg p ↔ p.dport / 2 ^ 14 = cfg.rtpPortStart.toNat / 2 ^ 14 := by
  rw [ToRtp, hudp, land_mask hport, land_mask (by omega)]
  constructor
  · rintro ⟨-, heq⟩
    omega
  · intro heq
    exact ⟨rfl, by rw [heq]⟩

/-- **The ports of RTP.**  On an uplink that gets its first queue, the UDP packets without a mark, and
without a priority on the host, that go to the top band are those to the configured ports if and only if
these are one of the four blocks of `2 ^ 14` ports. -/
theorem rtp_ports_iff (host : Host) (hlive : Live host) (cfg : SipConfig)
    (hports : 1 ≤ cfg.rtpPortStart ∧ cfg.rtpPortStart ≤ cfg.rtpPortEnd ∧ cfg.rtpPortEnd ≤ 65535)
    (hmedia : IsMark cfg.dscpMedia) (hsignalling : IsMark cfg.dscpSignalling) (iface : String)
    (d : Devices) (hplain : Plain (d iface)) :
    (∀ p : Packet, p.protocol = 17 → p.dport < 2 ^ 16 → p.priority = 0 →
      ¬ Marked cfg.dscpMedia p → ¬ Marked cfg.dscpSignalling p →
        (First (applySipQos host cfg [(iface, {})] d).2 iface p ↔
          cfg.rtpPortStart ≤ p.dport ∧ p.dport ≤ cfg.rtpPortEnd)) ↔
      2 ^ 14 ∣ cfg.rtpPortStart ∧ cfg.rtpPortEnd = cfg.rtpPortStart + 2 ^ 14 - 1 := by
  have hstart : 1 ≤ cfg.rtpPortStart ∧ cfg.rtpPortStart ≤ 65535 := ⟨hports.1, hports.2.1.trans hports.2.2⟩
  -- which of the packets go to the top band
  have hfirst : ∀ p : Packet, p.protocol = 17 → p.dport < 2 ^ 16 → p.priority = 0 →
      ¬ Marked cfg.dscpMedia p → ¬ Marked cfg.dscpSignalling p →
        (First (applySipQos host cfg [(iface, {})] d).2 iface p ↔
          p.dport / 2 ^ 14 = cfg.rtpPortStart.toNat / 2 ^ 14) := by
    intro p hudp hlt hpriority hnm hns
    have hgo : (!host.which "tc" && !host.dryRun) = false := by simp [hlive.2]
    rw [← toRtp_iff hstart hudp hlt, applySipQos, if_neg (by simp), hgo, if_neg (by simp), shapeUplinks,
      shapeUplink_of_plain hlive hplain hmedia hsignalling hstart]
    simp only [shapeUplinks, if_true, First, Function.update_self]
    constructor
    · rintro ⟨q, hq, -, hband⟩
      rw [← Option.some.inj hq, band_shaped hmedia hsignalling, if_neg hnm, if_neg hns, hpriority] at hband
      by_contra hnot
      rw [if_neg hnot] at hband
      exact absurd hband (by decide)
    · intro hrtp
      refine ⟨_, rfl, rfl, ?_⟩
      rw [band_shaped hmedia hsignalling, if_neg hnm, if_neg hns, if_pos hrtp]
  -- a mark that is neither
  obtain ⟨tos, hm, hs⟩ : ∃ tos : ℕ, (∀ p : Packet, p.tos = tos → ¬ Marked cfg.dscpMedia p) ∧
      ∀ p : Packet, p.tos = tos → ¬ Marked cfg.dscpSignalling p := by
    have hother : ∃ n : ℕ, n < 3 ∧ (n : ℤ) ≠ cfg.dscpMedia ∧ (n : ℤ) ≠ cfg.dscpSignalling := by
      by_contra hnone
      push Not at hnone
      have h₀ := hnone 0 (by norm_num)
      have h₁ := hnone 1 (by norm_num)
      have h₂ := hnone 2 (by norm_num)
      omega
    obtain ⟨n, hn, hnm, hns⟩ := hother
    have hland : n * 4 &&& 0xfc = n * 4 := by
      have hmark := IsMark.land (show IsMark n from ⟨by omega, by omega⟩)
      have hcast : ((n : ℤ) * 4).toNat = n * 4 := by omega
      rwa [hcast] at hmark
    refine ⟨n * 4, fun p hp hmarked => ?_, fun p hp hmarked => ?_⟩
    · rw [Marked, hp, hland] at hmarked
      have := hmedia.1
      omega
    · rw [Marked, hp, hland] at hmarked
      have := hsignalling.1
      omega
  constructor
  · intro hall
    have hport : ∀ port : ℕ, port < 2 ^ 16 → (port / 2 ^ 14 = cfg.rtpPortStart.toNat / 2 ^ 14 ↔
        cfg.rtpPortStart ≤ port ∧ port ≤ cfg.rtpPortEnd) := by
      intro port hlt
      have hp := hall ⟨tos, 17, port, 0⟩ rfl hlt rfl (hm _ rfl) (hs _ rfl)
      rwa [hfirst ⟨tos, 17, port, 0⟩ rfl hlt rfl (hm _ rfl) (hs _ rfl)] at hp
    -- the first and the last port of the block are the first and the last that are configured
    have hlow := hport (cfg.rtpPortStart.toNat / 2 ^ 14 * 2 ^ 14) (by omega)
    have hhigh := hport (cfg.rtpPortStart.toNat / 2 ^ 14 * 2 ^ 14 + (2 ^ 14 - 1)) (by omega)
    have hlast := hport cfg.rtpPortEnd.toNat (by omega)
    omega
  · rintro ⟨hdvd, hend⟩ p hudp hlt hpriority hnm hns
    rw [hfirst p hudp hlt hpriority hnm hns]
    omega

/-- A host with `tc`, on which nothing has touched the uplinks. -/
def untouched : Host := ⟨false, fun _ => true⟩

theorem rtp_ports_iff_default :
    (∀ p : Packet, p.protocol = 17 → p.dport < 2 ^ 16 → p.priority = 0 →
      ¬ Marked 46 p → ¬ Marked 24 p →
        (First (applySipQos untouched {} [("wwan0", {})] fun _ => none).2 "wwan0" p ↔
          (10000 : ℤ) ≤ p.dport ∧ (p.dport : ℤ) ≤ 65535)) ↔
      (2 ^ 14 : ℤ) ∣ 10000 ∧ (65535 : ℤ) = 10000 + 2 ^ 14 - 1 :=
  rtp_ports_iff untouched ⟨rfl, rfl⟩ {} (by decide) (by decide) (by decide) "wwan0" (fun _ => none)
    (by simp [Plain])

/-- By default a query for a name goes first, and media to most of the ports does not. -/
example :
    let d := (applySipQos untouched {} [("wwan0", {})] fun _ => none).2
    (d "wwan0").map (fun q => (q.band { tos := 0, protocol := 17, dport := 53 },
      q.band { tos := 0, protocol := 17, dport := 20000 })) = some (bandMedia, bandSignalling) := by
  decide +kernel

end Turbobond.Sip
