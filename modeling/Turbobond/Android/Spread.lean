import Turbobond.Android.DatapathSteps
import Turbobond.Lib.RoundRobin

/-!
# The spread of packets on Android

`pumpTun` picks the uplink of a packet by a cursor that is an `Int`.  Up to `2 ^ 31` packets take
turns; after that the cursor is negative, and the remainder is negative too unless the number of
uplinks divides it.
-/

namespace Turbobond.Android.Datapath

/-- `pumpTun` takes a packet and looks for its uplink. -/
def Takes (d : Datapath) : Event → Bool
  | .tunRead data => d.phase = .running && d.Resting .tun && data ≠ [] && d.links ≠ []
  | _ => false

/-- How many packets are taken. -/
def taken : List Event → Datapath → ℕ
  | [], _ => 0
  | e :: events, d => (if d.Takes e then 1 else 0) + taken events (d.step e).2

/-- The uplinks that a packet is to be sent over, its own first. -/
def carriers (d : Datapath) (e : Event) : List ℕ :=
  if d.Takes e then ((d.step e).2.senders .tun).calls.map Call.uplink else []

/-- The uplinks that the packets are given to, in order. -/
def owners : List Event → Datapath → List ℕ
  | [], _ => []
  | e :: events, d => (d.carriers e).head?.toList ++ owners events (d.step e).2

/-- The remainder that `pumpTun` takes for an index is negative. -/
def BadIndex (d : Datapath) : Prop := d.cursor.toInt.tmod d.links.length < 0

variable {d : Datapath}

lemma takes_iff {e : Event} : d.Takes e = true ↔
    ∃ data, e = .tunRead data ∧ d.phase = .running ∧ d.senders .tun = .resting ∧ data ≠ [] ∧
      d.links ≠ [] := by
  cases e with
  | tunRead data =>
    simp only [Takes, Bool.and_eq_true, decide_eq_true_eq, resting_iff]
    constructor
    · rintro ⟨⟨⟨hphase, hrest⟩, hdata⟩, hlinks⟩
      exact ⟨data, rfl, hphase, hrest, hdata, hlinks⟩
    · rintro ⟨data', heq, hphase, hrest, hdata, hlinks⟩
      obtain rfl := Event.tunRead.inj heq
      exact ⟨⟨⟨hphase, hrest⟩, hdata⟩, hlinks⟩
  | _ => exact iff_of_false (by simp [Takes]) (by simp)

lemma take_ne_nil {data : Bytes} (h : data ≠ []) : data.take (mtu + 128) ≠ [] := by
  cases data with
  | nil => exact absurd rfl h
  | cons b data => simp [mtu]

/-! ### One packet -/

/-- The index is negative when the cursor is and the number of uplinks does not divide it. -/
lemma badIndex_iff : d.BadIndex ↔ d.cursor.toInt < 0 ∧ ¬ (d.links.length : ℤ) ∣ d.cursor.toInt := by
  rw [BadIndex]
  rcases le_or_gt 0 d.cursor.toInt with hpos | hneg
  · have hnonneg := Int.tmod_nonneg (d.links.length : ℤ) hpos
    exact iff_of_false (by omega) (by omega)
  · rw [Int.dvd_iff_tmod_eq_zero]
    have hle : d.cursor.toInt.tmod d.links.length ≤ 0 := by
      have hopp := Int.tmod_nonneg (d.links.length : ℤ) (a := -d.cursor.toInt) (by omega)
      rw [Int.neg_tmod] at hopp
      omega
    omega

/-- The uplinks of a small packet other than its own. -/
def others (d : Datapath) (packet : Bytes) (uplink : ℕ) : List ℕ :=
  if packet.length ≤ duplicateUnder ∧ 1 < d.links.length then d.links.filter (· ≠ uplink) else []

lemma pumpTun_of_bad {packet : Bytes} (hpacket : packet ≠ []) (hlinks : d.links ≠ [])
    (hbad : d.BadIndex) : (d.pumpTun packet).phase = .crashed := by
  rw [pumpTun, if_neg (not_or.2 ⟨hpacket, hlinks⟩)]
  simp only
  rw [if_pos (show d.cursor.toInt.tmod d.links.length < 0 from hbad)]

/-- The uplink whose turn it is, when the index is not negative. -/
lemma exists_turn_of_not_bad (hlinks : d.links ≠ []) (hbad : ¬ d.BadIndex) :
    ∃ uplink, d.links[(d.cursor.toInt.tmod d.links.length).toNat]? = some uplink := by
  have hpos : (0 : ℤ) < d.links.length := by exact_mod_cast List.length_pos_of_ne_nil hlinks
  have hlt := Int.tmod_lt_of_pos d.cursor.toInt hpos
  rw [BadIndex, not_lt] at hbad
  exact ⟨_, List.getElem?_eq_getElem (by omega)⟩

lemma pumpTun_of_not_bad {packet : Bytes} (hpacket : packet ≠ []) (hlinks : d.links ≠ [])
    (hbad : ¬ d.BadIndex) {uplink : ℕ}
    (huplink : d.links[(d.cursor.toInt.tmod d.links.length).toNat]? = some uplink) :
    (d.pumpTun packet).phase = d.phase ∧
      ((d.pumpTun packet).senders .tun).calls.map Call.uplink =
        uplink :: d.others packet uplink := by
  rw [pumpTun, if_neg (not_or.2 ⟨hpacket, hlinks⟩)]
  simp only
  rw [if_neg (show ¬ d.cursor.toInt.tmod d.links.length < 0 from hbad), huplink]
  refine ⟨rfl, ?_⟩
  simp only [setSender, Function.update_self, List.map_map]
  exact List.map_id _

lemma step_tunRead (hphase : d.phase = .running) (hrest : d.senders .tun = .resting) (data : Bytes) :
    d.step (.tunRead data) = ([], d.pumpTun (data.take (mtu + 128))) := by
  rw [step.eq_def, if_neg (by rw [hphase]; decide)]
  simp only
  rw [if_pos ⟨hphase, resting_iff.2 hrest⟩]

/-- A packet that is taken crashes the service, or goes to the uplink whose turn it is, and if it is
small to all the others as well. -/
lemma step_of_takes {data : Bytes} (h : d.Takes (.tunRead data) = true) :
    ((d.step (.tunRead data)).2.phase = .crashed ∧ d.BadIndex) ∨
      ((d.step (.tunRead data)).2.phase = .running ∧ ¬ d.BadIndex ∧
        ∃ uplink, d.links[(d.cursor.toInt.tmod d.links.length).toNat]? = some uplink ∧
          d.carriers (.tunRead data) = uplink :: d.others (data.take (mtu + 128)) uplink) := by
  obtain ⟨data', heq, hphase, hrest, hdata, hlinks⟩ := takes_iff.1 h
  obtain rfl := Event.tunRead.inj heq
  have hstep := step_tunRead hphase hrest data
  by_cases hbad : d.BadIndex
  · refine Or.inl ⟨?_, hbad⟩
    rw [hstep]
    exact pumpTun_of_bad (take_ne_nil hdata) hlinks hbad
  · obtain ⟨uplink, huplink⟩ := exists_turn_of_not_bad hlinks hbad
    obtain ⟨hphase', hcalls⟩ := pumpTun_of_not_bad (take_ne_nil hdata) hlinks hbad huplink
    refine Or.inr ⟨?_, hbad, uplink, huplink, ?_⟩
    · rw [hstep]
      exact hphase'.trans hphase
    · rw [carriers, if_pos h, hstep]
      exact hcalls

/-- The cursor counts the packets that are taken. -/
lemma cursor_step (d : Datapath) (e : Event) :
    (d.step e).2.cursor = d.cursor + if d.Takes e then 1 else 0 := by
  by_cases htakes : d.Takes e = true
  · obtain ⟨data, rfl, hphase, hrest, hdata, hlinks⟩ := takes_iff.1 htakes
    rw [if_pos htakes, step_tunRead hphase hrest data, pumpTun]
    simp only
    rw [if_neg (not_or.2 ⟨take_ne_nil hdata, hlinks⟩)]
    split
    · rfl
    · split
      · rfl
      · rfl
  · rw [if_neg htakes]
    obtain ⟨out, d', heq, hturn⟩ := d.exists_turn e
    rw [heq]
    have hzero : d.cursor + 0 = d.cursor := BitVec.add_zero _
    rw [hzero]
    cases hturn with
    | rest _ _ hq => exact hq.2
    | greet => rfl
    | @number data packet _ _ hpacket hrunning hrest =>
      refine absurd (takes_iff.2 ⟨data, rfl, hrunning.1, hrest, ?_, hrunning.2⟩) htakes
      rintro rfl
      exact hpacket.2 hpacket.1
    | call _ _ _ _ _ hq => exact hq.2
    | enter => rfl
    | count => rfl
    | transmit _ _ _ _ hq => exact hq.2

lemma cursor_run (events : List Event) (d : Datapath) :
    (run events d).2.cursor = d.cursor + BitVec.ofNat 32 (taken events d) := by
  induction events generalizing d with
  | nil => exact (BitVec.add_zero _).symm
  | cons e events ih =>
    rw [run, Machine.run_cons, ← run, ih, cursor_step, taken, BitVec.ofNat_add, BitVec.add_assoc]
    congr 1
    congr 1
    split_ifs <;> rfl

/-! ### Crashes -/

lemma isLong_seq (f : Frame) (now : ℤ) :
    (ReorderBuffer.Op.push f.seq.toInt f.payload now).IsLong := by
  have hle := f.seq.le_toInt
  have hlt := f.seq.toInt_lt
  norm_num [ReorderBuffer.Op.IsLong, maxLong] at hle hlt ⊢
  omega

lemma tidy_step (h : d.reorder.Tidy) (e : Event) : (d.step e).2.reorder.Tidy := by
  obtain ⟨out, d', heq, hturn⟩ := d.exists_turn e
  rw [heq]
  cases hturn with
  | rest _ _ _ hr =>
    rw [hr]
    exact h
  | greet => exact h
  | number _ _ _ _ _ _ _ hr =>
    rw [hr]
    exact h
  | call op hop hcall _ _ _ hr =>
    have hlong : op.IsLong := by
      rcases hop with ⟨now, -, rfl⟩ | ⟨uplink, data, now, f, -, -, -, -, rfl⟩
      · trivial
      · exact isLong_seq f now
    obtain ⟨hok, htidy⟩ := h.call hlong
    rw [hr, Except.ok.inj (hcall.symm.trans hok)]
    exact htidy
  | enter => exact h
  | count => exact h
  | transmit _ _ _ _ _ hr =>
    rw [hr]
    exact h

lemma tidy_run (events : List Event) (h : d.reorder.Tidy) : (run events d).2.reorder.Tidy :=
  Machine.run_invariant_nil step (I := fun d _ => d.reorder.Tidy)
    (fun _ _ e hd => tidy_step hd e) events h

lemma phase_stopTunnel (h : d.phase ≠ .crashed) : d.stopTunnel.phase ≠ .crashed := by
  rw [stopTunnel]
  split_ifs
  · simp
  · exact h

lemma phase_fail (h : d.phase ≠ .crashed) : d.fail.phase ≠ .crashed := by
  refine phase_stopTunnel ?_
  change (if d.phase = .pairing then Phase.stopped else d.phase) ≠ .crashed
  split_ifs
  · simp
  · exact h

/-- The reorder buffer throws nothing. -/
lemma phase_resequence {d₁ : Datapath} (h : d.reorder.Tidy) (hphase : d₁.phase ≠ .crashed)
    {op : ReorderBuffer.Op Bytes} (hlong : op.IsLong) :
    (d₁.resequence (d.reorder.call op)).2.phase ≠ .crashed := by
  rw [(h.call hlong).1]
  exact hphase

lemma phase_pumpNetwork (h : d.reorder.Tidy) (hphase : d.phase ≠ .crashed) (uplink : ℕ)
    (data : Bytes) (now : ℤ) : (d.pumpNetwork uplink data now).2.phase ≠ .crashed := by
  rw [pumpNetwork]
  split
  · exact hphase
  split
  · exact hphase
  · rename_i f _ _ _
    split_ifs
    · exact hphase
    · refine phase_resequence h ?_ (isLong_seq f now)
      exact hphase
  · exact hphase

lemma phase_pairRead (hphase : d.phase ≠ .crashed) (uplink : ℕ) (data : Bytes) (now : ℤ)
    (granted : Bool) : (d.pairRead uplink data now granted).phase ≠ .crashed := by
  rw [pairRead]
  split
  · exact hphase
  split_ifs
  · simp
  · exact phase_fail hphase
  · exact hphase

lemma phase_enter (d : Datapath) (thread : Thread) : (d.enter thread).phase = d.phase := by
  rw [enter]
  split <;> rfl

lemma phase_count (d : Datapath) (thread : Thread) : (d.count thread).phase = d.phase := by
  rw [count]
  split
  · split <;> rfl
  · rfl

lemma phase_transmit (d : Datapath) (thread : Thread) : (d.transmit thread).2.phase = d.phase := by
  rw [transmit]
  split
  · split
    · rfl
    · simp only
      split <;> rfl
  · rfl

/-- An event other than a packet from the TUN device crashes nothing. -/
lemma phase_step (h : d.reorder.Tidy) (hphase : d.phase ≠ .crashed) {e : Event}
    (he : ∀ data, e ≠ .tunRead data) : (d.step e).2.phase ≠ .crashed := by
  rw [step.eq_def, if_neg hphase]
  cases e with
  | available network label protectedOk boundOk => simp only; split_ifs <;> exact hphase
  | lost network => simp only; split_ifs <;> exact hphase
  | pairRound => simp only; split_ifs <;> exact hphase
  | pairRead uplink data now granted =>
    simp only
    split_ifs
    · exact phase_pairRead hphase _ _ _ _
    · exact hphase
  | pairTimedOut =>
    simp only
    split_ifs
    · exact phase_fail hphase
    · exact hphase
  | tunRead data => exact absurd rfl (he data)
  | netRead uplink data now =>
    simp only
    split_ifs
    · exact phase_pumpNetwork h hphase _ _ _
    · exact hphase
  | netTick now =>
    simp only
    split_ifs
    · have hlong : (ReorderBuffer.Op.tick now : ReorderBuffer.Op Bytes).IsLong := trivial
      exact phase_resequence h hphase hlong
    · exact hphase
  | keepaliveRound => simp only; split_ifs <;> exact hphase
  | watchdog now =>
    simp only
    split_ifs
    · exact phase_fail hphase
    · exact hphase
  | enter thread =>
    rw [phase_enter]
    exact hphase
  | count thread =>
    rw [phase_count]
    exact hphase
  | transmit thread =>
    rw [phase_transmit]
    exact hphase
  | stop => exact phase_stopTunnel hphase

/-- Nothing but a packet that finds a negative index crashes the service. -/
lemma crashed_step (h : d.reorder.Tidy) (hphase : d.phase ≠ .crashed) (e : Event) :
    (d.step e).2.phase = .crashed ↔ d.Takes e = true ∧ d.BadIndex := by
  by_cases htakes : d.Takes e = true
  · obtain ⟨data, rfl, -⟩ := takes_iff.1 htakes
    rcases step_of_takes htakes with ⟨hcrashed, hbad⟩ | ⟨hrunning, hbad, -⟩
    · exact iff_of_true hcrashed ⟨htakes, hbad⟩
    · exact iff_of_false (by rw [hrunning]; decide) fun hcase => hbad hcase.2
  · refine iff_of_false ?_ fun hcase => htakes hcase.1
    by_cases he : ∀ data, e ≠ .tunRead data
    · exact phase_step h hphase he
    · -- a packet that is not taken changes nothing
      push Not at he
      obtain ⟨data, rfl⟩ := he
      rw [step.eq_def, if_neg hphase]
      simp only
      split_ifs with hready
      · have hnone : data = [] ∨ d.links = [] := by
          by_contra hsome
          rw [not_or] at hsome
          exact htakes (takes_iff.2
            ⟨data, rfl, hready.1, resting_iff.1 hready.2, hsome.1, hsome.2⟩)
        have hnone' : data.take (mtu + 128) = [] ∨ d.links = [] := by
          rcases hnone with rfl | hnone
          · exact Or.inl rfl
          · exact Or.inr hnone
        rw [pumpTun, if_pos hnone']
        exact hphase
      · exact hphase

/-- The cursor is negative, and not a multiple of the number of uplinks, in terms of the packets
taken before. -/
lemma badIndex_iff_of_cursor {c : ℕ} (hcursor : d.cursor = BitVec.ofNat 32 c) :
    d.BadIndex ↔ 2 ^ 31 ≤ c % 2 ^ 32 ∧ ¬ d.links.length ∣ 2 ^ 32 - c % 2 ^ 32 := by
  have hlt : c % 2 ^ 32 < 2 ^ 32 := Nat.mod_lt _ (by norm_num)
  have htoNat : d.cursor.toNat = c % 2 ^ 32 := by rw [hcursor, BitVec.toNat_ofNat]
  rw [badIndex_iff]
  by_cases hsmall : c % 2 ^ 32 < 2 ^ 31
  · have hint : d.cursor.toInt = (c % 2 ^ 32 : ℕ) := by
      rw [BitVec.toInt_eq_toNat_of_lt (by omega), htoNat]
    rw [hint]
    exact iff_of_false (by omega) (by omega)
  · have hint : d.cursor.toInt = -((2 ^ 32 - c % 2 ^ 32 : ℕ) : ℤ) := by
      rw [BitVec.toInt_eq_toNat_cond, if_neg (by omega), htoNat]
      omega
    rw [hint, Int.dvd_neg, Int.natCast_dvd_natCast]
    refine and_congr ?_ Iff.rfl
    omega

lemma step_of_crashed (h : d.phase = .crashed) (e : Event) : d.step e = ([], d) := by
  rw [step.eq_def, if_pos h]

lemma tracks_run (events : List Event) (h : d.manager.Tracks) :
    (run events d).2.manager.Tracks :=
  Machine.run_invariant_nil step (I := fun d _ => d.manager.Tracks)
    (fun _ _ e hd => tracks_step hd e) events h

/-- While the cursor is not negative, the uplink is the one whose turn it is. -/
lemma carriers_of_cursor {c : ℕ} (hcursor : d.cursor = BitVec.ofNat 32 c) (hc : c < 2 ^ 31)
    {data : Bytes} (h : d.Takes (.tunRead data) = true) :
    ∃ uplink, d.links[c % d.links.length]? = some uplink ∧
      d.carriers (.tunRead data) = uplink :: d.others (data.take (mtu + 128)) uplink := by
  have hint : d.cursor.toInt = (c : ℤ) := by
    have htoNat : d.cursor.toNat = c := by
      rw [hcursor, BitVec.toNat_ofNat, Nat.mod_eq_of_lt (by omega)]
    rw [BitVec.toInt_eq_toNat_of_lt (by omega), htoNat]
  have hindex : (d.cursor.toInt.tmod d.links.length).toNat = c % d.links.length := by
    rw [hint]
    exact congrArg Int.toNat (Int.ofNat_tmod c d.links.length).symm
  rcases step_of_takes h with ⟨-, hbad⟩ | ⟨-, -, uplink, huplink, hcarriers⟩
  · rw [badIndex_iff, hint] at hbad
    omega
  · rw [hindex] at huplink
    exact ⟨uplink, huplink, hcarriers⟩

/-- The packets take turns over the uplinks as long as these stay the same. -/
lemma owners_eq_picks {L : List ℕ} (events : List Event) :
    ∀ {d : Datapath} {c : ℕ} {hist : List Bond.Effect}, d.cursor = BitVec.ofNat 32 c →
      c + taken events d ≤ 2 ^ 31 →
      Machine.Meets step (fun d _ e => d.Takes e = true → d.links = L) events d hist →
        owners events d = RoundRobin.picks L c (taken events d) := by
  induction events with
  | nil => exact fun _ _ _ => rfl
  | cons e events ih =>
    intro d c hist hcursor hfew hmeets
    rw [owners, taken]
    rw [taken] at hfew
    have hcursor' := d.cursor_step e
    by_cases htakes : d.Takes e = true
    · rw [if_pos htakes] at hcursor' hfew ⊢
      obtain ⟨data, rfl, -⟩ := takes_iff.1 htakes
      obtain ⟨uplink, huplink, hcarriers⟩ := carriers_of_cursor hcursor (by omega) htakes
      rw [hcursor] at hcursor'
      rw [Nat.add_comm 1, RoundRobin.picks_succ', hcarriers,
        ih (hcursor'.trans (BitVec.ofNat_add c 1).symm) (by omega) hmeets.2, ← hmeets.1 htakes,
        huplink]
      rfl
    · rw [if_neg htakes] at hcursor' hfew ⊢
      rw [carriers, if_neg htakes]
      rw [Nat.zero_add, ih (hcursor'.trans ((BitVec.add_zero _).trans hcursor)) (by omega) hmeets.2]
      rfl

/-- What a packet is sent over: its own uplink, and all the others if it is small. -/
def Spread (L : List ℕ) (d : Datapath) (e : Event) : Prop :=
  ∀ data, e = .tunRead data → d.Takes e = true →
    if (data.take (mtu + 128)).length ≤ duplicateUnder then (d.carriers e).Perm L
    else (d.carriers e).length = 1

/-- A small packet is sent once over every uplink. -/
lemma perm_links (hnodup : d.links.Nodup) {packet : Bytes} (hsmall : packet.length ≤ duplicateUnder)
    {uplink : ℕ} (huplink : uplink ∈ d.links) :
    (uplink :: d.others packet uplink).Perm d.links := by
  rw [others]
  by_cases hmany : 1 < d.links.length
  · rw [if_pos ⟨hsmall, hmany⟩]
    have herase : d.links.filter (· ≠ uplink) = d.links.erase uplink := by
      rw [hnodup.erase_eq_filter]
      exact List.filter_congr fun x _ => by simp [bne, beq_eq_decide]
    rw [herase]
    exact (List.perm_cons_erase huplink).symm
  · rw [if_neg fun h => hmany h.2]
    obtain ⟨x, hx⟩ := List.length_eq_one_iff.1
      (Nat.le_antisymm (not_lt.1 hmany) (List.length_pos_of_mem huplink))
    rw [hx] at huplink ⊢
    rw [List.mem_singleton.1 huplink]

lemma spread_of_takes (htracks : d.manager.Tracks) {c : ℕ} (hcursor : d.cursor = BitVec.ofNat 32 c)
    {e : Event} (hc : d.Takes e = true → c < 2 ^ 31) {L : List ℕ}
    (hsame : d.Takes e = true → d.links = L) : Spread L d e := by
  rintro data rfl htakes
  obtain ⟨uplink, huplink, hcarriers⟩ := carriers_of_cursor hcursor (hc htakes) htakes
  rw [hcarriers, ← hsame htakes]
  split_ifs with hsmall
  · exact perm_links htracks.nodup_uplinks hsmall (List.mem_of_getElem? huplink)
  · rw [others, if_neg fun h => hsmall h.1]
    rfl

lemma meets_spread {L : List ℕ} (events : List Event) :
    ∀ {d : Datapath} {c : ℕ} {hist : List Bond.Effect}, d.manager.Tracks →
      d.cursor = BitVec.ofNat 32 c → c + taken events d ≤ 2 ^ 31 →
      Machine.Meets step (fun d _ e => d.Takes e = true → d.links = L) events d hist →
        Machine.Meets step (fun d _ e => Spread L d e) events d hist := by
  induction events with
  | nil => exact fun _ _ _ _ => trivial
  | cons e events ih =>
    intro d c hist htracks hcursor hfew hmeets
    rw [taken] at hfew
    refine ⟨spread_of_takes htracks hcursor (fun htakes => ?_) hmeets.1,
      ih (c := c + if d.Takes e then 1 else 0) (tracks_step htracks e) ?_ (by omega) hmeets.2⟩
    · rw [if_pos htakes] at hfew
      omega
    · rw [cursor_step, hcursor, BitVec.ofNat_add]
      congr 1
      split_ifs <;> rfl

/-- The uplinks that a packet has met are distinct. -/
lemma nodup_of_taken {L : List ℕ} (events : List Event) :
    ∀ {d : Datapath} {hist : List Bond.Effect}, d.manager.Tracks → taken events d ≠ 0 →
      Machine.Meets step (fun d _ e => d.Takes e = true → d.links = L) events d hist → L.Nodup := by
  induction events with
  | nil => exact fun _ hne _ => absurd rfl hne
  | cons e events ih =>
    intro d hist htracks hne hmeets
    by_cases htakes : d.Takes e = true
    · rw [← hmeets.1 htakes]
      exact htracks.nodup_uplinks
    · rw [taken, if_neg htakes, Nat.zero_add] at hne
      exact ih (tracks_step htracks e) hne hmeets.2

/-- **Evenness.**  Whatever came before, while the uplinks stay the same and as long as no more than
`2 ^ 31` packets have been taken in all, every uplink is given its share of the packets, rounded down
or up; a small packet is sent once over each of the others as well, a larger one over none. -/
theorem spread_evenly (sealer : Util.Sealer) (sessionId : BitVec 32) (address : Bond.Addr)
    (sequence : BitVec 64) (before events : List Event) (L : List ℕ)
    (hsame : Machine.Meets step (fun d _ e => d.Takes e = true → d.links = L) events
      (run before (start sealer sessionId address sequence)).2 [])
    (hfew : taken before (start sealer sessionId address sequence) +
      taken events (run before (start sealer sessionId address sequence)).2 ≤ 2 ^ 31) :
    let d := (run before (start sealer sessionId address sequence)).2
    (∀ uplink ∈ L, taken events d / L.length ≤ (owners events d).count uplink ∧
        (owners events d).count uplink ≤ (taken events d + L.length - 1) / L.length) ∧
      Machine.Meets step (fun d _ e => Spread L d e) events d [] := by
  intro d
  have htracks : d.manager.Tracks := tracks_run before .started
  have hcursor : d.cursor = BitVec.ofNat 32 (taken before (start sealer sessionId address sequence)) := by
    rw [cursor_run]
    exact BitVec.zero_add _
  refine ⟨fun uplink huplink => ?_, meets_spread events htracks hcursor hfew hsame⟩
  rw [owners_eq_picks events hcursor hfew hsame]
  by_cases hnone : taken events d = 0
  · rw [hnone, Nat.zero_div]
    exact ⟨Nat.zero_le _, Nat.zero_le _⟩
  · exact RoundRobin.count_picks (nodup_of_taken events htracks hnone hsame) huplink _ _

/-- A phone with two radios pairs. -/
def twoRadios : List Event :=
  [.available 0 "wifi" true true, .available 1 "cellular" true true,
    .pairRead 0
      (Bond.datagram ⟨Util.Aead.plain⟩
        { type := .handshakeAck, sessionId := 7, linkId := 1, counter := 1 }) 1000 true]

/-- It takes two packets; the first is copied. -/
def twoPackets : List Event :=
  [.tunRead [1], .enter .tun, .count .tun, .transmit .tun, .enter .tun, .count .tun, .transmit .tun,
    .tunRead (List.replicate 300 2)]

theorem spread_evenly_twoPackets :
    let d := (run twoRadios (start ⟨Util.Aead.plain⟩ 7 ("198.51.100.1", 8443) 0)).2
    (∀ uplink ∈ [0, 1], taken twoPackets d / 2 ≤ (owners twoPackets d).count uplink ∧
        (owners twoPackets d).count uplink ≤ (taken twoPackets d + 2 - 1) / 2) ∧
      Machine.Meets step (fun d _ e => Spread [0, 1] d e) twoPackets d [] :=
  spread_evenly ⟨Util.Aead.plain⟩ 7 ("198.51.100.1", 8443) 0 twoRadios twoPackets [0, 1]
    (by decide +kernel) (by decide +kernel)

end Turbobond.Android.Datapath
