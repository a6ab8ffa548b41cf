import Turbobond.Android.Psk
import Turbobond.Lib.Machine

/-!
# The service on Android

The life of `BondVpnService`: its two flags, what it holds, and the status it publishes, under the
commands of the system, the outcomes of its pairing threads and its watchdog.  Each of them is one
step.  The hash function of the key comes from outside the repository and is a parameter.
-/

namespace Turbobond.Android

/-- `isNotBlank`. -/
def isNotBlank (s : String) : Bool := (utf16 s.toList).any fun c => !isWhitespace c

structure Settings where
  host : String
  port : ℤ
  psk : String
  proxyPort : ℤ
  deriving DecidableEq

def Settings.isComplete (settings : Settings) : Bool :=
  isNotBlank settings.host && isNotBlank settings.psk &&
    decide (1 ≤ settings.port ∧ settings.port ≤ 65535)

/-- `Sealer.fromPsk`, as far as its key; the error is the message of the `BondException`. -/
def fromPsk (blake2b : Util.Blake2b) (psk : String) : Except String Bytes := do
  let key ← deriveKey blake2b (utf16 psk.toList)
  if key.length ≠ keyLen then throw s!"tunnel key must be {keyLen} bytes, got {key.length}"
  return key

/-- An uplink as the status shows it. -/
structure Uplink where
  transport : String
  acked : Bool

/-- The service, with the uplink managers it has made and the status of the app. -/
structure BondVpnService where
  running : Bool
  pairing : Bool
  /-- The descriptor of the interface. -/
  tunnel : Option ℕ
  /-- The last uplink manager made, by number. -/
  uplinkManager : Option ℕ
  /-- The port of the proxy. -/
  proxy : Option ℤ
  /-- The settings of the threads that pair. -/
  pairs : List Settings
  /-- How many uplink managers have been made. -/
  made : ℕ
  /-- The uplink managers that are started and not stopped. -/
  started : List ℕ
  /-- `Status.latest`. -/
  latest : String
  /-- Why the service last stopped connecting or being connected, or did not begin to. -/
  reason : String

namespace BondVpnService

/-- The service as the system makes it. -/
def new : BondVpnService where
  running := false
  pairing := false
  tunnel := none
  uplinkManager := none
  proxy := none
  pairs := []
  made := 0
  started := []
  latest := "Disconnected"
  reason := "Disconnected"

variable (blake2b : Util.Blake2b)

/-- `Status.publish`. -/
def publish (s : BondVpnService) (text : String) : BondVpnService := { s with latest := text }

def stopTunnel (s : BondVpnService) (reason : String) : BondVpnService :=
  let wasRunning := s.running
  let wasPairing := s.pairing
  let s := { s with running := false, pairing := false }
  if !wasRunning && !wasPairing then s
  else
    let s := { s with proxy := none }
    -- `uplinkManager?.stop()`
    let s := { s with started := s.started.filter fun id => s.uplinkManager ≠ some id }
    let s := { s with uplinkManager := none }
    let s := { s with tunnel := none }
    s.publish reason

def startTunnel (s : BondVpnService) (settings : Settings) : BondVpnService :=
  match fromPsk blake2b settings.psk with
  | .error _ => s.publish "Bad pre-shared key"
  | .ok _ =>
    let manager := s.made
    let s := { s with made := manager + 1, uplinkManager := some manager }
    let s := { s with started := s.started ++ [manager] }
    { s with pairing := true, pairs := s.pairs ++ [settings] }

/-- `onStartCommand` of an intent to start. -/
def start (s : BondVpnService) (settings : Settings) : BondVpnService :=
  if s.running then s
  else if !settings.isComplete then s
  else s.startTunnel blake2b settings

def fail (s : BondVpnService) (reason : String) : BondVpnService :=
  stopTunnel { s with pairing := false } reason

/-- `startProxy`, where starting the proxy may throw. -/
def startProxy (s : BondVpnService) (port : ℤ) (starts : Bool) : BondVpnService :=
  if port ≤ 0 then s
  else if starts then { s with proxy := some port }
  else { s with proxy := none }

/-- What the status says of the uplinks. -/
def uplinksText (links : List Uplink) : String :=
  let joined := (links.filter (·.acked)).length
  if links.isEmpty then "No uplinks"
  else if joined = 0 then s!"{links.length} uplink(s), pairing..."
  else s!"Bonded over {joined} of {links.length}: " ++
    ", ".intercalate (links.map (·.transport))

/-- `onUplinksChanged`, with the uplinks that the manager has. -/
def onUplinksChanged (s : BondVpnService) (links : List Uplink) : BondVpnService :=
  s.publish (uplinksText (if s.uplinkManager.isSome then links else []))

def establish (s : BondVpnService) (settings : Settings) (descriptor : Option ℕ) (starts : Bool)
    (links : List Uplink) : BondVpnService :=
  let s := { s with pairing := false }
  match descriptor with
  | none => s.fail "Permission refused"
  | some descriptor =>
    let s := { s with tunnel := some descriptor, running := true }
    (s.startProxy settings.proxyPort starts).onUplinksChanged links

/-- What `pairThenEstablish` says where it gives up. -/
def noReply (settings : Settings) (sawUplink : Bool) : String :=
  if !sawUplink then "No usable network"
  else s!"No reply from {settings.host}:{settings.port}"

/-- What can happen to the service.  A thread that pairs is named by its place among them. -/
inductive Event where
  | start (settings : Settings)
  /-- `onStartCommand` of an intent to stop. -/
  | stop
  | destroy
  | revoke
  | resolveFailed (thread : ℕ)
  /-- The first uplinks are there. -/
  | reaching (thread : ℕ)
  /-- The concentrator answers, and the system grants an interface or refuses it. -/
  | acked (thread : ℕ) (descriptor : Option ℕ) (proxyStarts : Bool) (links : List Uplink)
  | timedOut (thread : ℕ) (sawUplink : Bool)
  /-- An uplink of the running service is answered for the first time. -/
  | joined (links : List Uplink)
  /-- A started uplink manager reports a change. -/
  | uplinksChanged (manager : ℕ) (links : List Uplink)
  /-- The watchdog finds that the server was silent for too long. -/
  | silent

/-- One step of the code. -/
def handle (s : BondVpnService) : Event → BondVpnService
  | .start settings => s.start blake2b settings
  | .stop | .destroy | .revoke => s.stopTunnel "Disconnected"
  | .resolveFailed thread =>
    match s.pairs[thread]? with
    | none => s
    | some settings =>
      fail { s with pairs := s.pairs.eraseIdx thread } s!"Cannot find {settings.host}"
  | .reaching thread =>
    match s.pairs[thread]? with
    | none => s
    | some settings => if s.pairing then s.publish s!"Reaching {settings.host}..." else s
  | .acked thread descriptor proxyStarts links =>
    match s.pairs[thread]? with
    | none => s
    | some settings =>
      let s := { s with pairs := s.pairs.eraseIdx thread }
      if s.pairing then s.establish settings descriptor proxyStarts links else s
  | .timedOut thread sawUplink =>
    match s.pairs[thread]? with
    | none => s
    | some settings =>
      let s := { s with pairs := s.pairs.eraseIdx thread }
      if s.pairing then s.fail (noReply settings sawUplink) else s
  | .joined links => if s.running then s.onUplinksChanged links else s
  | .uplinksChanged manager links => if manager ∈ s.started then s.onUplinksChanged links else s
  | .silent => if s.running then s.fail "Server stopped responding" else s

/-- Why the service stops, or does not begin, if it does so now. -/
def stopReason (s : BondVpnService) : Event → Option String
  | .start settings =>
    if !s.running && settings.isComplete && !(fromPsk blake2b settings.psk).isOk then
      some "Bad pre-shared key"
    else none
  | .stop | .destroy | .revoke => if s.running || s.pairing then some "Disconnected" else none
  | .resolveFailed thread =>
    if s.running || s.pairing then
      s.pairs[thread]?.map fun settings => s!"Cannot find {settings.host}"
    else none
  | .acked thread descriptor _ _ =>
    if s.pairing && descriptor.isNone then s.pairs[thread]?.map fun _ => "Permission refused"
    else none
  | .timedOut thread sawUplink =>
    if s.pairing then s.pairs[thread]?.map fun settings => noReply settings sawUplink else none
  | .silent => if s.running then some "Server stopped responding" else none
  | .reaching _ | .joined _ | .uplinksChanged _ _ => none

/-- One step, with the reason recorded. -/
def step (s : BondVpnService) (e : Event) : BondVpnService :=
  { s.handle blake2b e with reason := (s.stopReason blake2b e).getD s.reason }

/-- The service after a list of steps. -/
def run (es : List Event) (s : BondVpnService) : BondVpnService :=
  (Machine.run (fun s e => (([] : List Unit), s.step blake2b e)) es s).2

/-- No more than one uplink manager is started, and a service that neither connects nor is connected
holds nothing and shows why it stopped. -/
def Released (s : BondVpnService) : Prop :=
  s.started.length ≤ 1 ∧
    (s.running = false → s.pairing = false → s.uplinkManager = none ∧ s.proxy = none ∧
      s.tunnel = none ∧ s.latest = s.reason)

/-- While a service pairs, no pairing fails and no start makes another uplink manager. -/
def Smooth (s : BondVpnService) : Event → Prop
  | .start settings =>
    ¬ (s.pairing = true ∧ settings.isComplete = true ∧ (fromPsk blake2b settings.psk).isOk = true)
  | .resolveFailed thread => ¬ (s.pairing = true ∧ s.pairs[thread]?.isSome = true)
  | .acked thread descriptor _ _ =>
    ¬ (s.pairing = true ∧ descriptor = none ∧ s.pairs[thread]?.isSome = true)
  | .timedOut thread _ => ¬ (s.pairing = true ∧ s.pairs[thread]?.isSome = true)
  | .stop | .destroy | .revoke | .reaching _ | .joined _ | .uplinksChanged _ _ | .silent => True

/-! ### The states of the service -/

/-- Stopped, with everything released. -/
structure Idle (s : BondVpnService) : Prop where
  running : s.running = false
  pairing : s.pairing = false
  started : s.started = []
  uplinkManager : s.uplinkManager = none
  proxy : s.proxy = none
  tunnel : s.tunnel = none
  latest : s.latest = s.reason

/-- Connecting or connected, with one uplink manager. -/
structure Busy (s : BondVpnService) : Prop where
  flags : s.running = !s.pairing
  started : ∃ manager, s.started = [manager] ∧ s.uplinkManager = some manager

variable {blake2b} {s : BondVpnService}

lemma Idle.released (h : s.Idle) : s.Released :=
  ⟨by simp [h.started], fun _ _ => ⟨h.uplinkManager, h.proxy, h.tunnel, h.latest⟩⟩

lemma Busy.released (h : s.Busy) : s.Released := by
  obtain ⟨manager, hstarted, -⟩ := h.started
  refine ⟨by simp [hstarted], fun hrunning hpairing => ?_⟩
  exact absurd h.flags (by simp [hrunning, hpairing])

/-- A call of `stopTunnel` while neither flag is set does nothing. -/
lemma stopTunnel_of_idle (hrunning : s.running = false) (hpairing : s.pairing = false)
    (reason : String) : s.stopTunnel reason = s := by
  obtain ⟨⟩ := s
  subst hrunning hpairing
  rfl

/-- Otherwise it releases the one uplink manager, and all else. -/
lemma stopTunnel_of_started {manager : ℕ} (hlive : s.running = true ∨ s.pairing = true)
    (hstarted : s.started = [manager]) (hmanager : s.uplinkManager = some manager) (reason : String) :
    Idle { s.stopTunnel reason with reason := reason } := by
  have heq : s.stopTunnel reason =
      { s with running := false, pairing := false, proxy := none, started := [],
               uplinkManager := none, tunnel := none, latest := reason } := by
    rw [stopTunnel, if_neg (by rcases hlive with h | h <;> simp [h])]
    simp [publish, hstarted, hmanager]
  rw [heq]
  exact ⟨rfl, rfl, rfl, rfl, rfl, rfl, rfl⟩

/-- A failure while the service pairs stops nothing: the flag that stopping looks at is cleared. -/
lemma fail_of_pairing (hrunning : s.running = false) (pairs : List Settings) (reason : String) :
    fail { s with pairs := pairs } reason = { s with pairs := pairs, pairing := false } :=
  stopTunnel_of_idle (s := { s with pairs := pairs, pairing := false }) hrunning rfl reason

lemma Busy.live (h : s.Busy) : s.running = true ∨ s.pairing = true := by
  have := h.flags
  cases hpairing : s.pairing <;> simp_all

/-- A busy service stops for the reason given. -/
lemma Busy.stopTunnel (h : s.Busy) (reason : String) :
    Idle { s.stopTunnel reason with reason := reason } := by
  obtain ⟨manager, hstarted, hmanager⟩ := h.started
  exact stopTunnel_of_started h.live hstarted hmanager reason

/-- So does a connected one that fails. -/
lemma Busy.fail (h : s.Busy) (hrunning : s.running = true) (pairs : List Settings) (reason : String) :
    Idle { BondVpnService.fail { s with pairs := pairs } reason with reason := reason } := by
  obtain ⟨manager, hstarted, hmanager⟩ := h.started
  exact stopTunnel_of_started (s := { s with pairs := pairs, pairing := false }) (Or.inl hrunning)
    hstarted hmanager reason

/-- What a busy service is does not depend on its threads, its status and the reason. -/
lemma Busy.update (h : s.Busy) (pairs : List Settings) (latest reason : String) :
    Busy { s with pairs := pairs, latest := latest, reason := reason } := ⟨h.flags, h.started⟩

lemma Idle.update (h : s.Idle) (pairs : List Settings) : Idle { s with pairs := pairs } :=
  ⟨h.running, h.pairing, h.started, h.uplinkManager, h.proxy, h.tunnel, h.latest⟩

/-- The service connects when the pairing it waits for succeeds. -/
lemma Busy.establish (h : s.Busy) (settings : Settings) (descriptor : ℕ) (proxyStarts : Bool)
    (links : List Uplink) (pairs : List Settings) (reason : String) :
    Busy { BondVpnService.establish { s with pairs := pairs } settings (some descriptor) proxyStarts
      links with reason := reason } := by
  obtain ⟨manager, hstarted, hmanager⟩ := h.started
  have hkeep : ∀ s' : BondVpnService, s'.running = true → s'.pairing = false →
      s'.started = s.started → s'.uplinkManager = s.uplinkManager →
      Busy { (s'.startProxy settings.proxyPort proxyStarts).onUplinksChanged links with
        reason := reason } := by
    intro s' hrunning hpairing hstarted' hmanager'
    rw [startProxy]
    split_ifs
    all_goals exact ⟨by simp [onUplinksChanged, publish, hrunning, hpairing],
      manager, hstarted'.trans hstarted, hmanager'.trans hmanager⟩
  exact hkeep _ rfl rfl rfl rfl

/-! ### One step -/

/-- What holds of a step is what holds of the code's step with the reason recorded. -/
lemma step_of {C : BondVpnService → Prop} {e : Event} (t : BondVpnService) (r : Option String)
    (hhandle : s.handle blake2b e = t) (hreason : s.stopReason blake2b e = r)
    (h : C { t with reason := r.getD s.reason }) : C (s.step blake2b e) := by
  rw [BondVpnService.step, hhandle, hreason]
  exact h

/-- An idle service stays so or begins to connect. -/
lemma Idle.step (h : s.Idle) (e : Event) : (s.step blake2b e).Idle ∨ (s.step blake2b e).Busy := by
  have hrunning := h.running
  have hpairing := h.pairing
  cases e with
  | start settings =>
    cases hcomplete : settings.isComplete with
    | false =>
      left
      exact step_of s none (by simp [handle, BondVpnService.start, hcomplete])
        (by simp [stopReason, hcomplete]) h
    | true =>
      cases hkey : fromPsk blake2b settings.psk with
      | error message =>
        left
        refine step_of (C := Idle) (s.publish "Bad pre-shared key") (some "Bad pre-shared key")
          (by simp [handle, BondVpnService.start, startTunnel, hrunning, hcomplete, hkey])
          (by simp [stopReason, hrunning, hcomplete, hkey, Except.isOk, Except.toBool]) ?_
        exact ⟨h.running, h.pairing, h.started, h.uplinkManager, h.proxy, h.tunnel, rfl⟩
      | ok key =>
        right
        simp only [BondVpnService.step, handle, BondVpnService.start, startTunnel, hrunning, hcomplete,
          hkey, h.started]
        exact ⟨rfl, s.made, rfl, rfl⟩
  | stop | destroy | revoke =>
    left
    exact step_of s none (stopTunnel_of_idle hrunning hpairing _)
      (by simp [stopReason, hrunning, hpairing]) h
  | resolveFailed thread =>
    left
    cases hthread : s.pairs[thread]? with
    | none => exact step_of s none (by simp [handle, hthread]) (by simp [stopReason, hthread]) h
    | some settings =>
      refine step_of (C := Idle) { s with pairs := s.pairs.eraseIdx thread, pairing := false } none
        ?_ (by simp [stopReason, hrunning, hpairing]) ?_
      · simp only [handle, hthread]
        exact fail_of_pairing hrunning _ _
      · exact ⟨h.running, rfl, h.started, h.uplinkManager, h.proxy, h.tunnel, h.latest⟩
  | reaching thread =>
    left
    refine step_of s none ?_ rfl h
    cases hthread : s.pairs[thread]? <;> simp [handle, hthread, hpairing]
  | acked thread descriptor proxyStarts links =>
    left
    cases hthread : s.pairs[thread]? with
    | none => exact step_of s none (by simp [handle, hthread]) (by simp [stopReason, hpairing]) h
    | some settings =>
      exact step_of { s with pairs := s.pairs.eraseIdx thread } none
        (by simp [handle, hthread, hpairing]) (by simp [stopReason, hpairing]) (h.update _)
  | timedOut thread sawUplink =>
    left
    cases hthread : s.pairs[thread]? with
    | none => exact step_of s none (by simp [handle, hthread]) (by simp [stopReason, hpairing]) h
    | some settings =>
      exact step_of { s with pairs := s.pairs.eraseIdx thread } none
        (by simp [handle, hthread, hpairing]) (by simp [stopReason, hpairing]) (h.update _)
  | joined links =>
    left
    exact step_of s none (by simp [handle, hrunning]) rfl h
  | uplinksChanged manager links =>
    left
    exact step_of s none (by simp [handle, h.started]) rfl h
  | silent =>
    left
    exact step_of s none (by simp [handle, hrunning]) (by simp [stopReason, hrunning]) h

/-- A busy service stays so or stops, as long as nothing goes wrong while it pairs. -/
lemma Busy.step (h : s.Busy) {e : Event} (he : s.Smooth blake2b e) :
    (s.step blake2b e).Idle ∨ (s.step blake2b e).Busy := by
  have hflags := h.flags
  cases e with
  | start settings =>
    right
    refine step_of (C := Busy) _ _ rfl rfl ?_
    simp only [handle, BondVpnService.start, startTunnel]
    split_ifs with hrunning hcomplete
    · exact h.update _ _ _
    · exact h.update _ _ _
    · cases hkey : fromPsk blake2b settings.psk with
      | error message => exact h.update _ _ _
      | ok key =>
        refine absurd ⟨?_, by simpa using hcomplete, ?_⟩ he
        · simpa [hrunning] using hflags
        · simp [hkey, Except.isOk, Except.toBool]
  | stop | destroy | revoke =>
    left
    refine step_of (s.stopTunnel "Disconnected") (some "Disconnected") rfl ?_ (h.stopTunnel _)
    rcases h.live with hlive | hlive <;> simp [stopReason, hlive]
  | resolveFailed thread =>
    cases hthread : s.pairs[thread]? with
    | none =>
      right
      exact step_of s _ (by simp [handle, hthread]) rfl (h.update _ _ _)
    | some settings =>
      left
      have hpairing : s.pairing = false := by simpa [Smooth, hthread] using he
      have hrunning : s.running = true := by rw [hflags, hpairing]; rfl
      exact step_of _ (some s!"Cannot find {settings.host}") (by simp only [handle, hthread]; rfl)
        (by simp [stopReason, hthread, hrunning]) (h.fail hrunning (s.pairs.eraseIdx thread) _)
  | reaching thread =>
    right
    cases hthread : s.pairs[thread]? with
    | none => exact step_of s _ (by simp [handle, hthread]) rfl (h.update _ _ _)
    | some settings =>
      refine step_of (C := Busy) _ _ rfl rfl ?_
      simp only [handle, hthread]
      split_ifs <;> exact h.update _ _ _
  | acked thread descriptor proxyStarts links =>
    right
    cases hthread : s.pairs[thread]? with
    | none => exact step_of s _ (by simp [handle, hthread]) rfl (h.update _ _ _)
    | some settings =>
      refine step_of (C := Busy) _ _ rfl rfl ?_
      simp only [handle, hthread]
      split_ifs with hpairing
      · cases descriptor with
        | none => exact absurd ⟨hpairing, rfl, by simp [hthread]⟩ he
        | some descriptor => exact h.establish settings descriptor proxyStarts links _ _
      · exact h.update _ _ _
  | timedOut thread sawUplink =>
    right
    cases hthread : s.pairs[thread]? with
    | none => exact step_of s _ (by simp [handle, hthread]) rfl (h.update _ _ _)
    | some settings =>
      have hpairing : s.pairing = false := by simpa [Smooth, hthread] using he
      exact step_of { s with pairs := s.pairs.eraseIdx thread } _
        (by simp [handle, hthread, hpairing]) rfl (h.update _ _ _)
  | joined links | uplinksChanged manager links =>
    right
    refine step_of (C := Busy) _ _ rfl rfl ?_
    simp only [handle]
    split_ifs <;> exact h.update _ _ _
  | silent =>
    cases hrunning : s.running with
    | false =>
      right
      exact step_of s _ (by simp [handle, hrunning]) rfl (h.update _ _ _)
    | true =>
      left
      exact step_of (s.fail "Server stopped responding") (some _) (by simp [handle, hrunning])
        (by simp [stopReason, hrunning]) (h.fail hrunning s.pairs _)

/-- Where something goes wrong while it pairs, it holds too much. -/
lemma Busy.smooth_of_released (h : s.Busy) {e : Event} (he : (s.step blake2b e).Released) :
    s.Smooth blake2b e := by
  obtain ⟨manager, hstarted, hmanager⟩ := h.started
  have hrunning : s.pairing = true → s.running = false := fun hpairing => by
    rw [h.flags, hpairing]
    rfl
  -- A pairing that fails leaves the uplink manager behind.
  have hfail : ∀ (thread : ℕ) (e : Event), s.pairing = true →
      s.handle blake2b e = { s with pairs := s.pairs.eraseIdx thread, pairing := false } →
      ¬ (s.step blake2b e).Released := by
    intro thread e hpairing hhandle hreleased
    have hnone := (hreleased.2 (by simp [BondVpnService.step, hhandle, hrunning hpairing])
      (by simp [BondVpnService.step, hhandle])).1
    simp [BondVpnService.step, hhandle, hmanager] at hnone
  cases e with
  | start settings =>
    rintro ⟨hpairing, hcomplete, hkey⟩
    cases hpsk : fromPsk blake2b settings.psk with
    | error message => simp [hpsk, Except.isOk, Except.toBool] at hkey
    | ok key =>
      have hone := he.1
      simp [BondVpnService.step, handle, BondVpnService.start, startTunnel, hrunning hpairing,
        hcomplete, hpsk, hstarted] at hone
  | resolveFailed thread =>
    rintro ⟨hpairing, hthread⟩
    obtain ⟨settings, hthread⟩ := Option.isSome_iff_exists.1 hthread
    refine hfail thread _ hpairing ?_ he
    simp only [handle, hthread]
    exact fail_of_pairing (hrunning hpairing) _ _
  | acked thread descriptor proxyStarts links =>
    rintro ⟨hpairing, rfl, hthread⟩
    obtain ⟨settings, hthread⟩ := Option.isSome_iff_exists.1 hthread
    refine hfail thread _ hpairing ?_ he
    simp only [handle, hthread, hpairing, if_true, BondVpnService.establish]
    exact fail_of_pairing (hrunning hpairing) _ _
  | timedOut thread sawUplink =>
    rintro ⟨hpairing, hthread⟩
    obtain ⟨settings, hthread⟩ := Option.isSome_iff_exists.1 hthread
    refine hfail thread _ hpairing ?_ he
    simp only [handle, hthread, hpairing, if_true]
    exact fail_of_pairing (hrunning hpairing) _ _
  | stop | destroy | revoke | reaching | joined | uplinksChanged | silent => trivial

/-- **Release.**  In a run of the service there is at every point no more than one started uplink
manager, nothing is held while the service neither connects nor is connected, and the status then is
the reason it stopped, if and only if every step of the run is smooth. -/
theorem released_iff (es : List Event) :
    (∀ pre, pre <+: es → (run blake2b pre new).Released) ↔
      Machine.Meets (fun s e => (([] : List Unit), s.step blake2b e))
        (fun s _ e => s.Smooth blake2b e) es new [] := by
  refine Machine.forall_prefix_iff_meets_of_invariant _ (I := fun s => s.Idle ∨ s.Busy)
    (fun s h => h.elim Idle.released Busy.released) ?_ ?_ es (Or.inl ⟨rfl, rfl, rfl, rfl, rfl, rfl, rfl⟩)
  · rintro s e (h | h) he
    · exact h.step e
    · exact h.step he
  · rintro s e (h | h) he
    · cases e <;> simp [Smooth, h.pairing]
    · exact h.smooth_of_released he

/-- Settings with a good key. -/
def configured : Settings where
  host := "bond.example"
  port := 5310
  psk := "00112233445566778899aabbccddeeff"
  proxyPort := 1080

/-- A host that cannot be resolved leaves the uplink manager of the stopped service started. -/
theorem resolveFailed_not_released :
    ¬ (run (fun size _ _ => List.replicate size 0) [.start configured, .resolveFailed 0]
      new).Released := by
  intro h
  have hnone := (h.2 (by decide) (by decide)).1
  exact absurd hnone (by decide)

end BondVpnService

end Turbobond.Android
