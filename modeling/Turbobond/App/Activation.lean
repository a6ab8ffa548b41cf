import Turbobond.Lib.Dict
import Turbobond.Lib.Machine

/-!
# Activation

`Supervisor.activate` starts the subsystems one after the other, `Supervisor.deactivate` stops
them, and `ActivationController` runs both for the app.  A step takes one coroutine from one
suspension point to the next; suspension points between which nothing is started or stopped are one
point here.
-/

namespace Turbobond.App

/-- The subsystems that run in the background and that activation makes anew. -/
inductive Subsystem where
  | monitor
  | tunnel
  | selector
  deriving DecidableEq

/-- What a `LinkMonitor`, a `BondingTunnel` or a `RouteSelector` says of itself. -/
structure Service where
  /-- Its event `_stop`. -/
  stopping : Bool := false
  /-- Its loop, or datapath, runs. -/
  running : Bool := false
  deriving DecidableEq

/-- The end of `start`, once what it waits for is there. -/
def Service.started (s : Service) : Subsystem → Service
  -- the loop looks at the event before anything else
  | .monitor | .selector => { s with running := !s.stopping }
  | .tunnel => ⟨false, true⟩

/-- Where a run of `activate` stands. -/
inductive Point where
  /-- Its task has not run yet. -/
  | created
  | preflight
  | router
  /-- In `_stage_links`, before there is a monitor. -/
  | discovery
  /-- A stage waits for the `start` of its subsystem. -/
  | starting (part : Subsystem) (id : ℕ)
  | optimization
  | routing
  /-- In `_stage_bond`, with the tunnel running or without one. -/
  | bond
  | transport
  | sip
  | lan
  /-- In `_stage_selector`, with the selector running. -/
  | search
  deriving DecidableEq

/-- A task of the controller. -/
structure Activation where
  point : Point := .created
  cancelled : Bool := false
  deriving DecidableEq

/-- Where a call of `deactivate` stands. -/
inductive Teardown where
  /-- It waits for the end of the device tracking. -/
  | tracking (task : ℕ)
  /-- It waits in a `stop`, for the end of a subsystem or for something else, before others. -/
  | stopping (current : Option (Subsystem × ℕ)) (rest : List (Option (Subsystem × ℕ)))
  /-- It undoes the gateway, the firewall and the routes. -/
  | restoring
  deriving DecidableEq

/-- How what a coroutine waits for ends. -/
inductive Result where
  | returns
  | turboBondError
  | exception
  deriving DecidableEq

inductive Request where
  | activate
  | deactivate
  deriving DecidableEq

structure Supervisor where
  /-- `monitor`, `tunnel` and `selector`. -/
  parts : Subsystem → Option ℕ := fun _ => none
  deviceTask : Option ℕ := none
  /-- The lock `_activating` is held. -/
  activating : Bool := false

structure ActivationController where
  /-- `state.running`. -/
  running : Bool := false
  task : Option ℕ := none

/-- The supervisor, its controller, everything they have started, and the requests in progress. -/
structure Lifecycle where
  supervisor : Supervisor := {}
  controller : ActivationController := {}
  services : Subsystem → ℕ → Service := fun _ _ => {}
  /-- The device-tracking tasks that run. -/
  devices : ℕ → Bool := fun _ => false
  activations : Dict ℕ Activation := Dict.empty
  deactivations : Dict ℕ Teardown := Dict.empty
  /-- Names for what is made next. -/
  nextId : ℕ := 0

namespace Lifecycle

def setService (s : Lifecycle) (part : Subsystem) (id : ℕ) (service : Service) : Lifecycle :=
  { s with services := Function.update s.services part (Function.update (s.services part) id service) }

def setParts (s : Lifecycle) (parts : Subsystem → Option ℕ) : Lifecycle :=
  { s with supervisor := { s.supervisor with parts } }

/-! ### Activation -/

/-- An activation waits at another point. -/
def moveTo (s : Lifecycle) (i : ℕ) (point : Point) : Lifecycle :=
  { s with activations := s.activations.set i { point } }

/-- A stage makes its subsystem, and waits for its `start`. -/
def create (s : Lifecycle) (i : ℕ) (part : Subsystem) : Lifecycle :=
  { ((s.setParts (Function.update s.supervisor.parts part (some s.nextId))).setService part s.nextId
      {}).moveTo i (.starting part s.nextId) with nextId := s.nextId + 1 }

/-- The subsystem has started. -/
def launch (s : Lifecycle) (part : Subsystem) (id : ℕ) : Lifecycle :=
  s.setService part id ((s.services part id).started part)

/-- The task of an activation ends, through the `finally` of `_run`. -/
def finish (s : Lifecycle) (i : ℕ) : List Request × Lifecycle :=
  ([.activate], { s with
    controller := { s.controller with running := false }
    activations := s.activations.erase i })

/-- `activate` returns or raises, and the lock is free again. -/
def complete (s : Lifecycle) (i : ℕ) : List Request × Lifecycle :=
  { s with supervisor := { s.supervisor with activating := false } }.finish i

/-- A stage goes on, or fails and ends the activation. -/
def proceed (s : Lifecycle) (i : ℕ) (result : Result) (point : Point) : List Request × Lifecycle :=
  if result = .returns then ([], s.moveTo i point) else s.complete i

/-- `_start_device_tracking`. -/
def startDeviceTracking (s : Lifecycle) : Lifecycle :=
  match s.supervisor.deviceTask with
  | some _ => s
  | none => { s with
      supervisor := { s.supervisor with deviceTask := some s.nextId }
      devices := Function.update s.devices s.nextId true
      nextId := s.nextId + 1 }

/-- The stages of `activate`, from where one stands.  Whether a concentrator is configured and
supported is asked for where `_stage_bond` begins. -/
def resume (s : Lifecycle) (i : ℕ) (result : Result) (bonding : Bool) :
    Point → List Request × Lifecycle
  | .created =>
    if s.supervisor.activating then s.finish i
    else ([], { s with supervisor := { s.supervisor with activating := true } }.moveTo i .preflight)
  | .preflight => s.proceed i result .router
  | .router => s.proceed i result .discovery
  | .discovery => if result = .returns then ([], s.create i .monitor) else s.complete i
  -- the monitor runs, whether or not there is a usable link
  | .starting .monitor id => (s.launch .monitor id).proceed i result .optimization
  | .optimization => s.proceed i result .routing
  | .routing =>
    if result = .returns ∧ bonding then ([], s.create i .tunnel) else s.proceed i result .bond
  | .starting .tunnel id =>
    match result with
    | .returns => ([], (s.launch .tunnel id).moveTo i .bond)
    | .turboBondError =>
      ([], (s.setParts (Function.update s.supervisor.parts .tunnel none)).moveTo i .bond)
    | .exception => s.complete i
  | .bond => s.proceed i result .transport
  -- the shadow route may fail
  | .transport => ([], s.moveTo i .sip)
  | .sip => s.proceed i result .lan
  | .lan => if result = .returns then ([], s.create i .selector) else s.complete i
  | .starting .selector id =>
    if result = .returns then ([], (s.launch .selector id).moveTo i .search) else s.complete i
  | .search => if result = .returns then s.startDeviceTracking.complete i else s.complete i

/-- The task of an activation runs up to its next suspension point. -/
def advance (s : Lifecycle) (i : ℕ) (result : Result) (bonding : Bool) :
    List Request × Lifecycle :=
  match s.activations.get? i with
  | none => ([], s)
  | some a =>
    if a.cancelled then
      -- a task that has not run is cancelled before its `try`
      if a.point = .created then ([.activate], { s with activations := s.activations.erase i })
      else s.complete i
    else s.resume i result bonding a.point

/-! ### Deactivation -/

/-- What `deactivate` awaits, in order; `none` is the provisioner, the shadowsocks client and the
router. -/
def stops (s : Lifecycle) : List (Option (Subsystem × ℕ)) :=
  let stop (part : Subsystem) := (s.supervisor.parts part).toList.map fun id => some (part, id)
  stop .selector ++ [none] ++ stop .monitor ++ stop .tunnel ++ [none, none]

/-- `deactivate` calls the next `stop`. -/
def callStop (s : Lifecycle) (j : ℕ) : List (Option (Subsystem × ℕ)) → Lifecycle
  | [] => { s with deactivations := s.deactivations.set j .restoring }
  | none :: rest => { s with deactivations := s.deactivations.set j (.stopping none rest) }
  | some (part, id) :: rest =>
    let service := s.services part id
    { s.setService part id { service with stopping := true } with
      deactivations := s.deactivations.set j
        (.stopping (if service.running then some (part, id) else none) rest) }

/-- The subsystem that `deactivate` waits for has ended. -/
def ended (s : Lifecycle) : Option (Subsystem × ℕ) → Lifecycle
  | none => s
  | some (part, id) => s.setService part id { s.services part id with running := false }

/-- The beginning of `deactivate`. -/
def deactivate (s : Lifecycle) : Lifecycle :=
  let j := s.nextId
  let s := { s with nextId := s.nextId + 1 }
  match s.supervisor.deviceTask with
  | some task => { s with deactivations := s.deactivations.set j (.tracking task) }
  | none => s.callStop j s.stops

/-- A call of `deactivate` runs up to its next suspension point. -/
def teardown (s : Lifecycle) (j : ℕ) (result : Result) : List Request × Lifecycle :=
  match s.deactivations.get? j with
  | none => ([], s)
  | some (.tracking task) =>
    let s := { s with
      supervisor := { s.supervisor with deviceTask := none }
      devices := Function.update s.devices task false }
    ([], s.callStop j s.stops)
  | some (.stopping current rest) => ([], (s.ended current).callStop j rest)
  | some .restoring =>
    let s := if result = .returns then s.setParts fun _ => none else s
    ([.deactivate], { s with deactivations := s.deactivations.erase j })

/-! ### The controller -/

/-- `ActivationController.start`. -/
def start (s : Lifecycle) : Lifecycle :=
  if s.controller.running then s
  else
    { s with
      controller := ⟨true, some s.nextId⟩
      activations := s.activations.set s.nextId {}
      nextId := s.nextId + 1 }

/-- The activation that the controller knows of is cancelled, if it is not done. -/
def cancel (s : Lifecycle) : Lifecycle :=
  match s.controller.task with
  | none => s
  | some i =>
    match s.activations.get? i with
    | none => s
    | some a => { s with
        controller := { s.controller with running := false }
        activations := s.activations.set i { a with cancelled := true } }

/-- `ActivationController.stop`, up to its first suspension point. -/
def stop (s : Lifecycle) : Lifecycle := s.cancel.deactivate

inductive Event where
  | start
  | stop
  | advance (i : ℕ) (result : Result) (bonding : Bool)
  | teardown (j : ℕ) (result : Result)

/-- What is put out are the requests that are completed. -/
def step (s : Lifecycle) : Event → List Request × Lifecycle
  | .start => ([], s.start)
  | .stop => ([], s.stop)
  | .advance i result bonding => s.advance i result bonding
  | .teardown j result => s.teardown j result

def run (events : List Event) (s : Lifecycle) : List Request × Lifecycle :=
  Machine.run step events s

end Lifecycle

end Turbobond.App
