import Mathlib.Order.Basic
import Mathlib.Data.String.Basic
import Mathlib.Data.List.Sort
import RqtJtc.Names

/-!
# The plugin and its handlers

`Plugin` is the state of one `JointTrajectoryController` plugin together with
what it shares with the outside: the attributes the methods read and write, the
widgets they drive, the two timers they start and stop, the rclpy node's
subscriptions, publishers and executor threads, and the Qt event queue into
which the executor thread posts `jointStateChanged`.

Each method is a program in `PluginM`, an `EStateM` over `Plugin`.  A Python
exception is an `EStateM` error: the handler stops there, and what it already
wrote stays, as in the source.  A Qt signal runs its slot at once and does not
pass the slot's exception back to the emitter (`emit`); `enable_button`'s
`toggled` fires only when its checked state changes (`setChecked`), which is
how `_on_jtc_enabled` re-enters itself.

The methods are transcribed statement by statement; comments quote the source
where the transcription is not one line for one line.  Two timers of the source
are left out: the controller-manager and controller polls run whenever the
model takes a poll event.

Each `jointStateChanged.connect` makes a new connection (a PyQt5 slot proxy)
and `disconnect` removes one; a delivery is queued on a connection, and PyQt5
drops it when that connection is gone by the time the UI thread reaches it.

Four fields are ghost, read by no handler: `bound` (the last `_load_jtc` ran
to completion and no `_unload_jtc` or `shutdown_plugin` ran since), `loaded`
(what the last `_load_jtc` found, until `_unload_jtc` clears the joint data),
the subscription a queued delivery came from, and the log of
`get_joint_limits` calls.
-/

namespace RqtJtc

/-- A `threading.Thread` object, before and after `start()`. -/
structure PyThread where
  id : Nat
  started : Bool
  deriving DecidableEq, Repr

/-- One row of the joint layout: the `DoubleEditor` built from a joint's limits,
its `valueChanged` bound by `partial` to `name`. -/
structure JointRow where
  name : String
  limits : JointLimits
  enabled : Bool
  deriving DecidableEq, Repr

/-- A `jointStateChanged` emission waiting in the UI thread's event queue: the
connection it was queued on, the map `_state_cb` built, and (ghost) the
subscription the message came from. -/
structure Delivery where
  conn : Nat
  sub : Nat
  currentPos : PyDict ℚ
  deriving DecidableEq

/-- What `_load_jtc` found: the listing the controller lister returned, the
running controller it picked by name, and the controller manager namespace the
controller's namespace is resolved in. -/
structure LoadedJtc where
  listing : List ControllerInfo
  info : ControllerInfo
  cmNs : String
  deriving DecidableEq

/-- The rclpy call of `_load_jtc` that raises, if one does. -/
inductive LoadFault
  | subscription
  | publisher
  | executor
  | addNode
  | threadStart
  deriving DecidableEq, Repr

/-- The environment's answers during one `_update_jtc_list`: what the controller
lister returns and what `get_joint_limits` returns for each joint list. -/
structure Discovery where
  listing : List ControllerInfo
  lookup : List String → PyDict JointLimits

/-- The environment's answers during one `_load_jtc`: what the controller lister
returns, and which rclpy call raises. -/
structure LoadEnv where
  listing : List ControllerInfo
  fault : Option LoadFault

/-- The plugin, its widgets and timers, and the node and event queue it uses. -/
structure Plugin where
  /-- `_jtc_name`; the initial `[]` is falsy like `""`. -/
  jtcName : String
  cmNs : String
  jointPos : PyDict JointData
  jointNames : List String
  robotJointLimits : PyDict JointLimits
  /-- `_list_controllers`: `None`, or `ControllerLister(cm_ns)`. -/
  listControllers : Option String
  cmdPub : Option Nat
  stateSub : Option Nat
  executor : Option Nat
  executorThread : Option PyThread
  speedScale : ℚ
  enableChecked : Bool
  speedScalingEnabled : Bool
  speedSliderMaximum : ℚ
  jointRows : List JointRow
  cmCombo : List String
  jtcCombo : List String
  updateCmdTimer : Bool
  updateActPosTimer : Bool
  /-- The live connections of `jointStateChanged` to `_on_joint_state_change`,
  oldest first. -/
  stateConns : List Nat
  /-- The id the next connection gets. -/
  nextConn : Nat
  /-- The node's live `controller_state` subscriptions, with their topics. -/
  subscriptions : List (Nat × String)
  /-- The node's live `joint_trajectory` publishers, with their topics. -/
  publishers : List (Nat × String)
  /-- Every message published, with its publisher. -/
  published : List (Nat × JointTrajectory)
  /-- Executor threads started and not yet finished. -/
  running : List Nat
  nextHandle : Nat
  queue : List Delivery
  limitsQueries : List (List String)
  bound : Bool
  loaded : Option LoadedJtc

/-- The number of connections of `jointStateChanged`. -/
def Plugin.stateConnections (s : Plugin) : Nat := s.stateConns.length

/-- The handlers' monad: state passing with Python exceptions. -/
abbrev PluginM := EStateM PyError Plugin

/-- The state a handler leaves, whether it returns or raises. -/
def exec {α : Type} (m : PluginM α) (s : Plugin) : Plugin :=
  match m s with
  | .ok _ s' => s'
  | .error _ s' => s'

@[simp] theorem run_pure {α : Type} (a : α) (s : Plugin) : (pure a : PluginM α) s = .ok a s := rfl

@[simp] theorem run_bind {α β : Type} (x : PluginM α) (f : α → PluginM β) (s : Plugin) :
    (x >>= f) s = match x s with
      | .ok a s' => f a s'
      | .error e s' => .error e s' := by
  show EStateM.bind x f s = _
  unfold EStateM.bind; cases x s <;> rfl

@[simp] theorem run_get (s : Plugin) : (get : PluginM Plugin) s = .ok s s := rfl

@[simp] theorem run_modify (f : Plugin → Plugin) (s : Plugin) :
    (modify f : PluginM Unit) s = .ok () (f s) := rfl

@[simp] theorem run_throw {α : Type} (e : PyError) (s : Plugin) :
    (throw e : PluginM α) s = .error e s := rfl

@[simp] theorem run_ite {α : Type} (c : Prop) [Decidable c] (x y : PluginM α) (s : Plugin) :
    (if c then x else y) s = if c then x s else y s := by
  split <;> rfl

@[simp] theorem exec_ok {α : Type} {m : PluginM α} {s s' : Plugin} {a : α} (h : m s = .ok a s') :
    exec m s = s' := by simp [exec, h]

@[simp] theorem exec_error {α : Type} {m : PluginM α} {s s' : Plugin} {e : PyError}
    (h : m s = .error e s') : exec m s = s' := by simp [exec, h]

/-- Raise the exception of a failed pure computation. -/
def liftExcept {α : Type} : Except PyError α → PluginM α
  | .ok a => pure a
  | .error e => throw e

/-- Run `m` and swallow its exception, keeping its writes: a slot called by a
signal, and `try: ... except Exception: pass`. -/
def emit (m : PluginM Unit) : PluginM Unit := fun s =>
  match m s with
  | .ok _ s' => .ok () s'
  | .error _ s' => .ok () s'

@[simp] theorem emit_run (m : PluginM Unit) (s : Plugin) : emit m s = .ok () (exec m s) := by
  unfold emit exec; cases m s <;> rfl

/-- `enable_button.setChecked(b)`: when the state changes, `toggled(b)` fires. -/
def setChecked (toggled : Bool → PluginM Unit) (b : Bool) : PluginM Unit := do
  if (← get).enableChecked ≠ b then
    modify fun s => { s with enableChecked := b }
    emit (toggled b)

/-- `_on_jtc_enabled(val)`.  `depth` bounds the re-entrant `toggled` of the
rejection path; `onJtcEnabled_succ` shows that any positive depth behaves alike. -/
def onJtcEnabled : Nat → Bool → PluginM Unit
  | 0, _ => pure ()
  | depth + 1, val => do
    -- Don't allow enabling if there are no controllers selected
    if (← get).jtcName = "" then
      setChecked (onJtcEnabled depth) false
    else
      -- Enable/disable joint displays and speed scaling
      modify fun s => { s with
        jointRows := s.jointRows.map fun r => { r with enabled := val }
        speedScalingEnabled := val }
      if val then
        -- Widgets send reference position commands to controller
        modify fun s => { s with updateActPosTimer := false, updateCmdTimer := true }
      else
        -- Controller updates widgets with feedback position
        modify fun s => { s with updateCmdTimer := false, updateActPosTimer := true }

/-- The nesting of `toggled` in `_on_jtc_enabled`'s rejection path. -/
def toggleDepth : Nat := 2

/-! ## Discovery -/

/-- `_update_cm_list`: the manager list handed to `update_combo`. -/
def updateCmList (managers : List String) : PluginM Unit :=
  modify fun s => { s with cmCombo := managers }

/-- `_running_jtc_info`; calling `self._list_controllers()` raises `TypeError`
while it is `None`. -/
def runningJtcInfo (listing : List ControllerInfo) : PluginM (List ControllerInfo) := do
  match (← get).listControllers with
  | none => throw .typeError
  | some _ => pure (runningJtc listing)

/-- The priming loop of `_update_jtc_list`: `get_joint_limits` of each running
controller's joints, merged into `{}` by `dict.update`. -/
def mergeLimits (lookup : List String → PyDict JointLimits) (running : List ControllerInfo) :
    PyDict JointLimits :=
  running.foldl (fun acc info => acc.update (lookup (jtcJointNames info))) PyDict.empty

/-- `all(name in limits for name in _jtc_joint_names(info))`. -/
def hasLimits (limits : PyDict JointLimits) (info : ControllerInfo) : Bool :=
  (jtcJointNames info).all fun name => name ∈ limits.keys

/-- `sorted` on strings: the permutation in `String`'s order, by code points.
A linear order has one sorted permutation, so insertion sort gives Python's. -/
def pySorted (names : List String) : List String :=
  names.insertionSort (· ≤ ·)

/-- `_update_jtc_list`. -/
def updateJtcList (d : Discovery) : PluginM Unit := do
  if (← get).listControllers.isNone then
    -- Clear controller list if no controller information is available
    modify fun s => { s with jtcCombo := [] }
  else
    let running ← runningJtcInfo d.listing
    if running ≠ [] ∧ (← get).robotJointLimits.isEmpty then
      modify fun s => { s with
        robotJointLimits := mergeLimits d.lookup running
        limitsQueries := s.limitsQueries ++ running.map jtcJointNames }
    let limits := (← get).robotJointLimits
    let valid := if limits.isEmpty then [] else running.filter (hasLimits limits)
    modify fun s => { s with jtcCombo := pySorted (valid.map (·.name)) }

/-- `_on_cm_change(cm_ns)`.  The signal `jtc_combo.clear()` raises runs
`_on_jtc_change("")`, which reads neither `_cm_ns` nor `_list_controllers`; it
is the separate event just before this one. -/
def onCmChange (cmNs : String) (d : Discovery) : PluginM Unit := do
  modify fun s => { s with cmNs := cmNs }
  if cmNs ≠ "" then
    modify fun s => { s with listControllers := some cmNs, jtcCombo := [] }
    updateJtcList d
  else
    modify fun s => { s with listControllers := none }

/-! ## Binding a controller -/

/-- `_unregister_state_sub`. -/
def unregisterStateSub : PluginM Unit :=
  modify fun s => match s.stateSub with
    | some h => { s with subscriptions := s.subscriptions.filter (·.1 ≠ h), stateSub := none }
    | none => s

/-- `_unregister_cmd_pub`. -/
def unregisterCmdPub : PluginM Unit :=
  modify fun s => match s.cmdPub with
    | some h => { s with publishers := s.publishers.filter (·.1 ≠ h), cmdPub := none }
    | none => s

/-- `self._executor_thread.join()`: `AttributeError` on `None`, `RuntimeError` on
a thread never started. -/
def joinExecutorThread : PluginM Unit := do
  match (← get).executorThread with
  | none => throw .attributeError
  | some t =>
    if t.started then modify fun s => { s with running := s.running.erase t.id }
    else throw .runtimeError

/-- `_unregister_executor`; `shutdown()` makes the spinning thread return. -/
def unregisterExecutor : PluginM Unit := do
  if (← get).executor.isSome then
    joinExecutorThread
    modify fun s => { s with executor := none }

/-- `_unload_jtc`. -/
def unloadJtc : PluginM Unit := do
  modify fun s => { s with bound := false }
  -- Stop updating the joint positions; `disconnect` removes the oldest
  -- connection, and raises when there is none
  modify fun s => { s with stateConns := s.stateConns.tail }
  -- Reset ROS interfaces
  unregisterStateSub
  unregisterCmdPub
  unregisterExecutor
  -- Clear joint widgets
  modify fun s => { s with jointRows := [] }
  -- Reset joint data
  modify fun s => { s with jointNames := [], jointPos := PyDict.empty, loaded := none }
  -- Enforce monitor mode (sending commands disabled)
  setChecked (onJtcEnabled toggleDepth) false

/-- The widget loop of `_load_jtc`: one `DoubleEditor` row per joint, and a
`KeyError` at the first joint without limits. -/
def addJointRows : List String → PluginM Unit
  | [] => pure ()
  | name :: names => do
    match (← get).robotJointLimits.get? name with
    | none => throw .keyError
    | some limits =>
      modify fun s => { s with jointRows := s.jointRows ++ [⟨name, limits, true⟩] }
      addJointRows names

/-- `self._node.create_subscription(..., state_topic, ...)`. -/
def createStateSub (topic : String) (fault : Option LoadFault) : PluginM Unit := do
  if fault = some .subscription then throw .rclpyError
  modify fun s => { s with
    stateSub := some s.nextHandle
    subscriptions := s.subscriptions ++ [(s.nextHandle, topic)]
    nextHandle := s.nextHandle + 1 }

/-- `self._node.create_publisher(JointTrajectory, cmd_topic, 1)`. -/
def createCmdPub (topic : String) (fault : Option LoadFault) : PluginM Unit := do
  if fault = some .publisher then throw .rclpyError
  modify fun s => { s with
    cmdPub := some s.nextHandle
    publishers := s.publishers ++ [(s.nextHandle, topic)]
    nextHandle := s.nextHandle + 1 }

/-- The last four lines of `_load_jtc`: a new executor spinning the node on a
new thread. -/
def startExecutor (fault : Option LoadFault) : PluginM Unit := do
  -- self._executor = rclpy.executors.SingleThreadedExecutor()
  if fault = some .executor then throw .rclpyError
  modify fun s => { s with executor := some s.nextHandle, nextHandle := s.nextHandle + 1 }
  -- self._executor.add_node(self._node)
  if fault = some .addNode then throw .rclpyError
  -- self._executor_thread = threading.Thread(target=self._executor.spin, daemon=True)
  let t := (← get).nextHandle
  modify fun s => { s with executorThread := some ⟨t, false⟩, nextHandle := t + 1 }
  -- self._executor_thread.start()
  if fault = some .threadStart then throw .runtimeError
  modify fun s => { s with executorThread := some ⟨t, true⟩, running := s.running ++ [t] }

/-- `# Setup ROS interfaces` in `_load_jtc`, once the controller's namespace is
resolved. -/
def setupRosInterfaces (jtcNs : String) (fault : Option LoadFault) : PluginM Unit := do
  createStateSub (jtcNs ++ "/controller_state") fault
  createCmdPub (jtcNs ++ "/joint_trajectory") fault
  modify fun s => { s with stateConns := s.stateConns ++ [s.nextConn], nextConn := s.nextConn + 1 }
  startExecutor fault

/-- `_load_jtc`. -/
def loadJtc (env : LoadEnv) : PluginM Unit := do
  -- Initialize joint data corresponding to selected controller
  let running ← runningJtcInfo env.listing
  let name := (← get).jtcName
  match running.find? (·.name = name) with
  | none => throw .stopIteration
  | some info =>
    let names := jtcJointNames info
    modify fun s => { s with
      jointNames := names
      jointPos := names.foldl (fun pos n => pos.set n {}) s.jointPos
      loaded := some ⟨env.listing, info, s.cmNs⟩ }
    -- Update joint display; the exception is swallowed
    emit (addJointRows names)
    -- Enter monitor mode (sending commands disabled)
    onJtcEnabled toggleDepth false
    -- Setup ROS interfaces
    let jtcNs ← liftExcept (resolveControllerNs (← get).cmNs name)
    setupRosInterfaces jtcNs env.fault
    modify fun s => { s with bound := true }

/-- `_on_jtc_change(jtc_name)`. -/
def onJtcChange (name : String) (env : LoadEnv) : PluginM Unit := do
  unloadJtc
  modify fun s => { s with jtcName := name }
  if name ≠ "" then loadJtc env

/-- `shutdown_plugin`. -/
def shutdownPlugin : PluginM Unit := do
  modify fun s => { s with updateCmdTimer := false, updateActPosTimer := false, bound := false }
  unregisterStateSub
  unregisterCmdPub
  unregisterExecutor

/-! ## Feedback -/

/-- The loop of `_state_cb`: `joint_names[i] ↦ feedback.positions[i]`, and
`IndexError` when the positions run out first. -/
def buildCurrentPos : List String → List ℚ → PyDict ℚ → Except PyError (PyDict ℚ)
  | [], _, acc => .ok acc
  | _ :: _, [], _ => .error .indexError
  | n :: ns, p :: ps, acc => buildCurrentPos ns ps (acc.set n p)

/-- `_state_cb(msg)`, on the executor thread: `jointStateChanged.emit` posts one
delivery on each connection. -/
def stateCb (sub : Nat) (msg : ControllerState) : PluginM Unit := do
  let currentPos ← liftExcept (buildCurrentPos msg.jointNames msg.positions PyDict.empty)
  modify fun s => { s with queue := s.queue ++ s.stateConns.map fun c => ⟨c, sub, currentPos⟩ }

/-- The executor thread takes a message from a live subscription and runs
`_state_cb`; an exception in a callback ends `spin`, and the thread with it. -/
def executorStep (sub : Nat) (msg : ControllerState) : PluginM Unit := fun s =>
  if sub ∈ s.subscriptions.map Prod.fst ∧ s.running ≠ [] then
    match stateCb sub msg s with
    | .ok _ s' => .ok () s'
    | .error _ s' => .ok () { s' with running := [] }
  else .ok () s

/-- The loop of `_on_joint_state_change`: `self._joint_pos[name]["position"] =
current_pos[name]`, in key order, `KeyError` at an unknown joint. -/
def setPositions : List (String × ℚ) → PluginM Unit
  | [] => pure ()
  | (name, pos) :: rest => do
    match (← get).jointPos.get? name with
    | none => throw .keyError
    | some data =>
      modify fun s => { s with jointPos := s.jointPos.set name { data with position := some pos } }
      setPositions rest

/-- `_on_joint_state_change(current_pos)`. -/
def onJointStateChange (currentPos : PyDict ℚ) : PluginM Unit := do
  if currentPos.size ≠ (← get).jointPos.size then throw .assertionError
  setPositions currentPos.entries

/-- The UI thread dispatches the oldest queued `jointStateChanged`.  PyQt5 drops
a call queued on a connection that `disconnect` has since removed: the slot
proxy it was queued for is disabled. -/
def dispatchJointState : PluginM Unit := do
  match (← get).queue with
  | [] => pure ()
  | d :: rest =>
    modify fun s => { s with queue := rest }
    if d.conn ∈ (← get).stateConns then onJointStateChange d.currentPos

/-! ## Commands and the joint editors -/

/-- `_update_single_cmd_cb(val, name)`. -/
def updateSingleCmdCb (val : ℚ) (name : String) : PluginM Unit := do
  match (← get).jointPos.get? name with
  | none => throw .keyError
  | some data =>
    modify fun s => { s with jointPos := s.jointPos.set name { data with command := some val } }

/-- `_on_speed_scaling_change(val)`. -/
def onSpeedScalingChange (val : ℚ) : PluginM Unit := do
  let scale ← liftExcept (pyDiv val (← get).speedSliderMaximum)
  modify fun s => { s with speedScale := scale }

/-- `_cmd_pub_freq`. -/
def cmdPubFreq : ℚ := 10

/-- `_min_traj_dur = 5.0 / _cmd_pub_freq`. -/
def minTrajDur : ℚ := 5 / cmdPubFreq

/-- One joint of `_update_cmd_cb`'s loop: the commanded position (the position
when no command was set) and the joint's duration. -/
def jointCommand (s : Plugin) (name : String) : Except PyError (ℚ × ℚ) := do
  let some data := s.jointPos.get? name | .error .keyError
  let some pos := data.position | .error .keyError
  let cmd := data.command.getD pos
  let some limits := s.robotJointLimits.get? name | .error .keyError
  let dur ← pyDiv |cmd - pos| limits.maxVelocity
  pure (cmd, max dur minTrajDur)

/-- The trajectory `_update_cmd_cb` builds. -/
def trajectory (s : Plugin) : Except PyError JointTrajectory := do
  let cmds ← s.jointNames.mapM (jointCommand s)
  let dur ← pyMax (cmds.map Prod.snd)
  let duration ← pyDiv dur s.speedScale
  pure ⟨s.jointNames, [⟨cmds.map Prod.fst, duration⟩]⟩

/-- `_update_cmd_cb`. -/
def updateCmdCb : PluginM Unit := do
  let traj ← liftExcept (trajectory (← get))
  match (← get).cmdPub with
  | none => throw .attributeError
  | some p => modify fun s => { s with published := s.published ++ [(p, traj)] }

/-- The loop of `_update_joint_widgets` over the rows from `id` on: the row
shows the position of `_joint_names[id]`, and `setValue` echoes it through
`valueChanged` as the row's command. -/
def refreshRows : List JointRow → Nat → PluginM Unit
  | [], _ => pure ()
  | row :: rows, id => do
    match (← get).jointNames[id]? with
    | none => throw .indexError
    | some name =>
      match ((← get).jointPos.get? name).bind (·.position) with
      | none => pure ()  -- Can happen when first connected to controller
      | some pos => emit (updateSingleCmdCb pos row.name)
      refreshRows rows (id + 1)

/-- `_update_joint_widgets`. -/
def updateJointWidgets : PluginM Unit := do
  refreshRows (← get).jointRows 0

end RqtJtc
