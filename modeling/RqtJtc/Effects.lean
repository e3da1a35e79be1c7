import RqtJtc.Run

/-!
# What each handler does

One lemma per handler gives its outcome in closed form: the state it returns
in, or the exception and the state it raises in.  Later modules prove their
invariants from these lemmas and never unfold a handler.

The vocabulary is a handful of state updates: `enterMode` (the two branches of
`_on_jtc_enabled` once a controller is selected), `uncheck` (`setChecked(False)`
with its re-entrant slot), `click`, and the steps of `_load_jtc`
(`withJoints`, `subscribe`, `advertise`, `newExecutor`, `newThread`,
`startThread`).

## Main statements

* `onJtcEnabled_succ_run`, `onJtcEnabled_succ` — the re-entrant toggle, and
  that the depth bound is immaterial.
* `unloadJtc_run`, `loadJtc_run`, `exec_onJtcChange` — binding a controller.
* `exec_addJointRows`, `setupRosInterfaces_run` — the steps of `_load_jtc`.
-/

namespace RqtJtc
namespace Plugin

/-! ## The enable button -/

/-- `_on_jtc_enabled(val)` with a controller selected: editors and speed scaling
follow `val`, and exactly one of the two timers runs. -/
def enterMode (s : Plugin) (val : Bool) : Plugin :=
  { s with
    jointRows := s.jointRows.map fun r => { r with enabled := val }
    speedScalingEnabled := val
    updateCmdTimer := val
    updateActPosTimer := !val }

/-- `enable_button.setChecked(False)`, with `toggled(False)` running
`_on_jtc_enabled(False)`. -/
def uncheck (s : Plugin) : Plugin :=
  if s.enableChecked then
    if s.jtcName = "" then { s with enableChecked := false }
    else { s with enableChecked := false }.enterMode false
  else s

/-- A click on `enable_button`: the checked state flips and `toggled` runs
`_on_jtc_enabled`, which undoes a check while no controller is selected. -/
def click (s : Plugin) : Plugin :=
  if s.enableChecked then s.uncheck
  else if s.jtcName = "" then s
  else { s with enableChecked := true }.enterMode true

/-- `uncheck` writes only the button, the editors, speed scaling and the timers. -/
theorem uncheck_eq (s : Plugin) : s.uncheck = { s with
    enableChecked := s.uncheck.enableChecked, jointRows := s.uncheck.jointRows
    speedScalingEnabled := s.uncheck.speedScalingEnabled
    updateCmdTimer := s.uncheck.updateCmdTimer, updateActPosTimer := s.uncheck.updateActPosTimer } := by
  unfold uncheck; split_ifs <;> rfl

/-- A click writes only the button, the editors, speed scaling and the timers. -/
theorem click_eq (s : Plugin) : s.click = { s with
    enableChecked := s.click.enableChecked, jointRows := s.click.jointRows
    speedScalingEnabled := s.click.speedScalingEnabled
    updateCmdTimer := s.click.updateCmdTimer, updateActPosTimer := s.click.updateActPosTimer } := by
  unfold click; split_ifs
  · exact uncheck_eq s
  · rfl
  · rfl

theorem setChecked_of_eq {t : Bool → PluginM Unit} {b : Bool} {s : Plugin}
    (h : s.enableChecked = b) : setChecked t b s = .ok () s := by
  simp [setChecked, h]

theorem setChecked_of_ne {t : Bool → PluginM Unit} {b : Bool} {s : Plugin}
    (h : s.enableChecked ≠ b) :
    setChecked t b s = .ok () (exec (t b) { s with enableChecked := b }) := by
  simp [setChecked, h]

/-- With no controller selected and the button unchecked, `_on_jtc_enabled` does
nothing: the re-entrant `setChecked(False)` finds nothing to change. -/
theorem onJtcEnabled_unnamed (d : Nat) (val : Bool) {s : Plugin} (h : s.jtcName = "")
    (hc : s.enableChecked = false) : onJtcEnabled d val s = .ok () s := by
  cases d with
  | zero => rfl
  | succ d => simp [onJtcEnabled, h, setChecked_of_eq hc]

theorem onJtcEnabled_succ_run (d : Nat) (val : Bool) (s : Plugin) :
    onJtcEnabled (d + 1) val s =
      .ok () (if s.jtcName = "" then { s with enableChecked := false } else s.enterMode val) := by
  by_cases h : s.jtcName = ""
  · cases hc : s.enableChecked
    · rw [onJtcEnabled_unnamed _ _ h hc, if_pos h]
      cases s; subst hc; rfl
    · have hr := onJtcEnabled_unnamed d false (s := { s with enableChecked := false }) h rfl
      simp only [onJtcEnabled, run_bind, run_get, if_pos h,
        setChecked_of_ne (t := onJtcEnabled d) (b := false) (s := s) (by simp [hc]), exec_ok hr]
  · cases val <;> simp [onJtcEnabled, h, enterMode]

/-- **The re-entrancy bound is immaterial**: every positive depth is depth one. -/
theorem onJtcEnabled_succ (d : Nat) : onJtcEnabled (d + 1) = onJtcEnabled 1 := by
  funext val s
  rw [onJtcEnabled_succ_run, onJtcEnabled_succ_run]

theorem setChecked_false_run (d : Nat) (s : Plugin) :
    setChecked (onJtcEnabled (d + 1)) false s = .ok () s.uncheck := by
  by_cases hc : s.enableChecked
  · by_cases h : s.jtcName = "" <;> simp [setChecked, emit, onJtcEnabled_succ_run, uncheck, hc, h]
  · simp [setChecked, uncheck, hc]

theorem step_enableClicked (s : Plugin) : s.step .enableClicked = s.click := by
  by_cases hc : s.enableChecked
  · simp [step, exec, toggleDepth, setChecked_false_run, click, hc]
  · by_cases h : s.jtcName = ""
    · cases s; simp_all [step, exec, toggleDepth, setChecked, emit, onJtcEnabled_succ_run, click]
    · simp [step, exec, toggleDepth, setChecked, emit, onJtcEnabled_succ_run, click, hc, h]

/-! ## Unloading -/

theorem unregisterStateSub_run (s : Plugin) :
    unregisterStateSub s = .ok () { s with
      subscriptions := s.subscriptions.filter fun p => s.stateSub ≠ some p.1
      stateSub := none } := by
  cases h : s.stateSub
  · cases s; simp_all [unregisterStateSub]
  · simp [unregisterStateSub, h, eq_comm]

theorem unregisterCmdPub_run (s : Plugin) :
    unregisterCmdPub s = .ok () { s with
      publishers := s.publishers.filter fun p => s.cmdPub ≠ some p.1
      cmdPub := none } := by
  cases h : s.cmdPub
  · cases s; simp_all [unregisterCmdPub]
  · simp [unregisterCmdPub, h, eq_comm]

/-- `_unregister_executor` raises in `join()`: the executor is set but the thread
is `None` or was never started. -/
def joinRaises (s : Plugin) : Bool :=
  s.executor.isSome && !(s.executorThread.any (·.started))

/-- The executor thread after `_unregister_executor` joined it. -/
def joined (s : Plugin) : Plugin :=
  match s.executor, s.executorThread with
  | some _, some t => { s with running := s.running.erase t.id, executor := none }
  | _, _ => s

theorem unregisterExecutor_run (s : Plugin) :
    unregisterExecutor s =
      if s.joinRaises then .error
        (if s.executorThread.isNone then .attributeError else .runtimeError) s
      else .ok () s.joined := by
  rcases he : s.executor with _ | e
  · simp [unregisterExecutor, joinRaises, joined, he]
  · rcases ht : s.executorThread with _ | ⟨t, _ | _⟩ <;>
      simp [unregisterExecutor, joinExecutorThread, joinRaises, joined, he, ht]

/-- The teardown `_unload_jtc` completes before `_unregister_executor`. -/
def releaseInterfaces (s : Plugin) : Plugin :=
  { s with
    bound := false
    stateConns := s.stateConns.tail
    subscriptions := s.subscriptions.filter fun p => s.stateSub ≠ some p.1
    stateSub := none
    publishers := s.publishers.filter fun p => s.cmdPub ≠ some p.1
    cmdPub := none }

/-- The rest of `_unload_jtc`: empty layout and joint data, monitor mode. -/
def clearJoints (s : Plugin) : Plugin :=
  { s with jointRows := [], jointNames := [], jointPos := PyDict.empty, loaded := none }.uncheck

theorem unloadJtc_run (s : Plugin) :
    unloadJtc s =
      if s.releaseInterfaces.joinRaises then
        .error (if s.executorThread.isNone then .attributeError else .runtimeError)
          s.releaseInterfaces
      else .ok () s.releaseInterfaces.joined.clearJoints := by
  simp only [unloadJtc, run_bind, run_modify, unregisterStateSub_run, unregisterCmdPub_run,
    unregisterExecutor_run, releaseInterfaces]
  split_ifs <;> simp [toggleDepth, setChecked_false_run, clearJoints]

theorem exec_unloadJtc (s : Plugin) :
    exec unloadJtc s =
      if s.releaseInterfaces.joinRaises then s.releaseInterfaces
      else s.releaseInterfaces.joined.clearJoints := by
  rw [exec, unloadJtc_run]; split_ifs <;> rfl

/-- `joined` writes only the running threads and `_executor`. -/
theorem joined_eq (s : Plugin) :
    s.joined = { s with running := s.joined.running, executor := s.joined.executor } := by
  unfold joined; split <;> rfl

/-! ## Loading -/

/-- The rows the widget loop of `_load_jtc` adds: one per joint, up to the first
joint without limits. -/
def jointRowsFor (limits : PyDict JointLimits) : List String → List JointRow
  | [] => []
  | name :: names =>
    match limits.get? name with
    | none => []
    | some l => ⟨name, l, true⟩ :: jointRowsFor limits names

theorem exec_addJointRows (names : List String) (s : Plugin) :
    exec (addJointRows names) s =
      { s with jointRows := s.jointRows ++ jointRowsFor s.robotJointLimits names } := by
  induction names generalizing s with
  | nil => simp [exec, addJointRows, jointRowsFor]
  | cons n ns ih =>
    rcases h : s.robotJointLimits.get? n with _ | l
    · simp [exec, addJointRows, jointRowsFor, h]
    · have := ih { s with jointRows := s.jointRows ++ [⟨n, l, true⟩] }
      simp only [exec] at this
      simp [exec, addJointRows, jointRowsFor, h, this]

/-- The joint data, editor rows and monitor mode `_load_jtc` sets up for the
controller it found. -/
def withJoints (s : Plugin) (r : LoadedJtc) : Plugin :=
  ({ s with
    jointNames := jtcJointNames r.info
    jointPos := (jtcJointNames r.info).foldl (fun pos n => pos.set n {}) s.jointPos
    jointRows := s.jointRows ++ jointRowsFor s.robotJointLimits (jtcJointNames r.info)
    loaded := some r }).enterMode false

/-- `create_subscription`: a fresh handle, live on the node. -/
def subscribe (s : Plugin) (topic : String) : Plugin :=
  { s with
    stateSub := some s.nextHandle
    subscriptions := s.subscriptions ++ [(s.nextHandle, topic)]
    nextHandle := s.nextHandle + 1 }

/-- `create_publisher` and `jointStateChanged.connect`. -/
def advertise (s : Plugin) (topic : String) : Plugin :=
  { s with
    cmdPub := some s.nextHandle
    publishers := s.publishers ++ [(s.nextHandle, topic)]
    nextHandle := s.nextHandle + 1 }

/-- `jointStateChanged.connect(self._on_joint_state_change)`. -/
def connect (s : Plugin) : Plugin :=
  { s with stateConns := s.stateConns ++ [s.nextConn], nextConn := s.nextConn + 1 }

/-- `SingleThreadedExecutor()`. -/
def newExecutor (s : Plugin) : Plugin :=
  { s with executor := some s.nextHandle, nextHandle := s.nextHandle + 1 }

/-- `threading.Thread(...)`, not started. -/
def newThread (s : Plugin) : Plugin :=
  { s with executorThread := some ⟨s.nextHandle, false⟩, nextHandle := s.nextHandle + 1 }

/-- `self._executor_thread.start()` on thread `t`. -/
def startThread (s : Plugin) (t : Nat) : Plugin :=
  { s with executorThread := some ⟨t, true⟩, running := s.running ++ [t] }

theorem setupRosInterfaces_run (ns : String) (fault : Option LoadFault) (s : Plugin) :
    setupRosInterfaces ns fault s =
      let s₁ := s.subscribe (ns ++ "/controller_state")
      let s₂ := (s₁.advertise (ns ++ "/joint_trajectory")).connect
      match fault with
      | some .subscription => .error .rclpyError s
      | some .publisher => .error .rclpyError s₁
      | some .executor => .error .rclpyError s₂
      | some .addNode => .error .rclpyError s₂.newExecutor
      | some .threadStart => .error .runtimeError s₂.newExecutor.newThread
      | none => .ok () (s₂.newExecutor.newThread.startThread s₂.newExecutor.nextHandle) := by
  rcases fault with _ | _ | _ | _ | _ | _ <;> rfl

theorem loadJtc_run (env : LoadEnv) (s : Plugin) (h : s.jtcName ≠ "") :
    loadJtc env s =
      if s.listControllers.isNone then .error .typeError s
      else match (runningJtc env.listing).find? (·.name = s.jtcName) with
        | none => .error .stopIteration s
        | some info =>
          match setupRosInterfaces (controllerNs s.cmNs s.jtcName) env.fault
              (s.withJoints ⟨env.listing, info, s.cmNs⟩) with
          | .ok _ s' => .ok () { s' with bound := true }
          | .error e s' => .error e s' := by
  have hns : resolveControllerNs s.cmNs s.jtcName = .ok (controllerNs s.cmNs s.jtcName) := by
    simp [resolveControllerNs, h]
  rcases hl : s.listControllers with _ | lister
  · simp [loadJtc, runningJtcInfo, hl]
  · rcases hf : (runningJtc env.listing).find? (·.name = s.jtcName) with _ | info
    · simp [loadJtc, runningJtcInfo, hl, hf]
    · simp only [loadJtc, runningJtcInfo, toggleDepth, liftExcept, run_bind, run_get, hl, run_pure,
        hf, run_modify, emit_run, exec_addJointRows, onJtcEnabled_succ_run, h, if_false, enterMode,
        List.map_append, Bool.not_false, hns, Option.isNone_some, Bool.false_eq_true, withJoints]
      generalize setupRosInterfaces _ env.fault _ = r
      cases r <;> rfl


theorem onJtcChange_run (name : String) (env : LoadEnv) (s : Plugin) :
    onJtcChange name env s =
      match unloadJtc s with
      | .error e s' => .error e s'
      | .ok _ s' =>
        if name = "" then .ok () { s' with jtcName := name }
        else loadJtc env { s' with jtcName := name } := by
  rcases hu : unloadJtc s with ⟨_, s'⟩ | ⟨e, s'⟩
  · by_cases h : name = "" <;> simp [onJtcChange, hu, h]
  · simp [onJtcChange, hu]

/-- The state `# Setup ROS interfaces` leaves: everything up to the call that
raises. -/
def rosStage (s : Plugin) (ns : String) : Option LoadFault → Plugin
  | some .subscription => s
  | some .publisher => s.subscribe (ns ++ "/controller_state")
  | some .executor => ((s.subscribe (ns ++ "/controller_state")).advertise
      (ns ++ "/joint_trajectory")).connect
  | some .addNode => (((s.subscribe (ns ++ "/controller_state")).advertise
      (ns ++ "/joint_trajectory")).connect).newExecutor
  | some .threadStart => ((((s.subscribe (ns ++ "/controller_state")).advertise
      (ns ++ "/joint_trajectory")).connect).newExecutor).newThread
  | none =>
    let s' := (((s.subscribe (ns ++ "/controller_state")).advertise
      (ns ++ "/joint_trajectory")).connect).newExecutor
    s'.newThread.startThread s'.nextHandle

theorem exec_setupRosInterfaces (ns : String) (fault : Option LoadFault) (s : Plugin) :
    exec (setupRosInterfaces ns fault) s = s.rosStage ns fault := by
  rcases fault with _ | _ | _ | _ | _ | _ <;> rfl

/-- `_load_jtc` from a state with a selected controller, as the state it leaves. -/
theorem exec_loadJtc (env : LoadEnv) (s : Plugin) (h : s.jtcName ≠ "") :
    exec (loadJtc env) s =
      if s.listControllers.isNone then s
      else match (runningJtc env.listing).find? (·.name = s.jtcName) with
        | none => s
        | some info =>
          let s' := (s.withJoints ⟨env.listing, info, s.cmNs⟩).rosStage
            (controllerNs s.cmNs s.jtcName) env.fault
          if env.fault = none then { s' with bound := true } else s' := by
  rw [exec, loadJtc_run env s h]
  by_cases hl : s.listControllers.isNone
  · simp [hl]
  · rcases hf : (runningJtc env.listing).find? (·.name = s.jtcName) with _ | info
    · simp [hl, hf]
    · rcases fault : env.fault with _ | _ | _ | _ | _ | _ <;>
        simp [hl, hf, setupRosInterfaces_run, rosStage, fault]

/-- `_on_jtc_change(name)` as the state it leaves: the teardown only, when
`join()` raises; otherwise the selection, and `_load_jtc` for a nonempty name. -/
theorem exec_onJtcChange (name : String) (env : LoadEnv) (s : Plugin) :
    exec (onJtcChange name env) s =
      if s.releaseInterfaces.joinRaises then s.releaseInterfaces
      else
        let s' := { s.releaseInterfaces.joined.clearJoints with jtcName := name }
        if name = "" then s' else exec (loadJtc env) s' := by
  rw [exec, onJtcChange_run, unloadJtc_run]
  by_cases hj : s.releaseInterfaces.joinRaises
  · simp [hj]
  · by_cases h : name = "" <;> simp [hj, h, exec]

/-! ## Discovery -/

/-- The joint-limits cache and query log after the priming block of
`_update_jtc_list` with running controllers `running`. -/
def primed (s : Plugin) (lookup : List String → PyDict JointLimits)
    (running : List ControllerInfo) : Plugin :=
  if running ≠ [] ∧ s.robotJointLimits.isEmpty then
    { s with
      robotJointLimits := mergeLimits lookup running
      limitsQueries := s.limitsQueries ++ running.map jtcJointNames }
  else s

/-- The controllers `_update_jtc_list` offers, for cache `limits`. -/
def validJtc (limits : PyDict JointLimits) (running : List ControllerInfo) :
    List ControllerInfo :=
  if limits.isEmpty then [] else running.filter (hasLimits limits)

theorem updateJtcList_run (d : Discovery) (s : Plugin) :
    updateJtcList d s = .ok ()
      (if s.listControllers.isNone then { s with jtcCombo := [] }
      else
        let s' := s.primed d.lookup (runningJtc d.listing)
        { s' with jtcCombo :=
            pySorted ((validJtc s'.robotJointLimits (runningJtc d.listing)).map (·.name)) }) := by
  rcases hl : s.listControllers with _ | lister
  · simp [updateJtcList, hl]
  · simp only [updateJtcList, runningJtcInfo, ne_eq, run_bind, run_get, hl, reduceCtorEq,
      Option.isNone_some, Bool.false_eq_true, ite_false, run_pure, run_ite, run_modify, primed,
      validJtc]
    split_ifs <;> simp only [hl]

theorem onCmChange_run (cmNs : String) (d : Discovery) (s : Plugin) :
    onCmChange cmNs d s = .ok ()
      (if cmNs = "" then { s with cmNs := cmNs, listControllers := none }
      else exec (updateJtcList d)
        { s with cmNs := cmNs, listControllers := some cmNs, jtcCombo := [] }) := by
  by_cases h : cmNs = ""
  · simp [onCmChange, h]
  · simp [onCmChange, h, exec, updateJtcList_run]

/-! ## Feedback, editors and commands -/

/-- The positions `_on_joint_state_change`'s loop writes, up to the first joint
`_joint_pos` does not have. -/
def applyPositions : List (String × ℚ) → PyDict JointData → PyDict JointData
  | [], pos => pos
  | (name, p) :: rest, pos =>
    match pos.get? name with
    | none => pos
    | some data => applyPositions rest (pos.set name { data with position := some p })

/-- Applying feedback writes only joints `_joint_pos` already has. -/
theorem keys_applyPositions (l : List (String × ℚ)) (pos : PyDict JointData) :
    (applyPositions l pos).keys = pos.keys := by
  induction l generalizing pos with
  | nil => rfl
  | cons e l ih =>
    obtain ⟨name, p⟩ := e
    simp only [applyPositions]
    split
    · rfl
    · rename_i data h
      rw [ih, PyDict.keys_set_of_mem ((PyDict.mem_keys _ _).2 (by simp [h]))]

theorem exec_setPositions (l : List (String × ℚ)) (s : Plugin) :
    exec (setPositions l) s = { s with jointPos := applyPositions l s.jointPos } := by
  induction l generalizing s with
  | nil => simp [exec, setPositions, applyPositions]
  | cons e l ih =>
    obtain ⟨name, p⟩ := e
    rcases h : s.jointPos.get? name with _ | data
    · simp [exec, setPositions, applyPositions, h]
    · have := ih { s with jointPos := s.jointPos.set name { data with position := some p } }
      simp only [exec] at this
      simp [exec, setPositions, applyPositions, h, this]

theorem exec_onJointStateChange (currentPos : PyDict ℚ) (s : Plugin) :
    exec (onJointStateChange currentPos) s =
      if currentPos.size = s.jointPos.size then
        { s with jointPos := applyPositions currentPos.entries s.jointPos }
      else s := by
  by_cases h : currentPos.size = s.jointPos.size
  · have := exec_setPositions currentPos.entries s
    simp only [exec] at this
    simp [exec, onJointStateChange, h, this]
  · simp [exec, onJointStateChange, h]

/-- The UI thread applies the oldest delivery when its connection is live, and
drops it otherwise. -/
theorem step_jointStateDelivered (s : Plugin) :
    s.step .jointStateDelivered =
      match s.queue with
      | [] => s
      | d :: rest =>
        if d.conn ∈ s.stateConns then exec (onJointStateChange d.currentPos) { s with queue := rest }
        else { s with queue := rest } := by
  rcases h : s.queue with _ | ⟨d, rest⟩
  · simp [step, exec, dispatchJointState, h]
  · by_cases hc : d.conn ∈ s.stateConns <;> simp [step, exec, dispatchJointState, h, hc]

/-- **A delivery writes only the joint data and the queue**, and the joint data
only as `_on_joint_state_change`'s loop does. -/
theorem delivered_step (s : Plugin) :
    ∃ l, s.step .jointStateDelivered =
      { s with jointPos := applyPositions l s.jointPos, queue := s.queue.tail } := by
  rw [step_jointStateDelivered]
  split
  · rename_i h
    exact ⟨[], by rw [h]; exact congrArg (fun q => { s with queue := q }) h⟩
  · rename_i h
    rw [h]
    split
    · rw [exec_onJointStateChange]
      split
      · exact ⟨_, rfl⟩
      · exact ⟨[], rfl⟩
    · exact ⟨[], rfl⟩

theorem step_stateMessage (sub : Nat) (msg : ControllerState) (s : Plugin) :
    s.step (.stateMessage sub msg) =
      if sub ∈ s.subscriptions.map Prod.fst ∧ s.running ≠ [] then
        match buildCurrentPos msg.jointNames msg.positions PyDict.empty with
        | .ok m => { s with queue := s.queue ++ s.stateConns.map fun c => ⟨c, sub, m⟩ }
        | .error _ => { s with running := [] }
      else s := by
  by_cases h : sub ∈ s.subscriptions.map Prod.fst ∧ s.running ≠ []
  · rcases hb : buildCurrentPos msg.jointNames msg.positions PyDict.empty with e | m <;>
      simp [step, exec, executorStep, stateCb, liftExcept, h, hb]
  · simp only [step, exec, executorStep, if_neg h]

/-- `_update_single_cmd_cb(val, name)`: the command of `name`, when it has an
entry. -/
def setCommand (pos : PyDict JointData) (name : String) (val : ℚ) : PyDict JointData :=
  match pos.get? name with
  | none => pos
  | some data => pos.set name { data with command := some val }

theorem exec_updateSingleCmdCb (val : ℚ) (name : String) (s : Plugin) :
    exec (updateSingleCmdCb val name) s = { s with jointPos := setCommand s.jointPos name val } := by
  rcases h : s.jointPos.get? name with _ | data
  · cases s; simp_all [exec, updateSingleCmdCb, setCommand]
  · simp [exec, updateSingleCmdCb, setCommand, h]

/-- The commands `_update_joint_widgets` echoes through the editors from row
`id` on, up to an index past `_joint_names`. -/
def refreshedPos (names : List String) : List JointRow → Nat → PyDict JointData → PyDict JointData
  | [], _, pos => pos
  | row :: rows, id, pos =>
    match names[id]? with
    | none => pos
    | some name =>
      match (pos.get? name).bind (·.position) with
      | none => refreshedPos names rows (id + 1) pos
      | some p => refreshedPos names rows (id + 1) (setCommand pos row.name p)

theorem exec_refreshRows (rows : List JointRow) (id : Nat) (s : Plugin) :
    exec (refreshRows rows id) s =
      { s with jointPos := refreshedPos s.jointNames rows id s.jointPos } := by
  induction rows generalizing id s with
  | nil => cases s; simp [exec, refreshRows, refreshedPos]
  | cons row rows ih =>
    rcases hn : s.jointNames[id]? with _ | name
    · simp only [exec, refreshRows, refreshedPos, hn, run_bind, run_get, run_throw]
    · rcases hp : (s.jointPos.get? name).bind (·.position) with _ | p
      · have := ih (id + 1) s
        simp only [exec] at this
        simp [exec, refreshRows, refreshedPos, hn, hp, this]
      · have := ih (id + 1) { s with jointPos := setCommand s.jointPos row.name p }
        have hu := exec_updateSingleCmdCb p row.name s
        simp only [exec] at this hu
        simp [exec, refreshRows, refreshedPos, hn, hp, this, hu]

theorem exec_updateCmdCb (s : Plugin) :
    exec updateCmdCb s =
      match trajectory s, s.cmdPub with
      | .ok traj, some p => { s with published := s.published ++ [(p, traj)] }
      | _, _ => s := by
  rcases ht : trajectory s with e | traj <;> rcases hp : s.cmdPub with _ | p <;>
    simp [exec, updateCmdCb, liftExcept, ht, hp]

theorem exec_onSpeedScalingChange (val : ℚ) (s : Plugin) :
    exec (onSpeedScalingChange val) s =
      if s.speedSliderMaximum = 0 then s
      else { s with speedScale := val / s.speedSliderMaximum } := by
  by_cases h : s.speedSliderMaximum = 0 <;>
    simp [exec, onSpeedScalingChange, liftExcept, pyDiv, h]

theorem stateMessage_cases (sub : Nat) (msg : ControllerState) (s : Plugin) :
    (∃ q, s.step (.stateMessage sub msg) = { s with queue := q }) ∨
      s.step (.stateMessage sub msg) = { s with running := [] } := by
  rw [step_stateMessage]
  split
  · split
    · exact .inl ⟨_, rfl⟩
    · exact .inr rfl
  · exact .inl ⟨s.queue, rfl⟩

/-! ## Shutdown -/

/-- What `shutdown_plugin` does before `_unregister_executor`. -/
def stopped (s : Plugin) : Plugin :=
  { s with
    updateCmdTimer := false, updateActPosTimer := false, bound := false
    subscriptions := s.subscriptions.filter fun p => s.stateSub ≠ some p.1
    stateSub := none
    publishers := s.publishers.filter fun p => s.cmdPub ≠ some p.1
    cmdPub := none }

theorem exec_shutdownPlugin (s : Plugin) :
    exec shutdownPlugin s = if s.stopped.joinRaises then s.stopped else s.stopped.joined := by
  simp only [exec, shutdownPlugin, run_bind, run_modify, unregisterStateSub_run,
    unregisterCmdPub_run, unregisterExecutor_run, stopped]
  split_ifs <;> rfl

/-! ## Edits and ticks -/

/-- `pos'` has the keys and the positions of `pos`: only commands differ. -/
def PosFrame (pos pos' : PyDict JointData) : Prop :=
  pos'.keys = pos.keys ∧ ∀ n, (pos'.get? n).map (·.position) = (pos.get? n).map (·.position)

theorem PosFrame.refl (pos : PyDict JointData) : PosFrame pos pos := ⟨rfl, fun _ => rfl⟩

theorem PosFrame.trans {a b c : PyDict JointData} (h₁ : PosFrame a b) (h₂ : PosFrame b c) :
    PosFrame a c :=
  ⟨h₂.1.trans h₁.1, fun n => (h₂.2 n).trans (h₁.2 n)⟩

theorem posFrame_setCommand (pos : PyDict JointData) (name : String) (val : ℚ) :
    PosFrame pos (setCommand pos name val) := by
  unfold setCommand
  split
  · exact .refl _
  · rename_i data h
    refine ⟨PyDict.keys_set_of_mem ((PyDict.mem_keys _ _).2 (by simp [h])) _, fun n => ?_⟩
    by_cases hn : name = n
    · subst hn; simp [h]
    · simp [hn]

theorem posFrame_refreshedPos (names : List String) (rows : List JointRow) (id : Nat)
    (pos : PyDict JointData) : PosFrame pos (refreshedPos names rows id pos) := by
  induction rows generalizing id pos with
  | nil => exact .refl _
  | cons row rows ih =>
    simp only [refreshedPos]
    split
    · exact .refl _
    · split
      · exact ih _ _
      · exact (posFrame_setCommand _ _ _).trans (ih _ _)

theorem exec_updateJointWidgets (s : Plugin) :
    exec updateJointWidgets s =
      { s with jointPos := refreshedPos s.jointNames s.jointRows 0 s.jointPos } := by
  have := exec_refreshRows s.jointRows 0 s
  simp only [exec] at this
  simp only [updateJointWidgets, exec, run_bind, run_get, this]

/-- **Edits and ticks write only commands, the speed scale and the published
messages.** -/
theorem edit_step {e : Event} (he : e.IsEdit) (s : Plugin) :
    ∃ pos scale pub, s.step e = { s with jointPos := pos, speedScale := scale, published := pub } ∧
      PosFrame s.jointPos pos := by
  cases e with
  | editorChanged row val =>
    simp only [step]
    split
    · split
      · rw [exec_updateSingleCmdCb]; exact ⟨_, _, _, rfl, posFrame_setCommand _ _ _⟩
      · exact ⟨_, _, _, rfl, .refl _⟩
    · exact ⟨_, _, _, rfl, .refl _⟩
  | speedScalingChanged val =>
    simp only [step]
    split
    · rw [exec_onSpeedScalingChange]; split <;> exact ⟨_, _, _, rfl, .refl _⟩
    · exact ⟨_, _, _, rfl, .refl _⟩
  | cmdTimeout =>
    simp only [step]
    split
    · rw [exec_updateCmdCb]; split <;> exact ⟨_, _, _, rfl, .refl _⟩
    · exact ⟨_, _, _, rfl, .refl _⟩
  | actPosTimeout =>
    simp only [step]
    split
    · rw [exec_updateJointWidgets]; exact ⟨_, _, _, rfl, posFrame_refreshedPos _ _ _ _⟩
    · exact ⟨_, _, _, rfl, .refl _⟩
  | _ => exact absurd he id

/-! ## Passive events -/

/-- The fields that only selections, clicks, `shutdown_plugin` and the executor
thread write, and the joints `_joint_pos` has entries for. -/
structure Control where
  jtcName : String
  jointNames : List String
  jointRows : List JointRow
  jointKeys : List String
  updateCmdTimer : Bool
  updateActPosTimer : Bool
  enableChecked : Bool
  speedScalingEnabled : Bool
  bound : Bool
  cmdPub : Option Nat
  stateSub : Option Nat
  executor : Option Nat
  executorThread : Option PyThread
  subscriptions : List (Nat × String)
  publishers : List (Nat × String)
  running : List Nat
  stateConns : List Nat
  nextConn : Nat
  nextHandle : Nat
  loaded : Option LoadedJtc

/-- The control fields of a state. -/
def control (s : Plugin) : Control where
  jtcName := s.jtcName
  jointNames := s.jointNames
  jointRows := s.jointRows
  jointKeys := s.jointPos.keys
  updateCmdTimer := s.updateCmdTimer
  updateActPosTimer := s.updateActPosTimer
  enableChecked := s.enableChecked
  speedScalingEnabled := s.speedScalingEnabled
  bound := s.bound
  cmdPub := s.cmdPub
  stateSub := s.stateSub
  executor := s.executor
  executorThread := s.executorThread
  subscriptions := s.subscriptions
  publishers := s.publishers
  running := s.running
  stateConns := s.stateConns
  nextConn := s.nextConn
  nextHandle := s.nextHandle
  loaded := s.loaded

theorem primed_eq (s : Plugin) (lookup : List String → PyDict JointLimits)
    (running : List ControllerInfo) :
    ∃ lim qs, s.primed lookup running = { s with robotJointLimits := lim, limitsQueries := qs } := by
  unfold primed; split
  · exact ⟨_, _, rfl⟩
  · exact ⟨_, _, rfl⟩

/-- **Polls write only the discovery fields**: the controller manager, the
lister, the two combo boxes, the limits cache and the query log. -/
theorem poll_step {e : Event} (he : e.IsPoll) (s : Plugin) :
    ∃ ns lc cs js lim qs, s.step e = { s with
      cmNs := ns, listControllers := lc, cmCombo := cs, jtcCombo := js
      robotJointLimits := lim, limitsQueries := qs } := by
  cases e with
  | updateCmList => exact ⟨_, _, _, _, _, _, rfl⟩
  | updateJtcList d =>
    obtain ⟨lim, qs, h⟩ := primed_eq s d.lookup (runningJtc d.listing)
    simp only [step, exec, updateJtcList_run, h]
    split <;> exact ⟨_, _, _, _, _, _, rfl⟩
  | cmChange c d =>
    obtain ⟨lim, qs, h⟩ := primed_eq { s with
      cmNs := c, listControllers := some c, jtcCombo := [] } d.lookup (runningJtc d.listing)
    simp only [step, exec, onCmChange_run, updateJtcList_run, h]
    split_ifs <;> exact ⟨_, _, _, _, _, _, rfl⟩
  | _ => exact absurd he id

theorem control_edit {e : Event} (he : e.IsEdit) (s : Plugin) : control (s.step e) = control s := by
  obtain ⟨_, _, _, h, hf⟩ := edit_step he s
  rw [h]; simp only [control, hf.1]

theorem control_poll {e : Event} (he : e.IsPoll) (s : Plugin) : control (s.step e) = control s := by
  obtain ⟨_, _, _, _, _, _, h⟩ := poll_step he s
  rw [h]; rfl

/-- **Polls, edits, deliveries and ticks keep the control fields.** -/
theorem control_step {e : Event} (he : e.IsPassive) (s : Plugin) :
    control (s.step e) = control s := by
  cases e with
  | updateCmList | updateJtcList | cmChange => exact control_poll (by trivial) s
  | jointStateDelivered =>
    obtain ⟨l, h⟩ := delivered_step s
    rw [h]; simp only [control, keys_applyPositions]
  | editorChanged | speedScalingChanged | cmdTimeout | actPosTimeout =>
    exact control_edit (by trivial) s
  | jtcChange | enableClicked | shutdownPlugin | stateMessage => exact absurd he id

/-- Polls, edits and ticks keep the queue; a delivery takes its oldest entry. -/
theorem queue_passive {e : Event} (he : e.IsPassive) (s : Plugin) :
    (s.step e).queue = s.queue ∨ (s.step e).queue = s.queue.tail := by
  by_cases hd : e = .jointStateDelivered
  · obtain ⟨l, h⟩ := delivered_step s
    exact .inr (by rw [hd, h])
  by_cases hp : e.IsPoll
  · obtain ⟨_, _, _, _, _, _, h⟩ := poll_step hp s
    exact .inl (by rw [h])
  · have hedit : e.IsEdit := by
      cases e <;> trivial
    obtain ⟨_, _, _, h, -⟩ := edit_step hedit s
    exact .inl (by rw [h])

end Plugin
end RqtJtc
