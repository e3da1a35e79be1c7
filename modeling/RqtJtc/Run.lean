import RqtJtc.Plugin

/-!
# Events, runs and reachable states

The plugin is driven by events: the two discovery polls, the selections the
combo boxes report, clicks and edits on its widgets, timer timeouts, a message
on the executor thread, the UI thread dispatching a queued delivery, and
`shutdown_plugin`.  `step` runs the handler an event calls; a timeout of a
stopped timer, an edit of a disabled widget and a message without a spinning
executor do nothing.

Arguments of an event are whatever the environment supplies: any controller
name, any controller listing at every call of the lister, any answer of
`get_joint_limits`, any rclpy call failing.  A combo box that raises a signal in
the middle of a handler (`clear()`, `update_combo`) does so at a point where the
rest of the handler commutes with the slot, so the slot is the next event.
`restore_settings` is a sequence of events (`restoreSettings`).

## Main definitions

* `Event`, `Plugin.step`, `Plugin.run` — one event, a sequence of events.
* `Plugin.init` — the state `__init__` leaves.
* `Reachable`, `ReachableBy` — states some run reaches, from any initial state.
-/

namespace RqtJtc

/-- An event the plugin reacts to. -/
inductive Event
  /-- `_update_cm_list`, on its timer. -/
  | updateCmList (managers : List String)
  /-- `_update_jtc_list`, on its timer. -/
  | updateJtcList (d : Discovery)
  /-- `cm_combo.currentIndexChanged[str]`: `_on_cm_change`. -/
  | cmChange (cmNs : String) (d : Discovery)
  /-- `jtc_combo.currentIndexChanged[str]`: `_on_jtc_change`. -/
  | jtcChange (name : String) (env : LoadEnv)
  /-- The user clicks `enable_button`. -/
  | enableClicked
  /-- The user edits the joint editor in row `row`. -/
  | editorChanged (row : Nat) (val : ℚ)
  /-- The user edits the speed scaling editor. -/
  | speedScalingChanged (val : ℚ)
  /-- A message on subscription `sub`, taken by the executor thread. -/
  | stateMessage (sub : Nat) (msg : ControllerState)
  /-- The UI thread dispatches the oldest queued `jointStateChanged`. -/
  | jointStateDelivered
  /-- `_update_cmd_timer` times out. -/
  | cmdTimeout
  /-- `_update_act_pos_timer` times out. -/
  | actPosTimeout
  /-- `shutdown_plugin`. -/
  | shutdownPlugin

/-- The events that neither select a controller, click, shut down nor run the
executor thread: polls, edits, deliveries and timer ticks. -/
def Event.IsPassive : Event → Prop
  | .jtcChange _ _ | .enableClicked | .shutdownPlugin | .stateMessage _ _ => False
  | _ => True

/-- The discovery polls and a change of controller manager. -/
def Event.IsPoll : Event → Prop
  | .updateCmList _ | .updateJtcList _ | .cmChange _ _ => True
  | _ => False

/-- Edits and timer ticks: the events that write only commands, the speed scale
and the published messages. -/
def Event.IsEdit : Event → Prop
  | .editorChanged _ _ | .speedScalingChanged _ | .cmdTimeout | .actPosTimeout => True
  | _ => False

namespace Plugin

/-- The state `__init__` leaves; the speed scaling editor starts at `50`. -/
def init (speedSliderMaximum : ℚ) : Plugin where
  jtcName := ""
  cmNs := ""
  jointPos := PyDict.empty
  jointNames := []
  robotJointLimits := PyDict.empty
  listControllers := none
  cmdPub := none
  stateSub := none
  executor := none
  executorThread := none
  speedScale := 50 / speedSliderMaximum
  enableChecked := false
  speedScalingEnabled := false
  speedSliderMaximum := speedSliderMaximum
  jointRows := []
  cmCombo := []
  jtcCombo := []
  updateCmdTimer := false
  updateActPosTimer := false
  stateConns := []
  nextConn := 0
  subscriptions := []
  publishers := []
  published := []
  running := []
  nextHandle := 0
  queue := []
  limitsQueries := []
  bound := false
  loaded := none

/-- The state after one event. -/
def step (s : Plugin) : Event → Plugin
  | .updateCmList managers => exec (updateCmList managers) s
  | .updateJtcList d => exec (updateJtcList d) s
  | .cmChange cmNs d => exec (onCmChange cmNs d) s
  | .jtcChange name env => exec (onJtcChange name env) s
  | .enableClicked => exec (setChecked (onJtcEnabled toggleDepth) !s.enableChecked) s
  | .editorChanged row val =>
    match s.jointRows[row]? with
    | some r => if r.enabled then exec (updateSingleCmdCb val r.name) s else s
    | none => s
  | .speedScalingChanged val =>
    if s.speedScalingEnabled then exec (onSpeedScalingChange val) s else s
  | .stateMessage sub msg => exec (executorStep sub msg) s
  | .jointStateDelivered => exec dispatchJointState s
  | .cmdTimeout => if s.updateCmdTimer then exec updateCmdCb s else s
  | .actPosTimeout => if s.updateActPosTimer then exec updateJointWidgets s else s
  | .shutdownPlugin => exec shutdownPlugin s

/-- The state after a sequence of events. -/
def run (s : Plugin) (events : List Event) : Plugin := events.foldl step s

@[simp] theorem run_nil (s : Plugin) : s.run [] = s := rfl

@[simp] theorem run_cons (s : Plugin) (e : Event) (es : List Event) :
    s.run (e :: es) = (s.step e).run es := rfl

theorem run_append (s : Plugin) (es es' : List Event) :
    s.run (es ++ es') = (s.run es).run es' := List.foldl_append _ _ _ _

end Plugin

/-- `restore_settings`: `_update_cm_list`, then, when the saved controller
manager is listed, `_on_cm_change` through the combo, `_update_jtc_list`, and
`_on_jtc_change` through the combo when the saved controller is listed. -/
def restoreSettings (managers : List String) (cm : Option (String × Discovery))
    (poll : Discovery) (jtc : Option (String × LoadEnv)) : List Event :=
  .updateCmList managers ::
    match cm with
    | none => []
    | some (cmNs, d) =>
      [.cmChange cmNs d, .updateJtcList poll] ++
        match jtc with
        | none => []
        | some (name, env) => [.jtcChange name env]

/-- The states reachable from some initial state by events that `allowed`
admits. -/
inductive ReachableBy (allowed : Event → Prop) : Plugin → Prop
  | init (m : ℚ) : ReachableBy allowed (Plugin.init m)
  | step {s : Plugin} (e : Event) : ReachableBy allowed s → allowed e →
      ReachableBy allowed (s.step e)

/-- The states reachable by any events. -/
def Reachable (s : Plugin) : Prop := ReachableBy (fun _ => True) s

/-- A reachable state, run further, stays reachable. -/
theorem ReachableBy.run {allowed : Event → Prop} {s : Plugin} (h : ReachableBy allowed s)
    (es : List Event) (hes : ∀ e ∈ es, allowed e) : ReachableBy allowed (s.run es) := by
  induction es generalizing s with
  | nil => exact h
  | cons e es ih =>
    exact ih (h.step e (hes e (by simp))) fun e' he' => hes e' (by simp [he'])

theorem ReachableBy.mono {allowed allowed' : Event → Prop} (h' : ∀ e, allowed e → allowed' e)
    {s : Plugin} (h : ReachableBy allowed s) : ReachableBy allowed' s := by
  induction h with
  | init m => exact .init m
  | step e _ he ih => exact ih.step e (h' e he)

theorem ReachableBy.reachable {allowed : Event → Prop} {s : Plugin} (h : ReachableBy allowed s) :
    Reachable s :=
  h.mono fun _ _ => trivial

/-- Every run from an initial state ends in a reachable state. -/
theorem reachable_run (m : ℚ) (es : List Event) : Reachable ((Plugin.init m).run es) :=
  (ReachableBy.init m).run es fun _ _ => trivial

end RqtJtc
