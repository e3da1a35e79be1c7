import RqtJtc.Effects

/-!
# Monitor mode and control mode

The command timer and the feedback timer are written only by `_on_jtc_enabled`
and `shutdown_plugin`, and `enable_button` only by clicks, `_unload_jtc` and the
rejection path of `_on_jtc_enabled`.  `ModeInv` ties them together: the two
timers never run together, the command timer only with the button checked, the
button only with a controller selected, and one of the two timers runs while a
controller is bound.  It holds on every run.  On a run without
`shutdown_plugin`, which stops both timers and leaves the button as it is, the
command timer runs exactly while the button is checked.

`_on_jtc_change` puts the plugin in monitor mode unless `_unload_jtc` raises in
`join()`, which happens when an earlier `_load_jtc` raised after creating the
executor and before starting its thread: the raise skips `setChecked(False)`,
and the command timer keeps running.

## Main statements

* `modeInv_of_reachable` — the invariant on every run.
* `cmd_eq_checked_of_reachable` — the command timer follows the button on every
  run without `shutdown_plugin`.
* `ModeInv.jtcChange` — monitor mode after a selection whose teardown completes.
* `jtcChange_keeps_control_after_failed_start` — a run where it does not.
* `editorInv_of_reachable`, `monitor_mode_ignores_edits` — the editors are
  enabled in control mode and disabled in monitor mode.
-/

namespace RqtJtc
namespace Plugin

/-- The mode invariant. -/
structure ModeInv (s : Plugin) : Prop where
  exclusive : ¬(s.updateCmdTimer = true ∧ s.updateActPosTimer = true)
  checked_of_cmd : s.updateCmdTimer = true → s.enableChecked = true
  named_of_checked : s.enableChecked = true → s.jtcName ≠ ""
  one_of_bound : s.bound = true → s.updateCmdTimer = true ∨ s.updateActPosTimer = true

theorem ModeInv.cmd_of_unchecked {s : Plugin} (h : ModeInv s) (hc : s.enableChecked = false) :
    s.updateCmdTimer = false := by
  cases hcmd : s.updateCmdTimer
  · rfl
  · simpa [hc] using h.checked_of_cmd hcmd

/-- The fields `ModeInv` reads. -/
structure ModeFields where
  updateCmdTimer : Bool
  updateActPosTimer : Bool
  enableChecked : Bool
  jtcName : String
  bound : Bool

/-- The mode fields of a state. -/
def modeFields (s : Plugin) : ModeFields :=
  ⟨s.updateCmdTimer, s.updateActPosTimer, s.enableChecked, s.jtcName, s.bound⟩

theorem ModeInv.of_modeFields {s t : Plugin} (h : ModeInv s) (e : modeFields t = modeFields s) :
    ModeInv t := by
  have hc : t.updateCmdTimer = s.updateCmdTimer := congrArg ModeFields.updateCmdTimer e
  have ha : t.updateActPosTimer = s.updateActPosTimer := congrArg ModeFields.updateActPosTimer e
  have he : t.enableChecked = s.enableChecked := congrArg ModeFields.enableChecked e
  have hn : t.jtcName = s.jtcName := congrArg ModeFields.jtcName e
  have hb : t.bound = s.bound := congrArg ModeFields.bound e
  exact ⟨by rw [hc, ha]; exact h.exclusive, by rw [hc, he]; exact h.checked_of_cmd,
    by rw [he, hn]; exact h.named_of_checked, by rw [hb, hc, ha]; exact h.one_of_bound⟩

theorem modeFields_of_control {s t : Plugin} (e : control t = control s) :
    modeFields t = modeFields s :=
  congrArg (fun c : Control =>
    (⟨c.updateCmdTimer, c.updateActPosTimer, c.enableChecked, c.jtcName, c.bound⟩ : ModeFields)) e

theorem modeFields_stateMessage (sub : Nat) (msg : ControllerState) (s : Plugin) :
    modeFields (s.step (.stateMessage sub msg)) = modeFields s := by
  rcases stateMessage_cases sub msg s with ⟨q, h⟩ | h <;> rw [h] <;> rfl

/-! ## The enable button -/

@[simp] theorem enterMode_updateCmdTimer (s : Plugin) (v : Bool) :
    (s.enterMode v).updateCmdTimer = v := rfl
@[simp] theorem enterMode_updateActPosTimer (s : Plugin) (v : Bool) :
    (s.enterMode v).updateActPosTimer = !v := rfl
@[simp] theorem enterMode_enableChecked (s : Plugin) (v : Bool) :
    (s.enterMode v).enableChecked = s.enableChecked := rfl
@[simp] theorem enterMode_jtcName (s : Plugin) (v : Bool) :
    (s.enterMode v).jtcName = s.jtcName := rfl
@[simp] theorem enterMode_bound (s : Plugin) (v : Bool) : (s.enterMode v).bound = s.bound := rfl

/-- After `setChecked(False)` the invariant still holds, the button is unchecked
and the command timer stopped. -/
theorem ModeInv.uncheck {s : Plugin} (h : ModeInv s) :
    ModeInv s.uncheck ∧ s.uncheck.enableChecked = false ∧ s.uncheck.updateCmdTimer = false := by
  unfold Plugin.uncheck
  by_cases hc : s.enableChecked
  · refine ⟨⟨?_, ?_, ?_, ?_⟩, ?_, ?_⟩ <;> simp [hc, h.named_of_checked hc]
  · simpa [hc, h.cmd_of_unchecked (by simpa using hc)] using h

theorem ModeInv.click {s : Plugin} (h : ModeInv s) : ModeInv s.click := by
  unfold Plugin.click
  by_cases hc : s.enableChecked
  · simpa [hc] using h.uncheck.1
  · by_cases hn : s.jtcName = ""
    · simpa [hc, hn] using h
    · refine ⟨?_, ?_, ?_, ?_⟩ <;> simp [hc, hn]

/-- A click leaves the command timer running exactly when the button is checked. -/
theorem ModeInv.click_synced {s : Plugin} (h : ModeInv s)
    (hs : s.updateCmdTimer = s.enableChecked) : s.click.updateCmdTimer = s.click.enableChecked := by
  unfold Plugin.click
  by_cases hc : s.enableChecked
  · obtain ⟨-, h1, h2⟩ := h.uncheck
    simp [hc, h1, h2]
  · by_cases hn : s.jtcName = "" <;> simp [hc, hn, hs]

/-! ## Selecting a controller -/

theorem modeFields_joined (s : Plugin) : modeFields s.joined = modeFields s := by
  unfold joined; split <;> rfl

theorem modeFields_rosStage (s : Plugin) (ns : String) (f : Option LoadFault) :
    modeFields (s.rosStage ns f) = modeFields s := by
  rcases f with _ | _ | _ | _ | _ | _ <;>
    simp [rosStage, modeFields, subscribe, advertise, connect, newExecutor, newThread, startThread]

/-- The teardown keeps the invariant and ends the binding. -/
theorem ModeInv.releaseInterfaces {s : Plugin} (h : ModeInv s) :
    ModeInv s.releaseInterfaces ∧ s.releaseInterfaces.bound = false :=
  ⟨⟨h.1, h.2, h.3, by simp [Plugin.releaseInterfaces]⟩, rfl⟩

/-- A completed `_unload_jtc` leaves monitor mode and no binding. -/
theorem ModeInv.clearJoints {s : Plugin} (h : ModeInv s) :
    let t := s.releaseInterfaces.joined.clearJoints
    ModeInv t ∧ t.enableChecked = false ∧ t.updateCmdTimer = false ∧ t.bound = false := by
  have hr := h.releaseInterfaces
  have hj : ModeInv { s.releaseInterfaces.joined with
      jointRows := [], jointNames := [], jointPos := PyDict.empty, loaded := none } :=
    hr.1.of_modeFields (modeFields_joined _)
  obtain ⟨hu, hc, hcmd⟩ := hj.uncheck
  refine ⟨hu, hc, hcmd, ?_⟩
  have hb : s.releaseInterfaces.joined.bound = false :=
    (congrArg ModeFields.bound (modeFields_joined _)).trans hr.2
  unfold Plugin.clearJoints Plugin.uncheck
  split_ifs <;> exact hb

/-- `_load_jtc` from monitor mode keeps the invariant and stays in monitor
mode. -/
theorem ModeInv.loadJtc {t : Plugin} (h : ModeInv t) (hc : t.enableChecked = false)
    (hn : t.jtcName ≠ "") (env : LoadEnv) :
    let t' := exec (loadJtc env) t
    ModeInv t' ∧ t'.enableChecked = false ∧ t'.updateCmdTimer = false := by
  have hcmd := h.cmd_of_unchecked hc
  rw [exec_loadJtc env t hn]
  split
  · exact ⟨h, hc, hcmd⟩
  · split
    · exact ⟨h, hc, hcmd⟩
    · rename_i info _
      have hm := modeFields_rosStage (t.withJoints ⟨env.listing, info, t.cmNs⟩)
        (controllerNs t.cmNs t.jtcName) env.fault
      generalize (t.withJoints ⟨env.listing, info, t.cmNs⟩).rosStage
        (controllerNs t.cmNs t.jtcName) env.fault = s' at hm ⊢
      have h1 : s'.updateCmdTimer = false := congrArg ModeFields.updateCmdTimer hm
      have h2 : s'.updateActPosTimer = true := congrArg ModeFields.updateActPosTimer hm
      have h3 : s'.enableChecked = t.enableChecked := congrArg ModeFields.enableChecked hm
      have h4 : s'.jtcName = t.jtcName := congrArg ModeFields.jtcName hm
      split <;> refine ⟨⟨?_, ?_, ?_, ?_⟩, ?_, ?_⟩ <;> simp_all

/-- **A selection whose teardown completes leaves monitor mode**: the command
timer stopped and `enable_button` unchecked. -/
theorem ModeInv.jtcChange {s : Plugin} (h : ModeInv s) (name : String) (env : LoadEnv) :
    let s' := exec (onJtcChange name env) s
    ModeInv s' ∧
      (s.releaseInterfaces.joinRaises = false →
        s'.updateCmdTimer = false ∧ s'.enableChecked = false) := by
  rw [exec_onJtcChange]
  split
  · exact ⟨h.releaseInterfaces.1, by simp_all⟩
  · obtain ⟨hu, hc, hcmd, -⟩ := h.clearJoints
    have ht : ModeInv { s.releaseInterfaces.joined.clearJoints with jtcName := name } :=
      ⟨by simp [hcmd], by simp [hcmd], by simp [hc], hu.one_of_bound⟩
    split
    · exact ⟨ht, fun _ => ⟨hcmd, hc⟩⟩
    · rename_i hn
      obtain ⟨h1, h2, h3⟩ := ht.loadJtc hc hn env
      exact ⟨h1, fun _ => ⟨h3, h2⟩⟩

/-- **A selection after a failed thread start keeps control mode on.**  The first
`_load_jtc` raises in `start()`; control mode is entered; the next
`_on_jtc_change` raises in `join()` before `setChecked(False)`. -/
theorem jtcChange_keeps_control_after_failed_start :
    let ctrl : ControllerInfo := ⟨"a", "JointTrajectoryController", "active", ["j/position"]⟩
    let s := (init 100).run [.cmChange "/cm" ⟨[ctrl], fun _ => PyDict.empty.set "j" ⟨-1, 1, 1⟩⟩,
      .jtcChange "a" ⟨[ctrl], some .threadStart⟩, .enableClicked]
    let s' := s.step (.jtcChange "b" ⟨[ctrl], none⟩)
    s'.updateCmdTimer = true ∧ s'.enableChecked = true := by
  decide

/-! ## Shutdown and runs -/

/-- `shutdown_plugin` stops both timers and ends the binding. -/
theorem ModeInv.shutdownPlugin {s : Plugin} (h : ModeInv s) : ModeInv (exec shutdownPlugin s) := by
  have hs : ModeInv s.stopped := ⟨by simp [stopped], by simp [stopped], h.named_of_checked,
    by simp [stopped]⟩
  rw [exec_shutdownPlugin]
  split
  · exact hs
  · exact hs.of_modeFields (modeFields_joined _)

theorem ModeInv.step {s : Plugin} (h : ModeInv s) (e : Event) : ModeInv (s.step e) := by
  cases e with
  | jtcChange name env => exact (h.jtcChange name env).1
  | enableClicked => rw [step_enableClicked]; exact h.click
  | shutdownPlugin => exact h.shutdownPlugin
  | stateMessage sub msg => exact h.of_modeFields (modeFields_stateMessage sub msg s)
  | _ => exact h.of_modeFields (modeFields_of_control (control_step (by trivial) s))

theorem modeInv_init (m : ℚ) : ModeInv (init m) := ⟨by simp [init], by simp [init], by simp [init],
  by simp [init]⟩

/-- **The mode invariant holds on every run.** -/
theorem modeInv_of_reachable {s : Plugin} (h : Reachable s) : ModeInv s := by
  induction h with
  | init m => exact modeInv_init m
  | step e _ _ ih => exact ih.step e

/-- **Mode safety.**  On every run the two timers never run together, the command
timer runs only while `enable_button` is checked and a controller is selected,
and exactly one of the two timers runs while a controller is bound. -/
theorem mode_safety {s : Plugin} (h : Reachable s) :
    ¬(s.updateCmdTimer = true ∧ s.updateActPosTimer = true) ∧
    (s.updateCmdTimer = true → s.enableChecked = true ∧ s.jtcName ≠ "") ∧
    (s.bound = true → s.updateCmdTimer = true ∨ s.updateActPosTimer = true) := by
  have hm := modeInv_of_reachable h
  exact ⟨hm.exclusive, fun hc => ⟨hm.checked_of_cmd hc, hm.named_of_checked (hm.checked_of_cmd hc)⟩,
    hm.one_of_bound⟩

/-- A run that binds a controller and enters control mode. -/
theorem mode_safety_after_click :
    let ctrl : ControllerInfo := ⟨"a", "JointTrajectoryController", "active", ["j/position"]⟩
    let s := (init 100).run [.cmChange "/cm" ⟨[ctrl], fun _ => PyDict.empty.set "j" ⟨-1, 1, 1⟩⟩,
      .jtcChange "a" ⟨[ctrl], none⟩, .enableClicked]
    Reachable s ∧ ¬(s.updateCmdTimer = true ∧ s.updateActPosTimer = true) := by
  intro ctrl s
  exact ⟨reachable_run 100 _, (mode_safety (reachable_run 100 _)).1⟩

/-- **Without `shutdown_plugin`, the command timer runs exactly while
`enable_button` is checked.** -/
theorem cmd_eq_checked_of_reachable {s : Plugin} (h : ReachableBy (· ≠ .shutdownPlugin) s) :
    s.updateCmdTimer = s.enableChecked := by
  induction h with
  | init m => rfl
  | @step s e hr he ih =>
    have hm := modeInv_of_reachable hr.reachable
    have hframe : modeFields (s.step e) = modeFields s → (s.step e).updateCmdTimer =
        (s.step e).enableChecked := fun h =>
      (congrArg ModeFields.updateCmdTimer h).trans (ih.trans (congrArg ModeFields.enableChecked h).symm)
    by_cases hp : e.IsPassive
    · exact hframe (modeFields_of_control (control_step hp s))
    · cases e with
      | jtcChange name env =>
        by_cases hj : s.releaseInterfaces.joinRaises
        · simp only [step, exec_onJtcChange, hj, if_true]; exact ih
        · obtain ⟨h1, h2⟩ := (hm.jtcChange name env).2 (by simpa using hj)
          exact h1.trans h2.symm
      | enableClicked => rw [step_enableClicked]; exact hm.click_synced ih
      | shutdownPlugin => exact absurd rfl he
      | stateMessage sub msg => exact hframe (modeFields_stateMessage sub msg s)
      | _ => exact absurd trivial hp

/-- A run without `shutdown_plugin` that enters control mode. -/
theorem cmd_eq_checked_after_click :
    let ctrl : ControllerInfo := ⟨"a", "JointTrajectoryController", "active", ["j/position"]⟩
    let s := (init 100).run [.cmChange "/cm" ⟨[ctrl], fun _ => PyDict.empty.set "j" ⟨-1, 1, 1⟩⟩,
      .jtcChange "a" ⟨[ctrl], none⟩, .enableClicked]
    ReachableBy (· ≠ .shutdownPlugin) s ∧ s.updateCmdTimer = s.enableChecked := by
  intro ctrl s
  have hs : ReachableBy (· ≠ .shutdownPlugin) s := (ReachableBy.init 100).run _ (by simp)
  exact ⟨hs, cmd_eq_checked_of_reachable hs⟩

/-! ## The editors

`_on_jtc_enabled(val)` enables the joint editors and the speed scaling editor
exactly when it starts the command timer, and `_load_jtc` adds its rows enabled
and then disables them with the rest.  So the editors can be written in control
mode and not in monitor mode. -/

/-- The joint editors and the speed scaling editor are all enabled (`v = true`)
or all disabled. -/
def EditorsAre (s : Plugin) (v : Bool) : Prop :=
  s.speedScalingEnabled = v ∧ ∀ r ∈ s.jointRows, r.enabled = v

/-- The editors follow the mode. -/
structure EditorInv (s : Plugin) : Prop where
  control : s.updateCmdTimer = true → EditorsAre s true
  monitor : s.updateActPosTimer = true → EditorsAre s false

/-- The fields `EditorInv` reads. -/
structure EditorFields where
  updateCmdTimer : Bool
  updateActPosTimer : Bool
  speedScalingEnabled : Bool
  jointRows : List JointRow

/-- The editor fields of a state. -/
def editorFields (s : Plugin) : EditorFields :=
  ⟨s.updateCmdTimer, s.updateActPosTimer, s.speedScalingEnabled, s.jointRows⟩

theorem EditorInv.of_editorFields {s t : Plugin} (h : EditorInv s)
    (e : editorFields t = editorFields s) : EditorInv t := by
  have hc : t.updateCmdTimer = s.updateCmdTimer := congrArg EditorFields.updateCmdTimer e
  have ha : t.updateActPosTimer = s.updateActPosTimer := congrArg EditorFields.updateActPosTimer e
  have hs : t.speedScalingEnabled = s.speedScalingEnabled :=
    congrArg EditorFields.speedScalingEnabled e
  have hr : t.jointRows = s.jointRows := congrArg EditorFields.jointRows e
  exact ⟨fun h' => by rw [EditorsAre, hs, hr]; exact h.control (hc ▸ h'),
    fun h' => by rw [EditorsAre, hs, hr]; exact h.monitor (ha ▸ h')⟩

theorem editorFields_of_control {s t : Plugin} (e : control t = control s) :
    editorFields t = editorFields s :=
  congrArg (fun c : Control =>
    (⟨c.updateCmdTimer, c.updateActPosTimer, c.speedScalingEnabled, c.jointRows⟩ : EditorFields)) e

theorem editorInv_of_stopped {s : Plugin} (h1 : s.updateCmdTimer = false)
    (h2 : s.updateActPosTimer = false) : EditorInv s :=
  ⟨fun h => by simp [h1] at h, fun h => by simp [h2] at h⟩

theorem editorInv_enterMode (s : Plugin) (v : Bool) : EditorInv (s.enterMode v) := by
  cases v <;> constructor <;> simp [enterMode, EditorsAre]

theorem EditorInv.uncheck {s : Plugin} (h : EditorInv s) : EditorInv s.uncheck := by
  unfold Plugin.uncheck; split_ifs
  · exact h.of_editorFields rfl
  · exact editorInv_enterMode _ false
  · exact h

theorem EditorInv.click {s : Plugin} (h : EditorInv s) : EditorInv s.click := by
  unfold Plugin.click; split_ifs
  · exact h.uncheck
  · exact h
  · exact editorInv_enterMode _ true

theorem EditorInv.clearJoints {s : Plugin} (h : EditorInv s) : EditorInv s.clearJoints :=
  EditorInv.uncheck ⟨fun hc => ⟨(h.control hc).1, by simp⟩, fun hm => ⟨(h.monitor hm).1, by simp⟩⟩

theorem editorFields_rosStage (s : Plugin) (ns : String) (f : Option LoadFault) :
    editorFields (s.rosStage ns f) = editorFields s := by
  rcases f with _ | _ | _ | _ | _ | _ <;> simp only [editorFields, rosStage, subscribe, advertise,
    connect, newExecutor, newThread, startThread]

/-- `_load_jtc` leaves the editors of its rows disabled, in monitor mode. -/
theorem EditorInv.loadJtc {t : Plugin} (h : EditorInv t) (hn : t.jtcName ≠ "") (env : LoadEnv) :
    EditorInv (exec (loadJtc env) t) := by
  rw [exec_loadJtc env t hn]
  split
  · exact h
  · split
    · exact h
    · rename_i info _
      have hw : EditorInv (t.withJoints ⟨env.listing, info, t.cmNs⟩) := editorInv_enterMode _ false
      have hr := hw.of_editorFields (editorFields_rosStage _ (controllerNs t.cmNs t.jtcName) env.fault)
      split
      · exact hr.of_editorFields rfl
      · exact hr

theorem EditorInv.jtcChange {s : Plugin} (h : EditorInv s) (name : String) (env : LoadEnv) :
    EditorInv (exec (onJtcChange name env) s) := by
  rw [exec_onJtcChange]
  split
  · exact h.of_editorFields rfl
  · have hu : EditorInv s.releaseInterfaces.joined := h.of_editorFields (by rw [joined_eq]; rfl)
    have hc : EditorInv { s.releaseInterfaces.joined.clearJoints with jtcName := name } :=
      hu.clearJoints.of_editorFields rfl
    split
    · exact hc
    · exact hc.loadJtc ‹_› env

theorem EditorInv.step {s : Plugin} (h : EditorInv s) (e : Event) : EditorInv (s.step e) := by
  cases e with
  | jtcChange name env => exact h.jtcChange name env
  | enableClicked => rw [step_enableClicked]; exact h.click
  | shutdownPlugin =>
    show EditorInv (exec shutdownPlugin s)
    rw [exec_shutdownPlugin]
    split
    · exact editorInv_of_stopped rfl rfl
    · rw [joined_eq]; exact editorInv_of_stopped rfl rfl
  | stateMessage sub msg =>
    rcases stateMessage_cases sub msg s with ⟨q, he⟩ | he <;> rw [he] <;> exact h.of_editorFields rfl
  | _ => exact h.of_editorFields (editorFields_of_control (control_step (by trivial) s))

/-- **The editors follow the mode on every run.** -/
theorem editorInv_of_reachable {s : Plugin} (h : Reachable s) : EditorInv s := by
  induction h with
  | init m => exact editorInv_of_stopped rfl rfl
  | step e _ _ ih => exact ih.step e

/-- **The editors follow the mode, and monitor mode ignores them.**  In every
reachable state the joint editors and the speed scaling editor are all enabled
while the command timer runs, so an edit of a row reaches
`_update_single_cmd_cb` and an edit of the speed reaches
`_on_speed_scaling_change`; and they are all disabled while the feedback timer
runs, so no edit changes the state. -/
theorem monitor_mode_ignores_edits {s : Plugin} (hs : Reachable s) :
    (s.updateCmdTimer = true → EditorsAre s true ∧
      (∀ row r val, s.jointRows[row]? = some r →
        s.step (.editorChanged row val) = exec (updateSingleCmdCb val r.name) s) ∧
      ∀ v, s.step (.speedScalingChanged v) = exec (onSpeedScalingChange v) s) ∧
    (s.updateActPosTimer = true → EditorsAre s false ∧
      ∀ row val v, s.step (.editorChanged row val) = s ∧ s.step (.speedScalingChanged v) = s) := by
  have he := editorInv_of_reachable hs
  refine ⟨fun hcmd => ?_, fun hmon => ?_⟩
  · obtain ⟨hsp, hrows⟩ := he.control hcmd
    refine ⟨⟨hsp, hrows⟩, fun row r val hr => ?_, fun v => by simp [step, hsp]⟩
    simp only [step, hr, hrows r (List.getElem?_mem hr), if_true]
  · obtain ⟨hsp, hrows⟩ := he.monitor hmon
    refine ⟨⟨hsp, hrows⟩, fun row val v => ⟨?_, by simp [step, hsp]⟩⟩
    simp only [step]
    split
    · rename_i r hr
      rw [if_neg (by simp [hrows r (List.getElem?_mem hr)])]
    · rfl

/-- A run that binds a controller, in monitor mode. -/
theorem monitor_mode_after_bind :
    let ctrl : ControllerInfo := ⟨"a", "JointTrajectoryController", "active", ["j/position"]⟩
    let s := (init 100).run [.cmChange "/cm" ⟨[ctrl], fun _ => PyDict.empty.set "j" ⟨-1, 1, 1⟩⟩,
      .jtcChange "a" ⟨[ctrl], none⟩]
    (Reachable s ∧ s.updateActPosTimer = true) ∧ s.step (.editorChanged 0 3) = s := by
  intro ctrl s
  have hs : Reachable s := reachable_run 100 _
  have hmon : s.updateActPosTimer = true := by decide
  exact ⟨⟨hs, hmon⟩, (((monitor_mode_ignores_edits hs).2 hmon).2 0 3 0).1⟩

end Plugin
end RqtJtc
