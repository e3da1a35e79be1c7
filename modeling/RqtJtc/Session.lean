import RqtJtc.Mode
import RqtJtc.Resources
import RqtJtc.Joints
import RqtJtc.Command

/-!
# Sessions

A session is bound when its `_load_jtc` ran to completion: it then has a live
publisher and subscription and one connection (`BoundInv`).  `_on_jtc_change`
sets `_jtc_name` before `_load_jtc` runs, so a `_load_jtc` that raises leaves the
name set and no session: the plugin is in monitor mode with no publisher and no
running executor thread, and `_on_jtc_enabled` accepts the next click, which
starts the command timer with `_cmd_pub` still `None`.  A `_load_jtc` that
completes leaves exactly the selected controller's subscription and publisher,
on the topics of its namespace, in monitor mode.

## Main statements

* `boundInv_of_reachable` — a bound session has its interfaces.
* `control_mode_session` — what the command timer guarantees.
* `edit_published_on_next_tick` — an edit reaches the controller on the next
  tick.
* `jtcChange_teardown` — the state a selection hands to `_load_jtc`.
* `failed_bind_leaves_monitor_mode` — the state a failed bind leaves.
* `control_mode_without_publisher`, `jtcName_kept_after_failed_bind` — runs
  after a failed bind.
* `bind_completes` — the state a successful bind leaves.
-/

namespace RqtJtc
namespace Plugin

/-- A bound session has a publisher, a subscription and one connection. -/
def BoundInv (s : Plugin) : Prop :=
  s.bound = true → s.cmdPub.isSome ∧ s.stateSub.isSome ∧ s.stateConnections = 1

theorem bound_click (s : Plugin) : s.click.bound = s.bound := by
  unfold click uncheck; split_ifs <;> rfl

theorem bound_joined (s : Plugin) : s.joined.bound = s.bound := by
  rw [joined_eq]

/-- A `_load_jtc` that raises leaves the plugin as it was, when the lister is
unset or the controller is not running, or else with the joint data of the
running controller set up, and the subscription created too if the publisher
failed. -/
theorem exec_loadJtc_failed {t : Plugin} (hn : t.jtcName ≠ "") (env : LoadEnv)
    (hfail : t.jtcName ∉ (runningJtc env.listing).map (·.name) ∨
      env.fault = some .subscription ∨ env.fault = some .publisher) :
    exec (loadJtc env) t = t ∧
      (t.listControllers.isSome → t.jtcName ∉ (runningJtc env.listing).map (·.name)) ∨
    t.listControllers.isSome ∧ ∃ info ∈ runningJtc env.listing, info.name = t.jtcName ∧
      (env.fault = some .subscription ∧
        exec (loadJtc env) t = t.withJoints ⟨env.listing, info, t.cmNs⟩ ∨
      env.fault = some .publisher ∧
        exec (loadJtc env) t = (t.withJoints ⟨env.listing, info, t.cmNs⟩).subscribe
          (controllerNs t.cmNs t.jtcName ++ "/controller_state")) := by
  rw [exec_loadJtc env t hn]
  split
  · rename_i hl
    exact .inl ⟨rfl, fun h => absurd (Option.isSome_iff_ne_none.1 h) (by simpa using hl)⟩
  · rename_i hl
    split
    · rename_i hf
      refine .inl ⟨rfl, fun _ hmem => ?_⟩
      obtain ⟨info, hi, hname⟩ := List.mem_map.1 hmem
      exact absurd hname (by simpa using List.find?_eq_none.1 hf info hi)
    · rename_i info hf
      have hname : info.name = t.jtcName := by simpa using List.find?_some hf
      have hmem := List.mem_of_find?_eq_some hf
      have hl' : t.listControllers.isSome := Option.isSome_iff_ne_none.2 (by simpa using hl)
      rcases hfail with habs | hs | hp
      · exact absurd (List.mem_map.2 ⟨info, hmem, hname⟩) habs
      · exact .inr ⟨hl', info, hmem, hname, .inl ⟨hs, by simp [hs, rosStage]⟩⟩
      · exact .inr ⟨hl', info, hmem, hname, .inr ⟨hp, by simp [hp, rosStage]⟩⟩

/-- A completed `_load_jtc` from nothing live leaves a bound session. -/
theorem boundInv_loadJtc {t : Plugin} (hr : Released t) (hb : t.bound = false)
    (hn : t.jtcName ≠ "") (env : LoadEnv) : BoundInv (exec (loadJtc env) t) := by
  rw [exec_loadJtc env t hn]
  split
  · simp [BoundInv, hb]
  · split
    · simp [BoundInv, hb]
    · rename_i info _
      split
      · rename_i hf
        rw [hf]
        simp [BoundInv, rosStage, subscribe, advertise, connect, newExecutor, newThread,
          startThread, withJoints, enterMode, Plugin.stateConnections, hr.stateConns_eq_nil]
      · rename_i hf
        obtain ⟨f, hf'⟩ := Option.ne_none_iff_exists'.1 hf
        rw [hf']
        rcases f <;> simp [BoundInv, rosStage, subscribe, advertise, connect, newExecutor,
          newThread, withJoints, enterMode, hb]

theorem BoundInv.jtcChange {s : Plugin} (hr : ResInv s) (name : String) (env : LoadEnv) :
    BoundInv (exec (onJtcChange name env) s) := by
  have hu := released_unloadJtc hr
  rw [exec_unloadJtc] at hu
  rw [exec_onJtcChange]
  split
  · intro h; exact absurd h (by simp [releaseInterfaces])
  · rw [if_neg ‹_›] at hu
    have hb : s.releaseInterfaces.joined.clearJoints.bound = false := by
      rw [clearJoints, show ∀ u : Plugin, u.uncheck.bound = u.bound from fun u => by
        unfold uncheck; split_ifs <;> rfl]
      exact (bound_joined _).trans rfl
    split
    · intro h; exact absurd h (by simp [hb])
    · exact boundInv_loadJtc (t := { s.releaseInterfaces.joined.clearJoints with jtcName := name })
        (hu.of_resFields rfl) hb ‹_› env

theorem BoundInv.step {s : Plugin} (h : BoundInv s) (hr : ResInv s) (e : Event) :
    BoundInv (s.step e) := by
  by_cases hp : e.IsPassive
  · have hc := control_step hp s
    have hb : (s.step e).bound = s.bound := congrArg Control.bound hc
    have hpub : (s.step e).cmdPub = s.cmdPub := congrArg Control.cmdPub hc
    have hsub : (s.step e).stateSub = s.stateSub := congrArg Control.stateSub hc
    have hconn : (s.step e).stateConns = s.stateConns := congrArg Control.stateConns hc
    simpa only [BoundInv, Plugin.stateConnections, hb, hpub, hsub, hconn] using h
  · cases e with
    | jtcChange name env => exact BoundInv.jtcChange hr name env
    | enableClicked =>
      rw [step_enableClicked]
      have hres := resFields_click s
      have hpub : s.click.cmdPub = s.cmdPub := congrArg ResFields.cmdPub hres
      have hsub : s.click.stateSub = s.stateSub := congrArg ResFields.stateSub hres
      have hconn : s.click.stateConns = s.stateConns := congrArg ResFields.stateConns hres
      simpa only [BoundInv, Plugin.stateConnections, bound_click, hpub, hsub, hconn] using h
    | shutdownPlugin =>
      show BoundInv (exec shutdownPlugin s)
      rw [exec_shutdownPlugin]
      split
      · simp [BoundInv, stopped]
      · simp [BoundInv, bound_joined, stopped]
    | stateMessage sub msg =>
      rcases stateMessage_cases sub msg s with ⟨q, he⟩ | he <;> rw [he] <;> exact h
    | _ => exact absurd trivial hp

/-- **A bound session has a publisher, a subscription and one connection**, on
every run. -/
theorem boundInv_of_reachable {s : Plugin} (h : Reachable s) : BoundInv s := by
  induction h with
  | init m => simp [BoundInv, init]
  | step e hs _ ih => exact ih.step (resInv_of_reachable hs) e

/-! ## Control mode -/

/-- **What the command timer guarantees.**  In every reachable state in which
the command timer runs, `enable_button` is checked and a controller is selected;
if that controller's `_load_jtc` ran to completion, `_cmd_pub` and `_state_sub`
are the only live publisher and subscription, with one connection, and a tick
then publishes without raising once the session has joints, each with a
position and a positive `max_velocity`, at a positive speed scale. -/
theorem control_mode_session {s : Plugin} (hs : Reachable s) (hcmd : s.updateCmdTimer = true) :
    s.enableChecked = true ∧ s.jtcName ≠ "" ∧
    (s.bound = true →
      (∃ p q, s.cmdPub = some p ∧ s.publishers.map Prod.fst = [p] ∧
        s.stateSub = some q ∧ s.subscriptions.map Prod.fst = [q] ∧ s.stateConnections = 1) ∧
      (s.jointNames ≠ [] → (∀ n ∈ s.jointNames, Commandable s n) → 0 < s.speedScale →
        ∃ p traj, s.cmdPub = some p ∧ trajectory s = .ok traj ∧
          exec updateCmdCb s = { s with published := s.published ++ [(p, traj)] })) := by
  have hm := modeInv_of_reachable hs
  have hr := resInv_of_reachable hs
  have hc := hm.checked_of_cmd hcmd
  refine ⟨hc, hm.named_of_checked hc, fun hb => ?_⟩
  obtain ⟨hp, hq, hconn⟩ := boundInv_of_reachable hs hb
  obtain ⟨p, hp⟩ := Option.isSome_iff_exists.1 hp
  obtain ⟨q, hq⟩ := Option.isSome_iff_exists.1 hq
  refine ⟨⟨p, q, hp, by rw [hr.pubs, hp]; rfl, hq, by rw [hr.subs, hq]; rfl, hconn⟩,
    fun hne hj hscale => ⟨p, _, hp, trajectory_eq hne hj hscale.ne', ?_⟩⟩
  rw [exec_updateCmdCb, trajectory_eq hne hj hscale.ne', hp]

/-- A run that enters control mode on a bound controller. -/
theorem control_mode_after_bind :
    let ctrl : ControllerInfo := ⟨"a", "JointTrajectoryController", "active", ["j/position"]⟩
    let s := (init 100).run [.cmChange "/cm" ⟨[ctrl], fun _ => PyDict.empty.set "j" ⟨-1, 1, 1⟩⟩,
      .jtcChange "a" ⟨[ctrl], none⟩, .enableClicked]
    (Reachable s ∧ s.updateCmdTimer = true) ∧ s.jtcName ≠ "" := by
  intro ctrl s
  have hs : Reachable s := reachable_run 100 _
  have hcmd : s.updateCmdTimer = true := by decide
  exact ⟨⟨hs, hcmd⟩, (control_mode_session hs hcmd).2.1⟩

/-- **An edit in control mode is published on the next tick.**  In a reachable
state in control mode with a bound session whose joints can all be commanded,
at a positive speed scale, an edit of row `row`, the editor of joint `r.name`,
to `val` makes the next command tick publish on `_cmd_pub` one message for all
joints, whose point sends `r.name` to `val` and every other joint to the target
it had before the edit. -/
theorem edit_published_on_next_tick {s : Plugin} (hs : Reachable s)
    (hcmd : s.updateCmdTimer = true) (hb : s.bound = true) (hne : s.jointNames ≠ [])
    (hj : ∀ n ∈ s.jointNames, Commandable s n) (hscale : 0 < s.speedScale) {row : Nat}
    {r : JointRow} (hr : s.jointRows[row]? = some r) (val : ℚ) :
    let s₁ := s.step (.editorChanged row val)
    ∃ p, s.cmdPub = some p ∧
      (s₁.step .cmdTimeout).published = s.published ++
        [(p, ⟨s.jointNames, [⟨s.jointNames.map (target s₁), specDuration s₁⟩]⟩)] ∧
      r.name ∈ s.jointNames ∧ target s₁ r.name = val ∧ ∀ n ≠ r.name, target s₁ n = target s n := by
  intro s₁
  have hJ := jointInv_of_reachable hs
  have hrow : r ∈ s.jointRows := List.getElem?_mem hr
  have hmem : r.name ∈ s.jointNames := hJ.rows.subset (List.mem_map_of_mem _ hrow)
  have hen : r.enabled = true := ((editorInv_of_reachable hs).control hcmd).2 r hrow
  have hs₁ : s₁ = { s with jointPos := setCommand s.jointPos r.name val } := by
    simp only [s₁, step, hr, hen, if_true, exec_updateSingleCmdCb]
  have ht := target_setCommand (hJ.keys ▸ hmem : r.name ∈ s.jointPos.keys) val
  obtain ⟨p, hp⟩ := Option.isSome_iff_exists.1 (boundInv_of_reachable hs hb).1
  refine ⟨p, hp, ?_, hmem, by rw [hs₁, ht, if_pos rfl], fun n hn => by
    rw [hs₁, ht, if_neg (Ne.symm hn)]⟩
  obtain ⟨hn₁, hcmd₁, hp₁, hpub₁, hsc₁⟩ : s₁.jointNames = s.jointNames ∧ s₁.updateCmdTimer = true ∧
      s₁.cmdPub = some p ∧ s₁.published = s.published ∧ s₁.speedScale = s.speedScale := by
    rw [hs₁]; exact ⟨rfl, hcmd, hp, rfl, rfl⟩
  have hj₁ : ∀ n ∈ s₁.jointNames, Commandable s₁ n := fun n hn => by
    rw [hs₁]; exact (hj n (hn₁ ▸ hn)).setCommand _ _
  have htraj := trajectory_eq (s := s₁) (by rw [hn₁]; exact hne) hj₁ (by rw [hsc₁]; exact hscale.ne')
  simp only [step, hcmd₁, if_true, exec_updateCmdCb, htraj, hp₁, hpub₁, hn₁]

/-- Controller `a` with one joint `j` at position `0`, in control mode; row `0`
is edited to `2`. -/
theorem edit_published_after_feedback :
    let ctrl : ControllerInfo := ⟨"a", "JointTrajectoryController", "active", ["j/position"]⟩
    let s := (init 100).run [.cmChange "/cm" ⟨[ctrl], fun _ => PyDict.empty.set "j" ⟨-1, 1, 1⟩⟩,
      .jtcChange "a" ⟨[ctrl], none⟩, .stateMessage 0 ⟨["j"], [0]⟩, .jointStateDelivered,
      .enableClicked]
    (Reachable s ∧ s.updateCmdTimer = true ∧ s.bound = true ∧ s.jointNames ≠ [] ∧
      (∀ n ∈ s.jointNames, Commandable s n) ∧ 0 < s.speedScale ∧
      s.jointRows[0]? = some ⟨"j", ⟨-1, 1, 1⟩, true⟩) ∧
      target (s.step (.editorChanged 0 2)) "j" = 2 := by
  intro ctrl s
  have hs : Reachable s := reachable_run 100 _
  have hcmd : s.updateCmdTimer = true := by decide
  have hb : s.bound = true := by decide
  have hnames : s.jointNames = ["j"] := by decide
  have hne : s.jointNames ≠ [] := by simp [hnames]
  have hj : ∀ n ∈ s.jointNames, Commandable s n := by
    rw [hnames]; intro n hn
    rw [List.mem_singleton.1 hn]
    exact ⟨by decide, ⟨-1, 1, 1⟩, by decide, by norm_num⟩
  have hscale : 0 < s.speedScale := by
    rw [speedScale_run _ (by simp)]; show (0 : ℚ) < 50 / 100; norm_num
  have hr : s.jointRows[0]? = some ⟨"j", ⟨-1, 1, 1⟩, true⟩ := by decide
  obtain ⟨-, -, -, -, ht, -⟩ := edit_published_on_next_tick hs hcmd hb hne hj hscale hr 2
  exact ⟨⟨hs, hcmd, hb, hne, hj, hscale, hr⟩, ht⟩

/-- **Control mode without a session**: a selection whose controller is not
running raises in `_load_jtc`, and a click then starts the command timer with
`_cmd_pub` `None` and no joints; and a controller with no interfaces binds with
no joints, a click starts the command timer, and its tick raises `ValueError` in
`max` and publishes nothing. -/
theorem control_mode_without_publisher :
    let s := (init 100).run [.cmChange "/cm" ⟨[], fun _ => PyDict.empty⟩,
      .jtcChange "x" ⟨[], none⟩, .enableClicked]
    let ctrl : ControllerInfo := ⟨"a", "JointTrajectoryController", "active", []⟩
    let t := (init 100).run [.cmChange "/cm" ⟨[ctrl], fun _ => PyDict.empty⟩,
      .jtcChange "a" ⟨[ctrl], none⟩, .enableClicked]
    (s.updateCmdTimer = true ∧ s.cmdPub = none ∧ s.jointNames = []) ∧
    (t.updateCmdTimer = true ∧ t.bound = true ∧ t.jointNames = [] ∧
      trajectory t = .error .valueError ∧ (t.step .cmdTimeout).published = t.published) := by
  intro s ctrl t
  have ht : t.jointNames = [] := by decide
  exact ⟨by decide, ⟨by decide, by decide, ht, by rw [trajectory, ht]; rfl, by decide⟩⟩

/-! ## Selecting a controller -/

/-- **What a selection hands to `_load_jtc`.**  When `join()` does not raise,
`_on_jtc_change(n)` runs `_load_jtc` from a state with nothing live, no joints,
monitor mode and the selection `n`, which keeps the lister, the controller
manager, the limits cache and the handle counter. -/
theorem jtcChange_teardown {s : Plugin} (hs : Reachable s) {n : String} (hn : n ≠ "")
    (hj : s.releaseInterfaces.joinRaises = false) (env : LoadEnv) :
    ∃ t, s.step (.jtcChange n env) = exec (loadJtc env) t ∧ Released t ∧ NoJoints t ∧
      t.jtcName = n ∧ t.listControllers = s.listControllers ∧ t.cmNs = s.cmNs ∧
      t.robotJointLimits = s.robotJointLimits ∧ t.nextHandle = s.nextHandle ∧
      t.enableChecked = false ∧ t.updateCmdTimer = false ∧ t.bound = false := by
  have hu := released_unloadJtc (resInv_of_reachable hs)
  rw [exec_unloadJtc, if_neg (by simpa using hj)] at hu
  obtain ⟨-, hc, hcmd, hb⟩ := (modeInv_of_reachable hs).clearJoints
  have hnj := noJoints_clearJoints s.releaseInterfaces.joined
  refine ⟨{ s.releaseInterfaces.joined.clearJoints with jtcName := n }, ?_, hu.of_resFields rfl,
    ⟨hnj.names, hnj.pos, hnj.rows⟩, rfl, ?_, ?_, ?_, ?_, hc, hcmd, hb⟩
  · simp only [step, exec_onJtcChange, hj, hn, if_false]; rfl
  all_goals rw [clearJoints, uncheck_eq, joined_eq]; rfl

/-! ## A failed bind -/

/-- **A failed bind leaves monitor mode, not an unbound plugin.**  When
`_on_jtc_change(n)` tears the old session down and its `_load_jtc` raises because
`n` is not running or creating the subscription or the publisher fails, `n`
stays selected, no publisher, running executor thread or binding is left, the
plugin is in monitor mode and the next click enters control mode.  No
subscription is left unless the publisher failed after the lookup found `n`:
then the new subscription on `n`'s `controller_state` topic is the only one.
The joint data is empty if `n` was not running; if the lookup found `n`, it is
the joint data of `n`. -/
theorem failed_bind_leaves_monitor_mode {s : Plugin} (hs : Reachable s) {n : String}
    {env : LoadEnv} (hn : n ≠ "")
    (hfail : n ∉ (runningJtc env.listing).map (·.name) ∨
      env.fault = some .subscription ∨ env.fault = some .publisher)
    (hj : s.releaseInterfaces.joinRaises = false) :
    let s' := s.step (.jtcChange n env)
    s'.jtcName = n ∧ s'.bound = false ∧ s'.cmdPub = none ∧ s'.publishers = [] ∧
    s'.running = [] ∧ s'.enableChecked = false ∧ s'.updateCmdTimer = false ∧
    (env.fault ≠ some .publisher → s'.stateSub = none ∧ s'.subscriptions = []) ∧
    (env.fault = some .publisher → s.listControllers.isSome →
      n ∈ (runningJtc env.listing).map (·.name) →
      ∃ q, s'.stateSub = some q ∧
        s'.subscriptions = [(q, controllerNs s.cmNs n ++ "/controller_state")]) ∧
    (n ∉ (runningJtc env.listing).map (·.name) →
      s'.jointNames = [] ∧ s'.jointPos = PyDict.empty) ∧
    (s.listControllers.isSome → n ∈ (runningJtc env.listing).map (·.name) →
      ∃ info ∈ runningJtc env.listing, info.name = n ∧
        s'.jointNames = jtcJointNames info ∧ s'.jointPos.keys = jtcJointNames info) ∧
    (s'.step .enableClicked).updateCmdTimer = true := by
  have hclick : ∀ u : Plugin, u.jtcName = n → u.enableChecked = false →
      (u.step .enableClicked).updateCmdTimer = true := fun u hun huc => by
    rw [step_enableClicked]; simp [click, huc, hun, hn]
  obtain ⟨t, hs', hr, hnj, rfl, hlt, hcm, -, -, hc, hcmd, hb⟩ := jtcChange_teardown hs hn hj env
  intro s'
  rw [show s' = exec (loadJtc env) t from hs', ← hlt, ← hcm]
  rcases exec_loadJtc_failed (t := t) hn env hfail with
    ⟨he, hnot⟩ | ⟨-, info, hmem, hname, ⟨hf, he⟩ | ⟨hf, he⟩⟩ <;> rw [he]
  · exact ⟨rfl, hb, hr.cmdPub, hr.pubs, hr.running, hc, hcmd, fun _ => ⟨hr.stateSub, hr.subs⟩,
      fun _ hl hm => absurd hm (hnot hl), fun _ => ⟨hnj.names, hnj.pos⟩,
      fun hl hm => absurd hm (hnot hl), hclick t rfl hc⟩
  all_goals
    have hkeys := (hnj.withJoints ⟨env.listing, info, t.cmNs⟩).keys
    refine ⟨rfl, hb, hr.cmdPub, hr.pubs, hr.running, hc, rfl, ?_, ?_,
      fun habs => absurd (List.mem_map.2 ⟨info, hmem, hname⟩) habs,
      fun _ _ => ⟨info, hmem, hname, rfl, hkeys⟩, hclick _ rfl hc⟩
  · exact fun _ => ⟨hr.stateSub, hr.subs⟩
  · exact fun h => absurd (hf.symm.trans h) (by decide)
  · exact fun h => absurd hf h
  · exact fun _ _ _ => ⟨t.nextHandle, rfl, by simp [subscribe, withJoints, enterMode, hr.subs]⟩

/-- A selection of a controller that is not running, after a change of
controller manager. -/
theorem failed_bind_of_absent_controller :
    let s := (init 100).run [.cmChange "/cm" ⟨[], fun _ => PyDict.empty⟩]
    (Reachable s ∧ s.releaseInterfaces.joinRaises = false) ∧
      (s.step (.jtcChange "x" ⟨[], none⟩)).updateCmdTimer = false := by
  intro s
  have hs : Reachable s := reachable_run 100 _
  have hj : s.releaseInterfaces.joinRaises = false := by decide
  obtain ⟨-, -, -, -, -, -, hcmd, -⟩ := @failed_bind_leaves_monitor_mode s hs "x" ⟨[], none⟩
    (by decide) (.inl (by simp [runningJtc, filterByState, filterByType])) hj
  exact ⟨⟨hs, hj⟩, hcmd⟩

/-- **The name stays selected after a failed bind**, and the next click is
accepted. -/
theorem jtcName_kept_after_failed_bind :
    let s := (init 100).run [.cmChange "/cm" ⟨[], fun _ => PyDict.empty⟩,
      .jtcChange "x" ⟨[], none⟩]
    s.jtcName = "x" ∧ (s.step .enableClicked).updateCmdTimer = true ∧
      (s.step .enableClicked).enableChecked = true := by
  decide

/-! ## A successful bind -/

/-- **A successful bind.**  When `_on_jtc_change(n)` tears the old session down,
`n` is a running controller of the listing and every rclpy call succeeds, the
plugin is bound to `n` in monitor mode: the joint data is keyed by `n`'s joints,
the editor rows are those of the joints up to the first without cached limits,
all disabled, the only subscription is `<ns>/controller_state` and the only
publisher `<ns>/joint_trajectory` for `n`'s namespace `ns`, both with fresh
handles, and the new executor thread is the only one running. -/
theorem bind_completes {s : Plugin} (hs : Reachable s) {n : String} {env : LoadEnv}
    {info : ControllerInfo} (hn : n ≠ "") (hl : s.listControllers.isSome)
    (hf : (runningJtc env.listing).find? (·.name = n) = some info) (hok : env.fault = none)
    (hj : s.releaseInterfaces.joinRaises = false) :
    let s' := s.step (.jtcChange n env)
    let ns := controllerNs s.cmNs n
    s'.jtcName = n ∧ s'.bound = true ∧
    s'.jointNames = jtcJointNames info ∧ s'.jointPos.keys = jtcJointNames info ∧
    s'.jointRows = (jointRowsFor s.robotJointLimits (jtcJointNames info)).map
      (fun r => { r with enabled := false }) ∧
    s'.stateSub = some s.nextHandle ∧
    s'.subscriptions = [(s.nextHandle, ns ++ "/controller_state")] ∧
    s'.cmdPub = some (s.nextHandle + 1) ∧
    s'.publishers = [(s.nextHandle + 1, ns ++ "/joint_trajectory")] ∧
    s'.stateConnections = 1 ∧ s'.running = [s.nextHandle + 3] ∧
    s'.enableChecked = false ∧ s'.updateCmdTimer = false ∧ s'.updateActPosTimer = true := by
  obtain ⟨t, hs', hr, hnj, rfl, hlt, hcm, hlim, hnext, hc, -, -⟩ := jtcChange_teardown hs hn hj env
  obtain ⟨lc, hlc⟩ := Option.isSome_iff_exists.1 hl
  rw [hs', exec_loadJtc _ _ hn]
  simp only [hlt, hlc, Option.isNone_some, Bool.false_eq_true, ite_false, hf, hok, ite_true,
    rosStage, subscribe, advertise, connect, newExecutor, newThread, startThread, withJoints,
    enterMode, hnj.pos, hnj.rows, hr.subs, hr.pubs, hr.running, Plugin.stateConnections,
    hr.stateConns_eq_nil, hcm, hlim, hnext, hc,
    PyDict.keys_foldl_set (PyDict.empty : PyDict JointData) (jtcJointNames info) {}
      (by simpa using jtcJointNames_nodup info)]
  simp

/-- Binding controller `a`, with one joint, after a change of controller manager. -/
theorem bind_completes_after_cmChange :
    let ctrl : ControllerInfo := ⟨"a", "JointTrajectoryController", "active", ["j/position"]⟩
    let s := (init 100).run [.cmChange "/cm" ⟨[ctrl], fun _ => PyDict.empty.set "j" ⟨-1, 1, 1⟩⟩]
    (Reachable s ∧ s.listControllers.isSome ∧
      (runningJtc [ctrl]).find? (·.name = "a") = some ctrl ∧
      s.releaseInterfaces.joinRaises = false) ∧
      (s.step (.jtcChange "a" ⟨[ctrl], none⟩)).bound = true := by
  intro ctrl s
  have hs : Reachable s := reachable_run 100 _
  have hl : s.listControllers.isSome := by decide
  have hf : (runningJtc [ctrl]).find? (·.name = "a") = some ctrl := by decide
  have hj : s.releaseInterfaces.joinRaises = false := by decide
  exact ⟨⟨hs, hl, hf, hj⟩,
    (@bind_completes s hs "a" ⟨[ctrl], none⟩ ctrl (by decide) hl hf rfl hj).2.1⟩

end Plugin
end RqtJtc
