import RqtJtc.Session

/-!
# What reaches the controller

`_update_cmd_cb` is the only handler that publishes.  This module gives it in
closed form, every error path included: it publishes on `_cmd_pub` exactly when
the publisher is set, the joint list is nonempty, every joint has a feedback
position and cached limits with a nonzero `max_velocity`, and the speed scale is
nonzero; the message is then `specTrajectory`.  An empty joint list raises in
`max(dur)`, a joint without a position or limits raises `KeyError`, and a zero
velocity or speed raises `ZeroDivisionError`; each leaves the state as it was.

Over whole runs, every message the plugin publishes goes out on its only live
publisher, on the `joint_trajectory` topic of the selected controller, and names
exactly the joints of the controller `_load_jtc` found running under the
selected name, in the listing the controller lister returned to it.

## Main definitions

* `JointReady` — a joint `_update_cmd_cb` can send.
* `specTrajectory` — every joint to its target, in `specDuration`.
* `Addressed` — the joint list and the live topics belong to the controller
  `_load_jtc` found.

## Main statements

* `exec_updateCmdCb_eq` — `_update_cmd_cb`, exactly.
* `published_step` — only a command tick publishes, one message on `_cmd_pub`.
* `command_addressed` — every message reaches the selected controller.
* `no_command_before_click` — nothing is published before the first click of
  `enable_button`.
-/

namespace RqtJtc
namespace Plugin

/-! ## One command tick -/

/-- A joint `_update_cmd_cb` can send: it has a feedback position, and cached
limits whose `max_velocity` is not `0`. -/
def JointReady (s : Plugin) (n : String) : Prop :=
  ((s.jointPos.get? n).bind (·.position)).isSome ∧
    (s.robotJointLimits.get? n).any fun l => l.maxVelocity ≠ 0

instance (s : Plugin) : DecidablePred (JointReady s) :=
  fun _ => inferInstanceAs (Decidable (_ ∧ _))

/-- The trajectory of the spec: every joint to its target, in `specDuration`. -/
def specTrajectory (s : Plugin) : JointTrajectory :=
  ⟨s.jointNames, [⟨s.jointNames.map (target s), specDuration s⟩]⟩

/-- One joint of the loop: it returns exactly for a ready joint, with its target
and its duration. -/
theorem jointCommand_eq_ok_iff {s : Plugin} {n : String} {r : ℚ × ℚ} :
    jointCommand s n = .ok r ↔ JointReady s n ∧ r = (target s n, jointDuration s n) := by
  rcases hd : s.jointPos.get? n with _ | data
  · simp [jointCommand, JointReady, hd]
  rcases hq : data.position with _ | p
  · simp [jointCommand, JointReady, hd, hq, bind, Except.bind]
  rcases hl : s.robotJointLimits.get? n with _ | l
  · simp [jointCommand, JointReady, hd, hq, hl, bind, Except.bind]
  by_cases hv : l.maxVelocity = 0
  · simp [jointCommand, JointReady, hd, hq, hl, hv, pyDiv, bind, Except.bind]
  · simp [jointCommand, JointReady, target, feedback, jointDuration, maxVel, hd, hq, hl, hv,
      pyDiv, bind, Except.bind, pure, Except.pure, eq_comm]

/-- The loop over the joints returns exactly when every joint is ready. -/
theorem mapM_jointCommand_eq_ok_iff {s : Plugin} {names : List String} {cmds : List (ℚ × ℚ)} :
    names.mapM (jointCommand s) = .ok cmds ↔
      (∀ n ∈ names, JointReady s n) ∧ cmds = names.map fun n => (target s n, jointDuration s n) := by
  induction names generalizing cmds with
  | nil =>
    show Except.ok [] = _ ↔ _
    simp [eq_comm]
  | cons n ns ih =>
    rw [List.mapM_cons]
    rcases h : jointCommand s n with e | r
    · have hn : ¬JointReady s n := fun hn => by simp [jointCommand_eq_ok_iff.2 ⟨hn, rfl⟩] at h
      simp [bind, Except.bind, hn]
    · obtain ⟨hn, rfl⟩ := jointCommand_eq_ok_iff.1 h
      rcases h' : ns.mapM (jointCommand s) with e | rs
      · have hns : ¬∀ m ∈ ns, JointReady s m := fun hns => by rw [ih.2 ⟨hns, rfl⟩] at h'; cases h'
        simp [bind, Except.bind, hns]
      · obtain ⟨hns, rfl⟩ := ih.1 h'
        show Except.ok (_ :: _) = _ ↔ _
        rw [List.forall_mem_cons]
        exact ⟨fun h => ⟨⟨hn, hns⟩, (Except.ok.inj h).symm⟩, fun h => h.2 ▸ rfl⟩

/-- The trajectory `_update_cmd_cb` builds exists exactly for a nonempty list of
ready joints and a nonzero speed scale, and is then `specTrajectory`. -/
theorem trajectory_eq_ok_iff {s : Plugin} {traj : JointTrajectory} :
    trajectory s = .ok traj ↔
      s.jointNames ≠ [] ∧ (∀ n ∈ s.jointNames, JointReady s n) ∧ s.speedScale ≠ 0 ∧
        traj = specTrajectory s := by
  unfold trajectory
  rcases hm : s.jointNames.mapM (jointCommand s) with e | cmds
  · have hr : ¬∀ n ∈ s.jointNames, JointReady s n := fun hr => by
      rw [mapM_jointCommand_eq_ok_iff.2 ⟨hr, rfl⟩] at hm; cases hm
    simp [bind, Except.bind, hr]
  · obtain ⟨hr, rfl⟩ := mapM_jointCommand_eq_ok_iff.1 hm
    by_cases hne : s.jointNames = []
    · simp [bind, Except.bind, hne, pyMax]
    have hmax : pyMax (s.jointNames.map (jointDuration s)) =
        .ok ((s.jointNames.map (jointDuration s)).foldl max minTrajDur) :=
      pyMax_eq_foldl (by simpa using hne) (by simp [le_jointDuration])
    by_cases hs : s.speedScale = 0
    · simp [bind, Except.bind, Function.comp_def, hmax, hs, pyDiv]
    · simp only [bind, Except.bind, List.map_map, Function.comp_def, hmax, pyDiv, if_neg hs,
        pure, Except.pure, Except.ok.injEq, specTrajectory, specDuration]
      exact ⟨fun h => ⟨hne, hr, hs, h.symm⟩, fun h => h.2.2.2.symm⟩

/-- **`_update_cmd_cb`, exactly.**  It publishes `specTrajectory` on `_cmd_pub`
when the publisher is set, the joint list is nonempty, every joint is ready and
the speed scale is nonzero; otherwise it raises, having written nothing. -/
theorem exec_updateCmdCb_eq (s : Plugin) :
    exec updateCmdCb s =
      match s.cmdPub with
      | some p =>
        if s.jointNames ≠ [] ∧ (∀ n ∈ s.jointNames, JointReady s n) ∧ s.speedScale ≠ 0 then
          { s with published := s.published ++ [(p, specTrajectory s)] }
        else s
      | none => s := by
  rw [exec_updateCmdCb]
  rcases ht : trajectory s with e | traj
  · have hn : ¬(s.jointNames ≠ [] ∧ (∀ n ∈ s.jointNames, JointReady s n) ∧ s.speedScale ≠ 0) :=
      fun h => by rw [trajectory_eq_ok_iff.2 ⟨h.1, h.2.1, h.2.2, rfl⟩] at ht; cases ht
    rcases s.cmdPub with _ | p
    · rfl
    · exact (if_neg hn).symm
  · obtain ⟨h1, h2, h3, rfl⟩ := trajectory_eq_ok_iff.1 ht
    rcases s.cmdPub with _ | p
    · rfl
    · exact (if_pos ⟨h1, h2, h3⟩).symm

/-! ## Only a command tick publishes -/

theorem published_rosStage (u : Plugin) (ns : String) (f : Option LoadFault) :
    (u.rosStage ns f).published = u.published := by
  rcases f with _ | _ | _ | _ | _ | _ <;>
    simp only [rosStage, subscribe, advertise, connect, newExecutor, newThread, startThread]

theorem published_jtcChange (name : String) (env : LoadEnv) (s : Plugin) :
    (s.step (.jtcChange name env)).published = s.published := by
  have hc : s.releaseInterfaces.joined.clearJoints.published = s.published := by
    rw [clearJoints, uncheck_eq, joined_eq]; rfl
  show (exec (onJtcChange name env) s).published = _
  rw [exec_onJtcChange]
  split
  · rfl
  split
  · exact hc
  rw [exec_loadJtc env _ ‹_›]
  split
  · exact hc
  split
  · exact hc
  · split <;> exact (published_rosStage _ _ _).trans hc

/-- **Only a command tick publishes**, and only one message, `specTrajectory` on
`_cmd_pub`, in control mode and when `_update_cmd_cb` returns. -/
theorem published_step (s : Plugin) (e : Event) :
    (s.step e).published = s.published ∨
      e = .cmdTimeout ∧ s.updateCmdTimer = true ∧ ∃ p, s.cmdPub = some p ∧
        s.jointNames ≠ [] ∧ (∀ n ∈ s.jointNames, JointReady s n) ∧ s.speedScale ≠ 0 ∧
        s.step e = { s with published := s.published ++ [(p, specTrajectory s)] } := by
  by_cases hp : e.IsPoll
  · obtain ⟨_, _, _, _, _, _, h⟩ := poll_step hp s
    exact .inl (by rw [h])
  cases e with
  | updateCmList | updateJtcList | cmChange => exact absurd trivial hp
  | jtcChange name env => exact .inl (published_jtcChange name env s)
  | enableClicked => exact .inl (by rw [step_enableClicked, click_eq])
  | editorChanged row val =>
    refine .inl ?_
    simp only [step]
    split
    · split
      · rw [exec_updateSingleCmdCb]
      · rfl
    · rfl
  | speedScalingChanged val =>
    refine .inl ?_
    simp only [step]
    split
    · rw [exec_onSpeedScalingChange]; split <;> rfl
    · rfl
  | stateMessage sub msg =>
    rcases stateMessage_cases sub msg s with ⟨q, h⟩ | h <;> exact .inl (by rw [h])
  | jointStateDelivered =>
    obtain ⟨l, h⟩ := delivered_step s
    exact .inl (by rw [h])
  | cmdTimeout =>
    by_cases hcmd : s.updateCmdTimer
    · have hstep : s.step .cmdTimeout = exec updateCmdCb s := by simp only [step, if_pos hcmd]
      rw [hstep, exec_updateCmdCb_eq]
      rcases hp : s.cmdPub with _ | p
      · exact .inl rfl
      by_cases h : s.jointNames ≠ [] ∧ (∀ n ∈ s.jointNames, JointReady s n) ∧ s.speedScale ≠ 0
      · exact .inr ⟨rfl, hcmd, p, rfl, h.1, h.2.1, h.2.2, if_pos h⟩
      · exact .inl (by simp only [if_neg h])
    · exact .inl (by simp only [step, hcmd]; rfl)
  | actPosTimeout =>
    refine .inl ?_
    simp only [step]
    split
    · rw [exec_updateJointWidgets]
    · rfl
  | shutdownPlugin =>
    refine .inl ?_
    show (exec shutdownPlugin s).published = _
    rw [exec_shutdownPlugin]
    split
    · rfl
    · rw [joined_eq]; rfl

/-! ## The selected controller -/

/-- What the plugin addresses belongs to what `_load_jtc` found, as `loaded`
records it: that controller is running in the listing the lister returned and
is listed under `_jtc_name`; the joint list is empty or that controller's; and
every live subscription and publisher is on the `controller_state` and
`joint_trajectory` topic of `_jtc_name` in the controller manager namespace
`_load_jtc` read. -/
structure Addressed (s : Plugin) : Prop where
  found : ∀ r, s.loaded = some r → r.info ∈ runningJtc r.listing ∧ r.info.name = s.jtcName
  names : s.jointNames = [] ∨ ∃ r, s.loaded = some r ∧ s.jointNames = jtcJointNames r.info
  subs : ∀ q ∈ s.subscriptions,
    ∃ r, s.loaded = some r ∧ q.2 = controllerNs r.cmNs s.jtcName ++ "/controller_state"
  pubs : ∀ q ∈ s.publishers,
    ∃ r, s.loaded = some r ∧ q.2 = controllerNs r.cmNs s.jtcName ++ "/joint_trajectory"

theorem Addressed.of_frame {s t : Plugin} (h : Addressed s) (hn : t.jointNames = s.jointNames)
    (hj : t.jtcName = s.jtcName) (hl : t.loaded = s.loaded) (hs : t.subscriptions ⊆ s.subscriptions)
    (hp : t.publishers ⊆ s.publishers) : Addressed t where
  found r hr := by rw [hj]; exact h.found r (hl ▸ hr)
  names := by rw [hn, hl]; exact h.names
  subs q hq := by rw [hl, hj]; exact h.subs q (hs hq)
  pubs q hq := by rw [hl, hj]; exact h.pubs q (hp hq)

/-- Nothing live, loaded or joined: what a completed `_unload_jtc` hands over. -/
theorem Addressed.of_released {t : Plugin} (hr : Released t) (hn : t.jointNames = [])
    (hl : t.loaded = none) : Addressed t where
  found r h := absurd (hl.symm.trans h) (by simp)
  names := .inl hn
  subs := by simp [hr.subs]
  pubs := by simp [hr.pubs]

/-- `# Setup ROS interfaces` from nothing live creates only the two topics of
its namespace, and keeps the joint list, the selection and `loaded`. -/
theorem rosStage_topics {u : Plugin} (hs : u.subscriptions = []) (hp : u.publishers = [])
    (ns : String) (f : Option LoadFault) :
    (u.rosStage ns f).jointNames = u.jointNames ∧ (u.rosStage ns f).jtcName = u.jtcName ∧
      (u.rosStage ns f).loaded = u.loaded ∧
      (∀ q ∈ (u.rosStage ns f).subscriptions, q.2 = ns ++ "/controller_state") ∧
      ∀ q ∈ (u.rosStage ns f).publishers, q.2 = ns ++ "/joint_trajectory" := by
  rcases f with _ | _ | _ | _ | _ | _ <;>
    simp [rosStage, subscribe, advertise, connect, newExecutor, newThread, startThread, hs, hp]

/-- `_load_jtc` from nothing live addresses the controller it finds under the
selected name, wherever it raises. -/
theorem addressed_loadJtc {t : Plugin} (hr : Released t) (hn : t.jointNames = [])
    (hl : t.loaded = none) (hname : t.jtcName ≠ "") (env : LoadEnv) :
    Addressed (exec (loadJtc env) t) := by
  rw [exec_loadJtc env t hname]
  split
  · exact .of_released hr hn hl
  split
  · exact .of_released hr hn hl
  rename_i info hf
  obtain ⟨h₁, h₂, h₀, h₃, h₄⟩ := rosStage_topics (u := t.withJoints ⟨env.listing, info, t.cmNs⟩)
    hr.subs hr.pubs (controllerNs t.cmNs t.jtcName) env.fault
  have hl' : ((t.withJoints ⟨env.listing, info, t.cmNs⟩).rosStage
      (controllerNs t.cmNs t.jtcName) env.fault).loaded = some ⟨env.listing, info, t.cmNs⟩ := h₀
  have hfound : info ∈ runningJtc env.listing ∧ info.name = t.jtcName :=
    ⟨List.mem_of_find?_eq_some hf, by simpa using List.find?_some hf⟩
  have hw : Addressed ((t.withJoints ⟨env.listing, info, t.cmNs⟩).rosStage
      (controllerNs t.cmNs t.jtcName) env.fault) :=
    { found := fun r h => by
        obtain rfl := Option.some.inj (hl'.symm.trans h)
        rw [h₂]; exact hfound
      names := .inr ⟨_, hl', h₁⟩
      subs := fun q hq => ⟨_, hl', by rw [h₂]; exact h₃ q hq⟩
      pubs := fun q hq => ⟨_, hl', by rw [h₂]; exact h₄ q hq⟩ }
  split
  · exact hw.of_frame rfl rfl rfl (fun _ h => h) (fun _ h => h)
  · exact hw

theorem Addressed.jtcChange {s : Plugin} (h : Addressed s) (hr : ResInv s) (name : String)
    (env : LoadEnv) : Addressed (s.step (.jtcChange name env)) := by
  have hu := released_unloadJtc hr
  rw [exec_unloadJtc] at hu
  show Addressed (exec (onJtcChange name env) s)
  rw [exec_onJtcChange]
  split
  · exact h.of_frame rfl rfl rfl (List.filter_sublist _).subset (List.filter_sublist _).subset
  rw [if_neg ‹_›] at hu
  have ht : Released { s.releaseInterfaces.joined.clearJoints with jtcName := name } :=
    hu.of_resFields rfl
  have hn := (noJoints_clearJoints s.releaseInterfaces.joined).names
  have hl : s.releaseInterfaces.joined.clearJoints.loaded = none := by
    rw [clearJoints, uncheck_eq]
  split
  · exact .of_released ht hn hl
  · exact addressed_loadJtc ht hn hl ‹_› env

theorem Addressed.step {s : Plugin} (h : Addressed s) (hr : ResInv s) (e : Event) :
    Addressed (s.step e) := by
  by_cases hp : e.IsPassive
  · have hc := control_step hp s
    have hs : (s.step e).subscriptions = s.subscriptions := congrArg Control.subscriptions hc
    have hq : (s.step e).publishers = s.publishers := congrArg Control.publishers hc
    exact h.of_frame (congrArg Control.jointNames hc) (congrArg Control.jtcName hc)
      (congrArg Control.loaded hc) (hs ▸ fun _ h => h) (hq ▸ fun _ h => h)
  cases e with
  | jtcChange name env => exact h.jtcChange hr name env
  | enableClicked =>
    rw [step_enableClicked, click_eq]; exact h.of_frame rfl rfl rfl (fun _ h => h) (fun _ h => h)
  | shutdownPlugin =>
    show Addressed (exec shutdownPlugin s)
    rw [exec_shutdownPlugin]
    split
    · exact h.of_frame rfl rfl rfl (List.filter_sublist _).subset (List.filter_sublist _).subset
    · rw [joined_eq]
      exact h.of_frame rfl rfl rfl (List.filter_sublist _).subset (List.filter_sublist _).subset
  | stateMessage sub msg =>
    rcases stateMessage_cases sub msg s with ⟨q, he⟩ | he <;> rw [he] <;>
      exact h.of_frame rfl rfl rfl (fun _ h => h) (fun _ h => h)
  | _ => exact absurd trivial hp

/-- **The joint list and the live topics belong to the selected controller**, on
every run. -/
theorem addressed_of_reachable {s : Plugin} (h : Reachable s) : Addressed s := by
  induction h with
  | init m => exact .of_released (released_init m) rfl rfl
  | step e hs _ ih => exact ih.step (resInv_of_reachable hs) e

/-- **Every command reaches the controller `_load_jtc` found.**  In every
reachable state, an event either publishes nothing, or is a command tick with
`enable_button` checked that publishes one message on the plugin's only live
publisher.  `_load_jtc` then found a controller running in the listing the
lister returned to it and listed under the selected name; the publisher's topic
is that controller's `joint_trajectory` topic in the namespace `_load_jtc`
read, and the message names exactly its joints, at least one, and sends each
to its target in `specDuration`. -/
theorem command_addressed {s : Plugin} (hs : Reachable s) (e : Event) :
    (s.step e).published = s.published ∨
      e = .cmdTimeout ∧ s.enableChecked = true ∧ ∃ p r, s.loaded = some r ∧
        r.info ∈ runningJtc r.listing ∧ r.info.name = s.jtcName ∧
        s.publishers = [(p, controllerNs r.cmNs s.jtcName ++ "/joint_trajectory")] ∧
        jtcJointNames r.info ≠ [] ∧
        (s.step e).published = s.published ++
          [(p, ⟨jtcJointNames r.info, [⟨(jtcJointNames r.info).map (target s), specDuration s⟩]⟩)] := by
  rcases published_step s e with h | ⟨he', hcmd, p, hp, hne, -, -, he⟩
  · exact .inl h
  have ha := addressed_of_reachable hs
  have hpubs : s.publishers.map Prod.fst = [p] := by rw [(resInv_of_reachable hs).pubs, hp]; rfl
  obtain ⟨⟨p', topic⟩, l, hl, rfl, hnil⟩ := List.map_eq_cons_iff.1 hpubs
  rw [List.map_eq_nil_iff] at hnil
  subst hnil
  obtain ⟨r, hr, htopic⟩ := ha.pubs (p', topic) (by simp [hl])
  rcases ha.names with hn | ⟨r', hr', hjn⟩
  · exact absurd hn hne
  obtain rfl : r' = r := Option.some.inj (hr'.symm.trans hr)
  obtain ⟨hi, hname⟩ := ha.found r' hr'
  refine .inr ⟨he', (modeInv_of_reachable hs).checked_of_cmd hcmd, p', r', hr', hi, hname,
    by rw [hl, show topic = _ from htopic], hjn ▸ hne, ?_⟩
  rw [he]
  show s.published ++ [(p', specTrajectory s)] = _
  rw [specTrajectory, hjn]

/-- Controller `a` with one joint `j` at position `0`, in control mode, at a
command tick; `_load_jtc` found `a` in the listing `[a]` under `/cm`. -/
theorem command_addressed_after_feedback :
    let ctrl : ControllerInfo := ⟨"a", "JointTrajectoryController", "active", ["j/position"]⟩
    let s := (init 100).run [.cmChange "/cm" ⟨[ctrl], fun _ => PyDict.empty.set "j" ⟨-1, 1, 1⟩⟩,
      .jtcChange "a" ⟨[ctrl], none⟩, .stateMessage 0 ⟨["j"], [0]⟩, .jointStateDelivered,
      .enableClicked]
    (Reachable s ∧ s.loaded = some ⟨[ctrl], ctrl, "/cm"⟩) ∧
      ((s.step .cmdTimeout).published = s.published ∨
      Event.cmdTimeout = .cmdTimeout ∧ s.enableChecked = true ∧ ∃ p r, s.loaded = some r ∧
        r.info ∈ runningJtc r.listing ∧ r.info.name = s.jtcName ∧
        s.publishers = [(p, controllerNs r.cmNs s.jtcName ++ "/joint_trajectory")] ∧
        jtcJointNames r.info ≠ [] ∧
        (s.step .cmdTimeout).published = s.published ++
          [(p, ⟨jtcJointNames r.info, [⟨(jtcJointNames r.info).map (target s), specDuration s⟩]⟩)]) := by
  intro ctrl s
  have hs : Reachable s := reachable_run 100 _
  exact ⟨⟨hs, by decide⟩, command_addressed hs .cmdTimeout⟩

/-! ## Nothing before the first click -/

/-- Every event but a click keeps `enable_button` unchecked. -/
theorem unchecked_step {s : Plugin} (hm : ModeInv s) (hc : s.enableChecked = false) {e : Event}
    (he : e ≠ .enableClicked) : (s.step e).enableChecked = false := by
  by_cases hp : e.IsPassive
  · exact (congrArg Control.enableChecked (control_step hp s)).trans hc
  cases e with
  | jtcChange name env =>
    by_cases hj : s.releaseInterfaces.joinRaises
    · show (exec (onJtcChange name env) s).enableChecked = false
      rw [exec_onJtcChange, if_pos hj]; exact hc
    · exact ((ModeInv.jtcChange hm name env).2 (by simpa using hj)).2
  | enableClicked => exact absurd rfl he
  | shutdownPlugin =>
    show (exec shutdownPlugin s).enableChecked = false
    rw [exec_shutdownPlugin]
    split
    · exact hc
    · rw [joined_eq]; exact hc
  | stateMessage sub msg =>
    rcases stateMessage_cases sub msg s with ⟨q, h⟩ | h <;> rw [h] <;> exact hc
  | _ => exact absurd trivial hp

/-- **Nothing is commanded before the first click.**  On every run from a fresh
plugin without a click of `enable_button` (whatever the selections, listings,
faults, feedback, edits, ticks and `shutdown_plugin`), the button stays
unchecked, the command timer stays stopped and nothing is published. -/
theorem no_command_before_click {s : Plugin} (h : ReachableBy (· ≠ .enableClicked) s) :
    s.enableChecked = false ∧ s.updateCmdTimer = false ∧ s.published = [] := by
  induction h with
  | init m => exact ⟨rfl, rfl, rfl⟩
  | step e hs he ih =>
    have hc := unchecked_step (modeInv_of_reachable hs.reachable) ih.1 he
    refine ⟨hc, (modeInv_of_reachable (hs.reachable.step e trivial)).cmd_of_unchecked hc, ?_⟩
    rcases published_step _ e with hp | ⟨-, hcmd, -⟩
    · exact hp.trans ih.2.2
    · exact absurd (ih.2.1.symm.trans hcmd) (by decide)

/-- `restore_settings` reselecting controller `a`, then feedback, an edit and
both ticks, without a click. -/
theorem no_command_after_restore :
    let ctrl : ControllerInfo := ⟨"a", "JointTrajectoryController", "active", ["j/position"]⟩
    let d : Discovery := ⟨[ctrl], fun _ => PyDict.empty.set "j" ⟨-1, 1, 1⟩⟩
    let s := (init 100).run (restoreSettings ["/cm"] (some ("/cm", d)) d (some ("a", ⟨[ctrl], none⟩)) ++
      [.stateMessage 0 ⟨["j"], [0]⟩, .jointStateDelivered, .editorChanged 0 1, .actPosTimeout,
        .cmdTimeout])
    ReachableBy (· ≠ .enableClicked) s ∧
      (s.enableChecked = false ∧ s.updateCmdTimer = false ∧ s.published = []) := by
  intro ctrl d s
  have hs : ReachableBy (· ≠ .enableClicked) s :=
    (ReachableBy.init 100).run _ (by simp [restoreSettings])
  exact ⟨hs, no_command_before_click hs⟩

end Plugin
end RqtJtc
