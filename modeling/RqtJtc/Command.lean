import Mathlib.Algebra.Order.Field.Basic
import Mathlib.Tactic.FieldSimp
import Mathlib.Tactic.Ring
import RqtJtc.Effects

/-!
# Command synthesis

`_update_cmd_cb` sends every joint to its command (its position when no command
was set) in one trajectory point, timed so that no joint moves faster on average
than `_speed_scale` times its `max_velocity`, and no faster than
`_min_traj_dur` allows.  This module gives the trajectory in closed form and
shows that its duration is the least one with those two properties.

## Main definitions

* `feedback`, `target`, `maxVel` — the joint data `_update_cmd_cb` reads.
* `specDuration` — `max_i max(|q_i - p_i| / v_i, _min_traj_dur) / s`.

## Main statements

* `trajectory_eq` — the trajectory `_update_cmd_cb` builds.
* `isLeast_specDuration` — its duration is the least admissible one.
* `updateCmdCb_spec` — both, and the message published.
* `target_setCommand` — an edit sets one joint's target.
* `speedScale_step` — only the speed scaling editor writes `_speed_scale`.
-/

namespace RqtJtc
namespace Plugin

/-- The feedback position of joint `n`, `0` when it has none. -/
def feedback (s : Plugin) (n : String) : ℚ := ((s.jointPos.get? n).bind (·.position)).getD 0

/-- The position joint `n` is sent to: its command, or its position when no
command was set. -/
def target (s : Plugin) (n : String) : ℚ :=
  ((s.jointPos.get? n).bind (·.command)).getD (feedback s n)

/-- The cached `max_velocity` of joint `n`, `0` when it has none. -/
def maxVel (s : Plugin) (n : String) : ℚ := ((s.robotJointLimits.get? n).map (·.maxVelocity)).getD 0

/-- The duration joint `n` asks for: `max(|q - p| / v, _min_traj_dur)`. -/
def jointDuration (s : Plugin) (n : String) : ℚ :=
  max (|target s n - feedback s n| / maxVel s n) minTrajDur

/-- `max_i max(|q_i - p_i| / v_i, _min_traj_dur) / s` over the joints. -/
def specDuration (s : Plugin) : ℚ :=
  (s.jointNames.map (jointDuration s)).foldl max minTrajDur / s.speedScale

/-- A joint `_update_cmd_cb` can command: it has a position and a positive
cached `max_velocity`. -/
def Commandable (s : Plugin) (n : String) : Prop :=
  ((s.jointPos.get? n).bind (·.position)).isSome ∧
    ∃ l, s.robotJointLimits.get? n = some l ∧ 0 < l.maxVelocity

theorem Commandable.maxVel_pos {s : Plugin} {n : String} (h : Commandable s n) :
    0 < maxVel s n := by
  obtain ⟨-, l, hl, hv⟩ := h
  simpa [maxVel, hl] using hv

/-- One joint of the loop, for a joint it can command. -/
theorem jointCommand_eq {s : Plugin} {n : String} (h : Commandable s n) :
    jointCommand s n = .ok (target s n, jointDuration s n) := by
  obtain ⟨hp, l, hl, hv⟩ := h
  rcases hd : s.jointPos.get? n with _ | data
  · simp [hd] at hp
  · rcases hq : data.position with _ | p
    · simp [hd, hq] at hp
    · simp [jointCommand, jointDuration, target, feedback, maxVel, hd, hq, hl, pyDiv, hv.ne',
        bind, Except.bind, pure, Except.pure]

theorem mapM_jointCommand {s : Plugin} {names : List String} (h : ∀ n ∈ names, Commandable s n) :
    names.mapM (jointCommand s) = .ok (names.map fun n => (target s n, jointDuration s n)) := by
  induction names with
  | nil => rfl
  | cons n ns ih =>
    simp only [List.mapM_cons, jointCommand_eq (h n (List.mem_cons_self n ns)),
      ih fun m hm => h m (List.mem_cons_of_mem n hm), List.map_cons, bind, Except.bind, pure,
      Except.pure]

/-! ## Edits -/

/-- `_update_single_cmd_cb` on a joint `_joint_pos` has: its target becomes the
value, and every other joint keeps its target. -/
theorem target_setCommand {s : Plugin} {name : String} (h : name ∈ s.jointPos.keys) (val : ℚ)
    (n : String) :
    target { s with jointPos := setCommand s.jointPos name val } n =
      if name = n then val else target s n := by
  obtain ⟨data, hd⟩ := Option.isSome_iff_exists.1 ((PyDict.mem_keys _ _).1 h)
  by_cases hn : name = n
  · subst hn; simp [target, feedback, setCommand, hd]
  · simp [target, feedback, setCommand, hd, hn]

/-- An edit keeps every position and the limits cache, so what could be
commanded still can. -/
theorem Commandable.setCommand {s : Plugin} {n : String} (h : Commandable s n) (name : String)
    (val : ℚ) : Commandable { s with jointPos := setCommand s.jointPos name val } n := by
  have hp := (posFrame_setCommand s.jointPos name val).2 n
  refine ⟨?_, h.2⟩
  rcases hd : s.jointPos.get? n with _ | d
  · simp [hd, Commandable] at h
  · rw [hd] at hp
    obtain ⟨d', hd', he⟩ := Option.map_eq_some'.1 hp
    simpa [hd', he, hd] using h.1

/-! ## The speed scale -/

theorem speedScale_loadJtc (env : LoadEnv) {t : Plugin} (hn : t.jtcName ≠ "") :
    (exec (loadJtc env) t).speedScale = t.speedScale := by
  have hr : ∀ (u : Plugin) ns f, (u.rosStage ns f).speedScale = u.speedScale := fun u ns f => by
    rcases f with _ | _ | _ | _ | _ | _ <;>
      simp only [rosStage, subscribe, advertise, connect, newExecutor, newThread, startThread]
  rw [exec_loadJtc env t hn]
  split
  · rfl
  · split
    · rfl
    · split <;> exact hr _ _ _

/-- **Only the speed scaling editor writes `_speed_scale`.** -/
theorem speedScale_step (s : Plugin) {e : Event} (he : ∀ v, e ≠ .speedScalingChanged v) :
    (s.step e).speedScale = s.speedScale := by
  cases e with
  | updateCmList managers => rfl
  | updateJtcList d =>
    obtain ⟨_, _, _, _, _, _, h⟩ := poll_step (e := .updateJtcList d) trivial s
    rw [h]
  | cmChange cmNs d =>
    obtain ⟨_, _, _, _, _, _, h⟩ := poll_step (e := .cmChange cmNs d) trivial s
    rw [h]
  | jtcChange name env =>
    show (exec (onJtcChange name env) s).speedScale = _
    have hc : s.releaseInterfaces.joined.clearJoints.speedScale = s.speedScale := by
      rw [clearJoints, uncheck_eq, joined_eq]; rfl
    rw [exec_onJtcChange]
    split
    · rfl
    · split
      · exact hc
      · exact (speedScale_loadJtc env ‹_›).trans hc
  | enableClicked => rw [step_enableClicked, click_eq]
  | editorChanged row val =>
    simp only [step]
    split
    · split
      · rw [exec_updateSingleCmdCb]
      · rfl
    · rfl
  | speedScalingChanged v => exact absurd rfl (he v)
  | stateMessage sub msg => rcases stateMessage_cases sub msg s with ⟨q, h⟩ | h <;> rw [h]
  | jointStateDelivered =>
    obtain ⟨l, h⟩ := delivered_step s
    rw [h]
  | cmdTimeout =>
    simp only [step]
    split
    · rw [exec_updateCmdCb]; split <;> rfl
    · rfl
  | actPosTimeout =>
    simp only [step]
    split
    · rw [exec_updateJointWidgets]
    · rfl
  | shutdownPlugin =>
    show (exec shutdownPlugin s).speedScale = _
    rw [exec_shutdownPlugin]
    split
    · rfl
    · rw [joined_eq]; rfl

theorem speedScale_run (s : Plugin) {es : List Event}
    (hes : ∀ e ∈ es, ∀ v, e ≠ .speedScalingChanged v) : (s.run es).speedScale = s.speedScale := by
  induction es generalizing s with
  | nil => rfl
  | cons e es ih =>
    rw [run_cons, ih _ fun e' he' => hes e' (List.mem_cons_of_mem e he'),
      speedScale_step s (hes e (List.mem_cons_self e es))]

/-! ## Maxima over a list -/

theorem le_foldl_max (a : ℚ) (l : List ℚ) : a ≤ l.foldl max a ∧ ∀ x ∈ l, x ≤ l.foldl max a := by
  induction l generalizing a with
  | nil => simp
  | cons x xs ih =>
    obtain ⟨h1, h2⟩ := ih (max a x)
    exact ⟨(le_max_left a x).trans h1, by
      simpa [(le_max_right a x).trans h1] using h2⟩

theorem foldl_max_le {a b : ℚ} {l : List ℚ} (ha : a ≤ b) (hl : ∀ x ∈ l, x ≤ b) :
    l.foldl max a ≤ b := by
  induction l generalizing a with
  | nil => exact ha
  | cons x xs ih =>
    exact ih (max_le ha (hl x (List.mem_cons_self x xs))) fun y hy => hl y (List.mem_cons_of_mem x hy)

/-- Python's `max` of a nonempty list of values at least `m` is their fold from
`m`. -/
theorem pyMax_eq_foldl {m : ℚ} {l : List ℚ} (hne : l ≠ []) (hm : ∀ x ∈ l, m ≤ x) :
    pyMax l = .ok (l.foldl max m) := by
  obtain ⟨x, xs, rfl⟩ := List.exists_cons_of_ne_nil hne
  simp [pyMax, max_eq_right (hm x (List.mem_cons_self x xs))]

/-! ## The trajectory -/

theorem le_jointDuration (s : Plugin) (n : String) : minTrajDur ≤ jointDuration s n :=
  le_max_right _ _

/-- **The trajectory `_update_cmd_cb` builds**: the joint names, and one point
sending each joint to its target in `specDuration`. -/
theorem trajectory_eq {s : Plugin} (hne : s.jointNames ≠ [])
    (h : ∀ n ∈ s.jointNames, Commandable s n) (hscale : s.speedScale ≠ 0) :
    trajectory s = .ok ⟨s.jointNames, [⟨s.jointNames.map (target s), specDuration s⟩]⟩ := by
  have hmax : pyMax (s.jointNames.map (jointDuration s)) =
      .ok ((s.jointNames.map (jointDuration s)).foldl max minTrajDur) :=
    pyMax_eq_foldl (by simpa using hne) (by simp [le_jointDuration])
  simp only [trajectory, mapM_jointCommand h, List.map_map, Function.comp_def, bind, Except.bind]
  simp [hmax, pyDiv, hscale, specDuration, pure, Except.pure]

/-- **The duration is the least admissible one**: at least `_min_traj_dur / s`,
no joint faster than `s` times its `max_velocity`, and every duration with both
properties is at least as long. -/
theorem isLeast_specDuration {s : Plugin} (h : ∀ n ∈ s.jointNames, Commandable s n)
    (hscale : 0 < s.speedScale) :
    IsLeast {T | minTrajDur / s.speedScale ≤ T ∧ ∀ n ∈ s.jointNames,
      |target s n - feedback s n| ≤ s.speedScale * maxVel s n * T} (specDuration s) := by
  set D := (s.jointNames.map (jointDuration s)).foldl max minTrajDur with hD
  have hsD : s.speedScale * specDuration s = D := by
    rw [specDuration, ← hD]; field_simp
  obtain ⟨hmD, hxD⟩ := le_foldl_max minTrajDur (s.jointNames.map (jointDuration s))
  refine ⟨⟨div_le_div_of_nonneg_right hmD hscale.le, fun n hn => ?_⟩, fun T ⟨hT, hTn⟩ => ?_⟩
  · have hv := (h n hn).maxVel_pos
    have hle : jointDuration s n ≤ D := hxD _ (List.mem_map_of_mem _ hn)
    have : |target s n - feedback s n| / maxVel s n ≤ D := (le_max_left _ _).trans hle
    calc |target s n - feedback s n| ≤ maxVel s n * D := (div_le_iff₀' hv).1 this
      _ = s.speedScale * maxVel s n * specDuration s := by rw [← hsD]; ring
  · have hsT : minTrajDur ≤ s.speedScale * T := by
      rw [div_le_iff₀' hscale] at hT; exact hT
    have hDT : D ≤ s.speedScale * T := by
      refine foldl_max_le hsT fun x hx => ?_
      obtain ⟨n, hn, rfl⟩ := List.mem_map.1 hx
      have hv := (h n hn).maxVel_pos
      refine max_le ((div_le_iff₀' hv).2 ?_) hsT
      calc |target s n - feedback s n| ≤ s.speedScale * maxVel s n * T := hTn n hn
        _ = maxVel s n * (s.speedScale * T) := by ring
    calc specDuration s = D / s.speedScale := by rw [specDuration]
      _ ≤ s.speedScale * T / s.speedScale := div_le_div_of_nonneg_right hDT hscale.le
      _ = T := by field_simp

/-- **Command synthesis respects the velocity limits exactly.**  For a nonempty
joint list whose joints all have a position and a positive `max_velocity`, and a
positive speed scale, `_update_cmd_cb` builds one trajectory with the joint names
and one point that sends each joint to its command (its position when none was
set) in `max_i max(|q_i - p_i| / v_i, _min_traj_dur) / s`, the least duration
that is at least `_min_traj_dur / s` and moves no joint faster than `s` times its
`max_velocity`; it publishes it on `_cmd_pub`, and raises on a `None` publisher.
The duration is the rational `T` before `Duration(seconds=T).to_msg()`, which
the model does not bound: a `Duration` holds under `2^63` ns and its message an
`int32` of seconds, so that conversion raises for `T ≥ 2^31` s. -/
theorem updateCmdCb_spec {s : Plugin} (hne : s.jointNames ≠ [])
    (h : ∀ n ∈ s.jointNames, Commandable s n) (hscale : 0 < s.speedScale) :
    let traj : JointTrajectory := ⟨s.jointNames, [⟨s.jointNames.map (target s), specDuration s⟩]⟩
    trajectory s = .ok traj ∧
    exec updateCmdCb s =
      (match s.cmdPub with
        | some p => { s with published := s.published ++ [(p, traj)] }
        | none => s) ∧
    specDuration s = (s.jointNames.map fun n =>
      max (|target s n - feedback s n| / maxVel s n) minTrajDur).foldl max minTrajDur / s.speedScale ∧
    IsLeast {T | minTrajDur / s.speedScale ≤ T ∧ ∀ n ∈ s.jointNames,
      |target s n - feedback s n| ≤ s.speedScale * maxVel s n * T} (specDuration s) := by
  have ht := trajectory_eq hne h hscale.ne'
  refine ⟨ht, ?_, rfl, isLeast_specDuration h hscale⟩
  rw [exec_updateCmdCb, ht]
  cases s.cmdPub <;> rfl

/-- One joint at position `0` commanded to `1`, with `max_velocity` `2`, at the
initial speed scale `50 / 100`: the trajectory takes `(1 / 2) / (1 / 2) = 1`
second. -/
theorem updateCmdCb_one_joint :
    let s : Plugin := { init 100 with
      jointNames := ["j"]
      jointPos := PyDict.empty.set "j" ⟨some 0, some 1⟩
      robotJointLimits := PyDict.empty.set "j" ⟨-1, 1, 2⟩ }
    (s.jointNames ≠ [] ∧ (∀ n ∈ s.jointNames, Commandable s n) ∧ 0 < s.speedScale) ∧
      trajectory s = .ok ⟨["j"], [⟨[1], 1⟩]⟩ := by
  intro s
  have hc : ∀ n ∈ s.jointNames, Commandable s n := by
    simp only [s, List.mem_singleton, forall_eq]
    exact ⟨by simp, ⟨-1, 1, 2⟩, by simp, by norm_num⟩
  have hs : 0 < s.speedScale := by norm_num [s, init]
  have hd : specDuration s = 1 := by
    norm_num [specDuration, jointDuration, target, feedback, maxVel, minTrajDur, cmdPubFreq, s, init]
  refine ⟨⟨by simp [s], hc, hs⟩, ?_⟩
  have := (updateCmdCb_spec (by simp [s]) hc hs).1
  rw [hd] at this
  simpa [s, target] using this

end Plugin
end RqtJtc
