import RqtJtc.Publish
import RqtJtc.Feedback

/-!
# Entering control mode holds the joints

In monitor mode `_update_joint_widgets` shows each joint's feedback position in
its editor, and `setValue` echoes it through `valueChanged` into
`_update_single_cmd_cb` as the joint's command.  A joint without an editor row
never gets a command: only a row writes one (`CmdInv`).  So right after a refresh
every joint with a position is commanded to that position or not at all
(`Echoed`), and the first command tick after a click into control mode sends
every joint to where it is, in the minimum duration: switching to control mode
does not move the robot.

## Main definitions

* `CmdInv` — only a joint with an editor row has a command.
* `Echoed` — a joint with a position is commanded there, or not at all.

## Main statements

* `cmdInv_of_reachable` — the invariant on every run.
* `control_starts_at_feedback` — the first command after a refresh and a click
  holds every joint where it is.
-/

namespace RqtJtc
namespace Plugin

/-! ## Only a row writes a command -/

/-- Only a joint with an editor row has a command. -/
def CmdInv (s : Plugin) : Prop :=
  ∀ n, ((s.jointPos.get? n).bind (·.command)).isSome → n ∈ s.jointRows.map (·.name)

theorem command_setCommand (pos : PyDict JointData) (name : String) (val : ℚ) (n : String) :
    ((setCommand pos name val).get? n).bind (·.command) = (pos.get? n).bind (·.command) ∨
      n = name := by
  unfold setCommand
  split
  · exact .inl rfl
  · by_cases h : name = n
    · exact .inr h.symm
    · simp [h]

theorem command_refreshedPos (names : List String) (rows : List JointRow) (id : Nat)
    (pos : PyDict JointData) (n : String) :
    ((refreshedPos names rows id pos).get? n).bind (·.command) = (pos.get? n).bind (·.command) ∨
      n ∈ rows.map (·.name) := by
  induction rows generalizing id pos with
  | nil => exact .inl rfl
  | cons row rows ih =>
    simp only [refreshedPos, List.map_cons, List.mem_cons]
    split
    · exact .inl rfl
    split
    · exact (ih _ _).imp (fun h => h) .inr
    · rcases ih (id + 1) (setCommand pos row.name _) with h | h
      · exact (command_setCommand pos row.name _ n).imp h.trans .inl
      · exact .inr (.inr h)

theorem command_foldl_set_empty (names : List String) {pos : PyDict JointData}
    (h : ∀ n, (pos.get? n).bind (·.command) = none) (n : String) :
    ((names.foldl (fun pos m => pos.set m {}) pos).get? n).bind (·.command) = none := by
  induction names generalizing pos with
  | nil => exact h n
  | cons m ms ih => exact ih fun k => by by_cases hk : m = k <;> simp [hk, h k]

theorem command_applyPositions (l : List (String × ℚ)) (pos : PyDict JointData) (n : String) :
    ((applyPositions l pos).get? n).bind (·.command) = (pos.get? n).bind (·.command) := by
  have h := commands_applyPositions l pos n
  revert h
  rcases (applyPositions l pos).get? n <;> rcases pos.get? n <;> simp

theorem jointPos_rosStage (u : Plugin) (ns : String) (f : Option LoadFault) :
    (u.rosStage ns f).jointPos = u.jointPos := by
  rcases f with _ | _ | _ | _ | _ | _ <;>
    simp only [rosStage, subscribe, advertise, connect, newExecutor, newThread, startThread]

theorem rowNames_click (s : Plugin) : s.click.jointRows.map (·.name) = s.jointRows.map (·.name) := by
  unfold click uncheck enterMode; split_ifs <;> simp [List.map_map, Function.comp_def]

theorem CmdInv.of_commands {s t : Plugin} (h : CmdInv s)
    (hr : t.jointRows.map (·.name) = s.jointRows.map (·.name))
    (hc : ∀ n, (t.jointPos.get? n).bind (·.command) = (s.jointPos.get? n).bind (·.command) ∨
      n ∈ s.jointRows.map (·.name)) : CmdInv t := fun n hn => by
  rw [hr]
  rcases hc n with hc | hc
  · exact h n (hc ▸ hn)
  · exact hc

theorem CmdInv.of_frame {s t : Plugin} (h : CmdInv s) (hp : t.jointPos = s.jointPos)
    (hr : t.jointRows = s.jointRows) : CmdInv t :=
  h.of_commands (by rw [hr]) fun n => .inl (by rw [hp])

theorem CmdInv.of_none {s : Plugin} (h : ∀ n, (s.jointPos.get? n).bind (·.command) = none) :
    CmdInv s := fun n hn => by simp [h n] at hn

/-- `_load_jtc` from joint data without commands writes none. -/
theorem cmdInv_loadJtc {t : Plugin} (ht : ∀ n, (t.jointPos.get? n).bind (·.command) = none)
    (hn : t.jtcName ≠ "") (env : LoadEnv) : CmdInv (exec (loadJtc env) t) := by
  rw [exec_loadJtc env t hn]
  split
  · exact .of_none ht
  split
  · exact .of_none ht
  rename_i info _
  have hw := command_foldl_set_empty (jtcJointNames info) ht
  split
  · exact .of_none fun n => by
      show (((t.withJoints _).rosStage _ _).jointPos.get? n).bind _ = none
      rw [jointPos_rosStage]; exact hw n
  · exact .of_none fun n => by rw [jointPos_rosStage]; exact hw n

theorem CmdInv.jtcChange {s : Plugin} (h : CmdInv s) (name : String) (env : LoadEnv) :
    CmdInv (s.step (.jtcChange name env)) := by
  show CmdInv (exec (onJtcChange name env) s)
  rw [exec_onJtcChange]
  split
  · exact h.of_frame rfl rfl
  have ht : ∀ n, (({ s.releaseInterfaces.joined.clearJoints with jtcName := name } : Plugin).jointPos.get? n).bind
      (·.command) = none := fun n => by
    rw [(noJoints_clearJoints s.releaseInterfaces.joined).pos]; rfl
  split
  · exact .of_none ht
  · exact cmdInv_loadJtc ht ‹_› env

theorem CmdInv.step {s : Plugin} (h : CmdInv s) (e : Event) : CmdInv (s.step e) := by
  by_cases hp : e.IsPoll
  · obtain ⟨_, _, _, _, _, _, he⟩ := poll_step hp s
    rw [he]; exact h.of_frame rfl rfl
  cases e with
  | updateCmList | updateJtcList | cmChange => exact absurd trivial hp
  | jtcChange name env => exact h.jtcChange name env
  | enableClicked =>
    rw [step_enableClicked, click_eq]
    exact h.of_commands (rowNames_click s) fun _ => .inl rfl
  | editorChanged row val =>
    show CmdInv (match s.jointRows[row]? with
      | some r => if r.enabled then exec (updateSingleCmdCb val r.name) s else s
      | none => s)
    split
    · rename_i r hr
      split
      · rw [exec_updateSingleCmdCb]
        refine h.of_commands rfl fun n => (command_setCommand _ _ _ n).imp id fun hn => ?_
        exact hn ▸ List.mem_map_of_mem _ (List.getElem?_mem hr)
      · exact h
    · exact h
  | speedScalingChanged val =>
    show CmdInv (if s.speedScalingEnabled then exec (onSpeedScalingChange val) s else s)
    split
    · rw [exec_onSpeedScalingChange]; split <;> exact h.of_frame rfl rfl
    · exact h
  | stateMessage sub msg =>
    rcases stateMessage_cases sub msg s with ⟨q, he⟩ | he <;> rw [he] <;> exact h.of_frame rfl rfl
  | jointStateDelivered =>
    obtain ⟨l, he⟩ := delivered_step s
    rw [he]; exact h.of_commands rfl fun n => .inl (command_applyPositions _ _ n)
  | cmdTimeout =>
    show CmdInv (if s.updateCmdTimer then exec updateCmdCb s else s)
    split
    · rw [exec_updateCmdCb]; split <;> exact h.of_frame rfl rfl
    · exact h
  | actPosTimeout =>
    show CmdInv (if s.updateActPosTimer then exec updateJointWidgets s else s)
    split
    · rw [exec_updateJointWidgets]
      exact h.of_commands rfl fun n => command_refreshedPos _ _ _ _ n
    · exact h
  | shutdownPlugin =>
    show CmdInv (exec shutdownPlugin s)
    rw [exec_shutdownPlugin]
    split
    · exact h.of_frame rfl rfl
    · rw [joined_eq]; exact h.of_frame rfl rfl

/-- **Only a joint with an editor row has a command**, on every run. -/
theorem cmdInv_of_reachable {s : Plugin} (h : Reachable s) : CmdInv s := by
  induction h with
  | init m => exact .of_none fun _ => rfl
  | step e _ _ ih => exact ih.step e

/-! ## The refresh echoes every position -/

/-- Joint `n`, when it has a position, is commanded to it or not at all. -/
def Echoed (pos : PyDict JointData) (n : String) : Prop :=
  ∀ p, (pos.get? n).bind (·.position) = some p → ((pos.get? n).bind (·.command)).getD p = p

theorem echoed_echoPosition {pos : PyDict JointData} {n : String} (name : String)
    (h : Echoed pos n ∨ name = n) : Echoed (echoPosition pos name) n := by
  unfold echoPosition setCommand
  split
  · rename_i hq
    rcases h with h | rfl
    · exact h
    · intro p hp; rw [hq] at hp; cases hp
  split
  · rename_i _ _ hq _ hd
    rcases h with h | rfl
    · exact h
    · intro p hp; rw [hd] at hp; cases hp
  rename_i _ q hq _ data hd
  rw [hd] at hq
  by_cases hn : name = n
  · subst hn
    intro p hp
    rw [PyDict.get?_set, if_pos rfl] at hp ⊢
    exact Option.some.inj (hq.symm.trans hp)
  · intro p hp
    rw [PyDict.get?_set, if_neg hn] at hp ⊢
    exact h.resolve_right hn p hp

theorem echoed_foldl (rows : List JointRow) {pos : PyDict JointData} {n : String}
    (h : Echoed pos n ∨ n ∈ rows.map (·.name)) :
    Echoed (rows.foldl (fun pos r => echoPosition pos r.name) pos) n := by
  induction rows generalizing pos with
  | nil => simpa using h
  | cons r rs ih =>
    by_cases hn : n ∈ rs.map (·.name)
    · exact ih (.inr hn)
    refine ih (.inl (echoed_echoPosition r.name ?_))
    rw [List.map_cons, List.mem_cons] at h
    exact h.imp_right fun h => (h.resolve_right hn).symm

/-- In an aligned state the refresh is the echo of every row. -/
theorem refreshedPos_eq_foldl {s : Plugin} (h : JointInv s) :
    refreshedPos s.jointNames s.jointRows 0 s.jointPos =
      s.jointRows.foldl (fun pos r => echoPosition pos r.name) s.jointPos := by
  have he := exec_refreshRows s.jointRows 0 s
  rw [exec_ok (refreshRows_aligned s.jointRows 0 s h.rows)] at he
  exact (congrArg Plugin.jointPos he).symm

/-- After the refresh of a reachable state every joint is `Echoed`: a row's
joint by the echo, any other joint because it has no command. -/
theorem echoed_refresh {s : Plugin} (hj : JointInv s) (hc : CmdInv s) (n : String) :
    Echoed (refreshedPos s.jointNames s.jointRows 0 s.jointPos) n := by
  rw [refreshedPos_eq_foldl hj]
  refine echoed_foldl _ (or_iff_not_imp_right.2 fun hn p _ => ?_)
  rcases hcmd : (s.jointPos.get? n).bind (·.command) with _ | q
  · rfl
  · exact absurd (hc n (by simp [hcmd])) hn

theorem feedback_of_posFrame {s t : Plugin} (h : PosFrame s.jointPos t.jointPos) (n : String) :
    feedback t n = feedback s n := by
  have hn := h.2 n
  unfold feedback
  revert hn
  rcases t.jointPos.get? n <;> rcases s.jointPos.get? n <;> simp
  exact fun h => by rw [h]

/-! ## The first command after the click -/

theorem target_of_echoed {t : Plugin} {n : String} (he : Echoed t.jointPos n)
    (hp : ((t.jointPos.get? n).bind (·.position)).isSome) : target t n = feedback t n := by
  obtain ⟨p, hp⟩ := Option.isSome_iff_exists.1 hp
  simp only [target, feedback, hp, Option.getD_some]
  exact he p hp

theorem minTrajDur_pos : 0 < minTrajDur := div_pos (by decide) (by decide)

theorem jointDuration_of_target {t : Plugin} {n : String} (h : target t n = feedback t n) :
    jointDuration t n = minTrajDur := by
  simp only [jointDuration, h, sub_self, abs_zero, zero_div]
  exact max_eq_right minTrajDur_pos.le

/-- When every joint is `Echoed`, a command to ready joints sends each where it
is, in `_min_traj_dur` scaled by the speed. -/
theorem specTrajectory_of_echoed {t : Plugin} (he : ∀ n, Echoed t.jointPos n)
    (hr : ∀ n ∈ t.jointNames, JointReady t n) :
    specTrajectory t =
      ⟨t.jointNames, [⟨t.jointNames.map (feedback t), minTrajDur / t.speedScale⟩]⟩ := by
  have ht : ∀ n ∈ t.jointNames, target t n = feedback t n := fun n hn =>
    target_of_echoed (he n) (hr n hn).1
  have hd : (t.jointNames.map (jointDuration t)).foldl max minTrajDur = minTrajDur := by
    refine le_antisymm (foldl_max_le le_rfl fun x hx => ?_) (le_foldl_max _ _).1
    obtain ⟨n, hn, rfl⟩ := List.mem_map.1 hx
    exact (jointDuration_of_target (ht n hn)).le
  simp only [specTrajectory, specDuration, hd, List.map_congr_left ht]

/-- **Entering control mode holds the joints.**  From a reachable state in
monitor mode, when `_update_act_pos_timer` fires, the button is clicked and
`_update_cmd_timer` fires, the command sent, if any, goes on `_cmd_pub` and
sends every joint to its feedback position, in `_min_traj_dur` scaled by the
speed: the switch does not move the robot. -/
theorem control_starts_at_feedback {s : Plugin} (hs : Reachable s)
    (hmon : s.updateActPosTimer = true) :
    let u := s.run [.actPosTimeout, .enableClicked, .cmdTimeout]
    u.published = s.published ∨
      ∃ p, s.cmdPub = some p ∧ u.published = s.published ++
        [(p, ⟨s.jointNames, [⟨s.jointNames.map (feedback s), minTrajDur / s.speedScale⟩]⟩)] := by
  intro u
  let r : Plugin := { s with jointPos := refreshedPos s.jointNames s.jointRows 0 s.jointPos }
  have hr : s.step .actPosTimeout = r := by
    show (if s.updateActPosTimer then exec updateJointWidgets s else s) = r
    rw [if_pos hmon, exec_updateJointWidgets]
  have hu : u = r.click.step .cmdTimeout := by
    simp only [u, run_cons, run_nil, hr, step_enableClicked]
  obtain ⟨hpos, hnames, hscale, hpub, hcmd⟩ : r.click.jointPos = r.jointPos ∧
      r.click.jointNames = s.jointNames ∧ r.click.speedScale = s.speedScale ∧
      r.click.published = s.published ∧ r.click.cmdPub = s.cmdPub := by
    rw [click_eq]; exact ⟨rfl, rfl, rfl, rfl, rfl⟩
  rcases published_step r.click .cmdTimeout with h | ⟨-, -, p, hp, -, hready, -, hstep⟩
  · exact .inl (by rw [hu, h, hpub])
  have he : ∀ n, Echoed r.click.jointPos n := fun n => by
    rw [hpos]
    exact echoed_refresh (jointInv_of_reachable hs) (cmdInv_of_reachable hs) n
  have hf : ∀ n, feedback r.click n = feedback s n := fun n =>
    feedback_of_posFrame (hpos ▸ posFrame_refreshedPos _ _ _ _) n
  refine .inr ⟨p, hcmd ▸ hp, ?_⟩
  rw [hu, hstep, specTrajectory_of_echoed he hready, hpub, hnames, hscale,
    List.map_congr_left fun n _ => hf n]

/-- Feedback at `0` for the joint of `a`, then the refresh, a click and a
command tick. -/
theorem control_starts_after_feedback :
    let ctrl : ControllerInfo := ⟨"a", "JointTrajectoryController", "active", ["j/position"]⟩
    let s := (init 100).run [.cmChange "/cm" ⟨[ctrl], fun _ => PyDict.empty.set "j" ⟨-1, 1, 1⟩⟩,
      .jtcChange "a" ⟨[ctrl], none⟩, .stateMessage 0 ⟨["j"], [0]⟩, .jointStateDelivered]
    (Reachable s ∧ s.updateActPosTimer = true) ∧
      ((s.run [.actPosTimeout, .enableClicked, .cmdTimeout]).published = s.published ∨
        ∃ p, s.cmdPub = some p ∧ (s.run [.actPosTimeout, .enableClicked, .cmdTimeout]).published =
          s.published ++
            [(p, ⟨s.jointNames, [⟨s.jointNames.map (feedback s), minTrajDur / s.speedScale⟩]⟩)]) := by
  intro ctrl s
  have hs : Reachable s := reachable_run 100 _
  have hm : s.updateActPosTimer = true := by decide
  exact ⟨⟨hs, hm⟩, control_starts_at_feedback hs hm⟩

end Plugin
end RqtJtc
