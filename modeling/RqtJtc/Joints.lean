import RqtJtc.Discovery

/-!
# Joint data and the editor rows

`_load_jtc` sets `_joint_names` to a controller's joints, gives `_joint_pos` an
entry for each, and adds one `DoubleEditor` row per joint, built from the
joint's cached limits, until the first joint without limits (the `KeyError` of
the widget loop is swallowed).  `_update_joint_widgets` finds row `i`'s joint as
`_joint_names[i]`, and a row's `valueChanged` writes the command of the joint the
row was built for.  `JointInv` says these agree: the names are distinct,
`_joint_pos` has exactly their entries, in order, and the rows' joints are a
prefix of the names, each row with the cached limits of its joint.

## Main statements

* `jointInv_of_reachable` — the invariant on every run.
* `refreshRows_aligned` — `_update_joint_widgets` on aligned rows: no
  `IndexError`, and each row echoes its own joint's position.
* `joints_aligned` — both, in every reachable state.
-/

namespace RqtJtc
namespace Plugin

/-- The echo of one row in `_update_joint_widgets`: `setValue` with the position
of the row's joint, which `valueChanged` writes back as that joint's command. -/
def echoPosition (pos : PyDict JointData) (name : String) : PyDict JointData :=
  match (pos.get? name).bind (·.position) with
  | none => pos
  | some p => setCommand pos name p

/-- The alignment invariant of joint data and editor rows. -/
structure JointInv (s : Plugin) : Prop where
  nodup : s.jointNames.Nodup
  keys : s.jointPos.keys = s.jointNames
  rows : s.jointRows.map (·.name) <+: s.jointNames
  limits : ∀ r ∈ s.jointRows, s.robotJointLimits.get? r.name = some r.limits

/-- The invariant carries over when the names, keys and rows are kept, and the
cache too unless there are no rows. -/
theorem JointInv.of_frame {s t : Plugin} (h : JointInv s) (hn : t.jointNames = s.jointNames)
    (hk : t.jointPos.keys = s.jointPos.keys)
    (hr : t.jointRows.map (fun r => (r.name, r.limits)) = s.jointRows.map (fun r => (r.name, r.limits)))
    (hc : t.robotJointLimits = s.robotJointLimits ∨ s.jointRows = []) : JointInv t := by
  have hnames : t.jointRows.map (·.name) = s.jointRows.map (·.name) := by
    simpa [List.map_map, Function.comp_def] using congrArg (List.map Prod.fst) hr
  have hmem : ∀ r ∈ t.jointRows, ∃ r' ∈ s.jointRows, r'.name = r.name ∧ r'.limits = r.limits := by
    intro r hr'
    have : (r.name, r.limits) ∈ s.jointRows.map (fun r => (r.name, r.limits)) :=
      hr ▸ List.mem_map_of_mem _ hr'
    simpa using this
  refine ⟨hn ▸ h.nodup, hk.trans (h.keys.trans hn.symm), hn ▸ hnames ▸ h.rows, fun r hr' => ?_⟩
  obtain ⟨r', hr's, hname, hlim⟩ := hmem r hr'
  rcases hc with hc | hc
  · rw [hc, ← hname, ← hlim]; exact h.limits r' hr's
  · simp [hc] at hr's

theorem map_nameLimits_enterMode (s : Plugin) (v : Bool) :
    (s.enterMode v).jointRows.map (fun r => (r.name, r.limits)) =
      s.jointRows.map (fun r => (r.name, r.limits)) := by
  simp [enterMode, List.map_map, Function.comp_def]

theorem JointInv.uncheck {s : Plugin} (h : JointInv s) : JointInv s.uncheck := by
  unfold Plugin.uncheck
  split_ifs
  · exact h.of_frame rfl rfl rfl (.inl rfl)
  · exact h.of_frame rfl rfl (map_nameLimits_enterMode _ _) (.inl rfl)
  · exact h

theorem JointInv.click {s : Plugin} (h : JointInv s) : JointInv s.click := by
  unfold Plugin.click
  split_ifs
  · exact h.uncheck
  · exact h
  · exact h.of_frame rfl rfl (map_nameLimits_enterMode _ _) (.inl rfl)

/-! ## Loading -/

theorem jointRowsFor_prefix (limits : PyDict JointLimits) (names : List String) :
    (jointRowsFor limits names).map (·.name) <+: names := by
  induction names with
  | nil => exact List.nil_prefix
  | cons n ns ih =>
    simp only [jointRowsFor]
    split
    · exact List.nil_prefix
    · exact List.cons_prefix_cons.2 ⟨rfl, ih⟩

theorem jointRowsFor_limits (limits : PyDict JointLimits) (names : List String) :
    ∀ r ∈ jointRowsFor limits names, limits.get? r.name = some r.limits := by
  induction names with
  | nil => simp [jointRowsFor]
  | cons n ns ih =>
    simp only [jointRowsFor]
    split
    · simp
    · rename_i l h
      simpa [h] using ih

/-- No joint data and no rows: what a completed `_unload_jtc` leaves. -/
structure NoJoints (s : Plugin) : Prop where
  names : s.jointNames = []
  pos : s.jointPos = PyDict.empty
  rows : s.jointRows = []

theorem NoJoints.jointInv {s : Plugin} (h : NoJoints s) : JointInv s :=
  ⟨by simp [h.names], by simp [h.names, h.pos], by simp [h.names, h.rows], by simp [h.rows]⟩

theorem noJoints_clearJoints (s : Plugin) : NoJoints s.clearJoints := by
  unfold clearJoints Plugin.uncheck
  split_ifs <;> exact ⟨rfl, rfl, rfl⟩

/-- The joint data and rows `_load_jtc` builds from nothing are aligned. -/
theorem NoJoints.withJoints {t : Plugin} (h : NoJoints t) (r : LoadedJtc) :
    JointInv (t.withJoints r) := by
  have hn := jtcJointNames_nodup r.info
  refine ⟨hn, ?_, ?_, ?_⟩
  · show (List.foldl _ t.jointPos _).keys = _
    rw [h.pos, PyDict.keys_foldl_set _ _ _ (by simpa using hn), PyDict.keys_empty, List.nil_append]
    rfl
  · show ((t.jointRows ++ jointRowsFor t.robotJointLimits _).map
      fun r => { r with enabled := false }).map (·.name) <+: _
    simpa [h.rows, List.map_map, Function.comp_def] using
      jointRowsFor_prefix t.robotJointLimits (jtcJointNames r.info)
  · show ∀ r ∈ (t.jointRows ++ jointRowsFor t.robotJointLimits _).map
      (fun r => { r with enabled := false }), t.robotJointLimits.get? r.name = some r.limits
    simpa [h.rows] using jointRowsFor_limits t.robotJointLimits (jtcJointNames r.info)

theorem JointInv.rosStage {u : Plugin} (h : JointInv u) (ns : String) (f : Option LoadFault) :
    JointInv (u.rosStage ns f) := by
  have : (u.rosStage ns f).jointNames = u.jointNames ∧ (u.rosStage ns f).jointPos = u.jointPos ∧
      (u.rosStage ns f).jointRows = u.jointRows ∧
      (u.rosStage ns f).robotJointLimits = u.robotJointLimits := by
    rcases f with _ | _ | _ | _ | _ | _ <;> simp only [Plugin.rosStage, subscribe, advertise,
      connect, newExecutor, newThread, startThread, and_self]
  obtain ⟨h1, h2, h3, h4⟩ := this
  exact h.of_frame h1 (by rw [h2]) (by rw [h3]) (.inl h4)

/-- `_load_jtc` from no joint data leaves its joint data and rows aligned,
wherever it raises. -/
theorem NoJoints.loadJtc {t : Plugin} (h : NoJoints t) (hn : t.jtcName ≠ "") (env : LoadEnv) :
    JointInv (exec (loadJtc env) t) := by
  rw [exec_loadJtc env t hn]
  split
  · exact h.jointInv
  · split
    · exact h.jointInv
    · rename_i info _
      have hw := (h.withJoints ⟨env.listing, info, t.cmNs⟩).rosStage
        (controllerNs t.cmNs t.jtcName) env.fault
      generalize (t.withJoints ⟨env.listing, info, t.cmNs⟩).rosStage
        (controllerNs t.cmNs t.jtcName) env.fault = s' at hw ⊢
      split
      · exact hw.of_frame rfl rfl rfl (.inl rfl)
      · exact hw

/-- `_on_jtc_change` keeps the joint data and rows aligned. -/
theorem JointInv.jtcChange {s : Plugin} (h : JointInv s) (name : String) (env : LoadEnv) :
    JointInv (exec (onJtcChange name env) s) := by
  rw [exec_onJtcChange]
  split
  · exact h.of_frame rfl rfl rfl (.inl rfl)
  · have hc : NoJoints { s.releaseInterfaces.joined.clearJoints with jtcName := name } :=
      let h := noJoints_clearJoints s.releaseInterfaces.joined
      ⟨h.names, h.pos, h.rows⟩
    split
    · exact hc.jointInv
    · exact hc.loadJtc ‹_› env

/-! ## Runs -/

/-- A cache that a poll primes was empty, so there were no rows. -/
theorem JointInv.rows_of_isEmpty {s : Plugin} (h : JointInv s)
    (he : s.robotJointLimits.isEmpty) : s.jointRows = [] := by
  rw [List.eq_nil_iff_forall_not_mem]
  intro r hr
  have := h.limits r hr
  rw [(PyDict.get?_eq_none _ _).2 (by simp [(PyDict.isEmpty_iff _).1 he])] at this
  exact absurd this (by simp)

theorem JointInv.step {s : Plugin} (h : JointInv s) (e : Event) : JointInv (s.step e) := by
  by_cases hp : e.IsPassive
  · have hc := control_step hp s
    have hr : (s.step e).jointRows = s.jointRows := congrArg Control.jointRows hc
    refine h.of_frame (congrArg Control.jointNames hc) (congrArg Control.jointKeys hc) (by rw [hr]) ?_
    rcases cacheFields_step s e with he | ⟨d, -, hd, -⟩
    · exact .inl (congrArg Prod.fst he)
    · exact .inr (h.rows_of_isEmpty hd)
  · cases e with
    | jtcChange name env => exact h.jtcChange name env
    | enableClicked => rw [step_enableClicked]; exact h.click
    | shutdownPlugin =>
      show JointInv (exec shutdownPlugin s)
      rw [exec_shutdownPlugin]
      split
      · exact h.of_frame rfl rfl rfl (.inl rfl)
      · rw [joined_eq]; exact h.of_frame rfl rfl rfl (.inl rfl)
    | stateMessage sub msg =>
      rcases stateMessage_cases sub msg s with ⟨q, he⟩ | he <;> rw [he] <;>
        exact h.of_frame rfl rfl rfl (.inl rfl)
    | _ => exact absurd trivial hp

/-- **The joint data and the editor rows are aligned on every run.** -/
theorem jointInv_of_reachable {s : Plugin} (h : Reachable s) : JointInv s := by
  induction h with
  | init m => exact NoJoints.jointInv ⟨rfl, rfl, rfl⟩
  | step e _ _ ih => exact ih.step e

/-! ## The refresh of the editors -/

/-- **`_update_joint_widgets` on rows whose joints are the names from `id` on**
returns, and echoes into each row the position of the row's own joint. -/
theorem refreshRows_aligned (rows : List JointRow) (id : Nat) (s : Plugin)
    (h : rows.map (·.name) <+: s.jointNames.drop id) :
    refreshRows rows id s =
      .ok () { s with jointPos := rows.foldl (fun pos r => echoPosition pos r.name) s.jointPos } := by
  induction rows generalizing id s with
  | nil => rfl
  | cons row rows ih =>
    obtain ⟨rest, hd⟩ := h
    have hid : s.jointNames[id]? = some row.name := by
      rw [← List.head?_drop, ← hd]; rfl
    have htail : rows.map (·.name) <+: s.jointNames.drop (id + 1) := by
      rw [← List.tail_drop, ← hd]; exact ⟨rest, rfl⟩
    simp only [refreshRows, run_bind, run_get, hid, List.foldl_cons]
    rcases hp : (s.jointPos.get? row.name).bind (·.position) with _ | p
    · have he : echoPosition s.jointPos row.name = s.jointPos := by simp only [echoPosition, hp]
      simp only [he, run_pure]
      exact ih (id + 1) s htail
    · have he : echoPosition s.jointPos row.name = setCommand s.jointPos row.name p := by
        simp only [echoPosition, hp]
      simp only [he, run_bind, emit_run, exec_updateSingleCmdCb]
      exact ih (id + 1) _ htail

/-- **Joint data and editors stay aligned.**  In every reachable state the joint
names are distinct, `_joint_pos` has an entry for exactly them, in order, row `i`
commands `_joint_names[i]` and was built with its cached limits, and
`_update_joint_widgets` never indexes past `_joint_names`: it returns, having
echoed into each row the position of the joint that row commands. -/
theorem joints_aligned {s : Plugin} (hs : Reachable s) :
    s.jointNames.Nodup ∧ s.jointPos.keys = s.jointNames ∧
    s.jointRows.map (·.name) <+: s.jointNames ∧
    (∀ r ∈ s.jointRows, s.robotJointLimits.get? r.name = some r.limits) ∧
    updateJointWidgets s =
      .ok () { s with jointPos := s.jointRows.foldl (fun pos r => echoPosition pos r.name) s.jointPos } := by
  have h := jointInv_of_reachable hs
  exact ⟨h.nodup, h.keys, h.rows, h.limits, refreshRows_aligned s.jointRows 0 s h.rows⟩

/-- A run that binds a controller with two joints. -/
theorem joints_aligned_after_bind :
    let ctrl : ControllerInfo :=
      ⟨"a", "JointTrajectoryController", "active", ["j1/position", "j2/position"]⟩
    let s := (init 100).run [.cmChange "/cm" ⟨[ctrl], fun _ =>
        (PyDict.empty.set "j1" ⟨-1, 1, 1⟩).set "j2" ⟨-1, 1, 1⟩⟩,
      .jtcChange "a" ⟨[ctrl], none⟩]
    (Reachable s ∧ s.jointNames = ["j1", "j2"] ∧ s.jointRows.map (·.name) = s.jointNames) ∧
      s.jointRows.map (·.name) <+: s.jointNames := by
  intro ctrl s
  exact ⟨⟨reachable_run 100 _, by decide, by decide⟩, (joints_aligned (reachable_run 100 _)).2.2.1⟩

end Plugin
end RqtJtc
