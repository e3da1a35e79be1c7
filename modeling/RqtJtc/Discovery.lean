import RqtJtc.Effects

/-!
# Discovery: the joint-limits cache and the controller list

`_update_jtc_list` runs on its timer and on every change of controller manager.
It calls `get_joint_limits` only to prime an empty `_robot_joint_limits` from a
nonempty list of running controllers, and offers, sorted, the running controllers
whose joints all have cached limits.  The ghost log `limitsQueries` records each
`get_joint_limits` call.

No other handler reads the controller listing's limits or writes the cache, so
the cache is written once: after the first poll that leaves it nonempty, no run
changes it or calls `get_joint_limits` again.

While the cache is empty, nothing is offered, even a running controller with no
joints, whose limits are vacuously complete.

## Main statements

* `cacheFields_step` — what one event does to the cache and the query log.
* `limits_written_once` — the cache is written once.
* `jtcCombo_updateJtcList` — the controllers a poll offers.
* `jtcCombo_empty_with_jointless_controller` — an empty cache offers nothing.
-/

namespace RqtJtc

/-- `e` runs `_update_jtc_list` with the environment's answers `d`: a poll, or a
change of controller manager. -/
def Event.Polls (e : Event) (d : Discovery) : Prop :=
  e = .updateJtcList d ∨ ∃ cmNs, e = .cmChange cmNs d

namespace Plugin

/-- The joint-limits cache and the log of `get_joint_limits` calls. -/
def cacheFields (s : Plugin) : PyDict JointLimits × List (List String) :=
  (s.robotJointLimits, s.limitsQueries)

/-- `s'` holds the merge of the limits of `d`'s running controllers, a nonempty
list, primed into the empty cache of `s`, with one query per controller logged. -/
def Primed (d : Discovery) (s s' : Plugin) : Prop :=
  s.robotJointLimits.isEmpty ∧ runningJtc d.listing ≠ [] ∧
    cacheFields s' = (mergeLimits d.lookup (runningJtc d.listing),
      s.limitsQueries ++ (runningJtc d.listing).map jtcJointNames)

theorem cacheFields_primed (d : Discovery) (s : Plugin) :
    let s' := s.primed d.lookup (runningJtc d.listing)
    cacheFields s' = cacheFields s ∨ Primed d s s' := by
  unfold primed
  split
  · exact .inr ⟨‹_ ∧ _›.2, ‹_ ∧ _›.1, rfl⟩
  · exact .inl rfl

theorem cacheFields_updateJtcList (d : Discovery) (s : Plugin) :
    let s' := exec (updateJtcList d) s
    cacheFields s' = cacheFields s ∨ Primed d s s' := by
  simp only [exec, updateJtcList_run]
  split
  · exact .inl rfl
  · exact cacheFields_primed d s

theorem cacheFields_uncheck (s : Plugin) : cacheFields s.uncheck = cacheFields s := by
  unfold uncheck; split_ifs <;> rfl

theorem cacheFields_jtcChange (name : String) (env : LoadEnv) (s : Plugin) :
    cacheFields (exec (onJtcChange name env) s) = cacheFields s := by
  have hc : cacheFields s.releaseInterfaces.joined.clearJoints = cacheFields s := by
    rw [clearJoints, cacheFields_uncheck, joined_eq]; rfl
  rw [exec_onJtcChange]
  split
  · rfl
  · split
    · exact hc
    · rw [exec_loadJtc _ _ ‹_›]
      split
      · exact hc
      · split
        · exact hc
        · have hr : ∀ (u : Plugin) ns f, cacheFields (u.rosStage ns f) = cacheFields u := by
            intro u ns f
            rcases f with _ | _ | _ | _ | _ | _ <;> simp only [cacheFields, rosStage, subscribe,
              advertise, connect, newExecutor, newThread, startThread]
          split
          · exact (hr _ _ _).trans hc
          · exact (hr _ _ _).trans hc

theorem cacheFields_edit {e : Event} (he : e.IsEdit) (s : Plugin) :
    cacheFields (s.step e) = cacheFields s := by
  obtain ⟨_, _, _, h, -⟩ := edit_step he s
  rw [h]; rfl

/-- **One event either keeps the cache and the query log, or primes the empty
cache in a poll.** -/
theorem cacheFields_step (s : Plugin) (e : Event) :
    cacheFields (s.step e) = cacheFields s ∨ ∃ d, e.Polls d ∧ Primed d s (s.step e) := by
  cases e with
  | updateCmList => exact .inl rfl
  | updateJtcList d =>
    rcases cacheFields_updateJtcList d s with h | h
    · exact .inl h
    · exact .inr ⟨d, .inl rfl, h⟩
  | cmChange cmNs d =>
    simp only [step, exec, onCmChange_run]
    split
    · exact .inl rfl
    · rcases cacheFields_updateJtcList d
          { s with cmNs := cmNs, listControllers := some cmNs, jtcCombo := [] } with h | h
      · exact .inl h
      · exact .inr ⟨d, .inr ⟨cmNs, rfl⟩, h⟩
  | jtcChange name env => exact .inl (cacheFields_jtcChange name env s)
  | enableClicked => exact .inl (by rw [step_enableClicked, click_eq]; rfl)
  | stateMessage sub msg =>
    rcases stateMessage_cases sub msg s with ⟨q, h⟩ | h <;> rw [h] <;> exact .inl rfl
  | jointStateDelivered =>
    obtain ⟨l, h⟩ := delivered_step s
    exact .inl (by rw [h]; rfl)
  | shutdownPlugin =>
    refine .inl ?_
    show cacheFields (exec shutdownPlugin s) = _
    rw [exec_shutdownPlugin]
    split
    · rfl
    · rw [joined_eq]; rfl
  | editorChanged | speedScalingChanged | cmdTimeout | actPosTimeout =>
    exact .inl (cacheFields_edit (by trivial) s)

/-- A nonempty cache stays as it is, and no query is made, over every run. -/
theorem cacheFields_run_of_nonempty {s : Plugin} (h : s.robotJointLimits.isEmpty = false)
    (es : List Event) : cacheFields (s.run es) = cacheFields s := by
  induction es generalizing s with
  | nil => rfl
  | cons e es ih =>
    rcases cacheFields_step s e with he | ⟨d, -, hp, -⟩
    · have h' : (s.step e).robotJointLimits.isEmpty = false := by
        rw [show (s.step e).robotJointLimits = s.robotJointLimits from congrArg Prod.fst he, h]
      rw [run_cons, ih h', he]
    · simp [h] at hp

/-- **The joint-limits cache is written once.**  One event either keeps the cache
and the log of `get_joint_limits` calls, or is a poll that starts with the cache
empty and a nonempty list of running controllers, sets the cache to the merge of
their limits and calls `get_joint_limits` once for each of them; and once the
cache is nonempty, no run changes it or calls `get_joint_limits` again. -/
theorem limits_written_once (s : Plugin) (e : Event) (es : List Event) :
    ((s.step e).robotJointLimits = s.robotJointLimits ∧ (s.step e).limitsQueries = s.limitsQueries ∨
      ∃ d, e.Polls d ∧ s.robotJointLimits.isEmpty ∧ runningJtc d.listing ≠ [] ∧
        (s.step e).robotJointLimits = mergeLimits d.lookup (runningJtc d.listing) ∧
        (s.step e).limitsQueries = s.limitsQueries ++ (runningJtc d.listing).map jtcJointNames) ∧
    (s.robotJointLimits.isEmpty = false →
      (s.run es).robotJointLimits = s.robotJointLimits ∧ (s.run es).limitsQueries = s.limitsQueries) := by
  refine ⟨?_, fun h => by simpa [cacheFields] using cacheFields_run_of_nonempty h es⟩
  rcases cacheFields_step s e with h | ⟨d, hd, h1, h2, h3⟩
  · simp only [cacheFields, Prod.mk.injEq] at h
    exact .inl h
  · simp only [cacheFields, Prod.mk.injEq] at h3
    exact .inr ⟨d, hd, h1, h2, h3⟩

/-! ## The controller list -/

theorem mem_filter_hasLimits (limits : PyDict JointLimits) (running : List ControllerInfo)
    (name : String) :
    name ∈ (running.filter (hasLimits limits)).map (·.name) ↔
      ∃ c ∈ running, c.name = name ∧ ∀ j ∈ jtcJointNames c, j ∈ limits.keys := by
  simp only [List.mem_map, List.mem_filter, hasLimits, List.all_eq_true, decide_eq_true_eq]
  constructor
  · rintro ⟨c, ⟨hc, hl⟩, rfl⟩; exact ⟨c, hc, rfl, hl⟩
  · rintro ⟨c, hc, rfl, hl⟩; exact ⟨c, ⟨hc, hl⟩, rfl⟩

/-- **The controllers a poll offers**: sorted, each running controller whose
joints all have cached limits exactly once, and none while the cache, after
priming, is empty. -/
theorem jtcCombo_updateJtcList (d : Discovery) (s : Plugin) (h : s.listControllers.isSome) :
    let s' := exec (updateJtcList d) s
    s'.jtcCombo.Sorted (· ≤ ·) ∧
    s'.jtcCombo.Perm (if s'.robotJointLimits.isEmpty then []
      else ((runningJtc d.listing).filter (hasLimits s'.robotJointLimits)).map (·.name)) ∧
    ∀ name, name ∈ s'.jtcCombo ↔ s'.robotJointLimits.isEmpty = false ∧
      ∃ c ∈ runningJtc d.listing, c.name = name ∧
        ∀ j ∈ jtcJointNames c, j ∈ s'.robotJointLimits.keys := by
  have hn : s.listControllers.isNone = false := by simpa [Option.isNone_iff_eq_none,
    ← Option.isSome_iff_ne_none] using h
  simp only [exec, updateJtcList_run, hn, Bool.false_eq_true, if_false]
  have hp : ∀ l : List String, (pySorted l).Perm l := List.perm_insertionSort _
  refine ⟨List.sorted_insertionSort _ _, ?_, fun name => ?_⟩
  · unfold validJtc; split <;> simp [hp]
  · rw [(hp _).mem_iff]
    unfold validJtc
    split
    · simp_all
    · rw [mem_filter_hasLimits]; simp [*]

/-- A run in which the controller list is offered. -/
theorem jtcCombo_after_cmChange :
    let c : ControllerInfo := ⟨"a", "JointTrajectoryController", "active", ["j/position"]⟩
    let d : Discovery := ⟨[c], fun _ => PyDict.empty.set "j" ⟨-1, 1, 1⟩⟩
    let s := (init 1).step (.cmChange "/cm" d)
    s.listControllers.isSome ∧ (exec (updateJtcList d) s).jtcCombo.Sorted (· ≤ ·) := by
  intro c d s
  exact ⟨by decide, (jtcCombo_updateJtcList d s (by decide)).1⟩

/-- **An empty cache offers nothing**, even a running controller without joints,
all of whose (no) joints have cached limits. -/
theorem jtcCombo_empty_with_jointless_controller :
    let c : ControllerInfo := ⟨"a", "JointTrajectoryController", "active", []⟩
    let s := (init 1).step (.cmChange "/cm" ⟨[c], fun _ => PyDict.empty⟩)
    s.robotJointLimits.isEmpty = true ∧ s.jtcCombo = [] ∧
      pySorted (((runningJtc [c]).filter (hasLimits s.robotJointLimits)).map (·.name)) = ["a"] := by
  decide

end Plugin
end RqtJtc
