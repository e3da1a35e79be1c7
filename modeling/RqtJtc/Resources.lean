import RqtJtc.Mode

/-!
# Unload before load

A controller's ROS interfaces are a `controller_state` subscription and a
`joint_trajectory` publisher on the node, a connection of `jointStateChanged`,
and an executor spinning the node on a thread.  `ResInv` says the plugin holds
a handle to each of them that is live: the node's live subscriptions are exactly
`_state_sub`, its publishers exactly `_cmd_pub`, a running thread is
`_executor_thread` with `_executor` set, and there is at most one connection.
So `_unload_jtc` reaches everything that is live, and after it, whether or not
its `join()` raises, nothing is.

## Main statements

* `resInv_of_reachable` — the invariant on every run.
* `released_unloadJtc` — nothing is live after `_unload_jtc`.
* `resources_single_and_released` — at most one of each, nothing left after
  `_unload_jtc` or `shutdown_plugin`, and only fresh ones after a selection.
-/

namespace RqtJtc
namespace Plugin

/-- The executor thread a running thread must be: started, and with `_executor`
set, so that `_unregister_executor` joins it. -/
def liveThread (s : Plugin) : List Nat :=
  match s.executor, s.executorThread with
  | some _, some t => if t.started then [t.id] else []
  | _, _ => []

/-- The resource invariant. -/
structure ResInv (s : Plugin) : Prop where
  subs : s.subscriptions.map Prod.fst = s.stateSub.toList
  pubs : s.publishers.map Prod.fst = s.cmdPub.toList
  running : s.running.Sublist s.liveThread
  conn : s.stateConnections ≤ 1

/-- No controller interface is live or referenced. -/
structure Released (s : Plugin) : Prop where
  subs : s.subscriptions = []
  stateSub : s.stateSub = none
  pubs : s.publishers = []
  cmdPub : s.cmdPub = none
  running : s.running = []
  conn : s.stateConnections = 0

theorem liveThread_length_le (s : Plugin) : s.liveThread.length ≤ 1 := by
  unfold liveThread; split
  · split <;> simp
  · simp

theorem ResInv.running_length_le {s : Plugin} (h : ResInv s) : s.running.length ≤ 1 :=
  h.running.length_le.trans (liveThread_length_le s)

theorem ResInv.subs_length_le {s : Plugin} (h : ResInv s) : s.subscriptions.length ≤ 1 := by
  have := congrArg List.length h.subs
  rw [List.length_map] at this
  rw [this]; cases s.stateSub <;> simp

theorem ResInv.pubs_length_le {s : Plugin} (h : ResInv s) : s.publishers.length ≤ 1 := by
  have := congrArg List.length h.pubs
  rw [List.length_map] at this
  rw [this]; cases s.cmdPub <;> simp

theorem Released.stateConns_eq_nil {s : Plugin} (h : Released s) : s.stateConns = [] :=
  List.length_eq_zero.1 h.conn

theorem Released.resInv {s : Plugin} (h : Released s) : ResInv s :=
  ⟨by simp [h.subs, h.stateSub], by simp [h.pubs, h.cmdPub], by simp [h.running],
    by simp [h.conn]⟩

/-- The fields `ResInv` reads. -/
structure ResFields where
  subscriptions : List (Nat × String)
  stateSub : Option Nat
  publishers : List (Nat × String)
  cmdPub : Option Nat
  running : List Nat
  stateConns : List Nat
  executor : Option Nat
  executorThread : Option PyThread
  nextHandle : Nat

/-- The resource fields of a state. -/
def resFields (s : Plugin) : ResFields :=
  ⟨s.subscriptions, s.stateSub, s.publishers, s.cmdPub, s.running, s.stateConns,
    s.executor, s.executorThread, s.nextHandle⟩

theorem ResInv.of_resFields {s t : Plugin} (h : ResInv s) (e : resFields t = resFields s) :
    ResInv t := by
  have hs : t.subscriptions = s.subscriptions := congrArg ResFields.subscriptions e
  have hq : t.stateSub = s.stateSub := congrArg ResFields.stateSub e
  have hp : t.publishers = s.publishers := congrArg ResFields.publishers e
  have hc : t.cmdPub = s.cmdPub := congrArg ResFields.cmdPub e
  have hr : t.running = s.running := congrArg ResFields.running e
  have hn : t.stateConnections = s.stateConnections :=
    congrArg (List.length ∘ ResFields.stateConns) e
  have hl : t.liveThread = s.liveThread := by
    simp only [liveThread, show t.executor = s.executor from congrArg ResFields.executor e,
      show t.executorThread = s.executorThread from congrArg ResFields.executorThread e]
  exact ⟨by rw [hs, hq]; exact h.subs, by rw [hp, hc]; exact h.pubs,
    by rw [hr, hl]; exact h.running, by rw [hn]; exact h.conn⟩

theorem Released.of_resFields {s t : Plugin} (h : Released s) (e : resFields t = resFields s) :
    Released t where
  subs := (congrArg ResFields.subscriptions e).trans h.subs
  stateSub := (congrArg ResFields.stateSub e).trans h.stateSub
  pubs := (congrArg ResFields.publishers e).trans h.pubs
  cmdPub := (congrArg ResFields.cmdPub e).trans h.cmdPub
  running := (congrArg ResFields.running e).trans h.running
  conn := (congrArg (List.length ∘ ResFields.stateConns) e).trans h.conn

theorem resFields_of_control {s t : Plugin} (e : control t = control s) :
    resFields t = resFields s :=
  congrArg (fun c : Control => (⟨c.subscriptions, c.stateSub, c.publishers, c.cmdPub, c.running,
    c.stateConns, c.executor, c.executorThread, c.nextHandle⟩ : ResFields)) e

theorem resFields_uncheck (s : Plugin) : resFields s.uncheck = resFields s := by
  unfold uncheck; split_ifs <;> rfl

theorem resFields_click (s : Plugin) : resFields s.click = resFields s := by
  unfold click; split_ifs
  · exact resFields_uncheck s
  · rfl
  · rfl

/-- A filter that removes every element whose first component a list of keys
names, when the keys are all the list has. -/
private theorem filter_keys_eq_nil {l : List (Nat × String)} {h : Option Nat}
    (hk : l.map Prod.fst = h.toList) : l.filter (fun p => h ≠ some p.1) = [] := by
  rw [List.filter_eq_nil_iff]
  intro p hp
  have : p.1 ∈ h.toList := hk ▸ List.mem_map_of_mem _ hp
  simp_all [Option.mem_toList]

/-! ## Unloading and shutdown -/

/-- When `join()` raises there is no running thread. -/
theorem running_of_joinRaises {s : Plugin} (hr : s.running.Sublist s.liveThread)
    (hj : s.joinRaises = true) : s.running = [] := by
  unfold joinRaises at hj
  unfold liveThread at hr
  rcases he : s.executor with _ | e
  · simp [he] at hj
  · rcases ht : s.executorThread with _ | ⟨t, _ | _⟩
    · simp_all
    · simp_all
    · simp [he, ht] at hj

/-- When `join()` returns, it has joined the running thread. -/
theorem running_joined {s : Plugin} (hr : s.running.Sublist s.liveThread)
    (hj : s.joinRaises = false) : s.joined.running = [] := by
  unfold joinRaises at hj
  unfold liveThread at hr
  unfold joined
  rcases he : s.executor with _ | e
  · simp_all
  · rcases ht : s.executorThread with _ | ⟨t, _ | _⟩
    · simp [he, ht] at hj
    · simp [he, ht] at hj
    · simp only [he, ht, if_true] at hr ⊢
      rcases List.sublist_singleton.mp hr with h0 | h1
      · simp [h0]
      · simp [h1]

/-- `_unregister_executor`, whether `join()` raises or returns, leaves no
running thread. -/
theorem running_unregisterExecutor {s : Plugin} (hr : s.running.Sublist s.liveThread) :
    (if s.joinRaises then s else s.joined).running = [] := by
  by_cases hj : s.joinRaises
  · rw [if_pos hj]; exact running_of_joinRaises hr hj
  · rw [if_neg hj]; exact running_joined hr (by simpa using hj)

/-- **Nothing is live after `_unload_jtc`**, whether or not `join()` raises. -/
theorem released_unloadJtc {s : Plugin} (h : ResInv s) : Released (exec unloadJtc s) := by
  have hrun := running_unregisterExecutor (s := s.releaseInterfaces) h.running
  have hconn : s.releaseInterfaces.stateConnections = 0 := by
    have := h.conn
    simp only [Plugin.stateConnections, releaseInterfaces, List.length_tail] at this ⊢; omega
  have hs := filter_keys_eq_nil h.subs
  have hp := filter_keys_eq_nil h.pubs
  rw [exec_unloadJtc]
  by_cases hj : s.releaseInterfaces.joinRaises
  · rw [if_pos hj] at hrun ⊢
    exact ⟨hs, rfl, hp, rfl, hrun, hconn⟩
  · rw [if_neg hj] at hrun ⊢
    refine Released.of_resFields ?_ (resFields_uncheck _)
    rw [joined_eq] at hrun ⊢
    exact ⟨hs, rfl, hp, rfl, hrun, hconn⟩

/-- `shutdown_plugin` leaves no subscription, publisher or running thread. -/
theorem ResInv.shutdownPlugin {s : Plugin} (h : ResInv s) :
    let s' := exec shutdownPlugin s
    ResInv s' ∧ s'.subscriptions = [] ∧ s'.publishers = [] ∧ s'.running = [] := by
  have hrun := running_unregisterExecutor (s := s.stopped) h.running
  have hs := filter_keys_eq_nil h.subs
  have hp := filter_keys_eq_nil h.pubs
  have hst : ResInv s.stopped :=
    ⟨congrArg (List.map Prod.fst) hs, congrArg (List.map Prod.fst) hp, h.running, h.conn⟩
  rw [exec_shutdownPlugin]
  by_cases hj : s.stopped.joinRaises
  · rw [if_pos hj] at hrun ⊢
    exact ⟨hst, hs, hp, hrun⟩
  · rw [if_neg hj] at hrun ⊢
    rw [joined_eq] at hrun ⊢
    exact ⟨⟨hst.subs, hst.pubs, hrun ▸ List.nil_sublist _, h.conn⟩, hs, hp, hrun⟩

/-! ## Loading -/

/-- Every live interface has a handle of at least `n`: none was created before
the handle counter reached `n`. -/
def FreshFrom (n : Nat) (s : Plugin) : Prop :=
  (∀ p ∈ s.subscriptions, n ≤ p.1) ∧ (∀ p ∈ s.publishers, n ≤ p.1) ∧ ∀ t ∈ s.running, n ≤ t

theorem Released.freshFrom {s : Plugin} (h : Released s) (n : Nat) : FreshFrom n s := by
  simp [FreshFrom, h.subs, h.pubs, h.running]

theorem resFields_withJoints (s : Plugin) (r : LoadedJtc) :
    resFields (s.withJoints r) = resFields s := rfl

/-- `# Setup ROS interfaces` from nothing live: whichever call raises, only the
interfaces it created are live. -/
theorem Released.resInv_rosStage {u : Plugin} (h : Released u) (ns : String) (f : Option LoadFault) :
    ResInv (u.rosStage ns f) ∧ FreshFrom u.nextHandle (u.rosStage ns f) := by
  rcases f with _ | _ | _ | _ | _ | _ <;>
    simp only [rosStage, subscribe, advertise, connect, newExecutor, newThread, startThread] <;>
    refine ⟨⟨?_, ?_, ?_, ?_⟩, ?_, ?_, ?_⟩
  all_goals simp +arith [liveThread, Plugin.stateConnections, h.subs, h.stateSub, h.pubs, h.cmdPub,
    h.running, h.stateConns_eq_nil]

/-- `_load_jtc` from nothing live creates only fresh interfaces and keeps the
invariant, wherever it raises. -/
theorem Released.resInv_loadJtc {t : Plugin} (h : Released t) (hn : t.jtcName ≠ "") (env : LoadEnv) :
    ResInv (exec (loadJtc env) t) ∧ FreshFrom t.nextHandle (exec (loadJtc env) t) := by
  rw [exec_loadJtc env t hn]
  split
  · exact ⟨h.resInv, h.freshFrom _⟩
  · split
    · exact ⟨h.resInv, h.freshFrom _⟩
    · rename_i info _
      have hw : Released (t.withJoints ⟨env.listing, info, t.cmNs⟩) :=
        h.of_resFields (resFields_withJoints _ _)
      obtain ⟨h1, h2⟩ := hw.resInv_rosStage (controllerNs t.cmNs t.jtcName) env.fault
      split
      · exact ⟨h1.of_resFields rfl, h2⟩
      · exact ⟨h1, h2⟩

/-- **`_on_jtc_change` keeps the invariant, and every interface live after it
was created by it.** -/
theorem ResInv.jtcChange {s : Plugin} (h : ResInv s) (name : String) (env : LoadEnv) :
    ResInv (exec (onJtcChange name env) s) ∧
      FreshFrom s.nextHandle (exec (onJtcChange name env) s) := by
  have hu := released_unloadJtc h
  rw [exec_unloadJtc] at hu
  rw [exec_onJtcChange]
  split
  · rw [if_pos ‹_›] at hu
    exact ⟨hu.resInv, hu.freshFrom _⟩
  · rw [if_neg ‹_›] at hu
    have hn : s.releaseInterfaces.joined.clearJoints.nextHandle = s.nextHandle := by
      rw [clearJoints, uncheck_eq, joined_eq]; rfl
    have ht : Released { s.releaseInterfaces.joined.clearJoints with jtcName := name } :=
      hu.of_resFields rfl
    split
    · exact ⟨ht.resInv, ht.freshFrom _⟩
    · rw [← hn]; exact ht.resInv_loadJtc ‹_› env

/-! ## Runs -/

theorem ResInv.step {s : Plugin} (h : ResInv s) (e : Event) : ResInv (s.step e) := by
  by_cases hp : e.IsPassive
  · exact h.of_resFields (resFields_of_control (control_step hp s))
  · cases e with
    | jtcChange name env => exact (h.jtcChange name env).1
    | enableClicked => rw [step_enableClicked]; exact h.of_resFields (resFields_click s)
    | shutdownPlugin => exact h.shutdownPlugin.1
    | stateMessage sub msg =>
      rcases stateMessage_cases sub msg s with ⟨q, he⟩ | he <;> rw [he]
      · exact h.of_resFields rfl
      · exact ⟨h.subs, h.pubs, List.nil_sublist _, h.conn⟩
    | _ => exact absurd trivial hp

theorem released_init (m : ℚ) : Released (init m) := ⟨rfl, rfl, rfl, rfl, rfl, rfl⟩

/-- **The resource invariant holds on every run.** -/
theorem resInv_of_reachable {s : Plugin} (h : Reachable s) : ResInv s := by
  induction h with
  | init m => exact (released_init m).resInv
  | step e _ _ ih => exact ih.step e

/-- **Unload before load.**  In every reachable state at most one subscription,
publisher, running executor thread and connection is live; `_unload_jtc` leaves
none of them live, whether or not it raises; after `_on_jtc_change` every live
one was created by it; and `shutdown_plugin` leaves no subscription, publisher or
running thread. -/
theorem resources_single_and_released {s : Plugin} (hs : Reachable s) :
    (s.subscriptions.length ≤ 1 ∧ s.publishers.length ≤ 1 ∧ s.running.length ≤ 1 ∧
      s.stateConnections ≤ 1) ∧
    Released (exec unloadJtc s) ∧
    (∀ name env, FreshFrom s.nextHandle (s.step (.jtcChange name env))) ∧
    ((exec shutdownPlugin s).subscriptions = [] ∧ (exec shutdownPlugin s).publishers = [] ∧
      (exec shutdownPlugin s).running = []) := by
  have h := resInv_of_reachable hs
  exact ⟨⟨h.subs_length_le, h.pubs_length_le, h.running_length_le, h.conn⟩, released_unloadJtc h,
    fun name env => (h.jtcChange name env).2, h.shutdownPlugin.2⟩

/-- A run that binds a controller, and the teardown after it. -/
theorem released_after_bind :
    let ctrl : ControllerInfo := ⟨"a", "JointTrajectoryController", "active", ["j/position"]⟩
    let s := (init 100).run [.cmChange "/cm" ⟨[ctrl], fun _ => PyDict.empty.set "j" ⟨-1, 1, 1⟩⟩,
      .jtcChange "a" ⟨[ctrl], none⟩]
    Reachable s ∧ Released (exec unloadJtc s) := by
  intro ctrl s
  exact ⟨reachable_run 100 _, (resources_single_and_released (reachable_run 100 _)).2.1⟩

end Plugin
end RqtJtc
