import RqtJtc.Publish
import RqtJtc.Feedback

/-!
# Executor threads that fail

`_load_jtc` sets `_executor` before `add_node` and `_executor_thread` before
`start()`.  When either call raises, `_executor` stays set with a thread that is
`None` or was never started, and `_unregister_executor` raises in `join()`
before it resets `_executor`.  Only `_load_jtc` and a `join()` that returns write
those two attributes, so from then on every `_unload_jtc` and `shutdown_plugin`
raises in the same place: `_on_jtc_change` never reaches
`self._jtc_name = jtc_name`, `_load_jtc` never runs again, and no executor
thread ever spins.  Each teardown still destroys the subscription and the
publisher before it raises, so after the first one the plugin never publishes a
command again.

An executor thread that runs dies when a callback raises: `_state_cb` on a
message with fewer positions than joint names raises `IndexError` out of
`spin`.  Only `_load_jtc` starts a thread, so until the next selection no
`controller_state` message is taken, and the only feedback left to apply is what
was queued before.

## Main definitions

* `Wedged` — `join()` raises and no executor thread runs.

## Main statements

* `wedged_forever` — the wedge holds on every later run and blocks every
  selection.
* `wedged_silent` — after one teardown, nothing is live and nothing is
  published, ever.
* `feedback_stops_after_short_message` — a short message ends the feedback
  until the next selection.
-/

namespace RqtJtc
namespace Plugin

/-- `_unregister_executor` raises in `join()`, and no executor thread runs. -/
structure Wedged (s : Plugin) : Prop where
  join : s.joinRaises = true
  running : s.running = []

/-- What a wedged plugin keeps: `_executor`, its thread and the selection. -/
structure WedgeFields where
  executor : Option Nat
  executorThread : Option PyThread
  jtcName : String

/-- The fields a wedged plugin keeps. -/
def wedgeFields (s : Plugin) : WedgeFields := ⟨s.executor, s.executorThread, s.jtcName⟩

theorem Wedged.of_frame {s t : Plugin} (h : Wedged s) (hf : wedgeFields t = wedgeFields s)
    (hr : t.running = []) : Wedged t := by
  have he : t.executor = s.executor := congrArg WedgeFields.executor hf
  have ht : t.executorThread = s.executorThread := congrArg WedgeFields.executorThread hf
  exact ⟨by simp only [joinRaises, he, ht]; exact h.join, hr⟩

/-- In a reachable state in which `join()` raises, no executor thread runs. -/
theorem wedged_of_reachable {s : Plugin} (hs : Reachable s) (hj : s.joinRaises = true) :
    Wedged s :=
  ⟨hj, running_of_joinRaises (resInv_of_reachable hs).running hj⟩

/-- A selection in a wedged plugin is the teardown up to `join()`, only. -/
theorem Wedged.step_jtcChange {s : Plugin} (h : Wedged s) (name : String) (env : LoadEnv) :
    s.step (.jtcChange name env) = s.releaseInterfaces := by
  show exec (onJtcChange name env) s = _
  rw [exec_onJtcChange, if_pos (show s.releaseInterfaces.joinRaises = true from h.join)]

/-- `shutdown_plugin` in a wedged plugin stops up to `join()`, only. -/
theorem Wedged.step_shutdownPlugin {s : Plugin} (h : Wedged s) :
    s.step .shutdownPlugin = s.stopped := by
  show exec shutdownPlugin s = _
  rw [exec_shutdownPlugin, if_pos (show s.stopped.joinRaises = true from h.join)]

/-- In a wedged plugin one event keeps `_executor`, its thread and the
selection, and runs no thread; it keeps `_cmd_pub` and `_state_sub`, or resets
both. -/
theorem Wedged.step {s : Plugin} (h : Wedged s) (e : Event) :
    Wedged (s.step e) ∧ wedgeFields (s.step e) = wedgeFields s ∧
      ((s.step e).cmdPub, (s.step e).stateSub) ∈ [(s.cmdPub, s.stateSub), (none, none)] := by
  by_cases hp : e.IsPassive
  · have hc := control_step hp s
    have hf : wedgeFields (s.step e) = wedgeFields s :=
      congrArg (fun c : Control => (⟨c.executor, c.executorThread, c.jtcName⟩ : WedgeFields)) hc
    have hr : (s.step e).running = s.running := congrArg Control.running hc
    have hcp : (s.step e).cmdPub = s.cmdPub := congrArg Control.cmdPub hc
    have hss : (s.step e).stateSub = s.stateSub := congrArg Control.stateSub hc
    exact ⟨h.of_frame hf (hr.trans h.running), hf, by simp [hcp, hss]⟩
  cases e with
  | jtcChange name env =>
    rw [h.step_jtcChange]
    exact ⟨h.of_frame rfl h.running, rfl, by simp [releaseInterfaces]⟩
  | enableClicked =>
    rw [step_enableClicked, click_eq]
    exact ⟨h.of_frame rfl h.running, rfl, by simp⟩
  | shutdownPlugin =>
    rw [h.step_shutdownPlugin]
    exact ⟨h.of_frame rfl h.running, rfl, by simp [stopped]⟩
  | stateMessage sub msg =>
    rcases stateMessage_cases sub msg s with ⟨q, he⟩ | he <;> rw [he]
    · exact ⟨h.of_frame rfl h.running, rfl, by simp⟩
    · exact ⟨h.of_frame rfl rfl, rfl, by simp⟩
  | _ => exact absurd trivial hp

/-- Without a publisher, nothing is published. -/
theorem published_step_of_none {s : Plugin} (hp : s.cmdPub = none) (e : Event) :
    (s.step e).published = s.published := by
  rcases published_step s e with h | ⟨-, -, p, hp', -⟩
  · exact h
  · exact absurd (hp.symm.trans hp') (by simp)

/-- Over a run, a wedged plugin stays wedged with the same `_executor`, thread
and selection; once `_cmd_pub` and `_state_sub` are reset they stay so, and
nothing is published. -/
theorem Wedged.run {s : Plugin} (h : Wedged s) (es : List Event) :
    Wedged (s.run es) ∧ wedgeFields (s.run es) = wedgeFields s ∧
      (s.cmdPub = none → s.stateSub = none →
        (s.run es).cmdPub = none ∧ (s.run es).stateSub = none ∧
          (s.run es).published = s.published) := by
  induction es generalizing s with
  | nil => exact ⟨h, rfl, fun hp hq => ⟨hp, hq, rfl⟩⟩
  | cons e es ih =>
    obtain ⟨hw, hf, hpq⟩ := h.step e
    obtain ⟨hw', hf', hdead⟩ := ih hw
    refine ⟨hw', hf'.trans hf, fun hp hq => ?_⟩
    have hpq' : (s.step e).cmdPub = none ∧ (s.step e).stateSub = none := by
      simpa [hp, hq] using hpq
    obtain ⟨h₁, h₂, h₃⟩ := hdead hpq'.1 hpq'.2
    exact ⟨h₁, h₂, h₃.trans (published_step_of_none hp e)⟩

/-- **A thread that never started wedges the plugin for good.**  From a
reachable state in which `join()` raises (a `_load_jtc` raised in `add_node` or
in `_executor_thread.start()`), on every run `_executor` and `_executor_thread`
stay as they are, no executor thread runs and `_jtc_name` never changes; every
selection is then only the teardown up to `join()`, and `shutdown_plugin` only
the stop before it. -/
theorem wedged_forever {s : Plugin} (hs : Reachable s) (hj : s.joinRaises = true)
    (es : List Event) :
    let u := s.run es
    u.executor = s.executor ∧ u.executorThread = s.executorThread ∧ u.running = [] ∧
      u.jtcName = s.jtcName ∧ (∀ name env, u.step (.jtcChange name env) = u.releaseInterfaces) ∧
      u.step .shutdownPlugin = u.stopped := by
  obtain ⟨hw, hf, -⟩ := (wedged_of_reachable hs hj).run es
  exact ⟨congrArg WedgeFields.executor hf, congrArg WedgeFields.executorThread hf, hw.running,
    congrArg WedgeFields.jtcName hf, hw.step_jtcChange, hw.step_shutdownPlugin⟩

/-- The run of the failed thread start, and a selection of `b` after it. -/
theorem wedged_after_failed_start :
    let ctrl : ControllerInfo := ⟨"a", "JointTrajectoryController", "active", ["j/position"]⟩
    let s := (init 100).run [.cmChange "/cm" ⟨[ctrl], fun _ => PyDict.empty.set "j" ⟨-1, 1, 1⟩⟩,
      .jtcChange "a" ⟨[ctrl], some .threadStart⟩]
    (Reachable s ∧ s.joinRaises = true) ∧
      (s.run [.jtcChange "b" ⟨[ctrl], none⟩]).jtcName = s.jtcName := by
  intro ctrl s
  have hs : Reachable s := reachable_run 100 _
  have hj : s.joinRaises = true := by decide
  obtain ⟨-, -, -, hname, -⟩ := wedged_forever hs hj [.jtcChange "b" ⟨[ctrl], none⟩]
  exact ⟨⟨hs, hj⟩, hname⟩

/-- **A wedged plugin never commands again.**  In a reachable state in which
`join()` raises, once a selection or `shutdown_plugin` has torn the session
down, on every later run no subscription or publisher is live and nothing is
published. -/
theorem wedged_silent {s : Plugin} (hs : Reachable s) (hj : s.joinRaises = true) {e : Event}
    (he : e = .shutdownPlugin ∨ ∃ name env, e = .jtcChange name env) (es : List Event) :
    let u := (s.step e).run es
    u.subscriptions = [] ∧ u.publishers = [] ∧ u.published = s.published := by
  have hw := wedged_of_reachable hs hj
  have ht : (s.step e).cmdPub = none ∧ (s.step e).stateSub = none ∧
      (s.step e).published = s.published := by
    rcases he with rfl | ⟨name, env, rfl⟩
    · rw [hw.step_shutdownPlugin]; exact ⟨rfl, rfl, rfl⟩
    · rw [hw.step_jtcChange]; exact ⟨rfl, rfl, rfl⟩
  obtain ⟨-, -, hdead⟩ := (hw.step e).1.run es
  obtain ⟨hp, hq, hpub⟩ := hdead ht.1 ht.2.1
  have hr := resInv_of_reachable ((hs.step e trivial).run es fun _ _ => trivial)
  refine ⟨?_, ?_, hpub.trans ht.2.2⟩
  · simpa [hq] using hr.subs
  · simpa [hp] using hr.pubs

/-- The failed thread start, a selection of `b`, then a click and a command
tick. -/
theorem wedged_silent_after_failed_start :
    let ctrl : ControllerInfo := ⟨"a", "JointTrajectoryController", "active", ["j/position"]⟩
    let s := (init 100).run [.cmChange "/cm" ⟨[ctrl], fun _ => PyDict.empty.set "j" ⟨-1, 1, 1⟩⟩,
      .jtcChange "a" ⟨[ctrl], some .threadStart⟩]
    (Reachable s ∧ s.joinRaises = true) ∧
      ((s.step (.jtcChange "b" ⟨[ctrl], none⟩)).run [.enableClicked, .cmdTimeout]).published =
        s.published := by
  intro ctrl s
  have hs : Reachable s := reachable_run 100 _
  have hj : s.joinRaises = true := by decide
  exact ⟨⟨hs, hj⟩, (wedged_silent hs hj (.inr ⟨"b", _, rfl⟩) [.enableClicked, .cmdTimeout]).2.2⟩

/-! ## A thread that died -/

/-- Without a selection no executor thread starts, and the queue only drains. -/
theorem dead_step {s : Plugin} (h : s.running = []) {e : Event}
    (he : ∀ n env, e ≠ .jtcChange n env) :
    (s.step e).running = [] ∧ (s.step e).queue <:+ s.queue := by
  by_cases hp : e.IsPassive
  · refine ⟨(congrArg Control.running (control_step hp s)).trans h, ?_⟩
    rcases queue_passive hp s with hq | hq
    · rw [hq]
    · rw [hq]; exact List.tail_suffix _
  cases e with
  | jtcChange n env => exact absurd rfl (he n env)
  | enableClicked => rw [step_enableClicked, click_eq]; exact ⟨h, List.suffix_refl _⟩
  | stateMessage sub msg =>
    rw [step_stateMessage, if_neg fun h' => h'.2 h]; exact ⟨h, List.suffix_refl _⟩
  | shutdownPlugin =>
    show (exec shutdownPlugin s).running = [] ∧ (exec shutdownPlugin s).queue <:+ s.queue
    rw [exec_shutdownPlugin]
    split
    · exact ⟨h, List.suffix_refl _⟩
    · refine ⟨?_, by rw [joined_eq]; exact List.suffix_refl _⟩
      unfold joined; split <;> simp [stopped, h]
  | _ => exact absurd trivial hp

theorem dead_run {s : Plugin} (h : s.running = []) {es : List Event}
    (hes : ∀ e ∈ es, ∀ n env, e ≠ .jtcChange n env) :
    (s.run es).running = [] ∧ (s.run es).queue <:+ s.queue := by
  induction es generalizing s with
  | nil => exact ⟨h, List.suffix_refl _⟩
  | cons e es ih =>
    obtain ⟨h₁, hq₁⟩ := dead_step h (hes e (.head _))
    obtain ⟨h₂, hq₂⟩ := ih h₁ fun e' he' => hes e' (.tail _ he')
    exact ⟨h₂, hq₂.trans hq₁⟩

/-- **A short message ends the feedback until the next selection.**  When the
executor thread takes, from a live subscription, a `controller_state` message
with fewer positions than joint names, `_state_cb` raises and the thread ends.
On every later run without `_on_jtc_change` no executor thread runs, every
`controller_state` message is dropped, and the deliveries still to apply are
among those queued before the message. -/
theorem feedback_stops_after_short_message {s : Plugin} {sub : Nat} {msg : ControllerState}
    (hlive : sub ∈ s.subscriptions.map Prod.fst) (hrun : s.running ≠ [])
    (hshort : msg.positions.length < msg.jointNames.length) {es : List Event}
    (hes : ∀ e ∈ es, ∀ n env, e ≠ .jtcChange n env) :
    let u := (s.step (.stateMessage sub msg)).run es
    u.running = [] ∧ u.queue <:+ s.queue ∧ ∀ sub' msg', u.step (.stateMessage sub' msg') = u := by
  have h₁ : s.step (.stateMessage sub msg) = { s with running := [] } := by
    rw [step_stateMessage, if_pos ⟨hlive, hrun⟩, buildCurrentPos_of_lt hshort]
  obtain ⟨hr, hq⟩ := dead_run (s := { s with running := [] }) rfl hes
  rw [h₁]
  exact ⟨hr, hq, fun _ _ => by rw [step_stateMessage, if_neg fun h' => h'.2 hr]⟩

/-- Controller `a` bound with feedback for `j`, a message with no positions,
then a message that would set `j`, its delivery, a click and a command tick. -/
theorem feedback_stops_after_empty_positions :
    let ctrl : ControllerInfo := ⟨"a", "JointTrajectoryController", "active", ["j/position"]⟩
    let s := (init 100).run [.cmChange "/cm" ⟨[ctrl], fun _ => PyDict.empty.set "j" ⟨-1, 1, 1⟩⟩,
      .jtcChange "a" ⟨[ctrl], none⟩, .stateMessage 0 ⟨["j"], [0]⟩, .jointStateDelivered]
    let es : List Event := [.stateMessage 0 ⟨["j"], [1]⟩, .jointStateDelivered, .enableClicked,
      .cmdTimeout]
    (0 ∈ s.subscriptions.map Prod.fst ∧ s.running ≠ [] ∧
      (ControllerState.positions ⟨["j"], []⟩).length <
        (ControllerState.jointNames ⟨["j"], []⟩).length ∧
      ∀ e ∈ es, ∀ n env, e ≠ .jtcChange n env) ∧
      ((s.step (.stateMessage 0 ⟨["j"], []⟩)).run es).running = [] := by
  intro ctrl s es
  have hlive : 0 ∈ s.subscriptions.map Prod.fst := by decide
  have hrun : s.running ≠ [] := by decide
  have hshort : (ControllerState.positions ⟨["j"], []⟩).length <
      (ControllerState.jointNames ⟨["j"], []⟩).length := by decide
  have hes : ∀ e ∈ es, ∀ n env, e ≠ .jtcChange n env := by simp [es]
  exact ⟨⟨hlive, hrun, hshort, hes⟩, (feedback_stops_after_short_message hlive hrun hshort hes).1⟩

end Plugin
end RqtJtc
