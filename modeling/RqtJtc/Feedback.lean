import Mathlib.Data.Finset.Card
import RqtJtc.Session

/-!
# Feedback across the two threads

The executor thread runs `_state_cb` on each `controller_state` message from a
live subscription: it maps the message's joint names to its positions and emits
`jointStateChanged`, which queues one delivery per connection in the UI thread's
event queue.  The UI thread takes deliveries in order and runs
`_on_joint_state_change`, which checks only that the mapping has as many entries
as `_joint_pos` and then writes positions in the mapping's order, up to the
first joint `_joint_pos` does not know.

A message that lists every joint once with one position each is applied whole.
A message with too few positions raises in `_state_cb`, and one with a different
number of distinct joints fails the check; both leave the joint data as it was.
Other messages are applied up to the first joint outside the session, with
positions past the names ignored.

Each `jointStateChanged.connect` in `_load_jtc` makes a connection with a fresh
id, and the `disconnect` in `_unload_jtc` removes it; PyQt5 drops a delivery
queued on a removed connection.  So a delivery the UI thread applies was posted
on the live connection from a message of the live subscription, and none queued
before an `_on_jtc_change` is applied after it: no stale feedback crosses a
rebind.  `shutdown_plugin` unregisters the subscription without disconnecting,
so the first half holds on runs without it.  The queue also keeps its order: the
deliveries of older subscriptions come before those of the live one.

## Main statements

* `feedback_ingestion` — one message, processed by both threads
  (`step_ingest` relates `ingest` to the two threads' steps).
* `no_stale_feedback` — only deliveries of the live session are applied.
* `queue_stale_then_current` — the order of the queue.
-/

namespace RqtJtc
namespace Plugin

/-! ## The mapping `_state_cb` builds -/

theorem buildCurrentPos_of_lt {names : List String} {positions : List ℚ}
    (h : positions.length < names.length) (acc : PyDict ℚ) :
    buildCurrentPos names positions acc = .error .indexError := by
  induction names generalizing positions acc with
  | nil => simp at h
  | cons n ns ih =>
    cases positions with
    | nil => rfl
    | cons p ps => exact ih (by simpa using h) _

theorem buildCurrentPos_of_le {names : List String} {positions : List ℚ}
    (h : names.length ≤ positions.length) (acc : PyDict ℚ) :
    buildCurrentPos names positions acc =
      .ok ((names.zip positions).foldl (fun d e => d.set e.1 e.2) acc) := by
  induction names generalizing positions acc with
  | nil => rfl
  | cons n ns ih =>
    cases positions with
    | nil => simp at h
    | cons p ps => exact ih (by simpa using h) _

/-- The mapping has one entry per distinct joint name. -/
theorem size_foldl_set_empty (l : List (String × ℚ)) :
    (l.foldl (fun d e => d.set e.1 e.2) PyDict.empty).size = (l.map Prod.fst).toFinset.card := by
  rw [PyDict.size_eq_length_keys, ← List.toFinset_card_of_nodup (PyDict.keys_nodup _)]
  congr 1
  ext k
  simp [PyDict.mem_keys_foldl_set]

/-! ## The loop of `_on_joint_state_change` -/

theorem get?_applyPositions_of_not_mem {l : List (String × ℚ)} {pos : PyDict JointData}
    {n : String} (h : n ∉ l.map Prod.fst) : (applyPositions l pos).get? n = pos.get? n := by
  induction l generalizing pos with
  | nil => rfl
  | cons e l ih =>
    obtain ⟨m, p⟩ := e
    simp only [List.map_cons, List.mem_cons, not_or] at h
    simp only [applyPositions]
    split
    · rfl
    · rw [ih h.2, PyDict.get?_set, if_neg (Ne.symm h.1)]

/-- `_on_joint_state_change` writes no command. -/
theorem commands_applyPositions (l : List (String × ℚ)) (pos : PyDict JointData) (n : String) :
    ((applyPositions l pos).get? n).map (·.command) = (pos.get? n).map (·.command) := by
  induction l generalizing pos with
  | nil => rfl
  | cons e l ih =>
    obtain ⟨m, p⟩ := e
    simp only [applyPositions]
    split
    · rfl
    · rename_i data h
      rw [ih, PyDict.get?_set]
      split_ifs with hm
      · subst hm; simp [h]
      · rfl

/-- When every joint of the mapping is known and none repeats, each gets its
position. -/
theorem position_applyPositions {l : List (String × ℚ)} {pos : PyDict JointData}
    (hk : ∀ e ∈ l, e.1 ∈ pos.keys) (hn : (l.map Prod.fst).Nodup) :
    ∀ e ∈ l, ((applyPositions l pos).get? e.1).bind (·.position) = some e.2 := by
  induction l generalizing pos with
  | nil => simp
  | cons e l ih =>
    obtain ⟨m, p⟩ := e
    obtain ⟨data, hd⟩ := Option.isSome_iff_exists.1
      ((PyDict.mem_keys _ _).1 (hk (m, p) (List.mem_cons_self _ _)))
    simp only [List.map_cons, List.nodup_cons] at hn
    have hk' : ∀ e ∈ l, e.1 ∈ (pos.set m { data with position := some p }).keys := fun e he => by
      rw [PyDict.keys_set_of_mem ((PyDict.mem_keys _ _).2 (by simp [hd]))]
      exact hk e (List.mem_cons_of_mem _ he)
    intro e he
    simp only [applyPositions, hd]
    rcases List.mem_cons.1 he with rfl | he
    · rw [get?_applyPositions_of_not_mem hn.1]; simp
    · exact ih hk' hn.2 e he

/-- The loop writes the entries up to the first joint `_joint_pos` does not
have, and stops there. -/
theorem applyPositions_takeWhile (l : List (String × ℚ)) (pos : PyDict JointData) :
    applyPositions l pos = applyPositions (l.takeWhile (·.1 ∈ pos.keys)) pos := by
  induction l generalizing pos with
  | nil => rfl
  | cons e l ih =>
    obtain ⟨n, p⟩ := e
    by_cases hn : n ∈ pos.keys
    · obtain ⟨data, hd⟩ := Option.isSome_iff_exists.1 ((PyDict.mem_keys _ _).1 hn)
      have hk := PyDict.keys_set_of_mem hn { data with position := some p }
      simp only [List.takeWhile_cons, hn, decide_True, applyPositions, hd]
      rw [ih, hk]
    · have hd : pos.get? n = none := (PyDict.get?_eq_none pos n).2 hn
      simp only [List.takeWhile_cons, hn, decide_False, applyPositions, hd]

/-! ## One message -/

/-- The joint data after one `controller_state` message is processed: the
mapping `_state_cb` builds, delivered to `_on_joint_state_change`; nothing is
delivered when `_state_cb` raises.  `step_ingest` shows that the two threads
compute it. -/
def ingest (s : Plugin) (msg : ControllerState) : PyDict JointData :=
  match buildCurrentPos msg.jointNames msg.positions PyDict.empty with
  | .ok m => (exec (onJointStateChange m) s).jointPos
  | .error _ => s.jointPos

/-- A message with fewer positions than names raises in `_state_cb`. -/
theorem ingest_of_lt (s : Plugin) {msg : ControllerState}
    (h : msg.positions.length < msg.jointNames.length) : ingest s msg = s.jointPos := by
  simp only [ingest, buildCurrentPos_of_lt h]

/-- Any other message is delivered, and `_on_joint_state_change` applies its
mapping when it has as many distinct names as `_joint_pos` has entries. -/
theorem ingest_of_le (s : Plugin) (msg : ControllerState)
    (h : msg.jointNames.length ≤ msg.positions.length) :
    ingest s msg =
      if msg.jointNames.toFinset.card = s.jointPos.size then
        applyPositions ((msg.jointNames.zip msg.positions).foldl
          (fun d e => d.set e.1 e.2) PyDict.empty).entries s.jointPos
      else s.jointPos := by
  have hsize : ((msg.jointNames.zip msg.positions).foldl (fun d e => d.set e.1 e.2)
      PyDict.empty).size = msg.jointNames.toFinset.card := by
    rw [size_foldl_set_empty, List.map_fst_zip _ _ h]
  simp only [ingest, buildCurrentPos_of_le h, exec_onJointStateChange, hsize]
  split <;> rfl

/-- **Feedback ingestion.**  For joint data keyed by the joint list `J`: a
message listing every joint of `J` once, with as many positions as names, sets
each joint's position and changes nothing else; a message with fewer positions
than names, or with a number of distinct names other than `J`'s length, leaves
the joint data as it was.  Any other message is applied as the mapping of its
names to the positions at the same index, positions past the names ignored: the
entries up to the first name outside `J` get their positions, and nothing else
changes. -/
theorem feedback_ingestion (s : Plugin) (msg : ControllerState)
    (hkeys : s.jointPos.keys = s.jointNames) :
    (msg.positions.length = msg.jointNames.length → msg.jointNames.Perm s.jointNames →
      (ingest s msg).keys = s.jointPos.keys ∧
      (∀ n, ((ingest s msg).get? n).map (·.command) = (s.jointPos.get? n).map (·.command)) ∧
      ∀ k (hk : k < msg.jointNames.length),
        ((ingest s msg).get? msg.jointNames[k]).bind (·.position) = msg.positions[k]?) ∧
    (msg.positions.length < msg.jointNames.length ∨
      msg.jointNames.toFinset.card ≠ s.jointNames.length → ingest s msg = s.jointPos) ∧
    (msg.jointNames.length ≤ msg.positions.length →
      msg.jointNames.toFinset.card = s.jointNames.length →
      let m := (msg.jointNames.zip msg.positions).foldl (fun d e => d.set e.1 e.2) PyDict.empty
      let pre := m.entries.takeWhile (·.1 ∈ s.jointNames)
      (ingest s msg).keys = s.jointPos.keys ∧
      (∀ n, ((ingest s msg).get? n).map (·.command) = (s.jointPos.get? n).map (·.command)) ∧
      (∀ e ∈ pre, ((ingest s msg).get? e.1).bind (·.position) = some e.2) ∧
      ∀ n ∉ pre.map Prod.fst, (ingest s msg).get? n = s.jointPos.get? n) := by
  obtain ⟨N, P⟩ := msg
  have hsize : s.jointPos.size = s.jointNames.length := by
    rw [PyDict.size_eq_length_keys, hkeys]
  refine ⟨fun hlen hperm => ?_, ?_, ?_⟩
  · have hN : N.Nodup := hperm.nodup_iff.2 (hkeys ▸ PyDict.keys_nodup _)
    have hfst : (N.zip P).map Prod.fst = N := List.map_fst_zip _ _ (le_of_eq hlen.symm)
    have hm : ((N.zip P).foldl (fun d e => d.set e.1 e.2) PyDict.empty).entries = N.zip P := by
      rw [PyDict.entries_foldl_set _ _ (by simpa [hfst] using hN)]; rfl
    have hcard : N.toFinset.card = s.jointPos.size := by
      rw [List.toFinset_card_of_nodup hN, hperm.length_eq, hsize]
    rw [ingest_of_le s ⟨N, P⟩ (le_of_eq hlen.symm), if_pos hcard, hm]
    refine ⟨keys_applyPositions _ _, commands_applyPositions _ _, fun k hk => ?_⟩
    have hkP : k < P.length := hlen ▸ hk
    have hmem : (N[k], P[k]) ∈ N.zip P := by
      have := List.getElem_mem (l := N.zip P) (n := k) (by simp [hlen, hk])
      simpa using this
    rw [List.getElem?_eq_getElem hkP]
    refine position_applyPositions (fun e he => ?_) (by rwa [hfst]) _ hmem
    rw [hkeys]; exact hperm.subset (List.of_mem_zip he).1
  · rintro (hlt | hcard)
    · exact ingest_of_lt s hlt
    · by_cases hlt : P.length < N.length
      · exact ingest_of_lt s hlt
      · rw [ingest_of_le s ⟨N, P⟩ (not_lt.1 hlt), if_neg (by rwa [hsize])]
  · intro hle hcard m pre
    have hing : ingest s ⟨N, P⟩ = applyPositions pre s.jointPos := by
      rw [ingest_of_le s ⟨N, P⟩ hle, if_pos (hcard.trans hsize.symm), applyPositions_takeWhile,
        hkeys]
    have hk : ∀ e ∈ pre, e.1 ∈ s.jointPos.keys := fun e he => by
      simpa [hkeys] using List.mem_takeWhile_imp he
    have hn : (pre.map Prod.fst).Nodup := ((List.takeWhile_sublist _).map Prod.fst).nodup m.nodup
    rw [hing]
    exact ⟨keys_applyPositions _ _, commands_applyPositions _ _, position_applyPositions hk hn,
      fun n hn' => get?_applyPositions_of_not_mem hn'⟩

/-- Two joints `a` and `b` with positions `0`, and a message that sets both. -/
theorem feedback_ingestion_two_joints :
    let s : Plugin := { init 1 with
      jointNames := ["a", "b"]
      jointPos := (PyDict.empty.set "a" ⟨some 0, none⟩).set "b" ⟨some 0, none⟩ }
    s.jointPos.keys = s.jointNames ∧ (ingest s ⟨["b", "a"], [2, 1]⟩).keys = s.jointPos.keys := by
  intro s
  have hk : s.jointPos.keys = s.jointNames := by decide
  exact ⟨hk, ((feedback_ingestion s ⟨["b", "a"], [2, 1]⟩ hk).1 rfl (by decide)).1⟩

/-- **Feedback is applied in part**: a message naming a joint outside the
session, with as many distinct names as the session has joints, sets the
positions before it; and positions past the names are ignored. -/
theorem feedback_partially_applied :
    let s : Plugin := { init 1 with
      jointNames := ["a", "b"]
      jointPos := (PyDict.empty.set "a" {}).set "b" {} }
    ((ingest s ⟨["a", "x"], [1, 2]⟩).get? "a").bind (·.position) = some 1 ∧
      ((ingest s ⟨["a", "b"], [1, 2, 3]⟩).get? "a").bind (·.position) = some 1 := by
  decide

/-- `ingest` is what the two threads do: a message taken by the executor thread
from a live subscription, and its one delivery on the one connection, with
nothing else queued. -/
theorem step_ingest {s : Plugin} {sub : Nat} (msg : ControllerState)
    (hlive : sub ∈ s.subscriptions.map Prod.fst) (hrun : s.running ≠ []) (hq : s.queue = [])
    (hc : s.stateConnections = 1) :
    ((s.step (.stateMessage sub msg)).step .jointStateDelivered).jointPos = ingest s msg := by
  obtain ⟨c, hc⟩ := List.length_eq_one.1 hc
  rw [step_stateMessage, if_pos ⟨hlive, hrun⟩]
  rcases hb : buildCurrentPos msg.jointNames msg.positions PyDict.empty with e | m
  · simp only [ingest, hb, step_jointStateDelivered, hq]
  · simp only [ingest, hb, step_jointStateDelivered, hq, hc, List.map_cons, List.map_nil,
      List.nil_append, List.mem_singleton, if_true, exec_onJointStateChange]
    split <;> rfl

/-! ## The order of the queue -/

/-- The queue holds deliveries of subscriptions in the order they were created,
none from a subscription newer than the live one. -/
structure QueueInv (s : Plugin) : Prop where
  sorted : (s.queue.map (·.sub)).Sorted (· ≤ ·)
  old : ∀ d ∈ s.queue, d.sub < s.nextHandle
  current : ∀ q, s.stateSub = some q → q < s.nextHandle ∧ ∀ d ∈ s.queue, d.sub ≤ q

theorem QueueInv.of_frame {s t : Plugin} (h : QueueInv s) (hq : t.queue = s.queue)
    (hn : s.nextHandle ≤ t.nextHandle) (hs : t.stateSub = s.stateSub ∨ t.stateSub = none) :
    QueueInv t := by
  refine ⟨hq ▸ h.sorted, fun d hd => (h.old d (hq ▸ hd)).trans_le hn, fun q hsq => ?_⟩
  rcases hs with hs | hs
  · obtain ⟨h1, h2⟩ := h.current q (hs ▸ hsq)
    exact ⟨h1.trans_le hn, hq ▸ h2⟩
  · simp [hs] at hsq

/-- `# Setup ROS interfaces` keeps the queue, and subscribes, if at all, with the
next handle. -/
theorem queue_rosStage (u : Plugin) (ns : String) (f : Option LoadFault) :
    (u.rosStage ns f).queue = u.queue ∧ u.nextHandle ≤ (u.rosStage ns f).nextHandle ∧
      ((u.rosStage ns f).stateSub = u.stateSub ∨
        (u.rosStage ns f).stateSub = some u.nextHandle ∧
          u.nextHandle < (u.rosStage ns f).nextHandle) := by
  rcases f with _ | _ | _ | _ | _ | _ <;>
    simp +arith [rosStage, subscribe, advertise, connect, newExecutor, newThread, startThread]

theorem QueueInv.loadJtc {t : Plugin} (h : QueueInv t) (ht : t.stateSub = none)
    (hn : t.jtcName ≠ "") (env : LoadEnv) : QueueInv (exec (loadJtc env) t) := by
  rw [exec_loadJtc env t hn]
  split
  · exact h
  · split
    · exact h
    · rename_i info _
      have hw : QueueInv (t.withJoints ⟨env.listing, info, t.cmNs⟩) :=
        h.of_frame rfl le_rfl (.inl rfl)
      obtain ⟨h1, h2, h3⟩ := queue_rosStage (t.withJoints ⟨env.listing, info, t.cmNs⟩)
        (controllerNs t.cmNs t.jtcName) env.fault
      have hr : QueueInv ((t.withJoints ⟨env.listing, info, t.cmNs⟩).rosStage
          (controllerNs t.cmNs t.jtcName) env.fault) := by
        rcases h3 with h3 | ⟨h3, h4⟩
        · exact hw.of_frame h1 h2 (.inr (h3.trans ht))
        · refine ⟨h1 ▸ hw.sorted, fun d hd => (hw.old d (h1 ▸ hd)).trans_le h2, fun q hq => ?_⟩
          rw [h3, Option.some.injEq] at hq
          subst hq
          exact ⟨h4, fun d hd => (hw.old d (h1 ▸ hd)).le⟩
      split
      · exact hr.of_frame rfl le_rfl (.inl rfl)
      · exact hr

theorem QueueInv.jtcChange {s : Plugin} (h : QueueInv s) (name : String) (env : LoadEnv) :
    QueueInv (exec (onJtcChange name env) s) := by
  rw [exec_onJtcChange]
  split
  · exact h.of_frame rfl le_rfl (.inr rfl)
  · have hc : QueueInv { s.releaseInterfaces.joined.clearJoints with jtcName := name } := by
      refine h.of_frame ?_ ?_ (.inr ?_) <;> rw [clearJoints, uncheck_eq, joined_eq] <;> rfl
    split
    · exact hc
    · have hs : s.releaseInterfaces.joined.clearJoints.stateSub = none := by
        rw [clearJoints, uncheck_eq, joined_eq]; rfl
      exact hc.loadJtc hs ‹_› env

theorem QueueInv.poll {s : Plugin} (h : QueueInv s) {e : Event} (he : e.IsPoll) :
    QueueInv (s.step e) := by
  obtain ⟨_, _, _, _, _, _, hs⟩ := poll_step he s
  rw [hs]; exact h.of_frame rfl le_rfl (.inl rfl)

theorem QueueInv.edit {s : Plugin} (h : QueueInv s) {e : Event} (he : e.IsEdit) :
    QueueInv (s.step e) := by
  obtain ⟨_, _, _, hs, -⟩ := edit_step he s
  rw [hs]; exact h.of_frame rfl le_rfl (.inl rfl)

/-- The UI thread takes the oldest delivery. -/
theorem QueueInv.delivered {s : Plugin} (h : QueueInv s) :
    QueueInv (s.step .jointStateDelivered) := by
  rw [step_jointStateDelivered]
  split
  · exact h
  · rename_i d rest hq
    have ht : QueueInv { s with queue := rest } := by
      refine ⟨?_, fun d' hd' => h.old d' (by simp [hq, hd']), fun q hsq => ?_⟩
      · have := h.sorted
        rw [hq, List.map_cons] at this
        exact this.of_cons
      · obtain ⟨h1, h2⟩ := h.current q hsq
        exact ⟨h1, fun d' hd' => h2 d' (by simp [hq, hd'])⟩
    split
    · rw [exec_onJointStateChange]
      split
      · exact ht.of_frame rfl le_rfl (.inl rfl)
      · exact ht
    · exact ht

/-- Deliveries of the live subscription may be queued at the back. -/
theorem QueueInv.enqueue {s : Plugin} (h : QueueInv s) {q : Nat} (hq : s.stateSub = some q)
    {ds : List Delivery} (hds : ∀ d ∈ ds, d.sub = q) :
    QueueInv { s with queue := s.queue ++ ds } := by
  obtain ⟨h1, h2⟩ := h.current q hq
  have hle : ∀ d ∈ s.queue ++ ds, d.sub ≤ q := fun d hd => by
    rcases List.mem_append.1 hd with hd | hd
    · exact h2 d hd
    · exact (hds d hd).le
  refine ⟨?_, fun d hd => (hle d hd).trans_lt h1, fun q' hq' => ?_⟩
  · have hnew : ∀ a ∈ ds.map (·.sub), a = q := List.forall_mem_map.2 hds
    have hold : ∀ a ∈ s.queue.map (·.sub), a ≤ q := List.forall_mem_map.2 h2
    rw [List.map_append]
    exact List.pairwise_append.2 ⟨h.sorted,
      List.pairwise_of_forall_mem_list fun a ha b hb => by rw [hnew a ha, hnew b hb],
      fun a ha b hb => hnew b hb ▸ hold a ha⟩
  · obtain rfl : q = q' := Option.some.inj (hq.symm.trans hq')
    exact ⟨h1, hle⟩

/-- A subscription the executor thread takes a message from is `_state_sub`. -/
theorem ResInv.stateSub_of_live {s : Plugin} (h : ResInv s) {q : Nat}
    (hq : q ∈ s.subscriptions.map Prod.fst) : s.stateSub = some q := by
  simpa [h.subs, Option.mem_toList, eq_comm] using hq

/-- The executor thread queues deliveries of the live subscription. -/
theorem QueueInv.stateMessage {s : Plugin} (h : QueueInv s) (hr : ResInv s) (sub : Nat)
    (msg : ControllerState) : QueueInv (s.step (.stateMessage sub msg)) := by
  rw [step_stateMessage]
  split
  · rename_i hlive
    split
    · exact h.enqueue (hr.stateSub_of_live hlive.1) fun d hd => by
        obtain ⟨c, -, rfl⟩ := List.mem_map.1 hd; rfl
    · exact h.of_frame rfl le_rfl (.inl rfl)
  · exact h

theorem QueueInv.step {s : Plugin} (h : QueueInv s) (hr : ResInv s) (e : Event) :
    QueueInv (s.step e) := by
  cases e with
  | updateCmList | updateJtcList | cmChange => exact h.poll (by trivial)
  | editorChanged | speedScalingChanged | cmdTimeout | actPosTimeout => exact h.edit (by trivial)
  | jointStateDelivered => exact h.delivered
  | stateMessage sub msg => exact h.stateMessage hr sub msg
  | jtcChange name env => exact h.jtcChange name env
  | enableClicked => rw [step_enableClicked, click_eq]; exact h.of_frame rfl le_rfl (.inl rfl)
  | shutdownPlugin =>
    show QueueInv (exec shutdownPlugin s)
    rw [exec_shutdownPlugin]
    split
    · exact h.of_frame rfl le_rfl (.inr rfl)
    · rw [joined_eq]; exact h.of_frame rfl le_rfl (.inr rfl)

theorem queueInv_of_reachable {s : Plugin} (h : Reachable s) : QueueInv s := by
  induction h with
  | init m => exact ⟨by simp [init], by simp [init], by simp [init]⟩
  | step e hs _ ih => exact ih.step (resInv_of_reachable hs) e

/-- A queue sorted by subscription, none newer than `q`, is deliveries of older
subscriptions followed by deliveries of `q`. -/
theorem split_stale_current {q : Nat} :
    ∀ l : List Delivery, (l.map (·.sub)).Sorted (· ≤ ·) → (∀ d ∈ l, d.sub ≤ q) →
      ∃ stale cur, l = stale ++ cur ∧ (∀ d ∈ stale, d.sub < q) ∧ ∀ d ∈ cur, d.sub = q
  | [], _, _ => ⟨[], [], rfl, by simp, by simp⟩
  | d :: l, hs, hq => by
    rw [List.map_cons, List.sorted_cons] at hs
    have hl : ∀ x ∈ l, x.sub ≤ q := fun x hx => hq x (List.mem_cons_of_mem _ hx)
    by_cases hd : d.sub < q
    · obtain ⟨a, b, rfl, ha, hb⟩ := split_stale_current l hs.2 hl
      exact ⟨d :: a, b, rfl, by simpa [hd] using ha, hb⟩
    · have hdq : d.sub = q := le_antisymm (hq d (List.mem_cons_self _ _)) (not_lt.1 hd)
      refine ⟨[], d :: l, rfl, by simp, fun x hx => ?_⟩
      rcases List.mem_cons.1 hx with rfl | hx
      · exact hdq
      · exact le_antisymm (hl x hx) (hdq ▸ hs.1 x.sub (List.mem_map_of_mem _ hx))

/-- **Stale deliveries come first.**  In every reachable state with a live
subscription `q`, the queue is deliveries of older subscriptions followed by
deliveries of `q`: once the UI thread applies a delivery of `q`, no stale one is
left. -/
theorem queue_stale_then_current {s : Plugin} (hs : Reachable s) {q : Nat}
    (hq : s.stateSub = some q) :
    ∃ stale cur, s.queue = stale ++ cur ∧ (∀ d ∈ stale, d.sub < q) ∧ ∀ d ∈ cur, d.sub = q :=
  let h := queueInv_of_reachable hs
  split_stale_current s.queue h.sorted (h.current q hq).2

/-- A rebind from `a` to `b` with a message of `a` queued. -/
theorem queue_after_rebind :
    let a : ControllerInfo := ⟨"a", "JointTrajectoryController", "active", ["j/position"]⟩
    let b : ControllerInfo := ⟨"b", "JointTrajectoryController", "active", ["j/position"]⟩
    let d : Discovery := ⟨[a, b], fun _ => PyDict.empty.set "j" ⟨-1, 1, 1⟩⟩
    let s := (init 100).run [.cmChange "/cm" d, .jtcChange "a" ⟨[a, b], none⟩,
      .stateMessage 0 ⟨["j"], [7]⟩, .jtcChange "b" ⟨[a, b], none⟩]
    (Reachable s ∧ s.stateSub = some 4) ∧
      ∃ stale cur, s.queue = stale ++ cur ∧ (∀ d ∈ stale, d.sub < 4) ∧ ∀ d ∈ cur, d.sub = 4 := by
  intro a b d s
  have hs : Reachable s := reachable_run 100 _
  have hq : s.stateSub = some 4 := by decide
  exact ⟨⟨hs, hq⟩, queue_stale_then_current hs hq⟩

/-! ## Connections -/

/-- `# Setup ROS interfaces` connects, if at all, with the next id. -/
theorem conns_rosStage (u : Plugin) (ns : String) (f : Option LoadFault) :
    u.nextConn ≤ (u.rosStage ns f).nextConn ∧ ∀ c ∈ (u.rosStage ns f).stateConns,
      c ∈ u.stateConns ∨ u.nextConn ≤ c ∧ c < (u.rosStage ns f).nextConn := by
  have hc : ∀ v : Plugin, v.nextConn ≤ v.connect.nextConn ∧ ∀ c ∈ v.connect.stateConns,
      c ∈ v.stateConns ∨ v.nextConn ≤ c ∧ c < v.connect.nextConn := fun v =>
    ⟨Nat.le_succ _, fun c h => (List.mem_append.1 h).imp_right fun h => by
      obtain rfl := List.mem_singleton.1 h; exact ⟨le_rfl, Nat.lt_succ_self _⟩⟩
  have hs := hc ((u.subscribe (ns ++ "/controller_state")).advertise (ns ++ "/joint_trajectory"))
  rcases f with _ | _ | _ | _ | _ | _
  · exact hs
  · exact ⟨le_rfl, fun c h => .inl h⟩
  · exact ⟨le_rfl, fun c h => .inl h⟩
  all_goals exact hs

/-- `_load_jtc` keeps the queue and connects, if at all, with the next id. -/
theorem conns_loadJtc (t : Plugin) (hn : t.jtcName ≠ "") (env : LoadEnv) :
    (exec (loadJtc env) t).queue = t.queue ∧ t.nextConn ≤ (exec (loadJtc env) t).nextConn ∧
      ∀ c ∈ (exec (loadJtc env) t).stateConns,
        c ∈ t.stateConns ∨ t.nextConn ≤ c ∧ c < (exec (loadJtc env) t).nextConn := by
  rw [exec_loadJtc env t hn]
  split
  · exact ⟨rfl, le_rfl, fun c hc => .inl hc⟩
  · split
    · exact ⟨rfl, le_rfl, fun c hc => .inl hc⟩
    · rename_i info _
      have hq := (queue_rosStage (t.withJoints ⟨env.listing, info, t.cmNs⟩)
        (controllerNs t.cmNs t.jtcName) env.fault).1
      have hc := conns_rosStage (t.withJoints ⟨env.listing, info, t.cmNs⟩)
        (controllerNs t.cmNs t.jtcName) env.fault
      split <;> exact ⟨hq, hc⟩

/-- `_on_jtc_change` keeps the queue, disconnects the oldest connection and
connects, if at all, with the next id. -/
theorem conns_jtcChange (s : Plugin) (name : String) (env : LoadEnv) :
    (s.step (.jtcChange name env)).queue = s.queue ∧
      s.nextConn ≤ (s.step (.jtcChange name env)).nextConn ∧
      ∀ c ∈ (s.step (.jtcChange name env)).stateConns,
        c ∈ s.stateConns.tail ∨ s.nextConn ≤ c ∧ c < (s.step (.jtcChange name env)).nextConn := by
  rw [show s.step (.jtcChange name env) = exec (onJtcChange name env) s from rfl, exec_onJtcChange]
  split
  · exact ⟨rfl, le_rfl, fun c hc => .inl hc⟩
  · obtain ⟨hq, hn, hc⟩ : s.releaseInterfaces.joined.clearJoints.queue = s.queue ∧
        s.releaseInterfaces.joined.clearJoints.nextConn = s.nextConn ∧
        s.releaseInterfaces.joined.clearJoints.stateConns = s.stateConns.tail := by
      rw [clearJoints, uncheck_eq, joined_eq]; exact ⟨rfl, rfl, rfl⟩
    split
    · exact ⟨hq, hn.ge, fun c h => .inl (hc ▸ h)⟩
    · obtain ⟨h1, h2, h3⟩ :=
        conns_loadJtc { s.releaseInterfaces.joined.clearJoints with jtcName := name } ‹_› env
      exact ⟨h1.trans hq, hn ▸ h2, fun c h => by simpa only [hc, hn] using h3 c h⟩

/-- **Connection ids are never reused**: an event removes connections or makes
new ones from the counter, which it never lowers. -/
theorem conns_step (s : Plugin) (e : Event) :
    s.nextConn ≤ (s.step e).nextConn ∧ ∀ c ∈ (s.step e).stateConns,
      c ∈ s.stateConns ∨ s.nextConn ≤ c ∧ c < (s.step e).nextConn := by
  by_cases hp : e.IsPassive
  · have hc := control_step hp s
    have hn : (s.step e).nextConn = s.nextConn := congrArg Control.nextConn hc
    have hconn : (s.step e).stateConns = s.stateConns := congrArg Control.stateConns hc
    rw [hn, hconn]
    exact ⟨le_rfl, fun c h => .inl h⟩
  · cases e with
    | jtcChange name env =>
      obtain ⟨-, h1, h2⟩ := conns_jtcChange s name env
      exact ⟨h1, fun c hc => (h2 c hc).imp_left List.mem_of_mem_tail⟩
    | enableClicked => rw [step_enableClicked, click_eq]; exact ⟨le_rfl, fun c h => .inl h⟩
    | shutdownPlugin =>
      rw [show s.step .shutdownPlugin = exec shutdownPlugin s from rfl, exec_shutdownPlugin]
      split
      · exact ⟨le_rfl, fun c h => .inl h⟩
      · rw [joined_eq]; exact ⟨le_rfl, fun c h => .inl h⟩
    | stateMessage sub msg =>
      rcases stateMessage_cases sub msg s with ⟨q, he⟩ | he <;> rw [he] <;>
        exact ⟨le_rfl, fun c h => .inl h⟩
    | _ => exact absurd trivial hp

/-- A connection that is used and no longer live never becomes live again. -/
theorem retired_run {c : Nat} :
    ∀ (es : List Event) {s : Plugin}, c ∉ s.stateConns → c < s.nextConn → c ∉ (s.run es).stateConns
  | [], _, hc, _ => hc
  | e :: es, s, hc, hn => by
    obtain ⟨h1, h2⟩ := conns_step s e
    exact retired_run es (fun h => (h2 c h).elim hc fun h' => absurd hn (not_lt.2 h'.1))
      (hn.trans_le h1)

/-- What one event does to the queue: it keeps or drops deliveries, and the
executor thread adds one per live connection, for a message of a live
subscription. -/
theorem queue_step (s : Plugin) (e : Event) :
    ∀ d ∈ (s.step e).queue, d ∈ s.queue ∨ d.conn ∈ s.stateConns ∧ d.sub ∈ s.subscriptions.map Prod.fst := by
  by_cases hp : e.IsPassive
  · intro d hd
    rcases queue_passive hp s with hq | hq <;> rw [hq] at hd
    · exact .inl hd
    · exact .inl (List.mem_of_mem_tail hd)
  · cases e with
    | jtcChange name env => intro d hd; exact .inl ((conns_jtcChange s name env).1 ▸ hd)
    | enableClicked => rw [step_enableClicked, click_eq]; exact fun d hd => .inl hd
    | shutdownPlugin =>
      rw [show s.step .shutdownPlugin = exec shutdownPlugin s from rfl, exec_shutdownPlugin]
      split
      · exact fun d hd => .inl hd
      · rw [joined_eq]; exact fun d hd => .inl hd
    | stateMessage sub msg =>
      rw [step_stateMessage]
      split
      · rename_i hlive
        split
        · intro d hd
          rcases List.mem_append.1 hd with hd | hd
          · exact .inl hd
          · obtain ⟨c, hc, rfl⟩ := List.mem_map.1 hd
            exact .inr ⟨hc, hlive.1⟩
        · exact fun d hd => .inl hd
      · exact fun d hd => .inl hd
    | _ => exact absurd trivial hp

/-- Only `_on_jtc_change` and `shutdown_plugin` write the subscription and the
connections. -/
theorem sub_conns_step {e : Event} (hj : ∀ name env, e ≠ .jtcChange name env)
    (hs : e ≠ .shutdownPlugin) (s : Plugin) :
    (s.step e).stateSub = s.stateSub ∧ (s.step e).stateConns = s.stateConns := by
  by_cases hp : e.IsPassive
  · have hc := control_step hp s
    exact ⟨congrArg Control.stateSub hc, congrArg Control.stateConns hc⟩
  · cases e with
    | jtcChange name env => exact absurd rfl (hj name env)
    | shutdownPlugin => exact absurd rfl hs
    | enableClicked => rw [step_enableClicked, click_eq]; exact ⟨rfl, rfl⟩
    | stateMessage sub msg =>
      rcases stateMessage_cases sub msg s with ⟨q, he⟩ | he <;> rw [he] <;> exact ⟨rfl, rfl⟩
    | _ => exact absurd trivial hp

/-- Connection ids come from the counter: every live connection and every
queued delivery has an id below it. -/
structure ConnInv (s : Plugin) : Prop where
  conns : ∀ c ∈ s.stateConns, c < s.nextConn
  queued : ∀ d ∈ s.queue, d.conn < s.nextConn

theorem ConnInv.step {s : Plugin} (h : ConnInv s) (e : Event) : ConnInv (s.step e) := by
  obtain ⟨hn, hc⟩ := conns_step s e
  refine ⟨fun c hc' => (hc c hc').elim (fun h' => (h.conns c h').trans_le hn) (·.2),
    fun d hd => ?_⟩
  rcases queue_step s e d hd with hd | ⟨hd, -⟩
  · exact (h.queued d hd).trans_le hn
  · exact (h.conns _ hd).trans_le hn

theorem connInv_of_reachable {s : Plugin} (h : Reachable s) : ConnInv s := by
  induction h with
  | init m => exact ⟨by simp [init], by simp [init]⟩
  | step e _ _ ih => exact ih.step e

theorem ResInv.stateConns_tail {s : Plugin} (h : ResInv s) : s.stateConns.tail = [] :=
  List.length_eq_zero.1 (by rw [List.length_tail]; exact Nat.sub_eq_zero_of_le h.conn)

/-- After `_on_jtc_change`, no delivery queued before it is on a live
connection, in any run. -/
theorem retired_jtcChange {s : Plugin} (hr : ResInv s) (hc : ConnInv s) (name : String)
    (env : LoadEnv) (es : List Event) :
    ∀ d ∈ s.queue, d.conn ∉ ((s.step (.jtcChange name env)).run es).stateConns := by
  obtain ⟨-, hn, h3⟩ := conns_jtcChange s name env
  intro d hd
  refine retired_run es (fun h => ?_) ((hc.queued d hd).trans_le hn)
  rcases h3 _ h with h' | ⟨h', -⟩
  · rw [hr.stateConns_tail] at h'; exact List.not_mem_nil _ h'
  · exact absurd (hc.queued d hd) (not_lt.2 h')

/-- A queued delivery on a live connection was posted from a message of the live
subscription. -/
def PostedLive (s : Plugin) : Prop :=
  ∀ d ∈ s.queue, d.conn ∈ s.stateConns → s.stateSub = some d.sub

theorem PostedLive.step {s : Plugin} (h : PostedLive s) (hr : ResInv s) (hc : ConnInv s)
    {e : Event} (he : e ≠ .shutdownPlugin) : PostedLive (s.step e) := by
  by_cases hj : ∃ name env, e = .jtcChange name env
  · obtain ⟨name, env, rfl⟩ := hj
    intro d hd hdc
    rw [(conns_jtcChange s name env).1] at hd
    exact absurd hdc (retired_jtcChange hr hc name env [] d hd)
  · push_neg at hj
    obtain ⟨hsub, hconn⟩ := sub_conns_step hj he s
    intro d hd hdc
    rw [hconn] at hdc
    rw [hsub]
    rcases queue_step s e d hd with hd | ⟨-, hlive⟩
    · exact h d hd hdc
    · exact hr.stateSub_of_live hlive

theorem postedLive_of_reachableBy {s : Plugin} (h : ReachableBy (· ≠ .shutdownPlugin) s) :
    PostedLive s := by
  induction h with
  | init m => intro d hd; simp [init] at hd
  | step e hs he ih =>
    exact ih.step (resInv_of_reachable hs.reachable) (connInv_of_reachable hs.reachable) he

/-- **No stale feedback crosses a rebind.**  On every run without
`shutdown_plugin`, the UI thread applies the oldest delivery only when its
connection is live, and then it was posted from a message of the live
subscription; otherwise it drops it.  And no delivery queued before an
`_on_jtc_change` is on a live connection in any run after it, so none is applied
to a later session. -/
theorem no_stale_feedback {s : Plugin} (hs : ReachableBy (· ≠ .shutdownPlugin) s) :
    (∀ d rest, s.queue = d :: rest →
      d.conn ∈ s.stateConns ∧ s.stateSub = some d.sub ∧
        s.step .jointStateDelivered = exec (onJointStateChange d.currentPos) { s with queue := rest } ∨
      d.conn ∉ s.stateConns ∧ s.step .jointStateDelivered = { s with queue := rest }) ∧
    ∀ name env es, ∀ d ∈ s.queue, d.conn ∉ ((s.step (.jtcChange name env)).run es).stateConns := by
  refine ⟨fun d rest hq => ?_, fun name env es => retired_jtcChange
    (resInv_of_reachable hs.reachable) (connInv_of_reachable hs.reachable) name env es⟩
  rw [step_jointStateDelivered, hq]
  by_cases hd : d.conn ∈ s.stateConns
  · exact .inl ⟨hd, postedLive_of_reachableBy hs d (hq ▸ List.mem_cons_self _ _) hd, if_pos hd⟩
  · exact .inr ⟨hd, if_neg hd⟩

/-- Controllers `a` and `b` share joint `j`.  A message on `a`'s subscription is
queued; `_on_jtc_change("b")` unloads `a` and binds `b` on subscription `4`; the
UI thread then drops the delivery of subscription `0`. -/
theorem stale_feedback_dropped_after_rebind :
    let a : ControllerInfo := ⟨"a", "JointTrajectoryController", "active", ["j/position"]⟩
    let b : ControllerInfo := ⟨"b", "JointTrajectoryController", "active", ["j/position"]⟩
    let d : Discovery := ⟨[a, b], fun _ => PyDict.empty.set "j" ⟨-1, 1, 1⟩⟩
    let s := (init 100).run [.cmChange "/cm" d, .jtcChange "a" ⟨[a, b], none⟩,
      .stateMessage 0 ⟨["j"], [7]⟩, .jtcChange "b" ⟨[a, b], none⟩]
    (ReachableBy (· ≠ .shutdownPlugin) s ∧ s.stateSub = some 4 ∧ s.queue.map (·.sub) = [0]) ∧
      (s.step .jointStateDelivered).jointPos = s.jointPos := by
  intro a b d s
  have hs : ReachableBy (· ≠ .shutdownPlugin) s := (ReachableBy.init 100).run _ (by simp)
  have hsub : s.stateSub = some 4 := by decide
  have hq : s.queue = [⟨0, 0, PyDict.empty.set "j" 7⟩] := by decide
  refine ⟨⟨hs, hsub, by rw [hq]; rfl⟩, ?_⟩
  rcases (no_stale_feedback hs).1 _ _ hq with ⟨-, h, -⟩ | ⟨-, h⟩
  · exact absurd (hsub.symm.trans h) (by decide)
  · rw [h]

end Plugin
end RqtJtc
