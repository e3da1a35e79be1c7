import Mathlib.Algebra.Order.Field.Rat
import RqtJtc.PyDict

/-!
# Messages, limits and Python exceptions

The records the plugin reads and writes: a controller listing entry, a joint's
limits, the feedback and command messages, and the entry `_joint_pos[name]`.
Message schemas are opaque records in the spec; only the fields the plugin
touches are kept.  Positions, limits and durations are exact rationals.

A handler that raises stops where it raised and keeps what it already wrote;
`PyError` names the exceptions the code can raise.  `pyDiv` and `pyMax` are
Python's `/` and `max(list)`, which raise where Lean's would return a default.
-/

namespace RqtJtc

/-- The exceptions the plugin's handlers can raise. -/
inductive PyError
  | keyError
  | indexError
  | valueError
  | typeError
  | attributeError
  | runtimeError
  | zeroDivisionError
  | assertionError
  | stopIteration
  /-- An exception raised inside rclpy: an invalid topic, a failed executor setup. -/
  | rclpyError
  deriving DecidableEq, Repr

/-- `a / b` on floats: `ZeroDivisionError` when `b` is zero. -/
def pyDiv (a b : ℚ) : Except PyError ℚ :=
  if b = 0 then .error .zeroDivisionError else .ok (a / b)

/-- `max(xs)`: `ValueError` on an empty sequence. -/
def pyMax : List ℚ → Except PyError ℚ
  | [] => .error .valueError
  | x :: xs => .ok (xs.foldl max x)

@[simp] theorem pyDiv_of_ne {a b : ℚ} (h : b ≠ 0) : pyDiv a b = .ok (a / b) := by
  simp [pyDiv, h]

/-- A joint's limits, as `get_joint_limits` reports them. -/
structure JointLimits where
  minPosition : ℚ
  maxPosition : ℚ
  maxVelocity : ℚ
  deriving DecidableEq, Repr

/-- The fields of a listed controller the plugin reads. -/
structure ControllerInfo where
  name : String
  type : String
  state : String
  requiredStateInterfaces : List String
  deriving DecidableEq, Repr

/-- `JointTrajectoryControllerState`: `joint_names` and `feedback.positions`. -/
structure ControllerState where
  jointNames : List String
  positions : List ℚ
  deriving DecidableEq, Repr

/-- A `JointTrajectoryPoint`: `positions` and `time_from_start`, in seconds. -/
structure TrajectoryPoint where
  positions : List ℚ
  timeFromStart : ℚ
  deriving DecidableEq, Repr

/-- A `JointTrajectory` command. -/
structure JointTrajectory where
  jointNames : List String
  points : List TrajectoryPoint
  deriving DecidableEq, Repr

/-- `_joint_pos[name]`: a dict that holds `"position"` once feedback arrived and
`"command"` once an editor wrote one. -/
structure JointData where
  position : Option ℚ := none
  command : Option ℚ := none
  deriving DecidableEq, Repr

end RqtJtc
