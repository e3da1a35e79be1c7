import Mathlib.Data.List.Infix
import RqtJtc.Basic

/-!
# Joint names, controller namespaces and the controller filters

The module-level functions of the plugin: `_jtc_joint_names`, which derives a
controller's joints from its required state interfaces, and
`_resolve_controller_ns`, which places a controller next to its controller
manager.  Python's `str.split` with a one-character separator is `pySplit`,
written by structural recursion on the characters so that it evaluates;
`str.join` is `String.intercalate`.

`filter_by_type` and `filter_by_state` live in the package's `utils` module,
which is not part of the sources; they are modelled from the spec.
-/

namespace RqtJtc

/-- `split` on a character list: the pieces between the separators, empty
pieces included. -/
def splitChars (sep : Char) : List Char → List (List Char)
  | [] => [[]]
  | c :: cs =>
    match splitChars sep cs with
    | [] => [[c]]
    | w :: ws => if c = sep then [] :: w :: ws else (c :: w) :: ws

/-- `s.split(sep)` for a one-character separator. -/
def pySplit (s : String) (sep : Char) : List String :=
  (splitChars sep s.toList).map String.mk

/-- `"/".join(interface.split("/")[:-1])`: an interface name without its last
segment. -/
def stripInterface (interface : String) : String :=
  "/".intercalate (pySplit interface '/').dropLast

/-- `_jtc_joint_names`: the stripped interface names, each kept at its first
occurrence. -/
def jtcJointNames (info : ControllerInfo) : List String :=
  info.requiredStateInterfaces.foldl
    (fun names interface =>
      let name := stripInterface interface
      if name ∈ names then names else names ++ [name]) []

/-- `s.rsplit("/", 1)[0]`: the text before the last `/`, or `s` itself when it
has none. -/
def rsplitHead (s : String) : String :=
  match pySplit s '/' with
  | [_] => s
  | parts => "/".intercalate parts.dropLast

/-- The namespace `_resolve_controller_ns` builds: the parent of `cmNs`, a `/`
unless the parent is the root `/` itself, and the controller's name. -/
def controllerNs (cmNs controllerName : String) : String :=
  let ns := rsplitHead cmNs
  (if ns ≠ "/" then ns ++ "/" else ns) ++ controllerName

/-- `_resolve_controller_ns`; the `assert controller_name` is the
`AssertionError`. -/
def resolveControllerNs (cmNs controllerName : String) : Except PyError String :=
  if controllerName = "" then .error .assertionError else .ok (controllerNs cmNs controllerName)

/-- Modelled from the spec: `filter_by_type(controller_list, type,
match_substring=True)` keeps the controllers whose type contains `type`. -/
def filterByType (controllers : List ControllerInfo) (type : String) :
    List ControllerInfo :=
  controllers.filter fun c => decide (type.toList <:+: c.type.toList)

/-- Modelled from the spec: `filter_by_state(controller_list, state)` keeps the
controllers in that state. -/
def filterByState (controllers : List ControllerInfo) (state : String) :
    List ControllerInfo :=
  controllers.filter fun c => c.state = state

/-- The filters of `_running_jtc_info`, applied to one answer of the lister. -/
def runningJtc (listing : List ControllerInfo) : List ControllerInfo :=
  filterByState (filterByType listing "JointTrajectoryController") "active"

/-! ## Joint-name extraction keeps one copy of each name -/

private theorem foldl_dedup_nodup (interfaces : List String) (names : List String)
    (h : names.Nodup) :
    (interfaces.foldl (fun names interface =>
      let name := stripInterface interface
      if name ∈ names then names else names ++ [name]) names).Nodup := by
  induction interfaces generalizing names with
  | nil => exact h
  | cons i is ih =>
    apply ih
    by_cases hm : stripInterface i ∈ names
    · simpa [hm] using h
    · simpa [hm, List.nodup_append] using h

/-- **A controller's joint list has no duplicates.** -/
theorem jtcJointNames_nodup (info : ControllerInfo) : (jtcJointNames info).Nodup :=
  foldl_dedup_nodup _ _ List.nodup_nil

example : resolveControllerNs "/path/to/controller_manager" "foo" = .ok "/path/to/foo" := rfl

example : jtcJointNames ⟨"c", "t", "active", ["j1/position", "j1/velocity", "j2/position"]⟩ =
    ["j1", "j2"] := by decide

end RqtJtc
