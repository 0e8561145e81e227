import Mathlib.Data.List.Basic

/-!
# The objects the upgrade workflow reads and writes

The `MarklogicCluster` custom resource as the interactive upgrade handler of
`internal/handler` sees it: the annotations that carry the workflow's state and the user's
intent signals, the part of the spec and status the handler reads or writes, and the
creation time. The rest of the object (group templates, persistence, log collection) is read
only by the normal reconciliation, which is not part of this development.

Three representation decisions:

* The annotation map is a record with one `Option String` field per key the workflow uses
  (`handler.Annotation*`); `none` is an absent key. `Annotations.get` reads an absent key as
  `""`, as a read of a Go map does, and `set` is both `annotations[k] = v` and
  `delete(annotations, k)`. The many other keys the package declares (pause, retry, force,
  rollback) are read by no function of the workflow.
* `time.Time` is an instant in nanoseconds together with the offset of the location it is
  shown in; a `time.Duration` is an `Int` of nanoseconds, and `Time.sub` saturates at the
  `int64` bounds as `t.Sub(u)` does.
* The upgrade state is stored as the annotation's string. `UpgradeState.parse` reads it back,
  and a value the workflow never writes (a hand-edited annotation) parses to `none`.
-/

namespace MarklogicUpgrade

/-! ### Time and events -/

/-- A `time.Time`: an instant, in nanoseconds since the Unix epoch, and the offset in seconds
east of UTC of the location it is shown in. -/
structure Time where
  unixNano : Int
  offset : Int := 0
deriving DecidableEq, Repr

/-- `time.Minute`, in nanoseconds. -/
def minute : Int := 60 * 1000000000

/-- `t.Sub(u)`: the duration from `u` to `t`, saturated to the range of `time.Duration`. -/
def Time.sub (t u : Time) : Int :=
  max (-9223372036854775808) (min 9223372036854775807 (t.unixNano - u.unixNano))

/-- `time.Since(t)`, read at the invocation's clock `now`. -/
def Time.since (now t : Time) : Int := now.sub t

/-- `corev1.EventTypeNormal`. -/
def eventTypeNormal : String := "Normal"

/-- `corev1.EventTypeWarning`. -/
def eventTypeWarning : String := "Warning"

/-- An event as `Recorder.Event(object, eventtype, reason, message)` records it. -/
structure Event where
  type : String
  reason : String
  message : String
deriving DecidableEq, Repr

/-! ### Conditions -/

/-- `metav1.ConditionTrue`. -/
def conditionTrue : String := "True"

/-- `metav1.ConditionFalse`. -/
def conditionFalse : String := "False"

/-- A `metav1.Condition`, without the `ObservedGeneration` the handler never sets. -/
structure Condition where
  type : String
  status : String
  reason : String
  message : String
  lastTransitionTime : Time
deriving DecidableEq, Repr

/-! ### Annotations -/

/-- The annotation keys the workflow reads or writes. -/
inductive AnnotationKey
  | triggerUpgrade
  | proceedUpgrade
  | cancelUpgrade
  | upgradeState
  | precheckResults
  | skipForestCheck
deriving DecidableEq, Repr

/-- The key strings, `handler.Annotation*`. -/
def AnnotationKey.key : AnnotationKey → String
  | triggerUpgrade => "marklogic.com/trigger-upgrade"
  | proceedUpgrade => "marklogic.com/proceed-with-upgrade"
  | cancelUpgrade => "marklogic.com/cancel-upgrade"
  | upgradeState => "marklogic.com/upgrade-state"
  | precheckResults => "marklogic.com/precheck-results"
  | skipForestCheck => "marklogic.com/skip-forest-check"

/-- The object's annotations at the workflow's keys; `none` is an absent key. -/
structure Annotations where
  triggerUpgrade : Option String := none
  proceedUpgrade : Option String := none
  cancelUpgrade : Option String := none
  upgradeState : Option String := none
  precheckResults : Option String := none
  skipForestCheck : Option String := none
deriving DecidableEq, Repr

namespace Annotations

/-- The value at a key, if present. -/
def get? (a : Annotations) : AnnotationKey → Option String
  | .triggerUpgrade => a.triggerUpgrade
  | .proceedUpgrade => a.proceedUpgrade
  | .cancelUpgrade => a.cancelUpgrade
  | .upgradeState => a.upgradeState
  | .precheckResults => a.precheckResults
  | .skipForestCheck => a.skipForestCheck

/-- `annotations[k]`: an absent key reads as the empty string. -/
def get (a : Annotations) (k : AnnotationKey) : String := (a.get? k).getD ""

/-- `annotations[k] = v` for `some v`, `delete(annotations, k)` for `none`. -/
def set (a : Annotations) : AnnotationKey → Option String → Annotations
  | .triggerUpgrade, v => { a with triggerUpgrade := v }
  | .proceedUpgrade, v => { a with proceedUpgrade := v }
  | .cancelUpgrade, v => { a with cancelUpgrade := v }
  | .upgradeState, v => { a with upgradeState := v }
  | .precheckResults, v => { a with precheckResults := v }
  | .skipForestCheck, v => { a with skipForestCheck := v }

@[simp]
theorem get?_set (a : Annotations) (k k' : AnnotationKey) (v : Option String) :
    (a.set k v).get? k' = if k' = k then v else a.get? k' := by
  cases k <;> cases k' <;> rfl

theorem get_eq_of_get? {a : Annotations} {k : AnnotationKey} {v : String}
    (h : a.get? k = some v) : a.get k = v := by
  simp [get, h]

/-- A key reads as a non-empty value exactly when it is present with that value. -/
theorem get_eq_iff {a : Annotations} {k : AnnotationKey} {v : String} (hv : v ≠ "") :
    a.get k = v ↔ a.get? k = some v := by
  unfold get
  cases a.get? k <;> simp [eq_comm, hv]

end Annotations

/-! ### Upgrade states -/

/-- The values of `handler.UpgradeState` (`UpgradeStatePrecheck` and
`UpgradeStateWaitingApproval` repeat the strings of `precheckStart` and `waitingUser`). -/
inductive UpgradeState
  | idle
  | precheckStart
  | precheckDone
  | waitingUser
  | inProgress
  | completed
  | failed
  | cancelled
  | paused
deriving DecidableEq, Repr

namespace UpgradeState

/-- The string each state is stored as. -/
def value : UpgradeState → String
  | idle => "Idle"
  | precheckStart => "PrecheckStarted"
  | precheckDone => "PrecheckCompleted"
  | waitingUser => "WaitingForUserApproval"
  | inProgress => "UpgradeInProgress"
  | completed => "UpgradeCompleted"
  | failed => "UpgradeFailed"
  | cancelled => "UpgradeCancelled"
  | paused => "UpgradePaused"

/-- Every state, in declaration order. -/
def all : List UpgradeState :=
  [idle, precheckStart, precheckDone, waitingUser, inProgress, completed, failed, cancelled,
    paused]

/-- The state a stored string names, if any. -/
def parse (s : String) : Option UpgradeState := all.find? fun x ↦ x.value = s

@[simp]
theorem parse_value (x : UpgradeState) : parse x.value = some x := by
  cases x <;> rfl

theorem value_injective : Function.Injective value := by
  intro x y h
  have hx := parse_value x
  rw [h, parse_value] at hx
  exact (Option.some.inj hx).symm

@[simp]
theorem value_inj {x y : UpgradeState} : x.value = y.value ↔ x = y :=
  value_injective.eq_iff

theorem parse_eq_some {s : String} {x : UpgradeState} : parse s = some x ↔ x.value = s := by
  constructor
  · intro h
    simpa using List.find?_some h
  · rintro rfl
    exact parse_value x

/-- The states that end an attempt. -/
def isTerminal : UpgradeState → Bool
  | completed | failed | cancelled => true
  | _ => false

end UpgradeState

/-! ### The cluster object -/

/-- A `MarklogicGroups` entry of the spec: the group's name, which is also the name of its
StatefulSet, and its `*Replicas` (a nil pointer is not modelled). -/
structure MarklogicGroups where
  name : String
  replicas : Int
deriving DecidableEq, Repr

/-- The part of `MarklogicClusterSpec` the upgrade workflow reads. -/
structure MarklogicClusterSpec where
  image : String
  markLogicGroups : List MarklogicGroups := []
deriving DecidableEq, Repr

/-- The part of `MarklogicClusterStatus` the upgrade workflow reads or writes. -/
structure MarklogicClusterStatus where
  currentImage : String := ""
  upgradeState : String := ""
  upgradePaused : Bool := false
  lastUpgradeTime : Option Time := none
  conditions : List Condition := []
deriving DecidableEq, Repr

/-- A `MarklogicCluster` object: name, namespace and creation time from its `ObjectMeta`,
its annotations, spec and status. -/
structure MarklogicCluster where
  name : String
  ns : String
  creationTimestamp : Time
  annotations : Annotations := {}
  spec : MarklogicClusterSpec
  status : MarklogicClusterStatus := {}
deriving DecidableEq, Repr

end MarklogicUpgrade
