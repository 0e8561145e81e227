import MarklogicUpgrade.Handler.Client
import MarklogicUpgrade.Handler.PrecheckJson
import MarklogicUpgrade.Handler.RollingUpgrade

/-!
# The upgrade handler

`UpgradeHandler` of `internal/handler`: `HandleUpgradeWorkflow` and the functions it calls, one
definition each under the source's name, in the `Handler` monad of one invocation.

`HandleUpgradeWorkflow` reads the stored state (an absent one is `Idle`), records the spec's
image as the baseline of a cluster it judges not yet deployed, sets `trigger-upgrade` itself
when a deployed cluster's spec image differs from the recorded one, returns early when `Idle`
has no trigger, checks `cancel-upgrade` before anything else, and otherwise dispatches on the
state. Every state change goes through `updateUpgradeStateWithResults` (an `Update` of the
annotations, then a `Status().Update` of the mirrored status) or `cleanupUpgradeAnnotations`
(the same two writes, the three control annotations deleted).

The precheck and rollout handlers are reached through `Collaborators`: the workflow is stated
for any answers they give, and `Collaborators.ofCode` are the code's own.
-/

namespace MarklogicUpgrade

/-- What the precheck and rollout handlers answer, on the in-memory object, in one
invocation: their events and their result. -/
structure Collaborators where
  startPrechecks : MarklogicCluster → List Event × Except String Unit
  checkPrecheckStatus : MarklogicCluster → List Event × Except String (Option PrecheckResults)
  startRollingUpgrade : MarklogicCluster → List Event × Except String Unit
  checkUpgradeStatus : MarklogicCluster → List Event × Except String Bool

/-- The code's own collaborators, at clock `now` and over the StatefulSets `get` reads. -/
def Collaborators.ofCode (now : Time) (get : ObjectKey → Option StatefulSet) : Collaborators where
  startPrechecks := PrecheckHandler.startPrechecks
  checkPrecheckStatus := PrecheckHandler.checkPrecheckStatus now
  startRollingUpgrade := RollingUpgradeHandler.startRollingUpgrade
  checkUpgradeStatus :=
    RollingUpgradeHandler.checkUpgradeStatus get RollingUpgradeHandler.performClusterHealthCheck

namespace UpgradeHandler

/-! ### Pure helpers -/

/-- `updateCondition`: replace the first condition of the new one's type, or append it. -/
def updateCondition : List Condition → Condition → List Condition
  | [], newCondition => [newCondition]
  | condition :: conditions, newCondition =>
    if condition.type = newCondition.type then newCondition :: conditions
    else condition :: updateCondition conditions newCondition

/-- `detectImageChanges`: a recorded image that differs from the spec's. -/
def detectImageChanges (cluster : MarklogicCluster) : Bool :=
  let currentImage := cluster.status.currentImage
  let desiredImage := cluster.spec.image
  if currentImage = "" then false else currentImage ≠ desiredImage

/-- `isClusterDeployed`, at clock `now`: a recorded image; otherwise, at least five minutes of
age together with a `Ready` or `Deployed` condition, or more than five minutes of age. -/
def isClusterDeployed (now : Time) (cluster : MarklogicCluster) : Bool :=
  if cluster.status.currentImage ≠ "" then true
  else if now.since cluster.creationTimestamp < 5 * minute then false
  else if cluster.status.conditions.any fun condition ↦
      (condition.type = "Ready" ∧ condition.status = conditionTrue) ∨
        (condition.type = "Deployed" ∧ condition.status = conditionTrue) then true
  else now.since cluster.creationTimestamp > 5 * minute

/-- `currentState` of `HandleUpgradeWorkflow`: the stored state, an absent or empty one read
as `Idle`. -/
def currentState (annotations : Annotations) : String :=
  let state := annotations.get .upgradeState
  if state = "" then UpgradeState.idle.value else state

/-- The in-memory edits of `updateUpgradeStateWithResults`: the state annotation, the report
when it encodes, and the status mirror with its `UpgradeInProgress` condition. -/
def stateEdits (now : Time) (state : UpgradeState) (results : Option PrecheckResults)
    (cluster : MarklogicCluster) : MarklogicCluster :=
  let annotations := cluster.annotations.set .upgradeState (some state.value)
  let annotations :=
    match results.map PrecheckResults.toJSON with
    | some (.ok resultsJson) => annotations.set .precheckResults (some resultsJson)
    | _ => annotations
  let terminal := state = .completed ∨ state = .failed ∨ state = .cancelled
  let condition : Condition :=
    { type := "UpgradeInProgress"
      status := if terminal then conditionFalse else conditionTrue
      reason := state.value
      message := "Upgrade workflow in state: " ++ state.value
      lastTransitionTime := now }
  { cluster with
    annotations := annotations
    status := { cluster.status with
      upgradePaused := state = .waitingUser
      upgradeState := state.value
      lastUpgradeTime := if state = .completed then some now else cluster.status.lastUpgradeTime
      conditions := updateCondition cluster.status.conditions condition } }

/-- The in-memory edits of `cleanupUpgradeAnnotations`: the final state, the three control
annotations deleted (the report kept), and the status mirror. -/
def cleanupEdits (now : Time) (finalState : UpgradeState) (cluster : MarklogicCluster) :
    MarklogicCluster :=
  let annotations := (((cluster.annotations.set .upgradeState (some finalState.value)).set
    .triggerUpgrade none).set .proceedUpgrade none).set .cancelUpgrade none
  let condition : Condition :=
    { type := "UpgradeInProgress"
      status := conditionFalse
      reason := finalState.value
      message := "Upgrade workflow completed with state: " ++ finalState.value
      lastTransitionTime := now }
  { cluster with
    annotations := annotations
    status := { cluster.status with
      upgradePaused := false
      upgradeState := finalState.value
      lastUpgradeTime :=
        if finalState = .completed then some now else cluster.status.lastUpgradeTime
      conditions := updateCondition cluster.status.conditions condition } }

section Edits

variable (now : Time) (state : UpgradeState) (results : Option PrecheckResults)
  (cluster : MarklogicCluster)

@[simp]
theorem stateEdits_spec : (stateEdits now state results cluster).spec = cluster.spec := rfl

@[simp]
theorem stateEdits_currentImage :
    (stateEdits now state results cluster).status.currentImage = cluster.status.currentImage :=
  rfl

/-- The state edit touches no annotation but the state and the report. -/
theorem stateEdits_get? {k : AnnotationKey} (hk : k ≠ .precheckResults) :
    (stateEdits now state results cluster).annotations.get? k =
      if k = .upgradeState then some state.value else cluster.annotations.get? k := by
  unfold stateEdits
  split <;> simp [hk]

@[simp]
theorem cleanupEdits_spec : (cleanupEdits now state cluster).spec = cluster.spec := rfl

@[simp]
theorem cleanupEdits_currentImage :
    (cleanupEdits now state cluster).status.currentImage = cluster.status.currentImage := rfl

/-- The cleanup sets the state, deletes the three control annotations and keeps the rest. -/
@[simp]
theorem cleanupEdits_get? (k : AnnotationKey) :
    (cleanupEdits now state cluster).annotations.get? k =
      if k = .cancelUpgrade ∨ k = .proceedUpgrade ∨ k = .triggerUpgrade then none
      else if k = .upgradeState then some state.value else cluster.annotations.get? k := by
  cases k <;> simp [cleanupEdits]

/-- The state edit upserts its condition. -/
theorem stateEdits_conditions : ∃ condition,
    (stateEdits now state results cluster).status.conditions =
      updateCondition cluster.status.conditions condition := ⟨_, rfl⟩

/-- The cleanup upserts its condition. -/
theorem cleanupEdits_conditions : ∃ condition,
    (cleanupEdits now state cluster).status.conditions =
      updateCondition cluster.status.conditions condition := ⟨_, rfl⟩

end Edits

/-- The trigger `HandleUpgradeWorkflow` sets on an image change. -/
def setTrigger (cluster : MarklogicCluster) : MarklogicCluster :=
  { cluster with annotations := cluster.annotations.set .triggerUpgrade (some "true") }

/-- Record the spec's image as `status.currentImage`. -/
def recordImage (cluster : MarklogicCluster) : MarklogicCluster :=
  { cluster with status := { cluster.status with currentImage := cluster.spec.image } }

@[simp]
theorem setTrigger_spec (cluster : MarklogicCluster) : (setTrigger cluster).spec = cluster.spec :=
  rfl

@[simp]
theorem setTrigger_status (cluster : MarklogicCluster) :
    (setTrigger cluster).status = cluster.status := rfl

@[simp]
theorem setTrigger_get? (cluster : MarklogicCluster) (k : AnnotationKey) :
    (setTrigger cluster).annotations.get? k =
      if k = .triggerUpgrade then some "true" else cluster.annotations.get? k := by
  simp [setTrigger]

/-- The reply to the `Update` that stores the trigger is the object with the trigger. -/
@[simp]
theorem setTrigger_reply (cluster : MarklogicCluster) :
    { cluster with annotations := (setTrigger cluster).annotations } = setTrigger cluster := rfl

@[simp]
theorem recordImage_spec (cluster : MarklogicCluster) : (recordImage cluster).spec = cluster.spec :=
  rfl

@[simp]
theorem recordImage_annotations (cluster : MarklogicCluster) :
    (recordImage cluster).annotations = cluster.annotations := rfl

@[simp]
theorem recordImage_conditions (cluster : MarklogicCluster) :
    (recordImage cluster).status.conditions = cluster.status.conditions := rfl

@[simp]
theorem recordImage_currentImage (cluster : MarklogicCluster) :
    (recordImage cluster).status.currentImage = cluster.spec.image := rfl

/-! ### The writes -/

variable (co : Collaborators) (now : Time)

/-- The two writes that end `updateUpgradeStateWithResults` and `cleanupUpgradeAnnotations`. -/
def writeBack : Handler Result := do
  update
  statusUpdate
  return {}

/-- `updateUpgradeStateWithResults`. -/
def updateUpgradeStateWithResults (state : UpgradeState) (results : Option PrecheckResults) :
    Handler Result := do
  modifyCluster (stateEdits now state results)
  writeBack

/-- `updateUpgradeState`. -/
def updateUpgradeState (state : UpgradeState) : Handler Result :=
  updateUpgradeStateWithResults now state none

/-- `cleanupUpgradeAnnotations`. -/
def cleanupUpgradeAnnotations (finalState : UpgradeState) : Handler Result := do
  modifyCluster (cleanupEdits now finalState)
  writeBack

/-- `updateStatusAfterDeployment` and `updateCurrentImages` share this body; they differ only
in their log lines. -/
def writeCurrentImage : Handler Unit := do
  modifyCluster recordImage
  statusUpdate

/-- `updateStatusAfterDeployment`. -/
def updateStatusAfterDeployment : Handler Unit := writeCurrentImage

/-- `updateCurrentImages`. -/
def updateCurrentImages : Handler Unit := writeCurrentImage

/-! ### The state handlers -/

/-- `handleIdleState`. -/
def handleIdleState (annotations : Annotations) : Handler Result := do
  if annotations.get .triggerUpgrade = "true" then
    match ← call co.startPrechecks with
    | .error err =>
      record eventTypeWarning "PrecheckFailed" ("Failed to start prechecks: " ++ err)
      updateUpgradeState now .failed
    | .ok () =>
      record eventTypeNormal "PrecheckStarted" "Upgrade prechecks started"
      updateUpgradeState now .precheckStart
  else return {}

/-- `handlePrecheckStartState`. -/
def handlePrecheckStartState (_annotations : Annotations) : Handler Result := do
  match ← call co.checkPrecheckStatus with
  | .error err =>
    record eventTypeWarning "PrecheckError" ("Error during prechecks: " ++ err)
    updateUpgradeState now .failed
  | .ok none => return { requeueAfter := 2 * minute }
  | .ok (some results) =>
    record eventTypeNormal "PrecheckCompleted"
      ("Prechecks completed with " ++ toString results.results.length ++ " checks")
    updateUpgradeStateWithResults now .precheckDone (some results)

/-- `handlePrecheckDoneState`. -/
def handlePrecheckDoneState (_annotations : Annotations) : Handler Result := do
  record eventTypeNormal "AwaitingApproval"
    ("Prechecks completed. Review results and set annotation " ++
      AnnotationKey.proceedUpgrade.key ++ "=true to proceed or " ++
      AnnotationKey.cancelUpgrade.key ++ "=true to cancel")
  updateUpgradeState now .waitingUser

/-- `handleWaitingUserState`. -/
def handleWaitingUserState (annotations : Annotations) : Handler Result := do
  if annotations.get .proceedUpgrade = "true" then
    record eventTypeNormal "UpgradeApproved" "User approved upgrade, starting rolling upgrade"
    match ← call co.startRollingUpgrade with
    | .error err =>
      record eventTypeWarning "UpgradeFailed" ("Failed to start rolling upgrade: " ++ err)
      updateUpgradeState now .failed
    | .ok () => updateUpgradeState now .inProgress
  else return { requeueAfter := 5 * minute }

/-- `handleInProgressState`. The error of `updateCurrentImages` is logged and ignored. -/
def handleInProgressState (_annotations : Annotations) : Handler Result := do
  match ← call co.checkUpgradeStatus with
  | .error err =>
    record eventTypeWarning "UpgradeError" ("Error during rolling upgrade: " ++ err)
    updateUpgradeState now .failed
  | .ok false => return { requeueAfter := 2 * minute }
  | .ok true =>
    record eventTypeNormal "UpgradeCompleted" "Rolling upgrade completed successfully"
    ignoreError updateCurrentImages
    cleanupUpgradeAnnotations now .completed

/-- `handleCancellation`: refused while the rollout is in progress. -/
def handleCancellation (annotations : Annotations) : Handler Result := do
  if annotations.get .upgradeState = UpgradeState.inProgress.value then
    record eventTypeWarning "CancellationDenied"
      "Cannot cancel upgrade while rolling upgrade is in progress"
    return {}
  else
    record eventTypeNormal "UpgradeCancelled" "Upgrade cancelled by user"
    cleanupUpgradeAnnotations now .cancelled

/-- The `switch` of `HandleUpgradeWorkflow` on the current state. -/
def dispatch (currentState : String) (annotations : Annotations) : Handler Result :=
  match UpgradeState.parse currentState with
  | some .idle => handleIdleState co now annotations
  | some .precheckStart => handlePrecheckStartState co now annotations
  | some .precheckDone => handlePrecheckDoneState now annotations
  | some .waitingUser => handleWaitingUserState co now annotations
  | some .inProgress => handleInProgressState co now annotations
  | some .completed | some .failed | some .cancelled => cleanupUpgradeAnnotations now .idle
  | _ => updateUpgradeState now .idle

/-- The part of `HandleUpgradeWorkflow` after the baseline and drift checks: the early return
of an untriggered `Idle`, the cancellation check first, then the dispatch. -/
def processWorkflow (currentState : String) : Handler Result := do
  let annotations := (← getCluster).annotations
  if currentState = UpgradeState.idle.value ∧ annotations.get .triggerUpgrade ≠ "true" then
    return {}
  if annotations.get .cancelUpgrade = "true" then
    handleCancellation now annotations
  else
    dispatch co now currentState annotations

/-- `HandleUpgradeWorkflow`. -/
def handleUpgradeWorkflow : Handler Result := do
  let cluster ← getCluster
  let currentState := currentState cluster.annotations
  if currentState = UpgradeState.idle.value ∧ ¬isClusterDeployed now cluster then
    updateStatusAfterDeployment
    return {}
  if currentState = UpgradeState.idle.value ∧ isClusterDeployed now cluster ∧
      detectImageChanges cluster then
    modifyCluster setTrigger
    update
  processWorkflow co now currentState

end UpgradeHandler

end MarklogicUpgrade
