import MarklogicUpgrade.Api.Types

/-!
# The rolling-upgrade handler

`RollingUpgradeHandler` of `internal/handler`: starting a rollout and polling it. Both are
simulations in the code. `StartRollingUpgrade` records five progress events and succeeds;
`CheckUpgradeStatus` reads, for every group of the spec, the StatefulSet of the same name in the
cluster's namespace, and calls the rollout converged when each has as many ready replicas as
its group asks for and the cluster health check then passes.

The StatefulSets are read through `get`, which stands for `r.Get`: `none` is any failed read,
a missing object included, and counts as a group not yet upgraded. The health check is a
parameter `probe` so that the gate can be stated for any verdict; the code's own,
`performClusterHealthCheck`, always passes.

**The gate** (`checkUpgradeStatus_converged_iff`): the poll answers `true` exactly when every
group has converged and the probe, which runs only then, passes; the probe's events appear in
the record exactly when every group has converged. Nothing depends on the order of the groups.
-/

namespace MarklogicUpgrade

/-- `client.ObjectKey`. -/
structure ObjectKey where
  ns : String
  name : String
deriving DecidableEq, Repr

/-- The status of an `appsv1.StatefulSet`, as far as the handler reads it. -/
structure StatefulSet where
  readyReplicas : Int
deriving DecidableEq, Repr

/-- A health probe: the events it records and its verdict. -/
abbrev HealthProbe := MarklogicCluster → List Event × Except String Bool

namespace RollingUpgradeHandler

/-- `performRollingUpgrade`: five simulated steps, one event each; it always succeeds. -/
def performRollingUpgrade (_cluster : MarklogicCluster) : List Event × Except String Unit :=
  (["Updating cluster specification", "Rolling out new image to StatefulSets",
      "Waiting for pod updates", "Validating cluster health",
      "Finalizing upgrade configuration"].map fun step ↦ ⟨eventTypeNormal, "UpgradeProgress", step⟩,
    .ok ())

/-- `StartRollingUpgrade`. -/
def startRollingUpgrade (cluster : MarklogicCluster) : List Event × Except String Unit :=
  let (events, result) := performRollingUpgrade cluster
  (⟨eventTypeNormal, "RollingUpgradeStarted", "Rolling upgrade initiated"⟩ :: events, result)

/-- `performClusterHealthCheck`: five simulated checks, then a pass. -/
def performClusterHealthCheck : HealthProbe := fun _ ↦
  ((["Checking MarkLogic cluster status", "Validating node connectivity",
        "Testing database access", "Verifying cluster configuration",
        "Running basic functionality tests"].map fun check ↦
      ⟨eventTypeNormal, "HealthCheck", check⟩) ++
    [⟨eventTypeNormal, "HealthCheckPassed", "Post-upgrade cluster health check passed"⟩],
    .ok true)

variable (get : ObjectKey → Option StatefulSet) (probe : HealthProbe)
  (cluster : MarklogicCluster)

/-- `checkStatefulSetUpgradeStatus`: the group's StatefulSet has as many ready replicas as the
group asks for. A failed read is "still in progress", not an error. -/
def checkStatefulSetUpgradeStatus (group : MarklogicGroups) : Except String Bool :=
  match get ⟨cluster.ns, group.name⟩ with
  | none => .ok false
  | some sts => .ok (sts.readyReplicas = group.replicas)

/-- `checkUpgradeProgress`: the loop over the groups with its `allUpdated` accumulator, then
the health check when every group is updated. -/
def checkUpgradeProgress : List Event × Except String Bool :=
  let allUpdated := cluster.spec.markLogicGroups.foldlM (fun allUpdated group ↦ do
      let updated ← checkStatefulSetUpgradeStatus get cluster group
      return allUpdated && updated) true
  match allUpdated with
  | .error err => ([], .error err)
  | .ok false => ([], .ok false)
  | .ok true => probe cluster

/-- `CheckUpgradeStatus`: the progress check, with an event when it reports completion. -/
def checkUpgradeStatus : List Event × Except String Bool :=
  let (events, completed) := checkUpgradeProgress get probe cluster
  match completed with
  | .ok true =>
    (events ++ [⟨eventTypeNormal, "RollingUpgradeCompleted",
      "Rolling upgrade completed successfully"⟩], .ok true)
  | completed => (events, completed)

/-- A group has converged: its StatefulSet exists in the cluster's namespace with
`ReadyReplicas` equal to the group's `Replicas`. -/
def Converged (group : MarklogicGroups) : Prop :=
  ∃ sts, get ⟨cluster.ns, group.name⟩ = some sts ∧ sts.readyReplicas = group.replicas

instance (group : MarklogicGroups) : Decidable (Converged get cluster group) :=
  decidable_of_iff ((get ⟨cluster.ns, group.name⟩).any fun sts ↦ sts.readyReplicas = group.replicas)
    (by unfold Converged; cases get ⟨cluster.ns, group.name⟩ <;> simp)

theorem checkStatefulSetUpgradeStatus_eq (group : MarklogicGroups) :
    checkStatefulSetUpgradeStatus get cluster group =
      .ok (decide (Converged get cluster group)) := by
  unfold checkStatefulSetUpgradeStatus
  split <;> simp_all [Converged]

/-- The loop never fails, and its accumulator ends as the conjunction over all groups. -/
theorem foldlM_allUpdated (groups : List MarklogicGroups) (acc : Bool) :
    groups.foldlM (fun allUpdated group ↦ do
        let updated ← checkStatefulSetUpgradeStatus get cluster group
        return allUpdated && updated) acc =
      .ok (acc && decide (∀ g ∈ groups, Converged get cluster g)) := by
  induction groups generalizing acc with
  | nil => simp [pure, Except.pure]
  | cons g gs ih =>
    simp only [List.foldlM_cons, checkStatefulSetUpgradeStatus_eq, bind, Except.bind, pure,
      Except.pure] at ih ⊢
    rw [ih]
    cases acc <;> by_cases h : Converged get cluster g <;> simp [h]

/-- The progress check calls the probe exactly when every group has converged, and then
answers with the probe's verdict. -/
theorem checkUpgradeProgress_eq :
    checkUpgradeProgress get probe cluster =
      if ∀ g ∈ cluster.spec.markLogicGroups, Converged get cluster g then probe cluster
      else ([], .ok false) := by
  unfold checkUpgradeProgress
  rw [foldlM_allUpdated]
  by_cases h : ∀ g ∈ cluster.spec.markLogicGroups, Converged get cluster g
  · simp [if_pos h, decide_eq_true h]
  · simp [if_neg h, decide_eq_false h]

/-- **The convergence gate.** `CheckUpgradeStatus` answers `(true, nil)` exactly when every
group has converged and the health probe passes; the probe runs, and records its events,
only when every group has converged. -/
theorem checkUpgradeStatus_converged_iff :
    ((checkUpgradeStatus get probe cluster).2 = .ok true ↔
        (∀ g ∈ cluster.spec.markLogicGroups, Converged get cluster g) ∧
          (probe cluster).2 = .ok true) ∧
      (checkUpgradeProgress get probe cluster).1 =
        if ∀ g ∈ cluster.spec.markLogicGroups, Converged get cluster g then (probe cluster).1
        else [] := by
  unfold checkUpgradeStatus
  rw [checkUpgradeProgress_eq]
  by_cases h : ∀ g ∈ cluster.spec.markLogicGroups, Converged get cluster g
  · rcases hp : probe cluster with ⟨events, _ | _ | _⟩ <;> simp [if_pos h, hp]
    exact h
  · simp [if_neg h, h]

end RollingUpgradeHandler

end MarklogicUpgrade
