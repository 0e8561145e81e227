import MarklogicUpgrade.Handler.Upgrade

/-!
# The reconciler, and runs of it

`MarklogicClusterReconciler.Reconcile` from the point where the cluster has been fetched: the
upgrade workflow runs first; its error or its requeue ends the invocation; otherwise the
normal reconciliation `cc.ReconsileMarklogicClusterHandler()` runs on the in-memory object,
unless the upgrade state it now holds is one of those that hold normal reconciliation back
(anything but absent, `Idle`, `UpgradeCompleted`, `UpgradeFailed` and `UpgradeCancelled`).
Normal reconciliation lives in `k8sutil`, which is not part of this development: each
invocation meets it as `Env.reconsileMarklogicClusterHandler`, its `ctrl.Result` and error on
the object it is handed. `ReconcileOutcome.normal` records that object, which is what it applies
to the workload, and what it returned, which `Reconcile` returns (`ReconcileOutcome.returned`).

A run interleaves invocations with the user's writes: annotating the cluster with one of the
intent keys, or changing `spec.image`. Each invocation meets its own `Env`: clock,
collaborators' answers, write outcomes and what normal reconciliation returns. The persisted
object is the only state carried from one step to the next.
-/

namespace MarklogicUpgrade

/-- What `Reconcile` does after the upgrade workflow. -/
inductive ReconcileOutcome
  /-- The workflow failed; `Reconcile` returns its error. -/
  | error (err : String)
  /-- The workflow asked to be called again; normal reconciliation is skipped. -/
  | requeue (result : Result)
  /-- The upgrade state holds normal reconciliation back. -/
  | skipped
  /-- Normal reconciliation ran on this object and returned `result`. -/
  | normal (cluster : MarklogicCluster) (result : Except String Result)
deriving DecidableEq, Repr

/-- The workflow failed. -/
def ReconcileOutcome.isError : ReconcileOutcome → Bool
  | error _ => true
  | _ => false

/-- What `Reconcile` returns: its `ctrl.Result`, or its error. -/
def ReconcileOutcome.returned : ReconcileOutcome → Except String Result
  | error err => .error err
  | requeue result => .ok result
  | skipped => .ok {}
  | normal _ result => result

/-- Everything one invocation meets: the clock, the collaborators' answers, the outcomes of its
writes, in order, and what normal reconciliation returns. -/
structure Env where
  now : Time
  collaborators : Collaborators
  writes : List (Option String) := []
  /-- `cc.ReconsileMarklogicClusterHandler()`, on the object it is handed. -/
  reconsileMarklogicClusterHandler : MarklogicCluster → Except String Result

/-- The upgrade states in which `Reconcile` lets normal reconciliation run. -/
def normalReconciliationAllowed (upgradeState : String) : Prop :=
  upgradeState = "" ∨ upgradeState = UpgradeState.idle.value ∨
    upgradeState = UpgradeState.completed.value ∨ upgradeState = UpgradeState.failed.value ∨
    upgradeState = UpgradeState.cancelled.value

instance (upgradeState : String) : Decidable (normalReconciliationAllowed upgradeState) :=
  inferInstanceAs (Decidable (_ ∨ _))

/-- `Reconcile`, on the fetched object `cluster`. -/
def reconcile (env : Env) (cluster : MarklogicCluster) : Ctx × ReconcileOutcome :=
  match UpgradeHandler.handleUpgradeWorkflow env.collaborators env.now
      ⟨cluster, cluster, env.writes, []⟩ with
  | (c, .error err) => (c, .error err)
  | (c, .ok result) =>
    if result.requeue ∨ 0 < result.requeueAfter then (c, .requeue result)
    else if normalReconciliationAllowed (c.cluster.annotations.get .upgradeState) then
      (c, .normal c.cluster (env.reconsileMarklogicClusterHandler c.cluster))
    else (c, .skipped)

/-! ### Runs -/

/-- The annotations a user writes to steer the workflow. -/
inductive IntentKey
  | triggerUpgrade
  | proceedUpgrade
  | cancelUpgrade
  | skipForestCheck
deriving DecidableEq, Repr

/-- The annotation key of an intent. -/
def IntentKey.key : IntentKey → AnnotationKey
  | triggerUpgrade => .triggerUpgrade
  | proceedUpgrade => .proceedUpgrade
  | cancelUpgrade => .cancelUpgrade
  | skipForestCheck => .skipForestCheck

/-- A write by the user: `kubectl annotate` of an intent key (`none` removes it), or an edit
of `spec.image`. -/
inductive UserWrite
  | annotate (key : IntentKey) (value : Option String)
  | setImage (image : String)
deriving DecidableEq, Repr

/-- The object after a user's write. -/
def UserWrite.apply : UserWrite → MarklogicCluster → MarklogicCluster
  | annotate key value, s => { s with annotations := s.annotations.set key.key value }
  | setImage image, s => { s with spec := { s.spec with image := image } }

/-- One step of a run. -/
inductive Action
  /-- An invocation of `Reconcile`. -/
  | reconcile (env : Env)
  /-- A user's write. -/
  | user (write : UserWrite)

/-- The persisted object after a step. -/
def Action.apply : Action → MarklogicCluster → MarklogicCluster
  | reconcile env, s => (MarklogicUpgrade.reconcile env s).1.stored
  | user write, s => write.apply s

/-- The persisted object after a run. -/
def run : MarklogicCluster → List Action → MarklogicCluster
  | s, [] => s
  | s, a :: as => run (a.apply s) as

/-- The persisted objects a run passes through, the first and the last included. -/
def trace : MarklogicCluster → List Action → List MarklogicCluster
  | s, [] => [s]
  | s, a :: as => s :: trace (a.apply s) as

@[simp]
theorem run_nil (s : MarklogicCluster) : run s [] = s := rfl

@[simp]
theorem run_cons (s : MarklogicCluster) (a : Action) (as : List Action) :
    run s (a :: as) = run (a.apply s) as := rfl

theorem run_append (s : MarklogicCluster) (as bs : List Action) :
    run s (as ++ bs) = run (run s as) bs := by
  induction as generalizing s with
  | nil => rfl
  | cons a as ih => exact ih (a.apply s)

/-- A property every step of a run keeps holds of every object the run passes through. -/
theorem mem_trace_of_step {P : MarklogicCluster → Prop} {as : List Action}
    (hstep : ∀ a ∈ as, ∀ s, P s → P (a.apply s)) {s : MarklogicCluster} (hs : P s) :
    ∀ s' ∈ trace s as, P s' := by
  induction as generalizing s with
  | nil => simpa [trace] using hs
  | cons a as ih =>
    simp only [trace, List.mem_cons, forall_eq_or_imp]
    exact ⟨hs, ih (fun b hb ↦ hstep b (List.mem_cons_of_mem a hb)) (hstep a (by simp) s hs)⟩

@[simp]
theorem run_concat (s : MarklogicCluster) (as : List Action) (a : Action) :
    run s (as ++ [a]) = a.apply (run s as) := by
  rw [run_append]; rfl

end MarklogicUpgrade
