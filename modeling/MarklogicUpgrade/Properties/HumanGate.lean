import MarklogicUpgrade.Controller.Frame

/-!
# The human gate

What reaches normal reconciliation, which applies `spec.image` to the workload, and when.

**The image at normal reconciliation** (`normalReconciliation_image`). When an invocation
that started in `Idle` or in an attempt in flight reaches normal reconciliation without
ending the attempt as `UpgradeFailed` or `UpgradeCancelled`, a recorded image equals the
spec's, unless it completed a rollout whose `updateCurrentImages` write failed: that error is
ignored, and the reply of the cleanup's `Update` brings the old image back into memory. The
exceptions are real: `Reconcile` lets normal reconciliation run in `UpgradeFailed`,
`UpgradeCancelled` and `UpgradeCompleted`, and nothing reverts `spec.image`. So a cancelled
attempt hands its unapproved image to the workload in the very invocation that cancels it, and
a completed one whose image was not recorded does the same (`unrecordedImage_reachesWorkload`).

**The approval gate** (`waitingUser_approval_startsRollout`). In
`WaitingForUserApproval`, `proceed-with-upgrade=true` starts the rollout and writes
`UpgradeInProgress` for every precheck report. The verdict the report carries is never read
(`failingPrechecks_approved`).

**A refused cancellation** (`cancellationDenied_wedges`). A cancellation refused in
`UpgradeInProgress` returns before the dispatch. The rollout is not polled, the signal is
not cleared and nothing is requeued, so every invocation refuses again, and skips normal
reconciliation, until a user writes `cancel-upgrade`; a converged rollout is never completed
meanwhile (`cancelledRollout_wedged`).
-/

namespace MarklogicUpgrade

open UpgradeHandler

/-! ### Normal reconciliation -/

theorem normalReconciliationAllowed_value (x : UpgradeState) :
    normalReconciliationAllowed x.value ↔
      x = .idle ∨ x = .completed ∨ x = .failed ∨ x = .cancelled := by
  cases x <;> decide

/-- What `Reconcile` needs to reach normal reconciliation: a workflow that returned without
error and without a requeue, on an object whose state allows it. -/
theorem reconcile_normal {env : Env} {s cl : MarklogicCluster} {r : Except String Result}
    (h : (reconcile env s).2 = .normal cl r) :
    ∃ q, Step env.now s env.writes q ∧ q.1.cluster = cl ∧
      (∃ res : Result, q.2 = .ok res ∧ ¬(res.requeue = true ∨ 0 < res.requeueAfter)) ∧
      normalReconciliationAllowed (cl.annotations.get .upgradeState) := by
  refine ⟨_, handleUpgradeWorkflow_step env.collaborators env.now s env.writes [], ?_⟩
  unfold reconcile at h
  split at h
  · cases h
  · next c res hw =>
    rw [hw]
    split_ifs at h with h1 h2
    cases h
    exact ⟨rfl, ⟨res, rfl, h1⟩, h2⟩

theorem detectImageChanges_eq_false {s : MarklogicCluster} (h : detectImageChanges s = false) :
    s.status.currentImage = "" ∨ s.status.currentImage = s.spec.image := by
  simp only [detectImageChanges] at h
  split_ifs at h with h0
  · exact .inl h0
  · exact .inr (by simpa using h)

theorem stateEdits_upgradeState (now : Time) (x : UpgradeState)
    (results : Option PrecheckResults) (cluster : MarklogicCluster) :
    (stateEdits now x results cluster).annotations.get .upgradeState = x.value :=
  Annotations.get_eq_of_get? (by rw [stateEdits_get? _ _ _ _ (by decide), if_pos rfl])

theorem cleanupEdits_upgradeState (now : Time) (x : UpgradeState) (cluster : MarklogicCluster) :
    (cleanupEdits now x cluster).annotations.get .upgradeState = x.value :=
  Annotations.get_eq_of_get? (by simp)

/-- The early return of an untriggered `Idle` happens only when the drift check did not
fire, on the object as it was handed. -/
theorem afterDrift_of_untriggered {s : MarklogicCluster}
    (ht : (afterDrift s).annotations.get .triggerUpgrade ≠ "true") :
    ¬Drifts s ∧ afterDrift s = s := by
  have hd : ¬Drifts s := fun hd ↦ ht (Annotations.get_eq_of_get? (by simp [afterDrift_get?, hd]))
  exact ⟨hd, if_neg hd⟩

/-- **The image at normal reconciliation.** An invocation that starts in `Idle` or in an
attempt in flight and reaches normal reconciliation, with a recorded image and a state other
than `UpgradeFailed` and `UpgradeCancelled`, hands it an object whose spec image is the
recorded one, unless it completed a rollout and its first write, the status write of
`updateCurrentImages`, failed. -/
theorem normalReconciliation_image (env : Env) (s cl : MarklogicCluster) (r : Except String Result)
    (hstart : phase s ∈ [some .idle, some .precheckStart, some .precheckDone, some .waitingUser,
      some .inProgress])
    (h : (reconcile env s).2 = .normal cl r)
    (hend : cl.annotations.get .upgradeState ≠ UpgradeState.failed.value ∧
      cl.annotations.get .upgradeState ≠ UpgradeState.cancelled.value)
    (himage : cl.status.currentImage ≠ "") :
    cl.spec.image = cl.status.currentImage ∨
      phase s = some .inProgress ∧ nextWriteFails env.writes = true := by
  obtain ⟨q, hq, hc, ⟨res, hr, hreq⟩, hallowed⟩ := reconcile_normal h
  subst hc
  simp only [phase, List.mem_cons, List.mem_singleton, List.not_mem_nil, or_false] at hstart
  cases hq with
  | baseline _ _ hc _ => rw [hc]; exact .inl rfl
  | driftNotStored _ _ _ _ hr' => rw [hr] at hr'; cases hr'
  | proceed _ he =>
    cases he with
    | quiet hquiet _ hc hr' =>
      rw [hr] at hr'
      cases hr'
      cases hquiet with
      | untriggered hp ht =>
        obtain ⟨hd, heq⟩ := afterDrift_of_untriggered ht
        rw [hc, heq] at himage ⊢
        have hdet : detectImageChanges s = false := by
          simpa [Drifts, phase, hp] using hd
        exact .inl ((detectImageChanges_eq_false hdet).resolve_left himage).symm
      | cancellationDenied _ hraw => rw [hc, hraw] at hallowed; exact absurd hallowed (by decide)
      | prechecksRunning | awaitingApproval | rolloutRunning =>
        exact absurd (.inr (by decide)) hreq
    | @advance x _ _ hx hpersists =>
      simp only [hpersists.cluster_of_ok hr, stateEdits_upgradeState] at hallowed hend
      have hlive : x = .idle ∨ x = .completed := by
        rcases (normalReconciliationAllowed_value x).1 hallowed with h | h | rfl | rfl
        exacts [.inl h, .inr h, absurd rfl hend.1, absurd rfl hend.2]
      cases hx
      case unknown hp => rcases hstart with h | h | h | h | h <;> rw [h] at hp <;> simp at hp
      all_goals rcases hlive with h | h <;> cases h
    | cleanup hx hpersists =>
      simp only [hpersists.cluster_of_ok hr, cleanupEdits_upgradeState] at hend
      cases hx with
      | cancelled => exact absurd rfl hend.2
      | reset _ hp => rcases hstart with h | h | h | h | h <;> rw [h] at hp <;> simp at hp
    | complete _ hp hpersists =>
      have hs : phase s = some .inProgress := hp
      have hd : ¬Drifts s := fun hd ↦ by rw [hd.1] at hs; cases hs
      rw [hpersists.cluster_of_ok hr]
      simp only [afterDrift, if_neg hd]
      by_cases hf : nextWriteFails env.writes = true
      · exact .inr ⟨hs, hf⟩
      · rw [if_neg hf]
        exact .inl rfl

/-! ### Fixtures -/

/-- A deployed cluster: created at time zero with image `11.3`, which is recorded; no upgrade
annotations. -/
def deployedCluster : MarklogicCluster :=
  { name := "c", ns := "default", creationTimestamp := ⟨0, 0⟩, spec := { image := "11.3" }
    status := { currentImage := "11.3" } }

/-- An hour after `deployedCluster` was created. -/
def anHourLater : Time := ⟨3600 * 1000000000, 0⟩

/-- The code's own collaborators an hour after creation, over a cluster with no StatefulSets;
every write succeeds, and normal reconciliation returns neither a requeue nor an error. -/
def codeEnv : Env :=
  { now := anHourLater, collaborators := Collaborators.ofCode anHourLater fun _ ↦ none
    reconsileMarklogicClusterHandler := fun _ ↦ .ok {} }

/-- `deployedCluster` rolling out `11.4`. -/
def rollingCluster : MarklogicCluster :=
  { deployedCluster with
    spec := { image := "11.4" }, annotations := { upgradeState := some "UpgradeInProgress" } }

theorem normalReconciliation_image_completed :
    let cl := (reconcile codeEnv rollingCluster).1.cluster
    (phase rollingCluster ∈ [some .idle, some .precheckStart, some .precheckDone,
        some .waitingUser, some .inProgress] ∧
      (reconcile codeEnv rollingCluster).2 = .normal cl (.ok ({} : Result)) ∧
      (cl.annotations.get .upgradeState ≠ UpgradeState.failed.value ∧
        cl.annotations.get .upgradeState ≠ UpgradeState.cancelled.value) ∧
      cl.status.currentImage ≠ "") ∧
    (cl.spec.image = cl.status.currentImage ∨
      phase rollingCluster = some .inProgress ∧ nextWriteFails codeEnv.writes = true) :=
  ⟨⟨by decide, by decide, by decide, by decide⟩,
    normalReconciliation_image codeEnv _ _ (.ok {}) (by decide) (by decide) (by decide) (by decide)⟩

/-- `codeEnv`, with the first write failing. -/
def firstWriteFails : Env := { codeEnv with writes := [some "the object has been modified"] }

/-- Two invocations hand normal reconciliation `11.4` in the spec with `11.3` recorded. The spec
moves to `11.4`, the drift check starts an attempt and the user cancels it: the invocation that
cancels. A rollout to `11.4` converges and the write of `updateCurrentImages` fails: the
invocation that completes it. -/
theorem unrecordedImage_reachesWorkload :
    let o := reconcile codeEnv (run deployedCluster [.user (.setImage "11.4"), .reconcile codeEnv,
      .user (.annotate .cancelUpgrade (some "true"))])
    let o' := reconcile firstWriteFails rollingCluster
    (o.2 = .normal o.1.cluster (.ok ({} : Result)) ∧ o.1.cluster.status.currentImage = "11.3" ∧
      o.1.cluster.spec.image = "11.4") ∧
    (o'.2 = .normal o'.1.cluster (.ok ({} : Result)) ∧ phase o'.1.cluster = some .completed ∧
      o'.1.cluster.status.currentImage = "11.3" ∧ o'.1.cluster.spec.image = "11.4") := by
  decide

/-! ### The approval gate -/

section Dispatch

variable (co : Collaborators) (now : Time)

/-- Outside `Idle` neither the baseline nor the drift check applies. -/
theorem handleUpgradeWorkflow_of_ne_idle {s : MarklogicCluster} (writes : List (Option String))
    (events : List Event) (hp : phase s ≠ some .idle) :
    handleUpgradeWorkflow co now ⟨s, s, writes, events⟩ =
      processWorkflow co now (currentState s.annotations) ⟨s, s, writes, events⟩ := by
  have h : currentState s.annotations ≠ UpgradeState.idle.value := fun h ↦ hp (phase_eq_idle.2 h)
  simp [handleUpgradeWorkflow, h]

/-- Outside `Idle` and without a cancellation, the handler dispatches on the state. -/
theorem processWorkflow_of_ne_idle {cs : String} {c : Ctx}
    (hp : UpgradeState.parse cs ≠ some .idle)
    (hc : c.cluster.annotations.get .cancelUpgrade ≠ "true") :
    processWorkflow co now cs c = dispatch co now cs c.cluster.annotations c := by
  have h : cs ≠ UpgradeState.idle.value := fun h ↦ hp (h ▸ UpgradeState.parse_value _)
  simp [processWorkflow, h, hc]

end Dispatch

/-- **The approval gate.** In `WaitingForUserApproval`, with `proceed-with-upgrade=true` and no
cancellation, an invocation whose rollout starts records the rollout's events and writes
`UpgradeInProgress`, as far as its writes succeed. Nothing in the statement constrains the
precheck report, stored or returned: the verdict is not read. -/
theorem waitingUser_approval_startsRollout (co : Collaborators) (now : Time)
    (s : MarklogicCluster) (writes : List (Option String)) (events : List Event)
    (hp : phase s = some .waitingUser) (hproceed : s.annotations.get .proceedUpgrade = "true")
    (hcancel : s.annotations.get .cancelUpgrade ≠ "true")
    (hstart : (co.startRollingUpgrade s).2 = .ok ()) :
    let p := handleUpgradeWorkflow co now ⟨s, s, writes, events⟩
    p.1.events = events ++ [⟨eventTypeNormal, "UpgradeApproved",
        "User approved upgrade, starting rolling upgrade"⟩] ++ (co.startRollingUpgrade s).1 ∧
      Persists (stateEdits now .inProgress none s) s p := by
  have hp' : UpgradeState.parse (currentState s.annotations) = some .waitingUser := hp
  rw [handleUpgradeWorkflow_of_ne_idle co now writes events (by rw [hp]; decide),
    processWorkflow_of_ne_idle co now (by rw [hp']; decide) hcancel]
  simp only [dispatch, hp',
    handleWaitingUserState, if_pos hproceed, Handler.bind_apply, record_apply, call_apply, hstart]
  obtain ⟨h, he⟩ := ends_of_writeBack (stateEdits now .inProgress none)
    ⟨s, s, writes, events ++ _ ++ (co.startRollingUpgrade s).1⟩
  exact ⟨he, h⟩

/-- A report whose cluster health check failed, so that it cannot proceed. -/
def failingReport : PrecheckResults :=
  let results : List PrecheckResult :=
    [{ name := "Cluster Health Check", status := "FAIL", message := "Node unreachable"
       timestamp := ⟨0, 0⟩, duration := "2.5s" }]
  { results := results, summary := PrecheckHandler.summarize results, timestamp := ⟨0, 0⟩
    clusterRef := "default/c" }

/-- `codeEnv`, with a precheck runner that completes with `failingReport`. -/
def failingPrechecksEnv : Env :=
  { codeEnv with
    collaborators := { codeEnv.collaborators with
      checkPrecheckStatus := fun _ ↦ ([], .ok (some failingReport)) } }

/-- A triggered attempt whose prechecks fail reaches `WaitingForUserApproval`, and a
`proceed-with-upgrade=true` then starts its rollout. -/
theorem failingPrechecks_approved :
    failingReport.summary.canProceed = false ∧
      phase (run deployedCluster [.user (.annotate .triggerUpgrade (some "true")),
        .reconcile failingPrechecksEnv, .reconcile failingPrechecksEnv,
        .reconcile failingPrechecksEnv]) = some .waitingUser ∧
      phase (run deployedCluster [.user (.annotate .triggerUpgrade (some "true")),
        .reconcile failingPrechecksEnv, .reconcile failingPrechecksEnv,
        .reconcile failingPrechecksEnv, .user (.annotate .proceedUpgrade (some "true")),
        .reconcile failingPrechecksEnv]) = some .inProgress := by
  decide

/-! ### A refused cancellation -/

/-- In `UpgradeInProgress` with `cancel-upgrade=true`, an invocation stores nothing and ends
with neither a requeue nor normal reconciliation, whatever the rollout reports. -/
theorem reconcile_cancellationDenied (env : Env) (s : MarklogicCluster)
    (hraw : s.annotations.get .upgradeState = UpgradeState.inProgress.value)
    (hcancel : s.annotations.get .cancelUpgrade = "true") :
    (reconcile env s).1.stored = s ∧ (reconcile env s).2 = .skipped := by
  have hp : UpgradeState.parse (currentState s.annotations) = some .inProgress := by
    simp only [currentState, hraw]
    decide
  have hd : afterDrift s = s := if_neg fun h ↦ by simp [Drifts, phase, hp] at h
  have hstep := handleUpgradeWorkflow_step env.collaborators env.now s env.writes []
  unfold reconcile
  generalize handleUpgradeWorkflow env.collaborators env.now ⟨s, s, env.writes, []⟩ = q at hstep ⊢
  cases hstep with
  | baseline hi => simp [phase, hp] at hi
  | driftNotStored hi => simp [Drifts, phase, hp] at hi
  | proceed _ he =>
    rw [hd] at he
    cases he with
    | quiet hq hs hc hr =>
      cases hq with
      | cancellationDenied =>
        obtain ⟨c, r⟩ := q
        simp only at hs hc hr
        subst hs hr
        simp [hc, hraw, normalReconciliationAllowed_value]
      | untriggered hi => simp [hp] at hi
      | prechecksRunning hc' | awaitingApproval hc' | rolloutRunning hc' => exact absurd hcancel hc'
    | advance hc' | complete hc' => exact absurd hcancel hc'
    | cleanup hx =>
      cases hx with
      | cancelled _ hr => exact absurd hraw hr
      | reset hc' => exact absurd hcancel hc'

/-- A step that writes no `cancel-upgrade` keeps a refused cancellation in place, and the
status with it. -/
theorem Action.apply_of_cancellationDenied {a : Action} {s : MarklogicCluster}
    (hraw : s.annotations.get .upgradeState = UpgradeState.inProgress.value)
    (hcancel : s.annotations.get .cancelUpgrade = "true")
    (ha : ∀ v, a ≠ .user (.annotate .cancelUpgrade v)) :
    (a.apply s).annotations.get .upgradeState = UpgradeState.inProgress.value ∧
      (a.apply s).annotations.get .cancelUpgrade = "true" ∧ (a.apply s).status = s.status := by
  cases a with
  | reconcile env =>
    rw [Action.apply, (reconcile_cancellationDenied env s hraw hcancel).1]
    exact ⟨hraw, hcancel, rfl⟩
  | user w =>
    have hw : ∀ k v, w = .annotate k v → k.key ≠ .cancelUpgrade := by
      rintro k v rfl hk
      exact ha v (by rw [IntentKey.key_injective (show k.key = IntentKey.cancelUpgrade.key from hk)])
    obtain ⟨hs, hst⟩ := UserWrite.apply_frame (fun k _ _ ↦ k.key_ne_upgradeState) s
    exact ⟨hs.trans hraw, (UserWrite.apply_frame hw s).1.trans hcancel, hst⟩

/-- **A refused cancellation wedges the attempt.** From an `UpgradeInProgress` object with
`cancel-upgrade=true`, along a run in which no user writes `cancel-upgrade`, every persisted
object keeps the state, the signal and the status, and every invocation on it stores nothing
and skips normal reconciliation, whatever the rollout reports. -/
theorem cancellationDenied_wedges (s : MarklogicCluster)
    (hraw : s.annotations.get .upgradeState = UpgradeState.inProgress.value)
    (hcancel : s.annotations.get .cancelUpgrade = "true") (as : List Action)
    (hkeep : ∀ v, .user (.annotate .cancelUpgrade v) ∉ as) :
    ∀ s' ∈ trace s as, s'.annotations.get .upgradeState = UpgradeState.inProgress.value ∧
      s'.annotations.get .cancelUpgrade = "true" ∧ s'.status = s.status ∧
      ∀ env, (reconcile env s').1.stored = s' ∧ (reconcile env s').2 = .skipped := by
  induction as generalizing s with
  | nil =>
    intro s' hs'
    rw [trace, List.mem_singleton] at hs'
    subst hs'
    exact ⟨hraw, hcancel, rfl, fun env ↦ reconcile_cancellationDenied env s' hraw hcancel⟩
  | cons a as ih =>
    simp only [List.mem_cons, not_or, forall_and] at hkeep
    obtain ⟨hraw', hcancel', hst⟩ :=
      Action.apply_of_cancellationDenied hraw hcancel fun v h ↦ hkeep.1 v h.symm
    intro s' hs'
    rcases List.mem_cons.1 hs' with rfl | hs'
    · exact ⟨hraw, hcancel, rfl, fun env ↦ reconcile_cancellationDenied env s' hraw hcancel⟩
    · obtain ⟨h1, h2, h3, h4⟩ := ih (a.apply s) hraw' hcancel' hkeep.2 s' hs'
      exact ⟨h1, h2, h3.trans hst, h4⟩

theorem cancellationDenied_wedges_rolling :
    let cancelled : MarklogicCluster := { deployedCluster with
      spec := { image := "11.4" },
      annotations := { upgradeState := some "UpgradeInProgress", cancelUpgrade := some "true" } }
    let as := [Action.reconcile codeEnv, .user (.annotate .proceedUpgrade (some "true")),
      .user (.setImage "11.5"), .reconcile codeEnv]
    (cancelled.annotations.get .upgradeState = UpgradeState.inProgress.value ∧
      cancelled.annotations.get .cancelUpgrade = "true" ∧
      ∀ v, .user (.annotate .cancelUpgrade v) ∉ as) ∧
    ∀ s' ∈ trace cancelled as, s'.annotations.get .upgradeState = UpgradeState.inProgress.value ∧
      s'.annotations.get .cancelUpgrade = "true" ∧ s'.status = cancelled.status ∧
      ∀ env, (reconcile env s').1.stored = s' ∧ (reconcile env s').2 = .skipped :=
  ⟨⟨by decide, by decide, by simp⟩,
    cancellationDenied_wedges _ (by decide) (by decide) _ (by simp)⟩

/-- A rollout over a cluster with no groups has converged and is healthy at once: without a
cancellation the invocation completes it, with one it stores nothing and skips normal
reconciliation. -/
theorem cancelledRollout_wedged :
    let rolling : MarklogicCluster := { deployedCluster with
      spec := { image := "11.4" }, annotations := { upgradeState := some "UpgradeInProgress" } }
    let cancelled : MarklogicCluster := { rolling with
      annotations := { upgradeState := some "UpgradeInProgress", cancelUpgrade := some "true" } }
    (reconcile codeEnv rolling).1.stored.annotations.get .upgradeState = "UpgradeCompleted" ∧
      (reconcile codeEnv cancelled).1.stored = cancelled ∧
      (reconcile codeEnv cancelled).2 = .skipped := by
  decide

end MarklogicUpgrade
