import MarklogicUpgrade.Properties.Lifecycle

/-!
# An upgrade goes through

The lifecycle (`Properties.Lifecycle`) says where the workflow may go; this module says that it
gets there: from `Idle` with an image change, under invocations that meet no failure, the
upgrade reaches `WaitingForUserApproval` after three invocations, and after the user's
`proceed-with-upgrade=true` it completes and is reset to `Idle` in three more, with the new image
recorded. It then rests: every later invocation, whatever it meets, stores the object it was
handed, until the user changes the image again.

## What an invocation must meet

"No failure" is an assumption on the environment, stated per invocation: its writes go through
(`WritesSucceed`), and the collaborator it calls answers success when asked about the cluster
(`SameCluster`: the objects a run passes through differ from its start only in annotations and
status). The code's own collaborators meet it at every state but `UpgradeInProgress`, where
`CheckUpgradeStatus` answers success exactly when every group's StatefulSet has converged
(`Collaborators.ofCode_answers`).

## Where it waits

The converse question is where the workflow can stop. An invocation whose writes go through
keeps the state it found only while it waits on the user (no trigger, no approval, a refused
or repeated cancellation), on a collaborator (prechecks running, rollout not converged), or on
the cluster's deployment; in every other case it moves the state (`reconcile_keepsState_iff`).

## When it asks to be called again

Of those waits, `Reconcile` polls three: prechecks still running, a missing approval and a
rollout not converged, after two, five and two minutes, and skips normal reconciliation. Every
other requeue it returns is normal reconciliation's own; the workflow, whatever its writes meet,
waits for a change of the object, after a refused cancellation too (`reconcile_requeue_iff`).

## How it is proved

One lemma per state of the handler gives the object that state's invocation stores when it
meets no failure (`reconcile_startsPrechecks` to `reconcile_resets`), and one gives the rest
(`reconcile_atRest`). The run theorem chains them; no lemma of it unfolds the handler twice.
The characterization of waiting splits the same way: `Idle`, a cancellation, and the dispatch.
-/

namespace MarklogicUpgrade

open UpgradeHandler

/-! ### Writes that go through -/

/-- Every write of an invocation goes through. -/
def WritesSucceed (writes : List (Option String)) : Prop := ∀ w ∈ writes, w = none

theorem WritesSucceed.tail {writes : List (Option String)} (h : WritesSucceed writes) :
    WritesSucceed writes.tail := fun w hw ↦ h w (List.mem_of_mem_tail hw)

theorem write_of_writesSucceed (put : MarklogicCluster → MarklogicCluster → MarklogicCluster)
    {cluster stored : MarklogicCluster} {writes : List (Option String)} {events : List Event}
    (hw : WritesSucceed writes) :
    write put ⟨cluster, stored, writes, events⟩ =
      (⟨put cluster stored, put cluster stored, writes.tail, events⟩, .ok ()) := by
  rcases writes with _ | ⟨_ | err, ws⟩
  all_goals first
    | rfl
    | simp [WritesSucceed] at hw

/-- Both writes of a state change go through: the annotations are stored, and the status is
written back as it was stored. -/
theorem writeBack_of_writesSucceed {cluster stored : MarklogicCluster}
    {writes : List (Option String)} {events : List Event} (hw : WritesSucceed writes) :
    writeBack ⟨cluster, stored, writes, events⟩ =
      (⟨{ stored with annotations := cluster.annotations },
        { stored with annotations := cluster.annotations }, writes.tail.tail, events⟩, .ok {}) := by
  simp only [writeBack, update, statusUpdate, Handler.bind_apply, write_of_writesSucceed _ hw,
    write_of_writesSucceed _ hw.tail, Handler.pure_apply]

theorem writeCurrentImage_of_writesSucceed {cluster stored : MarklogicCluster}
    {writes : List (Option String)} {events : List Event} (hw : WritesSucceed writes) :
    writeCurrentImage ⟨cluster, stored, writes, events⟩ =
      (⟨{ stored with status := (recordImage cluster).status },
        { stored with status := (recordImage cluster).status }, writes.tail, events⟩, .ok ()) := by
  simp only [writeCurrentImage, statusUpdate, Handler.bind_apply, modifyCluster_apply,
    write_of_writesSucceed _ hw]

/-! ### One cluster -/

/-- Two objects of one cluster: the same name, namespace, creation time and spec. The workflow
and the user's annotations change only annotations and status, so every object of a run
without an image edit is of the cluster the run started from. -/
def SameCluster (c s : MarklogicCluster) : Prop :=
  c.name = s.name ∧ c.ns = s.ns ∧ c.creationTimestamp = s.creationTimestamp ∧ c.spec = s.spec

namespace SameCluster

variable {c s : MarklogicCluster}

theorem setTrigger (h : SameCluster c s) : SameCluster (setTrigger c) s := h

theorem recordImage (h : SameCluster c s) : SameCluster (recordImage c) s := h

theorem annotate (h : SameCluster c s) (k : IntentKey) (v : Option String) :
    SameCluster ((UserWrite.annotate k v).apply c) s := h

theorem withAnnotations (h : SameCluster c s) (m : MarklogicCluster) :
    SameCluster { c with annotations := m.annotations } s := h

end SameCluster

@[simp]
theorem phase_stateEdits (now : Time) (x : UpgradeState) (results : Option PrecheckResults)
    (cluster : MarklogicCluster) : phase (stateEdits now x results cluster) = some x :=
  phase_eq_of_get (stateEdits_upgradeState now x results cluster)

@[simp]
theorem phase_cleanupEdits (now : Time) (x : UpgradeState) (cluster : MarklogicCluster) :
    phase (cleanupEdits now x cluster) = some x :=
  phase_eq_of_get (cleanupEdits_upgradeState now x cluster)

theorem stateEdits_get_cancelUpgrade (now : Time) (x : UpgradeState)
    (results : Option PrecheckResults) (cluster : MarklogicCluster) :
    (stateEdits now x results cluster).annotations.get .cancelUpgrade =
      cluster.annotations.get .cancelUpgrade := by
  have hk : AnnotationKey.cancelUpgrade ≠ .precheckResults := by decide
  simp [Annotations.get, stateEdits_get? _ _ _ _ hk]

theorem recordImage_eq_self {s : MarklogicCluster} (h : s.status.currentImage = s.spec.image) :
    recordImage s = s := by
  unfold recordImage
  rw [← h]

/-- The state an object stores after the state edits' two writes is the edits' state. -/
@[simp]
theorem phase_withEdits (st m : MarklogicCluster) :
    phase { st with annotations := m.annotations } = phase m := rfl

section Stored

variable (name ns : String) (ts : Time) (spec : MarklogicClusterSpec)
  (status : MarklogicClusterStatus) (now : Time) (x : UpgradeState) (c : MarklogicCluster)

@[simp]
theorem phase_mk_stateEdits (results : Option PrecheckResults) :
    phase ⟨name, ns, ts, (stateEdits now x results c).annotations, spec, status⟩ = some x :=
  phase_stateEdits now x results c

@[simp]
theorem phase_mk_cleanupEdits :
    phase ⟨name, ns, ts, (cleanupEdits now x c).annotations, spec, status⟩ = some x :=
  phase_cleanupEdits now x c

end Stored

/-! ### One invocation per state -/

section Steps

variable {env : Env} {s : MarklogicCluster}

/-- Outside `Idle` and without a cancellation, an invocation is the dispatch on its state. -/
theorem reconcile_fst_of_ne_idle (hp : phase s ≠ some .idle)
    (hcancel : s.annotations.get .cancelUpgrade ≠ "true") :
    (reconcile env s).1 = (dispatch env.collaborators env.now (currentState s.annotations)
      s.annotations ⟨s, s, env.writes, []⟩).1 := by
  rw [reconcile_fst, handleUpgradeWorkflow_of_ne_idle _ _ _ _ hp,
    processWorkflow_of_ne_idle _ _ hp hcancel]

/-- `PrecheckCompleted`: the report is presented, and the state moves to
`WaitingForUserApproval`. -/
theorem reconcile_awaitsApproval (hp : phase s = some .precheckDone)
    (hcancel : s.annotations.get .cancelUpgrade ≠ "true") (hw : WritesSucceed env.writes) :
    (reconcile env s).1.stored =
      { s with annotations := (stateEdits env.now .waitingUser none s).annotations } := by
  rw [reconcile_fst_of_ne_idle (by rw [hp]; decide) hcancel]
  have hp' : UpgradeState.parse (currentState s.annotations) = some .precheckDone := hp
  simp only [dispatch, hp', handlePrecheckDoneState, Handler.bind_apply, record_apply,
    updateUpgradeState, updateUpgradeStateWithResults, modifyCluster_apply,
    writeBack_of_writesSucceed hw]

/-- `PrecheckStarted` with a report in: the report is stored with `PrecheckCompleted`. -/
theorem reconcile_completesPrechecks (hp : phase s = some .precheckStart)
    (hcancel : s.annotations.get .cancelUpgrade ≠ "true") (hw : WritesSucceed env.writes)
    {r : PrecheckResults} (hr : (env.collaborators.checkPrecheckStatus s).2 = .ok (some r)) :
    (reconcile env s).1.stored =
      { s with annotations := (stateEdits env.now .precheckDone (some r) s).annotations } := by
  rw [reconcile_fst_of_ne_idle (by rw [hp]; decide) hcancel]
  have hp' : UpgradeState.parse (currentState s.annotations) = some .precheckStart := hp
  simp only [dispatch, hp', handlePrecheckStartState, Handler.bind_apply, record_apply,
    call_apply, hr, updateUpgradeStateWithResults, modifyCluster_apply,
    writeBack_of_writesSucceed hw]

/-- `WaitingForUserApproval`, approved, with the rollout started: `UpgradeInProgress`. -/
theorem reconcile_startsRollout (hp : phase s = some .waitingUser)
    (hproceed : s.annotations.get .proceedUpgrade = "true")
    (hcancel : s.annotations.get .cancelUpgrade ≠ "true") (hw : WritesSucceed env.writes)
    (hstart : (env.collaborators.startRollingUpgrade s).2 = .ok ()) :
    (reconcile env s).1.stored =
      { s with annotations := (stateEdits env.now .inProgress none s).annotations } := by
  rw [reconcile_fst_of_ne_idle (by rw [hp]; decide) hcancel]
  have hp' : UpgradeState.parse (currentState s.annotations) = some .waitingUser := hp
  simp only [dispatch, hp', handleWaitingUserState, if_pos hproceed, Handler.bind_apply,
    record_apply, call_apply, hstart, updateUpgradeState, updateUpgradeStateWithResults,
    modifyCluster_apply, writeBack_of_writesSucceed hw]

/-- `UpgradeInProgress` with the rollout converged: the image recorded, then
`UpgradeCompleted` with the control annotations deleted. -/
theorem reconcile_completesRollout (hp : phase s = some .inProgress)
    (hcancel : s.annotations.get .cancelUpgrade ≠ "true") (hw : WritesSucceed env.writes)
    (hdone : (env.collaborators.checkUpgradeStatus s).2 = .ok true) :
    (reconcile env s).1.stored = { recordImage s with
      annotations := (cleanupEdits env.now .completed (recordImage s)).annotations } := by
  rw [reconcile_fst_of_ne_idle (by rw [hp]; decide) hcancel]
  have hp' : UpgradeState.parse (currentState s.annotations) = some .inProgress := hp
  simp only [dispatch, hp', handleInProgressState, Handler.bind_apply, record_apply, call_apply,
    hdone, ignoreError_apply, updateCurrentImages, writeCurrentImage_of_writesSucceed hw,
    cleanupUpgradeAnnotations, modifyCluster_apply, writeBack_of_writesSucceed hw.tail]
  rfl

/-- A terminal state without a cancellation is reset to `Idle`. -/
theorem reconcile_resets (hp : (phase s).any UpgradeState.isTerminal)
    (hcancel : s.annotations.get .cancelUpgrade ≠ "true") (hw : WritesSucceed env.writes) :
    (reconcile env s).1.stored =
      { s with annotations := (cleanupEdits env.now .idle s).annotations } := by
  obtain ⟨x, hx, ht⟩ : ∃ x, phase s = some x ∧ x.isTerminal = true := by
    cases h : phase s with
    | none => simp [h] at hp
    | some x => exact ⟨x, rfl, by simpa [h] using hp⟩
  rw [reconcile_fst_of_ne_idle (by rw [hx]; rintro ⟨⟩; exact absurd ht (by decide)) hcancel]
  have hp' : UpgradeState.parse (currentState s.annotations) = some x := hx
  cases x <;> first
    | exact absurd ht (by decide)
    | simp only [dispatch, hp', cleanupUpgradeAnnotations, Handler.bind_apply,
        modifyCluster_apply, writeBack_of_writesSucceed hw]

/-- `Idle` with an image change: the trigger is set and stored, and the prechecks start. -/
theorem reconcile_startsPrechecks (hdrift : Drifts s)
    (hcancel : s.annotations.get .cancelUpgrade ≠ "true") (hw : WritesSucceed env.writes)
    (hstart : (env.collaborators.startPrechecks (setTrigger s)).2 = .ok ()) :
    (reconcile env s).1.stored = { setTrigger s with
      annotations := (stateEdits env.now .precheckStart none (setTrigger s)).annotations } := by
  have hidle : currentState s.annotations = UpgradeState.idle.value := phase_eq_idle.1 hdrift.1
  have htrigger : (setTrigger s).annotations.get .triggerUpgrade = "true" := by
    simp [Annotations.get]
  have hcancel' : (setTrigger s).annotations.get .cancelUpgrade ≠ "true" := by
    simpa [Annotations.get] using hcancel
  rw [reconcile_fst]
  simp only [handleUpgradeWorkflow, Handler.bind_apply, getCluster_apply, hidle,
    isClusterDeployed_of_detectImageChanges _ hdrift.2, hdrift.2, not_true_eq_false, and_false,
    and_self, if_false, if_true, modifyCluster_apply, update, write_of_writesSucceed _ hw,
    setTrigger_reply, Handler.pure_apply, processWorkflow, htrigger, ne_eq, hcancel', dispatch,
    UpgradeState.parse_value, handleIdleState, call_apply, hstart, record_apply,
    updateUpgradeState, updateUpgradeStateWithResults, writeBack_of_writesSucceed hw.tail]

/-- **At rest.** In `Idle`, untriggered, with the spec's image recorded, an invocation stores
nothing new, whatever it meets. -/
theorem reconcile_atRest (hp : phase s = some .idle)
    (htrigger : s.annotations.get .triggerUpgrade ≠ "true")
    (himage : s.status.currentImage = s.spec.image) (env : Env) :
    (reconcile env s).1.stored = s := by
  have hidle : currentState s.annotations = UpgradeState.idle.value := phase_eq_idle.1 hp
  have hdetect : detectImageChanges s = false := by simp [detectImageChanges, himage]
  rw [reconcile_fst]
  simp only [handleUpgradeWorkflow, Handler.bind_apply, getCluster_apply, hidle, true_and]
  by_cases hd : isClusterDeployed env.now s = true
  · simp only [hd, hdetect, not_true_eq_false, if_false, Bool.false_eq_true, and_false,
      Handler.bind_apply, Handler.pure_apply, getCluster_apply, processWorkflow, htrigger, ne_eq,
      not_false_eq_true, and_self, if_true]
  · have hwc : (writeCurrentImage ⟨s, s, env.writes, []⟩).1.stored = s := by
      rcases (writeCurrentImage_stored ⟨s, s, env.writes, []⟩ rfl).2.2 with
        ⟨-, h, -⟩ | ⟨-, h, -⟩ <;> rw [h]
      exact recordImage_eq_self himage
    simp only [hd, Bool.false_eq_true, not_false_eq_true, and_self, if_true,
      updateStatusAfterDeployment, Handler.bind_apply]
    rcases hr : writeCurrentImage ⟨s, s, env.writes, []⟩ with ⟨c', _ | _⟩ <;> rw [hr] at hwc <;>
      exact hwc

end Steps

/-! ### Where an invocation waits -/

section Waits

variable {env : Env} {s : MarklogicCluster}

/-- Outside `Idle`, without a cancellation: the dispatched handler keeps its state only while
the prechecks run, the approval is missing, or the rollout has not converged. -/
theorem keepsState_iff_of_dispatch (hp : phase s ≠ some .idle)
    (hc : s.annotations.get .cancelUpgrade ≠ "true") (hw : WritesSucceed env.writes) :
    phase (reconcile env s).1.stored = phase s ↔
      phase s = some .precheckStart ∧ (env.collaborators.checkPrecheckStatus s).2 = .ok none ∨
      phase s = some .waitingUser ∧ s.annotations.get .proceedUpgrade ≠ "true" ∨
      phase s = some .inProgress ∧ (env.collaborators.checkUpgradeStatus s).2 = .ok false := by
  rw [reconcile_fst_of_ne_idle hp hc]
  have hp' : UpgradeState.parse (currentState s.annotations) = phase s := rfl
  rcases h : phase s with _ | x
  · simp [dispatch, hp', h, updateUpgradeState, updateUpgradeStateWithResults,
      writeBack_of_writesSucceed hw]
  · cases x with
    | idle => exact absurd h hp
    | precheckStart =>
      simp only [dispatch, hp', h, handlePrecheckStartState, Handler.bind_apply, call_apply]
      rcases hr : (env.collaborators.checkPrecheckStatus s).2 with err | _ | r <;>
        simp [hr, updateUpgradeState, updateUpgradeStateWithResults,
          writeBack_of_writesSucceed hw, h]
    | precheckDone =>
      simp [dispatch, hp', h, handlePrecheckDoneState, updateUpgradeState,
        updateUpgradeStateWithResults, writeBack_of_writesSucceed hw]
    | waitingUser =>
      simp only [dispatch, hp', h, handleWaitingUserState]
      by_cases hpr : s.annotations.get .proceedUpgrade = "true"
      · rcases hr : (env.collaborators.startRollingUpgrade s).2 with err | _ <;>
          simp [hpr, hr, updateUpgradeState, updateUpgradeStateWithResults,
            writeBack_of_writesSucceed hw, h]
      · simp [hpr, h]
    | inProgress =>
      simp only [dispatch, hp', h, handleInProgressState, Handler.bind_apply, call_apply]
      rcases hr : (env.collaborators.checkUpgradeStatus s).2 with err | _ | _ <;>
        simp [hr, updateUpgradeState, updateUpgradeStateWithResults, writeBack_of_writesSucceed hw,
          writeCurrentImage_of_writesSucceed hw, writeBack_of_writesSucceed hw.tail,
          updateCurrentImages, cleanupUpgradeAnnotations, h]
    | completed | failed | cancelled =>
      simp [dispatch, hp', h, cleanupUpgradeAnnotations, writeBack_of_writesSucceed hw]
    | paused =>
      simp [dispatch, hp', h, updateUpgradeState, updateUpgradeStateWithResults,
        writeBack_of_writesSucceed hw]

/-- Outside `Idle`, with a cancellation: the state is kept when the cancellation is refused, or
when the attempt was already cancelled. -/
theorem keepsState_iff_of_cancel (hp : phase s ≠ some .idle)
    (hc : s.annotations.get .cancelUpgrade = "true") (hw : WritesSucceed env.writes) :
    phase (reconcile env s).1.stored = phase s ↔
      phase s = some .inProgress ∨ phase s = some .cancelled := by
  have hidle : ¬(currentState s.annotations = UpgradeState.idle.value ∧
      s.annotations.get .triggerUpgrade ≠ "true") := fun h ↦ hp (phase_eq_idle.2 h.1)
  rw [reconcile_fst, handleUpgradeWorkflow_of_ne_idle _ _ _ _ hp]
  simp only [processWorkflow, Handler.bind_apply, getCluster_apply, if_neg hidle,
    Handler.pure_apply, if_pos hc, handleCancellation]
  by_cases hr : s.annotations.get .upgradeState = UpgradeState.inProgress.value
  · simp [hr, phase_eq_of_get hr]
  · have hni : phase s ≠ some .inProgress := fun h ↦ hr (get_upgradeState_of_phase h (by decide))
    simp [hr, hni, cleanupUpgradeAnnotations, writeBack_of_writesSucceed hw, eq_comm]

/-- An invocation on a triggered `Idle` object leaves `Idle`: for the prechecks, for their
failure, or for a cancellation. -/
theorem processWorkflow_triggered (co : Collaborators) (now : Time) {t stored : MarklogicCluster}
    {writes : List (Option String)} {events : List Event} (hw : WritesSucceed writes)
    (ht : t.annotations.get .triggerUpgrade = "true")
    (hr : t.annotations.get .upgradeState ≠ UpgradeState.inProgress.value) :
    phase (processWorkflow co now UpgradeState.idle.value ⟨t, stored, writes, events⟩).1.stored ≠
      some .idle := by
  simp only [processWorkflow, Handler.bind_apply, getCluster_apply, ht, ne_eq, not_true_eq_false,
    and_false, if_false, Handler.pure_apply]
  by_cases hc : t.annotations.get .cancelUpgrade = "true"
  · simp [hc, handleCancellation, hr, cleanupUpgradeAnnotations, writeBack_of_writesSucceed hw]
  · simp only [hc, if_false, dispatch, UpgradeState.parse_value, handleIdleState, ht, if_true,
      Handler.bind_apply, call_apply]
    rcases hs : (co.startPrechecks t).2 with err | _ <;>
      simp [hs, updateUpgradeState, updateUpgradeStateWithResults, writeBack_of_writesSucceed hw]

/-- In `Idle`: the state is kept by the baseline and by the early return, and left as soon as
the trigger is on the object. -/
theorem keepsState_iff_of_idle (hp : phase s = some .idle) (hw : WritesSucceed env.writes) :
    phase (reconcile env s).1.stored = phase s ↔
      isClusterDeployed env.now s = false ∨
        ¬Drifts s ∧ s.annotations.get .triggerUpgrade ≠ "true" := by
  have hidle := phase_eq_idle.1 hp
  have hr : s.annotations.get .upgradeState ≠ UpgradeState.inProgress.value := fun h ↦ by
    rw [phase_eq_of_get h] at hp; cases hp
  rw [reconcile_fst, hp]
  simp only [handleUpgradeWorkflow, Handler.bind_apply, getCluster_apply, hidle, true_and]
  by_cases hd : isClusterDeployed env.now s = true
  · simp only [hd, not_true_eq_false, if_false, Handler.pure_apply, true_and, Bool.true_eq_false,
      false_or]
    by_cases hdr : detectImageChanges s = true
    · have hD : Drifts s := ⟨hp, hdr⟩
      simp only [hdr, if_true, Handler.bind_apply, Handler.pure_apply, modifyCluster_apply, update,
        write_of_writesSucceed _ hw, hD, not_true_eq_false, false_and, iff_false]
      exact processWorkflow_triggered _ _ hw.tail (by simp [Annotations.get])
        (by simpa [Annotations.get] using hr)
    · have hD : ¬Drifts s := fun h ↦ hdr h.2
      simp only [hdr, Bool.false_eq_true, if_false, Handler.bind_apply, Handler.pure_apply, hD,
        not_false_eq_true, true_and]
      by_cases ht : s.annotations.get .triggerUpgrade = "true"
      · simp only [ht, ne_eq, not_true_eq_false, iff_false]
        exact processWorkflow_triggered _ _ hw ht hr
      · simp only [processWorkflow, Handler.bind_apply, getCluster_apply, ht, ne_eq,
          not_false_eq_true, and_self, if_true, Handler.pure_apply]
        exact iff_of_true hp trivial
  · simp only [hd, not_false_eq_true, and_self, if_true, updateStatusAfterDeployment,
      Handler.bind_apply, writeCurrentImage_of_writesSucceed hw, Handler.pure_apply,
      Bool.not_eq_true, true_or, iff_true]
    exact (phase_of_annotations rfl).trans hp

end Waits

/-- **An invocation waits only on the user or a collaborator.** An invocation whose writes go
through stores the upgrade-state it found exactly when the cluster is `Idle` and undeployed, or
`Idle` with neither a trigger nor an image change; or, without a cancellation, the prechecks are
still running, the user has not approved, or the rollout has not converged; or a cancellation is
refused during the rollout or repeated on a cancelled attempt. Every other invocation moves the
state. -/
theorem reconcile_keepsState_iff (env : Env) (s : MarklogicCluster)
    (hw : WritesSucceed env.writes) :
    phase (reconcile env s).1.stored = phase s ↔
      phase s = some .idle ∧ (isClusterDeployed env.now s = false ∨
        ¬Drifts s ∧ s.annotations.get .triggerUpgrade ≠ "true") ∨
      s.annotations.get .cancelUpgrade ≠ "true" ∧
        (phase s = some .precheckStart ∧ (env.collaborators.checkPrecheckStatus s).2 = .ok none ∨
          phase s = some .waitingUser ∧ s.annotations.get .proceedUpgrade ≠ "true" ∨
          phase s = some .inProgress ∧ (env.collaborators.checkUpgradeStatus s).2 = .ok false) ∨
      s.annotations.get .cancelUpgrade = "true" ∧
        (phase s = some .inProgress ∨ phase s = some .cancelled) := by
  by_cases hp : phase s = some .idle
  · rw [keepsState_iff_of_idle hp hw]
    simp [hp]
  · by_cases hc : s.annotations.get .cancelUpgrade = "true"
    · rw [keepsState_iff_of_cancel hp hc hw]
      simp [hp, hc]
    · rw [keepsState_iff_of_dispatch hp hc hw]
      simp [hp, hc]

/-- `deployedCluster` waiting for the user's approval. -/
def awaitingCluster : MarklogicCluster :=
  { deployedCluster with annotations := { upgradeState := some "WaitingForUserApproval" } }

theorem reconcile_keepsState_iff_awaiting :
    WritesSucceed codeEnv.writes ∧
      phase (reconcile codeEnv awaitingCluster).1.stored = phase awaitingCluster :=
  have hw : WritesSucceed codeEnv.writes := by simp [WritesSucceed, codeEnv]
  ⟨hw, (reconcile_keepsState_iff codeEnv awaitingCluster hw).2 (by decide)⟩

/-! ### The code's collaborators -/

/-- The code's own collaborators start the prechecks, complete them with a report and start the
rollout whatever they are asked about; the rollout check passes exactly when every group of the
cluster has converged. -/
theorem Collaborators.ofCode_answers (now : Time) (get : ObjectKey → Option StatefulSet)
    (c : MarklogicCluster) :
    ((Collaborators.ofCode now get).startPrechecks c).2 = .ok () ∧
      (∃ r, ((Collaborators.ofCode now get).checkPrecheckStatus c).2 = .ok (some r)) ∧
      ((Collaborators.ofCode now get).startRollingUpgrade c).2 = .ok () ∧
      (((Collaborators.ofCode now get).checkUpgradeStatus c).2 = .ok true ↔
        ∀ g ∈ c.spec.markLogicGroups, RollingUpgradeHandler.Converged get c g) := by
  refine ⟨rfl, ⟨_, rfl⟩, rfl, ?_⟩
  rw [Collaborators.ofCode, (RollingUpgradeHandler.checkUpgradeStatus_converged_iff ..).1]
  exact and_iff_left rfl

/-! ### The whole upgrade -/

/-- **An upgrade goes through, then rests.** From `Idle` with an image change and no
cancellation, if every write goes through and the collaborators answer success when asked about
the cluster, three invocations bring it to `WaitingForUserApproval`; after
`proceed-with-upgrade=true`, one starts the rollout, one completes it, and one resets to `Idle`,
with the spec's image recorded. From there every invocation, whatever it meets, leaves the
object as it is. -/
theorem upgrade_goesThrough (s : MarklogicCluster) (env₁ env₂ env₃ env₄ env₅ env₆ : Env)
    (hdrift : Drifts s) (hcancel : s.annotations.get .cancelUpgrade ≠ "true")
    (hw : ∀ env ∈ [env₁, env₂, env₃, env₄, env₅, env₆], WritesSucceed env.writes)
    (h₁ : ∀ c, SameCluster c s → (env₁.collaborators.startPrechecks c).2 = .ok ())
    (h₂ : ∀ c, SameCluster c s →
      ∃ r, (env₂.collaborators.checkPrecheckStatus c).2 = .ok (some r))
    (h₄ : ∀ c, SameCluster c s → (env₄.collaborators.startRollingUpgrade c).2 = .ok ())
    (h₅ : ∀ c, SameCluster c s → (env₅.collaborators.checkUpgradeStatus c).2 = .ok true) :
    let as := [.reconcile env₁, .reconcile env₂, .reconcile env₃,
      .user (.annotate .proceedUpgrade (some "true")), .reconcile env₄, .reconcile env₅,
      .reconcile env₆]
    (trace s as).map phase = [some .idle, some .precheckStart, some .precheckDone,
        some .waitingUser, some .waitingUser, some .inProgress, some .completed, some .idle] ∧
      (run s as).status.currentImage = s.spec.image ∧
      ∀ env, (reconcile env (run s as)).1.stored = run s as := by
  simp only [List.mem_cons, List.not_mem_nil, or_false, forall_eq_or_imp, forall_eq] at hw
  obtain ⟨hw₁, hw₂, hw₃, hw₄, hw₅, hw₆⟩ := hw
  -- the drift check sets the trigger, and the prechecks start
  set s₁ := { setTrigger s with
    annotations := (stateEdits env₁.now .precheckStart none (setTrigger s)).annotations }
  have same₀ : SameCluster (setTrigger s) s := SameCluster.setTrigger ⟨rfl, rfl, rfl, rfl⟩
  have e₁ : (reconcile env₁ s).1.stored = s₁ :=
    reconcile_startsPrechecks hdrift hcancel hw₁ (h₁ _ same₀)
  have hc₁ : s₁.annotations.get .cancelUpgrade ≠ "true" := by
    simpa [s₁, stateEdits_get_cancelUpgrade, Annotations.get] using hcancel
  -- the report comes in, and the handler waits for the user
  obtain ⟨r, hr⟩ := h₂ s₁ (same₀.withAnnotations _)
  set s₂ := { s₁ with annotations := (stateEdits env₂.now .precheckDone (some r) s₁).annotations }
  have e₂ : (reconcile env₂ s₁).1.stored = s₂ :=
    reconcile_completesPrechecks (by simp only [s₁, phase_withEdits, phase_stateEdits]) hc₁ hw₂ hr
  have hc₂ : s₂.annotations.get .cancelUpgrade ≠ "true" := by
    simpa [s₂, stateEdits_get_cancelUpgrade] using hc₁
  set s₃ := { s₂ with annotations := (stateEdits env₃.now .waitingUser none s₂).annotations }
  have e₃ : (reconcile env₃ s₂).1.stored = s₃ :=
    reconcile_awaitsApproval (by simp only [s₂, phase_withEdits, phase_stateEdits]) hc₂ hw₃
  -- the user approves, and the rollout starts
  set s₃' := UserWrite.apply (.annotate .proceedUpgrade (some "true")) s₃
  have hc₃' : s₃'.annotations.get .cancelUpgrade ≠ "true" := by
    rw [(UserWrite.apply_frame (fun _ _ h ↦ by cases h; decide) s₃).1]
    simpa [s₃, stateEdits_get_cancelUpgrade] using hc₂
  set s₄ := { s₃' with annotations := (stateEdits env₄.now .inProgress none s₃').annotations }
  have same₃' : SameCluster s₃' s :=
    (((same₀.withAnnotations _).withAnnotations _).withAnnotations _).annotate ..
  have e₄ : (reconcile env₄ s₃').1.stored = s₄ := reconcile_startsRollout
    (by simp only [s₃', UserWrite.phase_apply, s₃, phase_withEdits, phase_stateEdits])
    (by simp [s₃', UserWrite.apply, Annotations.get, IntentKey.key]) hc₃' hw₄ (h₄ _ same₃')
  -- the rollout completes, and the terminal state is reset
  set s₅ := { recordImage s₄ with
    annotations := (cleanupEdits env₅.now .completed (recordImage s₄)).annotations }
  have e₅ : (reconcile env₅ s₄).1.stored = s₅ := reconcile_completesRollout
    (by simp only [s₄, phase_withEdits, phase_stateEdits])
    (by simpa [s₄, stateEdits_get_cancelUpgrade] using hc₃') hw₅
    (h₅ _ (same₃'.withAnnotations _))
  set s₆ := { s₅ with annotations := (cleanupEdits env₆.now .idle s₅).annotations }
  have e₆ : (reconcile env₆ s₅).1.stored = s₆ :=
    reconcile_resets (by simp only [s₅, phase_withEdits, phase_cleanupEdits]; rfl)
      (by simp [s₅, Annotations.get]) hw₆
  have hrun : run s [.reconcile env₁, .reconcile env₂, .reconcile env₃,
      .user (.annotate .proceedUpgrade (some "true")), .reconcile env₄, .reconcile env₅,
      .reconcile env₆] = s₆ := by
    simp only [run, Action.apply, e₁, e₂, e₃, e₄, e₅, e₆]
  refine ⟨?_, ?_, ?_⟩
  · simp only [trace, Action.apply, e₁, e₂, e₃, e₄, e₅, e₆, List.map, hdrift.1, s₁, s₂, s₃, s₃',
      s₄, s₅, s₆, phase_withEdits, phase_stateEdits, phase_cleanupEdits, UserWrite.phase_apply]
  · rw [hrun]
    rfl
  · rw [hrun]
    exact reconcile_atRest (by simp only [s₆, phase_withEdits, phase_cleanupEdits])
      (by simp [s₆, Annotations.get]) rfl

/-- `deployedCluster` with its spec moved to image `11.4`. -/
def retaggedCluster : MarklogicCluster := (UserWrite.setImage "11.4").apply deployedCluster

theorem upgrade_goesThrough_code :
    (Drifts retaggedCluster ∧ retaggedCluster.annotations.get .cancelUpgrade ≠ "true") ∧
      let as := [.reconcile codeEnv, .reconcile codeEnv, .reconcile codeEnv,
        .user (.annotate .proceedUpgrade (some "true")), .reconcile codeEnv, .reconcile codeEnv,
        .reconcile codeEnv]
      (trace retaggedCluster as).map phase = [some .idle, some .precheckStart, some .precheckDone,
          some .waitingUser, some .waitingUser, some .inProgress, some .completed, some .idle] ∧
        (run retaggedCluster as).status.currentImage = "11.4" ∧
        ∀ env, (reconcile env (run retaggedCluster as)).1.stored = run retaggedCluster as :=
  have answers := Collaborators.ofCode_answers codeEnv.now fun _ ↦ none
  ⟨⟨by decide, by decide⟩, upgrade_goesThrough _ _ _ _ _ _ _ (by decide) (by decide)
    (by simp [WritesSucceed, codeEnv]) (fun c _ ↦ (answers c).1) (fun c _ ↦ (answers c).2.1)
    (fun c _ ↦ (answers c).2.2.1)
    (fun c hc ↦ (answers c).2.2.2.2 fun g hg ↦ by
      simp [hc.2.2.2, retaggedCluster, UserWrite.apply, deployedCluster] at hg)⟩

/-! ### When `Reconcile` asks to be called again -/

section Requeue

/-- The two writes of a state change end in success with the empty result, or in an error. -/
theorem UpgradeHandler.Persists.result {m t : MarklogicCluster} {p : Ctx × Except String Result}
    (h : Persists m t p) : p.2 = .ok {} ∨ ∃ err, p.2 = .error err := by
  rcases h with ⟨-, -, h⟩ | ⟨-, -, h⟩ | ⟨-, -, h⟩
  exacts [.inr h, .inr h, .inl h]

/-- A state change never asks to be called again. -/
theorem updateUpgradeStateWithResults_ne_ok (now : Time) (x : UpgradeState)
    (results : Option PrecheckResults) (c : Ctx) {r : Result} (hr : r ≠ {}) :
    (updateUpgradeStateWithResults now x results c).2 ≠ .ok r := by
  change ((modifyCluster (stateEdits now x results) >>= fun _ ↦ writeBack) c).2 ≠ _
  rcases (ends_of_writeBack _ c).1.result with h | ⟨_, h⟩ <;> rw [h]
  · exact fun h' ↦ hr (Except.ok.inj h').symm
  · exact nofun

theorem cleanupUpgradeAnnotations_ne_ok (now : Time) (x : UpgradeState) (c : Ctx) {r : Result}
    (hr : r ≠ {}) : (cleanupUpgradeAnnotations now x c).2 ≠ .ok r := by
  change ((modifyCluster (cleanupEdits now x) >>= fun _ ↦ writeBack) c).2 ≠ _
  rcases (ends_of_writeBack _ c).1.result with h | ⟨_, h⟩ <;> rw [h]
  · exact fun h' ↦ hr (Except.ok.inj h').symm
  · exact nofun

variable {now : Time} {s : MarklogicCluster} {ws : List (Option String)}
  {p : Ctx × Except String Result} {r : Result}

/-- Read off the table: an invocation whose result asks to be called again wrote nothing and
waits, without a cancellation, on the prechecks, the approval or the rollout. -/
theorem UpgradeHandler.Step.requeue (h : Step now s ws p) (hr : p.2 = .ok r)
    (hq : r.requeue = true ∨ 0 < r.requeueAfter) :
    (afterDrift s).annotations.get .cancelUpgrade ≠ "true" ∧
      (phase s = some .precheckStart ∧ r = { requeueAfter := 2 * minute } ∨
        phase s = some .waitingUser ∧ (afterDrift s).annotations.get .proceedUpgrade ≠ "true" ∧
          r = { requeueAfter := 5 * minute } ∨
        phase s = some .inProgress ∧ r = { requeueAfter := 2 * minute }) := by
  have hempty : r ≠ {} := by rintro rfl; simp at hq
  have hpersists {m t : MarklogicCluster} (h' : Persists m t p) : False := by
    rcases h'.result with h' | ⟨_, h'⟩ <;> rw [h'] at hr <;> cases hr
    exact hempty rfl
  cases h with
  | baseline _ _ _ h =>
    rcases h with ⟨-, h⟩ | ⟨-, _, h⟩ <;> rw [h] at hr <;> cases hr
    exact absurd rfl hempty
  | driftNotStored _ _ _ _ h => rw [h] at hr; cases hr
  | proceed _ h =>
    cases h with
    | quiet hq' _ _ hr' =>
      rw [hr'] at hr
      cases hr
      cases hq' with
      | untriggered | cancellationDenied => exact absurd rfl hempty
      | prechecksRunning hc hp => exact ⟨hc, .inl ⟨hp, rfl⟩⟩
      | awaitingApproval hc hp hproceed => exact ⟨hc, .inr (.inl ⟨hp, hproceed, rfl⟩)⟩
      | rolloutRunning hc hp => exact ⟨hc, .inr (.inr ⟨hp, rfl⟩)⟩
    | advance _ _ h | cleanup _ h | complete _ _ h => exact (hpersists h).elim

/-- `Reconcile` requeues exactly on a workflow result that asks for it. -/
theorem reconcile_snd_eq_requeue {env : Env} :
    (reconcile env s).2 = .requeue r ↔
      (handleUpgradeWorkflow env.collaborators env.now ⟨s, s, env.writes, []⟩).2 = .ok r ∧
        (r.requeue = true ∨ 0 < r.requeueAfter) := by
  unfold reconcile
  rcases handleUpgradeWorkflow env.collaborators env.now ⟨s, s, env.writes, []⟩ with
    ⟨c, err | res⟩
  · simp
  · dsimp only
    by_cases hq : res.requeue = true ∨ 0 < res.requeueAfter
    · rw [if_pos hq]
      simp only [ReconcileOutcome.requeue.injEq, Except.ok.injEq]
      exact ⟨fun h ↦ ⟨h, h ▸ hq⟩, (·.1)⟩
    · rw [if_neg hq]
      split_ifs <;> simp only [reduceCtorEq, Except.ok.injEq, false_iff, not_and] <;>
        exact fun h ↦ h ▸ hq

section Answers

variable (co : Collaborators) (now : Time) (writes : List (Option String))
  (hc : s.annotations.get .cancelUpgrade ≠ "true")
include hc

/-- `PrecheckStarted` requeues exactly while the prechecks are still running. -/
theorem precheckStart_snd (hp : phase s = some .precheckStart) :
    (handleUpgradeWorkflow co now ⟨s, s, writes, []⟩).2 = .ok { requeueAfter := 2 * minute } ↔
      (co.checkPrecheckStatus s).2 = .ok none := by
  have hp' : UpgradeState.parse (currentState s.annotations) = some .precheckStart := hp
  rw [handleUpgradeWorkflow_of_ne_idle _ _ _ _ (by rw [hp]; decide),
    processWorkflow_of_ne_idle _ _ (by rw [hp']; decide) hc]
  simp only [dispatch, hp', handlePrecheckStartState, Handler.bind_apply, call_apply]
  rcases (co.checkPrecheckStatus s).2 with err | _ | results
  · simpa using updateUpgradeStateWithResults_ne_ok now .failed none _ (by decide)
  · simp [Handler.pure_apply]
  · simpa using updateUpgradeStateWithResults_ne_ok now .precheckDone (some results) _ (by decide)

/-- `WaitingForUserApproval` without an approval requeues after five minutes. -/
theorem waitingUser_snd (hp : phase s = some .waitingUser)
    (hproceed : s.annotations.get .proceedUpgrade ≠ "true") :
    (handleUpgradeWorkflow co now ⟨s, s, writes, []⟩).2 = .ok { requeueAfter := 5 * minute } := by
  have hp' : UpgradeState.parse (currentState s.annotations) = some .waitingUser := hp
  rw [handleUpgradeWorkflow_of_ne_idle _ _ _ _ (by rw [hp]; decide),
    processWorkflow_of_ne_idle _ _ (by rw [hp']; decide) hc]
  simp only [dispatch, hp', handleWaitingUserState, if_neg hproceed, Handler.pure_apply]

/-- `UpgradeInProgress` requeues exactly while the rollout has not converged. -/
theorem inProgress_snd (hp : phase s = some .inProgress) :
    (handleUpgradeWorkflow co now ⟨s, s, writes, []⟩).2 = .ok { requeueAfter := 2 * minute } ↔
      (co.checkUpgradeStatus s).2 = .ok false := by
  have hp' : UpgradeState.parse (currentState s.annotations) = some .inProgress := hp
  rw [handleUpgradeWorkflow_of_ne_idle _ _ _ _ (by rw [hp]; decide),
    processWorkflow_of_ne_idle _ _ (by rw [hp']; decide) hc]
  simp only [dispatch, hp', handleInProgressState, Handler.bind_apply, call_apply]
  rcases (co.checkUpgradeStatus s).2 with err | _ | _
  · simpa using updateUpgradeStateWithResults_ne_ok now .failed none _ (by decide)
  · simp [Handler.pure_apply]
  · simpa using cleanupUpgradeAnnotations_ne_ok now .completed _ (by decide)

end Answers

/-- The workflow's requeue: without a cancellation, the prechecks still running, no approval,
or a rollout that has not converged, whatever the invocation's writes meet; it writes nothing
and asks after two, five and two minutes. -/
theorem reconcile_snd_requeue_iff (env : Env) (s : MarklogicCluster) (r : Result) :
    (reconcile env s).2 = .requeue r ↔
      s.annotations.get .cancelUpgrade ≠ "true" ∧
        (phase s = some .precheckStart ∧ (env.collaborators.checkPrecheckStatus s).2 = .ok none ∧
            r = { requeueAfter := 2 * minute } ∨
          phase s = some .waitingUser ∧ s.annotations.get .proceedUpgrade ≠ "true" ∧
            r = { requeueAfter := 5 * minute } ∨
          phase s = some .inProgress ∧ (env.collaborators.checkUpgradeStatus s).2 = .ok false ∧
            r = { requeueAfter := 2 * minute }) := by
  rw [reconcile_snd_eq_requeue]
  constructor
  · rintro ⟨hr, hq⟩
    obtain ⟨hc, hcases⟩ :=
      (handleUpgradeWorkflow_step env.collaborators env.now s env.writes []).requeue hr hq
    have hne : phase s ≠ some .idle := by
      rcases hcases with ⟨h, -⟩ | ⟨h, -⟩ | ⟨h, -⟩ <;> rw [h] <;> decide
    have hd : afterDrift s = s := if_neg fun h ↦ hne h.1
    rw [hd] at hc hcases
    refine ⟨hc, ?_⟩
    rcases hcases with ⟨hp, rfl⟩ | h | ⟨hp, rfl⟩
    · exact .inl ⟨hp, (precheckStart_snd _ _ _ hc hp).1 hr, rfl⟩
    · exact .inr (.inl h)
    · exact .inr (.inr ⟨hp, (inProgress_snd _ _ _ hc hp).1 hr, rfl⟩)
  · rintro ⟨hc, ⟨hp, ha, rfl⟩ | ⟨hp, hproceed, rfl⟩ | ⟨hp, ha, rfl⟩⟩
    · exact ⟨(precheckStart_snd _ _ _ hc hp).2 ha, .inr (by decide)⟩
    · exact ⟨waitingUser_snd _ _ _ hc hp hproceed, .inr (by decide)⟩
    · exact ⟨(inProgress_snd _ _ _ hc hp).2 ha, .inr (by decide)⟩

/-- **`Reconcile` polls only what it waits on.** `Reconcile` returns a requeue exactly when,
without a cancellation, the workflow finds the prechecks still running, no approval, or a
rollout that has not converged (after two, five and two minutes, with normal reconciliation
skipped), or when normal reconciliation ran and itself asked for it. A state change, a refused
cancellation, a failed write or the early return of `Idle` never asks to be called again on the
workflow's account. -/
theorem reconcile_requeue_iff (env : Env) (s : MarklogicCluster) (r : Result) :
    (reconcile env s).2.returned = .ok r ∧ (r.requeue = true ∨ 0 < r.requeueAfter) ↔
      s.annotations.get .cancelUpgrade ≠ "true" ∧
          (phase s = some .precheckStart ∧
              (env.collaborators.checkPrecheckStatus s).2 = .ok none ∧
              r = { requeueAfter := 2 * minute } ∨
            phase s = some .waitingUser ∧ s.annotations.get .proceedUpgrade ≠ "true" ∧
              r = { requeueAfter := 5 * minute } ∨
            phase s = some .inProgress ∧ (env.collaborators.checkUpgradeStatus s).2 = .ok false ∧
              r = { requeueAfter := 2 * minute }) ∨
        (∃ cluster, (reconcile env s).2 = .normal cluster (.ok r)) ∧
          (r.requeue = true ∨ 0 < r.requeueAfter) := by
  rw [← reconcile_snd_requeue_iff]
  constructor
  · rintro ⟨hret, hq⟩
    rcases ho : (reconcile env s).2 with err | r' | _ | ⟨cluster, res⟩ <;>
      rw [ho] at hret <;> simp only [ReconcileOutcome.returned] at hret
    · cases hret
    · cases hret; exact .inl rfl
    · cases hret; simp at hq
    · exact .inr ⟨⟨cluster, by rw [hret]⟩, hq⟩
  · rintro (h | ⟨⟨cluster, h⟩, hq⟩) <;> rw [h]
    · exact ⟨rfl, (reconcile_snd_eq_requeue.1 h).2⟩
    · exact ⟨rfl, hq⟩

end Requeue

end MarklogicUpgrade
