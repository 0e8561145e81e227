import MarklogicUpgrade.Handler.Invariant
import MarklogicUpgrade.Properties.Settle

/-!
# How an invocation fails

An invocation can meet two kinds of failure: a collaborator (the precheck or the rollout
handler) answers an error, or one of its own API writes fails. The code treats them apart, and
this module says how, for every invocation.

## A collaborator's error

Every handler that calls a collaborator matches its error: it records a `Warning` event whose
message carries the error's text, and moves the state to `UpgradeFailed`. That is also the only
way to store `UpgradeFailed`: an invocation that stores it, from any other state, found one of
the four calling states without a cancellation, was answered an error there, and recorded the
matching event (`reconcile_failed_announced`). Every other branch keeps both objects away from
`UpgradeFailed`, which `Handler.Keeps` checks along the code (`keeps_notFailed_*`); the four
calling handlers are inverted one lemma each (`handleIdleState_failure` and the three after it).

## A write's error

A failed write is not recorded and does not move the state on its own: the handler returns its
error, and `Reconcile` returns it to the caller, which invokes it again. Nothing else is ever
returned as an error (`reconcile_error_mem_writes`), by `Handler.FailsOnWrite`.
-/

namespace MarklogicUpgrade

open Handler UpgradeHandler

/-! ### States other than `UpgradeFailed` -/

/-- The object's state is not `UpgradeFailed`. -/
def NotFailed (t : MarklogicCluster) : Prop := phase t ≠ some .failed

section NotFailed

variable (now : Time)

theorem NotFailed.readsAnnotations : ReadsAnnotations NotFailed := by
  intro t t' h
  rw [NotFailed, NotFailed, phase_of_annotations h]
  exact id

theorem keeps_notFailed_updateUpgradeStateWithResults {x : UpgradeState} (hx : x ≠ .failed)
    (results : Option PrecheckResults) :
    Keeps NotFailed (updateUpgradeStateWithResults now x results) :=
  (keeps_modifyCluster fun _ _ ↦ by
      rw [NotFailed, phase_stateEdits]; exact mt Option.some.inj hx).bind fun _ ↦
    keeps_writeBack NotFailed.readsAnnotations

theorem keeps_notFailed_cleanupUpgradeAnnotations {x : UpgradeState} (hx : x ≠ .failed) :
    Keeps NotFailed (cleanupUpgradeAnnotations now x) :=
  (keeps_modifyCluster fun _ _ ↦ by
      rw [NotFailed, phase_cleanupEdits]; exact mt Option.some.inj hx).bind fun _ ↦
    keeps_writeBack NotFailed.readsAnnotations

theorem keeps_notFailed_handleCancellation (a : Annotations) :
    Keeps NotFailed (handleCancellation now a) :=
  Keeps.ite (fun _ ↦ (keeps_record _ _ _).bind fun _ ↦ Keeps.pure _)
    fun _ ↦ (keeps_record _ _ _).bind fun _ ↦
      keeps_notFailed_cleanupUpgradeAnnotations now (by decide)

/-- A state change records no event. -/
theorem updateUpgradeStateWithResults_events (x : UpgradeState) (results : Option PrecheckResults)
    (c : Ctx) : (updateUpgradeStateWithResults now x results c).1.events = c.events :=
  (ends_of_writeBack _ c).2

end NotFailed

/-! ### The four calls that can fail -/

section Calls

variable (co : Collaborators) (now : Time) (a : Annotations) (c : Ctx)
  (hc : NotFailed c.cluster) (hs : NotFailed c.stored)
include hc hs

theorem handleIdleState_failure :
    NotFailed (handleIdleState co now a c).1.stored ∨
      ∃ err, (co.startPrechecks c.cluster).2 = .error err ∧
        ⟨eventTypeWarning, "PrecheckFailed", "Failed to start prechecks: " ++ err⟩ ∈
          (handleIdleState co now a c).1.events := by
  unfold handleIdleState
  split
  · simp only [bind_apply, call_apply]
    rcases (co.startPrechecks c.cluster).2 with err | ⟨⟩ <;> simp only [record_apply, bind_apply]
    · exact .inr ⟨err, rfl, by simp [updateUpgradeState, updateUpgradeStateWithResults_events]⟩
    · refine .inl (keeps_notFailed_updateUpgradeStateWithResults now (by decide) _ _ ?_ ?_).2 <;>
        assumption
  · exact .inl hs

theorem handlePrecheckStartState_failure :
    NotFailed (handlePrecheckStartState co now a c).1.stored ∨
      ∃ err, (co.checkPrecheckStatus c.cluster).2 = .error err ∧
        ⟨eventTypeWarning, "PrecheckError", "Error during prechecks: " ++ err⟩ ∈
          (handlePrecheckStartState co now a c).1.events := by
  simp only [handlePrecheckStartState, bind_apply, call_apply]
  rcases (co.checkPrecheckStatus c.cluster).2 with err | _ | r <;>
    simp only [record_apply, bind_apply]
  · exact .inr ⟨err, rfl, by simp [updateUpgradeState, updateUpgradeStateWithResults_events]⟩
  · exact .inl hs
  · refine .inl (keeps_notFailed_updateUpgradeStateWithResults now (by decide) _ _ ?_ ?_).2 <;>
      assumption

theorem handleWaitingUserState_failure :
    NotFailed (handleWaitingUserState co now a c).1.stored ∨
      ∃ err, (co.startRollingUpgrade c.cluster).2 = .error err ∧
        ⟨eventTypeWarning, "UpgradeFailed", "Failed to start rolling upgrade: " ++ err⟩ ∈
          (handleWaitingUserState co now a c).1.events := by
  unfold handleWaitingUserState
  split
  · simp only [bind_apply, record_apply, call_apply]
    rcases (co.startRollingUpgrade c.cluster).2 with err | ⟨⟩ <;>
      simp only [record_apply, bind_apply]
    · exact .inr ⟨err, rfl, by simp [updateUpgradeState, updateUpgradeStateWithResults_events]⟩
    · refine .inl (keeps_notFailed_updateUpgradeStateWithResults now (by decide) _ _ ?_ ?_).2 <;>
        assumption
  · exact .inl hs

theorem handleInProgressState_failure :
    NotFailed (handleInProgressState co now a c).1.stored ∨
      ∃ err, (co.checkUpgradeStatus c.cluster).2 = .error err ∧
        ⟨eventTypeWarning, "UpgradeError", "Error during rolling upgrade: " ++ err⟩ ∈
          (handleInProgressState co now a c).1.events := by
  simp only [handleInProgressState, bind_apply, call_apply]
  rcases (co.checkUpgradeStatus c.cluster).2 with err | _ | _ <;>
    simp only [record_apply, bind_apply, ignoreError_apply]
  · exact .inr ⟨err, rfl, by simp [updateUpgradeState, updateUpgradeStateWithResults_events]⟩
  · exact .inl hs
  · refine .inl (keeps_notFailed_cleanupUpgradeAnnotations now (x := .completed) (by decide) _
      ?_ ?_).2
    · refine (keeps_writeCurrentImage NotFailed.readsAnnotations _ ?_ ?_).1 <;> assumption
    · refine (keeps_writeCurrentImage NotFailed.readsAnnotations _ ?_ ?_).2 <;> assumption

end Calls

/-! ### The workflow -/

section Workflow

variable (co : Collaborators) (now : Time)

/-- The dispatch stores `UpgradeFailed` only through one of the four calls. -/
theorem dispatch_failure (cs : String) (a : Annotations) (c : Ctx) (hc : NotFailed c.cluster)
    (hs : NotFailed c.stored) :
    NotFailed (dispatch co now cs a c).1.stored ∨ ∃ err,
      UpgradeState.parse cs = some .idle ∧ (co.startPrechecks c.cluster).2 = .error err ∧
          ⟨eventTypeWarning, "PrecheckFailed", "Failed to start prechecks: " ++ err⟩ ∈
            (dispatch co now cs a c).1.events ∨
        UpgradeState.parse cs = some .precheckStart ∧
          (co.checkPrecheckStatus c.cluster).2 = .error err ∧
          ⟨eventTypeWarning, "PrecheckError", "Error during prechecks: " ++ err⟩ ∈
            (dispatch co now cs a c).1.events ∨
        UpgradeState.parse cs = some .waitingUser ∧
          (co.startRollingUpgrade c.cluster).2 = .error err ∧
          ⟨eventTypeWarning, "UpgradeFailed", "Failed to start rolling upgrade: " ++ err⟩ ∈
            (dispatch co now cs a c).1.events ∨
        UpgradeState.parse cs = some .inProgress ∧
          (co.checkUpgradeStatus c.cluster).2 = .error err ∧
          ⟨eventTypeWarning, "UpgradeError", "Error during rolling upgrade: " ++ err⟩ ∈
            (dispatch co now cs a c).1.events := by
  have hreset : NotFailed (cleanupUpgradeAnnotations now .idle c).1.stored :=
    (keeps_notFailed_cleanupUpgradeAnnotations now (by decide) c hc hs).2
  rcases hp : UpgradeState.parse cs with _ | x
  · simp only [dispatch, hp]
    exact .inl (keeps_notFailed_updateUpgradeStateWithResults now (by decide) none c hc hs).2
  cases x with
  | idle =>
    simp only [dispatch, hp]
    exact (handleIdleState_failure co now a c hc hs).imp_right fun ⟨err, h⟩ ↦
      ⟨err, .inl ⟨trivial, h⟩⟩
  | precheckStart =>
    simp only [dispatch, hp]
    exact (handlePrecheckStartState_failure co now a c hc hs).imp_right fun ⟨err, h⟩ ↦
      ⟨err, .inr (.inl ⟨trivial, h⟩)⟩
  | precheckDone =>
    simp only [dispatch, hp]
    exact .inl (((keeps_record _ _ _).bind fun _ ↦
      keeps_notFailed_updateUpgradeStateWithResults now (by decide) none) c hc hs).2
  | waitingUser =>
    simp only [dispatch, hp]
    exact (handleWaitingUserState_failure co now a c hc hs).imp_right fun ⟨err, h⟩ ↦
      ⟨err, .inr (.inr (.inl ⟨trivial, h⟩))⟩
  | inProgress =>
    simp only [dispatch, hp]
    exact (handleInProgressState_failure co now a c hc hs).imp_right fun ⟨err, h⟩ ↦
      ⟨err, .inr (.inr (.inr ⟨trivial, h⟩))⟩
  | completed | failed | cancelled =>
    simp only [dispatch, hp]
    exact .inl hreset
  | paused =>
    simp only [dispatch, hp]
    exact .inl (keeps_notFailed_updateUpgradeStateWithResults now (by decide) none c hc hs).2

/-- After the drift check, an invocation stores `UpgradeFailed` only through one of the four
calls, without a cancellation. -/
theorem processWorkflow_failure (cs : String) (c : Ctx) (hc : NotFailed c.cluster)
    (hs : NotFailed c.stored) :
    NotFailed (processWorkflow co now cs c).1.stored ∨
      c.cluster.annotations.get .cancelUpgrade ≠ "true" ∧ ∃ err,
        UpgradeState.parse cs = some .idle ∧ (co.startPrechecks c.cluster).2 = .error err ∧
          ⟨eventTypeWarning, "PrecheckFailed", "Failed to start prechecks: " ++ err⟩ ∈
            (processWorkflow co now cs c).1.events ∨
        UpgradeState.parse cs = some .precheckStart ∧
          (co.checkPrecheckStatus c.cluster).2 = .error err ∧
          ⟨eventTypeWarning, "PrecheckError", "Error during prechecks: " ++ err⟩ ∈
            (processWorkflow co now cs c).1.events ∨
        UpgradeState.parse cs = some .waitingUser ∧
          (co.startRollingUpgrade c.cluster).2 = .error err ∧
          ⟨eventTypeWarning, "UpgradeFailed", "Failed to start rolling upgrade: " ++ err⟩ ∈
            (processWorkflow co now cs c).1.events ∨
        UpgradeState.parse cs = some .inProgress ∧
          (co.checkUpgradeStatus c.cluster).2 = .error err ∧
          ⟨eventTypeWarning, "UpgradeError", "Error during rolling upgrade: " ++ err⟩ ∈
            (processWorkflow co now cs c).1.events := by
  simp only [processWorkflow, getCluster_bind_apply, pure_bind]
  split
  · exact .inl hs
  split
  · exact .inl (keeps_notFailed_handleCancellation now _ c hc hs).2
  · next hcancel =>
    exact (dispatch_failure co now cs _ c hc hs).imp_right (⟨hcancel, ·⟩)

/-- The workflow stores `UpgradeFailed`, from another state, only through one of the four
calls, without a cancellation; in `Idle` the prechecks are started on the object with the trigger
the drift check set. -/
theorem handleUpgradeWorkflow_failure (s : MarklogicCluster) (writes : List (Option String))
    (events : List Event) (hs : NotFailed s) :
    NotFailed (handleUpgradeWorkflow co now ⟨s, s, writes, events⟩).1.stored ∨
      s.annotations.get .cancelUpgrade ≠ "true" ∧ ∃ err,
        phase s = some .idle ∧ (co.startPrechecks (afterDrift s)).2 = .error err ∧
          ⟨eventTypeWarning, "PrecheckFailed", "Failed to start prechecks: " ++ err⟩ ∈
            (handleUpgradeWorkflow co now ⟨s, s, writes, events⟩).1.events ∨
        phase s = some .precheckStart ∧ (co.checkPrecheckStatus s).2 = .error err ∧
          ⟨eventTypeWarning, "PrecheckError", "Error during prechecks: " ++ err⟩ ∈
            (handleUpgradeWorkflow co now ⟨s, s, writes, events⟩).1.events ∨
        phase s = some .waitingUser ∧ (co.startRollingUpgrade s).2 = .error err ∧
          ⟨eventTypeWarning, "UpgradeFailed", "Failed to start rolling upgrade: " ++ err⟩ ∈
            (handleUpgradeWorkflow co now ⟨s, s, writes, events⟩).1.events ∨
        phase s = some .inProgress ∧ (co.checkUpgradeStatus s).2 = .error err ∧
          ⟨eventTypeWarning, "UpgradeError", "Error during rolling upgrade: " ++ err⟩ ∈
            (handleUpgradeWorkflow co now ⟨s, s, writes, events⟩).1.events := by
  simp only [handleUpgradeWorkflow, getCluster_bind_apply, pure_bind]
  split
  · exact .inl (((keeps_writeCurrentImage NotFailed.readsAnnotations).bind fun _ ↦
      Keeps.pure _) ⟨s, s, writes, events⟩ hs hs).2
  split
  · next hdr =>
    have hD : Drifts s := ⟨phase_eq_idle.2 hdr.1, hdr.2.2⟩
    simp only [bind_apply, modifyCluster_apply, update]
    rcases write_cases (fun cluster stored ↦ { stored with annotations := cluster.annotations })
      ⟨setTrigger s, s, writes, events⟩ with ⟨-, h⟩ | ⟨-, err, h⟩ <;> rw [h]
    · rcases processWorkflow_failure co now _ ⟨setTrigger s, setTrigger s, writes.tail, events⟩
          hs hs with
        h' | ⟨hc, err, h'⟩
      · exact .inl h'
      refine .inr ⟨hc, err, .inl ⟨hD.1, ?_⟩⟩
      rw [afterDrift, if_pos hD]
      rcases h' with ⟨-, h'⟩ | ⟨hp, -⟩ | ⟨hp, -⟩ | ⟨hp, -⟩
      · exact h'
      all_goals exact absurd (hD.1.symm.trans hp) (by decide)
    · exact .inl hs
  · next hdr =>
    have hD : ¬Drifts s := fun ⟨hp, hdet⟩ ↦
      hdr ⟨phase_eq_idle.1 hp, isClusterDeployed_of_detectImageChanges now hdet, hdet⟩
    rw [afterDrift, if_neg hD]
    exact processWorkflow_failure co now _ ⟨s, s, writes, events⟩ hs hs

end Workflow

/-! ### What `Reconcile` reports -/

/-- **Every failure is announced with its cause.** An invocation that stores `UpgradeFailed`
from another state found no cancellation and one of the four states that call a collaborator:
the collaborator answered an error, and the invocation recorded a `Warning` event whose message
carries that error's text. No write failure, refused cancellation or reset stores
`UpgradeFailed`. -/
theorem reconcile_failed_announced (env : Env) (s : MarklogicCluster)
    (hs : phase s ≠ some .failed) (hf : phase (reconcile env s).1.stored = some .failed) :
    s.annotations.get .cancelUpgrade ≠ "true" ∧ ∃ err,
      phase s = some .idle ∧ (env.collaborators.startPrechecks (afterDrift s)).2 = .error err ∧
          ⟨eventTypeWarning, "PrecheckFailed", "Failed to start prechecks: " ++ err⟩ ∈
            (reconcile env s).1.events ∨
        phase s = some .precheckStart ∧ (env.collaborators.checkPrecheckStatus s).2 = .error err ∧
          ⟨eventTypeWarning, "PrecheckError", "Error during prechecks: " ++ err⟩ ∈
            (reconcile env s).1.events ∨
        phase s = some .waitingUser ∧ (env.collaborators.startRollingUpgrade s).2 = .error err ∧
          ⟨eventTypeWarning, "UpgradeFailed", "Failed to start rolling upgrade: " ++ err⟩ ∈
            (reconcile env s).1.events ∨
        phase s = some .inProgress ∧ (env.collaborators.checkUpgradeStatus s).2 = .error err ∧
          ⟨eventTypeWarning, "UpgradeError", "Error during rolling upgrade: " ++ err⟩ ∈
            (reconcile env s).1.events := by
  rw [reconcile_fst] at hf ⊢
  exact (handleUpgradeWorkflow_failure env.collaborators env.now s env.writes [] hs).resolve_left
    fun h ↦ h hf

/-- With the prechecks unavailable, the image change of `retaggedCluster` fails the attempt and
says why. -/
theorem reconcile_failed_announced_down :
    phase retaggedCluster ≠ some .failed ∧
      phase (reconcile prechecksDownEnv retaggedCluster).1.stored = some .failed ∧
      ∃ err, (prechecksDownEnv.collaborators.startPrechecks (afterDrift retaggedCluster)).2 =
          .error err ∧
        ⟨eventTypeWarning, "PrecheckFailed", "Failed to start prechecks: " ++ err⟩ ∈
          (reconcile prechecksDownEnv retaggedCluster).1.events := by
  have hs : phase retaggedCluster ≠ some .failed := by decide
  have hf : phase (reconcile prechecksDownEnv retaggedCluster).1.stored = some .failed := by
    decide
  obtain ⟨-, err, h⟩ := reconcile_failed_announced _ _ hs hf
  rcases h with ⟨-, h⟩ | ⟨hp, -⟩ | ⟨hp, -⟩ | ⟨hp, -⟩
  · exact ⟨hs, hf, err, h⟩
  all_goals exact absurd hp (by decide)

/-! ### With the code's own collaborators -/

/-- The code's rollout check answers whether the rollout converged, never an error. -/
theorem Collaborators.ofCode_checkUpgradeStatus_ne_error (now : Time)
    (get : ObjectKey → Option StatefulSet) (c : MarklogicCluster) (err : String) :
    ((Collaborators.ofCode now get).checkUpgradeStatus c).2 ≠ .error err := by
  simp only [Collaborators.ofCode, RollingUpgradeHandler.checkUpgradeStatus,
    RollingUpgradeHandler.checkUpgradeProgress_eq]
  split_ifs <;> simp [RollingUpgradeHandler.performClusterHealthCheck]

/-- With the code's collaborators, an invocation never stores `UpgradeFailed` it did not find. -/
theorem reconcile_notFailed_ofCode {env : Env}
    (hcode : ∃ now get, env.collaborators = Collaborators.ofCode now get) {s : MarklogicCluster}
    (hs : NotFailed s) : NotFailed (reconcile env s).1.stored := by
  obtain ⟨now, get, hco⟩ := hcode
  rw [reconcile_fst]
  rcases handleUpgradeWorkflow_failure env.collaborators env.now s env.writes [] hs with
    h | ⟨-, err, ⟨-, h, -⟩ | ⟨-, h, -⟩ | ⟨-, h, -⟩ | ⟨-, h, -⟩⟩
  · exact h
  all_goals rw [hco] at h
  · rw [(Collaborators.ofCode_answers now get _).1] at h
    cases h
  · obtain ⟨r, hr⟩ := (Collaborators.ofCode_answers now get s).2.1
    rw [hr] at h
    cases h
  · rw [(Collaborators.ofCode_answers now get s).2.2.1] at h
    cases h
  · exact absurd h (Collaborators.ofCode_checkUpgradeStatus_ne_error now get s err)

/-- **The shipped collaborators never fail an attempt.** Along any run whose invocations all
call the code's own precheck and rollout handlers (at any clock, over any StatefulSets, with any
write failures) and any user writes, an object not in `UpgradeFailed` never reaches it: the
failure branches of the workflow are reached only by collaborators that answer errors. -/
theorem trace_notFailed_ofCode (s : MarklogicCluster) (as : List Action)
    (hs : phase s ≠ some .failed)
    (hcode : ∀ env, Action.reconcile env ∈ as →
      ∃ now get, env.collaborators = Collaborators.ofCode now get) :
    ∀ s' ∈ trace s as, phase s' ≠ some .failed := by
  refine mem_trace_of_step (P := NotFailed) (fun a ha t ht ↦ ?_) hs
  cases a with
  | reconcile env => exact reconcile_notFailed_ofCode (hcode env ha) ht
  | user w => exact (UserWrite.phase_apply w t).trans_ne ht

theorem trace_notFailed_ofCode_upgrade :
    phase retaggedCluster ≠ some .failed ∧
      (∀ env, Action.reconcile env ∈ [.reconcile codeEnv, .reconcile codeEnv,
          .user (.annotate .proceedUpgrade (some "true")), .reconcile codeEnv] →
        ∃ now get, env.collaborators = Collaborators.ofCode now get) ∧
      ∀ s' ∈ trace retaggedCluster [.reconcile codeEnv, .reconcile codeEnv,
          .user (.annotate .proceedUpgrade (some "true")), .reconcile codeEnv],
        phase s' ≠ some .failed :=
  have hs : phase retaggedCluster ≠ some .failed := by decide
  have hcode : ∀ env, Action.reconcile env ∈ [.reconcile codeEnv, .reconcile codeEnv,
      .user (.annotate .proceedUpgrade (some "true")), .reconcile codeEnv] →
      ∃ now get, env.collaborators = Collaborators.ofCode now get := fun env h ↦ by
    obtain rfl : env = codeEnv := by simpa using h
    exact ⟨_, _, rfl⟩
  ⟨hs, hcode, trace_notFailed_ofCode _ _ hs hcode⟩

/-- **`Reconcile` fails only on a write.** Every error an invocation returns is the outcome of
one of its own API writes; an error of the precheck or rollout handlers never reaches the
caller. -/
theorem reconcile_error_mem_writes (env : Env) (s : MarklogicCluster) {err : String}
    (h : (reconcile env s).2 = .error err) : some err ∈ env.writes := by
  obtain ⟨ws, hw, he⟩ :=
    failsOnWrite_handleUpgradeWorkflow env.collaborators env.now ⟨s, s, env.writes, []⟩
  change env.writes = _ at hw
  rw [hw]
  refine List.mem_append_left _ (he err ?_)
  unfold reconcile at h
  split at h
  · next heq =>
    rw [heq]
    cases h
    rfl
  · split_ifs at h

/-- A conflict on the trigger's write is what `Reconcile` returns. -/
theorem reconcile_error_mem_writes_conflict :
    (reconcile { codeEnv with writes := [some "conflict"] } retaggedCluster).2 =
        .error "conflict" ∧
      some "conflict" ∈ ({ codeEnv with writes := [some "conflict"] } : Env).writes :=
  have h : (reconcile { codeEnv with writes := [some "conflict"] } retaggedCluster).2 =
      .error "conflict" := by decide
  ⟨h, reconcile_error_mem_writes _ _ h⟩

end MarklogicUpgrade
