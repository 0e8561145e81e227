import MarklogicUpgrade.Handler.Upgrade

/-!
# One invocation of the workflow, as a transition table

The handler of `HandleUpgradeWorkflow` is a tree of nested branches with up to three writes
along a path, each of which may fail. This module says once, as a table, everything one
invocation can do, and proves that the handler does nothing else (`handleUpgradeWorkflow_step`).
Every later statement about the workflow is a case analysis of the table, not of the handler.

An invocation handed the object `s` reads its state `currentState s.annotations` once, at the
start. It may record the baseline image of a cluster it judges undeployed (`Step.baseline`), or
set the trigger on an image change and fail to store it (`Step.driftNotStored`). Otherwise the
rest of the handler runs on `afterDrift s`, the object with the trigger it stored, and ends
in one row of `Ends`:

* `quiet`: no write. An untriggered `Idle`, a refused cancellation, or a handler waiting for
  its collaborator or for approval (`Quiet`).
* `advance`: `updateUpgradeStateWithResults` to a state that `Advances` allows.
* `cleanup`: `cleanupUpgradeAnnotations` to a state that `CleansUp` allows.
* `complete`: a completed rollout. The image is recorded by a status write whose error is
  ignored, then the cleanup to `UpgradeCompleted` runs.

Each of the last three ends in the two writes of `writeBack`, and `Persists` lists what those
writes can leave: nothing, or the annotations, with the reply of the `Update`, which carries
the stored status, in memory. The `Status().Update` that follows writes that status back, so
the status edits of a state change are never stored; the image of a completed rollout is
stored only by its own write, and when that write fails the cleanup's reply brings the old
image back into memory.
-/

namespace MarklogicUpgrade

namespace UpgradeHandler

/-! ### The table -/

/-- The state an invocation reads from the object it is handed. -/
def phase (s : MarklogicCluster) : Option UpgradeState :=
  UpgradeState.parse (currentState s.annotations)

/-- The drift check fires: `Idle`, and a recorded image that differs from the spec's. -/
def Drifts (s : MarklogicCluster) : Prop :=
  phase s = some .idle ∧ detectImageChanges s = true

instance : DecidablePred Drifts := fun _ ↦ inferInstanceAs (Decidable (_ ∧ _))

/-- The object the rest of the handler works on: with the trigger when the drift check fired
and its write succeeded. -/
def afterDrift (s : MarklogicCluster) : MarklogicCluster :=
  if Drifts s then setTrigger s else s

section Table

variable (cs : String) (t : MarklogicCluster)

/-- The returns without a write, by the state `cs` read at the start and the signals on `t`,
with the result each returns. -/
inductive Quiet : Result → Prop
  /-- `Idle` without the trigger: the early return. -/
  | untriggered (hp : UpgradeState.parse cs = some .idle)
      (ht : t.annotations.get .triggerUpgrade ≠ "true") : Quiet {}
  /-- A cancellation refused while the rollout is in progress. -/
  | cancellationDenied (hc : t.annotations.get .cancelUpgrade = "true")
      (hr : t.annotations.get .upgradeState = UpgradeState.inProgress.value) : Quiet {}
  /-- The prechecks are still running. -/
  | prechecksRunning (hc : t.annotations.get .cancelUpgrade ≠ "true")
      (hp : UpgradeState.parse cs = some .precheckStart) : Quiet { requeueAfter := 2 * minute }
  /-- No approval yet. -/
  | awaitingApproval (hc : t.annotations.get .cancelUpgrade ≠ "true")
      (hp : UpgradeState.parse cs = some .waitingUser)
      (hproceed : t.annotations.get .proceedUpgrade ≠ "true") :
      Quiet { requeueAfter := 5 * minute }
  /-- The rollout has not converged yet. -/
  | rolloutRunning (hc : t.annotations.get .cancelUpgrade ≠ "true")
      (hp : UpgradeState.parse cs = some .inProgress) : Quiet { requeueAfter := 2 * minute }

/-- The states `updateUpgradeStateWithResults` moves to, by the state `cs` read at the start and
the signals on `t`. -/
inductive Advances : UpgradeState → Prop
  /-- `Idle` with the trigger, prechecks started. -/
  | prechecksStarted (hp : UpgradeState.parse cs = some .idle)
      (ht : t.annotations.get .triggerUpgrade = "true") : Advances .precheckStart
  /-- `Idle` with the trigger, prechecks failed to start. -/
  | prechecksNotStarted (hp : UpgradeState.parse cs = some .idle)
      (ht : t.annotations.get .triggerUpgrade = "true") : Advances .failed
  /-- The prechecks reported an error. -/
  | precheckError (hp : UpgradeState.parse cs = some .precheckStart) : Advances .failed
  /-- The prechecks completed, with their report. -/
  | prechecksCompleted (hp : UpgradeState.parse cs = some .precheckStart) :
      Advances .precheckDone
  /-- The report is in: wait for the user. -/
  | awaitApproval (hp : UpgradeState.parse cs = some .precheckDone) : Advances .waitingUser
  /-- Approved, and the rollout started. -/
  | approved (hp : UpgradeState.parse cs = some .waitingUser)
      (hproceed : t.annotations.get .proceedUpgrade = "true") : Advances .inProgress
  /-- Approved, and the rollout failed to start. -/
  | rolloutNotStarted (hp : UpgradeState.parse cs = some .waitingUser)
      (hproceed : t.annotations.get .proceedUpgrade = "true") : Advances .failed
  /-- The rollout reported an error. -/
  | rolloutError (hp : UpgradeState.parse cs = some .inProgress) : Advances .failed
  /-- An unknown state, or `UpgradePaused`, which no branch handles: back to `Idle`. -/
  | unknown (hp : UpgradeState.parse cs = none ∨ UpgradeState.parse cs = some .paused) :
      Advances .idle

/-- The states `cleanupUpgradeAnnotations` moves to, outside a completed rollout. -/
inductive CleansUp : UpgradeState → Prop
  /-- The user cancelled, outside a rollout in progress; in `Idle` only once triggered. -/
  | cancelled (hc : t.annotations.get .cancelUpgrade = "true")
      (hr : t.annotations.get .upgradeState ≠ UpgradeState.inProgress.value)
      (hi : UpgradeState.parse cs = some .idle → t.annotations.get .triggerUpgrade = "true") :
      CleansUp .cancelled
  /-- A terminal state is reset to `Idle`. -/
  | reset (hc : t.annotations.get .cancelUpgrade ≠ "true")
      (hp : UpgradeState.parse cs = some .completed ∨ UpgradeState.parse cs = some .failed ∨
        UpgradeState.parse cs = some .cancelled) : CleansUp .idle

end Table

/-- What the two writes of `writeBack` can leave, from the in-memory object `m` and the stored
`t`, in the context and result `p`: nothing stored and the edits still in memory; or the
annotations stored and in memory the reply, with the stored status, which the status write
stores back. Only when both writes succeed is the result success. -/
def Persists (m t : MarklogicCluster) (p : Ctx × Except String Result) : Prop :=
  (p.1.stored = t ∧ p.1.cluster = m ∧ ∃ err, p.2 = .error err) ∨
    (p.1.stored = { t with annotations := m.annotations } ∧ p.1.cluster = p.1.stored ∧
      ∃ err, p.2 = .error err) ∨
    (p.1.stored = { t with annotations := m.annotations } ∧ p.1.cluster = p.1.stored ∧
      p.2 = .ok {})

/-- How the part of an invocation after the drift check ends, from the state `cs` read at the
start, the object `t` it works on, stored and in memory, and the outcomes `ws` of its writes:
its context and result `p`. -/
inductive Ends (now : Time) (cs : String) (t : MarklogicCluster) (ws : List (Option String))
    (p : Ctx × Except String Result) : Prop
  /-- No write. -/
  | quiet {res : Result} (h : Quiet cs t res) (hs : p.1.stored = t) (hc : p.1.cluster = t)
      (hr : p.2 = .ok res)
  /-- A state set by `updateUpgradeStateWithResults`. -/
  | advance {x : UpgradeState} {results : Option PrecheckResults}
      (hcancel : t.annotations.get .cancelUpgrade ≠ "true") (hx : Advances cs t x)
      (h : Persists (stateEdits now x results t) t p)
  /-- A state set by `cleanupUpgradeAnnotations`. -/
  | cleanup {x : UpgradeState} (hx : CleansUp cs t x) (h : Persists (cleanupEdits now x t) t p)
  /-- A completed rollout: the image recorded unless its write fails, then the cleanup to
  `UpgradeCompleted`. -/
  | complete (hcancel : t.annotations.get .cancelUpgrade ≠ "true")
      (hp : UpgradeState.parse cs = some .inProgress)
      (h : Persists (cleanupEdits now .completed (recordImage t))
        (if nextWriteFails ws then t else recordImage t) p)

/-- How one invocation from the object `s`, with the outcomes `ws` of its writes, ends: its
context and result `p`. -/
inductive Step (now : Time) (s : MarklogicCluster) (ws : List (Option String))
    (p : Ctx × Except String Result) : Prop
  /-- A cluster judged undeployed: its image recorded as the baseline. -/
  | baseline (hp : phase s = some .idle) (hd : isClusterDeployed now s = false)
      (hc : p.1.cluster = recordImage s)
      (h : p.1.stored = recordImage s ∧ p.2 = .ok {} ∨ p.1.stored = s ∧ ∃ err, p.2 = .error err)
  /-- The trigger set on an image change, and its write failed. -/
  | driftNotStored (hd : Drifts s) (hc : p.1.cluster = setTrigger s) (hs : p.1.stored = s)
      (err : String) (hr : p.2 = .error err)
  /-- The rest of the handler, on `afterDrift s`, after the drift check's write if it made
  one. -/
  | proceed (hd : phase s = some .idle → isClusterDeployed now s = true)
      (h : Ends now (currentState s.annotations) (afterDrift s)
        (if Drifts s then ws.tail else ws) p)

section Complete

variable (b : Bool) (t : MarklogicCluster)

@[simp]
theorem ite_recordImage_spec : (if b = true then t else recordImage t).spec = t.spec := by
  split <;> rfl

@[simp]
theorem ite_recordImage_annotations :
    (if b = true then t else recordImage t).annotations = t.annotations := by
  split <;> rfl

theorem ite_recordImage_status :
    (if b = true then t else recordImage t).status = t.status ∨
      (if b = true then t else recordImage t).status = (recordImage t).status := by
  split
  exacts [.inl rfl, .inr rfl]

end Complete

/-! ### The writes -/

variable (co : Collaborators) (now : Time)

theorem writeBack_persists (c : Ctx) :
    Persists c.cluster c.stored (writeBack c) ∧ (writeBack c).1.events = c.events := by
  obtain ⟨cluster, stored, writes, events⟩ := c
  rcases writes with _ | ⟨_ | err, _ | ⟨_ | err', _⟩⟩ <;>
    simp [writeBack, update, statusUpdate, write, Persists]

/-- The end of every state change: the edits are made in memory, then written back. -/
theorem ends_of_writeBack (edit : MarklogicCluster → MarklogicCluster) (c : Ctx) :
    Persists (edit c.cluster) c.stored ((modifyCluster edit >>= fun _ ↦ writeBack) c) ∧
      ((modifyCluster edit >>= fun _ ↦ writeBack) c).1.events = c.events :=
  writeBack_persists { c with cluster := edit c.cluster }

/-- `updateCurrentImages` records the image in memory, then stores it, decodes the reply and
succeeds, or stores nothing and fails, as its write's outcome says. -/
theorem writeCurrentImage_stored (c : Ctx) (hc : c.cluster = c.stored) :
    (writeCurrentImage c).1.cluster = recordImage c.stored ∧
      (writeCurrentImage c).1.events = c.events ∧
      (nextWriteFails c.writes = false ∧ (writeCurrentImage c).1.stored = recordImage c.stored ∧
          (writeCurrentImage c).2 = .ok () ∨
        nextWriteFails c.writes = true ∧ (writeCurrentImage c).1.stored = c.stored ∧
          ∃ err, (writeCurrentImage c).2 = .error err) := by
  obtain ⟨cluster, stored, _ | ⟨_ | err, _⟩, events⟩ := c <;> simp only at hc <;> subst hc <;>
    simp [writeCurrentImage, statusUpdate, write, nextWriteFails, recordImage]

section Handlers

variable {cs : String} {t : MarklogicCluster} {ws : List (Option String)} {c : Ctx}

theorem ends_updateUpgradeStateWithResults {x : UpgradeState} (results : Option PrecheckResults)
    (hcancel : t.annotations.get .cancelUpgrade ≠ "true") (hx : Advances cs t x)
    (hc : c.cluster = t) (hs : c.stored = t) :
    Ends now cs t ws (updateUpgradeStateWithResults now x results c) := by
  have h := (ends_of_writeBack (stateEdits now x results) c).1
  rw [hc, hs] at h
  exact .advance hcancel hx h

theorem ends_cleanupUpgradeAnnotations {x : UpgradeState} (hx : CleansUp cs t x)
    (hc : c.cluster = t) (hs : c.stored = t) :
    Ends now cs t ws (cleanupUpgradeAnnotations now x c) := by
  have h := (ends_of_writeBack (cleanupEdits now x) c).1
  rw [hc, hs] at h
  exact .cleanup hx h

theorem ends_quiet {res : Result} (h : Quiet cs t res) (hc : c.cluster = t) (hs : c.stored = t) :
    Ends now cs t ws (c, .ok res) :=
  .quiet h hs hc rfl

theorem ends_complete (hcancel : t.annotations.get .cancelUpgrade ≠ "true")
    (hp : UpgradeState.parse cs = some .inProgress) (c : Ctx) (hc : c.cluster = t)
    (hs : c.stored = t) (events : List Event) :
    Ends now cs t c.writes
      (cleanupUpgradeAnnotations now .completed (updateCurrentImages { c with events }).1) := by
  obtain ⟨cluster, stored, writes, _⟩ := c
  obtain rfl : cluster = t := hc
  obtain rfl : stored = cluster := hs
  obtain ⟨himage, -, hstored⟩ := writeCurrentImage_stored ⟨stored, stored, writes, events⟩ rfl
  have h := ends_of_writeBack (cleanupEdits now .completed)
    (writeCurrentImage ⟨stored, stored, writes, events⟩).1
  refine .complete hcancel hp ?_
  rcases hstored with ⟨hf, hst, -⟩ | ⟨hf, hst, -⟩ <;> rw [himage, hst] at h <;>
    simpa [hf] using h.1

theorem ends_handleCancellation (hc : c.cluster = t) (hs : c.stored = t)
    (hcancel : t.annotations.get .cancelUpgrade = "true")
    (hi : UpgradeState.parse cs = some .idle → t.annotations.get .triggerUpgrade = "true") :
    Ends now cs t ws (handleCancellation now t.annotations c) := by
  unfold handleCancellation
  by_cases hr : t.annotations.get .upgradeState = UpgradeState.inProgress.value
  · simp only [if_pos hr, Handler.bind_apply, record_apply, Handler.pure_apply]
    exact ends_quiet now (.cancellationDenied hcancel hr) hc hs
  · simp only [if_neg hr, Handler.bind_apply, record_apply]
    exact ends_cleanupUpgradeAnnotations now (.cancelled hcancel hr hi) hc hs

variable (hc : c.cluster = t) (hs : c.stored = t)
  (hcancel : t.annotations.get .cancelUpgrade ≠ "true")
include hc hs hcancel

theorem ends_handleIdleState (hp : UpgradeState.parse cs = some .idle)
    (ht : t.annotations.get .triggerUpgrade = "true") :
    Ends now cs t c.writes (handleIdleState co now t.annotations c) := by
  simp only [handleIdleState, if_pos ht, Handler.bind_apply, call_apply]
  rcases (co.startPrechecks c.cluster).2 with err | ⟨⟩ <;>
    simp only [record_apply, Handler.bind_apply] <;>
    exact ends_updateUpgradeStateWithResults now none hcancel (by constructor <;> assumption) hc hs

theorem ends_handlePrecheckStartState (hp : UpgradeState.parse cs = some .precheckStart) :
    Ends now cs t c.writes (handlePrecheckStartState co now t.annotations c) := by
  simp only [handlePrecheckStartState, Handler.bind_apply, call_apply]
  rcases (co.checkPrecheckStatus c.cluster).2 with err | _ | results <;>
    simp only [record_apply, Handler.bind_apply]
  · exact ends_updateUpgradeStateWithResults now none hcancel (.precheckError hp) hc hs
  · exact ends_quiet now (.prechecksRunning hcancel hp) hc hs
  · exact ends_updateUpgradeStateWithResults now _ hcancel (.prechecksCompleted hp) hc hs

theorem ends_handlePrecheckDoneState (hp : UpgradeState.parse cs = some .precheckDone) :
    Ends now cs t c.writes (handlePrecheckDoneState now t.annotations c) := by
  simp only [handlePrecheckDoneState, Handler.bind_apply, record_apply]
  exact ends_updateUpgradeStateWithResults now none hcancel (.awaitApproval hp) hc hs

theorem ends_handleWaitingUserState (hp : UpgradeState.parse cs = some .waitingUser) :
    Ends now cs t c.writes (handleWaitingUserState co now t.annotations c) := by
  unfold handleWaitingUserState
  by_cases hproceed : t.annotations.get .proceedUpgrade = "true"
  · simp only [if_pos hproceed, Handler.bind_apply, record_apply, call_apply]
    rcases (co.startRollingUpgrade _).2 with err | ⟨⟩ <;>
      simp only [record_apply, Handler.bind_apply]
    · exact ends_updateUpgradeStateWithResults now none hcancel (.rolloutNotStarted hp hproceed)
        hc hs
    · exact ends_updateUpgradeStateWithResults now none hcancel (.approved hp hproceed) hc hs
  · simp only [if_neg hproceed]
    exact ends_quiet now (.awaitingApproval hcancel hp hproceed) hc hs

theorem ends_handleInProgressState (hp : UpgradeState.parse cs = some .inProgress) :
    Ends now cs t c.writes (handleInProgressState co now t.annotations c) := by
  simp only [handleInProgressState, Handler.bind_apply, call_apply]
  rcases (co.checkUpgradeStatus c.cluster).2 with err | _ | _ <;>
    simp only [record_apply, Handler.bind_apply, ignoreError_apply]
  · exact ends_updateUpgradeStateWithResults now none hcancel (.rolloutError hp) hc hs
  · exact ends_quiet now (.rolloutRunning hcancel hp) hc hs
  · exact ends_complete now hcancel hp c hc hs _

theorem ends_dispatch
    (hi : UpgradeState.parse cs = some .idle → t.annotations.get .triggerUpgrade = "true") :
    Ends now cs t c.writes (dispatch co now cs t.annotations c) := by
  unfold dispatch
  rcases hp : UpgradeState.parse cs with _ | ⟨_ | _ | _ | _ | _ | _ | _ | _ | _⟩
  · exact ends_updateUpgradeStateWithResults now none hcancel (.unknown (.inl hp)) hc hs
  · exact ends_handleIdleState co now hc hs hcancel hp (hi hp)
  · exact ends_handlePrecheckStartState co now hc hs hcancel hp
  · exact ends_handlePrecheckDoneState now hc hs hcancel hp
  · exact ends_handleWaitingUserState co now hc hs hcancel hp
  · exact ends_handleInProgressState co now hc hs hcancel hp
  · exact ends_cleanupUpgradeAnnotations now (.reset hcancel (.inl hp)) hc hs
  · exact ends_cleanupUpgradeAnnotations now (.reset hcancel (.inr (.inl hp))) hc hs
  · exact ends_cleanupUpgradeAnnotations now (.reset hcancel (.inr (.inr hp))) hc hs
  · exact ends_updateUpgradeStateWithResults now none hcancel (.unknown (.inr hp)) hc hs

end Handlers

theorem ends_processWorkflow {cs : String} {t : MarklogicCluster} {c : Ctx}
    (hc : c.cluster = t) (hs : c.stored = t) :
    Ends now cs t c.writes (processWorkflow co now cs c) := by
  simp only [processWorkflow, Handler.bind_apply, getCluster_apply, hc]
  by_cases he : cs = UpgradeState.idle.value ∧ t.annotations.get .triggerUpgrade ≠ "true"
  · rw [if_pos he]
    exact ends_quiet now (.untriggered (UpgradeState.parse_eq_some.2 he.1.symm) he.2) hc hs
  have hi (hp : UpgradeState.parse cs = some .idle) :
      t.annotations.get .triggerUpgrade = "true" :=
    not_not.1 fun ht ↦ he ⟨(UpgradeState.parse_eq_some.1 hp).symm, ht⟩
  rw [if_neg he]
  by_cases hcancel : t.annotations.get .cancelUpgrade = "true"
  · rw [if_pos hcancel]
    exact ends_handleCancellation now hc hs hcancel hi
  · rw [if_neg hcancel]
    exact ends_dispatch co now hc hs hcancel hi

theorem phase_eq_idle {s : MarklogicCluster} :
    phase s = some .idle ↔ currentState s.annotations = UpgradeState.idle.value :=
  UpgradeState.parse_eq_some.trans eq_comm

/-- An image change needs a recorded image, so the cluster counts as deployed. -/
theorem isClusterDeployed_of_detectImageChanges {s : MarklogicCluster}
    (h : detectImageChanges s = true) : isClusterDeployed now s = true := by
  have hrecorded : s.status.currentImage ≠ "" := fun h0 ↦ by simp [detectImageChanges, h0] at h
  rw [isClusterDeployed, if_pos hrecorded]

/-- **The handler refines the table.** Every invocation of `HandleUpgradeWorkflow` on the
fetched object `s`, under any answers of the collaborators and any outcomes of its writes, ends
in one row of `Step`. -/
theorem handleUpgradeWorkflow_step (s : MarklogicCluster) (writes : List (Option String))
    (events : List Event) :
    Step now s writes (handleUpgradeWorkflow co now ⟨s, s, writes, events⟩) := by
  simp only [handleUpgradeWorkflow, Handler.bind_apply, getCluster_apply]
  by_cases hb : currentState s.annotations = UpgradeState.idle.value ∧
      ¬isClusterDeployed now s = true
  · rw [if_pos hb]
    have hp := phase_eq_idle.2 hb.1
    have hd : isClusterDeployed now s = false := by simpa using hb.2
    obtain ⟨himage, -, hstored⟩ := writeCurrentImage_stored ⟨s, s, writes, events⟩ rfl
    simp only [Handler.bind_apply, updateStatusAfterDeployment]
    rcases hw : writeCurrentImage ⟨s, s, writes, events⟩ with ⟨c', r⟩
    rw [hw] at himage hstored
    rcases hstored with ⟨-, hst, rfl⟩ | ⟨-, hst, err, rfl⟩
    · exact .baseline hp hd himage (.inl ⟨hst, rfl⟩)
    · exact .baseline hp hd himage (.inr ⟨hst, err, rfl⟩)
  have hd (hp : phase s = some .idle) : isClusterDeployed now s = true :=
    not_not.1 fun h ↦ hb ⟨phase_eq_idle.1 hp, h⟩
  rw [if_neg hb]
  simp only [Handler.bind_apply, Handler.pure_apply]
  by_cases hdr : currentState s.annotations = UpgradeState.idle.value ∧
      isClusterDeployed now s = true ∧ detectImageChanges s = true
  · have hD : Drifts s := ⟨phase_eq_idle.2 hdr.1, hdr.2.2⟩
    rw [if_pos hdr]
    simp only [Handler.bind_apply, modifyCluster_apply, update]
    rcases write_cases (fun cluster stored ↦ { stored with annotations := cluster.annotations })
      { cluster := setTrigger s, stored := s, writes := writes, events := events }
      with ⟨-, h⟩ | ⟨-, err, h⟩ <;> rw [h]
    · refine .proceed hd ?_
      simp only [afterDrift, if_pos hD]
      exact ends_processWorkflow co now (c := ⟨_, _, writes.tail, events⟩) rfl rfl
    · exact .driftNotStored hD rfl rfl err rfl
  · have hD : ¬Drifts s := fun ⟨hp, hdet⟩ ↦
      hdr ⟨phase_eq_idle.1 hp, isClusterDeployed_of_detectImageChanges now hdet, hdet⟩
    rw [if_neg hdr]
    simp only [Handler.bind_apply, Handler.pure_apply]
    refine .proceed hd ?_
    simp only [afterDrift, if_neg hD]
    exact ends_processWorkflow co now (c := ⟨_, _, writes, events⟩) rfl rfl

end UpgradeHandler

end MarklogicUpgrade
