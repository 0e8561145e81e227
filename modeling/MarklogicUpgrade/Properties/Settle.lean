import MarklogicUpgrade.Properties.Progress

/-!
# The operator settles on its own

`Properties.Progress` follows the one path a user drives; this module asks what the operator
does when nobody writes at all. From any object of a deployed cluster (an image recorded, one in
the spec), whatever its annotations hold (a stale trigger or approval, a cancellation, a state
string no branch knows), seven invocations that meet no failure and no wait bring it to rest:
every later invocation, whatever it meets, stores the object it finds. It rests in one of three
places: `Idle` with the spec's image recorded and no trigger, `WaitingForUserApproval` with
neither an approval nor a cancellation, or `UpgradeInProgress` with a refused cancellation.

## The abstraction

On a deployed cluster an invocation reads five facts of the object it finds (`Signals`): the
upgrade state, the three control annotations, and whether the recorded image differs from the
spec's. `Signals.next` says what an invocation that meets no failure and no wait does to them,
in the order `HandleUpgradeWorkflow` tests them: the early return of an untriggered `Idle`, the
cancellation, then the switch. The bound is a fact of that machine of ten states by sixteen
(`Signals.next_iterate_seven`), checked by evaluation. One lemma connects the two levels
(`reconcile_signals`): a prompt invocation maps the signals of the object it finds by `next`;
and an object whose signals `next` fixes is one every invocation leaves alone
(`reconcile_of_rest`).

## Why seven

Seven is reached from an unknown state with a stale trigger and approval: the reset to `Idle`,
which keeps the control annotations; the prechecks' start and completion; the wait for the user,
which the stale approval ends at once; the rollout's start and completion; and the reset of
`UpgradeCompleted`, after which the spec's image is recorded and nothing triggers again.

## When the prechecks cannot start

Settling needs the collaborators. A failure resets to `Idle` without recording the image, so
the image change is still there and the drift check triggers a new attempt at once. With
prechecks that never start, the operator moves `Idle` to `UpgradeFailed` and back at every
invocation, with no limit on the attempts (`failedPrechecks_retried`).
-/

namespace MarklogicUpgrade

open UpgradeHandler

/-! ### The abstract machine -/

/-- What an invocation of a deployed cluster reads off the object it finds. -/
structure Signals where
  phase : Option UpgradeState
  trigger : Bool
  proceed : Bool
  cancel : Bool
  drift : Bool
deriving DecidableEq, Repr

namespace Signals

/-- After `cleanupUpgradeAnnotations` to `x`: the control annotations are deleted. -/
def cleanup (a : Signals) (x : UpgradeState) : Signals :=
  ⟨some x, false, false, false, a.drift⟩

/-- What an invocation that meets no failure and no wait does to the signals: an untriggered
`Idle` stays; a cancellation is refused in `UpgradeInProgress` and ends the attempt elsewhere;
otherwise each state takes its successful branch. A completed rollout records the image. -/
def next (a : Signals) : Signals :=
  if a.phase = some .idle ∧ a.trigger = false ∧ a.drift = false then a
  else if a.cancel then
    if a.phase = some .inProgress then a else a.cleanup .cancelled
  else
    match a.phase with
    | some .idle => { a with phase := some .precheckStart, trigger := true }
    | some .precheckStart => { a with phase := some .precheckDone }
    | some .precheckDone => { a with phase := some .waitingUser }
    | some .waitingUser => if a.proceed then { a with phase := some .inProgress } else a
    | some .inProgress => { a.cleanup .completed with drift := false }
    | some .completed | some .failed | some .cancelled => a.cleanup .idle
    | none | some .paused => { a with phase := some .idle }

theorem next_of_idle {a : Signals} (hp : a.phase = some .idle)
    (hgo : ¬(a.trigger = false ∧ a.drift = false)) :
    a.next = if a.cancel then a.cleanup .cancelled
      else { a with phase := some .precheckStart, trigger := true } := by
  simp [next, hp, hgo]

theorem next_of_cancel {a : Signals} (hp : a.phase ≠ some .idle) (hc : a.cancel = true) :
    a.next = if a.phase = some .inProgress then a else a.cleanup .cancelled := by
  simp [next, hp, hc]

/-- Where the machine rests: `Idle` with nothing to start, waiting for an approval, or a refused
cancellation. -/
def Rest (a : Signals) : Prop :=
  a.phase = some .idle ∧ a.trigger = false ∧ a.drift = false ∨
    a.phase = some .waitingUser ∧ a.proceed = false ∧ a.cancel = false ∨
    a.phase = some .inProgress ∧ a.cancel = true

instance : DecidablePred Rest := fun _ ↦ inferInstanceAs (Decidable (_ ∨ _))

theorem next_eq_self_iff (a : Signals) : a.next = a ↔ a.Rest := by
  obtain ⟨p, t, pr, c, d⟩ := a
  revert t pr c d
  cases p with
  | none => decide
  | some x => cases x <;> decide

/-- **Seven steps reach a rest**, from any signals. -/
theorem next_iterate_seven (a : Signals) : (next^[7] a).Rest := by
  obtain ⟨p, t, pr, c, d⟩ := a
  revert t pr c d
  cases p with
  | none => decide
  | some x => cases x <;> decide

/-- The bound is reached: from an unknown state with a stale trigger and approval, six steps
leave the machine in `UpgradeCompleted`. -/
example : ¬(next^[6] ⟨none, true, true, false, false⟩).Rest := by decide

/-- A rest, once reached, is kept. -/
theorem iterate_rest (a : Signals) {n : ℕ} (hn : 7 ≤ n) : (next^[n] a).Rest := by
  obtain ⟨k, rfl⟩ := Nat.exists_eq_add_of_le hn
  rw [Nat.add_comm, Function.iterate_add_apply,
    Function.iterate_fixed ((next_eq_self_iff _).2 (next_iterate_seven a))]
  exact next_iterate_seven a

end Signals

/-! ### The signals of an object -/

/-- The signals of an object. -/
def signals (s : MarklogicCluster) : Signals :=
  ⟨phase s, s.annotations.get .triggerUpgrade = "true",
    s.annotations.get .proceedUpgrade = "true", s.annotations.get .cancelUpgrade = "true",
    detectImageChanges s⟩

/-- After a state change: the edited annotations over the status as it was. -/
@[simp]
theorem signals_withStateEdits (now : Time) (x : UpgradeState) (results : Option PrecheckResults)
    (c : MarklogicCluster) :
    signals { c with annotations := (stateEdits now x results c).annotations } =
      { signals c with phase := some x } := by
  simp [signals, Annotations.get, stateEdits_get?, detectImageChanges]

@[simp]
theorem signals_withCleanupEdits (now : Time) (x : UpgradeState) (c : MarklogicCluster) :
    signals { c with annotations := (cleanupEdits now x c).annotations } =
      (signals c).cleanup x := by
  simp [signals, Signals.cleanup, Annotations.get, detectImageChanges]

@[simp]
theorem signals_setTrigger (c : MarklogicCluster) :
    signals (setTrigger c) = { signals c with trigger := true } := by
  simp [signals, phase, currentState, Annotations.get, detectImageChanges]

@[simp]
theorem signals_recordImage (c : MarklogicCluster) :
    signals (recordImage c) = { signals c with drift := false } := by
  simp [signals, detectImageChanges, phase_of_annotations (recordImage_annotations c)]

/-- A recorded image with no drift is the spec's. -/
theorem currentImage_eq_of_drift {s : MarklogicCluster} (hcur : s.status.currentImage ≠ "")
    (hd : (signals s).drift = false) : s.status.currentImage = s.spec.image := by
  simpa [signals, detectImageChanges, hcur] using hd

/-! ### The states `Properties.Progress` leaves out -/

section OtherStates

variable {env : Env} {s : MarklogicCluster}

/-- On a deployed `Idle` object the handler stores the trigger the drift check sets, if it sets
one, and goes on with `processWorkflow` on `afterDrift s`. -/
theorem handleUpgradeWorkflow_deployedIdle (co : Collaborators) (now : Time)
    {writes : List (Option String)} (hp : phase s = some .idle)
    (hd : isClusterDeployed now s = true) (hw : WritesSucceed writes) :
    ∃ writes', WritesSucceed writes' ∧ handleUpgradeWorkflow co now ⟨s, s, writes, []⟩ =
      processWorkflow co now UpgradeState.idle.value
        ⟨afterDrift s, afterDrift s, writes', []⟩ := by
  have hidle := phase_eq_idle.1 hp
  simp only [handleUpgradeWorkflow, Handler.bind_apply, getCluster_apply, hidle, hd,
    not_true_eq_false, and_false, if_false, true_and, Handler.pure_apply]
  by_cases hdr : detectImageChanges s = true
  · simp only [hdr, if_true, Handler.bind_apply, modifyCluster_apply, update,
      write_of_writesSucceed _ hw, afterDrift, if_pos (show Drifts s from ⟨hp, hdr⟩)]
    exact ⟨_, hw.tail, rfl⟩
  · simp only [hdr, Bool.false_eq_true, if_false, afterDrift,
      if_neg (show ¬Drifts s from fun h ↦ hdr h.2), Handler.pure_apply]
    exact ⟨_, hw, rfl⟩

/-- `processWorkflow` on a triggered `Idle` object: the prechecks start, or a cancellation ends
the attempt. -/
theorem processWorkflow_triggered_stored (co : Collaborators) (now : Time) {t : MarklogicCluster}
    {writes : List (Option String)} {events : List Event} (hw : WritesSucceed writes)
    (ht : t.annotations.get .triggerUpgrade = "true")
    (hr : t.annotations.get .upgradeState ≠ UpgradeState.inProgress.value)
    (hstart : (co.startPrechecks t).2 = .ok ()) :
    (processWorkflow co now UpgradeState.idle.value ⟨t, t, writes, events⟩).1.stored =
      if t.annotations.get .cancelUpgrade = "true" then
        { t with annotations := (cleanupEdits now .cancelled t).annotations }
      else { t with annotations := (stateEdits now .precheckStart none t).annotations } := by
  simp only [processWorkflow, Handler.bind_apply, getCluster_apply, ht, ne_eq, not_true_eq_false,
    and_false, if_false, Handler.pure_apply]
  by_cases hc : t.annotations.get .cancelUpgrade = "true"
  · simp only [hc, if_true, handleCancellation, if_neg hr, Handler.bind_apply, record_apply,
      cleanupUpgradeAnnotations, modifyCluster_apply, writeBack_of_writesSucceed hw]
  · simp only [hc, if_false, dispatch, UpgradeState.parse_value, handleIdleState, ht, if_true,
      Handler.bind_apply, call_apply, hstart, record_apply, updateUpgradeState,
      updateUpgradeStateWithResults, modifyCluster_apply, writeBack_of_writesSucceed hw]

/-- `Idle`, deployed, with the trigger or an image change: the trigger the drift check sets is
stored, then the prechecks start, or a cancellation ends the attempt. -/
theorem reconcile_leavesIdle (hp : phase s = some .idle) (hcur : s.status.currentImage ≠ "")
    (hgo : s.annotations.get .triggerUpgrade = "true" ∨ detectImageChanges s = true)
    (hw : WritesSucceed env.writes)
    (hstart : (env.collaborators.startPrechecks (afterDrift s)).2 = .ok ()) :
    (reconcile env s).1.stored =
      if s.annotations.get .cancelUpgrade = "true" then
        { afterDrift s with
          annotations := (cleanupEdits env.now .cancelled (afterDrift s)).annotations }
      else { afterDrift s with
        annotations := (stateEdits env.now .precheckStart none (afterDrift s)).annotations } := by
  have hd : isClusterDeployed env.now s = true := by rw [isClusterDeployed, if_pos hcur]
  obtain ⟨writes', hw', h⟩ :=
    handleUpgradeWorkflow_deployedIdle env.collaborators env.now hp hd hw
  have ht : (afterDrift s).annotations.get .triggerUpgrade = "true" := by
    unfold afterDrift
    split_ifs with hD
    · simp [setTrigger, Annotations.get]
    · exact hgo.resolve_right fun hdr ↦ hD ⟨hp, hdr⟩
  have hr : (afterDrift s).annotations.get .upgradeState ≠ UpgradeState.inProgress.value := by
    rw [afterDrift_upgradeState]
    intro h
    rw [phase_eq_of_get h] at hp
    cases hp
  rw [reconcile_fst, h, processWorkflow_triggered_stored _ _ hw' ht hr hstart,
    afterDrift_cancelUpgrade]

/-- Outside `Idle` and `UpgradeInProgress`, a cancellation ends the attempt. -/
theorem reconcile_cancels (hp : phase s ≠ some .idle) (hr : phase s ≠ some .inProgress)
    (hcancel : s.annotations.get .cancelUpgrade = "true") (hw : WritesSucceed env.writes) :
    (reconcile env s).1.stored =
      { s with annotations := (cleanupEdits env.now .cancelled s).annotations } := by
  have hidle : ¬(currentState s.annotations = UpgradeState.idle.value ∧
      s.annotations.get .triggerUpgrade ≠ "true") := fun h ↦ hp (phase_eq_idle.2 h.1)
  have hraw : s.annotations.get .upgradeState ≠ UpgradeState.inProgress.value :=
    fun h ↦ hr (phase_eq_of_get h)
  rw [reconcile_fst, handleUpgradeWorkflow_of_ne_idle _ _ _ _ hp]
  simp only [processWorkflow, Handler.bind_apply, getCluster_apply, if_neg hidle,
    Handler.pure_apply, if_pos hcancel, handleCancellation, if_neg hraw, record_apply,
    cleanupUpgradeAnnotations, modifyCluster_apply, writeBack_of_writesSucceed hw]

/-- `WaitingForUserApproval` with neither an approval nor a cancellation: nothing is stored,
whatever the invocation meets. -/
theorem reconcile_awaitsProceed (hp : phase s = some .waitingUser)
    (hproceed : s.annotations.get .proceedUpgrade ≠ "true")
    (hcancel : s.annotations.get .cancelUpgrade ≠ "true") (env : Env) :
    (reconcile env s).1.stored = s := by
  rw [reconcile_fst_of_ne_idle (by rw [hp]; decide) hcancel]
  have hp' : UpgradeState.parse (currentState s.annotations) = some .waitingUser := hp
  simp only [dispatch, hp', handleWaitingUserState, if_neg hproceed, Handler.pure_apply]

/-- A state no branch handles, `UpgradePaused` among them, without a cancellation: reset to
`Idle`, with the control annotations kept. -/
theorem reconcile_resetsUnknown (hp : phase s = none ∨ phase s = some .paused)
    (hcancel : s.annotations.get .cancelUpgrade ≠ "true") (hw : WritesSucceed env.writes) :
    (reconcile env s).1.stored =
      { s with annotations := (stateEdits env.now .idle none s).annotations } := by
  have hne : phase s ≠ some .idle := by rcases hp with h | h <;> rw [h] <;> decide
  rw [reconcile_fst_of_ne_idle hne hcancel]
  have hp' : UpgradeState.parse (currentState s.annotations) = phase s := rfl
  rcases hp with h | h <;>
  · simp only [dispatch, hp', h, updateUpgradeState, updateUpgradeStateWithResults,
      modifyCluster_apply, Handler.bind_apply, writeBack_of_writesSucceed hw]

end OtherStates

/-! ### The two levels -/

/-- An invocation that meets no failure and no wait: its writes go through, and the collaborators
answer, when asked about an object of the cluster `s`, that the prechecks started and completed
and that the rollout started and converged. -/
def Prompt (s : MarklogicCluster) (env : Env) : Prop :=
  WritesSucceed env.writes ∧ ∀ c, SameCluster c s →
    (env.collaborators.startPrechecks c).2 = .ok () ∧
      (∃ r, (env.collaborators.checkPrecheckStatus c).2 = .ok (some r)) ∧
      (env.collaborators.startRollingUpgrade c).2 = .ok () ∧
      (env.collaborators.checkUpgradeStatus c).2 = .ok true

section Refinement

variable {env : Env} {s₀ s : MarklogicCluster}

theorem reconcile_signals_idle (hp : phase s = some .idle) (hs : SameCluster s s₀)
    (hcur : s.status.currentImage ≠ "") (hprompt : Prompt s₀ env) :
    signals (reconcile env s).1.stored = (signals s).next ∧
      SameCluster (reconcile env s).1.stored s₀ := by
  by_cases hgo : s.annotations.get .triggerUpgrade = "true" ∨ detectImageChanges s = true
  · -- the object the rest of the handler works on carries the trigger
    obtain ⟨hs', hsig⟩ : SameCluster (afterDrift s) s₀ ∧
        signals (afterDrift s) = { signals s with trigger := true } := by
      unfold afterDrift
      split_ifs with hD
      · exact ⟨hs.setTrigger, signals_setTrigger s⟩
      · exact ⟨hs, by simp [signals, hgo.resolve_right fun hdr ↦ hD ⟨hp, hdr⟩]⟩
    have hgo' : ¬((signals s).trigger = false ∧ (signals s).drift = false) := by
      rcases hgo with h | h <;> simp [signals, h]
    rw [reconcile_leavesIdle hp hcur hgo hprompt.1 (hprompt.2 _ hs').1,
      Signals.next_of_idle hp hgo']
    by_cases hc : s.annotations.get .cancelUpgrade = "true"
    · have hc' : (signals s).cancel = true := by simp [signals, hc]
      rw [if_pos hc, if_pos hc', signals_withCleanupEdits, hsig]
      exact ⟨rfl, hs'.withAnnotations _⟩
    · have hc' : ¬(signals s).cancel = true := by simp [signals, hc]
      rw [if_neg hc, if_neg hc', signals_withStateEdits, hsig]
      exact ⟨rfl, hs'.withAnnotations _⟩
  · have ht : s.annotations.get .triggerUpgrade ≠ "true" := fun h ↦ hgo (.inl h)
    have hd : (signals s).drift = false := by simpa [signals] using fun h ↦ hgo (.inr h)
    have hrest : (signals s).Rest := .inl ⟨hp, by simpa [signals] using ht, hd⟩
    rw [reconcile_atRest hp ht (currentImage_eq_of_drift hcur hd) env]
    exact ⟨((Signals.next_eq_self_iff _).2 hrest).symm, hs⟩

theorem reconcile_signals_cancel (hp : phase s ≠ some .idle)
    (hc : s.annotations.get .cancelUpgrade = "true") (hs : SameCluster s s₀)
    (hw : WritesSucceed env.writes) :
    signals (reconcile env s).1.stored = (signals s).next ∧
      SameCluster (reconcile env s).1.stored s₀ := by
  have hc' : (signals s).cancel = true := by simp [signals, hc]
  rw [Signals.next_of_cancel hp hc']
  by_cases hr : phase s = some .inProgress
  · have hraw := get_upgradeState_of_phase hr (by decide)
    rw [if_pos (show (signals s).phase = some .inProgress from hr),
      (reconcile_cancellationDenied env s hraw hc).1]
    exact ⟨rfl, hs⟩
  · rw [if_neg (show ¬(signals s).phase = some .inProgress from hr),
      reconcile_cancels hp hr hc hw, signals_withCleanupEdits]
    exact ⟨rfl, hs.withAnnotations _⟩

theorem reconcile_signals_dispatch (hp : phase s ≠ some .idle)
    (hc : s.annotations.get .cancelUpgrade ≠ "true") (hs : SameCluster s s₀)
    (hprompt : Prompt s₀ env) :
    signals (reconcile env s).1.stored = (signals s).next ∧
      SameCluster (reconcile env s).1.stored s₀ := by
  obtain ⟨hw, hco⟩ := hprompt
  cases h : phase s with
  | none =>
    rw [reconcile_resetsUnknown (.inl h) hc hw, signals_withStateEdits]
    exact ⟨by simp [Signals.next, signals, h, hc], hs.withAnnotations _⟩
  | some x =>
    cases x with
    | idle => exact absurd h hp
    | precheckStart =>
      obtain ⟨r, hr⟩ := (hco s hs).2.1
      rw [reconcile_completesPrechecks h hc hw hr, signals_withStateEdits]
      exact ⟨by simp [Signals.next, signals, h, hc], hs.withAnnotations _⟩
    | precheckDone =>
      rw [reconcile_awaitsApproval h hc hw, signals_withStateEdits]
      exact ⟨by simp [Signals.next, signals, h, hc], hs.withAnnotations _⟩
    | waitingUser =>
      by_cases hpr : s.annotations.get .proceedUpgrade = "true"
      · rw [reconcile_startsRollout h hpr hc hw (hco s hs).2.2.1, signals_withStateEdits]
        exact ⟨by simp [Signals.next, signals, h, hc, hpr], hs.withAnnotations _⟩
      · rw [reconcile_awaitsProceed h hpr hc env]
        exact ⟨by simp [Signals.next, signals, h, hc, hpr], hs⟩
    | inProgress =>
      rw [reconcile_completesRollout h hc hw (hco s hs).2.2.2, signals_withCleanupEdits,
        signals_recordImage]
      exact ⟨by simp [Signals.next, signals, Signals.cleanup, h, hc],
        hs.recordImage.withAnnotations _⟩
    | completed | failed | cancelled =>
      rw [reconcile_resets (by simp [h, UpgradeState.isTerminal]) hc hw, signals_withCleanupEdits]
      exact ⟨by simp [Signals.next, signals, Signals.cleanup, h, hc], hs.withAnnotations _⟩
    | paused =>
      rw [reconcile_resetsUnknown (.inr h) hc hw, signals_withStateEdits]
      exact ⟨by simp [Signals.next, signals, h, hc], hs.withAnnotations _⟩

/-- **A prompt invocation refines the abstract machine.** On an object of the cluster `s₀` with
a recorded image, an invocation that meets no failure and no wait stores an object of the same
cluster whose signals are `next` of those it found. -/
theorem reconcile_signals (hs : SameCluster s s₀) (hcur : s.status.currentImage ≠ "")
    (hprompt : Prompt s₀ env) :
    signals (reconcile env s).1.stored = (signals s).next ∧
      SameCluster (reconcile env s).1.stored s₀ := by
  by_cases hp : phase s = some .idle
  · exact reconcile_signals_idle hp hs hcur hprompt
  · by_cases hc : s.annotations.get .cancelUpgrade = "true"
    · exact reconcile_signals_cancel hp hc hs hprompt.1
    · exact reconcile_signals_dispatch hp hc hs hprompt

/-- A recorded image stays recorded while the spec names one. -/
theorem reconcile_currentImage_ne_empty (hcur : s.status.currentImage ≠ "")
    (himage : s.spec.image ≠ "") (env : Env) :
    (reconcile env s).1.stored.status.currentImage ≠ "" := by
  obtain ⟨q, hq, he⟩ := reconcile_step env s
  rw [← he]
  rcases hq.stored_currentImage with h | h <;> rw [h] <;> assumption

/-- What resting signals say of the object: `Idle` with the spec's image recorded and no
trigger, waiting for an approval, or a refused cancellation. -/
theorem signals_rest (hcur : s.status.currentImage ≠ "") (hrest : (signals s).Rest) :
    phase s = some .idle ∧ s.annotations.get .triggerUpgrade ≠ "true" ∧
        s.status.currentImage = s.spec.image ∨
      phase s = some .waitingUser ∧ s.annotations.get .proceedUpgrade ≠ "true" ∧
        s.annotations.get .cancelUpgrade ≠ "true" ∨
      phase s = some .inProgress ∧ s.annotations.get .cancelUpgrade = "true" := by
  rcases hrest with ⟨hp, ht, hd⟩ | ⟨hp, hpr, hc⟩ | ⟨hp, hc⟩
  · exact .inl ⟨hp, by simpa [signals] using ht, currentImage_eq_of_drift hcur hd⟩
  · exact .inr (.inl ⟨hp, by simpa [signals] using hpr, by simpa [signals] using hc⟩)
  · exact .inr (.inr ⟨hp, by simpa [signals] using hc⟩)

/-- An object whose signals rest is one every invocation leaves as it is. -/
theorem reconcile_of_rest (hcur : s.status.currentImage ≠ "") (hrest : (signals s).Rest)
    (env : Env) : (reconcile env s).1.stored = s := by
  rcases signals_rest hcur hrest with ⟨hp, ht, himage⟩ | ⟨hp, hpr, hc⟩ | ⟨hp, hc⟩
  · exact reconcile_atRest hp ht himage env
  · exact reconcile_awaitsProceed hp hpr hc env
  · exact (reconcile_cancellationDenied env s (get_upgradeState_of_phase hp (by decide)) hc).1

end Refinement

/-! ### Runs without the user -/

/-- Along invocations that are all prompt, the signals follow the abstract machine step by
step, and the object stays of the cluster with an image recorded. -/
theorem run_signals {s₀ : MarklogicCluster} (himage : s₀.spec.image ≠ "") {envs : List Env}
    (hprompt : ∀ env ∈ envs, Prompt s₀ env) {s : MarklogicCluster} (hs : SameCluster s s₀)
    (hcur : s.status.currentImage ≠ "") :
    signals (run s (envs.map .reconcile)) = Signals.next^[envs.length] (signals s) ∧
      SameCluster (run s (envs.map .reconcile)) s₀ ∧
      (run s (envs.map .reconcile)).status.currentImage ≠ "" := by
  induction envs generalizing s with
  | nil => exact ⟨rfl, hs, hcur⟩
  | cons env envs ih =>
    obtain ⟨hsig, hs'⟩ := reconcile_signals hs hcur (hprompt env (List.mem_cons_self _ _))
    obtain ⟨h₁, h₂, h₃⟩ := ih (fun e he ↦ hprompt e (List.mem_cons_of_mem _ he)) hs'
      (reconcile_currentImage_ne_empty hcur (hs.2.2.2 ▸ himage) env)
    refine ⟨?_, h₂, h₃⟩
    rw [List.length_cons, Function.iterate_succ_apply, ← hsig]
    exact h₁

/-- **The operator settles on its own.** From any object of a cluster with a recorded image and
an image in its spec, whatever its annotations hold, seven invocations that meet no failure and no
wait, and no write of the user, leave it in `Idle` with the spec's image recorded and no trigger,
in `WaitingForUserApproval` with neither an approval nor a cancellation, or in
`UpgradeInProgress` under a refused cancellation; and there every invocation, whatever it meets,
stores the object it finds. -/
theorem invocations_settle (s : MarklogicCluster) (hcur : s.status.currentImage ≠ "")
    (himage : s.spec.image ≠ "") (envs : List Env) (hlen : 7 ≤ envs.length)
    (hprompt : ∀ env ∈ envs, Prompt s env) :
    let r := run s (envs.map .reconcile)
    (phase r = some .idle ∧ r.annotations.get .triggerUpgrade ≠ "true" ∧
        r.status.currentImage = r.spec.image ∨
      phase r = some .waitingUser ∧ r.annotations.get .proceedUpgrade ≠ "true" ∧
        r.annotations.get .cancelUpgrade ≠ "true" ∨
      phase r = some .inProgress ∧ r.annotations.get .cancelUpgrade = "true") ∧
      ∀ env, (reconcile env r).1.stored = r := by
  obtain ⟨hsig, -, hcur'⟩ := run_signals himage hprompt ⟨rfl, rfl, rfl, rfl⟩ hcur
  have hrest : (signals (run s (envs.map .reconcile))).Rest :=
    hsig ▸ Signals.iterate_rest _ hlen
  exact ⟨signals_rest hcur' hrest, reconcile_of_rest hcur' hrest⟩

/-- `retaggedCluster` left in a state no branch knows, with a stale trigger and approval. -/
def strandedCluster : MarklogicCluster :=
  { retaggedCluster with
    annotations :=
      { upgradeState := some "Unknown", triggerUpgrade := some "true",
        proceedUpgrade := some "true" } }

theorem invocations_settle_stranded :
    (strandedCluster.status.currentImage ≠ "" ∧ strandedCluster.spec.image ≠ "" ∧
      7 ≤ (List.replicate 7 codeEnv).length ∧
      ∀ env ∈ List.replicate 7 codeEnv, Prompt strandedCluster env) ∧
      let r := run strandedCluster ((List.replicate 7 codeEnv).map .reconcile)
      ∀ env, (reconcile env r).1.stored = r :=
  have answers := Collaborators.ofCode_answers codeEnv.now fun _ ↦ none
  have hprompt : Prompt strandedCluster codeEnv :=
    ⟨by simp [WritesSucceed, codeEnv], fun c hc ↦ ⟨(answers c).1, (answers c).2.1,
      (answers c).2.2.1, (answers c).2.2.2.2 fun g hg ↦ by
        simp [hc.2.2.2, strandedCluster, retaggedCluster, UserWrite.apply,
          deployedCluster] at hg⟩⟩
  have hall : ∀ env ∈ List.replicate 7 codeEnv, Prompt strandedCluster env :=
    fun env he ↦ (List.eq_of_mem_replicate he) ▸ hprompt
  ⟨⟨by decide, by decide, by simp, hall⟩,
    (invocations_settle strandedCluster (by decide) (by decide) _ (by simp) hall).2⟩

/-! ### When the prechecks cannot start -/

section Retry

variable {env : Env} {s : MarklogicCluster}

/-- `Idle` with an image change, and prechecks that fail to start: the trigger is stored, then
`UpgradeFailed`, with the trigger kept. -/
theorem reconcile_precheckStartFails (hdrift : Drifts s)
    (hcancel : s.annotations.get .cancelUpgrade ≠ "true") (hw : WritesSucceed env.writes)
    {err : String} (hstart : (env.collaborators.startPrechecks (setTrigger s)).2 = .error err) :
    (reconcile env s).1.stored = { setTrigger s with
      annotations := (stateEdits env.now .failed none (setTrigger s)).annotations } := by
  have hd : isClusterDeployed env.now s = true :=
    isClusterDeployed_of_detectImageChanges _ hdrift.2
  obtain ⟨writes', hw', h⟩ :=
    handleUpgradeWorkflow_deployedIdle env.collaborators env.now hdrift.1 hd hw
  have htrigger : (setTrigger s).annotations.get .triggerUpgrade = "true" := by
    simp [Annotations.get]
  have hcancel' : (setTrigger s).annotations.get .cancelUpgrade ≠ "true" := by
    simpa [Annotations.get] using hcancel
  rw [reconcile_fst, h, afterDrift, if_pos hdrift]
  simp only [processWorkflow, Handler.bind_apply, getCluster_apply, htrigger, ne_eq,
    not_true_eq_false, and_false, if_false, Handler.pure_apply, hcancel', dispatch,
    UpgradeState.parse_value, handleIdleState, if_true, call_apply, hstart, record_apply,
    updateUpgradeState, updateUpgradeStateWithResults, modifyCluster_apply,
    writeBack_of_writesSucceed hw']

/-- A move of a retrying run: an attempt fails, or a failed attempt is reset. -/
def RetryMove (p q : Option UpgradeState) : Prop :=
  p = some .idle ∧ q = some .failed ∨ p = some .failed ∧ q = some .idle

/-- What a retrying run keeps: no cancellation, the image change, and the state `Idle` or
`UpgradeFailed`. -/
def Retrying (t : MarklogicCluster) : Prop :=
  t.annotations.get .cancelUpgrade ≠ "true" ∧ detectImageChanges t = true ∧
    (phase t = some .idle ∨ phase t = some .failed)

/-- One invocation of a retrying run: `Idle` fails, `UpgradeFailed` is reset. -/
theorem Retrying.reconcile {s₀ : MarklogicCluster} (ht : Retrying s) (hs : SameCluster s s₀)
    (hw : WritesSucceed env.writes)
    (hfail : ∀ c, SameCluster c s₀ →
      ∃ err, (env.collaborators.startPrechecks c).2 = .error err) :
    let s' := (reconcile env s).1.stored
    Retrying s' ∧ SameCluster s' s₀ ∧ RetryMove (phase s) (phase s') := by
  obtain ⟨hc, hd, hp | hp⟩ := ht
  · obtain ⟨err, herr⟩ := hfail _ hs.setTrigger
    rw [reconcile_precheckStartFails ⟨hp, hd⟩ hc hw herr]
    have hfailed := phase_stateEdits env.now .failed none (setTrigger s)
    refine ⟨⟨?_, ?_, .inr hfailed⟩, hs.setTrigger.withAnnotations _, .inl ⟨hp, hfailed⟩⟩
    · simpa [stateEdits_get_cancelUpgrade, Annotations.get] using hc
    · simpa [detectImageChanges] using hd
  · rw [reconcile_resets (by rw [hp]; rfl) hc hw]
    have hidle := phase_cleanupEdits env.now .idle s
    refine ⟨⟨by simp [Annotations.get], ?_, .inl hidle⟩, hs.withAnnotations _, .inr ⟨hp, hidle⟩⟩
    simpa [detectImageChanges] using hd

/-- **A failed upgrade is retried without end.** From `Idle` with an image change and no
cancellation, along invocations whose writes go through but whose prechecks fail to start, every
invocation moves `Idle` to `UpgradeFailed` or `UpgradeFailed` back to `Idle`: the reset deletes
the trigger, the unresolved image change sets it again, and a new attempt starts at every other
invocation, with no limit. -/
theorem failedPrechecks_retried (s : MarklogicCluster) (hdrift : Drifts s)
    (hcancel : s.annotations.get .cancelUpgrade ≠ "true") (envs : List Env)
    (henvs : ∀ env ∈ envs, WritesSucceed env.writes ∧
      ∀ c, SameCluster c s → ∃ err, (env.collaborators.startPrechecks c).2 = .error err) :
    ((trace s (envs.map .reconcile)).map phase).Chain' RetryMove ∧
      ∀ s' ∈ trace s (envs.map .reconcile), detectImageChanges s' = true := by
  suffices h : ∀ t, Retrying t → SameCluster t s →
      ((trace t (envs.map .reconcile)).map phase).Chain' RetryMove ∧
      ∀ s' ∈ trace t (envs.map .reconcile), detectImageChanges s' = true from
    h s ⟨hcancel, hdrift.2, .inl hdrift.1⟩ ⟨rfl, rfl, rfl, rfl⟩
  induction envs with
  | nil => exact fun t ht _ ↦ ⟨List.chain'_singleton _, by simpa [trace] using ht.2.1⟩
  | cons env envs ih =>
    intro t ht hs
    obtain ⟨hw, hfail⟩ := henvs env (List.mem_cons_self _ _)
    obtain ⟨ht', hs', hmove⟩ := ht.reconcile hs hw hfail
    obtain ⟨hchain, hdrifts⟩ := ih (fun e he ↦ henvs e (List.mem_cons_of_mem _ he)) _ ht' hs'
    refine ⟨hchain.cons' fun q hq ↦ ?_, ?_⟩
    · simp only [List.head?_map, trace_head?, Option.map_some', Option.mem_def,
        Option.some.injEq] at hq
      exact hq ▸ hmove
    · simpa [trace, ht.2.1] using hdrifts

/-- `codeEnv`, with a precheck runner that cannot be started. -/
def prechecksDownEnv : Env :=
  { codeEnv with
    collaborators := { codeEnv.collaborators with
      startPrechecks := fun _ ↦ ([], .error "precheck runner unavailable") } }

theorem failedPrechecks_retried_down :
    (Drifts retaggedCluster ∧ retaggedCluster.annotations.get .cancelUpgrade ≠ "true" ∧
      ∀ env ∈ List.replicate 4 prechecksDownEnv, WritesSucceed env.writes ∧
        ∀ c, SameCluster c retaggedCluster →
          ∃ err, (env.collaborators.startPrechecks c).2 = .error err) ∧
      ((trace retaggedCluster ((List.replicate 4 prechecksDownEnv).map .reconcile)).map
          phase).Chain' RetryMove ∧
      ∀ s' ∈ trace retaggedCluster ((List.replicate 4 prechecksDownEnv).map .reconcile),
        detectImageChanges s' = true :=
  have henvs : ∀ env ∈ List.replicate 4 prechecksDownEnv, WritesSucceed env.writes ∧
      ∀ c, SameCluster c retaggedCluster →
        ∃ err, (env.collaborators.startPrechecks c).2 = .error err := fun env he ↦
    (List.eq_of_mem_replicate he) ▸ ⟨by simp [WritesSucceed, prechecksDownEnv, codeEnv],
      fun _ _ ↦ ⟨_, rfl⟩⟩
  ⟨⟨by decide, by decide, henvs⟩,
    failedPrechecks_retried retaggedCluster (by decide) (by decide) _ henvs⟩

end Retry

end MarklogicUpgrade
