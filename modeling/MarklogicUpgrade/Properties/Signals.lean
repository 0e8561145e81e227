import MarklogicUpgrade.Properties.HumanGate

/-!
# Signals and the attempts they drive

The user steers the workflow with three annotations; the workflow sets only the trigger, on an
image change, and deletes all three when an attempt ends.

**Freshness** (`signals_writtenSinceCleanup`). A `proceed-with-upgrade` or `cancel-upgrade`
found on the persisted object was written by a user step since the last persisted object
without it. The invocations that end an attempt delete both. They are fresh with respect to
the previous attempt, not to the current one: a signal written while `Idle` survives the
untriggered early return and drives the next attempt (`staleProceed_approves`).

**What starts an attempt** (`attemptStart_source`). Every move from `Idle` to
`PrecheckStarted` follows a user's trigger or an invocation that found an image change.
Nothing records the image when an attempt fails or is cancelled, so that change is still
there after the attempt: it restarts the attempt with no user step
(`cancelledAttempt_restarts`).

**Finality** (`terminal_nextState`). The first change of a terminal state is to `Idle`, or to
`UpgradeCancelled`: the cancellation check comes before the state switch and spares only
`UpgradeInProgress`, so a cancellation written after an attempt completed relabels it
`UpgradeCancelled`, in the state and with an `UpgradeCancelled` event
(`cancel_relabelsCompletedAttempt`).
-/

namespace MarklogicUpgrade

open UpgradeHandler

/-! ### The state after an invocation -/

namespace UpgradeHandler

theorem phase_eq_of_get {s : MarklogicCluster} {x : UpgradeState}
    (h : s.annotations.get .upgradeState = x.value) : phase s = some x := by
  have hx : x.value ≠ "" := by cases x <;> decide
  simp [phase, currentState, h, hx]

theorem afterDrift_upgradeState (s : MarklogicCluster) :
    (afterDrift s).annotations.get .upgradeState = s.annotations.get .upgradeState := by
  simp [Annotations.get, afterDrift_get?]

theorem phase_of_annotations {s s' : MarklogicCluster} (h : s'.annotations = s.annotations) :
    phase s' = phase s := by
  simp [phase, h]

theorem phase_afterDrift (s : MarklogicCluster) : phase (afterDrift s) = phase s := by
  simp only [phase, currentState, afterDrift_upgradeState]

/-- The persisted state after an invocation: the one it was handed, or one a row of the table
sets. -/
theorem Step.stored_phase {now : Time} {s : MarklogicCluster} {ws : List (Option String)}
    {p : Ctx × Except String Result} (h : Step now s ws p) :
    phase p.1.stored = phase s ∨
      (∃ x, Advances (currentState s.annotations) (afterDrift s) x ∧
        phase p.1.stored = some x) ∨
      (∃ x, CleansUp (currentState s.annotations) (afterDrift s) x ∧
        phase p.1.stored = some x) ∨
      (phase s = some .inProgress ∧ (afterDrift s).annotations.get .cancelUpgrade ≠ "true" ∧
        phase p.1.stored = some .completed) := by
  rcases h.stored_annotations with h | h | ⟨x, r, hx, h⟩ | ⟨x, hx, h⟩ | ⟨hp, hc, h⟩
  · exact .inl (phase_of_annotations h)
  · exact .inl ((phase_of_annotations h).trans (phase_afterDrift s))
  · exact .inr (.inl ⟨x, hx, phase_eq_of_get (by rw [h]; exact stateEdits_upgradeState ..)⟩)
  · exact .inr (.inr (.inl ⟨x, hx,
      phase_eq_of_get (by rw [h]; exact cleanupEdits_upgradeState ..)⟩))
  · exact .inr (.inr (.inr ⟨hp, hc,
      phase_eq_of_get (by rw [h]; exact cleanupEdits_upgradeState ..)⟩))

/-- No row of `updateUpgradeStateWithResults` starts from a terminal state. -/
theorem Advances.not_terminal {cs : String} {t : MarklogicCluster} {x : UpgradeState}
    (h : Advances cs t x) : (UpgradeState.parse cs).any UpgradeState.isTerminal = false := by
  cases h
  case unknown hp => rcases hp with hp | hp <;> simp [hp, UpgradeState.isTerminal]
  all_goals simp [*, UpgradeState.isTerminal]

theorem afterDrift_cancelUpgrade (s : MarklogicCluster) :
    (afterDrift s).annotations.get .cancelUpgrade = s.annotations.get .cancelUpgrade := by
  simp [Annotations.get, afterDrift_get?]

end UpgradeHandler

/-- The cleanup deletes every control annotation. -/
theorem cleanupEdits_signals (now : Time) (x : UpgradeState) (cluster : MarklogicCluster) :
    (cleanupEdits now x cluster).annotations.get? .proceedUpgrade = none ∧
      (cleanupEdits now x cluster).annotations.get? .cancelUpgrade = none ∧
      (cleanupEdits now x cluster).annotations.get? .triggerUpgrade = none := by
  simp

/-! ### Freshness -/

/-- **Signals are never older than the last cleanup.** A `proceed-with-upgrade=true` or
`cancel-upgrade=true` on the persisted object at the end of a run, absent at its start, was
written by a user step of the run. An invocation that changes the persisted state to
`UpgradeCompleted` or `UpgradeCancelled`, or out of a terminal state, leaves none of the three
control annotations. -/
theorem signals_writtenSinceCleanup :
    (∀ (s : MarklogicCluster) (as : List Action) (k : IntentKey),
      k = .proceedUpgrade ∨ k = .cancelUpgrade →
      s.annotations.get k.key ≠ "true" → (run s as).annotations.get k.key = "true" →
      .user (.annotate k (some "true")) ∈ as) ∧
    ∀ (env : Env) (s : MarklogicCluster),
      let s' := (reconcile env s).1.stored
      s'.annotations.get .upgradeState ≠ s.annotations.get .upgradeState →
      phase s' = some .completed ∨ phase s' = some .cancelled ∨
        (phase s).any UpgradeState.isTerminal →
      s'.annotations.get? .proceedUpgrade = none ∧ s'.annotations.get? .cancelUpgrade = none ∧
        s'.annotations.get? .triggerUpgrade = none := by
  refine ⟨fun s as k hk h0 hv ↦ ?_, fun env s hne hend ↦ ?_⟩
  · rcases run_signal_source s as k h0 hv with h | ⟨rfl, _⟩
    · exact h
    · simp at hk
  · obtain ⟨q, hq, he⟩ := reconcile_step env s
    simp only [← he] at hne hend ⊢
    rcases hq.stored_annotations with h | h | ⟨x, r, hx, h⟩ | ⟨x, _, h⟩ | ⟨_, _, h⟩
    · exact absurd (by rw [h]) hne
    · exact absurd (by rw [h, afterDrift_upgradeState]) hne
    · rw [phase_eq_of_get (by rw [h]; exact stateEdits_upgradeState _ _ _ _)] at hend
      rcases hend with hend | hend | hend
      · cases hx <;> cases hend
      · cases hx <;> cases hend
      · exact absurd hend (by rw [phase, hx.not_terminal]; decide)
    all_goals rw [h]; exact cleanupEdits_signals _ _ _

theorem signals_writtenSinceCleanup_completed :
    let as := [Action.user (.annotate .proceedUpgrade (some "true"))]
    let done : MarklogicCluster := { deployedCluster with
      annotations := { upgradeState := some "UpgradeCompleted", proceedUpgrade := some "true" } }
    let s' := (reconcile codeEnv done).1.stored
    (deployedCluster.annotations.get IntentKey.proceedUpgrade.key ≠ "true" ∧
      (run deployedCluster as).annotations.get IntentKey.proceedUpgrade.key = "true" ∧
      .user (.annotate .proceedUpgrade (some "true")) ∈ as) ∧
    s'.annotations.get .upgradeState ≠ done.annotations.get .upgradeState ∧
      (phase done).any UpgradeState.isTerminal = true ∧
      s'.annotations.get? .proceedUpgrade = none ∧ s'.annotations.get? .cancelUpgrade = none ∧
        s'.annotations.get? .triggerUpgrade = none :=
  ⟨⟨by decide, by decide,
      signals_writtenSinceCleanup.1 deployedCluster _ _ (.inl rfl) (by decide) (by decide)⟩,
    by decide, by decide,
    signals_writtenSinceCleanup.2 codeEnv _ (by decide) (.inr (.inr (by decide)))⟩

/-- A `proceed-with-upgrade=true` written while `Idle`, before the attempt exists, is still
there when the attempt reaches `WaitingForUserApproval` through the code's own prechecks,
and moves it to `UpgradeInProgress`: no user step follows the report. -/
theorem staleProceed_approves :
    let reported := run deployedCluster [.user (.annotate .proceedUpgrade (some "true")),
      .user (.annotate .triggerUpgrade (some "true")), .reconcile codeEnv, .reconcile codeEnv]
    phase reported = some .precheckDone ∧
      phase (run reported [.reconcile codeEnv]) = some .waitingUser ∧
      phase (run reported [.reconcile codeEnv, .reconcile codeEnv]) = some .inProgress := by
  decide

/-! ### What starts an attempt -/

theorem mem_zip_trace_append {s : MarklogicCluster} {as bs : List Action}
    {x : MarklogicCluster × Action} (h : x ∈ (trace s as).zip as) :
    x ∈ (trace s (as ++ bs)).zip (as ++ bs) := by
  induction as generalizing s with
  | nil => simp [trace] at h
  | cons a as ih =>
    simp only [trace, List.cons_append, List.zip_cons_cons, List.mem_cons] at h ⊢
    exact h.imp_right ih

theorem mem_zip_trace_concat (s : MarklogicCluster) (as : List Action) (a : Action) :
    (run s as, a) ∈ (trace s (as ++ [a])).zip (as ++ [a]) := by
  induction as generalizing s with
  | nil => simp [trace]
  | cons b as ih => exact List.mem_cons_of_mem _ (ih (b.apply s))

/-- An invocation that moves the persisted state from `Idle` to `PrecheckStarted` found the
trigger, or set it itself on an image change. -/
theorem precheckStart_source {env : Env} {s : MarklogicCluster} (hidle : phase s = some .idle)
    (hstart : phase (reconcile env s).1.stored = some .precheckStart) :
    s.annotations.get .triggerUpgrade = "true" ∨ Drifts s := by
  obtain ⟨q, hq, he⟩ := reconcile_step env s
  rw [← he] at hstart
  rcases hq.stored_phase with h | ⟨x, hx, h⟩ | ⟨x, hx, h⟩ | ⟨_, _, h⟩ <;> rw [hstart] at h
  · rw [hidle] at h; cases h
  · cases hx <;> cases h
    rename_i ht
    rw [Annotations.get_eq_iff (by decide), afterDrift_get?] at ht
    split_ifs at ht with hd
    · exact .inr hd.2
    · exact .inl (Annotations.get_eq_of_get? ht)
  · cases hx <;> cases h
  · cases h

/-- **What starts an attempt.** Along a run from an object without a trigger, an invocation
that moves the persisted state from `Idle` to `PrecheckStarted` is preceded by a user step
that set the trigger, or it or an earlier invocation of the run was handed an object with an
image change. -/
theorem attemptStart_source (s : MarklogicCluster) (as : List Action) (env : Env)
    (h0 : s.annotations.get .triggerUpgrade ≠ "true") (hidle : phase (run s as) = some .idle)
    (hstart : phase (run s (as ++ [.reconcile env])) = some .precheckStart) :
    .user (.annotate .triggerUpgrade (some "true")) ∈ as ∨
      ∃ env' s', (s', Action.reconcile env') ∈ (trace s (as ++ [.reconcile env])).zip
        (as ++ [.reconcile env]) ∧ Drifts s' := by
  rw [run_concat] at hstart
  rcases precheckStart_source hidle hstart with ht | hd
  · rcases run_signal_source s as .triggerUpgrade h0 ht with h | ⟨-, env', s', h, hd⟩
    · exact .inl h
    · exact .inr ⟨env', s', mem_zip_trace_append h, hd⟩
  · exact .inr ⟨env, _, mem_zip_trace_concat s as _, hd⟩

theorem attemptStart_source_cancelled :
    let as := [.user (.setImage "11.4"), .reconcile codeEnv,
      .user (.annotate .cancelUpgrade (some "true")), .reconcile codeEnv, .reconcile codeEnv]
    (deployedCluster.annotations.get .triggerUpgrade ≠ "true" ∧
      phase (run deployedCluster as) = some .idle ∧
      phase (run deployedCluster (as ++ [.reconcile codeEnv])) = some .precheckStart) ∧
    (.user (.annotate .triggerUpgrade (some "true")) ∈ as ∨
      ∃ env' s', (s', Action.reconcile env') ∈ (trace deployedCluster (as ++ [.reconcile codeEnv])).zip
        (as ++ [.reconcile codeEnv]) ∧ Drifts s') :=
  ⟨⟨by decide, by decide, by decide⟩,
    attemptStart_source _ _ _ (by decide) (by decide) (by decide)⟩

/-- The spec moves to `11.4`, an attempt starts on the image change and the user cancels it.
The cleanup returns to `Idle`, and the next invocation starts a new attempt on the same image
change, with no user step after the cancellation. -/
theorem cancelledAttempt_restarts :
    let cancelled := run deployedCluster [.user (.setImage "11.4"), .reconcile codeEnv,
      .user (.annotate .cancelUpgrade (some "true")), .reconcile codeEnv]
    phase cancelled = some .cancelled ∧ phase (run cancelled [.reconcile codeEnv]) = some .idle ∧
      phase (run cancelled [.reconcile codeEnv, .reconcile codeEnv]) = some .precheckStart := by
  decide

/-! ### Finality -/

/-- From a terminal state, an invocation that changes the persisted state moves it to `Idle`,
or to `UpgradeCancelled` when it was handed `cancel-upgrade=true`. -/
theorem reconcile_phase_of_terminal {env : Env} {s : MarklogicCluster}
    (hs : (phase s).any UpgradeState.isTerminal)
    (hne : phase (reconcile env s).1.stored ≠ phase s) :
    phase (reconcile env s).1.stored = some .idle ∨
      phase (reconcile env s).1.stored = some .cancelled ∧
        s.annotations.get .cancelUpgrade = "true" := by
  obtain ⟨q, hq, he⟩ := reconcile_step env s
  rw [← he] at hne ⊢
  rcases hq.stored_phase with h | ⟨x, hx, -⟩ | ⟨x, hx, h⟩ | ⟨hp, -, -⟩
  · exact absurd h hne
  · exact absurd hs (by rw [phase, hx.not_terminal]; decide)
  · cases hx with
    | cancelled hc => exact .inr ⟨h, afterDrift_cancelUpgrade s ▸ hc⟩
    | reset => exact .inl h
  · exact absurd hs (by rw [hp]; decide)

/-- A step of a run that changes a terminal state: an invocation, as above; a user never
writes the state. -/
theorem Action.phase_of_terminal {a : Action} {s : MarklogicCluster}
    (hs : (phase s).any UpgradeState.isTerminal) (hne : phase (a.apply s) ≠ phase s) :
    phase (a.apply s) = some .idle ∨
      phase (a.apply s) = some .cancelled ∧ s.annotations.get .cancelUpgrade = "true" := by
  cases a with
  | reconcile env => exact reconcile_phase_of_terminal hs hne
  | user w => exact absurd (UserWrite.phase_apply w s) hne

/-- **A terminal state is left for `Idle`, or relabelled by a cancellation.** Along a run from
a persisted `UpgradeCompleted`, `UpgradeFailed` or `UpgradeCancelled` that ends in another
state, the first step that changes the state moves it to `Idle`, or to `UpgradeCancelled` when
`cancel-upgrade=true` is on the object that step is handed. -/
theorem terminal_nextState (s : MarklogicCluster) (hs : (phase s).any UpgradeState.isTerminal)
    (as : List Action) (hne : phase (run s as) ≠ phase s) :
    ∃ bs a cs, as = bs ++ a :: cs ∧ (∀ s' ∈ trace s bs, phase s' = phase s) ∧
      (phase (a.apply (run s bs)) = some .idle ∨
        phase (a.apply (run s bs)) = some .cancelled ∧
          (run s bs).annotations.get .cancelUpgrade = "true") := by
  induction as generalizing s with
  | nil => exact absurd rfl hne
  | cons a as ih =>
    by_cases hsame : phase (a.apply s) = phase s
    · obtain ⟨bs, b, cs, rfl, hkeep, hnext⟩ := ih (a.apply s) (by rwa [hsame]) (by rwa [hsame])
      refine ⟨a :: bs, b, cs, rfl, fun s' hs' ↦ ?_, hnext⟩
      rcases List.mem_cons.1 hs' with rfl | hs'
      · rfl
      · exact (hkeep s' hs').trans hsame
    · refine ⟨[], a, as, rfl, fun s' hs' ↦ ?_, Action.phase_of_terminal hs hsame⟩
      rw [trace, List.mem_singleton] at hs'
      rw [hs']

theorem terminal_nextState_failed :
    let failed : MarklogicCluster := { deployedCluster with
      annotations := { upgradeState := some "UpgradeFailed" } }
    let as := [Action.user (.setImage "11.5"), .reconcile codeEnv]
    ((phase failed).any UpgradeState.isTerminal = true ∧ phase (run failed as) ≠ phase failed) ∧
    ∃ bs a cs, as = bs ++ a :: cs ∧ (∀ s' ∈ trace failed bs, phase s' = phase failed) ∧
      (phase (a.apply (run failed bs)) = some .idle ∨
        phase (a.apply (run failed bs)) = some .cancelled ∧
          (run failed bs).annotations.get .cancelUpgrade = "true") :=
  ⟨⟨by decide, by decide⟩, terminal_nextState _ (by decide) _ (by decide)⟩

/-- An attempt on `11.4` completes under the code's own collaborators; the user then sets
`cancel-upgrade=true`, and the next invocation relabels the attempt `UpgradeCancelled` in the
state, with an `UpgradeCancelled` event. -/
theorem cancel_relabelsCompletedAttempt :
    let completed : MarklogicCluster := run deployedCluster [.user (.setImage "11.4"), .reconcile codeEnv,
      .reconcile codeEnv, .reconcile codeEnv, .user (.annotate .proceedUpgrade (some "true")),
      .reconcile codeEnv, .reconcile codeEnv]
    let cancelling := (Action.user (.annotate .cancelUpgrade (some "true"))).apply completed
    let o := reconcile codeEnv cancelling
    phase completed = some .completed ∧ completed.status.currentImage = "11.4" ∧
      phase o.1.stored = some .cancelled ∧
      o.1.events = [⟨eventTypeNormal, "UpgradeCancelled", "Upgrade cancelled by user"⟩] := by
  decide

end MarklogicUpgrade
