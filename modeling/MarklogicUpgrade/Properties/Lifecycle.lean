import MarklogicUpgrade.Properties.Signals
import Mathlib.Data.List.Chain

/-!
# The lifecycle of an upgrade

`HandleUpgradeWorkflow` is a switch over the stored upgrade state, and the states it moves
between form a small graph. An attempt starts on the trigger, runs its prechecks, presents their
report, waits for approval, rolls out and ends `UpgradeCompleted`; a collaborator's failure ends
it `UpgradeFailed`; a cancellation ends it `UpgradeCancelled` from anywhere but the rollout; a
finished attempt, or a stored value that no branch handles, goes back to `Idle`. `PhaseEdge` is
that graph, the workflow's purpose stated without the handler.

## From the table to the graph

Every row of the invocation table (`Step`) leaves the state as it was or moves it along an edge
(`Step.phaseMove`), and a user never writes the state, so every run's trace is a path of the
graph with stutters (`trace_followsLifecycle`). The run lemmas `run_entry` and `run_exit` find
the step that enters or leaves a state, and the safety of the lifecycle is read off the graph:

* the only edge into a state of an attempt in flight comes from the state before it, so a run
  that reaches the rollout went through the prechecks, their report and the wait for approval,
  in this order, and the rollout was started by an invocation handed the approval
  (`rollout_followsReview`);
* the only edges out of the rollout go to `UpgradeCompleted` and `UpgradeFailed`
  (`rollout_exits`);
* nothing moves to a value that names no state or to `UpgradePaused`, so an attempt goes back to
  `Idle` only from the terminal state that records its outcome (`attempt_recordsOutcome`).
-/

namespace MarklogicUpgrade

open UpgradeHandler

/-! ### The graph -/

/-- The moves of the upgrade workflow between stored states, `none` standing for a stored value
that names no state. -/
inductive PhaseEdge : Option UpgradeState → Option UpgradeState → Prop
  /-- The trigger starts the prechecks. -/
  | startPrechecks : PhaseEdge (some .idle) (some .precheckStart)
  /-- The prechecks report. -/
  | completePrechecks : PhaseEdge (some .precheckStart) (some .precheckDone)
  /-- The report is presented and the user asked. -/
  | awaitApproval : PhaseEdge (some .precheckDone) (some .waitingUser)
  /-- The user approved, and the rollout starts. -/
  | approve : PhaseEdge (some .waitingUser) (some .inProgress)
  /-- The rollout converged. -/
  | complete : PhaseEdge (some .inProgress) (some .completed)
  /-- A collaborator failed, in a state that calls one. -/
  | fail {x : UpgradeState}
      (hx : x = .idle ∨ x = .precheckStart ∨ x = .waitingUser ∨ x = .inProgress) :
      PhaseEdge (some x) (some .failed)
  /-- The user cancelled, outside the rollout. -/
  | cancel {p : Option UpgradeState} (hp : p ≠ some .inProgress) : PhaseEdge p (some .cancelled)
  /-- A finished attempt goes back to `Idle`. -/
  | reset {x : UpgradeState} (hx : x.isTerminal) : PhaseEdge (some x) (some .idle)
  /-- A stored value that no branch handles goes back to `Idle`. -/
  | unknown {p : Option UpgradeState} (hp : p = none ∨ p = some .paused) :
      PhaseEdge p (some .idle)

/-- One step of the persisted object, seen in its state: a stutter or an edge of the graph. -/
def PhaseMove (s s' : MarklogicCluster) : Prop :=
  phase s' = phase s ∨ PhaseEdge (phase s) (phase s')

namespace PhaseEdge

variable {p q : Option UpgradeState}

theorem eq_of_precheckStart (h : PhaseEdge p (some .precheckStart)) : p = some .idle := by
  cases h; rfl

theorem eq_of_precheckDone (h : PhaseEdge p (some .precheckDone)) : p = some .precheckStart := by
  cases h; rfl

theorem eq_of_waitingUser (h : PhaseEdge p (some .waitingUser)) : p = some .precheckDone := by
  cases h; rfl

theorem eq_of_inProgress (h : PhaseEdge p (some .inProgress)) : p = some .waitingUser := by
  cases h; rfl

/-- The edges out of the rollout. -/
theorem of_inProgress (h : PhaseEdge (some .inProgress) q) :
    q = some .completed ∨ q = some .failed := by
  cases h with
  | complete => exact .inl rfl
  | fail => exact .inr rfl
  | cancel hp => exact absurd rfl hp
  | reset hx => cases hx
  | unknown hp => simp at hp

/-- The edges into `Idle`: from a terminal state, or from one no branch handles. -/
theorem of_idle (h : PhaseEdge p (some .idle)) :
    p.any UpgradeState.isTerminal ∨ p = none ∨ p = some .paused := by
  cases h with
  | reset hx => exact .inl hx
  | unknown hp => exact .inr hp

/-- No edge leads to a value that names no state, or to `UpgradePaused`. -/
theorem target_handled (h : PhaseEdge p q) : q ≠ none ∧ q ≠ some .paused := by
  cases h <;> simp

end PhaseEdge

/-! ### One step -/

/-- A state other than `Idle` read from an object is the one stored on it. -/
theorem get_upgradeState_of_phase {s : MarklogicCluster} {x : UpgradeState}
    (h : phase s = some x) (hx : x ≠ .idle) : s.annotations.get .upgradeState = x.value := by
  rw [phase, UpgradeState.parse_eq_some, currentState] at h
  split_ifs at h
  · exact absurd (UpgradeState.value_injective h) hx
  · exact h.symm

namespace UpgradeHandler

/-- **Every invocation stutters or moves along the graph**, row by row of the table. -/
theorem Step.phaseMove {now : Time} {s : MarklogicCluster} {ws : List (Option String)}
    {p : Ctx × Except String Result} (h : Step now s ws p) : PhaseMove s p.1.stored := by
  unfold PhaseMove
  rcases h.stored_phase with h | ⟨x, hx, h⟩ | ⟨x, hx, h⟩ | ⟨hp, -, h⟩ <;> rw [h]
  · exact .inl rfl
  · right
    cases hx with
    | prechecksStarted hp => rw [phase, hp]; exact .startPrechecks
    | prechecksNotStarted hp => rw [phase, hp]; exact .fail (.inl rfl)
    | precheckError hp => rw [phase, hp]; exact .fail (.inr (.inl rfl))
    | prechecksCompleted hp => rw [phase, hp]; exact .completePrechecks
    | awaitApproval hp => rw [phase, hp]; exact .awaitApproval
    | approved hp => rw [phase, hp]; exact .approve
    | rolloutNotStarted hp => rw [phase, hp]; exact .fail (.inr (.inr (.inl rfl)))
    | rolloutError hp => rw [phase, hp]; exact .fail (.inr (.inr (.inr rfl)))
    | unknown hp => exact .unknown hp
  · right
    cases hx with
    | cancelled _ hr =>
      refine .cancel fun hp ↦ hr ?_
      rw [afterDrift_upgradeState]
      exact get_upgradeState_of_phase hp (by decide)
    | reset _ hp => rcases hp with hp | hp | hp <;> rw [phase, hp] <;> exact .reset rfl
  · exact .inr (hp ▸ .complete)

end UpgradeHandler

/-- A step of a run: an invocation, as the table allows, or a user's write, which leaves the
state as it was. -/
theorem Action.phaseMove (a : Action) (s : MarklogicCluster) : PhaseMove s (a.apply s) := by
  cases a with
  | reconcile env =>
    obtain ⟨q, hq, he⟩ := reconcile_step env s
    rw [Action.apply, ← he]
    exact hq.phaseMove
  | user w => exact .inl (UserWrite.phase_apply w s)

/-- An invocation that starts the rollout was handed the approval. -/
theorem reconcile_approved {env : Env} {s : MarklogicCluster} (hs : phase s ≠ some .inProgress)
    (h : phase (reconcile env s).1.stored = some .inProgress) :
    s.annotations.get .proceedUpgrade = "true" := by
  obtain ⟨q, hq, he⟩ := reconcile_step env s
  rw [← he] at h
  rcases hq.stored_phase with h' | ⟨x, hx, h'⟩ | ⟨x, hx, h'⟩ | ⟨-, -, h'⟩ <;> rw [h] at h'
  · exact absurd h'.symm hs
  · cases hx <;> cases h'
    next hproceed => simpa [Annotations.get, afterDrift_get?] using hproceed
  · cases hx <;> cases h'
  · cases h'

/-! ### Runs -/

theorem trace_head? (s : MarklogicCluster) (as : List Action) : (trace s as).head? = some s := by
  cases as <;> rfl

/-- **Every run follows the lifecycle.** The persisted objects a run passes through, from any
object and under any interleaving of invocations and user writes, are a path of the graph with
stutters. -/
theorem trace_followsLifecycle (s : MarklogicCluster) (as : List Action) :
    (trace s as).Chain' PhaseMove := by
  induction as generalizing s with
  | nil => exact List.chain'_singleton s
  | cons a as ih =>
    refine (ih (a.apply s)).cons' fun s' hs' ↦ ?_
    rw [trace_head?, Option.mem_def, Option.some.injEq] at hs'
    exact hs' ▸ a.phaseMove s

/-- The first step of a run that enters the state `q` leaves a state with an edge into `q`. -/
theorem run_entry (s : MarklogicCluster) (as : List Action) {q : Option UpgradeState}
    (hs : phase s ≠ q) (hq : phase (run s as) = q) :
    ∃ bs a cs, as = bs ++ a :: cs ∧ (∀ s' ∈ trace s bs, phase s' ≠ q) ∧
      PhaseEdge (phase (run s bs)) q ∧ phase (a.apply (run s bs)) = q := by
  induction as generalizing s with
  | nil => exact absurd hq hs
  | cons a as ih =>
    by_cases ha : phase (a.apply s) = q
    · refine ⟨[], a, as, rfl, fun s' hs' ↦ ?_, ?_, ha⟩
      · rw [trace, List.mem_singleton] at hs'
        rwa [hs']
      · rcases a.phaseMove s with h | h
        · exact absurd (h.symm.trans ha) hs
        · rwa [← ha]
    · obtain ⟨bs, b, cs, rfl, hkeep, hedge, hb⟩ := ih (a.apply s) ha hq
      refine ⟨a :: bs, b, cs, rfl, ?_, hedge, hb⟩
      simp only [trace, List.mem_cons, forall_eq_or_imp]
      exact ⟨hs, hkeep⟩

/-- The first step of a run that leaves the state of its start moves it along an edge. -/
theorem run_exit (s : MarklogicCluster) (as : List Action) (hne : phase (run s as) ≠ phase s) :
    ∃ bs a cs, as = bs ++ a :: cs ∧ (∀ s' ∈ trace s bs, phase s' = phase s) ∧
      PhaseEdge (phase s) (phase (a.apply (run s bs))) ∧
      phase (a.apply (run s bs)) ≠ phase s := by
  induction as generalizing s with
  | nil => exact absurd rfl hne
  | cons a as ih =>
    rcases a.phaseMove s with h | h
    · obtain ⟨bs, b, cs, rfl, hkeep, hedge, hb⟩ := ih (a.apply s) (by rwa [h])
      refine ⟨a :: bs, b, cs, rfl, ?_, h ▸ hedge, h ▸ hb⟩
      simp only [trace, List.mem_cons, forall_eq_or_imp, true_and]
      exact fun s' hs' ↦ (hkeep s' hs').trans h
    · by_cases hsame : phase (a.apply s) = phase s
      · obtain ⟨bs, b, cs, rfl, hkeep, hedge, hb⟩ := ih (a.apply s) (by rwa [hsame])
        refine ⟨a :: bs, b, cs, rfl, ?_, hsame ▸ hedge, hsame ▸ hb⟩
        simp only [trace, List.mem_cons, forall_eq_or_imp, true_and]
        exact fun s' hs' ↦ (hkeep s' hs').trans hsame
      · refine ⟨[], a, as, rfl, fun s' hs' ↦ ?_, h, hsame⟩
        rw [trace, List.mem_singleton] at hs'
        rw [hs']

/-- Along a run, a state that names a handled state keeps naming one. -/
theorem run_handled (s : MarklogicCluster) (as : List Action)
    (hs : phase s ≠ none ∧ phase s ≠ some .paused) :
    phase (run s as) ≠ none ∧ phase (run s as) ≠ some .paused := by
  induction as generalizing s with
  | nil => exact hs
  | cons a as ih =>
    refine ih (a.apply s) ?_
    rcases a.phaseMove s with h | h
    · rwa [h]
    · exact h.target_handled

/-! ### The safety of the lifecycle -/

/-- **No rollout without review.** A run from an object with no attempt in flight that reaches
`UpgradeInProgress` went through `PrecheckStarted`, `PrecheckCompleted` and
`WaitingForUserApproval`, in this order, and the step that started the rollout was an invocation
handed `proceed-with-upgrade=true`. -/
theorem rollout_followsReview (s : MarklogicCluster) (as : List Action)
    (hs : phase s ∉ [some .precheckStart, some .precheckDone, some .waitingUser, some .inProgress])
    (hrun : phase (run s as) = some .inProgress) :
    ∃ bs₁ bs₂ bs₃ env cs, as = bs₁ ++ bs₂ ++ bs₃ ++ .reconcile env :: cs ∧
      phase (run s bs₁) = some .precheckStart ∧
      phase (run s (bs₁ ++ bs₂)) = some .precheckDone ∧
      phase (run s (bs₁ ++ bs₂ ++ bs₃)) = some .waitingUser ∧
      (run s (bs₁ ++ bs₂ ++ bs₃)).annotations.get .proceedUpgrade = "true" ∧
      phase (reconcile env (run s (bs₁ ++ bs₂ ++ bs₃))).1.stored = some .inProgress := by
  simp only [List.mem_cons, List.mem_singleton, List.not_mem_nil, or_false, not_or] at hs
  obtain ⟨h1, h2, h3, h4⟩ := hs
  obtain ⟨bs, b, cs, rfl, -, hedge, hb⟩ := run_entry s as h4 hrun
  have hwait := hedge.eq_of_inProgress
  obtain ⟨bs', b', cs', rfl, -, hedge', -⟩ := run_entry s bs h3 hwait
  have hdone := hedge'.eq_of_waitingUser
  obtain ⟨bs'', b'', cs'', rfl, -, hedge'', -⟩ := run_entry s bs' h2 hdone
  cases b with
  | user w => rw [Action.apply, UserWrite.phase_apply, hwait] at hb; cases hb
  | reconcile env =>
    refine ⟨bs'', b'' :: cs'', b' :: cs', env, cs, rfl, hedge''.eq_of_precheckDone, hdone, hwait,
      reconcile_approved (by rw [hwait]; decide) hb, hb⟩

theorem rollout_followsReview_approved :
    let as := [.user (.setImage "11.4"), .reconcile codeEnv, .reconcile codeEnv,
      .reconcile codeEnv, .user (.annotate .proceedUpgrade (some "true")), .reconcile codeEnv]
    (phase deployedCluster ∉
        [some .precheckStart, some .precheckDone, some .waitingUser, some .inProgress] ∧
      phase (run deployedCluster as) = some .inProgress) ∧
    ∃ bs₁ bs₂ bs₃ env cs, as = bs₁ ++ bs₂ ++ bs₃ ++ .reconcile env :: cs ∧
      phase (run deployedCluster bs₁) = some .precheckStart ∧
      phase (run deployedCluster (bs₁ ++ bs₂)) = some .precheckDone ∧
      phase (run deployedCluster (bs₁ ++ bs₂ ++ bs₃)) = some .waitingUser ∧
      (run deployedCluster (bs₁ ++ bs₂ ++ bs₃)).annotations.get .proceedUpgrade = "true" ∧
      phase (reconcile env (run deployedCluster (bs₁ ++ bs₂ ++ bs₃))).1.stored =
        some .inProgress :=
  ⟨⟨by decide, by decide⟩, rollout_followsReview _ _ (by decide) (by decide)⟩

/-- **A rollout is only left for `UpgradeCompleted` or `UpgradeFailed`.** Along a run from a
persisted `UpgradeInProgress` that ends in another state, the first step that changes the state
moves it to `UpgradeCompleted` or to `UpgradeFailed`: no cancellation, reset or user write
abandons a rollout half done. -/
theorem rollout_exits (s : MarklogicCluster) (as : List Action)
    (hs : phase s = some .inProgress) (hne : phase (run s as) ≠ some .inProgress) :
    ∃ bs a cs, as = bs ++ a :: cs ∧ (∀ s' ∈ trace s bs, phase s' = some .inProgress) ∧
      (phase (a.apply (run s bs)) = some .completed ∨
        phase (a.apply (run s bs)) = some .failed) := by
  obtain ⟨bs, a, cs, rfl, hkeep, hedge, -⟩ := run_exit s as (hs ▸ hne)
  exact ⟨bs, a, cs, rfl, hs ▸ hkeep, (hs ▸ hedge).of_inProgress⟩

theorem rollout_exits_converged :
    let rollout := run deployedCluster [.user (.setImage "11.4"), .reconcile codeEnv,
      .reconcile codeEnv, .reconcile codeEnv, .user (.annotate .proceedUpgrade (some "true")),
      .reconcile codeEnv]
    let as := [.reconcile codeEnv]
    (phase rollout = some .inProgress ∧ phase (run rollout as) ≠ some .inProgress) ∧
    ∃ bs a cs, as = bs ++ a :: cs ∧ (∀ s' ∈ trace rollout bs, phase s' = some .inProgress) ∧
      (phase (a.apply (run rollout bs)) = some .completed ∨
        phase (a.apply (run rollout bs)) = some .failed) :=
  ⟨⟨by decide, by decide⟩, rollout_exits _ _ (by decide) (by decide)⟩

/-- **An attempt goes back to `Idle` only through its outcome.** Along a run from an attempt in
flight that ends in `Idle`, the step that first enters `Idle` leaves `UpgradeCompleted`,
`UpgradeFailed` or `UpgradeCancelled`, so the attempt's outcome was stored in the state before
the workflow was ready for the next one. -/
theorem attempt_recordsOutcome (s : MarklogicCluster) (as : List Action)
    (hs : phase s ∈ [some .precheckStart, some .precheckDone, some .waitingUser, some .inProgress])
    (hidle : phase (run s as) = some .idle) :
    ∃ bs a cs, as = bs ++ a :: cs ∧ (∀ s' ∈ trace s bs, phase s' ≠ some .idle) ∧
      (phase (run s bs)).any UpgradeState.isTerminal ∧ phase (a.apply (run s bs)) = some .idle := by
  simp only [List.mem_cons, List.mem_singleton, List.not_mem_nil, or_false] at hs
  have hne : phase s ≠ some .idle := by rcases hs with h | h | h | h <;> rw [h] <;> decide
  have hhandled : phase s ≠ none ∧ phase s ≠ some .paused := by
    rcases hs with h | h | h | h <;> rw [h] <;> decide
  obtain ⟨bs, a, cs, rfl, hkeep, hedge, ha⟩ := run_entry s as hne hidle
  have hbs := run_handled s bs hhandled
  rcases hedge.of_idle with h | h | h
  · exact ⟨bs, a, cs, rfl, hkeep, h, ha⟩
  · exact absurd h hbs.1
  · exact absurd h hbs.2

theorem attempt_recordsOutcome_cancelled :
    let prechecking := run deployedCluster [.user (.setImage "11.4"), .reconcile codeEnv]
    let as := [.user (.annotate .cancelUpgrade (some "true")), .reconcile codeEnv,
      .reconcile codeEnv]
    (phase prechecking ∈
        [some .precheckStart, some .precheckDone, some .waitingUser, some .inProgress] ∧
      phase (run prechecking as) = some .idle) ∧
    ∃ bs a cs, as = bs ++ a :: cs ∧ (∀ s' ∈ trace prechecking bs, phase s' ≠ some .idle) ∧
      (phase (run prechecking bs)).any UpgradeState.isTerminal ∧
      phase (a.apply (run prechecking bs)) = some .idle :=
  ⟨⟨by decide, by decide⟩, attempt_recordsOutcome _ _ (by decide) (by decide)⟩

end MarklogicUpgrade
