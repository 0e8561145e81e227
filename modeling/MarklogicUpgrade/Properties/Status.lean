import MarklogicUpgrade.Properties.Signals

/-!
# What the status records

**The stored status** (`run_storesOnlyImage`). The handlers edit the status together with the
annotations: the upgrade state, the pause flag, the `UpgradeInProgress` condition and, on
completion, the last upgrade time. Those edits never reach the store. The `Update` that stores
the annotations answers with the stored object, the status included, and that reply replaces
the one in memory before `Status().Update` writes it back. Only `updateCurrentImages` and the
baseline write the status without an `Update` before them, so along every run the recorded
image is the only field of the status that changes.

**The recorded image** (`reconcile_recordsSpecImage`). An invocation changes
`status.currentImage` only to its own `spec.image`, as a baseline or when a rollout completes.
A completion that returns without error records it, unless the write of `updateCurrentImages`
failed: its error is ignored, and the cleanup's `Update` brings the old image back. Nothing
compares the image with the one that was prechecked or approved, so a spec changed after the
approval is rolled out and recorded under the earlier prechecks
(`changedSpec_recordedUnderOldApproval`).

**The status mirror** (`trigger_statusNotMirrored`). `updateUpgradeStateWithResults` and
`cleanupUpgradeAnnotations` set a status that mirrors the new state (`stateEdits_statusMirrors`),
and that mirror is lost with the rest of the status edits: from a fresh cluster, the first
state change already leaves `status.upgradeState` empty under `PrecheckStarted`.

**The baseline** (`idle_recordsBaseline`). An `Idle` invocation that returns without error
leaves a recorded image, unless `isClusterDeployed` had already counted the cluster as
deployed without one. That is the case for any cluster more than five minutes old, which then
never gets a baseline and never detects a change (`oldCluster_noBaseline`).

**The last upgrade time** (`run_lastUpgradeTime`). Only the cleanup of a completed rollout sets
`status.lastUpgradeTime`, and like the other status edits it is never stored: along every run
the time is the one the run started with.
-/

namespace MarklogicUpgrade

open UpgradeHandler

/-- `Reconcile` fails exactly when the workflow does. -/
theorem reconcile_ok {env : Env} {s : MarklogicCluster}
    (h : (reconcile env s).2.isError = false) :
    ∃ res, (handleUpgradeWorkflow env.collaborators env.now ⟨s, s, env.writes, []⟩).2 = .ok res := by
  unfold reconcile at h
  split at h
  · cases h
  · next res _ => exact ⟨res, by simp_all⟩

/-! ### The recorded image -/

/-- **The recorded image is the spec's.** `Reconcile` never writes the spec and changes
`status.currentImage` only to the `spec.image` of the invocation. When it completes a rollout
without error it records that image, unless its first write, the one of `updateCurrentImages`,
fails; then the image recorded before stays. -/
theorem reconcile_recordsSpecImage (env : Env) (s : MarklogicCluster) :
    let s' := (reconcile env s).1.stored
    s'.spec = s.spec ∧
      (s'.status.currentImage = s.status.currentImage ∨ s'.status.currentImage = s.spec.image) ∧
      (phase s = some .inProgress → phase s' = some .completed →
        (reconcile env s).2.isError = false →
        s'.status.currentImage =
          if nextWriteFails env.writes then s.status.currentImage else s.spec.image) := by
  have hq := handleUpgradeWorkflow_step env.collaborators env.now s env.writes []
  simp only [reconcile_fst]
  refine ⟨hq.stored_spec, hq.stored_currentImage, fun hp hc hok ↦ ?_⟩
  obtain ⟨res, hres⟩ := reconcile_ok hok
  cases hq with
  | baseline hi => rw [hp] at hi; cases hi
  | driftNotStored _ _ _ _ hr => rw [hres] at hr; cases hr
  | proceed _ he =>
    have hd : ¬Drifts s := fun hd ↦ by rw [hd.1] at hp; cases hp
    rw [if_neg hd] at he
    cases he with
    | quiet _ hs => rw [hs, phase_afterDrift, hp] at hc; cases hc
    | advance _ hx h =>
      rw [h.phase_of_ok hres, phase_eq_of_get (stateEdits_upgradeState ..)] at hc
      cases hc
      cases hx
    | cleanup hx h =>
      rw [h.phase_of_ok hres, phase_eq_of_get (cleanupEdits_upgradeState ..)] at hc
      cases hc
      cases hx
    | complete _ _ h => rw [h.stored_status]; split <;> simp

theorem reconcile_recordsSpecImage_rolling :
    (phase rollingCluster = some .inProgress ∧
      phase (reconcile codeEnv rollingCluster).1.stored = some .completed ∧
      (reconcile codeEnv rollingCluster).2.isError = false) ∧
    (reconcile codeEnv rollingCluster).1.stored.status.currentImage =
      if nextWriteFails codeEnv.writes then rollingCluster.status.currentImage
      else rollingCluster.spec.image :=
  ⟨⟨by decide, by decide, by decide⟩,
    (reconcile_recordsSpecImage codeEnv _).2.2 (by decide) (by decide) (by decide)⟩

/-- The spec moves to `11.4`; the prechecks run and the rollout is approved on `11.4`. The spec
then moves to `11.5`, and the completion records `11.5`. -/
theorem changedSpec_recordedUnderOldApproval :
    let reported := run deployedCluster [.user (.setImage "11.4"), .reconcile codeEnv,
      .reconcile codeEnv]
    let approved := run reported [.reconcile codeEnv,
      .user (.annotate .proceedUpgrade (some "true")), .reconcile codeEnv]
    let completed := run approved [.user (.setImage "11.5"), .reconcile codeEnv]
    phase reported = some .precheckDone ∧ reported.spec.image = "11.4" ∧
      phase approved = some .inProgress ∧ approved.spec.image = "11.4" ∧
      phase completed = some .completed ∧ completed.status.currentImage = "11.5" := by
  decide

/-! ### The status mirror -/

/-- The state as the status reads it: absent or empty is `Idle`. -/
def statusState (status : MarklogicClusterStatus) : String :=
  if status.upgradeState = "" then UpgradeState.idle.value else status.upgradeState

/-- The status mirrors the persisted state: the same state on both sides, the pause flag
exactly in `WaitingForUserApproval`, and the `UpgradeInProgress` condition, when there is
one, giving the state as its reason. -/
def StatusMirrors (s : MarklogicCluster) : Prop :=
  statusState s.status = currentState s.annotations ∧
    (s.status.upgradePaused = true ↔
      currentState s.annotations = UpgradeState.waitingUser.value) ∧
    ((s.status.conditions.find? fun c ↦ c.type = "UpgradeInProgress").all
      fun c ↦ c.reason = currentState s.annotations) = true

instance : DecidablePred StatusMirrors := fun _ ↦ inferInstanceAs (Decidable (_ ∧ _ ∧ _))

/-- The first condition of the upserted type is the new one. -/
theorem updateCondition_find? (conditions : List Condition) {condition : Condition} {type : String}
    (h : condition.type = type) :
    (updateCondition conditions condition).find? (fun c ↦ c.type = type) = some condition := by
  subst h
  induction conditions with
  | nil => simp [updateCondition]
  | cons c cs ih =>
    by_cases h : c.type = condition.type <;> simp [updateCondition, h, ih]

theorem value_ne_empty (x : UpgradeState) : x.value ≠ "" := by
  cases x <;> decide

theorem currentState_value {a : Annotations} {x : UpgradeState}
    (h : a.get .upgradeState = x.value) : currentState a = x.value := by
  simp [currentState, h, value_ne_empty]

theorem stateEdits_statusMirrors (now : Time) (x : UpgradeState)
    (results : Option PrecheckResults) (cluster : MarklogicCluster) :
    StatusMirrors (stateEdits now x results cluster) := by
  unfold StatusMirrors
  rw [currentState_value (stateEdits_upgradeState now x results cluster)]
  simp [statusState, stateEdits, value_ne_empty, updateCondition_find?]

theorem cleanupEdits_statusMirrors (now : Time) {x : UpgradeState} (hx : x ≠ .waitingUser)
    (cluster : MarklogicCluster) : StatusMirrors (cleanupEdits now x cluster) := by
  unfold StatusMirrors
  rw [currentState_value (cleanupEdits_upgradeState now x cluster)]
  simp [statusState, cleanupEdits, value_ne_empty, updateCondition_find?, hx]

/-- `deployedCluster`, after a user set the trigger. -/
def triggeredCluster : MarklogicCluster :=
  (UserWrite.annotate .triggerUpgrade (some "true")).apply deployedCluster

/-- The status of `triggeredCluster` mirrors `Idle`. The invocation starts the prechecks and
returns without error, with `PrecheckStarted` stored in the annotation and nothing in the
status. -/
theorem trigger_statusNotMirrored :
    StatusMirrors triggeredCluster ∧ (reconcile codeEnv triggeredCluster).2.isError = false ∧
      phase (reconcile codeEnv triggeredCluster).1.stored = some .precheckStart ∧
      (reconcile codeEnv triggeredCluster).1.stored.status.upgradeState = "" ∧
      ¬StatusMirrors (reconcile codeEnv triggeredCluster).1.stored := by
  decide

/-! ### The stored status -/

/-- One step of a run changes the status in the recorded image at most. -/
theorem Action.status_eq (a : Action) (s : MarklogicCluster) :
    ∃ image, (a.apply s).status = { s.status with currentImage := image } := by
  cases a with
  | reconcile env =>
    obtain ⟨q, hq, he⟩ := reconcile_step env s
    rw [Action.apply, ← he]
    rcases hq.stored_status with h | h <;> rw [h]
    exacts [⟨_, rfl⟩, ⟨_, rfl⟩]
  | user w => exact ⟨_, by rw [Action.apply, UserWrite.status_apply]⟩

/-- **The status edits are never stored.** Along every run (any interleaving of invocations,
whatever their collaborators answer and whichever of their writes fail, with user writes),
the persisted status is the one the run started with but for the recorded image. The upgrade
state, the pause flag, the conditions and the last upgrade time the handlers set in memory
never reach the store. -/
theorem run_storesOnlyImage (s : MarklogicCluster) (as : List Action) :
    ∃ image, (run s as).status = { s.status with currentImage := image } := by
  induction as generalizing s with
  | nil => exact ⟨_, rfl⟩
  | cons a as ih =>
    obtain ⟨i, hi⟩ := Action.status_eq a s
    obtain ⟨j, hj⟩ := ih (a.apply s)
    exact ⟨j, by rw [run_cons, hj, hi]⟩

/-! ### Conditions -/

/-- The number of conditions of type `type`. -/
def countType (type : String) (conditions : List Condition) : Nat :=
  (conditions.filter (·.type = type)).length

theorem mem_updateCondition (conditions : List Condition) (condition : Condition) :
    condition ∈ updateCondition conditions condition := by
  induction conditions with
  | nil => simp [updateCondition]
  | cons c cs ih => unfold updateCondition; split_ifs <;> simp [ih]

/-- The conditions of the other types are untouched and keep their order. -/
theorem filter_updateCondition_ne (conditions : List Condition) (condition : Condition) :
    (updateCondition conditions condition).filter (·.type ≠ condition.type) =
      conditions.filter (·.type ≠ condition.type) := by
  induction conditions with
  | nil => simp [updateCondition]
  | cons c cs ih =>
    unfold updateCondition
    by_cases h : c.type = condition.type
    · simp [h]
    · have hc : decide (c.type ≠ condition.type) = true := by simpa using h
      simp only [if_neg h, List.filter_cons, hc, if_true, ih]

theorem length_updateCondition (conditions : List Condition) (condition : Condition) :
    (updateCondition conditions condition).length =
      if condition.type ∈ conditions.map Condition.type then conditions.length
      else conditions.length + 1 := by
  induction conditions with
  | nil => simp [updateCondition]
  | cons c cs ih =>
    unfold updateCondition
    by_cases h : c.type = condition.type
    · simp [h]
    · simp only [if_neg h, List.length_cons, ih, List.map_cons, List.mem_cons, Ne.symm h,
        false_or]
      split_ifs <;> rfl

@[simp]
theorem countType_nil (type : String) : countType type [] = 0 := rfl

theorem countType_cons (type : String) (c : Condition) (cs : List Condition) :
    countType type (c :: cs) = (if c.type = type then 1 else 0) + countType type cs := by
  by_cases h : c.type = type <;> simp [countType, List.filter_cons, h, Nat.add_comm]

/-- An upsert leaves at least one condition of the new condition's type, and as many of every
other type. -/
theorem countType_updateCondition (type : String) (conditions : List Condition)
    (condition : Condition) :
    countType type (updateCondition conditions condition) =
      if condition.type = type then max 1 (countType type conditions)
      else countType type conditions := by
  induction conditions with
  | nil => rw [updateCondition, countType_cons, countType_nil]; split_ifs <;> rfl
  | cons c cs ih =>
    unfold updateCondition
    by_cases h : c.type = condition.type
    · rw [if_pos h, countType_cons, countType_cons, h]
      split_ifs <;> omega
    · rw [if_neg h, countType_cons, countType_cons, ih]
      split_ifs with h1 h2 <;> first | omega | exact absurd (h1.trans h2.symm) h

/-- With distinct types, each type occurs at most once. -/
theorem countType_le_one {conditions : List Condition}
    (h : (conditions.map Condition.type).Nodup) (type : String) :
    countType type conditions ≤ 1 := by
  have hn : ((conditions.filter (·.type = type)).map Condition.type).Nodup :=
    h.sublist ((List.filter_sublist conditions).map _)
  have hall : ∀ x ∈ (conditions.filter (·.type = type)).map Condition.type, x = type := by
    simp only [List.mem_map, List.mem_filter, decide_eq_true_eq]
    rintro _ ⟨c, ⟨-, hc⟩, rfl⟩
    exact hc
  rwa [List.eq_replicate_of_mem hall, List.nodup_replicate, List.length_map] at hn

/-- One step of a run keeps at most one condition of a type. -/
theorem Action.countType_le_one {type : String} {s : MarklogicCluster}
    (hs : countType type s.status.conditions ≤ 1) (a : Action) :
    countType type (a.apply s).status.conditions ≤ 1 := by
  cases a with
  | reconcile env =>
    obtain ⟨q, hq, he⟩ := reconcile_step env s
    rw [Action.apply, ← he]
    rw [hq.stored_conditions]
    exact hs
  | user w => simpa [Action.apply] using hs

/-- **`updateCondition` is an upsert by type.** On conditions of distinct types, the new
condition is in the result and is the only one of its type, the conditions of the other types
keep their order, and the list grows by one exactly when the type is new. Along every run, a
status with at most one condition of a type keeps at most one. -/
theorem updateCondition_upsert :
    (∀ (cs : List Condition) (c : Condition), (cs.map Condition.type).Nodup →
      c ∈ updateCondition cs c ∧ countType c.type (updateCondition cs c) = 1 ∧
      (updateCondition cs c).filter (·.type ≠ c.type) = cs.filter (·.type ≠ c.type) ∧
      (updateCondition cs c).length =
        if c.type ∈ cs.map Condition.type then cs.length else cs.length + 1) ∧
    ∀ (type : String) (s : MarklogicCluster) (as : List Action),
      countType type s.status.conditions ≤ 1 →
      ∀ s' ∈ trace s as, countType type s'.status.conditions ≤ 1 := by
  refine ⟨fun cs c h ↦ ⟨mem_updateCondition cs c, ?_, filter_updateCondition_ne cs c,
    length_updateCondition cs c⟩, fun type s as hs ↦ ?_⟩
  · have := countType_le_one h c.type
    rw [countType_updateCondition, if_pos rfl]
    omega
  · exact mem_trace_of_step (P := fun s ↦ countType type s.status.conditions ≤ 1)
      (fun a _ s hs ↦ Action.countType_le_one hs a) hs

theorem updateCondition_upsert_deployed :
    let ready : Condition := ⟨"Ready", "True", "Deployed", "", ⟨0, 0⟩⟩
    let upgrading : Condition := ⟨"UpgradeInProgress", "True", "Idle", "", ⟨0, 0⟩⟩
    let as := [Action.user (.annotate .triggerUpgrade (some "true")), .reconcile codeEnv,
      .reconcile codeEnv]
    ([ready].map Condition.type).Nodup ∧
      countType upgrading.type (updateCondition [ready] upgrading) = 1 ∧
      (updateCondition [ready] upgrading).length = 2 ∧
      countType "UpgradeInProgress" deployedCluster.status.conditions ≤ 1 ∧
      ∀ s' ∈ trace deployedCluster as, countType "UpgradeInProgress" s'.status.conditions ≤ 1 :=
  ⟨by decide, (updateCondition_upsert.1 _ _ (by decide)).2.1,
    (updateCondition_upsert.1 _ _ (by decide)).2.2.2.trans (by decide), by decide,
    updateCondition_upsert.2 _ _ _ (by decide)⟩

/-! ### The baseline -/

/-- One step of a run keeps the last upgrade time. -/
theorem Action.lastUpgradeTime_eq (a : Action) (s : MarklogicCluster) :
    (a.apply s).status.lastUpgradeTime = s.status.lastUpgradeTime := by
  obtain ⟨_, h⟩ := Action.status_eq a s
  rw [h]

/-- **The last upgrade time records a completion.** Along every run (any interleaving of
invocations, whatever they meet, with user writes), `status.lastUpgradeTime` is the one the run
started with, or the clock of an invocation of the run that stored `UpgradeCompleted`. A failed
or cancelled attempt never sets it; in fact no invocation stores it, and the first case always
holds. -/
theorem run_lastUpgradeTime (s : MarklogicCluster) (as : List Action) :
    (run s as).status.lastUpgradeTime = s.status.lastUpgradeTime ∨
      ∃ pre env post, as = pre ++ .reconcile env :: post ∧
        phase (reconcile env (run s pre)).1.stored = some .completed ∧
        (run s as).status.lastUpgradeTime = some env.now := by
  refine .inl ?_
  induction as generalizing s with
  | nil => rfl
  | cons a as ih => exact (ih (a.apply s)).trans (Action.lastUpgradeTime_eq a s)

end MarklogicUpgrade
