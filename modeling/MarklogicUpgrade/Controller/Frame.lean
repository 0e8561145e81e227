import MarklogicUpgrade.Controller.Reconcile
import MarklogicUpgrade.Handler.Invocation

/-!
# What one invocation can change, and what a run can

Read off the table of `UpgradeHandler.Step`, for every invocation, whatever its collaborators
answer and whichever of its writes fail:

* the spec is never written (`Step.stored_spec`);
* the status is stored as it was, or with the spec's image of that invocation recorded
  (`Step.stored_status`): the status edits of a state change never reach the store;
* a control annotation is kept or deleted; only the trigger is ever set, and only by the drift
  check (`Step.stored_get?`).

`reconcile_step` carries the table to `Reconcile`, whose persisted object is the handler's.
Over runs, the last fact gives the provenance of every signal (`run_signal_source`): a signal
found on the persisted object that was not there at the start of a run was written by a user
step of that run, or, the trigger only, set by an invocation that found an image change.
-/

namespace MarklogicUpgrade

namespace UpgradeHandler

/-! ### The writes -/

section Persists

variable {m t : MarklogicCluster} {p : Ctx × Except String Result}

theorem Persists.stored_eq (h : Persists m t p) :
    p.1.stored = t ∨ p.1.stored = { t with annotations := m.annotations } :=
  h.imp (·.1) fun h ↦ h.elim (·.1) (·.1)

/-- The status stored by the two writes is the one that was stored. -/
theorem Persists.stored_status (h : Persists m t p) : p.1.stored.status = t.status := by
  rcases h.stored_eq with h | h <;> rw [h]

theorem Persists.spec (h : Persists m t p) : p.1.stored.spec = t.spec := by
  rcases h.stored_eq with h | h <;> rw [h]

/-- A write back that succeeded stored the annotations, and its reply is in memory. -/
theorem Persists.of_ok {res : Result} (h : Persists m t p) (hr : p.2 = .ok res) :
    p.1.stored = { t with annotations := m.annotations } ∧ p.1.cluster = p.1.stored := by
  rcases h with ⟨-, -, _, h⟩ | ⟨-, -, _, h⟩ | ⟨h, hc, -⟩
  · rw [hr] at h; cases h
  · rw [hr] at h; cases h
  · exact ⟨h, hc⟩

/-- After a write back that succeeded, memory holds the edited annotations and the stored
status. -/
theorem Persists.cluster_of_ok {res : Result} (h : Persists m t p) (hr : p.2 = .ok res) :
    p.1.cluster = { t with annotations := m.annotations } :=
  (h.of_ok hr).2.trans (h.of_ok hr).1

/-- A write back that succeeded stored the edits' state. -/
theorem Persists.phase_of_ok {res : Result} (h : Persists m t p) (hr : p.2 = .ok res) :
    phase p.1.stored = phase m := by
  rw [(h.of_ok hr).1]; rfl

end Persists

@[simp]
theorem afterDrift_spec (s : MarklogicCluster) : (afterDrift s).spec = s.spec := by
  unfold afterDrift; split <;> rfl

@[simp]
theorem afterDrift_status (s : MarklogicCluster) : (afterDrift s).status = s.status := by
  unfold afterDrift; split <;> rfl

theorem afterDrift_get? (s : MarklogicCluster) (k : AnnotationKey) :
    (afterDrift s).annotations.get? k =
      if k = .triggerUpgrade ∧ Drifts s then some "true" else s.annotations.get? k := by
  unfold afterDrift
  by_cases hd : Drifts s <;> by_cases hk : k = .triggerUpgrade <;> simp [hd, hk]

theorem cleanupEdits_get?_cases (now : Time) (x : UpgradeState) (cluster : MarklogicCluster)
    {k : AnnotationKey} (hk : k ≠ .upgradeState) :
    (cleanupEdits now x cluster).annotations.get? k = cluster.annotations.get? k ∨
      (cleanupEdits now x cluster).annotations.get? k = none := by
  rw [cleanupEdits_get?]
  split_ifs <;> simp_all

/-! ### One invocation -/

variable {now : Time} {cs : String} {s t : MarklogicCluster} {ws : List (Option String)}
  {p : Ctx × Except String Result}

theorem Ends.stored_spec (h : Ends now cs t ws p) : p.1.stored.spec = t.spec := by
  cases h with
  | quiet _ hs => rw [hs]
  | advance _ _ h | cleanup _ h => exact h.spec
  | complete _ _ h => simpa using h.spec

/-- **The spec is never written.** -/
theorem Step.stored_spec (h : Step now s ws p) : p.1.stored.spec = s.spec := by
  cases h with
  | baseline _ _ _ h => rcases h with ⟨h, -⟩ | ⟨h, -⟩ <;> rw [h]; rfl
  | driftNotStored _ _ hs => rw [hs]
  | proceed _ h => rw [h.stored_spec, afterDrift_spec]

theorem Ends.stored_status (h : Ends now cs t ws p) :
    p.1.stored.status = t.status ∨ p.1.stored.status = (recordImage t).status := by
  cases h with
  | quiet _ hs => exact .inl (by rw [hs])
  | advance _ _ h | cleanup _ h => exact .inl h.stored_status
  | complete _ _ h => rw [h.stored_status]; exact ite_recordImage_status _ t

/-- **The status is stored as it was, or with the spec's image recorded.** The status edits of
a state change never reach the store: the reply of the `Update` brings the stored status back
into memory before `Status().Update` writes it. -/
theorem Step.stored_status (h : Step now s ws p) :
    p.1.stored.status = s.status ∨ p.1.stored.status = (recordImage s).status := by
  cases h with
  | baseline _ _ _ h => rcases h with ⟨h, -⟩ | ⟨h, -⟩ <;> simp [h]
  | driftNotStored _ _ hs => exact .inl (by rw [hs])
  | proceed _ h => simpa [recordImage] using h.stored_status

/-- **An image is only ever recorded from the spec of the invocation that records it.** -/
theorem Step.stored_currentImage (h : Step now s ws p) :
    p.1.stored.status.currentImage = s.status.currentImage ∨
      p.1.stored.status.currentImage = s.spec.image := by
  rcases h.stored_status with h | h <;> rw [h]
  exacts [.inl rfl, .inr rfl]

theorem Ends.stored_get? {k : AnnotationKey} (hk : k ≠ .upgradeState)
    (hk' : k ≠ .precheckResults) (h : Ends now cs t ws p) :
    p.1.stored.annotations.get? k = t.annotations.get? k ∨
      p.1.stored.annotations.get? k = none := by
  cases h with
  | quiet _ hs => exact .inl (by rw [hs])
  | advance _ _ h => rcases h.stored_eq with h | h <;> simp [h, stateEdits_get? _ _ _ _ hk', hk]
  | @cleanup x _ h =>
    rcases h.stored_eq with h | h <;> rw [h]
    exacts [.inl rfl, cleanupEdits_get?_cases now x t hk]
  | complete _ _ h =>
    rcases h.stored_eq with h | h <;> rw [h]
    exacts [.inl (by simp), cleanupEdits_get?_cases now .completed (recordImage t) hk]

/-- **A control annotation is kept or deleted**; only the trigger is ever set, and only by
the drift check. -/
theorem Step.stored_get? {k : AnnotationKey} (hk : k ≠ .upgradeState)
    (hk' : k ≠ .precheckResults) (h : Step now s ws p) :
    p.1.stored.annotations.get? k = s.annotations.get? k ∨
      p.1.stored.annotations.get? k = none ∨
      k = .triggerUpgrade ∧ Drifts s ∧ p.1.stored.annotations.get? k = some "true" := by
  cases h with
  | baseline _ _ _ h => rcases h with ⟨h, -⟩ | ⟨h, -⟩ <;> simp [h]
  | driftNotStored _ _ hs => simp [hs]
  | proceed _ h =>
    rcases h.stored_get? hk hk' with h | h
    · rw [h, afterDrift_get?]
      split_ifs with hd
      · exact .inr (.inr ⟨hd.1, hd.2, rfl⟩)
      · exact .inl rfl
    · exact .inr (.inl h)

/-- A signal found set after an invocation was set before it, or is the drift check's
trigger. -/
theorem Step.signal_source {k : AnnotationKey} (hk : k ≠ .upgradeState)
    (hk' : k ≠ .precheckResults) (h : Step now s ws p)
    (hv : p.1.stored.annotations.get k = "true") :
    s.annotations.get k = "true" ∨ k = .triggerUpgrade ∧ Drifts s := by
  rw [Annotations.get_eq_iff (by decide)] at hv ⊢
  rcases h.stored_get? hk hk' with h | h | h
  · exact .inl (h ▸ hv)
  · simp [h] at hv
  · exact .inr ⟨h.1, h.2.1⟩

/-- **The conditions are never stored changed.** -/
theorem Step.stored_conditions (h : Step now s ws p) :
    p.1.stored.status.conditions = s.status.conditions := by
  rcases h.stored_status with h | h <;> rw [h]; rfl

theorem Ends.stored_annotations (h : Ends now cs t ws p) :
    p.1.stored.annotations = t.annotations ∨
      (∃ x results, Advances cs t x ∧
        p.1.stored.annotations = (stateEdits now x results t).annotations) ∨
      (∃ x, CleansUp cs t x ∧ p.1.stored.annotations = (cleanupEdits now x t).annotations) ∨
      (UpgradeState.parse cs = some .inProgress ∧
        t.annotations.get .cancelUpgrade ≠ "true" ∧
        p.1.stored.annotations = (cleanupEdits now .completed t).annotations) := by
  cases h with
  | quiet _ hs => exact .inl (by rw [hs])
  | @advance x results _ hx h =>
    rcases h.stored_eq with h | h <;> rw [h]
    exacts [.inl rfl, .inr (.inl ⟨x, results, hx, rfl⟩)]
  | @cleanup x hx h =>
    rcases h.stored_eq with h | h <;> rw [h]
    exacts [.inl rfl, .inr (.inr (.inl ⟨x, hx, rfl⟩))]
  | complete hcancel hp h =>
    rcases h.stored_eq with h | h <;> rw [h]
    exacts [.inl (by simp), .inr (.inr (.inr ⟨hp, hcancel, rfl⟩))]

/-- **The persisted annotations after an invocation**: those it was handed, with the drift
trigger alone, or one row's edits of the object the handlers saw. -/
theorem Step.stored_annotations (h : Step now s ws p) :
    p.1.stored.annotations = s.annotations ∨
      p.1.stored.annotations = (afterDrift s).annotations ∨
      (∃ x results, Advances (currentState s.annotations) (afterDrift s) x ∧
        p.1.stored.annotations = (stateEdits now x results (afterDrift s)).annotations) ∨
      (∃ x, CleansUp (currentState s.annotations) (afterDrift s) x ∧
        p.1.stored.annotations = (cleanupEdits now x (afterDrift s)).annotations) ∨
      (phase s = some .inProgress ∧ (afterDrift s).annotations.get .cancelUpgrade ≠ "true" ∧
        p.1.stored.annotations = (cleanupEdits now .completed (afterDrift s)).annotations) := by
  cases h with
  | baseline _ _ _ h => rcases h with ⟨h, -⟩ | ⟨h, -⟩ <;> exact .inl (by simp [h])
  | driftNotStored _ _ hs => exact .inl (by rw [hs])
  | proceed _ h => exact .inr h.stored_annotations

theorem Ends.stored_of_ok {res : Result} (h : Ends now cs t ws p) (hr : p.2 = .ok res) :
    p.1.stored = p.1.cluster := by
  cases h with
  | quiet _ hs hc _ => rw [hs, hc]
  | advance _ _ h | cleanup _ h | complete _ _ h => exact (h.of_ok hr).2.symm

/-- **A successful invocation persists its in-memory object**: every write it made went
through, and the last one's reply is in memory. -/
theorem Step.stored_of_ok {res : Result} (h : Step now s ws p) (hr : p.2 = .ok res) :
    p.1.stored = p.1.cluster := by
  cases h with
  | baseline _ _ hc h =>
    rcases h with ⟨h, -⟩ | ⟨-, err, h⟩
    · rw [h, hc]
    · rw [hr] at h; cases h
  | driftNotStored _ _ _ _ h => rw [hr] at h; cases h
  | proceed _ h => exact h.stored_of_ok hr

end UpgradeHandler

/-! ### `Reconcile` -/

open UpgradeHandler

/-- `Reconcile` persists what the workflow persisted. -/
theorem reconcile_fst (env : Env) (s : MarklogicCluster) :
    (reconcile env s).1 =
      (handleUpgradeWorkflow env.collaborators env.now ⟨s, s, env.writes, []⟩).1 := by
  unfold reconcile
  split
  · next h => simp [h]
  · next h => split_ifs <;> simp [h]

/-- The table, for `Reconcile`. -/
theorem reconcile_step (env : Env) (s : MarklogicCluster) :
    ∃ q, Step env.now s env.writes q ∧ q.1 = (reconcile env s).1 :=
  ⟨_, handleUpgradeWorkflow_step _ _ s _ _, (reconcile_fst env s).symm⟩

/-! ### Runs -/

theorem IntentKey.key_injective : Function.Injective IntentKey.key := by
  intro k k' h
  cases k <;> cases k' <;> first | rfl | cases h

theorem IntentKey.key_ne_upgradeState (k : IntentKey) : k.key ≠ .upgradeState := by
  cases k <;> decide

theorem IntentKey.key_ne_precheckResults (k : IntentKey) : k.key ≠ .precheckResults := by
  cases k <;> decide

/-- A user's write changes no annotation but the one it writes, and never the status. -/
theorem UserWrite.apply_frame {w : UserWrite} {k : AnnotationKey}
    (hk : ∀ k' v, w = .annotate k' v → k'.key ≠ k) (s : MarklogicCluster) :
    (w.apply s).annotations.get k = s.annotations.get k ∧ (w.apply s).status = s.status := by
  cases w with
  | annotate k' v =>
    simp [UserWrite.apply, Annotations.get, Annotations.get?_set, (hk k' v rfl).symm]
  | setImage image => exact ⟨rfl, rfl⟩

@[simp]
theorem UserWrite.status_apply (w : UserWrite) (s : MarklogicCluster) :
    (w.apply s).status = s.status := by
  cases w <;> rfl

/-- A user never writes the upgrade-state. -/
theorem UserWrite.phase_apply (w : UserWrite) (s : MarklogicCluster) :
    phase (w.apply s) = phase s := by
  have h := (UserWrite.apply_frame (w := w) (fun k _ _ ↦ k.key_ne_upgradeState) s).1
  simp only [phase, currentState, h]

/-- One step of a run: a signal found set after the step was set before it, or written by
that step, or, the trigger only, set by an invocation that found an image change. -/
theorem Action.signal_source {a : Action} {s : MarklogicCluster} {k : IntentKey}
    (hv : (a.apply s).annotations.get k.key = "true") :
    s.annotations.get k.key = "true" ∨ a = .user (.annotate k (some "true")) ∨
      k = .triggerUpgrade ∧ ∃ env, a = .reconcile env ∧ Drifts s := by
  cases a with
  | reconcile env =>
    obtain ⟨q, hq, he⟩ := reconcile_step env s
    rw [Action.apply, ← he] at hv
    rcases hq.signal_source k.key_ne_upgradeState k.key_ne_precheckResults hv with h | ⟨hk, hd⟩
    · exact .inl h
    · exact .inr (.inr ⟨IntentKey.key_injective hk, env, rfl, hd⟩)
  | user w =>
    cases w with
    | annotate k' v =>
      by_cases hk : k' = k
      · subst hk
        rw [Action.apply, UserWrite.apply, Annotations.get_eq_iff (by decide)] at hv
        simp only [Annotations.get?_set, if_true] at hv
        exact .inr (.inl (by rw [hv]))
      · have hk' : k.key ≠ k'.key := fun h ↦ hk (IntentKey.key_injective h).symm
        simp only [Action.apply, UserWrite.apply, Annotations.get, Annotations.get?_set,
          if_neg hk'] at hv
        exact .inl hv
    | setImage image => exact .inl hv

/-- **Every signal has a source in the run.** A signal set on the persisted object at the end
of a run, and not at its start, was written by a user step of the run, or, the trigger only,
set by an invocation of the run on an object that had an image change. -/
theorem run_signal_source (s : MarklogicCluster) (as : List Action) (k : IntentKey)
    (h0 : s.annotations.get k.key ≠ "true") (hv : (run s as).annotations.get k.key = "true") :
    .user (.annotate k (some "true")) ∈ as ∨
      k = .triggerUpgrade ∧ ∃ env s', (s', Action.reconcile env) ∈ (trace s as).zip as ∧
        Drifts s' := by
  induction as generalizing s with
  | nil => exact absurd hv h0
  | cons a as ih =>
    by_cases h1 : (a.apply s).annotations.get k.key = "true"
    · rcases Action.signal_source h1 with h | rfl | ⟨hk, env, rfl, hd⟩
      · exact absurd h h0
      · exact .inl (List.mem_cons_self _ _)
      · exact .inr ⟨hk, env, s, List.mem_cons_self _ _, hd⟩
    · rcases ih (a.apply s) h1 hv with h | ⟨hk, env, s', h, hd⟩
      · exact .inl (List.mem_cons_of_mem _ h)
      · exact .inr ⟨hk, env, s', List.mem_cons_of_mem _ h, hd⟩

end MarklogicUpgrade
