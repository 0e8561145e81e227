import MarklogicUpgrade.Handler.Invocation

/-!
# What a handler keeps, whatever its writes and collaborators do

The transition table of `Handler.Invocation` says which state an invocation can store, but not
everything the stored object then carries: its `advance` rows leave open which report
`updateUpgradeStateWithResults` was handed. Some facts of that kind need no table, because no
step of the handler can break them. `Handler.Keeps Q h` says that `h` keeps the property `Q` of
both the in-memory and the persisted object, for every outcome of its writes and every answer of
its collaborators.

## How a handler is checked

`Keeps` is proved once per primitive and closed under `bind` and `if`, so a handler is checked by
following its code, without splitting on the outcome of any write. A write stores part of the
in-memory object over the persisted one and decodes the result into memory, so a property of the
annotations alone that both objects have survives `update` and `statusUpdate`
(`ReadsAnnotations`, `keeps_writeBack`); what remains to check is that the in-memory edits keep
it.

## The report annotation

The one property this module follows is the value of the `precheck-results` annotation. Every
edit keeps it except `stateEdits` with a report, which only the completion of the prechecks
passes (`handlePrecheckStartState_report`). So every handler keeps it, `dispatch` outside
`PrecheckStarted` (`keeps_dispatch`), and the whole workflow unless it finds `PrecheckStarted`
without a cancellation (`handleUpgradeWorkflow_report`).

## Errors

`Handler.FailsOnWrite h` says that every error `h` returns is the outcome of one of the writes it
made. It has the same rules, and needs no property of the edits: the collaborators' errors are
matched by every handler that calls them, and `ignoreError` drops the one error it is given, so
every handler of the workflow fails only on a write (`failsOnWrite_handleUpgradeWorkflow`).
-/

namespace MarklogicUpgrade

namespace Handler

/-- `h` keeps the property `Q` of the in-memory and of the persisted object. -/
def Keeps {α : Type} (Q : MarklogicCluster → Prop) (h : Handler α) : Prop :=
  ∀ c : Ctx, Q c.cluster → Q c.stored → Q (h c).1.cluster ∧ Q (h c).1.stored

variable {Q : MarklogicCluster → Prop} {α β : Type}

theorem Keeps.pure (a : α) : Keeps Q (pure a) := fun _ hc hs ↦ ⟨hc, hs⟩

theorem Keeps.bind {x : Handler α} {f : α → Handler β} (hx : Keeps Q x)
    (hf : ∀ a, Keeps Q (f a)) : Keeps Q (x >>= f) := by
  intro c hc hs
  obtain ⟨hc', hs'⟩ := hx c hc hs
  rw [bind_apply]
  rcases hxc : x c with ⟨c', _ | a⟩ <;> rw [hxc] at hc' hs'
  · exact ⟨hc', hs'⟩
  · exact hf a c' hc' hs'

/-- A branch may use its condition. -/
theorem Keeps.ite {p : Prop} [Decidable p] {x y : Handler α} (hx : p → Keeps Q x)
    (hy : ¬p → Keeps Q y) : Keeps Q (if p then x else y) := by
  by_cases hp : p
  · rw [if_pos hp]; exact hx hp
  · rw [if_neg hp]; exact hy hp

/-- The continuation of `getCluster` runs on the in-memory object of the context. -/
theorem getCluster_bind_apply (k : MarklogicCluster → Handler α) (c : Ctx) :
    (getCluster >>= k) c = k c.cluster c := rfl

theorem pure_bind (a : α) (f : α → Handler β) : (pure a >>= f) = f a := rfl

end Handler

open Handler

/-! ### The primitives -/

section Primitives

variable {Q : MarklogicCluster → Prop} {α : Type}

theorem keeps_getCluster : Keeps Q getCluster := fun _ hc hs ↦ ⟨hc, hs⟩

theorem keeps_record (type reason message : String) : Keeps Q (record type reason message) :=
  fun _ hc hs ↦ ⟨hc, hs⟩

theorem keeps_call (f : MarklogicCluster → List Event × Except String α) : Keeps Q (call f) :=
  fun _ hc hs ↦ ⟨hc, hs⟩

theorem keeps_modifyCluster {f : MarklogicCluster → MarklogicCluster} (hf : ∀ t, Q t → Q (f t)) :
    Keeps Q (modifyCluster f) :=
  fun _ hc hs ↦ ⟨hf _ hc, hs⟩

theorem keeps_write {put : MarklogicCluster → MarklogicCluster → MarklogicCluster}
    (hput : ∀ cluster stored, Q cluster → Q stored → Q (put cluster stored)) :
    Keeps Q (write put) := by
  intro c hc hs
  rcases write_cases put c with ⟨-, h⟩ | ⟨-, _, h⟩ <;> rw [h]
  exacts [⟨hput _ _ hc hs, hput _ _ hc hs⟩, ⟨hc, hs⟩]

theorem keeps_ignoreError {x : Handler Unit} (hx : Keeps Q x) : Keeps Q (ignoreError x) := hx

/-- `Q` reads nothing of an object but its annotations. -/
def ReadsAnnotations (Q : MarklogicCluster → Prop) : Prop :=
  ∀ t t' : MarklogicCluster, t'.annotations = t.annotations → Q t → Q t'

variable (hQ : ReadsAnnotations Q)
include hQ

theorem keeps_update : Keeps Q update :=
  keeps_write fun cluster _ hc _ ↦ hQ cluster _ rfl hc

theorem keeps_statusUpdate : Keeps Q statusUpdate :=
  keeps_write fun _ stored _ hs ↦ hQ stored _ rfl hs

theorem keeps_writeBack : Keeps Q UpgradeHandler.writeBack :=
  (keeps_update hQ).bind fun _ ↦ (keeps_statusUpdate hQ).bind fun _ ↦ Keeps.pure _

theorem keeps_writeCurrentImage : Keeps Q UpgradeHandler.writeCurrentImage :=
  (keeps_modifyCluster (f := UpgradeHandler.recordImage) fun t ht ↦ hQ t _ rfl ht).bind fun _ ↦
    keeps_statusUpdate hQ

end Primitives

/-! ### The report annotation -/

namespace UpgradeHandler

/-- The `precheck-results` annotation of `t` is `v`. -/
def ReportIs (v : Option String) (t : MarklogicCluster) : Prop :=
  t.annotations.get? .precheckResults = v

section Report

variable (co : Collaborators) (now : Time) (v : Option String)

theorem ReportIs.readsAnnotations : ReadsAnnotations (ReportIs v) := by
  intro t t' h
  rw [ReportIs, ReportIs, h]
  exact id

theorem keeps_updateUpgradeState (x : UpgradeState) :
    Keeps (ReportIs v) (updateUpgradeState now x) :=
  (keeps_modifyCluster fun t (ht : ReportIs v t) ↦ by simpa [ReportIs, stateEdits] using ht).bind
    fun _ ↦ keeps_writeBack (ReportIs.readsAnnotations v)

theorem keeps_cleanupUpgradeAnnotations (x : UpgradeState) :
    Keeps (ReportIs v) (cleanupUpgradeAnnotations now x) :=
  (keeps_modifyCluster fun t (ht : ReportIs v t) ↦ by simpa [ReportIs] using ht).bind
    fun _ ↦ keeps_writeBack (ReportIs.readsAnnotations v)

theorem keeps_handleIdleState (a : Annotations) : Keeps (ReportIs v) (handleIdleState co now a) :=
  Keeps.ite (fun _ ↦ (keeps_call _).bind fun
      | .error _ => (keeps_record _ _ _).bind fun _ ↦ keeps_updateUpgradeState now v _
      | .ok () => (keeps_record _ _ _).bind fun _ ↦ keeps_updateUpgradeState now v _)
    fun _ ↦ Keeps.pure _

theorem keeps_handlePrecheckDoneState (a : Annotations) :
    Keeps (ReportIs v) (handlePrecheckDoneState now a) :=
  (keeps_record _ _ _).bind fun _ ↦ keeps_updateUpgradeState now v _

theorem keeps_handleWaitingUserState (a : Annotations) :
    Keeps (ReportIs v) (handleWaitingUserState co now a) :=
  Keeps.ite (fun _ ↦ (keeps_record _ _ _).bind fun _ ↦ (keeps_call _).bind fun
      | .error _ => (keeps_record _ _ _).bind fun _ ↦ keeps_updateUpgradeState now v _
      | .ok () => keeps_updateUpgradeState now v _)
    fun _ ↦ Keeps.pure _

theorem keeps_handleInProgressState (a : Annotations) :
    Keeps (ReportIs v) (handleInProgressState co now a) :=
  (keeps_call _).bind fun
    | .error _ => (keeps_record _ _ _).bind fun _ ↦ keeps_updateUpgradeState now v _
    | .ok false => Keeps.pure _
    | .ok true => (keeps_record _ _ _).bind fun _ ↦
      (keeps_ignoreError (keeps_writeCurrentImage (ReportIs.readsAnnotations v))).bind fun _ ↦
        keeps_cleanupUpgradeAnnotations now v _

theorem keeps_handleCancellation (a : Annotations) :
    Keeps (ReportIs v) (handleCancellation now a) :=
  Keeps.ite (fun _ ↦ (keeps_record _ _ _).bind fun _ ↦ Keeps.pure _)
    fun _ ↦ (keeps_record _ _ _).bind fun _ ↦ keeps_cleanupUpgradeAnnotations now v _

/-- A state change with a report stores nothing, or the annotations of its edits. -/
theorem updateUpgradeStateWithResults_report (x : UpgradeState)
    (results : Option PrecheckResults) (c : Ctx) (hs : ReportIs v c.stored) :
    ReportIs v (updateUpgradeStateWithResults now x results c).1.stored ∨
      (updateUpgradeStateWithResults now x results c).1.stored.annotations =
        (stateEdits now x results c.cluster).annotations := by
  unfold updateUpgradeStateWithResults
  rcases (ends_of_writeBack (stateEdits now x results) c).1 with ⟨h, -⟩ | ⟨h, -⟩ | ⟨h, -⟩ <;>
    rw [h]
  exacts [.inl hs, .inr rfl, .inr rfl]

/-- `PrecheckStarted` keeps the report, unless the prechecks completed with a report and the
annotations of that state change were stored. -/
theorem handlePrecheckStartState_report (a : Annotations) (c : Ctx) (hc : ReportIs v c.cluster)
    (hs : ReportIs v c.stored) :
    ReportIs v (handlePrecheckStartState co now a c).1.stored ∨
      ∃ r, (co.checkPrecheckStatus c.cluster).2 = .ok (some r) ∧
        (handlePrecheckStartState co now a c).1.stored.annotations =
          (stateEdits now .precheckDone (some r) c.cluster).annotations := by
  simp only [handlePrecheckStartState, bind_apply, call_apply]
  rcases (co.checkPrecheckStatus c.cluster).2 with err | _ | r <;>
    simp only [record_apply, bind_apply]
  · refine .inl (keeps_updateUpgradeState now v _ _ ?_ ?_).2 <;> assumption
  · exact .inl hs
  · refine (updateUpgradeStateWithResults_report now v _ _ _ ?_).imp id fun h ↦ ⟨r, rfl, h⟩
    exact hs

/-- Outside `PrecheckStarted`, the dispatch keeps the report. -/
theorem keeps_dispatch {cs : String} (hcs : UpgradeState.parse cs ≠ some .precheckStart)
    (a : Annotations) : Keeps (ReportIs v) (dispatch co now cs a) := by
  unfold dispatch
  split
  · exact keeps_handleIdleState co now v a
  · contradiction
  · exact keeps_handlePrecheckDoneState now v a
  · exact keeps_handleWaitingUserState co now v a
  · exact keeps_handleInProgressState co now v a
  iterate 3 exact keeps_cleanupUpgradeAnnotations now v _
  exact keeps_updateUpgradeState now v _

/-- `processWorkflow` keeps the report unless it dispatches on `PrecheckStarted`. -/
theorem processWorkflow_report {cs : String} (c : Ctx)
    (h : UpgradeState.parse cs = some .precheckStart →
      c.cluster.annotations.get .cancelUpgrade = "true")
    (hc : ReportIs v c.cluster) (hs : ReportIs v c.stored) :
    ReportIs v (processWorkflow co now cs c).1.cluster ∧
      ReportIs v (processWorkflow co now cs c).1.stored := by
  simp only [processWorkflow, getCluster_bind_apply, pure_bind]
  exact (Keeps.ite (fun _ ↦ Keeps.pure _) fun _ ↦
    Keeps.ite (fun _ ↦ keeps_handleCancellation now v _)
      fun hcancel ↦ keeps_dispatch co now v (fun hp ↦ hcancel (h hp)) _) c hc hs

theorem keeps_processWorkflow {cs : String} (hcs : UpgradeState.parse cs ≠ some .precheckStart) :
    Keeps (ReportIs v) (processWorkflow co now cs) :=
  fun c ↦ processWorkflow_report co now v c fun hp ↦ absurd hp hcs

/-- The workflow keeps the report unless it finds `PrecheckStarted` without a cancellation. -/
theorem handleUpgradeWorkflow_report (c : Ctx)
    (h : phase c.cluster = some .precheckStart → c.cluster.annotations.get .cancelUpgrade = "true")
    (hc : ReportIs v c.cluster) (hs : ReportIs v c.stored) :
    ReportIs v (handleUpgradeWorkflow co now c).1.stored := by
  simp only [handleUpgradeWorkflow, getCluster_bind_apply, pure_bind]
  split
  · exact ((keeps_writeCurrentImage (ReportIs.readsAnnotations v)).bind fun _ ↦ Keeps.pure _) c hc hs |>.2
  split
  · next hidle =>
    have hcs : UpgradeState.parse (currentState c.cluster.annotations) ≠ some .precheckStart := by
      rw [hidle.1, UpgradeState.parse_value]; decide
    exact ((keeps_modifyCluster fun _ ht ↦ by simpa [ReportIs] using ht).bind fun _ ↦
      (keeps_update (ReportIs.readsAnnotations v)).bind fun _ ↦
        keeps_processWorkflow co now v hcs) c hc hs |>.2
  · exact (processWorkflow_report co now v c h hc hs).2

end Report

end UpgradeHandler

/-! ### Errors -/

namespace Handler

/-- Every error `h` returns is one of the write outcomes it consumed: the outcomes left after `h`
are a suffix of those before, and an error is among the ones in between. -/
def FailsOnWrite {α : Type} (h : Handler α) : Prop :=
  ∀ c : Ctx, ∃ ws, c.writes = ws ++ (h c).1.writes ∧ ∀ err, (h c).2 = .error err → some err ∈ ws

variable {α β : Type}

theorem FailsOnWrite.pure (a : α) : FailsOnWrite (pure a) := fun _ ↦ ⟨[], rfl, nofun⟩

theorem FailsOnWrite.bind {x : Handler α} {f : α → Handler β} (hx : FailsOnWrite x)
    (hf : ∀ a, FailsOnWrite (f a)) : FailsOnWrite (x >>= f) := by
  intro c
  obtain ⟨ws, hw, he⟩ := hx c
  rw [bind_apply]
  rcases hxc : x c with ⟨c', _ | a⟩ <;> rw [hxc] at hw he
  · exact ⟨ws, hw, fun _ h ↦ by cases h; exact he _ rfl⟩
  · obtain ⟨ws', hw', he'⟩ := hf a c'
    exact ⟨ws ++ ws', by rw [hw, hw', List.append_assoc],
      fun err h ↦ List.mem_append_right _ (he' err h)⟩

theorem FailsOnWrite.ite {p : Prop} [Decidable p] {x y : Handler α} (hx : FailsOnWrite x)
    (hy : FailsOnWrite y) : FailsOnWrite (if p then x else y) := by
  split
  exacts [hx, hy]

end Handler

section Primitives

variable {α : Type}

theorem failsOnWrite_getCluster : FailsOnWrite getCluster := fun _ ↦ ⟨[], rfl, nofun⟩

theorem failsOnWrite_modifyCluster (f : MarklogicCluster → MarklogicCluster) :
    FailsOnWrite (modifyCluster f) :=
  fun _ ↦ ⟨[], rfl, nofun⟩

theorem failsOnWrite_record (type reason message : String) :
    FailsOnWrite (record type reason message) :=
  fun _ ↦ ⟨[], rfl, nofun⟩

theorem failsOnWrite_call (f : MarklogicCluster → List Event × Except String α) :
    FailsOnWrite (call f) :=
  fun _ ↦ ⟨[], rfl, nofun⟩

theorem failsOnWrite_write (put : MarklogicCluster → MarklogicCluster → MarklogicCluster) :
    FailsOnWrite (write put) := by
  rintro ⟨cluster, stored, _ | ⟨_ | err, ws⟩, events⟩
  · exact ⟨[], rfl, nofun⟩
  · exact ⟨[none], rfl, nofun⟩
  · exact ⟨[some err], rfl, fun _ h ↦ by cases h; exact List.mem_singleton_self _⟩

theorem failsOnWrite_ignoreError {x : Handler Unit} (hx : FailsOnWrite x) :
    FailsOnWrite (ignoreError x) := fun c ↦
  let ⟨ws, hw, _⟩ := hx c
  ⟨ws, hw, nofun⟩

end Primitives

namespace UpgradeHandler

section Errors

variable (co : Collaborators) (now : Time)

theorem failsOnWrite_writeBack : FailsOnWrite writeBack :=
  (failsOnWrite_write _).bind fun _ ↦ (failsOnWrite_write _).bind fun _ ↦ .pure _

theorem failsOnWrite_updateUpgradeState (x : UpgradeState) :
    FailsOnWrite (updateUpgradeStateWithResults now x none) :=
  (failsOnWrite_modifyCluster _).bind fun _ ↦ failsOnWrite_writeBack

theorem failsOnWrite_handleIdleState (a : Annotations) :
    FailsOnWrite (handleIdleState co now a) :=
  .ite ((failsOnWrite_call _).bind fun
      | .error _ => (failsOnWrite_record _ _ _).bind fun _ ↦ failsOnWrite_updateUpgradeState now _
      | .ok () => (failsOnWrite_record _ _ _).bind fun _ ↦ failsOnWrite_updateUpgradeState now _)
    (.pure _)

theorem failsOnWrite_handlePrecheckStartState (a : Annotations) :
    FailsOnWrite (handlePrecheckStartState co now a) :=
  (failsOnWrite_call _).bind fun
    | .error _ => (failsOnWrite_record _ _ _).bind fun _ ↦ failsOnWrite_updateUpgradeState now _
    | .ok none => .pure _
    | .ok (some _) => (failsOnWrite_record _ _ _).bind fun _ ↦
      (failsOnWrite_modifyCluster _).bind fun _ ↦ failsOnWrite_writeBack

theorem failsOnWrite_handleWaitingUserState (a : Annotations) :
    FailsOnWrite (handleWaitingUserState co now a) :=
  .ite ((failsOnWrite_record _ _ _).bind fun _ ↦ (failsOnWrite_call _).bind fun
      | .error _ => (failsOnWrite_record _ _ _).bind fun _ ↦ failsOnWrite_updateUpgradeState now _
      | .ok () => failsOnWrite_updateUpgradeState now _)
    (.pure _)

theorem failsOnWrite_cleanupUpgradeAnnotations (x : UpgradeState) :
    FailsOnWrite (cleanupUpgradeAnnotations now x) :=
  (failsOnWrite_modifyCluster _).bind fun _ ↦ failsOnWrite_writeBack

theorem failsOnWrite_writeCurrentImage : FailsOnWrite writeCurrentImage :=
  (failsOnWrite_modifyCluster _).bind fun _ ↦ failsOnWrite_write _

theorem failsOnWrite_handleInProgressState (a : Annotations) :
    FailsOnWrite (handleInProgressState co now a) :=
  (failsOnWrite_call _).bind fun
    | .error _ => (failsOnWrite_record _ _ _).bind fun _ ↦ failsOnWrite_updateUpgradeState now _
    | .ok false => .pure _
    | .ok true => (failsOnWrite_record _ _ _).bind fun _ ↦
      (failsOnWrite_ignoreError failsOnWrite_writeCurrentImage).bind fun _ ↦
        failsOnWrite_cleanupUpgradeAnnotations now _

theorem failsOnWrite_handleCancellation (a : Annotations) :
    FailsOnWrite (handleCancellation now a) :=
  .ite ((failsOnWrite_record _ _ _).bind fun _ ↦ .pure _)
    ((failsOnWrite_record _ _ _).bind fun _ ↦ failsOnWrite_cleanupUpgradeAnnotations now _)

theorem failsOnWrite_dispatch (cs : String) (a : Annotations) :
    FailsOnWrite (dispatch co now cs a) := by
  unfold dispatch
  split
  · exact failsOnWrite_handleIdleState co now a
  · exact failsOnWrite_handlePrecheckStartState co now a
  · exact (failsOnWrite_record _ _ _).bind fun _ ↦ failsOnWrite_updateUpgradeState now _
  · exact failsOnWrite_handleWaitingUserState co now a
  · exact failsOnWrite_handleInProgressState co now a
  iterate 3 exact failsOnWrite_cleanupUpgradeAnnotations now _
  exact failsOnWrite_updateUpgradeState now _

theorem failsOnWrite_processWorkflow (cs : String) : FailsOnWrite (processWorkflow co now cs) :=
  failsOnWrite_getCluster.bind fun _ ↦
    .ite (.pure _) ((FailsOnWrite.pure ()).bind fun _ ↦
      .ite (failsOnWrite_handleCancellation now _) (failsOnWrite_dispatch co now _ _))

/-- **Only a write fails the workflow.** Every error `HandleUpgradeWorkflow` returns is the
outcome of one of its own writes: the precheck and rollout errors move the state instead, and
the error of `updateCurrentImages` is ignored. -/
theorem failsOnWrite_handleUpgradeWorkflow : FailsOnWrite (handleUpgradeWorkflow co now) :=
  failsOnWrite_getCluster.bind fun _ ↦
    .ite (failsOnWrite_writeCurrentImage.bind fun _ ↦ .pure _)
      ((FailsOnWrite.pure ()).bind fun _ ↦
        .ite ((failsOnWrite_modifyCluster _).bind fun _ ↦ (failsOnWrite_write _).bind fun _ ↦
            failsOnWrite_processWorkflow co now _)
          ((FailsOnWrite.pure ()).bind fun _ ↦ failsOnWrite_processWorkflow co now _))

end Errors

end UpgradeHandler

end MarklogicUpgrade
