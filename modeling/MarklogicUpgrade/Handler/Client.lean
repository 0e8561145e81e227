import MarklogicUpgrade.Api.Types

/-!
# One invocation against the API server

The upgrade handler works on an in-memory copy of the cluster (the `cluster` pointer it is
passed) and persists it with two kinds of write: `h.Update`, which stores the object's
metadata (its annotations; the handler never edits the spec it sends back), and
`h.Status().Update`, which stores its status through the status subresource. Each write may
fail, independently of the others; a failed write stores nothing, and what earlier writes
stored stays stored.

A write that succeeds is answered with the object as stored, and the client decodes that
reply into the in-memory object (`Into(obj)`); a failed write decodes nothing. With the status
subresource the two replies differ: `Update` stores the metadata and answers with the *stored*
status, so after it the handler's own status edits are gone from memory; `Status().Update`
stores the status and answers with the stored metadata. The API types are not part of this
development, and the reply is taken to replace the in-memory object as a whole.

`Ctx` is the state of one invocation: the in-memory object, the persisted object, the outcomes
of the writes still to come and the events recorded so far. `Handler` is the state-passing
monad over it whose failures keep the context, so a handler that fails halfway leaves its
earlier writes in `Ctx.stored`, as the API server does. Its `bind` is a plain `match`, and
`bind_apply`/`pure_apply` let `simp` and `decide` run handlers directly.
-/

namespace MarklogicUpgrade

instance decidableEqExcept {ε α : Type} [DecidableEq ε] [DecidableEq α] :
    DecidableEq (Except ε α)
  | .error e, .error e' => decidable_of_iff (e = e') (by simp)
  | .ok a, .ok a' => decidable_of_iff (a = a') (by simp)
  | .error _, .ok _ => isFalse nofun
  | .ok _, .error _ => isFalse nofun

/-- `ctrl.Result`: whether, and after how long, to invoke the reconciler again. -/
structure Result where
  requeue : Bool := false
  requeueAfter : Int := 0
deriving DecidableEq, Repr

/-- The state of one invocation of the handler. -/
structure Ctx where
  /-- The handler's in-memory copy of the cluster. -/
  cluster : MarklogicCluster
  /-- The object as the API server has it. -/
  stored : MarklogicCluster
  /-- The outcomes of the remaining API writes, in order: `some err` fails with `err`; a write
  past the end of the list succeeds. -/
  writes : List (Option String)
  /-- The events recorded so far. -/
  events : List Event
deriving DecidableEq, Repr

/-- A step of the handler within one invocation: it returns a value or an error, and what it
persisted before failing stays persisted. -/
def Handler (α : Type) : Type := Ctx → Ctx × Except String α

namespace Handler

/-- Return without touching the context. -/
protected def pure {α : Type} (a : α) : Handler α := fun c ↦ (c, .ok a)

/-- Run `x`, then `f` on its value; an error stops the handler. -/
protected def bind {α β : Type} (x : Handler α) (f : α → Handler β) : Handler β := fun c ↦
  match x c with
  | (c, .ok a) => f a c
  | (c, .error err) => (c, .error err)

instance : Monad Handler where
  pure := Handler.pure
  bind := Handler.bind

@[simp]
theorem pure_apply {α : Type} (a : α) (c : Ctx) : (pure a : Handler α) c = (c, .ok a) := rfl

@[simp]
theorem bind_apply {α β : Type} (x : Handler α) (f : α → Handler β) (c : Ctx) :
    (x >>= f) c = match x c with
      | (c, .ok a) => f a c
      | (c, .error err) => (c, .error err) := rfl

end Handler

/-- The in-memory object. -/
def getCluster : Handler MarklogicCluster := fun c ↦ (c, .ok c.cluster)

/-- Edit the in-memory object. -/
def modifyCluster (f : MarklogicCluster → MarklogicCluster) : Handler Unit := fun c ↦
  ({ c with cluster := f c.cluster }, .ok ())

/-- `h.Recorder.Event(cluster, type, reason, message)`. -/
def record (type reason message : String) : Handler Unit := fun c ↦
  ({ c with events := c.events ++ [⟨type, reason, message⟩] }, .ok ())

/-- Call a collaborator on the in-memory object: its events are recorded, and its answer,
error included, is handed back to the caller to inspect. -/
def call {α : Type} (f : MarklogicCluster → List Event × Except String α) :
    Handler (Except String α) := fun c ↦
  ({ c with events := c.events ++ (f c.cluster).1 }, .ok (f c.cluster).2)

/-- Run a write that persists `put` of the in-memory object, consuming one write outcome; on
success the reply, the object now stored, is decoded into the in-memory object. -/
def write (put : MarklogicCluster → MarklogicCluster → MarklogicCluster) : Handler Unit :=
  fun c ↦
    match c.writes with
    | some err :: ws => ({ c with writes := ws }, .error err)
    | ws =>
      let reply := put c.cluster c.stored
      ({ c with cluster := reply, stored := reply, writes := ws.tail }, .ok ())

/-- Whether the next write fails. -/
def nextWriteFails : List (Option String) → Bool
  | some _ :: _ => true
  | _ => false

/-- `h.Update(ctx, cluster)`: store the annotations; the reply carries the stored status. -/
def update : Handler Unit :=
  write fun cluster stored ↦ { stored with annotations := cluster.annotations }

/-- `h.Status().Update(ctx, cluster)`: store the status; the reply carries the stored
annotations. -/
def statusUpdate : Handler Unit :=
  write fun cluster stored ↦ { stored with status := cluster.status }

/-- A step whose error the caller logs and ignores. -/
def ignoreError (x : Handler Unit) : Handler Unit := fun c ↦ ((x c).1, .ok ())

/-! ### What each primitive does -/

@[simp]
theorem getCluster_apply (c : Ctx) : getCluster c = (c, .ok c.cluster) := rfl

@[simp]
theorem modifyCluster_apply (f : MarklogicCluster → MarklogicCluster) (c : Ctx) :
    modifyCluster f c = ({ c with cluster := f c.cluster }, .ok ()) := rfl

@[simp]
theorem record_apply (type reason message : String) (c : Ctx) :
    record type reason message c =
      ({ c with events := c.events ++ [⟨type, reason, message⟩] }, .ok ()) := rfl

@[simp]
theorem call_apply {α : Type} (f : MarklogicCluster → List Event × Except String α) (c : Ctx) :
    call f c = ({ c with events := c.events ++ (f c.cluster).1 }, .ok (f c.cluster).2) := rfl

@[simp]
theorem ignoreError_apply (x : Handler Unit) (c : Ctx) : ignoreError x c = ((x c).1, .ok ()) :=
  rfl

/-- A write either stores `put`, decodes it into memory and succeeds, or stores nothing and
fails, as its outcome says; it consumes that outcome and leaves the events alone. -/
theorem write_cases (put : MarklogicCluster → MarklogicCluster → MarklogicCluster) (c : Ctx) :
    nextWriteFails c.writes = false ∧
        write put c =
          ({ c with
            cluster := put c.cluster c.stored, stored := put c.cluster c.stored
            writes := c.writes.tail }, .ok ()) ∨
      nextWriteFails c.writes = true ∧
        ∃ err, write put c = ({ c with writes := c.writes.tail }, .error err) := by
  unfold write
  rcases c.writes with _ | ⟨_ | err, ws⟩
  · exact .inl ⟨rfl, rfl⟩
  · exact .inl ⟨rfl, rfl⟩
  · exact .inr ⟨rfl, err, rfl⟩

end MarklogicUpgrade
