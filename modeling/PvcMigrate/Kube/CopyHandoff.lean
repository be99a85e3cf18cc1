import PvcMigrate.Lib.Prog
import PvcMigrate.Lib.Finalizers

/-!
# Handing a reservation over to a copy

A finished `Reservation` becomes a `Copy` of the same name.  There is no transaction over the two
records, so the handoff is a sequence of writes that a crash may cut anywhere.  An annotation marks
both records as long as the handoff is pending, the session finalizer moves from the one to the
other, and the controller finishes or cancels what it finds half done.

This module models `reservation_copy_crd_store.go`, `reservation_copy_cancel.go`, the executors'
`AdoptReservation`, `ActivateReservationHandoff` and `CancelCopyHandoff`, and the controller's
`reservation_copy_recovery.go`.
-/

namespace PvcMigrate.Handoff

/-! ## The records -/

def sessionFinalizer : String := "migrate.sealos.io/session-protection"

def legacySessionFinalizer : String := "pvc-migrate.io/session-protection"

/-- The finalizers that belong to this project. -/
def ownFinalizers : List String := [sessionFinalizer, legacySessionFinalizer]

def ensureSessionFinalizer (finalizers : List String) : List String :=
  if sessionFinalizer ∈ finalizers then finalizers else finalizers ++ [sessionFinalizer]

def removeSessionFinalizer (finalizers : List String) : List String :=
  finalizers.filter fun f => f ≠ sessionFinalizer ∧ f ≠ legacySessionFinalizer

/-- A reservation: the annotation of a pending handoff, and its specification and status. -/
structure ReservationBody (ρ : Type) where
  pending : Option String
  content : ρ
deriving DecidableEq

/-- The status of a copy.  `plan` stands for the plan and the volume checkpoints, `progress` for a
volume that has sync attempts or a completed warm pass. -/
structure CopyStatus (κ : Type) where
  plan : Option κ
  phase : String
  progress : Bool
  observedGeneration : Nat
  executionIntentHash : String
deriving DecidableEq

/-- The status of a copy that has just been created. -/
def CopyStatus.empty {κ : Type} : CopyStatus κ := ⟨none, "", false, 0, ""⟩

/-- A copy: the annotations of its handoff, its specification and its status. -/
structure CopyBody (σ κ : Type) where
  pending : Option String
  origin : Option Nat
  spec : σ
  status : CopyStatus κ
deriving DecidableEq

abbrev Reservation (ρ : Type) := Record (ReservationBody ρ)

abbrev Copy (σ κ : Type) := Record (CopyBody σ κ)

/-- What the handoff computes from the contents of the records. -/
structure Adoption (ρ σ κ : Type) where
  /-- The hash of a reservation's specification and status. -/
  digest : ρ → String
  /-- `validateClusterReservationObject`. -/
  validReservation : ρ → Bool
  /-- `CopyFromReservation`: the plan and the checkpoints of the copy. -/
  copyFromReservation : ρ → σ → Option κ
  /-- `validateClusterCopyObject`. -/
  validCopy : σ → Option κ → Bool
  /-- `WorkflowExecutionIntentHash`. -/
  executionIntentHash : σ → String
  /-- `CopyFromReservation` validates the copy that it returns. -/
  validated : ∀ content spec plan, copyFromReservation content spec = some plan →
    validCopy spec (some plan) = true

variable {ρ σ κ : Type}

/-- `reservationCopyToken`. -/
def Adoption.token (a : Adoption ρ σ κ) (source : Reservation ρ) : String :=
  toString source.uid ++ "/" ++ a.digest source.payload.content

/-- The status that `initializeCRDCopyHandoff` gives to the copy. -/
def Adoption.checkpoint (a : Adoption ρ σ κ) (generation : Nat) (spec : σ) (plan : κ) :
    CopyStatus κ :=
  ⟨some plan, "Reserved", false, generation, a.executionIntentHash spec⟩

/-! ## Requests -/

/-- The requests of the handoff and of its recovery. -/
inductive Op (ρ σ κ : Type)
  | getReservation
  | getCopy
  | updateReservation (next : Reservation ρ)
  | deleteReservation (uid version : Nat)
  | createCopy (body : CopyBody σ κ) (finalizers : List String)
  | updateCopy (next : Copy σ κ)
  | updateCopyStatus (next : Copy σ κ)
  | deleteCopy (uid version : Nat)
  | lease
  | validate (spec : σ) (plan : κ)

/-- What a request answers if it is not refused. -/
def Answer : Op ρ σ κ → Type
  | .getReservation => Reservation ρ
  | .getCopy => Copy σ κ
  | .updateReservation _ => Reservation ρ
  | .deleteReservation _ _ => Unit
  | .createCopy _ _ | .updateCopy _ | .updateCopyStatus _ => Copy σ κ
  | .deleteCopy _ _ | .lease | .validate _ _ => Unit

variable (op : Op ρ σ κ)

abbrev Reply : Type := Except Refusal (Answer op)

/-- Why a run ends. -/
inductive Failure
  | api (refusal : Refusal)
  | conflict (action message : String)
  | precondition (subject message : String)
  | validation (subject message : String)
deriving DecidableEq

abbrev Run (ρ σ κ : Type) := Prog (Op ρ σ κ) Reply Failure

open Prog

def ask : Run ρ σ κ (Answer op) :=
  perform op >>= fun reply => match reply with
    | .ok answer => ret answer
    | .error refusal => fail (.api refusal)

def find {α : Type} (read : Answer op → α) : Run ρ σ κ (Option α) :=
  perform op >>= fun reply => match reply with
    | .ok answer => ret (some (read answer))
    | .error .notFound => ret none
    | .error refusal => fail (.api refusal)

/-- A deletion of a record that need not exist any more. -/
def ignoreNotFound : Run ρ σ κ Unit :=
  perform op >>= fun reply => match reply with
    | .ok _ | .error .notFound => ret ()
    | .error refusal => fail (.api refusal)

def getReservation : Run ρ σ κ (Reservation ρ) := ask .getReservation

def findReservation : Run ρ σ κ (Option (Reservation ρ)) := find .getReservation id

def updateReservation (next : Reservation ρ) : Run ρ σ κ (Reservation ρ) :=
  ask (.updateReservation next)

def getCopy : Run ρ σ κ (Copy σ κ) := ask .getCopy

def findCopy : Run ρ σ κ (Option (Copy σ κ)) := find .getCopy id

def createCopy (body : CopyBody σ κ) (finalizers : List String) : Run ρ σ κ (Copy σ κ) :=
  ask (.createCopy body finalizers)

def updateCopy (next : Copy σ κ) : Run ρ σ κ (Copy σ κ) := ask (.updateCopy next)

def updateCopyStatus (next : Copy σ κ) : Run ρ σ κ (Copy σ κ) := ask (.updateCopyStatus next)

def acquireLease : Run ρ σ κ (Except Refusal Unit) := perform Op.lease

/-- `ClusterCopyExecutor.Validate`: the live resources allow the copy. -/
def validateCopy (spec : σ) (plan : κ) : Run ρ σ κ Unit := ask (.validate spec plan)

def checkWorkflowStorageVersion {α : Type} (object current : Record α) : Run ρ σ κ Unit :=
  reject (object.uid ≠ current.uid ∨ object.version ≠ current.version)
    (.conflict "write" "workflow changed after it was loaded")

/-! ## Handoff -/

section Protocol

variable [DecidableEq ρ] [DecidableEq σ] [DecidableEq κ] (a : Adoption ρ σ κ)
  (source : Reservation ρ)

/-- The reservation with the annotation and with the session finalizer. -/
def marked (token : String) : Reservation ρ :=
  { source with
    finalizers := ensureSessionFinalizer source.finalizers
    payload := { source.payload with pending := some token } }

/-- Mark the reservation, unless that has been done. -/
def markReservation (token : String) : Run ρ σ κ (Reservation ρ) :=
  match source.payload.pending with
  | some _ => pure source
  | none => updateReservation (marked source token)

/-- What `prepareCRDCopyHandoff` does when there is no copy yet. -/
def createCRDCopyHandoff (spec : σ) (token : String) : Run ρ σ κ (Reservation ρ × Copy σ κ) := do
  let source ← markReservation source token
  let target ← createCopy ⟨source.payload.pending, some source.uid, spec, .empty⟩
    (ensureSessionFinalizer [])
  reject (target.payload.spec ≠ spec)
    (.conflict "handoff" "copy admission changed the prepared input; reload before retrying")
  pure (source, target)

def prepareCRDCopyHandoff (spec : σ) (token : String) : Run ρ σ κ (Reservation ρ × Copy σ κ) := do
  let target ← findCopy
  reject (source.payload.pending ≠ none ∧ source.payload.pending ≠ some token)
    (.conflict "handoff" "reservation content changed during a pending handoff")
  match target with
  | some target => do
      reject (source.payload.pending ≠ some token ∨ target.payload.pending ≠ some token ∨
          target.payload.origin ≠ some source.uid ∨ target.payload.spec ≠ spec ∨
          target.deleting = true)
        (.conflict "handoff" "existing copy does not belong to this reservation handoff")
      pure (source, target)
  | none => createCRDCopyHandoff source spec token

variable (target : Copy σ κ)

def initializeCRDCopyHandoff (plan : κ) : Run ρ σ κ (Copy σ κ) :=
  let next := a.checkpoint target.generation target.payload.spec plan
  if target.payload.status.plan ≠ none then do
    reject (target.payload.status ≠ next) (.conflict "handoff" "pending copy checkpoint changed")
    pure target
  else do
    reject (target.payload.status ≠ .empty)
      (.conflict "handoff" "uninitialized copy contains unexpected progress")
    updateCopyStatus { target with payload := { target.payload with status := next } }

def activateCRDCopyHandoff : Run ρ σ κ (Copy σ κ) := do
  reject (target.payload.status.plan = none ∨ target.payload.status.phase ≠ "Reserved" ∨
      target.payload.origin = none)
    (.conflict "handoff" "copy has no initialized reservation handoff")
  let previous ← getCopy
  checkWorkflowStorageVersion target previous
  reject (previous.payload.spec ≠ target.payload.spec ∨
      previous.payload.status ≠ target.payload.status ∨
      previous.payload.origin ≠ target.payload.origin)
    (.conflict "handoff" "copy content differs from the loaded handoff")
  let source ← findReservation
  reject (source.isSome = true) (.conflict "handoff" "reservation removal is still pending")
  if previous.payload.pending = none then pure previous
  else updateCopy { previous with payload := { previous.payload with pending := none } }

variable (reservation : Reservation ρ)

/-- `HandoffCRDReservationToCopy`, for a copy with the specification `spec` and the plan `plan`. -/
def handoffCRDReservationToCopy (spec : σ) (plan : κ) : Run ρ σ κ (Copy σ κ) := do
  let source ← getReservation
  checkWorkflowStorageVersion reservation source
  reject (source.deleting = true ∨ source.payload.content ≠ reservation.payload.content)
    (.conflict "handoff" "reservation changed before copy handoff")
  let (source, target) ← prepareCRDCopyHandoff source spec (a.token source)
  let target ← initializeCRDCopyHandoff a target plan
  let withoutProtection ← updateReservation
    { source with finalizers := removeSessionFinalizer source.finalizers }
  ignoreNotFound (.deleteReservation withoutProtection.uid withoutProtection.version)
  activateCRDCopyHandoff target

/-! ## Cancellation -/

def validatePendingReservationCopy : Run ρ σ κ Unit := do
  reject (target.payload.pending = none ∨ target.payload.origin ≠ some source.uid ∨
      (source.payload.pending ≠ none ∧ source.payload.pending ≠ target.payload.pending))
    (.conflict "cancel handoff" "copy does not belong to this pending handoff")
  reject (target.payload.status.phase ≠ "" ∧ target.payload.status.phase ≠ "Reserved")
    (.conflict "cancel handoff" "copy has already entered execution")
  reject (target.payload.status.progress = true)
    (.conflict "cancel handoff" "copy has an execution checkpoint")

/-- The reservation without the annotation and with the session finalizer. -/
def restored : Reservation ρ :=
  { source with
    finalizers := ensureSessionFinalizer source.finalizers
    payload := { source.payload with pending := none } }

/-- `CancelCRDReservationCopyHandoff`: the reservation is protected again before the copy loses its
protection. -/
def cancelCRDReservationCopyHandoff : Run ρ σ κ (Reservation ρ) := do
  let source ← getReservation
  checkWorkflowStorageVersion reservation source
  let target ← findCopy
  match target with
  | none =>
    if source.payload.pending = none then pure reservation
    else updateReservation (restored source)
  | some target => do
      validatePendingReservationCopy source target
      let reservation ← updateReservation (restored source)
      let target ← updateCopy { target with finalizers := removeSessionFinalizer target.finalizers }
      ignoreNotFound (.deleteCopy target.uid target.version)
      pure reservation

/-! ## The executors -/

/-- The requests of a `CRDWorkflowStore`. -/
structure WorkflowStore (ρ σ κ α : Type) where
  load : Run ρ σ κ (Option (Record α))
  update : Record α → Run ρ σ κ (Except Refusal (Record α))
  remove : Nat → Nat → Op ρ σ κ

def reservationStore : WorkflowStore ρ σ κ (ReservationBody ρ) where
  load := findReservation
  update next := perform (Op.updateReservation next)
  remove := .deleteReservation

def copyStore : WorkflowStore ρ σ κ (CopyBody σ κ) where
  load := findCopy
  update next := perform (Op.updateCopy next)
  remove := .deleteCopy

/-- `(*CRDWorkflowStore).Delete`, with so many attempts left. -/
def WorkflowStore.delete {α : Type} (store : WorkflowStore ρ σ κ α) (object : Record α) :
    Nat → Run ρ σ κ Unit
  | 0 => fail (.conflict "write"
      "workflow deletion kept conflicting with concurrent writers; retry")
  | attempts + 1 => do
    match ← store.load with
    | none => pure ()
    | some previous => do
      reject (previous.uid ≠ object.uid) (.conflict "write" "workflow UID changed before deletion")
      if previous.deleting then pure () else checkWorkflowStorageVersion object previous
      match ← store.update
        { previous with finalizers := removeSessionFinalizer previous.finalizers } with
      | .error .conflict => delete store object attempts
      | .error refusal => fail (.api refusal)
      | .ok previous =>
        if previous.deleting then pure ()
        else ignoreNotFound (store.remove previous.uid previous.version)

/-- `WithWorkflowLease`.  The operation returns the object as it leaves it. -/
def withWorkflowLease {α : Type} (store : WorkflowStore ρ σ κ α) (object : Record α)
    (allowDeleting : Bool) (run : Run ρ σ κ (Record α)) : Run ρ σ κ Unit := do
  reject (object.deleting = true ∧ allowDeleting = false)
    (.precondition "workflow" "workflow is being deleted; controller recovery owns execution")
  match ← acquireLease with
  | .error refusal => do
    -- where no Lease can be created any more, a record that is being deleted loses its finalizer
    reject (¬ (allowDeleting = true ∧ object.deleting = true ∧ refusal = .terminating))
      (.api refusal)
    let object ← run
    store.delete object 5
  | .ok _ => do
    match ← store.load with
    | none => if allowDeleting then pure () else fail (.api .notFound)
    | some latest => do
      reject (latest.uid ≠ object.uid ∨ latest.version ≠ object.version)
        (.conflict "workflow" "workflow changed while acquiring its lock; reload before retrying")
      reject (latest.deleting = true ∧ allowDeleting = false)
        (.precondition "workflow" "workflow is being deleted")
      let _ ← run
      pure ()

def adoptReservation (spec : σ) : Run ρ σ κ Unit := do
  reject (a.validReservation reservation.payload.content = false)
    (.validation "reservation" "reservation is not valid")
  withWorkflowLease reservationStore reservation false do
    reject (reservation.deleting = true)
      (.precondition "copy reservation" "a completed, non-deleting reservation is required")
    match a.copyFromReservation reservation.payload.content spec with
    | none => fail (.precondition "copy reservation" "the reservation cannot become this copy")
    | some plan => do
        validateCopy spec plan
        let _ ← handoffCRDReservationToCopy a reservation spec plan
        pure reservation

def activateReservationHandoff (object : Copy σ κ) : Run ρ σ κ Unit := do
  reject (a.validCopy object.payload.spec object.payload.status.plan = false)
    (.validation "copy" "copy is not valid")
  withWorkflowLease copyStore object object.deleting (activateCRDCopyHandoff object)

def cancelCopyHandoff (object : Reservation ρ) : Run ρ σ κ Unit := do
  reject (a.validReservation object.payload.content = false)
    (.validation "reservation" "reservation is not valid")
  withWorkflowLease reservationStore object object.deleting
    (cancelCRDReservationCopyHandoff object)

/-! ## Recovery -/

def recoverPair : Run ρ σ κ Unit := do
  validatePendingReservationCopy source target
  -- Once deletion has started without our finalizer, the server does not accept restoring it.
  if source.deleting = true ∧ sessionFinalizer ∉ source.finalizers then pure ()
  else if source.deleting = true ∨ target.deleting = true ∨ source.payload.pending = none then
    cancelCopyHandoff a source
  else adoptReservation a source target.payload.spec

/-- `recoverReservation`: whether there was something to recover. -/
def recoverReservation : Run ρ σ κ Bool := do
  let target ← findCopy
  match target with
  | none =>
    if source.payload.pending = none then pure false
    else do
      cancelCopyHandoff a source
      pure true
  | some target =>
    if source.payload.pending = none ∧ target.payload.pending = none then pure false
    else do
      recoverPair a source target
      pure true

/-- `recoverCopy`: whether there was something to recover. -/
def recoverCopy : Run ρ σ κ Bool :=
  if target.payload.pending = none then pure false
  else do
    let source ← findReservation
    match source with
    | none => activateReservationHandoff a target
    | some source => recoverPair a source target
    pure true

end Protocol

/-! ## The server -/

/-- The records of one name, the next version, and whether one of the two workflows has run its own
finalization. -/
structure World (ρ σ κ : Type) where
  clock : Nat
  reservation : Option (Reservation ρ)
  copy : Option (Copy σ κ)
  finalized : Bool
deriving DecidableEq

namespace World

/-- An update of the reservation writes its finalizers and annotations; the rest is not touched. -/
def rewriteReservation (next : Reservation ρ) (current : Reservation ρ) : Reservation ρ :=
  { current with
    finalizers := next.finalizers
    payload := { current.payload with pending := next.payload.pending } }

def rewriteCopy (next : Copy σ κ) (current : Copy σ κ) : Copy σ κ :=
  { current with
    finalizers := next.finalizers
    payload := { current.payload with
      pending := next.payload.pending, origin := next.payload.origin } }

def rewriteStatus (next : Copy σ κ) (current : Copy σ κ) : Copy σ κ :=
  { current with payload := { current.payload with status := next.payload.status } }

def tick (w : World ρ σ κ) (reservation : Option (Reservation ρ)) (copy : Option (Copy σ κ)) :
    World ρ σ κ :=
  { w with clock := w.clock + 1, reservation := reservation, copy := copy }

end World

/-- How the server answers a request, and what it stores. -/
def serve (op : Op ρ σ κ) (w : World ρ σ κ) : Reply op × World ρ σ κ :=
  match op with
  | .getReservation => (w.reservation.elim (.error .notFound) .ok, w)
  | .getCopy => (w.copy.elim (.error .notFound) .ok, w)
  | .updateReservation next =>
    let result := Record.revise w.clock w.reservation next.uid next.version
      (World.rewriteReservation next)
    (result.1, w.tick result.2 w.copy)
  | .deleteReservation uid version =>
    let result := Record.delete w.clock w.reservation uid version
    (result.1, w.tick result.2 w.copy)
  | .createCopy body finalizers =>
    match w.copy with
    | some _ => (.error .alreadyExists, w)
    | none =>
      let created : Copy σ κ := ⟨w.clock, w.clock, 1, finalizers, false, body⟩
      (.ok created, w.tick w.reservation (some created))
  | .updateCopy next =>
    let result := Record.revise w.clock w.copy next.uid next.version (World.rewriteCopy next)
    (result.1, w.tick w.reservation result.2)
  | .updateCopyStatus next =>
    let result := Record.revise w.clock w.copy next.uid next.version (World.rewriteStatus next)
    (result.1, w.tick w.reservation result.2)
  | .deleteCopy uid version =>
    let result := Record.delete w.clock w.copy uid version
    (result.1, w.tick w.reservation result.2)
  | .lease | .validate _ _ => (.ok (), w)

end PvcMigrate.Handoff
