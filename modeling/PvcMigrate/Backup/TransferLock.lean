import PvcMigrate.Lib.Threads
import PvcMigrate.ObjectStore.RecoveryPoint

/-!
# The repository lock of a backup

A backup writes its data below the prefix of a recovery point and then publishes a completion
manifest (`backup/backup_transfer.go`).  It holds the lock of the recovery point meanwhile: an
object with the name of its holder and an expiry time, written with `If-None-Match` and `If-Match`
(`objectstore/s3.go`).  A goroutine renews the lock in the background (`backup/backup.go`).

The object store is linearizable: a request that is answered takes effect between the call and its
answer.  A call that times out, fails on the way or whose context ends has no answer of the store;
its request may have taken effect, or do so later or never.  An `ETag` identifies the content it was
given for, and a `GetObject` returns it; a `PutObject` may answer without one.  Clocks answer
anything.

The mutex of the lease and the wait for the renewal goroutine only rule out interleavings, so they
are left out.  So is the classification of the errors of the tool.
-/

namespace PvcMigrate

namespace Backup

open ObjectStore Prog

/-! ## Requests -/

/-- The `ETag` of a lock: the content it was given for, and what tells its versions apart. -/
structure ETag where
  lock : Lock
  version : Nat
  deriving DecidableEq

inductive Write
  /-- `PutObject` of the lock with `If-None-Match: *`. -/
  | createLock (lock : Lock)
  /-- `PutObject` of the lock in place of an expired one, with `If-Match`. -/
  | replaceLock (expired : ETag) (lock : Lock)
  /-- `PutObject` of the lock in place of the holder's own one, with `If-Match`. -/
  | renewLock (current : ETag) (lock : Lock)
  /-- `DeleteObject` of the lock with `If-Match`. -/
  | deleteLock (etag : ETag)
  /-- `PutObject` of the completion manifest with `If-None-Match: *`. -/
  | putManifest (manifest : Manifest)

/-- How a request fails. -/
inductive StoreError
  | conditionFailed
  | noSuchBucket
  | timedOut
  | unavailable
  | cancelled
  deriving DecidableEq

/-- Steps of a transfer elsewhere, which succeed or fail. -/
inductive ExternalStep
  | acquireTarget
  | newSessionID
  | prepareTool
  | toolRequest
  | validateToolLaunch
  | verifyInventory
  | uninstallTool
  | targetLockErr
  | deleteTarget

/-- What `verifyPVCIdentity` returns of the claim and its volume. -/
structure SourceVolume where
  pvcUID : Text
  pvName : Text
  pvUID : Text
  capacity : Text
  volumeMode : Option Text

/-- The calls of a transfer. -/
inductive Op
  | now
  | untilDeadline
  | write (request : Write)
  | readLock
  /-- The `GetObject` that follows the creation of the lock. -/
  | readBackLock
  | readManifest
  | inventory
  | startTool
  | awaitTool
  | verifyPVCIdentity
  | external (step : ExternalStep)
  /-- `ctx.Err()`, of the context of the transfer or of one of its own. -/
  | contextErr (detached : Bool)
  | currentLease
  | setLease (etag : ETag)
  | startRenewal
  | stopRenewal
  | takeLeaseError
  /-- The renewal goroutine reports an error and cancels the transfer. -/
  | abort (e : Error)

abbrev Reply : Op → Type
  | .now => Int
  | .untilDeadline => Option Int
  | .write _ | .readLock | .readBackLock => Except StoreError (Option ETag)
  | .readManifest => Except Error (Option Manifest)
  | .inventory => Except Error Inventory
  | .startTool => Unit
  | .awaitTool => Option Error
  | .verifyPVCIdentity => Except Error SourceVolume
  | .external _ => Option Error
  | .contextErr _ => Bool
  | .currentLease => Option ETag
  | .setLease _ | .startRenewal | .stopRenewal => Unit
  | .takeLeaseError => Option Error
  | .abort _ => Unit

abbrev Run := Prog Op Reply Error

def ask (op : Op) : Run (Reply op) := perform op

def contextErr (detached : Bool) : Run Bool := ask (.contextErr detached)

def readLock : Run (Except StoreError (Option ETag)) := ask .readLock

def readBackLock : Run (Except StoreError (Option ETag)) := ask .readBackLock

def write (request : Write) : Run (Except StoreError (Option ETag)) := ask (.write request)

def now : Run Int := ask .now

def untilDeadline : Run (Option Int) := ask .untilDeadline

def readManifest : Run (Except Error (Option Manifest)) := ask .readManifest

def takeInventory : Run (Except Error Inventory) := ask .inventory

def startTool : Run Unit := ask .startTool

def awaitTool : Run (Option Error) := ask .awaitTool

def inspectSource : Run (Except Error SourceVolume) := ask .verifyPVCIdentity

def external (step : ExternalStep) : Run (Option Error) := ask (.external step)

def currentLease : Run (Option ETag) := ask .currentLease

def setLease (etag : ETag) : Run Unit := ask (.setLease etag)

def startRenewal : Run Unit := ask .startRenewal

def stopRenewal : Run Unit := ask .stopRenewal

def takeLeaseError : Run (Option Error) := ask .takeLeaseError

def abort (e : Error) : Run Unit := ask (.abort e)

/-! ## The lock -/

def lockError (category : ErrorCategory) (message : String) : Error :=
  ⟨category, "S3 lock", message⟩

def StoreError.isTimeout : StoreError → Bool
  | .timedOut | .cancelled => true
  | _ => false

def wrapS3Error {α : Type} (detached : Bool) (category : ErrorCategory) (operation message : String)
    (err : StoreError) : Run α := do
  let done ← contextErr detached
  if err.isTimeout ∨ done then fail ⟨.timeout, operation, message ++ ": operation timed out"⟩
  else fail ⟨category, operation, message⟩

/-- The category of a failed conditional write. -/
def writeFailure : StoreError → ErrorCategory
  | .conditionFailed => .conflict
  | _ => .precondition

/-- A written lock has to have an `ETag`. -/
def requireETag (message : String) : Option ETag → Run ETag
  | none => fail (lockError .conflict message)
  | some etag => pure etag

/-- `AcquireLock` once the lock is created: read it back. -/
def verifyCreated (holder : Text) (etag : ETag) : Run ETag := do
  let current ← readBackLock
  match current with
  | .error _ => fail (lockError .precondition "verify the freshly acquired lock")
  | .ok none => pure etag
  | .ok (some current) =>
    if current.lock.holder ≠ [] ∧ current.lock.holder ≠ holder then
      fail (lockError .conflict
        (s!"backup recovery point is locked by {String.ofList current.lock.holder} " ++
          "(backend ignored conditional write)"))
    else pure etag

/-- `AcquireLock` with an expired lock in the way. -/
def replaceExpired (expired : ETag) (lock : Lock) : Run ETag := do
  let written ← write (.replaceLock expired lock)
  match written with
  | .error e => wrapS3Error false (writeFailure e) "S3 lock" "replace expired backup lock" e
  | .ok etag => requireETag "S3 did not return an ETag for the replaced lock" etag

/-- `AcquireLock` after its creation failed with `err`. -/
def takeOver (bucket : Text) (lock : Lock) (err : StoreError) : Run ETag := do
  let current ← readLock
  match current with
  | .error .noSuchBucket =>
    fail (lockError .precondition s!"bucket {bucket.quote} does not exist")
  | .error e => wrapS3Error false .precondition "S3 lock" "acquire backup lock" e
  | .ok none =>
    wrapS3Error false .precondition "S3 lock"
      ("backend rejected atomic lock creation; verify PutObject If-None-Match support, " ++
        "encryption settings, and write permission") err
  | .ok (some current) => do
    let time ← now
    reject (time < current.lock.expiresAt)
      (lockError .conflict
        ("backup recovery point is locked by " ++ String.ofList current.lock.holder))
    replaceExpired current lock

/-- `(*Store).AcquireLock`. -/
def acquireLock (bucket holder : Text) (ttl : Int) : Run ETag := do
  reject (holder = [] ∨ ttl ≤ 0) (lockError .validation "holder and positive TTL are required")
  let time ← now
  let lock : Lock := ⟨holder, time + ttl⟩
  let created ← write (.createLock lock)
  match created with
  | .ok etag => do
    let etag ← requireETag "S3 did not return an ETag for the newly acquired lock" etag
    verifyCreated holder etag
  | .error err => takeOver bucket lock err

/-- `RenewLock` of the lock that was read. -/
def renewCurrent (current : ETag) (holder : Text) (ttl : Int) : Run ETag := do
  let time ← now
  let written ← write (.renewLock current ⟨holder, time + ttl⟩)
  match written with
  | .error e => wrapS3Error false (writeFailure e) "S3 lock" "renew backup lock" e
  | .ok etag => requireETag "S3 did not return an ETag for the renewed lock" etag

def ownershipChanged : Error := lockError .conflict "lock ownership changed before renewal"

/-- `(*Store).RenewLock`.  The `ETag` of the caller only has to be there: a renewal whose answer was
lost has left a newer one under the same holder. -/
def renewLock (holder : Text) (etag : Option ETag) (ttl : Int) : Run ETag := do
  reject (holder = [] ∨ etag = none ∨ ttl ≤ 0)
    (lockError .validation "holder, ETag, and positive TTL are required")
  let current ← readLock
  match current with
  | .error e => wrapS3Error false .precondition "S3 lock" "read lock before renewal" e
  | .ok none => fail ownershipChanged
  | .ok (some current) => do
    reject (current.lock.holder ≠ holder) ownershipChanged
    renewCurrent current holder ttl

/-- `(*Store).ReleaseLock`, on a context of its own. -/
def releaseLock : Option ETag → Run Unit
  | none => fail (lockError .conflict "lock ETag is required for conditional release")
  | some etag => do
    let deleted ← write (.deleteLock etag)
    match deleted with
    | .error e => wrapS3Error true (writeFailure e) "S3 lock" "release backup lock" e
    | .ok _ => pure ()

/-- `(*Store).PutManifest`. -/
def putManifest (services : Services) (config : Config) (manifest : Manifest) : Run Unit :=
  let manifest : Manifest :=
    { manifest with
      version := manifestVersion
      bucket := config.bucket
      prefixPath := config.prefixPath
      name := config.name }
  match validateManifest services manifest with
  | .error e => fail e
  | .ok _ => do
    let written ← write (.putManifest manifest)
    match written with
    | .error e =>
      wrapS3Error false .conflict "S3 manifest" "publish immutable completion manifest" e
    | .ok _ => pure ()

/-! ## The lease -/

def minute : Int := 60 * 1000000000

/-- `operationLockTTL`, with the time until the deadline of the context. -/
def operationLockTTL (helmTimeout : Int) (untilDeadline : Option Int) : Int :=
  let helmTimeout := if helmTimeout ≤ 0 then 30 * minute else helmTimeout
  let ttl := helmTimeout + 10 * minute
  match untilDeadline with
  | none => ttl
  | some left => if left + 10 * minute > ttl then left + 10 * minute else ttl

/-- `lockLease.renewNow`. -/
def renewNow (holder : Text) (ttl : Int) : Run Unit := do
  let etag ← currentLease
  let renewed ← renewLock holder etag ttl
  setLease renewed

/-- `lockRenewalAborts`, with the time since the last renewal. -/
def lockRenewalAborts (err : Error) (sinceRenewed ttl : Int) : Bool :=
  err.category = .conflict || sinceRenewed > ttl / 2

/-- One tick of `renewObjectStoreLock`. -/
def renewObjectStoreLock (holder : Text) (ttl lastRenewed : Int) : Run Unit :=
  (renewNow holder ttl).handle pure fun e => do
    let time ← now
    if lockRenewalAborts e (time - lastRenewed) ttl then abort e else pure ()

def classifyLeaseError {α : Type} (err : Error) : Run α := do
  let done ← contextErr false
  if err.category = .timeout ∨ done then
    fail ⟨.timeout, "backup", "S3 lock lease ended before the backup was published: " ++ err.error⟩
  else fail err

def checkObjectStoreLease : Run Unit := do
  let lost ← takeLeaseError
  match lost with
  | some e =>
    if e.category = .timeout then fail e
    else classifyLeaseError (lockError .conflict ("S3 lock ownership was lost: " ++ e.error))
  | none => do
    let done ← contextErr false
    if done then classifyLeaseError ⟨.timeout, "", "context canceled"⟩ else pure ()

/-! ## The transfer -/

/-- The arguments of a transfer, with the holder of its lock. -/
structure Request where
  services : Services
  config : Config
  holder : Text
  manifestID : Text
  sourceNamespace : Text
  sourcePVC : Text
  sourcePVCUID : Text
  sourcePV : Text
  sourcePVUID : Text
  path : Text
  online : Bool
  helmTimeout : Int
  /-- There is a locker for the Lease of the backup target. -/
  locked : Bool

namespace Request

variable (q : Request)

def require (step : ExternalStep) : Run Unit := do
  let failed ← external step
  match failed with
  | some e => fail e
  | none => pure ()

def orFail {α : Type} : Except Error α → Run α
  | .error e => fail e
  | .ok a => pure a

def verifyPVCIdentity : Run SourceVolume := do
  let answer ← inspectSource
  orFail answer

/-- `operationLockTTL` of the transfer now. -/
def ttl : Run Int := do
  let left ← untilDeadline
  pure (operationLockTTL q.helmTimeout left)

/-- `backupConsistency`. -/
def consistency : Text :=
  if q.online then "best-effort crash-consistent file copy".toList
  else "offline file-consistent copy".toList

variable (manifest : Manifest)

/-- The manifest is one of the plan and the session of the transfer. -/
def Matches : Prop :=
  manifest.sessionID = q.manifestID ∧ manifest.sourceNamespace = q.sourceNamespace ∧
    manifest.sourcePVC = q.sourcePVC ∧ manifest.sourcePVCUID = q.sourcePVCUID ∧
    manifest.sourcePV = q.sourcePV ∧ manifest.sourcePVUID = q.sourcePVUID ∧
    manifest.path = q.path ∧ manifest.consistency = q.consistency

instance : Decidable (q.Matches manifest) := by
  unfold Matches
  infer_instance

def validatePublishedBackup : Run Unit := do
  reject (q.manifestID = [])
    ⟨.validation, "backup resume", "published manifest and backup session are required"⟩
  reject (¬ q.Matches manifest)
    ⟨.conflict, "backup resume",
      "published completion manifest does not belong to this backup session"⟩
  require .verifyInventory

def alreadyPublished : Error :=
  ⟨.conflict, "backup",
    "S3 completion manifest already exists; use a new backup name to preserve the published " ++
      "recovery point"⟩

/-- What is done with the manifest that was read under the lock: `true` if the backup is
complete. -/
def checkPublished : Option Manifest → Run Bool
  | none => pure false
  | some manifest =>
    if q.manifestID ≠ [] then do
      q.validatePublishedBackup manifest
      pure true
    else fail alreadyPublished

/-- The transfer up to the point where its tool has a name. -/
def prepare : Run Bool := do
  let answer ← readManifest
  let manifest ← orFail answer
  let complete ← q.checkPublished manifest
  if complete then pure true
  else do
    let _ ← verifyPVCIdentity
    require .prepareTool
    pure false

def completionManifest (createdAt : Int) (source : SourceVolume) (inventory : Inventory) :
    Manifest where
  version := 0
  createdAt := createdAt
  bucket := []
  prefixPath := []
  name := []
  sessionID := q.manifestID
  path := q.path
  sourceNamespace := q.sourceNamespace
  sourcePVC := q.sourcePVC
  sourcePVCUID := source.pvcUID
  sourcePV := source.pvName
  sourcePVUID := source.pvUID
  capacity := source.capacity
  volumeMode := source.volumeMode.getD "Filesystem".toList
  consistency := q.consistency
  compression := "none".toList
  objectCount := inventory.objectCount
  totalBytes := inventory.totalBytes
  inventorySHA256 := inventory.sha256

def runTool : Run Unit := do
  startTool
  let failed ← awaitTool
  match failed with
  | none => pure ()
  | some e => do
    let lost ← takeLeaseError
    fail (lost.getD e)

/-- The transfer makes sure that it still holds the lock. -/
def confirmLease : Run Unit := do
  checkObjectStoreLease
  let ttl ← q.ttl
  (renewNow q.holder ttl).handle pure classifyLeaseError

/-- The transfer from the launch of its tool on. -/
def copyAndPublish : Run Unit := do
  require .toolRequest
  require .validateToolLaunch
  runTool
  q.confirmLease
  let source ← verifyPVCIdentity
  let answer ← takeInventory
  let inventory ← orFail answer
  q.confirmLease
  let time ← now
  putManifest q.services q.config (q.completionManifest time source inventory)

def errorOf (p : Run Unit) : Run (Option Error) :=
  p.handle (fun _ => pure none) fun e => pure (some e)

def releaseFailureLeavesPublishedBackup (err : Error) : Bool :=
  err.category = .conflict || err.category = .precondition || err.category = .timeout

variable (failed : Option Error) (named : Bool)

/-- `cleanupInterruptedTool`, if the transfer failed and its tool has a name. -/
def cleanupTool : Run (Option Error) :=
  if failed.isSome ∧ named then external .uninstallTool else pure none

/-- The release of the lock, and what its failure means. -/
def release (failed cleanup : Option Error) : Run (Option Error) := do
  let etag ← currentLease
  let released ← errorOf (releaseLock etag)
  match released with
  | none => pure cleanup
  | some e =>
    if failed = none ∧ releaseFailureLeavesPublishedBackup e then pure cleanup
    else pure (cleanup.or (some e))

def finalizeBackupOperation : Run (Option Error) := do
  let cleanup ← cleanupTool failed named
  if failed.isSome ∧ cleanup.isSome then pure cleanup else release failed cleanup

/-- The end of a transfer that got the lock: `failed` is its error, if there is one. -/
def finish : Run Unit := do
  stopRenewal
  let lost ← takeLeaseError
  let failed := failed.or lost
  let finalized ← finalizeBackupOperation failed named
  match failed.or finalized with
  | some e => fail e
  | none => pure ()

def transferTool : Run Unit := do
  let failed ← errorOf q.copyAndPublish
  finish failed true

def underLock : Run Unit :=
  q.prepare.handle (fun complete => if complete then finish none false else q.transferTool)
    fun e => finish (some e) false

/-- The transfer under the Lease of the backup target. -/
def transfer : Run Unit := do
  require .newSessionID
  let ttl ← q.ttl
  let etag ← acquireLock q.config.bucket q.holder ttl
  setLease etag
  startRenewal
  q.underLock

/-- The end of a transfer that got the Lease of the backup target. -/
def finishTarget : Run Unit := do
  let lost ← external .targetLockErr
  let kept ← external .deleteTarget
  match failed.or (lost.or kept) with
  | some e => fail e
  | none => pure ()

/-- The transfer, with the Lease of the backup target. -/
def lockedTransfer : Run Unit := do
  require .acquireTarget
  let failed ← errorOf q.transfer
  finishTarget failed

/-- `(*backupTransfer).run`. -/
def run : Run Unit := if q.locked then q.lockedTransfer else q.transfer

end Request

/-! ## What the calls do -/

/-- What an attempt has achieved with a call. -/
inductive Event
  /-- `AcquireLock` succeeds. -/
  | acquired
  /-- `RenewLock` succeeds. -/
  | renewed
  | toolStarted
  | inventoried
  /-- The completion manifest is written. -/
  | published
  | other
  deriving DecidableEq

/-- A call in the history: the attempt that made it, what it achieved, and who the lock names
then. -/
structure Entry (ι : Type) where
  attempt : ι
  event : Event
  holder : Option Text
  deriving DecidableEq

/-- The recovery point, the attempts' own variables, the requests under way without a caller, and
the calls so far, the newest first. -/
structure World (ι : Type) where
  lock : Option ETag
  manifest : Option Manifest
  lease : ι → Option ETag
  renewing : ι → Bool
  /-- The context of the attempt has ended. -/
  done : ι → Bool
  leaseErrors : ι → Option Error
  pending : List (ι × Write)
  history : List (Entry ι)

namespace World

variable {ι : Type} [DecidableEq ι] (w : World ι)

def holder : Option Text := w.lock.map fun etag => etag.lock.holder

/-- The recovery point after a request that meets its condition. -/
def apply (version : Nat) : Write → Option (World ι)
  | .createLock lock => if w.lock = none then some { w with lock := some ⟨lock, version⟩ } else none
  | .replaceLock etag lock | .renewLock etag lock =>
    if w.lock = some etag then some { w with lock := some ⟨lock, version⟩ } else none
  | .deleteLock etag =>
    -- `ReleaseLock` takes a missing lock for a released one.
    if w.lock = none then some w
    else if w.lock = some etag then some { w with lock := none }
    else none
  | .putManifest manifest =>
    match w.manifest with
    | none => some { w with manifest := some manifest }
    | some _ => none

def cancel (a : ι) : World ι := { w with done := Function.update w.done a true }

def log (entry : Entry ι) : World ι := { w with history := entry :: w.history }

end World

/-- The requests that are made on a context of their own. -/
def Write.detached : Write → Bool
  | .deleteLock _ => true
  | _ => false

variable {ι : Type} [DecidableEq ι]

/-- A request that the store has not answered has not taken effect, has done so, or is under way. -/
def Unanswered (a : ι) (w : World ι) (version : Nat) (request : Write) (w' : World ι) : Prop :=
  w' = w ∨ w.apply version request = some w' ∨
    w' = { w with pending := (a, request) :: w.pending }

/-- What a call of an attempt answers, and what it does. -/
inductive Answered (a : ι) (w : World ι) : (op : Op) → Reply op → World ι → Prop
  | now {time : Int} : Answered a w .now time w
  | untilDeadline {left : Option Int} : Answered a w .untilDeadline left w
  | written {request : Write} {version : Nat} {etag : Option ETag} {w' : World ι} :
      request.detached ∨ w.done a = false → w.apply version request = some w' →
      (etag = none ∨ etag = w'.lock) → Answered a w (.write request) (.ok etag) w'
  | refused {request : Write} {version : Nat} : request.detached ∨ w.done a = false →
      w.apply version request = none → Answered a w (.write request) (.error .conditionFailed) w
  | noBucket {request : Write} : request.detached ∨ w.done a = false →
      Answered a w (.write request) (.error .noSuchBucket) w
  | failed {request : Write} {version : Nat} {e : StoreError} {w' : World ι} :
      request.detached ∨ w.done a = false → e = .timedOut ∨ e = .unavailable →
      Unanswered a w version request w' → Answered a w (.write request) (.error e) w'
  | cancelled {request : Write} {version : Nat} {w' : World ι} :
      Unanswered a w version request w' →
      Answered a w (.write request) (.error .cancelled) (w'.cancel a)
  | readLock : w.done a = false → Answered a w .readLock (.ok w.lock) w
  | readLockFailed {e : StoreError} {w' : World ι} : w' = w ∨ w' = w.cancel a →
      Answered a w .readLock (.error e) w'
  | readBackLock : w.done a = false → Answered a w .readBackLock (.ok w.lock) w
  | readBackLockFailed {e : StoreError} {w' : World ι} : w' = w ∨ w' = w.cancel a →
      Answered a w .readBackLock (.error e) w'
  | readManifest : Answered a w .readManifest (.ok w.manifest) w
  | readManifestFailed {e : Error} : Answered a w .readManifest (.error e) w
  | inventory {answer : Except Error Inventory} : Answered a w .inventory answer w
  | startTool : Answered a w .startTool () w
  | awaitTool {failed : Option Error} : Answered a w .awaitTool failed w
  | verifyPVCIdentity {answer : Except Error SourceVolume} :
    Answered a w .verifyPVCIdentity answer w
  | external {step : ExternalStep} {failed : Option Error} : Answered a w (.external step) failed w
  | contextErr {detached ended : Bool} {w' : World ι} : w' = w ∨ w' = w.cancel a →
      Answered a w (.contextErr detached) ended w'
  | currentLease : Answered a w .currentLease (w.lease a) w
  | setLease {etag : ETag} :
      Answered a w (.setLease etag) () { w with lease := Function.update w.lease a (some etag) }
  | startRenewal :
      Answered a w .startRenewal () { w with renewing := Function.update w.renewing a true }
  | stopRenewal :
      Answered a w .stopRenewal () { w with renewing := Function.update w.renewing a false }
  | takeLeaseError :
      Answered a w .takeLeaseError (w.leaseErrors a)
        { w with leaseErrors := Function.update w.leaseErrors a none }
  | abort {e : Error} :
      Answered a w (.abort e) ()
        ({ w with leaseErrors := Function.update w.leaseErrors a (some e) }.cancel a)

/-- What the answer to a call means for the holder of a lock. -/
def outcome (holder : Text) : (op : Op) → Reply op → Event
  | .readBackLock, .ok none => .acquired
  | .readBackLock, .ok (some current) =>
    if current.lock.holder ≠ [] ∧ current.lock.holder ≠ holder then .other else .acquired
  | .write (.replaceLock _ _), .ok (some _) => .acquired
  | .write (.renewLock _ _), .ok (some _) => .renewed
  | .startTool, _ => .toolStarted
  | .inventory, .ok _ => .inventoried
  | _, _ => .other

/-- The event of a call that leads from the first world to the second. -/
def event (holder : Text) (op : Op) (r : Reply op) (w w' : World ι) : Event :=
  if w.manifest.isNone ∧ w'.manifest.isSome then .published else outcome holder op r

/-- What a call of an attempt whose lock names `holder` can do. -/
def Observed (holder : Text) (a : ι) (w : World ι) (op : Op) (r : Reply op) (w' : World ι) : Prop :=
  ∃ after, Answered a w op r after ∧ w' = after.log ⟨a, event holder op r w after, after.holder⟩

end Backup

end PvcMigrate
