import Halcyon.Lib.Transition
import Mathlib.Data.Finset.Basic

/-!
# The storage backend of the asset server

`VFSBackend` works on two threads.  Requests arrive on the thread of the I/O service, which keeps
the existence index, the set of all ids the server knows to be stored; what needs the disk is
put in the work queue.  A worker takes the requests from the queue in order, works on the disk, and
posts its results back as handlers, which the I/O thread runs.

The disk is modelled by what can be read from it: the ids of the two databases (globals and
locals) of all directories.  How an operation of the worker ends is part of the event: it
succeeds, or an exception of one of the three kinds that `performDiskWrite` and `workLoop`
distinguish is thrown before anything is recorded.  Handlers are run in any order.  Callbacks have
numbers, given in the order of the requests, and three members record what happened:
the stores that were accepted for the disk, the answers they got, and the ids that a purge of
local assets has listed and that were not written since.
-/

namespace Halcyon.Whip

variable {Id : Type} [DecidableEq Id]

/-- An asset to store; whether it is local decides which database it goes to. -/
structure Asset (Id : Type) where
  uuid : Id
  isLocal : Bool
  deriving DecidableEq

/-- The requests of `VFSQueueTypes.cpp`.  A directory is named by the number that the first hex
digits of the ids in it make. -/
inductive AssetRequest (Id : Type)
  | get (assetId : Id) (callback : Nat)
  | put (asset : Asset Id) (callback : Nat)
  | purge (assetId : Id) (callback : Nat)
  | purgeLocals (uuidHead : Nat)
  | deleteLocalStorage (uuidHead : Nat)
  | collectStatus (callback : Nat)
  | getStoredAssetIds (uuidHead : Nat) (callback : Nat)
  deriving DecidableEq

/-- The handlers posted to the I/O service. -/
inductive Handler (Id : Type)
  | getCallback (callback : Nat) (found : Bool)
  | storeCallback (callback : Nat) (assetId : Id) (success : Bool)
  | completedCallback (callback : Nat)
  | assetWriteFailed (assetId : Id)
  | ioLoopFailed
  | unindexLocals (uuidList : Finset Id) (uuidHead : Nat)
  deriving DecidableEq

/-- How an operation of the worker ends. -/
inductive DiskOutcome
  | success
  /-- An `AssetStorageError`: no directory, an index file that cannot be opened. -/
  | storageError
  /-- Any other `std::exception`. -/
  | stdException
  /-- Something else that is thrown. -/
  | otherException
  deriving DecidableEq

/-- The backend with its disk. -/
structure VFSBackend (Id : Type) where
  existenceIndex : Finset Id
  globalDB : Finset Id
  localDB : Finset Id
  workQueue : List (AssetRequest Id)
  posted : List (Handler Id)
  isPurgingLocals : Bool
  currentLocalsPurgeIndex : Nat
  nextCallback : Nat
  /-- The stores that went to the work queue, the latest first. -/
  accepted : List (Nat × Id)
  /-- The answers given to stores. -/
  answers : List (Nat × Id × Bool)
  /-- The ids that a purge has listed since they were last written to the locals. -/
  listed : Finset Id

namespace VFSBackend

/-- A server at its start: `ExistenceIndex` is built from the index files. -/
def start (globalDB localDB : Finset Id) : VFSBackend Id where
  existenceIndex := globalDB ∪ localDB
  globalDB := globalDB
  localDB := localDB
  workQueue := []
  posted := []
  isPurgingLocals := false
  currentLocalsPurgeIndex := 0
  nextCallback := 0
  accepted := []
  answers := []
  listed := ∅

/-- Nothing is waiting to be done. -/
def Quiescent (s : VFSBackend Id) : Prop :=
  s.workQueue = [] ∧ s.posted = []

/-- What can be read from the disk. -/
def Readable (s : VFSBackend Id) (id : Id) : Prop :=
  id ∈ s.globalDB ∨ id ∈ s.localDB

instance (s : VFSBackend Id) (id : Id) : Decidable (s.Readable id) :=
  inferInstanceAs (Decidable (_ ∨ _))

/-- `_workQueue.push_back`. -/
def enqueue (req : AssetRequest Id) (s : VFSBackend Id) : VFSBackend Id :=
  { s with workQueue := s.workQueue ++ [req] }

/-- `_ioService.post`. -/
def post (hs : List (Handler Id)) (s : VFSBackend Id) : VFSBackend Id :=
  { s with posted := s.posted ++ hs }

/-- A number for the callback of a new request. -/
def numbered (s : VFSBackend Id) : VFSBackend Id :=
  { s with nextCallback := s.nextCallback + 1 }

/-! ## Requests -/

/-- `storeAsset`: the id is in the index before the asset is written. -/
def storeAsset (asset : Asset Id) (s : VFSBackend Id) : VFSBackend Id :=
  if asset.uuid ∈ s.existenceIndex then
    (s.post [.storeCallback s.nextCallback asset.uuid false]).numbered
  else
    ({ s with
        existenceIndex := insert asset.uuid s.existenceIndex
        accepted := (s.nextCallback, asset.uuid) :: s.accepted }.enqueue
      (.put asset s.nextCallback)).numbered

/-- `getAsset`. -/
def getAsset (uuid : Id) (s : VFSBackend Id) : VFSBackend Id :=
  if uuid ∈ s.existenceIndex then
    (s.enqueue (.get uuid s.nextCallback)).numbered
  else
    (s.post [.getCallback s.nextCallback false]).numbered

/-- `purgeAsset`. -/
def purgeAsset (uuid : Id) (s : VFSBackend Id) : VFSBackend Id :=
  (s.enqueue (.purge uuid s.nextCallback)).numbered

/-- `getStatus`. -/
def getStatus (s : VFSBackend Id) : VFSBackend Id :=
  (s.enqueue (.collectStatus s.nextCallback)).numbered

/-- `getStoredAssetIDsWithPrefix`. -/
def getStoredAssetIDsWithPrefix (uuidHead : Nat) (s : VFSBackend Id) : VFSBackend Id :=
  (s.enqueue (.getStoredAssetIds uuidHead s.nextCallback)).numbered

/-- `beginPurgeLocals`. -/
def beginPurgeLocals (s : VFSBackend Id) : VFSBackend Id :=
  if s.isPurgingLocals then s
  else { s with isPurgingLocals := true, currentLocalsPurgeIndex := 0 }

/-- `onPurgeTimer` without an error: the next directory is queued, up to the last one. -/
def onPurgeTimer (s : VFSBackend Id) : VFSBackend Id :=
  { s.enqueue (.purgeLocals s.currentLocalsPurgeIndex) with
    currentLocalsPurgeIndex := s.currentLocalsPurgeIndex + 1
    isPurgingLocals := decide (s.currentLocalsPurgeIndex + 1 ≤ 0xFFF) }

/-! ## The worker -/

/-- `DatabaseSet::storeAsset` and `VFSDatabase::storeAsset` on an id that is not in the database
yet. -/
def write (asset : Asset Id) (s : VFSBackend Id) : VFSBackend Id :=
  if asset.isLocal then
    { s with localDB := insert asset.uuid s.localDB, listed := s.listed.erase asset.uuid }
  else { s with globalDB := insert asset.uuid s.globalDB }

/-- The database an asset belongs to has it already. -/
def assetExists (asset : Asset Id) (s : VFSBackend Id) : Bool :=
  if asset.isLocal then decide (asset.uuid ∈ s.localDB) else decide (asset.uuid ∈ s.globalDB)

/-- `performDiskWrite`, with the `catch` clauses of `workLoop` behind its own. -/
def performDiskWrite (asset : Asset Id) (callback : Nat) (outcome : DiskOutcome)
    (s : VFSBackend Id) : VFSBackend Id :=
  match outcome with
  | .success =>
    -- an asset that exists is an `AssetStorageError` of the database
    if s.assetExists asset then s.post [.storeCallback callback asset.uuid false]
    else (s.write asset).post [.storeCallback callback asset.uuid true]
  | .storageError => s.post [.storeCallback callback asset.uuid false]
  | .stdException =>
    s.post [.assetWriteFailed asset.uuid, .storeCallback callback asset.uuid false]
  | .otherException => s.post [.ioLoopFailed]

/-- `performDiskRead`. -/
def performDiskRead (assetId : Id) (callback : Nat) (outcome : DiskOutcome)
    (s : VFSBackend Id) : VFSBackend Id :=
  match outcome with
  | .success => s.post [.getCallback callback (decide (s.Readable assetId))]
  | .storageError | .stdException => s.post [.getCallback callback false]
  | .otherException => s.post [.ioLoopFailed]

variable (head : Id → Nat)

/-- The local assets of a directory. -/
def localsOf (uuidHead : Nat) (s : VFSBackend Id) : Finset Id :=
  s.localDB.filter fun id => head id = uuidHead

/-- `performDiskPurgeLocals`; a missing index file lists nothing. -/
def performDiskPurgeLocals (uuidHead : Nat) (outcome : DiskOutcome) (s : VFSBackend Id) :
    VFSBackend Id :=
  match outcome with
  | .success =>
    { s with listed := s.listed ∪ s.localsOf head uuidHead }.post
      [.unindexLocals (s.localsOf head uuidHead) uuidHead]
  | _ => s.post [.ioLoopFailed]

/-- `performLocalsPhysicalDeletion`. -/
def performLocalsPhysicalDeletion (uuidHead : Nat) (outcome : DiskOutcome) (s : VFSBackend Id) :
    VFSBackend Id :=
  match outcome with
  | .success => { s with localDB := s.localDB \ s.localsOf head uuidHead }
  | _ => s.post [.ioLoopFailed]

/-- `performGetStatus` and `performGetStoredAssetIds`. -/
def performReport (callback : Nat) (outcome : DiskOutcome) (s : VFSBackend Id) : VFSBackend Id :=
  match outcome with
  | .success => s.post [.completedCallback callback]
  | _ => s.post [.ioLoopFailed]

/-- `AssetRequest::processRequest`; `performDiskPurge` is empty. -/
def processRequest (req : AssetRequest Id) (outcome : DiskOutcome) (s : VFSBackend Id) :
    VFSBackend Id :=
  match req with
  | .get assetId callback => s.performDiskRead assetId callback outcome
  | .put asset callback => s.performDiskWrite asset callback outcome
  | .purge _ _ => s
  | .purgeLocals uuidHead => s.performDiskPurgeLocals head uuidHead outcome
  | .deleteLocalStorage uuidHead => s.performLocalsPhysicalDeletion head uuidHead outcome
  | .collectStatus callback => s.performReport callback outcome
  | .getStoredAssetIds _ callback => s.performReport callback outcome

/-- One turn of `workLoop`. -/
def work (outcome : DiskOutcome) (s : VFSBackend Id) : Option (VFSBackend Id) :=
  match s.workQueue with
  | [] => none
  | req :: rest => some ({ s with workQueue := rest }.processRequest head req outcome)

/-! ## The handlers -/

/-- A handler on the I/O thread. -/
def handle (h : Handler Id) (s : VFSBackend Id) : VFSBackend Id :=
  match h with
  | .getCallback _ _ | .completedCallback _ | .ioLoopFailed => s
  | .storeCallback callback assetId success =>
    { s with answers := (callback, assetId, success) :: s.answers }
  | .assetWriteFailed assetId => { s with existenceIndex := s.existenceIndex.erase assetId }
  | .unindexLocals uuidList uuidHead =>
    { s with existenceIndex := s.existenceIndex \ uuidList }.enqueue (.deleteLocalStorage uuidHead)

/-- Runs one of the posted handlers. -/
def runHandler (i : Nat) (s : VFSBackend Id) : Option (VFSBackend Id) :=
  s.posted[i]?.map fun h => { s with posted := s.posted.eraseIdx i }.handle h

/-- What can happen to a backend. -/
inductive Event (Id : Type)
  | storeAsset (asset : Asset Id)
  | getAsset (uuid : Id)
  | purgeAsset (uuid : Id)
  | getStatus
  | getStoredAssetIDs (uuidHead : Nat)
  | beginPurgeLocals
  | onPurgeTimer
  | work (outcome : DiskOutcome)
  | handler (i : Nat)

/-- One event. -/
def step (s : VFSBackend Id) : Event Id → Option (VFSBackend Id)
  | .storeAsset asset => some (s.storeAsset asset)
  | .getAsset uuid => some (s.getAsset uuid)
  | .purgeAsset uuid => some (s.purgeAsset uuid)
  | .getStatus => some s.getStatus
  | .getStoredAssetIDs uuidHead => some (s.getStoredAssetIDsWithPrefix uuidHead)
  | .beginPurgeLocals => some s.beginPurgeLocals
  | .onPurgeTimer => if s.isPurgingLocals then some s.onPurgeTimer else none
  | .work outcome => s.work head outcome
  | .handler i => s.runHandler i

end VFSBackend

end Halcyon.Whip
