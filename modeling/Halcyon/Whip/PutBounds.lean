import Halcyon.Whip.Authenticated
import Halcyon.Whip.VFSDatabase

/-!
# The bytes of a put

The data of a put has the length that the client has announced.  On its way from the network to the
disk several functions read from it, at fixed offsets: the id, which is its first 32 bytes, the type
behind it, and the flag behind that.  An access outside of the data is undefined.

`PutM` are computations that record every access before it is made; one outside ends the
computation, since nothing can be said about what follows.  `handleAssetDataRead` is the way of a
put: it is validated, put in the existence index and the work queue, and written to a database and
its index.

No function compares the length with anything.  A put of fewer than 32 bytes is read beyond its end
before it can be refused, and one of 32 or 33 bytes when the flag is read, unless it is refused
before.
-/

namespace Halcyon.Whip

open Halcyon.Lib

/-! ## Accesses -/

/-- An access to a range of bytes. -/
structure Access where
  offset : Nat
  length : Nat
  deriving DecidableEq

/-- The access lies inside the data. -/
def Access.Inside (data : Bytes) (a : Access) : Prop := a.offset + a.length ≤ data.length

/-- What is thrown while an asset is stored, with its message. -/
inductive StoreException
  | assetStorageError (what : Bytes)
  | stdException (what : Bytes)
  deriving DecidableEq

/-- How the handling of a put ends early. -/
inductive PutEnd
  /-- An access was outside of the data. -/
  | undefined
  /-- The request is refused, and the message is sent to the client. -/
  | refused (e : StoreException)
  deriving DecidableEq

/-- Computations that record their accesses. -/
abbrev PutM := EStateM PutEnd (List Access)

def access (data : Bytes) (offset length : Nat) : PutM Bytes := do
  modify fun accesses => accesses ++ [⟨offset, length⟩]
  if offset + length ≤ data.length then return (data.drop offset).take length
  else throw .undefined

/-- `Asset::getUUID`. -/
def readUUID (asset : Bytes) : PutM Bytes := access asset 0 32

/-- `Asset::getType`. -/
def readType (asset : Bytes) : PutM Bytes := access asset 32 1

/-- `Asset::isLocal`. -/
def readIsLocal (asset : Bytes) : PutM Bool := do
  let flag ← access asset 33 1
  return flag = [1]

/-- All of the data, as it is written to the data file. -/
def readData (asset : Bytes) : PutM Bytes := access asset 0 asset.length

/-! ## Storing -/

/-- The bytes of a message. -/
def bytesOf (s : String) : Bytes := s.toUTF8.data.toList

/-- The message for an asset that is there. -/
def alreadyExists (uuid : Bytes) : StoreException :=
  .assetStorageError (bytesOf "Unable to store asset " ++ uuid ++ bytesOf ", asset already exists")

/-- An operation on the data file; it throws an `AssetStorageError` if it fails. -/
def onDisk {α : Type} (r : EStateM.Result String (Option Bytes) α) : PutM (α × Option Bytes) :=
  match r with
  | .ok a file => return (a, file)
  | .error e _ => throw (.refused (.assetStorageError (bytesOf e)))

/-- `DataFile::writeNewAsset`. -/
def writeNewAsset (faults : Faults) (asset : Bytes) (db : VFSDatabase) :
    PutM (Nat × Option Bytes) := do
  let (pos, file) ← onDisk ((DataFile.grabPosition db.filePath faults).run db.file)
  if asset.length ≥ 2 ^ 32 then
    throw (.refused (.stdException (bytesOf "bad numeric conversion: positive overflow")))
  let (_, file) ← onDisk ((PosixDataFileImpl.write db.filePath (htonl asset.length)
    faults.sizeField).run file)
  let data ← readData asset
  let (_, file) ← onDisk ((PosixDataFileImpl.write db.filePath data faults.data).run file)
  return (pos, file)

/-- `SQLiteIndexFile::recordAssetPosition`; the id and the type are part of the query. -/
def recordAssetPosition (faults : Faults) (asset : Bytes) (position : Nat) (db : VFSDatabase) :
    PutM VFSDatabase := do
  let _ ← readUUID asset
  let _ ← readType asset
  match db.recordAssetPosition asset position faults.recordFails with
  | .ok db => return db
  | .error e => throw (.refused (.stdException (bytesOf e)))

/-- `VFSDatabase::storeAsset`. -/
def storeInDatabase (faults : Faults) (asset : Bytes) (db : VFSDatabase) : PutM VFSDatabase := do
  let uuid ← readUUID asset
  if db.assetExists uuid then
    let uuid ← readUUID asset
    throw (.refused (alreadyExists uuid))
  else
    let (position, file) ← writeNewAsset faults asset db
    recordAssetPosition faults asset position { db with file := file }

/-- The state of the storage when a put arrives, and what goes wrong while it is stored. -/
structure PutSite where
  /-- The ids of the existence index. -/
  existenceIndex : List Bytes
  /-- How often the status of the work queue is reported while the put is in it. -/
  reports : Nat
  /-- What is thrown when the directory and the databases of the id are opened. -/
  openError : Option StoreException
  globalDB : VFSDatabase
  localDB : VFSDatabase
  faults : Faults
  cacheEnabled : Bool

namespace PutSite

/-- The existence index is asked by comparing the id with those in it. -/
local instance decidableIndexed (uuid : Bytes) (index : List Bytes) : Decidable (uuid ∈ index) :=
  decidable_of_iff (∃ known ∈ index, known = uuid) (by simp)

/-- `DatabaseSet::storeAsset`. -/
def storeInSet (site : PutSite) (asset : Bytes) : PutM VFSDatabase := do
  let isLocal ← readIsLocal asset
  if isLocal then storeInDatabase site.faults asset site.localDB
  else storeInDatabase site.faults asset site.globalDB

/-- `VFSBackend::storeAsset` of the worker. -/
def storeOnDisk (site : PutSite) (asset : Bytes) : PutM VFSDatabase := do
  let _ ← readUUID asset
  match site.openError with
  | some e => throw (.refused e)
  | none => site.storeInSet asset

/-- The handlers of `performDiskWrite`. -/
def writeFailed (asset : Bytes) : PutEnd → PutM VFSDatabase
  | .refused (.stdException what) => do
    let _ ← readUUID asset
    throw (.refused (.stdException what))
  | e => throw e

/-- `performDiskWrite`. -/
def performDiskWrite (site : PutSite) (asset : Bytes) : PutM VFSDatabase :=
  tryCatch (site.storeOnDisk asset) (writeFailed asset)

/-- `AssetPutRequest::getDescription`, once for each report. -/
def describe (asset : Bytes) : Nat → PutM Unit
  | 0 => return ()
  | n + 1 => do
    let _ ← readUUID asset
    describe asset n

/-- `VFSBackend::storeAsset`: the existence index is asked and told, and the put goes through the
work queue. -/
def storeAsset (site : PutSite) (asset : Bytes) : PutM VFSDatabase := do
  let uuid ← readUUID asset
  if uuid ∈ site.existenceIndex then
    let uuid ← readUUID asset
    throw (.refused (alreadyExists uuid))
  else
    let _ ← readUUID asset
    describe asset site.reports
    site.performDiskWrite asset

end PutSite

/-- A put: its header, and data of the length that the header announces. -/
structure PutRequest where
  header : Bytes
  data : Bytes
  announced : data.length = getDataSize header

namespace PutRequest

/-- `handleAssetDataRead`, up to the response.  When the store has succeeded, the cache is told. -/
def handleAssetDataRead (site : PutSite) (put : PutRequest) : PutM VFSDatabase := do
  let uuid ← readUUID put.data
  if isValidUUID uuid then
    let db ← site.storeAsset put.data
    if site.cacheEnabled then
      let _ ← readUUID put.data
      return db
    else
      return db
  else throw (.refused (.stdException (invalidUUIDMessage (getUUID put.header))))

end PutRequest

/-! ## Computations that stay inside -/

/-- All accesses lie inside the data. -/
def AllInside (data : Bytes) (accesses : List Access) : Prop := ∀ a ∈ accesses, a.Inside data

/-- All accesses of a computation lie inside the data. -/
def Stays {α : Type} (data : Bytes) (x : PutM α) : Prop :=
  ∀ accesses, AllInside data accesses →
    Leaves (AllInside data) (fun _ => AllInside data) x accesses

section Stays

variable {α β : Type} {data : Bytes} {x : PutM α}

lemma Stays.bind {f : α → PutM β} (h : Stays data x) (hf : ∀ a, Stays data (f a)) :
    Stays data (x >>= f) := fun accesses hin =>
  (h accesses hin).bind fun a accesses' hin' => hf a accesses' hin'

lemma stays_pure (a : α) : Stays data (pure a : PutM α) := fun _ hin => leaves_pure hin

lemma stays_throw (e : PutEnd) : Stays data (throw e : PutM α) := fun _ hin => leaves_throw hin

/-- A test, and what is done unless it fails. -/
lemma stays_unless {c : Prop} [Decidable c] {e : PutEnd} {f : PUnit → PutM β}
    (hf : Stays data (f ⟨⟩)) : Stays data (if c then throw e >>= f else f ⟨⟩) := fun _ hin =>
  leaves_unless hin fun _ => hf _ hin

lemma Stays.tryCatch {f : PutEnd → PutM α} (h : Stays data x) (hf : ∀ e, Stays data (f e)) :
    Stays data (tryCatch x f) := fun accesses hin =>
  (h accesses hin).tryCatch fun e accesses' hin' => hf e accesses' hin'

/-- An access inside of the data. -/
lemma access_inside {offset length : Nat} (h : offset + length ≤ data.length)
    (accesses : List Access) :
    access data offset length accesses =
      .ok ((data.drop offset).take length) (accesses ++ [⟨offset, length⟩]) := by
  have hunfold : access data offset length accesses =
      (if offset + length ≤ data.length then pure ((data.drop offset).take length)
        else throw PutEnd.undefined : PutM Bytes) (accesses ++ [⟨offset, length⟩]) := rfl
  rw [hunfold, if_pos h]
  rfl

/-- An access outside of it. -/
lemma access_outside {offset length : Nat} (h : ¬ offset + length ≤ data.length)
    (accesses : List Access) :
    access data offset length accesses = .error .undefined (accesses ++ [⟨offset, length⟩]) := by
  have hunfold : access data offset length accesses =
      (if offset + length ≤ data.length then pure ((data.drop offset).take length)
        else throw PutEnd.undefined : PutM Bytes) (accesses ++ [⟨offset, length⟩]) := rfl
  rw [hunfold, if_neg h]
  rfl

lemma stays_access {offset length : Nat} (h : offset + length ≤ data.length) :
    Stays data (access data offset length) := by
  intro accesses hin
  rw [Leaves, access_inside h]
  intro a ha
  obtain ha | ha := List.mem_append.mp ha
  · exact hin a ha
  · rw [List.mem_singleton.mp ha]
    exact h

lemma stays_onDisk (r : EStateM.Result String (Option Bytes) α) : Stays data (onDisk r) := by
  cases r with
  | ok a file => exact stays_pure _
  | error e file => exact stays_throw _

end Stays

/-! ## A put that is long enough -/

section Long

variable {asset : Bytes}

lemma stays_readUUID (h : 32 ≤ asset.length) : Stays asset (readUUID asset) :=
  stays_access (by omega)

lemma stays_writeNewAsset (faults : Faults) (db : VFSDatabase) :
    Stays asset (writeNewAsset faults asset db) := by
  refine (stays_onDisk _).bind fun r => stays_unless ((stays_onDisk _).bind fun r => ?_)
  have hall : 0 + asset.length ≤ asset.length := Nat.le_of_eq (Nat.zero_add _)
  exact (stays_access hall).bind fun data => (stays_onDisk _).bind fun r => stays_pure _

lemma stays_recordAssetPosition (h : 34 ≤ asset.length) (faults : Faults) (position : Nat)
    (db : VFSDatabase) : Stays asset (recordAssetPosition faults asset position db) := by
  refine (stays_readUUID (by omega)).bind fun _ => ?_
  refine (stays_access (by omega)).bind fun _ => ?_
  split
  · exact stays_pure _
  · exact stays_throw _

lemma stays_storeInDatabase (h : 34 ≤ asset.length) (faults : Faults) (db : VFSDatabase) :
    Stays asset (storeInDatabase faults asset db) := by
  refine (stays_readUUID (by omega)).bind fun uuid => ?_
  split
  · exact (stays_readUUID (by omega)).bind fun _ => stays_throw _
  · exact (stays_writeNewAsset faults db).bind fun r => stays_recordAssetPosition h faults _ _

namespace PutSite

variable (site : PutSite)

lemma stays_storeOnDisk (h : 34 ≤ asset.length) : Stays asset (site.storeOnDisk asset) := by
  refine (stays_readUUID (by omega)).bind fun _ => ?_
  split
  · exact stays_throw _
  · refine ((stays_access (by omega)).bind fun _ => stays_pure _).bind fun isLocal => ?_
    split
    · exact stays_storeInDatabase h _ _
    · exact stays_storeInDatabase h _ _

lemma stays_writeFailed (h : 32 ≤ asset.length) (e : PutEnd) : Stays asset (writeFailed asset e) := by
  unfold writeFailed
  split
  · exact (stays_readUUID h).bind fun _ => stays_throw _
  · exact stays_throw _

lemma stays_describe (h : 32 ≤ asset.length) (n : Nat) : Stays asset (describe asset n) := by
  induction n with
  | zero => exact stays_pure _
  | succ n ih => exact (stays_readUUID h).bind fun _ => ih

lemma stays_storeAsset (h : 34 ≤ asset.length) : Stays asset (site.storeAsset asset) := by
  have huuid : Stays asset (readUUID asset) := stays_readUUID (by omega)
  refine huuid.bind fun uuid => ?_
  split
  · exact huuid.bind fun _ => stays_throw _
  · refine huuid.bind fun _ => (stays_describe (by omega) _).bind fun _ => ?_
    exact (site.stays_storeOnDisk h).tryCatch fun e => stays_writeFailed (by omega) e

end PutSite

lemma PutRequest.stays_handleAssetDataRead (site : PutSite) (put : PutRequest)
    (h : 34 ≤ put.data.length) : Stays put.data (put.handleAssetDataRead site) := by
  have huuid : Stays put.data (readUUID put.data) := stays_readUUID (by omega)
  refine huuid.bind fun uuid => ?_
  split
  · refine (site.stays_storeAsset h).bind fun db => ?_
    split
    · exact huuid.bind fun _ => stays_pure _
    · exact stays_pure _
  · exact stays_throw _

end Long

/-! ## The same store -/

section Agreement

variable {asset : Bytes}

lemma readUUID_eq (h : 32 ≤ asset.length) (accesses : List Access) :
    readUUID asset accesses = .ok (assetUUID asset) (accesses ++ [⟨0, 32⟩]) :=
  access_inside (by omega) accesses

lemma onDisk_ok {α : Type} {x : FileM α} {file file' : Option Bytes} {a : α}
    (h : x file = .ok a file') (accesses : List Access) :
    onDisk (x.run file) accesses = .ok (a, file') accesses := by
  rw [EStateM.run, h]
  rfl

lemma onDisk_error {α : Type} {x : FileM α} {file file' : Option Bytes} {e : String}
    (h : x file = .error e file') (accesses : List Access) :
    onDisk (x.run file) accesses =
      .error (.refused (.assetStorageError (bytesOf e))) accesses := by
  rw [EStateM.run, h]
  rfl

/-- With the accesses left out, the file is written as `DataFile.writeNewAsset` says. -/
lemma writeNewAsset_agrees (hlen : asset.length < 2 ^ 32) (faults : Faults) (db : VFSDatabase)
    (accesses : List Access) :
    match DataFile.writeNewAsset db.filePath faults asset db.file with
    | .ok position file => ∃ accesses',
        writeNewAsset faults asset db accesses = .ok (position, file) accesses'
    | .error e _ => ∃ accesses', writeNewAsset faults asset db accesses =
        .error (.refused (.assetStorageError (bytesOf e))) accesses' := by
  have hfits : ¬ asset.length ≥ 2 ^ 32 := by omega
  have hread : readData asset accesses = .ok asset (accesses ++ [⟨0, asset.length⟩]) := by
    have hinside := access_inside (Nat.le_of_eq (Nat.zero_add asset.length)) accesses
    rwa [List.drop_zero, List.take_length] at hinside
  rw [DataFile.writeNewAsset, writeNewAsset]
  cases hgrab : DataFile.grabPosition db.filePath faults db.file with
  | error e file =>
    rw [bind_of_error hgrab, bind_of_error (onDisk_error hgrab accesses)]
    exact ⟨_, rfl⟩
  | ok position file =>
    rw [bind_of_ok hgrab, bind_of_ok (onDisk_ok hgrab accesses)]
    dsimp only
    rw [if_neg hfits, if_neg hfits]
    cases hsize : PosixDataFileImpl.write db.filePath (htonl asset.length) faults.sizeField file with
    | error e file =>
      rw [bind_of_error hsize, bind_of_error (onDisk_error hsize accesses)]
      exact ⟨_, rfl⟩
    | ok _ file =>
      rw [bind_of_ok hsize, bind_of_ok (onDisk_ok hsize accesses), bind_of_ok hread]
      cases hdata : PosixDataFileImpl.write db.filePath asset faults.data file with
      | error e file =>
        rw [bind_of_error hdata, bind_of_error (onDisk_error hdata _)]
        exact ⟨_, rfl⟩
      | ok _ file =>
        rw [bind_of_ok hdata, bind_of_ok (onDisk_ok hdata _)]
        exact ⟨_, rfl⟩

/-- An asset that is long enough is stored as `VFSDatabase.storeAsset` says. -/
lemma storeInDatabase_agrees (h : 34 ≤ asset.length) (hlen : asset.length < 2 ^ 32)
    (faults : Faults) (db : VFSDatabase) (accesses : List Access) :
    match db.storeAsset faults asset with
    | (db', none) => ∃ db'' accesses', storeInDatabase faults asset db accesses = .ok db'' accesses' ∧
        db' = { db'' with stored := db''.stored.add (assetUUID asset) asset }
    | (_, some _) => ∃ e accesses',
        storeInDatabase faults asset db accesses = .error (.refused e) accesses' := by
  have huuid := fun accesses => readUUID_eq (show 32 ≤ asset.length by omega) accesses
  have htype : ∀ accesses, readType asset accesses =
      .ok ((asset.drop 32).take 1) (accesses ++ [⟨32, 1⟩]) := access_inside (by omega)
  rw [VFSDatabase.storeAsset, storeInDatabase, bind_of_ok (huuid accesses)]
  by_cases hexists : db.assetExists (assetUUID asset) = true
  · rw [if_pos hexists, if_pos hexists, bind_of_ok (huuid _)]
    exact ⟨_, _, rfl⟩
  · rw [if_neg hexists, if_neg hexists]
    have hwrite := writeNewAsset_agrees hlen faults db (accesses ++ [⟨0, 32⟩])
    cases hfile : DataFile.writeNewAsset db.filePath faults asset db.file with
    | error e file =>
      rw [hfile] at hwrite
      obtain ⟨accesses', hwrite⟩ := hwrite
      exact ⟨_, _, bind_of_error hwrite⟩
    | ok position file =>
      rw [hfile] at hwrite
      obtain ⟨accesses', hwrite⟩ := hwrite
      rw [bind_of_ok hwrite]
      dsimp only
      rw [recordAssetPosition, bind_of_ok (huuid _), bind_of_ok (htype _)]
      cases hrecord : VFSDatabase.recordAssetPosition asset position faults.recordFails
          { db with file := file } with
      | error e => exact ⟨_, _, rfl⟩
      | ok db'' => exact ⟨db'', _, rfl, rfl⟩

end Agreement

/-! ## Every put -/

namespace PutRequest

/-- The accesses that are made to the data of a put. -/
def accesses (site : PutSite) (put : PutRequest) : List Access :=
  match put.handleAssetDataRead site [] with
  | .ok _ accesses => accesses
  | .error _ accesses => accesses

/-- The put is refused with an error response. -/
def Refused (site : PutSite) (put : PutRequest) : Prop :=
  ∃ e accesses, put.handleAssetDataRead site [] = .error (.refused e) accesses

/-- Every access lies inside the data, or the put is refused. -/
def WithinBounds (site : PutSite) (put : PutRequest) : Prop :=
  AllInside put.data (put.accesses site) ∨ put.Refused site

/-- The data has the fixed part of an asset; or it has at least an id and is refused before the flag
is read: the id is not valid, or it is in the existence index, or its databases cannot be opened. -/
def Guarded (site : PutSite) (put : PutRequest) : Prop :=
  34 ≤ put.data.length ∨
    32 ≤ put.data.length ∧ (isValidUUID (assetUUID put.data) = false ∨
      assetUUID put.data ∈ site.existenceIndex ∨ site.openError ≠ none)

end PutRequest

section Short

variable {asset : Bytes} {site : PutSite}

lemma describe_eq (h : 32 ≤ asset.length) (n : Nat) (accesses : List Access) :
    ∃ accesses', PutSite.describe asset n accesses = .ok () accesses' := by
  induction n generalizing accesses with
  | zero => exact ⟨accesses, rfl⟩
  | succ n ih =>
    rw [PutSite.describe, bind_of_ok (readUUID_eq h accesses)]
    exact ih _

/-- A put with a new id comes to the disk. -/
lemma storeAsset_of_new (h : 32 ≤ asset.length) (hnew : assetUUID asset ∉ site.existenceIndex)
    (accesses : List Access) :
    ∃ accesses', site.storeAsset asset accesses = site.performDiskWrite asset accesses' := by
  rw [PutSite.storeAsset, bind_of_ok (readUUID_eq h accesses), if_neg hnew,
    bind_of_ok (readUUID_eq h _)]
  obtain ⟨accesses', hdescribe⟩ := describe_eq h site.reports (accesses ++ [⟨0, 32⟩] ++ [⟨0, 32⟩])
  exact ⟨accesses', bind_of_ok hdescribe⟩

lemma storeAsset_of_existing (h : 32 ≤ asset.length)
    (hexists : assetUUID asset ∈ site.existenceIndex) (accesses : List Access) :
    ∃ e accesses', site.storeAsset asset accesses = .error (.refused e) accesses' := by
  rw [PutSite.storeAsset, bind_of_ok (readUUID_eq h accesses), if_pos hexists,
    bind_of_ok (readUUID_eq h _)]
  exact ⟨_, _, rfl⟩

/-- Databases that cannot be opened lead to an error. -/
lemma performDiskWrite_of_openError (h : 32 ≤ asset.length) {e : StoreException}
    (hopen : site.openError = some e) (accesses : List Access) :
    ∃ e' accesses', site.performDiskWrite asset accesses = .error (.refused e') accesses' := by
  have hdisk : site.storeOnDisk asset accesses =
      .error (.refused e) (accesses ++ [⟨0, 32⟩]) := by
    rw [PutSite.storeOnDisk, bind_of_ok (readUUID_eq h accesses), hopen]
    rfl
  rw [PutSite.performDiskWrite, tryCatch_of_error hdisk]
  cases e with
  | assetStorageError what => exact ⟨_, _, rfl⟩
  | stdException what =>
    rw [PutSite.writeFailed, bind_of_ok (readUUID_eq h _)]
    exact ⟨_, _, rfl⟩

/-- Without the flag, it is read from outside. -/
lemma performDiskWrite_of_short (h : 32 ≤ asset.length) (hshort : asset.length < 34)
    (hopen : site.openError = none) (accesses : List Access) :
    ∃ accesses', site.performDiskWrite asset accesses =
      .error .undefined (accesses' ++ [⟨33, 1⟩]) := by
  have hdisk : site.storeOnDisk asset accesses =
      .error .undefined (accesses ++ [⟨0, 32⟩] ++ [⟨33, 1⟩]) := by
    rw [PutSite.storeOnDisk, bind_of_ok (readUUID_eq h accesses), hopen]
    exact bind_of_error (bind_of_error (access_outside (by omega) _))
  exact ⟨_, (tryCatch_of_error hdisk).trans rfl⟩

end Short

namespace PutRequest

variable {site : PutSite} {put : PutRequest}

/-- A valid id is handed on to the storage. -/
lemma handleAssetDataRead_of_valid (h : 32 ≤ put.data.length)
    (hvalid : isValidUUID (assetUUID put.data) = true) {e : PutEnd} {accesses : List Access}
    (hstore : site.storeAsset put.data [⟨0, 32⟩] = .error e accesses) :
    put.handleAssetDataRead site [] = .error e accesses := by
  rw [handleAssetDataRead, bind_of_ok (readUUID_eq h []), if_pos hvalid]
  exact bind_of_error hstore

/-- Another id is refused with the message that the session sends. -/
lemma handleAssetDataRead_of_invalid (h : 32 ≤ put.data.length)
    (hinvalid : isValidUUID (assetUUID put.data) = false) (s : CSAuthenticated)
    (hs : s.currentRequest = put.header) :
    ∃ what accesses, put.handleAssetDataRead site [] =
        .error (.refused (.stdException what)) accesses ∧
      s.handleAssetDataRead put.data = s.sendError what := by
  have hnot : ¬ isValidUUID (assetUUID put.data) = true := by simp [hinvalid]
  refine ⟨invalidUUIDMessage (getUUID put.header), [⟨0, 32⟩], ?_, ?_⟩
  · rw [handleAssetDataRead, bind_of_ok (readUUID_eq h []), if_neg hnot]
    rfl
  · rw [CSAuthenticated.handleAssetDataRead, if_neg hnot, hs]

/-- A put that gets an access outside is neither inside nor refused. -/
lemma not_withinBounds {accesses : List Access} {a : Access} (ha : ¬ a.Inside put.data)
    (hresult : put.handleAssetDataRead site [] = .error .undefined (accesses ++ [a])) :
    ¬ put.WithinBounds site := by
  rintro (hinside | ⟨e, accesses', hrefused⟩)
  · rw [PutRequest.accesses, hresult] at hinside
    exact ha (hinside a (by simp))
  · rw [hresult] at hrefused
    cases hrefused

lemma refused_of_guarded (h : 32 ≤ put.data.length)
    (hguard : isValidUUID (assetUUID put.data) = false ∨
      assetUUID put.data ∈ site.existenceIndex ∨ site.openError ≠ none) : put.Refused site := by
  by_cases hvalid : isValidUUID (assetUUID put.data) = true
  · by_cases hexists : assetUUID put.data ∈ site.existenceIndex
    · obtain ⟨e, accesses, hstore⟩ := storeAsset_of_existing h hexists [⟨0, 32⟩]
      exact ⟨e, accesses, handleAssetDataRead_of_valid h hvalid hstore⟩
    · obtain ⟨e, hopen⟩ : ∃ e, site.openError = some e := by
        obtain hinvalid | hmem | hopen := hguard
        · rw [hvalid] at hinvalid
          cases hinvalid
        · exact absurd hmem hexists
        · exact Option.ne_none_iff_exists'.mp hopen
      obtain ⟨accesses, hnew⟩ := storeAsset_of_new h hexists [⟨0, 32⟩]
      obtain ⟨e', accesses', hdisk⟩ := performDiskWrite_of_openError h hopen accesses
      exact ⟨e', accesses', handleAssetDataRead_of_valid h hvalid (hnew.trans hdisk)⟩
  · rw [Refused, handleAssetDataRead, bind_of_ok (readUUID_eq h []), if_neg hvalid]
    exact ⟨_, _, rfl⟩

/-- **The bytes of a put**: every access lies inside the data or the put is refused, exactly when the
data has the fixed part of an asset or the put is refused before the flag is read. -/
theorem withinBounds_iff (site : PutSite) (put : PutRequest) :
    put.WithinBounds site ↔ put.Guarded site := by
  constructor
  · intro hbounds
    by_contra hguard
    simp only [Guarded, not_or, not_and, not_not] at hguard
    obtain ⟨hshort, hrest⟩ := hguard
    by_cases h : 32 ≤ put.data.length
    · obtain ⟨hvalid, hnew, hopen⟩ := hrest h
      obtain ⟨accesses, hstore⟩ := storeAsset_of_new h hnew [⟨0, 32⟩]
      obtain ⟨accesses', hdisk⟩ := performDiskWrite_of_short h (by omega) hopen accesses
      have hoff : ¬ Access.Inside put.data ⟨33, 1⟩ := by
        simp only [Access.Inside]
        omega
      refine not_withinBounds hoff (handleAssetDataRead_of_valid h ?_ (hstore.trans hdisk)) hbounds
      exact Bool.eq_true_of_not_eq_false hvalid
    · have hoff : ¬ Access.Inside put.data ⟨0, 32⟩ := by
        simp only [Access.Inside]
        omega
      have hresult : put.handleAssetDataRead site [] = .error .undefined ([] ++ [⟨0, 32⟩]) :=
        bind_of_error (access_outside hoff [])
      exact not_withinBounds hoff hresult hbounds
  · rintro (hlong | ⟨h, hguard⟩)
    · left
      have hstays := put.stays_handleAssetDataRead site hlong [] (fun _ ha => absurd ha List.not_mem_nil)
      rw [Leaves] at hstays
      rw [accesses]
      split at hstays
      · rename_i hresult
        rw [hresult]
        exact hstays
      · rename_i hresult
        rw [hresult]
        exact hstays
    · exact Or.inr (refused_of_guarded h hguard)

/-- A storage in which nothing is stored and nothing fails. -/
def emptySite : PutSite where
  existenceIndex := []
  reports := 0
  openError := none
  globalDB := .create "globals.data"
  localDB := .create "locals.data"
  faults := { data := some 32 }
  cacheEnabled := false

/-- A put of an id without anything behind it. -/
def bareId : PutRequest where
  header := setupHeader RequestType.put.code (List.replicate 32 48) 32
  data := List.replicate 32 48
  announced := rfl

/-- Its 32 bytes are a valid id, and the byte at offset 33 is read. -/
theorem not_withinBounds_bareId :
    bareId.data.length = 32 ∧ ⟨33, 1⟩ ∈ bareId.accesses emptySite ∧
      ¬ bareId.WithinBounds emptySite := by
  have hresult : bareId.handleAssetDataRead emptySite [] =
      .error .undefined (List.replicate 4 ⟨0, 32⟩ ++ [⟨33, 1⟩]) := by
    rfl
  refine ⟨rfl, ?_, not_withinBounds ?_ hresult⟩
  · rw [accesses, hresult]
    decide
  · simp [Access.Inside, bareId]

end PutRequest

end Halcyon.Whip
