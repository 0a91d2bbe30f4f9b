import Halcyon.Lib.Dict
import Halcyon.Lib.Effects
import Halcyon.Lib.Outcome
import Halcyon.Lib.Transition
import Halcyon.Whip.Message

/-!
# The VFS database

A `VFSDatabase` keeps assets in a data file, one record behind the other, and the position of each
in an index.  A record is the size of the asset in network byte order and its bytes.  A new record
is written at the end of the file; the first store creates the file and writes a header of eight
bytes before it.  The index is a table of a SQLite database, which is taken to be a map that
changes completely or not at all.

Every step of a store can fail, and a write can also end early: what it has written stays in the
file.  Position 0 stands for an asset that is not in the index (`INVALID_POSITION`), which no
record should have because of the header.  A store whose write of the header leaves nothing behind
its `open`, however, leaves an empty file, and the record of the next store gets position 0.
Beside that, the database is a map that is written once per id.
-/

namespace Halcyon.Whip

open Halcyon.Lib Halcyon.Lib.Transition

/-! ## The data file -/

/-- Operations on the data file, which need not exist. -/
abbrev FileM := EStateM String (Option Bytes)

/-- Where a store fails.  A write is given by what the system call returns: an error, or the number
of bytes written. -/
structure Faults where
  openFails : Bool := false
  header : Option Nat := some 8
  sizeFails : Bool := false
  seekFails : Bool := false
  sizeField : Option Nat := some 4
  data : Option Nat
  recordFails : Bool := false
  deriving DecidableEq

namespace PosixDataFileImpl

/-- `open` for writing, which creates a file that does not exist. -/
def openFile (fails : Bool) : FileM Unit := do
  if fails then throw "[IWVFS][POSIX] Unable to open data file for writing []"
  modify fun file => some (file.getD [])

/-- `write`, at the end of the file. -/
def write (filePath : String) (data : Bytes) (bytesWritten : Option Nat) : FileM Unit := do
  match bytesWritten with
  | none => throw ("[IWVFS][POSIX] Error while writing to data file [" ++ filePath ++ "]")
  | some n =>
    modify fun file => some (file.getD [] ++ data.take n)
    if n ≠ data.length then
      throw ("[IWVFS][POSIX] Short write encountered while writing to data file [" ++
        filePath ++ "]")

/-- `read`, at a position. -/
def read (filePath : String) (file : Bytes) (position size : Nat) : Except String Bytes :=
  if position + size ≤ file.length then .ok ((file.drop position).take size)
  else .error ("[IWVFS][POSIX] Short read encountered while reading from data file [" ++
    filePath ++ "]")

end PosixDataFileImpl

namespace DataFile

/-- What a data file starts with. -/
def magic : Bytes := "IWZDDB01".toUTF8.data.toList

/-- The first part of `writeNewAsset`: the file is opened, and the position of the new record is
grabbed. -/
def grabPosition (filePath : String) (faults : Faults) : FileM Nat := do
  let file ← get
  PosixDataFileImpl.openFile faults.openFails
  match file with
  | none =>
    PosixDataFileImpl.write filePath magic faults.header
    return 8
  | some file =>
    if faults.sizeFails then
      throw ("[IWVFS][POSIX] Unable to stat data file to retrieve size [" ++ filePath ++ "]")
    if faults.seekFails then
      throw ("[IWVFS][POSIX] Error while seeking file [" ++ filePath ++ "]")
    return file.length

/-- `writeNewAsset`: the position of the new record. -/
def writeNewAsset (filePath : String) (faults : Faults) (asset : Bytes) : FileM Nat := do
  let pos ← grabPosition filePath faults
  if asset.length ≥ 2 ^ 32 then throw "bad numeric conversion: positive overflow"
  PosixDataFileImpl.write filePath (htonl asset.length) faults.sizeField
  PosixDataFileImpl.write filePath asset faults.data
  return pos

/-- `getAssetAtPosition`. -/
def getAssetAtPosition (filePath : String) (file : Option Bytes) (position : Nat) :
    Except String Bytes :=
  match file with
  | none => .error "[IWVFS][POSIX] Unable to open data file for writing []"
  | some file => do
    let assetSize ← PosixDataFileImpl.read filePath file position 4
    PosixDataFileImpl.read filePath file (position + 4) (ntohl assetSize)

end DataFile

/-! ## What is in the file -/

namespace DataFile

/-- The file has grown at its end, if it was there. -/
def Extends (file file' : Option Bytes) : Prop :=
  ∀ bytes, file = some bytes → ∃ more, file' = some (bytes ++ more)

lemma Extends.refl (file : Option Bytes) : Extends file file := fun bytes h =>
  ⟨[], by rw [h, List.append_nil]⟩

lemma extends_append (bytes more : Bytes) : Extends (some bytes) (some (bytes ++ more)) := by
  rintro _ ⟨⟩
  exact ⟨more, rfl⟩

lemma Extends.trans {file file' file'' : Option Bytes} (h : Extends file file')
    (h' : Extends file' file'') : Extends file file'' := by
  intro bytes hbytes
  obtain ⟨more, hmore⟩ := h bytes hbytes
  obtain ⟨more', hmore'⟩ := h' _ hmore
  exact ⟨more ++ more', by rw [hmore', List.append_assoc]⟩

/-- A new record behind what was in the file, or behind the header of a new file. -/
def Recorded (asset : Bytes) (file : Option Bytes) (position : Nat) (file' : Option Bytes) : Prop :=
  asset.length < 2 ^ 32 ∧ position = (file.getD magic).length ∧
    file' = some (file.getD magic ++ htonl asset.length ++ asset)

lemma Recorded.extends {asset : Bytes} {file file' : Option Bytes} {position : Nat}
    (h : Recorded asset file position file') : Extends file file' := by
  rintro bytes rfl
  obtain ⟨-, -, rfl⟩ := h
  exact ⟨htonl asset.length ++ asset, by rw [Option.getD_some, List.append_assoc]⟩

section Writing

variable {filePath : String} {bytes data : Bytes} {file : Option Bytes}

/-- A write leaves the file longer, by all of the data if it succeeds. -/
lemma leaves_write (hfile : Extends file (some bytes)) (n : Option Nat) :
    Leaves (Extends file) (fun _ file' => file' = some (bytes ++ data))
      (PosixDataFileImpl.write filePath data n) (some bytes) := by
  cases n with
  | none => exact leaves_throw hfile
  | some n =>
    refine (leaves_modify _).bind ?_
    rintro - _ rfl
    split_ifs with hn
    · exact leaves_throw (hfile.trans (extends_append bytes _))
    · refine leaves_pure ?_
      rw [Option.getD_some, not_not.mp hn, List.take_length]

lemma leaves_openFile (fails : Bool) :
    Leaves (Extends file) (fun _ file' => file' = some (file.getD []))
      (PosixDataFileImpl.openFile fails) file := by
  rw [PosixDataFileImpl.openFile]
  exact leaves_unless (Extends.refl file) fun _ =>
    leaves_modify fun file : Option Bytes => some (file.getD [])

/-- The record is going to stand behind the header of a new file, or at the end of an old one. -/
lemma leaves_grabPosition (filePath : String) (faults : Faults) (file : Option Bytes) :
    Leaves (Extends file)
      (fun position file' => position = (file.getD magic).length ∧ file' = some (file.getD magic))
      (grabPosition filePath faults) file := by
  refine leaves_get.bind fun file₁ file₂ h => ?_
  obtain ⟨rfl, rfl⟩ := h
  refine (leaves_openFile faults.openFails).bind ?_
  rintro - _ rfl
  cases file₂ with
  | none =>
    have hnew : Extends none (some []) := by
      rintro bytes ⟨⟩
    refine (leaves_write hnew faults.header).bind ?_
    rintro - _ rfl
    exact leaves_pure ⟨rfl, rfl⟩
  | some bytes =>
    have hsame : Extends (some bytes) (some bytes) := Extends.refl _
    exact leaves_unless hsame fun _ => leaves_unless hsame fun _ => leaves_pure ⟨rfl, rfl⟩

/-- A store writes a new record, or it leaves something behind the end of the file. -/
lemma leaves_writeNewAsset (filePath : String) (faults : Faults) (asset : Bytes)
    (file : Option Bytes) :
    Leaves (Extends file) (Recorded asset file) (writeNewAsset filePath faults asset) file := by
  have hbase : Extends file (some (file.getD magic)) := by
    rintro bytes rfl
    exact ⟨[], by rw [Option.getD_some, List.append_nil]⟩
  refine (leaves_grabPosition filePath faults file).bind ?_
  rintro position _ ⟨rfl, rfl⟩
  refine leaves_unless hbase fun hlen => ?_
  refine (leaves_write hbase faults.sizeField).bind ?_
  rintro - _ rfl
  refine (leaves_write (hbase.trans (extends_append _ _)) faults.data).bind ?_
  rintro - _ rfl
  exact leaves_pure ⟨Nat.lt_of_not_le hlen, rfl, rfl⟩

end Writing

end DataFile

/-! ## The database -/

/-- `VFSDatabase`, its two files, and the assets whose store has succeeded. -/
structure VFSDatabase where
  filePath : String
  index : Dict Bytes Nat
  file : Option Bytes
  stored : Dict Bytes Bytes
  deriving DecidableEq

namespace VFSDatabase

/-- `INVALID_POSITION`. -/
def invalidPosition : Nat := 0

/-- A new database. -/
def create (filePath : String) : VFSDatabase where
  filePath := filePath
  index := []
  file := none
  stored := []

/-- `findAssetPosition`. -/
def findAssetPosition (uuid : Bytes) (db : VFSDatabase) : Nat :=
  (db.index.get? uuid).getD invalidPosition

/-- `assetExists`. -/
def assetExists (uuid : Bytes) (db : VFSDatabase) : Bool :=
  db.findAssetPosition uuid != invalidPosition

/-- `getAsset`. -/
def getAsset (uuid : Bytes) (db : VFSDatabase) : Except String (Option Bytes) :=
  if db.findAssetPosition uuid = invalidPosition then .ok none
  else (DataFile.getAssetAtPosition db.filePath db.file (db.findAssetPosition uuid)).map some

/-- `recordAssetPosition`: an insert into a table whose key is the id.  The text of the query and what
SQLite says about it are left out of the error. -/
def recordAssetPosition (asset : Bytes) (position : Nat) (fails : Bool) (db : VFSDatabase) :
    Except String VFSDatabase :=
  if fails || (db.index.get? (assetUUID asset)).isSome then
    .error "[SQLiteConnection] Unable to execute query"
  else .ok { db with index := db.index.add (assetUUID asset) position }

/-- The id of an asset in a message. -/
def shown (uuid : Bytes) : String := String.ofList (uuid.map fun b => Char.ofNat b.toNat)

/-- `storeAsset`: the database afterwards, and the error if it failed. -/
def storeAsset (faults : Faults) (asset : Bytes) (db : VFSDatabase) :
    VFSDatabase × Option String :=
  if db.assetExists (assetUUID asset) then
    (db, some ("Unable to store asset " ++ shown (assetUUID asset) ++ ", asset already exists"))
  else
    match DataFile.writeNewAsset db.filePath faults asset db.file with
    | .error e file => ({ db with file := file }, some e)
    | .ok position file =>
      let db := { db with file := file }
      match db.recordAssetPosition asset position faults.recordFails with
      | .error e => (db, some e)
      | .ok db => ({ db with stored := db.stored.add (assetUUID asset) asset }, none)

/-- What is done with a database. -/
inductive Event
  | store (asset : Bytes) (faults : Faults)
  | get (uuid : Bytes)
  deriving DecidableEq

/-- One operation. -/
def step (db : VFSDatabase) : Event → Option VFSDatabase
  | .store asset faults => some (db.storeAsset faults asset).1
  | .get _ => some db

/-- The database is the map of what has been stored. -/
def WriteOnce (db : VFSDatabase) : Prop :=
  ∀ uuid, db.getAsset uuid = .ok (db.stored.get? uuid)

/-! ## The map -/

/-- A record stands at a position. -/
def RecordAt (file : Option Bytes) (position : Nat) (asset : Bytes) : Prop :=
  ∃ before after, file = some (before ++ htonl asset.length ++ asset ++ after) ∧
    before.length = position ∧ asset.length < 2 ^ 32

variable {file : Option Bytes} {position : Nat} {asset : Bytes}

lemma RecordAt.of_extends {file' : Option Bytes} (h : RecordAt file position asset)
    (hext : DataFile.Extends file file') :
    RecordAt file' position asset := by
  obtain ⟨before, after, hfile, hpos, hlen⟩ := h
  obtain ⟨more, hmore⟩ := hext _ hfile
  exact ⟨before, after ++ more, by rw [hmore, List.append_assoc _ after more], hpos, hlen⟩

lemma recordAt_of_recorded {file' : Option Bytes}
    (h : DataFile.Recorded asset file position file') : RecordAt file' position asset := by
  obtain ⟨hlen, rfl, rfl⟩ := h
  exact ⟨_, [], by rw [List.append_nil], rfl, hlen⟩

/-- What is read at the position of a record. -/
lemma RecordAt.getAssetAtPosition (h : RecordAt file position asset) (filePath : String) :
    DataFile.getAssetAtPosition filePath file position = .ok asset := by
  obtain ⟨before, after, rfl, rfl, hlen⟩ := h
  have hsize : PosixDataFileImpl.read filePath
      (before ++ htonl asset.length ++ asset ++ after) before.length 4 =
        .ok (htonl asset.length) := by
    rw [PosixDataFileImpl.read, if_pos (by simp only [List.length_append, length_htonl]; omega),
      List.append_assoc, List.append_assoc, List.drop_left, ← length_htonl asset.length,
      List.take_left]
  have hdata : PosixDataFileImpl.read filePath
      (before ++ htonl asset.length ++ asset ++ after) (before.length + 4) asset.length =
        .ok asset := by
    have hbefore : (before ++ htonl asset.length).length = before.length + 4 := by
      rw [List.length_append, length_htonl]
    rw [PosixDataFileImpl.read, ← hbefore,
      if_pos (by simp only [List.length_append, length_htonl]; omega), List.append_assoc,
      List.drop_left, List.take_left]
  rw [DataFile.getAssetAtPosition, hsize, ok_bind, ntohl_htonl hlen, hdata]

/-- Every asset that was stored has a record at the position that the index has for it, and the
index has no other ids. -/
structure Sound (db : VFSDatabase) : Prop where
  records : ∀ uuid asset, db.stored.get? uuid = some asset → ∃ position,
    db.index.get? uuid = some position ∧ position ≠ invalidPosition ∧
      RecordAt db.file position asset
  index : ∀ uuid, db.stored.get? uuid = none → db.index.get? uuid = none

variable {db db' : VFSDatabase}

lemma Sound.writeOnce (h : db.Sound) : db.WriteOnce := by
  intro uuid
  cases hstored : db.stored.get? uuid with
  | none =>
    rw [getAsset, findAssetPosition, h.index uuid hstored]
    rfl
  | some asset =>
    obtain ⟨position, hindex, hpos, hrecord⟩ := h.records uuid asset hstored
    rw [getAsset, findAssetPosition, hindex, Option.getD_some, if_neg hpos,
      hrecord.getAssetAtPosition]
    rfl

/-- Whatever is written behind the records changes nothing. -/
lemma Sound.grow (h : db.Sound) (hext : DataFile.Extends db.file file) :
    Sound { db with file := file } where
  records uuid asset hstored := by
    obtain ⟨position, hindex, hpos, hrecord⟩ := h.records uuid asset hstored
    exact ⟨position, hindex, hpos, hrecord.of_extends hext⟩
  index := h.index

/-- A new record whose position is valid. -/
lemma Sound.add (h : db.Sound) (hnew : db.index.get? (assetUUID asset) = none)
    (hpos : position ≠ invalidPosition) (hrecord : RecordAt db.file position asset) :
    Sound { db with
      index := db.index.add (assetUUID asset) position
      stored := db.stored.add (assetUUID asset) asset } where
  records uuid asset' hstored := by
    rw [Dict.get?_add] at hstored
    cases hold : db.stored.get? uuid with
    | some old =>
      rw [hold, Option.some_or] at hstored
      obtain rfl := Option.some.inj hstored
      obtain ⟨position', hindex, hpos', hrecord'⟩ := h.records uuid old hold
      exact ⟨position', by rw [Dict.get?_add, hindex, Option.some_or], hpos', hrecord'⟩
    | none =>
      rw [hold, Option.none_or] at hstored
      split_ifs at hstored with huuid
      subst huuid
      obtain rfl := Option.some.inj hstored
      exact ⟨position, by rw [Dict.get?_add, hnew, Option.none_or, if_pos rfl], hpos, hrecord⟩
  index uuid hstored := by
    rw [Dict.get?_add, Option.or_eq_none_iff] at hstored ⊢
    refine ⟨h.index uuid hstored.1, ?_⟩
    have hne := hstored.2
    split_ifs at hne ⊢
    rfl

/-- What a store does: nothing, something behind the end of the file, or a new record with an
entry in the index. -/
lemma storeAsset_cases (faults : Faults) (asset : Bytes) (db : VFSDatabase) :
    (∃ file e, DataFile.Extends db.file file ∧
        db.storeAsset faults asset = ({ db with file := file }, some e)) ∨
      ∃ file position, DataFile.Recorded asset db.file position file ∧
        db.index.get? (assetUUID asset) = none ∧
        db.storeAsset faults asset = ({ db with
          file := file
          index := db.index.add (assetUUID asset) position
          stored := db.stored.add (assetUUID asset) asset }, none) := by
  have hwrite := DataFile.leaves_writeNewAsset db.filePath faults asset db.file
  rw [storeAsset]
  split_ifs with hexists
  · exact .inl ⟨db.file, _, .refl _, rfl⟩
  · unfold Leaves at hwrite
    split at hwrite
    · rename_i position file hresult
      rw [hresult]
      dsimp only
      rw [recordAssetPosition]
      dsimp only
      split_ifs with hfail
      · exact .inl ⟨file, _, hwrite.extends, rfl⟩
      · rw [Bool.not_eq_true, Bool.or_eq_false_iff, Option.isSome_eq_false_iff,
          Option.isNone_iff_eq_none] at hfail
        exact .inr ⟨file, position, hwrite, hfail.2, rfl⟩
    · rename_i e file hresult
      rw [hresult]
      exact .inl ⟨file, e, hwrite, rfl⟩

/-- A store finds no empty data file. -/
def Event.FileNotEmpty (db : VFSDatabase) : Event → Prop
  | .store _ _ => db.file ≠ some []
  | .get _ => True

instance (db : VFSDatabase) : DecidablePred (Event.FileNotEmpty db)
  | .store _ _ => inferInstanceAs (Decidable (db.file ≠ some []))
  | .get _ => inferInstanceAs (Decidable True)

lemma Sound.step {e : Event} (h : db.Sound) (hfile : e.FileNotEmpty db)
    (hstep : db.step e = some db') : db'.Sound := by
  cases e with
  | get uuid =>
    obtain rfl := Option.some.inj hstep
    exact h
  | store asset faults =>
    obtain rfl := Option.some.inj hstep
    rcases db.storeAsset_cases faults asset with ⟨file, e, hext, heq⟩ |
      ⟨file, position, hrecorded, hnew, heq⟩
    · rw [heq]
      exact h.grow hext
    · rw [heq]
      refine (h.grow hrecorded.extends).add hnew ?_ (recordAt_of_recorded hrecorded)
      -- the position is the length of what was in the file, or of the header
      obtain ⟨-, rfl, -⟩ := hrecorded
      cases hold : db.file with
      | none => decide
      | some bytes =>
        intro hzero
        have hbytes : bytes = [] := List.eq_nil_of_length_eq_zero hzero
        rw [hbytes] at hold
        exact hfile hold

/-- As long as no store finds an empty data file, the database is the map of what has been stored,
whatever fails. -/
theorem writeOnce_of_meets (filePath : String) (es : List Event)
    (hrun : run step (create filePath) es = some db)
    (hmeets : Meets step (fun db e => e.FileNotEmpty db) (create filePath) es) :
    db.WriteOnce := by
  have hsound : db.Sound := invariant_of_meets (fun _ _ _ hs hcond hstep => hs.step hcond hstep)
    hrun hmeets ⟨fun uuid asset h => (by cases h), fun _ _ => rfl⟩
  exact hsound.writeOnce

/-- An asset that is an id and two more bytes. -/
def sampleAsset (digit : UInt8) : Bytes := List.replicate 32 digit ++ [0, 0]

/-- Stores that fail in the middle of the header, of the size and of the data, and in the index, and
two that succeed. -/
theorem writeOnce_failures :
    ∃ db, run step (create "a.data")
        [.store (sampleAsset 48) { header := some 3, data := some 34 },
          .store (sampleAsset 48) { data := some 34 },
          .store (sampleAsset 49) { sizeField := some 2, data := some 34 },
          .store (sampleAsset 49) { data := some 7 },
          .store (sampleAsset 49) { data := some 34, recordFails := true },
          .get (List.replicate 32 49),
          .store (sampleAsset 49) { data := some 34 }] = some db ∧
      db.WriteOnce ∧ db.stored.get? (List.replicate 32 49) = some (sampleAsset 49) := by
  obtain ⟨db, hdb, hstored⟩ : ∃ db, run step (create "a.data")
        [.store (sampleAsset 48) { header := some 3, data := some 34 },
          .store (sampleAsset 48) { data := some 34 },
          .store (sampleAsset 49) { sizeField := some 2, data := some 34 },
          .store (sampleAsset 49) { data := some 7 },
          .store (sampleAsset 49) { data := some 34, recordFails := true },
          .get (List.replicate 32 49),
          .store (sampleAsset 49) { data := some 34 }] = some db ∧
      db.stored.get? (List.replicate 32 49) = some (sampleAsset 49) := ⟨_, rfl, by decide⟩
  exact ⟨db, hdb, writeOnce_of_meets "a.data" _ hdb (by decide), hstored⟩

/-- The first store creates the file and fails to write the header; the second one succeeds, but its
record is at position 0. -/
theorem not_writeOnce_emptyFile :
    ∃ db, run step (create "a.data")
        [.store (sampleAsset 48) { header := none, data := some 34 },
          .store (sampleAsset 49) { data := some 34 }] = some db ∧
      db.stored.get? (List.replicate 32 49) = some (sampleAsset 49) ∧
      db.getAsset (List.replicate 32 49) = .ok none ∧ ¬ db.WriteOnce := by
  refine ⟨_, rfl, by decide, rfl, fun h => ?_⟩
  exact absurd (h (List.replicate 32 49)) (by decide)

end VFSDatabase

end Halcyon.Whip
