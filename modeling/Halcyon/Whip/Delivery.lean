import Halcyon.Client.Serialize
import Halcyon.Whip.VFSDatabase

/-!
# From one client to another

An asset that a client has serialized and a server has stored is read back by every later `getAsset`
and parsed to the asset it was, whatever stores fail in between.
-/

namespace Halcyon.Whip.VFSDatabase

open Halcyon.Lib Halcyon.Lib.Transition Halcyon.Client

variable {db db' : VFSDatabase}

/-- What has been stored stays. -/
lemma stored_step {uuid asset : Bytes} {e : Event} (h : db.stored.get? uuid = some asset)
    (hstep : db.step e = some db') : db'.stored.get? uuid = some asset := by
  cases e with
  | get uuid =>
    obtain rfl := Option.some.inj hstep
    exact h
  | store new faults =>
    obtain rfl := Option.some.inj hstep
    rcases db.storeAsset_cases faults new with ⟨file, e, -, heq⟩ | ⟨file, position, -, -, heq⟩
    · rw [heq]
      exact h
    · rw [heq, Dict.get?_add, h, Option.some_or]

variable {a : HeldAsset} {buf : AppendableByteArray}

/-- The server files an asset under the id by which a client asks for it. -/
lemma assetUUID_serialize (hfit : a.TextsFit) (huuid : (uuidToAscii a.uuid).length = 32)
    (hsize : a.size ≤ maxArrayLength) (hbuf : a.serialize = .ok buf) :
    assetUUID buf.data = uuidToAscii a.uuid := by
  rw [HeldAsset.serialize_eq hfit huuid hsize] at hbuf
  obtain rfl := Except.ok.inj hbuf
  rw [assetUUID, ← huuid]
  simp [AppendableByteArray.written, HeldAsset.layout]

/-- Once the store of an asset has succeeded, a client that asks for its id gets the bytes, and they
are parsed to the asset, as long as no store finds an empty file. -/
theorem getAsset_of_stored {filePath : String} {es es' : List Event} (invalid : Bytes → Text)
    (hfit : a.TextsFit) (hfixed : fixUuid a.uuid = a.uuid) (ha : a.Portable)
    (hbuf : a.serialize = .ok buf) (hbefore : run step (create filePath) es = some db)
    (hstored : db.stored.get? (assetUUID buf.data) = some buf.data)
    (hafter : run step db es' = some db')
    (hmeets : Meets step (fun db e => e.FileNotEmpty db) (create filePath) (es ++ es')) :
    db'.getAsset (uuidToAscii a.uuid) = .ok (some buf.data) ∧
      HeldAsset.parse invalid buf.data = .ok a ∧ a.UnderstoodByServers buf.data := by
  have hround : a.RoundTrips invalid := ha.roundTrips hfit hfixed
  obtain ⟨buf', hbuf', -, hparse, hunderstood⟩ := hround
  obtain rfl := Except.ok.inj (hbuf.symm.trans hbuf')
  have huuid : (uuidToAscii a.uuid).length = 32 := by
    rw [uuidToAscii, hfixed, length_asciiBytes, ha.length_uuid]
  have hrun : run step (create filePath) (es ++ es') = some db' := by
    rw [run_append, hbefore, Option.bind_some, hafter]
  have hsound : db'.Sound := invariant_of_meets (fun _ _ _ hs hcond hstep => hs.step hcond hstep)
    hrun hmeets ⟨fun uuid asset h => (by cases h), fun _ _ => rfl⟩
  have hkept : db'.stored.get? (assetUUID buf.data) = some buf.data :=
    invariant (P := fun db => db.stored.get? (assetUUID buf.data) = some buf.data)
      (fun _ _ _ h hstep => stored_step h hstep) hafter hstored
  rw [hsound.writeOnce, ← assetUUID_serialize hfit huuid ha.size hbuf, hkept]
  exact ⟨rfl, hparse, hunderstood⟩

/-- An asset without texts and data, and a store after it that fails. -/
theorem getAsset_of_stored_failure : ∃ a buf db db', HeldAsset.serialize a = .ok buf ∧
    run step (create "a.data") [.store buf.data { data := some 45 }] = some db ∧
    run step db [.store (sampleAsset 49) { data := some 7 }] = some db' ∧
    db'.getAsset (uuidToAscii a.uuid) = .ok (some buf.data) := by
  refine ⟨.create (List.replicate 32 48) 0 false false 0 [] [] [], _, _, _, rfl, rfl, rfl, ?_⟩
  exact (getAsset_of_stored (fun _ => []) (HeldAsset.textsFit_create ..) (by decide)
    ⟨rfl, fun u hu => List.eq_of_mem_replicate (List.mem_of_mem_filter hu) ▸ by decide,
      by decide, by decide, by decide⟩ rfl
    (rfl : run step (create "a.data") [.store _ { data := some 45 }] = _) (by decide)
    (rfl : run step _ [.store (sampleAsset 49) { data := some 7 }] = _) (by decide)).1

end Halcyon.Whip.VFSDatabase
