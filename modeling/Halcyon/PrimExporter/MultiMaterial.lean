import Halcyon.PrimExporter.CombinedMesh

/-!
# Multi-materials under the hash of a prim

`SerializeCombinedFaces` exports the list of a prim's materials as a multi-material, under the
material hash of the prim.  If there is one with that hash already, it is used for the prim.

A prim is right about that (`Identified`) if every prim that has the same hash has the same material
on each of its faces, and if the multi-material of such a prim shows each of its materials.  The
hash only knows the first faces, as many as there are entries that are set.  So a prim with fewer
entries than faces is not identified, whatever its entries are; and if the other prim has fewer
faces, its multi-material can end too early.
-/

namespace Halcyon.PrimExporter

open Halcyon.Lib BabylonPrimFaceCombiner

variable {F η : Type} {n : Nat}

/-- `PrimDisplayData`, with the texture entry that the material hash is computed from.  The mesh has
the material of `GetFace` on each face. -/
structure PrimDisplayData (n : Nat) (F : Type) where
  textures : TextureEntry n
  faces : List (Face F)
  textureFace_eq : faces.map Face.textureFace = textures.firstFaces faces.length

section Export

variable (C : ChainHash Piece η) [DecidableEq η]

/-- `MaterialHash`. -/
def PrimDisplayData.materialHash (data : PrimDisplayData n F) : η :=
  getMeshMaterialHash C data.textures

/-- The names of the materials of a prim. -/
def materialsList (data : PrimDisplayData n F) : List η :=
  (collect C data.faces).materials.map (getFaceHash C)

/-- The multi-materials of the outputs after `SerializeCombinedFaces`. -/
def serializeCombinedFaces (multiMaterials : Dict η (List η)) (data : PrimDisplayData n F) :
    Dict η (List η) :=
  match multiMaterials.get? (data.materialHash C) with
  | some _ => multiMaterials
  | none => multiMaterials.add (data.materialHash C) (materialsList C data)

/-- The material that is shown for the submeshes with an index. -/
def shownMaterial (multiMaterials : Dict η (List η)) (data : PrimDisplayData n F)
    (materialIndex : Nat) : Option η := do
  let list ← multiMaterials.get? (data.materialHash C)
  list[materialIndex]?

/-- A prim is identified by its hash among the prims with `k` faces: one with the same hash has the
same materials on its faces, and if it is exported first, its multi-material shows every material
of this one. -/
def Identified (data : PrimDisplayData n F) (k : Nat) : Prop :=
  ∀ other : PrimDisplayData n F, other.faces.length = k →
    other.materialHash C = data.materialHash C →
      (∀ i : Fin n, i < data.faces.length → other.textures.getFace i = data.textures.getFace i) ∧
        ∀ m material, (collect C data.faces).materials[m]? = some material →
          shownMaterial C (serializeCombinedFaces C (serializeCombinedFaces C [] other) data)
            data m = some (getFaceHash C material)

end Export

/-! ## The first faces -/

section FirstFaces

variable {t u : TextureEntry n}

lemma length_firstFaces {k : Nat} (hk : k ≤ n) : (t.firstFaces k).length = k := by
  rw [TextureEntry.firstFaces, List.length_map, List.length_take, List.length_finRange]
  omega

lemma getElem?_firstFaces {k : Nat} (i : Fin n) (hi : i < k) :
    (t.firstFaces k)[i.val]? = some (t.getFace i) := by
  rw [TextureEntry.firstFaces, List.getElem?_map, List.getElem?_take_of_lt hi,
    List.getElem?_eq_getElem (by rw [List.length_finRange]; exact i.isLt), List.getElem_finRange]
  rfl

lemma mem_firstFaces {k : Nat} {f : TextureEntryFace} :
    f ∈ t.firstFaces k ↔ ∃ i : Fin n, i < k ∧ t.getFace i = f := by
  constructor
  · intro hf
    obtain ⟨i, hi, rfl⟩ := List.mem_map.mp hf
    obtain ⟨j, hj, rfl⟩ := List.mem_take_iff_getElem.mp hi
    refine ⟨_, ?_, rfl⟩
    rw [List.getElem_finRange]
    exact (Nat.lt_min.mp hj).1
  · rintro ⟨i, hi, rfl⟩
    exact List.mem_of_getElem? (getElem?_firstFaces i hi)

/-- Equal first faces, and the materials of each of them. -/
lemma firstFaces_eq_iff (k : Nat) :
    t.firstFaces k = u.firstFaces k ↔ ∀ i : Fin n, i < k → t.getFace i = u.getFace i := by
  constructor
  · intro h i hi
    have hget := getElem?_firstFaces (t := t) i hi
    rw [h, getElem?_firstFaces i hi, Option.some_inj] at hget
    exact hget.symm
  · intro h
    refine List.map_congr_left fun i hi => ?_
    obtain ⟨j, hj, rfl⟩ := List.mem_take_iff_getElem.mp hi
    refine h _ ?_
    rw [List.getElem_finRange]
    exact (Nat.lt_min.mp hj).1

/-- The first faces begin with fewer of them. -/
lemma firstFaces_append {j k : Nat} (hjk : j ≤ k) :
    ∃ rest, t.firstFaces k = t.firstFaces j ++ rest := by
  refine ⟨((List.finRange n).take k).drop j |>.map t.getFace, ?_⟩
  have htake : (List.finRange n).take j = ((List.finRange n).take k).take j := by
    rw [List.take_take, Nat.min_eq_left hjk]
  rw [TextureEntry.firstFaces, TextureEntry.firstFaces, htake, ← List.map_append,
    List.take_append_drop]

/-! ## When a prim is identified -/

section Identified

variable (C : ChainHash Piece η) [DecidableEq η] {data other : PrimDisplayData n F}

lemma PrimDisplayData.length_faces_le (data : PrimDisplayData n F) : data.faces.length ≤ n := by
  have h := congrArg List.length data.textureFace_eq
  rw [List.length_map, TextureEntry.firstFaces, List.length_map, List.length_take,
    List.length_finRange] at h
  omega

/-- The materials of a prim, from its texture entry. -/
lemma materials_collect (data : PrimDisplayData n F) :
    (collect C data.faces).materials = firsts (data.textures.firstFaces data.faces.length) := by
  rw [(collect_eq C data.faces).1, materialsOf, data.textureFace_eq]

/-- A prim with a texture entry and a number of faces. -/
def PrimDisplayData.ofTextures (t : TextureEntry n) (k : Nat) : PrimDisplayData n F where
  textures := t
  faces := (t.firstFaces k).map fun f => ⟨f, ⟨[], [], [], []⟩⟩
  textureFace_eq := by
    rw [List.map_map, List.length_map, TextureEntry.firstFaces, List.length_map, List.length_take,
      List.length_finRange, TextureEntry.firstFaces, List.map_map]
    congr 1
    rw [List.take_eq_take_iff, List.length_finRange]
    omega

lemma length_faces_ofTextures (t : TextureEntry n) {k : Nat} (hk : k ≤ n) :
    (PrimDisplayData.ofTextures t k : PrimDisplayData n F).faces.length = k :=
  (List.length_map _).trans (length_firstFaces hk)

/-- The multi-material of a prim with the same hash is reused. -/
lemma shownMaterial_eq (hhash : other.materialHash C = data.materialHash C) (m : Nat) :
    shownMaterial C (serializeCombinedFaces C (serializeCombinedFaces C [] other) data) data m =
      (collect C other.faces).materials[m]?.map (getFaceHash C) := by
  have hfirst : (serializeCombinedFaces C [] other).get? (data.materialHash C) =
      some (materialsList C other) := by
    rw [serializeCombinedFaces, Dict.get?_nil]
    dsimp only
    rw [Dict.get?_add, Dict.get?_nil, if_pos hhash, Option.none_or]
  rw [serializeCombinedFaces, hfirst, shownMaterial, hfirst, Option.bind_eq_bind, Option.bind_some,
    materialsList, List.getElem?_map]

/-- So its materials are shown if they are the first ones there. -/
lemma shows_iff (hhash : other.materialHash C = data.materialHash C) :
    (∀ m material, (collect C data.faces).materials[m]? = some material →
        shownMaterial C (serializeCombinedFaces C (serializeCombinedFaces C [] other) data) data m =
          some (getFaceHash C material)) ↔
      firsts (data.textures.firstFaces data.faces.length) <+:
        firsts (other.textures.firstFaces other.faces.length) := by
  rw [← materials_collect C data, ← materials_collect C other, List.prefix_iff_getElem?]
  constructor
  · intro h m hm
    have hshown := h m _ (List.getElem?_eq_getElem hm)
    rw [shownMaterial_eq C hhash, Option.map_eq_some_iff] at hshown
    obtain ⟨f, hf, heq⟩ := hshown
    rw [hf, getFaceHash_injective C heq]
  · intro h m f hf
    obtain ⟨hm, rfl⟩ := List.getElem?_eq_some_iff.mp hf
    rw [shownMaterial_eq C hhash, h m hm]
    rfl

/-- The texture entry with the same first faces and an entry for each of them, and another default
texture. -/
def TextureEntry.withDefault (t : TextureEntry n) (f : TextureEntryFace) : TextureEntry n where
  defaultTexture := f
  faceTextures i := if i < t.numFaces then some (t.getFace i) else none

lemma countP_range_lt {k m : Nat} (h : k ≤ m) : (List.range m).countP (fun i => i < k) = k := by
  obtain ⟨d, rfl⟩ := Nat.exists_eq_add_of_le h
  rw [List.range_add, List.countP_append, List.countP_map,
    List.countP_eq_length.mpr fun i hi => decide_eq_true (List.mem_range.mp hi),
    List.countP_eq_zero.mpr fun i _ => by simp, List.length_range, Nat.add_zero]

lemma numFaces_withDefault (t : TextureEntry n) (f : TextureEntryFace) :
    (t.withDefault f).numFaces = t.numFaces := by
  have hslots : ∀ i : Fin n, ((t.withDefault f).faceTextures i).isSome = decide (i < t.numFaces) := by
    intro i
    unfold TextureEntry.withDefault
    by_cases hi : i < t.numFaces <;> simp [hi]
  have hcount := countP_range_lt t.numFaces_le
  rw [TextureEntry.numFaces]
  simp only [hslots]
  rw [← List.map_coe_finRange_eq_range, List.countP_map] at hcount
  exact hcount

lemma getFace_withDefault_of_lt (t : TextureEntry n) (f : TextureEntryFace) {i : Fin n}
    (hi : i < t.numFaces) : (t.withDefault f).getFace i = t.getFace i := by
  simp only [TextureEntry.getFace, TextureEntry.withDefault, if_pos hi, Option.getD_some]

lemma getFace_withDefault_of_le (t : TextureEntry n) (f : TextureEntryFace) {i : Fin n}
    (hi : t.numFaces ≤ i) : (t.withDefault f).getFace i = f := by
  simp only [TextureEntry.getFace, TextureEntry.withDefault, if_neg (Nat.not_lt.mpr hi),
    Option.getD_none]

omit [DecidableEq η] in
/-- It has the same hash. -/
lemma getMeshMaterialHash_withDefault (t : TextureEntry n) (f : TextureEntryFace) :
    getMeshMaterialHash C (t.withDefault f) = getMeshMaterialHash C t := by
  rw [getMeshMaterialHash_eq_iff, numFaces_withDefault, firstFaces_eq_iff]
  exact fun i hi => getFace_withDefault_of_lt t f hi

/-- A prim is identified by its hash, among the prims with `k` faces, exactly if it has at least as
many entries as faces, and each of its materials is on one of its first `k` faces. -/
theorem identified_iff (data : PrimDisplayData n F) (k : Fin (n + 1)) :
    Identified C data k ↔ data.faces.length ≤ data.textures.numFaces ∧
      ∀ i : Fin n, i < data.faces.length →
        ∃ j : Fin n, j < k.val ∧ data.textures.getFace j = data.textures.getFace i := by
  constructor
  · intro h
    refine ⟨?_, ?_⟩
    · -- The default texture of the other prim is one that the first face without an entry has not.
      by_contra hfew
      have hfew : data.textures.numFaces < data.faces.length := Nat.lt_of_not_le hfew
      let i : Fin n := ⟨data.textures.numFaces, Nat.lt_of_lt_of_le hfew data.length_faces_le⟩
      let f : TextureEntryFace :=
        { data.textures.getFace i with bump := (data.textures.getFace i).bump + 1 }
      have hsame := (h (.ofTextures (data.textures.withDefault f) k)
        (length_faces_ofTextures _ (Nat.le_of_lt_succ k.isLt))
        (getMeshMaterialHash_withDefault C data.textures f)).1 i hfew
      have hdefault : (data.textures.withDefault f).getFace i = f :=
        getFace_withDefault_of_le _ _ (Nat.le_refl _)
      have hbump : (data.textures.getFace i).bump + 1 = (data.textures.getFace i).bump :=
        congrArg TextureEntryFace.bump (hdefault.symm.trans hsame)
      exact absurd hbump (by grind)
    · intro i hi
      have hhash : (PrimDisplayData.ofTextures data.textures k : PrimDisplayData n F).materialHash C =
          data.materialHash C := rfl
      have hshows := (shows_iff C hhash).mp (h (.ofTextures data.textures k)
        (length_faces_ofTextures _ (Nat.le_of_lt_succ k.isLt)) hhash).2
      have hmem : data.textures.getFace i ∈ firsts (data.textures.firstFaces data.faces.length) :=
        mem_firsts.mpr (mem_firstFaces.mpr ⟨i, hi, rfl⟩)
      have hmem := hshows.subset hmem
      rw [length_faces_ofTextures _ (Nat.le_of_lt_succ k.isLt)] at hmem
      exact mem_firstFaces.mp (mem_firsts.mp hmem)
  · rintro ⟨hentries, hcover⟩ other hk hhash
    have hfirst := (getMeshMaterialHash_eq_iff C other.textures data.textures).mp hhash
    have hnum : other.textures.numFaces = data.textures.numFaces := by
      have hlen := congrArg List.length hfirst
      rwa [length_firstFaces (TextureEntry.numFaces_le _),
        length_firstFaces (TextureEntry.numFaces_le _)] at hlen
    rw [hnum] at hfirst
    have hsame := (firstFaces_eq_iff _).mp hfirst
    refine ⟨fun i hi => hsame i (Nat.lt_of_lt_of_le hi hentries), (shows_iff C hhash).mpr ?_⟩
    rcases Nat.le_total data.faces.length k.val with hle | hle
    · -- The other prim has at least as many faces.
      obtain ⟨rest, hrest⟩ := firstFaces_append (t := other.textures) hle
      have hstart : other.textures.firstFaces data.faces.length =
          data.textures.firstFaces data.faces.length :=
        (firstFaces_eq_iff _).mpr fun i hi => hsame i (Nat.lt_of_lt_of_le hi hentries)
      rw [hk, hrest, hstart]
      exact firsts_prefix _ _
    · -- It has fewer, but all materials are on those.
      obtain ⟨rest, hrest⟩ := firstFaces_append (t := data.textures) hle
      have hstart : other.textures.firstFaces k = data.textures.firstFaces k :=
        (firstFaces_eq_iff _).mpr fun i hi =>
          hsame i (Nat.lt_of_lt_of_le hi (Nat.le_trans hle hentries))
      have hknown : ∀ f ∈ rest, f ∈ data.textures.firstFaces k := by
        intro f hf
        have hmem : f ∈ data.textures.firstFaces data.faces.length :=
          hrest ▸ List.mem_append_right _ hf
        obtain ⟨i, hi, rfl⟩ := mem_firstFaces.mp hmem
        exact mem_firstFaces.mpr (hcover i hi)
      simp only [hk, hrest, hstart, firsts_append_of_subset hknown, List.prefix_rfl]

/-- A prim with one face and no entries. -/
def untextured (f : TextureEntryFace) : PrimDisplayData 32 Nat :=
  .ofTextures ⟨f, fun _ => none⟩ 1

/-- Two such prims with different default textures have the same hash, and the second one is shown
with the material of the first. -/
theorem not_identified_untextured :
    let first : TextureEntryFace := ⟨0, false, 0, false, 0, 0, 0, 0, 0, [255, 0, 0, 255], 0, 0, []⟩
    let second : TextureEntryFace := ⟨0, false, 0, false, 0, 0, 0, 0, 0, [0, 0, 255, 255], 0, 0, []⟩
    let C := ChainHash.free Piece
    (untextured first).materialHash C = (untextured second).materialHash C ∧
      (collect C (untextured second).faces).materials = [second] ∧
      shownMaterial C (serializeCombinedFaces C (serializeCombinedFaces C [] (untextured first))
        (untextured second)) (untextured second) 0 = some (getFaceHash C first) ∧
      ¬ Identified C (untextured second) 1 := by
  refine ⟨by decide, by decide, by decide, fun h => ?_⟩
  have hsame := (h (untextured ⟨0, false, 0, false, 0, 0, 0, 0, 0, [255, 0, 0, 255], 0, 0, []⟩)
    (by decide) (by decide)).1 0 (by decide)
  exact absurd hsame (by decide)

end Identified

end FirstFaces

end Halcyon.PrimExporter
