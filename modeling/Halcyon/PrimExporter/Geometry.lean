import Halcyon.PrimExporter.CombinedMesh
import Mathlib.Data.Finset.Card

/-!
# What the combined mesh shows

`Preserved` compares the mesh that `Complete` makes with the faces it was made of: read through the
indices, the triangles of each submesh are the mirrored triangles of its material, the ranges of
the submeshes partition the indices and the vertices, every material has one submesh, and no
submesh uses a vertex of another one.

By `complete_eq` the mesh is that of a cloud that is ordered by materials, so each part is found by
counting.  The only thing that can be lost is a bit of an index: from 65536 distinct vertices on,
an index names an earlier vertex.  Then the triangles of a submesh are others, or its indices leave
its range.
-/

namespace Halcyon.PrimExporter

open Halcyon.Lib

variable {F η : Type}

namespace BabylonPrimFaceCombiner

/-! ## Reading a mesh -/

/-- The corner with an index, from the flat lists. -/
def Mesh.cornerAt (mesh : Mesh F) (i : UInt16) : Option (Corner F) :=
  PrimExporter.cornerAt mesh.vertices mesh.uvs mesh.normals i.toNat

/-- The indices of a submesh. -/
def Mesh.indicesOf (mesh : Mesh F) (s : SubmeshDesc) : List UInt16 :=
  (mesh.indices.drop s.indexStart).take s.indexCount

/-- The triangles of a submesh, read through its indices. -/
def Mesh.trianglesOf (mesh : Mesh F) (s : SubmeshDesc) :
    List (Option (Corner F) × Option (Corner F) × Option (Corner F)) :=
  (triples (mesh.indicesOf s)).map (mapTriple mesh.cornerAt)

/-- The number of vertices is that of the three flat lists. -/
structure Mesh.HasVertices (mesh : Mesh F) (n : Nat) : Prop where
  vertices : mesh.vertices.length = n * 3
  normals : mesh.normals.length = n * 3
  uvs : mesh.uvs.length = n * 2

/-- The mesh shows the faces: each submesh has the triangles of its material, the ranges partition
the indices and the vertices, there is one submesh for each material, and its indices are in its
vertex range. -/
structure Preserved (neg : F → F) (faces : List (Face F)) (materials : List TextureEntryFace)
    (mesh : Mesh F) : Prop where
  triangles : ∀ s ∈ mesh.subMeshes, (mesh.trianglesOf s).Perm
    ((faces.filter fun f => materials[s.materialIndex]? = some f.textureFace).flatMap
      (Face.triangles neg))
  indexRanges : mesh.subMeshes.flatMap (fun s => List.range' s.indexStart s.indexCount) =
    List.range mesh.indices.length
  vertexRanges : ∃ n, mesh.HasVertices n ∧
    mesh.subMeshes.flatMap (fun s => List.range' s.verticesStart s.verticesCount) = List.range n
  onePerMaterial : (mesh.subMeshes.map SubmeshDesc.materialIndex).Perm (List.range materials.length)
  inside : ∀ s ∈ mesh.subMeshes, ∀ i ∈ mesh.indicesOf s,
    s.verticesStart ≤ i.toNat ∧ i.toNat < s.verticesStart + s.verticesCount

section Reading

variable {α : Type}

lemma vector3At_flatMap (vs : List α) (x y z : α → F) (i : Nat) :
    vector3At (vs.flatMap fun v => [x v, y v, z v]) i =
      vs[i]?.map fun v => ⟨x v, y v, z v⟩ := by
  induction vs generalizing i with
  | nil => rfl
  | cons v vs ih =>
    cases i with
    | zero => rfl
    | succ i =>
      rw [List.getElem?_cons_succ, ← ih i, vector3At, vector3At, Nat.succ_mul]
      rfl

lemma vector2At_flatMap (vs : List α) (x y : α → F) (i : Nat) :
    vector2At (vs.flatMap fun v => [x v, y v]) i = vs[i]?.map fun v => ⟨x v, y v⟩ := by
  induction vs generalizing i with
  | nil => rfl
  | cons v vs ih =>
    cases i with
    | zero => rfl
    | succ i =>
      rw [List.getElem?_cons_succ, ← ih i, vector2At, vector2At, Nat.succ_mul]
      rfl

/-- Reading a corner from flat lists of corners. -/
lemma cornerAt_flatMap (vs : List α) (corner : α → Corner F) (i : Nat) :
    PrimExporter.cornerAt
        (vs.flatMap fun v => [(corner v).position.x, (corner v).position.y, (corner v).position.z])
        (vs.flatMap fun v => [(corner v).texCoord.x, (corner v).texCoord.y])
        (vs.flatMap fun v => [(corner v).normal.x, (corner v).normal.y, (corner v).normal.z]) i =
      vs[i]?.map corner := by
  rw [PrimExporter.cornerAt, vector3At_flatMap, vector2At_flatMap, vector3At_flatMap]
  cases vs[i]? <;> rfl

end Reading

/-! ## The mesh of a cloud -/

section MeshOf

variable [DecidableEq F] {cloud : List (CloudVertex F)}

lemma cornerAt_meshOf (i : UInt16) :
    (meshOf cloud).cornerAt i = (firsts cloud)[i.toNat]?.map CloudVertex.corner :=
  cornerAt_flatMap (firsts cloud) CloudVertex.corner i.toNat

lemma hasVertices_meshOf (cloud : List (CloudVertex F)) :
    (meshOf cloud).HasVertices (firsts cloud).length := by
  constructor <;>
    simp [meshOf, List.length_flatMap, Nat.mul_comm]

/-- The indices of a submesh are those of the vertices with its material. -/
lemma indicesOf_describe (hordered : Ordered CloudVertex.material cloud) (m : Nat) :
    (meshOf cloud).indicesOf (describe cloud m) =
      (cloud.filter fun v => v.material = m).map (indexOf cloud) := by
  rw [← slice_eq_filter m hordered, List.map_take, List.map_drop]
  rfl

lemma ordered_firsts (hordered : Ordered CloudVertex.material cloud) :
    Ordered CloudVertex.material (firsts cloud) :=
  hordered.sublist (firsts_sublist cloud)

omit [DecidableEq F] in
/-- The materials of the submeshes are ascending. -/
lemma ascending_materials (hordered : Ordered CloudVertex.material cloud) :
    (firsts (cloud.map CloudVertex.material)).Pairwise (· < ·) := by
  have hle : (firsts (cloud.map CloudVertex.material)).Pairwise (· ≤ ·) :=
    (List.pairwise_map.mpr hordered).sublist (firsts_sublist _)
  exact (hle.and (nodup_firsts _)).imp fun h => Nat.lt_of_le_of_ne h.1 h.2

omit [DecidableEq F] in
/-- The ranges of a list that has the materials of the cloud. -/
lemma ranges_eq (hordered : Ordered CloudVertex.material cloud) {l : List (CloudVertex F)}
    (hl : ∀ v ∈ l, v ∈ cloud) :
    (firsts (cloud.map CloudVertex.material)).flatMap
        (fun m => List.range' (l.countP fun v => v.material < m) (l.countP fun v => v.material = m)) =
      List.range l.length := by
  rw [flatMap_range'_countP (ascending_materials hordered) (fun m _ => Nat.zero_le m)
    fun v hv _ => mem_firsts.mpr (List.mem_map_of_mem (hl v hv)), List.range_eq_range']
  congr 1
  · exact List.countP_eq_zero.mpr fun v _ h => absurd (of_decide_eq_true h) (Nat.not_lt_zero _)
  · exact List.countP_eq_length.mpr fun v _ => decide_eq_true (Nat.zero_le _)

/-- Both lists are partitioned, whatever the number of vertices. -/
lemma partitions_meshOf (hordered : Ordered CloudVertex.material cloud) :
    (meshOf cloud).subMeshes.flatMap (fun s => List.range' s.indexStart s.indexCount) =
        List.range (meshOf cloud).indices.length ∧
      (meshOf cloud).subMeshes.flatMap (fun s => List.range' s.verticesStart s.verticesCount) =
        List.range (firsts cloud).length := by
  rw [meshOf, List.flatMap_map, List.flatMap_map, List.length_map]
  exact ⟨ranges_eq hordered fun v hv => hv, ranges_eq hordered fun v hv => mem_firsts.mp hv⟩

variable {v : CloudVertex F}

/-- Up to 65536 distinct vertices, an index is the position of its vertex. -/
lemma toNat_indexOf (hv : v ∈ cloud) (hfew : (firsts cloud).length ≤ 65536) :
    (indexOf cloud v).toNat = (firsts cloud).idxOf v := by
  have hlt := List.idxOf_lt_length_of_mem (mem_firsts.mpr hv)
  rw [indexOf, UInt16.toNat_ofNat']
  exact Nat.mod_eq_of_lt (by omega)

/-- So each vertex of the cloud is read back, -/
lemma cornerAt_indexOf (hv : v ∈ cloud) (hfew : (firsts cloud).length ≤ 65536) :
    (meshOf cloud).cornerAt (indexOf cloud v) = some v.corner := by
  rw [cornerAt_meshOf, toNat_indexOf hv hfew, List.getElem?_idxOf (mem_firsts.mpr hv)]
  rfl

/-- and its index is in the range of its submesh. -/
lemma inside_indexOf (hordered : Ordered CloudVertex.material cloud) (hv : v ∈ cloud)
    (hfew : (firsts cloud).length ≤ 65536) :
    (describe cloud v.material).verticesStart ≤ (indexOf cloud v).toNat ∧
      (indexOf cloud v).toNat < (describe cloud v.material).verticesStart +
        (describe cloud v.material).verticesCount := by
  rw [toNat_indexOf hv hfew]
  exact idxOf_mem_slice (ordered_firsts hordered) (mem_firsts.mpr hv)

end MeshOf

/-! ## The cloud and the faces -/

section Faces

variable {neg : F → F} {faces : List (Face F)} {sorted : List (Nat × Face F)}

/-- What a sorted list with entries has: each of them, ordered by their keys. -/
structure IsSortedList (entries sorted : List (Nat × Face F)) : Prop where
  perm : sorted.Perm entries
  ordered : Ordered Prod.fst sorted

/-- A corner with its material, as a vertex of the cloud. -/
def toVertex (faces : List (Face F)) (c : Corner F × TextureEntryFace) : CloudVertex F :=
  ⟨c.1, (materialsOf faces).idxOf c.2⟩

variable {f : Face F}

lemma mem_materialsOf (hf : f ∈ faces) : f.textureFace ∈ materialsOf faces :=
  mem_firsts.mpr (List.mem_map_of_mem hf)

/-- The number of a material is the position of it. -/
lemma getElem?_materialsOf_iff (hf : f ∈ faces) (m : Nat) :
    (materialsOf faces)[m]? = some f.textureFace ↔
      (materialsOf faces).idxOf f.textureFace = m := by
  refine ⟨fun h => ?_, ?_⟩
  · obtain ⟨hm, heq⟩ := List.getElem?_eq_some_iff.mp h
    rw [← heq]
    exact (nodup_firsts _).idxOf_getElem m hm
  · rintro rfl
    exact List.getElem?_idxOf (mem_materialsOf hf)

lemma length_corners (neg : F → F) (hf : f.InRange) :
    (f.corners neg).length = f.userData.indices.length := by
  rw [Face.corners, List.length_map]
  exact List.filterMap_length_eq_length.mpr hf.corner

lemma textureFace_of_mem_corners {c : Corner F × TextureEntryFace} (hc : c ∈ f.corners neg) :
    c.2 = f.textureFace := by
  obtain ⟨_, -, rfl⟩ := List.mem_map.mp hc
  rfl

/-- The cloud has the corners of the faces, in some order. -/
lemma cloudOf_perm (hfaces : ∀ f ∈ faces, f.InRange)
    (hsorted : sorted.Perm (faces.map (entryOf faces))) :
    (cloudOf neg sorted).Perm ((faces.flatMap (Face.corners neg)).map (toVertex faces)) := by
  refine (hsorted.flatMap_right _).trans (List.Perm.of_eq ?_)
  rw [List.flatMap_map, List.map_flatMap]
  refine List.flatMap_congr fun f hf => ?_
  rw [entryOf, (faceCloud_eq (hfaces f hf) _).2.2]
  refine List.map_congr_left fun c hc => ?_
  rw [toVertex, textureFace_of_mem_corners hc]

/-- Different corners or materials make different vertices. -/
lemma length_firsts_cloudOf [DecidableEq F] (hfaces : ∀ f ∈ faces, f.InRange)
    (hsorted : sorted.Perm (faces.map (entryOf faces))) :
    (firsts (cloudOf neg sorted)).length = (faces.flatMap (Face.corners neg)).dedup.length := by
  have hinj : Set.InjOn (toVertex faces) (faces.flatMap (Face.corners neg)).toFinset := by
    intro c hc d hd h
    obtain ⟨f, hf, hcf⟩ := List.mem_flatMap.mp (List.mem_toFinset.mp hc)
    obtain ⟨hcorner, hmaterial⟩ := CloudVertex.mk.inj h
    have hmem := mem_materialsOf hf
    rw [← textureFace_of_mem_corners hcf] at hmem
    exact Prod.ext hcorner ((List.idxOf_inj hmem).mp hmaterial)
  rw [length_firsts, ← List.card_toFinset, ← List.card_toFinset,
    List.toFinset_eq_of_perm _ _ (cloudOf_perm hfaces hsorted), ← Finset.card_image_of_injOn hinj]
  congr 1
  ext v
  simp only [List.mem_toFinset, List.mem_map, Finset.mem_image]

/-- The materials of the cloud are those with a triangle. -/
lemma mem_materials_cloudOf_iff (hfaces : ∀ f ∈ faces, f.InRange)
    (hsorted : sorted.Perm (faces.map (entryOf faces))) (m : Nat) :
    m ∈ (cloudOf neg sorted).map CloudVertex.material ↔
      ∃ f ∈ faces, f.userData.indices ≠ [] ∧ (materialsOf faces).idxOf f.textureFace = m := by
  rw [((cloudOf_perm hfaces hsorted).map _).mem_iff, List.map_map, List.mem_map]
  constructor
  · rintro ⟨c, hc, rfl⟩
    obtain ⟨f, hf, hcf⟩ := List.mem_flatMap.mp hc
    refine ⟨f, hf, ?_, ?_⟩
    · intro hnil
      have hlen := length_corners neg (hfaces f hf)
      rw [hnil, List.length_nil, List.length_eq_zero_iff] at hlen
      rw [hlen] at hcf
      cases hcf
    · rw [← textureFace_of_mem_corners hcf]
      rfl
  · rintro ⟨f, hf, hne, rfl⟩
    have hcorners : f.corners neg ≠ [] := by
      rw [← List.length_pos_iff, length_corners neg (hfaces f hf)]
      exact List.length_pos_of_ne_nil hne
    obtain ⟨c, hc⟩ := List.exists_mem_of_ne_nil _ hcorners
    refine ⟨c, List.mem_flatMap.mpr ⟨f, hf, hc⟩, ?_⟩
    rw [Function.comp_apply, toVertex, textureFace_of_mem_corners hc]

/-- The triangles of the faces with a material are those of its entries. -/
lemma flatMap_triangles_perm (hfaces : ∀ f ∈ faces, f.InRange)
    (hsorted : sorted.Perm (faces.map (entryOf faces))) (m : Nat) :
    (((sorted.filter fun e => e.1 = m).flatMap (entryTriangles neg)).map
        (mapTriple fun v => some v.corner)).Perm
      ((faces.filter fun f => (materialsOf faces)[m]? = some f.textureFace).flatMap
        (Face.triangles neg)) := by
  refine (((hsorted.filter _).flatMap_right _).map _).trans (List.Perm.of_eq ?_)
  rw [List.filter_map, List.flatMap_map, List.map_flatMap]
  have hfilter : faces.filter ((fun e : Nat × Face F => decide (e.1 = m)) ∘ entryOf faces) =
      faces.filter fun f => (materialsOf faces)[m]? = some f.textureFace := by
    refine List.filter_congr fun f hf => ?_
    rw [Bool.eq_iff_iff, Function.comp_apply, decide_eq_true_eq, decide_eq_true_eq,
      getElem?_materialsOf_iff hf]
    rfl
  rw [hfilter]
  refine List.flatMap_congr fun f hf => ?_
  exact (faceCloud_eq (hfaces f (List.mem_filter.mp hf).1) _).2.1

/-! ## When the faces are preserved -/

section Preserved

variable [DecidableEq F] {neg : F → F} {faces : List (Face F)} {sorted : List (Nat × Face F)}

/-- The triangles of a submesh are read through the indices of those of its entries. -/
lemma trianglesOf_describe (hordered : Ordered Prod.fst sorted) (m : Nat) :
    (meshOf (cloudOf neg sorted)).trianglesOf (describe (cloudOf neg sorted) m) =
      ((sorted.filter fun e => e.1 = m).flatMap (entryTriangles neg)).map
        (mapTriple fun v =>
          (meshOf (cloudOf neg sorted)).cornerAt (indexOf (cloudOf neg sorted) v)) := by
  rw [Mesh.trianglesOf, indicesOf_describe (ordered_cloudOf hordered), filter_cloudOf, triples_map,
    triples_flatMap_unpack, List.map_map]
  rfl

/-- Up to 65536 distinct vertices, the triangles are those of the entries. -/
lemma trianglesOf_eq_of_le (hordered : Ordered Prod.fst sorted)
    (hfew : (firsts (cloudOf neg sorted)).length ≤ 65536) (m : Nat) :
    (meshOf (cloudOf neg sorted)).trianglesOf (describe (cloudOf neg sorted) m) =
      ((sorted.filter fun e => e.1 = m).flatMap (entryTriangles neg)).map
        (mapTriple fun v => some v.corner) := by
  rw [trianglesOf_describe hordered]
  refine List.map_congr_left fun t ht => ?_
  have hmem : ∀ v ∈ unpack t, v ∈ cloudOf neg sorted := by
    intro v hv
    have hv := List.mem_flatMap.mpr ⟨t, ht, hv⟩
    rw [← filter_cloudOf] at hv
    exact (List.mem_filter.mp hv).1
  simp only [mapTriple]
  rw [cornerAt_indexOf (hmem _ (by simp [unpack])) hfew,
    cornerAt_indexOf (hmem _ (by simp [unpack])) hfew,
    cornerAt_indexOf (hmem _ (by simp [unpack])) hfew]

/-- Conversely, where the triangles are right and the indices are in their ranges, there are no more
than 65536 vertices: the next one is read at an earlier position, where a vertex with its corner
and its material is not another one. -/
lemma length_le_of_trianglesOf (hordered : Ordered Prod.fst sorted)
    (htriangles : ∀ s ∈ (meshOf (cloudOf neg sorted)).subMeshes,
      ((meshOf (cloudOf neg sorted)).trianglesOf s).Perm
        (((sorted.filter fun e => e.1 = s.materialIndex).flatMap (entryTriangles neg)).map
          (mapTriple fun v => some v.corner)))
    (hinside : ∀ s ∈ (meshOf (cloudOf neg sorted)).subMeshes,
      ∀ i ∈ (meshOf (cloudOf neg sorted)).indicesOf s,
        s.verticesStart ≤ i.toNat ∧ i.toNat < s.verticesStart + s.verticesCount) :
    (firsts (cloudOf neg sorted)).length ≤ 65536 := by
  by_contra hmany
  have hlt : 65536 < (firsts (cloudOf neg sorted)).length := Nat.lt_of_not_le hmany
  have hcloud : Ordered CloudVertex.material (cloudOf neg sorted) := ordered_cloudOf hordered
  obtain ⟨v, hv⟩ : ∃ v, (firsts (cloudOf neg sorted))[65536]? = some v :=
    ⟨_, List.getElem?_eq_getElem hlt⟩
  have hvcloud : v ∈ cloudOf neg sorted := mem_firsts.mp (List.mem_of_getElem? hv)
  have hs : describe (cloudOf neg sorted) v.material ∈ (meshOf (cloudOf neg sorted)).subMeshes :=
    List.mem_map_of_mem (mem_firsts.mpr (List.mem_map_of_mem hvcloud))
  have hperm := (htriangles _ hs).flatMap_right unpack
  rw [trianglesOf_describe hordered, flatMap_unpack_mapTriple, flatMap_unpack_mapTriple,
    ← filter_cloudOf, describe, ← filter_cloudOf] at hperm
  obtain ⟨w, hw, hread⟩ := List.mem_map.mp (hperm.mem_iff.mpr
    (List.mem_map_of_mem (List.mem_filter.mpr ⟨hvcloud, decide_eq_true rfl⟩)))
  rw [cornerAt_meshOf, Option.map_eq_some_iff] at hread
  obtain ⟨u, hu, hcorner⟩ := hread
  obtain ⟨hge, hless⟩ := hinside _ hs (indexOf (cloudOf neg sorted) w) (by
    rw [indicesOf_describe hcloud]
    exact List.mem_map_of_mem hw)
  have hmaterial : u.material = v.material :=
    key_of_mem_slice _ (ordered_firsts hcloud) hu hge hless
  obtain rfl : u = v := by
    cases u
    cases v
    exact CloudVertex.mk.injEq .. ▸ ⟨hcorner, hmaterial⟩
  have hsame := (List.getElem?_inj (Nat.lt_trans (UInt16.toNat_lt _) hlt)
    (nodup_firsts _)).mp (hu.trans hv.symm)
  have := UInt16.toNat_lt (indexOf (cloudOf neg sorted) w)
  omega

/-- There is a submesh for each material with a triangle. -/
lemma onePerMaterial_iff (hfaces : ∀ f ∈ faces, f.InRange)
    (hsorted : sorted.Perm (faces.map (entryOf faces))) :
    ((meshOf (cloudOf neg sorted)).subMeshes.map SubmeshDesc.materialIndex).Perm
        (List.range (materialsOf faces).length) ↔
      ∀ f ∈ faces, ∃ g ∈ faces, g.textureFace = f.textureFace ∧ g.userData.indices ≠ [] := by
  have hmap : (meshOf (cloudOf neg sorted)).subMeshes.map SubmeshDesc.materialIndex =
      firsts ((cloudOf neg sorted).map CloudVertex.material) := by
    rw [meshOf, List.map_map]
    exact List.map_id _
  rw [hmap, List.perm_ext_iff_of_nodup (nodup_firsts _) List.nodup_range]
  simp only [mem_firsts, mem_materials_cloudOf_iff hfaces hsorted, List.mem_range]
  constructor
  · intro h f hf
    have hmem := mem_materialsOf hf
    obtain ⟨g, hg, hne, hidx⟩ := (h _).mpr (List.idxOf_lt_length_of_mem hmem)
    exact ⟨g, hg, (List.idxOf_inj (mem_materialsOf hg)).mp hidx, hne⟩
  · intro h m
    constructor
    · rintro ⟨f, hf, -, rfl⟩
      exact List.idxOf_lt_length_of_mem (mem_materialsOf hf)
    · intro hm
      obtain ⟨f, hf, heq⟩ := List.mem_map.mp (mem_firsts.mp (List.getElem_mem hm))
      obtain ⟨g, hg, hsame, hne⟩ := h f hf
      refine ⟨g, hg, hne, ?_⟩
      rw [← getElem?_materialsOf_iff hg, hsame, List.getElem?_eq_getElem hm, ← heq]

/-- The mesh of sorted entries shows the faces exactly if there are no more than 65536 distinct
corners and every material has a triangle. -/
lemma preserved_meshOf_iff (hfaces : ∀ f ∈ faces, f.InRange)
    (hsorted : IsSortedList (faces.map (entryOf faces)) sorted) :
    Preserved neg faces (materialsOf faces) (meshOf (cloudOf neg sorted)) ↔
      (faces.flatMap (Face.corners neg)).dedup.length ≤ 65536 ∧
        ∀ f ∈ faces, ∃ g ∈ faces, g.textureFace = f.textureFace ∧ g.userData.indices ≠ [] := by
  have hcloud : Ordered CloudVertex.material (cloudOf neg sorted) := ordered_cloudOf hsorted.ordered
  rw [← length_firsts_cloudOf hfaces hsorted.perm, ← onePerMaterial_iff hfaces hsorted.perm]
  refine ⟨fun h => ⟨?_, h.onePerMaterial⟩, fun ⟨hfew, hone⟩ => ?_⟩
  · refine length_le_of_trianglesOf hsorted.ordered (fun s hs => ?_) h.inside
    exact (h.triangles s hs).trans (flatMap_triangles_perm hfaces hsorted.perm _).symm
  · obtain ⟨hindexes, hvertices⟩ := partitions_meshOf hcloud
    refine ⟨?_, hindexes, ⟨_, hasVertices_meshOf _, hvertices⟩, hone, ?_⟩
    · intro s hs
      obtain ⟨m, -, rfl⟩ := List.mem_map.mp hs
      rw [trianglesOf_eq_of_le hsorted.ordered hfew]
      exact flatMap_triangles_perm hfaces hsorted.perm m
    · intro s hs i hi
      obtain ⟨m, -, rfl⟩ := List.mem_map.mp hs
      rw [indicesOf_describe hcloud] at hi
      obtain ⟨v, hv, rfl⟩ := List.mem_map.mp hi
      obtain ⟨hvcloud, hm⟩ := List.mem_filter.mp hv
      obtain rfl := of_decide_eq_true hm
      exact inside_indexOf hcloud hvcloud hfew

/-- `Complete` on the faces of a prim makes a mesh of the cloud. -/
lemma complete_eq_some (neg : F → F) (hfaces : ∀ f ∈ faces, f.InRange)
    (hsome : ∃ f ∈ faces, f.userData.indices ≠ [])
    (hsorted : IsSortedList (faces.map (entryOf faces)) sorted) :
    complete neg sorted = some (meshOf (cloudOf neg sorted)) := by
  refine complete_eq (createVertexCloud_eq fun e he => ?_) (ordered_cloudOf hsorted.ordered) ?_
  · obtain ⟨f, hf, rfl⟩ := List.mem_map.mp (hsorted.perm.mem_iff.mp he)
    exact hfaces f hf
  · obtain ⟨f, hf, hne⟩ := hsome
    have hmem : (materialsOf faces).idxOf f.textureFace ∈
        (cloudOf neg sorted).map CloudVertex.material :=
      (mem_materials_cloudOf_iff hfaces hsorted.perm _).mpr ⟨f, hf, hne, rfl⟩
    intro hnil
    rw [hnil] at hmem
    cases hmem

/-- Combining the faces of a prim with at least one triangle always makes a mesh, and it shows the
faces exactly if there are no more than 65536 distinct corners, each with its material, and every
material has a triangle. -/
theorem preserved_iff_le [DecidableEq η] (C : ChainHash Piece η) (neg : F → F)
    (faces : List (Face F)) (sorted : List (Nat × Face F)) (hfaces : ∀ f ∈ faces, f.InRange)
    (hsome : ∃ f ∈ faces, f.userData.indices ≠ [])
    (hsorted : IsSortedList (collect C faces).entries sorted) :
    ∃ mesh, complete neg sorted = some mesh ∧
      (Preserved neg faces (collect C faces).materials mesh ↔
        (faces.flatMap (Face.corners neg)).dedup.length ≤ 65536 ∧
          ∀ f ∈ faces, ∃ g ∈ faces,
            g.textureFace = f.textureFace ∧ g.userData.indices ≠ []) := by
  obtain ⟨hmaterials, hentries, -⟩ := collect_eq C faces
  rw [hentries] at hsorted
  rw [hmaterials]
  exact ⟨_, complete_eq_some neg hfaces hsome hsorted, preserved_meshOf_iff hfaces hsorted⟩

/-! ## Prims by their corners -/

/-- A face with the corners of a list, each with its own index. -/
def ofCorners (t : TextureEntryFace) (cs : List (Corner F)) : Face F where
  textureFace := t
  userData :=
    { vertices := cs.flatMap fun c => [c.position.x, c.position.y, c.position.z]
      texCoords := cs.flatMap fun c => [c.texCoord.x, c.texCoord.y]
      normals := cs.flatMap fun c => [c.normal.x, c.normal.y, c.normal.z]
      indices := (List.range cs.length).map UInt16.ofNat }

omit [DecidableEq F] in
lemma cornerAt_ofCorners (t : TextureEntryFace) (cs : List (Corner F)) {i : Nat}
    (hi : i < 65536) : (ofCorners t cs).cornerAt (UInt16.ofNat i) = cs[i]? := by
  have htoNat : (UInt16.ofNat i).toNat = i := by
    rw [UInt16.toNat_ofNat']
    exact Nat.mod_eq_of_lt hi
  rw [Face.cornerAt, htoNat]
  exact (cornerAt_flatMap cs id i).trans (Option.map_id_apply)

omit [DecidableEq F] in
lemma inRange_ofCorners (t : TextureEntryFace) {cs : List (Corner F)} (hwhole : cs.length % 3 = 0)
    (hle : cs.length ≤ 65536) : (ofCorners t cs).InRange := by
  refine ⟨?_, ?_⟩
  · rw [ofCorners, List.length_map, List.length_range, hwhole]
  · intro i hi
    obtain ⟨k, hk, rfl⟩ := List.mem_map.mp hi
    have hk := List.mem_range.mp hk
    have hcorner := cornerAt_ofCorners t cs (Nat.lt_of_lt_of_le hk hle)
    rw [List.getElem?_eq_getElem hk] at hcorner
    exact Option.isSome_of_eq_some hcorner

omit [DecidableEq F] in
lemma corners_ofCorners (t : TextureEntryFace) {cs : List (Corner F)} (hle : cs.length ≤ 65536) :
    (ofCorners t cs).corners neg = cs.map fun c => (mirror neg c, t) := by
  have hread : (List.range cs.length).map
      (fun i => (ofCorners t cs).cornerAt (UInt16.ofNat i)) = cs.map some := by
    refine List.ext_getElem (by simp) fun i hi _ => ?_
    rw [List.length_map, List.length_range] at hi
    rw [List.getElem_map, List.getElem_range, List.getElem_map,
      cornerAt_ofCorners t cs (Nat.lt_of_lt_of_le hi hle), List.getElem?_eq_getElem hi]
  have hfilter : (ofCorners t cs).userData.indices.filterMap (ofCorners t cs).cornerAt =
      ((List.range cs.length).map
        fun i => (ofCorners t cs).cornerAt (UInt16.ofNat i)).filterMap id := by
    rw [List.filterMap_map, ofCorners, List.filterMap_map]
    rfl
  rw [Face.corners, hfilter, hread, List.filterMap_map]
  exact congrArg (List.map _) List.filterMap_some

section Large

/-- A material. -/
def plainFace : TextureEntryFace :=
  ⟨0, false, 0, false, 0, 0, 0, 0, 0, [], 0, 0, []⟩

/-- The corner with a number. -/
def numbered (k : Nat) : Corner Nat := ⟨⟨k, 0, 0⟩, ⟨0, 0⟩, ⟨0, 0, 0⟩⟩

/-- A prim with two faces of one material: the first `n` corners, and three more. -/
def twoFaces (n : Nat) : List (Face Nat) :=
  [ofCorners plainFace ((List.range n).map numbered),
    ofCorners plainFace ((List.range 3).map fun k => numbered (n + k))]

lemma inRange_twoFaces {n : Nat} (hwhole : n % 3 = 0) (hle : n ≤ 65536) :
    ∀ f ∈ twoFaces n, f.InRange := by
  intro f hf
  rcases List.mem_pair.mp hf with rfl | rfl
  · refine inRange_ofCorners _ ?_ ?_ <;> rwa [List.length_map, List.length_range]
  · refine inRange_ofCorners _ ?_ ?_ <;> rw [List.length_map, List.length_range]
    omega

/-- All of its corners are different. -/
lemma length_dedup_twoFaces {n : Nat} (hle : n ≤ 65536) :
    ((twoFaces n).flatMap (Face.corners id)).dedup.length = n + 3 := by
  have hcorners : (twoFaces n).flatMap (Face.corners id) =
      (List.range (n + 3)).map fun k => (mirror id (numbered k), plainFace) := by
    rw [twoFaces, List.flatMap_cons, List.flatMap_cons, List.flatMap_nil, List.append_nil,
      corners_ofCorners _ (by rwa [List.length_map, List.length_range]),
      corners_ofCorners _ (by rw [List.length_map, List.length_range]; omega),
      List.range_add, List.map_append, List.map_map, List.map_map, List.map_map]
    rfl
  have hinj : Function.Injective fun k => (mirror id (numbered k), plainFace) := by
    intro j k h
    exact congrArg (fun c : Corner Nat × TextureEntryFace => c.1.position.x) h
  rw [hcorners, (List.nodup_range.map hinj).dedup, List.length_map, List.length_range]

lemma isSortedList_twoFaces (n : Nat) :
    IsSortedList ((twoFaces n).map (entryOf (twoFaces n))) ((twoFaces n).map (entryOf (twoFaces n))) :=
  ⟨List.Perm.refl _, List.pairwise_pair.mpr (Nat.le_refl _)⟩

/-- Two faces that are combined as they should be, -/
theorem preserved_small : ∃ mesh,
    complete id (collect (ChainHash.free Piece) (twoFaces 3)).entries = some mesh ∧
      Preserved id (twoFaces 3) (collect (ChainHash.free Piece) (twoFaces 3)).materials mesh := by
  have hfaces := inRange_twoFaces (n := 3) rfl (by omega)
  have hsome : ∃ f ∈ twoFaces 3, f.userData.indices ≠ [] :=
    ⟨_, List.mem_cons_self, List.cons_ne_nil _ _⟩
  have hsorted : IsSortedList (collect (ChainHash.free Piece) (twoFaces 3)).entries
      (collect (ChainHash.free Piece) (twoFaces 3)).entries := by
    rw [(collect_eq _ _).2.1]
    exact isSortedList_twoFaces 3
  obtain ⟨mesh, hmesh, hiff⟩ := preserved_iff_le (ChainHash.free Piece) id (twoFaces 3) _ hfaces
    hsome hsorted
  refine ⟨mesh, hmesh, hiff.mpr ⟨?_, ?_⟩⟩
  · rw [length_dedup_twoFaces (by omega)]
    omega
  · intro f hf
    exact ⟨f, hf, rfl, by rcases List.mem_pair.mp hf with rfl | rfl <;> exact List.cons_ne_nil _ _⟩

/-- and two with 65538 corners, three more than the first face has, which are not. -/
theorem not_preserved_large : ∃ mesh,
    complete id (collect (ChainHash.free Piece) (twoFaces 65535)).entries = some mesh ∧
      ¬ Preserved id (twoFaces 65535) (collect (ChainHash.free Piece) (twoFaces 65535)).materials
        mesh := by
  have hfaces := inRange_twoFaces (n := 65535) rfl (by omega)
  have hsome : ∃ f ∈ twoFaces 65535, f.userData.indices ≠ [] :=
    ⟨_, List.mem_cons_of_mem _ List.mem_cons_self, List.cons_ne_nil _ _⟩
  have hsorted := isSortedList_twoFaces 65535
  obtain ⟨hmaterials, hentries, -⟩ := collect_eq (ChainHash.free Piece) (twoFaces 65535)
  rw [hmaterials, hentries]
  refine ⟨_, complete_eq_some id hfaces hsome hsorted, fun hpreserved => ?_⟩
  obtain ⟨hfew, -⟩ := (preserved_meshOf_iff hfaces hsorted).mp hpreserved
  rw [length_dedup_twoFaces (by omega)] at hfew
  omega

end Large

end Preserved

end Faces

end BabylonPrimFaceCombiner

end Halcyon.PrimExporter
