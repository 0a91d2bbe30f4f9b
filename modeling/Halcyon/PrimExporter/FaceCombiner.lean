import Halcyon.Lib.Distinct
import Halcyon.PrimExporter.ObjectHasher

/-!
# Combining the faces of a prim into one mesh

`BabylonPrimFaceCombiner` takes the faces of a prim one by one and numbers their materials in the
order in which they come first.  `Complete` goes over the faces ordered by material and makes one
list of vertices of them, three for each triangle, with x mirrored in positions and normals.  Equal
vertices of one material become one vertex of the mesh, and where the material changes a submesh
ends.

A `SortedList` keeps the faces ordered by material; nothing is assumed about the order of faces of
one material.  Numbers of vertices are cut to 16 bits (`ushort`).  Floats are values of an arbitrary
type with a function for the sign.
-/

namespace Halcyon.PrimExporter

open Halcyon.Lib

/-- `Vector3`. -/
structure Vector3 (F : Type) where
  x : F
  y : F
  z : F
  deriving DecidableEq

/-- `Vector2`. -/
structure Vector2 (F : Type) where
  x : F
  y : F
  deriving DecidableEq

/-- A corner of a triangle: its position, texture coordinate and normal. -/
structure Corner (F : Type) where
  position : Vector3 F
  texCoord : Vector2 F
  normal : Vector3 F
  deriving DecidableEq

/-- `PrimFace.FaceData`: flat arrays, and the indices of the triangles. -/
structure FaceData (F : Type) where
  vertices : List F
  texCoords : List F
  normals : List F
  indices : List UInt16
  deriving DecidableEq

/-- `Face`. -/
structure Face (F : Type) where
  textureFace : TextureEntryFace
  userData : FaceData F
  deriving DecidableEq

/-- `SubmeshDesc`. -/
structure SubmeshDesc where
  materialIndex : Nat
  verticesStart : Nat
  verticesCount : Nat
  indexStart : Nat
  indexCount : Nat
  deriving DecidableEq

/-- A vertex of the cloud: a corner and the number of its material. -/
structure CloudVertex (F : Type) where
  corner : Corner F
  material : Nat
  deriving DecidableEq

variable {F η : Type}

/-- A vector at a position of a flat array; outside of the array there is an exception. -/
def vector3At (data : List F) (i : Nat) : Option (Vector3 F) := do
  return ⟨← data[i * 3]?, ← data[i * 3 + 1]?, ← data[i * 3 + 2]?⟩

/-- A vector of two components. -/
def vector2At (data : List F) (i : Nat) : Option (Vector2 F) := do
  return ⟨← data[i * 2]?, ← data[i * 2 + 1]?⟩

/-- The corner with an index. -/
def cornerAt (vertices texCoords normals : List F) (i : Nat) : Option (Corner F) := do
  return ⟨← vector3At vertices i, ← vector2At texCoords i, ← vector3At normals i⟩

/-- The elements of a list in groups of three. -/
def triples {α : Type} : List α → List (α × α × α)
  | a :: b :: c :: rest => (a, b, c) :: triples rest
  | _ => []

/-- The same for each of the three. -/
def mapTriple {α β : Type} (f : α → β) (t : α × α × α) : β × β × β := (f t.1, f t.2.1, f t.2.2)

namespace BabylonPrimFaceCombiner

/-! ## Collecting the faces -/

/-- The members that `CombineFace` changes; the entries of the sorted list in the order in which
they were added. -/
structure Collected (F η : Type) where
  materials : List TextureEntryFace
  knownMaterials : Dict η Nat
  entries : List (Nat × Face F)

section Collect

variable (C : ChainHash Piece η) [DecidableEq η]

/-- `CombineFace`. -/
def combineFace (s : Collected F η) (face : Face F) : Collected F η :=
  let matHash := getFaceHash C face.textureFace
  match s.knownMaterials.get? matHash with
  | some matIdx => { s with entries := s.entries ++ [(matIdx, face)] }
  | none =>
    { materials := s.materials ++ [face.textureFace]
      knownMaterials := s.knownMaterials.add matHash s.materials.length
      entries := s.entries ++ [(s.materials.length, face)] }

/-- A new combiner after all the faces. -/
def collect (faces : List (Face F)) : Collected F η :=
  faces.foldl (combineFace C) ⟨[], [], []⟩

end Collect

/-! ## `Complete` -/

section Complete

variable (neg : F → F)

/-- A corner with x mirrored in position and normal. -/
def mirror (c : Corner F) : Corner F where
  position := { c.position with x := neg c.position.x }
  texCoord := c.texCoord
  normal := { c.normal with x := neg c.normal.x }

/-- The vertex that `CreateVertexCloud` adds for an index. -/
def cloudVertex (faceData : FaceData F) (material : Nat) (i : UInt16) : Option (CloudVertex F) := do
  let c ← cornerAt faceData.vertices faceData.texCoords faceData.normals i.toNat
  return ⟨mirror neg c, material⟩

/-- The loop of `CreateVertexCloud` over the indices of a face.  `Vertices` is still empty, so that
the base that is added to an index is 0. -/
def faceCloud (faceData : FaceData F) (material : Nat) : List UInt16 → Option (List (CloudVertex F))
  | [] => some []
  | a :: b :: c :: rest => do
    let va ← cloudVertex neg faceData material a
    let vb ← cloudVertex neg faceData material b
    let vc ← cloudVertex neg faceData material c
    return va :: vb :: vc :: (← faceCloud faceData material rest)
  | _ => none

/-- `CreateVertexCloud`. -/
def createVertexCloud : List (Nat × Face F) → Option (List (CloudVertex F))
  | [] => some []
  | (material, face) :: rest => do
    let cloud ← faceCloud neg face.userData material face.userData.indices
    return cloud ++ (← createVertexCloud rest)

variable [DecidableEq F]

/-- The variables of the loop over the vertices of the cloud. -/
structure Reindex (F : Type) where
  indexedFaces : Dict (CloudVertex F) UInt16
  newIndexes : List UInt16
  deduplicatedVertices : List (CloudVertex F)
  lastMat : Nat
  vertStart : Nat
  indexStart : Nat
  subMeshes : List SubmeshDesc

/-- The submesh that ends here. -/
def Reindex.subMesh (s : Reindex F) : SubmeshDesc where
  materialIndex := s.lastMat
  verticesStart := s.vertStart
  verticesCount := s.deduplicatedVertices.length - s.vertStart
  indexStart := s.indexStart
  indexCount := s.newIndexes.length - s.indexStart

/-- The first part of the loop body: where the material changes, a submesh is added. -/
def Reindex.changeMaterial (s : Reindex F) (vert : CloudVertex F) : Reindex F :=
  if s.lastMat ≠ vert.material then
    { s with
      subMeshes := s.subMeshes ++ [s.subMesh]
      lastMat := vert.material
      vertStart := s.deduplicatedVertices.length
      indexStart := s.newIndexes.length }
  else s

/-- The second part: the index of a vertex that is known, or a new vertex. -/
def Reindex.addVertex (s : Reindex F) (vert : CloudVertex F) : Reindex F :=
  match s.indexedFaces.get? vert with
  | some existingIndex => { s with newIndexes := s.newIndexes ++ [existingIndex] }
  | none =>
    let idxPos := s.deduplicatedVertices.length
    { s with
      indexedFaces := s.indexedFaces.add vert (UInt16.ofNat idxPos)
      deduplicatedVertices := s.deduplicatedVertices ++ [vert]
      newIndexes := s.newIndexes ++ [UInt16.ofNat idxPos] }

/-- One vertex of the cloud. -/
def Reindex.step (s : Reindex F) (vert : CloudVertex F) : Reindex F :=
  (s.changeMaterial vert).addVertex vert

/-- What the combiner has for the caller after `Complete`. -/
structure Mesh (F : Type) where
  vertices : List F
  normals : List F
  uvs : List F
  indices : List UInt16
  subMeshes : List SubmeshDesc
  deriving DecidableEq

/-- The end of `Complete`: the last submesh, and the vertices in flat lists. -/
def Reindex.mesh (s : Reindex F) : Mesh F where
  vertices := s.deduplicatedVertices.flatMap fun v =>
    [v.corner.position.x, v.corner.position.y, v.corner.position.z]
  normals := s.deduplicatedVertices.flatMap fun v =>
    [v.corner.normal.x, v.corner.normal.y, v.corner.normal.z]
  uvs := s.deduplicatedVertices.flatMap fun v => [v.corner.texCoord.x, v.corner.texCoord.y]
  indices := s.newIndexes
  subMeshes := s.subMeshes ++ [s.subMesh]

/-- `Complete`, with the entries in the order of the sorted list. -/
def complete (sortedFaces : List (Nat × Face F)) : Option (Mesh F) := do
  let cloud ← createVertexCloud neg sortedFaces
  let first ← cloud.head?
  return (cloud.foldl Reindex.step ⟨[], [], [], first.material, 0, 0, []⟩).mesh

end Complete

end BabylonPrimFaceCombiner

end Halcyon.PrimExporter
