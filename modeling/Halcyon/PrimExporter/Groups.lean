import Halcyon.Lib.Chain
import Halcyon.Lib.Dict
import Mathlib.Data.Nat.Pairing

/-!
# Export of several groups

`BabylonFlatbufferFormatter.Export` writes the meshes of every group whose hash it has not seen, and
makes an instance of every other one.  The instances are collected in the outputs, while
`PackageResult` writes the meshes only.  The list of instances that is kept under a hash, whose
length is part of the name of an instance, is never added to; and the hash of a group knows the
shapes and the materials of its prims, but neither their scales nor where they stand.

So an export is faithful exactly when no two groups have the same shapes and materials
(`faithful_iff_nodup`).  The arithmetic of the positions is a parameter, and the faces of a prim,
combined as in `Halcyon.PrimExporter.FaceCombiner`, are a value that is passed on.
-/

namespace Halcyon.PrimExporter.BabylonFlatbufferFormatter

open Halcyon.Lib

/-! ## Groups and what is made of them -/

/-- `PrimDisplayData`; the scale of the parent is read from the group. -/
structure PrimDisplayData (η V Q M : Type) where
  mesh : M
  offsetPosition : V
  offsetRotation : Q
  scale : V
  shapeHash : η
  materialHash : η
  deriving DecidableEq

/-- `GroupDisplayData`: the prims in the order of their link numbers, one of which is the root. -/
structure GroupDisplayData (η V Q M : Type) where
  linkedBefore : List (PrimDisplayData η V Q M)
  rootPrim : PrimDisplayData η V Q M
  linkedAfter : List (PrimDisplayData η V Q M)

namespace GroupDisplayData

variable {η V Q M : Type}

/-- `Prims`. -/
def prims (g : GroupDisplayData η V Q M) : List (PrimDisplayData η V Q M) :=
  g.linkedBefore ++ g.rootPrim :: g.linkedAfter

/-- `Prims.Where(p => p != RootPrim)`. -/
def children (g : GroupDisplayData η V Q M) : List (PrimDisplayData η V Q M) :=
  g.linkedBefore ++ g.linkedAfter

/-- The shapes and the materials of the prims. -/
def looks (g : GroupDisplayData η V Q M) : List (η × η) :=
  g.prims.map fun p => (p.shapeHash, p.materialHash)

/-- The prims agree in shape, material and scale, and stand in the same places relative to the
root. -/
structure Agrees (g h : GroupDisplayData η V Q M) : Prop where
  looks : g.looks = h.looks
  scales : g.prims.map (·.scale) = h.prims.map (·.scale)
  before : g.linkedBefore.map (fun p => (p.offsetPosition, p.offsetRotation)) =
    h.linkedBefore.map fun p => (p.offsetPosition, p.offsetRotation)
  after : g.linkedAfter.map (fun p => (p.offsetPosition, p.offsetRotation)) =
    h.linkedAfter.map fun p => (p.offsetPosition, p.offsetRotation)

end GroupDisplayData

/-- Position, rotation and scale. -/
structure Placement (V Q : Type) where
  position : V
  rotation : Q
  scaling : V
  deriving DecidableEq

/-- The id of a mesh: its hashes, and whether it is a root. -/
abbrev MeshId (η : Type) := η × η × Bool

/-- `Mesh`. -/
structure ExportMesh (η V Q M : Type) where
  id : MeshId η
  parentId : Option (MeshId η)
  materialId : η
  placement : Placement V Q
  combined : M
  deriving DecidableEq

/-- `MeshInstance`; its name is made of the hash and a number. -/
structure MeshInstance (η V Q : Type) where
  name : η × Nat
  placement : Placement V Q
  deriving DecidableEq

/-- What `Export` collects. -/
structure Outputs (η V Q M : Type) where
  prims : List (ExportMesh η V Q M)
  instances : List (MeshInstance η V Q)
  groupInstances : Dict η (List (MeshInstance η V Q))

/-- A mesh in the file, where it may have instances. -/
structure FileMesh (η V Q M : Type) where
  mesh : ExportMesh η V Q M
  instances : List (MeshInstance η V Q)

section Export

variable {η V Q M : Type} (C : ChainHash η η) (fixCoordinateSystem : V × Q → V × Q)
  (div : V → V → V)

/-- `GetGroupHash`. -/
def getGroupHash (g : GroupDisplayData η V Q M) : η :=
  g.prims.foldl (fun hash p => C.step p.materialHash (C.step p.shapeHash hash)) C.seed

/-- Where a root stands. -/
def placementOf (root : PrimDisplayData η V Q M) : Placement V Q :=
  let (pos, rot) := fixCoordinateSystem (root.offsetPosition, root.offsetRotation)
  ⟨pos, rot, root.scale⟩

/-- `SerializeCombinedFaces`, with the id and the scale of the parent; the scale of the parent is
divided out. -/
def serializeCombinedFaces (parent : Option (MeshId η × V)) (data : PrimDisplayData η V Q M) :
    ExportMesh η V Q M where
  id := (data.shapeHash, data.materialHash, parent.isNone)
  parentId := parent.map Prod.fst
  materialId := data.materialHash
  placement :=
    match parent with
    | none => placementOf fixCoordinateSystem data
    | some (_, scale) => ⟨data.offsetPosition, data.offsetRotation, div data.scale scale⟩
  combined := data.mesh

/-- The meshes of a group. -/
def meshesOf (g : GroupDisplayData η V Q M) : List (ExportMesh η V Q M) :=
  let rootPrim := serializeCombinedFaces fixCoordinateSystem div none g.rootPrim
  rootPrim :: g.children.map
    (serializeCombinedFaces fixCoordinateSystem div (some (rootPrim.id, g.rootPrim.scale)))

variable [DecidableEq η]

/-- One round of the loop of `Export`. -/
def addGroup (s : Outputs η V Q M) (g : GroupDisplayData η V Q M) : Outputs η V Q M :=
  match s.groupInstances.get? (getGroupHash C g) with
  | some instances =>
    { s with
      instances := s.instances ++
        [⟨(getGroupHash C g, instances.length), placementOf fixCoordinateSystem g.rootPrim⟩] }
  | none =>
    { s with
      prims := s.prims ++ meshesOf fixCoordinateSystem div g
      groupInstances := s.groupInstances.add (getGroupHash C g) [] }

/-- The loop of `Export`. -/
def collectGroups (groups : List (GroupDisplayData η V Q M)) : Outputs η V Q M :=
  groups.foldl (addGroup C fixCoordinateSystem div) ⟨[], [], []⟩

/-- `PackageResult`: the meshes are written without instances. -/
def packageResult (s : Outputs η V Q M) : List (FileMesh η V Q M) :=
  s.prims.map fun mesh => ⟨mesh, []⟩

/-- `Export`. -/
def exportGroups (groups : List (GroupDisplayData η V Q M)) : List (FileMesh η V Q M) :=
  packageResult (collectGroups C fixCoordinateSystem div groups)

/-- The instances in a file. -/
def fileInstances (file : List (FileMesh η V Q M)) : List (MeshInstance η V Q) :=
  file.flatMap FileMesh.instances

/-- Every group is represented once in the file, by its own meshes (`none`) or by an instance of an
earlier group: each with the placement of the group, with different names for the instances, and
with an instance only where the groups agree. -/
structure Represents (groups : List (GroupDisplayData η V Q M)) (file : List (FileMesh η V Q M))
    (kinds : List (Option Nat)) : Prop where
  length : kinds.length = groups.length
  meshes : file.map FileMesh.mesh = ((groups.zip kinds).filter fun p => p.2.isNone).flatMap
    fun p => meshesOf fixCoordinateSystem div p.1
  instances : (fileInstances file).map MeshInstance.placement =
    ((groups.zip kinds).filter fun p => p.2.isSome).map
      fun p => placementOf fixCoordinateSystem p.1.rootPrim
  names : ((fileInstances file).map MeshInstance.name).Nodup
  agree : ∀ i j : Nat, kinds[i]? = some (some j) →
    ∃ g h : GroupDisplayData η V Q M,
      groups[i]? = some g ∧ groups[j]? = some h ∧ j < i ∧ g.Agrees h

/-- An export loses and confuses no group. -/
def Faithful (groups : List (GroupDisplayData η V Q M)) : Prop :=
  ∃ kinds, Represents fixCoordinateSystem div groups
    (exportGroups C fixCoordinateSystem div groups) kinds

end Export

/-! ## What the loop writes -/

section Loop

variable {η V Q M : Type} {C : ChainHash η η} {fixCoordinateSystem : V × Q → V × Q}
  {div : V → V → V} {s : Outputs η V Q M} {g h : GroupDisplayData η V Q M}
  {groups : List (GroupDisplayData η V Q M)}

/-- The pieces that are chained for a group. -/
lemma getGroupHash_eq (g : GroupDisplayData η V Q M) :
    getGroupHash C g = C.digest (g.looks.flatMap fun p => [p.1, p.2]) := by
  have hfold (hash : η) (ps : List (PrimDisplayData η V Q M)) :
      ps.foldl (fun hash p => C.step p.materialHash (C.step p.shapeHash hash)) hash =
        C.extend hash ((ps.map fun p => (p.shapeHash, p.materialHash)).flatMap
          fun p => [p.1, p.2]) := by
    induction ps generalizing hash with
    | nil => rfl
    | cons p ps ih =>
      rw [List.foldl_cons, ih]
      rfl
  exact hfold C.seed g.prims

lemma flatMap_pair_injective {α : Type} :
    Function.Injective fun ps : List (α × α) => ps.flatMap fun p => [p.1, p.2] := by
  intro ps
  induction ps with
  | nil =>
    intro qs heq
    cases qs with
    | nil => rfl
    | cons q qs => cases heq
  | cons p ps ih =>
    intro qs heq
    cases qs with
    | nil => cases heq
    | cons q qs =>
      obtain ⟨hfst, hrest⟩ := List.cons.inj heq
      obtain ⟨hsnd, hrest⟩ := List.cons.inj hrest
      rw [Prod.ext hfst hsnd, ih hrest]

/-- The hash of a group tells its shapes and materials, and nothing else. -/
lemma getGroupHash_eq_iff : getGroupHash C g = getGroupHash C h ↔ g.looks = h.looks := by
  rw [getGroupHash_eq, getGroupHash_eq, C.digest_injective.eq_iff,
    flatMap_pair_injective.eq_iff (a := g.looks)]

lemma nodup_hashes_iff :
    (groups.map (getGroupHash C)).Nodup ↔ (groups.map GroupDisplayData.looks).Nodup := by
  rw [List.Nodup, List.Nodup, List.pairwise_map, List.pairwise_map]
  simp only [ne_eq, getGroupHash_eq_iff]

variable [DecidableEq η]

lemma get?_add_eq_none {α : Type} {d : Dict η α} {k k' : η} {a : α} :
    Dict.get? (Dict.add d k a) k' = none ↔ Dict.get? d k' = none ∧ k ≠ k' := by
  rw [Dict.get?_add, Option.or_eq_none_iff]
  simp only [ite_eq_right_iff, reduceCtorEq, imp_false, ne_eq]

lemma addGroup_of_some {instances : List (MeshInstance η V Q)}
    (hget : s.groupInstances.get? (getGroupHash C g) = some instances) :
    (addGroup C fixCoordinateSystem div s g).prims = s.prims := by
  rw [addGroup, hget]

lemma addGroup_of_none (hget : s.groupInstances.get? (getGroupHash C g) = none) :
    addGroup C fixCoordinateSystem div s g =
      { s with
        prims := s.prims ++ meshesOf fixCoordinateSystem div g
        groupInstances := s.groupInstances.add (getGroupHash C g) [] } := by
  rw [addGroup, hget]

/-- If no hash has been seen before, the meshes of all groups are written. -/
lemma prims_of_nodup (hnew : ∀ g ∈ groups, s.groupInstances.get? (getGroupHash C g) = none)
    (hnodup : (groups.map (getGroupHash C)).Nodup) :
    (groups.foldl (addGroup C fixCoordinateSystem div) s).prims =
      s.prims ++ groups.flatMap (meshesOf fixCoordinateSystem div) := by
  induction groups generalizing s with
  | nil => exact (List.append_nil _).symm
  | cons g groups ih =>
    obtain ⟨hg, hgroups⟩ := List.forall_mem_cons.mp hnew
    obtain ⟨hnotin, hnodup⟩ := List.nodup_cons.mp hnodup
    rw [List.foldl_cons, addGroup_of_none hg, ih ?_ hnodup, List.flatMap_cons, List.append_assoc]
    exact fun h hh => get?_add_eq_none.mpr
      ⟨hgroups h hh, fun heq => hnotin (heq ▸ List.mem_map_of_mem hh)⟩

lemma length_prims_le (C : ChainHash η η) (fixCoordinateSystem : V × Q → V × Q) (div : V → V → V)
    (s : Outputs η V Q M) (groups : List (GroupDisplayData η V Q M)) :
    (groups.foldl (addGroup C fixCoordinateSystem div) s).prims.length ≤
    s.prims.length + (groups.flatMap (meshesOf fixCoordinateSystem div)).length := by
  induction groups generalizing s with
  | nil => exact Nat.le_refl _
  | cons g groups ih =>
    rw [List.foldl_cons, List.flatMap_cons, List.length_append]
    cases hget : s.groupInstances.get? (getGroupHash C g) with
    | some instances =>
      have hrest := ih (addGroup C fixCoordinateSystem div s g)
      rw [addGroup_of_some hget] at hrest
      omega
    | none =>
      have hrest := ih (addGroup C fixCoordinateSystem div s g)
      rw [addGroup_of_none hget, List.length_append] at hrest
      rw [addGroup_of_none hget]
      omega

/-- If a hash comes twice, some meshes are missing. -/
lemma nodup_of_length_prims (hlength :
      (groups.foldl (addGroup C fixCoordinateSystem div) s).prims.length =
        s.prims.length + (groups.flatMap (meshesOf fixCoordinateSystem div)).length) :
    (∀ g ∈ groups, s.groupInstances.get? (getGroupHash C g) = none) ∧
      (groups.map (getGroupHash C)).Nodup := by
  induction groups generalizing s with
  | nil => exact ⟨fun _ hg => absurd hg List.not_mem_nil, List.nodup_nil⟩
  | cons g groups ih =>
    rw [List.foldl_cons, List.flatMap_cons, List.length_append] at hlength
    cases hget : s.groupInstances.get? (getGroupHash C g) with
    | some instances =>
      have hrest := length_prims_le C fixCoordinateSystem div
        (addGroup C fixCoordinateSystem div s g) groups
      have hmeshes : 0 < (meshesOf fixCoordinateSystem div g).length := Nat.succ_pos _
      rw [addGroup_of_some hget] at hrest
      omega
    | none =>
      rw [addGroup_of_none hget] at hlength
      obtain ⟨hnew, hnodup⟩ := ih (hlength.trans (by rw [List.length_append, Nat.add_assoc]))
      refine ⟨List.forall_mem_cons.mpr ⟨hget, fun h hh => ?_⟩, List.nodup_cons.mpr ⟨?_, hnodup⟩⟩
      · exact (get?_add_eq_none.mp (hnew h hh)).1
      · intro hmem
        obtain ⟨h, hh, heq⟩ := List.mem_map.mp hmem
        exact (get?_add_eq_none.mp (hnew h hh)).2 heq.symm

end Loop

/-! ## Faithful exports -/

section Faithful

variable {η V Q M : Type}

lemma map_mesh_packageResult (s : Outputs η V Q M) :
    (packageResult s).map FileMesh.mesh = s.prims := by
  rw [packageResult, List.map_map]
  exact List.map_id _

lemma fileInstances_packageResult (s : Outputs η V Q M) : fileInstances (packageResult s) = [] := by
  rw [fileInstances, packageResult, List.flatMap_map]
  exact List.flatMap_eq_nil_iff.mpr fun _ _ => rfl

lemma zip_filter_isNone {α β : Type} (as : List α) :
    ((as.zip (List.replicate as.length (none : Option β))).filter fun p => p.2.isNone).map
      Prod.fst = as := by
  induction as with
  | nil => rfl
  | cons a as ih => exact congrArg (a :: ·) ih

variable [DecidableEq η] {C : ChainHash η η} {fixCoordinateSystem : V × Q → V × Q}
  {div : V → V → V} {groups : List (GroupDisplayData η V Q M)}

/-- In a faithful export every group has its own meshes, since there are no instances in the
file. -/
lemma Faithful.nodup (h : Faithful C fixCoordinateSystem div groups) :
    (groups.map GroupDisplayData.looks).Nodup := by
  obtain ⟨kinds, hlength, hmeshes, hinstances, -, -⟩ := h
  rw [exportGroups, map_mesh_packageResult] at hmeshes
  rw [exportGroups, fileInstances_packageResult] at hinstances
  have hown : ∀ p ∈ groups.zip kinds, p.2.isNone = true := by
    intro p hp
    have hnone := List.filter_eq_nil_iff.mp (List.map_eq_nil_iff.mp hinstances.symm) p hp
    rwa [Bool.not_eq_true, Option.isSome_eq_false_iff] at hnone
  have hall : (groups.foldl (addGroup C fixCoordinateSystem div) ⟨[], [], []⟩).prims.length =
      0 + (groups.flatMap (meshesOf fixCoordinateSystem div)).length := by
    rw [← collectGroups, hmeshes, List.filter_eq_self.mpr hown, ← List.flatMap_map Prod.fst,
      List.map_fst_zip hlength.ge, Nat.zero_add]
  exact nodup_hashes_iff.mp (nodup_of_length_prims hall).2

/-- Groups that look different are exported one by one. -/
lemma faithful_of_nodup (C : ChainHash η η) (h : (groups.map GroupDisplayData.looks).Nodup) :
    Faithful C fixCoordinateSystem div groups := by
  refine ⟨List.replicate groups.length none, List.length_replicate, ?_, ?_, ?_, ?_⟩
  · rw [exportGroups, map_mesh_packageResult, collectGroups,
      prims_of_nodup (fun _ _ => rfl) (nodup_hashes_iff.mpr h), List.nil_append,
      ← List.flatMap_map Prod.fst, zip_filter_isNone]
  · rw [exportGroups, fileInstances_packageResult]
    refine (List.map_eq_nil_iff.mpr (List.filter_eq_nil_iff.mpr fun p hp => ?_)).symm
    rw [(List.mem_replicate.mp (List.of_mem_zip hp).2).2]
    exact Bool.false_ne_true
  · rw [exportGroups, fileInstances_packageResult]
    exact List.nodup_nil
  · intro i j hij
    rw [List.getElem?_replicate] at hij
    split at hij
    · cases Option.some.inj hij
    · cases hij

end Faithful

/-! ## A group that comes again -/

/-- A chained hash without collisions on the natural numbers. -/
def pairing : ChainHash Nat Nat where
  step := fun d h => Nat.pair d h + 1
  seed := 0
  step_inj := fun _ _ _ _ h => Nat.pair_eq_pair.mp (Nat.succ.inj h)
  step_ne_seed := fun _ _ => Nat.succ_ne_zero _

/-- A group of one prim, always of the same shape and material. -/
def box (position scale : Nat) : GroupDisplayData Nat Nat Unit Unit where
  linkedBefore := []
  rootPrim := ⟨(), position, (), scale, 1, 1⟩
  linkedAfter := []

end Halcyon.PrimExporter.BabylonFlatbufferFormatter
