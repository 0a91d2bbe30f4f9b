import Halcyon.PrimExporter.FaceCombiner

/-!
# The combined mesh, by what it was made of

The faces of a prim have their indices inside their arrays and in whole triangles (`Face.InRange`).
Their materials are numbered in the order in which they come first (`collect_eq`), and the cloud has
the vertices of the triangles of all the entries (`cloudOf`).

The loop over the cloud is described by what it has seen: the vertices of the mesh are the distinct
vertices of the cloud in the order of their first occurrence, an index is the position of its
vertex, cut to 16 bits, and the ranges are found by counting (`Reindex.Seen`).  `complete_eq` says
so for the mesh at the end.
-/

namespace Halcyon.PrimExporter

open Halcyon.Lib

variable {F η : Type}

/-! ## The faces -/

/-- The indices of a face are in whole triangles and inside of its arrays. -/
structure Face.InRange (f : Face F) : Prop where
  whole : f.userData.indices.length % 3 = 0
  corner : ∀ i ∈ f.userData.indices, (cornerAt f.userData.vertices f.userData.texCoords
    f.userData.normals i.toNat).isSome

/-- The corners of a face as it is given, by their indices. -/
def Face.cornerAt (f : Face F) (i : UInt16) : Option (Corner F) :=
  PrimExporter.cornerAt f.userData.vertices f.userData.texCoords f.userData.normals i.toNat

/-- The triangles of a face, mirrored. -/
def Face.triangles (neg : F → F) (f : Face F) :
    List (Option (Corner F) × Option (Corner F) × Option (Corner F)) :=
  (triples f.userData.indices).map
    (mapTriple fun i => (f.cornerAt i).map (BabylonPrimFaceCombiner.mirror neg))

/-- The mirrored corners of a face with its material. -/
def Face.corners (neg : F → F) (f : Face F) : List (Corner F × TextureEntryFace) :=
  (f.userData.indices.filterMap f.cornerAt).map fun c =>
    (BabylonPrimFaceCombiner.mirror neg c, f.textureFace)

namespace BabylonPrimFaceCombiner

/-! ## The materials -/

section Materials

variable (C : ChainHash Piece η) [DecidableEq η]

/-- The materials of a prim, in the order in which they come first. -/
def materialsOf (faces : List (Face F)) : List TextureEntryFace :=
  firsts (faces.map Face.textureFace)

/-- The entry of a face: the number of its material. -/
def entryOf (faces : List (Face F)) (f : Face F) : Nat × Face F :=
  ((materialsOf faces).idxOf f.textureFace, f)

lemma entryOf_append {faces : List (Face F)} {f : Face F} (hf : f ∈ faces)
    (more : List (Face F)) : entryOf (faces ++ more) f = entryOf faces f := by
  rw [entryOf, entryOf, materialsOf, materialsOf, List.map_append,
    idxOf_firsts_append (List.mem_map_of_mem hf)]

/-- Collecting numbers the materials, and every face gets the number of its own. -/
lemma collect_eq (faces : List (Face F)) :
    (collect C faces).materials = materialsOf faces ∧
      (collect C faces).entries = faces.map (entryOf faces) ∧
      Numbering (getFaceHash C) id (collect C faces).knownMaterials
        (faces.map Face.textureFace) := by
  induction faces using List.reverseRecOn with
  | nil => exact ⟨rfl, rfl, fun t => rfl⟩
  | append_singleton faces f ih =>
    obtain ⟨hmaterials, hentries, hknown⟩ := ih
    have hcollect : collect C (faces ++ [f]) = combineFace C (collect C faces) f :=
      List.foldl_append
    have hold : faces.map (entryOf faces) = faces.map (entryOf (faces ++ [f])) :=
      List.map_congr_left fun g hg => (entryOf_append hg [f]).symm
    rw [hcollect, combineFace, hknown f.textureFace, List.map_append, List.map_append, ← hold,
      ← hentries, List.map_singleton, List.map_singleton]
    by_cases hf : f.textureFace ∈ faces.map Face.textureFace
    · have hsame : materialsOf (faces ++ [f]) = materialsOf faces := by
        rw [materialsOf, List.map_append, List.map_singleton, firsts_concat_of_mem hf, materialsOf]
      rw [if_pos hf]
      refine ⟨hmaterials.trans hsame.symm, ?_, hknown.of_mem hf⟩
      rw [entryOf, hsame]
      rfl
    · have hnew : materialsOf (faces ++ [f]) = materialsOf faces ++ [f.textureFace] := by
        rw [materialsOf, List.map_append, List.map_singleton, firsts_concat_of_not_mem hf,
          materialsOf]
      have hidx : (materialsOf (faces ++ [f])).idxOf f.textureFace = (materialsOf faces).length := by
        rw [materialsOf, List.map_append, List.map_singleton, idxOf_firsts_concat_of_not_mem hf,
          materialsOf]
      rw [if_neg hf, hmaterials]
      refine ⟨hnew.symm, ?_, hknown.add (getFaceHash_injective C) _⟩
      rw [entryOf, hidx]

end Materials

/-! ## The cloud -/

section Cloud

variable (neg : F → F)

/-- The corners of a triangle one after the other. -/
def unpack {α : Type} (t : α × α × α) : List α := [t.1, t.2.1, t.2.2]

/-- The vertices of the cloud for a triangle. -/
def cloudTriangle (faceData : FaceData F) (material : Nat) (t : UInt16 × UInt16 × UInt16) :
    Option (CloudVertex F × CloudVertex F × CloudVertex F) := do
  return (← cloudVertex neg faceData material t.1, ← cloudVertex neg faceData material t.2.1,
    ← cloudVertex neg faceData material t.2.2)

/-- The triangles of an entry. -/
def entryTriangles (entry : Nat × Face F) :
    List (CloudVertex F × CloudVertex F × CloudVertex F) :=
  (triples entry.2.userData.indices).filterMap (cloudTriangle neg entry.2.userData entry.1)

variable {neg}

lemma triples_cons {α : Type} (a b c : α) (rest : List α) :
    triples (a :: b :: c :: rest) = (a, b, c) :: triples rest := rfl

lemma triples_flatMap_unpack {α : Type} (ts : List (α × α × α)) :
    triples (ts.flatMap unpack) = ts := by
  induction ts with
  | nil => rfl
  | cons t ts ih =>
    obtain ⟨a, b, c⟩ := t
    rw [List.flatMap_cons, unpack, List.cons_append, List.cons_append, List.cons_append,
      List.nil_append, triples_cons, ih]

lemma triples_map {α β : Type} (f : α → β) (l : List α) :
    triples (l.map f) = (triples l).map (mapTriple f) := by
  fun_induction triples l with
  | case1 a b c rest ih => rw [List.map_cons, List.map_cons, List.map_cons, triples_cons, ih]; rfl
  | case2 l h =>
    cases l with
    | nil => rfl
    | cons a l =>
      cases l with
      | nil => rfl
      | cons b l =>
        cases l with
        | nil => rfl
        | cons c l => exact absurd rfl (h a b c l)

lemma flatMap_unpack_mapTriple {α β : Type} (f : α → β) (ts : List (α × α × α)) :
    (ts.map (mapTriple f)).flatMap unpack = (ts.flatMap unpack).map f := by
  rw [List.flatMap_map, List.map_flatMap]
  rfl

lemma material_of_cloudVertex {fd : FaceData F} {m : Nat} {i : UInt16} {v : CloudVertex F}
    (h : cloudVertex neg fd m i = some v) : v.material = m := by
  simp only [cloudVertex, Option.bind_eq_bind, Option.bind_eq_some_iff, Option.pure_def,
    Option.some_inj] at h
  obtain ⟨c, -, rfl⟩ := h
  rfl

/-- All corners of a triangle of an entry have its material. -/
lemma material_of_mem_entryTriangles {entry : Nat × Face F}
    {t : CloudVertex F × CloudVertex F × CloudVertex F} (ht : t ∈ entryTriangles neg entry) :
    t.1.material = entry.1 ∧ t.2.1.material = entry.1 ∧ t.2.2.material = entry.1 := by
  simp only [entryTriangles, cloudTriangle, List.mem_filterMap, Option.bind_eq_bind,
    Option.bind_eq_some_iff, Option.pure_def, Option.some_inj] at ht
  obtain ⟨i, -, va, ha, vb, hb, vc, hc, rfl⟩ := ht
  exact ⟨material_of_cloudVertex ha, material_of_cloudVertex hb, material_of_cloudVertex hc⟩

/-- The vertex for an index that is in range. -/
lemma cloudVertex_eq {f : Face F} (hf : f.InRange) {i : UInt16} (hi : i ∈ f.userData.indices)
    (m : Nat) : ∃ c, f.cornerAt i = some c ∧
      cloudVertex neg f.userData m i = some ⟨mirror neg c, m⟩ := by
  obtain ⟨c, hc⟩ := Option.isSome_iff_exists.mp (hf.corner i hi)
  refine ⟨c, hc, ?_⟩
  rw [cloudVertex, hc]
  rfl

/-- The cloud of a face that is in range. -/
lemma faceCloud_eq {f : Face F} (hf : f.InRange) (m : Nat) :
    faceCloud neg f.userData m f.userData.indices =
        some ((entryTriangles neg (m, f)).flatMap unpack) ∧
      (entryTriangles neg (m, f)).map (mapTriple fun v => some v.corner) = f.triangles neg ∧
      (entryTriangles neg (m, f)).flatMap unpack = (f.corners neg).map fun c => ⟨c.1, m⟩ := by
  have hwhole := hf.whole
  have hmem : ∀ i ∈ f.userData.indices, ∃ c, f.cornerAt i = some c ∧
      cloudVertex neg f.userData m i = some ⟨mirror neg c, m⟩ :=
    fun i hi => cloudVertex_eq hf hi m
  rw [entryTriangles, Face.triangles, Face.corners]
  dsimp only
  generalize f.userData.indices = is at *
  fun_induction triples is with
  | case1 a b c rest ih =>
    obtain ⟨ca, hca, hva⟩ := hmem a (by simp)
    obtain ⟨cb, hcb, hvb⟩ := hmem b (by simp)
    obtain ⟨cc, hcc, hvc⟩ := hmem c (by simp)
    obtain ⟨ihcloud, ihtri, ihcorners⟩ := ih (by simp only [List.length_cons] at hwhole; omega)
      fun i hi => hmem i (by simp [hi])
    have hhead : cloudTriangle neg f.userData m (a, b, c) =
        some (⟨mirror neg ca, m⟩, ⟨mirror neg cb, m⟩, ⟨mirror neg cc, m⟩) := by
      rw [cloudTriangle, hva, hvb, hvc]
      rfl
    rw [List.filterMap_cons_some hhead]
    refine ⟨?_, ?_, ?_⟩
    · rw [faceCloud, hva, hvb, hvc, ihcloud]
      rfl
    · rw [List.map_cons, List.map_cons, ihtri]
      simp only [mapTriple, hca, hcb, hcc, Option.map_some]
    · rw [List.flatMap_cons, ihcorners, List.filterMap_cons_some hca, List.filterMap_cons_some hcb,
        List.filterMap_cons_some hcc]
      rfl
  | case2 l h =>
    cases l with
    | nil => exact ⟨rfl, rfl, rfl⟩
    | cons a l =>
      cases l with
      | nil => cases hwhole
      | cons b l =>
        cases l with
        | nil => cases hwhole
        | cons c l => exact absurd rfl (h a b c l)

/-- The vertices for the triangles of all the entries. -/
def cloudOf (neg : F → F) (sorted : List (Nat × Face F)) : List (CloudVertex F) :=
  sorted.flatMap fun e => (entryTriangles neg e).flatMap unpack

lemma createVertexCloud_eq {sorted : List (Nat × Face F)} (h : ∀ e ∈ sorted, e.2.InRange) :
    createVertexCloud neg sorted = some (cloudOf neg sorted) := by
  induction sorted with
  | nil => rfl
  | cons e sorted ih =>
    obtain ⟨he, hsorted⟩ := List.forall_mem_cons.mp h
    obtain ⟨m, f⟩ := e
    rw [createVertexCloud, (faceCloud_eq he m).1, ih hsorted]
    rfl

lemma material_of_mem_unpack {e : Nat × Face F} {v : CloudVertex F}
    (hv : v ∈ (entryTriangles neg e).flatMap unpack) : v.material = e.1 := by
  obtain ⟨t, ht, hv⟩ := List.mem_flatMap.mp hv
  obtain ⟨ha, hb, hc⟩ := material_of_mem_entryTriangles ht
  simp only [unpack, List.mem_cons, List.not_mem_nil, or_false] at hv
  rcases hv with rfl | rfl | rfl
  · exact ha
  · exact hb
  · exact hc

/-- The cloud is ordered as its entries are. -/
lemma ordered_cloudOf {sorted : List (Nat × Face F)} (h : Ordered Prod.fst sorted) :
    Ordered CloudVertex.material (cloudOf neg sorted) :=
  ordered_flatMap h fun _ _ _ hv => material_of_mem_unpack hv

/-- The vertices with a material are those of its entries. -/
lemma filter_cloudOf (sorted : List (Nat × Face F)) (m : Nat) :
    (cloudOf neg sorted).filter (fun v => v.material = m) =
      ((sorted.filter fun e => e.1 = m).flatMap (entryTriangles neg)).flatMap unpack := by
  rw [List.flatMap_assoc]
  induction sorted with
  | nil => rfl
  | cons e sorted ih =>
    rw [cloudOf, List.flatMap_cons, List.filter_append, ← cloudOf, ih]
    by_cases he : e.1 = m
    · rw [List.filter_cons_of_pos (by simpa using he), List.flatMap_cons, List.filter_eq_self.mpr]
      exact fun v hv => decide_eq_true ((material_of_mem_unpack hv).trans he)
    · rw [List.filter_cons_of_neg (by simpa using he), List.filter_eq_nil_iff.mpr, List.nil_append]
      exact fun v hv hvm => he ((material_of_mem_unpack hv).symm.trans (of_decide_eq_true hvm))

end Cloud

/-! ## The loop over the cloud -/

section Loop

variable [DecidableEq F] {done : List (CloudVertex F)} {s : Reindex F} {v : CloudVertex F}

/-- The index of a vertex: its position among the distinct ones, cut to 16 bits. -/
def indexOf (cloud : List (CloudVertex F)) (v : CloudVertex F) : UInt16 :=
  UInt16.ofNat ((firsts cloud).idxOf v)

/-- The submesh of a material, by counting. -/
def describe (cloud : List (CloudVertex F)) (m : Nat) : SubmeshDesc where
  materialIndex := m
  verticesStart := (firsts cloud).countP fun v => v.material < m
  verticesCount := (firsts cloud).countP fun v => v.material = m
  indexStart := cloud.countP fun v => v.material < m
  indexCount := cloud.countP fun v => v.material = m

/-- The variables of the loop after the vertices of the cloud it has seen. -/
structure Reindex.Seen (done : List (CloudVertex F)) (s : Reindex F) : Prop where
  indexed : Numbering id UInt16.ofNat s.indexedFaces done
  vertices : s.deduplicatedVertices = firsts done
  indexes : s.newIndexes = done.map (indexOf done)
  bound : ∀ v ∈ done, v.material ≤ s.lastMat
  vertStart : s.vertStart = (firsts done).countP fun v => v.material < s.lastMat
  indexStart : s.indexStart = done.countP fun v => v.material < s.lastMat
  subMeshes : s.subMeshes =
    ((firsts (done.map CloudVertex.material)).filter fun m => m < s.lastMat).map (describe done)

/-- The submesh that ends is that of the last material. -/
lemma Reindex.Seen.subMesh_eq (h : s.Seen done) : s.subMesh = describe done s.lastMat := by
  have hdone := countP_lt_add_countP_eq s.lastMat h.bound
  have hfirsts := countP_lt_add_countP_eq s.lastMat
    (fun v (hv : v ∈ firsts done) => h.bound v (mem_firsts.mp hv))
  rw [Reindex.subMesh, describe, h.vertices, h.indexes, h.vertStart, h.indexStart,
    List.length_map, SubmeshDesc.mk.injEq]
  exact ⟨rfl, rfl, by omega, rfl, by omega⟩

/-- With the submesh that ends, there is one for every material seen. -/
lemma Reindex.Seen.subMeshes_append (h : s.Seen done)
    (hordered : Ordered CloudVertex.material done) (hlast : ∃ w ∈ done, w.material = s.lastMat) :
    s.subMeshes ++ [s.subMesh] =
      (firsts (done.map CloudVertex.material)).map (describe done) := by
  obtain ⟨w, hw, hwlast⟩ := hlast
  have hle : ∀ m ∈ done.map CloudVertex.material, m ≤ s.lastMat := by
    intro m hm
    obtain ⟨u, hu, rfl⟩ := List.mem_map.mp hm
    exact h.bound u hu
  rw [h.subMeshes, h.subMesh_eq, ← List.map_singleton, ← List.map_append,
    ← firsts_eq_filter_append s.lastMat (List.pairwise_map.mpr hordered)
      (List.mem_map.mpr ⟨w, hw, hwlast⟩) hle]

/-- Where the material changes, all the vertices seen have smaller materials. -/
lemma Reindex.Seen.changeMaterial (h : s.Seen done)
    (hordered : Ordered CloudVertex.material (done ++ [v]))
    (hlast : ∃ w ∈ done, w.material = s.lastMat) :
    (s.changeMaterial v).Seen done ∧ (s.changeMaterial v).lastMat = v.material := by
  obtain ⟨hdone, -, hle⟩ := List.pairwise_append.mp hordered
  have hlastLe : s.lastMat ≤ v.material := by
    obtain ⟨w, hw, hwlast⟩ := hlast
    exact hwlast ▸ hle w hw v List.mem_cons_self
  unfold Reindex.changeMaterial
  split_ifs with hne
  · have hlt : ∀ u ∈ done, u.material < v.material := fun u hu =>
      lt_of_le_of_lt (h.bound u hu) (lt_of_le_of_ne hlastLe hne)
    refine ⟨⟨h.indexed, h.vertices, h.indexes, fun u hu => (hlt u hu).le, ?_, ?_, ?_⟩, rfl⟩
    · dsimp only
      rw [h.vertices, eq_comm, List.countP_eq_length]
      exact fun u hu => decide_eq_true (hlt u (mem_firsts.mp hu))
    · dsimp only
      rw [h.indexes, List.length_map, eq_comm, List.countP_eq_length]
      exact fun u hu => decide_eq_true (hlt u hu)
    · dsimp only
      rw [h.subMeshes_append hdone hlast, eq_comm, List.filter_eq_self.mpr]
      intro m hm
      obtain ⟨u, hu, rfl⟩ := List.mem_map.mp (mem_firsts.mp hm)
      exact decide_eq_true (hlt u hu)
  · exact ⟨h, not_not.mp hne⟩

/-- A vertex with the last material changes nothing about the materials before it. -/
lemma describe_concat {m : Nat} (hm : m < v.material) :
    describe (done ++ [v]) m = describe done m := by
  have hlt : ¬ v.material < m := by omega
  have hne : ¬ v.material = m := by omega
  have hfirsts : ∀ p : CloudVertex F → Bool, p v = false →
      (firsts (done ++ [v])).countP p = (firsts done).countP p := by
    intro p hp
    rw [firsts_concat, insertNew]
    split_ifs
    · rfl
    · rw [List.countP_append, List.countP_singleton, hp]
      rfl
  have hless := hfirsts (fun u => u.material < m) (decide_eq_false hlt)
  have hsame := hfirsts (fun u => u.material = m) (decide_eq_false hne)
  simp only [describe, List.countP_append, List.countP_singleton, hlt, hne, decide_false, hless,
    hsame, Bool.false_eq_true, if_false, Nat.add_zero]

/-- The second part of the loop body. -/
lemma Reindex.Seen.addVertex (h : s.Seen done) (hmat : s.lastMat = v.material) :
    (s.addVertex v).Seen (done ++ [v]) ∧ (s.addVertex v).lastMat = v.material := by
  have hbound : ∀ u ∈ done ++ [v], u.material ≤ s.lastMat := by
    intro u hu
    rcases List.mem_append.mp hu with hu | hu
    · exact h.bound u hu
    · rw [List.mem_singleton.mp hu, hmat]
  have hindexStart : (done ++ [v]).countP (fun u => u.material < s.lastMat) =
      done.countP fun u => u.material < s.lastMat := by
    rw [List.countP_append, List.countP_singleton, hmat]
    simp
  have hsub : s.subMeshes = ((firsts ((done ++ [v]).map CloudVertex.material)).filter
      fun m => m < s.lastMat).map (describe (done ++ [v])) := by
    have hfilter : (firsts ((done ++ [v]).map CloudVertex.material)).filter
        (fun m => m < s.lastMat) =
        (firsts (done.map CloudVertex.material)).filter fun m => m < s.lastMat := by
      rw [List.map_append, List.map_singleton, firsts_concat, insertNew]
      split_ifs
      · rfl
      · rw [List.filter_append, List.filter_singleton, hmat]
        simp
    rw [hfilter, h.subMeshes]
    refine List.map_congr_left fun m hm => ?_
    have hlt : m < s.lastMat := of_decide_eq_true (List.mem_filter.mp hm).2
    exact (describe_concat (hmat ▸ hlt)).symm
  have hold : done.map (indexOf done) = done.map (indexOf (done ++ [v])) :=
    List.map_congr_left fun u hu => by rw [indexOf, indexOf, idxOf_firsts_append hu]
  unfold Reindex.addVertex
  have hget := h.indexed v
  by_cases hv : v ∈ done
  · rw [if_pos hv] at hget
    rw [show s.indexedFaces.get? v = _ from hget]
    refine ⟨⟨h.indexed.of_mem hv, ?_, ?_, hbound, ?_, ?_, hsub⟩, hmat⟩
    · rw [firsts_concat_of_mem hv]
      exact h.vertices
    · dsimp only
      rw [h.indexes, List.map_append, ← hold, List.map_singleton, indexOf, firsts_concat_of_mem hv]
    · rw [firsts_concat_of_mem hv]
      exact h.vertStart
    · rw [hindexStart]
      exact h.indexStart
  · rw [if_neg hv] at hget
    rw [show s.indexedFaces.get? v = _ from hget]
    dsimp only
    rw [h.vertices]
    refine ⟨⟨h.indexed.add Function.injective_id v, ?_, ?_, hbound, ?_, ?_, hsub⟩, hmat⟩
    · exact (firsts_concat_of_not_mem hv).symm
    · dsimp only
      rw [h.indexes, List.map_append, ← hold, List.map_singleton, indexOf,
        idxOf_firsts_concat_of_not_mem hv]
    · rw [firsts_concat_of_not_mem hv, List.countP_append, List.countP_singleton, hmat, ← hmat]
      simp [h.vertStart, hmat]
    · rw [hindexStart]
      exact h.indexStart

/-- One vertex of the cloud, with the same material as the last one or a later one. -/
lemma Reindex.Seen.step (h : s.Seen done) (hordered : Ordered CloudVertex.material (done ++ [v]))
    (hlast : (∃ w ∈ done, w.material = s.lastMat) ∨ s.lastMat = v.material) :
    (s.step v).Seen (done ++ [v]) ∧ (s.step v).lastMat = v.material := by
  rcases hlast with hlast | hsame
  · obtain ⟨hseen, hmat⟩ := h.changeMaterial hordered hlast
    exact hseen.addVertex hmat
  · rw [Reindex.step, Reindex.changeMaterial, if_neg (not_not.mpr hsame)]
    exact h.addVertex hsame

/-- The whole loop. -/
lemma Reindex.seen_foldl {first : CloudVertex F} {cloud : List (CloudVertex F)}
    (hordered : Ordered CloudVertex.material cloud) (hfirst : cloud.head? = some first) :
    let s := cloud.foldl Reindex.step ⟨[], [], [], first.material, 0, 0, []⟩
    s.Seen cloud ∧ ∃ w ∈ cloud, w.material = s.lastMat := by
  induction cloud using List.reverseRecOn with
  | nil => cases hfirst
  | append_singleton done v ih =>
    dsimp only
    rw [List.foldl_append, List.foldl_cons, List.foldl_nil]
    have hwhole : ∀ {s : Reindex F}, (s.step v).Seen (done ++ [v]) ∧
        (s.step v).lastMat = v.material → (s.step v).Seen (done ++ [v]) ∧
          ∃ w ∈ done ++ [v], w.material = (s.step v).lastMat := fun h =>
      ⟨h.1, v, List.mem_append_right _ List.mem_cons_self, h.2.symm⟩
    refine hwhole ?_
    cases done with
    | nil =>
      obtain rfl : v = first := by simpa using hfirst
      have hstart : (⟨[], [], [], v.material, 0, 0, []⟩ : Reindex F).Seen [] :=
        ⟨fun _ => rfl, rfl, rfl, fun w hw => absurd hw List.not_mem_nil, rfl, rfl, rfl⟩
      exact hstart.step hordered (.inr rfl)
    | cons w done =>
      obtain ⟨hseen, hlast⟩ := ih (List.pairwise_append.mp hordered).1 hfirst
      exact hseen.step hordered (.inl hlast)

/-- What a cloud is made into. -/
def meshOf (cloud : List (CloudVertex F)) : Mesh F where
  vertices := (firsts cloud).flatMap fun v =>
    [v.corner.position.x, v.corner.position.y, v.corner.position.z]
  normals := (firsts cloud).flatMap fun v =>
    [v.corner.normal.x, v.corner.normal.y, v.corner.normal.z]
  uvs := (firsts cloud).flatMap fun v => [v.corner.texCoord.x, v.corner.texCoord.y]
  indices := cloud.map (indexOf cloud)
  subMeshes := (firsts (cloud.map CloudVertex.material)).map (describe cloud)

/-- `Complete` on entries that are ordered by their materials. -/
lemma complete_eq {neg : F → F} {sorted : List (Nat × Face F)} {cloud : List (CloudVertex F)}
    (hcloud : createVertexCloud neg sorted = some cloud)
    (hordered : Ordered CloudVertex.material cloud) (hne : cloud ≠ []) :
    complete neg sorted = some (meshOf cloud) := by
  obtain ⟨first, hfirst⟩ : ∃ first, cloud.head? = some first := by
    obtain ⟨v, rest, rfl⟩ := List.exists_cons_of_ne_nil hne
    exact ⟨v, rfl⟩
  obtain ⟨hseen, hlast⟩ := Reindex.seen_foldl hordered hfirst
  rw [complete, hcloud, Option.bind_eq_bind, Option.bind_some, hfirst, Option.bind_eq_bind,
    Option.bind_some, Reindex.mesh, hseen.vertices, hseen.indexes,
    hseen.subMeshes_append hordered hlast]
  rfl

end Loop

end BabylonPrimFaceCombiner

end Halcyon.PrimExporter
