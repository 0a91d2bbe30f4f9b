import Halcyon.Lib.Chain
import Mathlib.Algebra.Order.Ring.Int
import Mathlib.Data.List.FinRange

/-!
# Hashes of materials

`ObjectHasher` reduces the appearance of a prim to a number: `GetMaterialFaceHash` chains the
members of one face, and `GetMeshMaterialHash` the faces of a prim.  The entries for the faces are
an array in which a slot may be empty; the default texture applies there.  The loop over the faces
runs as far as there are entries that are set, wherever these stand.

The hash is taken to be without collisions.  Then it determines exactly the faces that the loop has
seen (`getMeshMaterialHash_eq_iff`).
-/

namespace Halcyon.PrimExporter

open Halcyon.Lib

/-- What is passed to one of the overloads of `Murmur2.Hash`. -/
inductive Piece
  | ofByte (b : UInt8)
  | ofUshort (n : UInt16)
  | ofBytes (bytes : List UInt8)
  deriving DecidableEq

/-- `BitConverter.GetBytes` of a `float` with these bits. -/
def getBytes (bits : UInt32) : List UInt8 :=
  [UInt8.ofNat bits.toNat, UInt8.ofNat (bits.toNat / 2 ^ 8), UInt8.ofNat (bits.toNat / 2 ^ 16),
    UInt8.ofNat (bits.toNat / 2 ^ 24)]

/-- `Primitive.TextureEntryFace`: the values of a face, with the numbers of the enumerations, the
bits of the floats and the bytes of the colour and of the id. -/
structure TextureEntryFace where
  bump : UInt8
  fullbright : Bool
  glow : UInt32
  mediaFlags : Bool
  offsetU : UInt32
  offsetV : UInt32
  repeatU : UInt32
  repeatV : UInt32
  rotation : UInt32
  rgba : List UInt8
  shiny : UInt8
  texMapType : UInt8
  textureID : List UInt8
  deriving DecidableEq

variable {η : Type} (C : ChainHash Piece η)

/-- `GetMaterialFaceHash` with the hash of what came before. -/
def getMaterialFaceHash (hash : η) (teFace : TextureEntryFace) : η :=
  let hash := C.step (.ofUshort (UInt16.ofNat teFace.bump.toNat)) hash
  let hash := C.step (.ofByte (if teFace.fullbright then 1 else 0)) hash
  let hash := C.step (.ofBytes (getBytes teFace.glow)) hash
  let hash := C.step (.ofByte (if teFace.mediaFlags then 1 else 0)) hash
  let hash := C.step (.ofBytes (getBytes teFace.offsetU)) hash
  let hash := C.step (.ofBytes (getBytes teFace.offsetV)) hash
  let hash := C.step (.ofBytes (getBytes teFace.repeatU)) hash
  let hash := C.step (.ofBytes (getBytes teFace.repeatV)) hash
  let hash := C.step (.ofBytes (getBytes teFace.rotation)) hash
  let hash := C.step (.ofBytes teFace.rgba) hash
  let hash := C.step (.ofByte teFace.shiny) hash
  let hash := C.step (.ofByte teFace.texMapType) hash
  let hash := C.step (.ofBytes teFace.textureID) hash
  hash

/-- `GetMaterialFaceHash` of one face. -/
def getFaceHash (teFace : TextureEntryFace) : η := getMaterialFaceHash C C.seed teFace

/-- `Primitive.TextureEntry`: the default texture and the slots for the faces. -/
structure TextureEntry (n : Nat) where
  defaultTexture : TextureEntryFace
  faceTextures : Fin n → Option TextureEntryFace

namespace TextureEntry

variable {n : Nat} (t : TextureEntry n)

/-- `GetFace`: the material that applies to a face. -/
def getFace (i : Fin n) : TextureEntryFace := (t.faceTextures i).getD t.defaultTexture

/-- The number of slots that are set. -/
def numFaces : Nat := (List.finRange n).countP fun i => (t.faceTextures i).isSome

/-- The materials of the first faces. -/
def firstFaces (k : Nat) : List TextureEntryFace := ((List.finRange n).take k).map t.getFace

lemma numFaces_le : t.numFaces ≤ n := by
  have hle : t.numFaces ≤ (List.finRange n).length := List.countP_le_length
  rwa [List.length_finRange] at hle

end TextureEntry

/-- `GetMeshMaterialHash`. -/
def getMeshMaterialHash {n : Nat} (t : TextureEntry n) : η :=
  (t.firstFaces t.numFaces).foldl (getMaterialFaceHash C) C.seed

/-! ## What a hash determines -/

/-- The pieces of a face, in the order in which they are chained. -/
def TextureEntryFace.pieces (f : TextureEntryFace) : List Piece :=
  [.ofUshort (UInt16.ofNat f.bump.toNat), .ofByte (if f.fullbright then 1 else 0),
    .ofBytes (getBytes f.glow), .ofByte (if f.mediaFlags then 1 else 0),
    .ofBytes (getBytes f.offsetU), .ofBytes (getBytes f.offsetV), .ofBytes (getBytes f.repeatU),
    .ofBytes (getBytes f.repeatV), .ofBytes (getBytes f.rotation), .ofBytes f.rgba,
    .ofByte f.shiny, .ofByte f.texMapType, .ofBytes f.textureID]

lemma getMaterialFaceHash_eq (hash : η) (f : TextureEntryFace) :
    getMaterialFaceHash C hash f = C.extend hash f.pieces := rfl

lemma getBytes_injective : Function.Injective getBytes := by
  intro a b h
  have ha := a.toNat_lt
  have hb := b.toNat_lt
  simp only [getBytes, List.cons.injEq, and_true] at h
  obtain ⟨h0, h1, h2, h3⟩ := h
  have h0 := congrArg UInt8.toNat h0
  have h1 := congrArg UInt8.toNat h1
  have h2 := congrArg UInt8.toNat h2
  have h3 := congrArg UInt8.toNat h3
  simp only [UInt8.toNat_ofNat'] at h0 h1 h2 h3
  refine UInt32.toNat_inj.mp ?_
  omega

lemma flag_injective : Function.Injective fun flag : Bool => if flag then (1 : UInt8) else 0 := by
  intro a b
  cases a <;> cases b <;> decide

lemma ushort_injective : Function.Injective fun b : UInt8 => UInt16.ofNat b.toNat := by
  intro a b h
  have ha := a.toNat_lt
  have hb := b.toNat_lt
  have h := congrArg UInt16.toNat h
  simp only [UInt16.toNat_ofNat'] at h
  refine UInt8.toNat_inj.mp ?_
  omega

/-- The pieces of a face determine it. -/
lemma pieces_injective : Function.Injective TextureEntryFace.pieces := by
  intro f g h
  simp only [TextureEntryFace.pieces, List.cons.injEq, Piece.ofUshort.injEq, Piece.ofByte.injEq,
    Piece.ofBytes.injEq, and_true] at h
  obtain ⟨hbump, hfull, hglow, hmedia, hoffU, hoffV, hrepU, hrepV, hrot, hrgba, hshiny, hmap, hid⟩ :=
    h
  cases f
  cases g
  simp only [TextureEntryFace.mk.injEq]
  exact ⟨ushort_injective hbump, flag_injective hfull, getBytes_injective hglow,
    flag_injective hmedia, getBytes_injective hoffU, getBytes_injective hoffV,
    getBytes_injective hrepU, getBytes_injective hrepV, getBytes_injective hrot, hrgba, hshiny,
    hmap, hid⟩

/-- The hash of a face determines it. -/
lemma getFaceHash_injective : Function.Injective (getFaceHash C) := by
  intro f g h
  exact pieces_injective (C.digest_injective h)

lemma foldl_getMaterialFaceHash (hash : η) (fs : List TextureEntryFace) :
    fs.foldl (getMaterialFaceHash C) hash = C.extend hash (fs.flatMap TextureEntryFace.pieces) := by
  induction fs generalizing hash with
  | nil => rfl
  | cons f fs ih =>
    rw [List.foldl_cons, ih, getMaterialFaceHash_eq, List.flatMap_cons, C.extend_append]

/-- All faces have the same number of pieces, so that a list of them can be read back. -/
lemma flatMap_pieces_injective :
    Function.Injective fun fs : List TextureEntryFace => fs.flatMap TextureEntryFace.pieces := by
  intro fs
  induction fs with
  | nil =>
    intro gs h
    cases gs with
    | nil => rfl
    | cons g gs => cases h
  | cons f fs ih =>
    intro gs h
    cases gs with
    | nil => cases h
    | cons g gs =>
      obtain ⟨hhead, htail⟩ := List.append_inj
        (show f.pieces ++ fs.flatMap _ = g.pieces ++ gs.flatMap _ from h) rfl
      rw [pieces_injective hhead, ih htail]

/-- The hash of a prim determines the materials of the faces that it was computed from. -/
lemma getMeshMaterialHash_eq_iff {n : Nat} (t u : TextureEntry n) :
    getMeshMaterialHash C t = getMeshMaterialHash C u ↔
      t.firstFaces t.numFaces = u.firstFaces u.numFaces := by
  constructor
  · intro h
    rw [getMeshMaterialHash, getMeshMaterialHash, foldl_getMaterialFaceHash,
      foldl_getMaterialFaceHash] at h
    exact flatMap_pieces_injective (C.digest_injective h)
  · intro h
    rw [getMeshMaterialHash, getMeshMaterialHash, h]

end Halcyon.PrimExporter
