import Halcyon.Aperture.Reply

/-!
# Replies with an asset, and ranges of it

`asset_response_callback` answers a request with the data of the asset it asked for, or with the
range of it that a `Range` header names: `parse_range` reads the header, `copyAssetData` clamps and
copies, and `sendResponse` fills the reply.

For a well-formed asset the reply to a request with one `Range` header is exact apart from two kinds
of header: `bytes=-n` is read as the range from `0` to `n`, not as the last `n`
bytes, and `bytes=a-` ends at `2 ^ 32 - 1`, so more than `2 ^ 32` bytes are not sent to their end.
-/

namespace Halcyon.Aperture

open Halcyon.Lib Halcyon.Whip

/-! ## The callback -/

/-- What the value of a `Range` header starts with. -/
def bytesUnit : Text := "bytes=".toList

/-- `parse_range`: both ends, as the header has them. -/
def parseRange (rangeStr : Text) : Access Exn (Nat × Nat) :=
  if rangeStr.take 6 ≠ bytesUnit then
    throw (.rangeError "Invalid range")
  else
    let specStr := rangeStr.drop 6
    match specStr.splitOn '-' with
    | [first, last] =>
      if first = [] ∧ last ≠ [] then do
        let rngEnd ← castOrThrow (lexicalCastUInt last)
        return (0, rngEnd)
      else if first ≠ [] ∧ last = [] then do
        let rngBegin ← castOrThrow (lexicalCastUInt first)
        return (rngBegin, 2 ^ 32 - 1)
      else if first ≠ [] ∧ last ≠ [] then do
        let rngBegin ← castOrThrow (lexicalCastUInt first)
        let rngEnd ← castOrThrow (lexicalCastUInt last)
        return (rngBegin, rngEnd)
      else throw (.rangeError ("Invalid range spec: " ++ String.ofList specStr))
    | _ => throw (.rangeError ("Invalid range spec: " ++ String.ofList specStr))

/-- `size_t` subtraction of one. -/
def sizePred (P : Platform) (n : Nat) : Nat := (n + 2 ^ P.sizeBits - 1) % 2 ^ P.sizeBits

section

variable {P : Platform}

/-- The range after one more header of the request: the last `Range` header counts. -/
def nextRange (range : Option (Nat × Nat)) (mheader : Header) :
    Access Exn (Option (Nat × Nat)) :=
  if mheader.name = Header.rangeName then some <$> parseRange mheader.value else pure range

/-- `sendResponse`. -/
def sendResponse (headers : List Header) (rep : Reply) (asset : IAsset P) (contentType : Text) :
    Access Exn Reply := do
  let range ← headers.foldlM nextRange none
  match range with
  | some (rngBegin, rngEnd) =>
    let (fullSz, content) ← asset.copyAssetDataRange rep.content rngBegin rngEnd
    let rngEnd := if rngEnd > sizePred P fullSz then sizePred P fullSz else rngEnd
    if fullSz ≠ content.length then
      return { rep with
        status := .partialContent
        content := content
        headers := [.contentLength content, .contentType contentType,
          .contentRange rngBegin rngEnd fullSz] }
    else
      return { rep with
        status := .ok
        content := content
        headers := [.contentLength content, .contentType contentType] }
  | none =>
    let (_, content) ← asset.copyAssetData rep.content
    return { rep with
      status := .ok
      content := content
      headers := [.contentLength content, .contentType contentType] }

/-- `AT_TEXTURE`. -/
def atTexture : UInt8 := 0

/-- `AT_MESH`. -/
def atMesh : UInt8 := 49

/-- The type of the content of an asset that is sent. -/
def contentTypeOf (type : UInt8) : Text :=
  if type = atTexture then "image/x-j2c".toList else "application/vnd.ll.mesh".toList

/-- What `asset_response_callback` puts into the reply when there is an asset. -/
def assetReply (headers : List Header) (rep : Reply) (asset : IAsset P) : Access Exn Reply := do
  let type ← asset.getType
  if type ≠ atTexture ∧ type ≠ atMesh then
    return .stock .notFound none
  else
    let errorReportingFullSz ← asset.getBinaryDataSize
    match sendResponse headers rep asset (contentTypeOf type) with
    | .done rep => return rep
    | .throws (.rangeError _) =>
      return .stock .rangeError
        (some (.contentRange 0 (sizePred P errorReportingFullSz) errorReportingFullSz))
    | .throws _ => return .stock .badRequest none
    | .outside => .outside

end

/-! ## Well-formed assets -/

section WellFormed

variable {P : Platform}

/-- The asset holds the data: an array of the asset server is 39 bytes, the name and the
description behind their lengths, and the data behind its length. -/
def IAsset.Holds (data : Bytes) : IAsset P → Prop
  | whip a => ∃ header name desc : Bytes, header.length = 39 ∧ name.length < 256 ∧
      desc.length < 256 ∧ data.length < 2 ^ 32 ∧
      a.data = header ++ UInt8.ofNat name.length :: name ++ UInt8.ofNat desc.length :: desc ++
        htonl data.length ++ data
  | cloudFiles a => a.data = data

/-- The copy of a range that both representations make. -/
def copiedRange (data : Bytes) (rngStart rngEnd : Nat) : Bytes :=
  if data.length = 0 then [] else
    let (rngStart, rngEnd) := clampRange data.length rngStart rngEnd
    (data.drop rngStart).take (rngEnd - rngStart + 1)

lemma Asset.fields_of_holds {a : Asset P} {data : Bytes} (h : (IAsset.whip a).Holds data) :
    ∃ name desc, a.Fields name desc ∧ a.reportedSize name desc = data.length ∧
      a.data.drop (45 + name.toNat + desc.toNat) = data ∧
      a.data.length = 45 + name.toNat + desc.toNat + data.length := by
  obtain ⟨header, name, desc, hheader, hname, hdesc, hdata, heq⟩ := h
  have hn : (UInt8.ofNat name.length).toNat = name.length := by
    simp only [UInt8.toNat_ofNat']
    omega
  have hd : (UInt8.ofNat desc.length).toNat = desc.length := by
    simp only [UInt8.toNat_ofNat']
    omega
  have hlen : a.data.length = 45 + name.length + desc.length + data.length := by
    simp only [heq, List.length_append, List.length_cons, length_htonl, hheader]
    omega
  have hsplit : a.data = (header ++ UInt8.ofNat name.length :: name ++
      UInt8.ofNat desc.length :: desc) ++ (htonl data.length ++ data) := by
    rw [heq, List.append_assoc]
  have hpre : (header ++ UInt8.ofNat name.length :: name ++
      UInt8.ofNat desc.length :: desc).length = 41 + name.length + desc.length := by
    simp only [List.length_append, List.length_cons, hheader]
    omega
  refine ⟨UInt8.ofNat name.length, UInt8.ofNat desc.length, ⟨?_, ?_, ?_⟩, ?_, ?_, ?_⟩
  · rw [heq]
    simp [hheader]
  · rw [heq, hn]
    have hskip : (header ++ UInt8.ofNat name.length :: name).length = 40 + name.length := by
      simp only [List.length_append, List.length_cons, hheader]
      omega
    rw [List.append_assoc, List.append_assoc, List.getElem?_append_right (by omega), hskip]
    simp
  · omega
  · rw [Asset.reportedSize, hn, hd, hsplit, List.drop_append_of_le_length (by omega),
      List.drop_of_length_le (by omega), List.nil_append, List.take_append_of_le_length (by simp),
      List.take_of_length_le (by simp), ntohl_htonl hdata]
  · rw [hn, hd, heq, List.drop_append_of_le_length, List.drop_of_length_le, List.nil_append] <;>
      simp only [List.length_append, List.length_cons, length_htonl, hheader] <;> omega
  · rw [hn, hd, hlen]

variable {asset : IAsset P} {data : Bytes}

lemma IAsset.getBinaryDataSize_of_holds (h : asset.Holds data) :
    asset.getBinaryDataSize = .done data.length := by
  cases asset with
  | whip a =>
    obtain ⟨name, desc, hfields, hsize, -, -⟩ := Asset.fields_of_holds h
    simp only [IAsset.getBinaryDataSize, Asset.getBinaryDataSize,
      Asset.findDataLocationAndSize_of_fields hfields, Access.done_bind, hsize]
    rfl
  | cloudFiles a => exact congrArg (fun d => Access.done d.length) h

/-- The type of the asset can be read. -/
lemma IAsset.getType_of_holds (h : asset.Holds data) : ∃ type, asset.getType = .done type := by
  cases asset with
  | whip a =>
    obtain ⟨name, desc, hfields, -⟩ := Asset.fields_of_holds h
    have hlen : 32 < a.data.length := by
      have := hfields.dataSz
      omega
    exact ⟨_, readAt_eq_done.mpr (List.getElem?_eq_getElem hlen)⟩
  | cloudFiles a => exact ⟨_, rfl⟩

/-- Both representations copy the same bytes. -/
lemma IAsset.copyAssetDataRange_of_holds (h : asset.Holds data) (storage : Bytes)
    (rngStart rngEnd : Nat) : asset.copyAssetDataRange storage rngStart rngEnd =
      .done (data.length, storage ++ copiedRange data rngStart rngEnd) := by
  unfold copiedRange
  cases asset with
  | whip a =>
    obtain ⟨name, desc, hfields, hsize, hdrop, hlen⟩ := Asset.fields_of_holds h
    have hbound := a.size_lt
    simp only [IAsset.copyAssetDataRange, Asset.copyAssetDataRange,
      Asset.findDataLocationAndSize_of_fields hfields, Access.done_bind, hsize]
    split_ifs with hzero hover
    · rw [List.append_nil, hzero]
      rfl
    · have hvalid := clampRange_valid rngStart rngEnd hzero
      rw [sizeAdd_of_lt (by omega)] at hover
      omega
    · have hvalid := clampRange_valid rngStart rngEnd hzero
      rw [sizeAdd_of_lt (by omega), readRange_eq (by omega), Access.done_bind, ← List.drop_drop,
        hdrop]
      rfl
  | cloudFiles a =>
    obtain rfl : a.data = data := h
    simp only [IAsset.copyAssetDataRange, CloudFilesAsset.copyAssetDataRange]
    split_ifs with hzero
    · rw [List.append_nil, hzero]
      rfl
    · have hvalid := clampRange_valid rngStart rngEnd hzero
      rw [readRange_eq (by omega), Access.done_bind]
      rfl

lemma IAsset.length_lt_of_holds (h : asset.Holds data) : data.length < 2 ^ P.sizeBits := by
  cases asset with
  | whip a =>
    obtain ⟨_, _, _, _, _, _, hlt, _⟩ := h
    exact Nat.lt_of_lt_of_le hlt P.le_size
  | cloudFiles a =>
    obtain rfl : a.data = data := h
    exact a.size_lt

end WellFormed

/-! ## What a header asks for -/

/-- The three forms of a `Range` header with one range. -/
inductive RangeSpec
  | between (first last : Digits)
  | start (first : Digits)
  | suffix (count : Digits)

namespace RangeSpec

/-- The value of the header. -/
def text : RangeSpec → Text
  | between first last => bytesUnit ++ (first.chars ++ '-' :: last.chars)
  | start first => bytesUnit ++ (first.chars ++ ['-'])
  | suffix count => bytesUnit ++ ('-' :: count.chars)

/-- The position is one of those the header asks for; a suffix counts from the end. -/
def Contains (size i : Nat) : RangeSpec → Prop
  | between first last => first.value ≤ i ∧ i ≤ last.value
  | start first => first.value ≤ i
  | suffix count => size ≤ i + count.value

/-- The ends that `parse_range` makes of the header. -/
def parsed : RangeSpec → Nat × Nat
  | between first last => (first.value, last.value)
  | start first => (first.value, 2 ^ 32 - 1)
  | suffix count => (0, count.value)

/-- Every number in the header is an `unsigned int`. -/
def Fits : RangeSpec → Prop
  | between first last => first.value < 2 ^ 32 ∧ last.value < 2 ^ 32
  | start first => first.value < 2 ^ 32
  | suffix count => count.value < 2 ^ 32

instance : DecidablePred Fits
  | between _ _ => inferInstanceAs (Decidable (_ ∧ _))
  | start _ | suffix _ => inferInstanceAs (Decidable (_ < _))

lemma castOrThrow_digits (d : Digits) : castOrThrow (lexicalCastUInt d.chars) =
    if d.value < 2 ^ 32 then .done d.value else .throws .badLexicalCast := by
  rw [lexicalCastUInt_digits]
  split_ifs <;> rfl

/-- A text that starts with `bytes=` is read by what stands before and behind the dash. -/
lemma splitOn_bytesUnit {first last : Text} (hfirst : '-' ∉ first) (hlast : '-' ∉ last) :
    (bytesUnit ++ (first ++ '-' :: last)).take 6 = bytesUnit ∧
      ((bytesUnit ++ (first ++ '-' :: last)).drop 6).splitOn '-' = [first, last] := by
  refine ⟨List.take_left' rfl, ?_⟩
  have hsplit : first ++ '-' :: last = ['-'].intercalate [first, last] := by
    simp
  rw [List.drop_left' (i := 6) rfl, hsplit]
  refine List.splitOn_intercalate '-' ?_ (by simp)
  intro t ht
  rcases List.mem_pair.mp ht with rfl | rfl
  · exact hfirst
  · exact hlast

lemma parseRange_text (spec : RangeSpec) : parseRange spec.text =
    if spec.Fits then .done spec.parsed else .throws .badLexicalCast := by
  cases spec with
  | between first last =>
    obtain ⟨htake, hsplit⟩ :=
      splitOn_bytesUnit (first.not_mem (c := '-') rfl) (last.not_mem (c := '-') rfl)
    unfold text parseRange
    dsimp only
    rw [if_neg (not_not.mpr htake), hsplit]
    dsimp only
    rw [if_neg fun h => first.ne_nil h.1, if_neg fun h => last.ne_nil h.2,
      if_pos ⟨first.ne_nil, last.ne_nil⟩, castOrThrow_digits, castOrThrow_digits]
    by_cases hf : first.value < 2 ^ 32
    · rw [if_pos hf, Access.done_bind]
      by_cases hl : last.value < 2 ^ 32
      · rw [if_pos hl, if_pos (show Fits (.between first last) from ⟨hf, hl⟩)]
        rfl
      · rw [if_neg hl, if_neg (show ¬ Fits (.between first last) from fun h => hl h.2)]
        rfl
    · rw [if_neg hf, if_neg (show ¬ Fits (.between first last) from fun h => hf h.1)]
      rfl
  | start first =>
    obtain ⟨htake, hsplit⟩ :=
      splitOn_bytesUnit (first.not_mem (c := '-') rfl) (List.not_mem_nil (a := '-'))
    unfold text parseRange
    dsimp only
    rw [if_neg (not_not.mpr htake), hsplit]
    dsimp only
    rw [if_neg fun h => first.ne_nil h.1, if_pos ⟨first.ne_nil, rfl⟩, castOrThrow_digits]
    by_cases hf : first.value < 2 ^ 32
    · rw [if_pos hf, if_pos (show Fits (.start first) from hf)]
      rfl
    · rw [if_neg hf, if_neg (show ¬ Fits (.start first) from hf)]
      rfl
  | suffix count =>
    obtain ⟨htake, hsplit⟩ :=
      splitOn_bytesUnit (List.not_mem_nil (a := '-')) (count.not_mem (c := '-') rfl)
    rw [List.nil_append] at htake hsplit
    unfold text parseRange
    dsimp only
    rw [if_neg (not_not.mpr htake), hsplit]
    dsimp only
    rw [if_pos ⟨rfl, count.ne_nil⟩, castOrThrow_digits]
    by_cases hf : count.value < 2 ^ 32
    · rw [if_pos hf, if_pos (show Fits (.suffix count) from hf)]
      rfl
    · rw [if_neg hf, if_neg (show ¬ Fits (.suffix count) from hf)]
      rfl

end RangeSpec

/-! ## Exact replies -/

/-- A reply with status 206: the content is the data from `first` to `last`, these are the
positions the header asks for, and the headers say so. -/
def ExactPart (data : Bytes) (spec : RangeSpec) (rep : Reply) : Prop :=
  ∃ first last type, first ≤ last ∧ last < data.length ∧
    (∀ i < data.length, spec.Contains data.length i ↔ first ≤ i ∧ i ≤ last) ∧
    rep.content = (data.drop first).take (last - first + 1) ∧
    rep.headers = [.contentLength rep.content, .contentType type,
      .contentRange first last data.length]

/-- A reply with status 206 is exact, and any other successful reply is the whole data with
status 200. -/
def RangeExact (data : Bytes) (spec : RangeSpec) (rep : Reply) : Prop :=
  (rep.status = .partialContent → ExactPart data spec rep) ∧
    (rep.status.isSuccess = true → rep.status ≠ .partialContent →
      rep.status = .ok ∧ rep.content = data)

section Exact

variable {P : Platform} {asset : IAsset P} {data : Bytes} {headers : List Header}
  {spec : RangeSpec} {rep : Reply}

lemma foldlM_nextRange_of_none (range : Option (Nat × Nat))
    (hnone : headers.filter (fun h => h.name = Header.rangeName) = []) :
    headers.foldlM nextRange range = pure range := by
  induction headers with
  | nil => rfl
  | cons h headers ih =>
    rw [List.filter_eq_nil_iff] at hnone
    have hh : h.name ≠ Header.rangeName := by simpa using hnone h List.mem_cons_self
    rw [List.foldlM_cons, nextRange, if_neg hh]
    exact ih (List.filter_eq_nil_iff.mpr fun x hx => hnone x (List.mem_cons_of_mem _ hx))

/-- The only `Range` header is the one that is parsed. -/
lemma foldlM_nextRange {value : Text} (range : Option (Nat × Nat))
    (hone : headers.filter (fun h => h.name = Header.rangeName) = [⟨Header.rangeName, value⟩]) :
    headers.foldlM nextRange range = some <$> parseRange value := by
  induction headers with
  | nil => cases hone
  | cons h headers ih =>
    by_cases hh : h.name = Header.rangeName
    · rw [List.filter_cons_of_pos (by simpa using hh)] at hone
      obtain ⟨rfl, hnone⟩ := List.cons.inj hone
      rw [List.foldlM_cons, nextRange, if_pos rfl]
      cases parseRange value with
      | done ends => exact foldlM_nextRange_of_none _ hnone
      | throws e => rfl
      | outside => rfl
    · rw [List.filter_cons_of_neg (by simpa using hh)] at hone
      rw [List.foldlM_cons, nextRange, if_neg hh]
      exact ih hone

lemma sizePred_of_pos {n : Nat} (hpos : n ≠ 0) (hlt : n < 2 ^ P.sizeBits) :
    sizePred P n = n - 1 := by
  have hsplit : n + 2 ^ P.sizeBits - 1 = n - 1 + 2 ^ P.sizeBits := by omega
  rw [sizePred, hsplit, Nat.add_mod_right, Nat.mod_eq_of_lt (by omega)]

/-- A copied range that is shorter than the data lies where it was asked for. -/
lemma copiedRange_of_length_ne {rngStart rngEnd : Nat}
    (hne : data.length ≠ (copiedRange data rngStart rngEnd).length) :
    rngStart < data.length ∧ rngStart ≤ rngEnd ∧
      copiedRange data rngStart rngEnd =
        (data.drop rngStart).take (min rngEnd (data.length - 1) - rngStart + 1) := by
  unfold copiedRange at hne ⊢
  split_ifs at hne ⊢ with hzero
  · exact absurd hzero (by simpa using hne)
  by_cases hin : rngStart < data.length ∧ rngStart ≤ rngEnd
  · rw [clampRange_of_le hin.1 hin.2]
    exact ⟨hin.1, hin.2, rfl⟩
  · rw [clampRange_of_not_le hin hzero] at hne
    simp only [List.drop_zero, List.length_take] at hne
    omega

/-- A copied range as long as the data is the data. -/
lemma copiedRange_of_length_eq {rngStart rngEnd : Nat}
    (heq : data.length = (copiedRange data rngStart rngEnd).length) :
    copiedRange data rngStart rngEnd = data := by
  unfold copiedRange at heq ⊢
  split_ifs at heq ⊢ with hzero
  · exact (List.length_eq_zero_iff.mp hzero).symm
  simp only [List.length_take, List.length_drop] at heq
  have hstart : (clampRange data.length rngStart rngEnd).1 = 0 := by omega
  simp only [hstart, List.drop_zero] at heq ⊢
  exact List.take_of_length_le (by omega)

/-- The reply to a request with one `Range` header whose numbers fit. -/
lemma sendResponse_of_fits (hholds : asset.Holds data) (hfits : spec.Fits)
    (hone : headers.filter (fun h => h.name = Header.rangeName) = [⟨Header.rangeName, spec.text⟩])
    (type : Text) :
    sendResponse headers rep.reset asset type =
      .done (if data.length ≠ (copiedRange data spec.parsed.1 spec.parsed.2).length then
        { rep.reset with
          status := .partialContent
          content := copiedRange data spec.parsed.1 spec.parsed.2
          headers := [.contentLength (copiedRange data spec.parsed.1 spec.parsed.2),
            .contentType type,
            .contentRange spec.parsed.1 (min spec.parsed.2 (data.length - 1)) data.length] }
      else
        { rep.reset with
          status := .ok
          content := data
          headers := [.contentLength data, .contentType type] }) := by
  rw [sendResponse, foldlM_nextRange none hone, RangeSpec.parseRange_text, if_pos hfits]
  generalize spec.parsed = ends
  obtain ⟨rngBegin, rngEnd⟩ := ends
  show (asset.copyAssetDataRange [] rngBegin rngEnd >>= _) = _
  rw [asset.copyAssetDataRange_of_holds hholds, Access.done_bind, List.nil_append]
  dsimp only
  by_cases hne : data.length ≠ (copiedRange data rngBegin rngEnd).length
  · have hlt := asset.length_lt_of_holds hholds
    have hstart := (copiedRange_of_length_ne hne).1
    have hlast : (if rngEnd > sizePred P data.length then sizePred P data.length else rngEnd) =
        min rngEnd (data.length - 1) := by
      rw [sizePred_of_pos (by omega) hlt]
      split_ifs <;> omega
    rw [if_pos hne, if_pos hne, hlast]
    rfl
  · rw [if_neg hne, if_neg hne, copiedRange_of_length_eq (not_not.mp hne)]
    rfl

/-- The callback on a well-formed asset of a type that is sent. -/
lemma assetReply_of_served (hholds : asset.Holds data) {type : UInt8}
    (htype : asset.getType = .done type) (hserved : type = atTexture ∨ type = atMesh) :
    assetReply headers rep asset =
      match sendResponse headers rep asset (contentTypeOf type) with
      | .done rep => .done rep
      | .throws (.rangeError _) => .done (.stock .rangeError
          (some (.contentRange 0 (sizePred P data.length) data.length)))
      | .throws _ => .done (.stock .badRequest none)
      | .outside => .outside := by
  have hsent : ¬ (type ≠ atTexture ∧ type ≠ atMesh) := by
    rintro ⟨h₁, h₂⟩
    exact hserved.elim h₁ h₂
  rw [assetReply, htype, Access.done_bind, if_neg hsent, asset.getBinaryDataSize_of_holds hholds,
    Access.done_bind]
  rfl

/-- A reply that reports an error is exact: it promises nothing. -/
lemma rangeExact_of_not_isSuccess (h : rep.status.isSuccess = false) :
    RangeExact data spec rep := by
  refine ⟨fun hpart => ?_, fun hsuccess => ?_⟩
  · rw [hpart] at h
    exact absurd h (by decide)
  · rw [h] at hsuccess
    exact absurd hsuccess (by decide)

lemma rangeExact_iff_exactPart (h : rep.status = .partialContent) :
    RangeExact data spec rep ↔ ExactPart data spec rep :=
  ⟨fun hexact => hexact.1 h, fun hpart => ⟨fun _ => hpart, fun _ hne => absurd h hne⟩⟩

end Exact

/-- The code makes the range of the header that the header means, for data of this size: an open
range ends before `2 ^ 32`, and a suffix is all of the data. -/
def RangeSpec.Supported (size : Nat) : RangeSpec → Prop
  | between _ _ => True
  | start first => first.value < 2 ^ 32 → size ≤ 2 ^ 32
  | suffix count => count.value < 2 ^ 32 → size ≤ count.value + 1

/-- The asset is of one of the types that are sent to clients. -/
def IAsset.Served {P : Platform} (asset : IAsset P) : Prop :=
  asset.getType = .done atTexture ∨ asset.getType = .done atMesh

section Exact

variable {P : Platform} {asset : IAsset P} {data : Bytes} {spec : RangeSpec} {rep : Reply}

/-- A header whose numbers do not fit is supported: the reply is an error. -/
lemma RangeSpec.supported_of_not_fits (h : ¬ spec.Fits) : spec.Supported data.length := by
  cases spec with
  | between first last => trivial
  | start first => exact fun hlt => absurd hlt h
  | suffix count => exact fun hlt => absurd hlt h

/-- A header whose range is all of the data is supported. -/
lemma RangeSpec.supported_of_length_eq
    (heq : data.length = (copiedRange data spec.parsed.1 spec.parsed.2).length) :
    spec.Supported data.length := by
  unfold copiedRange at heq
  cases spec with
  | between first last => trivial
  | start first =>
    intro hlt
    by_contra hlong
    rw [if_neg (by omega), RangeSpec.parsed] at heq
    dsimp only at heq
    rw [clampRange_of_le (by omega) (by omega)] at heq
    simp only [List.length_take, List.length_drop] at heq
    omega
  | suffix count =>
    intro hlt
    by_contra hlong
    rw [if_neg (by omega), RangeSpec.parsed] at heq
    dsimp only at heq
    rw [clampRange_of_le (by omega) (by omega)] at heq
    simp only [List.length_take, List.length_drop] at heq
    omega

/-- A part of the data is exact if and only if the header is supported. -/
lemma exactPart_iff (hfits : spec.Fits) (type : Text)
    (hne : data.length ≠ (copiedRange data spec.parsed.1 spec.parsed.2).length)
    (hcontent : rep.content = copiedRange data spec.parsed.1 spec.parsed.2)
    (hheaders : rep.headers = [.contentLength rep.content, .contentType type,
      .contentRange spec.parsed.1 (min spec.parsed.2 (data.length - 1)) data.length]) :
    ExactPart data spec rep ↔ spec.Supported data.length := by
  obtain ⟨hstart, hle, hcopied⟩ := copiedRange_of_length_ne hne
  have hlength : rep.content.length =
      min spec.parsed.2 (data.length - 1) - spec.parsed.1 + 1 := by
    rw [hcontent, hcopied, List.length_take, List.length_drop]
    omega
  rw [hcontent] at hlength
  constructor
  · rintro ⟨first, last, -, hfirst, hlast, hcontains, hpart, -⟩
    have hpartLength : rep.content.length = last - first + 1 := by
      rw [hpart, List.length_take, List.length_drop]
      omega
    rw [hcontent, hlength] at hpartLength
    -- the first position of the part is one that the header asks for
    have hhead := (hcontains first (by omega)).mpr ⟨Nat.le_refl _, hfirst⟩
    cases spec with
    | between _ _ => trivial
    | start a =>
      intro hlt
      have htail := (hcontains (data.length - 1) (by omega)).mp
      have hat := (hcontains a.value hstart).mp
      simp only [RangeSpec.Contains, RangeSpec.parsed] at hhead htail hat hpartLength hstart
      by_contra hlong
      have := (htail (by omega)).2
      have := (hat (Nat.le_refl _)).1
      omega
    | suffix n =>
      intro hlt
      simp only [RangeSpec.Contains, RangeSpec.parsed] at hhead hpartLength
      omega
  · intro hsupported
    refine ⟨spec.parsed.1, min spec.parsed.2 (data.length - 1), type, by omega, by omega, ?_,
      hcontent.trans hcopied, hheaders⟩
    intro i hi
    cases spec with
    | between a b =>
      simp only [RangeSpec.Contains, RangeSpec.parsed]
      omega
    | start a =>
      have := hsupported hfits
      simp only [RangeSpec.Contains, RangeSpec.parsed]
      omega
    | suffix n =>
      have := hsupported hfits
      simp only [RangeSpec.parsed] at hlength hne
      omega

end Exact

/-- For a well-formed asset and a request with one `Range` header, the reply is exact if and only
if the header is supported or the asset is of a type that is not sent. -/
theorem rangeExact_iff {P : Platform} {asset : IAsset P} {data : Bytes} (hholds : asset.Holds data)
    {headers : List Header} {spec : RangeSpec}
    (hone : headers.filter (fun h => h.name = Header.rangeName) = [⟨Header.rangeName, spec.text⟩])
    (rep : Reply) :
    (∃ r, assetReply headers rep.reset asset = .done r ∧ RangeExact data spec r) ↔
      (asset.Served → spec.Supported data.length) := by
  obtain ⟨type, htype⟩ := asset.getType_of_holds hholds
  by_cases hserved : type = atTexture ∨ type = atMesh
  · have hasset : asset.Served := by
      rcases hserved with rfl | rfl
      · exact .inl htype
      · exact .inr htype
    simp only [assetReply_of_served hholds htype hserved, hasset, true_imp_iff]
    by_cases hfits : spec.Fits
    · rw [sendResponse_of_fits hholds hfits hone]
      by_cases hne : data.length ≠ (copiedRange data spec.parsed.1 spec.parsed.2).length
      · simp only [if_pos hne, Access.done.injEq, exists_eq_left']
        rw [rangeExact_iff_exactPart rfl]
        exact exactPart_iff hfits (contentTypeOf type) hne rfl rfl
      · simp only [if_neg hne, Access.done.injEq, exists_eq_left']
        refine iff_of_true ⟨nofun, fun _ _ => ⟨rfl, rfl⟩⟩ ?_
        exact RangeSpec.supported_of_length_eq (not_not.mp hne)
    · have hthrow : sendResponse headers rep.reset asset (contentTypeOf type) =
          .throws .badLexicalCast := by
        rw [sendResponse, foldlM_nextRange none hone, RangeSpec.parseRange_text, if_neg hfits]
        rfl
      rw [hthrow]
      refine iff_of_true ⟨_, rfl, rangeExact_of_not_isSuccess rfl⟩ ?_
      exact RangeSpec.supported_of_not_fits hfits
  · have hother : ¬ asset.Served := by
      rintro (h | h) <;> rw [htype] at h <;> exact hserved (by simp_all)
    have hreply : assetReply headers rep.reset asset = .done (.stock .notFound none) := by
      rw [assetReply, htype, Access.done_bind, if_pos (not_or.mp hserved)]
      rfl
    rw [hreply]
    exact iff_of_true ⟨_, rfl, rangeExact_of_not_isSuccess rfl⟩ fun h => absurd h hother

namespace RangeSample

/-- A texture of four bytes. -/
def texture : IAsset .x64 := .cloudFiles ⟨[], 0, [1, 2, 3, 4], by decide⟩

/-- A number with one digit. -/
def digit (c : Char) (h : c.isDigit = true) : Digits := ⟨[c], by simp, by simpa using h⟩

/-- The headers of a request with one `Range` header. -/
def request (spec : RangeSpec) : List Header := [⟨Header.rangeName, spec.text⟩]

/-- `bytes=1-2` is answered exactly. -/
theorem rangeExact_between : ∃ r,
    assetReply (request (.between (digit '1' rfl) (digit '2' rfl)))
      (Reply.stock .ok none).reset texture = .done r ∧
    RangeExact [1, 2, 3, 4] (.between (digit '1' rfl) (digit '2' rfl)) r := by
  have hholds : texture.Holds [1, 2, 3, 4] := rfl
  exact (rangeExact_iff hholds (by simp [request]) _).mpr fun _ => trivial

/-- `bytes=-1` is answered with the first two bytes, not with the last. -/
theorem not_rangeExact_suffix : ∃ r,
    assetReply (request (.suffix (digit '1' rfl))) (Reply.stock .ok none).reset texture =
      .done r ∧
    r.status = .partialContent ∧ r.content = [1, 2] ∧
    ¬ RangeExact [1, 2, 3, 4] (.suffix (digit '1' rfl)) r := by
  refine ⟨_, rfl, rfl, rfl, fun h => ?_⟩
  obtain ⟨first, last, -, hle, hlt, hcontains, hcontent, -⟩ := h.1 rfl
  have hfirst : 4 ≤ first + 1 :=
    (hcontains first (Nat.lt_of_le_of_lt hle hlt)).mpr ⟨Nat.le_refl _, hle⟩
  obtain rfl : first = 3 := by
    simp only [List.length_cons, List.length_nil] at hlt
    omega
  exact absurd (congrArg List.length hcontent) (by simp; decide)

end RangeSample

end Halcyon.Aperture
