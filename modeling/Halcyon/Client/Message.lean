import Halcyon.Lib.Outcome
import Halcyon.Whip.Message

/-!
# What the .NET client reads from its socket

The client of the asset service reads a response in two parts, a header of 37 bytes and as much
data as the header says, and makes an asset of the data that a get returns.  Before that it answers
the challenge of the server and reads the status of its authentication.  All of these are
constructors that read from a socket and throw.

The socket is given by the pieces that `Receive` returns one after the other.  A piece may be longer
than what is asked for, then the rest stays for the next read; an empty piece means that the server
has closed the connection, and behind the last piece `Receive` throws.
-/

namespace Halcyon.Client

open Halcyon.Lib Halcyon.Whip

/-- The exceptions that the client throws or has to expect. -/
inductive ClientException
  | socketException
  | assetServerError (message : String)
  | assetProtocolError (message : String)
  | authException (message : String)
  | invalidOperationException
  | argumentException
  | indexOutOfRangeException
  | outOfMemoryException
  deriving DecidableEq

/-- `AppendableByteArray.AppendFromSocket`, the number of bytes that are still missing first. -/
def appendFromSocket : Nat → List Bytes → Except ClientException (Bytes × List Bytes)
  | 0, ps => .ok ([], ps)
  | _ + 1, [] => .error .socketException
  | n + 1, p :: ps =>
    if p = [] then .error (.assetServerError "Server disconnect during receive")
    else if p.length ≤ n + 1 then do
      let (rest, ps) ← appendFromSocket (n + 1 - p.length) ps
      return (p ++ rest, ps)
    else .ok (p.take (n + 1), p.drop (n + 1) :: ps)

/-! ## Responses -/

/-- `MAX_DATA_SIZE`: 48 MB. -/
def maxDataSize : Nat := 50331648

/-- The value of four bytes in network order as an `int`. -/
def ntohlInt (bytes : Bytes) : Int :=
  if ntohl bytes < 2 ^ 31 then ntohl bytes else ntohl bytes - 2 ^ 32

variable {n : Nat}

lemma ntohlInt_htonl (h : n < 2 ^ 31) : ntohlInt (htonl n) = n := by
  rw [ntohlInt, ntohl_htonl (by omega), if_pos h]

/-- `GetHeaderSummary`. -/
def getHeaderSummary (header : Bytes) : String :=
  " Status: " ++ toString (header.headD 0).toNat ++ " Size was: " ++
    toString (ntohlInt ((header.drop 33).take 4))

/-- `ServerResponseMsg`, with a status that its constructor accepts. -/
structure ServerResponseMsg where
  status : ResponseCode
  assetUUID : Bytes
  data : Bytes
  deriving DecidableEq

/-- The constructor of `ServerResponseMsg`. -/
def readServerResponseMsg (pieces : List Bytes) :
    Except ClientException (ServerResponseMsg × List Bytes) := do
  let (header, pieces) ← appendFromSocket headerSize pieces
  let some status := getResponseCode header
    | throw (.assetProtocolError
        ("Invalid result type in server response: " ++ getHeaderSummary header))
  let dataSize := ntohlInt ((header.drop 33).take 4)
  if dataSize > maxDataSize ∨ dataSize < 0 then
    throw (.assetProtocolError
      ("Returned data was too long in response: " ++ getHeaderSummary header))
  let (data, pieces) ← appendFromSocket dataSize.toNat pieces
  return (⟨status, getUUID header, data⟩, pieces)

/-- The exceptions for which the receive loop has a handler. -/
def ClientException.Handled : ClientException → Prop
  | .socketException | .assetServerError _ | .assetProtocolError _ => True
  | _ => False

lemma ends_appendFromSocket (n : Nat) (pieces : List Bytes) :
    Ends ClientException.Handled (fun _ => True) (appendFromSocket n pieces) := by
  induction pieces generalizing n with
  | nil => cases n <;> trivial
  | cons p ps ih =>
    cases n with
    | zero => trivial
    | succ n =>
      rw [appendFromSocket]
      split_ifs
      · trivial
      · exact (ih _).bind fun _ _ => trivial
      · trivial

/-- Reading a response throws nothing that the receive loop does not handle. -/
lemma ends_readServerResponseMsg (pieces : List Bytes) :
    Ends ClientException.Handled (fun _ => True) (readServerResponseMsg pieces) := by
  refine (ends_appendFromSocket _ _).bind fun r _ => ?_
  dsimp only
  split
  · split_ifs
    · trivial
    · exact (ends_appendFromSocket _ _).bind fun _ _ => trivial
  · trivial

/-! ## Assets -/

/-- `Asset`; names and descriptions are kept as the bytes they are decoded from. -/
structure Asset where
  uuid : Bytes
  type : UInt8
  isLocal : Bool
  temporary : Bool
  createTime : Int
  name : Bytes
  description : Bytes
  data : Bytes
  deriving DecidableEq

/-- An element of an array. -/
def elementAt (data : Bytes) (i : Nat) : Except ClientException UInt8 :=
  match data[i]? with
  | some b => .ok b
  | none => .error .indexOutOfRangeException

/-- `n` elements of an array, as `Array.Copy`, `GetString` and `ToInt32` take them. -/
def elementsAt (data : Bytes) (i n : Nat) : Except ClientException Bytes :=
  if i + n ≤ data.length then .ok ((data.drop i).take n) else .error .argumentException

/-- A field that may be empty; then nothing is read. -/
def fieldAt (data : Bytes) (i n : Nat) : Except ClientException Bytes :=
  if n > 0 then elementsAt data i n else .ok []

/-- `NAME_SIZE_TAG_LOC`. -/
def nameSizeTagLoc : Nat := 39

/-- The constructor of `Asset` for what the server has sent. -/
def constructAsset (data : Bytes) : Except ClientException Asset := do
  let uuid ← elementsAt data 0 32
  let type ← elementAt data 32
  let isLocal ← elementAt data 33
  let temporary ← elementAt data 34
  let createTime ← elementsAt data 35 4
  let nameFieldSize ← elementAt data nameSizeTagLoc
  let name ← fieldAt data (nameSizeTagLoc + 1) nameFieldSize.toNat
  let descSizeFieldLoc := nameSizeTagLoc + nameFieldSize.toNat + 1
  let descFieldSize ← elementAt data descSizeFieldLoc
  let description ← fieldAt data (descSizeFieldLoc + 1) descFieldSize.toNat
  let dataSizeFieldLoc := descSizeFieldLoc + descFieldSize.toNat + 1
  let dataSize ← elementsAt data dataSizeFieldLoc 4
  let dataLoc := dataSizeFieldLoc + 4
  let content ← fieldAt data dataLoc (ntohlInt dataSize).toNat
  return ⟨uuid, type, isLocal = 1, temporary = 1, ntohlInt createTime, name, description, content⟩

/-- The fields of an asset lie inside the data. -/
def HoldsAsset (data : Bytes) : Prop :=
  ∃ nameSize descSize, data[nameSizeTagLoc]? = some nameSize ∧
    data[nameSizeTagLoc + nameSize.toNat + 1]? = some descSize ∧
    (let dataSizeFieldLoc := nameSizeTagLoc + nameSize.toNat + 1 + descSize.toNat + 1
     dataSizeFieldLoc + 4 + (ntohlInt ((data.drop dataSizeFieldLoc).take 4)).toNat ≤ data.length)

variable {data : Bytes} {i : Nat}

lemma elementAt_eq_ok {b : UInt8} :
    elementAt data i = .ok b ↔ data[i]? = some b := by
  unfold elementAt
  cases data[i]? <;> simp

lemma elementsAt_of_le (h : i + n ≤ data.length) :
    elementsAt data i n = .ok ((data.drop i).take n) := if_pos h

lemma fieldAt_of_le (h : i + n ≤ data.length) :
    fieldAt data i n = .ok ((data.drop i).take n) := by
  unfold fieldAt
  split_ifs with hn
  · exact elementsAt_of_le h
  · rw [Nat.eq_zero_of_not_pos hn, List.take_zero]

lemma elementAt_of_lt (h : i < data.length) :
    ∃ b, elementAt data i = .ok b :=
  ⟨data[i], elementAt_eq_ok.mpr (List.getElem?_eq_getElem h)⟩

/-- Data whose fields lie inside it makes an asset. -/
lemma constructAsset_isOk (h : HoldsAsset data) :
    ∃ a, constructAsset data = .ok a := by
  obtain ⟨nameSize, descSize, hname, hdesc, hsize⟩ := h
  dsimp only at hsize
  have hloc : nameSizeTagLoc = 39 := rfl
  obtain ⟨b32, h32⟩ := elementAt_of_lt (by omega : 32 < data.length)
  obtain ⟨b33, h33⟩ := elementAt_of_lt (by omega : 33 < data.length)
  obtain ⟨b34, h34⟩ := elementAt_of_lt (by omega : 34 < data.length)
  unfold constructAsset
  rw [elementsAt_of_le (by omega), ok_bind, h32, ok_bind, h33, ok_bind, h34, ok_bind,
    elementsAt_of_le (by omega), ok_bind, elementAt_eq_ok.mpr hname, ok_bind,
    fieldAt_of_le (by omega), ok_bind]
  dsimp only
  rw [elementAt_eq_ok.mpr hdesc, ok_bind, fieldAt_of_le (by omega), ok_bind,
    elementsAt_of_le (by omega), ok_bind, fieldAt_of_le (by omega), ok_bind]
  exact ⟨_, rfl⟩

/-! ## Authentication -/

/-- The loop in the constructor of `AuthChallenge`, with the number of bytes read before: an
identifier and seven bytes of challenge. -/
def readAuthChallenge : Nat → List Bytes → Except ClientException (Bytes × List Bytes)
  | soFar, pieces =>
    if soFar ≥ 8 then .ok ([], pieces)
    else
      match pieces with
      | [] => .error .socketException
      | p :: ps =>
        if p = [] then .error (.authException "Disconnect during authentication")
        else if soFar = 0 ∧ p.head? ≠ some 0 then
          .error (.authException "Invalid challenge packet header")
        else if p.length ≤ 8 - soFar then do
          let (rest, ps) ← readAuthChallenge (soFar + p.length) ps
          return (p ++ rest, ps)
        else .ok (p.take (8 - soFar), p.drop (8 - soFar) :: ps)

/-- The loop in the constructor of `AuthStatus`.  Every read has room for the whole message, so that
one behind the first byte may return more than what is missing. -/
def readAuthStatus : Nat → List Bytes → Except ClientException (Bytes × List Bytes)
  | soFar, pieces =>
    if soFar ≥ 2 then .ok ([], pieces)
    else
      match pieces with
      | [] => .error .socketException
      | p :: ps =>
        if p = [] then .error (.authException "Disconnect during authentication")
        else if soFar = 0 ∧ p.head? ≠ some 1 then
          .error (.authException "Invalid challenge packet header")
        else if soFar + (p.take 2).length > 2 then .error .argumentException
        else if p.length ≤ 2 then do
          let (rest, ps) ← readAuthStatus (soFar + p.length) ps
          return (p ++ rest, ps)
        else .ok (p.take 2, p.drop 2 :: ps)

/-- The exchange in `Connect` behind the connection of the socket; sending the response to the
challenge may fail. -/
def authenticate (pieces : List Bytes) (sendFails : Bool) :
    Except ClientException (List Bytes) := do
  let (_, pieces) ← readAuthChallenge 0 pieces
  if sendFails then throw .socketException
  let (status, pieces) ← readAuthStatus 0 pieces
  if status[1]? ≠ some 0 then throw (.authException "Authentication failed, bad password")
  return pieces

/-- The server sends a challenge and accepts the response to it, or the socket fails before; it
neither closes the connection nor sends anything else. -/
def Welcoming (pieces : List Bytes) : Prop :=
  [] ∉ pieces ∧ ∃ challenge : Bytes, challenge.length = 7 ∧
    pieces.flatten <+: (0 :: challenge) ++ [1, 0]

/-- The socket has failed. -/
abbrev SocketFails (e : ClientException) : Prop := e = .socketException

lemma head?_of_flatten {p : Bytes} {ps : List Bytes} {b : UInt8} {l : Bytes} (hp : p ≠ [])
    (h : (p :: ps).flatten <+: b :: l) : p.head? = some b := by
  cases p with
  | nil => exact absurd rfl hp
  | cons c p =>
    rw [List.flatten_cons, List.cons_append, List.cons_prefix_cons] at h
    rw [h.1]
    rfl

variable {pieces : List Bytes}

lemma ends_readAuthChallenge {soFar : Nat} {msg rest : Bytes} (hpieces : [] ∉ pieces)
    (hmsg : msg.length = 8 - soFar) (hfirst : soFar = 0 → msg.head? = some 0)
    (h : pieces.flatten <+: msg ++ rest) :
    Ends SocketFails (fun r => [] ∉ r.2 ∧ r.2.flatten <+: rest)
      (readAuthChallenge soFar pieces) := by
  induction pieces generalizing soFar msg with
  | nil =>
    unfold readAuthChallenge
    split_ifs
    · exact ⟨hpieces, List.nil_prefix⟩
    · exact rfl
  | cons p ps ih =>
    obtain ⟨hp, hps⟩ : p ≠ [] ∧ [] ∉ ps := by
      simpa [eq_comm] using hpieces
    unfold readAuthChallenge
    by_cases hdone : soFar ≥ 8
    · rw [if_pos hdone]
      have hnil : msg = [] := List.length_eq_zero_iff.mp (by omega)
      rw [hnil] at h
      exact ⟨hpieces, h⟩
    · rw [if_neg hdone]
      dsimp only
      have hhead : ¬ (soFar = 0 ∧ p.head? ≠ some 0) := by
        rintro ⟨hzero, hne⟩
        obtain ⟨msg', rfl⟩ : ∃ msg', msg = 0 :: msg' := by
          cases msg with
          | nil => cases hfirst hzero
          | cons b msg' =>
            obtain rfl := Option.some.inj (hfirst hzero)
            exact ⟨msg', rfl⟩
        exact hne (head?_of_flatten hp h)
      rw [if_neg hp, if_neg hhead]
      rw [List.flatten_cons] at h
      split_ifs with hlen
      · -- The piece is a beginning of the message; the rest is read from the others.
        obtain ⟨msg', rfl⟩ : p <+: msg :=
          List.prefix_of_prefix_length_le ((List.prefix_append _ _).trans h)
            (List.prefix_append _ _) (by omega)
        rw [List.append_assoc, List.prefix_append_right_inj] at h
        have hpos : 0 < p.length := List.length_pos_iff.mpr hp
        rw [List.length_append] at hmsg
        exact (ih hps (by omega) (fun h0 => by omega) h).bind fun r hr => hr
      · obtain ⟨more, rfl⟩ : msg <+: p :=
          List.prefix_of_prefix_length_le (List.prefix_append _ _)
            ((List.prefix_append _ _).trans h) (by omega)
        rw [List.append_assoc, List.prefix_append_right_inj] at h
        have hmore : more ≠ [] := by
          rintro rfl
          rw [List.append_nil] at hlen
          omega
        refine ⟨?_, ?_⟩
        · simpa [← hmsg, eq_comm] using ⟨hmore, hps⟩
        · simpa [← hmsg] using h

lemma ends_readAuthStatus {soFar : Nat} {msg : Bytes} (hpieces : [] ∉ pieces)
    (hmsg : msg.length = 2 - soFar) (hfirst : soFar = 0 → msg.head? = some 1)
    (h : pieces.flatten <+: msg) :
    Ends SocketFails (fun r => r.1 = msg) (readAuthStatus soFar pieces) := by
  induction pieces generalizing soFar msg with
  | nil =>
    unfold readAuthStatus
    split_ifs with hdone
    · exact (List.length_eq_zero_iff.mp (by omega)).symm
    · exact rfl
  | cons p ps ih =>
    obtain ⟨hp, hps⟩ : p ≠ [] ∧ [] ∉ ps := by
      simpa [eq_comm] using hpieces
    have hpos : 0 < p.length := List.length_pos_iff.mpr hp
    have hle := h.length_le
    rw [List.flatten_cons, List.length_append] at hle
    unfold readAuthStatus
    have hdone : ¬ soFar ≥ 2 := by omega
    rw [if_neg hdone]
    dsimp only
    have hhead : ¬ (soFar = 0 ∧ p.head? ≠ some 1) := by
      rintro ⟨hzero, hne⟩
      obtain ⟨msg', rfl⟩ : ∃ msg', msg = 1 :: msg' := by
        cases msg with
        | nil => cases hfirst hzero
        | cons b msg' =>
          obtain rfl := Option.some.inj (hfirst hzero)
          exact ⟨msg', rfl⟩
      exact hne (head?_of_flatten hp h)
    have hroom : ¬ soFar + (p.take 2).length > 2 := by
      rw [List.length_take]
      omega
    rw [if_neg hp, if_neg hhead, if_neg hroom, if_pos (by omega)]
    rw [List.flatten_cons] at h
    obtain ⟨msg', rfl⟩ : p <+: msg := (List.prefix_append _ _).trans h
    rw [List.prefix_append_right_inj] at h
    rw [List.length_append] at hmsg
    exact (ih hps (by omega) (fun h0 => by omega) h).bind fun r hr => congrArg (p ++ ·) hr

/-- With a server that lets the client in, only the socket can fail. -/
lemma ends_authenticate (h : Welcoming pieces) (sendFails : Bool) :
    Ends SocketFails (fun _ => True) (authenticate pieces sendFails) := by
  obtain ⟨hpieces, challenge, hlength, hbegins⟩ := h
  refine (ends_readAuthChallenge hpieces (by simp [hlength]) (fun _ => rfl) hbegins).bind ?_
  rintro ⟨_, rest⟩ ⟨hrest, hstatus⟩
  dsimp only
  cases sendFails with
  | true => exact rfl
  | false =>
    refine (ends_readAuthStatus hrest rfl (fun _ => rfl) hstatus).bind ?_
    rintro ⟨status, left⟩ rfl
    trivial

end Halcyon.Client
