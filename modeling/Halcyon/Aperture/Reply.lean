import Halcyon.Aperture.Asset

/-!
# Texts, numbers, requests and replies

What the request handler and the connection share: the text conversions of `lexical_cast`, headers,
and `reply` with its stock replies.

A `std::string` that is looked at character by character is a list of characters; the content of a
reply is a list of bytes.  `lexical_cast` to a number takes an optional sign and decimal digits,
nothing else, and fails where the number does not fit its type.
-/

namespace Halcyon.Aperture

open Halcyon.Lib Halcyon.Whip

/-- A `std::string` that the code takes apart. -/
abbrev Text := List Char

/-! ## Numbers as texts -/

/-- `lexical_cast<std::string>` of an unsigned number. -/
def numberText (n : Nat) : Text := Nat.toDigits 10 n

/-- The number that a row of digits stands for. -/
def digitsValue (digits : Text) : Nat :=
  digits.foldl (fun n d => 10 * n + (d.toNat - '0'.toNat)) 0

/-- A number is a row of digits that is not empty. -/
def readDigits (digits : Text) : Option Nat :=
  if digits ≠ [] ∧ digits.all Char.isDigit then some (digitsValue digits) else none

/-- `lexical_cast<unsigned int>`: a minus sign negates modulo `2 ^ 32`. -/
def lexicalCastUInt : Text → Option Nat
  | '+' :: digits => (readDigits digits).filter (· < 2 ^ 32)
  | '-' :: digits => ((readDigits digits).filter (· < 2 ^ 32)).map fun n => (2 ^ 32 - n) % 2 ^ 32
  | digits => (readDigits digits).filter (· < 2 ^ 32)

/-- `lexical_cast<int>`. -/
def lexicalCastInt : Text → Option Int
  | '+' :: digits => ((readDigits digits).filter (· < 2 ^ 31)).map Int.ofNat
  | '-' :: digits => ((readDigits digits).filter (· ≤ 2 ^ 31)).map fun n => -(n : Int)
  | digits => ((readDigits digits).filter (· < 2 ^ 31)).map Int.ofNat

/-- `lexical_cast` where the failure is thrown. -/
def castOrThrow {α : Type} (n : Option α) : Access Exn α :=
  match n with
  | some n => pure n
  | none => throw .badLexicalCast

/-- A row of digits, not empty. -/
structure Digits where
  chars : Text
  ne_nil : chars ≠ []
  isDigit : chars.all Char.isDigit = true

/-- The number the digits stand for. -/
def Digits.value (d : Digits) : Nat := digitsValue d.chars

lemma Digits.not_mem (d : Digits) {c : Char} (hc : c.isDigit = false) : c ∉ d.chars := by
  intro hmem
  have := List.all_eq_true.mp d.isDigit c hmem
  rw [hc] at this
  exact absurd this (by decide)

lemma lexicalCastUInt_digits (d : Digits) :
    lexicalCastUInt d.chars = if d.value < 2 ^ 32 then some d.value else none := by
  have hread : readDigits d.chars = some d.value := if_pos ⟨d.ne_nil, d.isDigit⟩
  have hcast : lexicalCastUInt d.chars = (readDigits d.chars).filter (· < 2 ^ 32) := by
    unfold lexicalCastUInt
    split
    · rename_i h
      exact absurd (h ▸ List.mem_cons_self) (d.not_mem (c := '+') rfl)
    · rename_i h
      exact absurd (h ▸ List.mem_cons_self) (d.not_mem (c := '-') rfl)
    · rfl
  rw [hcast, hread, Option.filter_some]
  simp only [decide_eq_true_eq]

/-! ## Headers and replies -/

/-- `header`. -/
structure Header where
  name : Text
  value : Text
  deriving DecidableEq

namespace Header

/-- The names of headers that the code reads or writes. -/
def rangeName : Text := "Range".toList

@[inherit_doc rangeName]
def connectionName : Text := "Connection".toList

/-- The header with the length of the content. -/
def contentLength (content : Bytes) : Header := ⟨"Content-Length".toList, numberText content.length⟩

/-- The header with the type of the content. -/
def contentType (type : Text) : Header := ⟨"Content-Type".toList, type⟩

/-- The header that says which part of the data the content is. -/
def contentRange (first last total : Nat) : Header where
  name := "Content-Range".toList
  value := "bytes ".toList ++ numberText first ++ ['-'] ++ numberText last ++ ['/'] ++
    numberText total

end Header

/-- `reply::status_type`. -/
inductive Status
  | ok
  | created
  | accepted
  | noContent
  | partialContent
  | multipleChoices
  | movedPermanently
  | movedTemporarily
  | notModified
  | badRequest
  | unauthorized
  | forbidden
  | notFound
  | rangeError
  | internalServerError
  | notImplemented
  | badGateway
  | serviceUnavailable
  deriving DecidableEq

namespace Status

/-- The numbers of the enumeration. -/
def code : Status → Nat
  | ok => 200
  | created => 201
  | accepted => 202
  | noContent => 204
  | partialContent => 206
  | multipleChoices => 300
  | movedPermanently => 301
  | movedTemporarily => 302
  | notModified => 304
  | badRequest => 400
  | unauthorized => 401
  | forbidden => 403
  | notFound => 404
  | rangeError => 416
  | internalServerError => 500
  | notImplemented => 501
  | badGateway => 502
  | serviceUnavailable => 503

/-- The status says that the request succeeded. -/
def isSuccess (s : Status) : Bool := 200 ≤ s.code && s.code < 300

/-- `stock_replies::to_string`: the switch has no case for `partial_content` and `range_error`. -/
def stockText : Status → String
  | ok => ""
  | created => page "Created" "201 Created"
  | accepted => page "Accepted" "202 Accepted"
  | noContent => page "No Content" "204 Content"
  | multipleChoices => page "Multiple Choices" "300 Multiple Choices"
  | movedPermanently => page "Moved Permanently" "301 Moved Permanently"
  | movedTemporarily => page "Moved Temporarily" "302 Moved Temporarily"
  | notModified => page "Not Modified" "304 Not Modified"
  | badRequest => page "Bad Request" "400 Bad Request"
  | unauthorized => page "Unauthorized" "401 Unauthorized"
  | forbidden => page "Forbidden" "403 Forbidden"
  | notFound => page "Not Found" "404 Not Found"
  | notImplemented => page "Not Implemented" "501 Not Implemented"
  | badGateway => page "Bad Gateway" "502 Bad Gateway"
  | serviceUnavailable => page "Service Unavailable" "503 Service Unavailable"
  | partialContent | rangeError | internalServerError =>
    page "Internal Server Error" "500 Internal Server Error"
where
  page (title heading : String) : String :=
    "<html><head><title>" ++ title ++ "</title></head><body><h1>" ++ heading ++
      "</h1></body></html>"

end Status

/-- `reply`: `token` names the capability whose bandwidth the reply uses. -/
structure Reply where
  status : Status
  headers : List Header
  content : Bytes
  token : Text
  deriving DecidableEq

namespace Reply

/-- `reset`: the token of the previous reply stays. -/
def reset (rep : Reply) : Reply := { rep with status := .ok, content := [], headers := [] }

/-- `stock_reply`, with the additional header if there is one. -/
def stock (status : Status) (addnlHeader : Option Header) : Reply where
  status := status
  headers := [.contentLength status.stockText.toUTF8.data.toList,
    .contentType "text/html".toList] ++ addnlHeader.toList
  content := status.stockText.toUTF8.data.toList
  token := []

end Reply

/-! ## Requests -/

/-- `request`. -/
structure Request where
  method : Text
  uri : Text
  httpVersionMajor : Int
  httpVersionMinor : Int
  headers : List Header
  isReady : Bool
  isBad : Bool
  deriving DecidableEq

namespace Request

/-- `init_new_request`: the version is set when it is read. -/
def new : Request := ⟨[], [], 0, 0, [], false, false⟩

/-- `header_value`: the value of the first header with the name, or an empty text. -/
def headerValue (req : Request) (name : Text) : Text :=
  ((req.headers.find? fun h => decide (h.name = name)).map Header.value).getD []

end Request

end Halcyon.Aperture
